import Reassembly.Proofs.Delivery

namespace Reassembly
namespace Sink

/-!
# Messages are isolated from each other

When the last frame that a sink accepted was final or failed, the sink is a new
sink but for its handler: nothing is held and nothing is counted, whichever way
the message ended.  So whatever comes next fares as it would with a new sink in
the same session and with a handler in the same state, and a run may be cut
there and its two parts looked at one by one (`run_append_of_ended`).

What a run does next never depends on its receipts (`Run.steps_eq`).  This is
all that is to be added to the equation of sinks.
-/

variable {σ : Type}

namespace Run

/-- Where a run goes and what it leaves on the way is decided by its session
and its sink. -/
theorem steps_eq (run : Run σ) (steps : List Step) :
    let anew := Sink.run run.session run.sink steps
    run.steps steps = ⟨anew.session, anew.sink, run.receipts ++ anew.receipts⟩ := by
  intro anew
  induction steps using List.reverseRecOn with
  | nil =>
      show run = ⟨run.session, run.sink, run.receipts ++ #[]⟩
      rw [Array.append_empty]
  | append_singleton steps step ih =>
      let reached := Sink.run run.session run.sink steps
      have further : anew = reached.step step := run_append _ _ steps [step]
      rw [steps_append, ih, further]
      cases step with
      | setLimit raw => rfl
      | accept frame =>
          rw [steps_cons, steps_nil, step_accept, step_accept, Array.push_append]

/-- The effects of a run are those of its receipts, in order. -/
theorem journal_eq (run : Run σ) :
    run.journal = .joined (run.receipts.toList.map Receipt.journal) := by
  have folded := Journal.foldl_append .empty (run.receipts.toList.map Receipt.journal)
  rw [List.foldl_map, Array.foldl_toList, Journal.empty_append] at folded
  exact folded

end Run

/-- After a frame that ends its message a sink is new but for its handler. -/
theorem sink_run_of_ended (session : Session) (handler : Handler σ) (steps : List Step)
    {last : Receipt}
    (latest : (run session (new handler) steps).receipts.toList.getLast? = some last)
    (ended : last.endsMessage = true) :
    (run session (new handler) steps).sink =
      new (run session (new handler) steps).sink.handler := by
  have kept := accumulator_run session handler steps
  rcases List.getLast?_eq_some_iff.mp latest with ⟨before, split⟩
  rw [split, leftOver_append_singleton, carry, if_pos ended, Accumulator.holding_empty] at kept
  rcases reached : (run session (new handler) steps).sink with ⟨handler, accumulator⟩
  rw [reached] at kept
  exact congrArg (Sink.mk handler) kept

/-- After a frame that ended its message, be it final or failed, nothing is
held.  The sink goes on like a new one that shares the session and has the
handler, which has answered the deliveries so far: a run is one run up to there
and a run of the new sink behind it. -/
theorem run_append_of_ended (session : Session) (handler : Handler σ) (before : List Step)
    {last : Receipt}
    (latest : (run session (new handler) before).receipts.toList.getLast? = some last)
    (ended : last.frame.isFinal = true ∨ last.outcome.isOk = false) :
    let earlier := run session (new handler) before
    let renewed := new (handler.after earlier.journal.deliveries.toList)
    (earlier.sink.accumulator = (new handler).accumulator ∧
        earlier.sink.accumulator.buffer = none ∧ earlier.sink.accumulator.size = 0 ∧
        earlier.sink.isAccumulating = false ∧ earlier.sink.bufferedSize = 0) ∧
      earlier.sink = renewed ∧
      ∀ after : List Step,
        let whole := run session (new handler) (before ++ after)
        let anew := run earlier.session renewed after
        whole.session = anew.session ∧ whole.sink = anew.sink ∧
          whole.receipts = earlier.receipts ++ anew.receipts ∧
          whole.outcomes = earlier.outcomes ++ anew.outcomes ∧
          whole.journal = earlier.journal ++ anew.journal := by
  intro earlier renewed
  have ends : last.endsMessage = true := by
    rcases ended with final | failed
    · rw [Receipt.endsMessage, final, Bool.true_or]
    · rw [Receipt.endsMessage, failed, Bool.not_false, Bool.or_true]
  have answered : earlier.sink.handler = handler.after earlier.journal.deliveries.toList :=
    handler_run session handler before
  have restored : earlier.sink = renewed := by
    rw [show renewed = new earlier.sink.handler from congrArg new answered.symm]
    exact sink_run_of_ended session handler before latest ends
  refine ⟨?_, restored, ?_⟩
  · rw [restored]
    exact ⟨rfl, rfl, rfl, rfl, rfl⟩
  · intro after whole anew
    have cut : whole = ⟨anew.session, anew.sink, earlier.receipts ++ anew.receipts⟩ := by
      have further := earlier.steps_eq after
      rw [restored] at further
      exact (run_append session (new handler) before after).trans further
    have receipts : whole.receipts = earlier.receipts ++ anew.receipts := by rw [cut]
    refine ⟨by rw [cut], by rw [cut], receipts, ?_, ?_⟩
    · rw [Run.outcomes, receipts, Array.toList_append, List.map_append, Run.outcomes, Run.outcomes]
    · rw [Run.journal_eq, receipts, Array.toList_append, List.map_append, Journal.joined_append,
        ← Run.journal_eq, ← Run.journal_eq]

/-- Two bytes and two more, under a limit of three: the second frame is refused
with two bytes held, and the third one is delivered as it would be to a new
sink. -/
theorem nothing_of_refused_message_is_left :
    let before := [.accept (.binary ⟨#[1, 2]⟩), .accept (.continuation ⟨#[3, 4]⟩)]
    let after := [.accept ((Frame.continuation ⟨#[5]⟩).withFinal true)]
    let earlier := run ⟨3⟩ (new Handler.accepting) before
    let anew := run ⟨3⟩ (new Handler.accepting) after
    (∃ last, earlier.receipts.toList.getLast? = some last ∧
        (last.frame.isFinal = true ∨ last.outcome.isOk = false)) ∧
      earlier.sink.bufferedSize = 0 ∧ anew.journal.deliveries = #[.whole ⟨#[5]⟩] ∧
      (run ⟨3⟩ (new Handler.accepting) (before ++ after)).journal =
        earlier.journal ++ anew.journal := by
  intro before after earlier anew
  have law := run_append_of_ended ⟨3⟩ Handler.accepting before rfl (Or.inr rfl)
  exact ⟨⟨_, rfl, Or.inr rfl⟩, law.1.2.2.2.2, by decide, (law.2.2 after).2.2.2.2⟩

end Sink
end Reassembly
