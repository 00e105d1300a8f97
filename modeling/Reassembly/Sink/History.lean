import Reassembly.Sink.Run

namespace Reassembly

/-!
# The accumulator as a function of the history

What a sink has collected is no secret of its own: it is determined by the
receipts of its run.  `leftOver` reads it off them, as the payloads of the
frames since a message last ended.  `Accumulator.holding` is the accumulator
that has collected given bytes, and the main statement `accumulator_run` says
that a sink started empty always stands at the accumulator holding what its
history left over.

In particular the count never loses a byte that the buffer has, no buffer is
kept for nothing, and a run may be resumed from its left-over bytes alone.
-/

namespace Accumulator

/-- The accumulator that has collected exactly these bytes. -/
def holding (bytes : ByteArray) : Accumulator :=
  if bytes.size = 0 then empty else ⟨some bytes, advance 0 bytes.size⟩

@[simp] theorem holding_empty : holding ByteArray.empty = empty :=
  if_pos rfl

theorem holding_of_ne {bytes : ByteArray} (some_bytes : bytes ≠ ByteArray.empty) :
    holding bytes = ⟨some bytes, advance 0 bytes.size⟩ :=
  if_neg (mt ByteArray.size_eq_zero_iff.mp some_bytes)

@[simp] theorem message_holding (bytes : ByteArray) : (holding bytes).message = bytes := by
  by_cases none_there : bytes = ByteArray.empty
  · rw [none_there, holding_empty]
    rfl
  · rw [holding_of_ne none_there]
    rfl

theorem toNat_size_holding (bytes : ByteArray) :
    (holding bytes).size.toNat = min bytes.size maxSize := by
  by_cases none_there : bytes = ByteArray.empty
  · rw [none_there, holding_empty]
    rfl
  · rw [holding_of_ne none_there, toNat_advance]
    exact congrArg (min · maxSize) (Nat.zero_add bytes.size)

theorem advance_holding (bytes : ByteArray) (more : Nat) :
    advance (holding bytes).size more = advance 0 (bytes.size + more) :=
  advance_of_toNat_eq (toNat_size_holding bytes) more

/-- A frame that is taken in adds its bytes to those held. -/
theorem receive_holding {bytes : ByteArray} {frame : Frame} {limit : SizeLimit}
    {next : Accumulator} (received : (holding bytes).receive frame limit = .ok next) :
    next = holding (bytes ++ frame.bytes) := by
  cases carries : frame.hasPayload with
  | false =>
      rw [receive_of_bare carries] at received
      rw [Frame.bytes_of_hasPayload_eq_false carries, ByteArray.append_empty]
      exact (Except.ok.inj received).symm
  | true =>
      rw [receive_of_hasPayload carries] at received
      have payload_there := (Frame.hasPayload_iff frame).mp carries
      have all_there : bytes ++ frame.bytes ≠ ByteArray.empty := by
        intro none_there
        exact payload_there (ByteArray.append_eq_empty_iff.mp none_there).2
      rw [append_eq_ok received, message_holding, advance_holding, holding_of_ne all_there,
        ByteArray.size_append]

end Accumulator

namespace Sink

/-- What one more receipt makes of the bytes left over so far. -/
def carry (bytes : ByteArray) (receipt : Receipt) : ByteArray :=
  if receipt.endsMessage then ByteArray.empty else bytes ++ receipt.frame.bytes

/-- The payloads of the frames since a message last ended. -/
def leftOver (history : List Receipt) : ByteArray :=
  history.foldl carry ByteArray.empty

theorem leftOver_append_singleton (history : List Receipt) (receipt : Receipt) :
    leftOver (history ++ [receipt]) = carry (leftOver history) receipt := by
  rw [leftOver, List.foldl_append]
  rfl

variable {σ : Type}

/-- One frame moves the accumulator as its receipt moves the left-over
bytes. -/
theorem accumulator_accept {sink : Sink σ} {bytes : ByteArray}
    (held : sink.accumulator = .holding bytes) (session : Session) (frame : Frame)
    (rawLimit : Int64) (journal : Journal) :
    (sink.accept session frame).sink.accumulator =
      .holding (carry bytes ⟨frame, rawLimit, (sink.accept session frame).outcome, journal⟩) := by
  cases last : frame.isFinal with
  | true =>
      rw [accumulator_accept_of_final sink session last]
      simp only [carry, Receipt.endsMessage, last, Bool.true_or, if_true,
        Accumulator.holding_empty]
  | false =>
      cases ended : (sink.accept session frame).outcome.isOk with
      | false =>
          rw [accumulator_accept_of_failed sink session frame ended]
          simp only [carry, Receipt.endsMessage, last, ended, Bool.not_false, Bool.or_true,
            if_true, Accumulator.holding_empty]
      | true =>
          have kept : carry bytes
              ⟨frame, rawLimit, (sink.accept session frame).outcome, journal⟩ =
                bytes ++ frame.bytes := by
            simp only [carry, Receipt.endsMessage, last, ended, Bool.not_true, Bool.or_false,
              Bool.false_eq_true, if_false]
          rw [kept, sink_accept]
          rw [outcome_accept] at ended
          cases received : sink.accumulator.receive frame session.limit with
          | error error =>
              rw [process_of_refused received] at ended
              cases ended
          | ok accumulator =>
              rw [process_of_not_final received last]
              rw [held] at received
              exact Accumulator.receive_holding received

namespace Run

/-- The sink of a run stands where its history left it. -/
def IsKept (run : Run σ) : Prop :=
  run.sink.accumulator = .holding (leftOver run.receipts.toList)

theorem IsKept.step {run : Run σ} (kept : run.IsKept) (step : Step) : (run.step step).IsKept := by
  cases step with
  | setLimit raw => exact kept
  | accept frame =>
      have grown := accumulator_accept kept run.session frame run.session.rawLimit
        (run.sink.accept run.session frame).journal
      rw [← leftOver_append_singleton, ← Array.toList_push] at grown
      exact grown

theorem IsKept.steps {run : Run σ} (kept : run.IsKept) (steps : List Step) :
    (run.steps steps).IsKept :=
  steps_preserve (fun _ step kept => kept.step step) kept steps

end Run

/-- A sink started empty holds what its history left over. -/
theorem accumulator_run (session : Session) (handler : Handler σ) (steps : List Step) :
    (run session (new handler) steps).sink.accumulator =
      .holding (leftOver (run session (new handler) steps).receipts.toList) := by
  have started : (Run.start session (new handler)).IsKept := by
    exact Accumulator.holding_empty.symm
  exact started.steps steps

end Sink

end Reassembly
