import Reassembly.Proofs.Isolation
import Reassembly.Sink.Group

namespace Reassembly

/-!
# Sinks that share a session do not interfere

The stored limit is all that sinks with one session have in common, and a sink
reads it afresh for every frame.  So if no other handler stores a limit, a sink
in a group fares as it would alone: `SinkGroup.Step.at?` keeps of the group's
steps what concerns the sink, which is its own frames and every limit change,
and the sink's receipts are those of its run over just these steps.

The run alone is carried beside the group.  A step for another sink leaves it
where it is, because such a step moves neither the session nor the sink
(`SinkGroup.StandsAt.step`).
-/

namespace Handler

variable {σ : Type}

/-- The handler stores no limit, whatever is delivered to it from now on. -/
def LeavesLimit (handler : Handler σ) : Prop :=
  ∀ (deliveries : List Delivery) (delivery : Delivery),
    ((handler.after deliveries).call delivery).1.newRawLimit = none

theorem LeavesLimit.after {handler : Handler σ} (leaves : handler.LeavesLimit)
    (deliveries : List Delivery) : (handler.after deliveries).LeavesLimit := by
  intro later delivery
  rw [← after_append]
  exact leaves (deliveries ++ later) delivery

theorem after_ofReplies (replies : List Reply) (deliveries : List Delivery) :
    (ofReplies replies).after deliveries = ofReplies (replies.drop deliveries.length) := by
  induction deliveries generalizing replies with
  | nil => rfl
  | cons delivery rest ih =>
      show ((ofReplies replies).call delivery).2.after rest = _
      cases replies with
      | nil =>
          have used_up := ih []
          rw [List.drop_nil] at used_up ⊢
          exact used_up
      | cons reply replies => exact ih replies

theorem leavesLimit_ofReplies {replies : List Reply}
    (silent : ∀ reply ∈ replies, reply.newRawLimit = none) :
    (ofReplies replies).LeavesLimit := by
  intro deliveries delivery
  rw [after_ofReplies]
  cases left : replies.drop deliveries.length with
  | nil => rfl
  | cons reply rest =>
      apply silent
      apply List.mem_of_mem_drop
      rw [left]
      exact List.mem_cons_self

end Handler

namespace Sink

variable {σ : Type}

/-- Only a handler call can move the session. -/
theorem session_accept_of_leavesLimit {sink : Sink σ} (leaves : sink.handler.LeavesLimit)
    (session : Session) (frame : Frame) : (sink.accept session frame).session = session := by
  rw [session_accept]
  cases received : sink.accumulator.receive frame session.limit with
  | error refusal => rw [process_of_refused received]
  | ok accumulator =>
      cases last : frame.isFinal with
      | false => rw [process_of_not_final received last]
      | true =>
          rw [process_of_final received last]
          show ((sink.handler.call _).1.newRawLimit.map session.setLimit).getD session = session
          rw [show (sink.handler.call _).1.newRawLimit = none from leaves [] _]
          rfl

theorem leavesLimit_accept {sink : Sink σ} (leaves : sink.handler.LeavesLimit)
    (session : Session) (frame : Frame) :
    (sink.accept session frame).sink.handler.LeavesLimit := by
  rw [handler_accept]
  exact leaves.after _

end Sink

namespace SinkGroup

variable {σ : Type}

/-- What a step of the group means to the sink at a place: nothing, if it is a
frame for another sink. -/
def Step.at? (place : Nat) : Step → Option Sink.Step
  | .accept index frame => if index = place then some (.accept frame) else none
  | .setLimit raw => some (.setLimit raw)

/-- The receipts of the sink at a place. -/
def receiptsAt (place : Nat) (receipts : List (Nat × Sink.Receipt)) : List Sink.Receipt :=
  (receipts.filter fun each => each.1 = place).map Prod.snd

theorem receiptsAt_append (place : Nat) (earlier later : List (Nat × Sink.Receipt)) :
    receiptsAt place (earlier ++ later) = receiptsAt place earlier ++ receiptsAt place later := by
  rw [receiptsAt, List.filter_append, List.map_append]
  rfl

theorem receiptsAt_singleton (place : Nat) (receipt : Sink.Receipt) :
    receiptsAt place [(place, receipt)] = [receipt] := by
  simp [receiptsAt]

theorem receiptsAt_of_ne {place index : Nat} (apart : index ≠ place) (receipt : Sink.Receipt) :
    receiptsAt place [(index, receipt)] = [] := by
  simp [receiptsAt, apart]

theorem step_accept_of_found {group : SinkGroup σ} {index : Nat} {sink : Sink σ}
    (found : group.sinks[index]? = some sink) (frame : Frame) :
    group.step (.accept index frame) =
      (some (index, sink.receipt group.session frame),
        ⟨(sink.accept group.session frame).session,
          group.sinks.set index (sink.accept group.session frame).sink⟩) := by
  rw [SinkGroup.step, accept?, found]
  rfl

theorem step_accept_of_missing {group : SinkGroup σ} {index : Nat}
    (missing : group.sinks[index]? = none) (frame : Frame) :
    group.step (.accept index frame) = (none, group) := by
  rw [SinkGroup.step, accept?, missing]
  rfl

/-- The sink at a place and its session stand where a run alone stands, and no
other sink can move the session. -/
structure StandsAt (place : Nat) (run : Sink.Run σ) (group : SinkGroup σ) : Prop where
  session : group.session = run.session
  sink : group.sinks[place]? = some run.sink
  others : ∀ other elsewhere, other ≠ place → group.sinks[other]? = some elsewhere →
    elsewhere.handler.LeavesLimit

namespace StandsAt

variable {place : Nat} {run : Sink.Run σ} {group : SinkGroup σ}

/-- A frame for the sink itself moves the run alone. -/
theorem accept_here (stands : StandsAt place run group) (frame : Frame) :
    let moved := group.step (.accept place frame)
    StandsAt place (run.step (.accept frame)) moved.2 ∧
      (run.step (.accept frame)).receipts.toList =
        run.receipts.toList ++ receiptsAt place moved.1.toList := by
  intro moved
  have made : moved = _ := step_accept_of_found stands.sink frame
  have within : place < group.sinks.length := (List.getElem?_eq_some_iff.mp stands.sink).1
  rw [made, stands.session, Sink.Run.toList_receipts_step_accept, Sink.Run.step_accept,
    Option.toList_some, receiptsAt_singleton]
  refine ⟨⟨rfl, List.getElem?_set_self within, ?_⟩, rfl⟩
  intro other elsewhere apart found
  rw [List.getElem?_set_ne (Ne.symm apart)] at found
  exact stands.others other elsewhere apart found

/-- A frame for another sink changes nothing for this one. -/
theorem accept_elsewhere (stands : StandsAt place run group) {index : Nat}
    (apart : index ≠ place) (frame : Frame) :
    let moved := group.step (.accept index frame)
    StandsAt place run moved.2 ∧ receiptsAt place moved.1.toList = [] := by
  intro moved
  cases found : group.sinks[index]? with
  | none =>
      rw [show moved = _ from step_accept_of_missing found frame]
      exact ⟨stands, rfl⟩
  | some sink =>
      have leaves := stands.others index sink apart found
      have within : index < group.sinks.length := (List.getElem?_eq_some_iff.mp found).1
      rw [show moved = _ from step_accept_of_found found frame, Option.toList_some,
        receiptsAt_of_ne apart, sink.session_accept_of_leavesLimit leaves]
      refine ⟨⟨stands.session, ?_, ?_⟩, rfl⟩
      · rw [List.getElem?_set_ne apart]
        exact stands.sink
      · intro other elsewhere away there
        by_cases same : index = other
        · subst same
          rw [List.getElem?_set_self within] at there
          rw [← Option.some.inj there]
          exact sink.leavesLimit_accept leaves group.session frame
        · rw [List.getElem?_set_ne same] at there
          exact stands.others other elsewhere away there

/-- One step of the group is what it means to the sink, or nothing. -/
theorem step (stands : StandsAt place run group) (step : Step) :
    let moved := group.step step
    let alone := run.steps (step.at? place).toList
    StandsAt place alone moved.2 ∧
      alone.receipts.toList = run.receipts.toList ++ receiptsAt place moved.1.toList := by
  cases step with
  | setLimit raw =>
      refine ⟨⟨?_, stands.sink, stands.others⟩, (List.append_nil _).symm⟩
      show group.session.setLimit raw = run.session.setLimit raw
      rw [stands.session]
  | accept index frame =>
      by_cases here : index = place
      · subst here
        rw [Step.at?, if_pos rfl]
        exact stands.accept_here frame
      · rw [Step.at?, if_neg here]
        have kept := stands.accept_elsewhere here frame
        refine ⟨kept.1, ?_⟩
        rw [kept.2, List.append_nil]
        rfl

/-- The group goes on beside the run alone. -/
theorem steps (stands : StandsAt place run group) (steps : List Step) :
    let moved := group.run steps
    let alone := run.steps (steps.filterMap (Step.at? place))
    StandsAt place alone moved.2 ∧
      alone.receipts.toList = run.receipts.toList ++ receiptsAt place moved.1 := by
  induction steps generalizing run group with
  | nil => exact ⟨stands, (List.append_nil _).symm⟩
  | cons step rest ih =>
      have first := stands.step step
      have further := ih first.1
      have split : (step :: rest).filterMap (Step.at? place) =
          (step.at? place).toList ++ rest.filterMap (Step.at? place) := by
        rw [List.filterMap_cons]
        cases step.at? place <;> rfl
      rw [run_cons, split, Sink.Run.steps_append]
      refine ⟨further.1, ?_⟩
      rw [further.2, first.2, receiptsAt_append, List.append_assoc]

end StandsAt

/-- A sink among others that share its session fares as it would alone with its
own frames and all limit changes, in the same order: it leaves the same
receipts, and so reports the same outcomes and has the same effects, and it ends
as the same sink in the same session.  All that is asked for is that the handlers
of the other sinks store no limit. -/
theorem receiptsAt_run (group : SinkGroup σ) {place : Nat} {sink : Sink σ}
    (there : group.sinks[place]? = some sink)
    (others : ∀ other elsewhere, other ≠ place → group.sinks[other]? = some elsewhere →
      elsewhere.handler.LeavesLimit)
    (steps : List Step) :
    let shared := group.run steps
    let alone := Sink.run group.session sink (steps.filterMap (Step.at? place))
    receiptsAt place shared.1 = alone.receipts.toList ∧
      (receiptsAt place shared.1).map (·.outcome) = alone.outcomes ∧
      Journal.joined ((receiptsAt place shared.1).map (·.journal)) = alone.journal ∧
      shared.2.sinks[place]? = some alone.sink ∧ shared.2.session = alone.session := by
  intro shared alone
  have started : StandsAt place (Sink.Run.start group.session sink) group :=
    ⟨rfl, there, others⟩
  have reached := started.steps steps
  have receipts : receiptsAt place shared.1 = alone.receipts.toList := reached.2.symm
  refine ⟨receipts, ?_, ?_, reached.1.sink, reached.1.session⟩
  · rw [receipts]
    rfl
  · rw [receipts, alone.journal_eq]

/-- Two messages on one session, frame by frame in turn, with a limit raised in
between.  The handler of the second sink panics, and the first sink delivers the
three bytes that it would deliver alone. -/
theorem interleaved_message_is_delivered_as_alone :
    let first := Sink.new (Handler.ofReplies [])
    let second := Sink.new (Handler.ofReplies [⟨none, .panic .value⟩])
    let group : SinkGroup (List Reply) := ⟨⟨2⟩, [first, second]⟩
    let steps : List Step :=
      [.accept 0 (.binary ⟨#[1, 2]⟩), .accept 1 (.binary ⟨#[9]⟩), .setLimit 3,
        .accept 1 (.emptyFinal .continuation),
        .accept 0 ((Frame.continuation ⟨#[3]⟩).withFinal true)]
    let alone := Sink.run ⟨2⟩ first
      [.accept (.binary ⟨#[1, 2]⟩), .setLimit 3,
        .accept ((Frame.continuation ⟨#[3]⟩).withFinal true)]
    group.sinks[0]? = some first ∧ second.handler.LeavesLimit ∧
      alone.journal.deliveries = #[.whole ⟨#[1, 2, 3]⟩] ∧
      receiptsAt 0 (group.run steps).1 = alone.receipts.toList := by
  intro first second group steps alone
  have silent : second.handler.LeavesLimit := by
    apply Handler.leavesLimit_ofReplies
    intro reply member
    rw [List.mem_singleton.mp member]
  have others : ∀ other elsewhere, other ≠ 0 → group.sinks[other]? = some elsewhere →
      elsewhere.handler.LeavesLimit := by
    rintro (_ | _ | other) elsewhere apart found
    · exact absurd rfl apart
    · rw [← Option.some.inj found]
      exact silent
    · cases found
  exact ⟨rfl, silent, by decide, (receiptsAt_run group rfl others steps).1⟩

end SinkGroup
end Reassembly
