import Mathlib.Algebra.Order.Ring.Nat
import Reassembly.Proofs.PumpSequence
import Reassembly.Sink.Group

namespace Reassembly

/-!
# Counters agree with what is seen

A sink counts a frame before it works on it, a message when the handler accepts
it, and a failure when the work is over.  So the counters are written in three
places, and what they say can be seen in three other ones: in the outcomes, in
the handler calls and in the log records.

`Entry` is what is seen of one frame, and a `Tally` says that a journal agrees
with a list of entries.  Tallies add up as journals do (`Tally.append`), so
everything rests on the tally of a single frame (`Sink.Call.tally`): it is
refused for its size, or collected, or the handler says what becomes of it.
Which sink a frame goes to and what became of earlier frames makes no difference.
That is why the law holds of any calls in any order, and so of sinks that share a
session, of sinks that do not, and of what pumps drive (`Tally.of_runs`).
-/

namespace Metrics

/-- The failures counted under any kind. -/
def allFailures (metrics : Metrics) : Nat :=
  (ErrorKind.all.map metrics.failures).sum

theorem framesAccepted_add (first second : Metrics) :
    (first + second).framesAccepted = first.framesAccepted + second.framesAccepted := rfl

theorem messagesDelivered_add (first second : Metrics) :
    (first + second).messagesDelivered = first.messagesDelivered + second.messagesDelivered := rfl

theorem failures_add (first second : Metrics) (kind : ErrorKind) :
    (first + second).failures kind = first.failures kind + second.failures kind := by
  cases kind <;> rfl

theorem allFailures_eq (metrics : Metrics) :
    metrics.allFailures =
      metrics.tooLarge + metrics.handler + metrics.handlerPanicked + metrics.completionDropped := by
  simp only [allFailures, ErrorKind.all, List.map_cons, List.map_nil, List.sum_cons,
    List.sum_nil, failures]
  omega

theorem allFailures_add (first second : Metrics) :
    (first + second).allFailures = first.allFailures + second.allFailures := by
  have tooLarge : (first + second).tooLarge = first.tooLarge + second.tooLarge := rfl
  have handler : (first + second).handler = first.handler + second.handler := rfl
  have panicked : (first + second).handlerPanicked =
      first.handlerPanicked + second.handlerPanicked := rfl
  have dropped : (first + second).completionDropped =
      first.completionDropped + second.completionDropped := rfl
  rw [allFailures_eq, allFailures_eq, allFailures_eq, tooLarge, handler, panicked, dropped]
  omega

end Metrics

namespace Handler

variable {σ : Type}

/-- How the handler ends the calls with these deliveries, made one after
another. -/
def verdicts (handler : Handler σ) : List Delivery → List Verdict
  | [] => []
  | delivery :: rest =>
      let (reply, handler) := handler.call delivery
      reply.verdict :: handler.verdicts rest

end Handler

/-- What is seen of an accepted frame besides counters and records: its outcome
and how its handler calls ended. -/
structure Entry where
  frame : Frame
  outcome : Outcome
  verdicts : List Verdict

namespace Entry

def isDelivered (entry : Entry) : Bool :=
  entry.outcome.isOk && entry.frame.isFinal

def isCollected (entry : Entry) : Bool :=
  entry.outcome.isOk && !entry.frame.isFinal

def failsAs (kind : ErrorKind) (entry : Entry) : Bool :=
  decide (entry.outcome.error?.map SinkError.kind = some kind)

/-- The record of a failed frame tells of its opcode, its final mark and its
error. -/
def record? (entry : Entry) : Option LogRecord :=
  entry.outcome.error?.map fun error => {
    level := .debug
    target := "framesink::sink::byte_array"
    message := entry.frame.failureText "message discarded: opcode=" error }

end Entry

/-- A journal agrees with the entries of frames. -/
structure Tally (entries : List Entry) (journal : Journal) : Prop where
  frames : journal.metrics.framesAccepted = entries.length
  /-- A message counts when the handler accepts it. -/
  accepted : journal.metrics.messagesDelivered = (entries.flatMap Entry.verdicts).count .accept
  delivered : journal.metrics.messagesDelivered = entries.countP Entry.isDelivered
  failures : ∀ kind, journal.metrics.failures kind = entries.countP (Entry.failsAs kind)
  allFailures : journal.metrics.allFailures = entries.countP fun entry => !entry.outcome.isOk
  calls : journal.deliveries.size = (entries.flatMap Entry.verdicts).length
  /-- Every handler call is counted once, by how it ended. -/
  callsCounted : journal.metrics.failures .handler + journal.metrics.failures .handlerPanicked +
    journal.metrics.messagesDelivered = journal.deliveries.size
  /-- Every frame is collected, delivered or failed. -/
  balance : journal.metrics.framesAccepted =
    entries.countP Entry.isCollected + journal.metrics.messagesDelivered +
      journal.metrics.allFailures
  records : journal.records.toList = entries.filterMap Entry.record?

namespace Tally

theorem nil : Tally [] .empty :=
  ⟨rfl, rfl, rfl, fun kind => by cases kind <;> rfl, rfl, rfl, rfl, rfl, rfl⟩

/-- Tallies add up as journals do. -/
theorem append {earlier later : List Entry} {before after : Journal}
    (first : Tally earlier before) (second : Tally later after) :
    Tally (earlier ++ later) (before ++ after) where
  frames := by
    rw [Journal.metrics_append, Metrics.framesAccepted_add, List.length_append, first.frames,
      second.frames]
  accepted := by
    rw [Journal.metrics_append, Metrics.messagesDelivered_add, List.flatMap_append,
      List.count_append, first.accepted, second.accepted]
  delivered := by
    rw [Journal.metrics_append, Metrics.messagesDelivered_add, List.countP_append,
      first.delivered, second.delivered]
  failures := fun kind => by
    rw [Journal.metrics_append, Metrics.failures_add, List.countP_append, first.failures,
      second.failures]
  allFailures := by
    rw [Journal.metrics_append, Metrics.allFailures_add, List.countP_append, first.allFailures,
      second.allFailures]
  calls := by
    rw [Journal.deliveries_append, Array.size_append, List.flatMap_append, List.length_append,
      first.calls, second.calls]
  callsCounted := by
    have here := first.callsCounted
    have there := second.callsCounted
    rw [Journal.metrics_append, Metrics.failures_add, Metrics.failures_add,
      Metrics.messagesDelivered_add, Journal.deliveries_append, Array.size_append]
    omega
  balance := by
    have here := first.balance
    have there := second.balance
    rw [Journal.metrics_append, Metrics.framesAccepted_add, Metrics.messagesDelivered_add,
      Metrics.allFailures_add, List.countP_append]
    omega
  records := by
    rw [Journal.records_append, Array.toList_append, List.filterMap_append, first.records,
      second.records]

/-! ## One frame -/

/-- What a frame that was worked on leaves in the journal. -/
def traceOf (frame : Frame) (outcome : Outcome) (worked : Journal) : Journal :=
  .counted .frame ++ worked ++ Sink.reported frame outcome

theorem of_refused (frame : Frame) (actual : UInt64) (bound : Bound) :
    Tally [⟨frame, .failed (.tooLarge actual bound), []⟩]
      (traceOf frame (.failed (.tooLarge actual bound)) .empty) :=
  ⟨rfl, rfl, rfl, fun kind => by cases kind <;> rfl, rfl, rfl, rfl, rfl, rfl⟩

theorem of_collected {frame : Frame} (more : frame.isFinal = false) :
    Tally [⟨frame, .ok, []⟩] (traceOf frame .ok .empty) := by
  rcases frame with ⟨opcode, payload, isFinal⟩
  subst more
  exact ⟨rfl, rfl, rfl, fun kind => by cases kind <;> rfl, rfl, rfl, rfl, rfl, rfl⟩

theorem of_verdict {frame : Frame} (last : frame.isFinal = true) (delivery : Delivery)
    (verdict : Verdict) :
    Tally [⟨frame, Sink.outcomeOf verdict, [verdict]⟩]
      (traceOf frame (Sink.outcomeOf verdict)
        (.delivery delivery ++ .counted (Sink.countOf verdict))) := by
  rcases frame with ⟨opcode, payload, isFinal⟩
  subst last
  cases verdict <;>
    exact ⟨rfl, rfl, rfl, fun kind => by cases kind <;> rfl, rfl, rfl, rfl, rfl, rfl⟩

end Tally

namespace Sink

variable {σ : Type}

/-- A frame on its way to a sink, with the sink and the session as they stand
when it comes. -/
structure Call (σ : Type) where
  sink : Sink σ
  session : Session
  frame : Frame

namespace Call

def receipt (call : Call σ) : Receipt :=
  call.sink.receipt call.session call.frame

def entry (call : Call σ) : Entry where
  frame := call.frame
  outcome := call.receipt.outcome
  verdicts := call.sink.handler.verdicts call.receipt.journal.deliveries.toList

/-- The tally of a call is that of the work on its frame. -/
theorem tally_of_process {call : Call σ} {worked : Acceptance σ}
    (processed : call.sink.process call.session call.frame = worked)
    (tally : Tally
      [⟨call.frame, worked.outcome, call.sink.handler.verdicts worked.journal.deliveries.toList⟩]
      (Tally.traceOf call.frame worked.outcome worked.journal)) :
    Tally [call.entry] call.receipt.journal := by
  subst processed
  have deliveries : call.receipt.journal.deliveries =
      (call.sink.process call.session call.frame).journal.deliveries :=
    deliveries_accept call.sink call.session call.frame
  rw [entry, deliveries]
  exact tally

/-- Every single frame has its tally, whatever state its sink is in. -/
theorem tally (call : Call σ) : Tally [call.entry] call.receipt.journal := by
  cases received : call.sink.accumulator.receive call.frame call.session.limit with
  | error refusal =>
      rcases Accumulator.tooLarge_of_receive_eq_error received with ⟨actual, bound, tooLarge⟩
      refine tally_of_process (process_of_refused received) ?_
      rw [tooLarge]
      exact .of_refused call.frame actual bound
  | ok accumulator =>
      cases last : call.frame.isFinal with
      | true =>
          exact tally_of_process (process_of_final received last) (.of_verdict last _ _)
      | false => exact tally_of_process (process_of_not_final received last) (.of_collected last)

/-- Frames tally together as they tally one by one. -/
theorem tally_joined (calls : List (Call σ)) :
    Tally (calls.map entry) (.joined (calls.map fun call => call.receipt.journal)) := by
  induction calls with
  | nil => exact .nil
  | cons call rest ih => exact call.tally.append ih

end Call
end Sink

/-! ## Several sinks -/

namespace SinkGroup

variable {σ : Type}

/-- The call that a step makes, if it is for a sink that exists. -/
def call? (group : SinkGroup σ) : Step → Option (Sink.Call σ)
  | .accept index frame => group.sinks[index]?.map fun sink => ⟨sink, group.session, frame⟩
  | .setLimit _ => none

/-- The calls of a run, in order. -/
def calls (group : SinkGroup σ) : List Step → List (Sink.Call σ)
  | [] => []
  | step :: rest => (group.call? step).toList ++ calls (group.step step).2 rest

theorem map_snd_step (group : SinkGroup σ) (step : Step) :
    (group.step step).1.map Prod.snd = (group.call? step).map Sink.Call.receipt := by
  cases step with
  | setLimit raw => rfl
  | accept index frame =>
      rw [SinkGroup.step, accept?, call?]
      cases group.sinks[index]? <;> rfl

theorem receipts_run (group : SinkGroup σ) (steps : List Step) :
    (group.run steps).1.map Prod.snd = (group.calls steps).map Sink.Call.receipt := by
  induction steps generalizing group with
  | nil => rfl
  | cons step rest ih =>
      rw [run_cons, calls, List.map_append, List.map_append, ih, ← Option.toList_map,
        ← Option.toList_map, map_snd_step]

theorem length_sinks_step (group : SinkGroup σ) (step : Step) :
    (group.step step).2.sinks.length = group.sinks.length := by
  cases step with
  | setLimit raw => rfl
  | accept index frame =>
      rw [SinkGroup.step, accept?]
      cases group.sinks[index]? with
      | none => rfl
      | some sink => exact List.length_set

/-- The frame that a step brings to one of so many sinks. -/
def Step.frame? (count : Nat) : Step → Option Frame
  | .accept index frame => if index < count then some frame else none
  | .setLimit _ => none

theorem map_frame_call? (group : SinkGroup σ) (step : Step) :
    (group.call? step).map Sink.Call.frame = step.frame? group.sinks.length := by
  cases step with
  | setLimit raw => rfl
  | accept index frame =>
      rw [call?, Step.frame?]
      by_cases there : index < group.sinks.length
      · rw [List.getElem?_eq_getElem there, if_pos there]
        rfl
      · rw [List.getElem?_eq_none (Nat.le_of_not_lt there), if_neg there]
        rfl

theorem frames_calls (group : SinkGroup σ) (steps : List Step) :
    (group.calls steps).map Sink.Call.frame =
      steps.filterMap (Step.frame? group.sinks.length) := by
  induction steps generalizing group with
  | nil => rfl
  | cons step rest ih =>
      rw [calls, List.map_append, ← Option.toList_map, map_frame_call?, ih, length_sinks_step]
      cases framed : step.frame? group.sinks.length with
      | none => rw [List.filterMap_cons_none framed]; rfl
      | some frame => rw [List.filterMap_cons_some framed]; rfl

end SinkGroup

/-! ## Pump runs -/

namespace Pump

variable {σ : Type}

/-- The calls that a stream makes, in order. -/
def calls (session : Session) (sink : Sink σ) : List Item → List (Sink.Call σ)
  | [] => []
  | .pending :: rest => calls session sink rest
  | .setLimit raw :: rest => calls (session.setLimit raw) sink rest
  | .frame frame :: rest =>
      let acceptance := sink.accept session frame
      ⟨sink, session, frame⟩ :: calls acceptance.session acceptance.sink rest

/-- What a receipt says without the limit. -/
def Accepted.ofReceipt (receipt : Sink.Receipt) : Accepted :=
  ⟨receipt.frame, receipt.outcome, receipt.journal⟩

/-- The frames of a sequence are those of its calls. -/
theorem accepted_through (session : Session) (sink : Sink σ) (accepted : List Accepted)
    (stream : List Item) :
    ((⟨session, sink, accepted⟩ : Sequence (Sink σ)).through stream).accepted =
      accepted ++ (calls session sink stream).map fun call => .ofReceipt call.receipt := by
  induction stream generalizing session sink accepted with
  | nil => exact (List.append_nil accepted).symm
  | cons item rest ih =>
      cases item with
      | pending => exact ih session sink accepted
      | setLimit raw => exact ih (session.setLimit raw) sink accepted
      | frame frame =>
          have later := ih (sink.accept session frame).session (sink.accept session frame).sink
            (accepted ++ [.ofReceipt (sink.receipt session frame)])
          rw [List.append_assoc, List.singleton_append] at later
          exact later

/-- The pump itself counts nothing. -/
theorem metrics_shown (accepted : List Accepted) :
    (shown accepted).metrics = (Journal.joined (accepted.map (·.journal))).metrics := by
  induction accepted using List.reverseRecOn with
  | nil => rfl
  | append_singleton accepted last ih =>
      have silent : (last.warning (accepted.length + 1)).metrics = .zero := by
        rw [Accepted.warning]
        cases last.outcome <;> rfl
      rw [shown_append_singleton, Journal.metrics_append, Journal.metrics_append, ih, silent,
        Metrics.add_zero, List.map_append, Journal.joined_append, List.map_singleton,
        Journal.joined_singleton, Journal.metrics_append]

theorem metrics_run (session : Session) (sink : Sink σ) (stream : List Item) :
    (run .carryOn session sink stream).journal.metrics =
      (Journal.joined
        ((calls session sink stream).map fun call => call.receipt.journal)).metrics := by
  have accepted := accepted_through session sink [] stream
  rw [run_of_passes (Sequence.passes_carryOn _)]
  show (shown (acceptAll session sink stream).accepted).metrics + Metrics.zero = _
  rw [Metrics.add_zero, metrics_shown, acceptAll, accepted, List.nil_append, List.map_map]
  rfl

/-- The counts of a run are those that its frames left in the counters. -/
theorem result_run (session : Session) (sink : Sink σ) (stream : List Item) :
    let ended := run .carryOn session sink stream
    ended.result = .ok
      ⟨ended.journal.metrics.framesAccepted, ended.journal.metrics.messagesDelivered,
        ended.journal.metrics.allFailures⟩ := by
  intro ended
  have tally := Sink.Call.tally_joined (calls session sink stream)
  have accepted := accepted_through session sink [] stream
  have finished : ended.result = .ok (counts (acceptAll session sink stream).accepted) := by
    rw [show ended = _ from run_of_passes (Sequence.passes_carryOn _)]
    rfl
  rw [finished, metrics_run, tally.frames, tally.delivered, tally.allFailures, acceptAll, accepted,
    List.nil_append, counts, List.length_map, List.countP_map, List.countP_map, List.length_map,
    List.countP_map, List.countP_map]
  rfl

/-- A stream to be pumped into a sink to its end. -/
structure Task (σ : Type) where
  session : Session
  sink : Sink σ
  stream : List Item

namespace Task

def run (task : Task σ) : Run (Sink σ) :=
  Pump.run .carryOn task.session task.sink task.stream

def calls (task : Task σ) : List (Sink.Call σ) :=
  Pump.calls task.session task.sink task.stream

/-- The counters that tasks leave when they are done in order. -/
def metrics (tasks : List (Task σ)) : Metrics :=
  (Journal.joined (tasks.map fun task => task.run.journal)).metrics

theorem metrics_cons (first : Task σ) (rest : List (Task σ)) :
    metrics (first :: rest) = first.run.journal.metrics + metrics rest := rfl

theorem metrics_eq (tasks : List (Task σ)) :
    metrics tasks =
      (Journal.joined ((tasks.flatMap calls).map fun call => call.receipt.journal)).metrics := by
  induction tasks with
  | nil => rfl
  | cons first rest ih =>
      rw [metrics_cons, ih, List.flatMap_cons, List.map_append, Journal.joined_append,
        Journal.metrics_append]
      exact congrArg (· + _) (metrics_run first.session first.sink first.stream)

/-- The sums of the counts of runs are the counters that the runs left. -/
theorem exists_stats (tasks : List (Task σ)) :
    ∃ stats : List Stats, (tasks.map fun task => task.run.result) = stats.map Except.ok ∧
      (stats.map Stats.frames).sum = (metrics tasks).framesAccepted ∧
      (stats.map Stats.messages).sum = (metrics tasks).messagesDelivered ∧
      (stats.map Stats.failures).sum = (metrics tasks).allFailures := by
  induction tasks with
  | nil => exact ⟨[], rfl, rfl, rfl, rfl⟩
  | cons first rest ih =>
      rcases ih with ⟨stats, results, frames, messages, failures⟩
      let counted := first.run.journal.metrics
      have result : first.run.result =
          .ok ⟨counted.framesAccepted, counted.messagesDelivered, counted.allFailures⟩ :=
        result_run first.session first.sink first.stream
      refine ⟨⟨counted.framesAccepted, counted.messagesDelivered, counted.allFailures⟩ :: stats,
        ?_, ?_, ?_, ?_⟩
      · rw [List.map_cons, List.map_cons, result, results]
      · rw [List.map_cons, List.sum_cons, frames, metrics_cons, Metrics.framesAccepted_add]
      · rw [List.map_cons, List.sum_cons, messages, metrics_cons, Metrics.messagesDelivered_add]
      · rw [List.map_cons, List.sum_cons, failures, metrics_cons, Metrics.allFailures_add]

end Task
end Pump

/-- Sinks that share a session leave a tally of their frames, however frames and
limit changes alternate, and so do sinks with sessions of their own: any calls
tally together.  The frames of pump runs that carry on are such calls, the pump
adds nothing to the counters, and its own counts are the counters. -/
theorem Tally.of_runs {σ : Type} :
    (∀ (group : SinkGroup σ) (steps : List SinkGroup.Step),
      let receipts := (group.run steps).1.map Prod.snd
      let calls := group.calls steps
      receipts = calls.map Sink.Call.receipt ∧
        calls.map Sink.Call.frame = steps.filterMap (SinkGroup.Step.frame? group.sinks.length) ∧
        Tally (calls.map Sink.Call.entry) (.joined (receipts.map Sink.Receipt.journal))) ∧
      (∀ calls : List (Sink.Call σ),
        Tally (calls.map Sink.Call.entry) (.joined (calls.map fun call => call.receipt.journal))) ∧
      ∀ tasks : List (Pump.Task σ),
        let calls := tasks.flatMap Pump.Task.calls
        let metrics := (Journal.joined (tasks.map fun task => task.run.journal)).metrics
        metrics = (Journal.joined (calls.map fun call => call.receipt.journal)).metrics ∧
          ∃ stats : List Pump.Stats,
            (tasks.map fun task => task.run.result) = stats.map Except.ok ∧
              (stats.map Pump.Stats.frames).sum = metrics.framesAccepted ∧
              (stats.map Pump.Stats.messages).sum = metrics.messagesDelivered ∧
              (stats.map Pump.Stats.failures).sum = metrics.allFailures := by
  refine ⟨?_, Sink.Call.tally_joined, ?_⟩
  · intro group steps receipts calls
    have made : receipts = calls.map Sink.Call.receipt := group.receipts_run steps
    refine ⟨made, group.frames_calls steps, ?_⟩
    rw [made, List.map_map]
    exact Sink.Call.tally_joined calls
  · intro tasks calls metrics
    exact ⟨Pump.Task.metrics_eq tasks, Pump.Task.exists_stats tasks⟩

end Reassembly
