import Mathlib.Data.List.Induction
import Reassembly.Pump

namespace Reassembly

/-!
# A pump run as a sequence of accepts

The pump awaits channels, counts as it goes and has two policies.  Behind all
that is a plain fold: the frames of the stream are accepted one after another,
with every replacement of the limit where it stands in the stream.
`Pump.Sequence` is that fold, and it knows neither channels nor policies.

A run that carries on is the whole sequence, with its counts and warnings read
off the accepted frames.  A run that aborts is the sequence up to the first
failed frame; what is behind that frame is not looked at
(`Pump.run_follows_sequence`).  Both follow from one fact: as long as nothing
accepted stops the policy, the run stands where the sequence stands
(`Pump.Sequence.drain_append_of_passes`).

The warnings of a sequence are spelled out (`Frame.failureText`).  They share no
text with the pump, so the sequence also says what the pump writes.
-/

namespace Frame

/-- What a record says of a frame that failed, behind its head. -/
def failureText (head : String) (frame : Frame) (error : SinkError) : String :=
  let opcode := match frame.opcode with
    | .binary => "BINARY"
    | .text => "TEXT"
    | .continuation => "CONTINUATION"
  let isFinal := if frame.isFinal then "true" else "false"
  head ++ opcode ++ ", fin=" ++ isFinal ++ ", error=" ++ error.message

end Frame

namespace Settlement

def outcome : Settlement → Outcome
  | finished outcome => outcome
  | dropped => .failed .completionDropped

/-- The channel loses nothing and adds nothing. -/
theorem awaited_eq_outcome (settlement : Settlement) :
    settlement.awaited = settlement.outcome := by
  cases settlement with
  | finished outcome => exact awaited_finished outcome
  | dropped => exact awaited_dropped

end Settlement

namespace Pump

/-- A frame that was accepted, with its outcome and the effects of its sink. -/
structure Accepted where
  frame : Frame
  outcome : Outcome
  journal : Journal

namespace Accepted

/-- The warning that a run gives of an accepted frame, if it failed. -/
def warning (accepted : Accepted) (number : Nat) : Journal :=
  match accepted.outcome with
  | .ok => .empty
  | .failed error => .record {
      level := .warn
      target := "framesink::pump"
      message := accepted.frame.failureText
        ("frame rejected: index=" ++ toString number ++ ", opcode=") error }

end Accepted

def counts (accepted : List Accepted) : Stats where
  frames := accepted.length
  messages := accepted.countP fun each => each.outcome.isOk && each.frame.isFinal
  failures := accepted.countP fun each => !each.outcome.isOk

/-- The effects of accepted frames, each followed by its warning. -/
def shown (accepted : List Accepted) : Journal :=
  (accepted.mapIdx fun place each => each.journal ++ each.warning (place + 1)).foldl
    (· ++ ·) .empty

theorem counts_append_singleton (accepted : List Accepted) (last : Accepted) :
    counts (accepted ++ [last]) = (counts accepted).count last.frame last.outcome := by
  rw [counts, List.length_append, List.countP_append, List.countP_append,
    List.countP_singleton, List.countP_singleton]
  cases last.outcome <;> rfl

theorem shown_append_singleton (accepted : List Accepted) (last : Accepted) :
    shown (accepted ++ [last]) =
      shown accepted ++ last.journal ++ last.warning (accepted.length + 1) := by
  rw [Journal.append_assoc, shown, List.mapIdx_concat, List.foldl_append]
  rfl

theorem shown_of_prefix {earlier later : List Accepted} (grown : earlier <+: later) :
    ∃ after, shown later = shown earlier ++ after := by
  rcases grown with ⟨more, rfl⟩
  induction more using List.reverseRecOn with
  | nil => exact ⟨.empty, by rw [List.append_nil, Journal.append_empty]⟩
  | append_singleton more last ih =>
      rcases ih with ⟨after, told⟩
      refine ⟨after ++ last.journal ++ last.warning ((earlier ++ more).length + 1), ?_⟩
      rw [← List.append_assoc, shown_append_singleton, told, Journal.append_assoc,
        Journal.append_assoc, Journal.append_assoc]

/-- Frames of a stream accepted one after another. -/
structure Sequence (α : Type) where
  session : Session
  sink : α
  accepted : List Accepted

variable {α : Type}

namespace Sequence

/-- The pump run that has come as far as the sequence. -/
def progress (sequence : Sequence α) : Progress α :=
  ⟨sequence.session, sequence.sink, counts sequence.accepted, shown sequence.accepted⟩

/-- Nothing accepted so far stops a run with this policy. -/
def Passes (policy : Policy) (sequence : Sequence α) : Prop :=
  policy = .abort → ∀ each ∈ sequence.accepted, each.outcome.isOk = true

theorem passes_carryOn (sequence : Sequence α) : sequence.Passes .carryOn := by
  intro impossible
  cases impossible

theorem Passes.of_prefix {policy : Policy} {earlier later : Sequence α}
    (passes : later.Passes policy) (grown : earlier.accepted <+: later.accepted) :
    earlier.Passes policy := by
  intro abort each member
  apply passes abort
  exact grown.subset member

/-! ## Accepting in order -/

variable [MessageSink α]

/-- What accepting a frame now will leave behind. -/
def receipt (sequence : Sequence α) (frame : Frame) : Accepted :=
  let handover := MessageSink.handOver sequence.sink sequence.session frame
  ⟨frame, handover.settlement.outcome, handover.journal⟩

def next (sequence : Sequence α) : Item → Sequence α
  | .pending => sequence
  | .setLimit raw => { sequence with session := sequence.session.setLimit raw }
  | .frame frame =>
      let handover := MessageSink.handOver sequence.sink sequence.session frame
      ⟨handover.session, handover.sink, sequence.accepted ++ [sequence.receipt frame]⟩

def through (sequence : Sequence α) (stream : List Item) : Sequence α :=
  stream.foldl next sequence

theorem through_append (sequence : Sequence α) (earlier later : List Item) :
    sequence.through (earlier ++ later) = (sequence.through earlier).through later :=
  List.foldl_append

theorem accepted_next_frame (sequence : Sequence α) (frame : Frame) :
    (sequence.next (.frame frame)).accepted = sequence.accepted ++ [sequence.receipt frame] := rfl

theorem prefix_accepted_next (sequence : Sequence α) (item : Item) :
    sequence.accepted <+: (sequence.next item).accepted := by
  cases item with
  | pending => exact List.prefix_rfl
  | setLimit raw => exact List.prefix_rfl
  | frame frame => exact List.prefix_append _ _

theorem prefix_accepted_through (sequence : Sequence α) (stream : List Item) :
    sequence.accepted <+: (sequence.through stream).accepted := by
  induction stream generalizing sequence with
  | nil => exact List.prefix_rfl
  | cons item rest ih => exact (prefix_accepted_next sequence item).trans (ih (sequence.next item))

/-! ## The run beside the sequence -/

theorem progress_next_frame (sequence : Sequence α) (frame : Frame) :
    let handover := MessageSink.handOver sequence.sink sequence.session frame
    let last := sequence.receipt frame
    (sequence.next (.frame frame)).progress =
      ⟨handover.session, handover.sink, (counts sequence.accepted).count frame last.outcome,
        shown sequence.accepted ++ last.journal ++
          last.warning (sequence.accepted.length + 1)⟩ := by
  rw [progress, accepted_next_frame, counts_append_singleton, shown_append_singleton]
  rfl

theorem feed_progress (sequence : Sequence α) (frame : Frame) :
    sequence.progress.feed frame =
      ((sequence.receipt frame).outcome, (sequence.next (.frame frame)).progress) := by
  rw [progress_next_frame, Progress.feed, progress]
  simp only [Settlement.awaited_eq_outcome]
  rfl

/-- One item moves the run as it moves the sequence, unless its frame stops the
run. -/
theorem drain_cons_of_passes {policy : Policy} {sequence : Sequence α} {item : Item}
    (passes : (sequence.next item).Passes policy) (rest : List Item) :
    sequence.progress.drain policy (item :: rest) =
      (sequence.next item).progress.drain policy rest := by
  cases item with
  | pending => rfl
  | setLimit raw => rfl
  | frame frame =>
      rw [Progress.drain, feed_progress]
      cases policy with
      | carryOn => rfl
      | abort =>
          have ok := passes rfl (sequence.receipt frame) List.mem_concat_self
          cases ended : (sequence.receipt frame).outcome with
          | ok => rfl
          | failed error =>
              rw [ended] at ok
              cases ok

/-- As long as nothing stops the run, it stands where the sequence stands. -/
theorem drain_append_of_passes {policy : Policy} {sequence : Sequence α} {before : List Item}
    (passes : (sequence.through before).Passes policy) (rest : List Item) :
    sequence.progress.drain policy (before ++ rest) =
      (sequence.through before).progress.drain policy rest := by
  induction before generalizing sequence with
  | nil => rfl
  | cons item before ih =>
      -- all that the first item left is still there at the end of the stretch
      have first : (sequence.next item).Passes policy :=
        passes.of_prefix (prefix_accepted_through (sequence.next item) before)
      rw [List.cons_append, drain_cons_of_passes first]
      exact ih passes

theorem drain_abort_of_failed {sequence : Sequence α} {frame : Frame} {error : SinkError}
    (failed : (sequence.receipt frame).outcome = .failed error) (rest : List Item) :
    sequence.progress.drain .abort (.frame frame :: rest) =
      (sequence.next (.frame frame)).progress.fail error rest := by
  rw [Progress.drain, feed_progress, failed]

end Sequence

variable [MessageSink α]

def acceptAll (session : Session) (sink : α) (stream : List Item) : Sequence α :=
  (⟨session, sink, []⟩ : Sequence α).through stream

theorem acceptAll_append (session : Session) (sink : α) (earlier later : List Item) :
    acceptAll session sink (earlier ++ later) = (acceptAll session sink earlier).through later :=
  Sequence.through_append _ earlier later

/-- A run that nothing has stopped stands where the sequence stands. -/
theorem run_append_of_passes {policy : Policy} {session : Session} {sink : α}
    {before : List Item} (passes : (acceptAll session sink before).Passes policy)
    (rest : List Item) :
    run policy session sink (before ++ rest) =
      (acceptAll session sink before).progress.drain policy rest :=
  Sequence.drain_append_of_passes passes rest

theorem run_of_passes {policy : Policy} {session : Session} {sink : α} {stream : List Item}
    (passes : (acceptAll session sink stream).Passes policy) :
    run policy session sink stream = (acceptAll session sink stream).progress.finish := by
  have whole := run_append_of_passes passes []
  rw [List.append_nil] at whole
  exact whole

/-! ## The first failure -/

/-- The first frame of a stream that fails, with the stream before and after
it. -/
structure FirstFailure (session : Session) (sink : α) (stream : List Item) where
  before : List Item
  frame : Frame
  error : SinkError
  rest : List Item
  splits : stream = before ++ .frame frame :: rest
  ok_before : ∀ each ∈ (acceptAll session sink before).accepted, each.outcome.isOk = true
  failed : ((acceptAll session sink before).receipt frame).outcome = .failed error

namespace FirstFailure

variable {session : Session} {sink : α} {stream : List Item}

def taken (first : FirstFailure session sink stream) : List Item :=
  first.before ++ [.frame first.frame]

theorem taken_append_rest (first : FirstFailure session sink stream) :
    first.taken ++ first.rest = stream := by
  rw [taken, List.append_assoc, List.singleton_append]
  exact first.splits.symm

def extend (first : FirstFailure session sink stream) (item : Item) :
    FirstFailure session sink (stream ++ [item]) where
  before := first.before
  frame := first.frame
  error := first.error
  rest := first.rest ++ [item]
  splits := by
    rw [← List.cons_append, ← List.append_assoc, ← first.splits]
  ok_before := first.ok_before
  failed := first.failed

def last {frame : Frame} {error : SinkError}
    (ok : ∀ each ∈ (acceptAll session sink stream).accepted, each.outcome.isOk = true)
    (failed : ((acceptAll session sink stream).receipt frame).outcome = .failed error) :
    FirstFailure session sink (stream ++ [.frame frame]) :=
  ⟨stream, frame, error, [], rfl, ok, failed⟩

/-- Where some frame fails, there is a first one.  The stream is cut from its
end, since a first failure stays the first whatever follows it. -/
theorem ok_or_nonempty (session : Session) (sink : α) (stream : List Item) :
    (∀ each ∈ (acceptAll session sink stream).accepted, each.outcome.isOk = true) ∨
      Nonempty (FirstFailure session sink stream) := by
  induction stream using List.reverseRecOn with
  | nil =>
      left
      rintro each ⟨⟩
  | append_singleton stream item ih =>
      rcases ih with ok | ⟨⟨first⟩⟩
      · rw [acceptAll_append]
        cases item with
        | pending => exact Or.inl ok
        | setLimit raw => exact Or.inl ok
        | frame frame =>
            cases ended : ((acceptAll session sink stream).receipt frame).outcome with
            | failed error => exact Or.inr ⟨last ok ended⟩
            | ok =>
                left
                intro each member
                rcases List.mem_append.mp member with earlier | here
                · exact ok each earlier
                · rw [List.mem_singleton.mp here, ended]
                  rfl
      · exact Or.inr ⟨first.extend item⟩

theorem accepted_taken (first : FirstFailure session sink stream) :
    (acceptAll session sink first.taken).accepted =
      (acceptAll session sink first.before).accepted ++
        [(acceptAll session sink first.before).receipt first.frame] := by
  rw [taken, acceptAll_append]
  rfl

/-- The effects up to the frame that fails end in its warning. -/
theorem shown_taken (first : FirstFailure session sink stream) :
    shown (acceptAll session sink first.taken).accepted =
      shown (acceptAll session sink first.before).accepted ++
        ((acceptAll session sink first.before).receipt first.frame).journal ++
        .record (rejected (acceptAll session sink first.taken).accepted.length first.frame
          first.error) := by
  rw [accepted_taken, shown_append_singleton, List.length_append, Accepted.warning, first.failed]
  rfl

theorem prefix_accepted_taken (first : FirstFailure session sink stream) :
    (acceptAll session sink first.taken).accepted <+: (acceptAll session sink stream).accepted := by
  have grown := Sequence.prefix_accepted_through (acceptAll session sink first.taken) first.rest
  rw [← acceptAll_append, first.taken_append_rest] at grown
  exact grown

/-- A run that aborts stops right behind the frame that fails. -/
theorem run_abort (first : FirstFailure session sink stream) :
    run .abort session sink stream =
      (acceptAll session sink first.taken).progress.fail first.error first.rest := by
  have passes : (acceptAll session sink first.before).Passes .abort := fun _ => first.ok_before
  have reached := run_append_of_passes passes (.frame first.frame :: first.rest)
  rw [← first.splits] at reached
  rw [reached, taken, acceptAll_append]
  exact Sequence.drain_abort_of_failed first.failed first.rest

/-- A run that carries on comes by the same place. -/
theorem run_carryOn (first : FirstFailure session sink stream) :
    run .carryOn session sink stream =
      (acceptAll session sink first.taken).progress.drain .carryOn first.rest := by
  have reached := run_append_of_passes (acceptAll session sink first.taken).passes_carryOn
    first.rest
  rw [first.taken_append_rest] at reached
  exact reached

end FirstFailure

/-- A run that carries on shows what a run that aborts shows, and then more. -/
theorem FirstFailure.exists_journal_run_carryOn {session : Session} {sink : α}
    {stream : List Item} (first : FirstFailure session sink stream) :
    ∃ after, (run .carryOn session sink stream).journal =
      (run .abort session sink stream).journal ++ after := by
  rcases shown_of_prefix first.prefix_accepted_taken with ⟨after, told⟩
  refine ⟨after ++ .record (exhausted (counts (acceptAll session sink stream).accepted)), ?_⟩
  rw [run_of_passes (Sequence.passes_carryOn _), first.run_abort, Progress.finish, Progress.fail,
    Sequence.progress, Sequence.progress, told, Journal.append_assoc]

/-! ## Waiting for the stream -/

/-- Whether the stream holds something there, and does not only let its reader
wait. -/
def Item.isReady : Item → Bool
  | .pending => false
  | .setLimit _ => true
  | .frame _ => true

/-- Waiting changes nothing but what is left to wait for. -/
theorem Progress.drain_filter_isReady (policy : Policy) (stream : List Item)
    (progress : Progress α) :
    progress.drain policy (stream.filter Item.isReady) =
      { progress.drain policy stream with
        unread := (progress.drain policy stream).unread.filter Item.isReady } := by
  induction stream generalizing progress with
  | nil => rfl
  | cons item rest ih =>
      cases item with
      | pending => exact ih progress
      | setLimit raw => exact ih (progress.setLimit raw)
      | frame frame =>
          rw [List.filter_cons_of_pos rfl, Progress.drain, Progress.drain]
          rcases progress.feed frame with ⟨outcome, reached⟩
          cases policy with
          | carryOn => exact ih reached
          | abort =>
              cases outcome with
              | ok => exact ih reached
              | failed error => rfl

theorem run_filter_isReady (policy : Policy) (session : Session) (sink : α) (stream : List Item) :
    run policy session sink (stream.filter Item.isReady) =
      { run policy session sink stream with
        unread := (run policy session sink stream).unread.filter Item.isReady } :=
  Progress.drain_filter_isReady policy stream _

/-! ## The run as a whole -/

def Item.frame? : Item → Option Frame
  | .pending => none
  | .setLimit _ => none
  | .frame held => some held

theorem map_frame_acceptAll (session : Session) (sink : α) (stream : List Item) :
    (acceptAll session sink stream).accepted.map (·.frame) = stream.filterMap Item.frame? := by
  induction stream using List.reverseRecOn with
  | nil => rfl
  | append_singleton stream item ih =>
      rw [acceptAll_append, List.filterMap_append, ← ih]
      cases item with
      | pending => exact (List.append_nil _).symm
      | setLimit raw => exact (List.append_nil _).symm
      | frame frame => exact List.map_append

/-- A run that carries on is the whole sequence of accepts, and so is one that
aborts when nothing fails.  Otherwise a run that aborts answers with the first
failure and is the sequence up to the frame that failed: the run that carries
on comes by the same place, and goes on from there.  How often the stream lets
its reader wait makes no difference. -/
theorem run_follows_sequence (session : Session) (sink : α) (stream : List Item) :
    let whole := acceptAll session sink stream
    let stats : Stats := {
      frames := whole.accepted.length
      messages := whole.accepted.countP fun each => each.outcome.isOk && each.frame.isFinal
      failures := whole.accepted.countP fun each => !each.outcome.isOk }
    let carriedOn := run .carryOn session sink stream
    let aborted := run .abort session sink stream
    whole.accepted.map (·.frame) = stream.filterMap Item.frame? ∧
      carriedOn = ⟨.ok stats, [], shown whole.accepted ++ .record (exhausted stats),
        whole.session, whole.sink⟩ ∧
      ((∀ each ∈ whole.accepted, each.outcome.isOk = true) → aborted = carriedOn) ∧
      ((∃ each ∈ whole.accepted, each.outcome.isOk = false) →
        ∃ first : FirstFailure session sink stream,
          let earlier := acceptAll session sink first.before
          let last := earlier.receipt first.frame
          let cut := acceptAll session sink first.taken
          let warning := rejected cut.accepted.length first.frame first.error
          cut.accepted = earlier.accepted ++ [last] ∧
            cut.accepted <+: whole.accepted ∧
            aborted = ⟨.error first.error, first.rest,
              shown earlier.accepted ++ last.journal ++ .record warning, cut.session, cut.sink⟩ ∧
            carriedOn = cut.progress.drain .carryOn first.rest ∧
            ∃ after, carriedOn.journal = aborted.journal ++ after) ∧
      ∀ policy, run policy session sink (stream.filter Item.isReady) =
        { run policy session sink stream with
          unread := (run policy session sink stream).unread.filter Item.isReady } := by
  intro whole stats carriedOn aborted
  have carried := run_of_passes (acceptAll session sink stream).passes_carryOn
  refine ⟨map_frame_acceptAll session sink stream, carried, ?_, ?_, ?_⟩
  · intro ok
    have passes : whole.Passes .abort := fun _ => ok
    exact (run_of_passes passes).trans carried.symm
  · rintro ⟨each, member, not_ok⟩
    rcases FirstFailure.ok_or_nonempty session sink stream with ok | ⟨⟨first⟩⟩
    · rw [ok each member] at not_ok
      cases not_ok
    · have stopped := first.run_abort
      rw [Progress.fail, Sequence.progress, first.shown_taken] at stopped
      exact ⟨first, first.accepted_taken, first.prefix_accepted_taken, stopped,
        first.run_carryOn, first.exists_journal_run_carryOn⟩
  · intro policy
    exact run_filter_isReady policy session sink stream

end Pump
end Reassembly
