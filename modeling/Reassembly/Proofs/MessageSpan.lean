import Mathlib.Data.List.DropRight
import Reassembly.Sink.History

namespace Reassembly
namespace Sink

/-!
# The frames of the message in progress

Two stretches at the end of a history matter.  A logical message is open from
the frame after the last final one; `openReceipts` is what it has got so far,
whatever became of its frames.  The sink forgets more: every failure also
empties it, so it goes on from the frame after the last one that ended a
message, and `unfinished` is what it still holds.

The second stretch is the end of the first, after the last failure in it
(`unfinished_eq_rtakeWhile`), and `lost` is what separates them.  The frames of
the open message can be read off the steps alone (`map_frame_openReceipts_run`),
because a final mark does not depend on any outcome.
-/

/-- The frame that a step hands to the sink. -/
def Step.frame? : Step → Option Frame
  | .accept frame => some frame
  | .setLimit _ => none

/-- The frames that steps hand to the sink, in order. -/
def framesOf (steps : List Step) : List Frame :=
  steps.filterMap Step.frame?

/-- The frames of a logical message that has not got its final one yet. -/
def openFrames (steps : List Step) : List Frame :=
  (framesOf steps).rtakeWhile fun frame => !frame.isFinal

/-- The receipts since the last final frame. -/
def openReceipts (history : List Receipt) : List Receipt :=
  history.rtakeWhile fun receipt => !receipt.frame.isFinal

/-- The receipts since a message last ended, by a final frame or by a failure. -/
def unfinished (history : List Receipt) : List Receipt :=
  history.rtakeWhile fun receipt => !receipt.endsMessage

/-- The payload bytes of receipts, one after the other. -/
def payloads (history : List Receipt) : ByteArray :=
  Frame.joined (history.map (·.frame))

theorem payloads_append (earlier later : List Receipt) :
    payloads (earlier ++ later) = payloads earlier ++ payloads later := by
  rw [payloads, List.map_append, Frame.joined_append]
  rfl

@[simp] theorem payloads_singleton (receipt : Receipt) :
    payloads [receipt] = receipt.frame.bytes :=
  ByteArray.empty_append

/-! ## The two stretches -/

theorem unfinished_concat_of_ends {receipt : Receipt} (ends : receipt.endsMessage = true)
    (history : List Receipt) : unfinished (history ++ [receipt]) = [] := by
  apply List.rtakeWhile_concat_neg
  rw [ends]
  exact Bool.false_ne_true

theorem unfinished_concat_of_not_ends {receipt : Receipt} (more : receipt.endsMessage = false)
    (history : List Receipt) :
    unfinished (history ++ [receipt]) = unfinished history ++ [receipt] := by
  apply List.rtakeWhile_concat_pos
  rw [more]
  rfl

/-- The bytes left over are the payloads of the receipts since a message last
ended. -/
theorem leftOver_eq_payloads (history : List Receipt) :
    leftOver history = payloads (unfinished history) := by
  induction history using List.reverseRecOn with
  | nil => rfl
  | append_singleton history receipt ih =>
      rw [leftOver_append_singleton, ih, carry]
      cases ends : receipt.endsMessage with
      | true =>
          rw [unfinished_concat_of_ends ends]
          rfl
      | false =>
          rw [unfinished_concat_of_not_ends ends, payloads_append, payloads_singleton]
          rfl

theorem mem_of_mem_openReceipts {history : List Receipt} {receipt : Receipt}
    (member : receipt ∈ openReceipts history) : receipt ∈ history :=
  (List.rtakeWhile_suffix _ history).subset member

theorem isFinal_of_mem_openReceipts {history : List Receipt} {receipt : Receipt}
    (member : receipt ∈ openReceipts history) : receipt.frame.isFinal = false := by
  have taken := List.mem_rtakeWhile_imp member
  exact (Bool.not_eq_true' _).mp taken

/-- What the sink holds is the end of the open message, after the last failure
in it. -/
theorem unfinished_eq_rtakeWhile (history : List Receipt) :
    unfinished history = (openReceipts history).rtakeWhile fun receipt => receipt.outcome.isOk := by
  rw [unfinished, openReceipts, List.rtakeWhile, List.rtakeWhile, List.rtakeWhile,
    List.reverse_reverse, List.takeWhile_takeWhile]
  congr 2
  funext receipt
  rw [Receipt.endsMessage]
  cases receipt.frame.isFinal <;> cases receipt.outcome.isOk <;> rfl

/-- What the open message has lost: everything up to the last failure in it. -/
def lost (history : List Receipt) : List Receipt :=
  (openReceipts history).rdropWhile fun receipt => receipt.outcome.isOk

theorem lost_append_unfinished (history : List Receipt) :
    lost history ++ unfinished history = openReceipts history := by
  rw [unfinished_eq_rtakeWhile]
  exact List.rdropWhile_append_rtakeWhile

theorem lost_eq_nil_iff (history : List Receipt) :
    lost history = [] ↔ ∀ receipt ∈ openReceipts history, receipt.outcome.isOk = true :=
  List.rdropWhile_eq_nil_iff

/-- Whatever is lost ends in a failure. -/
theorem isOk_getLast_lost {history : List Receipt} (some_lost : lost history ≠ []) :
    ((lost history).getLast some_lost).outcome.isOk = false :=
  Bool.eq_false_iff.mpr (List.rdropWhile_last_not _ _ some_lost)

/-! ## The frames of a run -/

variable {σ : Type}

theorem map_frame_receipts_run (session : Session) (sink : Sink σ) (steps : List Step) :
    (run session sink steps).receipts.toList.map (·.frame) = framesOf steps := by
  induction steps using List.reverseRecOn with
  | nil => rfl
  | append_singleton steps step ih =>
      rw [run_append, framesOf, List.filterMap_append, ← framesOf, ← ih]
      cases step with
      | setLimit raw => exact (List.append_nil _).symm
      | accept frame =>
          rw [Run.steps_cons, Run.steps_nil, Run.toList_receipts_step_accept, List.map_append]
          rfl

/-- What a run leaves in its sink are the payloads of the unfinished message. -/
theorem accumulator_run_eq_unfinished (session : Session) (handler : Handler σ)
    (steps : List Step) :
    (run session (new handler) steps).sink.accumulator =
      .holding (payloads (unfinished (run session (new handler) steps).receipts.toList)) := by
  rw [accumulator_run, leftOver_eq_payloads]

/-- The open message has got the frames after the last final one, whatever
became of them. -/
theorem map_frame_openReceipts_run (session : Session) (sink : Sink σ) (steps : List Step) :
    (openReceipts (run session sink steps).receipts.toList).map (·.frame) = openFrames steps := by
  have frames := map_frame_receipts_run session sink steps
  rw [openFrames, ← frames, openReceipts, List.rtakeWhile, List.rtakeWhile, ← List.map_reverse,
    List.takeWhile_map, List.map_reverse]
  rfl

end Sink
end Reassembly
