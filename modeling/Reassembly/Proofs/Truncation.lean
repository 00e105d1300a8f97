import Reassembly.Proofs.Delivery

namespace Reassembly
namespace Sink

/-!
# Messages that lost a frame

A frame that is refused takes with it all that its message had got so far, and
the sink begins anew with the next frame.  It does not wait for the final frame
of the message that failed, so if the sender goes on with that message, its
remaining frames are collected and delivered like a message of their own
(`rest_of_refused_message_is_delivered`).

The amount that is delivered is exact.  A call receives the payloads of the
frames of its logical message after the last one that was refused: all of them
when none was, and strictly fewer bytes when one was (`delivery_of_message`).
-/

variable {σ : Type}

/-! ## Failures inside a message -/

/-- Before its final frame a message can only fail by being too large, and the
frame that does it carries payload bytes. -/
theorem Receipt.FollowsFrom.tooLarge_of_failed {held : ByteArray} {reply : Reply}
    {receipt : Receipt} (follows : receipt.FollowsFrom held reply)
    (more : receipt.frame.isFinal = false) (failed : receipt.outcome.isOk = false) :
    receipt.frame.bytes ≠ ByteArray.empty ∧
      ∃ actual bound, receipt.outcome = .failed (.tooLarge actual bound) := by
  have overrun : Overruns receipt.rawLimit held receipt.frame.bytes := by
    by_contra within
    rw [(follows.collected within more).1] at failed
    cases failed
  exact ⟨overrun.1, follows.tooLarge_iff.mpr overrun⟩

/-- Every receipt in the history of a run follows from the bytes held at its
time. -/
theorem exists_followsFrom_of_mem (session : Session) (handler : Handler σ) (steps : List Step)
    {receipt : Receipt} (member : receipt ∈ (run session (new handler) steps).receipts.toList) :
    ∃ held reply, receipt.FollowsFrom held reply := by
  induction steps using List.reverseRecOn with
  | nil => cases member
  | append_singleton steps step ih =>
      rw [run_append] at member
      cases step with
      | setLimit raw => exact ih member
      | accept frame =>
          rw [Run.steps_cons, Run.steps_nil, Run.toList_receipts_step_accept] at member
          rcases List.mem_append.mp member with before | here
          · exact ih before
          · rw [List.mem_singleton.mp here]
            exact ⟨_, _, receipt_followsFrom
              (accumulator_run_eq_unfinished session handler steps) _ frame⟩

theorem tooLarge_of_mem_openReceipts (session : Session) (handler : Handler σ)
    (steps : List Step) {receipt : Receipt}
    (member : receipt ∈ openReceipts (run session (new handler) steps).receipts.toList)
    (failed : receipt.outcome.isOk = false) :
    receipt.frame.bytes ≠ ByteArray.empty ∧
      ∃ actual bound, receipt.outcome = .failed (.tooLarge actual bound) := by
  rcases exists_followsFrom_of_mem session handler steps (mem_of_mem_openReceipts member) with
    ⟨held, reply, follows⟩
  exact follows.tooLarge_of_failed (isFinal_of_mem_openReceipts member) failed

/-- What is lost has bytes, since the frame that was refused had some. -/
theorem payloads_lost_pos (session : Session) (handler : Handler σ) (steps : List Step)
    (some_lost : lost (run session (new handler) steps).receipts.toList ≠ []) :
    0 < (payloads (lost (run session (new handler) steps).receipts.toList)).size := by
  have member := List.getLast_mem some_lost
  have opened := (List.rdropWhile_prefix _ _).subset member
  have carries := (tooLarge_of_mem_openReceipts session handler steps opened
    (isOk_getLast_lost some_lost)).1
  rw [← List.dropLast_append_getLast some_lost, payloads_append, payloads_singleton,
    ByteArray.size_append]
  have positive : 0 < ((lost (run session (new handler) steps).receipts.toList).getLast
      some_lost).frame.bytes.size :=
    Nat.pos_of_ne_zero (mt ByteArray.size_eq_zero_iff.mp carries)
  omega

/-! ## What is delivered of a logical message -/

theorem joined_openFrames (session : Session) (handler : Handler σ) (before : List Step)
    (frame : Frame) :
    Frame.joined (openFrames before ++ [frame]) =
      payloads (openReceipts (run session (new handler) before).receipts.toList) ++
        frame.bytes := by
  rw [Frame.joined_append, ← map_frame_openReceipts_run session (new handler) before, payloads]
  exact congrArg (_ ++ ·) ByteArray.empty_append

/-- A handler call comes with the final frame of a logical message, and
receives the payloads of the message's frames after the last one that was
refused.  That is the whole message when no frame of it was refused, and less
than the whole message when one was. -/
theorem delivery_of_message (session : Session) (handler : Handler σ) (before : List Step)
    (frame : Frame) :
    let earlier := run session (new handler) before
    let opened := openReceipts earlier.receipts.toList
    let message := Frame.joined (openFrames before ++ [frame])
    let rest := payloads (opened.rtakeWhile fun other => other.outcome.isOk) ++ frame.bytes
    let deliveries := (earlier.sink.receipt earlier.session frame).journal.deliveries
    (∀ delivery ∈ deliveries,
        frame.isFinal = true ∧ deliveries = #[delivery] ∧ delivery = .whole rest) ∧
      opened.map (·.frame) = openFrames before ∧
      (∀ other ∈ opened, other.outcome.isOk = false →
        ∃ actual bound, other.outcome = .failed (.tooLarge actual bound)) ∧
      ((∀ other ∈ opened, other.outcome.isOk = true) → rest = message) ∧
      ((∃ other ∈ opened, other.outcome.isOk = false) → rest.size < message.size) := by
  intro earlier opened message rest deliveries
  have held : opened.rtakeWhile (fun other => other.outcome.isOk) =
      unfinished earlier.receipts.toList :=
    (unfinished_eq_rtakeWhile _).symm
  have whole : message = payloads (lost earlier.receipts.toList) ++ rest := by
    have parts := joined_openFrames session handler before frame
    rw [← lost_append_unfinished, payloads_append, ByteArray.append_assoc, ← held] at parts
    exact parts
  refine ⟨?_, map_frame_openReceipts_run session (new handler) before, ?_, ?_, ?_⟩
  · intro delivery member
    have follows := receipt_followsFrom (accumulator_run_eq_unfinished session handler before)
      earlier.session frame
    rw [← held] at follows
    have call := follows.of_mem_deliveries member
    exact ⟨call.1, call.2.2.2, call.2.2.1⟩
  · intro other member failed
    exact (tooLarge_of_mem_openReceipts session handler before member failed).2
  · intro taken
    rw [whole, (lost_eq_nil_iff _).mpr taken]
    exact ByteArray.empty_append.symm
  · rintro ⟨other, member, failed⟩
    have some_lost : lost earlier.receipts.toList ≠ [] := by
      intro none_lost
      have ok := (lost_eq_nil_iff _).mp none_lost other member
      rw [ok] at failed
      cases failed
    have positive := payloads_lost_pos session handler before some_lost
    have sizes := congrArg ByteArray.size whole
    rw [ByteArray.size_append] at sizes
    exact Nat.lt_of_lt_of_eq (Nat.lt_add_of_pos_left positive) sizes.symm

/-- The tail of a message is delivered although its first frame was refused:
eight bytes under a limit of four, and then two final ones. -/
theorem rest_of_refused_message_is_delivered :
    ¬ ∀ (session : Session) (handler : Handler Unit) (before : List Step) (frame : Frame),
      ∀ delivery ∈ ((run session (new handler) before).sink.receipt
          (run session (new handler) before).session frame).journal.deliveries,
        delivery.window = Frame.joined (openFrames before ++ [frame]) := by
  intro whole
  let before : List Step := [.accept (.binary ⟨#[1, 2, 3, 4, 5, 6, 7, 8]⟩)]
  let last : Frame := (Frame.continuation ⟨#[9, 10]⟩).withFinal true
  let earlier := run ⟨4⟩ (new Handler.accepting) before
  have called : (earlier.sink.receipt earlier.session last).journal.deliveries =
      #[.whole ⟨#[9, 10]⟩] := by decide
  have delivered := whole ⟨4⟩ .accepting before last (.whole ⟨#[9, 10]⟩) (by
    rw [called]
    exact Array.mem_singleton.mpr rfl)
  exact absurd delivered (by decide)

end Sink
end Reassembly
