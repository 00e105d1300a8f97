import Reassembly.Proofs.Delivery

namespace Reassembly
namespace Sink

/-!
# The limit that bounds a delivery

The limit may be replaced between two frames of one message, and it is compared
with the bytes counted only when a frame brings some.  So a message that has
been collected is bounded by the limit its last payload arrived under
(`withinLatest_run`), and a final frame without payload bytes delivers it even
if a smaller limit has been stored since (`lowered_limit_is_not_applied`).

`delivery_size_le_limit` is the bound that holds of every delivery.  It is the
limit stored when the final frame arrives if that frame carries payload bytes,
and in no other case can a positive limit be exceeded.
-/

variable {σ : Type}

/-- The last of these receipts whose frame carries payload bytes. -/
def latestBearer (span : List Receipt) : Option Receipt :=
  (span.filter fun receipt => receipt.frame.hasPayload).getLast?

/-- The payloads are within the limit that the last of them arrived under. -/
def WithinLatest (span : List Receipt) : Prop :=
  ∀ latest ∈ latestBearer span, 0 < latest.rawLimit.toInt →
    (payloads span).size ≤ latest.rawLimit.toInt

theorem withinLatest_nil : WithinLatest [] := by
  intro latest impossible
  cases impossible

theorem latestBearer_concat_of_bare {receipt : Receipt} (bare : receipt.frame.hasPayload = false)
    (span : List Receipt) : latestBearer (span ++ [receipt]) = latestBearer span := by
  have skipped : [receipt].filter (fun other => other.frame.hasPayload) = [] :=
    List.filter_cons_of_neg (by rw [bare]; exact Bool.false_ne_true)
  rw [latestBearer, List.filter_append, skipped, List.append_nil, latestBearer]

theorem latestBearer_concat_of_hasPayload {receipt : Receipt}
    (carries : receipt.frame.hasPayload = true) (span : List Receipt) :
    latestBearer (span ++ [receipt]) = some receipt := by
  have kept : [receipt].filter (fun other => other.frame.hasPayload) = [receipt] :=
    List.filter_cons_of_pos carries
  rw [latestBearer, List.filter_append, kept, List.getLast?_concat]

/-- A frame that does not overrun its limit keeps the payloads within the latest
one: its own if it brings bytes, and the same as before if it does not. -/
theorem WithinLatest.concat {span : List Receipt} (within : WithinLatest span) {receipt : Receipt}
    (fits : ¬ Overruns receipt.rawLimit (payloads span) receipt.frame.bytes) :
    WithinLatest (span ++ [receipt]) := by
  intro latest found positive
  rw [payloads_append, payloads_singleton, ByteArray.size_append]
  cases carries : receipt.frame.hasPayload with
  | false =>
      rw [latestBearer_concat_of_bare carries] at found
      rw [Frame.bytes_of_hasPayload_eq_false carries, ByteArray.size_empty, Nat.add_zero]
      exact within latest found positive
  | true =>
      rw [latestBearer_concat_of_hasPayload carries] at found
      have same := Option.some.inj found
      subst same
      rw [Int.natCast_add]
      apply Int.not_lt.mp
      intro beyond
      exact fits ⟨(Frame.hasPayload_iff _).mp carries, positive, beyond⟩

/-- After any run, what is held is within the limit that its last payload
arrived under. -/
theorem withinLatest_run (session : Session) (handler : Handler σ) (steps : List Step) :
    WithinLatest (unfinished (run session (new handler) steps).receipts.toList) := by
  induction steps using List.reverseRecOn with
  | nil => exact withinLatest_nil
  | append_singleton steps step ih =>
      rw [run_append]
      cases step with
      | setLimit raw => exact ih
      | accept frame =>
          rw [Run.steps_cons, Run.steps_nil, Run.toList_receipts_step_accept]
          cases ends : ((run session (new handler) steps).sink.receipt
              (run session (new handler) steps).session frame).endsMessage with
          | true =>
              rw [unfinished_concat_of_ends ends]
              exact withinLatest_nil
          | false =>
              rw [unfinished_concat_of_not_ends ends]
              apply ih.concat
              intro overrun
              have follows := receipt_followsFrom
                (accumulator_run_eq_unfinished session handler steps)
                (run session (new handler) steps).session frame
              rcases follows.tooLarge_iff.mpr overrun with ⟨actual, bound, failed⟩
              rw [Receipt.endsMessage, failed] at ends
              simp only [Outcome.isOk, Bool.not_false, Bool.or_true, Bool.true_eq_false] at ends

/-- A delivered message is within the limit that its last payload arrived
under.  If the final frame carries payload bytes, that is the limit stored when
it arrives.  A positive limit is exceeded exactly by final frames without
payload bytes that find more bytes held than it allows. -/
theorem delivery_size_le_limit (session : Session) (handler : Handler σ) (before : List Step)
    (frame : Frame) :
    let earlier := run session (new handler) before
    let held := unfinished earlier.receipts.toList
    let receipt := earlier.sink.receipt earlier.session frame
    let limit := earlier.session.rawLimit.toInt
    ∀ delivery ∈ receipt.journal.deliveries,
      delivery.window = payloads (held ++ [receipt]) ∧
        (∀ latest ∈ latestBearer (held ++ [receipt]), 0 < latest.rawLimit.toInt →
          delivery.window.size ≤ latest.rawLimit.toInt) ∧
        (frame.bytes ≠ ByteArray.empty → 0 < limit → delivery.window.size ≤ limit) ∧
        (0 < limit → (limit < delivery.window.size ↔
          frame.bytes = ByteArray.empty ∧ limit < (payloads held).size)) := by
  intro earlier held receipt limit delivery member
  have follows := receipt_followsFrom (accumulator_run_eq_unfinished session handler before)
    earlier.session frame
  have call := follows.of_mem_deliveries member
  have message : delivery.window = payloads (held ++ [receipt]) := by
    rw [call.2.2.1, Delivery.window_whole, payloads_append, payloads_singleton]
  have within : WithinLatest (held ++ [receipt]) :=
    (withinLatest_run session handler before).concat call.2.1
  have loaded : frame.bytes ≠ ByteArray.empty → 0 < limit → delivery.window.size ≤ limit := by
    intro carries positive
    rw [message]
    apply within receipt _ positive
    exact latestBearer_concat_of_hasPayload ((Frame.hasPayload_iff frame).mpr carries) held
  have unloaded : frame.bytes = ByteArray.empty → delivery.window = payloads held := by
    intro bare
    have added : receipt.frame.bytes = ByteArray.empty := bare
    rw [message, payloads_append, payloads_singleton, added, ByteArray.append_empty]
  refine ⟨message, ?_, loaded, ?_⟩
  · rw [message]
    exact within
  · intro positive
    constructor
    · intro beyond
      have bare : frame.bytes = ByteArray.empty := by
        by_contra carries
        exact absurd beyond (Int.not_lt.mpr (loaded carries positive))
      rw [unloaded bare] at beyond
      exact ⟨bare, beyond⟩
    · rintro ⟨bare, beyond⟩
      rw [unloaded bare]
      exact beyond

/-- A limit that was lowered below the bytes held is not applied to a final
frame without payload bytes: six bytes are delivered under a limit of three. -/
theorem lowered_limit_is_not_applied :
    ¬ ∀ (session : Session) (handler : Handler Unit) (before : List Step) (frame : Frame),
      ∀ delivery ∈ ((run session (new handler) before).sink.receipt
          (run session (new handler) before).session frame).journal.deliveries,
        0 < (run session (new handler) before).session.rawLimit.toInt →
          delivery.window.size ≤ (run session (new handler) before).session.rawLimit.toInt := by
  intro bounded
  let before : List Step := [.accept (.binary ⟨#[1, 2, 3, 4, 5, 6]⟩), .setLimit 3]
  let earlier := run ⟨10⟩ (new Handler.accepting) before
  let last : Frame := .emptyFinal .continuation
  have called : (earlier.sink.receipt earlier.session last).journal.deliveries =
      #[.whole ⟨#[1, 2, 3, 4, 5, 6]⟩] := by decide
  have short := bounded ⟨10⟩ .accepting before last (.whole ⟨#[1, 2, 3, 4, 5, 6]⟩) (by
    rw [called]
    exact Array.mem_singleton.mpr rfl) (by decide)
  exact absurd short (by decide)

end Sink
end Reassembly
