import Reassembly.Proofs.LimitAtDelivery

namespace Reassembly

/-!
# What an accumulator holds between frames

Within the work on a frame the count and the buffer may be apart: a refused
payload is counted and not kept, and a message handed out is still counted.  None
of this is seen from outside.  Between two frames an accumulator is at rest in
one of two ways (`AtRest`): it holds nothing and has counted nothing, or it holds
bytes that it has counted and that the limit in force allowed when the last of
them arrived.

The limit in question is the one that the latest payload of the whole history
met, refused or not.  If it was refused nothing is held, so the latest payload of
what is held is also the latest of all (`latestBearer_of_unfinished`).
-/

/-- An accumulator between two frames, after a history in which this frame was
the latest to carry payload bytes. -/
inductive Accumulator.AtRest (latest : Option Sink.Receipt) : Accumulator → Prop where
  | idle : AtRest latest ⟨none, 0⟩
  | holding (bytes : ByteArray) (size : UInt64) (receipt : Sink.Receipt)
      (some_bytes : bytes ≠ ByteArray.empty)
      (counted : size.toNat = min bytes.size maxSize)
      (brought : latest = some receipt)
      (within : 0 < receipt.rawLimit.toInt → bytes.size ≤ receipt.rawLimit.toInt) :
      AtRest latest ⟨some bytes, size⟩

namespace Accumulator

variable {latest : Option Sink.Receipt} {accumulator : Accumulator}

/-- At rest, to hold something is to have counted something. -/
theorem AtRest.isActive_iff (rest : accumulator.AtRest latest) :
    accumulator.isActive = true ↔ 0 < accumulator.size := by
  cases rest with
  | idle => decide
  | holding bytes size receipt some_bytes counted _ _ =>
      refine iff_of_true rfl ?_
      have some_there := Nat.pos_of_ne_zero (mt ByteArray.size_eq_zero_iff.mp some_bytes)
      rw [UInt64.lt_iff_toNat_lt, counted]
      exact Nat.lt_min.mpr ⟨some_there, by decide⟩

theorem AtRest.buffer_ne_empty (rest : accumulator.AtRest latest) :
    accumulator.buffer ≠ some ByteArray.empty := by
  cases rest with
  | idle => exact Option.some_ne_none _ ∘ Eq.symm
  | holding bytes _ _ some_bytes _ _ _ => exact mt Option.some.inj some_bytes

end Accumulator

namespace Sink

variable {σ : Type}

/-! ## The latest payload -/

theorem latestBearer_append {later : List Receipt} {receipt : Receipt}
    (found : latestBearer later = some receipt) (earlier : List Receipt) :
    latestBearer (earlier ++ later) = some receipt := by
  rw [latestBearer] at found ⊢
  rw [List.filter_append, List.getLast?_append, found]
  rfl

/-- Bytes have been brought by some frame. -/
theorem exists_latestBearer {span : List Receipt} (some_bytes : payloads span ≠ ByteArray.empty) :
    ∃ receipt, latestBearer span = some receipt := by
  induction span using List.reverseRecOn with
  | nil => exact absurd rfl some_bytes
  | append_singleton span receipt ih =>
      cases carries : receipt.frame.hasPayload with
      | true => exact ⟨receipt, latestBearer_concat_of_hasPayload carries span⟩
      | false =>
          rw [payloads_append, payloads_singleton, Frame.bytes_of_hasPayload_eq_false carries,
            ByteArray.append_empty] at some_bytes
          rw [latestBearer_concat_of_bare carries]
          exact ih some_bytes

/-- If anything is held, the latest payload of all is among it. -/
theorem latestBearer_of_unfinished {history : List Receipt}
    (some_bytes : payloads (unfinished history) ≠ ByteArray.empty) :
    ∃ receipt, latestBearer history = some receipt ∧
      latestBearer (unfinished history) = some receipt := by
  obtain ⟨receipt, found⟩ := exists_latestBearer some_bytes
  obtain ⟨earlier, parted⟩ : unfinished history <:+ history := List.rtakeWhile_suffix _ history
  have latest := latestBearer_append found earlier
  rw [parted] at latest
  exact ⟨receipt, latest, found⟩

/-! ## Runs -/

theorem atRest_run (session : Session) (handler : Handler σ) (steps : List Step) :
    (run session (new handler) steps).sink.accumulator.AtRest
      (latestBearer (run session (new handler) steps).receipts.toList) := by
  rw [accumulator_run_eq_unfinished]
  have within := withinLatest_run session handler steps
  generalize (run session (new handler) steps).receipts.toList = history at within ⊢
  by_cases none_there : payloads (unfinished history) = ByteArray.empty
  · rw [none_there, Accumulator.holding_empty]
    exact .idle
  · obtain ⟨receipt, latest, found⟩ := latestBearer_of_unfinished none_there
    have counted := Accumulator.toNat_size_holding (payloads (unfinished history))
    rw [Accumulator.holding_of_ne none_there] at counted ⊢
    exact .holding _ _ receipt none_there counted latest (within receipt found)

/-- After any run of a new sink its accumulator is at rest, so it holds something
exactly when it has counted something, and never an empty buffer.  A frame whose
payload breaks a positive limit leaves nothing behind, neither its own bytes nor
those held before it. -/
theorem accumulator_at_rest (session : Session) (handler : Handler σ) (steps : List Step) :
    let reached := run session (new handler) steps
    reached.sink.accumulator.AtRest (latestBearer reached.receipts.toList) ∧
      (reached.sink.isAccumulating = true ↔ 0 < reached.sink.bufferedSize) ∧
      reached.sink.accumulator.buffer ≠ some ByteArray.empty ∧
      ∀ frame, Overruns reached.session.rawLimit reached.sink.accumulator.message frame.bytes →
        (run session (new handler) (steps ++ [.accept frame])).sink.accumulator = ⟨none, 0⟩ := by
  intro reached
  have rest := atRest_run session handler steps
  refine ⟨rest, rest.isActive_iff, rest.buffer_ne_empty, ?_⟩
  intro frame overrun
  have kept := accumulator_run_eq_unfinished session handler steps
  rw [kept, Accumulator.message_holding] at overrun
  obtain ⟨actual, bound, _, refused⟩ := process_of_overruns kept overrun
  rw [run_append, Run.steps_cons, Run.steps_nil, Run.step_accept, sink_accept, refused]
  rfl

end Sink
end Reassembly
