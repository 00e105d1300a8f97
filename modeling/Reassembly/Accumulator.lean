import Reassembly.Frame
import Reassembly.SinkError

namespace Reassembly

/-!
# Bytes collected for a message in progress

The accumulator counts and keeps the payload bytes of the message being
assembled.  The count is a 64-bit number that stays at its largest value once
it gets there, so a message of any length is still seen to be too large.

Bytes that would break the limit are counted and never copied, and the bytes of
a whole message are handed out while their count stays.  Either way the count
and the buffer are apart until the accumulator is reset.  A guard sees to that:
it resets the accumulator when the work on a frame is over, unless the work has
disarmed it.
-/

/-- The payload bytes since the last message ended. -/
structure Accumulator where
  buffer : Option ByteArray
  size : UInt64

namespace Accumulator

def empty : Accumulator :=
  ⟨none, 0⟩

instance : Inhabited Accumulator := ⟨empty⟩

/-- The largest count. -/
def maxSize : Nat := 18446744073709551615

/-- Count this many further bytes, stopping at the largest count. -/
def advance (size : UInt64) (bytes : Nat) : UInt64 :=
  UInt64.ofNat (min (size.toNat + bytes) maxSize)

theorem toNat_advance (size : UInt64) (bytes : Nat) :
    (advance size bytes).toNat = min (size.toNat + bytes) maxSize := by
  rw [advance, UInt64.toNat_ofNat']
  exact Nat.mod_eq_of_lt (Nat.lt_of_le_of_lt (Nat.min_le_right _ _) (by decide))

/-- Counting in two steps is counting at once, also beyond the largest
count. -/
theorem advance_of_toNat_eq {size : UInt64} {total : Nat}
    (counted : size.toNat = min total maxSize) (more : Nat) :
    advance size more = advance 0 (total + more) := by
  have zero : (0 : UInt64).toNat = 0 := rfl
  apply UInt64.toNat_inj.mp
  rw [toNat_advance, toNat_advance, counted, zero]
  omega

/-- The bytes kept so far, none when nothing arrived. -/
def message (accumulator : Accumulator) : ByteArray :=
  accumulator.buffer.getD ByteArray.empty

/-- A payload that was not kept: the failure, and the accumulator that has
counted it all the same. -/
structure Refusal where
  error : SinkError
  counted : Accumulator

/-- Count a payload and, if the limit allows, keep it. -/
def append (accumulator : Accumulator) (payload : ByteArray) (limit : SizeLimit) :
    Except Refusal Accumulator :=
  let ⟨buffer, size⟩ := accumulator
  let size := advance size payload.size
  match limit with
  | .unlimited => .ok ⟨some (buffer.getD ByteArray.empty ++ payload), size⟩
  | .bounded bound =>
      if limit.isExceededBy size then .error ⟨.tooLarge size bound, ⟨buffer, size⟩⟩
      else .ok ⟨some (buffer.getD ByteArray.empty ++ payload), size⟩

/-- A payload is refused exactly when the limit is a bound and the new count
is above it.  The failure names both, and the new count stays. -/
theorem append_eq_error_iff (accumulator : Accumulator) (payload : ByteArray) (limit : SizeLimit)
    (refusal : Refusal) :
    accumulator.append payload limit = .error refusal ↔
      ∃ bound, limit = .bounded bound ∧
        bound.bytes < advance accumulator.size payload.size ∧
        refusal = ⟨.tooLarge (advance accumulator.size payload.size) bound,
          ⟨accumulator.buffer, advance accumulator.size payload.size⟩⟩ := by
  cases limit with
  | unlimited =>
      constructor
      · intro refused
        cases refused
      · rintro ⟨bound, impossible, _⟩
        cases impossible
  | bounded bound =>
      have unfolded : accumulator.append payload (.bounded bound) =
          if bound.bytes < advance accumulator.size payload.size then
            .error ⟨.tooLarge (advance accumulator.size payload.size) bound,
              ⟨accumulator.buffer, advance accumulator.size payload.size⟩⟩
          else .ok ⟨some (accumulator.message ++ payload),
            advance accumulator.size payload.size⟩ := by
        simp only [append, SizeLimit.isExceededBy, decide_eq_true_eq, message]
      rw [unfolded]
      by_cases broken : bound.bytes < advance accumulator.size payload.size
      · rw [if_pos broken]
        constructor
        · intro refused
          exact ⟨bound, rfl, broken, (Except.error.inj refused).symm⟩
        · rintro ⟨other, same, _, rfl⟩
          rw [SizeLimit.bounded.inj same]
      · rw [if_neg broken]
        constructor
        · intro refused
          cases refused
        · rintro ⟨other, same, exceeds, _⟩
          rw [← SizeLimit.bounded.inj same] at exceeds
          exact absurd exceeds broken

/-- A kept payload stands behind all bytes kept before, and is counted. -/
theorem append_eq_ok {accumulator next : Accumulator} {payload : ByteArray} {limit : SizeLimit}
    (kept : accumulator.append payload limit = .ok next) :
    next = ⟨some (accumulator.message ++ payload), advance accumulator.size payload.size⟩ := by
  cases limit with
  | unlimited => exact (Except.ok.inj kept).symm
  | bounded bound =>
      simp only [append] at kept
      split at kept
      · cases kept
      · exact (Except.ok.inj kept).symm

/-- Take in a frame.  A frame without payload bytes changes nothing and is
not held against the limit. -/
def receive (accumulator : Accumulator) (frame : Frame) (limit : SizeLimit) :
    Except Refusal Accumulator :=
  if frame.hasPayload then accumulator.append frame.bytes limit else .ok accumulator

theorem receive_of_bare {frame : Frame} (bare : frame.hasPayload = false)
    (accumulator : Accumulator) (limit : SizeLimit) :
    accumulator.receive frame limit = .ok accumulator := by
  rw [receive, bare]
  rfl

theorem receive_of_hasPayload {frame : Frame} (carries : frame.hasPayload = true)
    (accumulator : Accumulator) (limit : SizeLimit) :
    accumulator.receive frame limit = accumulator.append frame.bytes limit := by
  rw [receive, carries]
  rfl

/-- A frame is refused for its size and for nothing else. -/
theorem tooLarge_of_receive_eq_error {accumulator : Accumulator} {frame : Frame}
    {limit : SizeLimit} {refusal : Refusal}
    (refused : accumulator.receive frame limit = .error refusal) :
    ∃ actual bound, refusal.error = .tooLarge actual bound := by
  cases carries : frame.hasPayload with
  | false =>
      rw [receive_of_bare carries] at refused
      cases refused
  | true =>
      rw [receive_of_hasPayload carries, append_eq_error_iff] at refused
      rcases refused with ⟨bound, _, _, rfl⟩
      exact ⟨_, bound, rfl⟩

/-- Hand out the bytes kept, none when nothing arrived.  Their count stays. -/
def take (accumulator : Accumulator) : ByteArray × Accumulator :=
  let ⟨buffer, size⟩ := accumulator
  (buffer.getD ByteArray.empty, ⟨none, size⟩)

def reset (accumulator : Accumulator) : Accumulator :=
  { accumulator with buffer := none, size := 0 }

def isActive (accumulator : Accumulator) : Bool :=
  accumulator.buffer.isSome || decide (0 < accumulator.size)

/-- Whether the accumulator is reset when the work on a frame is over. -/
inductive Guard where
  | armed
  | disarmed
deriving DecidableEq

/-- What a guard leaves of the accumulator. -/
def Guard.release : Guard → Accumulator → Accumulator
  | armed, accumulator => accumulator.reset
  | disarmed, accumulator => accumulator

end Accumulator

end Reassembly
