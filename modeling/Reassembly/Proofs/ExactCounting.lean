import Reassembly.Proofs.Delivery

namespace Reassembly
namespace Accumulator

/-!
# Counting in words is exact

The limit is a signed word, the bound it is read as and the count are unsigned
words, and the count stays at its largest value once it gets there.  None of
this shows: whether a payload is refused depends on the unbounded sum of the
lengths since the last reset alone, however far that sum has gone beyond what a
word can hold.

A refused payload is counted like any other, and its accumulator may go on
being used.  So the count follows the uses of the accumulator and not their
answers (`toNat_size_uses`), whatever limits the payloads met.
-/

/-- What can be done with an accumulator.  Each payload meets a stored limit. -/
inductive Use where
  | append (rawLimit : Int64) (payload : ByteArray)
  | take
  | reset

/-- What is left of an accumulator by a use of it, refused or not. -/
def use (accumulator : Accumulator) : Use → Accumulator
  | .append rawLimit payload =>
      match accumulator.append payload (.ofRaw rawLimit) with
      | .ok next => next
      | .error refusal => refusal.counted
  | .take => accumulator.take.2
  | .reset => accumulator.reset

def uses (accumulator : Accumulator) (history : List Use) : Accumulator :=
  history.foldl use accumulator

/-- What a use makes of the sum of the lengths since the last reset. -/
def Use.sum (total : Nat) : Use → Nat
  | append _ payload => total + payload.size
  | take => total
  | reset => 0

/-- The sum of the lengths of all payloads since the last reset. -/
def exactSum (history : List Use) : Nat :=
  history.foldl Use.sum 0

/-! ## The count in words -/

/-- The count moves by saturating addition: a sum of words that wraps around is
replaced by the largest word. -/
theorem advance_toNat (size length : UInt64) :
    advance size length.toNat =
      if size + length < size then UInt64.ofNat maxSize else size + length := by
  have first := size.toNat_lt
  have second := length.toNat_lt
  have largest : (UInt64.ofNat maxSize).toNat = maxSize := by decide
  have sum := UInt64.toNat_add size length
  apply UInt64.toNat_inj.mp
  rw [toNat_advance]
  split
  · rename_i wraps
    rw [UInt64.lt_iff_toNat_lt] at wraps
    rw [largest, maxSize]
    omega
  · rename_i fits
    rw [UInt64.lt_iff_toNat_lt] at fits
    rw [maxSize]
    omega

theorem size_use_append (accumulator : Accumulator) (rawLimit : Int64) (payload : ByteArray) :
    (accumulator.use (.append rawLimit payload)).size =
      advance accumulator.size payload.size := by
  rw [use]
  cases appended : accumulator.append payload (.ofRaw rawLimit) with
  | ok next => rw [append_eq_ok appended]
  | error refusal =>
      obtain ⟨bound, _, _, rfl⟩ :=
        (append_eq_error_iff accumulator payload (.ofRaw rawLimit) refusal).mp appended
      rfl

/-- One use moves the count as it moves the exact sum, up to the largest
count. -/
theorem toNat_size_use {accumulator : Accumulator} {total : Nat}
    (counted : accumulator.size.toNat = min total maxSize) (next : Use) :
    (accumulator.use next).size.toNat = min (next.sum total) maxSize := by
  cases next with
  | append rawLimit payload =>
      rw [size_use_append, toNat_advance, counted, Use.sum]
      omega
  | take => exact counted
  | reset => rfl

theorem toNat_size_uses (history : List Use) :
    (empty.uses history).size.toNat = min (exactSum history) maxSize := by
  induction history using List.reverseRecOn with
  | nil => rfl
  | append_singleton earlier next ih =>
      rw [uses, exactSum, List.foldl_append, List.foldl_append]
      exact toNat_size_use ih next

/-! ## The limit in words -/

theorem exists_refusal_iff (accumulator : Accumulator) (payload : ByteArray) (limit : SizeLimit) :
    (∃ refusal, accumulator.append payload limit = .error refusal) ↔
      limit.isExceededBy (advance accumulator.size payload.size) = true := by
  constructor
  · rintro ⟨refusal, refused⟩
    obtain ⟨bound, rfl, beyond, _⟩ := (append_eq_error_iff ..).mp refused
    exact decide_eq_true beyond
  · intro exceeded
    cases limit with
    | unlimited => cases exceeded
    | bounded bound =>
        exact ⟨_, (append_eq_error_iff ..).mpr ⟨bound, rfl, of_decide_eq_true exceeded, rfl⟩⟩

/-- Every stored limit is below the largest count, so the count exceeds what the
limit is read as exactly when the unbounded number exceeds what is stored. -/
theorem isExceededBy_advance_iff (rawLimit : Int64) (bytes : Nat) :
    (SizeLimit.ofRaw rawLimit).isExceededBy (advance 0 bytes) = true ↔
      0 < rawLimit.toInt ∧ rawLimit.toInt < bytes := by
  by_cases positive : 0 < rawLimit
  · have above := SizeLimit.pos_iff_toInt_pos.mp positive
    rw [SizeLimit.ofRaw, dif_pos positive, SizeLimit.isExceededBy, decide_eq_true_eq,
      Sink.lt_advance_iff (SizeLimit.toNat_toUInt64_of_pos positive), and_iff_right above]
  · have below := mt SizeLimit.pos_iff_toInt_pos.mpr positive
    rw [SizeLimit.ofRaw, dif_neg positive]
    exact iff_of_false Bool.false_ne_true (mt And.left below)

/-- After any uses of an accumulator, whatever limits they met, a payload is
refused exactly when the number stored as the limit is positive and the exact
sum of the lengths since the last reset, its own among them, is above it.  The
refusal reports that sum, up to the largest count, and the limit.  Refused or
not, the payload moves the count by saturating addition of words, which keeps it
at the exact sum or at the largest count. -/
theorem append_is_exact (history : List Use) (rawLimit : Int64) (payload : ByteArray) :
    let reached := empty.uses history
    let total := exactSum history + payload.size
    let count := (reached.use (.append rawLimit payload)).size
    ((∃ refusal, reached.append payload (.ofRaw rawLimit) = .error refusal) ↔
      0 < rawLimit.toInt ∧ rawLimit.toInt < total) ∧
    (∀ refusal, reached.append payload (.ofRaw rawLimit) = .error refusal →
      ∃ actual bound, refusal.error = .tooLarge actual bound ∧
        Sink.Reports rawLimit total actual bound) ∧
    count.toNat = min total maxSize ∧
    (∀ length : UInt64, length.toNat = payload.size →
      count = if reached.size + length < reached.size then UInt64.ofNat maxSize
        else reached.size + length) := by
  intro reached total count
  have moved : count = advance reached.size payload.size := size_use_append reached rawLimit payload
  have before := toNat_size_uses history
  have counted : count.toNat = min total maxSize :=
    toNat_size_use before (.append rawLimit payload)
  refine ⟨?_, ?_, counted, ?_⟩
  · rw [exists_refusal_iff, advance_of_toNat_eq before, isExceededBy_advance_iff]
  · intro refusal refused
    obtain ⟨bound, limited, _, rfl⟩ := (append_eq_error_iff ..).mp refused
    refine ⟨_, bound, rfl, ?_, (SizeLimit.ofRaw_eq_bounded_iff.mp limited).2⟩
    rw [← moved, counted]
  · intro length same
    rw [moved, ← same, advance_toNat]

end Accumulator
end Reassembly
