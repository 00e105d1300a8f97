namespace Reassembly

/-!
# Session settings and the size limit

A session stores the size limit of assembled messages as the signed number it
was configured with.  Only a positive number is a limit: zero and every
negative number switch the check off.  `SizeLimit.ofRaw` is the one place
where the signed number is read, so the rest of the library works with a
`SizeLimit` and never with a sign.
-/

/-- A limit that is in force.  Zero is not among them, because a stored zero
means that nothing is limited. -/
structure Bound where
  bytes : UInt64
  positive : 0 < bytes
deriving DecidableEq

namespace Bound

/-- The bound of this many bytes, if it is one. -/
def ofUInt64? (bytes : UInt64) : Option Bound :=
  if positive : 0 < bytes then some ⟨bytes, positive⟩ else none

end Bound

inductive SizeLimit where
  | unlimited
  | bounded (bound : Bound)
deriving DecidableEq

namespace SizeLimit

theorem toUInt64_pos : ∀ {raw : Int64}, 0 < raw → 0 < raw.toUInt64
  | ⟨bits⟩, positive => by
    rw [UInt64.pos_iff_ne_zero]
    intro zero
    have none : bits = 0 := zero
    subst none
    exact absurd positive (by decide)

/-- Read a configured number: a positive one is a bound, any other is none. -/
def ofRaw (raw : Int64) : SizeLimit :=
  if positive : 0 < raw then .bounded ⟨raw.toUInt64, toUInt64_pos positive⟩ else .unlimited

theorem pos_iff_toInt_pos {raw : Int64} : 0 < raw ↔ 0 < raw.toInt :=
  Int64.lt_iff_toInt_lt

theorem toNat_toUInt64_of_pos {raw : Int64} (positive : 0 < raw) :
    (raw.toUInt64.toNat : Int) = raw.toInt := by
  have within : 0 ≤ raw.toInt := Int.le_of_lt (pos_iff_toInt_pos.mp positive)
  rw [Int64.toNat_toUInt64_of_le (Int64.le_of_lt positive)]
  exact Int.toNat_of_nonneg within

/-- A stored number is a bound exactly when it is positive, and then it is the
bound of as many bytes. -/
theorem ofRaw_eq_bounded_iff {raw : Int64} {bound : Bound} :
    ofRaw raw = .bounded bound ↔ 0 < raw.toInt ∧ (bound.bytes.toNat : Int) = raw.toInt := by
  unfold ofRaw
  by_cases positive : 0 < raw
  · rw [dif_pos positive]
    constructor
    · intro same
      rw [← SizeLimit.bounded.inj same]
      exact ⟨pos_iff_toInt_pos.mp positive, toNat_toUInt64_of_pos positive⟩
    · rintro ⟨_, bytes⟩
      rw [← toNat_toUInt64_of_pos positive] at bytes
      rcases bound with ⟨stored, _⟩
      have same : stored = raw.toUInt64 := UInt64.toNat_inj.mp (Int.ofNat_inj.mp bytes)
      subst same
      rfl
  · rw [dif_neg positive]
    constructor
    · intro impossible
      cases impossible
    · rintro ⟨above, _⟩
      exact absurd (pos_iff_toInt_pos.mpr above) positive

/-- Whether this many bytes break the limit.  A message of exactly the bound
keeps it. -/
def isExceededBy : SizeLimit → UInt64 → Bool
  | unlimited, _ => false
  | bounded bound, size => decide (bound.bytes < size)

end SizeLimit

/-- The settings that sinks share.  The limit may be replaced at any time, and
every frame is judged by the limit stored when it arrives. -/
structure Session where
  rawLimit : Int64
deriving DecidableEq

namespace Session

/-- The limit of a session that configures none: 64 KiB. -/
def defaultRawLimit : Int64 := 65536

instance : Inhabited Session := ⟨⟨defaultRawLimit⟩⟩

def limit (session : Session) : SizeLimit :=
  .ofRaw session.rawLimit

def setLimit (session : Session) (raw : Int64) : Session :=
  { session with rawLimit := raw }

end Session

end Reassembly
