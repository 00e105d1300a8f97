import Mathlib.Algebra.Order.Ring.Nat
import Reassembly.Diagnostics.Date
import Reassembly.Proofs.FixedWidth

namespace Reassembly
namespace Diagnostics
namespace Date

/-!
# The order of dates

A later day has a later year, or the same year and a later month, or both the
same and a later day of the month (`cmp_ofEpochDay`).  The year decides because
the first days of the years stand in order; within a year the months do.

A year has as many days as its months together (`daysBefore_add_one`), so the
walk along the months ends in one of them and no day of a month goes beyond its
length.
-/

/-! ## Years -/

theorem isLeap_iff (year : Int) :
    isLeap year = true ↔ year % 4 = 0 ∧ (year % 100 ≠ 0 ∨ year % 400 = 0) := by
  simp only [isLeap, Bool.and_eq_true, Bool.or_eq_true, decide_eq_true_eq]

theorem sum_monthLengths (leap : Bool) :
    (monthLengths leap).sum = if leap then 366 else 365 := by
  cases leap <;> rfl

/-- A year has the days of its months. -/
theorem daysBefore_add_one (year : Int) :
    daysBefore (year + 1) = daysBefore year + (monthLengths (isLeap year)).sum := by
  rw [sum_monthLengths, daysBefore, daysBefore]
  by_cases leap : isLeap year = true
  · rw [if_pos leap]
    rw [isLeap_iff] at leap
    omega
  · rw [if_neg leap]
    rw [isLeap_iff] at leap
    omega

/-- Later years start later. -/
theorem daysBefore_le_of_le {left right : Int} (earlier : left ≤ right) :
    daysBefore left ≤ daysBefore right := by
  have each (year : Int) : daysBefore year < daysBefore (year + 1) := by
    rw [daysBefore_add_one, sum_monthLengths]
    split <;> omega
  exact (strictMono_int_of_lt_succ each).monotone earlier

theorem lt_of_yearOf_lt {left right : Int} (less : yearOf left < yearOf right) : left < right :=
  calc
    left < daysBefore (yearOf left + 1) := lt_daysBefore_yearOf_add_one left
    _ ≤ daysBefore (yearOf right) := daysBefore_le_of_le less
    _ ≤ right := daysBefore_yearOf_le right

/-- The day within its year, counted from zero. -/
def dayOfYear (day : Int) : Nat :=
  (day - daysBefore (yearOf day)).toNat

theorem daysBefore_add_dayOfYear (day : Int) :
    daysBefore (yearOf day) + dayOfYear day = day := by
  have first := daysBefore_yearOf_le day
  rw [dayOfYear]
  omega

theorem dayOfYear_lt (day : Int) :
    dayOfYear day < (monthLengths (isLeap (yearOf day))).sum := by
  have next := lt_daysBefore_yearOf_add_one day
  have place := daysBefore_add_dayOfYear day
  rw [daysBefore_add_one] at next
  omega

theorem cmp_of_yearOf_eq {left right : Int} (same : yearOf left = yearOf right) :
    cmp left right = cmp (dayOfYear left) (dayOfYear right) := by
  have shifted := cmp_add_left (daysBefore (yearOf left)) (dayOfYear left : Int) (dayOfYear right)
  rw [daysBefore_add_dayOfYear, same, daysBefore_add_dayOfYear, cmp_natCast] at shifted
  exact shifted

/-! ## Months -/

section Months

variable {lengths : List Nat} {month day left right : Nat}

theorem le_month_inYear (lengths : List Nat) (month day : Nat) :
    month ≤ (inYear lengths month day).1 := by
  fun_induction inYear lengths month day with
  | case1 => exact Nat.le_refl _
  | case2 _ _ _ _ _ _ ih => exact Nat.le_of_succ_le ih
  | case3 => exact Nat.le_refl _

theorem inYear_of_lt {length : Nat} {later : List Nat} (some_later : later ≠ [])
    (within : day < length) : inYear (length :: later) month day = (month, day + 1) := by
  obtain ⟨second, rest, rfl⟩ := List.exists_cons_of_ne_nil some_later
  rw [inYear, if_pos within]

theorem inYear_of_ge {length : Nat} {later : List Nat} (some_later : later ≠ [])
    (beyond : length ≤ day) :
    inYear (length :: later) month day = inYear later (month + 1) (day - length) := by
  obtain ⟨second, rest, rfl⟩ := List.exists_cons_of_ne_nil some_later
  rw [inYear, if_neg (Nat.not_lt.mpr beyond)]

theorem inYear_singleton (length month day : Nat) : inYear [length] month day = (month, day + 1) := by
  simp [inYear]

theorem cmp_same_month (month left right : Nat) :
    cmp left right = (cmp month month).then (cmp (left + 1) (right + 1)) := by
  rw [cmp_self_eq_eq, cmp_add_right]
  rfl

/-- Within a year days compare by month and then by day of the month. -/
theorem cmp_inYear (some_month : lengths ≠ []) (month left right : Nat) :
    cmp left right =
      (cmp (inYear lengths month left).1 (inYear lengths month right).1).then
        (cmp (inYear lengths month left).2 (inYear lengths month right).2) := by
  induction lengths generalizing month left right with
  | nil => contradiction
  | cons length later ih =>
      by_cases last : later = []
      · subst last
        rw [inYear_singleton, inYear_singleton]
        exact cmp_same_month month left right
      · rcases Nat.lt_or_ge left length with leftHere | leftLater <;>
          rcases Nat.lt_or_ge right length with rightHere | rightLater
        · rw [inYear_of_lt last leftHere, inYear_of_lt last rightHere]
          exact cmp_same_month month left right
        · have next := le_month_inYear later (month + 1) (right - length)
          rw [inYear_of_lt last leftHere, inYear_of_ge last rightLater,
            (cmp_eq_lt_iff left right).mpr (by omega), (cmp_eq_lt_iff month _).mpr next]
          rfl
        · have next := le_month_inYear later (month + 1) (left - length)
          rw [inYear_of_ge last leftLater, inYear_of_lt last rightHere,
            (cmp_eq_gt_iff left right).mpr (by omega), (cmp_eq_gt_iff _ month).mpr next]
          rfl
        · have shifted := cmp_add_left length (left - length) (right - length)
          rw [Nat.add_sub_cancel' leftLater, Nat.add_sub_cancel' rightLater] at shifted
          rw [inYear_of_ge last leftLater, inYear_of_ge last rightLater, shifted]
          exact ih last (month + 1) (left - length) (right - length)

/-- The walk ends in one of the months, at a day that it has. -/
theorem inYear_bounds (some_month : lengths ≠ []) (month : Nat) (within : day < lengths.sum) :
    (inYear lengths month day).1 < month + lengths.length ∧
      ∃ length ∈ lengths, (inYear lengths month day).2 ≤ length := by
  induction lengths generalizing month day with
  | nil => contradiction
  | cons length later ih =>
      rw [List.sum_cons] at within
      rw [List.length_cons]
      by_cases last : later = []
      · subst last
        rw [inYear_singleton]
        exact ⟨Nat.lt_succ_self month, length, List.mem_singleton_self length, within⟩
      · rcases Nat.lt_or_ge day length with here | beyond
        · rw [inYear_of_lt last here]
          exact ⟨Nat.lt_add_of_pos_right (Nat.succ_pos _), length, List.mem_cons_self, here⟩
        · have rest : day - length < later.sum := by omega
          rw [inYear_of_ge last beyond]
          obtain ⟨among, found, member, upTo⟩ := ih last (month + 1) rest
          exact ⟨by omega, found, List.mem_cons_of_mem length member, upTo⟩

end Months

/-! ## Dates -/

section Dates

variable (day left right : Int)

theorem ofEpochDay_eq :
    ofEpochDay day =
      let year := yearOf (day + epochDay)
      let place := inYear (monthLengths (isLeap year)) 1 (dayOfYear (day + epochDay))
      ⟨year, place.1, place.2⟩ := rfl

theorem monthLengths_ne_nil (leap : Bool) : monthLengths leap ≠ [] :=
  List.cons_ne_nil _ _

/-- Days compare by year, then by month, then by day of the month. -/
theorem cmp_ofEpochDay :
    cmp left right =
      (cmp (ofEpochDay left).year (ofEpochDay right).year).then
        ((cmp (ofEpochDay left).month (ofEpochDay right).month).then
          (cmp (ofEpochDay left).day (ofEpochDay right).day)) := by
  rw [← cmp_add_right left right epochDay]
  refine cmp_eq_then lt_of_yearOf_lt lt_of_yearOf_lt ?_
  intro (same : yearOf (left + epochDay) = yearOf (right + epochDay))
  rw [cmp_of_yearOf_eq same, ofEpochDay_eq, ofEpochDay_eq, ← same]
  exact cmp_inYear (monthLengths_ne_nil _) 1 _ _

/-- No month after the twelfth, and no day after the thirty-first. -/
theorem ofEpochDay_bounds : (ofEpochDay day).month ≤ 12 ∧ (ofEpochDay day).day ≤ 31 := by
  have short : ∀ leap, ∀ length ∈ monthLengths leap, length ≤ 31 := by decide
  obtain ⟨among, length, member, upTo⟩ := inYear_bounds (monthLengths_ne_nil _) 1
    (dayOfYear_lt (day + epochDay))
  exact ⟨Nat.le_of_lt_succ among, Nat.le_trans upTo (short _ length member)⟩

end Dates

end Date
end Diagnostics
end Reassembly
