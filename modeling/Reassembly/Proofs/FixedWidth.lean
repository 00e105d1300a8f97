import Mathlib.Algebra.Order.Ring.Int
import Mathlib.Data.Char
import Mathlib.Data.List.Lex
import Mathlib.Order.Compare
import Reassembly.Text.Decimal

namespace Reassembly

/-!
# The order of numerals of one width

Texts are ordered by their first difference.  If both are parted at the same
length, the front parts decide first and the rest decides between equal fronts;
numbers that are parted by division do the same.  So padded numerals of one width
have the order of their numbers (`compares_padded`), and so have rows of such
numerals with the same separators between them.

An `Ordering` names one of the three cases of an order.  To say that it compares
two texts as it compares two numbers carries all three cases over at once.
-/

/-- Things that a first part orders, and whose order is known where that part is
the same, compare part by part. -/
theorem cmp_eq_then {α β : Type} [LinearOrder α] [LinearOrder β] {left right : α}
    {leftPart rightPart : β} {rest : Ordering} (less : leftPart < rightPart → left < right)
    (more : rightPart < leftPart → right < left)
    (same : leftPart = rightPart → cmp left right = rest) :
    cmp left right = (cmp leftPart rightPart).then rest := by
  rcases lt_trichotomy leftPart rightPart with first | equal | second
  · rw [(cmp_eq_lt_iff left right).mpr (less first), (cmp_eq_lt_iff _ _).mpr first]
    rfl
  · rw [same equal, (cmp_eq_eq_iff _ _).mpr equal]
    rfl
  · rw [(cmp_eq_gt_iff left right).mpr (more second), (cmp_eq_gt_iff _ _).mpr second]
    rfl

/-! ## Numbers -/

theorem cmp_natCast (left right : Nat) : cmp (left : Int) (right : Int) = cmp left right :=
  StrictMono.cmp_map_eq (fun _ _ => Int.ofNat_lt.mpr) left right

theorem lt_of_ediv_lt {left right step : Int} (positive : 0 < step)
    (less : left / step < right / step) : left < right := by
  by_contra behind
  exact absurd (Int.ediv_le_ediv positive (Int.not_lt.mp behind)) (Int.not_le.mpr less)

/-- Numbers compare by quotient and then by remainder. -/
theorem cmp_ediv_emod {step : Int} (positive : 0 < step) (left right : Int) :
    cmp left right =
      (cmp (left / step) (right / step)).then (cmp (left % step) (right % step)) := by
  refine cmp_eq_then (lt_of_ediv_lt positive) (lt_of_ediv_lt positive) ?_
  intro same
  have shifted := cmp_add_left (step * (left / step)) (left % step) (right % step)
  rw [Int.mul_ediv_add_emod, same, Int.mul_ediv_add_emod] at shifted
  exact shifted

theorem cmp_div_mod {step : Nat} (positive : 0 < step) (left right : Nat) :
    cmp left right =
      (cmp (left / step) (right / step)).then (cmp (left % step) (right % step)) := by
  have parts := cmp_ediv_emod (Int.natCast_pos.mpr positive) left right
  rw [cmp_natCast, ← Int.natCast_ediv, ← Int.natCast_ediv, ← Int.natCast_emod,
    ← Int.natCast_emod, cmp_natCast, cmp_natCast] at parts
  exact parts

namespace Text

/-! ## Texts -/

variable {width left right : Nat} {first second firstRest secondRest : List Char}
  {front rest : Ordering}

theorem append_lt_append (same : first.length = second.length) (less : first < second) :
    first ++ firstRest < second ++ secondRest := by
  induction first generalizing second with
  | nil =>
      rw [List.eq_nil_of_length_eq_zero same.symm] at less
      cases less
  | cons char further ih =>
      obtain ⟨other, others, rfl⟩ := List.exists_cons_of_length_eq_add_one same.symm
      rcases List.cons_lt_cons_iff.mp less with before | ⟨rfl, later⟩
      · exact List.cons_lt_cons_iff.mpr (.inl before)
      · exact List.cons_lt_cons_iff.mpr (.inr ⟨rfl, ih (Nat.succ.inj same) later⟩)

theorem compares_append_left (shared : List Char) (back : rest.Compares firstRest secondRest) :
    rest.Compares (shared ++ firstRest) (shared ++ secondRest) := by
  induction shared with
  | nil => exact back
  | cons char further ih =>
      cases rest with
      | lt => exact List.cons_lt_cons_iff.mpr (.inr ⟨rfl, ih⟩)
      | eq => exact congrArg (char :: ·) ih
      | gt => exact List.cons_lt_cons_iff.mpr (.inr ⟨rfl, ih⟩)

/-- Texts parted at the same length compare part by part. -/
theorem compares_append (same : first.length = second.length)
    (ahead : front.Compares first second) (back : rest.Compares firstRest secondRest) :
    (front.then rest).Compares (first ++ firstRest) (second ++ secondRest) := by
  cases front with
  | lt => exact append_lt_append same ahead
  | eq =>
      have equal : first = second := ahead
      subst equal
      exact compares_append_left first back
  | gt => exact append_lt_append same.symm ahead

/-! ## Padded numerals -/

theorem length_padded (some_width : 0 < width) {number : Nat} (small : number < 10 ^ width) :
    (padded width number).length = width := by
  have short := (Nat.length_toDigits_le_iff (by decide) some_width).mpr small
  rw [padded, List.length_leftpad, decimal, Nat.max_eq_left short]

/-- A padded numeral is that of all digits but the last, and the last. -/
theorem padded_succ (some_width : 0 < width) (number : Nat) :
    padded (width + 1) number = padded width (number / 10) ++ [(number % 10).digitChar] := by
  rcases Nat.lt_or_ge number 10 with single | more
  · obtain ⟨fewer, rfl⟩ := Nat.exists_eq_add_one.mpr some_width
    have digits : decimal number = [number.digitChar] := Nat.toDigits_of_lt_base single
    rw [Nat.div_eq_of_lt single, Nat.mod_eq_of_lt single, padded, padded, digits, List.leftpad,
      List.leftpad]
    change List.replicate (fewer + 1) '0' ++ _ = List.replicate fewer '0' ++ ['0'] ++ _
    rw [List.replicate_succ']
  · have digits : decimal number = decimal (number / 10) ++ [(number % 10).digitChar] :=
      Nat.toDigits_of_base_le (by decide) more
    rw [padded, padded, digits, List.leftpad, List.leftpad, List.length_append,
      List.length_singleton, Nat.add_sub_add_right, List.append_assoc]

theorem padded_one {digit : Nat} (single : digit < 10) : padded 1 digit = [digit.digitChar] := by
  have digits : decimal digit = [digit.digitChar] := Nat.toDigits_of_lt_base single
  rw [padded, digits]
  rfl

theorem cmp_digitChar : ∀ left < 10, ∀ right < 10,
    cmp (Nat.digitChar left) (Nat.digitChar right) = cmp left right := by
  decide

theorem compares_digit (leftSmall : left < 10) (rightSmall : right < 10) :
    (cmp left right).Compares [left.digitChar] [right.digitChar] := by
  have chars := cmp_compares left.digitChar right.digitChar
  rw [cmp_digitChar left leftSmall right rightSmall] at chars
  generalize cmp left right = order at chars ⊢
  cases order with
  | lt => exact List.cons_lt_cons_iff.mpr (.inl chars)
  | eq => exact congrArg List.singleton chars
  | gt => exact List.cons_lt_cons_iff.mpr (.inl chars)

/-- Padded numerals of one width have the order of their numbers. -/
theorem compares_padded (some_width : 0 < width) (leftSmall : left < 10 ^ width)
    (rightSmall : right < 10 ^ width) :
    (cmp left right).Compares (padded width left) (padded width right) := by
  induction width, some_width using Nat.le_induction generalizing left right with
  | base =>
      rw [padded_one leftSmall, padded_one rightSmall]
      exact compares_digit leftSmall rightSmall
  | succ width some_width ih =>
      have leftFront : left / 10 < 10 ^ width := by omega
      have rightFront : right / 10 < 10 ^ width := by omega
      have lengths := (length_padded some_width leftFront).trans
        (length_padded some_width rightFront).symm
      rw [cmp_div_mod (by decide : 0 < 10) left right, padded_succ some_width,
        padded_succ some_width]
      exact compares_append lengths (ih leftFront rightFront)
        (compares_digit (Nat.mod_lt left (by decide)) (Nat.mod_lt right (by decide)))

/-- A padded numeral in front decides first, whatever separates it from the
rest. -/
theorem compares_padded_append (some_width : 0 < width) (leftSmall : left < 10 ^ width)
    (rightSmall : right < 10 ^ width) (separator : Char)
    (back : rest.Compares firstRest secondRest) :
    ((cmp left right).then rest).Compares (padded width left ++ separator :: firstRest)
      (padded width right ++ separator :: secondRest) := by
  apply compares_append
  · rw [length_padded some_width leftSmall, length_padded some_width rightSmall]
  · exact compares_padded some_width leftSmall rightSmall
  · exact compares_append_left [separator] back

end Text
end Reassembly
