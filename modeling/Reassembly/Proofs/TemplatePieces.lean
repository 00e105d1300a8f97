import Mathlib.Data.List.Infix
import Reassembly.Diagnostics.Template

namespace Reassembly
namespace Diagnostics
namespace Template

/-!
# A template and its pieces

A template is cut at all its placeholders.  `IsCut` says so of given pieces
without looking for anything: joined by placeholders they make up the template,
and none of them holds a placeholder itself.

Every template is cut in just one way, the one that looking from left to right
finds (`isCut_iff`).  In it a placeholder stands in front of every piece but the
first, and nowhere else (`IsCut.occurrences_eq`).
-/

/-- A text without placeholders. -/
def IsBare (text : List Char) : Prop :=
  ¬ placeholder <:+: text

instance : DecidablePred IsBare :=
  fun text => inferInstanceAs (Decidable (¬ placeholder <:+: text))

/-- A template as the pieces between its placeholders. -/
structure IsCut (template first : List Char) (later : List (List Char)) : Prop where
  joined : first ++ later.flatMap (placeholder ++ ·) = template
  bare : ∀ piece ∈ first :: later, IsBare piece

/-- At how many places of a text a placeholder stands.  Its two halves differ, so
no two of these places overlap. -/
def occurrences (text : List Char) : Nat :=
  text.tails.countP placeholder.isPrefixOf

variable {char : Char} {text first rest : List Char} {later : List (List Char)}

/-! ## Where a placeholder can stand -/

/-- The one way in which a text begins with a placeholder. -/
theorem placeholder_prefix_iff : placeholder <+: text ↔ ∃ rest, text = '{' :: '}' :: rest := by
  constructor
  · rintro ⟨rest, rfl⟩
    exact ⟨rest, rfl⟩
  · rintro ⟨rest, rfl⟩
    exact ⟨rest, rfl⟩

theorem isBare_nil : IsBare [] := by
  decide

theorem isBare_cons_iff :
    IsBare (char :: text) ↔ ¬ placeholder <+: char :: text ∧ IsBare text := by
  rw [IsBare, List.infix_cons_iff, not_or, IsBare]

/-- No placeholder begins in a bare text and ends behind it, unless what is
behind it begins with the second half of one. -/
theorem not_prefix_append_of_isBare (bare : IsBare (char :: text))
    (apart : ∀ after, rest ≠ '}' :: after) : ¬ placeholder <+: char :: (text ++ rest) := by
  rw [placeholder_prefix_iff]
  rintro ⟨after, same⟩
  rcases List.cons.inj same with ⟨rfl, behind⟩
  cases text with
  | nil => exact apart after behind
  | cons next text =>
      rw [List.cons_append] at behind
      rcases List.cons.inj behind with ⟨rfl, _⟩
      exact (isBare_cons_iff.mp bare).1 (placeholder_prefix_iff.mpr ⟨text, rfl⟩)

/-! ## Looking for the first placeholder -/

theorem find?_cons_of_apart (apart : ¬ placeholder <+: char :: text) :
    find? (char :: text) = (find? text).map fun (before, after) => (char :: before, after) := by
  rw [find?]
  rintro rest rfl rfl
  exact apart (placeholder_prefix_iff.mpr ⟨rest, rfl⟩)

theorem find?_of_isBare (bare : IsBare text) : find? text = none := by
  induction text with
  | nil => rfl
  | cons char text ih =>
      rw [isBare_cons_iff] at bare
      rw [find?_cons_of_apart bare.1, ih bare.2, Option.map_none]

theorem find?_append (bare : IsBare first) :
    find? (first ++ (placeholder ++ rest)) = some (first, rest) := by
  induction first with
  | nil => rfl
  | cons char first ih =>
      have apart : ¬ placeholder <+: char :: (first ++ (placeholder ++ rest)) :=
        not_prefix_append_of_isBare bare nofun
      rw [List.cons_append, find?_cons_of_apart apart, ih (isBare_cons_iff.mp bare).2,
        Option.map_some]

/-- Cutting a template off at its first placeholder, and what is left in turn. -/
theorem pieces_eq (text : List Char) :
    pieces text =
      match find? text with
      | none => (text, [])
      | some (before, after) => (before, (pieces after).1 :: (pieces after).2) := by
  fun_induction find? text with
  | case1 rest => rfl
  | case2 char rest apart ih =>
      rw [pieces.eq_2 char rest apart, ih]
      cases find? rest <;> rfl
  | case3 => rfl

/-! ## The only cut -/

namespace IsCut

theorem bare_first (cut : IsCut text first later) : IsBare first :=
  cut.bare first List.mem_cons_self

/-- What is left behind the first placeholder is cut as the whole is. -/
theorem tail {second : List Char} (cut : IsCut text first (second :: later)) :
    IsCut (second ++ later.flatMap (placeholder ++ ·)) second later :=
  ⟨rfl, fun piece member => cut.bare piece (List.mem_cons_of_mem first member)⟩

theorem eq_first (cut : IsCut text first []) : text = first := by
  rw [← cut.joined, List.flatMap_nil, List.append_nil]

theorem find?_eq_none (cut : IsCut text first []) : find? text = none := by
  rw [cut.eq_first]
  exact find?_of_isBare cut.bare_first

theorem find?_eq_some {second : List Char} (cut : IsCut text first (second :: later)) :
    find? text = some (first, second ++ later.flatMap (placeholder ++ ·)) := by
  rw [← cut.joined, List.flatMap_cons, List.append_assoc]
  exact find?_append cut.bare_first

theorem pieces_eq (cut : IsCut text first later) : pieces text = (first, later) := by
  induction later generalizing text first with
  | nil =>
      rw [Template.pieces_eq, cut.find?_eq_none, cut.eq_first]
  | cons second later ih =>
      rw [Template.pieces_eq, cut.find?_eq_some]
      dsimp only
      rw [ih cut.tail]

end IsCut

/-- What looking from left to right finds is a cut. -/
theorem isCut_pieces (text : List Char) : IsCut text (pieces text).1 (pieces text).2 := by
  fun_induction pieces text with
  | case1 rest head tail cut ih =>
      rw [cut] at ih
      refine ⟨congrArg (placeholder ++ ·) ih.joined, ?_⟩
      rw [List.forall_mem_cons]
      exact ⟨isBare_nil, ih.bare⟩
  | case2 char rest apart head tail cut ih =>
      rw [cut] at ih
      have bare := List.forall_mem_cons.mp ih.bare
      refine ⟨congrArg (char :: ·) ih.joined, ?_⟩
      rw [List.forall_mem_cons, isBare_cons_iff]
      refine ⟨⟨?_, bare.1⟩, bare.2⟩
      -- a placeholder at the front would be one of the whole text
      rw [placeholder_prefix_iff]
      rintro ⟨after, same⟩
      rcases List.cons.inj same with ⟨rfl, rfl⟩
      exact apart _ rfl ih.joined.symm
  | case3 =>
      refine ⟨rfl, ?_⟩
      rw [List.forall_mem_singleton]
      exact isBare_nil

theorem isCut_iff :
    IsCut text first later ↔ first = (pieces text).1 ∧ later = (pieces text).2 := by
  constructor
  · intro cut
    rw [cut.pieces_eq]
    exact ⟨rfl, rfl⟩
  · rintro ⟨rfl, rfl⟩
    exact isCut_pieces text

/-! ## How many placeholders there are -/

theorem occurrences_cons (char : Char) (text : List Char) :
    occurrences (char :: text) =
      occurrences text + if placeholder <+: char :: text then 1 else 0 := by
  simp only [occurrences, List.tails_cons, List.countP_cons, List.isPrefixOf_iff_prefix]

/-- Placeholders do not overlap: counting them from left to right leaves none
out. -/
theorem placeholders_eq_occurrences (text : List Char) :
    placeholders text = occurrences text := by
  fun_induction placeholders text with
  | case1 rest ih =>
      have begins : placeholder <+: '{' :: '}' :: rest := ⟨rest, rfl⟩
      have apart : ¬ placeholder <+: '}' :: rest := by
        rw [placeholder_prefix_iff]
        nofun
      rw [ih, occurrences_cons, occurrences_cons, if_pos begins, if_neg apart]
  | case2 char rest apart ih =>
      rw [ih, occurrences_cons, if_neg, Nat.add_zero]
      rw [placeholder_prefix_iff]
      rintro ⟨after, same⟩
      rcases List.cons.inj same with ⟨rfl, rfl⟩
      exact apart _ rfl rfl
  | case3 => rfl

theorem IsCut.occurrences_eq (cut : IsCut text first later) :
    occurrences text = later.length := by
  rw [← placeholders_eq_occurrences, ← length_pieces, cut.pieces_eq]

end Template
end Diagnostics
end Reassembly
