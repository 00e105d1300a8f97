import Reassembly.Proofs.ControlCharacters
import Reassembly.Proofs.StrictFilling

namespace Reassembly
namespace Diagnostics

/-!
# Escaping first or last

Escaping replaces characters one by one, and neither braces, colons nor dots are
among those that go or come.  So whatever a text is searched for stands at the
same places after escaping as before (`prefix_drop_map_iff`), and it does not
matter whether texts are escaped before a template is filled or a name
condensed, or the result is.

Of escaping, no more is used than that it keeps these marks: the laws hold of
any replacement of characters that does (`Keeps`).
-/

/-- No other character becomes this one, and this one stays. -/
def Keeps (replace : Char → Char) (mark : Char) : Prop :=
  ∀ char, replace char = mark ↔ char = mark

variable {replace : Char → Char}

theorem Keeps.replace_eq {mark : Char} (keeps : Keeps replace mark) : replace mark = mark :=
  (keeps mark).mpr rfl

/-! ## Marks in a text -/

section Marks

variable {mark text : List Char}

theorem map_eq_iff_of_keeps (keeps : ∀ char ∈ mark, Keeps replace char) :
    text.map replace = mark ↔ text = mark := by
  induction mark generalizing text with
  | nil => exact List.map_eq_nil_iff
  | cons first mark ih =>
      rw [List.forall_mem_cons] at keeps
      cases text with
      | nil => rfl
      | cons char text => rw [List.map_cons, List.cons.injEq, List.cons.injEq, keeps.1, ih keeps.2]

theorem map_eq_self_of_keeps (keeps : ∀ char ∈ mark, Keeps replace char) :
    mark.map replace = mark :=
  (map_eq_iff_of_keeps keeps).mpr rfl

theorem prefix_map_iff (keeps : ∀ char ∈ mark, Keeps replace char) :
    mark <+: text.map replace ↔ mark <+: text := by
  rw [List.prefix_map_iff]
  constructor
  · rintro ⟨front, begins, same⟩
    rwa [← (map_eq_iff_of_keeps keeps).mp same.symm]
  · intro begins
    exact ⟨mark, begins, (map_eq_self_of_keeps keeps).symm⟩

theorem infix_map_iff (keeps : ∀ char ∈ mark, Keeps replace char) :
    mark <:+: text.map replace ↔ mark <:+: text := by
  rw [List.infix_map_iff]
  constructor
  · rintro ⟨middle, within, same⟩
    rwa [← (map_eq_iff_of_keeps keeps).mp same.symm]
  · intro within
    exact ⟨mark, within, (map_eq_self_of_keeps keeps).symm⟩

/-- A mark stands at the same places before and after. -/
theorem prefix_drop_map_iff (keeps : ∀ char ∈ mark, Keeps replace char) (place : Nat) :
    mark <+: (text.map replace).drop place ↔ mark <+: text.drop place := by
  rw [← List.map_drop]
  exact prefix_map_iff keeps

end Marks

/-! ## Templates -/

namespace Template

variable {text first : List Char} {later arguments : List (List Char)}

/-- The cut of a template keeps its shape. -/
theorem IsCut.map (cut : IsCut text first later)
    (keeps : ∀ char ∈ placeholder, Keeps replace char) :
    IsCut (text.map replace) (first.map replace) (later.map (List.map replace)) where
  joined := by
    have held := map_eq_self_of_keeps keeps
    rw [← cut.joined, List.map_append, List.map_flatMap, List.flatMap_map]
    simp only [List.map_append, held]
  bare := by
    rw [← List.map_cons, List.forall_mem_map]
    intro piece member
    exact mt (infix_map_iff keeps).mp (cut.bare piece member)

theorem inTurn_map :
    inTurn (first.map replace) (later.map (List.map replace)) (arguments.map (List.map replace)) =
      (inTurn first later arguments).map replace := by
  rw [inTurn, inTurn, List.map_append, List.map_flatten, List.map_zipWith, List.zipWith_map]
  simp only [List.map_append]

theorem strict_map (keeps : ∀ char ∈ placeholder, Keeps replace char)
    (template : Option (List Char)) (arguments : List (List Char)) :
    strict (template.map (List.map replace)) (arguments.map (List.map replace)) =
      (strict template arguments).map (List.map replace) := by
  by_cases none_there : arguments = []
  · subst none_there
    cases template <;> rfl
  · have still : arguments.map (List.map replace) ≠ [] := mt List.map_eq_nil_iff.mp none_there
    cases template with
    | none =>
        rw [Option.map_none, strict_none still, strict_none none_there, List.length_map]
        rfl
    | some text =>
        have cut := isCut_pieces text
        rw [Option.map_some, strict_some cut none_there, strict_some (cut.map keeps) still,
          List.length_map, List.length_map, inTurn_map]
        split <;> rfl

theorem fill_map (keeps : ∀ char ∈ ' ' :: placeholder, Keeps replace char)
    (text : List Char) (arguments : List (List Char)) :
    fill (text.map replace) (arguments.map (List.map replace)) =
      (fill text arguments).map replace := by
  rw [List.forall_mem_cons] at keeps
  have cut := isCut_pieces text
  have held := map_eq_self_of_keeps keeps.2
  rw [cut.fill_eq, (cut.map keeps.2).fill_eq, inTurn_map, List.length_map, List.length_map,
    ← List.map_drop, ← List.map_drop, List.flatMap_map, List.flatMap_map]
  simp only [List.map_append, List.map_flatMap, List.map_cons, held, keeps.1.replace_eq]

theorem legacy_map (keeps : ∀ char ∈ ' ' :: placeholder, Keeps replace char)
    (template : Option (List Char)) (arguments : List (List Char)) :
    legacy (template.map (List.map replace)) (arguments.map (List.map replace)) =
      (legacy template arguments).map replace := by
  cases template with
  | none =>
      have space := (List.forall_mem_cons.mp keeps).1.replace_eq
      rw [Option.map_none, legacy_none, legacy_none, List.flatMap_map, List.map_flatMap]
      simp only [List.map_append, List.map_cons, List.map_nil, space]
  | some text => exact fill_map keeps text arguments

end Template

/-! ## Path names -/

namespace PathName

theorem extend_map (char : Char) (segments : List (List Char)) :
    extend (replace char) (segments.map (List.map replace)) =
      (extend char segments).map (List.map replace) := by
  cases segments <;> rfl

theorem keeps_colons (keeps : Keeps replace ':') : ∀ char ∈ colons, Keeps replace char := by
  simpa [colons] using keeps

theorem hasColons_map (keeps : Keeps replace ':') (name : List Char) :
    hasColons (name.map replace) = hasColons name := by
  rw [Bool.eq_iff_iff, hasColons_iff, hasColons_iff, infix_map_iff (keeps_colons keeps)]

theorem splitColons_map (keeps : Keeps replace ':') (name : List Char) :
    splitColons (name.map replace) = (splitColons name).map (List.map replace) := by
  fun_induction splitColons name with
  | case1 rest ih =>
      rw [List.map_cons, List.map_cons, keeps.replace_eq, splitColons, ih]
      rfl
  | case2 char rest apart ih =>
      have still : ¬ colons <+: (char :: rest).map replace := by
        rw [prefix_map_iff (keeps_colons keeps)]
        rintro ⟨after, same⟩
        rcases List.cons.inj same with ⟨first, second⟩
        exact apart after first.symm second.symm
      rw [List.map_cons] at still ⊢
      rw [splitColons_cons_of_apart still, ih, extend_map]
  | case3 => rfl

theorem splitDots_map (keeps : Keeps replace '.') (name : List Char) :
    splitDots (name.map replace) = (splitDots name).map (List.map replace) := by
  fun_induction splitDots name with
  | case1 rest ih =>
      rw [List.map_cons, keeps.replace_eq, splitDots, ih]
      rfl
  | case2 char rest other ih =>
      have still : replace char ≠ '.' := mt (keeps char).mp other
      rw [List.map_cons, splitDots_cons_of_ne still, ih, extend_map]
  | case3 => rfl

theorem segments_map (keeps : ∀ char ∈ [':', '.'], Keeps replace char) (name : List Char) :
    segments (name.map replace) = (segments name).map (List.map replace) := by
  rw [List.forall_mem_cons, List.forall_mem_singleton] at keeps
  rw [segments, segments, hasColons_map keeps.1, splitColons_map keeps.1, splitDots_map keeps.2]
  split <;> rfl

theorem initials_map (segments : List (List Char)) :
    initials (segments.map (List.map replace)) = (initials segments).map replace := by
  rw [initials, initials, List.filterMap_map, List.map_filterMap]
  congr 1
  funext segment
  exact List.head?_map

theorem condense_map (keeps : ∀ char ∈ [':', '.'], Keeps replace char) (name : List Char) :
    condense (name.map replace) = (condense name).map replace := by
  have dot : replace '.' = '.' := (keeps '.' (by decide)).replace_eq
  rw [condense, condense, segments_map keeps]
  rcases segments name with _ | ⟨first, _ | ⟨second, rest⟩⟩
  · rfl
  · rfl
  · have last : ((second :: rest).map (List.map replace)).getLast (List.cons_ne_nil _ _) =
        ((second :: rest).getLast (List.cons_ne_nil second rest)).map replace :=
      List.getLast_map _
    rw [List.map_append, ← initials_map, List.map_dropLast]
    simp only [List.map_cons, dot]
    rw [← last]
    rfl

end PathName

/-! ## Escaping -/

/-- Escaping keeps whatever it neither replaces nor puts in the place of what it
replaces. -/
theorem keeps_escapeChar {mark : Char} (visible : Text.isControl mark = false)
    (original : mark ∉ ['|', '<', '?']) : Keeps escapeChar mark := by
  intro char
  constructor
  · intro same
    simp only [List.mem_cons, List.not_mem_nil, or_false, not_or] at original
    unfold escapeChar at same
    split at same
    · exact absurd same.symm original.1
    · split at same
      · exact absurd same.symm original.2.1
      · split at same
        · exact absurd same.symm original.2.2
        · exact same
  · rintro rfl
    exact escapeChar_of_visible visible

/-- The marks that templates and names are searched for, and the space that
legacy formatting adds. -/
theorem keeps_marks {marks : List Char} (searched : marks ⊆ [' ', '{', '}', ':', '.']) :
    ∀ mark ∈ marks, Keeps escapeChar mark := by
  have plain : ∀ mark ∈ [' ', '{', '}', ':', '.'],
      Text.isControl mark = false ∧ mark ∉ ['|', '<', '?'] := by
    simp [Text.isControl]
  intro mark member
  exact keeps_escapeChar (plain mark (searched member)).1 (plain mark (searched member)).2

/-- Escaping goes through both ways of filling a template, errors and all, and
through condensing a name.  It moves no placeholder and no separator. -/
theorem escape_first_or_last (template : Option (List Char)) (arguments : List (List Char))
    (name : List Char) :
    Template.strict (template.map escape) (arguments.map escape) =
      (Template.strict template arguments).map escape ∧
    Template.legacy (template.map escape) (arguments.map escape) =
      escape (Template.legacy template arguments) ∧
    PathName.condense (escape name) = escape (PathName.condense name) ∧
    ∀ mark ∈ [Template.placeholder, PathName.colons, ['.']], ∀ (text : List Char) (place : Nat),
      mark <+: (escape text).drop place ↔ mark <+: text.drop place := by
  refine ⟨?_, ?_, ?_, ?_⟩
  · exact Template.strict_map (keeps_marks (by decide)) template arguments
  · exact Template.legacy_map (keeps_marks (by decide)) template arguments
  · exact PathName.condense_map (keeps_marks (by decide)) name
  · have searched : ∀ mark ∈ [Template.placeholder, PathName.colons, ['.']],
        mark ⊆ [' ', '{', '}', ':', '.'] := by decide
    intro mark member text place
    exact prefix_drop_map_iff (keeps_marks (searched mark member)) place

end Diagnostics
end Reassembly
