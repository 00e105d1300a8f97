import Reassembly.Proofs.LegacyFilling

namespace Reassembly
namespace Diagnostics
namespace Template

/-!
# What strict formatting accepts

With arguments at hand, strict formatting asks for a template with exactly as
many placeholders; anything else is an error that names both numbers
(`strict_eq_error_iff`).  What it accepts it fills as legacy formatting does:
the two part ways only where something would be left over.
-/

theorem strict_none {arguments : List (List Char)} (some_arguments : arguments ≠ []) :
    strict none arguments = .error (.missingTemplate arguments.length) := by
  cases arguments with
  | nil => exact absurd rfl some_arguments
  | cons argument arguments => rfl

/-- The pieces and the number of placeholders come from two separate walks over
the template, yet they belong together. -/
theorem strict_some {text first : List Char} {later arguments : List (List Char)}
    (cut : IsCut text first later) (some_arguments : arguments ≠ []) :
    strict (some text) arguments =
      if later.length = arguments.length then .ok (inTurn first later arguments)
      else .error (.countMismatch later.length arguments.length) := by
  have filled : interleave arguments (pieces text) = inTurn first later arguments := by
    rw [cut.pieces_eq, interleave, inTurn, List.flatMap_def]
    exact congrArg (first ++ List.flatten ·) List.map_zip_eq_zipWith
  cases arguments with
  | nil => exact absurd rfl some_arguments
  | cons argument arguments =>
      rw [strict, filled, placeholders_eq_occurrences, cut.occurrences_eq]
      exact List.cons_ne_nil argument arguments

theorem strict_eq_error_iff {template : Option (List Char)} {arguments : List (List Char)}
    {error : FormatError} :
    strict template arguments = .error error ↔
      arguments ≠ [] ∧
        ((template = none ∧ error = .missingTemplate arguments.length) ∨
          ∃ text, template = some text ∧ occurrences text ≠ arguments.length ∧
            error = .countMismatch (occurrences text) arguments.length) := by
  by_cases none_there : arguments = []
  · subst none_there
    cases template <;> simp [strict]
  · cases template with
    | none =>
        rw [strict_none none_there]
        simp [none_there, eq_comm]
    | some text =>
        have cut := isCut_pieces text
        rw [strict_some cut none_there, ← cut.occurrences_eq]
        split
        · rename_i all
          simp [all]
        · rename_i differ
          simp [none_there, differ, eq_comm (a := error)]

/-- What strict formatting accepts is filled completely, and legacy formatting
fills it alike. -/
theorem filled_of_strict_eq_ok {template : Option (List Char)} {arguments : List (List Char)}
    {result : List Char} (accepted : strict template arguments = .ok result) :
    legacy template arguments = result ∧
      (arguments ≠ [] → ∃ text, template = some text ∧
        (pieces text).2.length = arguments.length ∧
        result = inTurn (pieces text).1 (pieces text).2 arguments) := by
  by_cases none_there : arguments = []
  · subst none_there
    refine ⟨?_, fun some_arguments => absurd rfl some_arguments⟩
    cases template with
    | none => exact Except.ok.inj accepted
    | some text =>
        rw [legacy_nil]
        exact Except.ok.inj accepted
  · cases template with
    | none =>
        rw [strict_none none_there] at accepted
        cases accepted
    | some text =>
        have cut := isCut_pieces text
        rw [strict_some cut none_there] at accepted
        split at accepted
        · rename_i all
          have same := Except.ok.inj accepted
          refine ⟨?_, fun _ => ⟨text, rfl, all, same.symm⟩⟩
          rw [legacy, Option.getD_some, cut.fill_eq_inTurn all, same]
        · cases accepted

/-- Strict formatting fails exactly when there are arguments and they are not as
many as the placeholders, or there is no template to hold any.  Whatever it
accepts legacy formatting accepts with the same result, and with arguments that
is every piece and every argument in turn. -/
theorem strict_accepts_equal_numbers (template : Option (List Char))
    (arguments : List (List Char)) :
    (∀ error, strict template arguments = .error error ↔
      arguments ≠ [] ∧
        ((template = none ∧ error = .missingTemplate arguments.length) ∨
          ∃ text, template = some text ∧ occurrences text ≠ arguments.length ∧
            error = .countMismatch (occurrences text) arguments.length)) ∧
    (∀ result, strict template arguments = .ok result →
      legacy template arguments = result ∧
      (arguments ≠ [] → ∃ text first later, template = some text ∧
        (∀ head tail, IsCut text head tail ↔ head = first ∧ tail = later) ∧
        later.length = arguments.length ∧ result = inTurn first later arguments)) := by
  refine ⟨fun error => strict_eq_error_iff, ?_⟩
  intro result accepted
  have filled := filled_of_strict_eq_ok accepted
  refine ⟨filled.1, ?_⟩
  intro some_arguments
  rcases filled.2 some_arguments with ⟨text, there, all, same⟩
  exact ⟨text, (pieces text).1, (pieces text).2, there, fun head tail => isCut_iff, all, same⟩

/-- A brace in front of a placeholder is no part of it, and an argument is not
filled. -/
example :
    strict (some "\x7b\x7b\x7d\x7b\x7d".toList) ["\x7b\x7d".toList, "b".toList] =
      .ok "\x7b\x7b\x7db".toList := by
  decide

end Template
end Diagnostics
end Reassembly
