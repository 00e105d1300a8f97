import Reassembly.Proofs.StoredTemplates

namespace Reassembly
namespace Diagnostics
namespace Template

/-!
# What legacy formatting makes of a template

The pieces of a template and the arguments take turns until one of them runs
out.  Where pieces are left, they keep the placeholders in front of them; where
arguments are left, each follows a space (`IsCut.fill_eq`).  No more is known of
an argument than its text, so a placeholder in it stays what it is.

A missing template has a stand-in with one placeholder for each argument, and
its pieces are single spaces (`isCut_standIn`).
-/

/-- Pieces and arguments in turn. -/
def inTurn (first : List Char) (later arguments : List (List Char)) : List Char :=
  first ++ (List.zipWith (· ++ ·) arguments later).flatten

section Filling

variable {text first : List Char} {later : List (List Char)}

theorem inTurn_cons (second argument : List Char) (arguments : List (List Char)) :
    inTurn first (second :: later) (argument :: arguments) =
      first ++ argument ++ inTurn second later arguments := by
  simp [inTurn]

/-- Filling walks along the cut: it uses up one piece for each argument. -/
theorem IsCut.fill_eq (cut : IsCut text first later) (arguments : List (List Char)) :
    fill text arguments =
      inTurn first later arguments ++
        (later.drop arguments.length).flatMap (placeholder ++ ·) ++
        (arguments.drop later.length).flatMap (' ' :: ·) := by
  induction arguments generalizing text first later with
  | nil =>
      rw [fill, ← cut.joined]
      simp [inTurn]
  | cons argument arguments ih =>
      rw [fill]
      cases later with
      | nil =>
          have nothing : IsCut [] [] [] := isCut_iff.mpr ⟨rfl, rfl⟩
          rw [cut.find?_eq_none, cut.eq_first, ih nothing]
          simp [inTurn]
      | cons second later =>
          rw [cut.find?_eq_some, inTurn_cons]
          dsimp only
          rw [ih cut.tail]
          simp

/-- Where there are as many arguments as placeholders, nothing is left of
either. -/
theorem IsCut.fill_eq_inTurn (cut : IsCut text first later) {arguments : List (List Char)}
    (all : later.length = arguments.length) :
    fill text arguments = inTurn first later arguments := by
  rw [cut.fill_eq, List.drop_of_length_le (Nat.le_of_eq all),
    List.drop_of_length_le (Nat.le_of_eq all.symm)]
  simp

end Filling

theorem isCut_standIn (count : Nat) : IsCut (standIn count) [] (List.replicate count [' ']) where
  joined := by
    rw [List.nil_append, List.flatMap_def, List.map_replicate]
    rfl
  bare := by
    rw [List.forall_mem_cons]
    refine ⟨isBare_nil, ?_⟩
    intro piece member
    rw [List.eq_of_mem_replicate member]
    decide

theorem inTurn_replicate (piece : List Char) (arguments : List (List Char)) :
    inTurn [] (List.replicate arguments.length piece) arguments =
      arguments.flatMap (· ++ piece) := by
  induction arguments with
  | nil => rfl
  | cons argument arguments ih =>
      rw [inTurn, List.nil_append] at ih ⊢
      rw [List.length_cons, List.replicate_succ, List.zipWith_cons_cons, List.flatten_cons, ih,
        List.flatMap_cons]

theorem legacy_none (arguments : List (List Char)) :
    legacy none arguments = arguments.flatMap (· ++ [' ']) := by
  rw [legacy, Option.getD_none, (isCut_standIn arguments.length).fill_eq_inTurn, inTurn_replicate]
  exact List.length_replicate

/-- Legacy formatting is told by the pieces of the template, of which there is
one choice only.  It fills as many placeholders as there are arguments and keeps
the others, or fills all and appends the arguments that are left; without a
template each argument is followed by a space.  Done by byte position, it gives
the same text, and every slice it takes lies in the template and begins and ends
between characters. -/
theorem legacy_follows_pieces (arguments : List (List Char)) :
    (∀ template : List Char, ∃ first later,
      (∀ head tail, IsCut template head tail ↔ head = first ∧ tail = later) ∧
      (arguments.length ≤ later.length →
        legacy (some template) arguments =
          inTurn first later arguments ++
            (later.drop arguments.length).flatMap (placeholder ++ ·)) ∧
      (later.length < arguments.length →
        legacy (some template) arguments =
          inTurn first later arguments ++
            (arguments.drop later.length).flatMap (' ' :: ·))) ∧
    legacy none arguments = arguments.flatMap (· ++ [' ']) ∧
    ∀ template : Option (List Char),
      Cursor.legacy? template arguments = some (encoded (legacy template arguments)) := by
  refine ⟨?_, legacy_none arguments, fun template => Cursor.legacy?_eq_some template arguments⟩
  intro template
  have cut := isCut_pieces template
  refine ⟨(pieces template).1, (pieces template).2, fun head tail => isCut_iff, ?_, ?_⟩
  · intro enough
    rw [legacy, Option.getD_some, cut.fill_eq, List.drop_of_length_le enough, List.flatMap_nil,
      List.append_nil]
  · intro few
    rw [legacy, Option.getD_some, cut.fill_eq, List.drop_of_length_le (Nat.le_of_lt few),
      List.flatMap_nil, List.append_nil]

end Template
end Diagnostics
end Reassembly
