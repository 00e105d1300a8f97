import Mathlib.Data.List.Infix
import Reassembly.Diagnostics.Template.Cursor
import Reassembly.Proofs.TemplatePieces

namespace Reassembly
namespace Diagnostics
namespace Template

/-!
# Positions in a stored template

The cursor that fills a template computes positions from lengths of bytes, and
knows nothing of characters.  Yet it never cuts one apart: a placeholder is
stored in bytes that occur nowhere inside another character, so what is found in
the bytes is what is found in the text (`Cursor.distance?_encoded`).  Hence all
slices that filling by position asks for exist, and the result is the stored
form of what the text alone gives (`Cursor.legacy?_eq_some`).
-/

namespace Cursor

/-! ## Stored characters -/

/-- Behind its first byte a character stores none below 128. -/
theorem le_toNat_of_mem_tail (char : Char) :
    ∀ byte ∈ (String.utf8EncodeChar char).tail, 128 ≤ byte.toNat := by
  have continued : ∀ value : Nat, 128 ≤ (UInt8.ofNat (value % 64 + 128)).toNat := by
    intro value
    rw [UInt8.toNat_ofNat']
    omega
  fun_cases String.utf8EncodeChar char with
  | case1 => nofun
  | case2 => exact List.forall_mem_singleton.mpr (continued _)
  | case3 =>
      rw [List.tail_cons, List.forall_mem_cons, List.forall_mem_singleton]
      exact ⟨continued _, continued _⟩
  | case4 =>
      rw [List.tail_cons, List.forall_mem_cons, List.forall_mem_cons, List.forall_mem_singleton]
      exact ⟨continued _, continued _, continued _⟩

theorem exists_utf8EncodeChar_eq_cons (char : Char) :
    ∃ byte, byte.IsUTF8FirstByte ∧
      String.utf8EncodeChar char = byte :: (String.utf8EncodeChar char).tail := by
  have first := UInt8.isUTF8FirstByte_getElem_zero_utf8EncodeChar (c := char)
  refine ⟨_, first, ?_⟩
  rw [← List.head_eq_getElem_zero String.utf8EncodeChar_ne_nil, List.cons_head_tail]

/-! ## Boundaries and slices -/

theorem isBoundary_encoded (front back : List Char) :
    isBoundary (encoded (front ++ back)) (encoded front).length = true := by
  cases back with
  | nil => simp [isBoundary]
  | cons char back =>
      rcases exists_utf8EncodeChar_eq_cons char with ⟨byte, first, same⟩
      rw [encoded_append, encoded_cons, same, isBoundary,
        List.getElem?_append_right (Nat.le_refl _), Nat.sub_self, List.cons_append,
        List.getElem?_cons_zero]
      exact decide_eq_true first

/-- A slice between characters is a text of its own. -/
theorem slice?_encoded (front text back : List Char) :
    slice? (encoded (front ++ (text ++ back))) (encoded front).length
      ((encoded front).length + (encoded text).length) = some (encoded text) := by
  have starts := isBoundary_encoded front (text ++ back)
  have stops := isBoundary_encoded (front ++ text) back
  rw [List.append_assoc, encoded_append front text, List.length_append] at stops
  rw [slice?, if_pos ⟨Nat.le_add_right _ _, starts, stops⟩, encoded_append, List.drop_take,
    List.drop_left, Nat.add_sub_cancel_left, encoded_append, List.take_left]

theorem slice?_to_end (front text : List Char) :
    slice? (encoded (front ++ text)) (encoded front).length (encoded (front ++ text)).length =
      some (encoded text) := by
  have slice := slice?_encoded front text []
  rwa [List.append_nil, ← List.length_append, ← encoded_append] at slice

/-- There is no slice from the second byte of a character, and none beyond the
end. -/
example : slice? (encoded ['é', '}']) 1 3 = none ∧ slice? (encoded ['é', '}']) 2 4 = none := by
  decide

/-! ## Looking ahead in the bytes -/

/-- Stored texts begin alike only where the texts do. -/
theorem prefix_of_prefix_encoded {mark text : List Char} (begins : encoded mark <+: encoded text) :
    mark <+: text := by
  rcases begins with ⟨rest, same⟩
  apply List.isPrefix_of_utf8Encode_append_eq_utf8Encode rest.toByteArray
  rw [List.utf8Encode, List.utf8Encode, ← List.toByteArray_append]
  exact congrArg List.toByteArray same

/-- Nothing is found in bytes that stand for no character of their own. -/
theorem distance?_append {skipped : List UInt8} (rest : List UInt8)
    (high : ∀ byte ∈ skipped, 128 ≤ byte.toNat) :
    distance? (skipped ++ rest) = (distance? rest).map (· + skipped.length) := by
  induction skipped with
  | nil => simp
  | cons byte skipped ih =>
      rw [List.forall_mem_cons] at high
      have apart : ¬ (encoded placeholder).isPrefixOf (byte :: (skipped ++ rest)) = true := by
        intro found
        rcases List.isPrefixOf_iff_prefix.mp found with ⟨_, same⟩
        rw [← (List.cons.inj same).1] at high
        exact absurd high.1 (by decide)
      rw [List.cons_append, distance?, if_neg apart, ih high.2, Option.map_map]
      rfl

/-- Looking ahead in the bytes finds what looking ahead in the text does. -/
theorem distance?_encoded (text : List Char) :
    distance? (encoded text) = (find? text).map fun (before, _) => (encoded before).length := by
  induction text with
  | nil => rfl
  | cons char text ih =>
      rcases exists_utf8EncodeChar_eq_cons char with ⟨byte, _, same⟩
      by_cases begins : placeholder <+: char :: text
      · rcases placeholder_prefix_iff.mp begins with ⟨rest, whole⟩
        rw [whole]
        rfl
      · have apart : ¬ (encoded placeholder).isPrefixOf (encoded (char :: text)) = true := by
          intro found
          exact begins (prefix_of_prefix_encoded (List.isPrefixOf_iff_prefix.mp found))
        rw [encoded_cons, same, List.cons_append] at apart
        rw [encoded_cons, same, List.cons_append, distance?, if_neg apart,
          distance?_append _ (le_toNat_of_mem_tail char), ih, find?_cons_of_apart begins]
        cases find? text with
        | none => rfl
        | some texts =>
            have size := congrArg List.length same
            rw [List.length_cons] at size
            simp only [Option.map_some, encoded_cons, List.length_append, size]
            congr 1
            omega

/-! ## Filling by position -/

/-- The cursor stands behind the bytes of the text it has passed. -/
theorem fill?_encoded (front rest : List Char) (arguments : List (List Char)) :
    fill? (encoded (front ++ rest)) (encoded front).length (arguments.map encoded) =
      some (encoded (fill rest arguments)) := by
  induction arguments generalizing front rest with
  | nil => rw [List.map_nil, fill?, slice?_to_end, fill]
  | cons argument arguments ih =>
      rw [List.map_cons, fill?, slice?_to_end, fill, Option.bind_eq_bind, Option.bind_some,
        distance?_encoded]
      cases found : find? rest with
      | none =>
          have appended := ih (front ++ rest) []
          rw [List.append_nil] at appended
          simp only [Option.map_none, appended, Option.bind_some, Option.pure_def]
          rw [← encoded_append, ← encoded_append, ← encoded_append]
          rfl
      | some texts =>
          rcases texts with ⟨before, after⟩
          have whole : front ++ rest = front ++ (before ++ (placeholder ++ after)) :=
            congrArg (front ++ ·) (eq_of_find? found)
          have copied := slice?_encoded front before (placeholder ++ after)
          have filled := ih (front ++ before ++ placeholder) after
          have position : (encoded (front ++ before ++ placeholder)).length =
              (encoded front).length + (encoded before).length + (encoded placeholder).length := by
            rw [encoded_append, encoded_append, List.length_append, List.length_append]
          rw [position, List.append_assoc, List.append_assoc, ← whole] at filled
          rw [← whole] at copied
          simp only [Option.map_some, copied, filled, Option.bind_some, Option.pure_def]
          rw [encoded_append, encoded_append]

/-- Filling by position asks for no slice that there is not. -/
theorem legacy?_eq_some (template : Option (List Char)) (arguments : List (List Char)) :
    legacy? template arguments = some (encoded (legacy template arguments)) :=
  fill?_encoded [] (template.getD (standIn arguments.length)) arguments

end Cursor

end Template
end Diagnostics
end Reassembly
