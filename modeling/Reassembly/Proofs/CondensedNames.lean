import Reassembly.Diagnostics.PathName

namespace Reassembly
namespace Diagnostics
namespace PathName

/-!
# Paths and their condensed names

A path is its segments with a separator between each two.  Segments without
colons are found again between double colons (`splitColons_intercalate`), and
segments without dots between dots (`splitDots_eq_splitOn`).  So both notations of
a path condense to the same name, which is a matter of its segments alone.

Once a name has double colons, dots in it separate nothing.
-/

variable {leading segments : List (List Char)} {segment last name : List Char}

/-! ## Cutting at double colons -/

theorem not_prefix_of_ne {char : Char} (other : char ≠ ':') (rest : List Char) :
    ¬ colons <+: char :: rest := by
  rintro ⟨after, same⟩
  exact other (List.cons.inj same).1.symm

theorem splitColons_of_not_mem (uncoloned : ':' ∉ segment) : splitColons segment = [segment] := by
  induction segment with
  | nil => rfl
  | cons char rest ih =>
      simp only [List.mem_cons, not_or] at uncoloned
      have apart := not_prefix_of_ne (Ne.symm uncoloned.1) rest
      rw [splitColons_cons_of_apart apart, ih uncoloned.2]
      rfl

theorem splitColons_append (uncoloned : ':' ∉ segment) (rest : List Char) :
    splitColons (segment ++ colons ++ rest) = segment :: splitColons rest := by
  induction segment with
  | nil => rfl
  | cons char further ih =>
      simp only [List.mem_cons, not_or] at uncoloned
      have apart := not_prefix_of_ne (Ne.symm uncoloned.1) (further ++ colons ++ rest)
      change splitColons (char :: (further ++ colons ++ rest)) = _
      rw [splitColons_cons_of_apart apart, ih uncoloned.2]
      rfl

theorem splitColons_intercalate (some_segment : segments ≠ [])
    (uncoloned : ∀ segment ∈ segments, ':' ∉ segment) :
    splitColons (colons.intercalate segments) = segments := by
  induction segments with
  | nil => contradiction
  | cons first rest ih =>
      rw [List.forall_mem_cons] at uncoloned
      cases rest with
      | nil => rw [List.intercalate_singleton, splitColons_of_not_mem uncoloned.1]
      | cons second rest =>
          rw [List.intercalate_cons_cons, splitColons_append uncoloned.1,
            ih (List.cons_ne_nil second rest) uncoloned.2]

/-! ## Cutting at dots -/

theorem extend_eq_modifyHead (char : Char) (some_segment : segments ≠ []) :
    extend char segments = segments.modifyHead (char :: ·) := by
  cases segments with
  | nil => contradiction
  | cons first rest => rfl

theorem splitDots_eq_splitOn (name : List Char) : splitDots name = name.splitOn '.' := by
  fun_induction splitDots name with
  | case1 rest ih => rw [ih, List.splitOn_cons_eq_if_modifyHead, if_pos (beq_self_eq_true '.')]
  | case2 char rest other ih =>
      rw [List.splitOn_cons_eq_if_modifyHead, if_neg (mt beq_iff_eq.mp other), ← ih]
      exact extend_eq_modifyHead char (splitDots_ne_nil rest)
  | case3 => rw [List.splitOn_nil]

/-! ## The segments of a path -/

theorem not_mem_intercalate {char : Char} {separator : List Char} (other : char ∉ separator)
    (absent : ∀ segment ∈ segments, char ∉ segment) :
    char ∉ separator.intercalate segments := by
  induction segments with
  | nil => exact List.not_mem_nil
  | cons first rest ih =>
      rw [List.forall_mem_cons] at absent
      cases rest with
      | nil =>
          rw [List.intercalate_singleton]
          exact absent.1
      | cons second rest =>
          simp only [List.intercalate_cons_cons, List.mem_append, not_or]
          exact ⟨⟨absent.1, other⟩, ih absent.2⟩

theorem segments_of_colons (uncoloned : ∀ segment ∈ leading ++ [last], ':' ∉ segment)
    (more : leading ≠ []) :
    PathName.segments (colons.intercalate (leading ++ [last])) = leading ++ [last] := by
  have separated : colons <:+: colons.intercalate (leading ++ [last]) := by
    obtain ⟨first, rest, rfl⟩ := List.exists_cons_of_ne_nil more
    rw [List.cons_append, List.intercalate_cons_of_ne_nil (List.concat_ne_nil last rest)]
    exact ⟨first, _, rfl⟩
  rw [PathName.segments, if_pos ((hasColons_iff _).mpr separated),
    splitColons_intercalate (List.concat_ne_nil last leading) uncoloned]

theorem segments_of_dots (some_segment : segments ≠ [])
    (plain : ∀ segment ∈ segments, ':' ∉ segment ∧ '.' ∉ segment) :
    PathName.segments (List.intercalate ['.'] segments) = segments := by
  have uncoloned : ':' ∉ List.intercalate ['.'] segments := by
    apply not_mem_intercalate (by decide)
    exact fun segment member => (plain segment member).1
  have apart : ¬ hasColons (List.intercalate ['.'] segments) = true := by
    rw [hasColons_iff]
    rintro ⟨before, after, same⟩
    apply uncoloned
    rw [← same]
    simp [colons]
  rw [PathName.segments, if_neg apart, splitDots_eq_splitOn, List.splitOn_intercalate]
  · exact fun segment member => (plain segment member).2
  · exact some_segment

/-! ## What is kept of them -/

theorem condense_of_single (found : PathName.segments name = [segment]) :
    condense name = name := by
  rw [condense, found]

theorem condense_of_leading (found : PathName.segments name = leading ++ [last])
    (more : leading ≠ []) : condense name = leading.filterMap List.head? ++ '.' :: last := by
  obtain ⟨first, others, rfl⟩ := List.exists_cons_of_ne_nil more
  obtain ⟨second, rest, parted⟩ := List.exists_cons_of_ne_nil (List.concat_ne_nil last others)
  have front : (first :: second :: rest).dropLast = first :: others := by
    rw [← parted, ← List.cons_append, List.dropLast_concat]
  have back : (second :: rest).getLast (List.cons_ne_nil second rest) = last := by
    simp only [← parted, List.getLast_concat]
  rw [List.cons_append, parted] at found
  rw [condense, found]
  dsimp only
  rw [front, back, initials]

/-- A path in double colons condenses to the first characters of its leading
segments, a dot and its last segment, also when dots stand in it.  A path without
dots of its own condenses to the same when it is written in dots, and one of a
single segment stays as it is. -/
theorem condense_of_path (leading : List (List Char)) (last : List Char)
    (uncoloned : ∀ segment ∈ leading ++ [last], ':' ∉ segment) :
    (leading ≠ [] → condense (colons.intercalate (leading ++ [last])) =
      leading.filterMap List.head? ++ '.' :: last) ∧
    ((∀ segment ∈ leading ++ [last], '.' ∉ segment) →
      condense (colons.intercalate (leading ++ [last])) =
        condense (List.intercalate ['.'] (leading ++ [last])) ∧
      (leading = [] → condense last = last)) := by
  have coloned (more : leading ≠ []) : condense (colons.intercalate (leading ++ [last])) =
      leading.filterMap List.head? ++ '.' :: last :=
    condense_of_leading (segments_of_colons uncoloned more) more
  refine ⟨coloned, ?_⟩
  intro undotted
  have dotted : PathName.segments (List.intercalate ['.'] (leading ++ [last])) =
      leading ++ [last] := by
    apply segments_of_dots (List.concat_ne_nil last leading)
    exact fun segment member => ⟨uncoloned segment member, undotted segment member⟩
  by_cases single : leading = []
  · subst single
    simp only [List.nil_append, List.intercalate_singleton, true_and] at dotted ⊢
    exact fun _ => condense_of_single dotted
  · exact ⟨(coloned single).trans (condense_of_leading dotted single).symm,
      fun none_leads => absurd none_leads single⟩

/-- An empty segment adds no character, and a character is kept whole. -/
theorem both_notations_condense_alike :
    let leading := ["frame".toList, [], "état".toList]
    let last := "Sink".toList
    ((∀ segment ∈ leading ++ [last], ':' ∉ segment) ∧ leading ≠ [] ∧
      ∀ segment ∈ leading ++ [last], '.' ∉ segment) ∧
      condense "frame::::état::Sink".toList = "fé.Sink".toList ∧
      condense "frame..état.Sink".toList = "fé.Sink".toList := by
  intro leading last
  have path := condense_of_path leading last (by decide)
  have coloned := path.1 (by decide)
  have dotted := (path.2 (by decide)).1
  have inColons : colons.intercalate (leading ++ [last]) = "frame::::état::Sink".toList := by
    decide
  have inDots : List.intercalate ['.'] (leading ++ [last]) = "frame..état.Sink".toList := by
    decide
  have short : leading.filterMap List.head? ++ '.' :: last = "fé.Sink".toList := by
    decide
  rw [inColons, short] at coloned
  rw [inColons, inDots, coloned] at dotted
  exact ⟨by decide, coloned, dotted.symm⟩

end PathName
end Diagnostics
end Reassembly
