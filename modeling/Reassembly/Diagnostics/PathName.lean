namespace Reassembly
namespace Diagnostics

/-!
# Condensed names

The source of a record is named by a path.  Its segments are separated by
double colons or, in a name without any, by dots.  A condensed name keeps the
last segment and of every other one only the first character.
-/

namespace PathName

def colons : List Char :=
  [':', ':']

def hasColons : List Char → Bool
  | ':' :: ':' :: _ => true
  | _ :: rest => hasColons rest
  | [] => false

/-- Put a character in front of the first segment. -/
def extend (char : Char) : List (List Char) → List (List Char)
  | [] => [[char]]
  | segment :: segments => (char :: segment) :: segments

def splitColons : List Char → List (List Char)
  | ':' :: ':' :: rest => [] :: splitColons rest
  | char :: rest => extend char (splitColons rest)
  | [] => [[]]

def splitDots : List Char → List (List Char)
  | '.' :: rest => [] :: splitDots rest
  | char :: rest => extend char (splitDots rest)
  | [] => [[]]

theorem hasColons_iff (name : List Char) : hasColons name = true ↔ colons <:+: name := by
  fun_induction hasColons name with
  | case1 rest => exact iff_of_true rfl ⟨[], rest, rfl⟩
  | case2 char rest apart ih =>
      have none_first : ¬ colons <+: char :: rest := by
        rintro ⟨after, same⟩
        rcases List.cons.inj same with ⟨first, second⟩
        exact apart after first.symm second.symm
      rw [ih, List.infix_cons_iff, or_iff_right none_first]
  | case3 => exact iff_of_false Bool.false_ne_true (by decide)

/-- A character in front of which nothing is cut belongs to the first segment. -/
theorem splitColons_cons_of_apart {char : Char} {rest : List Char}
    (apart : ¬ colons <+: char :: rest) :
    splitColons (char :: rest) = extend char (splitColons rest) := by
  rw [splitColons]
  rintro after rfl rfl
  exact apart ⟨after, rfl⟩

theorem splitDots_cons_of_ne {char : Char} (other : char ≠ '.') (rest : List Char) :
    splitDots (char :: rest) = extend char (splitDots rest) := by
  rw [splitDots]
  exact other

theorem extend_ne_nil (char : Char) (segments : List (List Char)) : extend char segments ≠ [] := by
  cases segments <;> exact List.cons_ne_nil _ _

/-- A name always has a segment, if only an empty one. -/
theorem splitDots_ne_nil (name : List Char) : splitDots name ≠ [] := by
  fun_cases splitDots name with
  | case1 rest => exact List.cons_ne_nil _ _
  | case2 char rest => exact extend_ne_nil _ _
  | case3 => exact List.cons_ne_nil _ _

def segments (name : List Char) : List (List Char) :=
  if hasColons name then splitColons name else splitDots name

/-- The first characters of all segments that have one. -/
def initials (segments : List (List Char)) : List Char :=
  segments.filterMap List.head?

/-- Shorten a name to the initials of its leading segments, a dot and the last
segment.  A name of one segment stays as it is. -/
def condense (name : List Char) : List Char :=
  match segments name with
  | [] => name
  | [_] => name
  | first :: second :: rest =>
      initials ((first :: second :: rest).dropLast) ++
        '.' :: (second :: rest).getLast (List.cons_ne_nil second rest)

end PathName

end Diagnostics
end Reassembly
