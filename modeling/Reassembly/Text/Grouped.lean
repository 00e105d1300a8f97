namespace Reassembly
namespace Text

/-!
# Numbers in groups of three digits

A comma stands in front of a digit exactly when that digit is not the first and
the number of digits before it leaves the same remainder by three as the length
of the whole numeral.
-/

namespace Grouped

/-- Separate the digits from a place on.  The first group has as many digits as
the length of the numeral leaves over, or three if it leaves none. -/
def separate (lead : Nat) : Nat → List Char → List Char
  | _, [] => []
  | place, digit :: rest =>
      if place ≠ 0 ∧ place % 3 = lead then ',' :: digit :: separate lead (place + 1) rest
      else digit :: separate lead (place + 1) rest

/-- Separate a numeral into groups of three digits. -/
def digits (numeral : List Char) : List Char :=
  separate (numeral.length % 3) 0 numeral

end Grouped

/-- The decimal numeral of a number, in groups of three digits. -/
def grouped (number : Nat) : List Char :=
  Grouped.digits (Nat.toDigits 10 number)

end Text
end Reassembly
