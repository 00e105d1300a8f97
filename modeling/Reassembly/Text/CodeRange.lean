namespace Reassembly
namespace Text

/-!
# Ranges of code points

A property of characters that follows no simple rule is given as a list of
ranges.  A list is in order when every range ends before the next one begins.
Then a search may stop at the first range that begins after the character.
-/

/-- Consecutive code points, both ends included. -/
structure CodeRange where
  first : Nat
  last : Nat
deriving DecidableEq

namespace CodeRange

/-- Whether a character lies in one of the ranges of a list in order. -/
def isListed : List CodeRange → Char → Bool
  | [], _ => false
  | range :: rest, char =>
      if char.toNat < range.first then false
      else decide (char.toNat ≤ range.last) || isListed rest char

end CodeRange

end Text
end Reassembly
