namespace Reassembly
namespace Text

/-!
# Control characters

They have no look of their own, but end lines, move the cursor or ring the
bell, so neither a log line nor a quoted text may hold one.
-/

/-- Control characters: the first thirty-two code points, and the block that
begins with the delete character and ends before the no-break space. -/
def isControl (char : Char) : Bool :=
  char.toNat < 32 || (127 ≤ char.toNat && char.toNat < 160)

end Text
end Reassembly
