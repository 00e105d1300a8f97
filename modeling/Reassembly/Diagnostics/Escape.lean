import Reassembly.Text.Control

namespace Reassembly
namespace Diagnostics

/-!
# Control characters in free text

Free text may come from a peer.  Written into a log it must not end a line or
move the cursor, so every control character is replaced by a visible one.
Text keeps its length: characters are replaced one by one.
-/

/-- The visible stand-in of a character.  Line feeds and carriage returns have
stand-ins of their own, all other control characters share one. -/
def escapeChar (char : Char) : Char :=
  if char = '\n' then '|'
  else if char = '\r' then '<'
  else if Text.isControl char then '?'
  else char

def escape (text : List Char) : List Char :=
  text.map escapeChar

def escapeIf (enabled : Bool) (text : List Char) : List Char :=
  if enabled then escape text else text

theorem isControl_escapeChar (char : Char) : Text.isControl (escapeChar char) = false := by
  unfold escapeChar
  split
  · rfl
  · split
    · rfl
    · split
      · rfl
      · rename_i visible
        exact Bool.eq_false_iff.mpr visible

theorem isControl_of_mem_escape {text : List Char} {char : Char} (member : char ∈ escape text) :
    Text.isControl char = false := by
  rcases List.mem_map.mp member with ⟨replaced, _, rfl⟩
  exact isControl_escapeChar replaced

end Diagnostics
end Reassembly
