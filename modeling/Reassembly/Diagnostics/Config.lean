import Reassembly.Diagnostics.Template
import Reassembly.Diagnostics.Timestamp

namespace Reassembly
namespace Diagnostics

/-!
# How records are written

The offset is a setting like the others and is not asked of the machine, so
two writers in one program may show different local times.
-/

structure Config where
  /-- Replace control characters in free text. -/
  escapeMessages : Bool
  /-- What to make of a wrong number of arguments. -/
  formatMode : FormatMode
  /-- Shorten names to the initials of their leading segments. -/
  condensedNames : Bool
  /-- Show only the summary of a cause, on the same line. -/
  hideStacks : Bool
  /-- The offset of the times shown. -/
  offset : UtcOffset
deriving DecidableEq

instance : Inhabited Config := ⟨⟨true, .strict, true, false, .utc⟩⟩

end Diagnostics
end Reassembly
