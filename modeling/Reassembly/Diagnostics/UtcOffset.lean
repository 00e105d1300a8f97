namespace Reassembly
namespace Diagnostics

/-- An offset from universal time, in seconds to the east, of less than a
day. -/
structure UtcOffset where
  seconds : Int
  withinDay : -86400 < seconds ∧ seconds < 86400
deriving DecidableEq

namespace UtcOffset

def utc : UtcOffset :=
  ⟨0, by decide⟩

instance : Inhabited UtcOffset := ⟨utc⟩

/-- The offset of this many seconds, if it is less than a day. -/
def ofSeconds? (seconds : Int) : Option UtcOffset :=
  if withinDay : -86400 < seconds ∧ seconds < 86400 then some ⟨seconds, withinDay⟩ else none

end UtcOffset

end Diagnostics
end Reassembly
