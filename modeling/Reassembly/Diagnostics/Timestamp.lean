import Reassembly.Diagnostics.Date
import Reassembly.Diagnostics.UtcOffset

namespace Reassembly
namespace Diagnostics

/-!
# Instants and their written form

An instant is a number of seconds since the epoch, the first of January 1970,
and a number of nanoseconds.  A leap second has no number of its own: it is the
last second of its minute, with nanoseconds that run past one thousand million.
It is shown as one second more than the second it follows, at every offset.
-/

/-- Whether seconds and nanoseconds name an instant.  Nanoseconds beyond the
second are allowed only in the last second of a minute. -/
def Timestamp.IsValid (seconds : Int) (nanos : Nat) : Prop :=
  (-8334601228800 ≤ seconds ∧ seconds ≤ 8210266876799) ∧
    nanos < 2000000000 ∧ (nanos < 1000000000 ∨ seconds % 60 = 59)

instance (seconds : Int) (nanos : Nat) : Decidable (Timestamp.IsValid seconds nanos) := by
  unfold Timestamp.IsValid
  infer_instance

/-- An instant. -/
structure Timestamp where
  seconds : Int
  nanos : Nat
  valid : Timestamp.IsValid seconds nanos
deriving DecidableEq

namespace Timestamp

def epoch : Timestamp :=
  ⟨0, 0, by decide⟩

instance : Inhabited Timestamp := ⟨epoch⟩

/-- The instant this many seconds and nanoseconds after the epoch, if there is
one. -/
def ofEpoch? (seconds : Int) (nanos : Nat) : Option Timestamp :=
  if valid : IsValid seconds nanos then some ⟨seconds, nanos, valid⟩ else none

/-- The seconds shown by a clock at this offset. -/
def localSeconds (timestamp : Timestamp) (offset : UtcOffset) : Int :=
  timestamp.seconds + offset.seconds

/-- The nanoseconds within the second, also within a leap second. -/
def subsecond (timestamp : Timestamp) : Nat :=
  timestamp.nanos % 1000000000

/-- The time of day, down to the second.  A leap second is one more than the
second it follows. -/
def clockText (timestamp : Timestamp) (offset : UtcOffset) : List Char :=
  let secondOfDay := (timestamp.localSeconds offset % 86400).toNat
  let second := secondOfDay % 60 + timestamp.nanos / 1000000000
  Text.padded 2 (secondOfDay / 3600) ++ ':' :: Text.padded 2 (secondOfDay / 60 % 60) ++
    ':' :: Text.padded 2 second

def date (timestamp : Timestamp) (offset : UtcOffset) : Date :=
  .ofEpochDay (timestamp.localSeconds offset / 86400)

/-- The form written into lines: date, time of day and milliseconds, the
milliseconds cut off and not rounded. -/
def render (timestamp : Timestamp) (offset : UtcOffset) : List Char :=
  (timestamp.date offset).render ++ ' ' :: timestamp.clockText offset ++
    '.' :: Text.padded 3 (timestamp.subsecond / 1000000)

/-- The fraction of a second in no more groups of three digits than it
takes. -/
def fractionText (subsecond : Nat) : List Char :=
  if subsecond = 0 then []
  else if subsecond % 1000000 = 0 then '.' :: Text.padded 3 (subsecond / 1000000)
  else if subsecond % 1000 = 0 then '.' :: Text.padded 6 (subsecond / 1000)
  else '.' :: Text.padded 9 subsecond

/-- The debugging view: universal time with all its digits. -/
def describe (timestamp : Timestamp) : List Char :=
  (timestamp.date .utc).render ++ 'T' :: timestamp.clockText .utc ++
    fractionText timestamp.subsecond ++ ['Z']

end Timestamp

end Diagnostics
end Reassembly
