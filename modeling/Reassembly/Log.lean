namespace Reassembly

/-!
# Log records

Sinks and pumps report what they do as records with a level, a target and a
finished message.  A record carries no time and no thread: those belong to
whoever writes it down.
-/

/-- How severe a record is, the most severe first. -/
inductive Level where
  | error
  | warn
  | info
  | debug
  | trace
deriving DecidableEq, Inhabited

namespace Level

/-- The label written into a line.  The debug level has four letters. -/
def label : Level → String
  | error => "ERROR"
  | warn => "WARN"
  | info => "INFO"
  | debug => "DBUG"
  | trace => "TRACE"

/-- The place of a level among the levels, counted from the most severe. -/
def rank : Level → Nat
  | error => 0
  | warn => 1
  | info => 2
  | debug => 3
  | trace => 4

/-- A more severe level is the smaller one. -/
instance : Ord Level := ⟨fun first second => compare first.rank second.rank⟩

end Level

inductive LevelFilter where
  | off
  | upTo (level : Level)
deriving DecidableEq

namespace LevelFilter

/-- A filter lets through its own level and all that are more severe. -/
def admits : LevelFilter → Level → Bool
  | off, _ => false
  | upTo most, level => decide (level.rank ≤ most.rank)

end LevelFilter

structure LogRecord where
  level : Level
  target : String
  message : String
deriving DecidableEq

end Reassembly
