import Reassembly.Handler
import Reassembly.SinkError

namespace Reassembly

/-!
# Recording what happens

A recording handler keeps every message it is given, and an outcome log keeps
every outcome in the short form that reports need.
-/

namespace Handler

/-- A handler that keeps each message, and then rejects it if it was given a
reason to. -/
def recording (reason : Option String) : Handler (Array ByteArray) :=
  ⟨#[], fun messages delivery =>
    let verdict :=
      match reason with
      | none => Verdict.accept
      | some text => .reject (.ofText text)
    (⟨none, verdict⟩, messages.push delivery.window)⟩

end Handler

/-- An outcome as it is kept: a failure is its kind and its text. -/
inductive RecordedOutcome where
  | succeeded
  | failed (kind : ErrorKind) (message : String)
deriving DecidableEq

namespace RecordedOutcome

def ofOutcome : Outcome → RecordedOutcome
  | .ok => succeeded
  | .failed error => failed error.kind error.message

end RecordedOutcome

/-- Outcomes in the order in which they were reported. -/
structure OutcomeLog where
  outcomes : Array RecordedOutcome
deriving DecidableEq

namespace OutcomeLog

def empty : OutcomeLog :=
  ⟨#[]⟩

def record (log : OutcomeLog) (outcome : Outcome) : OutcomeLog :=
  ⟨log.outcomes.push (.ofOutcome outcome)⟩

def count (log : OutcomeLog) : Nat :=
  log.outcomes.size

def isEmpty (log : OutcomeLog) : Bool :=
  log.count == 0

def allOk (log : OutcomeLog) : Bool :=
  log.outcomes.all fun outcome => decide (outcome = .succeeded)

end OutcomeLog

end Reassembly
