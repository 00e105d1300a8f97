import Reassembly.Diagnostics.Appender

namespace Reassembly
namespace Diagnostics

/-!
# The logger

A logger writes the log records that its filter lets through.  The message of
a log record is finished text, which is why it is passed on as a template
without arguments: no format mode touches such a template.  A logger has
nowhere to report that writing failed.
-/

/-- An appender behind a filter. -/
structure Logger (ω : Type) where
  appender : Appender ω
  maxLevel : LevelFilter

namespace Logger

variable {ω : Type}

/-- The thread name shown for a thread without one. -/
def unnamedThread : String := "unnamed"

def enabled (logger : Logger ω) (level : Level) : Bool :=
  logger.maxLevel.admits level

/-- The record to write for a log record. -/
def recordOf (now : Timestamp) (thread : Option String) (event : LogRecord) : Record :=
  { Record.new now event.level event.target (thread.getD unnamedThread) with
    template := some event.message }

/-- Write a log record, if the filter lets it through. -/
def log (logger : Logger ω) (now : Timestamp) (thread : Option String) (event : LogRecord) :
    Logger ω :=
  if logger.enabled event.level then
    let ⟨appender, maxLevel⟩ := logger
    ⟨(appender.emit (recordOf now thread event)).2, maxLevel⟩
  else logger

def logAll (logger : Logger ω) (now : Timestamp) (thread : Option String)
    (events : List LogRecord) : Logger ω :=
  events.foldl (fun logger event => logger.log now thread event) logger

theorem log_of_disabled {logger : Logger ω} {event : LogRecord}
    (disabled : logger.enabled event.level = false) (now : Timestamp) (thread : Option String) :
    logger.log now thread event = logger := by
  rw [log, disabled]
  rfl

/-- The message of a log record is written as it is, but for control
characters, in both format modes. -/
theorem messageText_recordOf (config : Config) (now : Timestamp) (thread : Option String)
    (event : LogRecord) :
    (recordOf now thread event).messageText config =
      escapeIf config.escapeMessages event.message.toList := by
  have untouched := config.formatMode.format_nil event.message.toList
  simp only [Record.messageText, recordOf, Record.new, Option.map_some, List.map_nil, untouched]

end Logger

/-! ## One logger for a process -/

/-- The place where a process keeps its logger.  It holds one at most, and
keeps the first. -/
structure Registry (ω : Type) where
  installed : Option (Logger ω)

namespace Registry

variable {ω : Type}

inductive Refusal where
  | occupied
deriving DecidableEq

def Refusal.message : Refusal → String
  | .occupied => "attempted to set a logger after the logging system was already initialized"

/-- Install a logger where there is none. -/
def install (registry : Registry ω) (logger : Logger ω) : Except Refusal (Registry ω) :=
  match registry.installed with
  | none => .ok ⟨some logger⟩
  | some _ => .error .occupied

end Registry

end Diagnostics
end Reassembly
