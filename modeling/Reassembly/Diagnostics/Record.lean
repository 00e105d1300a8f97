import Reassembly.Diagnostics.Cause
import Reassembly.Diagnostics.Config
import Reassembly.Diagnostics.Escape
import Reassembly.Diagnostics.PathName
import Reassembly.Log

namespace Reassembly
namespace Diagnostics

/-!
# Records and their lines

A record is written as one line, with a block for its cause below.  The line
reads time, level, name, thread and message.  Free text goes through
`escapeIf` wherever it enters, so with escaping on the layout alone decides
where lines end.

In a block every line starts with the indent of its cause.  A suppressed cause
stands one step further in than the cause that suppressed it; the cause
beneath stands at the same indent.
-/

structure Record where
  timestamp : Timestamp
  level : Level
  name : String
  thread : String
  template : Option String
  arguments : List String
  cause : Option Cause
deriving DecidableEq

namespace Cause

def indentStep : List Char := ['\t', '|']

mutual

/-- The lines of a cause at an indent. -/
def lines (shown : String → List Char) (indent : List Char) : Cause → List (List Char)
  | mk summary frames suppressed cause =>
      (indent ++ shown summary) ::
        frames.map (fun frame => indent ++ "\tat ".toList ++ shown frame) ++
        suppressedLines shown indent suppressed ++ causedByLines shown indent cause

/-- The lines of suppressed causes, each under its label. -/
def suppressedLines (shown : String → List Char) (indent : List Char) :
    List Cause → List (List Char)
  | [] => []
  | cause :: causes =>
      (indent ++ "Suppressed: ".toList) :: lines shown (indentStep ++ indent) cause ++
        suppressedLines shown indent causes

/-- The lines of the cause beneath, under its label. -/
def causedByLines (shown : String → List Char) (indent : List Char) :
    Option Cause → List (List Char)
  | none => []
  | some cause => (indent ++ "Caused by: ".toList) :: lines shown indent cause

end

end Cause

namespace Record

def new (timestamp : Timestamp) (level : Level) (name thread : String) : Record :=
  ⟨timestamp, level, name, thread, none, [], none⟩

/-- A text as the settings show it. -/
def shown (config : Config) (text : String) : List Char :=
  escapeIf config.escapeMessages text.toList

theorem shown_of_escapes {config : Config} (escapes : config.escapeMessages = true)
    (text : String) : shown config text = escape text.toList := by
  rw [shown, escapeIf, if_pos escapes]

/-- The name as the settings show it. -/
def nameText (config : Config) (name : String) : List Char :=
  escapeIf config.escapeMessages
    (if config.condensedNames then PathName.condense name.toList else name.toList)

/-- The message.  When it cannot be put together the template is shown as it
is, followed by the reason. -/
def messageText (config : Config) (record : Record) : List Char :=
  match config.formatMode.format (record.template.map String.toList)
      (record.arguments.map String.toList) with
  | .ok message => escapeIf config.escapeMessages message
  | .error error =>
      shown config (record.template.getD "") ++ " [format error: ".toList ++
        error.message.toList ++ [']']

/-- What follows the message when there is a cause. -/
def causeText (config : Config) : Option Cause → List Char
  | none => []
  | some cause =>
      if config.hideStacks then ": ".toList ++ shown config cause.summary
      else (cause.lines (shown config) []).flatMap fun line => '\n' :: line

/-- The text in front of the message: time, level, name and thread. -/
def heading (config : Config) (record : Record) : List Char :=
  record.timestamp.render config.offset ++ ':' :: record.level.label.toList ++
    ':' :: nameText config record.name ++ ':' :: shown config record.thread ++ ": ".toList

/-- The written form of a record, without the line feed that ends it. -/
def text (config : Config) (record : Record) : List Char :=
  heading config record ++ messageText config record ++ causeText config record.cause

def render (config : Config) (record : Record) : String :=
  String.ofList (text config record)

@[simp] theorem toList_render (config : Config) (record : Record) :
    (render config record).toList = text config record := String.toList_ofList

def levelName : Level → String
  | .error => "Error"
  | .warn => "Warn"
  | .info => "Info"
  | .debug => "Debug"
  | .trace => "Trace"

/-- The debugging view of a record.  Arguments are only counted. -/
def describe (record : Record) : String :=
  String.ofList <|
    "Record \x7b timestamp: ".toList ++ record.timestamp.describe ++
      ", level: ".toList ++ (levelName record.level).toList ++
      ", name: ".toList ++ Text.quoted record.name ++
      ", thread: ".toList ++ Text.quoted record.thread ++
      ", template: ".toList ++ templateText record.template ++
      ", args: ".toList ++ Text.decimal record.arguments.length ++
      ", cause: ".toList ++ Cause.describeOption record.cause ++ " \x7d".toList
where
  templateText : Option String → List Char
    | none => "None".toList
    | some template => "Some(".toList ++ Text.quoted template ++ [')']

end Record

end Diagnostics
end Reassembly
