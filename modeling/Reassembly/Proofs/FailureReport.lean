import Reassembly.CommandLine.Program
import Reassembly.Proofs.ControlCharacters

namespace Reassembly

/-!
# The report of a failure

Log records and the report go to one device.  On a device that takes everything
the report stands behind whatever was logged (`reportOn_eq_append`).

The report names the input.  Its name is put in where the template has its one
placeholder, in both format modes, and is not read again, so a name may hold
braces (`text_failureReport`).
-/

namespace Diagnostics
namespace Logger

variable {config : Config} {logger : Logger Unit}

/-- The logger has these settings, and its device takes all that is written. -/
def IsReliable (config : Config) (logger : Logger Unit) : Prop :=
  ∃ stored, logger.appender = ⟨config, ⟨.reliable, stored⟩, false⟩

theorem IsReliable.log (reliable : IsReliable config logger) (now : Timestamp)
    (thread : Option String) (event : LogRecord) :
    IsReliable config (logger.log now thread event) := by
  unfold Logger.log
  split
  · rcases logger with ⟨appender, maxLevel⟩
    rcases reliable with ⟨stored, rfl⟩
    let record := recordOf now thread event
    exact ⟨_, congrArg Prod.snd (Appender.emit_reliable config stored false record)⟩
  · exact reliable

theorem IsReliable.logAll (reliable : IsReliable config logger) (now : Timestamp)
    (thread : Option String) (events : List LogRecord) :
    IsReliable config (logger.logAll now thread events) := by
  induction events generalizing logger with
  | nil => exact reliable
  | cons event rest ih => exact ih (reliable.log now thread event)

end Logger
end Diagnostics

namespace CommandLine

open Diagnostics

/-- What is reported stands last. -/
theorem reportOn_eq_append {config : Config} {logger : Logger Unit}
    (reliable : logger.IsReliable config) (report : Record) :
    ∃ earlier, reportOn logger report =
      earlier ++ (report.render config).toUTF8 ++ "\n".toUTF8 := by
  rcases reliable with ⟨stored, same⟩
  refine ⟨stored, ?_⟩
  rw [reportOn, same, Appender.emit_reliable]
  rfl

/-- Both modes put the name of the input where the placeholder is. -/
theorem format_assembly (mode : FormatMode) (input : List Char) :
    mode.format (some "assembly of \x7b\x7d failed".toList) [input] =
      .ok ("assembly of ".toList ++ input ++ " failed".toList) := by
  cases mode with
  | strict =>
      have filled : Template.interleave [input]
          (Template.pieces "assembly of \x7b\x7d failed".toList) =
          "assembly of ".toList ++ (input ++ " failed".toList ++ []) := rfl
      rw [List.append_nil, ← List.append_assoc] at filled
      exact congrArg Except.ok filled
  | legacy =>
      rfl

theorem messageText_failureReport (config : Config) (now : Timestamp) (input : String)
    (error : ErrorChain) :
    (failureReport now "assembly of \x7b\x7d failed" input error).messageText config =
      escapeIf config.escapeMessages
        ("assembly of ".toList ++ input.toList ++ " failed".toList) := by
  simp only [Record.messageText, failureReport, Option.map_some, List.map_cons, List.map_nil,
    format_assembly]

theorem heading_failureReport (config : Config) (now : Timestamp) (template input : String)
    (error : ErrorChain) :
    (failureReport now template input error).heading config =
      now.render config.offset ++ ":ERROR:framesink:main: ".toList := by
  have nameText : Record.nameText config programName = programName.toList := by
    rw [Record.nameText]
    cases config.escapeMessages <;> cases config.condensedNames <;> decide
  have threadText : Record.shown config "main" = "main".toList := by
    rw [Record.shown]
    cases config.escapeMessages <;> decide
  have fixed : ':' :: Level.error.label.toList ++ (':' :: programName.toList ++
      (':' :: "main".toList ++ ": ".toList)) = ":ERROR:framesink:main: ".toList := by
    decide
  rw [Record.heading]
  change now.render config.offset ++ ':' :: Level.error.label.toList ++
    ':' :: Record.nameText config programName ++ ':' :: Record.shown config "main" ++
    ": ".toList = _
  rw [nameText, threadText, ← fixed]
  simp only [List.append_assoc]

/-- An error without sources is described by its text. -/
theorem causeText_ofText {config : Config} (displayed : config.hideStacks = false)
    (text : String) :
    Record.causeText config (some (.ofChain (.ofText text))) =
      '\n' :: Record.shown config text := by
  rw [Record.causeText, if_neg (Bool.eq_false_iff.mp displayed)]
  change '\n' :: ([] ++ Record.shown config text) ++ [] = _
  rw [List.nil_append, List.append_nil]

theorem shown_message_tooLarge (config : Config) (actual : UInt64) (limit : Bound) :
    Record.shown config (SinkError.tooLarge actual limit).message =
      (SinkError.tooLarge actual limit).wording := by
  have plain := escape_of_controls_eq_nil (SinkError.controls_wording_tooLarge actual limit)
  rw [Record.shown, SinkError.message, String.toList_ofList, escapeIf, plain, ite_self]

/-- What is reported of a message that is too large: a line that names the input,
and one that gives the counts. -/
def refusalText (now : Timestamp) (offset : UtcOffset) (escapes : Bool) (input : String)
    (actual : UInt64) (limit : Bound) : List Char :=
  now.render offset ++ ":ERROR:framesink:main: ".toList ++
    escapeIf escapes ("assembly of ".toList ++ input.toList ++ " failed".toList) ++
    '\n' :: (SinkError.tooLarge actual limit).wording

theorem text_failureReport {config : Config} (displayed : config.hideStacks = false)
    (now : Timestamp) (input : String) (actual : UInt64) (limit : Bound) :
    (failureReport now "assembly of \x7b\x7d failed" input
        (SinkError.tooLarge actual limit).chain).text config =
      refusalText now config.offset config.escapeMessages input actual limit := by
  rw [Record.text, heading_failureReport, messageText_failureReport, refusalText]
  apply congrArg
  change Record.causeText config (some (.ofChain (.ofText _))) = _
  rw [causeText_ofText displayed, shown_message_tooLarge]

end CommandLine
end Reassembly
