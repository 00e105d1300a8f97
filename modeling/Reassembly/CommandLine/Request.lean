import Reassembly.CommandLine.Argument
import Reassembly.Text.Decimal

namespace Reassembly
namespace CommandLine

/-!
# Reading the command line

Arguments are read from left to right.  An argument of two hyphens ends the
options; in front of it, an argument that starts with a hyphen and does not
end there holds options.  Switches of one letter may share a hyphen.  A setting
takes its value from the same argument, after an equals sign or directly
behind its letter, or else from the next argument.

The first fault ends the reading, and so does a switch that asks for help or
for the version, whatever follows it.
-/

structure Draft where
  input : Option String
  frameSize : Option UInt64
  maxMessageSize : Option Int64
  legacyFormat : Bool
  noEscape : Bool
  utcOffset : Option Int
  verbosity : Nat

/-- What an argument leads to. -/
inductive Effect where
  | proceed (draft : Draft)
  /-- The next argument is to be the value of a setting. -/
  | await (draft : Draft) (setting : Setting)
  /-- All further arguments are plain. -/
  | endOptions (draft : Draft)
  | stop (request : Request)

namespace Draft

def empty : Draft :=
  ⟨none, none, none, false, false, none, 0⟩

/-- The number, if it is at least the lowest and at most the highest. -/
def within (lowest highest number : Int) : Option Int :=
  if lowest ≤ number ∧ number ≤ highest then some number else none

/-- Read the value of a setting that was not given before. -/
def set (draft : Draft) (setting : Setting) (value : List Char) : Except UsageError Draft :=
  let invalid : Except UsageError Draft := .error (.invalidValue setting (String.ofList value))
  let repeated : Except UsageError Draft := .error (.repeated (.setting setting))
  match setting with
  | .frameSize =>
      match (Text.readUnsigned? value).bind fun number => within 0 18446744073709551615 number with
      | none => invalid
      | some number =>
          if draft.frameSize.isSome then repeated
          else .ok { draft with frameSize := some (UInt64.ofNat number.toNat) }
  | .maxMessageSize =>
      match (Text.readSigned? value).bind (within (-9223372036854775808) 9223372036854775807) with
      | none => invalid
      | some number =>
          if draft.maxMessageSize.isSome then repeated
          else .ok { draft with maxMessageSize := some (Int64.ofInt number) }
  | .utcOffset =>
      match (Text.readSigned? value).bind (within (-2147483648) 2147483647) with
      | none => invalid
      | some number =>
          if draft.utcOffset.isSome then repeated
          else .ok { draft with utcOffset := some number }

/-- Turn a switch on.  Only the verbosity may be raised again. -/
def turnOn (draft : Draft) (switch : Switch) : Except UsageError Effect :=
  let repeated : Except UsageError Effect := .error (.repeated (.switch switch))
  match switch with
  | .legacyFormat =>
      if draft.legacyFormat then repeated else .ok (.proceed { draft with legacyFormat := true })
  | .noEscape =>
      if draft.noEscape then repeated else .ok (.proceed { draft with noEscape := true })
  | .verbose => .ok (.proceed { draft with verbosity := draft.verbosity + 1 })
  | .help => .ok (.stop .help)
  | .version => .ok (.stop .version)

/-- Take a plain argument, which names the input. -/
def place (draft : Draft) (text : List Char) : Except UsageError Draft :=
  if draft.input.isSome then .error (.unknownArgument (String.ofList text))
  else if text.isEmpty then .error .emptyInput
  else .ok { draft with input := some (String.ofList text) }

def proceedWith (read : Except UsageError Draft) : Except UsageError Effect :=
  read.map .proceed

/-- Take the letters behind one hyphen.  The first letter of a setting makes
the rest its value. -/
def takeLetters (draft : Draft) : List Char → Except UsageError Effect
  | [] => .ok (.proceed draft)
  | letter :: rest =>
      match Named.ofLetter? letter with
      | none => .error (.unknownArgument (String.ofList ['-', letter]))
      | some (.setting setting) =>
          match rest with
          | [] => .ok (.await draft setting)
          | '=' :: value => proceedWith (draft.set setting value)
          | value => proceedWith (draft.set setting value)
      | some (.switch switch) =>
          match draft.turnOn switch with
          | .ok (.proceed draft) => takeLetters draft rest
          | ended => ended

/-- Take an option given by its long name. -/
def takeLong (draft : Draft) (name : List Char) (value : Option (List Char)) :
    Except UsageError Effect :=
  match Named.ofLong? (String.ofList name), value with
  | none, _ => .error (.unknownArgument (String.ofList ('-' :: '-' :: name)))
  | some (.switch switch), none => draft.turnOn switch
  | some (.switch switch), some value => .error (.unexpectedValue switch (String.ofList value))
  | some (.setting setting), none => .ok (.await draft setting)
  | some (.setting setting), some value => proceedWith (draft.set setting value)

/-- The request that the collected options make.  Options not given have
their defaults; the input has none. -/
def request (draft : Draft) : Except UsageError Request :=
  match draft.input with
  | none => .error .missingInput
  | some input =>
      .ok (.run
        { input
          frameSize := draft.frameSize.getD 4096
          maxMessageSize := draft.maxMessageSize.getD 65536
          legacyFormat := draft.legacyFormat
          noEscape := draft.noEscape
          utcOffset := draft.utcOffset.getD 0
          verbosity := draft.verbosity })

/-- Take the arguments behind the separator, all of which are plain. -/
def takePlain (draft : Draft) : List String → Except UsageError Request
  | [] => draft.request
  | text :: rest =>
      match draft.place text.toList with
      | .error error => .error error
      | .ok draft => takePlain draft rest

def takeArgument (draft : Draft) : Argument → Except UsageError Effect
  | .separator => .ok (.endOptions draft)
  | .long name value => draft.takeLong name value
  | .letters text => draft.takeLetters text
  | .plain text => proceedWith (draft.place text)

def take (draft : Draft) : List String → Except UsageError Request
  | [] => draft.request
  | text :: rest =>
      match draft.takeArgument (.ofText text.toList) with
      | .error error => .error error
      | .ok (.endOptions draft) => draft.takePlain rest
      | .ok (.stop request) => .ok request
      | .ok (.proceed draft) => take draft rest
      | .ok (.await draft setting) =>
          match rest with
          | [] => .error (.missingValue setting)
          | value :: rest =>
              if (Argument.ofText value.toList).isValueOf setting then
                match draft.set setting value.toList with
                | .error error => .error error
                | .ok draft => take draft rest
              else .error (.missingValue setting)

end Draft

def Request.ofArguments (arguments : List String) : Except UsageError Request :=
  Draft.empty.take arguments

end CommandLine
end Reassembly
