namespace Reassembly
namespace CommandLine

/-!
# Options

What may be given on the command line, what a command line may ask for, and
what may be wrong with one.
-/

/-- What is turned on without a value. -/
inductive Switch where
  | legacyFormat
  | noEscape
  | verbose
  | help
  | version
deriving DecidableEq

/-- What takes a value. -/
inductive Setting where
  | frameSize
  | maxMessageSize
  | utcOffset
deriving DecidableEq

/-- Anything that may be given by name. -/
inductive Named where
  | switch (switch : Switch)
  | setting (setting : Setting)
deriving DecidableEq

structure Options where
  input : String
  frameSize : UInt64
  maxMessageSize : Int64
  legacyFormat : Bool
  noEscape : Bool
  utcOffset : Int
  verbosity : Nat
deriving DecidableEq

/-- What the arguments ask for. -/
inductive Request where
  | run (options : Options)
  | help
  | version
deriving DecidableEq

/-- Why arguments cannot be understood. -/
inductive UsageError where
  | unknownArgument (text : String)
  | unexpectedValue (switch : Switch) (value : String)
  | missingValue (setting : Setting)
  | invalidValue (setting : Setting) (value : String)
  | repeated (named : Named)
  | missingInput
  | emptyInput
deriving DecidableEq

namespace Switch

def name : Switch → String
  | legacyFormat => "legacy-format"
  | noEscape => "no-escape"
  | verbose => "verbose"
  | help => "help"
  | version => "version"

end Switch

namespace Setting

def name : Setting → String
  | frameSize => "frame-size"
  | maxMessageSize => "max-message-size"
  | utcOffset => "utc-offset"

/-- Whether a negative number makes sense.  Then an argument that is one may
follow as the value, although it starts with a hyphen. -/
def allowsNegative : Setting → Bool
  | frameSize => false
  | maxMessageSize => true
  | utcOffset => true

end Setting

namespace Named

def name : Named → String
  | switch choice => choice.name
  | setting choice => choice.name

def all : List Named :=
  [switch .legacyFormat, switch .noEscape, switch .verbose, switch .help, switch .version,
    setting .frameSize, setting .maxMessageSize, setting .utcOffset]

/-- What is called by a long name. -/
def ofLong? (text : String) : Option Named :=
  all.find? fun named => named.name == text

/-- What is called by a letter. -/
def ofLetter? : Char → Option Named
  | 'f' => some (setting .frameSize)
  | 'm' => some (setting .maxMessageSize)
  | 'v' => some (switch .verbose)
  | 'h' => some (switch .help)
  | 'V' => some (switch .version)
  | _ => none

end Named

namespace UsageError

def message : UsageError → String
  | unknownArgument text => "unexpected argument '" ++ text ++ "' found"
  | unexpectedValue switch value =>
      "unexpected value '" ++ value ++ "' for '--" ++ switch.name ++ "' found; no more were expected"
  | missingValue setting => "a value is required for '--" ++ setting.name ++ "' but none was supplied"
  | invalidValue setting value => "invalid value '" ++ value ++ "' for '--" ++ setting.name ++ "'"
  | repeated named => "the argument '--" ++ named.name ++ "' cannot be used multiple times"
  | missingInput => "the following required arguments were not provided: <INPUT>"
  | emptyInput => "a value is required for '<INPUT>' but none was supplied"

end UsageError

end CommandLine
end Reassembly
