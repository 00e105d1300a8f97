import Reassembly.CommandLine.Cutter
import Reassembly.CommandLine.Request
import Reassembly.Diagnostics.Logger
import Reassembly.Pump

namespace Reassembly
namespace CommandLine

/-!
# What the command line does

A run cuts the input file into frames, pumps them through a sink and reports
what became of it.  The assembled message is announced on the standard output.
Log records and the final report of a failure go to the standard error, the
report last and whatever the verbosity.

The whole run is a function of the options, the content of the file and the
time; reading the file and writing the streams is left to the caller.
-/

open Diagnostics

structure Answer where
  exit : UInt32
  stdout : String
  stderr : ByteArray

def programName : String := "framesink"

def versionText : String := programName ++ " 0.1.0\n"

def helpText : String :=
  "Reassemble a file through a size-limited message sink\n\n" ++
  "Usage: framesink [OPTIONS] <INPUT>\n\n" ++
  "Arguments:\n" ++
  "  <INPUT>  File to frame and reassemble\n\n" ++
  "Options:\n" ++
  "  -f, --frame-size <FRAME_SIZE>              Payload bytes per frame [default: 4096]\n" ++
  "  -m, --max-message-size <MAX_MESSAGE_SIZE>  Maximum assembled message size; " ++
  "zero or negative disables the limit [default: 65536]\n" ++
  "      --legacy-format                        " ++
  "Use the lenient legacy placeholder formatting in diagnostics\n" ++
  "      --no-escape                            Write control characters in diagnostics verbatim\n" ++
  "      --utc-offset <UTC_OFFSET>              " ++
  "Offset east of UTC, in seconds, for diagnostic timestamps [default: 0]\n" ++
  "  -v, --verbose...                           Increase diagnostic verbosity (repeat for more)\n" ++
  "  -h, --help                                 Print help\n" ++
  "  -V, --version                              Print version\n"

namespace Options

/-- The settings for diagnostics, if the offset is one. -/
def config? (options : Options) : Option Config :=
  (UtcOffset.ofSeconds? options.utcOffset).map fun offset =>
    { (default : Config) with
      escapeMessages := !options.noEscape
      formatMode := if options.legacyFormat then .legacy else .strict
      offset }

def filter (options : Options) : LevelFilter :=
  match options.verbosity with
  | 0 => .upTo .warn
  | 1 => .upTo .info
  | 2 => .upTo .debug
  | _ => .upTo .trace

/-- The bytes of a frame.  Frames of no bytes would never end a file, so the
smallest size is one. -/
def step (options : Options) : UInt64 :=
  max options.frameSize 1

end Options

/-- The handler that announces each message, keeping what it has written. -/
def announcing : Handler String :=
  ⟨"", fun written delivery =>
    (.accept, written ++ "assembled message: " ++ toString delivery.length ++ " bytes\n")⟩

/-- The report of a failure with the input's name in it. -/
def failureReport (now : Timestamp) (template input : String) (error : ErrorChain) : Record :=
  { Record.new now .error programName "main" with
    template := some template
    arguments := [input]
    cause := some (.ofChain error) }

def successRecord (stats : Pump.Stats) : LogRecord where
  level := .info
  target := programName
  message := "assembled " ++ toString stats.messages ++ " message(s) from " ++
    toString stats.frames ++ " frame(s)"

def reportOn (logger : Logger Unit) (report : Record) : ByteArray :=
  let reporter : Appender Unit := ⟨logger.appender.config, logger.appender.device, false⟩
  (reporter.emit report).2.stored

/-- Assemble a file that was read. -/
def assemble (options : Options) (logger : Logger Unit) (data : ByteArray) (now : Timestamp) :
    Answer :=
  let session : Session := ⟨options.maxMessageSize⟩
  let stream := (Cutter.cut data options.step).map Pump.Item.frame
  let run := Pump.run .abort session (Sink.new announcing) stream
  let logger := logger.logAll now (some "main") run.journal.records.toList
  let stdout := run.sink.handler.state
  match run.result with
  | .ok stats =>
      let logger := logger.log now (some "main") (successRecord stats)
      ⟨0, stdout, logger.appender.stored⟩
  | .error error =>
      let template := "assembly of \x7b\x7d failed"
      ⟨1, stdout, reportOn logger (failureReport now template options.input error.chain)⟩

/-- A run, given the content of the input file or the error met in reading
it. -/
def run (options : Options) (content : Except ErrorChain ByteArray) (now : Timestamp) : Answer :=
  match options.config? with
  | none =>
      ⟨1, "", ("invalid --utc-offset: " ++ toString options.utcOffset ++ "\n").toUTF8⟩
  | some config =>
      let logger : Logger Unit := ⟨.new config .reliable, options.filter⟩
      match content with
      | .error error =>
          let template := "cannot read \x7b\x7d"
          ⟨1, "", reportOn logger (failureReport now template options.input error)⟩
      | .ok data => assemble options logger data now

def usageAnswer (error : UsageError) : Answer :=
  ⟨2, "", ("error: " ++ error.message ++ "\n\nFor more information, try '--help'.\n").toUTF8⟩

/-- Answer arguments.  The file is looked at only if they ask for a run. -/
def respond (arguments : List String) (fetch : String → Except ErrorChain ByteArray)
    (now : Timestamp) : Answer :=
  match Request.ofArguments arguments with
  | .error error => usageAnswer error
  | .ok .help => ⟨0, helpText, ByteArray.empty⟩
  | .ok .version => ⟨0, versionText, ByteArray.empty⟩
  | .ok (.run options) => run options (fetch options.input) now

end CommandLine
end Reassembly
