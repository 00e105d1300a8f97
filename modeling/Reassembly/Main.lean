import Reassembly.CommandLine.Program
import Std.Time.DateTime.Timestamp

namespace Reassembly
namespace CommandLine

/-!
# The program

Arguments come in, one file is read, and the answer goes out to the two
streams.  All decisions are made by `CommandLine.respond` and
`CommandLine.run`.
-/

/-- The text of an error met in reading a file, as the system words it. -/
def readError : IO.Error → ErrorChain
  | .noFileOrDirectory .. => .ofText "No such file or directory (os error 2)"
  | .permissionDenied .. => .ofText "Permission denied (os error 13)"
  | .inappropriateType _ code details
  | .alreadyExists _ code details
  | .otherError code details
  | .resourceBusy code details
  | .resourceVanished code details
  | .unsupportedOperation code details
  | .hardwareFault code details
  | .unsatisfiedConstraints code details
  | .illegalOperation code details
  | .protocolError code details
  | .timeExpired code details
  | .interrupted _ code details
  | .invalidArgument _ code details
  | .resourceExhausted _ code details
  | .noSuchThing _ code details =>
      .ofText (details.capitalize ++ " (os error " ++ toString code ++ ")")
  | .unexpectedEof => .ofText "unexpected end of file"
  | .userError text => .ofText text

/-- The content of a file, or the error met in reading it. -/
def readFile (name : String) : IO (Except ErrorChain ByteArray) := do
  try
    return .ok (← IO.FS.readBinFile name)
  catch error =>
    return .error (readError error)

def readClock : IO Diagnostics.Timestamp := do
  let present := (← Std.Time.Timestamp.now).toDurationSinceUnixEpoch
  return (Diagnostics.Timestamp.ofEpoch? present.second.val present.nano.val.toNat).getD default

end CommandLine
end Reassembly

open Reassembly.CommandLine in
def main (arguments : List String) : IO UInt32 := do
  let answer ← match Request.ofArguments arguments with
    | .ok (.run options) => do
        let content ← readFile options.input
        pure (run options content (← readClock))
    | _ => pure (respond arguments (fun _ => .ok ByteArray.empty) default)
  (← IO.getStderr).write answer.stderr
  (← IO.getStdout).write answer.stdout.toUTF8
  return answer.exit
