import Reassembly.Sink
import Reassembly.Text.Quoted

namespace Reassembly

/-!
# A sink on one line

The debugging view of a sink shows the stored limit and what has been
collected.  The handler has no view and is left out.
-/

namespace Accumulator

def describe (accumulator : Accumulator) : String :=
  let buffer :=
    match accumulator.buffer with
    | none => "None"
    | some bytes => "Some(" ++ String.ofList (Text.quotedBytes bytes) ++ ")"
  "Accumulator \x7b buffer: " ++ buffer ++ ", size: " ++ toString accumulator.size.toNat ++ " \x7d"

end Accumulator

namespace Session

def describe (session : Session) : String :=
  "SessionConfig \x7b max_binary_message_size: " ++ toString session.rawLimit.toInt ++ " \x7d"

end Session

namespace Sink

def describe {σ : Type} (sink : Sink σ) (session : Session) : String :=
  "ByteArrayMessageSink \x7b session: " ++ session.describe ++
    ", accumulator: " ++ sink.accumulator.describe ++ ", .. \x7d"

end Sink

end Reassembly
