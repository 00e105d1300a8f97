import Reassembly.ErrorChain
import Reassembly.Session
import Reassembly.Text.Grouped

namespace Reassembly

/-!
# Failures of a frame

A frame fails for one of four causes.  `SinkError.message` holds all of their
wording, and `SinkError.kind` the label under which they are counted.
-/

/-- What made a frame fail. -/
inductive SinkError where
  /-- The bytes counted for the message went over the limit in force. -/
  | tooLarge (actual : UInt64) (limit : Bound)
  | handler (error : ErrorChain)
  | handlerPanicked (text : String)
  | completionDropped
deriving DecidableEq

/-- The kinds of failure, as counters tell them apart. -/
inductive ErrorKind where
  | tooLarge
  | handler
  | handlerPanicked
  | completionDropped
deriving DecidableEq

namespace ErrorKind

def label : ErrorKind → String
  | tooLarge => "message_too_large"
  | handler => "handler"
  | handlerPanicked => "handler_panic"
  | completionDropped => "completion_dropped"

def all : List ErrorKind :=
  [tooLarge, handler, handlerPanicked, completionDropped]

end ErrorKind

namespace SinkError

def kind : SinkError → ErrorKind
  | tooLarge .. => .tooLarge
  | handler _ => .handler
  | handlerPanicked _ => .handlerPanicked
  | completionDropped => .completionDropped

def wording : SinkError → List Char
  | tooLarge actual limit =>
      "binary message too large: (actual) ".toList ++ Text.grouped actual.toNat ++
        " > (configured max binary buffer size) ".toList ++ Text.grouped limit.bytes.toNat
  | handler error => "message handler failed: ".toList ++ error.text.toList
  | handlerPanicked text => "message handler panicked: ".toList ++ text.toList
  | completionDropped => "completion dropped without reporting an outcome".toList

def message (error : SinkError) : String :=
  String.ofList error.wording

/-- The failure as an error chain.  Only a handler's own error lies below. -/
def chain (error : SinkError) : ErrorChain :=
  match error with
  | handler cause => cause.causes error.message
  | _ => .ofText error.message

end SinkError

/-- What is reported for a frame. -/
inductive Outcome where
  | ok
  | failed (error : SinkError)
deriving DecidableEq

namespace Outcome

def isOk : Outcome → Bool
  | ok => true
  | failed _ => false

def error? : Outcome → Option SinkError
  | ok => none
  | failed error => some error

end Outcome

end Reassembly
