import Reassembly.Completion
import Reassembly.Sink

namespace Reassembly

/-!
# Pumping a stream into a sink

The pump takes frames from a stream one at a time, hands each to a message
sink with a completion channel, and awaits the outcome before it looks for the
next frame.  It keeps count, warns of every failure, and either stops at the
first failure or goes on, as its policy says.

The pump knows a message sink only by what becomes of a frame handed to it, so
it also drives sinks that stand in front of others, such as `Detour`.
-/

/-- All that handing a frame to a message sink brings about. -/
structure Handover (α : Type) where
  settlement : Settlement
  journal : Journal
  session : Session
  sink : α

/-- A consumer of frames that settles the completion of a frame before it
returns. -/
class MessageSink (α : Type) where
  handOver : α → Session → Frame → Handover α

instance {σ : Type} : MessageSink (Sink σ) where
  handOver sink session frame :=
    let acceptance := sink.accept session frame
    ⟨.finished acceptance.outcome, acceptance.journal, acceptance.session, acceptance.sink⟩

/-- Where a frame goes when a detour stands in front of a sink. -/
inductive Route where
  | through
  /-- Past the sink, with its completion settled on the way. -/
  | past (settlement : Settlement)
deriving DecidableEq

/-- A message sink that lets frames through to another one or settles them
itself.  Frames beyond the listed routes go through. -/
structure Detour (α : Type) where
  routes : List Route
  sink : α

namespace Detour

def handOver {α : Type} [MessageSink α] (detour : Detour α) (session : Session) (frame : Frame) :
    Handover (Detour α) :=
  let ⟨routes, sink⟩ := detour
  match routes with
  | .past settlement :: rest => ⟨settlement, .empty, session, ⟨rest, sink⟩⟩
  | routes =>
      let passed := MessageSink.handOver sink session frame
      ⟨passed.settlement, passed.journal, passed.session, ⟨routes.tail, passed.sink⟩⟩

instance {α : Type} [MessageSink α] : MessageSink (Detour α) := ⟨handOver⟩

end Detour

namespace Pump

/-- What to do after a failure. -/
inductive Policy where
  /-- Stop, and answer with the failure. -/
  | abort
  | carryOn
deriving DecidableEq, Inhabited

/-- What a stream holds.  It may not be ready for a while, and the session's
limit may be replaced while it looks for its next frame. -/
inductive Item where
  | pending
  | setLimit (raw : Int64)
  | frame (frame : Frame)
deriving DecidableEq

/-- The counts of one pump run. -/
structure Stats where
  frames : Nat
  messages : Nat
  failures : Nat
deriving DecidableEq

namespace Stats

def zero : Stats :=
  ⟨0, 0, 0⟩

/-- Count a frame with its outcome.  A message counts when its final frame
succeeds. -/
def count (stats : Stats) (frame : Frame) (outcome : Outcome) : Stats where
  frames := stats.frames + 1
  messages := stats.messages + if outcome.isOk && frame.isFinal then 1 else 0
  failures := stats.failures + if outcome.isOk then 0 else 1

end Stats

def target : String := "framesink::pump"

/-- The warning of a failed frame, with its place in the run counted from
one. -/
def rejected (index : Nat) (frame : Frame) (error : SinkError) : LogRecord where
  level := .warn
  target := target
  message := "frame rejected: index=" ++ toString index ++ ", opcode=" ++ frame.opcode.label ++
    ", fin=" ++ frame.finalLabel ++ ", error=" ++ error.message

def exhausted (stats : Stats) : LogRecord where
  level := .debug
  target := target
  message := "frame stream exhausted frames=" ++ toString stats.frames ++ " messages=" ++
    toString stats.messages ++ " failures=" ++ toString stats.failures

structure Progress (α : Type) where
  session : Session
  sink : α
  stats : Stats
  journal : Journal

/-- A pump run that has ended.  What it did not consume of the stream is
left. -/
structure Run (α : Type) where
  result : Except SinkError Stats
  unread : List Item
  journal : Journal
  session : Session
  sink : α

variable {α : Type}

namespace Progress

def start (session : Session) (sink : α) : Progress α :=
  ⟨session, sink, .zero, .empty⟩

/-- What an outcome adds to the journal: a failure is warned of. -/
def warned (stats : Stats) (frame : Frame) : Outcome → Journal
  | .ok => .empty
  | .failed error => .record (rejected stats.frames frame error)

/-- Hand one frame over and await its outcome. -/
def feed [MessageSink α] (progress : Progress α) (frame : Frame) : Outcome × Progress α :=
  let ⟨session, sink, stats, journal⟩ := progress
  let handover := MessageSink.handOver sink session frame
  let outcome := handover.settlement.awaited
  let stats := stats.count frame outcome
  (outcome, ⟨handover.session, handover.sink, stats,
    journal ++ handover.journal ++ warned stats frame outcome⟩)

def setLimit (progress : Progress α) (raw : Int64) : Progress α :=
  { progress with session := progress.session.setLimit raw }

def finish (progress : Progress α) : Run α where
  result := .ok progress.stats
  unread := []
  journal := progress.journal ++ .record (exhausted progress.stats)
  session := progress.session
  sink := progress.sink

/-- End the run at a failure, leaving the rest of the stream unread. -/
def fail (progress : Progress α) (error : SinkError) (unread : List Item) : Run α where
  result := .error error
  unread := unread
  journal := progress.journal
  session := progress.session
  sink := progress.sink

/-- Go on with a run until its stream or its patience ends. -/
def drain [MessageSink α] (policy : Policy) : List Item → Progress α → Run α
  | [], progress => progress.finish
  | .pending :: rest, progress => drain policy rest progress
  | .setLimit raw :: rest, progress => drain policy rest (progress.setLimit raw)
  | .frame frame :: rest, progress =>
      let (outcome, progress) := progress.feed frame
      match policy, outcome with
      | .abort, .failed error => progress.fail error rest
      | _, _ => drain policy rest progress

end Progress

def run [MessageSink α] (policy : Policy) (session : Session) (sink : α) (stream : List Item) :
    Run α :=
  (Progress.start session sink).drain policy stream

end Pump

end Reassembly
