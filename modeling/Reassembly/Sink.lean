import Reassembly.Accumulator
import Reassembly.Journal

namespace Reassembly

/-!
# The byte array sink

A sink collects the payloads of a message and hands the whole message to its
handler when the final frame arrives.  Whatever ends a message, be it a
delivery or a failure of any of its frames, leaves the accumulator empty, so no
byte of one message reaches the next.  The work on a frame sees to none of this
itself: it may leave a count that went too far, or bytes handed out and still
counted.  A guard resets the accumulator on every way out but one, that of a
frame after which its message goes on.

The size limit is read from the session once, when the frame arrives.  A limit
that the handler stores during a call counts from the next frame on.
-/

/-- A message sink: a handler and the message in progress. -/
structure Sink (σ : Type) where
  handler : Handler σ
  accumulator : Accumulator

/-- All that accepting one frame brings about. -/
structure Acceptance (σ : Type) where
  outcome : Outcome
  journal : Journal
  session : Session
  sink : Sink σ

namespace Sink

variable {σ : Type}

def target : String := "framesink::sink::byte_array"

def new (handler : Handler σ) : Sink σ :=
  ⟨handler, .empty⟩

def isAccumulating (sink : Sink σ) : Bool :=
  sink.accumulator.isActive

def bufferedSize (sink : Sink σ) : UInt64 :=
  sink.accumulator.size

/-- The outcome of a frame whose message met this verdict. -/
def outcomeOf : Verdict → Outcome
  | .accept => .ok
  | .reject error => .failed (.handler error)
  | .panic payload => .failed (.handlerPanicked payload.render)

/-- What a verdict adds to the counters: only an accepted message counts. -/
def countOf : Verdict → Metrics
  | .accept => .message
  | .reject _ => .zero
  | .panic _ => .zero

/-- Call the handler with a whole message.  A limit stored by the handler
holds however the call ends. -/
def deliver (sink : Sink σ) (session : Session) (message : ByteArray) : Acceptance σ :=
  let ⟨handler, accumulator⟩ := sink
  let delivery := Delivery.whole message
  let (reply, handler) := handler.call delivery
  { outcome := outcomeOf reply.verdict
    journal := .delivery delivery ++ .counted (countOf reply.verdict)
    session := (reply.newRawLimit.map session.setLimit).getD session
    sink := ⟨handler, accumulator⟩ }

/-- The work on one frame: take it in and, if it ends its message, deliver the
message.  Only a frame after which its message goes on disarms the guard. -/
def work (sink : Sink σ) (session : Session) (frame : Frame) :
    Acceptance σ × Accumulator.Guard :=
  let ⟨handler, accumulator⟩ := sink
  match accumulator.receive frame session.limit with
  | .error ⟨error, counted⟩ => (⟨.failed error, .empty, session, ⟨handler, counted⟩⟩, .armed)
  | .ok accumulator =>
      if frame.isFinal then
        let (message, accumulator) := accumulator.take
        (deliver ⟨handler, accumulator⟩ session message, .armed)
      else (⟨.ok, .empty, session, ⟨handler, accumulator⟩⟩, .disarmed)

/-- Work on one frame under the guard, which every way out passes. -/
def process (sink : Sink σ) (session : Session) (frame : Frame) : Acceptance σ :=
  let (⟨outcome, journal, session, ⟨handler, accumulator⟩⟩, guard) := sink.work session frame
  ⟨outcome, journal, session, ⟨handler, guard.release accumulator⟩⟩

def discarded (frame : Frame) (error : SinkError) : LogRecord where
  level := .debug
  target := target
  message := "message discarded: opcode=" ++ frame.opcode.label ++ ", fin=" ++
    frame.finalLabel ++ ", error=" ++ error.message

/-- What an outcome adds to the journal: a failure is counted and logged. -/
def reported (frame : Frame) : Outcome → Journal
  | .ok => .empty
  | .failed error => .counted (.failure error.kind) ++ .record (discarded frame error)

/-- Accept one frame.  Every call counts the frame and ends in one outcome. -/
def accept (sink : Sink σ) (session : Session) (frame : Frame) : Acceptance σ :=
  let processed := sink.process session frame
  { processed with
    journal := .counted .frame ++ processed.journal ++ reported frame processed.outcome }

/-! ## What a frame leaves in the accumulator -/

@[simp] theorem outcome_accept (sink : Sink σ) (session : Session) (frame : Frame) :
    (sink.accept session frame).outcome = (sink.process session frame).outcome := rfl

@[simp] theorem sink_accept (sink : Sink σ) (session : Session) (frame : Frame) :
    (sink.accept session frame).sink = (sink.process session frame).sink := rfl

@[simp] theorem session_accept (sink : Sink σ) (session : Session) (frame : Frame) :
    (sink.accept session frame).session = (sink.process session frame).session := rfl

/-- Only processing calls the handler: counting and logging do not. -/
@[simp] theorem deliveries_accept (sink : Sink σ) (session : Session) (frame : Frame) :
    (sink.accept session frame).journal.deliveries =
      (sink.process session frame).journal.deliveries := by
  have unreported : (reported frame (sink.process session frame).outcome).deliveries = #[] := by
    cases (sink.process session frame).outcome <;> rfl
  show (Journal.counted .frame).deliveries ++ (sink.process session frame).journal.deliveries ++
    (reported frame (sink.process session frame).outcome).deliveries = _
  rw [unreported, Array.append_empty]
  exact Array.empty_append

theorem work_of_refused {sink : Sink σ} {session : Session} {frame : Frame}
    {refusal : Accumulator.Refusal}
    (refused : sink.accumulator.receive frame session.limit = .error refusal) :
    sink.work session frame =
      (⟨.failed refusal.error, .empty, session, ⟨sink.handler, refusal.counted⟩⟩, .armed) := by
  cases sink
  unfold work
  simp only
  rw [refused]

theorem work_of_final {sink : Sink σ} {session : Session} {frame : Frame}
    {accumulator : Accumulator}
    (received : sink.accumulator.receive frame session.limit = .ok accumulator)
    (last : frame.isFinal = true) :
    sink.work session frame =
      (deliver ⟨sink.handler, accumulator.take.2⟩ session accumulator.message, .armed) := by
  cases sink
  unfold work
  simp only
  rw [received]
  exact if_pos last

theorem work_of_not_final {sink : Sink σ} {session : Session} {frame : Frame}
    {accumulator : Accumulator}
    (received : sink.accumulator.receive frame session.limit = .ok accumulator)
    (more : frame.isFinal = false) :
    sink.work session frame =
      (⟨.ok, .empty, session, ⟨sink.handler, accumulator⟩⟩, .disarmed) := by
  cases sink
  unfold work
  simp only
  rw [received]
  exact if_neg (by rw [more]; exact Bool.false_ne_true)

theorem process_of_refused {sink : Sink σ} {session : Session} {frame : Frame}
    {refusal : Accumulator.Refusal}
    (refused : sink.accumulator.receive frame session.limit = .error refusal) :
    sink.process session frame = ⟨.failed refusal.error, .empty, session, new sink.handler⟩ := by
  rw [process, work_of_refused refused]
  rfl

theorem process_of_final {sink : Sink σ} {session : Session} {frame : Frame}
    {accumulator : Accumulator}
    (received : sink.accumulator.receive frame session.limit = .ok accumulator)
    (last : frame.isFinal = true) :
    sink.process session frame = deliver (new sink.handler) session accumulator.message := by
  rw [process, work_of_final received last]
  rfl

theorem process_of_not_final {sink : Sink σ} {session : Session} {frame : Frame}
    {accumulator : Accumulator}
    (received : sink.accumulator.receive frame session.limit = .ok accumulator)
    (more : frame.isFinal = false) :
    sink.process session frame = ⟨.ok, .empty, session, ⟨sink.handler, accumulator⟩⟩ := by
  rw [process, work_of_not_final received more]
  rfl

/-- A failure and a final frame both keep the guard armed. -/
theorem guard_work_of_ends (sink : Sink σ) (session : Session) (frame : Frame)
    (ends : frame.isFinal = true ∨ (sink.process session frame).outcome.isOk = false) :
    (sink.work session frame).2 = .armed := by
  cases received : sink.accumulator.receive frame session.limit with
  | error refusal => rw [work_of_refused received]
  | ok accumulator =>
      cases last : frame.isFinal with
      | true => rw [work_of_final received last]
      | false =>
          rw [last, process_of_not_final received last] at ends
          rcases ends with impossible | impossible <;> cases impossible

/-- What stays is what the guard leaves of it. -/
theorem accumulator_process (sink : Sink σ) (session : Session) (frame : Frame) :
    (sink.process session frame).sink.accumulator =
      (sink.work session frame).2.release (sink.work session frame).1.sink.accumulator := rfl

/-- An armed guard leaves nothing behind, whatever the work did to the
accumulator. -/
theorem accumulator_process_of_armed {sink : Sink σ} {session : Session} {frame : Frame}
    (armed : (sink.work session frame).2 = .armed) :
    (sink.process session frame).sink.accumulator = .empty := by
  rw [accumulator_process, armed]
  rfl

/-- A final frame leaves nothing behind, delivered or not. -/
theorem accumulator_accept_of_final (sink : Sink σ) (session : Session) {frame : Frame}
    (last : frame.isFinal = true) :
    (sink.accept session frame).sink.accumulator = .empty :=
  accumulator_process_of_armed (guard_work_of_ends sink session frame (Or.inl last))

/-- A failed frame leaves nothing behind, final or not. -/
theorem accumulator_accept_of_failed (sink : Sink σ) (session : Session) (frame : Frame)
    (failed : (sink.accept session frame).outcome.isOk = false) :
    (sink.accept session frame).sink.accumulator = .empty :=
  accumulator_process_of_armed (guard_work_of_ends sink session frame (Or.inr failed))

end Sink

end Reassembly
