import Reassembly.Proofs.Delivery
import Reassembly.Proofs.PumpSequence

namespace Reassembly

/-!
# The frames of one message, pumped into a new sink

A new sink collects frame after frame as long as the limit admits all bytes
that have come, and nothing is seen of this but the count of frames
(`Pump.acceptAll_collected`).  There are two ways on.  The final frame comes and
the message is admitted whole: then it is delivered and the stream is at its end
(`Pump.run_delivers`).  Or a frame brings more bytes than the limit admits: then
the run stops there and nothing was delivered (`Pump.run_refuses`).
-/

namespace Sink

/-- The limit stored as this number admits a message of so many bytes. -/
def Admits (rawLimit : Int64) (bytes : Nat) : Prop :=
  rawLimit.toInt ≤ 0 ∨ (bytes : Int) ≤ rawLimit.toInt

instance (rawLimit : Int64) (bytes : Nat) : Decidable (Admits rawLimit bytes) :=
  inferInstanceAs (Decidable (_ ∨ _))

theorem Admits.of_le {rawLimit : Int64} {fewer bytes : Nat} (admits : Admits rawLimit bytes)
    (le : fewer ≤ bytes) : Admits rawLimit fewer := by
  unfold Admits at *
  omega

theorem Admits.not_overruns {rawLimit : Int64} {held payload : ByteArray}
    (admits : Admits rawLimit (held ++ payload).size) : ¬ Overruns rawLimit held payload := by
  rintro ⟨_, positive, beyond⟩
  rw [Admits, ByteArray.size_append, Int.natCast_add] at admits
  omega

/-- A count that fits its type is reported as it is. -/
theorem Reports.toNat_eq {rawLimit : Int64} {bytes : Nat} {actual : UInt64} {bound : Bound}
    (reports : Reports rawLimit bytes actual bound) (small : bytes ≤ Accumulator.maxSize) :
    actual.toNat = bytes :=
  reports.1.trans (Nat.min_eq_left small)

variable {σ : Type} {sink : Sink σ} {held : ByteArray} {session : Session} {frame : Frame}

/-! ## All that accepting a frame brings about -/

theorem accept_of_more (kept : sink.accumulator = .holding held)
    (within : ¬ Overruns session.rawLimit held frame.bytes) (more : frame.isFinal = false) :
    sink.accept session frame =
      ⟨.ok, .counted .frame, session, ⟨sink.handler, .holding (held ++ frame.bytes)⟩⟩ := by
  rw [accept, process_of_more kept within more]
  rfl

theorem accept_of_overruns (kept : sink.accumulator = .holding held)
    (overrun : Overruns session.rawLimit held frame.bytes) :
    ∃ actual bound, Reports session.rawLimit (held.size + frame.bytes.size) actual bound ∧
      sink.accept session frame =
        ⟨.failed (.tooLarge actual bound),
          .counted .frame ++ reported frame (.failed (.tooLarge actual bound)), session,
          new sink.handler⟩ := by
  rcases process_of_overruns kept overrun with ⟨actual, bound, reports, refused⟩
  refine ⟨actual, bound, reports, ?_⟩
  rw [accept, refused, Journal.append_empty]

theorem deliver_of_accepted {handler : Handler σ} {message : ByteArray}
    (accepted : (handler.call (.whole message)).1.verdict = .accept) (session : Session) :
    ∃ later, deliver (new handler) session message =
      ⟨.ok, .delivery (.whole message) ++ .counted .message, later,
        new (handler.after [.whole message])⟩ := by
  let reply := (handler.call (.whole message)).1
  refine ⟨(reply.newRawLimit.map session.setLimit).getD session, ?_⟩
  simp only [deliver, new, accepted]
  rfl

/-- A handler that accepts the message makes the final frame succeed. -/
theorem accept_of_last (kept : sink.accumulator = .holding held)
    (within : ¬ Overruns session.rawLimit held frame.bytes) (last : frame.isFinal = true)
    (accepted : (sink.handler.call (.whole (held ++ frame.bytes))).1.verdict = .accept) :
    ∃ later, sink.accept session frame =
      ⟨.ok, .counted .frame ++ (.delivery (.whole (held ++ frame.bytes)) ++ .counted .message),
        later, new (sink.handler.after [.whole (held ++ frame.bytes)])⟩ := by
  rcases deliver_of_accepted accepted session with ⟨later, delivered⟩
  refine ⟨later, ?_⟩
  rw [accept, process_of_last kept within last, delivered]
  exact congrArg (Acceptance.mk _ · _ _) (Journal.append_empty _)

end Sink

namespace Pump

variable {σ : Type}

/-- A frame that a sink put behind the bytes it held. -/
def Accepted.collected (frame : Frame) : Accepted :=
  ⟨frame, .ok, .counted .frame⟩

/-- A final frame with which a sink delivered this message. -/
def Accepted.delivering (frame : Frame) (message : ByteArray) : Accepted :=
  ⟨frame, .ok, .counted .frame ++ (.delivery (.whole message) ++ .counted .message)⟩

theorem isOk_of_mem_collected {frames : List Frame} {each : Accepted}
    (member : each ∈ frames.map .collected) : each.outcome.isOk = true := by
  rcases List.mem_map.mp member with ⟨frame, _, rfl⟩
  rfl

theorem counts_map_collected {frames : List Frame}
    (more : ∀ frame ∈ frames, frame.isFinal = false) :
    counts (frames.map .collected) = ⟨frames.length, 0, 0⟩ := by
  induction frames using List.reverseRecOn with
  | nil => rfl
  | append_singleton frames frame ih =>
      have not_last : frame.isFinal = false := more frame List.mem_concat_self
      rw [List.map_append, List.map_singleton, counts_append_singleton,
        ih fun other member => more other (List.mem_append_left _ member), List.length_append]
      simp only [Stats.count, Accepted.collected, not_last, Bool.and_false, Bool.false_eq_true,
        if_false, Outcome.isOk, if_true, List.length_singleton]

theorem shown_map_collected (frames : List Frame) :
    shown (frames.map .collected) =
      .counted { Metrics.zero with framesAccepted := frames.length } := by
  induction frames using List.reverseRecOn with
  | nil => rfl
  | append_singleton frames frame ih =>
      have quiet : (Accepted.collected frame).warning (frames.length + 1) = .empty := rfl
      rw [List.map_append, List.map_singleton, shown_append_singleton, ih, List.length_map, quiet,
        Journal.append_empty, List.length_append]
      rfl

variable {session : Session} {handler : Handler σ} {frames : List Frame} {frame : Frame}

/-- One more frame moves the sequence by what the sink makes of it. -/
theorem acceptAll_concat {sequence : Sequence (Sink σ)} {sink : Sink σ} {before : List Item}
    {acceptance : Acceptance σ} (reached : acceptAll session sink before = sequence)
    (accepted : sequence.sink.accept sequence.session frame = acceptance) :
    acceptAll session sink (before ++ [.frame frame]) =
      ⟨acceptance.session, acceptance.sink,
        sequence.accepted ++ [⟨frame, acceptance.outcome, acceptance.journal⟩]⟩ := by
  rw [acceptAll_append, reached, ← accepted]
  rfl

/-- As long as the limit admits what has come, a new sink holds all of it. -/
theorem acceptAll_collected (session : Session) (handler : Handler σ)
    (more : ∀ frame ∈ frames, frame.isFinal = false)
    (admits : Sink.Admits session.rawLimit (Frame.joined frames).size) :
    acceptAll session (Sink.new handler) (frames.map .frame) =
      ⟨session, ⟨handler, .holding (Frame.joined frames)⟩, frames.map .collected⟩ := by
  induction frames using List.reverseRecOn with
  | nil =>
      have started : Accumulator.holding (Frame.joined []) = .empty := Accumulator.holding_empty
      rw [started]
      rfl
  | append_singleton frames frame ih =>
      rw [Frame.joined_concat] at admits ⊢
      have fewer : (Frame.joined frames).size ≤ (Frame.joined frames ++ frame.bytes).size := by
        rw [ByteArray.size_append]
        exact Nat.le_add_right _ _
      have before := ih (fun other member => more other (List.mem_append_left _ member))
        (admits.of_le fewer)
      have kept : (Sink.mk handler (.holding (Frame.joined frames))).accumulator =
          .holding (Frame.joined frames) := rfl
      rw [List.map_append, List.map_append]
      exact acceptAll_concat before
        (Sink.accept_of_more kept admits.not_overruns (more frame List.mem_concat_self))

/-! ## The two ways on -/

/-- The run is over because the message was delivered: every frame succeeded,
and the handler was called once, with the whole message. -/
structure Run.Delivers (run : Run (Sink σ)) (handler : Handler σ) (message : ByteArray)
    (frames : Nat) : Prop where
  result : run.result = .ok ⟨frames, 1, 0⟩
  unread : run.unread = []
  deliveries : run.journal.deliveries = #[.whole message]
  sink : run.sink = Sink.new (handler.after [.whole message])

/-- The run is over because a frame made the message too large: the frames
behind it are not read, and the handler was not called. -/
structure Run.Refuses (run : Run (Sink σ)) (handler : Handler σ) (error : SinkError)
    (place : Nat) (frame : Frame) (rest : List Frame) : Prop where
  result : run.result = .error error
  unread : run.unread = rest.map .frame
  deliveries : run.journal.deliveries = #[]
  records : run.journal.records =
    #[Sink.discarded frame error, rejected (place + 1) frame error]
  sink : run.sink = Sink.new handler

/-- A message that is admitted whole is delivered by its final frame. -/
theorem run_delivers (more : ∀ other ∈ frames, other.isFinal = false)
    (last : frame.isFinal = true)
    (admits : Sink.Admits session.rawLimit (Frame.joined (frames ++ [frame])).size)
    (accepted : (handler.call (.whole (Frame.joined (frames ++ [frame])))).1.verdict = .accept) :
    (run .abort session (Sink.new handler) ((frames ++ [frame]).map .frame)).Delivers handler
      (Frame.joined (frames ++ [frame])) (frames.length + 1) := by
  rw [Frame.joined_concat] at admits accepted ⊢
  have fewer : (Frame.joined frames).size ≤ (Frame.joined frames ++ frame.bytes).size := by
    rw [ByteArray.size_append]
    exact Nat.le_add_right _ _
  have kept : (Sink.mk handler (.holding (Frame.joined frames))).accumulator =
      .holding (Frame.joined frames) := rfl
  rcases Sink.accept_of_last kept admits.not_overruns last accepted with ⟨later, delivered⟩
  have reached := acceptAll_concat
    (acceptAll_collected session handler more (admits.of_le fewer)) delivered
  have whole : acceptAll session (Sink.new handler) ((frames ++ [frame]).map .frame) =
      ⟨later, Sink.new (handler.after [.whole (Frame.joined frames ++ frame.bytes)]),
        frames.map .collected ++ [.delivering frame (Frame.joined frames ++ frame.bytes)]⟩ := by
    rw [List.map_append]
    exact reached
  have passes : (acceptAll session (Sink.new handler)
      ((frames ++ [frame]).map .frame)).Passes .abort := by
    rw [whole]
    intro _ each member
    rcases List.mem_append.mp member with earlier | here
    · exact isOk_of_mem_collected earlier
    · rw [List.mem_singleton.mp here]
      rfl
  rw [run_of_passes passes, whole]
  refine ⟨?_, rfl, ?_, rfl⟩
  · show Except.ok (counts (frames.map .collected ++ [.delivering frame _])) = _
    rw [counts_append_singleton, counts_map_collected more]
    simp only [Stats.count, Accepted.delivering, last, Outcome.isOk, Bool.and_true, if_true]
  · show (shown (frames.map .collected ++ [.delivering frame _])).deliveries ++ #[] = _
    rw [shown_append_singleton, shown_map_collected]
    rfl

/-- The frame that brings more bytes than the limit admits ends the run. -/
theorem run_refuses (handler : Handler σ) (rest : List Frame)
    (more : ∀ other ∈ frames, other.isFinal = false)
    (admits : Sink.Admits session.rawLimit (Frame.joined frames).size)
    (overrun : Sink.Overruns session.rawLimit (Frame.joined frames) frame.bytes) :
    ∃ actual bound,
      Sink.Reports session.rawLimit ((Frame.joined frames).size + frame.bytes.size) actual bound ∧
        (run .abort session (Sink.new handler) ((frames ++ frame :: rest).map .frame)).Refuses
          handler (.tooLarge actual bound) frames.length frame rest := by
  have kept : (Sink.mk handler (.holding (Frame.joined frames))).accumulator =
      .holding (Frame.joined frames) := rfl
  rcases Sink.accept_of_overruns kept overrun with ⟨actual, bound, reports, refused⟩
  refine ⟨actual, bound, reports, ?_⟩
  have collected := acceptAll_collected session handler more admits
  have taken := acceptAll_concat collected refused
  let first : FirstFailure session (Sink.new handler) ((frames ++ frame :: rest).map .frame) := {
    before := frames.map .frame
    frame := frame
    error := .tooLarge actual bound
    rest := rest.map .frame
    splits := by rw [List.map_append, List.map_cons]
    ok_before := by
      rw [collected]
      exact fun each member => isOk_of_mem_collected member
    failed := by
      rw [collected]
      exact congrArg Acceptance.outcome refused }
  rw [first.run_abort]
  have reached : acceptAll session (Sink.new handler) first.taken = _ := taken
  rw [reached]
  refine ⟨rfl, rfl, ?_, ?_, rfl⟩
  · show (shown (frames.map .collected ++ [_])).deliveries = _
    rw [shown_append_singleton, shown_map_collected]
    rfl
  · show (shown (frames.map .collected ++ [_])).records = _
    rw [shown_append_singleton, shown_map_collected, List.length_map]
    rfl

end Pump
end Reassembly
