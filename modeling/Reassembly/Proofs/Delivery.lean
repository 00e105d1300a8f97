import Reassembly.Proofs.MessageSpan

namespace Reassembly

/-!
# What a frame brings about after any run

A sink that has run for a while knows nothing but its accumulator, yet all that
its next frame brings about follows from the history: from the payloads since a
message last ended, from the number stored as the limit when the frame arrives,
and from the reply that the handler, having answered all earlier deliveries,
gives to the whole message.  `Receipt.FollowsFrom` states this, and
`receipt_followsFrom_history` says that it holds after every run of a new sink.

The three cases of a frame are three equations for `process`, all under the one
invariant that the accumulator holds the bytes left over.
-/

namespace Handler

variable {σ : Type}

/-- The handler once it has answered these deliveries in turn. -/
def after (handler : Handler σ) (deliveries : List Delivery) : Handler σ :=
  deliveries.foldl (fun handler delivery => (handler.call delivery).2) handler

theorem after_append (handler : Handler σ) (earlier later : List Delivery) :
    handler.after (earlier ++ later) = (handler.after earlier).after later :=
  List.foldl_append

end Handler

namespace Sink

variable {σ : Type}

/-- A payload on top of the bytes held breaks the limit stored as this number.
A frame without payload bytes breaks none. -/
def Overruns (rawLimit : Int64) (held payload : ByteArray) : Prop :=
  payload ≠ ByteArray.empty ∧ 0 < rawLimit.toInt ∧ rawLimit.toInt < held.size + payload.size

instance (rawLimit : Int64) (held payload : ByteArray) :
    Decidable (Overruns rawLimit held payload) :=
  inferInstanceAs (Decidable (_ ∧ _ ∧ _))

/-- The counts that a refused frame reports: the bytes counted, up to the
largest count, and the limit in force. -/
def Reports (rawLimit : Int64) (bytes : Nat) (actual : UInt64) (bound : Bound) : Prop :=
  actual.toNat = min bytes Accumulator.maxSize ∧ (bound.bytes.toNat : Int) = rawLimit.toInt

/-! ## The cases of a frame -/

/-- Counting stops at a number that is above every limit, so no overrun is
missed. -/
theorem lt_advance_iff {rawLimit : Int64} {bound : Bound}
    (stored : (bound.bytes.toNat : Int) = rawLimit.toInt) (bytes : Nat) :
    bound.bytes < Accumulator.advance 0 bytes ↔ rawLimit.toInt < bytes := by
  have zero : (0 : UInt64).toNat = 0 := rfl
  have small := Int64.toInt_lt rawLimit
  rw [UInt64.lt_iff_toNat_lt, Accumulator.toNat_advance, zero, Accumulator.maxSize]
  omega

theorem receive_of_overruns {rawLimit : Int64} {held : ByteArray} {frame : Frame}
    (overrun : Overruns rawLimit held frame.bytes) :
    ∃ actual bound counted, Reports rawLimit (held.size + frame.bytes.size) actual bound ∧
      (Accumulator.holding held).receive frame (.ofRaw rawLimit) =
        .error ⟨.tooLarge actual bound, counted⟩ := by
  rcases overrun with ⟨payload_there, positive, beyond⟩
  have zero : (0 : UInt64).toNat = 0 := rfl
  let total := Accumulator.advance 0 (held.size + frame.bytes.size)
  have counted : total.toNat = min (held.size + frame.bytes.size) Accumulator.maxSize := by
    rw [Accumulator.toNat_advance, zero, Nat.zero_add]
  have above := SizeLimit.pos_iff_toInt_pos.mpr positive
  let bound : Bound := ⟨rawLimit.toUInt64, SizeLimit.toUInt64_pos above⟩
  have stored : (bound.bytes.toNat : Int) = rawLimit.toInt :=
    SizeLimit.toNat_toUInt64_of_pos above
  refine ⟨total, bound, ⟨(Accumulator.holding held).buffer, total⟩, ⟨counted, stored⟩, ?_⟩
  rw [Accumulator.receive_of_hasPayload ((Frame.hasPayload_iff frame).mpr payload_there),
    Accumulator.append_eq_error_iff, Accumulator.advance_holding]
  refine ⟨bound, SizeLimit.ofRaw_eq_bounded_iff.mpr ⟨positive, stored⟩, ?_, rfl⟩
  rw [lt_advance_iff stored, Int.natCast_add]
  exact beyond

theorem receive_of_not_overruns {rawLimit : Int64} {held : ByteArray} {frame : Frame}
    (within : ¬ Overruns rawLimit held frame.bytes) :
    (Accumulator.holding held).receive frame (.ofRaw rawLimit) =
      .ok (.holding (held ++ frame.bytes)) := by
  cases received : (Accumulator.holding held).receive frame (.ofRaw rawLimit) with
  | ok next => rw [Accumulator.receive_holding received]
  | error error =>
      refine absurd ?_ within
      cases carries : frame.hasPayload with
      | false =>
          rw [Accumulator.receive_of_bare carries] at received
          cases received
      | true =>
          rw [Accumulator.receive_of_hasPayload carries, Accumulator.append_eq_error_iff,
            Accumulator.advance_holding] at received
          rcases received with ⟨bound, limited, beyond, _⟩
          rcases SizeLimit.ofRaw_eq_bounded_iff.mp limited with ⟨positive, stored⟩
          rw [lt_advance_iff stored, Int.natCast_add] at beyond
          exact ⟨(Frame.hasPayload_iff frame).mp carries, positive, beyond⟩

section Cases

variable {sink : Sink σ} {held : ByteArray} {session : Session} {frame : Frame}

/-- A frame that overruns the limit is refused, and all that was held is
dropped with it. -/
theorem process_of_overruns (kept : sink.accumulator = .holding held)
    (overrun : Overruns session.rawLimit held frame.bytes) :
    ∃ actual bound, Reports session.rawLimit (held.size + frame.bytes.size) actual bound ∧
      sink.process session frame =
        ⟨.failed (.tooLarge actual bound), .empty, session, new sink.handler⟩ := by
  rcases receive_of_overruns overrun with ⟨actual, bound, counted, reports, refused⟩
  rw [← kept] at refused
  exact ⟨actual, bound, reports, process_of_refused refused⟩

/-- A frame within the limit that is not the last one is put behind the bytes
held. -/
theorem process_of_more (kept : sink.accumulator = .holding held)
    (within : ¬ Overruns session.rawLimit held frame.bytes) (more : frame.isFinal = false) :
    sink.process session frame =
      ⟨.ok, .empty, session, ⟨sink.handler, .holding (held ++ frame.bytes)⟩⟩ := by
  have received := receive_of_not_overruns within
  rw [← kept] at received
  exact process_of_not_final received more

/-- A final frame within the limit delivers the bytes held and its own. -/
theorem process_of_last (kept : sink.accumulator = .holding held)
    (within : ¬ Overruns session.rawLimit held frame.bytes) (last : frame.isFinal = true) :
    sink.process session frame = deliver (new sink.handler) session (held ++ frame.bytes) := by
  have received := receive_of_not_overruns within
  rw [← kept] at received
  rw [process_of_final received last, Accumulator.message_holding]

end Cases

/-! ## The handler -/

/-- The handler moves on by the calls in the journal and by nothing else. -/
theorem handler_accept (sink : Sink σ) (session : Session) (frame : Frame) :
    (sink.accept session frame).sink.handler =
      sink.handler.after (sink.accept session frame).journal.deliveries.toList := by
  rw [sink_accept, deliveries_accept]
  cases received : sink.accumulator.receive frame session.limit with
  | error error =>
      rw [process_of_refused received]
      rfl
  | ok accumulator =>
      cases last : frame.isFinal with
      | true =>
          rw [process_of_final received last]
          rfl
      | false =>
          rw [process_of_not_final received last]
          rfl

/-- After any run the handler has answered the deliveries of the journal, in
order. -/
theorem handler_run (session : Session) (handler : Handler σ) (steps : List Step) :
    (run session (new handler) steps).sink.handler =
      handler.after (run session (new handler) steps).journal.deliveries.toList := by
  refine Run.steps_preserve
    (motive := fun reached =>
      reached.sink.handler = handler.after reached.journal.deliveries.toList) ?_ rfl steps
  intro reached step answered
  cases step with
  | setLimit raw => exact answered
  | accept frame =>
      rw [Run.journal_step_accept, Journal.deliveries_append, Array.toList_append,
        Handler.after_append, ← answered]
      exact handler_accept reached.sink reached.session frame

/-! ## The law of a frame -/

/-- A receipt says what the bytes held before the frame, and the reply that the
handler gives to the whole message, make of the frame. -/
structure Receipt.FollowsFrom (held : ByteArray) (reply : Reply) (receipt : Receipt) : Prop where
  /-- A frame is too large exactly when it overruns the limit. -/
  tooLarge_iff :
    (∃ actual bound, receipt.outcome = .failed (.tooLarge actual bound)) ↔
      Overruns receipt.rawLimit held receipt.frame.bytes
  /-- The failure names the bytes counted and the limit. -/
  tooLarge_reports : ∀ actual bound, receipt.outcome = .failed (.tooLarge actual bound) →
    Reports receipt.rawLimit (held.size + receipt.frame.bytes.size) actual bound
  /-- The message of a frame that is too large goes nowhere. -/
  refused : Overruns receipt.rawLimit held receipt.frame.bytes →
    receipt.journal.deliveries = #[]
  /-- Any other frame that is not the last one succeeds and delivers nothing. -/
  collected : ¬ Overruns receipt.rawLimit held receipt.frame.bytes →
    receipt.frame.isFinal = false →
      receipt.outcome = .ok ∧ receipt.journal.deliveries = #[]
  /-- The last one delivers the whole message in one call, and its outcome is
  what the handler replied. -/
  delivered : ¬ Overruns receipt.rawLimit held receipt.frame.bytes →
    receipt.frame.isFinal = true →
      receipt.journal.deliveries =
          #[⟨held ++ receipt.frame.bytes, 0, (held ++ receipt.frame.bytes).size⟩] ∧
        receipt.outcome =
          match reply.verdict with
          | .accept => .ok
          | .reject error => .failed (.handler error)
          | .panic payload => .failed (.handlerPanicked payload.render)

theorem outcome_receipt (sink : Sink σ) (session : Session) (frame : Frame) :
    (sink.receipt session frame).outcome = (sink.process session frame).outcome := rfl

theorem deliveries_receipt (sink : Sink σ) (session : Session) (frame : Frame) :
    (sink.receipt session frame).journal.deliveries =
      (sink.process session frame).journal.deliveries :=
  deliveries_accept sink session frame

/-- The handler is called by final frames within the limit only, once, and with
the whole message. -/
theorem Receipt.FollowsFrom.of_mem_deliveries {held : ByteArray} {reply : Reply}
    {receipt : Receipt} (follows : receipt.FollowsFrom held reply) {delivery : Delivery}
    (member : delivery ∈ receipt.journal.deliveries) :
    receipt.frame.isFinal = true ∧ ¬ Overruns receipt.rawLimit held receipt.frame.bytes ∧
      delivery = .whole (held ++ receipt.frame.bytes) ∧
      receipt.journal.deliveries = #[delivery] := by
  by_cases overrun : Overruns receipt.rawLimit held receipt.frame.bytes
  · rw [follows.refused overrun] at member
    exact absurd member (Array.not_mem_empty delivery)
  · cases last : receipt.frame.isFinal with
    | false =>
        rw [(follows.collected overrun last).2] at member
        exact absurd member (Array.not_mem_empty delivery)
    | true =>
        have called := (follows.delivered overrun last).1
        rw [called] at member ⊢
        have same := Array.mem_singleton.mp member
        subst same
        exact ⟨rfl, overrun, rfl, rfl⟩

/-- No verdict of a handler makes a frame too large. -/
theorem outcomeOf_ne_tooLarge (verdict : Verdict) (actual : UInt64) (bound : Bound) :
    outcomeOf verdict ≠ .failed (.tooLarge actual bound) := by
  intro same
  cases verdict <;> cases same

section Receipts

variable {sink : Sink σ} {held : ByteArray}

theorem outcome_receipt_ne_tooLarge (kept : sink.accumulator = .holding held) {session : Session}
    {frame : Frame} (within : ¬ Overruns session.rawLimit held frame.bytes) (actual : UInt64)
    (bound : Bound) : (sink.receipt session frame).outcome ≠ .failed (.tooLarge actual bound) := by
  rw [outcome_receipt]
  cases last : frame.isFinal with
  | false =>
      rw [process_of_more kept within last]
      intro impossible
      cases impossible
  | true =>
      rw [process_of_last kept within last]
      exact outcomeOf_ne_tooLarge _ actual bound

/-- One frame follows from the bytes held, whatever brought the sink there. -/
theorem receipt_followsFrom (kept : sink.accumulator = .holding held) (session : Session)
    (frame : Frame) :
    (sink.receipt session frame).FollowsFrom held
      (sink.handler.call (.whole (held ++ frame.bytes))).1 := by
  have outcome := outcome_receipt sink session frame
  have deliveries := deliveries_receipt sink session frame
  by_cases overrun : Overruns session.rawLimit held frame.bytes
  · rcases process_of_overruns kept overrun with ⟨actual, bound, reports, refused⟩
    rw [refused] at outcome deliveries
    refine ⟨⟨fun _ => overrun, fun _ => ⟨actual, bound, outcome⟩⟩, ?_, fun _ => deliveries,
      fun within => absurd overrun within, fun within => absurd overrun within⟩
    intro otherActual otherBound failed
    rw [outcome] at failed
    cases failed
    exact reports
  · have other := outcome_receipt_ne_tooLarge kept overrun
    refine ⟨⟨?_, fun broken => absurd broken overrun⟩, ?_,
      fun broken => absurd broken overrun, ?_, ?_⟩
    · rintro ⟨actual, bound, failed⟩
      exact absurd failed (other actual bound)
    · intro actual bound failed
      exact absurd failed (other actual bound)
    · intro _ more
      rw [process_of_more kept overrun more] at outcome deliveries
      exact ⟨outcome, deliveries⟩
    · intro _ last
      rw [process_of_last kept overrun last] at outcome deliveries
      exact ⟨deliveries, outcome⟩

/-- What is stored as the limit after a frame is the number that the handler
stored while it was called, if it was and did, and otherwise the old one. -/
theorem rawLimit_accept (kept : sink.accumulator = .holding held) (session : Session)
    (frame : Frame) :
    (sink.accept session frame).session.rawLimit =
      if (sink.receipt session frame).journal.deliveries = #[] then session.rawLimit
      else ((sink.handler.call (.whole (held ++ frame.bytes))).1.newRawLimit).getD
        session.rawLimit := by
  rw [session_accept, deliveries_receipt]
  by_cases overrun : Overruns session.rawLimit held frame.bytes
  · rcases process_of_overruns kept overrun with ⟨actual, bound, _, refused⟩
    rw [refused]
    rfl
  · cases last : frame.isFinal with
    | false =>
        rw [process_of_more kept overrun last]
        rfl
    | true =>
        have called : (deliver (new sink.handler) session (held ++ frame.bytes)).journal.deliveries ≠
            #[] := by
          intro none_there
          cases none_there
        rw [process_of_last kept overrun last, if_neg called]
        show (((sink.handler.call (.whole (held ++ frame.bytes))).1.newRawLimit.map
          session.setLimit).getD session).rawLimit = _
        cases (sink.handler.call (.whole (held ++ frame.bytes))).1.newRawLimit <;> rfl

end Receipts

/-- After any run of a new sink, its next frame brings about what follows from
the payloads since a message last ended, from the number stored as the limit,
and from the reply of the handler that has answered all earlier deliveries.
The receipt of the frame stands in the history behind all earlier ones. -/
theorem receipt_followsFrom_history (session : Session) (handler : Handler σ)
    (before after : List Step) (frame : Frame) :
    let earlier := run session (new handler) before
    let held := payloads (unfinished earlier.receipts.toList)
    let receipt := earlier.sink.receipt earlier.session frame
    let reply := ((handler.after earlier.journal.deliveries.toList).call
      (.whole (held ++ frame.bytes))).1
    (∃ later, (run session (new handler) (before ++ .accept frame :: after)).receipts.toList =
        earlier.receipts.toList ++ receipt :: later) ∧
      receipt.frame = frame ∧ receipt.rawLimit = earlier.session.rawLimit ∧
      receipt.FollowsFrom held reply ∧
      (run session (new handler) (before ++ [.accept frame])).session.rawLimit =
        if receipt.journal.deliveries = #[] then earlier.session.rawLimit
        else reply.newRawLimit.getD earlier.session.rawLimit := by
  intro earlier held receipt reply
  have kept : earlier.sink.accumulator = .holding held :=
    accumulator_run_eq_unfinished session handler before
  have same : reply = (earlier.sink.handler.call (.whole (held ++ frame.bytes))).1 := by
    rw [handler_run]
  refine ⟨?_, rfl, rfl, ?_, ?_⟩
  · rcases (earlier.step (.accept frame)).receipts_steps after with ⟨later, grown⟩
    refine ⟨later, ?_⟩
    rw [run_append, Run.steps_cons, grown, Run.toList_receipts_step_accept, List.append_assoc]
    rfl
  · rw [same]
    exact receipt_followsFrom kept earlier.session frame
  · rw [run_append, same]
    exact rawLimit_accept kept earlier.session frame

end Sink
end Reassembly
