import Reassembly.Proofs.OneMessage
import Reassembly.Proofs.Pieces

namespace Reassembly
namespace Pump

/-!
# Cutting a payload and assembling it again

A payload is cut into frames and the frames are pumped into a new sink.  If the
limit admits the payload, it is delivered in one call as it was before it was
cut.  If not, the run ends at the frame that carries the first byte beyond the
limit: every frame before that is full, so its place is the limit divided by
the size of a piece.

What is delivered is the same however the payload is cut
(`assembly_of_fragments`).
-/

open Fragment

variable {σ : Type} {session : Session} {handler : Handler σ} {payload : ByteArray} {chunk : Nat}

/-- A payload that is admitted comes out whole. -/
theorem run_ofPayload_delivers (positive : 0 < chunk)
    (admits : Sink.Admits session.rawLimit payload.size)
    (accepted : (handler.call (.whole payload)).1.verdict = .accept) :
    (run .abort session (Sink.new handler)
        ((ofPayload payload chunk positive).map .frame)).Delivers handler payload
      (max 1 (payload.size ⌈/⌉ chunk)) := by
  rcases exists_last_ofPayload payload positive with
    ⟨front, last, cut, more, final, joined, count⟩
  rw [cut, ← count]
  rw [← joined] at admits accepted ⊢
  exact run_delivers more final admits accepted

/-- The first byte beyond the limit is in the frame with as many full ones in
front of it as the limit has room for. -/
theorem limit_in_piece {limit size : Nat} (positive : 0 < chunk) (beyond : limit < size) :
    limit / chunk * chunk ≤ limit ∧ limit < min ((limit / chunk + 1) * chunk) size := by
  have split := Nat.div_add_mod limit chunk
  have part := Nat.mod_lt limit positive
  rw [Nat.mul_comm] at split
  refine ⟨Nat.div_mul_le_self limit chunk, Nat.lt_min.mpr ⟨?_, beyond⟩⟩
  rw [Nat.succ_mul]
  omega

/-- A payload that is not admitted ends the run where it first has more bytes
than the limit. -/
theorem run_ofPayload_refuses (session : Session) (handler : Handler σ) (positive : 0 < chunk)
    (beyond : ¬ Sink.Admits session.rawLimit payload.size) :
    let frames := ofPayload payload chunk positive
    let place := session.rawLimit.toInt.toNat / chunk
    ∃ (inside : place < frames.length) (actual : UInt64) (bound : Bound),
      Sink.Reports session.rawLimit (min ((place + 1) * chunk) payload.size) actual bound ∧
        (run .abort session (Sink.new handler) (frames.map .frame)).Refuses handler
          (.tooLarge actual bound) place frames[place] (frames.drop (place + 1)) := by
  intro frames place
  have limited : 0 < session.rawLimit.toInt ∧ session.rawLimit.toInt < payload.size := by
    unfold Sink.Admits at beyond
    omega
  have room : place * chunk ≤ session.rawLimit.toInt.toNat ∧
      session.rawLimit.toInt.toNat < min ((place + 1) * chunk) payload.size :=
    limit_in_piece positive (by omega)
  have within : place * chunk < payload.size := by omega
  have held := size_joined_framesUpTo (Nat.le_of_lt within)
  rcases ofPayload_parted positive within with ⟨inside, parted, bytes⟩
  have size := congrArg ByteArray.size bytes
  rw [size_pieceAt] at size
  have admits : Sink.Admits session.rawLimit
      (Frame.joined (framesUpTo payload chunk place)).size := by
    rw [held, Sink.Admits]
    omega
  have overrun : Sink.Overruns session.rawLimit (Frame.joined (framesUpTo payload chunk place))
      (ofPayload payload chunk positive)[place].bytes := by
    refine ⟨mt ByteArray.size_eq_zero_iff.mpr ?_, limited.1, ?_⟩
    · omega
    · omega
  have refuses := run_refuses handler ((ofPayload payload chunk positive).drop (place + 1))
    (fun frame member => isFinal_of_mem_framesUpTo ((lt_pieceCount_iff positive).mpr within) member)
    admits overrun
  rw [← parted, length_framesUpTo, held, size, Nat.add_sub_cancel' (by omega)] at refuses
  exact ⟨inside, refuses⟩

/-- What is delivered of a cut payload: all of it in one call, or nothing if the
limit does not admit it. -/
theorem deliveries_run_ofPayload (positive : 0 < chunk)
    (accepted : (handler.call (.whole payload)).1.verdict = .accept) :
    (run .abort session (Sink.new handler)
        ((ofPayload payload chunk positive).map .frame)).journal.deliveries =
      if Sink.Admits session.rawLimit payload.size then #[.whole payload] else #[] := by
  by_cases admits : Sink.Admits session.rawLimit payload.size
  · rw [if_pos admits]
    exact (run_ofPayload_delivers positive admits accepted).deliveries
  · rcases run_ofPayload_refuses session handler positive admits with
      ⟨inside, actual, bound, reports, refuses⟩
    rw [if_neg admits]
    exact refuses.deliveries

/-- A payload that the limit admits is delivered once and as it was.  Any other
is refused at the frame whose number, counted from one, is one more than the
number of full frames that the limit has room for; nothing is delivered, and
the frames behind that one stay unread.  Either way the sink ends with nothing
in it, and what it delivered does not depend on how the payload was cut. -/
theorem assembly_of_fragments (handler : Handler σ) (rawLimit : Int64) (payload : ByteArray)
    (accepted : (handler.call (.whole payload)).1.verdict = .accept)
    (chunk : Nat) (positive : 0 < chunk) :
    let limit := rawLimit.toInt
    let frames := ofPayload payload chunk positive
    let assembled := run .abort ⟨rawLimit⟩ (Sink.new handler) (frames.map .frame)
    assembled.sink.accumulator = .empty ∧
      (limit ≤ 0 ∨ payload.size ≤ limit →
        assembled.result = .ok ⟨max 1 (payload.size ⌈/⌉ chunk), 1, 0⟩ ∧
          assembled.unread = [] ∧ assembled.journal.deliveries = #[.whole payload]) ∧
      (0 < limit ∧ limit < payload.size →
        let place := limit.toNat / chunk
        let counted := min ((place + 1) * chunk) payload.size
        assembled.journal.deliveries = #[] ∧
          ∃ (inside : place < frames.length) (actual : UInt64) (bound : Bound),
            actual.toNat = min counted Accumulator.maxSize ∧
              (payload.size ≤ Accumulator.maxSize → actual.toNat = counted) ∧
              (bound.bytes.toNat : Int) = limit ∧
              assembled.result = .error (.tooLarge actual bound) ∧
              assembled.journal.records =
                #[Sink.discarded frames[place] (.tooLarge actual bound),
                  rejected (place + 1) frames[place] (.tooLarge actual bound)] ∧
              assembled.unread = (frames.drop (place + 1)).map .frame ∧
              assembled.unread.length + (place + 1) = payload.size ⌈/⌉ chunk) ∧
      ∀ (other : Nat) (also : 0 < other),
        (run .abort ⟨rawLimit⟩ (Sink.new handler)
            ((ofPayload payload other also).map .frame)).journal.deliveries =
          assembled.journal.deliveries := by
  intro limit frames assembled
  have same : ∀ (other : Nat) (also : 0 < other),
      (run .abort ⟨rawLimit⟩ (Sink.new handler)
          ((ofPayload payload other also).map .frame)).journal.deliveries =
        assembled.journal.deliveries := by
    intro other also
    rw [deliveries_run_ofPayload also accepted, deliveries_run_ofPayload positive accepted]
  by_cases admits : Sink.Admits rawLimit payload.size
  · have delivers : assembled.Delivers handler payload (max 1 (payload.size ⌈/⌉ chunk)) :=
      run_ofPayload_delivers positive admits accepted
    have emptied := congrArg Sink.accumulator delivers.sink
    refine ⟨emptied, ?_, ?_, same⟩
    · intro _
      exact ⟨delivers.result, delivers.unread, delivers.deliveries⟩
    · rintro ⟨above, beyond⟩
      unfold Sink.Admits at admits
      omega
  · rcases run_ofPayload_refuses ⟨rawLimit⟩ handler positive admits with
      ⟨inside, actual, bound, reports, refuses⟩
    have emptied := congrArg Sink.accumulator refuses.sink
    refine ⟨emptied, fun within => absurd within admits, ?_, same⟩
    rintro ⟨above, beyond⟩ place counted
    have exactly : payload.size ≤ Accumulator.maxSize → actual.toNat = counted := by
      intro small
      exact reports.toNat_eq (Nat.le_trans (Nat.min_le_right _ _) small)
    have left : assembled.unread.length + (place + 1) = payload.size ⌈/⌉ chunk := by
      have some_pieces : 0 < payload.size ⌈/⌉ chunk := by
        rw [← pieceCount_eq_ceilDiv positive, lt_pieceCount_iff positive, Nat.zero_mul]
        omega
      have unread := congrArg List.length refuses.unread
      rw [List.length_map, List.length_drop] at unread
      rw [unread, Nat.sub_add_cancel inside, length_ofPayload, Nat.max_eq_right some_pieces]
    exact ⟨refuses.deliveries, inside, actual, bound, reports.1, exactly, reports.2,
      refuses.result, refuses.records, refuses.unread, left⟩

/-- Five bytes in pieces of two, under a limit of three: the second frame
overruns it with the four bytes counted by then, and the third stays unread. -/
theorem five_bytes_are_refused_at_second_frame :
    (Handler.accepting.call (.whole ⟨#[1, 2, 3, 4, 5]⟩)).1.verdict = .accept ∧ 0 < 2 ∧
      let frames := ofPayload ⟨#[1, 2, 3, 4, 5]⟩ 2 (by decide)
      let assembled := run .abort ⟨3⟩ (Sink.new Handler.accepting) (frames.map .frame)
      assembled.journal.deliveries = #[] ∧ assembled.unread.length + 2 = 3 ∧
        ∃ actual bound, assembled.result = .error (.tooLarge actual bound) ∧
          actual.toNat = 4 ∧ (bound.bytes.toNat : Int) = 3 := by
  have law := assembly_of_fragments Handler.accepting 3 ⟨#[1, 2, 3, 4, 5]⟩ rfl 2 (by decide)
  rcases law.2.2.1 (by decide) with
    ⟨nothing, _, actual, bound, _, exactly, limit, result, _, _, left⟩
  exact ⟨rfl, by decide, nothing, left, actual, bound, result, exactly (by decide), limit⟩

end Pump
end Reassembly
