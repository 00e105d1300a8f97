import Reassembly.Proofs.Pieces

namespace Reassembly
namespace Fragment

/-!
# What a cut payload looks like

`IsExact` says what frames a payload is cut into without cutting anything:
joined they give the payload, all but the last are full, only the last is final,
and only the first is binary.  Cutting gives such frames, and no other frames
are such (`cut_exactly`).

The sizes settle where each frame starts, and what it carries is then read off
the payload (`Evenly.bytes_getElem`).
-/

/-- So many frames of one message, full but for the last one. -/
structure Evenly (chunk count : Nat) (frames : List Frame) : Prop where
  length_eq : frames.length = count
  full : ∀ (index : Nat) (_ : index + 1 < frames.length), frames[index].payloadSize = chunk
  last : ∀ frame ∈ frames.getLast?, 0 < frame.payloadSize ∧ frame.payloadSize ≤ chunk
  final : ∀ (index : Nat) (_ : index < frames.length),
    frames[index].isFinal = true ↔ index + 1 = frames.length
  opcode : ∀ (index : Nat) (_ : index < frames.length),
    frames[index].opcode = if index = 0 then .binary else .continuation

/-- The frames of a payload in pieces of this size. -/
structure IsExact (payload : ByteArray) (chunk : Nat) (frames : List Frame) : Prop where
  joined : Frame.joined frames = payload
  total : (sizes frames).sum = payload.size
  empty : payload.size = 0 → frames = [.emptyFinal .binary]
  even : 0 < payload.size → Evenly chunk (payload.size ⌈/⌉ chunk) frames

/-! ## Where a frame stands -/

section Places

variable {frames : List Frame} {index : Nat}

theorem sum_sizes (frames : List Frame) : (sizes frames).sum = (Frame.joined frames).size := by
  induction frames with
  | nil => rfl
  | cons first rest ih =>
      rw [Frame.joined_cons, ByteArray.size_append, ← ih]
      rfl

theorem joined_parted (inside : index < frames.length) :
    Frame.joined frames =
      Frame.joined (frames.take index) ++
        (frames[index].bytes ++ Frame.joined (frames.drop (index + 1))) := by
  rw [← Frame.joined_cons, ← Frame.joined_append, ← List.drop_eq_getElem_cons,
    List.take_append_drop]

/-- A frame carries what follows the frames in front of it. -/
theorem bytes_getElem (inside : index < frames.length) :
    frames[index].bytes =
      (Frame.joined frames).extract (Frame.joined (frames.take index)).size
        ((Frame.joined (frames.take index)).size + frames[index].payloadSize) := by
  have shifted := ByteArray.extract_append_size_add (a := Frame.joined (frames.take index))
    (b := frames[index].bytes ++ Frame.joined (frames.drop (index + 1)))
    (i := 0) (j := frames[index].payloadSize)
  simp only [Nat.add_zero] at shifted
  rw [joined_parted inside, shifted]
  exact (ByteArray.extract_append_eq_left rfl).symm

end Places

/-! ## Frames of equal size -/

namespace Evenly

variable {chunk count : Nat} {frames : List Frame} {index : Nat}

theorem full_or_last (even : Evenly chunk count frames) (inside : index < frames.length) :
    (index + 1 < frames.length ∧ frames[index].payloadSize = chunk) ∨
      (index + 1 = frames.length ∧ 0 < frames[index].payloadSize ∧
        frames[index].payloadSize ≤ chunk) := by
  rcases Nat.lt_or_eq_of_le (Nat.succ_le_of_lt inside) with earlier | same
  · exact .inl ⟨earlier, even.full index earlier⟩
  · refine .inr ⟨same, even.last frames[index] ?_⟩
    rw [List.getLast?_eq_getElem?, ← same, Nat.succ_sub_one, List.getElem?_eq_getElem inside]
    exact rfl

theorem payloadSize_pos (even : Evenly chunk count frames) (positive : 0 < chunk)
    (inside : index < frames.length) : 0 < frames[index].payloadSize := by
  rcases even.full_or_last inside with ⟨_, full⟩ | ⟨_, some_bytes, _⟩
  · rw [full]
    exact positive
  · exact some_bytes

theorem size_joined_take (even : Evenly chunk count frames) (inside : index < frames.length) :
    (Frame.joined (frames.take index)).size = index * chunk := by
  induction index with
  | zero =>
      rw [List.take_zero, Nat.zero_mul]
      rfl
  | succ index ih =>
      have earlier : index < frames.length := Nat.lt_of_succ_lt inside
      rw [List.take_add_one, List.getElem?_eq_getElem earlier, Option.toList_some,
        Frame.joined_concat, ByteArray.size_append, ih earlier, Nat.succ_mul]
      exact congrArg (index * chunk + ·) (even.full index inside)

/-- A frame ends after a full piece, or where the payload ends. -/
theorem stop_eq (even : Evenly chunk count frames) (inside : index < frames.length) :
    index * chunk + frames[index].payloadSize =
      min (index * chunk + chunk) (Frame.joined frames).size := by
  have whole := congrArg ByteArray.size (joined_parted inside)
  rw [ByteArray.size_append, ByteArray.size_append, even.size_joined_take inside] at whole
  change _ = _ + (frames[index].payloadSize + _) at whole
  rcases even.full_or_last inside with ⟨_, full⟩ | ⟨same, _, within⟩
  · omega
  · rw [same, List.drop_length] at whole
    change _ = _ + (_ + 0) at whole
    omega

theorem bytes_eq_pieceAt (even : Evenly chunk count frames) (inside : index < frames.length) :
    frames[index].bytes = pieceAt (Frame.joined frames) chunk index := by
  rw [Fragment.bytes_getElem inside, even.size_joined_take inside, even.stop_eq inside,
    extract_min_size, pieceAt]

theorem getElem_eq_frameAt (even : Evenly chunk count frames) (positive : 0 < chunk)
    (inside : index < frames.length) :
    frames[index] = frameAt count index (pieceAt (Frame.joined frames) chunk index) := by
  have opcode := even.opcode index inside
  have final : frames[index].isFinal = decide (index + 1 = count) := by
    rw [Bool.eq_iff_iff, decide_eq_true_iff, ← even.length_eq]
    exact even.final index inside
  have payload := Frame.payload_of_payloadSize_pos (even.payloadSize_pos positive inside)
  rw [even.bytes_eq_pieceAt inside] at payload
  -- a frame is its three parts, and all three are known
  generalize frames[index] = frame at opcode final payload ⊢
  rcases frame with ⟨kind, carried, ends⟩
  exact Frame.mk.injEq .. ▸ ⟨opcode, payload, final⟩

theorem eq_framesUpTo {payload : ByteArray}
    (even : Evenly chunk (pieceCount payload.size chunk) frames) (positive : 0 < chunk)
    (joined : Frame.joined frames = payload) :
    frames = framesUpTo payload chunk (pieceCount payload.size chunk) := by
  apply List.ext_getElem
  · rw [even.length_eq, length_framesUpTo]
  · intro index inside _
    rw [even.getElem_eq_frameAt positive inside, joined, getElem_framesUpTo]

end Evenly

/-! ## The frames of a payload -/

section Payload

variable {payload : ByteArray} {chunk : Nat}

theorem payloadSize_frameAt (payload : ByteArray) (chunk count index : Nat) :
    (frameAt count index (pieceAt payload chunk index)).payloadSize =
      min ((index + 1) * chunk) payload.size - index * chunk :=
  size_pieceAt payload chunk index

theorem evenly_framesUpTo (some_bytes : 0 < payload.size) (positive : 0 < chunk) :
    Evenly chunk (pieceCount payload.size chunk)
      (framesUpTo payload chunk (pieceCount payload.size chunk)) where
  length_eq := length_framesUpTo _ _ _
  full := by
    intro index inside
    rw [length_framesUpTo, lt_pieceCount_iff positive] at inside
    rw [getElem_framesUpTo, payloadSize_frameAt, Nat.min_eq_left (Nat.le_of_lt inside),
      Nat.succ_mul, Nat.add_sub_cancel_left]
  last := by
    obtain ⟨places, count⟩ := Nat.exists_eq_add_one.mpr (pieceCount_pos positive some_bytes)
    have inside : places * chunk < payload.size := by
      rw [← lt_pieceCount_iff positive, count]
      exact Nat.lt_succ_self places
    have beyond : payload.size ≤ (places + 1) * chunk := by
      rw [← count]
      exact le_pieceCount_mul payload.size positive
    intro frame member
    rw [count, framesUpTo_succ, List.getLast?_concat, Option.mem_some_iff] at member
    rw [← member, payloadSize_frameAt, Nat.min_eq_right beyond]
    rw [Nat.succ_mul] at beyond
    omega
  final := by
    intro index inside
    rw [getElem_framesUpTo, length_framesUpTo]
    exact decide_eq_true_iff
  opcode := by
    intro index inside
    rw [getElem_framesUpTo]
    rfl

theorem ofPayload_of_size_eq_zero (no_bytes : payload.size = 0) (positive : 0 < chunk) :
    ofPayload payload chunk positive = [.emptyFinal .binary] := by
  rw [ByteArray.size_eq_zero_iff.mp no_bytes]
  rfl

theorem isExact_iff (positive : 0 < chunk) {frames : List Frame} :
    IsExact payload chunk frames ↔ frames = ofPayload payload chunk positive := by
  have cut : 0 < payload.size → ofPayload payload chunk positive =
      framesUpTo payload chunk (pieceCount payload.size chunk) := by
    intro some_bytes
    apply ofPayload_of_ne_empty
    exact mt ByteArray.size_eq_zero_iff.mpr (Nat.ne_of_gt some_bytes)
  constructor
  · intro exactly
    rcases Nat.eq_zero_or_pos payload.size with no_bytes | some_bytes
    · rw [exactly.empty no_bytes, ofPayload_of_size_eq_zero no_bytes]
    · have even := exactly.even some_bytes
      rw [← pieceCount_eq_ceilDiv positive] at even
      rw [cut some_bytes]
      exact even.eq_framesUpTo positive exactly.joined
  · rintro rfl
    have joined : Frame.joined (ofPayload payload chunk positive) = payload := by
      rcases exists_last_ofPayload payload positive with ⟨front, last, parted, _, _, whole, _⟩
      rw [parted, whole]
    refine ⟨joined, ?_, fun no_bytes => ofPayload_of_size_eq_zero no_bytes positive, ?_⟩
    · rw [sum_sizes, joined]
    · intro some_bytes
      rw [cut some_bytes, ← pieceCount_eq_ceilDiv positive]
      exact evenly_framesUpTo some_bytes positive

/-- Cutting gives the frames that a payload has in pieces of this size, and these
are the only ones it has. -/
theorem cut_exactly (payload : ByteArray) (chunk : Nat) (positive : 0 < chunk) :
    ∃ frames, cut payload chunk = .ok frames ∧
      ∀ others, IsExact payload chunk others ↔ others = frames :=
  ⟨ofPayload payload chunk positive, dif_pos positive, fun _ => isExact_iff positive⟩

/-- Five bytes in pieces of two are three frames: two full ones and a last one
with a single byte. -/
theorem five_bytes_make_three_frames :
    0 < 2 ∧ ∃ frames, cut ⟨#[1, 2, 3, 4, 5]⟩ 2 = .ok frames ∧ frames.length = 3 ∧
      (sizes frames).sum = 5 ∧
      ∀ others, IsExact ⟨#[1, 2, 3, 4, 5]⟩ 2 others ↔ others = frames := by
  rcases cut_exactly ⟨#[1, 2, 3, 4, 5]⟩ 2 (by decide) with ⟨frames, cut, only⟩
  have exactly := (only frames).mpr rfl
  exact ⟨by decide, frames, cut, (exactly.even (by decide)).length_eq, exactly.total, only⟩

end Payload

end Fragment
end Reassembly
