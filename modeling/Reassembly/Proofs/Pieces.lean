import Mathlib.Algebra.Order.Floor.Div
import Reassembly.CommandLine.Cutter
import Reassembly.Fragment

namespace Reassembly

/-!
# The pieces of a payload by their place

A payload is cut by walking along it, and a file by computing where each frame
starts and ends.  Both give the same frames: the piece at a place starts at as
many whole pieces as stand before it (`Fragment.ofPayload_of_ne_empty`,
`CommandLine.Cutter.cut_eq_ofPayload`).

The pieces in front of a place make up the payload up to there
(`Fragment.joined_framesUpTo`), so what has been counted when a frame arrives is
known from its place alone.

The places of a file are computed in 64 bits, and no step is too large for that
(`CommandLine.Cutter.cut_in_range`).
-/

namespace Fragment

/-! ## How many pieces there are -/

theorem lt_pieceCount_iff {size chunk index : Nat} (positive : 0 < chunk) :
    index < pieceCount size chunk ↔ index * chunk < size := by
  unfold pieceCount
  split
  · rename_i exact_cut
    exact Nat.lt_div_iff_mul_lt_of_dvd (Nat.ne_of_gt positive) (Nat.dvd_of_mod_eq_zero exact_cut)
  · rename_i left_over
    rw [Nat.lt_succ_iff, Nat.le_div_iff_mul_le positive]
    constructor
    · intro before
      apply Nat.lt_of_le_of_ne before
      intro same
      rw [← same, Nat.mul_mod_left] at left_over
      exact left_over rfl
    · exact Nat.le_of_lt

theorem pieceCount_pos {size chunk : Nat} (positive : 0 < chunk) (some_bytes : 0 < size) :
    0 < pieceCount size chunk := by
  rw [lt_pieceCount_iff positive, Nat.zero_mul]
  exact some_bytes

theorem le_pieceCount_mul (size : Nat) {chunk : Nat} (positive : 0 < chunk) :
    size ≤ pieceCount size chunk * chunk := by
  rw [← Nat.not_lt, ← lt_pieceCount_iff positive]
  exact Nat.lt_irrefl _

/-- The last piece is counted whole. -/
theorem pieceCount_eq_ceilDiv {size chunk : Nat} (positive : 0 < chunk) :
    pieceCount size chunk = size ⌈/⌉ chunk := by
  apply eq_of_forall_lt_iff
  intro index
  rw [lt_pieceCount_iff positive, ← Nat.not_le, ← Nat.not_le, ceilDiv_le_iff_le_mul positive,
    Nat.mul_comm]

/-! ## The frames in order of their places -/

/-- The piece that stands behind so many whole ones. -/
def pieceAt (payload : ByteArray) (chunk index : Nat) : ByteArray :=
  payload.extract (index * chunk) (index * chunk + chunk)

/-- The frames at the first places, as many as asked for. -/
def framesUpTo (payload : ByteArray) (chunk places : Nat) : List Frame :=
  (List.range places).map fun index =>
    frameAt (pieceCount payload.size chunk) index (pieceAt payload chunk index)

theorem framesUpTo_succ (payload : ByteArray) (chunk places : Nat) :
    framesUpTo payload chunk (places + 1) =
      framesUpTo payload chunk places ++
        [frameAt (pieceCount payload.size chunk) places (pieceAt payload chunk places)] := by
  rw [framesUpTo, List.range_succ, List.map_append]
  rfl

theorem getElem_framesUpTo {payload : ByteArray} {chunk places index : Nat}
    (inside : index < (framesUpTo payload chunk places).length) :
    (framesUpTo payload chunk places)[index] =
      frameAt (pieceCount payload.size chunk) index (pieceAt payload chunk index) := by
  simp only [framesUpTo, List.getElem_map, List.getElem_range]

/-- Walking on from a place takes the pieces from that place on. -/
theorem toList_piecesFrom (payload : ByteArray) {chunk : Nat} (positive : 0 < chunk)
    (index : Nat) (taken : Array ByteArray) :
    (piecesFrom payload chunk positive (index * chunk) taken).toList =
      taken.toList ++ (List.range' index (pieceCount payload.size chunk - index)).map
        (pieceAt payload chunk) := by
  generalize start_eq : index * chunk = start
  fun_induction piecesFrom payload chunk positive start taken generalizing index with
  | case1 start taken within ih =>
      have more : index < pieceCount payload.size chunk := by
        rw [lt_pieceCount_iff positive, start_eq]
        exact within
      have places : pieceCount payload.size chunk - index =
          pieceCount payload.size chunk - (index + 1) + 1 := by omega
      have next : (index + 1) * chunk = start + chunk := by rw [Nat.succ_mul, start_eq]
      rw [ih (index + 1) next, places, List.range'_succ, List.map_cons, pieceAt, start_eq,
        Array.toList_push, List.append_assoc, List.singleton_append]
  | case2 start taken beyond =>
      have done : pieceCount payload.size chunk - index = 0 := by
        apply Nat.sub_eq_zero_of_le
        apply Nat.not_lt.mp
        rw [lt_pieceCount_iff positive, start_eq]
        exact beyond
      rw [done, List.range'_zero, List.map_nil, List.append_nil]

theorem not_isEmpty {bytes : ByteArray} (some_bytes : bytes ≠ ByteArray.empty) :
    ¬ bytes.isEmpty = true := by
  rw [ByteArray.isEmpty, beq_iff_eq]
  exact mt ByteArray.size_eq_zero_iff.mp some_bytes

/-- A payload of some bytes is cut at all its places. -/
theorem ofPayload_of_ne_empty {payload : ByteArray} (some_bytes : payload ≠ ByteArray.empty)
    {chunk : Nat} (positive : 0 < chunk) :
    ofPayload payload chunk positive =
      framesUpTo payload chunk (pieceCount payload.size chunk) := by
  have walked := toList_piecesFrom payload positive 0 #[]
  rw [Nat.zero_mul, Nat.sub_zero, ← List.range_eq_range', List.nil_append] at walked
  rw [ofPayload, if_neg (not_isEmpty some_bytes), walked]
  apply List.ext_getElem
  · rw [List.length_mapIdx, List.length_map, framesUpTo, List.length_map]
  · intro index _ _
    simp only [List.getElem_mapIdx, List.getElem_map, List.getElem_range, framesUpTo]

@[simp] theorem bytes_frameAt (count index : Nat) (piece : ByteArray) :
    (frameAt count index piece).bytes = piece := rfl

/-- The pieces in front of a place are the payload up to there. -/
theorem joined_framesUpTo (payload : ByteArray) (chunk places : Nat) :
    Frame.joined (framesUpTo payload chunk places) = payload.extract 0 (places * chunk) := by
  induction places with
  | zero =>
      rw [Nat.zero_mul, ByteArray.extract_same]
      rfl
  | succ places ih =>
      rw [framesUpTo_succ, Frame.joined_concat, ih, bytes_frameAt, pieceAt,
        ByteArray.extract_append_extract, Nat.zero_min, Nat.max_eq_right (Nat.le_add_right _ _),
        Nat.succ_mul]

theorem size_joined_framesUpTo {payload : ByteArray} {chunk places : Nat}
    (within : places * chunk ≤ payload.size) :
    (Frame.joined (framesUpTo payload chunk places)).size = places * chunk := by
  rw [joined_framesUpTo, ByteArray.size_extract, Nat.min_eq_left within, Nat.sub_zero]

theorem joined_framesUpTo_all (payload : ByteArray) {chunk : Nat} (positive : 0 < chunk) :
    Frame.joined (framesUpTo payload chunk (pieceCount payload.size chunk)) = payload := by
  rw [joined_framesUpTo, ← Nat.max_eq_left (le_pieceCount_mul payload.size positive)]
  exact ByteArray.extract_zero_max_size

/-- No frame in front of the last place is final. -/
theorem isFinal_of_mem_framesUpTo {payload : ByteArray} {chunk places : Nat}
    (before : places < pieceCount payload.size chunk) {frame : Frame}
    (member : frame ∈ framesUpTo payload chunk places) : frame.isFinal = false := by
  rcases List.mem_map.mp member with ⟨index, inside, rfl⟩
  have earlier := List.mem_range.mp inside
  apply decide_eq_false
  omega

theorem take_framesUpTo (payload : ByteArray) (chunk : Nat) {first places : Nat}
    (within : first ≤ places) :
    (framesUpTo payload chunk places).take first = framesUpTo payload chunk first := by
  rw [framesUpTo, ← List.map_take, List.take_range, Nat.min_eq_left within, framesUpTo]

theorem length_framesUpTo (payload : ByteArray) (chunk places : Nat) :
    (framesUpTo payload chunk places).length = places := by
  rw [framesUpTo, List.length_map, List.length_range]

theorem size_pieceAt (payload : ByteArray) (chunk index : Nat) :
    (pieceAt payload chunk index).size =
      min ((index + 1) * chunk) payload.size - index * chunk := by
  rw [pieceAt, ByteArray.size_extract, Nat.succ_mul]

/-- A cut payload, parted at one of its places. -/
theorem ofPayload_parted {payload : ByteArray} {chunk index : Nat} (positive : 0 < chunk)
    (within : index * chunk < payload.size) :
    ∃ inside : index < (ofPayload payload chunk positive).length,
      ofPayload payload chunk positive = framesUpTo payload chunk index ++
          (ofPayload payload chunk positive)[index] ::
            (ofPayload payload chunk positive).drop (index + 1) ∧
        (ofPayload payload chunk positive)[index].bytes = pieceAt payload chunk index := by
  have some_bytes : payload ≠ ByteArray.empty := by
    intro no_bytes
    rw [no_bytes, ByteArray.size_empty] at within
    exact Nat.not_lt_zero _ within
  have counted := (lt_pieceCount_iff positive).mpr within
  rw [ofPayload_of_ne_empty some_bytes positive]
  have inside : index < (framesUpTo payload chunk (pieceCount payload.size chunk)).length := by
    rw [length_framesUpTo]
    exact counted
  refine ⟨inside, ?_, ?_⟩
  · rw [← List.drop_eq_getElem_cons, ← take_framesUpTo payload chunk (Nat.le_of_lt counted),
      List.take_append_drop]
  · rw [getElem_framesUpTo, bytes_frameAt]

/-- A cut payload is one message: only its last frame is final, and its frames
carry the payload. -/
theorem exists_last_ofPayload (payload : ByteArray) {chunk : Nat} (positive : 0 < chunk) :
    ∃ front last, ofPayload payload chunk positive = front ++ [last] ∧
      (∀ frame ∈ front, frame.isFinal = false) ∧ last.isFinal = true ∧
      Frame.joined (front ++ [last]) = payload ∧
      front.length + 1 = max 1 (payload.size ⌈/⌉ chunk) := by
  by_cases no_bytes : payload = ByteArray.empty
  · subst no_bytes
    refine ⟨[], .emptyFinal .binary, rfl, nofun, rfl, rfl, ?_⟩
    rw [← pieceCount_eq_ceilDiv positive, ByteArray.size_empty, pieceCount, Nat.zero_mod,
      if_pos rfl, Nat.zero_div]
    rfl
  · have some_size : 0 < payload.size :=
      Nat.pos_of_ne_zero (mt ByteArray.size_eq_zero_iff.mp no_bytes)
    obtain ⟨places, count⟩ := Nat.exists_eq_add_one.mpr (pieceCount_pos positive some_size)
    have whole := joined_framesUpTo_all payload positive
    have cut := ofPayload_of_ne_empty no_bytes positive
    rw [count, framesUpTo_succ] at whole cut
    refine ⟨_, _, cut, ?_, ?_, whole, ?_⟩
    · intro frame member
      exact isFinal_of_mem_framesUpTo (by omega) member
    · exact decide_eq_true count.symm
    · rw [length_framesUpTo, ← pieceCount_eq_ceilDiv positive, count]
      omega

theorem length_ofPayload (payload : ByteArray) {chunk : Nat} (positive : 0 < chunk) :
    (ofPayload payload chunk positive).length = max 1 (payload.size ⌈/⌉ chunk) := by
  rcases exists_last_ofPayload payload positive with ⟨front, last, cut, _, _, _, count⟩
  rw [cut, List.length_append, List.length_singleton, count]

theorem extract_min_size (bytes : ByteArray) (start stop : Nat) :
    bytes.extract start (min stop bytes.size) = bytes.extract start stop := by
  apply ByteArray.ext
  rw [ByteArray.data_extract, ByteArray.data_extract]
  apply Array.extract_eq_extract_right.mpr
  rw [ByteArray.size_data]
  omega

end Fragment

/-! ## The frames of a file -/

namespace CommandLine
namespace Cutter

section Places

variable {data : ByteArray} {step : UInt64} {index : Nat}

/-- A file in memory has fewer than `2 ^ 63` bytes, so its size is a 64-bit
number. -/
theorem toNat_size (small : data.size < 2 ^ 63) : (UInt64.ofNat data.size).toNat = data.size := by
  rw [UInt64.toNat_ofNat']
  omega

theorem toNat_frameCount (small : data.size < 2 ^ 63) :
    (frameCount (UInt64.ofNat data.size) step).toNat =
      Fragment.pieceCount data.size step.toNat := by
  have quotient : data.size / step.toNat ≤ data.size := Nat.div_le_self _ _
  have exact_iff : UInt64.ofNat data.size % step = 0 ↔ data.size % step.toNat = 0 := by
    rw [← UInt64.toNat_inj, UInt64.toNat_mod, toNat_size small]
    rfl
  have divided : (UInt64.ofNat data.size / step).toNat = data.size / step.toNat := by
    rw [UInt64.toNat_div, toNat_size small]
  rw [frameCount, Fragment.pieceCount]
  by_cases exact_cut : data.size % step.toNat = 0
  · rw [if_pos (exact_iff.mpr exact_cut), if_pos exact_cut, divided]
  · rw [if_neg (mt exact_iff.mp exact_cut), if_neg exact_cut, UInt64.toNat_add, divided,
      UInt64.toNat_one]
    omega

/-- The place of a frame is a 64-bit number, and so is where it starts. -/
theorem toNat_startOf (small : data.size < 2 ^ 63) (positive : 0 < step.toNat)
    (inside : index * step.toNat < data.size) :
    (UInt64.ofNat index).toNat = index ∧
      (startOf step (UInt64.ofNat index)).toNat = index * step.toNat := by
  have place : index ≤ index * step.toNat := Nat.le_mul_of_pos_right index positive
  have number : (UInt64.ofNat index).toNat = index := by
    rw [UInt64.toNat_ofNat']
    omega
  refine ⟨number, ?_⟩
  rw [startOf, UInt64.toNat_mul, number]
  omega

/-- Where a frame would end is a 64-bit number: the first frame ends after one
step, and any other starts after one already. -/
theorem stop_lt (small : data.size < 2 ^ 63) (inside : index * step.toNat < data.size) :
    index * step.toNat + step.toNat < 2 ^ 64 := by
  have bounded := step.toNat_lt
  cases index with
  | zero => omega
  | succ earlier =>
      rw [Nat.succ_mul] at inside ⊢
      omega

theorem toNat_endOf (small : data.size < 2 ^ 63) (positive : 0 < step.toNat)
    (inside : index * step.toNat < data.size) :
    (endOf (UInt64.ofNat data.size) step (UInt64.ofNat index)).toNat =
      min (index * step.toNat + step.toNat) data.size := by
  have start := (toNat_startOf small positive inside).2
  have within := stop_lt small inside
  have stop : (startOf step (UInt64.ofNat index) + step).toNat =
      index * step.toNat + step.toNat := by
    rw [UInt64.toNat_add, start]
    exact Nat.mod_eq_of_lt within
  have order : startOf step (UInt64.ofNat index) + step ≤ UInt64.ofNat data.size ↔
      index * step.toNat + step.toNat ≤ data.size := by
    rw [UInt64.le_iff_toNat_le, stop, toNat_size small]
  rw [endOf, Std.min_eq_if, Nat.min_def]
  by_cases whole : index * step.toNat + step.toNat ≤ data.size
  · rw [if_pos (order.mpr whole), if_pos whole, stop]
  · rw [if_neg (mt order.mp whole), if_neg whole, toNat_size small]

theorem frameAt_eq (small : data.size < 2 ^ 63) (positive : 0 < step.toNat)
    (inside : index * step.toNat < data.size) :
    frameAt data step (UInt64.ofNat index) =
      Fragment.frameAt (Fragment.pieceCount data.size step.toNat) index
        (Fragment.pieceAt data step.toNat index) := by
  have start := toNat_startOf small positive inside
  have first_iff : UInt64.ofNat index = 0 ↔ index = 0 := by
    rw [← UInt64.toNat_inj, start.1]
    rfl
  have last_iff : UInt64.ofNat index + 1 = frameCount (UInt64.ofNat data.size) step ↔
      index + 1 = Fragment.pieceCount data.size step.toNat := by
    have place : index ≤ index * step.toNat := Nat.le_mul_of_pos_right index positive
    rw [← UInt64.toNat_inj, toNat_frameCount small, UInt64.toNat_add, start.1, UInt64.toNat_one,
      Nat.mod_eq_of_lt (by omega)]
  rw [frameAt, Fragment.frameAt, start.2, toNat_endOf small positive inside,
    Fragment.extract_min_size, Fragment.pieceAt]
  simp only [first_iff, beq_eq_decide, last_iff]

/-- The frames of a file are those of its bytes. -/
theorem cut_eq_ofPayload (small : data.size < 2 ^ 63) (positive : 0 < step.toNat) :
    cut data step = Fragment.ofPayload data step.toNat positive := by
  by_cases no_bytes : data = ByteArray.empty
  · rw [no_bytes]
    rfl
  · rw [cut, if_neg (Fragment.not_isEmpty no_bytes), toNat_frameCount small,
      Fragment.ofPayload_of_ne_empty no_bytes positive, Fragment.framesUpTo]
    apply List.map_congr_left
    intro index member
    exact frameAt_eq small positive
      ((Fragment.lt_pieceCount_iff positive).mp (List.mem_range.mp member))

/-! ### No step of the computation overflows -/

/-- What is computed for the frame at this place are 64-bit numbers, and the frame
carries some bytes, all of them bytes of the file. -/
structure InRange (data : ByteArray) (step index : UInt64) : Prop where
  start : index.toNat * step.toNat < 2 ^ 64
  stop : (startOf step index).toNat + step.toNat < 2 ^ 64
  next : index.toNat + 1 < 2 ^ 64
  carries : startOf step index < endOf (UInt64.ofNat data.size) step index
  ends : (endOf (UInt64.ofNat data.size) step index).toNat ≤ data.size

theorem inRange_of_inside (small : data.size < 2 ^ 63) (positive : 0 < step.toNat)
    (inside : index * step.toNat < data.size) : InRange data step (UInt64.ofNat index) := by
  obtain ⟨number, start⟩ := toNat_startOf small positive inside
  have stop := toNat_endOf small positive inside
  have place : index ≤ index * step.toNat := Nat.le_mul_of_pos_right index positive
  constructor
  · rw [number]
    omega
  · rw [start]
    exact stop_lt small inside
  · rw [number]
    omega
  · rw [UInt64.lt_iff_toNat_lt, start, stop]
    omega
  · rw [stop]
    apply Nat.min_le_right

/-- A file is cut at its places into the frames of its bytes, and at none of them
does the computation leave its range. -/
theorem cut_in_range (small : data.size < 2 ^ 63) (positive : 0 < step) :
    Fragment.cut data step.toNat = .ok (cut data step) ∧
      (frameCount (UInt64.ofNat data.size) step).toNat = data.size ⌈/⌉ step.toNat ∧
      ∀ index < frameCount (UInt64.ofNat data.size) step, InRange data step index := by
  have some_step : 0 < step.toNat := UInt64.lt_iff_toNat_lt.mp positive
  refine ⟨?_, ?_, ?_⟩
  · rw [Fragment.cut, dif_pos some_step, cut_eq_ofPayload small some_step]
  · rw [toNat_frameCount small, Fragment.pieceCount_eq_ceilDiv some_step]
  · intro index earlier
    rw [UInt64.lt_iff_toNat_lt, toNat_frameCount small,
      Fragment.lt_pieceCount_iff some_step] at earlier
    rw [← UInt64.ofNat_toNat (x := index)]
    exact inRange_of_inside small some_step earlier

/-- The largest step there is reaches far behind three bytes, yet not out of
range. -/
theorem largest_step_stays_in_range :
    let file : ByteArray := ⟨#[1, 2, 3]⟩
    let step : UInt64 := 18446744073709551615
    (file.size < 2 ^ 63 ∧ 0 < step) ∧ cut file step = [⟨.binary, some file, true⟩] ∧
      Fragment.cut file step.toNat = .ok [⟨.binary, some file, true⟩] ∧ InRange file step 0 := by
  intro file step
  have one_frame : cut file step = [⟨.binary, some file, true⟩] := by decide
  have cut := @cut_in_range file step (by decide) (by decide)
  rw [one_frame] at cut
  exact ⟨by decide, one_frame, cut.1, cut.2.2 0 (by decide)⟩

end Places

end Cutter
end CommandLine

end Reassembly
