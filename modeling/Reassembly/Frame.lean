namespace Reassembly

/-!
# Frames

A message travels as one or more frames.  Each frame announces an opcode, may
carry payload bytes, and says whether it is the last frame of its message.

An absent payload and a present but empty one are different frames, yet no
rule of assembly tells them apart: everything downstream looks at `bytes`,
`hasPayload` and `isFinal`.
-/

/-- The kind of message a frame announces.  It is reported in diagnostics and
never interpreted. -/
inductive Opcode where
  | binary
  | text
  | continuation
deriving DecidableEq, Inhabited

namespace Opcode

def label : Opcode → String
  | binary => "BINARY"
  | text => "TEXT"
  | continuation => "CONTINUATION"

end Opcode

/-- One fragment of a message. -/
structure Frame where
  opcode : Opcode
  payload : Option ByteArray
  isFinal : Bool

namespace Frame

/-- Frames are compared part by part, and payloads byte by byte. -/
instance : DecidableEq Frame := fun left right =>
  decidable_of_decidable_of_iff
    (p := left.opcode = right.opcode ∧
      left.payload.map ByteArray.data = right.payload.map ByteArray.data ∧
      left.isFinal = right.isFinal) <| by
    rcases left with ⟨_, payload, _⟩
    rcases right with ⟨_, other, _⟩
    rw [Frame.mk.injEq, Option.map_inj_right (fun _ _ => ByteArray.ext)]

/-- A non-final frame opening a binary message. -/
def binary (payload : ByteArray) : Frame :=
  ⟨.binary, some payload, false⟩

/-- A non-final frame after the first one of its message. -/
def continuation (payload : ByteArray) : Frame :=
  ⟨.continuation, some payload, false⟩

/-- A final frame that carries nothing. -/
def emptyFinal (opcode : Opcode) : Frame :=
  ⟨opcode, none, true⟩

/-- The same frame with its final mark set or cleared. -/
def withFinal (frame : Frame) (isFinal : Bool) : Frame :=
  { frame with isFinal }

/-- The payload bytes, none when the payload is absent. -/
def bytes (frame : Frame) : ByteArray :=
  frame.payload.getD ByteArray.empty

def payloadSize (frame : Frame) : Nat :=
  frame.bytes.size

/-- The final mark as diagnostics write it. -/
def finalLabel (frame : Frame) : String :=
  if frame.isFinal then "true" else "false"

/-- A frame has a payload when it carries at least one byte. -/
def hasPayload (frame : Frame) : Bool :=
  decide (0 < frame.payloadSize)

theorem hasPayload_iff (frame : Frame) :
    frame.hasPayload = true ↔ frame.bytes ≠ ByteArray.empty := by
  rw [hasPayload, decide_eq_true_iff, payloadSize, Nat.pos_iff_ne_zero, ne_eq,
    ByteArray.size_eq_zero_iff]

theorem bytes_of_hasPayload_eq_false {frame : Frame} (bare : frame.hasPayload = false) :
    frame.bytes = ByteArray.empty := by
  by_cases empty : frame.bytes = ByteArray.empty
  · exact empty
  · rw [(hasPayload_iff frame).mpr empty] at bare
    cases bare

theorem payload_of_payloadSize_pos {frame : Frame} (some_bytes : 0 < frame.payloadSize) :
    frame.payload = some frame.bytes := by
  rcases frame with ⟨opcode, payload, isFinal⟩
  cases payload with
  | none => exact absurd some_bytes (Nat.lt_irrefl 0)
  | some bytes => rfl

/-- The payloads of frames, one after the other. -/
def joined (frames : List Frame) : ByteArray :=
  frames.foldl (fun bytes frame => bytes ++ frame.bytes) ByteArray.empty

theorem foldl_bytes (start : ByteArray) (frames : List Frame) :
    frames.foldl (fun bytes frame => bytes ++ frame.bytes) start = start ++ joined frames := by
  induction frames generalizing start with
  | nil => exact ByteArray.append_empty.symm
  | cons first rest ih =>
      have whole : joined (first :: rest) = first.bytes ++ joined rest := by
        rw [joined, List.foldl_cons, ih (ByteArray.empty ++ first.bytes), ByteArray.empty_append]
      rw [List.foldl_cons, ih (start ++ first.bytes), whole, ByteArray.append_assoc]

theorem joined_append (earlier later : List Frame) :
    joined (earlier ++ later) = joined earlier ++ joined later := by
  rw [joined, List.foldl_append, foldl_bytes]
  rfl

@[simp] theorem joined_singleton (frame : Frame) : joined [frame] = frame.bytes :=
  ByteArray.empty_append

theorem joined_cons (first : Frame) (rest : List Frame) :
    joined (first :: rest) = first.bytes ++ joined rest := by
  rw [← List.singleton_append, joined_append, joined_singleton]

theorem joined_concat (frames : List Frame) (last : Frame) :
    joined (frames ++ [last]) = joined frames ++ last.bytes := by
  rw [joined_append, joined_singleton]

end Frame

end Reassembly
