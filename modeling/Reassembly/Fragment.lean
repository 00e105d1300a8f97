import Reassembly.Frame

namespace Reassembly

/-!
# Cutting a message into frames

A payload is cut into pieces of one size, of which only the last may be
shorter.  The first frame is binary, all others continue it, and the last one
is final.  An empty payload is one final frame that carries nothing.

`Fragment.ofPayload` walks along the payload and takes one piece after the
other; the final mark comes from the number of pieces there must be.
-/

namespace Fragment

/-- How many pieces of this size a payload makes. -/
def pieceCount (size chunk : Nat) : Nat :=
  if size % chunk = 0 then size / chunk else size / chunk + 1

/-- Take pieces from a position on. -/
def piecesFrom (payload : ByteArray) (chunk : Nat) (positive : 0 < chunk) (start : Nat)
    (taken : Array ByteArray) : Array ByteArray :=
  if start < payload.size then
    piecesFrom payload chunk positive (start + chunk)
      (taken.push (payload.extract start (start + chunk)))
  else taken
termination_by payload.size - start

theorem extract_max_size (bytes : ByteArray) (start stop : Nat) :
    bytes.extract start (max stop bytes.size) = bytes.extract start bytes.size := by
  apply ByteArray.ext
  rw [ByteArray.data_extract, ByteArray.data_extract]
  apply Array.extract_eq_extract_right.mpr
  rw [ByteArray.size_data]
  omega

/-- The frame of the piece at this place. -/
def frameAt (count index : Nat) (piece : ByteArray) : Frame where
  opcode := if index = 0 then .binary else .continuation
  payload := some piece
  isFinal := decide (index + 1 = count)

/-- Cut a payload into frames of at most this many bytes. -/
def ofPayload (payload : ByteArray) (chunk : Nat) (positive : 0 < chunk) : List Frame :=
  if payload.isEmpty then [.emptyFinal .binary]
  else
    (piecesFrom payload chunk positive 0 #[]).toList.mapIdx
      (frameAt (pieceCount payload.size chunk))

inductive Error where
  | zeroChunk
deriving DecidableEq

def Error.message : Error → String
  | .zeroChunk => "chunk size must be non-zero"

/-- Cut a payload, unless the pieces were to be empty. -/
def cut (payload : ByteArray) (chunk : Nat) : Except Error (List Frame) :=
  if positive : 0 < chunk then .ok (ofPayload payload chunk positive) else .error .zeroChunk

def sizes (frames : List Frame) : List Nat :=
  frames.map Frame.payloadSize

end Fragment

end Reassembly
