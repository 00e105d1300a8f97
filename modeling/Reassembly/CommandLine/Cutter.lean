import Reassembly.Frame

namespace Reassembly
namespace CommandLine

/-!
# Cutting a file into frames

The cutter computes where each frame starts and ends from its place alone, in
64-bit arithmetic.  The last frame ends where the file does.
-/

namespace Cutter

def frameCount (size step : UInt64) : UInt64 :=
  if size % step = 0 then size / step else size / step + 1

def startOf (step index : UInt64) : UInt64 :=
  index * step

def endOf (size step index : UInt64) : UInt64 :=
  min (startOf step index + step) size

def frameAt (data : ByteArray) (step index : UInt64) : Frame :=
  let size := UInt64.ofNat data.size
  { opcode := if index = 0 then .binary else .continuation
    payload := some (data.extract (startOf step index).toNat (endOf size step index).toNat)
    isFinal := index + 1 == frameCount size step }

/-- Cut a file into frames of this many bytes. -/
def cut (data : ByteArray) (step : UInt64) : List Frame :=
  if data.isEmpty then [.emptyFinal .binary]
  else
    (List.range (frameCount (UInt64.ofNat data.size) step).toNat).map fun index =>
      frameAt data step (UInt64.ofNat index)

end Cutter

end CommandLine
end Reassembly
