namespace Reassembly
namespace Diagnostics

/-!
# Writers that may fail

A writer is offered bytes and takes some of them from the front, or fails, or
panics.  A device is a writer together with the bytes it has taken, in order;
bytes get onto a device in no other way.

`Device.writeAll` offers what is left until all of it is taken, and stops at
the first failure.  What was taken before a failure stays on the device.
-/

/-- How a write call ends. -/
inductive WriteAnswer where
  /-- So many of the offered bytes were taken, from the front. -/
  | accepted (count : Nat)
  | failed (text : String)
  | panicked (text : String)
deriving DecidableEq

/-- How a whole operation on a device ends. -/
inductive Ending where
  | done
  | failed (text : String)
  | panicked (text : String)
deriving DecidableEq

def Ending.isPanic : Ending → Bool
  | done => false
  | failed _ => false
  | panicked _ => true

/-- A writer in the middle of its life. -/
structure Writer (ω : Type) where
  state : ω
  write : ω → ByteArray → WriteAnswer × ω
  flush : ω → Ending × ω

structure Device (ω : Type) where
  writer : Writer ω
  stored : ByteArray

namespace Device

variable {ω : Type}

def new (writer : Writer ω) : Device ω :=
  ⟨writer, ByteArray.empty⟩

/-- Offer bytes until all are taken.  A writer that takes none of them is not
asked again. -/
def writeAll (device : Device ω) (bytes : ByteArray) : Ending × Device ω :=
  if bytes.size = 0 then (.done, device)
  else
    let ⟨writer, stored⟩ := device
    match writer.write writer.state bytes with
    | (.accepted count, state) =>
        if count = 0 then
          (.failed "failed to write whole buffer", ⟨{ writer with state }, stored⟩)
        else
          writeAll ⟨{ writer with state }, stored ++ bytes.extract 0 count⟩
            (bytes.extract count bytes.size)
    | (.failed text, state) => (.failed text, ⟨{ writer with state }, stored⟩)
    | (.panicked text, state) => (.panicked text, ⟨{ writer with state }, stored⟩)
termination_by bytes.size
decreasing_by
  simp only [ByteArray.size_extract]
  omega

/-- Flush the writer, which takes no bytes. -/
def flush (device : Device ω) : Ending × Device ω :=
  let (ending, state) := device.writer.flush device.writer.state
  (ending, { device with writer := { device.writer with state } })

end Device

namespace Writer

/-- A writer that takes all it is offered. -/
def reliable : Writer Unit where
  state := ()
  write := fun _ bytes => (.accepted bytes.size, ())
  flush := fun _ => (.done, ())

/-- All of the bytes reach a reliable device, behind those already there. -/
@[simp] theorem writeAll_reliable (stored bytes : ByteArray) :
    (Device.mk reliable stored).writeAll bytes = (.done, ⟨reliable, stored ++ bytes⟩) := by
  rw [Device.writeAll]
  by_cases nothing : bytes.size = 0
  · rw [if_pos nothing, ByteArray.size_eq_zero_iff.mp nothing, ByteArray.append_empty]
  · rw [if_neg nothing]
    have rest_empty : (bytes.extract bytes.size bytes.size).size = 0 := by
      rw [ByteArray.extract_same, ByteArray.size_empty]
    simp only [reliable, if_neg nothing, ByteArray.extract_zero_size]
    rw [Device.writeAll, if_pos rest_empty]

structure Usage where
  used : Nat
  hasPanicked : Bool
  flushes : Nat
deriving DecidableEq

/-- A writer with room for so many bytes.  The byte that finds no room fails.
It panics once, at the first write that starts when at least so many bytes are
used, and its flush fails if it is told to. -/
def limited (capacity panicAt : Option Nat) (flushFails : Bool) : Writer Usage where
  state := ⟨0, false, 0⟩
  write := fun usage bytes =>
    let panics :=
      match panicAt with
      | none => false
      | some threshold => !usage.hasPanicked && decide (threshold ≤ usage.used)
    if panics then (.panicked "writer panicked", { usage with hasPanicked := true })
    else
      let room :=
        match capacity with
        | none => bytes.size
        | some capacity => min bytes.size (capacity - usage.used)
      if room = 0 then (.failed "disk full", usage)
      else (.accepted room, { usage with used := usage.used + room })
  flush := fun usage =>
    (if flushFails then .failed "flush failed" else .done,
      { usage with flushes := usage.flushes + 1 })

end Writer

end Diagnostics
end Reassembly
