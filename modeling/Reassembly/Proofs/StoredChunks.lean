import Reassembly.Diagnostics.Appender
import Reassembly.Fragment

namespace Reassembly
namespace Diagnostics

/-!
# What emitted records leave on a device

A writer takes some of the bytes that it is offered, or fails, or panics, and it
may do so anywhere in a line, also between the text and the line feed.  Whatever
it does, an emitted record leaves one chunk on the device.  The chunk is a front
part of the line, and it is the whole line exactly if the answer is that the
record was written (`Leaves`).

A `Transcript` has the chunks of a run beside its steps and answers.  Every run
has one, and its chunks in order are all that the run put on the device
(`Appender.chunks_of_run`).  The proof goes from one write call to `writeAll`,
by induction on the bytes still to be taken, from there to a line and to a step,
and then along the steps.
-/

/-- What is left on a device by an operation that was to put a line there. -/
structure Leaves (line chunk : ByteArray) (ending : Ending) : Prop where
  isPart : ∃ rest, line = chunk ++ rest
  whole_iff : chunk = line ↔ ending = .done

namespace Leaves

variable {line chunk : ByteArray} {ending : Ending}

theorem whole (line : ByteArray) : Leaves line line .done :=
  ⟨⟨ByteArray.empty, ByteArray.append_empty.symm⟩, iff_of_true rfl rfl⟩

theorem nothing (some_bytes : line ≠ ByteArray.empty) (stopped : ending ≠ .done) :
    Leaves line ByteArray.empty ending :=
  ⟨⟨line, ByteArray.empty_append.symm⟩, iff_of_false some_bytes.symm stopped⟩

/-- Bytes that were put there before belong to the line and to the chunk. -/
theorem behind (leaves : Leaves line chunk ending) (front : ByteArray) :
    Leaves (front ++ line) (front ++ chunk) ending := by
  constructor
  · rcases leaves.isPart with ⟨rest, rfl⟩
    exact ⟨rest, ByteArray.append_assoc.symm⟩
  · rw [ByteArray.append_right_inj]
    exact leaves.whole_iff

/-- An operation that stopped does not get to what was to come behind. -/
theorem before (leaves : Leaves line chunk ending) (stopped : ending ≠ .done)
    (behind : ByteArray) : Leaves (line ++ behind) chunk ending := by
  rcases leaves.isPart with ⟨rest, same⟩
  have longer : line ++ behind = chunk ++ (rest ++ behind) := by
    rw [same, ByteArray.append_assoc]
  refine ⟨⟨rest ++ behind, longer⟩, iff_of_false ?_ stopped⟩
  intro all
  have none_left : ByteArray.empty = rest ++ behind := by
    rw [← ByteArray.append_right_inj chunk, ← longer, ByteArray.append_empty]
    exact all
  have whole : chunk = line := by
    rw [same, (ByteArray.append_eq_empty_iff.mp none_left.symm).1, ByteArray.append_empty]
  exact stopped (leaves.whole_iff.mp whole)

/-- A write call that stops the operation takes none of the bytes offered. -/
theorem exists_of_stopped {bytes : ByteArray} (some_bytes : ¬bytes.size = 0)
    (stopped : ending ≠ .done) (stored : ByteArray) :
    ∃ chunk, Leaves bytes chunk ending ∧ stored = stored ++ chunk :=
  ⟨ByteArray.empty, .nothing (mt ByteArray.size_eq_zero_iff.mpr some_bytes) stopped,
    ByteArray.append_empty.symm⟩

end Leaves

/-! ## From a write call to a line -/

namespace Device

variable {ω : Type}

theorem exists_leaves_writeAll (device : Device ω) (bytes : ByteArray) :
    ∃ chunk, Leaves bytes chunk (device.writeAll bytes).1 ∧
      (device.writeAll bytes).2.stored = device.stored ++ chunk := by
  fun_induction writeAll device bytes with
  | case1 device bytes no_bytes =>
      refine ⟨bytes, .whole bytes, ?_⟩
      rw [ByteArray.size_eq_zero_iff.mp no_bytes, ByteArray.append_empty]
  | case2 bytes some_bytes writer stored state answer =>
      exact Leaves.exists_of_stopped some_bytes Ending.noConfusion stored
  | case3 bytes some_bytes writer stored count state answer some_taken ih =>
      rcases ih with ⟨chunk, leaves, grown⟩
      have parts : bytes.extract 0 count ++ bytes.extract count bytes.size = bytes := by
        rw [ByteArray.extract_append_extract, Nat.min_eq_left (Nat.zero_le count),
          Fragment.extract_max_size, ByteArray.extract_zero_size]
      have behind := leaves.behind (bytes.extract 0 count)
      rw [parts] at behind
      refine ⟨bytes.extract 0 count ++ chunk, behind, ?_⟩
      rw [grown, ByteArray.append_assoc]
  | case4 bytes some_bytes writer stored text state answer =>
      exact Leaves.exists_of_stopped some_bytes Ending.noConfusion stored
  | case5 bytes some_bytes writer stored text state answer =>
      exact Leaves.exists_of_stopped some_bytes Ending.noConfusion stored

end Device

namespace Appender

variable {ω : Type}

theorem exists_leaves_writeLine (device : Device ω) (text : ByteArray) :
    ∃ chunk, Leaves (text ++ "\n".toUTF8) chunk (writeLine text device).1 ∧
      (writeLine text device).2.stored = device.stored ++ chunk := by
  rcases device.exists_leaves_writeAll text with ⟨chunk, leaves, grown⟩
  rcases written : device.writeAll text with ⟨ending, reached⟩
  rw [written] at leaves grown
  unfold writeLine
  rw [written]
  cases ending with
  | done =>
      -- the text is there, and what becomes of the line feed is a write of its own
      rcases reached.exists_leaves_writeAll "\n".toUTF8 with ⟨last, leavesLast, grownLast⟩
      rw [leaves.whole_iff.mpr rfl] at grown
      refine ⟨text ++ last, leavesLast.behind text, ?_⟩
      rw [grownLast, grown, ByteArray.append_assoc]
  | failed reason => exact ⟨chunk, leaves.before Ending.noConfusion _, grown⟩
  | panicked words => exact ⟨chunk, leaves.before Ending.noConfusion _, grown⟩

/-- The line of a record, as it is to be written. -/
def lineBytes (config : Config) (record : Record) : ByteArray :=
  (record.render config).toUTF8 ++ "\n".toUTF8

theorem exists_leaves_emit (appender : Appender ω) (record : Record) :
    ∃ chunk, Leaves (lineBytes appender.config record) chunk (appender.emit record).1 ∧
      (appender.emit record).2.stored = appender.stored ++ chunk := by
  rw [emit, stored, fst_locked, device_locked]
  exact exists_leaves_writeLine appender.device _

/-! ## Runs -/

/-- The steps of a run with their answers, and the chunks that they leave on the
device: one for each record that is emitted, and none for anything else. -/
inductive Transcript (config : Config) : List Step → List Answer → List ByteArray → Prop where
  | nil : Transcript config [] [] []
  | format {steps answers chunks} (record : Record) :
      Transcript config steps answers chunks →
        Transcript config (.format record :: steps) (.text (record.render config) :: answers)
          chunks
  | emit {steps answers chunks} {record : Record} {ending : Ending} {chunk : ByteArray} :
      Leaves (lineBytes config record) chunk ending →
        Transcript config steps answers chunks →
          Transcript config (.emit record :: steps) (.ended ending :: answers) (chunk :: chunks)
  | flush {steps answers chunks} (ending : Ending) :
      Transcript config steps answers chunks →
        Transcript config (.flush :: steps) (.ended ending :: answers) chunks
  | config {steps answers chunks} :
      Transcript config steps answers chunks →
        Transcript config (.config :: steps) (.config config :: answers) chunks

theorem exists_transcript (appender : Appender ω) (steps : List Step) :
    ∃ chunks, Transcript appender.config steps (appender.run steps).1 chunks ∧
      (appender.run steps).2.stored = chunks.foldl (· ++ ·) appender.stored := by
  induction steps generalizing appender with
  | nil => exact ⟨[], .nil, rfl⟩
  | cons step rest ih =>
      rcases ih (appender.step step).2 with ⟨chunks, transcript, grown⟩
      cases step with
      | format record => exact ⟨chunks, transcript.format record, grown⟩
      | config => exact ⟨chunks, transcript.config, grown⟩
      | flush =>
          have same : appender.flush.2.config = appender.config := config_locked _ _
          have kept : appender.flush.2.stored = appender.stored := by
            rw [flush, stored, device_locked]
            rfl
          rw [step, same] at transcript
          rw [step, kept] at grown
          exact ⟨chunks, transcript.flush _, grown⟩
      | emit record =>
          have same : (appender.emit record).2.config = appender.config := config_locked _ _
          rcases appender.exists_leaves_emit record with ⟨chunk, leaves, kept⟩
          rw [step, same] at transcript
          rw [step, kept] at grown
          exact ⟨chunk :: chunks, transcript.emit leaves, grown⟩

/-! ## The lock -/

def Answer.isPanic : Answer → Bool
  | text _ => false
  | ended ending => ending.isPanic
  | config _ => false

/-- The lock is poisoned by a step that ends in a panic, and is never healed. -/
theorem poisoned_step (appender : Appender ω) (step : Step) :
    (appender.step step).2.poisoned =
      (appender.poisoned || (appender.step step).1.isPanic) := by
  cases step with
  | format record => exact (Bool.or_false _).symm
  | config => exact (Bool.or_false _).symm
  | flush =>
      show appender.flush.2.poisoned = (appender.poisoned || appender.flush.1.isPanic)
      rw [flush, poisoned_locked, fst_locked]
  | emit record =>
      show (appender.emit record).2.poisoned = (appender.poisoned || (appender.emit record).1.isPanic)
      rw [emit, poisoned_locked, fst_locked]

theorem poisoned_run (appender : Appender ω) (steps : List Step) :
    (appender.run steps).2.poisoned =
      (appender.poisoned || (appender.run steps).1.any Answer.isPanic) := by
  induction steps generalizing appender with
  | nil => exact (Bool.or_false _).symm
  | cons step rest ih =>
      rw [run_cons, List.any_cons, ih, poisoned_step, Bool.or_assoc]

/-- Two appenders that differ in their locks only. -/
structure SameButLock (first second : Appender ω) : Prop where
  config : first.config = second.config
  device : first.device = second.device

namespace SameButLock

variable {first second : Appender ω}

theorem locked (same : SameButLock first second) (use : Device ω → Ending × Device ω) :
    (first.locked use).1 = (second.locked use).1 ∧
      SameButLock (first.locked use).2 (second.locked use).2 := by
  refine ⟨?_, ?_, ?_⟩
  · rw [fst_locked, fst_locked, same.device]
  · rw [config_locked, config_locked, same.config]
  · rw [device_locked, device_locked, same.device]

theorem step (same : SameButLock first second) (step : Step) :
    (first.step step).1 = (second.step step).1 ∧
      SameButLock (first.step step).2 (second.step step).2 := by
  cases step with
  | format record =>
      exact ⟨congrArg (fun config => Answer.text (record.render config)) same.config, same⟩
  | config => exact ⟨congrArg Answer.config same.config, same⟩
  | flush =>
      have both := same.locked Device.flush
      exact ⟨congrArg Answer.ended both.1, both.2⟩
  | emit record =>
      have both := same.locked (writeLine (record.render second.config).toUTF8)
      show Answer.ended (first.emit record).1 = Answer.ended (second.emit record).1 ∧
        SameButLock (first.emit record).2 (second.emit record).2
      rw [emit, emit, format, format, same.config]
      exact ⟨congrArg Answer.ended both.1, both.2⟩

theorem run (same : SameButLock first second) (steps : List Step) :
    (first.run steps).1 = (second.run steps).1 ∧
      SameButLock (first.run steps).2 (second.run steps).2 := by
  induction steps generalizing first second with
  | nil => exact ⟨rfl, same⟩
  | cons each rest ih =>
      have now := same.step each
      have later := ih now.2
      rw [run_cons, run_cons, now.1, later.1]
      exact ⟨rfl, later.2⟩

end SameButLock

/-- Whatever its writer does, a run puts on the device one chunk for each record
that it emits, in order, and nothing else.  A chunk is a front part of the line
of its record, and all of it exactly if that emit answered that it was done.

The lock is poisoned once a step has ended in a panic.  What comes after it is
answered, and written, as if the lock were not poisoned. -/
theorem chunks_of_run (appender : Appender ω) (steps : List Step) :
    let answers := (appender.run steps).1
    let reached := (appender.run steps).2
    (∃ chunks, Transcript appender.config steps answers chunks ∧
      reached.stored = chunks.foldl (· ++ ·) appender.stored) ∧
    reached.poisoned = (appender.poisoned || answers.any Answer.isPanic) ∧
    ∀ later,
      let unpoisoned := { reached with poisoned := false }
      (appender.run (steps ++ later)).1 = answers ++ (unpoisoned.run later).1 ∧
        (appender.run (steps ++ later)).2.stored = (unpoisoned.run later).2.stored := by
  intro answers reached
  refine ⟨appender.exists_transcript steps, appender.poisoned_run steps, ?_⟩
  intro later unpoisoned
  have same : SameButLock reached unpoisoned := ⟨rfl, rfl⟩
  have continued := same.run later
  rw [run_append]
  exact ⟨congrArg (answers ++ ·) continued.1, congrArg Device.stored continued.2.device⟩

end Appender

end Diagnostics
end Reassembly
