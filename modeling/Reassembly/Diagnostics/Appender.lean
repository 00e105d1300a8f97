import Reassembly.Diagnostics.Record
import Reassembly.Diagnostics.Writer

namespace Reassembly
namespace Diagnostics

/-!
# Appenders

An appender writes records to a device, each followed by a line feed.  It
guards the device by a lock, which is poisoned when the writer panics while
the lock is held.  Whoever takes a poisoned lock is told so, and may have the
device all the same: every operation takes it, so an appender goes on after a
panic as if it had not happened.
-/

/-- What taking a lock gives: what it guards, with word of a panic if an earlier
holder panicked. -/
inductive Hold (α : Type) where
  | clean (guarded : α)
  | poisoned (guarded : α)

def Hold.guarded {α : Type} : Hold α → α
  | clean guarded => guarded
  | poisoned guarded => guarded

structure Appender (ω : Type) where
  config : Config
  device : Device ω
  poisoned : Bool

namespace Appender

variable {ω : Type}

def new (config : Config) (writer : Writer ω) : Appender ω :=
  ⟨config, .new writer, false⟩

def format (appender : Appender ω) (record : Record) : String :=
  record.render appender.config

/-- Use the device under the lock. -/
def locked (appender : Appender ω) (use : Device ω → Ending × Device ω) :
    Ending × Appender ω :=
  let ⟨config, device, poisoned⟩ := appender
  let hold := if poisoned then Hold.poisoned device else Hold.clean device
  let (ending, device) := use hold.guarded
  (ending, ⟨config, device, poisoned || ending.isPanic⟩)

section Locked

variable (appender : Appender ω) (use : Device ω → Ending × Device ω)

/-- The lock hands out the device, poisoned or not. -/
theorem locked_eq :
    appender.locked use =
      ((use appender.device).1, ⟨appender.config, (use appender.device).2,
        appender.poisoned || (use appender.device).1.isPanic⟩) := by
  rcases appender with ⟨config, device, poisoned⟩
  cases poisoned <;> rfl

@[simp] theorem fst_locked : (appender.locked use).1 = (use appender.device).1 := by
  rw [locked_eq]

@[simp] theorem config_locked : (appender.locked use).2.config = appender.config := by
  rw [locked_eq]

@[simp] theorem device_locked : (appender.locked use).2.device = (use appender.device).2 := by
  rw [locked_eq]

@[simp] theorem poisoned_locked :
    (appender.locked use).2.poisoned =
      (appender.poisoned || (use appender.device).1.isPanic) := by
  rw [locked_eq]

end Locked

/-- Write a line: the text, and then the line feed. -/
def writeLine (line : ByteArray) (device : Device ω) : Ending × Device ω :=
  match device.writeAll line with
  | (.done, device) => device.writeAll "\n".toUTF8
  | stopped => stopped

def emit (appender : Appender ω) (record : Record) : Ending × Appender ω :=
  let line := (appender.format record).toUTF8
  appender.locked (writeLine line)

/-- On a reliable device a record is written whole, with its line feed. -/
theorem emit_reliable (config : Config) (stored : ByteArray) (poisoned : Bool) (record : Record) :
    (Appender.mk config ⟨.reliable, stored⟩ poisoned).emit record =
      (.done, ⟨config,
        ⟨.reliable, stored ++ (record.render config).toUTF8 ++ "\n".toUTF8⟩, poisoned⟩) := by
  simp only [emit, locked_eq, writeLine, format, Writer.writeAll_reliable, Ending.isPanic,
    Bool.or_false]

def flush (appender : Appender ω) : Ending × Appender ω :=
  appender.locked Device.flush

def stored (appender : Appender ω) : ByteArray :=
  appender.device.stored

inductive Step where
  | format (record : Record)
  | emit (record : Record)
  | flush
  | config

inductive Answer where
  | text (text : String)
  | ended (ending : Ending)
  | config (config : Config)

def step (appender : Appender ω) : Step → Answer × Appender ω
  | .format record => (.text (appender.format record), appender)
  | .emit record =>
      let (ending, appender) := appender.emit record
      (.ended ending, appender)
  | .flush =>
      let (ending, appender) := appender.flush
      (.ended ending, appender)
  | .config => (.config appender.config, appender)

def run (appender : Appender ω) : List Step → List Answer × Appender ω
  | [] => ([], appender)
  | step :: rest =>
      let (answer, appender) := appender.step step
      let (answers, appender) := run appender rest
      (answer :: answers, appender)

theorem run_cons (appender : Appender ω) (step : Step) (rest : List Step) :
    appender.run (step :: rest) =
      ((appender.step step).1 :: ((appender.step step).2.run rest).1,
        ((appender.step step).2.run rest).2) := rfl

theorem run_append (appender : Appender ω) (earlier later : List Step) :
    appender.run (earlier ++ later) =
      ((appender.run earlier).1 ++ ((appender.run earlier).2.run later).1,
        ((appender.run earlier).2.run later).2) := by
  induction earlier generalizing appender with
  | nil => rfl
  | cons step rest ih =>
      rw [List.cons_append, run_cons, run_cons, ih (appender.step step).2, List.cons_append]

end Appender

end Diagnostics
end Reassembly
