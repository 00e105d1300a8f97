import Reassembly.SinkError

namespace Reassembly

/-!
# Counters

Counters only ever grow, so a step is described by what it adds and the
counters of a run are the sum over its steps.
-/

/-- What a sink counts. -/
structure Metrics where
  framesAccepted : Nat
  messagesDelivered : Nat
  tooLarge : Nat
  handler : Nat
  handlerPanicked : Nat
  completionDropped : Nat
deriving DecidableEq

namespace Metrics

def zero : Metrics :=
  ⟨0, 0, 0, 0, 0, 0⟩

instance : Inhabited Metrics := ⟨zero⟩

/-- Counters of two stretches of work, together. -/
def add (first second : Metrics) : Metrics where
  framesAccepted := first.framesAccepted + second.framesAccepted
  messagesDelivered := first.messagesDelivered + second.messagesDelivered
  tooLarge := first.tooLarge + second.tooLarge
  handler := first.handler + second.handler
  handlerPanicked := first.handlerPanicked + second.handlerPanicked
  completionDropped := first.completionDropped + second.completionDropped

instance : Add Metrics := ⟨add⟩

def frame : Metrics :=
  { zero with framesAccepted := 1 }

def message : Metrics :=
  { zero with messagesDelivered := 1 }

/-- One failure of this kind. -/
def failure : ErrorKind → Metrics
  | .tooLarge => { zero with tooLarge := 1 }
  | .handler => { zero with handler := 1 }
  | .handlerPanicked => { zero with handlerPanicked := 1 }
  | .completionDropped => { zero with completionDropped := 1 }

/-- The failures counted under a kind. -/
def failures (metrics : Metrics) : ErrorKind → Nat
  | .tooLarge => metrics.tooLarge
  | .handler => metrics.handler
  | .handlerPanicked => metrics.handlerPanicked
  | .completionDropped => metrics.completionDropped

@[simp] theorem zero_add (metrics : Metrics) : zero + metrics = metrics := by
  show add zero metrics = metrics
  simp only [add, zero, Nat.zero_add]

@[simp] theorem add_zero (metrics : Metrics) : metrics + zero = metrics := rfl

theorem add_assoc (first second third : Metrics) :
    first + second + third = first + (second + third) := by
  show add (add first second) third = add first (add second third)
  simp only [add, Nat.add_assoc]

/-- The counters that were touched, under the names they are exported by. -/
def exported (metrics : Metrics) : List (String × Nat) :=
  let plain :=
    [("framesink_frames_accepted_total", metrics.framesAccepted),
      ("framesink_messages_delivered_total", metrics.messagesDelivered)]
  let labelled := ErrorKind.all.map fun kind =>
    ("framesink_errors_total\x7bkind=" ++ kind.label ++ "\x7d", metrics.failures kind)
  (plain ++ labelled).filter fun counter => decide (0 < counter.2)

end Metrics

end Reassembly
