import Reassembly.Sink

namespace Reassembly
namespace Sink

/-!
# Runs of a sink

A run feeds a sink with frames, between which the session's limit may be
replaced.  Every accepted frame leaves a receipt: the limit that was stored
when the frame arrived, the outcome and the visible effects.  The receipts are
the whole history of the sink, and everything said about runs is said about
them.

Runs compose: `run_append` lets a history be cut at any step.
-/

inductive Step where
  | accept (frame : Frame)
  | setLimit (raw : Int64)
deriving DecidableEq

/-- What one accepted frame left behind. -/
structure Receipt where
  frame : Frame
  rawLimit : Int64
  outcome : Outcome
  journal : Journal
deriving DecidableEq

namespace Receipt

/-- A frame after which nothing of its message is left. -/
def endsMessage (receipt : Receipt) : Bool :=
  receipt.frame.isFinal || !receipt.outcome.isOk

end Receipt

/-- The receipt that a frame will leave if it is accepted now. -/
def receipt {σ : Type} (sink : Sink σ) (session : Session) (frame : Frame) : Receipt :=
  let acceptance := sink.accept session frame
  ⟨frame, session.rawLimit, acceptance.outcome, acceptance.journal⟩

/-- A sink, the session it reads, and its history so far. -/
structure Run (σ : Type) where
  session : Session
  sink : Sink σ
  receipts : Array Receipt

namespace Run

variable {σ : Type}

def start (session : Session) (sink : Sink σ) : Run σ :=
  ⟨session, sink, #[]⟩

def step (run : Run σ) : Step → Run σ
  | .accept frame =>
      let ⟨session, sink, receipts⟩ := run
      let acceptance := sink.accept session frame
      ⟨acceptance.session, acceptance.sink,
        receipts.push ⟨frame, session.rawLimit, acceptance.outcome, acceptance.journal⟩⟩
  | .setLimit raw => { run with session := run.session.setLimit raw }

def steps (run : Run σ) (steps : List Step) : Run σ :=
  steps.foldl step run

theorem step_accept (run : Run σ) (frame : Frame) :
    run.step (.accept frame) =
      ⟨(run.sink.accept run.session frame).session, (run.sink.accept run.session frame).sink,
        run.receipts.push (run.sink.receipt run.session frame)⟩ := rfl

theorem toList_receipts_step_accept (run : Run σ) (frame : Frame) :
    (run.step (.accept frame)).receipts.toList =
      run.receipts.toList ++ [run.sink.receipt run.session frame] := by
  rw [step_accept, Array.toList_push]

@[simp] theorem steps_nil (run : Run σ) : run.steps [] = run := rfl

@[simp] theorem steps_cons (run : Run σ) (first : Step) (rest : List Step) :
    run.steps (first :: rest) = (run.step first).steps rest := rfl

theorem steps_append (run : Run σ) (earlier later : List Step) :
    run.steps (earlier ++ later) = (run.steps earlier).steps later :=
  List.foldl_append

/-- What every step preserves, every run preserves. -/
theorem steps_preserve {motive : Run σ → Prop}
    (each : ∀ run step, motive run → motive (run.step step)) {run : Run σ} (holds : motive run)
    (steps : List Step) : motive (run.steps steps) := by
  induction steps generalizing run with
  | nil => exact holds
  | cons first rest ih => exact ih (each run first holds)

/-- The history only ever grows. -/
theorem receipts_steps (run : Run σ) (steps : List Step) :
    ∃ later, (run.steps steps).receipts.toList = run.receipts.toList ++ later := by
  refine steps_preserve
    (motive := fun reached => ∃ later, reached.receipts.toList = run.receipts.toList ++ later)
    ?_ ⟨[], (List.append_nil _).symm⟩ steps
  rintro reached step ⟨later, grown⟩
  cases step with
  | setLimit raw => exact ⟨later, grown⟩
  | accept frame =>
      refine ⟨later ++ [reached.sink.receipt reached.session frame], ?_⟩
      rw [toList_receipts_step_accept, grown, List.append_assoc]

/-- The visible effects of a run, in order. -/
def journal (run : Run σ) : Journal :=
  run.receipts.foldl (fun journal receipt => journal ++ receipt.journal) .empty

def outcomes (run : Run σ) : List Outcome :=
  run.receipts.toList.map (·.outcome)

theorem journal_step_accept (run : Run σ) (frame : Frame) :
    (run.step (.accept frame)).journal =
      run.journal ++ (run.sink.accept run.session frame).journal := by
  rw [step_accept, journal, Array.foldl_push]
  rfl

end Run

def run {σ : Type} (session : Session) (sink : Sink σ) (steps : List Step) : Run σ :=
  (Run.start session sink).steps steps

theorem run_append {σ : Type} (session : Session) (sink : Sink σ) (earlier later : List Step) :
    run session sink (earlier ++ later) = (run session sink earlier).steps later :=
  Run.steps_append _ earlier later

end Sink
end Reassembly
