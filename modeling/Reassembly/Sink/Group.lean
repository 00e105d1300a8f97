import Reassembly.Sink.Run

namespace Reassembly

/-!
# Sinks that share a session

Several sinks may read their limit from one session.  A limit change, also one
made by a handler during a call, is then seen by all of them; nothing else is
shared.
-/

/-- Sinks over one session, told apart by their place in the list. -/
structure SinkGroup (σ : Type) where
  session : Session
  sinks : List (Sink σ)

namespace SinkGroup

variable {σ : Type}

inductive Step where
  | accept (index : Nat) (frame : Frame)
  | setLimit (raw : Int64)
deriving DecidableEq

/-- This many new sinks with a handler of the same beginnings each. -/
def replicate (session : Session) (count : Nat) (handler : Handler σ) : SinkGroup σ :=
  ⟨session, List.replicate count (Sink.new handler)⟩

/-- Let the sink at a place accept a frame.  There is no answer when there is
no sink at that place. -/
def accept? (group : SinkGroup σ) (index : Nat) (frame : Frame) :
    Option (Sink.Receipt × SinkGroup σ) :=
  group.sinks[index]?.map fun sink =>
    let acceptance := sink.accept group.session frame
    (⟨frame, group.session.rawLimit, acceptance.outcome, acceptance.journal⟩,
      ⟨acceptance.session, group.sinks.set index acceptance.sink⟩)

def setLimit (group : SinkGroup σ) (raw : Int64) : SinkGroup σ :=
  { group with session := group.session.setLimit raw }

/-- Carry out one step, keeping the receipt with the place of its sink.  A step
for a sink that does not exist does nothing. -/
def step (group : SinkGroup σ) : Step → Option (Nat × Sink.Receipt) × SinkGroup σ
  | .accept index frame =>
      match group.accept? index frame with
      | some (receipt, group) => (some (index, receipt), group)
      | none => (none, group)
  | .setLimit raw => (none, group.setLimit raw)

/-- Carry out steps in order. -/
def run (group : SinkGroup σ) : List Step → List (Nat × Sink.Receipt) × SinkGroup σ
  | [] => ([], group)
  | step :: rest =>
      let (receipt, group) := group.step step
      let (receipts, group) := run group rest
      (receipt.toList ++ receipts, group)

theorem run_cons (group : SinkGroup σ) (step : Step) (rest : List Step) :
    group.run (step :: rest) =
      ((group.step step).1.toList ++ ((group.step step).2.run rest).1,
        ((group.step step).2.run rest).2) := rfl

end SinkGroup

end Reassembly
