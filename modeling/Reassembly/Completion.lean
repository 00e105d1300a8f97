import Reassembly.SinkError

namespace Reassembly

/-!
# Completions

Whoever hands a frame to a sink hands over a completion with it, through which
the outcome comes back once.  A completion is either observed directly or
through a channel with two ends: the completion itself, and a future that is
polled for the outcome.

Either end of a channel may go away first.  A completion that goes away
without an outcome counts as a failure of its own; an outcome that nobody
waits for any more is lost without notice.  The future is woken at most once,
when the completion ends after a poll found nothing.
-/

/-- The ways to report through a completion. -/
inductive Signal where
  | succeeded
  | failed (error : SinkError)
  | complete (outcome : Outcome)
deriving DecidableEq

namespace Signal

def outcome : Signal → Outcome
  | succeeded => .ok
  | failed error => .failed error
  | complete outcome => outcome

end Signal

/-- Which ends of a channel are left, and what has passed between them. -/
inductive ChannelPhase where
  /-- Both ends are there and nothing was reported.  A watched channel has been
  polled in vain, so its future is to be woken. -/
  | waiting (watched : Bool)
  /-- The completion has ended with this outcome, which is not yet observed. -/
  | settled (outcome : Outcome)
  /-- The future is gone and the completion is still there. -/
  | unheard
  | closed
deriving DecidableEq

/-- A completion channel, with the number of times its future was woken. -/
structure Channel where
  phase : ChannelPhase
  wakes : Nat
deriving DecidableEq

namespace Channel

def new : Channel :=
  ⟨.waiting false, 0⟩

inductive Step where
  | poll
  | finish (outcome : Outcome)
  | dropCompletion
  | dropFuture
deriving DecidableEq

inductive Answer where
  | pending
  | ready (outcome : Outcome)
  | completed
  /-- The end that was to be used is gone. -/
  | gone
  /-- Whether the end that was to go was still there. -/
  | dropped (existed : Bool)
deriving DecidableEq

/-- The completion ends with an outcome while the future is there. -/
def settle (channel : Channel) (watched : Bool) (outcome : Outcome) : Channel :=
  ⟨.settled outcome, channel.wakes + if watched then 1 else 0⟩

/-- Poll the future.  Observing the outcome uses the future up. -/
def poll (channel : Channel) : Answer × Channel :=
  match channel.phase with
  | .waiting _ => (.pending, { channel with phase := .waiting true })
  | .settled outcome => (.ready outcome, { channel with phase := .closed })
  | .unheard | .closed => (.gone, channel)

/-- Report an outcome, which uses the completion up. -/
def finish (channel : Channel) (outcome : Outcome) : Answer × Channel :=
  match channel.phase with
  | .waiting watched => (.completed, channel.settle watched outcome)
  | .unheard => (.completed, { channel with phase := .closed })
  | .settled _ | .closed => (.gone, channel)

/-- Let the completion go without an outcome. -/
def dropCompletion (channel : Channel) : Answer × Channel :=
  match channel.phase with
  | .waiting watched => (.dropped true, channel.settle watched (.failed .completionDropped))
  | .unheard => (.dropped true, { channel with phase := .closed })
  | .settled _ | .closed => (.dropped false, channel)

def dropFuture (channel : Channel) : Answer × Channel :=
  match channel.phase with
  | .waiting _ => (.dropped true, { channel with phase := .unheard })
  | .settled _ => (.dropped true, { channel with phase := .closed })
  | .unheard | .closed => (.dropped false, channel)

def step (channel : Channel) : Step → Answer × Channel
  | .poll => channel.poll
  | .finish outcome => channel.finish outcome
  | .dropCompletion => channel.dropCompletion
  | .dropFuture => channel.dropFuture

/-- Carry out steps in order.  Each answer comes with the number of wakes up to
and including its step. -/
def run : Channel → List Step → List (Answer × Nat) × Channel
  | channel, [] => ([], channel)
  | channel, step :: rest =>
      let (answer, next) := channel.step step
      let (answers, last) := run next rest
      ((answer, next.wakes) :: answers, last)

theorem run_cons (channel : Channel) (step : Step) (rest : List Step) :
    channel.run (step :: rest) =
      (((channel.step step).1, (channel.step step).2.wakes) ::
          ((channel.step step).2.run rest).1,
        ((channel.step step).2.run rest).2) := rfl

theorem run_append (channel : Channel) (earlier later : List Step) :
    channel.run (earlier ++ later) =
      ((channel.run earlier).1 ++ ((channel.run earlier).2.run later).1,
        ((channel.run earlier).2.run later).2) := by
  induction earlier generalizing channel with
  | nil => rfl
  | cons step rest ih =>
      rw [List.cons_append, run_cons, run_cons, ih (channel.step step).2, List.cons_append]

end Channel

/-- What became of a completion by the time the frame was accepted. -/
inductive Settlement where
  | finished (outcome : Outcome)
  | dropped
deriving DecidableEq

namespace Settlement

/-- The outcome that a waiting future observes. -/
def awaited (settlement : Settlement) : Outcome :=
  let settled :=
    match settlement with
    | finished outcome => (Channel.new.finish outcome).2
    | dropped => Channel.new.dropCompletion.2
  match settled.poll.1 with
  | .ready outcome => outcome
  | _ => .failed .completionDropped

@[simp] theorem awaited_finished (outcome : Outcome) : (finished outcome).awaited = outcome := rfl

@[simp] theorem awaited_dropped : dropped.awaited = .failed .completionDropped := rfl

end Settlement

/-- How the outcome of a frame is observed. -/
inductive Observer where
  | direct
  | channel
  /-- The future of a channel was let go before the frame was accepted. -/
  | abandonedChannel
deriving DecidableEq

namespace Observer

/-- The outcomes observed when a completion is finished once. -/
def reports (observer : Observer) (outcome : Outcome) : List Outcome :=
  match observer with
  | direct => [outcome]
  | channel => [(Settlement.finished outcome).awaited]
  | abandonedChannel =>
      let steps := [.dropFuture, .finish outcome, .poll]
      (Channel.new.run steps).1.filterMap fun
        | (.ready outcome, _) => some outcome
        | _ => none

end Observer

end Reassembly
