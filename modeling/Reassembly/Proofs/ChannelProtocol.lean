import Mathlib.Data.List.Induction
import Mathlib.Data.List.TakeWhile
import Reassembly.Completion

namespace Reassembly
namespace Channel

/-!
# The protocol of a completion channel

The two ends of a channel are used in any order, and either may go first.  What
the next step is answered follows from the steps before it, and of these two
things matter: with what the completion has ended, if it has (`ended?`), and
whether the future is there, which goes when it is dropped and when it is polled
behind the end of the completion (`HasFuture`).  The phase of the channel is just
these two, and whether a poll has been made in vain (`phase_run`).

From the phase follow the answer to the next step (`answerTo_eq`) and its wake
(`wakes_concat`).  An answer that can only be given while something is there and
that uses it up is given at most once (`countP_answers_le_one`); so an outcome is
reported at most once and observed at most once.
-/

/-! ## A step in every phase -/

section Phases

variable {channel : Channel}

theorem step_of_waiting {watched : Bool} (phase : channel.phase = .waiting watched) (step : Step) :
    channel.step step =
      match step with
      | .poll => (.pending, ⟨.waiting true, channel.wakes⟩)
      | .finish outcome => (.completed, channel.settle watched outcome)
      | .dropCompletion => (.dropped true, channel.settle watched (.failed .completionDropped))
      | .dropFuture => (.dropped true, ⟨.unheard, channel.wakes⟩) := by
  cases step <;> rw [Channel.step] <;>
    simp only [poll, finish, dropCompletion, dropFuture, phase]

theorem step_of_settled {reported : Outcome} (phase : channel.phase = .settled reported)
    (step : Step) :
    channel.step step =
      match step with
      | .poll => (.ready reported, ⟨.closed, channel.wakes⟩)
      | .finish _ => (.gone, channel)
      | .dropCompletion => (.dropped false, channel)
      | .dropFuture => (.dropped true, ⟨.closed, channel.wakes⟩) := by
  cases step <;> rw [Channel.step] <;>
    simp only [poll, finish, dropCompletion, dropFuture, phase]

theorem step_of_unheard (phase : channel.phase = .unheard) (step : Step) :
    channel.step step =
      match step with
      | .poll => (.gone, channel)
      | .finish _ => (.completed, ⟨.closed, channel.wakes⟩)
      | .dropCompletion => (.dropped true, ⟨.closed, channel.wakes⟩)
      | .dropFuture => (.dropped false, channel) := by
  cases step <;> rw [Channel.step] <;>
    simp only [poll, finish, dropCompletion, dropFuture, phase]

theorem step_of_closed (phase : channel.phase = .closed) (step : Step) :
    channel.step step =
      match step with
      | .poll => (.gone, channel)
      | .finish _ => (.gone, channel)
      | .dropCompletion => (.dropped false, channel)
      | .dropFuture => (.dropped false, channel) := by
  cases step <;> rw [Channel.step] <;>
    simp only [poll, finish, dropCompletion, dropFuture, phase]

end Phases

/-! ## What the steps say -/

/-- The outcome that the future will observe if the completion ends with this
step. -/
def Step.ending? : Step → Option Outcome
  | .finish outcome => some outcome
  | .dropCompletion => some (.failed .completionDropped)
  | .poll => none
  | .dropFuture => none

/-- What the completion has ended with.  It ends once, so the first step that
ends it counts. -/
def ended? (steps : List Step) : Option Outcome :=
  steps.findSome? Step.ending?

/-- The steps from the end of the completion on. -/
def sinceEnd (steps : List Step) : List Step :=
  steps.dropWhile fun step => step.ending?.isNone

/-- The future is there until it is dropped, or polled once the completion has
ended. -/
def HasFuture (steps : List Step) : Prop :=
  .dropFuture ∉ steps ∧ .poll ∉ sinceEnd steps

instance (steps : List Step) : Decidable (HasFuture steps) :=
  inferInstanceAs (Decidable (_ ∧ _))

/-- The answer that a step gets on a channel that has been through others. -/
def answerTo (before : List Step) (step : Step) : Answer :=
  ((new.run before).2.step step).1

def answers (steps : List Step) : List Answer :=
  (new.run steps).1.map Prod.fst

/-! ## One more step -/

theorem ended?_concat (steps : List Step) (step : Step) :
    ended? (steps ++ [step]) = (ended? steps).or step.ending? := by
  rw [ended?, List.findSome?_append, List.findSome?_singleton]
  rfl

theorem sinceEnd_eq_nil_iff (steps : List Step) : sinceEnd steps = [] ↔ ended? steps = none := by
  rw [sinceEnd, List.dropWhile_eq_nil_iff, ended?, List.findSome?_eq_none_iff]
  exact forall₂_congr fun step _ => Option.isNone_iff_eq_none

theorem sinceEnd_concat (steps : List Step) (step : Step) :
    sinceEnd (steps ++ [step]) =
      if ended? steps = none then sinceEnd [step] else sinceEnd steps ++ [step] := by
  rw [sinceEnd, List.dropWhile_append]
  refine if_congr ?_ rfl rfl
  rw [List.isEmpty_iff]
  exact sinceEnd_eq_nil_iff steps

theorem poll_not_mem_sinceEnd_singleton (step : Step) : .poll ∉ sinceEnd [step] := by
  cases step <;> simp [sinceEnd, Step.ending?]

theorem hasFuture_concat (steps : List Step) (step : Step) :
    HasFuture (steps ++ [step]) ↔
      HasFuture steps ∧ step ≠ .dropFuture ∧ (step = .poll → ended? steps = none) := by
  rw [HasFuture, HasFuture, sinceEnd_concat, List.mem_append, List.mem_singleton]
  by_cases ongoing : ended? steps = none
  · rw [if_pos ongoing, (sinceEnd_eq_nil_iff steps).mpr ongoing]
    have unpolled := poll_not_mem_sinceEnd_singleton step
    have unpolled_before : Step.poll ∉ ([] : List Step) := List.not_mem_nil
    tauto
  · rw [if_neg ongoing, List.mem_append, List.mem_singleton]
    tauto

theorem answers_concat (steps : List Step) (step : Step) :
    answers (steps ++ [step]) = answers steps ++ [answerTo steps step] := by
  rw [answers, run_append, List.map_append]
  rfl

theorem run_concat (steps : List Step) (step : Step) :
    (new.run (steps ++ [step])).2 = ((new.run steps).2.step step).2 := by
  rw [run_append]
  rfl

/-! ## The phase -/

/-- The phase of a channel that has been through these steps. -/
def phaseAfter (steps : List Step) : ChannelPhase :=
  match ended? steps with
  | none => if HasFuture steps then .waiting (decide (.pending ∈ answers steps)) else .unheard
  | some outcome => if HasFuture steps then .settled outcome else .closed

theorem phaseAfter_cases (steps : List Step) :
    (ended? steps = none ∧ HasFuture steps ∧
        phaseAfter steps = .waiting (decide (.pending ∈ answers steps))) ∨
      (ended? steps = none ∧ ¬ HasFuture steps ∧ phaseAfter steps = .unheard) ∨
      (∃ outcome, ended? steps = some outcome ∧ HasFuture steps ∧
        phaseAfter steps = .settled outcome) ∨
      ∃ outcome, ended? steps = some outcome ∧ ¬ HasFuture steps ∧ phaseAfter steps = .closed := by
  rw [phaseAfter]
  cases ended? steps <;> by_cases future : HasFuture steps <;> simp [future]

theorem phase_run (steps : List Step) : (new.run steps).2.phase = phaseAfter steps := by
  induction steps using List.reverseRecOn with
  | nil => decide
  | append_singleton steps step ih =>
      rw [run_concat, phaseAfter, ended?_concat, answers_concat, answerTo]
      simp only [hasFuture_concat]
      rcases phaseAfter_cases steps with ⟨ended, future, phase⟩ | ⟨ended, future, phase⟩ |
        ⟨outcome, ended, future, phase⟩ | ⟨outcome, ended, future, phase⟩
      · rw [step_of_waiting (ih.trans phase)]
        cases step <;> simp [settle, Step.ending?, ended, future]
      · rw [step_of_unheard (ih.trans phase)]
        cases step <;> simp [Step.ending?, ended, future, ih, phase]
      · rw [step_of_settled (ih.trans phase)]
        cases step <;> simp [Step.ending?, ended, future, ih, phase]
      · rw [step_of_closed (ih.trans phase)]
        cases step <;> simp [Step.ending?, ended, future, ih, phase]

/-! ## The answers -/

/-- The answer to a step, as the end of the completion and the future decide. -/
theorem answerTo_eq (before : List Step) (step : Step) :
    answerTo before step =
      match step, ended? before with
      | .poll, none => if HasFuture before then .pending else .gone
      | .poll, some outcome => if HasFuture before then .ready outcome else .gone
      | .finish _, none => .completed
      | .finish _, some _ => .gone
      | .dropCompletion, ended => .dropped ended.isNone
      | .dropFuture, _ => .dropped (decide (HasFuture before)) := by
  have reached := phase_run before
  rw [answerTo]
  rcases phaseAfter_cases before with ⟨ended, future, phase⟩ | ⟨ended, future, phase⟩ |
    ⟨outcome, ended, future, phase⟩ | ⟨outcome, ended, future, phase⟩
  · rw [step_of_waiting (reached.trans phase)]
    cases step <;> simp [ended, future]
  · rw [step_of_unheard (reached.trans phase)]
    cases step <;> simp [ended, future]
  · rw [step_of_settled (reached.trans phase)]
    cases step <;> simp [ended, future]
  · rw [step_of_closed (reached.trans phase)]
    cases step <;> simp [ended, future]

theorem answerTo_eq_completed_iff (before : List Step) (step : Step) :
    answerTo before step = .completed ↔
      (∃ outcome, step = .finish outcome) ∧ ended? before = none := by
  rw [answerTo_eq]
  cases step <;> cases ended? before <;> by_cases future : HasFuture before <;> simp [future]

theorem answerTo_eq_pending_iff (before : List Step) (step : Step) :
    answerTo before step = .pending ↔ step = .poll ∧ HasFuture before ∧ ended? before = none := by
  rw [answerTo_eq]
  cases step <;> cases ended? before <;> by_cases future : HasFuture before <;> simp [future]

theorem answerTo_eq_ready_iff (before : List Step) (step : Step) (outcome : Outcome) :
    answerTo before step = .ready outcome ↔
      step = .poll ∧ HasFuture before ∧ ended? before = some outcome := by
  rw [answerTo_eq]
  cases step <;> cases ended? before <;> by_cases future : HasFuture before <;> simp [future]

/-- One more step takes the future away if it drops it or is answered with the
outcome. -/
theorem hasFuture_concat_iff (steps : List Step) (step : Step) :
    HasFuture (steps ++ [step]) ↔
      HasFuture steps ∧ step ≠ .dropFuture ∧ ∀ outcome, answerTo steps step ≠ .ready outcome := by
  rw [hasFuture_concat]
  refine and_congr_right fun future => and_congr_right fun _ => ?_
  simp only [ne_eq, answerTo_eq_ready_iff, future, true_and, not_and]
  rw [forall_comm]
  refine imp_congr_right fun _ => ?_
  cases ended? steps <;> simp

/-- The future goes when it is dropped or has yielded an outcome, and in no other
way. -/
theorem hasFuture_iff (steps : List Step) :
    HasFuture steps ↔ .dropFuture ∉ steps ∧ ∀ outcome, .ready outcome ∉ answers steps := by
  induction steps using List.reverseRecOn with
  | nil => simp [HasFuture, sinceEnd, answers, run]
  | append_singleton steps step ih =>
      simp only [hasFuture_concat_iff, ih, answers_concat, List.mem_append, List.mem_singleton,
        not_or, forall_and, ne_eq, eq_comm]
      tauto

/-! ## The wakes -/

/-- The future is woken when the completion ends, if it is there and has been
polled in vain. -/
theorem wakes_concat (steps : List Step) (step : Step) :
    (new.run (steps ++ [step])).2.wakes = (new.run steps).2.wakes +
      if step.ending?.isSome ∧ ended? steps = none ∧ HasFuture steps ∧
        .pending ∈ answers steps then 1 else 0 := by
  have reached := phase_run steps
  rw [run_concat]
  rcases phaseAfter_cases steps with ⟨ended, future, phase⟩ | ⟨ended, future, phase⟩ |
    ⟨outcome, ended, future, phase⟩ | ⟨outcome, ended, future, phase⟩
  · rw [step_of_waiting (reached.trans phase)]
    cases step <;> simp [settle, Step.ending?, ended, future]
  · rw [step_of_unheard (reached.trans phase), if_neg fun woken => future woken.2.2.1]
    cases step <;> rfl
  · rw [step_of_settled (reached.trans phase), ended,
      if_neg fun woken => Option.some_ne_none outcome woken.2.1]
    cases step <;> rfl
  · rw [step_of_closed (reached.trans phase), if_neg fun woken => future woken.2.2.1]
    cases step <;> rfl

theorem wakes_run_le_one (steps : List Step) :
    (new.run steps).2.wakes ≤ 1 ∧ (ended? steps = none → (new.run steps).2.wakes = 0) := by
  induction steps using List.reverseRecOn with
  | nil => exact ⟨Nat.zero_le 1, fun _ => rfl⟩
  | append_singleton steps step ih =>
      rw [wakes_concat, ended?_concat]
      by_cases ongoing : ended? steps = none
      · rw [ih.2 ongoing, ongoing]
        cases step.ending? <;> simp
        split <;> decide
      · have never : ¬ (ended? steps).or step.ending? = none := by
          rw [Option.or_eq_none_iff]
          exact fun both => ongoing both.1
        rw [if_neg fun woken => ongoing woken.2.1]
        exact ⟨ih.1, fun impossible => absurd impossible never⟩

/-! ## What happens at most once -/

/-- An answer that is given only while something is there, and after which that
is there no more, is given at most once. -/
theorem countP_answers_le_one (counted : Answer → Bool) (There : List Step → Prop)
    (used_up : ∀ before step, counted (answerTo before step) = true →
      There before ∧ ¬ There (before ++ [step]))
    (gone : ∀ before step, There (before ++ [step]) → There before) (steps : List Step) :
    (answers steps).countP counted ≤ 1 ∧ (There steps → (answers steps).countP counted = 0) := by
  induction steps using List.reverseRecOn with
  | nil => exact ⟨Nat.zero_le 1, fun _ => rfl⟩
  | append_singleton steps step ih =>
      rw [answers_concat, List.countP_append, List.countP_singleton]
      cases counts : counted (answerTo steps step) with
      | false => exact ⟨ih.1, fun there => ih.2 (gone steps step there)⟩
      | true =>
          have ⟨there, used⟩ := used_up steps step counts
          rw [ih.2 there]
          exact ⟨Nat.le_refl 1, fun still => absurd still used⟩

/-- The outcome that an answer shows. -/
def Answer.outcome? : Answer → Option Outcome
  | .ready outcome => some outcome
  | _ => none

theorem count_completed_le_one (steps : List Step) : (answers steps).count .completed ≤ 1 := by
  refine (countP_answers_le_one (· == .completed) (ended? · = none) ?_ ?_ steps).1
  · intro before step completed
    rw [beq_iff_eq, answerTo_eq_completed_iff] at completed
    rcases completed with ⟨⟨outcome, rfl⟩, there⟩
    refine ⟨there, ?_⟩
    rw [ended?_concat, there]
    exact Option.some_ne_none outcome
  · intro before step there
    rw [ended?_concat, Option.or_eq_none_iff] at there
    exact there.1

theorem countP_ready_le_one (steps : List Step) :
    (answers steps).countP (·.outcome?.isSome) ≤ 1 := by
  refine (countP_answers_le_one (·.outcome?.isSome) HasFuture ?_ ?_ steps).1
  · intro before step ready
    cases answer : answerTo before step with
    | ready outcome =>
        refine ⟨((answerTo_eq_ready_iff before step outcome).mp answer).2.1, ?_⟩
        rw [hasFuture_concat_iff]
        exact fun still => still.2.2 outcome answer
    | _ =>
        rw [answer] at ready
        cases ready
  · intro before step there
    exact ((hasFuture_concat_iff before step).mp there).1

/-! ## The protocol as a whole -/

/-- On a channel that has been through any steps, the next one is answered and
wakes the future as follows.  Reporting an outcome takes effect as long as the
completion has not ended.  A poll finds nothing as long as the future is there and
the completion has not ended, and it yields what the completion has ended with as
long as the future is there; a completion that was let go has ended with a failure
of its own.  The future is woken by the end of the completion, if it is there and
has been polled in vain.

The future is there until it is dropped or has yielded an outcome.  So over all
steps at most one report takes effect, at most one poll yields an outcome, and the
future is woken at most once. -/
theorem run_keeps_protocol :
    (∀ (before : List Step) (step : Step),
      let earlier := new.run before
      let answer := (earlier.2.step step).1
      let next := (earlier.2.step step).2
      (new.run (before ++ [step])) = (earlier.1 ++ [(answer, next.wakes)], next) ∧
        (answer = .completed ↔ (∃ outcome, step = .finish outcome) ∧ ended? before = none) ∧
        (answer = .pending ↔ step = .poll ∧ HasFuture before ∧ ended? before = none) ∧
        (∀ outcome, answer = .ready outcome ↔
          step = .poll ∧ HasFuture before ∧ ended? before = some outcome) ∧
        next.wakes = earlier.2.wakes +
          if step.ending?.isSome ∧ ended? before = none ∧ HasFuture before ∧
            .pending ∈ earlier.1.map Prod.fst then 1 else 0) ∧
      ∀ steps : List Step,
        let whole := new.run steps
        let answers := whole.1.map Prod.fst
        (HasFuture steps ↔ .dropFuture ∉ steps ∧ ∀ outcome, .ready outcome ∉ answers) ∧
          answers.count .completed ≤ 1 ∧ answers.countP (·.outcome?.isSome) ≤ 1 ∧
          whole.2.wakes ≤ 1 := by
  constructor
  · intro before step earlier answer next
    have wakes := wakes_concat before step
    rw [run_concat] at wakes
    exact ⟨run_append new before [step], answerTo_eq_completed_iff before step,
      answerTo_eq_pending_iff before step, answerTo_eq_ready_iff before step, wakes⟩
  · intro steps whole answers
    exact ⟨hasFuture_iff steps, count_completed_le_one steps, countP_ready_le_one steps,
      (wakes_run_le_one steps).1⟩

end Channel
end Reassembly
