import Mathlib.Logic.Relation
import Reassembly.Proofs.Isolation

namespace Reassembly

/-!
# What assembly reads of a frame

Assembly reads the payload bytes of a frame and its final mark.  It does not
read the opcode, it does not tell an absent payload from an empty one, and it
does not notice a frame that brings no byte and ends no message: such a frame is
idle, and it is not even held against a limit that has been lowered below what
is collected.

An `Edit` changes a sequence of steps in one of these respects.  Sequences that
edits lead to from each other can be laid side by side, `Pairing` by `Pairing`,
so that frames in one pairing are alike and a frame on one side alone is idle;
and all sequences that can be laid so are edits of each other, since they agree
in their `essence` (`Sink.edited_iff`).  Two runs over such sequences make the same
handler calls, end alike, and report the same outcomes but for the idle frames of
one side, which succeed (`Sink.agree_run`).
-/

namespace Frame

/-- A frame that brings no byte and ends no message. -/
def isIdle (frame : Frame) : Bool :=
  !frame.hasPayload && !frame.isFinal

/-- Frames that assembly does not tell apart. -/
def Alike (left right : Frame) : Prop :=
  left.bytes = right.bytes ∧ left.isFinal = right.isFinal

/-- The frame with all that assembly does not read of it set to the same. -/
def plain (frame : Frame) : Frame :=
  ⟨.binary, some frame.bytes, frame.isFinal⟩

theorem plain_eq_iff {left right : Frame} : left.plain = right.plain ↔ left.Alike right := by
  rw [plain, plain, Frame.mk.injEq, Option.some_inj]
  constructor
  · rintro ⟨_, bytes, isFinal⟩
    exact ⟨bytes, isFinal⟩
  · rintro ⟨bytes, isFinal⟩
    exact ⟨rfl, bytes, isFinal⟩

theorem isIdle_iff {frame : Frame} :
    frame.isIdle = true ↔ frame.hasPayload = false ∧ frame.isFinal = false := by
  rw [isIdle, Bool.and_eq_true, Bool.not_eq_true', Bool.not_eq_true']

theorem Alike.hasPayload {left right : Frame} (alike : left.Alike right) :
    left.hasPayload = right.hasPayload := by
  rw [Frame.hasPayload, Frame.hasPayload, payloadSize, payloadSize, alike.1]

theorem Alike.isIdle {left right : Frame} (alike : left.Alike right) :
    left.isIdle = right.isIdle := by
  rw [Frame.isIdle, Frame.isIdle, alike.hasPayload, alike.2]

end Frame

theorem Accumulator.receive_congr {left right : Frame} (alike : left.Alike right)
    (accumulator : Accumulator) (limit : SizeLimit) :
    accumulator.receive left limit = accumulator.receive right limit := by
  rw [receive, receive, alike.hasPayload, alike.1]

namespace Sink

variable {σ : Type}

/-! ## One frame -/

theorem process_congr {left right : Frame} (alike : left.Alike right) (sink : Sink σ)
    (session : Session) : sink.process session left = sink.process session right := by
  have same := sink.accumulator.receive_congr alike session.limit
  cases received : sink.accumulator.receive right session.limit with
  | error refusal =>
      rw [process_of_refused received, process_of_refused (same.trans received)]
  | ok accumulator =>
      cases last : right.isFinal with
      | true =>
          rw [process_of_final received last,
            process_of_final (same.trans received) (alike.2.trans last)]
      | false =>
          rw [process_of_not_final received last,
            process_of_not_final (same.trans received) (alike.2.trans last)]

/-- An idle frame leaves all as it is, whatever the limit is by now. -/
theorem process_of_idle {frame : Frame} (idle : frame.isIdle = true) (sink : Sink σ)
    (session : Session) : sink.process session frame = ⟨.ok, .empty, session, sink⟩ := by
  have ⟨bare, more⟩ := Frame.isIdle_iff.mp idle
  exact process_of_not_final (Accumulator.receive_of_bare bare sink.accumulator session.limit) more

/-! ## The first step of a run -/

theorem run_accept_cons (session : Session) (sink : Sink σ) (frame : Frame) (rest : List Step) :
    let worked := sink.process session frame
    let whole := run session sink (.accept frame :: rest)
    let further := run worked.session worked.sink rest
    whole.session = further.session ∧ whole.sink = further.sink ∧
      whole.outcomes = worked.outcome :: further.outcomes ∧
      whole.journal.deliveries = worked.journal.deliveries ++ further.journal.deliveries := by
  intro worked whole further
  have split : whole = ⟨further.session, further.sink,
      #[sink.receipt session frame] ++ further.receipts⟩ :=
    Run.steps_eq ((Run.start session sink).step (.accept frame)) rest
  have receipts : whole.receipts.toList =
      sink.receipt session frame :: further.receipts.toList := by
    rw [split, Array.toList_append]
    rfl
  have journal : whole.journal = (sink.accept session frame).journal ++ further.journal := by
    rw [whole.journal_eq, receipts, further.journal_eq]
    rfl
  refine ⟨by rw [split], by rw [split], ?_, ?_⟩
  · rw [Run.outcomes, receipts]
    rfl
  · rw [journal, Journal.deliveries_append, deliveries_accept]

theorem run_idle_cons {frame : Frame} (idle : frame.isIdle = true) (session : Session)
    (sink : Sink σ) (rest : List Step) :
    let whole := run session sink (.accept frame :: rest)
    let further := run session sink rest
    whole.session = further.session ∧ whole.sink = further.sink ∧
      whole.outcomes = .ok :: further.outcomes ∧
      whole.journal.deliveries = further.journal.deliveries := by
  intro whole further
  have first := run_accept_cons session sink frame rest
  rw [process_of_idle idle] at first
  rcases first with ⟨session_eq, sink_eq, outcomes_eq, deliveries_eq⟩
  exact ⟨session_eq, sink_eq, outcomes_eq, deliveries_eq.trans Array.empty_append⟩

/-! ## Two sequences side by side -/

/-- What stands at one place of two sequences of steps laid side by side. -/
inductive Pairing where
  | limit (raw : Int64)
  | frames (left right : Frame) (alike : left.Alike right)
  | onlyLeft (frame : Frame) (idle : frame.isIdle = true)
  | onlyRight (frame : Frame) (idle : frame.isIdle = true)

namespace Pairing

def left? : Pairing → Option Step
  | limit raw => some (.setLimit raw)
  | frames left _ _ => some (.accept left)
  | onlyLeft frame _ => some (.accept frame)
  | onlyRight _ _ => none

def right? : Pairing → Option Step
  | limit raw => some (.setLimit raw)
  | frames _ right _ => some (.accept right)
  | onlyLeft _ _ => none
  | onlyRight frame _ => some (.accept frame)

/-- Whether the frame on the left, if there is one, has its like on the right. -/
def leftMark? : Pairing → Option Bool
  | limit _ => none
  | frames .. => some true
  | onlyLeft .. => some false
  | onlyRight .. => none

/-- Whether the frame on the right, if there is one, has its like on the left. -/
def rightMark? : Pairing → Option Bool
  | limit _ => none
  | frames .. => some true
  | onlyLeft .. => none
  | onlyRight .. => some false

end Pairing

/-- The outcomes of the frames that are marked so. -/
def outcomesMarked (mark : Bool) (marks : List Bool) (outcomes : List Outcome) : List Outcome :=
  ((marks.zip outcomes).filter fun each => each.1 == mark).map Prod.snd

theorem outcomesMarked_cons (mark : Bool) (first : Bool) (marks : List Bool) (outcome : Outcome)
    (outcomes : List Outcome) :
    outcomesMarked mark (first :: marks) (outcome :: outcomes) =
      if first = mark then outcome :: outcomesMarked mark marks outcomes
      else outcomesMarked mark marks outcomes := by
  cases mark <;> cases first <;> rfl

/-- The outcomes are the shared ones once those of unmarked frames are removed,
and every unmarked frame succeeds. -/
structure Extends (shared : List Outcome) (marks : List Bool) (outcomes : List Outcome) :
    Prop where
  /-- Every outcome has its mark. -/
  length : outcomes.length = marks.length
  marked : outcomesMarked true marks outcomes = shared
  unmarked : ∀ outcome ∈ outcomesMarked false marks outcomes, outcome = .ok

namespace Extends

variable {shared outcomes : List Outcome} {marks : List Bool}

theorem nil : Extends [] [] [] :=
  ⟨rfl, rfl, fun _ impossible => absurd impossible List.not_mem_nil⟩

theorem cons_marked (before : Extends shared marks outcomes) (outcome : Outcome) :
    Extends (outcome :: shared) (true :: marks) (outcome :: outcomes) := by
  refine ⟨congrArg (· + 1) before.length, ?_, ?_⟩
  · rw [outcomesMarked_cons, if_pos rfl, before.marked]
  · rw [outcomesMarked_cons, if_neg (Ne.symm Bool.false_ne_true)]
    exact before.unmarked

theorem cons_unmarked (before : Extends shared marks outcomes) :
    Extends shared (false :: marks) (.ok :: outcomes) := by
  refine ⟨congrArg (· + 1) before.length, ?_, ?_⟩
  · rw [outcomesMarked_cons, if_neg Bool.false_ne_true, before.marked]
  · rw [outcomesMarked_cons, if_pos rfl]
    intro outcome member
    rcases List.mem_cons.mp member with here | later
    · exact here
    · exact before.unmarked outcome later

end Extends

/-- Runs over two sequences laid side by side are the same to their handler and
in what they leave, and their outcomes differ by those of idle frames. -/
structure Agree (pairings : List Pairing) (left right : Run σ) : Prop where
  session : left.session = right.session
  sink : left.sink = right.sink
  deliveries : left.journal.deliveries = right.journal.deliveries
  outcomes : ∃ shared,
    Extends shared (pairings.filterMap Pairing.leftMark?) left.outcomes ∧
      Extends shared (pairings.filterMap Pairing.rightMark?) right.outcomes

/-- The first pairing moves both runs alike, or one of them not at all. -/
theorem agree_run (session : Session) (sink : Sink σ) (pairings : List Pairing) :
    Agree pairings (run session sink (pairings.filterMap Pairing.left?))
      (run session sink (pairings.filterMap Pairing.right?)) := by
  induction pairings generalizing session sink with
  | nil => exact ⟨rfl, rfl, rfl, [], .nil, .nil⟩
  | cons pairing rest ih =>
      let lefts := rest.filterMap Pairing.left?
      let rights := rest.filterMap Pairing.right?
      cases pairing with
      | limit raw =>
          have further := ih (session.setLimit raw) sink
          exact ⟨further.session, further.sink, further.deliveries, further.outcomes⟩
      | frames left right alike =>
          let worked := sink.process session right
          have further := ih worked.session worked.sink
          have first := run_accept_cons session sink left lefts
          have second := run_accept_cons session sink right rights
          rw [process_congr alike] at first
          rcases first with ⟨session₁, sink₁, outcomes₁, made₁⟩
          rcases second with ⟨session₂, sink₂, outcomes₂, made₂⟩
          rcases further.outcomes with ⟨shared, onLeft, onRight⟩
          refine ⟨session₁.trans (further.session.trans session₂.symm),
            sink₁.trans (further.sink.trans sink₂.symm), ?_, worked.outcome :: shared, ?_, ?_⟩
          · show (run session sink (.accept left :: lefts)).journal.deliveries =
              (run session sink (.accept right :: rights)).journal.deliveries
            rw [made₁, made₂, further.deliveries]
          · exact outcomes₁ ▸ onLeft.cons_marked worked.outcome
          · exact outcomes₂ ▸ onRight.cons_marked worked.outcome
      | onlyLeft frame idle =>
          have further := ih session sink
          rcases further.outcomes with ⟨shared, onLeft, onRight⟩
          rcases run_idle_cons idle session sink lefts with
            ⟨session₁, sink₁, outcomes₁, made₁⟩
          exact ⟨session₁.trans further.session, sink₁.trans further.sink,
            made₁.trans further.deliveries, shared, outcomes₁ ▸ onLeft.cons_unmarked, onRight⟩
      | onlyRight frame idle =>
          have further := ih session sink
          rcases further.outcomes with ⟨shared, onLeft, onRight⟩
          rcases run_idle_cons idle session sink rights with
            ⟨session₂, sink₂, outcomes₂, made₂⟩
          exact ⟨further.session.trans session₂.symm, further.sink.trans sink₂.symm,
            further.deliveries.trans made₂.symm, shared, onLeft,
            outcomes₂ ▸ onRight.cons_unmarked⟩

/-! ## Edits -/

/-- A change that assembly does not notice. -/
inductive Edit : List Step → List Step → Prop where
  | recode (before after : List Step) (frame : Frame) (opcode : Opcode) :
      Edit (before ++ .accept frame :: after) (before ++ .accept { frame with opcode } :: after)
  /-- An absent payload becomes an empty one. -/
  | fill (before after : List Step) (opcode : Opcode) (isFinal : Bool) :
      Edit (before ++ .accept ⟨opcode, none, isFinal⟩ :: after)
        (before ++ .accept ⟨opcode, some ByteArray.empty, isFinal⟩ :: after)
  | insert (before after : List Step) (frame : Frame) (idle : frame.isIdle = true) :
      Edit (before ++ after) (before ++ .accept frame :: after)

/-- Sequences that edits, made and undone, lead to from each other. -/
abbrev Edited : List Step → List Step → Prop :=
  Relation.EqvGen Edit

theorem Edit.cons {left right : List Step} (edit : Edit left right) (first : Step) :
    Edit (first :: left) (first :: right) := by
  cases edit with
  | recode before after frame opcode => exact .recode (first :: before) after frame opcode
  | fill before after opcode isFinal => exact .fill (first :: before) after opcode isFinal
  | insert before after frame idle => exact .insert (first :: before) after frame idle

theorem Edited.cons {left right : List Step} (edited : Edited left right) (first : Step) :
    Edited (first :: left) (first :: right) := by
  induction edited with
  | rel left right edit => exact .rel _ _ (edit.cons first)
  | refl steps => exact .refl _
  | symm left right _ ih => exact .symm _ _ ih
  | trans left middle right _ _ ih further => exact .trans _ _ _ ih further

theorem edited_plain (frame : Frame) (rest : List Step) :
    Edited (.accept frame :: rest) (.accept frame.plain :: rest) := by
  rcases frame with ⟨opcode, payload, isFinal⟩
  have recoded : Edited (.accept ⟨opcode, payload, isFinal⟩ :: rest)
      (.accept ⟨.binary, payload, isFinal⟩ :: rest) :=
    .rel _ _ (.recode [] rest ⟨opcode, payload, isFinal⟩ .binary)
  cases payload with
  | some bytes => exact recoded
  | none => exact .trans _ _ _ recoded (.rel _ _ (.fill [] rest .binary isFinal))

theorem edited_of_alike {left right : Frame} (alike : left.Alike right) (rest : List Step) :
    Edited (.accept left :: rest) (.accept right :: rest) := by
  have there := edited_plain left rest
  rw [Frame.plain_eq_iff.mpr alike] at there
  exact .trans _ _ _ there (.symm _ _ (edited_plain right rest))

theorem edited_of_pairings (pairings : List Pairing) :
    Edited (pairings.filterMap Pairing.left?) (pairings.filterMap Pairing.right?) := by
  induction pairings with
  | nil => exact .refl _
  | cons pairing rest ih =>
      cases pairing with
      | limit raw => exact ih.cons (.setLimit raw)
      | frames left right alike =>
          exact .trans _ _ _ (ih.cons (.accept left)) (edited_of_alike alike _)
      | onlyLeft frame idle =>
          exact .trans _ _ _ (.symm _ _ (.rel _ _ (.insert [] _ frame idle))) ih
      | onlyRight frame idle =>
          exact .trans _ _ _ ih (.rel _ _ (.insert [] _ frame idle))

/-! ## What edits leave as it is -/

/-- What assembly reads of a step: nothing of an idle frame. -/
def Step.essence? : Step → Option Step
  | .accept frame => if frame.isIdle then none else some (.accept frame.plain)
  | .setLimit raw => some (.setLimit raw)

def essence (steps : List Step) : List Step :=
  steps.filterMap Step.essence?

theorem essence?_congr {left right : Frame} (alike : left.Alike right) :
    Step.essence? (.accept left) = Step.essence? (.accept right) := by
  rw [Step.essence?, Step.essence?, alike.isIdle, Frame.plain_eq_iff.mpr alike]

theorem essence?_of_idle {frame : Frame} (idle : frame.isIdle = true) :
    Step.essence? (.accept frame) = none :=
  if_pos idle

theorem essence?_eq_none_iff {step : Step} :
    step.essence? = none ↔ ∃ frame : Frame, frame.isIdle = true ∧ step = .accept frame := by
  cases step with
  | setLimit raw =>
      constructor
      · intro impossible
        cases impossible
      · rintro ⟨frame, _, impossible⟩
        cases impossible
  | accept frame =>
      rw [Step.essence?]
      cases idle : frame.isIdle with
      | true => exact ⟨fun _ => ⟨frame, idle, rfl⟩, fun _ => rfl⟩
      | false =>
          constructor
          · intro impossible
            cases impossible
          · rintro ⟨other, also, same⟩
            rw [← Step.accept.inj same, idle] at also
            cases also

theorem eq_plain_of_essence? {frame : Frame} {read : Step}
    (something : Step.essence? (.accept frame) = some read) : read = .accept frame.plain := by
  rw [Step.essence?] at something
  split at something
  · cases something
  · exact (Option.some.inj something).symm

/-- Steps of which assembly reads the same, and reads something, stand side by
side. -/
theorem exists_pairing_of_essence? {left right read : Step}
    (onLeft : left.essence? = some read) (onRight : right.essence? = some read) :
    ∃ pairing : Pairing, pairing.left? = some left ∧ pairing.right? = some right := by
  cases left with
  | setLimit raw =>
      rw [← Option.some.inj onLeft] at onRight
      cases right with
      | setLimit other =>
          rw [Step.setLimit.inj (Option.some.inj onRight)]
          exact ⟨.limit raw, rfl, rfl⟩
      | accept frame => cases eq_plain_of_essence? onRight
  | accept frame =>
      rw [eq_plain_of_essence? onLeft] at onRight
      cases right with
      | setLimit raw => cases onRight
      | accept other =>
          have same : frame.plain = other.plain :=
            Step.accept.inj (eq_plain_of_essence? onRight)
          exact ⟨.frames frame other (Frame.plain_eq_iff.mp same), rfl, rfl⟩

theorem essence_eq_of_edit {left right : List Step} (edit : Edit left right) :
    essence left = essence right := by
  cases edit with
  | recode before after frame opcode =>
      have alike : frame.Alike { frame with opcode } := ⟨rfl, rfl⟩
      rw [essence, essence, List.filterMap_append, List.filterMap_append, List.filterMap_cons,
        List.filterMap_cons, essence?_congr alike]
  | fill before after opcode isFinal =>
      have alike : Frame.Alike ⟨opcode, none, isFinal⟩ ⟨opcode, some ByteArray.empty, isFinal⟩ :=
        ⟨rfl, rfl⟩
      rw [essence, essence, List.filterMap_append, List.filterMap_append, List.filterMap_cons,
        List.filterMap_cons, essence?_congr alike]
  | insert before after frame idle =>
      rw [essence, essence, List.filterMap_append, List.filterMap_append, List.filterMap_cons,
        essence?_of_idle idle]

theorem essence_eq_of_edited {left right : List Step} (edited : Edited left right) :
    essence left = essence right := by
  induction edited with
  | rel left right edit => exact essence_eq_of_edit edit
  | refl steps => rfl
  | symm left right _ ih => exact ih.symm
  | trans left middle right _ _ ih further => exact ih.trans further

/-- Idle frames may be put anywhere on the right. -/
theorem exists_pairings_of_idle {steps : List Step}
    (idle : ∀ step ∈ steps, step.essence? = none) :
    ∃ pairings : List Pairing, pairings.filterMap Pairing.left? = [] ∧
      pairings.filterMap Pairing.right? = steps := by
  induction steps with
  | nil => exact ⟨[], rfl, rfl⟩
  | cons step rest ih =>
      rcases ih fun other member => idle other (List.mem_cons_of_mem step member) with
        ⟨pairings, lefts, rights⟩
      rcases essence?_eq_none_iff.mp (idle step List.mem_cons_self) with
        ⟨frame, here, rfl⟩
      exact ⟨.onlyRight frame here :: pairings, lefts, congrArg (_ :: ·) rights⟩

/-- Sequences of which assembly reads the same can be laid side by side. -/
theorem exists_pairings_of_essence {left right : List Step}
    (same : essence left = essence right) :
    ∃ pairings : List Pairing, pairings.filterMap Pairing.left? = left ∧
      pairings.filterMap Pairing.right? = right := by
  induction left generalizing right with
  | nil => exact exists_pairings_of_idle (List.filterMap_eq_nil_iff.mp same.symm)
  | cons step rest ih =>
      cases here : step.essence? with
      | none =>
          rcases essence?_eq_none_iff.mp here with ⟨frame, idle, rfl⟩
          rw [essence, List.filterMap_cons_none here] at same
          rcases ih same with ⟨pairings, lefts, rights⟩
          exact ⟨.onlyLeft frame idle :: pairings, congrArg (_ :: ·) lefts, rights⟩
      | some read =>
          rw [essence, List.filterMap_cons_some here] at same
          -- the step has its like on the right behind some idle frames
          rcases List.filterMap_eq_cons_iff.mp same.symm with
            ⟨before, like, after, rfl, idle, there, further⟩
          rcases exists_pairings_of_idle idle with ⟨skipped, none_left, all_right⟩
          rcases exists_pairing_of_essence? here there with ⟨pairing, onLeft, onRight⟩
          rcases ih further.symm with ⟨pairings, lefts, rights⟩
          refine ⟨skipped ++ pairing :: pairings, ?_, ?_⟩
          · rw [List.filterMap_append, none_left, List.filterMap_cons_some onLeft, lefts]
            rfl
          · rw [List.filterMap_append, all_right, List.filterMap_cons_some onRight, rights]

/-- Edits lead from one sequence to another exactly when they can be laid side by
side. -/
theorem edited_iff (left right : List Step) :
    Edited left right ↔ ∃ pairings : List Pairing,
      pairings.filterMap Pairing.left? = left ∧ pairings.filterMap Pairing.right? = right := by
  constructor
  · intro edited
    exact exists_pairings_of_essence (essence_eq_of_edited edited)
  · rintro ⟨pairings, rfl, rfl⟩
    exact edited_of_pairings pairings

/-- Step sequences that lead to each other by changing opcodes, by exchanging
absent and empty payloads, and by inserting or deleting idle frames are just
those that can be laid side by side.  Whatever sink is run over both, whatever
has happened to it before, and however they are laid: the runs make the same
handler calls in the same order and end in the same session, with the same handler
and accumulator; they have the same outcomes once those of the frames on one
side alone are removed, and these frames succeed. -/
theorem run_reads_payloads_and_final_marks (session : Session) (sink : Sink σ) :
    (∀ left right : List Step, Relation.EqvGen Edit left right ↔
      ∃ pairings : List Pairing, pairings.filterMap Pairing.left? = left ∧
        pairings.filterMap Pairing.right? = right) ∧
      ∀ pairings : List Pairing,
        let left := run session sink (pairings.filterMap Pairing.left?)
        let right := run session sink (pairings.filterMap Pairing.right?)
        let leftMarks := pairings.filterMap Pairing.leftMark?
        let rightMarks := pairings.filterMap Pairing.rightMark?
        left.journal.deliveries = right.journal.deliveries ∧
          left.sink.accumulator = right.sink.accumulator ∧
          left.sink.handler = right.sink.handler ∧ left.session = right.session ∧
          left.outcomes.length = leftMarks.length ∧ right.outcomes.length = rightMarks.length ∧
          outcomesMarked true leftMarks left.outcomes =
            outcomesMarked true rightMarks right.outcomes ∧
          (∀ outcome ∈ outcomesMarked false leftMarks left.outcomes, outcome = .ok) ∧
          ∀ outcome ∈ outcomesMarked false rightMarks right.outcomes, outcome = .ok := by
  refine ⟨edited_iff, ?_⟩
  intro pairings left right leftMarks rightMarks
  have agree := agree_run session sink pairings
  rcases agree.outcomes with ⟨shared, onLeft, onRight⟩
  exact ⟨agree.deliveries, congrArg Sink.accumulator agree.sink,
    congrArg Sink.handler agree.sink, agree.session, onLeft.length, onRight.length,
    onLeft.marked.trans onRight.marked.symm, onLeft.unmarked, onRight.unmarked⟩

end Sink
end Reassembly
