import Reassembly.Proofs.PumpSequence

namespace Reassembly
namespace Pump

/-!
# A stream pumped in parts

A pump run begins with counts at zero and a sink as it finds it, so a stream may
be cut anywhere, also within a message, and its parts pumped one after the other.
To the sink this makes no difference.  The pump itself tells the parts apart in
two ways: it counts anew, so the numbers in its warnings start at one again and
the counts of the parts are to be added, and every part that comes to its end
says so in a closing record.

Two runs that stand at the same sink, with different counts, move abreast and stop
at the same place (`Sequence.exists_end_abreast`).  If the first part ends in a
failure, the stream behind it is not looked at, and there is no second part
(`run_append_of_firstFailure`).
-/

/-- The counts of two runs, together. -/
def Stats.add (first second : Stats) : Stats where
  frames := first.frames + second.frames
  messages := first.messages + second.messages
  failures := first.failures + second.failures

instance : Add Stats := ⟨Stats.add⟩

/-- What a run says when its stream has come to its end. -/
def closing : Except SinkError Stats → Journal
  | .ok stats => .record {
      level := .debug
      target := "framesink::pump"
      message := "frame stream exhausted frames=" ++ toString stats.frames ++ " messages=" ++
        toString stats.messages ++ " failures=" ++ toString stats.failures }
  | .error _ => .empty

/-- The effects of accepted frames, each followed by its warning, when so many
frames were counted before them. -/
def shownFrom (counted : Nat) (accepted : List Accepted) : Journal :=
  .joined (accepted.mapIdx fun place each => each.journal ++ each.warning (counted + place + 1))

/-- What a journal holds of others than the pump: the handler calls, the counters
and the records that are not the pump's own. -/
def besides (journal : Journal) : Journal :=
  { journal with records := journal.records.filter fun record => record.target != target }

theorem counts_append (earlier later : List Accepted) :
    counts (earlier ++ later) = counts earlier + counts later := by
  rw [counts, List.length_append, List.countP_append, List.countP_append]
  rfl

theorem shownFrom_cons (counted : Nat) (first : Accepted) (rest : List Accepted) :
    shownFrom counted (first :: rest) =
      first.journal ++ first.warning (counted + 1) ++ shownFrom (counted + 1) rest := by
  rw [shownFrom, List.mapIdx_cons, shownFrom]
  simp only [Nat.add_zero, Nat.add_right_comm counted 1, ← Nat.add_assoc]
  rfl

theorem shownFrom_append (counted : Nat) (earlier later : List Accepted) :
    shownFrom counted (earlier ++ later) =
      shownFrom counted earlier ++ shownFrom (counted + earlier.length) later := by
  rw [shownFrom, List.mapIdx_append, Journal.joined_append, shownFrom, shownFrom]
  simp only [Nat.add_assoc, Nat.add_comm earlier.length]

theorem shown_eq_shownFrom (accepted : List Accepted) : shown accepted = shownFrom 0 accepted := by
  rw [shown, Journal.foldl_append, Journal.empty_append, shownFrom]
  simp only [Nat.zero_add]

/-! ## What is not the pump's own -/

theorem besides_append (earlier later : Journal) :
    besides (earlier ++ later) = besides earlier ++ besides later := by
  have records : (besides (earlier ++ later)).records =
      (besides earlier).records ++ (besides later).records :=
    Array.filter_append Array.size_append
  exact congrArg (Journal.mk _ · _) records

theorem besides_empty : besides .empty = .empty := by
  simp [besides, Journal.empty]

theorem besides_record {record : LogRecord} (own : record.target = target) :
    besides (.record record) = .empty := by
  simp [besides, Journal.empty, Journal.record, own]

theorem besides_warning (accepted : Accepted) (number : Nat) :
    besides (accepted.warning number) = .empty := by
  rw [Accepted.warning]
  cases accepted.outcome with
  | ok => exact besides_empty
  | failed error => exact besides_record rfl

theorem besides_closing (result : Except SinkError Stats) : besides (closing result) = .empty := by
  cases result with
  | ok stats => exact besides_record rfl
  | error error => exact besides_empty

/-- Numbers are of no account to others than the pump. -/
theorem besides_shownFrom (counted : Nat) (accepted : List Accepted) :
    besides (shownFrom counted accepted) = besides (.joined (accepted.map (·.journal))) := by
  induction accepted generalizing counted with
  | nil => rfl
  | cons first rest ih =>
      have whole : Journal.joined ((first :: rest).map (·.journal)) =
          first.journal ++ .joined (rest.map (·.journal)) := rfl
      rw [shownFrom_cons, whole, besides_append, besides_append, besides_append, ih,
        besides_warning, Journal.append_empty]

/-! ## How a run ends -/

variable {α : Type}

/-- The run that ends where the sequence stands, by a failure or by the end of its
stream. -/
def Sequence.ended (sequence : Sequence α) (failure : Option SinkError) (unread : List Item) :
    Run α :=
  let result := failure.elim (.ok (counts sequence.accepted)) .error
  ⟨result, unread, shownFrom 0 sequence.accepted ++ closing result, sequence.session,
    sequence.sink⟩

theorem Sequence.finish_eq_ended (sequence : Sequence α) :
    sequence.progress.finish = sequence.ended none [] := by
  rw [Sequence.progress, shown_eq_shownFrom]
  rfl

theorem Sequence.fail_eq_ended (sequence : Sequence α) (error : SinkError) (unread : List Item) :
    sequence.progress.fail error unread = sequence.ended (some error) unread := by
  rw [Sequence.progress, shown_eq_shownFrom]
  exact congrArg (Run.mk _ _ · _ _) (Journal.append_empty _).symm

/-- What the run over a whole stream is to the runs over its two parts, when the
first part came to its end and these frames were accepted in the parts. -/
structure Continues (earlier later : List Accepted) (first second whole : Run α) : Prop where
  session : whole.session = second.session
  sink : whole.sink = second.sink
  unread : whole.unread = second.unread
  result : whole.result = second.result.map (counts earlier + ·)
  /-- The handler is called as before, the counters add up, and the records of
  others than the pump are the same. -/
  besides : besides whole.journal = besides first.journal ++ besides second.journal
  first_journal : first.journal = shownFrom 0 earlier ++ closing first.result
  second_journal : second.journal = shownFrom 0 later ++ closing second.result
  /-- The whole has no closing record between the parts, and numbers the frames of
  the second part on. -/
  journal : whole.journal =
    shownFrom 0 earlier ++ shownFrom (counts earlier).frames later ++ closing whole.result

/-- The sequence that stands behind some accepted frames ends as the one that
starts there, with the frames before it counted in. -/
theorem Sequence.continues_ended (reached cut : Sequence α) (failure : Option SinkError)
    (unread : List Item) :
    Continues reached.accepted cut.accepted (reached.ended none []) (cut.ended failure unread)
      (Sequence.ended ⟨cut.session, cut.sink, reached.accepted ++ cut.accepted⟩ failure unread)
    where
  session := rfl
  sink := rfl
  unread := rfl
  result := by
    cases failure with
    | some error => rfl
    | none => exact congrArg Except.ok (counts_append reached.accepted cut.accepted)
  besides := by
    rw [Sequence.ended, Sequence.ended, Sequence.ended]
    simp only [shownFrom_append, besides_append, besides_closing, besides_shownFrom,
      Journal.append_empty]
  first_journal := rfl
  second_journal := rfl
  journal := by
    rw [Sequence.ended, shownFrom_append, Nat.zero_add]
    rfl

/-! ## Two runs abreast -/

variable [MessageSink α]

namespace Sequence

/-- Where a sequence goes is decided by its session and its sink. -/
theorem through_eq (sequence : Sequence α) (stream : List Item) :
    let anew := acceptAll sequence.session sequence.sink stream
    sequence.through stream =
      ⟨anew.session, anew.sink, sequence.accepted ++ anew.accepted⟩ := by
  intro anew
  induction stream using List.reverseRecOn with
  | nil =>
      show sequence = ⟨sequence.session, sequence.sink, sequence.accepted ++ []⟩
      rw [List.append_nil]
  | append_singleton stream item ih =>
      let reached := acceptAll sequence.session sequence.sink stream
      have further : anew = reached.next item := acceptAll_append _ _ stream [item]
      rw [through_append, ih, further]
      cases item with
      | pending => rfl
      | setLimit raw => rfl
      | frame frame =>
          show Sequence.mk _ _ (sequence.accepted ++ reached.accepted ++ [_]) = _
          rw [List.append_assoc]
          rfl

/-- The failure that stops a run at an item. -/
def stop? (sequence : Sequence α) : Policy → Item → Option SinkError
  | .abort, .frame frame => (sequence.receipt frame).outcome.error?
  | _, _ => none

theorem drain_cons (policy : Policy) (sequence : Sequence α) (item : Item) (rest : List Item) :
    sequence.progress.drain policy (item :: rest) =
      match sequence.stop? policy item with
      | none => (sequence.next item).progress.drain policy rest
      | some error => (sequence.next item).progress.fail error rest := by
  cases item with
  | pending => cases policy <;> rfl
  | setLimit raw => cases policy <;> rfl
  | frame frame =>
      rw [Progress.drain, feed_progress]
      cases policy with
      | carryOn => rfl
      | abort =>
          rw [stop?]
          cases (sequence.receipt frame).outcome <;> rfl

/-- Sequences that stand at the same sink. -/
def Abreast (first second : Sequence α) : Prop :=
  first.session = second.session ∧ first.sink = second.sink

theorem Abreast.next {first second : Sequence α} (abreast : Abreast first second) (item : Item) :
    Abreast (first.next item) (second.next item) := by
  rcases abreast with ⟨session, sink⟩
  cases item with
  | pending => exact ⟨session, sink⟩
  | setLimit raw => exact ⟨congrArg (·.setLimit raw) session, sink⟩
  | frame frame =>
      rw [Sequence.next, Sequence.next, session, sink]
      exact ⟨rfl, rfl⟩

theorem Abreast.stop? {first second : Sequence α} (abreast : Abreast first second)
    (policy : Policy) (item : Item) : first.stop? policy item = second.stop? policy item := by
  rcases abreast with ⟨session, sink⟩
  have receipts : first.receipt = second.receipt := by
    funext frame
    rw [receipt, receipt, session, sink]
  rw [Sequence.stop?.eq_def, Sequence.stop?.eq_def, receipts]

/-- Runs that stand at the same sink read the same part of the stream and end in
the same way, whatever each has counted before. -/
theorem exists_end_abreast (policy : Policy) {first second : Sequence α}
    (abreast : Abreast first second) (stream : List Item) :
    ∃ (taken unread : List Item) (failure : Option SinkError), taken ++ unread = stream ∧
      first.progress.drain policy stream = (first.through taken).ended failure unread ∧
      second.progress.drain policy stream = (second.through taken).ended failure unread := by
  induction stream generalizing first second with
  | nil => exact ⟨[], [], none, rfl, first.finish_eq_ended, second.finish_eq_ended⟩
  | cons item rest ih =>
      rw [drain_cons, drain_cons, abreast.stop?]
      cases second.stop? policy item with
      | some error =>
          exact ⟨[item], rest, some error, rfl, (first.next item).fail_eq_ended error rest,
            (second.next item).fail_eq_ended error rest⟩
      | none =>
          rcases ih (abreast.next item) with ⟨taken, unread, failure, split, here, there⟩
          exact ⟨item :: taken, unread, failure, congrArg (item :: ·) split, here, there⟩

end Sequence

/-! ## The parts and the whole -/

/-- Where nothing stops the run, it goes on as one that starts there. -/
theorem exists_continues_of_passes {policy : Policy} {session : Session} {sink : α}
    {earlier : List Item} (passes : (acceptAll session sink earlier).Passes policy)
    (later : List Item) :
    let accepted := (acceptAll session sink earlier).accepted
    let first := run policy session sink earlier
    let second := run policy first.session first.sink later
    let whole := run policy session sink (earlier ++ later)
    first.result = .ok (counts accepted) ∧ ∃ taken, taken ++ second.unread = later ∧
      Continues accepted (acceptAll first.session first.sink taken).accepted first second
        whole := by
  intro accepted first second whole
  let reached := acceptAll session sink earlier
  have first_ended : first = reached.ended none [] :=
    (run_of_passes passes).trans reached.finish_eq_ended
  let anew : Sequence α := ⟨first.session, first.sink, []⟩
  have abreast : Sequence.Abreast reached anew := by
    constructor
    · exact (congrArg Run.session first_ended).symm
    · exact (congrArg Run.sink first_ended).symm
  rcases Sequence.exists_end_abreast policy abreast later with
    ⟨taken, unread, failure, split, whole_reached, second_ended⟩
  let cut := anew.through taken
  have second_ended : second = cut.ended failure unread := second_ended
  have whole_ended : whole =
      Sequence.ended ⟨cut.session, cut.sink, accepted ++ cut.accepted⟩ failure unread := by
    rw [← run_append_of_passes passes later, Sequence.through_eq, abreast.1, abreast.2]
      at whole_reached
    exact whole_reached
  refine ⟨congrArg Run.result first_ended, taken, ?_, ?_⟩
  · rw [second_ended]
    exact split
  · have parts := Sequence.continues_ended reached cut failure unread
    rw [← first_ended, ← second_ended, ← whole_ended] at parts
    exact parts

/-- A run comes to its end, or it is one that aborts and there is a failure. -/
theorem passes_or_firstFailure (policy : Policy) (session : Session) (sink : α)
    (stream : List Item) :
    (acceptAll session sink stream).Passes policy ∨
      policy = .abort ∧ Nonempty (FirstFailure session sink stream) := by
  cases policy with
  | carryOn => exact Or.inl (Sequence.passes_carryOn _)
  | abort =>
      rcases FirstFailure.ok_or_nonempty session sink stream with ok | failing
      · exact Or.inl fun _ => ok
      · exact Or.inr ⟨rfl, failing⟩

/-- A stream behind a failure is not looked at. -/
theorem run_append_of_firstFailure {session : Session} {sink : α} {stream : List Item}
    (first : FirstFailure session sink stream) (later : List Item) :
    run .abort session sink (stream ++ later) =
      { run .abort session sink stream with
        unread := (run .abort session sink stream).unread ++ later } := by
  let longer : FirstFailure session sink (stream ++ later) := {
    first with
    rest := first.rest ++ later
    splits := by rw [← List.cons_append, ← List.append_assoc, ← first.splits] }
  rw [longer.run_abort, first.run_abort]
  rfl

/-- A stream pumped in two parts is to the sink what it is pumped whole.  When the
first part does not fail, the counts of the parts add up, and the parts tell
themselves from the whole by the numbers of their warnings and the closing record
of the first.  When it fails, which only a run that aborts does, the whole is that
first part and leaves the second unread. -/
theorem run_of_cut_stream (policy : Policy) (session : Session) (sink : α)
    (earlier later : List Item) :
    let accepted := (acceptAll session sink earlier).accepted
    let first := run policy session sink earlier
    let second := run policy first.session first.sink later
    let whole := run policy session sink (earlier ++ later)
    accepted.map (·.frame) = earlier.filterMap Item.frame? ∧
      match first.result with
      | .ok stats =>
          stats = counts accepted ∧ ∃ taken, taken ++ second.unread = later ∧
            Continues accepted (acceptAll first.session first.sink taken).accepted first second
              whole
      | .error _ => policy = .abort ∧ whole = { first with unread := first.unread ++ later } := by
  intro accepted first second whole
  refine ⟨map_frame_acceptAll session sink earlier, ?_⟩
  rcases passes_or_firstFailure policy session sink earlier with passes | ⟨rfl, ⟨failing⟩⟩
  · rcases exists_continues_of_passes passes later with ⟨counted, parts⟩
    rw [counted]
    exact ⟨rfl, parts⟩
  · have failed : first.result = .error failing.error := congrArg Run.result failing.run_abort
    have cut : whole = { first with unread := first.unread ++ later } :=
      run_append_of_firstFailure failing later
    rw [failed] at cut ⊢
    exact ⟨rfl, cut⟩

end Pump
end Reassembly
