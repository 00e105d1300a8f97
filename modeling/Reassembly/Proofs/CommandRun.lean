import Reassembly.Proofs.FailureReport
import Reassembly.Proofs.RoundTrip

namespace Reassembly
namespace CommandLine

open Diagnostics

/-!
# What a run answers

A run announces the size of the input on the standard output, or nothing.  It
announces it exactly if the offset is one, the input can be read and the limit
admits it, and the exit code says the same (`run_announces`).  How the input is
cut into frames and how diagnostics look does not matter.

What was read of a file is held in memory, where nothing reaches half of what a
64-bit count can hold, so no place in it is miscounted.
-/

variable {options : Options} {data : ByteArray}

/-! ## The settings of a run -/

theorem Options.toNat_step (options : Options) :
    options.step.toNat = max options.frameSize.toNat 1 := by
  have one : (1 : UInt64).toNat = 1 := rfl
  rw [step, UInt64.toNat_max, one]

theorem Options.step_pos (options : Options) : 0 < options.step.toNat := by
  rw [toNat_step]
  exact Nat.lt_of_lt_of_le Nat.zero_lt_one (Nat.le_max_right _ _)

/-- An offset of less than a day makes settings. -/
theorem Options.config?_of_within (within : options.utcOffset.natAbs < 86400) :
    ∃ config : Config, options.config? = some config ∧
      config.offset.seconds = options.utcOffset ∧
      config.escapeMessages = !options.noEscape ∧ config.hideStacks = false := by
  have offsetWithin : -86400 < options.utcOffset ∧ options.utcOffset < 86400 := by omega
  let config : Config :=
    { (default : Config) with
      escapeMessages := !options.noEscape
      formatMode := if options.legacyFormat then .legacy else .strict
      offset := ⟨options.utcOffset, offsetWithin⟩ }
  refine ⟨config, ?_, rfl, rfl, rfl⟩
  rw [config?, UtcOffset.ofSeconds?, dif_pos offsetWithin]
  rfl

theorem Options.config?_of_beyond (beyond : ¬ options.utcOffset.natAbs < 86400) :
    options.config? = none := by
  have offsetBeyond : ¬ (-86400 < options.utcOffset ∧ options.utcOffset < 86400) := by omega
  rw [config?, UtcOffset.ofSeconds?, dif_neg offsetBeyond]
  rfl

/-! ## A file that was read -/

/-- What pumping a file comes to. -/
def pumped (options : Options) (data : ByteArray) : Pump.Run (Sink String) :=
  Pump.run .abort ⟨options.maxMessageSize⟩ (Sink.new announcing)
    ((Fragment.ofPayload data options.step.toNat options.step_pos).map .frame)

theorem run_cut (small : data.size < 2 ^ 63) (options : Options) :
    Pump.run .abort ⟨options.maxMessageSize⟩ (Sink.new announcing)
      ((Cutter.cut data options.step).map .frame) = pumped options data := by
  rw [Cutter.cut_eq_ofPayload small options.step_pos, pumped]

theorem assemble_of_ok (small : data.size < 2 ^ 63) {stats : Pump.Stats}
    (result : (pumped options data).result = .ok stats) (logger : Logger Unit)
    (now : Timestamp) :
    (assemble options logger data now).exit = 0 ∧
      (assemble options logger data now).stdout = (pumped options data).sink.handler.state := by
  simp only [assemble, run_cut small, result, and_self]

theorem assemble_of_error (small : data.size < 2 ^ 63) {error : SinkError}
    (result : (pumped options data).result = .error error) (logger : Logger Unit)
    (now : Timestamp) :
    assemble options logger data now =
      ⟨1, (pumped options data).sink.handler.state,
        reportOn
          (logger.logAll now (some "main") (pumped options data).journal.records.toList)
          (failureReport now "assembly of \x7b\x7d failed" options.input error.chain)⟩ := by
  simp only [assemble, run_cut small, result]

/-- A file that the limit admits is announced with its size. -/
theorem assemble_of_admits (small : data.size < 2 ^ 63)
    (admits : Sink.Admits options.maxMessageSize data.size) (logger : Logger Unit)
    (now : Timestamp) :
    (assemble options logger data now).exit = 0 ∧
      (assemble options logger data now).stdout =
        "assembled message: " ++ toString data.size ++ " bytes\n" := by
  have delivers : (pumped options data).Delivers announcing data
      (max 1 (data.size ⌈/⌉ options.step.toNat)) :=
    Pump.run_ofPayload_delivers options.step_pos admits rfl
  have written : (pumped options data).sink.handler.state =
      "" ++ "assembled message: " ++ toString data.size ++ " bytes\n" := by
    rw [delivers.sink]
    rfl
  rw [String.empty_append] at written
  rw [← written]
  exact assemble_of_ok small delivers.result logger now

/-- A file that the limit does not admit is reported, with the bytes counted when
the limit was passed and the limit itself. -/
theorem assemble_of_beyond {config : Config} {logger : Logger Unit} (small : data.size < 2 ^ 63)
    (beyond : ¬ Sink.Admits options.maxMessageSize data.size)
    (reliable : logger.IsReliable config) (displayed : config.hideStacks = false)
    (now : Timestamp) :
    (assemble options logger data now).exit = 1 ∧
      (assemble options logger data now).stdout = "" ∧
      ∃ earlier actual bound,
        Sink.Reports options.maxMessageSize
          (min ((options.maxMessageSize.toInt.toNat / options.step.toNat + 1) *
            options.step.toNat) data.size) actual bound ∧
        (assemble options logger data now).stderr = earlier ++
          (String.ofList (refusalText now config.offset config.escapeMessages options.input
            actual bound)).toUTF8 ++ "\n".toUTF8 := by
  rcases Pump.run_ofPayload_refuses ⟨options.maxMessageSize⟩ announcing options.step_pos beyond
    with ⟨inside, actual, bound, reports, refuses⟩
  have silent : (pumped options data).sink.handler.state = "" :=
    congrArg (·.handler.state) refuses.sink
  have logged := reliable.logAll now (some "main") (pumped options data).journal.records.toList
  rcases reportOn_eq_append logged (failureReport now "assembly of \x7b\x7d failed" options.input
    (SinkError.tooLarge actual bound).chain) with ⟨earlier, reported⟩
  rw [Record.render, text_failureReport displayed] at reported
  rw [assemble_of_error small refuses.result]
  exact ⟨rfl, silent, earlier, actual, bound, reports, reported⟩

/-! ## What is announced -/

/-- The size that a run announces, if it announces one. -/
def announced? (options : Options) (content : Except ErrorChain ByteArray) : Option Nat :=
  match content with
  | .error _ => none
  | .ok data =>
      if options.utcOffset.natAbs < 86400 ∧ Sink.Admits options.maxMessageSize data.size then
        some data.size
      else none

theorem announced?_eq_some_iff {content : Except ErrorChain ByteArray} {size : Nat} :
    announced? options content = some size ↔
      options.utcOffset.natAbs < 86400 ∧
        ∃ data, content = .ok data ∧ Sink.Admits options.maxMessageSize data.size ∧
          data.size = size := by
  cases content with
  | error error =>
      constructor
      · intro impossible
        cases impossible
      · rintro ⟨_, data, impossible, _⟩
        cases impossible
  | ok data =>
      rw [announced?, Option.ite_none_right_eq_some]
      constructor
      · rintro ⟨⟨within, admits⟩, same⟩
        exact ⟨within, data, rfl, admits, Option.some.inj same⟩
      · rintro ⟨within, read, same, admits, size⟩
        cases same
        exact ⟨⟨within, admits⟩, congrArg some size⟩

/-- Only the offset and the limit are looked at, and of the offset only whether
it is one. -/
theorem announced?_congr {other : Options}
    (sameLimit : other.maxMessageSize = options.maxMessageSize)
    (sameRange : other.utcOffset.natAbs < 86400 ↔ options.utcOffset.natAbs < 86400)
    (content : Except ErrorChain ByteArray) :
    announced? other content = announced? options content := by
  cases content with
  | error error => rfl
  | ok data => simp only [announced?, sameLimit, sameRange]

/-- The exit code and the standard output of a run that announced this size, or
nothing. -/
def Answer.Announces (answer : Answer) : Option Nat → Prop
  | some size =>
      answer.exit = 0 ∧ answer.stdout = "assembled message: " ++ toString size ++ " bytes\n"
  | none => answer.exit = 1 ∧ answer.stdout = ""

namespace Answer.Announces

variable {answer other : Answer} {size? : Option Nat}

theorem exit_eq_zero_iff (announces : answer.Announces size?) :
    answer.exit = 0 ↔ ∃ size, size? = some size := by
  cases size? with
  | none =>
      rw [announces.1]
      constructor
      · intro impossible
        cases impossible
      · rintro ⟨size, impossible⟩
        cases impossible
  | some size => exact ⟨fun _ => ⟨size, rfl⟩, fun _ => announces.1⟩

theorem of_exit_ne_zero (announces : answer.Announces size?) (failed : answer.exit ≠ 0) :
    answer.exit = 1 ∧ answer.stdout = "" := by
  cases size? with
  | none => exact announces
  | some size => exact absurd announces.1 failed

theorem same (announces : answer.Announces size?) (also : other.Announces size?) :
    answer.exit = other.exit ∧ answer.stdout = other.stdout := by
  cases size? with
  | none => exact ⟨announces.1.trans also.1.symm, announces.2.trans also.2.symm⟩
  | some size => exact ⟨announces.1.trans also.1.symm, announces.2.trans also.2.symm⟩

end Answer.Announces

/-- A run without settings, without a file or with a file that is too large
announces nothing and fails; any other announces the size of the file. -/
theorem run_announces {content : Except ErrorChain ByteArray}
    (small : ∀ data, content = .ok data → data.size < 2 ^ 63) (options : Options)
    (now : Timestamp) :
    (run options content now).Announces (announced? options content) := by
  by_cases within : options.utcOffset.natAbs < 86400
  · rcases options.config?_of_within within with ⟨config, settings, _, _, displayed⟩
    rw [run, settings]
    cases content with
    | error error => exact ⟨rfl, rfl⟩
    | ok data =>
        by_cases admits : Sink.Admits options.maxMessageSize data.size
        · have announced : announced? options (.ok data) = some data.size :=
            announced?_eq_some_iff.mpr ⟨within, data, rfl, admits, rfl⟩
          rw [announced]
          exact assemble_of_admits (small data rfl) admits _ now
        · have silent : announced? options (.ok data) = none :=
            if_neg fun both => admits both.2
          have reliable : Logger.IsReliable config ⟨.new config .reliable, options.filter⟩ :=
            ⟨_, rfl⟩
          have refused := assemble_of_beyond (small data rfl) admits reliable displayed now
          rw [silent]
          exact ⟨refused.1, refused.2.1⟩
  · have silent : announced? options content = none := by
      cases content with
      | error error => rfl
      | ok data => exact if_neg fun both => within both.1
    rw [silent, run, Options.config?_of_beyond within]
    exact ⟨rfl, rfl⟩

/-- A run that passes the limit reports it, whatever was logged before. -/
theorem run_reports (small : data.size < 2 ^ 63) (within : options.utcOffset.natAbs < 86400)
    (beyond : ¬ Sink.Admits options.maxMessageSize data.size) (now : Timestamp) :
    ∃ (offset : UtcOffset) (earlier : ByteArray) (actual : UInt64) (bound : Bound),
      offset.seconds = options.utcOffset ∧
      (bound.bytes.toNat : Int) = options.maxMessageSize.toInt ∧
      actual.toNat =
        min ((options.maxMessageSize.toInt.toNat / options.step.toNat + 1) *
          options.step.toNat) data.size ∧
      (run options (.ok data) now).stderr = earlier ++
        (String.ofList (refusalText now offset (!options.noEscape) options.input
          actual bound)).toUTF8 ++ "\n".toUTF8 := by
  rcases options.config?_of_within within with ⟨config, settings, offset, escapes, displayed⟩
  have reliable : Logger.IsReliable config ⟨.new config .reliable, options.filter⟩ := ⟨_, rfl⟩
  rcases assemble_of_beyond small beyond reliable displayed now with
    ⟨_, _, earlier, actual, bound, reports, stderr⟩
  have fits : min ((options.maxMessageSize.toInt.toNat / options.step.toNat + 1) *
      options.step.toNat) data.size ≤ Accumulator.maxSize := by
    unfold Accumulator.maxSize
    omega
  rw [← escapes, run, settings]
  exact ⟨config.offset, earlier, actual, bound, offset, reports.2, reports.toNat_eq fits, stderr⟩

/-! ## The command line -/

section Respond

variable {arguments : List String} {fetch : String → Except ErrorChain ByteArray}

theorem respond_of_request (asked : Request.ofArguments arguments = .ok (.run options))
    (now : Timestamp) :
    respond arguments fetch now = run options (fetch options.input) now := by
  rw [respond, asked]

theorem respond_announces (asked : Request.ofArguments arguments = .ok (.run options))
    (small : ∀ data, fetch options.input = .ok data → data.size < 2 ^ 63) (now : Timestamp) :
    (respond arguments fetch now).Announces (announced? options (fetch options.input)) := by
  rw [respond_of_request asked]
  exact run_announces small options now

end Respond

/-- A run succeeds exactly if its offset is one, its input can be read and the
limit admits it.  Then it announces the size of the input; otherwise it writes
nothing on the standard output.  No other option has a say in this, nor has the
time.  When the limit is passed the standard error ends with the report, which
names the input as it is given, or with control characters replaced. -/
theorem answer_of_run {arguments : List String} {fetch : String → Except ErrorChain ByteArray}
    {options : Options} (asked : Request.ofArguments arguments = .ok (.run options))
    (small : ∀ data, fetch options.input = .ok data → data.size < 2 ^ 63) (now : Timestamp) :
    let answer := respond arguments fetch now
    (answer.exit = 0 ↔
      options.utcOffset.natAbs < 86400 ∧ ∃ data, fetch options.input = .ok data ∧
        (options.maxMessageSize.toInt ≤ 0 ∨ data.size ≤ options.maxMessageSize.toInt)) ∧
    (∀ data, fetch options.input = .ok data → answer.exit = 0 →
      answer.stdout = "assembled message: " ++ toString data.size ++ " bytes\n") ∧
    (answer.exit ≠ 0 → answer.exit = 1 ∧ answer.stdout = "") ∧
    (∀ others otherOptions later, Request.ofArguments others = .ok (.run otherOptions) →
      otherOptions.input = options.input →
      otherOptions.maxMessageSize = options.maxMessageSize →
      (otherOptions.utcOffset.natAbs < 86400 ↔ options.utcOffset.natAbs < 86400) →
      (respond others fetch later).exit = answer.exit ∧
        (respond others fetch later).stdout = answer.stdout) ∧
    ∀ data, options.utcOffset.natAbs < 86400 → fetch options.input = .ok data →
      0 < options.maxMessageSize.toInt → options.maxMessageSize.toInt < data.size →
      ∃ (offset : UtcOffset) (earlier : ByteArray) (actual : UInt64) (bound : Bound),
        let step := max options.frameSize.toNat 1
        offset.seconds = options.utcOffset ∧
        (bound.bytes.toNat : Int) = options.maxMessageSize.toInt ∧
        actual.toNat =
          min ((options.maxMessageSize.toInt.toNat / step + 1) * step) data.size ∧
        answer.stderr = earlier ++
          (String.ofList (now.render offset ++ ":ERROR:framesink:main: ".toList ++
            escapeIf (!options.noEscape)
              ("assembly of ".toList ++ options.input.toList ++ " failed".toList) ++
            '\n' :: (SinkError.tooLarge actual bound).wording)).toUTF8 ++ "\n".toUTF8 := by
  intro answer
  have announces : answer.Announces (announced? options (fetch options.input)) :=
    respond_announces asked small now
  refine ⟨?_, ?_, announces.of_exit_ne_zero, ?_, ?_⟩
  · rw [announces.exit_eq_zero_iff]
    constructor
    · rintro ⟨size, announced⟩
      rcases announced?_eq_some_iff.mp announced with ⟨within, data, read, admits, _⟩
      exact ⟨within, data, read, admits⟩
    · rintro ⟨within, data, read, admits⟩
      exact ⟨data.size, announced?_eq_some_iff.mpr ⟨within, data, read, admits, rfl⟩⟩
  · intro data read succeeded
    rcases announces.exit_eq_zero_iff.mp succeeded with ⟨size, announced⟩
    rcases announced?_eq_some_iff.mp announced with ⟨_, same, readToo, _, rfl⟩
    rw [read] at readToo
    cases readToo
    rw [announced] at announces
    exact announces.2
  · intro others otherOptions later askedToo sameInput sameLimit sameRange
    rw [← sameInput] at small
    have also := respond_announces askedToo small later
    rw [announced?_congr sameLimit sameRange, sameInput] at also
    exact also.same announces
  · intro data within read positive beyond
    have notAdmitted : ¬ Sink.Admits options.maxMessageSize data.size := by
      unfold Sink.Admits
      omega
    have reported := run_reports (small data read) within notAdmitted now
    rw [← read, ← respond_of_request asked, options.toNat_step] at reported
    exact reported

/-- Five bytes under a limit of three, in frames of no size.  The name of the
file has braces and a line feed, and is written as it is. -/
theorem five_bytes_are_reported_by_name :
    let arguments := ["-vf0", "--no-escape", "-m", "3", "--utc-offset=-60", "--", "\x7b\x7d\n"]
    let fetch : String → Except ErrorChain ByteArray := fun _ => .ok ⟨#[1, 2, 3, 4, 5]⟩
    let options : Options := ⟨"\x7b\x7d\n", 0, 3, false, true, -60, 1⟩
    Request.ofArguments arguments = .ok (.run options) ∧
      (∀ data, fetch options.input = .ok data → data.size < 2 ^ 63) ∧
      let answer := respond arguments fetch .epoch
      answer.exit = 1 ∧ answer.stdout = "" ∧
        ∃ (offset : UtcOffset) (earlier : ByteArray) (actual : UInt64) (bound : Bound),
          actual.toNat = 4 ∧ (bound.bytes.toNat : Int) = 3 ∧
            answer.stderr = earlier ++
              (String.ofList (Timestamp.epoch.render offset ++ ":ERROR:framesink:main: ".toList ++
                "assembly of \x7b\x7d\n failed".toList ++
                '\n' :: (SinkError.tooLarge actual bound).wording)).toUTF8 ++ "\n".toUTF8 := by
  intro arguments fetch options
  have asked : Request.ofArguments arguments = .ok (.run options) := rfl
  have small : ∀ data, fetch options.input = .ok data → data.size < 2 ^ 63 := by
    intro data read
    cases read
    decide
  rcases answer_of_run asked small .epoch with ⟨succeeds, _, fails, _, reported⟩
  have failed : (respond arguments fetch .epoch).exit ≠ 0 := by
    intro succeeded
    rcases succeeds.mp succeeded with ⟨_, data, read, admits⟩
    cases read
    revert admits
    decide
  rcases reported _ (by decide) rfl (by decide) (by decide) with
    ⟨offset, earlier, actual, bound, _, limit, counted, stderr⟩
  have name : escapeIf (!options.noEscape)
      ("assembly of ".toList ++ options.input.toList ++ " failed".toList) =
      "assembly of \x7b\x7d\n failed".toList := by
    decide
  rw [name] at stderr
  exact ⟨asked, small, (fails failed).1, (fails failed).2, offset, earlier, actual, bound,
    counted.trans (by decide), limit.trans (by decide), stderr⟩

end CommandLine
end Reassembly
