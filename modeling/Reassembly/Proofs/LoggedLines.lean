import Mathlib.Data.List.Forall2
import Reassembly.Diagnostics.Logger
import Reassembly.Proofs.LineStructure
import Reassembly.Proofs.StoredChunks
import Reassembly.Pump

namespace Reassembly

/-!
# The lines of a logger

A logger writes one line for each log record that its filter admits, and nothing
else.  The line is time, level, name, thread and message, each as it came but
for condensed names and replaced control characters: a message is finished text,
in which braces mean nothing.

This is so on every device whose writer never fails, however few bytes it takes
at a time (`Writer.NeverFails`), because there a record that is emitted leaves
its whole line.  With escaping on no line feed comes from a text, so the output
falls apart into the lines again (`Diagnostics.Logger.output_of_arrivals`).
-/

namespace Text

/-! ## Lines that each end in a line feed -/

theorem count_flatMap_ended {lines : List (List Char)} (unbroken : ∀ line ∈ lines, '\n' ∉ line) :
    (lines.flatMap fun line => line ++ ['\n']).count '\n' = lines.length := by
  induction lines with
  | nil => rfl
  | cons line rest ih =>
      have first : line.count '\n' = 0 :=
        List.count_eq_zero.mpr (unbroken line List.mem_cons_self)
      have others := ih fun line member => unbroken line (List.mem_cons_of_mem _ member)
      rw [List.flatMap_cons, List.count_append, List.count_append, List.count_singleton_self,
        first, others, List.length_cons, Nat.zero_add, Nat.add_comm]

/-- Behind the last line feed nothing is left. -/
theorem splitOn_flatMap_ended {lines : List (List Char)}
    (unbroken : ∀ line ∈ lines, '\n' ∉ line) :
    (lines.flatMap fun line => line ++ ['\n']).splitOn '\n' = lines ++ [[]] := by
  induction lines with
  | nil => rfl
  | cons line rest ih =>
      rw [List.flatMap_cons, List.append_assoc, List.singleton_append,
        List.splitOn_append_cons_self_of_not_mem (unbroken line List.mem_cons_self),
        ih fun line member => unbroken line (List.mem_cons_of_mem _ member), List.cons_append]

theorem toUTF8_ofList_append (first second : List Char) :
    (String.ofList (first ++ second)).toUTF8 =
      (String.ofList first).toUTF8 ++ (String.ofList second).toUTF8 := by
  rw [String.ofList_append]
  exact String.toByteArray_append

end Text

namespace Diagnostics

/-! ## Writers that never fail -/

/-- In every state the writer takes some of the bytes that it is offered. -/
def Writer.NeverFails {ω : Type} (writer : Writer ω) : Prop :=
  ∀ state bytes, bytes.size ≠ 0 →
    ∃ count next, writer.write state bytes = (.accepted count, next) ∧
      0 < count ∧ count ≤ bytes.size

/-- A writer that takes one byte at a time. -/
def Writer.sipping : Writer Unit where
  state := ()
  write := fun _ _ => (.accepted 1, ())
  flush := fun _ => (.done, ())

theorem Writer.neverFails_sipping : Writer.sipping.NeverFails :=
  fun _ _ some_bytes => ⟨1, (), rfl, Nat.one_pos, Nat.one_le_iff_ne_zero.mpr some_bytes⟩

namespace Device

variable {ω : Type}

/-- Such a writer comes to the end of all bytes, and goes on as before. -/
theorem writeAll_of_neverFails {device : Device ω} (never : device.writer.NeverFails)
    (bytes : ByteArray) :
    (device.writeAll bytes).1 = .done ∧ (device.writeAll bytes).2.writer.NeverFails := by
  fun_induction writeAll device bytes with
  | case1 device bytes no_bytes => exact ⟨rfl, never⟩
  | case2 bytes some_bytes writer stored state answer =>
      rcases never writer.state bytes some_bytes with ⟨count, next, taken, positive, _⟩
      rw [taken] at answer
      cases answer
      exact absurd positive (Nat.lt_irrefl 0)
  | case3 bytes some_bytes writer stored count state answer some_taken ih => exact ih never
  | case4 bytes some_bytes writer stored text state answer =>
      rcases never writer.state bytes some_bytes with ⟨count, next, taken, _⟩
      rw [taken] at answer
      cases answer
  | case5 bytes some_bytes writer stored text state answer =>
      rcases never writer.state bytes some_bytes with ⟨count, next, taken, _⟩
      rw [taken] at answer
      cases answer

end Device

namespace Appender

variable {ω : Type}

theorem writeLine_of_neverFails {device : Device ω} (never : device.writer.NeverFails)
    (text : ByteArray) :
    (writeLine text device).1 = .done ∧ (writeLine text device).2.writer.NeverFails := by
  have ofText := Device.writeAll_of_neverFails never text
  rcases written : device.writeAll text with ⟨ending, reached⟩
  rw [written] at ofText
  rcases ofText with ⟨rfl, still⟩
  unfold writeLine
  rw [written]
  exact Device.writeAll_of_neverFails still _

/-- A record that is emitted leaves its whole line. -/
theorem stored_emit_of_neverFails {appender : Appender ω}
    (never : appender.device.writer.NeverFails) (record : Record) :
    (appender.emit record).2.stored = appender.stored ++ lineBytes appender.config record := by
  rcases appender.exists_leaves_emit record with ⟨chunk, leaves, grown⟩
  have done : (appender.emit record).1 = .done := by
    rw [emit, fst_locked]
    exact (writeLine_of_neverFails never _).1
  rw [grown, leaves.whole_iff.mpr done]

theorem neverFails_emit {appender : Appender ω} (never : appender.device.writer.NeverFails)
    (record : Record) : (appender.emit record).2.device.writer.NeverFails := by
  rw [emit, device_locked]
  exact (writeLine_of_neverFails never _).2

@[simp] theorem config_emit (appender : Appender ω) (record : Record) :
    (appender.emit record).2.config = appender.config :=
  config_locked _ _

end Appender

/-! ## Lines -/

/-- A log record as it reaches a logger: at a time, from a thread that may have
a name. -/
structure Arrival where
  now : Timestamp
  thread : Option String
  event : LogRecord

namespace Arrival

/-- The line of a log record: time, level, name, thread and message. -/
def line (config : Config) (arrival : Arrival) : List Char :=
  let name := arrival.event.target.toList
  arrival.now.render config.offset ++
    ':' :: arrival.event.level.label.toList ++
    ':' :: escape (if config.condensedNames then PathName.condense name else name) ++
    ':' :: escape (arrival.thread.getD "unnamed").toList ++
    ": ".toList ++ escape arrival.event.message.toList

def record (arrival : Arrival) : Record :=
  Logger.recordOf arrival.now arrival.thread arrival.event

variable {config : Config}

theorem text_record (escaped : config.escapeMessages = true) (arrival : Arrival) :
    arrival.record.text config = arrival.line config := by
  have shown : ∀ text, escapeIf config.escapeMessages text = escape text := by
    intro text
    rw [escapeIf, if_pos escaped]
  have noCause : Record.causeText config arrival.record.cause = [] := rfl
  rw [Record.text, noCause, List.append_nil, record, Logger.messageText_recordOf, shown]
  simp only [Record.heading, Record.nameText, Record.shown, shown]
  rfl

/-- No text brings a line feed into a line. -/
theorem lineFeed_not_mem_line (escaped : config.escapeMessages = true) (arrival : Arrival) :
    '\n' ∉ arrival.line config := by
  have noCause : arrival.record.cause = none := rfl
  have visible := Record.controls_causeText_of_hidden escaped (Or.inl noCause)
  rw [← Record.controls_text escaped, text_record escaped] at visible
  exact (Text.tabbed_of_controls_eq_nil visible).lineFeed_not_mem

theorem lineBytes_record (escaped : config.escapeMessages = true) (arrival : Arrival) :
    Appender.lineBytes config arrival.record =
      (String.ofList (arrival.line config ++ ['\n'])).toUTF8 := by
  rw [Appender.lineBytes, Record.render, text_record escaped, Text.toUTF8_ofList_append]

end Arrival

namespace Logger

variable {ω : Type} {logger : Logger ω}

/-- Log what arrives, in order. -/
def logEach (logger : Logger ω) (arrivals : List Arrival) : Logger ω :=
  arrivals.foldl (fun logger arrival => logger.log arrival.now arrival.thread arrival.event) logger

theorem logEach_cons (logger : Logger ω) (first : Arrival) (rest : List Arrival) :
    logger.logEach (first :: rest) =
      (logger.log first.now first.thread first.event).logEach rest := rfl

def admits (logger : Logger ω) (arrival : Arrival) : Bool :=
  logger.maxLevel.admits arrival.event.level

theorem log_of_admits {arrival : Arrival} (admitted : logger.admits arrival = true) :
    logger.log arrival.now arrival.thread arrival.event =
      ⟨(logger.appender.emit arrival.record).2, logger.maxLevel⟩ := by
  rw [log, enabled]
  exact if_pos admitted

/-- The lines that a logger writes of what arrives. -/
def lines (logger : Logger ω) (arrivals : List Arrival) : List (List Char) :=
  (arrivals.filter logger.admits).map (Arrival.line logger.appender.config)

/-- Only the settings and the filter decide what is written. -/
theorem lines_congr {other : Logger ω} (config : other.appender.config = logger.appender.config)
    (filter : other.maxLevel = logger.maxLevel) (arrivals : List Arrival) :
    other.lines arrivals = logger.lines arrivals := by
  have admits : other.admits = logger.admits := by
    funext arrival
    rw [Logger.admits, Logger.admits, filter]
  rw [lines, lines, admits, config]

theorem length_lines (logger : Logger ω) (arrivals : List Arrival) :
    (logger.lines arrivals).length = (arrivals.filter logger.admits).length :=
  List.length_map _

theorem lineFeed_not_mem_of_mem_lines (escaped : logger.appender.config.escapeMessages = true)
    {arrivals : List Arrival} {line : List Char} (member : line ∈ logger.lines arrivals) :
    '\n' ∉ line := by
  rcases List.mem_map.mp member with ⟨arrival, _, rfl⟩
  exact Arrival.lineFeed_not_mem_line escaped arrival

/-- The lines, each ended by a line feed, are all that is written. -/
theorem stored_logEach (escaped : logger.appender.config.escapeMessages = true)
    (never : logger.appender.device.writer.NeverFails) (arrivals : List Arrival) :
    (logger.logEach arrivals).appender.stored =
      logger.appender.stored ++
        (String.ofList ((logger.lines arrivals).flatMap fun line => line ++ ['\n'])).toUTF8 := by
  induction arrivals generalizing logger with
  | nil => exact ByteArray.append_empty.symm
  | cons arrival rest ih =>
      rw [logEach_cons]
      cases admitted : logger.admits arrival with
      | false =>
          have skipped : logger.lines (arrival :: rest) = logger.lines rest := by
            rw [lines, List.filter_cons_of_neg (Bool.eq_false_iff.mp admitted), lines]
          rw [log_of_disabled admitted, ih escaped never, skipped]
      | true =>
          have added : logger.lines (arrival :: rest) =
              arrival.line logger.appender.config :: logger.lines rest := by
            rw [lines, List.filter_cons_of_pos admitted, List.map_cons, lines]
          let next : Logger ω := ⟨(logger.appender.emit arrival.record).2, logger.maxLevel⟩
          have config : next.appender.config = logger.appender.config :=
            logger.appender.config_emit arrival.record
          have stored : next.appender.stored = logger.appender.stored ++
              Appender.lineBytes logger.appender.config arrival.record :=
            Appender.stored_emit_of_neverFails never arrival.record
          have still : next.appender.device.writer.NeverFails :=
            Appender.neverFails_emit never arrival.record
          have others := ih ((congrArg Config.escapeMessages config).trans escaped) still
          rw [log_of_admits admitted, others, stored, Arrival.lineBytes_record escaped,
            lines_congr config rfl, added, List.flatMap_cons, Text.toUTF8_ofList_append _
              ((logger.lines rest).flatMap fun line => line ++ ['\n']), ByteArray.append_assoc]

/-- Of records that arrive in order the admitted ones get a line each, in
order. -/
theorem forall₂_lines (logger : Logger ω) {arrivals : List Arrival} {events : List LogRecord}
    (inOrder : arrivals.map Arrival.event = events) :
    List.Forall₂
      (fun line event => ∃ now thread,
        line = Arrival.line logger.appender.config ⟨now, thread, event⟩)
      (logger.lines arrivals)
      (events.filter fun event => logger.maxLevel.admits event.level) := by
  subst inOrder
  rw [List.filter_map, lines, List.forall₂_map_left_iff, List.forall₂_map_right_iff]
  exact List.forall₂_same.mpr fun arrival _ => ⟨arrival.now, arrival.thread, rfl⟩

/-- A logger writes the lines of the records that its filter admits, each ended
by a line feed, and nothing else.  There are as many line feeds as admitted
records, and cutting at them gives the lines back.  So the records of any pump
runs have their lines one to one and in order. -/
theorem output_of_arrivals (logger : Logger ω)
    (escaped : logger.appender.config.escapeMessages = true)
    (never : logger.appender.device.writer.NeverFails) (arrivals : List Arrival) :
    let config := logger.appender.config
    let admitted := arrivals.filter fun arrival => logger.maxLevel.admits arrival.event.level
    let lines := admitted.map (Arrival.line config)
    let output := lines.flatMap fun line => line ++ ['\n']
    (logger.logEach arrivals).appender.stored =
        logger.appender.stored ++ (String.ofList output).toUTF8 ∧
      output.count '\n' = admitted.length ∧
      output.splitOn '\n' = lines ++ [[]] ∧
      ∀ {α : Type} [MessageSink α] (runs : List (Pump.Policy × Session × α × List Pump.Item)),
        let emitted := runs.flatMap fun (policy, session, sink, stream) =>
          (Pump.run policy session sink stream).journal.records.toList
        arrivals.map Arrival.event = emitted →
          List.Forall₂
            (fun line event => ∃ now thread, line = Arrival.line config ⟨now, thread, event⟩)
            lines (emitted.filter fun event => logger.maxLevel.admits event.level) := by
  intro config admitted lines output
  have unbroken : ∀ line ∈ lines, '\n' ∉ line :=
    fun _ member => lineFeed_not_mem_of_mem_lines escaped member
  have counted : output.count '\n' = lines.length := Text.count_flatMap_ended unbroken
  refine ⟨stored_logEach escaped never arrivals, ?_, Text.splitOn_flatMap_ended unbroken, ?_⟩
  · rw [counted]
    exact logger.length_lines arrivals
  · intro α _ runs emitted inOrder
    exact logger.forall₂_lines inOrder

/-- A handler error with braces and a line feed in its text: of the three
records of the run only the warning is admitted, and it is one line. -/
theorem rejection_is_logged_as_one_line :
    let logger : Logger Unit := ⟨.new default .sipping, .upTo .warn⟩
    let sink := Sink.new (.ofReplies [⟨none, .reject (.ofText "no \x7b\x7d\n")⟩])
    let emitted := (Pump.run .carryOn default sink
      [.frame (.emptyFinal .binary)]).journal.records.toList
    let arrivals := emitted.map fun event => Arrival.mk .epoch none event
    let output := (logger.lines arrivals).flatMap fun line => line ++ ['\n']
    logger.appender.config.escapeMessages = true ∧ logger.appender.device.writer.NeverFails ∧
      emitted.map LogRecord.level = [.debug, .warn, .debug] ∧
      (logger.logEach arrivals).appender.stored = (String.ofList output).toUTF8 ∧
      output.count '\n' = 1 ∧
      List.Forall₂
        (fun line event => ∃ now thread, line = Arrival.line default ⟨now, thread, event⟩)
        (logger.lines arrivals) (emitted.filter fun event => logger.maxLevel.admits event.level) := by
  intro logger sink emitted arrivals output
  have written := output_of_arrivals logger rfl Writer.neverFails_sipping arrivals
  have inOrder : arrivals.map Arrival.event = emitted := by
    rw [List.map_map]
    exact List.map_id _
  have one : (arrivals.filter fun arrival =>
      logger.maxLevel.admits arrival.event.level).length = 1 := by decide
  have matched := written.2.2.2 [(.carryOn, default, sink, [.frame (.emptyFinal .binary)])]
    (inOrder.trans (List.append_nil emitted).symm)
  rw [List.flatMap_singleton] at matched
  exact ⟨rfl, Writer.neverFails_sipping, by decide, written.1.trans ByteArray.empty_append,
    written.2.1.trans one, matched⟩

end Logger

end Diagnostics
end Reassembly
