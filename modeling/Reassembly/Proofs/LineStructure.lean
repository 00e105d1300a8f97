import Reassembly.Diagnostics.Appender
import Reassembly.Proofs.CauseLines
import Reassembly.Proofs.ControlCharacters

namespace Reassembly

/-!
# The line structure of a written record

With escaping on, the control characters of a written record are those of its
layout.  In front of the cause there are none.  A block has one line feed in
front of each of its lines and tabs in the indents and at the frames.

None of this depends on a text.  It is therefore enough to know the control
characters of the lines of a cause when no text shows any
(`Cause.map_controls_lines`): they are those of its lines without texts, which
are the same for every cause of that shape.
-/

namespace Text

/-- A text holds no control character but tabs. -/
def Tabbed (text : List Char) : Prop :=
  ∀ char ∈ controls text, char = '\t'

instance (text : List Char) : Decidable (Tabbed text) :=
  List.decidableBAll (· = '\t') (controls text)

theorem tabbed_of_controls_eq_nil {text : List Char} (visible : controls text = []) :
    Tabbed text := by
  intro char control
  rw [visible] at control
  cases control

theorem Tabbed.append {first second : List Char} (front : Tabbed first) (back : Tabbed second) :
    Tabbed (first ++ second) := by
  intro char control
  rw [controls_append] at control
  rcases List.mem_append.mp control with inFirst | inSecond
  · exact front char inFirst
  · exact back char inSecond

theorem Tabbed.lineFeed_not_mem {text : List Char} (tabbed : Tabbed text) : '\n' ∉ text := by
  intro member
  have same : '\n' = '\t' := tabbed '\n' (mem_controls_iff.mpr ⟨member, rfl⟩)
  cases same

/-- The control characters of lines that each follow a line feed. -/
theorem controls_flatMap_lineFeed (lines : List (List Char)) :
    controls (lines.flatMap fun line => '\n' :: line) =
      (lines.map controls).flatMap fun line => '\n' :: line := by
  rw [controls, List.filter_flatMap, List.flatMap_map]
  rfl

theorem lineFeed_or_tab_of_mem_controls {lines : List (List Char)}
    (tabbed : ∀ line ∈ lines, Tabbed line) {char : Char}
    (control : char ∈ controls (lines.flatMap fun line => '\n' :: line)) :
    char = '\n' ∨ char = '\t' := by
  rw [controls_flatMap_lineFeed] at control
  rcases List.mem_flatMap.mp control with ⟨controlsOfLine, inLines, member⟩
  rcases List.mem_map.mp inLines with ⟨line, lineMember, rfl⟩
  rcases List.mem_cons.mp member with lineFeed | inLine
  · exact Or.inl lineFeed
  · exact Or.inr (tabbed line lineMember char inLine)

theorem count_flatMap_lineFeed {lines : List (List Char)}
    (unbroken : ∀ line ∈ lines, '\n' ∉ line) :
    (lines.flatMap fun line => '\n' :: line).count '\n' = lines.length := by
  induction lines with
  | nil => rfl
  | cons line rest ih =>
      have first : line.count '\n' = 0 :=
        List.count_eq_zero.mpr (unbroken line List.mem_cons_self)
      have others := ih fun line member => unbroken line (List.mem_cons_of_mem _ member)
      rw [List.flatMap_cons, List.count_append, List.count_cons_self, first, others,
        List.length_cons, Nat.add_comm, Nat.zero_add]

/-- Lines that each follow a line feed are found behind the first one. -/
theorem splitOn_flatMap_lineFeed {first : List Char} {others : List (List Char)}
    (unbroken : '\n' ∉ first) (othersUnbroken : ∀ line ∈ others, '\n' ∉ line) :
    (first ++ others.flatMap fun line => '\n' :: line).splitOn '\n' = first :: others := by
  induction others generalizing first with
  | nil => rw [List.flatMap_nil, List.append_nil, List.splitOn_eq_singleton unbroken]
  | cons line others ih =>
      rw [List.flatMap_cons, List.cons_append, List.splitOn_append_cons_self_of_not_mem unbroken,
        ih (othersUnbroken line List.mem_cons_self)
          fun line member => othersUnbroken line (List.mem_cons_of_mem _ member)]

end Text

namespace Diagnostics

open Text

namespace Cause

variable {shown : String → List Char}

/-- The tree of a cause without its texts. -/
def shape (cause : Cause) : Cause :=
  cause.mapTexts fun _ => ""

theorem lines_shape (indent : List Char) (cause : Cause) :
    lines (fun _ => []) indent cause.shape = lines (fun _ => []) indent cause :=
  lines_mapTexts (fun _ => []) (fun _ => "") indent cause

/-- When no text shows a control character, lines have those that they have
without texts. -/
theorem map_controls_lines (visible : ∀ text, controls (shown text) = []) (indent : List Char)
    (cause : Cause) :
    (lines shown indent cause).map controls =
      (lines (fun _ => []) indent cause).map controls := by
  induction cause using ind generalizing indent with
  | node summary frames suppressed cause inSuppressed beneath =>
      rw [lines_mk, lines_mk]
      simp only [List.map_append, List.map_cons, List.map_map, List.map_flatMap]
      congr 1
      · congr 1
        · congr 1
          · rw [controls_append, visible, controls_append, controls_nil]
          · apply List.map_congr_left
            intro frame _
            rw [Function.comp_apply, Function.comp_apply, controls_append, visible,
              controls_append _ [], controls_nil]
        · apply List.flatMap_congr
          intro inner member
          rw [inSuppressed inner member]
      · cases cause with
        | none => rfl
        | some inner =>
            rw [Option.toList_some, List.flatMap_singleton, List.flatMap_singleton,
              beneath inner rfl]

/-- When no text shows a control character and the indent is tabbed, so is every
line. -/
theorem tabbed_of_mem_lines (visible : ∀ text, controls (shown text) = []) {indent : List Char}
    (indented : Tabbed indent) (cause : Cause) :
    ∀ line ∈ lines shown indent cause, Tabbed line := by
  induction cause using ind generalizing indent with
  | node summary frames suppressed cause inSuppressed beneath =>
      have stepped : Tabbed (indentStep ++ indent) := Tabbed.append (by decide) indented
      intro line member
      rw [lines_mk, List.mem_append, List.mem_append, List.mem_cons] at member
      rcases member with ((rfl | inFrames) | inBlock) | inBlock
      · exact indented.append (tabbed_of_controls_eq_nil (visible summary))
      · rcases List.mem_map.mp inFrames with ⟨frame, _, rfl⟩
        exact (indented.append (by decide)).append (tabbed_of_controls_eq_nil (visible frame))
      · rcases List.mem_flatMap.mp inBlock with ⟨inner, member, inBlock⟩
        rcases List.mem_cons.mp inBlock with rfl | inLines
        · exact indented.append (by decide)
        · exact inSuppressed inner member stepped line inLines
      · rcases List.mem_flatMap.mp inBlock with ⟨inner, member, inBlock⟩
        rcases List.mem_cons.mp inBlock with rfl | inLines
        · exact indented.append (by decide)
        · exact beneath inner (Option.mem_toList.mp member) indented line inLines

end Cause

namespace Record

variable {config : Config}

/-- The control characters of a written record come after its message. -/
theorem controls_text (escaped : config.escapeMessages = true) (record : Record) :
    controls (text config record) = controls (causeText config record.cause) := by
  rw [text, controls_append, controls_append, controls_heading escaped,
    controls_messageText escaped, List.nil_append, List.nil_append]

/-- A cause that is not there or whose stack is hidden adds no control
character. -/
theorem controls_causeText_of_hidden (escaped : config.escapeMessages = true)
    {cause : Option Cause} (hidden : cause = none ∨ config.hideStacks = true) :
    controls (causeText config cause) = [] := by
  cases cause with
  | none => rfl
  | some cause =>
      rcases hidden with absent | hidden
      · cases absent
      · rw [causeText, if_pos hidden, controls_append, controls_shown escaped]
        decide

/-- A cause is written behind what is written without it. -/
theorem text_eq_append_causeText (record : Record) (cause : Option Cause) :
    text config { record with cause } =
      text config { record with cause := none } ++ causeText config cause := by
  have bare : causeText config none = [] := rfl
  rw [text, text, bare, List.append_nil]
  rfl

theorem causeText_of_displayed (displayed : config.hideStacks = false) (cause : Cause) :
    causeText config (some cause) =
      (cause.lines (shown config) []).flatMap fun line => '\n' :: line := by
  rw [causeText, if_neg (Bool.eq_false_iff.mp displayed)]

/-- A block has the control characters of its layout: those of its lines without
texts. -/
theorem controls_causeText_of_displayed (escaped : config.escapeMessages = true)
    (displayed : config.hideStacks = false) (cause : Cause) :
    controls (causeText config (some cause)) =
      controls ((cause.lines (fun _ => []) []).flatMap fun line => '\n' :: line) := by
  rw [causeText_of_displayed displayed, controls_flatMap_lineFeed, controls_flatMap_lineFeed,
    Cause.map_controls_lines (controls_shown escaped)]

/-- Causes of one shape add the same control characters. -/
theorem controls_causeText_of_shape (escaped : config.escapeMessages = true)
    {first second : Option Cause} (sameShape : first.map Cause.shape = second.map Cause.shape) :
    controls (causeText config first) = controls (causeText config second) := by
  rcases Bool.eq_false_or_eq_true config.hideStacks with hidden | displayed
  · rw [controls_causeText_of_hidden escaped (Or.inr hidden),
      controls_causeText_of_hidden escaped (Or.inr hidden)]
  · cases first with
    | none =>
        rw [Option.map_eq_none_iff.mp sameShape.symm]
    | some first =>
        rcases Option.map_eq_some_iff.mp sameShape.symm with ⟨second, rfl, shapes⟩
        rw [controls_causeText_of_displayed escaped displayed,
          controls_causeText_of_displayed escaped displayed, ← Cause.lines_shape [] first, ← shapes,
          Cause.lines_shape]

/-- A block ends the line in front of it and each of its own but the last. -/
theorem count_lineFeed_text (escaped : config.escapeMessages = true)
    (displayed : config.hideStacks = false) {record : Record} {cause : Cause}
    (present : record.cause = some cause) :
    (text config record).count '\n' = cause.lineCount := by
  have unbroken : ∀ {text : List Char}, controls text = [] → text.count '\n' = 0 :=
    fun visible => List.count_eq_zero.mpr (tabbed_of_controls_eq_nil visible).lineFeed_not_mem
  have tabbed := Cause.tabbed_of_mem_lines (controls_shown escaped) (by decide : Tabbed []) cause
  rw [text, List.count_append, List.count_append, unbroken (controls_heading escaped record),
    unbroken (controls_messageText escaped record), present, causeText_of_displayed displayed,
    count_flatMap_lineFeed fun line member => (tabbed line member).lineFeed_not_mem,
    Cause.length_lines]
  omega

end Record

namespace Appender

variable {ω : Type}

/-- With escaping on, a record without a block is written without control
characters.  The control characters of a record with a block are the line feeds
and tabs of the layout, with one line feed for each line of the cause.  Records
whose causes have the same shape are written with the same control characters,
whatever their texts. -/
theorem controls_of_format (appender : Appender ω)
    (escaped : appender.config.escapeMessages = true) (record : Record) :
    (record.cause = none ∨ appender.config.hideStacks = true →
      ∀ char ∈ (appender.format record).toList, isControl char = false) ∧
    (∀ cause, record.cause = some cause → appender.config.hideStacks = false →
      (∀ char ∈ (appender.format record).toList,
        isControl char = true → char = '\n' ∨ char = '\t') ∧
      controls (appender.format record).toList =
        controls ((cause.lines (fun _ => []) []).flatMap fun line => '\n' :: line) ∧
      (appender.format record).toList.count '\n' = cause.lineCount) ∧
    ∀ other : Record, other.cause.map Cause.shape = record.cause.map Cause.shape →
      controls (appender.format other).toList = controls (appender.format record).toList := by
  have written : ∀ record, (appender.format record).toList = Record.text appender.config record :=
    fun record => String.toList_ofList
  rw [written]
  refine ⟨?_, ?_, ?_⟩
  · intro hidden
    rw [← controls_eq_nil_iff, Record.controls_text escaped,
      Record.controls_causeText_of_hidden escaped hidden]
  · intro cause present displayed
    have ofLayout : controls (Record.text appender.config record) =
        controls ((cause.lines (fun _ => []) []).flatMap fun line => '\n' :: line) := by
      rw [Record.controls_text escaped, present,
        Record.controls_causeText_of_displayed escaped displayed]
    refine ⟨?_, ofLayout, Record.count_lineFeed_text escaped displayed present⟩
    intro char member control
    have tabbed := Cause.tabbed_of_mem_lines (fun _ => controls_nil)
      (by decide : Tabbed []) cause
    apply lineFeed_or_tab_of_mem_controls tabbed
    rw [← ofLayout]
    exact mem_controls_iff.mpr ⟨member, control⟩
  · intro other sameShape
    rw [written, Record.controls_text escaped, Record.controls_text escaped,
      Record.controls_causeText_of_shape escaped sameShape]

/-- Every text of this record ends lines of its own, and its message cannot be
put together.  It is still written in one line and the seven of its cause. -/
theorem forged_line_feeds_end_no_line :
    let cause : Cause :=
      .mk "outer\nCaused by: \nforged" ["accept\n\tat nowhere"]
        [.mk "clean\tup" ["drop\r\n"] [] none] (some (.ofSummary "\n"))
    let record : Record :=
      ⟨.epoch, .warn, "peer\n::sink\n", "main\n", some "sent {} of\n{}", ["\n"], some cause⟩
    let appender : Appender Unit := .new default .reliable
    (appender.config.escapeMessages = true ∧ appender.config.hideStacks = false) ∧
      cause.lineCount = 7 ∧ (appender.format record).toList.count '\n' = 7 ∧
      String.ofList (controls (appender.format record).toList) = "\n\n\t\n\n\t\n\t\t\n\n" := by
  intro cause record appender
  have block := (controls_of_format appender rfl record).2.1 cause rfl rfl
  refine ⟨⟨rfl, rfl⟩, by decide, ?_, ?_⟩
  · rw [block.2.2]
    decide
  · rw [block.2.1]
    decide

end Appender

end Diagnostics
end Reassembly
