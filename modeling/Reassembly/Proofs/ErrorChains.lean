import Reassembly.Proofs.CauseReading

namespace Reassembly

/-!
# Error chains as they are written

The description of an error chain has one cause for each error in it, from the
error itself down to its root, and nothing besides (`Cause.IsChain`).  Such a
cause is written as the texts of the chain with a label between each two.  As the
cause beneath keeps the indent, no line of it stands in.

A handler's own error stands below the failure that it made.  Its text is
written twice then, first as part of the failure's.
-/

theorem SinkError.message_handler (error : ErrorChain) :
    (SinkError.handler error).message = "message handler failed: " ++ error.text := by
  unfold message wording
  simp only [String.ofList_append, String.ofList_toList]

namespace Diagnostics

namespace Cause

/-- The cause has no frames or suppressed causes at any depth, and these are its
summary and those of the causes beneath it. -/
inductive IsChain : Cause → List String → Prop
  | root (text : String) : IsChain (ofSummary text) [text]
  | above (text : String) {beneath : Cause} {texts : List String} :
      IsChain beneath texts → IsChain (mk text [] [] (some beneath)) (text :: texts)

theorem isChain_ofTexts (text : String) (sources : List String) :
    IsChain (ofTexts text sources) (text :: sources) := by
  induction sources generalizing text with
  | nil => exact .root text
  | cons source sources ih => exact .above text (ih source)

theorem isChain_ofChain (chain : ErrorChain) : IsChain (ofChain chain) chain.texts :=
  isChain_ofTexts chain.text chain.sources

theorem IsChain.head?_eq {cause : Cause} {texts : List String} (chained : IsChain cause texts) :
    texts.head? = some cause.summary := by
  cases chained <;> rfl

/-- A label stands between each two texts of a chain. -/
theorem IsChain.lines_eq {cause : Cause} {texts : List String} (chained : IsChain cause texts)
    (shown : String → List Char) :
    lines shown [] cause = (texts.map shown).intersperse "Caused by: ".toList := by
  induction chained with
  | root text => rfl
  | @above text beneath texts chained ih =>
      obtain ⟨others, rfl⟩ := List.head?_eq_some_iff.mp chained.head?_eq
      rw [lines_mk, Option.toList_some, List.flatMap_singleton, ih]
      rfl

end Cause

namespace Record

variable {config : Config}

/-- The lines of a record with a cause are the line that it has without one and
the lines of the cause. -/
theorem splitOn_text_of_cause (escapes : config.escapeMessages = true)
    (displayed : config.hideStacks = false) (record : Record) (cause : Cause) :
    (text config { record with cause := some cause }).splitOn '\n' =
      text config { record with cause := none } :: cause.lines (shown config) [] := by
  have bare : text config { record with cause := none } =
      heading config record ++ messageText config record := List.append_nil _
  rw [splitOn_text escapes displayed, Option.toList_some, List.flatMap_singleton, bare]
  rfl

theorem text_of_hidden (hidden : config.hideStacks = true) (record : Record) (cause : Cause) :
    text config { record with cause := some cause } =
      text config { record with cause := none } ++ ": ".toList ++ shown config cause.summary := by
  rw [text_eq_append_causeText, causeText, if_pos hidden, List.append_assoc]

end Record

namespace Appender

variable {ω : Type}

/-- The description of an error has the texts of the error and of each error
below it.  The failure that a handler's error makes is described by its own text
and then by those of that error.  With escaping on, all these texts are written in
order, at the edge and with a label between each two; with stacks hidden, the
first is written behind the message. -/
theorem lines_of_chain (appender : Appender ω) (escapes : appender.config.escapeMessages = true)
    (chain : ErrorChain) :
    Cause.IsChain (.ofChain chain) chain.texts ∧
    Cause.IsChain (.ofChain (SinkError.handler chain).chain)
      (("message handler failed: " ++ chain.text) :: chain.texts) ∧
    ∀ record : Record,
      let written := (appender.format { record with cause := some (.ofChain chain) }).toList
      let bare := (appender.format { record with cause := none }).toList
      (appender.config.hideStacks = false → ∃ below : List (List Char),
        written.splitOn '\n' = bare :: below ∧
        below.length = 2 * chain.texts.length - 1 ∧
        below = (chain.texts.map fun text => escape text.toList).intersperse
          "Caused by: ".toList) ∧
      (appender.config.hideStacks = true →
        written = bare ++ ": ".toList ++ escape chain.text.toList) := by
  have chained := Cause.isChain_ofChain chain
  have summary : (Cause.ofChain chain).summary = chain.text :=
    (Option.some.inj chained.head?_eq).symm
  have shown_eq : Record.shown appender.config = fun text => escape text.toList :=
    funext (Record.shown_of_escapes escapes)
  refine ⟨chained, ?_, ?_⟩
  · rw [← SinkError.message_handler]
    exact Cause.isChain_ofChain (SinkError.handler chain).chain
  · intro record written bare
    have written_eq : written =
        Record.text appender.config { record with cause := some (.ofChain chain) } :=
      Record.toList_render _ _
    have bare_eq : bare = Record.text appender.config { record with cause := none } :=
      Record.toList_render _ _
    constructor
    · intro displayed
      refine ⟨_, ?_, ?_, rfl⟩
      · rw [written_eq, bare_eq, Record.splitOn_text_of_cause escapes displayed, chained.lines_eq,
          shown_eq]
      · rw [List.length_intersperse, List.length_map]
    · intro hidden
      rw [written_eq, bare_eq, Record.text_of_hidden hidden, shown_eq, summary]

/-- The error of a handler is written below the failure that it made, and below
it the error that it came from. -/
theorem handler_error_is_written_twice :
    let chain : ErrorChain := ⟨"disk\nfull", ["quota"]⟩
    let failure := (SinkError.handler chain).chain
    let appender : Appender Unit := .new default .reliable
    let record := Record.new .epoch .warn "sink" "main"
    let written := (appender.format { record with cause := some (.ofChain failure) }).toList
    (appender.config.escapeMessages = true ∧ appender.config.hideStacks = false) ∧
      (written.splitOn '\n').tail.map String.ofList = ["message handler failed: disk|full",
        "Caused by: ", "disk|full", "Caused by: ", "quota"] := by
  intro chain failure appender record written
  have ofFailure := (lines_of_chain appender rfl failure).2.2 record
  obtain ⟨below, found, _, same⟩ := ofFailure.1 rfl
  refine ⟨⟨rfl, rfl⟩, ?_⟩
  rw [found, List.tail_cons, same]
  decide

end Appender
end Diagnostics
end Reassembly
