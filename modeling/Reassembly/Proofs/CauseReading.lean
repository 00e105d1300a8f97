import Reassembly.Proofs.LineStructure

namespace Reassembly
namespace Diagnostics

open Text

/-!
# Reading causes back

A block can be read from top to bottom.  Every line tells how far it stands in,
since a text holds no tab and so adds no step.  The first line of a cause is its
summary, whatever it says; after the frames, a label at the depth of the cause
opens the next cause, and any line that stands further out ends it.  The reader
looks one line ahead and never back.  Its first argument bounds how many lines
it reads, and no block needs more than it has.

`Cause.ofWritten?` reads a written record in this way.  It finds the cause that
the record was written with, its texts as they are shown
(`Cause.readBlock_rows`).
-/

/-- A line of a block: how many steps it stands in, whether it is a frame, and
what it says. -/
structure Row where
  depth : Nat
  isFrame : Bool
  text : List Char
deriving DecidableEq

namespace Row

/-- The indent of lines that stand this many steps in. -/
def indentAt : Nat → List Char
  | 0 => []
  | depth + 1 => Cause.indentStep ++ indentAt depth

def ofLine : List Char → Row
  | '\t' :: '|' :: line =>
      let row := ofLine line
      { row with depth := row.depth + 1 }
  | '\t' :: 'a' :: 't' :: ' ' :: text => ⟨0, true, text⟩
  | text => ⟨0, false, text⟩

def suppressedLabel (depth : Nat) : Row :=
  ⟨depth, false, "Suppressed: ".toList⟩

def causedByLabel (depth : Nat) : Row :=
  ⟨depth, false, "Caused by: ".toList⟩

def isFrameAt (depth : Nat) (row : Row) : Bool :=
  row.isFrame && row.depth == depth

theorem isFrameAt_of_lt {depth : Nat} {row : Row} (above : row.depth < depth) :
    isFrameAt depth row = false := by
  rw [isFrameAt, beq_eq_false_iff_ne.mpr (Nat.ne_of_lt above), Bool.and_false]

/-- An indent is read as the steps that it is made of. -/
theorem ofLine_indentAt (depth : Nat) {line : List Char} {isFrame : Bool} {text : List Char}
    (atEdge : ofLine line = ⟨0, isFrame, text⟩) :
    ofLine (indentAt depth ++ line) = ⟨depth, isFrame, text⟩ := by
  induction depth with
  | zero => exact atEdge
  | succ depth ih =>
      change { ofLine (indentAt depth ++ line) with
        depth := (ofLine (indentAt depth ++ line)).depth + 1 } = _
      rw [ih]

theorem ofLine_plain (depth : Nat) {text : List Char} (untabbed : '\t' ∉ text) :
    ofLine (indentAt depth ++ text) = ⟨depth, false, text⟩ := by
  apply ofLine_indentAt
  cases text with
  | nil => rfl
  | cons char rest =>
      have visible : char ≠ '\t' := fun tab => untabbed (tab ▸ List.mem_cons_self)
      unfold ofLine
      split
      · rename_i same
        exact absurd (List.cons.inj same).1 visible
      · rename_i same
        exact absurd (List.cons.inj same).1 visible
      · rfl

theorem ofLine_frame (depth : Nat) (text : List Char) :
    ofLine (indentAt depth ++ "\tat ".toList ++ text) = ⟨depth, true, text⟩ := by
  rw [List.append_assoc]
  exact ofLine_indentAt depth rfl

end Row

namespace Cause

mutual

/-- Read the cause that begins a list of rows. -/
def readBlock : Nat → Nat → List Row → Option (Cause × List Row)
  | fuel + 1, depth, ⟨summaryDepth, false, summary⟩ :: rows =>
      if summaryDepth = depth then do
        let frames := rows.takeWhile (Row.isFrameAt depth)
        let (suppressed, rows) ←
          readSuppressed fuel depth (rows.dropWhile (Row.isFrameAt depth))
        let (cause, rows) ← readCausedBy fuel depth rows
        let frames := frames.map fun row => String.ofList row.text
        some (mk (String.ofList summary) frames suppressed cause, rows)
      else none
  | _, _, _ => none

/-- Read causes for as long as the label of a suppressed cause comes next. -/
def readSuppressed : Nat → Nat → List Row → Option (List Cause × List Row)
  | fuel + 1, depth, row :: rows =>
      if row = Row.suppressedLabel depth then do
        let (cause, rows) ← readBlock fuel (depth + 1) rows
        let (causes, rows) ← readSuppressed fuel depth rows
        some (cause :: causes, rows)
      else some ([], row :: rows)
  | _, _, rows => some ([], rows)

/-- Read a cause if the label of a cause beneath comes next. -/
def readCausedBy : Nat → Nat → List Row → Option (Option Cause × List Row)
  | fuel + 1, depth, row :: rows =>
      if row = Row.causedByLabel depth then do
        let (cause, rows) ← readBlock fuel depth rows
        some (some cause, rows)
      else some (none, row :: rows)
  | _, _, rows => some (none, rows)

end

/-- Read rows that are those of one cause, or none at all. -/
def ofRows? (rows : List Row) : Option (Option Cause) :=
  if rows.isEmpty then some none
  else
    match readBlock rows.length 0 rows with
    | some (cause, []) => some (some cause)
    | _ => none

/-- Read the cause of a written record: what stands below its first line. -/
def ofWritten? (written : String) : Option (Option Cause) :=
  ofRows? ((written.toList.splitOn '\n').tail.map Row.ofLine)

/-! ## The rows of a cause -/

section Rows

variable {shown : String → List Char}

/-- The lines of a cause that stands this many steps in, taken apart. -/
def rows (shown : String → List Char) (depth : Nat) (cause : Cause) : List Row :=
  (lines shown (Row.indentAt depth) cause).map Row.ofLine

def suppressedRows (shown : String → List Char) (depth : Nat) (suppressed : List Cause) :
    List Row :=
  suppressed.flatMap fun inner => Row.suppressedLabel depth :: rows shown (depth + 1) inner

def causedByRows (shown : String → List Char) (depth : Nat) (cause : Option Cause) : List Row :=
  cause.toList.flatMap fun inner => Row.causedByLabel depth :: rows shown depth inner

theorem rows_mk (untabbed : ∀ text, '\t' ∉ shown text) (depth : Nat) (summary : String)
    (frames : List String) (suppressed : List Cause) (cause : Option Cause) :
    rows shown depth (mk summary frames suppressed cause) =
      ⟨depth, false, shown summary⟩ :: (frames.map fun frame => ⟨depth, true, shown frame⟩) ++
        suppressedRows shown depth suppressed ++ causedByRows shown depth cause := by
  have label : ∀ {text : List Char}, '\t' ∉ text →
      Row.ofLine (Row.indentAt depth ++ text) = ⟨depth, false, text⟩ := Row.ofLine_plain depth
  simp only [rows, suppressedRows, causedByRows, lines_mk, List.map_append, List.map_cons,
    List.map_map, List.map_flatMap]
  rw [label (untabbed summary), label (by decide), label (by decide)]
  congr 2
  apply congrArg
  apply List.map_congr_left
  intro frame _
  exact Row.ofLine_frame depth (shown frame)

theorem suppressedRows_cons (depth : Nat) (first : Cause) (others : List Cause) :
    suppressedRows shown depth (first :: others) =
      Row.suppressedLabel depth ::
        (rows shown (depth + 1) first ++ suppressedRows shown depth others) := by
  rw [suppressedRows, List.flatMap_cons, List.cons_append, suppressedRows]

theorem causedByRows_some (depth : Nat) (inner : Cause) :
    causedByRows shown depth (some inner) = Row.causedByLabel depth :: rows shown depth inner := by
  rw [causedByRows, Option.toList_some, List.flatMap_singleton]

/-! ## What may come next -/

/-- What comes next, if anything does, stands further out than a cause this many
steps in. -/
def EndsAbove (depth : Nat) (rest : List Row) : Prop :=
  ∀ row ∈ rest.head?, row.depth < depth

theorem eq_label_or_of_mem_head {depth : Nat} {suppressed : List Cause} {rest : List Row}
    {row : Row} (next : row ∈ (suppressedRows shown depth suppressed ++ rest).head?) :
    row = Row.suppressedLabel depth ∨ row ∈ rest.head? := by
  cases suppressed with
  | nil => exact Or.inr next
  | cons first others =>
      rw [suppressedRows_cons, List.cons_append, List.head?_cons, Option.mem_some_iff] at next
      exact Or.inl next.symm

theorem EndsAbove.eq_label_or_lt {depth : Nat} {rest : List Row} (ends : EndsAbove depth rest)
    {cause : Option Cause} {row : Row}
    (next : row ∈ (causedByRows shown depth cause ++ rest).head?) :
    row = Row.causedByLabel depth ∨ row.depth < depth := by
  cases cause with
  | none => exact Or.inr (ends row next)
  | some inner =>
      rw [causedByRows_some, List.cons_append, List.head?_cons, Option.mem_some_iff] at next
      exact Or.inl next.symm

/-- Behind a suppressed cause stands a label that is further out, or nothing of
the cause around it. -/
theorem EndsAbove.suppressedRows {depth : Nat} {rest : List Row}
    (ends : EndsAbove (depth + 1) rest) (suppressed : List Cause) :
    EndsAbove (depth + 1) (suppressedRows shown depth suppressed ++ rest) := by
  intro row next
  rcases eq_label_or_of_mem_head next with rfl | next
  · exact Nat.lt_succ_self depth
  · exact ends row next

theorem EndsAbove.causedByRows {depth : Nat} {rest : List Row} (ends : EndsAbove depth rest)
    (cause : Option Cause) :
    EndsAbove (depth + 1) (causedByRows shown depth cause ++ rest) := by
  intro row next
  rcases ends.eq_label_or_lt next with rfl | above
  · exact Nat.lt_succ_self depth
  · exact Nat.lt_succ_of_lt above

/-! ## Reading the rows -/

/-- Behind the frames of a cause no row is another of its frames. -/
theorem takeWhile_frames (shown : String → List Char) {depth : Nat} (frames : List String)
    {rest : List Row}
    (noFrame : ∀ row ∈ rest.head?, Row.isFrameAt depth row = false) :
    let own : List Row := frames.map fun frame => ⟨depth, true, shown frame⟩
    (own ++ rest).takeWhile (Row.isFrameAt depth) = own ∧
      (own ++ rest).dropWhile (Row.isFrameAt depth) = rest := by
  intro own
  have isOwn : ∀ row ∈ own, Row.isFrameAt depth row = true := by
    intro row member
    rcases List.mem_map.mp member with ⟨frame, _, rfl⟩
    rw [Row.isFrameAt, beq_self_eq_true, Bool.and_true]
  rw [List.takeWhile_append_of_pos isOwn, List.dropWhile_append_of_pos isOwn]
  cases rest with
  | nil => exact ⟨List.append_nil own, rfl⟩
  | cons row rest =>
      have other := Bool.eq_false_iff.mp (noFrame row rfl)
      rw [List.takeWhile_cons_of_neg other, List.dropWhile_cons_of_neg other, List.append_nil]
      exact ⟨rfl, rfl⟩

theorem readSuppressed_of_other (fuel : Nat) {depth : Nat} {rest : List Row}
    (other : ∀ row ∈ rest.head?, row ≠ Row.suppressedLabel depth) :
    readSuppressed fuel depth rest = some ([], rest) := by
  cases fuel with
  | zero => rw [readSuppressed]; intros; contradiction
  | succ fuel =>
      cases rest with
      | nil => rw [readSuppressed]; intros; contradiction
      | cons row rest => rw [readSuppressed, if_neg (other row rfl)]

theorem readCausedBy_of_other (fuel : Nat) {depth : Nat} {rest : List Row}
    (other : ∀ row ∈ rest.head?, row ≠ Row.causedByLabel depth) :
    readCausedBy fuel depth rest = some (none, rest) := by
  cases fuel with
  | zero => rw [readCausedBy]; intros; contradiction
  | succ fuel =>
      cases rest with
      | nil => rw [readCausedBy]; intros; contradiction
      | cons row rest => rw [readCausedBy, if_neg (other row rfl)]

/-- Wherever its rows stand in front of what ends it, the cause is read, with
its texts as they are shown. -/
def IsRead (shown : String → List Char) (cause : Cause) : Prop :=
  ∀ fuel depth rest, (rows shown depth cause).length ≤ fuel → EndsAbove depth rest →
    readBlock fuel depth (rows shown depth cause ++ rest) =
      some (cause.mapTexts fun text => String.ofList (shown text), rest)

theorem readSuppressed_rows {suppressed : List Cause}
    (areRead : ∀ inner ∈ suppressed, IsRead shown inner) (fuel : Nat) {depth : Nat}
    {rest : List Row}
    (enough : (suppressedRows shown depth suppressed).length ≤ fuel)
    (ends : EndsAbove (depth + 1) rest)
    (other : ∀ row ∈ rest.head?, row ≠ Row.suppressedLabel depth) :
    readSuppressed fuel depth (suppressedRows shown depth suppressed ++ rest) =
      some (mapAll (fun text => String.ofList (shown text)) suppressed, rest) := by
  -- For the reader of the first cause, the other ones are part of the rest.
  induction suppressed generalizing fuel with
  | nil => exact readSuppressed_of_other fuel other
  | cons first others ih =>
      rw [suppressedRows_cons, List.length_cons, List.length_append] at enough
      cases fuel with
      | zero => exact absurd enough (Nat.not_succ_le_zero _)
      | succ fuel =>
          have firstRead := areRead first List.mem_cons_self fuel (depth + 1)
            (suppressedRows shown depth others ++ rest) (by omega) (ends.suppressedRows others)
          have othersRead := ih (fun inner member => areRead inner (List.mem_cons_of_mem _ member))
            fuel (by omega)
          rw [suppressedRows_cons, List.cons_append, List.append_assoc, readSuppressed, if_pos rfl,
            firstRead]
          change (readSuppressed fuel depth _).bind _ = _
          rw [othersRead]
          rfl

theorem readCausedBy_rows {cause : Option Cause} (isRead : ∀ inner ∈ cause, IsRead shown inner)
    (fuel : Nat) {depth : Nat} {rest : List Row}
    (enough : (causedByRows shown depth cause).length ≤ fuel) (ends : EndsAbove depth rest) :
    readCausedBy fuel depth (causedByRows shown depth cause ++ rest) =
      some (mapOption (fun text => String.ofList (shown text)) cause, rest) := by
  cases cause with
  | none =>
      apply readCausedBy_of_other
      rintro row next rfl
      exact absurd (ends _ next) (Nat.lt_irrefl depth)
  | some inner =>
      rw [causedByRows_some, List.length_cons] at enough
      cases fuel with
      | zero => exact absurd enough (Nat.not_succ_le_zero _)
      | succ fuel =>
          have innerRead := isRead inner rfl fuel depth rest (by omega) ends
          rw [causedByRows_some, List.cons_append, readCausedBy, if_pos rfl, innerRead]
          rfl

/-- Every cause is read back, with its texts as they are shown. -/
theorem readBlock_rows (untabbed : ∀ text, '\t' ∉ shown text) (cause : Cause) :
    IsRead shown cause := by
  induction cause using ind with
  | node summary frames suppressed cause inSuppressed beneath =>
      intro fuel depth rest enough ends
      rw [rows_mk untabbed, List.length_append, List.length_append, List.length_cons] at enough
      cases fuel with
      | zero => omega
      | succ fuel =>
          -- Behind the frames comes a label of this depth or a line further out.
          have noFrame : ∀ row ∈ (suppressedRows shown depth suppressed ++
              (causedByRows shown depth cause ++ rest)).head?,
              Row.isFrameAt depth row = false := by
            intro row next
            rcases eq_label_or_of_mem_head next with rfl | next
            · rfl
            · rcases ends.eq_label_or_lt next with rfl | above
              · rfl
              · exact Row.isFrameAt_of_lt above
          have noSuppressed : ∀ row ∈ (causedByRows shown depth cause ++ rest).head?,
              row ≠ Row.suppressedLabel depth := by
            rintro row next rfl
            rcases ends.eq_label_or_lt next with same | above
            · cases (Row.mk.inj same).2.2
            · exact absurd above (Nat.lt_irrefl depth)
          have framesRead := takeWhile_frames shown frames noFrame
          have suppressedRead := readSuppressed_rows inSuppressed fuel (by omega)
            (ends.causedByRows cause) noSuppressed
          have causeRead := readCausedBy_rows beneath fuel (by omega) ends
          rw [rows_mk untabbed, List.cons_append, List.cons_append, List.cons_append,
            List.append_assoc, List.append_assoc, readBlock, if_pos rfl, framesRead.1,
            framesRead.2, suppressedRead]
          change (readCausedBy fuel depth _).bind _ = _
          rw [causeRead]
          change some (mk _ ((frames.map fun frame => _).map _) _ _, rest) = _
          rw [List.map_map, mapTexts]
          rfl

theorem ofRows?_rows (untabbed : ∀ text, '\t' ∉ shown text) (cause : Cause) :
    ofRows? (rows shown 0 cause) =
      some (some (cause.mapTexts fun text => String.ofList (shown text))) := by
  have nonempty : (rows shown 0 cause).isEmpty = false := by
    cases cause with
    | mk summary frames suppressed cause => rw [rows_mk untabbed]; rfl
  have wholeRead := readBlock_rows untabbed cause _ 0 [] (Nat.le_refl _) nofun
  rw [List.append_nil] at wholeRead
  rw [ofRows?, nonempty, if_neg Bool.false_ne_true, wholeRead]

end Rows

/-- The cause with every text in it escaped. -/
def escaped (cause : Cause) : Cause :=
  cause.mapTexts fun text => String.ofList (escape text.toList)

/-- A cause is written like the cause that has its texts escaped already. -/
theorem lines_escaped {config : Config} (escapes : config.escapeMessages = true)
    (indent : List Char) (cause : Cause) :
    lines String.toList indent cause.escaped = lines (Record.shown config) indent cause := by
  rw [escaped, lines_mapTexts]
  congr 1
  funext text
  rw [String.toList_ofList, Record.shown_of_escapes escapes]

end Cause

namespace Record

variable {config : Config}

/-- The lines of a record are what stands in front of its cause and the lines of
its cause. -/
theorem splitOn_text (escapes : config.escapeMessages = true)
    (displayed : config.hideStacks = false) (record : Record) :
    (text config record).splitOn '\n' =
      (heading config record ++ messageText config record) ::
        record.cause.toList.flatMap (Cause.lines (shown config) []) := by
  have unbroken : '\n' ∉ heading config record ++ messageText config record := by
    apply Tabbed.lineFeed_not_mem
    apply tabbed_of_controls_eq_nil
    rw [controls_append, controls_heading escapes, controls_messageText escapes, List.nil_append]
  have inBlock : causeText config record.cause =
      (record.cause.toList.flatMap (Cause.lines (shown config) [])).flatMap
        fun line => '\n' :: line := by
    cases record.cause with
    | none => rfl
    | some cause =>
        rw [causeText_of_displayed displayed, Option.toList_some, List.flatMap_singleton]
  rw [text, inBlock]
  apply splitOn_flatMap_lineFeed unbroken
  intro line member
  rcases List.mem_flatMap.mp member with ⟨cause, _, member⟩
  exact (Cause.tabbed_of_mem_lines (controls_shown escapes) (by decide : Tabbed []) cause line
    member).lineFeed_not_mem

/-- Causes are written alike when they differ only in how their texts were before
they were escaped. -/
theorem causeText_congr (escapes : config.escapeMessages = true)
    (displayed : config.hideStacks = false) {first second : Option Cause}
    (sameEscaped : first.map Cause.escaped = second.map Cause.escaped) :
    causeText config first = causeText config second := by
  cases first with
  | none => rw [Option.map_eq_none_iff.mp sameEscaped.symm]
  | some first =>
      rcases Option.map_eq_some_iff.mp sameEscaped.symm with ⟨second, rfl, same⟩
      rw [causeText_of_displayed displayed, causeText_of_displayed displayed,
        ← Cause.lines_escaped escapes, ← Cause.lines_escaped escapes, same]

/-- The cause of a written record is read back, and so is that there is none. -/
theorem ofWritten?_render (escapes : config.escapeMessages = true)
    (displayed : config.hideStacks = false) (record : Record) :
    Cause.ofWritten? (render config record) = some (record.cause.map Cause.escaped) := by
  have found : ((render config record).toList.splitOn '\n').tail =
      record.cause.toList.flatMap (Cause.lines (shown config) []) := by
    rw [toList_render, splitOn_text escapes displayed, List.tail_cons]
  rw [Cause.ofWritten?, found]
  cases record.cause with
  | none => rfl
  | some cause =>
      have untabbed : ∀ text, '\t' ∉ shown config text := by
        intro text member
        have control := mem_controls_iff.mpr ⟨member, rfl⟩
        rw [controls_shown escapes] at control
        cases control
      have same : (fun text => String.ofList (shown config text)) =
          fun text => String.ofList (escape text.toList) := by
        funext text
        rw [shown_of_escapes escapes]
      rw [Option.toList_some, List.flatMap_singleton, Option.map_some, Cause.escaped, ← same]
      exact Cause.ofRows?_rows untabbed cause

end Record

namespace Appender

variable {ω : Type}

/-- With escaping on and stacks shown, a record is written alike with two causes,
or with none, exactly if they are equal once their texts are escaped.  What is
written tells the cause, its texts escaped. -/
theorem format_eq_iff_escaped (appender : Appender ω)
    (escapes : appender.config.escapeMessages = true)
    (displayed : appender.config.hideStacks = false) (record : Record) :
    (∀ first second : Option Cause,
      appender.format { record with cause := first } =
          appender.format { record with cause := second } ↔
        first.map Cause.escaped = second.map Cause.escaped) ∧
    ∀ cause : Option Cause,
      Cause.ofWritten? (appender.format { record with cause }) =
        some (cause.map Cause.escaped) := by
  have read : ∀ cause : Option Cause,
      Cause.ofWritten? (appender.format { record with cause }) =
        some (cause.map Cause.escaped) :=
    fun cause => Record.ofWritten?_render escapes displayed { record with cause }
  refine ⟨?_, read⟩
  intro first second
  constructor
  · intro sameText
    have sameRead := congrArg Cause.ofWritten? sameText
    rw [read, read] at sameRead
    exact Option.some.inj sameRead
  · intro sameEscaped
    have sameBlock := Record.causeText_congr escapes displayed sameEscaped
    unfold format Record.render Record.text
    rw [sameBlock]
    rfl

/-- Two causes with the same texts, some of which pass for labels, are told
apart by what the innermost is the cause of.  A line feed is not told from its
stand-in. -/
theorem labels_in_texts_mislead_no_reader :
    let appender : Appender Unit := .new default .reliable
    let record := Record.new .epoch .error "sink" "main"
    let inSuppressed : Cause :=
      .mk "Caused by: " ["\tat a"] [.mk "Suppressed: " [] [] (some (.ofSummary "\t|a\n"))] none
    let beneath : Cause :=
      .mk "Caused by: " ["\tat a"] [.ofSummary "Suppressed: "] (some (.ofSummary "\t|a\n"))
    let replaced : Cause :=
      .mk "Caused by: " ["?at a"] [.ofSummary "Suppressed: "] (some (.ofSummary "?|a|"))
    (appender.config.escapeMessages = true ∧ appender.config.hideStacks = false) ∧
      appender.format { record with cause := some inSuppressed } ≠
        appender.format { record with cause := some beneath } ∧
      appender.format { record with cause := some beneath } =
        appender.format { record with cause := some replaced } ∧
      Cause.ofWritten? (appender.format { record with cause := some beneath }) =
        some (some replaced) := by
  intro appender record inSuppressed beneath replaced
  have readable := format_eq_iff_escaped appender rfl rfl record
  refine ⟨⟨rfl, rfl⟩, ?_, ?_, ?_⟩
  · intro sameText
    have same := (readable.1 _ _).mp sameText
    revert same
    decide
  · exact (readable.1 _ _).mpr (by decide)
  · rw [readable.2]
    decide

end Appender

end Diagnostics
end Reassembly
