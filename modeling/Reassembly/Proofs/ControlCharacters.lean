import Reassembly.Diagnostics.Record
import Reassembly.SinkError

namespace Reassembly

/-!
# The control characters of written text

`Text.controls` reads off a text the control characters in it, in order.  It
goes through concatenation, so what a line holds is known from its parts: an
escaped text holds none, and neither does a numeral, a time, a label or the
reason why a message could not be put together.  All that comes in front of a
cause is made of these (`Record.controls_heading`,
`Record.controls_messageText`).
-/

namespace Text

/-- The control characters of a text, in order. -/
def controls (text : List Char) : List Char :=
  text.filter isControl

@[simp] theorem controls_nil : controls [] = [] := rfl

@[simp] theorem controls_append (first second : List Char) :
    controls (first ++ second) = controls first ++ controls second :=
  List.filter_append ..

@[simp] theorem controls_cons_of_visible {char : Char} (visible : isControl char = false)
    (text : List Char) : controls (char :: text) = controls text := by
  rw [controls, List.filter_cons_of_neg (by rw [visible]; exact Bool.false_ne_true), controls]

theorem controls_eq_nil_iff {text : List Char} :
    controls text = [] ↔ ∀ char ∈ text, isControl char = false := by
  rw [controls, List.filter_eq_nil_iff]
  constructor
  · intro none_there char member
    exact Bool.eq_false_iff.mpr (none_there char member)
  · intro visible char member
    exact Bool.eq_false_iff.mp (visible char member)

theorem mem_controls_iff {text : List Char} {char : Char} :
    char ∈ controls text ↔ char ∈ text ∧ isControl char = true :=
  List.mem_filter

/-! ## Numerals -/

theorem isControl_of_isDigit {char : Char} (digit : char.isDigit = true) :
    isControl char = false := by
  rw [Char.isDigit, Bool.and_eq_true, decide_eq_true_iff, decide_eq_true_iff, ge_iff_le,
    UInt32.le_iff_toNat_le, UInt32.le_iff_toNat_le] at digit
  have least : 48 ≤ char.toNat := digit.1
  have most : char.toNat ≤ 57 := digit.2
  rw [isControl, Bool.or_eq_false_iff, Bool.and_eq_false_iff, decide_eq_false_iff_not,
    decide_eq_false_iff_not, decide_eq_false_iff_not]
  omega

@[simp] theorem controls_toDigits (number : Nat) : controls (Nat.toDigits 10 number) = [] := by
  rw [controls_eq_nil_iff]
  intro char member
  exact isControl_of_isDigit (Nat.isDigit_of_mem_toDigits (by decide) (by decide) member)

@[simp] theorem controls_toString (number : Nat) : controls (toString number).toList = [] := by
  rw [Nat.toString_eq_repr, Nat.toList_repr, controls_toDigits]

@[simp] theorem controls_padded (width number : Nat) : controls (padded width number) = [] := by
  rw [controls_eq_nil_iff]
  intro char member
  exact isControl_of_isDigit (isDigit_of_mem_padded member)

/-- The commas between groups are visible. -/
theorem Grouped.controls_separate (lead place : Nat) (digits : List Char) :
    controls (separate lead place digits) = controls digits := by
  induction digits generalizing place with
  | nil => rfl
  | cons digit rest ih =>
      have sameHead :
          controls (digit :: separate lead (place + 1) rest) = controls (digit :: rest) := by
        rw [← List.singleton_append, controls_append, ih, ← controls_append,
          List.singleton_append]
      unfold separate
      split
      · rw [controls_cons_of_visible rfl, sameHead]
      · exact sameHead

@[simp] theorem controls_grouped (number : Nat) : controls (grouped number) = [] := by
  rw [grouped, Grouped.digits, Grouped.controls_separate, controls_toDigits]

end Text

/-- The wording of a limit that was passed shows nothing but numerals. -/
theorem SinkError.controls_wording_tooLarge (actual : UInt64) (limit : Bound) :
    Text.controls (SinkError.tooLarge actual limit).wording = [] := by
  have front : Text.controls "binary message too large: (actual) ".toList = [] := by decide
  have between : Text.controls " > (configured max binary buffer size) ".toList = [] := by decide
  unfold wording
  simp only [Text.controls_append, front, between, Text.controls_grouped, List.nil_append]

namespace Diagnostics

open Text

/-! ## The parts of a line -/

@[simp] theorem controls_escape (text : List Char) : controls (escape text) = [] :=
  controls_eq_nil_iff.mpr fun _ member => isControl_of_mem_escape member

theorem escapeChar_of_visible {char : Char} (visible : isControl char = false) :
    escapeChar char = char := by
  have not_control : ∀ {other : Char}, isControl other = true → char ≠ other := by
    rintro other control rfl
    rw [visible] at control
    cases control
  rw [escapeChar, if_neg (not_control rfl), if_neg (not_control rfl), visible]
  rfl

/-- A text without control characters stays as it is. -/
theorem escape_of_controls_eq_nil {text : List Char} (plain : controls text = []) :
    escape text = text := by
  rw [controls_eq_nil_iff] at plain
  calc
    escape text = text.map id :=
      List.map_congr_left fun char member => escapeChar_of_visible (plain char member)
    _ = text := List.map_id text

theorem Date.controls_render (date : Date) : controls date.render = [] := by
  have year : controls (yearText date.year) = [] := by
    unfold yearText
    split
    · simp [isControl]
    · split
      · simp
      · simp [isControl]
  simp [render, year, isControl]

theorem Timestamp.controls_render (timestamp : Timestamp) (offset : UtcOffset) :
    controls (timestamp.render offset) = [] := by
  simp [render, clockText, Date.controls_render, isControl]

theorem controls_label (level : Level) : controls level.label.toList = [] := by
  cases level <;> decide

theorem FormatError.controls_message (error : FormatError) :
    controls error.message.toList = [] := by
  cases error with
  | countMismatch placeholders arguments =>
      have front : controls "template has ".toList = [] := by decide
      have between : controls " placeholders but ".toList = [] := by decide
      have back : controls " arguments were supplied".toList = [] := by decide
      unfold message
      simp only [String.toList_append, controls_append, controls_toString]
      rw [front, between, back]
      rfl
  | missingTemplate arguments =>
      have back : controls " arguments supplied without a template".toList = [] := by decide
      unfold message
      simp only [String.toList_append, controls_append, controls_toString]
      rw [back]
      rfl

namespace Record

variable {config : Config}

/-- With escaping on, no text shows a control character. -/
theorem controls_shown (escaped : config.escapeMessages = true) (text : String) :
    controls (shown config text) = [] := by
  rw [shown_of_escapes escaped, controls_escape]

/-- A name is condensed first and escaped then, so its last segment is escaped
too. -/
theorem controls_nameText (escaped : config.escapeMessages = true) (name : String) :
    controls (nameText config name) = [] := by
  rw [nameText, escapeIf, if_pos escaped, controls_escape]

theorem controls_heading (escaped : config.escapeMessages = true) (record : Record) :
    controls (heading config record) = [] := by
  simp [heading, Timestamp.controls_render, controls_label, controls_nameText escaped,
    controls_shown escaped, isControl]

/-- The message shows no control character, and the reason why there is none
does not either. -/
theorem controls_messageText (escaped : config.escapeMessages = true) (record : Record) :
    controls (messageText config record) = [] := by
  unfold messageText
  split
  · rw [escapeIf, if_pos escaped, controls_escape]
  · simp [controls_shown escaped, FormatError.controls_message, isControl]

end Record

end Diagnostics
end Reassembly
