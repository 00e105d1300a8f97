import Reassembly.Diagnostics.Appender
import Reassembly.Proofs.Calendar

namespace Reassembly

/-!
# The order of written times

A line starts with the time of its record, and lines are often sorted as texts.
That sorts them by time, down to the millisecond, because the time is written as
a row of numerals of fixed widths from the year to the milliseconds: the row
compares as its numbers do (`Reading.compares_text`), and the numbers compare as
the milliseconds that a clock at the offset has counted
(`Timestamp.order_reading`).

Two kinds of time are left out.  A year outside four digits is written longer and
with a sign, and a leap second is written as one second more than the second it
follows.
-/

namespace Text

/-- The text in front of the first place where a mark stands, all of it if there
is none. -/
def before (mark : List Char) : List Char → List Char
  | [] => []
  | char :: rest => if mark.isPrefixOf (char :: rest) then [] else char :: before mark rest

theorem before_of_prefix {mark : List Char} {char : Char} {rest : List Char}
    (here : mark <+: char :: rest) : before mark (char :: rest) = [] := by
  rw [before, if_pos (List.isPrefixOf_iff_prefix.mpr here)]

theorem before_of_not_prefix {mark : List Char} {char : Char} {rest : List Char}
    (elsewhere : ¬ mark <+: char :: rest) :
    before mark (char :: rest) = char :: before mark rest := by
  rw [before, if_neg (mt List.isPrefixOf_iff_prefix.mp elsewhere)]

/-- A mark of a colon and a letter is found behind a text of characters that come
before the letter, as digits and colons do. -/
theorem before_append {front more : List Char} {letter : Char}
    (colon : ':'.toNat < letter.toNat) (lower : ∀ char ∈ front, char.toNat < letter.toNat)
    (rest : List Char) :
    before (':' :: letter :: more) (front ++ ((':' :: letter :: more) ++ rest)) = front := by
  induction front with
  | nil => exact before_of_prefix (List.prefix_append _ rest)
  | cons char further ih =>
      rw [List.forall_mem_cons] at lower
      -- the second character of the mark would be one of the text or a colon
      have elsewhere : ¬ (':' :: letter :: more) <+:
          char :: (further ++ ((':' :: letter :: more) ++ rest)) := by
        intro here
        obtain ⟨behind, same⟩ := (List.cons_prefix_cons.mp here).2
        cases further with
        | nil => exact Nat.ne_of_lt colon (congrArg Char.toNat (List.cons.inj same).1.symm)
        | cons other later =>
            have low := lower.2 other List.mem_cons_self
            exact Nat.ne_of_lt low (congrArg Char.toNat (List.cons.inj same).1.symm)
      rw [List.cons_append, before_of_not_prefix elsewhere, ih lower.2]

theorem toNat_lt_of_mem_padded (width number : Nat) :
    ∀ char ∈ padded width number, char.toNat < 65 := by
  intro char member
  have digit := isDigit_of_mem_padded member
  rw [Char.isDigit, Bool.and_eq_true, decide_eq_true_iff, decide_eq_true_iff] at digit
  exact Nat.lt_of_le_of_lt (UInt32.le_iff_toNat_le.mp digit.2) (by decide)

end Text

namespace Diagnostics

open Text

/-- What a clock with a calendar shows: numbers that fit their widths. -/
structure Reading where
  year : Nat
  month : Nat
  day : Nat
  hour : Nat
  minute : Nat
  second : Nat
  milli : Nat
  year_lt : year < 10 ^ 4
  month_lt : month < 10 ^ 2
  day_lt : day < 10 ^ 2
  hour_lt : hour < 10 ^ 2
  minute_lt : minute < 10 ^ 2
  second_lt : second < 10 ^ 2
  milli_lt : milli < 10 ^ 3

namespace Reading

def text (reading : Reading) : List Char :=
  padded 4 reading.year ++ '-' :: (padded 2 reading.month ++ '-' :: (padded 2 reading.day ++
    ' ' :: (padded 2 reading.hour ++ ':' :: (padded 2 reading.minute ++
      ':' :: (padded 2 reading.second ++ '.' :: padded 3 reading.milli)))))

/-- Readings are ordered by their years first and by their milliseconds last. -/
def order (left right : Reading) : Ordering :=
  (cmp left.year right.year).then <| (cmp left.month right.month).then <|
    (cmp left.day right.day).then <| (cmp left.hour right.hour).then <|
      (cmp left.minute right.minute).then <| (cmp left.second right.second).then <|
        cmp left.milli right.milli

theorem compares_text (left right : Reading) :
    (left.order right).Compares left.text right.text := by
  have two : 0 < 2 := by decide
  apply compares_padded_append (by decide) left.year_lt right.year_lt
  apply compares_padded_append two left.month_lt right.month_lt
  apply compares_padded_append two left.day_lt right.day_lt
  apply compares_padded_append two left.hour_lt right.hour_lt
  apply compares_padded_append two left.minute_lt right.minute_lt
  apply compares_padded_append two left.second_lt right.second_lt
  exact compares_padded (by decide) left.milli_lt right.milli_lt

theorem length_text (reading : Reading) : reading.text.length = 23 := by
  have two : 0 < 2 := by decide
  simp only [text, List.length_append, List.length_cons,
    length_padded (by decide) reading.year_lt, length_padded two reading.month_lt,
    length_padded two reading.day_lt, length_padded two reading.hour_lt,
    length_padded two reading.minute_lt, length_padded two reading.second_lt,
    length_padded (by decide) reading.milli_lt]

theorem toNat_lt_of_mem_text (reading : Reading) : ∀ char ∈ reading.text, char.toNat < 65 := by
  have numeral := toNat_lt_of_mem_padded
  simp only [text, List.forall_mem_append, List.forall_mem_cons]
  exact ⟨numeral _ _, by decide, numeral _ _, by decide, numeral _ _, by decide, numeral _ _,
    by decide, numeral _ _, by decide, numeral _ _, by decide, numeral _ _⟩

end Reading

namespace Timestamp

/-- The milliseconds since the epoch that a clock at this offset has counted. -/
def localMillis (timestamp : Timestamp) (offset : UtcOffset) : Int :=
  (timestamp.localSeconds offset * 1000000000 + timestamp.nanos) / 1000000

/-- No leap second, and a year of four digits at this offset. -/
structure IsOrdinary (timestamp : Timestamp) (offset : UtcOffset) : Prop where
  nanos_lt : timestamp.nanos < 1000000000
  year : 0 ≤ (timestamp.date offset).year ∧ (timestamp.date offset).year ≤ 9999

def secondOfDay (timestamp : Timestamp) (offset : UtcOffset) : Nat :=
  (timestamp.localSeconds offset % 86400).toNat

section Readings

variable {timestamp left right : Timestamp} {offset : UtcOffset}

theorem natCast_secondOfDay (timestamp : Timestamp) (offset : UtcOffset) :
    (timestamp.secondOfDay offset : Int) = timestamp.localSeconds offset % 86400 := by
  rw [secondOfDay]
  omega

theorem secondOfDay_lt (timestamp : Timestamp) (offset : UtcOffset) :
    timestamp.secondOfDay offset < 86400 := by
  rw [secondOfDay]
  omega

/-- What a clock at this offset shows at an instant. -/
def reading (ordinary : timestamp.IsOrdinary offset) : Reading where
  year := (timestamp.date offset).year.natAbs
  month := (timestamp.date offset).month
  day := (timestamp.date offset).day
  hour := timestamp.secondOfDay offset / 3600
  minute := timestamp.secondOfDay offset / 60 % 60
  second := timestamp.secondOfDay offset % 60
  milli := timestamp.nanos / 1000000
  year_lt := by
    have range := ordinary.year
    omega
  month_lt := by
    have bounds := Date.ofEpochDay_bounds (timestamp.localSeconds offset / 86400)
    exact Nat.lt_of_le_of_lt bounds.1 (by decide)
  day_lt := by
    have bounds := Date.ofEpochDay_bounds (timestamp.localSeconds offset / 86400)
    exact Nat.lt_of_le_of_lt bounds.2 (by decide)
  hour_lt := by
    have within := timestamp.secondOfDay_lt offset
    omega
  minute_lt := by omega
  second_lt := by omega
  milli_lt := by
    have within := ordinary.nanos_lt
    omega

theorem render_eq_text (ordinary : timestamp.IsOrdinary offset) :
    timestamp.render offset = (reading ordinary).text := by
  have year : Date.yearText (timestamp.date offset).year =
      padded 4 (timestamp.date offset).year.natAbs := by
    rw [Date.yearText, if_neg (Int.not_lt.mpr ordinary.year.1), if_pos ordinary.year.2]
  have second : timestamp.nanos / 1000000000 = 0 := Nat.div_eq_of_lt ordinary.nanos_lt
  have subsecond : timestamp.subsecond = timestamp.nanos := Nat.mod_eq_of_lt ordinary.nanos_lt
  simp only [render, Date.render, year, clockText, second, subsecond, Nat.add_zero,
    List.append_assoc, List.cons_append]
  rfl

/-! ### The order of readings -/

theorem localMillis_ediv (ordinary : timestamp.IsOrdinary offset) :
    timestamp.localMillis offset / 1000 = timestamp.localSeconds offset := by
  have within := ordinary.nanos_lt
  rw [localMillis]
  omega

theorem localMillis_emod (ordinary : timestamp.IsOrdinary offset) :
    timestamp.localMillis offset % 1000 = ((timestamp.nanos / 1000000 : Nat) : Int) := by
  have within := ordinary.nanos_lt
  rw [localMillis]
  omega

theorem cmp_localMillis (leftOrdinary : left.IsOrdinary offset)
    (rightOrdinary : right.IsOrdinary offset) :
    cmp (left.localMillis offset) (right.localMillis offset) =
      (cmp (left.localSeconds offset) (right.localSeconds offset)).then
        (cmp (left.nanos / 1000000) (right.nanos / 1000000)) := by
  rw [cmp_ediv_emod (by decide : (0 : Int) < 1000), localMillis_ediv leftOrdinary,
    localMillis_ediv rightOrdinary, localMillis_emod leftOrdinary,
    localMillis_emod rightOrdinary, cmp_natCast]

theorem cmp_localSeconds (left right : Timestamp) (offset : UtcOffset) :
    cmp (left.localSeconds offset) (right.localSeconds offset) =
      (cmp (left.localSeconds offset / 86400) (right.localSeconds offset / 86400)).then
        (cmp (left.secondOfDay offset) (right.secondOfDay offset)) := by
  rw [← cmp_natCast, natCast_secondOfDay, natCast_secondOfDay]
  exact cmp_ediv_emod (by decide) _ _

theorem cmp_secondOfDay (left right : Nat) :
    cmp left right = (cmp (left / 3600) (right / 3600)).then
      ((cmp (left / 60 % 60) (right / 60 % 60)).then (cmp (left % 60) (right % 60))) := by
  have minutes (second : Nat) : second % 3600 / 60 = second / 60 % 60 := by omega
  have seconds (second : Nat) : second % 3600 % 60 = second % 60 := by omega
  rw [cmp_div_mod (by decide : 0 < 3600) left right,
    cmp_div_mod (by decide : 0 < 60) (left % 3600) (right % 3600), minutes, minutes, seconds,
    seconds]

/-- Readings are in the order of their instants, down to the millisecond. -/
theorem order_reading (leftOrdinary : left.IsOrdinary offset)
    (rightOrdinary : right.IsOrdinary offset) :
    (reading leftOrdinary).order (reading rightOrdinary) =
      cmp (left.localMillis offset) (right.localMillis offset) := by
  have years : cmp (left.date offset).year (right.date offset).year =
      cmp (left.date offset).year.natAbs (right.date offset).year.natAbs := by
    rw [← cmp_natCast, Int.natAbs_of_nonneg leftOrdinary.year.1,
      Int.natAbs_of_nonneg rightOrdinary.year.1]
  rw [cmp_localMillis leftOrdinary rightOrdinary, cmp_localSeconds, Date.cmp_ofEpochDay,
    cmp_secondOfDay (left.secondOfDay offset)]
  -- date, time of day and milliseconds are in place and only grouped otherwise
  rw [← date, ← date, years, Ordering.then_assoc, Ordering.then_assoc, Ordering.then_assoc,
    Ordering.then_assoc, Ordering.then_assoc]
  rfl

end Readings

end Timestamp

namespace Appender

variable {ω : Type}

/-- The mark of a level in a line, in front of which the time stands. -/
def levelMark (level : Level) : List Char :=
  ':' :: level.label.toList

theorem exists_levelMark (level : Level) :
    ∃ letter more, levelMark level = ':' :: letter :: more ∧ 65 ≤ letter.toNat := by
  cases level <;> exact ⟨_, _, rfl, by decide⟩

theorem exists_format_eq (appender : Appender ω) (record : Record) :
    ∃ rest, (appender.format record).toList =
      record.timestamp.render appender.config.offset ++ (levelMark record.level ++ rest) := by
  rw [format, Record.toList_render, Record.text, Record.heading]
  simp only [List.append_assoc, List.cons_append]
  exact ⟨_, rfl⟩

theorem before_format (appender : Appender ω) (record : Record)
    (ordinary : record.timestamp.IsOrdinary appender.config.offset) :
    before (levelMark record.level) (appender.format record).toList =
      (Timestamp.reading ordinary).text := by
  obtain ⟨rest, written⟩ := appender.exists_format_eq record
  obtain ⟨letter, more, mark, high⟩ := exists_levelMark record.level
  rw [written, mark, Timestamp.render_eq_text ordinary]
  apply before_append (Nat.lt_of_lt_of_le (by decide) high)
  intro char member
  exact Nat.lt_of_lt_of_le (Reading.toNat_lt_of_mem_text _ char member) high

/-- Of any two records whose times are no leap seconds and lie in years of four
digits at the offset in use, the written times have the same length, and the
order of the milliseconds that a clock at the offset has counted. -/
theorem written_times_sort_as_instants (appender : Appender ω) (first second : Record)
    (firstOrdinary : first.timestamp.IsOrdinary appender.config.offset)
    (secondOrdinary : second.timestamp.IsOrdinary appender.config.offset) :
    let time record := before (levelMark record.level) (appender.format record).toList
    let millis record := record.timestamp.localMillis appender.config.offset
    ((time first).length = 23 ∧ (time second).length = 23) ∧
      (time first < time second ↔ millis first < millis second) ∧
      (time first = time second ↔ millis first = millis second) ∧
      (time second < time first ↔ millis second < millis first) := by
  intro time millis
  have firstTime : time first = (Timestamp.reading firstOrdinary).text :=
    before_format appender first firstOrdinary
  have secondTime : time second = (Timestamp.reading secondOrdinary).text :=
    before_format appender second secondOrdinary
  have compares : (cmp (millis first) (millis second)).Compares (time first) (time second) := by
    rw [firstTime, secondTime, ← Timestamp.order_reading firstOrdinary secondOrdinary]
    exact Reading.compares_text _ _
  refine ⟨⟨?_, ?_⟩, ?_, ?_, ?_⟩
  · rw [firstTime, Reading.length_text]
  · rw [secondTime, Reading.length_text]
  · exact compares.eq_lt.symm.trans (cmp_eq_lt_iff _ _)
  · exact compares.eq_eq.symm.trans (cmp_eq_eq_iff _ _)
  · exact compares.eq_gt.symm.trans (cmp_eq_gt_iff _ _)

/-- At an offset of one hour the last millisecond of a year is written before the
first of the next, though both instants lie before the epoch. -/
theorem new_year_is_written_after_old_one :
    let offset : UtcOffset := ⟨3600, by decide⟩
    let appender : Appender Unit := .new { (default : Config) with offset } .reliable
    let last : Record := .new ⟨-3601, 999999999, by decide⟩ .warn "sink" "main"
    let first : Record := .new ⟨-3600, 0, by decide⟩ .info "pump" "main"
    (last.timestamp.IsOrdinary offset ∧ first.timestamp.IsOrdinary offset) ∧
      before (levelMark .warn) (appender.format last).toList <
        before (levelMark .info) (appender.format first).toList := by
  intro offset appender last first
  have old : last.timestamp.IsOrdinary offset := ⟨by decide, by decide⟩
  have new : first.timestamp.IsOrdinary offset := ⟨by decide, by decide⟩
  have sorted := written_times_sort_as_instants appender last first old new
  exact ⟨⟨old, new⟩, sorted.2.1.mpr (by decide)⟩

end Appender
end Diagnostics
end Reassembly
