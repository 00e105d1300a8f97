import Mathlib.Data.List.Basic
import Reassembly.SinkError
import Reassembly.Text.Decimal

namespace Reassembly

/-!
# Numerals in groups and what they tell

A numeral is separated by looking at the place of each digit, counted from the
left, although its groups of three are counted from the right.  The two agree
because the first group has as many digits as the length of the numeral leaves
over: behind it a comma is due at every third place (`separate_triples`).

Commas carry no digit, so a numeral can be read off its groups, and with it the
number.  `grouping_is_faithful` takes this as far as the failure text that names
two numbers: no other failure has that text.
-/

namespace Text
namespace Grouped

/-- A numeral parted into a first group of one to three digits and further
groups of exactly three. -/
structure Groups where
  first : List Char
  later : List (List Char)
  first_length : 1 ≤ first.length ∧ first.length ≤ 3
  later_length : ∀ group ∈ later, group.length = 3
  digit : ∀ char ∈ first ++ later.flatten, char.isDigit = true

namespace Groups

def numeral (groups : Groups) : List Char :=
  groups.first ++ groups.later.flatten

/-- The groups with a comma in front of each but the first. -/
def text (groups : Groups) : List Char :=
  groups.first ++ groups.later.flatMap (',' :: ·)

end Groups

/-! ## Where the commas go -/

section Places

variable {first : List Char} {later : List (List Char)}

theorem length_flatten_triples (triples : ∀ group ∈ later, group.length = 3) :
    later.flatten.length = 3 * later.length := by
  induction later with
  | nil => rfl
  | cons group rest ih =>
      rw [List.forall_mem_cons] at triples
      rw [List.flatten_cons, List.length_append, triples.1, ih triples.2, List.length_cons]
      omega

/-- The first group has no comma in it: none of its places but the first leaves
the remainder that its length leaves. -/
theorem separate_first (length : 1 ≤ first.length ∧ first.length ≤ 3) (rest : List Char) :
    separate (first.length % 3) 0 (first ++ rest) =
      first ++ separate (first.length % 3) first.length rest := by
  match first, length with
  | [_], _ => rfl
  | [_, _], _ => rfl
  | [_, _, _], _ => simp [separate]

/-- From a place where a comma is due, it is due in front of every third
digit. -/
theorem separate_triples (triples : ∀ group ∈ later, group.length = 3) {lead : Nat}
    (place : Nat) (behind : place ≠ 0) (due : place % 3 = lead) :
    separate lead place later.flatten = later.flatMap (',' :: ·) := by
  induction later generalizing place with
  | nil => rfl
  | cons group rest ih =>
      rw [List.forall_mem_cons] at triples
      obtain ⟨one, two, three, rfl⟩ := List.length_eq_three.mp triples.1
      have next := ih triples.2 (place + 3) (by omega) (by omega)
      change separate lead place (one :: two :: three :: rest.flatten) =
        ',' :: one :: two :: three :: rest.flatMap (',' :: ·)
      rw [separate, if_pos ⟨behind, due⟩, separate, if_neg (by omega), separate,
        if_neg (by omega), next]

theorem digits_numeral (groups : Groups) : digits groups.numeral = groups.text := by
  have lead : groups.numeral.length % 3 = groups.first.length % 3 := by
    rw [Groups.numeral, List.length_append, length_flatten_triples groups.later_length]
    omega
  have behind : groups.first.length ≠ 0 := Nat.ne_of_gt groups.first_length.1
  rw [digits, lead, Groups.numeral, separate_first groups.first_length,
    separate_triples groups.later_length _ behind rfl]
  rfl

end Places

/-! ## The groups of a numeral -/

/-- Every numeral is parted into groups, from its last digit on: a first group
that is full makes room for another. -/
theorem exists_groups {numeral : List Char} (some_digit : numeral ≠ [])
    (digit : ∀ char ∈ numeral, char.isDigit = true) :
    ∃ groups : Groups, groups.numeral = numeral := by
  induction numeral with
  | nil => contradiction
  | cons char rest ih =>
      by_cases alone : rest = []
      · subst alone
        refine ⟨⟨[char], [], ⟨Nat.le_refl 1, Nat.le_add_left 1 2⟩, ?_, digit⟩, rfl⟩
        intro group impossible
        cases impossible
      · have others := (List.forall_mem_cons.mp digit).2
        obtain ⟨⟨first, later, ⟨_, short⟩, triples, _⟩, rfl⟩ := ih alone others
        rcases Nat.lt_or_eq_of_le short with room | full
        · exact ⟨⟨char :: first, later, ⟨Nat.succ_pos _, room⟩, triples, digit⟩, rfl⟩
        · exact ⟨⟨[char], first :: later, ⟨Nat.le_refl 1, Nat.le_add_left 1 2⟩,
            List.forall_mem_cons.mpr ⟨full, triples⟩, digit⟩, rfl⟩

theorem exists_groups_decimal (number : Nat) :
    ∃ groups : Groups, groups.numeral = decimal number :=
  exists_groups Nat.toDigits_ne_nil fun _ member => isDigit_of_mem_decimal member

namespace Groups

theorem filter_flatMap_comma (later : List (List Char)) :
    (later.flatMap (',' :: ·)).filter (· != ',') = later.flatten.filter (· != ',') := by
  induction later with
  | nil => rfl
  | cons group rest ih =>
      rw [List.flatMap_cons, List.flatten_cons, List.cons_append,
        List.filter_cons_of_neg (by decide), List.filter_append, List.filter_append, ih]

/-- Without its commas the text is the numeral. -/
theorem filter_text (groups : Groups) : groups.text.filter (· != ',') = groups.numeral := by
  rw [text, List.filter_append, filter_flatMap_comma, ← List.filter_append, ← numeral,
    List.filter_eq_self]
  intro char member
  have digit := groups.digit char member
  rw [bne_iff_ne]
  rintro rfl
  cases digit

theorem digit_or_comma_of_mem_text {groups : Groups} {char : Char} (member : char ∈ groups.text) :
    char.isDigit = true ∨ char = ',' := by
  by_cases comma : char = ','
  · exact .inr comma
  · left
    apply groups.digit
    rw [← numeral, ← filter_text]
    exact List.mem_filter.mpr ⟨member, bne_iff_ne.mpr comma⟩

end Groups
end Grouped

/-! ## Numbers -/

theorem exists_groups_grouped (number : Nat) :
    ∃ groups : Grouped.Groups, grouped number = groups.text ∧ groups.numeral = decimal number := by
  obtain ⟨groups, numeral⟩ := Grouped.exists_groups_decimal number
  refine ⟨groups, ?_, numeral⟩
  rw [grouped, ← decimal, ← numeral, Grouped.digits_numeral]

theorem filter_grouped (number : Nat) : (grouped number).filter (· != ',') = decimal number := by
  obtain ⟨groups, parted, numeral⟩ := exists_groups_grouped number
  rw [parted, groups.filter_text, numeral]

theorem space_not_mem_grouped (number : Nat) : ' ' ∉ grouped number := by
  obtain ⟨groups, parted, _⟩ := exists_groups_grouped number
  rw [parted]
  intro member
  rcases Grouped.Groups.digit_or_comma_of_mem_text member with impossible | impossible
  · cases impossible
  · exact absurd impossible (by decide)

theorem decimal_injective {left right : Nat} (same : decimal left = decimal right) :
    left = right := by
  have read := congrArg (Nat.ofDigitChars 10 · 0) same
  simpa only [decimal, Nat.ofDigitChars_toDigits (by decide : 1 < 10) (Nat.le_refl 10)] using read

theorem grouped_injective {left right : Nat} (same : grouped left = grouped right) :
    left = right := by
  apply decimal_injective
  rw [← filter_grouped, same, filter_grouped]

/-- A first number is read up to the space behind it. -/
theorem grouped_append_space_inj {left right : Nat} {leftRest rightRest : List Char}
    (same : grouped left ++ ' ' :: leftRest = grouped right ++ ' ' :: rightRest) :
    left = right ∧ leftRest = rightRest := by
  have front (number : Nat) (rest : List Char) :
      (grouped number ++ ' ' :: rest).takeWhile (· != ' ') = grouped number := by
    rw [List.takeWhile_append_of_pos, List.takeWhile_cons_of_neg (by decide), List.append_nil]
    intro char member
    rw [bne_iff_ne]
    rintro rfl
    exact space_not_mem_grouped number member
  have numbers : left = right := by
    apply grouped_injective
    rw [← front left leftRest, same, front]
  subst numbers
  exact ⟨rfl, (List.cons.inj (List.append_cancel_left same)).2⟩

end Text

/-! ## Failure texts -/

namespace SinkError

/-- The text of a limit that was passed, parted at the space behind its first
number. -/
theorem wording_tooLarge (actual : UInt64) (limit : Bound) :
    (tooLarge actual limit).wording =
      "binary message too large: (actual) ".toList ++ (Text.grouped actual.toNat ++
        ' ' :: ("> (configured max binary buffer size) ".toList ++
          Text.grouped limit.bytes.toNat)) := by
  have between : " > (configured max binary buffer size) ".toList =
      ' ' :: "> (configured max binary buffer size) ".toList := by decide
  unfold wording
  simp only [between, List.append_assoc, List.cons_append]

/-- The failures without numbers start with other letters. -/
theorem head?_wording_tooLarge (actual : UInt64) (limit : Bound) :
    (tooLarge actual limit).wording.head? = some 'b' := by
  have letter : "binary message too large: (actual) ".toList.head? = some 'b' := by decide
  rw [wording_tooLarge, List.head?_append, letter]
  rfl

theorem tooLarge_of_wording_eq {error : SinkError} {actual : UInt64} {limit : Bound}
    (same : error.wording = (tooLarge actual limit).wording) : error = tooLarge actual limit := by
  have letter := congrArg List.head? same
  rw [head?_wording_tooLarge] at letter
  unfold wording at letter
  cases error with
  | tooLarge otherActual otherLimit =>
      rw [wording_tooLarge, wording_tooLarge] at same
      obtain ⟨actuals, rests⟩ := Text.grouped_append_space_inj (List.append_cancel_left same)
      have limits := Text.grouped_injective (List.append_cancel_left rests)
      have bounds : otherLimit = limit := by
        rw [Bound.mk.injEq]
        exact UInt64.toNat_inj.mp limits
      rw [UInt64.toNat_inj.mp actuals, bounds]
  | handler cause =>
      have other : "message handler failed: ".toList.head? = some 'm' := by decide
      rw [List.head?_append, other] at letter
      cases letter
  | handlerPanicked text =>
      have other : "message handler panicked: ".toList.head? = some 'm' := by decide
      rw [List.head?_append, other] at letter
      cases letter
  | completionDropped => exact absurd letter (by decide)

/-- The written form of every number is a group of one to three digits and then
groups of a comma and three digits, and it is the decimal numeral of the number
but for the commas.  So different numbers have different forms.  The text of a
limit that was passed names the bytes counted and the limit so that no other
failure, and none with other numbers, has this text. -/
theorem grouping_is_faithful :
    (∀ number : Nat, ∃ groups : Text.Grouped.Groups,
      Text.grouped number = groups.text ∧ groups.numeral = Text.decimal number ∧
        (Text.grouped number).filter (· != ',') = Text.decimal number) ∧
    (∀ left right : Nat, Text.grouped left = Text.grouped right ↔ left = right) ∧
    (∀ (actual : UInt64) (limit : Bound) (error : SinkError),
      error.message = (tooLarge actual limit).message ↔ error = tooLarge actual limit) := by
  refine ⟨?_, ?_, ?_⟩
  · intro number
    obtain ⟨groups, parted, numeral⟩ := Text.exists_groups_grouped number
    exact ⟨groups, parted, numeral, Text.filter_grouped number⟩
  · intro left right
    exact ⟨Text.grouped_injective, congrArg Text.grouped⟩
  · intro actual limit error
    constructor
    · intro same
      exact tooLarge_of_wording_eq (String.ofList_injective same)
    · intro same
      rw [same]

end SinkError

end Reassembly
