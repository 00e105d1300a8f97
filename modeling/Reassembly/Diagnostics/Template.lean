namespace Reassembly
namespace Diagnostics

/-!
# Message templates

A template holds placeholders, each an opening brace followed at once by a
closing one, to be replaced by the texts of arguments.  Placeholders are found
from left to right and do not overlap, and the text of an argument is never
searched for them.

Two modes differ in what they make of a wrong number of arguments.  The strict
mode cuts the template at all its placeholders and asks for exactly one
argument each.  The legacy mode walks along the template, filling the next
placeholder it finds, and appends whatever is left over.  Without arguments
both modes leave a template untouched, so finished text is never misread.
-/

/-- How arguments are put into a template. -/
inductive FormatMode where
  | strict
  | legacy
deriving DecidableEq, Inhabited

inductive FormatError where
  | countMismatch (placeholders arguments : Nat)
  | missingTemplate (arguments : Nat)
deriving DecidableEq

namespace FormatError

def message : FormatError → String
  | countMismatch placeholders arguments =>
      "template has " ++ toString placeholders ++ " placeholders but " ++ toString arguments ++
        " arguments were supplied"
  | missingTemplate arguments =>
      toString arguments ++ " arguments supplied without a template"

end FormatError

namespace Template

def placeholder : List Char :=
  ['{', '}']

def placeholders : List Char → Nat
  | '{' :: '}' :: rest => placeholders rest + 1
  | _ :: rest => placeholders rest
  | [] => 0

/-- The text in front of the first placeholder, and the text after each. -/
def pieces : List Char → List Char × List (List Char)
  | '{' :: '}' :: rest =>
      let (head, tail) := pieces rest
      ([], head :: tail)
  | char :: rest =>
      let (head, tail) := pieces rest
      (char :: head, tail)
  | [] => ([], [])

/-- The text around the first placeholder, if there is one. -/
def find? : List Char → Option (List Char × List Char)
  | '{' :: '}' :: rest => some ([], rest)
  | char :: rest => (find? rest).map fun (before, after) => (char :: before, after)
  | [] => none

/-- A template has as many later pieces as it has placeholders. -/
theorem length_pieces (template : List Char) :
    (pieces template).2.length = placeholders template := by
  fun_induction pieces template with
  | case1 rest head tail cut ih =>
      rw [cut] at ih
      rw [placeholders, List.length_cons, ih]
  | case2 char rest apart head tail cut ih =>
      rw [cut] at ih
      rw [placeholders, ih]
      exact apart
  | case3 => rfl

/-- What is found first is a placeholder between the two texts. -/
theorem eq_of_find? {template before after : List Char}
    (found : find? template = some (before, after)) :
    template = before ++ '{' :: '}' :: after := by
  fun_induction find? template generalizing before with
  | case1 rest =>
      have texts := Prod.mk.inj (Option.some.inj found)
      rw [← texts.1, ← texts.2]
      rfl
  | case2 char rest apart ih =>
      rcases Option.map_eq_some_iff.mp found with ⟨⟨before', after'⟩, inner, same⟩
      have texts := Prod.mk.inj same
      rw [texts.2] at inner
      rw [← texts.1, List.cons_append, ← ih inner]
  | case3 => cases found

/-- Put the arguments between the pieces, one each. -/
def interleave (arguments : List (List Char)) (pieces : List Char × List (List Char)) :
    List Char :=
  pieces.1 ++ (arguments.zip pieces.2).flatMap fun (argument, piece) => argument ++ piece

/-- Fill the placeholders of what is left of a template.  Once none is left,
each further argument is appended after a space. -/
def fill : List Char → List (List Char) → List Char
  | rest, [] => rest
  | rest, argument :: arguments =>
      match find? rest with
      | some (before, after) => before ++ argument ++ fill after arguments
      | none => rest ++ ' ' :: argument ++ fill [] arguments

/-- The template that stands in for a missing one: a placeholder and a space
for each argument. -/
def standIn (arguments : Nat) : List Char :=
  (List.replicate arguments ['{', '}', ' ']).flatten

def strict (template : Option (List Char)) (arguments : List (List Char)) :
    Except FormatError (List Char) :=
  match template, arguments with
  | none, [] => .ok []
  | none, arguments => .error (.missingTemplate arguments.length)
  | some template, [] => .ok template
  | some template, arguments =>
      if placeholders template = arguments.length then
        .ok (interleave arguments (pieces template))
      else .error (.countMismatch (placeholders template) arguments.length)

/-- Legacy formatting, which never fails. -/
def legacy (template : Option (List Char)) (arguments : List (List Char)) : List Char :=
  fill (template.getD (standIn arguments.length)) arguments

@[simp] theorem legacy_nil (template : List Char) : legacy (some template) [] = template := by
  rw [legacy, Option.getD_some, fill]

end Template

namespace FormatMode

def format (mode : FormatMode) (template : Option (List Char)) (arguments : List (List Char)) :
    Except FormatError (List Char) :=
  match mode with
  | strict => Template.strict template arguments
  | legacy => .ok (Template.legacy template arguments)

/-- Finished text passes through both modes. -/
@[simp] theorem format_nil (mode : FormatMode) (template : List Char) :
    mode.format (some template) [] = .ok template := by
  cases mode with
  | strict => rfl
  | legacy => exact congrArg Except.ok (Template.legacy_nil template)

end FormatMode

end Diagnostics
end Reassembly
