import Reassembly.Diagnostics.Template

namespace Reassembly
namespace Diagnostics
namespace Template

/-!
# Filling a template by position

A template need not be taken apart to be filled.  A cursor walks over the bytes
it is stored in, looks ahead for the next placeholder, and copies what lies
between two positions.

A character may take several bytes, so positions can lie inside one or past the
end.  Such positions cut no slice, and filling breaks off when it asks for one.
Whether it ever does is not for the cursor to say: it computes its positions
from lengths of bytes alone.
-/

/-- The bytes a text is stored in. -/
def encoded (text : List Char) : List UInt8 :=
  text.flatMap String.utf8EncodeChar

@[simp] theorem encoded_cons (char : Char) (text : List Char) :
    encoded (char :: text) = String.utf8EncodeChar char ++ encoded text := rfl

@[simp] theorem encoded_append (first second : List Char) :
    encoded (first ++ second) = encoded first ++ encoded second :=
  List.flatMap_append

namespace Cursor

/-- Whether a character begins at this position, or the text ends there. -/
def isBoundary (stored : List UInt8) (position : Nat) : Bool :=
  match stored[position]? with
  | some byte => decide byte.IsUTF8FirstByte
  | none => position == stored.length

/-- What is stored between two positions. -/
def slice? (stored : List UInt8) (start stop : Nat) : Option (List UInt8) :=
  if start ≤ stop ∧ isBoundary stored start = true ∧ isBoundary stored stop = true then
    some ((stored.take stop).drop start)
  else none

/-- How many bytes lie in front of the next placeholder. -/
def distance? : List UInt8 → Option Nat
  | [] => none
  | byte :: rest =>
      if (encoded placeholder).isPrefixOf (byte :: rest) then some 0
      else (distance? rest).map (· + 1)

/-- Fill a stored template from a position on. -/
def fill? (template : List UInt8) : Nat → List (List UInt8) → Option (List UInt8)
  | start, [] => slice? template start template.length
  | start, argument :: arguments => do
      let ahead ← slice? template start template.length
      match distance? ahead with
      | some distance =>
          let before ← slice? template start (start + distance)
          let filled ←
            fill? template (start + distance + (encoded placeholder).length) arguments
          return before ++ argument ++ filled
      | none =>
          let left ← slice? template start template.length
          let appended ← fill? template template.length arguments
          return left ++ (encoded [' '] ++ argument) ++ appended

/-- Legacy formatting by position. -/
def legacy? (template : Option (List Char)) (arguments : List (List Char)) :
    Option (List UInt8) :=
  fill? (encoded (template.getD (standIn arguments.length))) 0 (arguments.map encoded)

end Cursor

end Template
end Diagnostics
end Reassembly
