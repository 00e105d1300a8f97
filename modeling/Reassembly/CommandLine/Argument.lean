import Reassembly.CommandLine.Options

namespace Reassembly
namespace CommandLine

/-!
# The look of an argument

An argument is told apart by its first characters alone.  Whether it may be the
value of a setting depends on its look too: a value looks plain, or like a
negative number where one makes sense.
-/

/-- What an argument in front of the separator looks like. -/
inductive Argument where
  | separator
  | long (name : List Char) (value : Option (List Char))
  | letters (letters : List Char)
  | plain (text : List Char)
deriving DecidableEq

namespace Argument

/-- Cut a text at its first equals sign. -/
def cutAtEquals (text : List Char) : List Char × Option (List Char) :=
  match text.dropWhile (· ≠ '=') with
  | [] => (text, none)
  | _ :: value => (text.takeWhile (· ≠ '='), some value)

/-- Tell the kinds of arguments apart.  A single hyphen is plain text. -/
def ofText : List Char → Argument
  | ['-', '-'] => separator
  | '-' :: '-' :: text =>
      let (name, value) := cutAtEquals text
      long name value
  | '-' :: letter :: more => letters (letter :: more)
  | text => plain text

/-- Whether letters read like a number: digits, with at most one point and at
most one exponent, neither of them in front, and the exponent not at the
end. -/
def isNumberLike (letters : List Char) : Bool :=
  scan 0 false none letters
where
  scan (index : Nat) (point : Bool) (exponent : Option Nat) : List Char → Bool
    | [] => exponent ≠ some (index - 1)
    | letter :: rest =>
        if letter.isDigit then scan (index + 1) point exponent rest
        else if letter = '.' && !point && exponent.isNone && decide (0 < index) then
          scan (index + 1) true exponent rest
        else if letter = 'e' && exponent.isNone && decide (0 < index) then
          scan (index + 1) point (some index) rest
        else false

/-- Whether an argument may stand behind a setting as its value. -/
def isValueOf (setting : Setting) : Argument → Bool
  | separator => false
  | long .. => false
  | letters text => setting.allowsNegative && isNumberLike text
  | plain _ => true

end Argument

end CommandLine
end Reassembly
