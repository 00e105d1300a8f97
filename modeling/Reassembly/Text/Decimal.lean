namespace Reassembly
namespace Text

/-!
# Decimal numerals
-/

def decimal (number : Nat) : List Char :=
  Nat.toDigits 10 number

/-- A decimal numeral with zeros in front, up to this many digits.  A longer
numeral keeps all of its digits. -/
def padded (width number : Nat) : List Char :=
  List.leftpad width '0' (decimal number)

theorem isDigit_of_mem_decimal {number : Nat} {char : Char} (member : char ∈ decimal number) :
    char.isDigit = true :=
  Nat.isDigit_of_mem_toDigits (by decide) (by decide) member

theorem isDigit_of_mem_padded {width number : Nat} {char : Char}
    (member : char ∈ padded width number) : char.isDigit = true := by
  rw [padded, List.leftpad, List.mem_append] at member
  rcases member with zero | digit
  · rw [List.eq_of_mem_replicate zero]
    rfl
  · exact isDigit_of_mem_decimal digit

/-- Read a numeral.  It has at least one digit and nothing but digits; zeros in
front are allowed. -/
def readNat? (digits : List Char) : Option Nat :=
  if digits.isEmpty || !digits.all Char.isDigit then none
  else some (digits.foldl (fun number digit => 10 * number + (digit.toNat - 48)) 0)

/-- Read a numeral that may have a plus sign. -/
def readUnsigned? : List Char → Option Nat
  | '+' :: digits => readNat? digits
  | digits => readNat? digits

/-- Read a numeral that may have a sign. -/
def readSigned? : List Char → Option Int
  | '-' :: digits => (readNat? digits).map fun number => -(number : Int)
  | digits => (readUnsigned? digits).map fun number => (number : Int)

end Text
end Reassembly
