import Reassembly.Text.Extender
import Reassembly.Text.Printable

namespace Reassembly
namespace Text

/-!
# Quoted texts and byte strings

Diagnostics show texts and bytes between double quotes, with a backslash in
front of what would end or garble them.  A character that has no look of its
own, or is drawn onto the one before it, is spelled out by its number.
-/

/-- The digits of a number in base sixteen, in lower case. -/
def hexDigits (number : Nat) : List Char :=
  Nat.toDigits 16 number

/-- The two hexadecimal digits of a byte. -/
def hexByte (byte : UInt8) : List Char :=
  let digits := hexDigits byte.toNat
  if digits.length < 2 then '0' :: digits else digits

/-- The shown form of a byte inside quotes: printable ASCII as it is, the rest
escaped. -/
def quotedByte (byte : UInt8) : List Char :=
  let code := byte.toNat
  if code = 0 then ['\\', '0']
  else if code = 9 then ['\\', 't']
  else if code = 10 then ['\\', 'n']
  else if code = 13 then ['\\', 'r']
  else if code = 34 then ['\\', '"']
  else if code = 92 then ['\\', '\\']
  else if 32 ≤ code ∧ code < 127 then [Char.ofNat code]
  else '\\' :: 'x' :: hexByte byte

/-- Bytes between quotes, marked as bytes. -/
def quotedBytes (bytes : ByteArray) : List Char :=
  'b' :: '"' :: bytes.data.toList.flatMap quotedByte ++ ['"']

/-- The shown form of a character inside quotes. -/
def quotedChar (char : Char) : List Char :=
  if char = '\x00' then ['\\', '0']
  else if char = '\t' then ['\\', 't']
  else if char = '\n' then ['\\', 'n']
  else if char = '\r' then ['\\', 'r']
  else if char = '"' then ['\\', '"']
  else if char = '\\' then ['\\', '\\']
  else if isExtender char || !isPrintable char then '\\' :: 'u' :: '\x7b' :: hexDigits char.toNat ++ ['\x7d']
  else [char]

def quoted (text : String) : List Char :=
  '"' :: text.toList.flatMap quotedChar ++ ['"']

end Text
end Reassembly
