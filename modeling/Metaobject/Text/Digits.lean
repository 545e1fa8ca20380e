/-!
# Digits

Decimal and hexadecimal digits of the ASCII characters, and the numbers that they are.
-/

namespace Metaobject.Text

/-- Reads decimal digits, the most significant first. -/
def ofDigits (digits : List Char) : Nat :=
  digits.foldl (fun n c => 10 * n + (c.toNat - '0'.toNat)) 0

def isDigit (c : Char) : Bool := '0' ≤ c && c ≤ '9'

def hexValue? (c : Char) : Option Nat :=
  if isDigit c then some (c.toNat - '0'.toNat)
  else if 'a' ≤ c && c ≤ 'f' then some (c.toNat - 'a'.toNat + 10)
  else if 'A' ≤ c && c ≤ 'F' then some (c.toNat - 'A'.toNat + 10)
  else none

/-- Reads digits of a base up to sixteen, the most significant first. -/
def ofBase? (base : Nat) (digits : List Char) : Option Nat :=
  digits.foldlM (fun n c => ((hexValue? c).filter (· < base)).map fun h => base * n + h) 0

/-- The character with a code point given by hexadecimal digits. -/
def codePoint? (digits : List Char) : Option Char := do
  let n ← ofBase? 16 digits
  if n < 0xd800 || (0xdfff < n && n < 0x110000) then some (Char.ofNat n) else none

end Metaobject.Text
