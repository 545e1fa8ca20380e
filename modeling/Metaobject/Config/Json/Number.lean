import Metaobject.Config.Number

/-!
# Numbers in JSON

A whole number that fits into 64 bits is kept as it is. Any other number becomes a floating-point
number: as many of its digits as fit into 64 bits are taken as a whole number, and this is
multiplied with or divided by one power of ten. Both steps round, so that the last digit may differ
from that of the nearest number.
-/

namespace Metaobject.Config.Json

/-- Reads the digits of the whole part, which has no leading zero. -/
def wholePart (cs : List Char) : Option (List Char × List Char) :=
  match spanDigits cs with
  | ([], _) => none
  | (['0'], rest) => some (['0'], rest)
  | ('0' :: _, _) => none
  | (ds, rest) => some (ds, rest)

/-- The greatest whole number of 64 bits without a sign. -/
def significandLimit : Nat := 0xffffffffffffffff

/-- Appends digits to a whole number as long as it fits into 64 bits; gives the digits left over. -/
def appendDigits : Nat → List Char → Nat × List Char
  | n, [] => (n, [])
  | n, d :: ds =>
      let m := 10 * n + (d.toNat - '0'.toNat)
      if m ≤ significandLimit then appendDigits m ds else (n, d :: ds)

/-- The greatest power of ten that is a floating-point number. -/
def powerLimit : Nat := 308

/-- The number `f · 10 ^ e`; a number that is too great is refused. The powers of ten are applied in
steps as long as they are too small. -/
def scale : Nat → Float → Int → Option Float
  | 0, f, _ => some f
  | fuel + 1, f, e =>
      if e.natAbs ≤ powerLimit then
        let power := Float.ofScientific 1 false e.natAbs
        if e < 0 then some (f / power)
        else if (f * power).isInf then none
        else some (f * power)
      else if f == 0.0 then some f
      else if e < 0 then scale fuel (f / Float.ofScientific 1 false powerLimit) (e + powerLimit)
      else none

def exponentLimit : Nat := 0x7fffffff

/-- The bits of the number with the given digits before and after the point and the exponent. An
exponent that is too great to be read leaves zero, or no number. -/
def floatBits? (negative : Bool) (whole fraction : List Char) (exponent : Int) : Option UInt64 := do
  let (n, left) := appendDigits 0 whole
  let (n, unread) := appendDigits n fraction
  let places : Int := (left.length : Int) - (fraction.length - unread.length : Nat)
  let f ←
    if exponent.natAbs > exponentLimit then if n = 0 || exponent < 0 then some 0.0 else none
    else scale 4 (Float.ofScientific n false 0) (places + exponent)
  return (if negative then -f else f).toBits

def number (cs : List Char) : Option (Data × List Char) := do
  let (negative, cs) := match cs with
    | '-' :: cs => (true, cs)
    | cs => (false, cs)
  let (whole, cs) ← wholePart cs
  let (fraction, cs) ← fractionPart cs
  let (exponent, cs) ← exponentPart cs
  let n : Int := Text.ofDigits whole
  let n := if negative then -n else n
  if fraction.isEmpty && exponent.isNone && fitsLong n && !(negative && n == 0) then
    return (.int n, cs)
  else return (.float (← floatBits? negative whole fraction (exponent.getD 0)), cs)

end Metaobject.Config.Json
