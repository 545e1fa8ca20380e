import Metaobject.Config.Data

/-!
# Floating-point numbers as text

Decimal numbers are read as double precision numbers, rounded to the nearest, and written with the
fewest digits that read back as the same number, without an exponent.
-/

namespace Metaobject.Config

/-- The number `m · 10 ^ e`, rounded; exponents far out of range are cut off first. -/
def scientific (m : Nat) (e : Int) : Float :=
  if m = 0 then 0
  else
    let top : Int := (Nat.toDigits 10 m).length + e
    if top > 400 then 1.0 / 0.0
    else if top < -400 then 0
    else if e < 0 then Float.ofScientific m true e.natAbs
    else Float.ofScientific m false e.natAbs

def infinityBits : UInt64 := 0x7ff0000000000000

/-- The bits of the number `m · 10 ^ e` with a sign. -/
def scientificBits (negative : Bool) (m : Nat) (e : Int) : UInt64 :=
  let f := scientific m e
  (if negative then -f else f).toBits

def spanDigits (cs : List Char) : List Char × List Char :=
  (cs.takeWhile Text.isDigit, cs.dropWhile Text.isDigit)

/-- An optional sign at the front; true for minus. -/
def spanSign : List Char → Bool × List Char
  | '-' :: cs => (true, cs)
  | '+' :: cs => (false, cs)
  | cs => (false, cs)

def integer? (s : String) : Option Int :=
  let (negative, digits) := spanSign s.toList
  if digits.isEmpty || !digits.all Text.isDigit then none
  else
    let n : Int := Text.ofDigits digits
    some (if negative then -n else n)

def long? (s : String) : Option Int := (integer? s).filter fitsLong

/-- Reads a fraction, if there is one. -/
def fractionPart : List Char → Option (List Char × List Char)
  | '.' :: cs =>
      match spanDigits cs with
      | ([], _) => none
      | r => some r
  | cs => some ([], cs)

/-- Reads an exponent, if there is one. -/
def exponentPart : List Char → Option (Option Int × List Char)
  | c :: cs =>
      if c = 'e' || c = 'E' then
        let (negative, cs) := spanSign cs
        match spanDigits cs with
        | ([], _) => none
        | (ds, rest) =>
            let n : Int := Text.ofDigits ds
            some (some (if negative then -n else n), rest)
      else some (none, c :: cs)
  | [] => some (none, [])

/-- Reads what follows the digits of a decimal number: an optional exponent, then the end. -/
def exponent? : List Char → Option Int
  | [] => some 0
  | c :: cs => if c = 'e' || c = 'E' then integer? (String.ofList cs) else none

/-- Reads a decimal number with an optional sign, fraction and exponent, or the name of infinity or
of what is no number. -/
def float? (s : String) : Option UInt64 :=
  let (negative, cs) := spanSign s.toList
  let name := lower (String.ofList cs)
  if name = "inf" || name = "infinity" then
    some (if negative then 0xfff0000000000000 else infinityBits)
  else if name = "nan" then some (if negative then 0xfff8000000000000 else 0x7ff8000000000000)
  else
    let (whole, rest) := spanDigits cs
    let (fraction, rest) := match rest with
      | '.' :: rest => spanDigits rest
      | _ => ([], rest)
    if whole.isEmpty && fraction.isEmpty then none
    else (exponent? rest).map fun e =>
      scientificBits negative (Text.ofDigits (whole ++ fraction)) (e - fraction.length)

/-- The digits of the shortest decimal number that reads back as a positive finite number
`num / den`, and the power of ten to which they count: the coarsest grid of decimal numbers on
which one of the two neighbours reads back is taken, and on it the nearer neighbour. -/
def shortestFrom (bits : UInt64) (num den : Nat) : Nat → Int → Nat × Int
  | 0, e => (num / den, e)
  | fuel + 1, e =>
      let n := num * 10 ^ (-e).toNat
      let d := den * 10 ^ e.toNat
      let low := n / d
      let lowReads := (scientific low e).toBits == bits
      let highReads := (scientific (low + 1) e).toBits == bits
      if lowReads && (!highReads || 2 * (n % d) ≤ d) then (low, e)
      else if highReads then (low + 1, e)
      else shortestFrom bits num den fuel (e - 1)

/-- The digits and the power of ten of the shortest text of a positive finite number. -/
def shortest (bits : UInt64) : Nat × Int :=
  let exponent := (bits >>> 52).toNat
  let fraction := (bits &&& 0xfffffffffffff).toNat
  let m := if exponent = 0 then fraction else fraction + 0x10000000000000
  let q : Int := (max exponent 1 : Nat) - 1075
  shortestFrom bits (m <<< q.toNat) (1 <<< (-q).toNat) 640 309

/-- Digits counted from a power of ten, written without an exponent. -/
def positional (digits : Nat) (e : Int) : String :=
  let ds := Nat.toDigits 10 digits
  if 0 ≤ e then String.ofList (ds ++ List.replicate e.toNat '0')
  else
    let places := (-e).toNat
    let ds := List.leftpad (places + 1) '0' ds
    String.ofList (ds.take (ds.length - places)) ++ "." ++
      String.ofList (ds.drop (ds.length - places))

def floatText (bits : UInt64) : String :=
  let magnitude := bits &&& 0x7fffffffffffffff
  let sign := if bits ≥ 0x8000000000000000 then "-" else ""
  if magnitude > infinityBits then "NaN"
  else if magnitude = infinityBits then sign ++ "inf"
  else if magnitude = 0 then sign ++ "0"
  else
    let (digits, e) := shortest magnitude
    sign ++ positional digits e

end Metaobject.Config
