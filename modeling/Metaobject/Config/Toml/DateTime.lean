import Metaobject.Config.Data

/-!
# Dates and times

Reads dates and times of day, with or without an offset, and writes them in one form: a capital `T`
between the date and the time, a capital `Z` for the offset of no time, and a fraction of the second
without zeros at its end, of which nine digits count.
-/

namespace Metaobject.Config.Toml

/-- A day of the calendar. -/
structure Date where
  year : Nat
  month : Nat
  day : Nat

/-- A time of day. The second may be a leap second. -/
structure TimeOfDay where
  hour : Nat
  minute : Nat
  second : Nat
  nanosecond : Nat

/-- By how much a local time differs. -/
inductive Offset where
  | zero
  | minutes (ahead : Bool) (n : Nat)

/-- A date, a time of day or both. -/
structure DateTime where
  date : Option Date
  time : Option TimeOfDay
  offset : Option Offset

/-- Reads a number of so many digits between two bounds. -/
def numberIn? (digits first last : Nat) (cs : List Char) : Option (Nat × List Char) :=
  let ds := cs.take digits
  let n := Text.ofDigits ds
  if ds.length = digits && ds.all Text.isDigit && first ≤ n && n ≤ last then
    some (n, cs.drop digits)
  else none

def skipMark? (mark : Char) (cs : List Char) : Option (List Char) :=
  if cs.head? == some mark then some (cs.drop 1) else none

namespace Date

/-- Every fourth year is a leap year, but of the full centuries only every fourth. -/
def isLeapYear (year : Nat) : Bool := year % 4 = 0 && (year % 100 ≠ 0 || year % 400 = 0)

def daysIn (year month : Nat) : Nat :=
  if month = 2 then if isLeapYear year then 29 else 28
  else if [4, 6, 9, 11].contains month then 30
  else 31

def read? (cs : List Char) : Option (Date × List Char) := do
  let (year, cs) ← numberIn? 4 0 9999 cs
  let (month, cs) ← numberIn? 2 1 12 (← skipMark? '-' cs)
  let (day, cs) ← numberIn? 2 1 (daysIn year month) (← skipMark? '-' cs)
  return (⟨year, month, day⟩, cs)

end Date

def padded (width n : Nat) : String := String.ofList (List.leftpad width '0' (Nat.toDigits 10 n))

namespace TimeOfDay

/-- Reads the fraction of a second, if there is one; further digits than nine are left out. -/
def readFraction? : List Char → Option (Nat × List Char)
  | '.' :: cs =>
      let (ds, rest) := cs.span Text.isDigit
      if ds.isEmpty then none
      else some (Text.ofDigits (List.rightpad 9 '0' (ds.take 9)), rest)
  | cs => some (0, cs)

def read? (cs : List Char) : Option (TimeOfDay × List Char) := do
  let (hour, cs) ← numberIn? 2 0 23 cs
  let (minute, cs) ← numberIn? 2 0 59 (← skipMark? ':' cs)
  let (second, cs) ← numberIn? 2 0 60 (← skipMark? ':' cs)
  let (nanosecond, cs) ← readFraction? cs
  return (⟨hour, minute, second, nanosecond⟩, cs)

def fractionText (t : TimeOfDay) : String :=
  if t.nanosecond = 0 then ""
  else
    let ds := (padded 9 t.nanosecond).toList
    "." ++ String.ofList (ds.reverse.dropWhile (· = '0')).reverse

def text (t : TimeOfDay) : String :=
  padded 2 t.hour ++ ":" ++ padded 2 t.minute ++ ":" ++ padded 2 t.second ++ t.fractionText

end TimeOfDay

namespace Offset

/-- Reads an offset, if there is one. -/
def read? (cs : List Char) : Option (Option Offset × List Char) :=
  match cs with
  | 'Z' :: cs | 'z' :: cs => some (some .zero, cs)
  | sign :: rest =>
      if sign = '+' || sign = '-' then do
        let (hour, rest) ← numberIn? 2 0 23 rest
        let (minute, rest) ← numberIn? 2 0 59 (← skipMark? ':' rest)
        return (some (.minutes (sign = '+') (hour * 60 + minute)), rest)
      else some (none, cs)
  | [] => some (none, [])

def text : Offset → String
  | .zero => "Z"
  | .minutes ahead n =>
      (if ahead || n = 0 then "+" else "-") ++ padded 2 (n / 60) ++ ":" ++ padded 2 (n % 60)

end Offset

namespace DateTime

/-- Reads a text that is a date, a time of day or both. -/
def read? (cs : List Char) : Option DateTime := do
  match Date.read? cs with
  | some (date, []) => return ⟨some date, none, none⟩
  | some (date, mark :: cs) =>
      if mark = 'T' || mark = 't' || mark = ' ' then
        let (time, cs) ← TimeOfDay.read? cs
        let (offset, cs) ← Offset.read? cs
        if cs.isEmpty then return ⟨some date, some time, offset⟩ else none
      else none
  | none =>
      let (time, cs) ← TimeOfDay.read? cs
      if cs.isEmpty then return ⟨none, some time, none⟩ else none

def text (d : DateTime) : String :=
  let date := d.date.map fun d =>
    padded 4 d.year ++ "-" ++ padded 2 d.month ++ "-" ++ padded 2 d.day
  let time := d.time.map TimeOfDay.text
  "T".intercalate (date.toList ++ time.toList) ++ ((d.offset.map Offset.text).getD "")

end DateTime

end Metaobject.Config.Toml
