import Metaobject.Text.Digits

/-!
# Configuration data

What a configuration file says, whatever its format: a tree of tables, lists and scalars. A
floating-point number is kept as its bit pattern.
-/

namespace Metaobject.Config

/-- The data of a configuration file. -/
inductive Data where
  | null
  | bool (b : Bool)
  | int (n : Int)
  | float (bits : UInt64)
  | text (s : String)
  | list (items : List Data)
  | table (entries : List (String × Data))

/-- The entries of a table, each key once, in the order of their first appearance. -/
abbrev Table := List (String × Data)

namespace Table

def put (t : Table) (key : String) (d : Data) : Table :=
  if t.any fun e => e.1 == key then t.map fun e => if e.1 == key then (key, d) else e
  else t ++ [(key, d)]

end Table

def fitsLong (n : Int) : Bool := -0x8000000000000000 ≤ n && n < 0x8000000000000000

/-- The small letter of the alphabet that a character has as its lower case, which the sign for the
unit kelvin has too; other characters stay as they are. -/
def lowerChar (c : Char) : Char :=
  if 'A' ≤ c && c ≤ 'Z' then Char.ofNat (c.toNat + 32)
  else if c = '\u212a' then 'k'
  else c

/-- A text with the letters of the alphabet in lower case. -/
def lower (s : String) : String := String.ofList (s.toList.map lowerChar)

end Metaobject.Config
