import Metaobject.Text.Hex
import Metaobject.Text.Invisible

/-!
# Inspection texts

How data is written for a reader who inspects it: texts in quotes with escapes, lists in brackets,
records with the names of their fields.
-/

namespace Metaobject.Text

def escapeChar (c : Char) : String :=
  if c = '\x00' then "\\0"
  else if c = '\t' then "\\t"
  else if c = '\n' then "\\n"
  else if c = '\r' then "\\r"
  else if c = '"' then "\\\""
  else if c = '\\' then "\\\\"
  else if 32 ≤ c.toNat ∧ c.toNat < 127 then c.toString
  else if isExtending c || isInvisible c then "\\u\x7b" ++ hex c.toNat ++ "\x7d"
  else c.toString

def quoted (s : String) : String := "\"" ++ String.join (s.toList.map escapeChar) ++ "\""

/-- A list, given the texts of its elements. -/
def list (items : List String) : String := "[" ++ ", ".intercalate items ++ "]"

/-- Something that may be missing, given its text. -/
def optional : Option String → String
  | none => "None"
  | some s => "Some(" ++ s ++ ")"

def bool (b : Bool) : String := if b then "true" else "false"

/-- A record, given its name and the texts of its fields. -/
def record (name : String) (fields : List (String × String)) : String :=
  name ++ " \x7b " ++ ", ".intercalate (fields.map fun (n, v) => n ++ ": " ++ v) ++ " \x7d"

end Metaobject.Text
