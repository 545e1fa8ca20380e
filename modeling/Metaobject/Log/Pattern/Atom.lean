import Metaobject.Text.Alphanumeric
import Metaobject.Text.Blank
import Metaobject.Text.Digits

/-!
# Parts of patterns

A pattern describes texts as a regular expression does. This module has the flags that change how
the parts of a pattern are meant, and the smallest parts: single characters, escapes and anchors.
Only the ASCII characters are known by their classes and cases.
-/

namespace Metaobject.Pattern

/-- How what follows in a pattern is meant. -/
structure Flags where
  /-- Letters stand for both of their cases. -/
  ignoreCase : Bool
  /-- Classes are made of all characters, not of bytes. -/
  unicode : Bool
  /-- Blanks and comments are not part of the pattern. -/
  spaced : Bool

namespace Flags

def standard : Flags := ⟨false, true, false⟩

/-- Sets or clears a flag by its letter; those for line ends and for which of two matches is taken
make no difference to whether a pattern is one. -/
def set (f : Flags) (letter : Char) (value : Bool) : Flags :=
  match letter with
  | 'i' => { f with ignoreCase := value }
  | 'u' => { f with unicode := value }
  | 'x' => { f with spaced := value }
  | _ => f

end Flags

/-- Skips blanks and comments, beginning inside a comment or not. A comment reaches from its mark to
the end of the line. -/
def dropComments : Bool → List Char → List Char
  | _, [] => []
  | true, c :: cs => dropComments (c != '\n') cs
  | false, c :: cs =>
      if Text.isBlankChar c then dropComments false cs
      else if c = '#' then dropComments true cs
      else c :: cs

def skip (f : Flags) (cs : List Char) : List Char :=
  if f.spaced then dropComments false cs else cs

/-- The smallest parts of a pattern. -/
inductive Atom where
  /-- A character, perhaps written as the byte that it is. -/
  | char (c : Char) (byte : Bool)
  | dot
  /-- The beginning or the end of a line or of the text. -/
  | anchor
  /-- A place where a word begins or ends, or where none does. -/
  | boundary
  /-- The digits, the blanks or the letters, or what is none of them. -/
  | shorthand (negated : Bool)

namespace Atom

def readHex (f : Flags) : Nat → List Char → Option (List Char × List Char)
  | 0, cs => some ([], cs)
  | n + 1, cs => do
      let c :: cs := skip f cs | none
      let (digits, cs) ← readHex f n cs
      return (c :: digits, cs)

/-- Reads the code of a character, which has so many digits. -/
def readCode (f : Flags) (digits : Nat) (cs : List Char) : Option (Char × List Char) := do
  let (digits, cs) ← readHex f digits cs
  return (← Text.codePoint? digits, cs)

def readEscape (f : Flags) : List Char → Option (Atom × List Char)
  | [] => none
  | c :: cs =>
      match c with
      | 'x' => (readCode f 2 cs).map fun (c, cs) => (char c true, cs)
      | 'u' => (readCode f 4 cs).map fun (c, cs) => (char c false, cs)
      | 'U' => (readCode f 8 cs).map fun (c, cs) => (char c false, cs)
      | 'd' | 's' | 'w' => some (shorthand false, cs)
      | 'D' | 'S' | 'W' => some (shorthand true, cs)
      | 'a' => some (char '\x07' false, cs)
      | 't' => some (char '\t' false, cs)
      | 'n' => some (char '\n' false, cs)
      | 'v' => some (char '\x0b' false, cs)
      | 'f' => some (char '\x0c' false, cs)
      | 'r' => some (char '\r' false, cs)
      | 'A' | 'z' => some (anchor, cs)
      | 'b' | 'B' | '<' | '>' => some (boundary, cs)
      | _ => if c.toNat < 0x80 && !c.isAlphanum then some (char c false, cs) else none

def standsAlone (f : Flags) : Atom → Bool
  | char c byte => if f.unicode then !f.ignoreCase else !byte || c.toNat < 0x80
  | dot => f.unicode
  | anchor | boundary => true
  | shorthand negated => !f.unicode && !negated

def isMember (f : Flags) : Atom → Bool
  | char c _ => if f.unicode then !f.ignoreCase else c.toNat < 0x80
  | shorthand negated => !f.unicode && !negated
  | dot | anchor | boundary => false

end Atom

end Metaobject.Pattern
