import Metaobject.Config.Data

/-!
# Places in a text

The layout of a text, the columns and the lines of its parts, says how the parts belong together.
A cursor is a place in a text that knows its line and its column. Of the three ways to end a line
only the line feed is left when reading begins, and the text ends at the first null character.
-/

namespace Metaobject.Config.Yaml

def isSpace (c : Char) : Bool := c = ' ' || c = '\t'

/-- Characters that delimit the parts of flow collections. -/
def isFlowMark (c : Char) : Bool := ",[]\x7b\x7d".toList.contains c

/-- Letters of the alphabet, digits, dashes and underscores. -/
def isWordChar (c : Char) : Bool := c.isAlphanum || c = '_' || c = '-'

/-- A text with line feeds for all line ends, up to its first null character. -/
def lineFeeds : List Char → List Char
  | [] => []
  | '\x00' :: _ => []
  | '\r' :: '\n' :: cs => '\n' :: lineFeeds cs
  | '\r' :: cs => '\n' :: lineFeeds cs
  | c :: cs => c :: lineFeeds cs

def endsLine (cs : List Char) : Bool := cs.head?.all (· = '\n')

def endsWord (cs : List Char) : Bool := cs.head?.all fun c => isSpace c || c = '\n'

/-- A place in a text. -/
structure Cursor where
  rest : List Char
  /-- How many characters lie before. -/
  index : Nat
  line : Nat
  column : Nat
  /-- Nothing but blanks lies before in the line. -/
  fresh : Bool

namespace Cursor

def ofText (cs : List Char) : Cursor := ⟨lineFeeds cs, 0, 0, 0, true⟩

def past (c : Cursor) (n : Nat) : Cursor :=
  { c with rest := c.rest.drop n, index := c.index + n, column := c.column + n, fresh := false }

def pastBlanks (c : Cursor) (n : Nat) : Cursor := { c.past n with fresh := c.fresh }

def pastBreak (c : Cursor) : Cursor := ⟨c.rest.drop 1, c.index + 1, c.line + 1, 0, true⟩

/-- The characters at the place that have a property, and the place after them. -/
def span (c : Cursor) (p : Char → Bool) : List Char × Cursor :=
  let cs := c.rest.takeWhile p
  (cs, if cs.isEmpty then c else c.past cs.length)

def skipSpaces (c : Cursor) : Cursor := c.pastBlanks (c.rest.takeWhile isSpace).length

def skipLine (c : Cursor) : Cursor := c.past (c.rest.takeWhile (· ≠ '\n')).length

/-- Whether three equal marks that stand for themselves begin the line. -/
def atMarker (c : Cursor) (mark : Char) : Bool :=
  c.column = 0 && c.rest.take 3 == [mark, mark, mark] && endsWord (c.rest.drop 3)

/-- Whether a line begins here that separates documents. -/
def atDocumentMarker (c : Cursor) : Bool := c.atMarker '-' || c.atMarker '.'

/-- What lies between a token and what follows it in the line. -/
structure Gap where
  cursor : Cursor
  hasTab : Bool
  hasSpace : Bool

/-- Goes past blanks and a comment, which must not follow the token at once. Tabs are blanks where
`tabs` says so. -/
def gap? (c : Cursor) (tabs : Bool) : Option Gap :=
  let blanks := c.rest.takeWhile fun ch => ch = ' ' || (tabs && ch = '\t')
  let after := c.pastBlanks blanks.length
  let found (c : Cursor) : Gap := ⟨c, blanks.contains '\t', blanks.contains ' '⟩
  match after.rest with
  | '#' :: _ => if blanks.isEmpty then none else some (found after.skipLine)
  | _ => some (found after)

/-- Goes past blanks and a comment, tabs included. -/
def skipGap? (c : Cursor) : Option Cursor := (c.gap? true).map Gap.cursor

/-- Goes past blanks and a comment, after which the line must end. -/
def toLineEnd? (c : Cursor) : Option Cursor := c.skipGap?.filter fun c => endsLine c.rest

end Cursor

end Metaobject.Config.Yaml
