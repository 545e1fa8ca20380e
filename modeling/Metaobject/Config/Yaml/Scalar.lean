import Metaobject.Config.Number
import Metaobject.Config.Yaml.Cursor

/-!
# Scalars

Reads the scalars of a text: those in quotes, plain ones, and blocks of lines. A scalar goes on over
several lines as long as they are indented. A single line end between two words becomes a blank,
except in literal blocks; of several line ends the first is dropped.
-/

namespace Metaobject.Config.Yaml

/-- The blanks and line ends between two words. -/
structure Break where
  text : List Char
  cursor : Cursor

/-- Reads blanks and line ends. `folded` says whether a line end that stands for nothing came
before; `first` whether there was a line end that stands for a blank when it is alone; `spaces` are
the blanks of the line and `breaks` counts further line ends. A tab where the line has to be
indented up to the column `limit` is left to `tab`. -/
def readBreak (limit : Int) (tab : Cursor → Option Cursor) :
    Nat → Cursor → Bool → Bool → List Char → Nat → Option Break
  | 0, _, _, _, _, _ => none
  | fuel + 1, c, folded, first, spaces, breaks =>
      match c.rest with
      | '\n' :: _ =>
          if folded then readBreak limit tab fuel c.pastBreak true first spaces (breaks + 1)
          else readBreak limit tab fuel c.pastBreak true true [] breaks
      | ch :: _ =>
          if isSpace ch then
            if !folded then
              readBreak limit tab fuel (c.pastBlanks 1) folded first (spaces ++ [ch]) breaks
            else if ch = '\t' && c.column < limit then do
              readBreak limit tab fuel (← tab c) folded first spaces breaks
            else readBreak limit tab fuel (c.pastBlanks 1) folded first spaces breaks
          else some ⟨breakText folded first spaces breaks, c⟩
      | [] => some ⟨breakText folded first spaces breaks, c⟩
where
  /-- What blanks and line ends stand for. -/
  breakText (folded first : Bool) (spaces : List Char) (breaks : Nat) : List Char :=
    if !folded then spaces
    else if first && breaks = 0 then [' ']
    else List.replicate breaks '\n'

/-! ## Quoted scalars -/

def escapeLetter? : Char → Option Char
  | '0' => some '\x00'
  | 'a' => some '\x07'
  | 'b' => some '\x08'
  | 't' | '\t' => some '\t'
  | 'n' => some '\n'
  | 'v' => some '\x0b'
  | 'f' => some '\x0c'
  | 'r' => some '\r'
  | 'e' => some '\x1b'
  | ' ' => some ' '
  | '"' => some '"'
  | '/' => some '/'
  | '\\' => some '\\'
  | 'N' => some '\u0085'
  | '_' => some '\u00a0'
  | 'L' => some '\u2028'
  | 'P' => some '\u2029'
  | _ => none

/-- How many hexadecimal digits follow an escape letter. -/
def escapeDigits? : Char → Option Nat
  | 'x' => some 2
  | 'u' => some 4
  | 'U' => some 8
  | _ => none

def readEscape (c : Cursor) : Option (Char × Cursor) :=
  match c.rest with
  | [] => none
  | letter :: cs =>
      match escapeDigits? letter with
      | some n =>
          if cs.length < n then none
          else (Text.codePoint? (cs.take n)).map fun ch => (ch, c.past (n + 1))
      | none => (escapeLetter? letter).map fun ch => (ch, c.past 1)

/-- A word of a quoted scalar. -/
structure QuotedWord where
  text : List Char
  /-- A line end written behind a backslash ends the word and stands for nothing. -/
  folded : Bool
  cursor : Cursor

def readQuotedWord (single : Bool) : Nat → Cursor → List Char → Option QuotedWord
  | 0, _, _ => none
  | fuel + 1, c, text =>
      match single, c.rest with
      | _, [] => some ⟨text, false, c⟩
      | true, '\'' :: '\'' :: _ => readQuotedWord single fuel (c.past 2) (text ++ ['\''])
      | true, '\'' :: _ => some ⟨text, false, c⟩
      | false, '"' :: _ => some ⟨text, false, c⟩
      | false, '\\' :: '\n' :: _ => some ⟨text, true, (c.past 1).pastBreak⟩
      | false, '\\' :: _ => do
          let (ch, c) ← readEscape (c.past 1)
          readQuotedWord single fuel c (text ++ [ch])
      | _, ch :: _ =>
          if isSpace ch || ch = '\n' then some ⟨text, false, c⟩
          else readQuotedWord single fuel (c.past 1) (text ++ [ch])

/-- Reads the words of a quoted scalar up to the closing quote. Its lines are indented up to a
column, and none of them separates documents. -/
def readQuotedWords (single : Bool) (indent : Int) :
    Nat → Cursor → List Char → Option (List Char × Cursor)
  | 0, _, _ => none
  | fuel + 1, c, text => do
      if c.atDocumentMarker || c.rest.isEmpty || c.column < indent then none
      let word ← readQuotedWord single (c.rest.length + 1) c []
      let text := text ++ word.text
      if word.cursor.rest.head? == some (if single then '\'' else '"') then
        return (text, word.cursor.past 1)
      let br ← readBreak indent (fun _ => none) (word.cursor.rest.length + 1) word.cursor
        word.folded false [] 0
      readQuotedWords single indent fuel br.cursor (text ++ br.text)

/-- Reads a quoted scalar, whose quote is the next character. After it the line ends, or there is a
colon or, inside a flow collection, a mark of it. -/
def readQuoted (single : Bool) (indent : Int) (inFlow : Bool) (start : Cursor) :
    Option (String × Cursor) := do
  let (text, c) ← readQuotedWords single indent (start.rest.length + 1) (start.past 1) []
  let c ← c.skipGap?
  let fine := match c.rest with
    | ',' :: _ | '}' :: _ | ']' :: _ => inFlow
    | ':' :: _ => inFlow || start.line = c.line
    | cs => endsLine cs
  if fine then return (String.ofList text, c) else none

/-! ## Plain scalars -/

/-- Whether a plain scalar goes on with these characters: a colon before a blank ends it, inside a
flow collection also a mark of it. -/
def continuesPlain (inFlow : Bool) : List Char → Bool
  | [] => false
  | ':' :: cs => !(endsWord cs || (inFlow && cs.head?.any isFlowMark))
  | ch :: _ => !isSpace ch && ch ≠ '\n' && !(inFlow && isFlowMark ch)

/-- The part of a text that a word of a plain scalar takes up. -/
def plainWord (inFlow : Bool) : List Char → List Char
  | [] => []
  | ch :: cs => if continuesPlain inFlow (ch :: cs) then ch :: plainWord inFlow cs else []

/-- Reads the words of a plain scalar. Its lines are indented up to a column; `gap` stands for the
blanks and line ends before the place. -/
def readPlainWords (indent : Int) (inFlow : Bool) :
    Nat → Cursor → List Char → List Char → Option (List Char × Cursor)
  | 0, _, _, _ => none
  | fuel + 1, c, text, gap =>
      if c.atDocumentMarker || c.rest.head? == some '#' then some (text, c)
      else if inFlow && c.rest.head? == some '-' && (c.rest.drop 1).head?.any isFlowMark then none
      else
        let word := plainWord inFlow c.rest
        let (text, c) :=
          if word.isEmpty then (text, c) else (text ++ gap ++ word, c.past word.length)
        if c.rest.head?.any fun ch => isSpace ch || ch = '\n' then do
          let br ← readBreak indent Cursor.toLineEnd? (c.rest.length + 1) c c.fresh false [] 0
          if !inFlow && br.cursor.column < indent then return (text, br.cursor)
          readPlainWords indent inFlow fuel br.cursor text br.text
        else some (text, c)

def readPlain (indent : Int) (inFlow : Bool) (c : Cursor) : Option (String × Cursor) := do
  if inFlow && c.column < indent then none
  let (text, c) ← readPlainWords indent inFlow (c.rest.length + 1) c [] []
  return (String.ofList text, c)

/-! ## Block scalars -/

/-- What becomes of the line ends at the end of a block. -/
inductive Chomping where
  | strip
  | clip
  | keep
deriving DecidableEq

/-- How a block is read. -/
structure BlockHeader where
  chomping : Chomping
  /-- By how many columns the block is indented; zero leaves that to its first line. -/
  indent : Nat
  cursor : Cursor

def readChomping (c : Cursor) : Option (Chomping × Cursor) :=
  match c.rest with
  | '+' :: _ => some (.keep, c.past 1)
  | '-' :: _ => some (.strip, c.past 1)
  | _ => none

/-- Reads a digit other than zero, if there is a digit. -/
def readIndicator (c : Cursor) : Option (Nat × Cursor) :=
  match c.rest with
  | ch :: _ =>
      if ch = '0' then none
      else if Text.isDigit ch then some (ch.toNat - '0'.toNat, c.past 1)
      else some (0, c)
  | [] => some (0, c)

/-- Reads what stands behind the mark of a block: how to chomp and how far it is indented. -/
def readBlockHeader (c : Cursor) : Option BlockHeader :=
  match readChomping c with
  | some (chomping, c) => (readIndicator c).map fun (n, c) => ⟨chomping, n, c⟩
  | none => do
      let (n, c) ← readIndicator c
      let (chomping, c) := (readChomping c).getD (.clip, c)
      return ⟨chomping, n, c⟩

/-- Goes past empty lines and then past the indentation of a line; counts the lines. -/
def skipIndented (indent : Nat) : Nat → Cursor → Nat → Nat × Cursor
  | 0, c, breaks => (breaks, c)
  | fuel + 1, c, breaks =>
      let spaces := ((c.rest.take (indent - c.column)).takeWhile (· = ' ')).length
      let c := c.pastBlanks spaces
      if c.rest.head? == some '\n' then skipIndented indent fuel c.pastBreak (breaks + 1)
      else (breaks, c)

/-- Goes past empty lines and then past the blanks of a line; counts the lines and gives the longest
row of blanks. -/
def skipUnindented : Nat → Cursor → Nat → Nat → Nat × Nat × Cursor
  | 0, c, breaks, longest => (breaks, longest, c)
  | fuel + 1, c, breaks, longest =>
      let c := c.pastBlanks (c.rest.takeWhile (· = ' ')).length
      let longest := max longest c.column
      if c.rest.head? == some '\n' then skipUnindented fuel c.pastBreak (breaks + 1) longest
      else (breaks, longest, c)

/-- What has been read of a block. -/
structure BlockText where
  text : List Char
  ended : Bool
  /-- How many empty lines follow it. -/
  breaks : Nat
  /-- The last line begins with a blank. -/
  spaced : Bool
  cursor : Cursor

/-- Reads the lines of a block. In a folded block the line end between two lines that do not begin
with a blank stands for a blank. -/
def readBlockLines (literal : Bool) (indent : Nat) : Nat → BlockText → BlockText
  | 0, b => b
  | fuel + 1, b =>
      let c := b.cursor
      if c.column ≠ indent || c.rest.isEmpty || (indent = 0 && c.atMarker '.') then b
      else
        let spaced := c.rest.head?.any isSpace
        let breaks := List.replicate b.breaks '\n'
        let gap :=
          if !literal && b.ended && !b.spaced && !spaced then
            if b.breaks = 0 then [' '] else breaks
          else (if b.ended then ['\n'] else []) ++ breaks
        let text := b.text ++ gap ++ c.rest.takeWhile (· ≠ '\n')
        let c := c.skipLine
        if c.rest.isEmpty then ⟨text, false, 0, spaced, c⟩
        else
          let (breaks, c) := skipIndented indent (c.rest.length + 1) c.pastBreak 0
          readBlockLines literal indent fuel ⟨text, true, breaks, spaced, c⟩

/-- Drops the line ends at the end of a block, as far as they do not remain. -/
def chomp (chomping : Chomping) (indent : Nat) (b : BlockText) : List Char :=
  let last := if chomping = .strip then []
    else (if b.ended then ['\n'] else []) ++
      (if b.cursor.rest.isEmpty && b.cursor.column ≥ max indent 1 then ['\n'] else [])
  b.text ++ last ++ (if chomping = .keep then List.replicate b.breaks '\n' else [])

/-- What a block at the end of the text stands for that has no content but empty lines. -/
def emptyBlock (chomping : Chomping) (breaks : Nat) : List Char :=
  match chomping with
  | .strip => []
  | .clip => ['\n']
  | .keep => List.replicate (max breaks 1) '\n'

/-- Reads a block scalar behind its mark, within a block that begins at the column `indent`. -/
def readBlock (literal : Bool) (indent : Int) (start : Cursor) : Option (String × Cursor) := do
  let header ← readBlockHeader start
  let c ← header.cursor.toLineEnd?
  let ended := !c.rest.isEmpty
  let c := if ended then c.pastBreak else c
  if c.rest.head? == some '\t' then none
  let fuel := c.rest.length + 1
  let (column, breaks, c) :=
    if header.indent > 0 then
      let column := if indent ≥ 0 then indent.toNat + header.indent else header.indent
      (column, skipIndented column fuel c 0)
    else
      let (breaks, longest, c) := skipUnindented fuel c 0 0
      let column := max longest (indent + 1).toNat
      (if indent > 0 then max column 1 else column, breaks, c)
  if c.rest.isEmpty then
    return (String.ofList (if ended then emptyBlock header.chomping breaks else []), c)
  if c.column < column && (c.column : Int) > indent then none
  let b := readBlockLines literal column fuel ⟨[], false, breaks, false, c⟩
  return (String.ofList (chomp header.chomping column b), b.cursor)

end Metaobject.Config.Yaml
