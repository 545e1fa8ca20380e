import Metaobject.Config.Yaml.Scalar
import Metaobject.Config.Yaml.Tag

/-!
# Layout

Finds the tokens of a text. Where blocks begin and end is read off the columns: a block begins with
its first key or dash and ends before the first token further to the left. That a token is a key
shows only at the colon behind it, so that the place of the last token that may be one is kept.
-/

namespace Metaobject.Config.Yaml

/-- A column up to which lines are indented. -/
structure Indent where
  column : Int
  /-- A block began there, rather than a scalar or a flow collection inside one. -/
  block : Bool

/-- A token that may turn out to be a key. -/
structure PossibleKey where
  token : Nat
  index : Nat
  line : Nat
  column : Nat
  required : Bool

/-- How far the reading of tokens has come. -/
structure Layout where
  cursor : Cursor
  tokens : Array Token
  /-- The column up to which lines are indented now. -/
  indent : Int
  /-- What was indented before, the last first. -/
  indents : List Indent
  key : Option PossibleKey
  /-- The same outside the flow collections that are open, the innermost first. -/
  outer : List (Option PossibleKey)
  /-- Whether a key may stand at the place. -/
  keyAllowed : Bool
  /-- A colon at this place is followed by a value even without a blank in between. -/
  valueAt : Nat
  /-- The keys of the flow collection belong to a mapping in braces. -/
  inBraces : Bool
  /-- A mapping of one key is open that has no braces. -/
  inPair : Bool
  /-- The last token is an anchor or a tag at the left margin. -/
  marginal : Bool

abbrev Scan := StateT Layout Option

namespace Scan

/-- The longest distance between the beginning of a key and its colon. -/
def keyLimit : Nat := 1024

def flowLimit : Nat := 255

def inFlow : Scan Bool := return !(← get).outer.isEmpty

def move (c : Cursor) : Scan Unit := modify fun s => { s with cursor := c }

def past (n : Nat) : Scan Unit := do move ((← get).cursor.past n)

def skipGap : Scan Unit := do move (← (← get).cursor.skipGap?)

def push (t : Token) : Scan Unit :=
  modify fun s => { s with tokens := s.tokens.push t, marginal := false }

def insert (i : Nat) (t : Token) : Scan Unit :=
  modify fun s => { s with tokens := s.tokens.insertIdxIfInBounds i t }

def allowKey (b : Bool) : Scan Unit := modify fun s => { s with keyAllowed := b }

/-- Goes to the next token. Tabs do not indent lines of a block. -/
def skipToToken : Nat → Scan Unit
  | 0 => failure
  | fuel + 1 => do
      let s ← get
      match s.cursor.rest with
      | '\t' :: _ =>
          if !s.indents.isEmpty && s.cursor.fresh && s.cursor.column < s.indent then
            move (← s.cursor.toLineEnd?)
          else move (s.cursor.pastBlanks 1)
          skipToToken fuel
      | ' ' :: _ =>
          move (s.cursor.pastBlanks 1)
          skipToToken fuel
      | '\n' :: _ =>
          move s.cursor.pastBreak
          if s.outer.isEmpty then allowKey true
          skipToToken fuel
      | '#' :: _ =>
          move s.cursor.skipLine
          skipToToken fuel
      | _ => pure ()

def toToken : Scan Unit := do skipToToken ((← get).cursor.rest.length + 1)

/-! ## Keys -/

def noteKey : Scan Unit :=
  modify fun s =>
    if s.keyAllowed then
      let required := s.outer.isEmpty && s.indent == s.cursor.column &&
        s.indents.head?.any Indent.block
      let c := s.cursor
      { s with key := some ⟨s.tokens.size, c.index, c.line, c.column, required⟩ }
    else s

/-- Notes that the last token that might have been a key is none. -/
def dropKey : Scan Unit := do
  if (← get).key.any PossibleKey.required then failure
  modify fun s => { s with key := none }

/-- Outside flow collections a key and its colon stand in one line, and not too far apart. -/
def dropStaleKey : Scan Unit := do
  let s ← get
  if s.outer.isEmpty && s.key.any fun k =>
      k.line < s.cursor.line || k.index + keyLimit < s.cursor.index then
    dropKey

/-! ## Indentation -/

def closeAbove (column : Int) : List Indent → Int → Array Token → List Indent × Int × Array Token
  | [], indent, ts => ([], indent, ts)
  | i :: is, indent, ts =>
      if column < indent then
        closeAbove column is i.column (if i.block then ts.push .blockEnd else ts)
      else (i :: is, indent, ts)

/-- Ends the blocks that begin to the right of a column. -/
def closeBlocks (column : Int) : Scan Unit :=
  modify fun s =>
    if s.outer.isEmpty then
      let (indents, indent, tokens) := closeAbove column s.indents s.indent s.tokens
      { s with indents, indent, tokens, marginal := s.marginal && tokens.size == s.tokens.size }
    else s

/-- Begins a block at a column unless one has begun there; `place` says how many tokens lie before
it. -/
def openBlock (column : Nat) (place : Nat) (t : Token) : Scan Unit := do
  if ← inFlow then return
  modify fun s => match s.indents with
    | i :: is => if !i.block && s.indent ≤ column then { s with indent := i.column, indents := is }
        else s
    | [] => s
  if (← get).indent < column then
    modify fun s => { s with indents := ⟨s.indent, true⟩ :: s.indents, indent := column }
    insert place t
    modify fun s => { s with marginal := s.marginal && place < s.tokens.size - 1 }

/-- The lines that go on with a value in a block are indented by one column more. -/
def indentValue : Scan Unit :=
  modify fun s =>
    if s.outer.isEmpty && s.indents.head?.any Indent.block then
      { s with indents := ⟨s.indent, false⟩ :: s.indents, indent := s.indent + 1 }
    else s

/-- What was indented before, blocks alone. -/
def blocksOnly : List Indent → Int → List Indent × Int
  | [], indent => ([], indent)
  | i :: is, indent => if i.block then (i :: is, indent) else blocksOnly is i.column

/-- Scalars are indented as the block is in which they stand. -/
def dropValueIndent : Scan Unit :=
  modify fun s =>
    let (indents, indent) := blocksOnly s.indents s.indent
    { s with indents, indent }

/-! ## Tokens -/

def closePair : Scan Unit := do
  if (← get).inPair then
    modify fun s => { s with inPair := false, inBraces := false }
    push .flowMappingEnd

def openFlow (t : Token) : Scan Unit := do
  noteKey
  indentValue
  modify fun s => { s with key := none, outer := s.key :: s.outer }
  if (← get).outer.length > flowLimit then failure
  allowKey true
  past 1
  if t = .flowMapping then modify fun s => { s with inBraces := true }
  skipGap
  push t

def closeFlow (t : Token) : Scan Unit := do
  dropKey
  modify fun s => match s.outer with
    | k :: ks => { s with key := k, outer := ks }
    | [] => s
  allowKey false
  closePair
  past 1
  skipGap
  if ← inFlow then modify fun s => { s with valueAt := s.cursor.index }
  push t

def flowEntry : Scan Unit := do
  dropKey
  allowKey true
  closePair
  past 1
  skipGap
  push .flowEntry

def blockEntry : Scan Unit := do
  let s ← get
  if !s.outer.isEmpty || !s.keyAllowed then failure
  if s.marginal && s.cursor.column = 0 && s.indent > -1 then failure
  past 1
  openBlock s.cursor.column s.tokens.size .blockSequence
  let gap ← (← get).cursor.gap? true
  let rest := gap.cursor.rest
  if gap.hasTab && rest.head? == some '-' && endsWord (rest.drop 1) then failure
  move gap.cursor
  if rest.head?.any fun c => c = '\n' || isFlowMark c then indentValue
  dropKey
  allowKey true
  push .blockEntry

/-- Goes past blanks, line ends and comments, at least one. -/
def skipLines : Nat → Bool → Scan Unit
  | 0, _ => failure
  | fuel + 1, found => do
      let s ← get
      match s.cursor.rest with
      | ' ' :: _ =>
          move (s.cursor.pastBlanks 1)
          skipLines fuel true
      | '\n' :: _ =>
          move s.cursor.pastBreak
          if s.outer.isEmpty then allowKey true
          skipLines fuel true
      | '#' :: _ =>
          move s.cursor.skipLine
          skipLines fuel found
      | _ => if !found then failure

def markedKey : Scan Unit := do
  let s ← get
  if s.outer.isEmpty then
    if !s.keyAllowed then failure
    openBlock s.cursor.column s.tokens.size .blockMapping
  else modify fun s => { s with inBraces := true }
  dropKey
  allowKey s.outer.isEmpty
  past 1
  skipLines (s.cursor.rest.length + 1) false
  if (← get).cursor.rest.head? == some '\t' then failure
  push .key

/-- Reads the colon before a value. In brackets a key makes a mapping of its own. -/
def value : Scan Unit := do
  let s ← get
  let inPair := !s.outer.isEmpty && !s.inBraces
  modify fun s => { s with inPair }
  past 1
  if (← get).cursor.rest.head? == some '\t' then
    let gap ← (← get).cursor.gap? true
    if !gap.hasSpace && gap.cursor.rest.head?.any isWordChar then failure
    move gap.cursor
  match s.key with
  | some k =>
      insert k.token .key
      if inPair then
        if k.line < s.cursor.line then failure
        insert k.token .flowMapping
      openBlock k.column k.token .blockMapping
      indentValue
      modify fun s => { s with key := none }
      allowKey false
  | none =>
      if inPair then push .flowMapping
      if s.outer.isEmpty then
        if !s.keyAllowed then failure
        openBlock s.cursor.column s.tokens.size .blockMapping
      indentValue
      allowKey s.outer.isEmpty
  push .value

def isNameChar (c : Char) : Bool := !isSpace c && c ≠ '\n' && c ≠ '\ufeff' && !isFlowMark c

def name (token : String → Token) : Scan Unit := do
  noteKey
  allowKey false
  let (name, c) := ((← get).cursor.past 1).span isNameChar
  if name.isEmpty then failure
  move c
  push (token (String.ofList name))

def anchor : Scan Unit := do
  let marginal := (← get).cursor.column = 0
  name .anchor
  modify fun s => { s with marginal }

def tag : Scan Unit := do
  noteKey
  allowKey false
  let s ← get
  let (t, c) ← readTag (← inFlow) s.cursor
  move c
  push t
  modify fun s' => { s' with marginal := s.cursor.column = 0 }

def blockScalar (literal : Bool) : Scan Unit := do
  noteKey
  allowKey true
  past 1
  dropValueIndent
  let s ← get
  let (text, c) ← readBlock literal s.indent s.cursor
  move c
  push (.scalar false text)

/-- Reads a quoted scalar. A value may follow it at once. -/
def quoted (single : Bool) : Scan Unit := do
  noteKey
  allowKey false
  let s ← get
  let (text, c) ← readQuoted single s.indent (← inFlow) s.cursor
  move c
  toToken
  modify fun s => { s with valueAt := s.cursor.index }
  push (.scalar false text)

def plain : Scan Unit := do
  noteKey
  allowKey false
  dropValueIndent
  let s ← get
  let (text, c) ← readPlain (s.indent + 1) (← inFlow) s.cursor
  move c
  if c.fresh then allowKey true
  push (.scalar true text)

def documentMarker (t : Token) : Scan Unit := do
  closeBlocks (-1)
  dropKey
  allowKey false
  past 3
  push t
  if t = .documentEnd then move (← (← get).cursor.toLineEnd?)

def directive : Scan Unit := do
  closeBlocks (-1)
  dropKey
  allowKey false
  let (t, c) ← readDirective (← get).cursor
  move c
  push t

def endOfText : Scan Unit := do
  let s ← get
  if (s.key :: s.outer).any fun k => k.any PossibleKey.required then failure
  closeBlocks (-1)

def content (c : Char) (cs : List Char) : Scan Unit := do
  let s ← get
  let inFlow := !s.outer.isEmpty
  if c = '[' then openFlow .flowSequence
  else if c = '\x7b' then openFlow .flowMapping
  else if c = ']' then closeFlow .flowSequenceEnd
  else if c = '\x7d' then closeFlow .flowMappingEnd
  else if c = ',' then flowEntry
  else if c = '-' && endsWord cs then blockEntry
  else if c = '?' && endsWord cs then markedKey
  else if c = ':' && (endsWord cs ||
      (inFlow && (cs.head?.any isFlowMark || s.cursor.index = s.valueAt))) then value
  else if c = '*' then name .alias
  else if c = '&' then anchor
  else if c = '!' then tag
  else if c = '|' && !inFlow then blockScalar true
  else if c = '>' && !inFlow then blockScalar false
  else if c = '\'' then quoted true
  else if c = '"' then quoted false
  else if c = '%' || c = '@' || c.toNat = 0x60 then failure
  else plain

/-- Reads the next token, unless the text ends. -/
def next : Scan Bool := do
  toToken
  dropStaleKey
  closeBlocks (← get).cursor.column
  let s ← get
  match s.cursor.rest with
  | [] =>
      endOfText
      return false
  | c :: cs =>
      if s.cursor.column = 0 && c = '%' then directive
      else if s.cursor.atMarker '-' then documentMarker .documentStart
      else if s.cursor.atMarker '.' then documentMarker .documentEnd
      else if s.cursor.column < s.indent then failure
      else content c cs
      return true

def all : Nat → Scan Unit
  | 0 => failure
  | fuel + 1 => do if ← next then all fuel

end Scan

def tokens? (cs : List Char) : Option (List Token) :=
  let start : Layout := ⟨.ofText cs, #[], -1, [], none, [], true, 0, false, false, false⟩
  ((Scan.all (cs.length + 2)).run start).map fun ((), s) => s.tokens.toList

end Metaobject.Config.Yaml
