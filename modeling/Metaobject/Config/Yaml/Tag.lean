import Metaobject.Config.Data
import Metaobject.Config.Yaml.Token

/-!
# Tags and directives

Reads the tags that say of what kind a node is, and the lines before a document that say which
version of the format it has and for what the handles of tags stand.
-/

namespace Metaobject.Config.Yaml

def isAddressChar (c : Char) : Bool :=
  c.isAlphanum || c = '-' || "#;/?:@&=+$,_.!~*'()[]%".toList.contains c

def isTagChar (c : Char) : Bool := isAddressChar c && !isFlowMark c && c ≠ '!'

def escapeWidth? (byte : Nat) : Option Nat :=
  if byte < 0x80 then some 1
  else if byte < 0xc0 then none
  else if byte < 0xe0 then some 2
  else if byte < 0xf0 then some 3
  else if byte < 0xf8 then some 4
  else none

/-- Reads a byte written as a percent sign and two hexadecimal digits. -/
def readEscapedByte (c : Cursor) : Option (Nat × Cursor) :=
  match c.rest with
  | '%' :: a :: b :: _ => do return (← Text.ofBase? 16 [a, b], c.past 3)
  | _ => none

def readEscapedBytes : Nat → Nat → Cursor → Option (Nat × Cursor)
  | 0, code, c => some (code, c)
  | n + 1, code, c => do
      let (byte, c) ← readEscapedByte c
      if byte < 0x80 || 0xc0 ≤ byte then none
      readEscapedBytes n (code * 0x100 + byte) c

/-- Reads a group of escaped bytes, whose number put together must be a code point. -/
def readEscapedChar (c : Cursor) : Option (Char × Cursor) := do
  let (byte, c) ← readEscapedByte c
  let (code, c) ← readEscapedBytes ((← escapeWidth? byte) - 1) byte c
  if code < 0xd800 || (0xdfff < code && code < 0x110000) then return (Char.ofNat code, c) else none

/-- Reads characters that have a property, where a percent sign begins an escape. -/
def readAddress (p : Char → Bool) : Nat → Cursor → List Char → Option (List Char × Cursor)
  | 0, _, _ => none
  | fuel + 1, c, text =>
      match c.rest with
      | ch :: _ =>
          if !p ch then some (text, c)
          else if ch = '%' then do
            let (ch, c) ← readEscapedChar c
            readAddress p fuel c (text ++ [ch])
          else readAddress p fuel (c.past 1) (text ++ [ch])
      | [] => some (text, c)

/-- Reads the handle of a tag: exclamation marks around a word, of which the second may be
missing. -/
def readHandle (c : Cursor) : Option (List Char × Cursor) :=
  match c.rest with
  | '!' :: _ =>
      let (word, c) := (c.past 1).span isWordChar
      match c.rest with
      | '!' :: _ => some ('!' :: word ++ ['!'], c.past 1)
      | _ => some ('!' :: word, c)
  | _ => none

/-- Reads a tag. A tag without a handle has the handle of local tags, one without a suffix none. -/
def readTag (inFlow : Bool) (c : Cursor) : Option (Token × Cursor) := do
  let fuel := c.rest.length + 1
  let (tag, c) ← match c.rest with
    | '!' :: '<' :: _ => do
        let (text, c) ← readAddress isAddressChar fuel (c.past 2) []
        if c.rest.head? == some '>' then some (("", String.ofList text), c.past 1) else none
    | _ => do
        let (handle, c) ← readHandle c
        let (suffix, c) ← readAddress isTagChar fuel c []
        if handle.length ≥ 2 && handle.getLast? == some '!' then
          if suffix.isEmpty then none
          some ((String.ofList handle, String.ofList suffix), c)
        else
          let suffix := handle.drop 1 ++ suffix
          if suffix.isEmpty then some (("", "!"), c)
          else some (("!", String.ofList suffix), c)
  if endsWord c.rest || (inFlow && c.rest.head?.any isFlowMark) then
    return (.tag tag.1 tag.2, c)
  else none

/-- Reads the digits of a number, of which there are one to nine. -/
def readVersionNumber (c : Cursor) : Option Cursor :=
  let (digits, c) := c.span Text.isDigit
  if digits.isEmpty || digits.length > 9 then none else some c

def readVersion (c : Cursor) : Option (Token × Cursor) := do
  let c ← readVersionNumber c.skipSpaces
  if c.rest.head? == some '.' then
    return (.version, ← readVersionNumber (c.past 1))
  else none

def readTagHandle (c : Cursor) : Option (Token × Cursor) := do
  let (handle, c) ← readHandle c.skipSpaces
  if handle.length ≥ 2 && handle.getLast? ≠ some '!' then none
  let c := c.skipSpaces
  let fuel := c.rest.length + 1
  let (text, c) ← match c.rest with
    | '!' :: _ => readAddress isAddressChar fuel (c.past 1) ['!']
    | ch :: _ => if isTagChar ch then readAddress isAddressChar fuel c [] else none
    | [] => none
  if endsWord c.rest then
    return (.tagHandle (String.ofList handle) (String.ofList text), c)
  else none

/-- Reads a directive, which takes up its line. One that is not known says nothing. -/
def readDirective (c : Cursor) : Option (Token × Cursor) := do
  let (name, c) := (c.past 1).span isWordChar
  if name.isEmpty || !endsWord c.rest then none
  let (token, c) ←
    if name = "YAML".toList then readVersion c
    else if name = "TAG".toList then readTagHandle c
    else some (.tagHandle "" "", c.skipLine)
  let c ← c.toLineEnd?
  return (token, if c.rest.isEmpty then c else c.pastBreak)

end Metaobject.Config.Yaml
