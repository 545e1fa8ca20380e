import Metaobject.Config.Data

/-!
# Quoted strings

Reads strings in single and double quotes, of one line or, in three quotes, of several lines; only
in double quotes a backslash begins an escape. Line ends and comments are here too, as strings and
comments admit the same characters.
-/

namespace Metaobject.Config.Toml

def isSpace (c : Char) : Bool := c = ' ' || c = '\t'

def skip (cs : List Char) : List Char := cs.dropWhile isSpace

/-- Characters that may stand in comments and strings as they are. -/
def isPlain (c : Char) : Bool := c = '\t' || (32 ≤ c.toNat && c.toNat ≠ 127)

/-- The rest after the end of a line, where a comment may come first. -/
def lineEnd (cs : List Char) : Option (List Char) :=
  let cs := match skip cs with
    | '#' :: cs => cs.dropWhile isPlain
    | cs => cs
  match cs with
  | [] => some []
  | '\n' :: cs => some cs
  | '\r' :: '\n' :: cs => some cs
  | _ => none

/-- Skips blanks, line ends and comments. -/
def skipLines : Nat → List Char → Option (List Char)
  | 0, cs => some cs
  | fuel + 1, cs =>
      match skip cs with
      | '#' :: cs => do skipLines fuel (← lineEnd ('#' :: cs))
      | '\n' :: cs => skipLines fuel cs
      | '\r' :: '\n' :: cs => skipLines fuel cs
      | cs => some cs

def escaped? : Char → Option Char
  | 'b' => some '\x08'
  | 't' => some '\t'
  | 'n' => some '\n'
  | 'f' => some '\x0c'
  | 'r' => some '\r'
  | '"' => some '"'
  | '\\' => some '\\'
  | _ => none

def escape : List Char → Option (Char × List Char)
  | 'u' :: cs =>
      if cs.length < 4 then none else do return (← Text.codePoint? (cs.take 4), cs.drop 4)
  | 'U' :: cs =>
      if cs.length < 8 then none else do return (← Text.codePoint? (cs.take 8), cs.drop 8)
  | c :: cs => (escaped? c).map fun c => (c, cs)
  | [] => none

/-- Reads a string of one line after its opening quote, with escapes. -/
def basic : Nat → List Char → Option (List Char × List Char)
  | 0, _ => none
  | fuel + 1, cs =>
      match cs with
      | [] => none
      | '"' :: cs => some ([], cs)
      | '\\' :: cs => do
          let (c, cs) ← escape cs
          let (s, cs) ← basic fuel cs
          return (c :: s, cs)
      | c :: cs =>
          if isPlain c then do
            let (s, cs) ← basic fuel cs
            return (c :: s, cs)
          else none

/-- Reads a string of one line after its opening quote, without escapes. -/
def literal (cs : List Char) : Option (List Char × List Char) :=
  let s := cs.takeWhile fun c => isPlain c && c ≠ '\''
  match cs.drop s.length with
  | '\'' :: rest => some (s, rest)
  | _ => none

def skipFirstLineEnd : List Char → List Char
  | '\n' :: cs => cs
  | '\r' :: '\n' :: cs => cs
  | cs => cs

/-- What remains of a string of several lines at its closing quotes: up to two quotes belong to the
string. -/
def closing (q : Char) (cs : List Char) : Option (List Char × List Char) :=
  let quotes := (cs.takeWhile (· = q)).length
  if quotes < 3 then none
  else if quotes ≤ 5 then some (List.replicate (quotes - 3) q, cs.drop quotes)
  else none

/-- Reads a string of several lines after its opening quotes, with escapes; a backslash at the end
of a line takes out the line end and the blanks that follow. -/
def multiBasic : Nat → List Char → Option (List Char × List Char)
  | 0, _ => none
  | fuel + 1, cs =>
      match cs with
      | [] => none
      | '"' :: rest =>
          if ['"', '"'].isPrefixOf rest then closing '"' cs
          else do
            let (s, cs) ← multiBasic fuel rest
            return ('"' :: s, cs)
      | '\\' :: rest =>
          match skipFirstLineEnd (skip rest) with
          | after =>
              if after.length < (skip rest).length then
                multiBasic fuel (after.dropWhile fun c => isSpace c || c = '\n' || c = '\r')
              else do
                let (c, cs) ← escape rest
                let (s, cs) ← multiBasic fuel cs
                return (c :: s, cs)
      | '\r' :: '\n' :: rest => do
          let (s, cs) ← multiBasic fuel rest
          return ('\n' :: s, cs)
      | c :: rest =>
          if isPlain c || c = '\n' then do
            let (s, cs) ← multiBasic fuel rest
            return (c :: s, cs)
          else none

/-- Reads a string of several lines after its opening quotes, without escapes. -/
def multiLiteral : Nat → List Char → Option (List Char × List Char)
  | 0, _ => none
  | fuel + 1, cs =>
      match cs with
      | [] => none
      | '\'' :: rest =>
          if ['\'', '\''].isPrefixOf rest then closing '\'' cs
          else do
            let (s, cs) ← multiLiteral fuel rest
            return ('\'' :: s, cs)
      | '\r' :: '\n' :: rest => do
          let (s, cs) ← multiLiteral fuel rest
          return ('\n' :: s, cs)
      | c :: rest =>
          if isPlain c || c = '\n' then do
            let (s, cs) ← multiLiteral fuel rest
            return (c :: s, cs)
          else none

def string (cs : List Char) : Option (List Char × List Char) :=
  match cs with
  | '"' :: '"' :: '"' :: cs => multiBasic (cs.length + 1) (skipFirstLineEnd cs)
  | '\'' :: '\'' :: '\'' :: cs => multiLiteral (cs.length + 1) (skipFirstLineEnd cs)
  | '"' :: cs => basic (cs.length + 1) cs
  | '\'' :: cs => literal cs
  | _ => none

end Metaobject.Config.Toml
