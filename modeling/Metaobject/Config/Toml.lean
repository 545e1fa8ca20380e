import Metaobject.Config.Number
import Metaobject.Config.Toml.DateTime
import Metaobject.Config.Toml.Quoted
import Metaobject.Config.Toml.Table

/-!
# TOML text

Reads configuration data from TOML text: key-value lines, table headers and headers of lists of
tables. Keys have a limited number of parts, and lists and tables may be nested to a limited depth.
-/

namespace Metaobject.Config.Toml

def isBare (c : Char) : Bool :=
  Text.isDigit c || ('a' ≤ c && c ≤ 'z') || ('A' ≤ c && c ≤ 'Z') || c = '_' || c = '-'

def keyPart (cs : List Char) : Option (String × List Char) :=
  match cs with
  | '"' :: cs => (basic (cs.length + 1) cs).map fun (s, cs) => (String.ofList s, cs)
  | '\'' :: cs => (literal cs).map fun (s, cs) => (String.ofList s, cs)
  | cs =>
      let s := cs.takeWhile isBare
      if s.isEmpty then none else some (String.ofList s, cs.drop s.length)

/-- A bound that the number of parts of a key and the depth of lists and tables stay below. -/
def depthLimit : Nat := 80

/-- Reads a key with its parts, of which there may be less than a number. -/
def keyParts : Nat → List Char → Option (List String × List Char)
  | 0, _ => none
  | 1, _ => none
  | limit + 1, cs => do
      let (k, cs) ← keyPart (skip cs)
      match skip cs with
      | '.' :: cs => do
          let (ks, cs) ← keyParts limit cs
          return (k :: ks, cs)
      | cs => return ([k], cs)

def key (cs : List Char) : Option (List String × List Char) := keyParts depthLimit cs

/-- Takes out the underscores of a number, each of which stands between two digits. -/
def dropUnderscores (isDigit : Char → Bool) : List Char → Option (List Char)
  | [] => some []
  | a :: '_' :: b :: cs =>
      if isDigit a && isDigit b then (dropUnderscores isDigit (b :: cs)).map (a :: ·) else none
  | c :: cs => if c = '_' then none else (dropUnderscores isDigit cs).map (c :: ·)

/-- Reads the digits of a number in a base other than ten. -/
def based? (base : Nat) (cs : List Char) : Option Data := do
  let cs ← dropUnderscores (fun c => (Text.hexValue? c).any (· < base)) cs
  if cs.isEmpty then none
  let n ← Text.ofBase? base cs
  if fitsLong n then return .int n else none

/-- Reads the text of a decimal number, which must not be too great for a floating-point number. -/
def decimal? (cs : List Char) : Option Data := do
  let cs ← dropUnderscores Text.isDigit cs
  let (_, unsigned) := spanSign cs
  let (whole, rest) := spanDigits unsigned
  if whole.isEmpty || (whole.length > 1 && whole.head? == some '0') then none
  if rest.isEmpty then
    return .int (← long? (String.ofList cs))
  else
    let (_, rest) ← fractionPart rest
    let (_, rest) ← exponentPart rest
    let bits ← float? (String.ofList cs)
    if rest.isEmpty && bits ≠ infinityBits then return .float bits else none

/-- Reads a value without quotes or brackets from its whole text. -/
def scalar? (cs : List Char) : Option Data :=
  match cs with
  | '0' :: 'x' :: ds => based? 16 ds
  | '0' :: 'o' :: ds => based? 8 ds
  | '0' :: 'b' :: ds => based? 2 ds
  | cs =>
      if cs = "true".toList then some (.bool true)
      else if cs = "false".toList then some (.bool false)
      else if (spanSign cs).2 = "inf".toList || (spanSign cs).2 = "nan".toList then
        (float? (String.ofList cs)).map .float
      else match DateTime.read? cs with
        | some d => some (.text d.text)
        | none => decimal? cs

def isScalarChar (c : Char) : Bool := isBare c || c = '+' || c = '.' || c = ':'

/-- Reads a value without quotes or brackets; a blank may stand between a date and a time. -/
def scalar (cs : List Char) : Option (Data × List Char) := do
  let s := cs.takeWhile isScalarChar
  let rest := cs.drop s.length
  let isDate := (Date.read? s).any fun r => r.2.isEmpty
  let time := (rest.drop 1).takeWhile isScalarChar
  if isDate && rest.head? == some ' ' && time.head?.any Text.isDigit then
    return (← scalar? (s ++ ' ' :: time), rest.drop (time.length + 1))
  else return (← scalar? s, rest)

mutual

/-- Reads a value; `depth` says how deep it may still be nested. -/
def value : Nat → Nat → List Char → Option (Data × List Char)
  | 0, _, _ => none
  | fuel + 1, depth, cs =>
      match depth, cs with
      | 0, '[' :: _ | 0, '{' :: _ => none
      | _, '"' :: _ | _, '\'' :: _ => (string cs).map fun (s, cs) => (.text (String.ofList s), cs)
      | depth + 1, '[' :: cs => elements fuel depth [] cs
      | depth + 1, '{' :: cs =>
          match skip cs with
          | '}' :: cs => some (.table [], cs)
          | cs => members fuel depth [] cs
      | _, cs => scalar cs

def elements : Nat → Nat → List Data → List Char → Option (Data × List Char)
  | 0, _, _, _ => none
  | fuel + 1, depth, read, cs => do
      match ← skipLines fuel cs with
      | ']' :: cs => some (.list read, cs)
      | cs =>
          let (d, cs) ← value fuel depth cs
          match ← skipLines fuel cs with
          | ',' :: cs => elements fuel depth (read ++ [d]) cs
          | ']' :: cs => some (.list (read ++ [d]), cs)
          | _ => none

/-- Reads the members of a table in braces up to its end. -/
def members : Nat → Nat → Entries → List Char → Option (Data × List Char)
  | 0, _, _, _ => none
  | fuel + 1, depth, read, cs => do
      let (ks, cs) ← key cs
      match cs with
      | '=' :: cs =>
          let (d, cs) ← value fuel depth (skip cs)
          let read ← setKey d ks read
          match skip cs with
          | ',' :: cs => members fuel depth read cs
          | '}' :: cs => some (.table (dataOf read), cs)
          | _ => none
      | _ => none

end

/-- Reads the lines of a document; `path` leads to the table that is open. -/
def lines : Nat → Entries → List String → List Char → Option Entries
  | 0, _, _, _ => none
  | fuel + 1, root, path, cs => do
      match ← skipLines fuel cs with
      | [] => return root
      | '[' :: '[' :: cs =>
          let (ks, cs) ← key cs
          match cs with
          | ']' :: ']' :: cs => lines fuel (← openNext ks root) ks (← lineEnd cs)
          | _ => none
      | '[' :: cs =>
          let (ks, cs) ← key cs
          match cs with
          | ']' :: cs => lines fuel (← openTable ks root) ks (← lineEnd cs)
          | _ => none
      | cs =>
          let (ks, cs) ← key cs
          match cs with
          | '=' :: cs =>
              let (d, cs) ← value fuel (depthLimit - 1) (skip cs)
              lines fuel (← setIn ks d path root) path (← lineEnd cs)
          | _ => none

/-- A text without the mark at its beginning that tells the order of bytes. -/
def dropByteOrderMark : List Char → List Char
  | '\ufeff' :: cs => cs
  | cs => cs

def parse (s : String) : Option Data :=
  (lines (s.length + 2) [] [] (dropByteOrderMark s.toList)).map fun es => .table (dataOf es)

end Metaobject.Config.Toml
