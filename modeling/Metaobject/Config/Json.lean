import Metaobject.Config.Json.Number

/-!
# JSON text

Reads configuration data from JSON text. Of two members of an object with the same name the last
one counts. Objects and lists may be nested to a limited depth.
-/

namespace Metaobject.Config.Json

def depthLimit : Nat := 127

def isSpace (c : Char) : Bool := c = ' ' || c = '\t' || c = '\n' || c = '\r'

def skip (cs : List Char) : List Char := cs.dropWhile isSpace

def hex4? (a b c d : Char) : Option Nat := Text.ofBase? 16 [a, b, c, d]

def escaped? : Char → Option Nat
  | '"' => some 34
  | '\\' => some 92
  | '/' => some 47
  | 'b' => some 8
  | 'f' => some 12
  | 'n' => some 10
  | 'r' => some 13
  | 't' => some 9
  | _ => none

/-- Reads a string after its opening quote, as code points and, from escapes, code units. -/
def units : List Char → Option (List Nat × List Char)
  | [] => none
  | '"' :: rest => some ([], rest)
  | '\\' :: 'u' :: a :: b :: c :: d :: rest => do
      let n ← hex4? a b c d
      let (ns, rest) ← units rest
      return (n :: ns, rest)
  | '\\' :: c :: rest => do
      let n ← escaped? c
      let (ns, rest) ← units rest
      return (n :: ns, rest)
  | c :: rest => do
      if c.toNat < 32 || c = '\\' then none
      let (ns, rest) ← units rest
      return (c.toNat :: ns, rest)

/-- Joins the two halves of characters beyond the first plane; a half alone is refused. -/
def joinUnits : List Nat → Option (List Char)
  | [] => some []
  | [n] => if 0xd800 ≤ n && n ≤ 0xdfff then none else some [Char.ofNat n]
  | n :: m :: ns =>
      if 0xd800 ≤ n && n ≤ 0xdbff then
        if 0xdc00 ≤ m && m ≤ 0xdfff then
          (joinUnits ns).map (Char.ofNat (0x10000 + (n - 0xd800) * 0x400 + (m - 0xdc00)) :: ·)
        else none
      else if 0xdc00 ≤ n && n ≤ 0xdfff then none
      else (joinUnits (m :: ns)).map (Char.ofNat n :: ·)

def string (cs : List Char) : Option (String × List Char) := do
  let (ns, rest) ← units cs
  return (String.ofList (← joinUnits ns), rest)

def word : List Char → Option (Data × List Char)
  | 't' :: 'r' :: 'u' :: 'e' :: cs => some (.bool true, cs)
  | 'f' :: 'a' :: 'l' :: 's' :: 'e' :: cs => some (.bool false, cs)
  | 'n' :: 'u' :: 'l' :: 'l' :: cs => some (.null, cs)
  | _ => none

mutual

/-- Reads a value; `depth` says how deep it may still be nested. -/
def value : Nat → Nat → List Char → Option (Data × List Char)
  | 0, _, _ => none
  | fuel + 1, depth, cs =>
      match skip cs with
      | '{' :: cs =>
          if depth = 0 then none
          else match skip cs with
            | '}' :: cs => some (.table [], cs)
            | cs => members fuel (depth - 1) [] cs
      | '[' :: cs =>
          if depth = 0 then none
          else match skip cs with
            | ']' :: cs => some (.list [], cs)
            | cs => elements fuel (depth - 1) [] cs
      | '"' :: cs => (string cs).map fun (s, cs) => (.text s, cs)
      | '-' :: cs => number ('-' :: cs)
      | c :: cs => if Text.isDigit c then number (c :: cs) else word (c :: cs)
      | [] => none

def members : Nat → Nat → Table → List Char → Option (Data × List Char)
  | 0, _, _, _ => none
  | fuel + 1, depth, read, cs =>
      match skip cs with
      | '"' :: cs => do
          let (key, cs) ← string cs
          match skip cs with
          | ':' :: cs => do
              let (d, cs) ← value fuel depth cs
              let read := Table.put read key d
              match skip cs with
              | ',' :: cs => members fuel depth read cs
              | '}' :: cs => some (.table read, cs)
              | _ => none
          | _ => none
      | _ => none

def elements : Nat → Nat → List Data → List Char → Option (Data × List Char)
  | 0, _, _, _ => none
  | fuel + 1, depth, read, cs => do
      let (d, cs) ← value fuel depth cs
      match skip cs with
      | ',' :: cs => elements fuel depth (read ++ [d]) cs
      | ']' :: cs => some (.list (read ++ [d]), cs)
      | _ => none

end

def parse (s : String) : Option Data := do
  let (d, rest) ← value (s.length + 1) depthLimit s.toList
  if (skip rest).isEmpty then return d else none

end Metaobject.Config.Json
