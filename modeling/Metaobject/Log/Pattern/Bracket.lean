import Metaobject.Log.Pattern.Atom

/-!
# Classes in brackets

A class lists its members between brackets, as characters, ranges, named classes and further
classes. Sets of members can be intersected and subtracted. A class has a depth: how far the classes
and the operations in it are nested.
-/

namespace Metaobject.Pattern

/-- The depth of parts that stand side by side; a single part does not nest. -/
def sideBySide : List Nat → Nat
  | [] => 0
  | [d] => d
  | ds => ds.foldl max 0 + 1

/-- What has been read of a class. -/
structure Bracket where
  /-- The depth of what stands before the last operator. -/
  left : Option Nat
  /-- The depths of the members behind it. -/
  members : List Nat
  /-- Nothing but dashes has been read. -/
  fresh : Bool

namespace Bracket

def depth (b : Bracket) : Nat :=
  match b.left with
  | none => sideBySide b.members
  | some d => max d (sideBySide b.members) + 1

def add (b : Bracket) (depth : Nat) : Bracket := ⟨b.left, depth :: b.members, false⟩

def operator (b : Bracket) : Bracket := ⟨some b.depth, [], false⟩

/-- Goes past the beginning of a class. The bytes that are not in a class would not all be
characters, so that a class of bytes cannot be negated. -/
def start (f : Flags) (cs : List Char) : Option (Bracket × List Char) :=
  match skip f cs with
  | '^' :: cs => if f.unicode then some (⟨none, [], true⟩, cs) else none
  | cs => some (⟨none, [], true⟩, cs)

def classNames : List String :=
  ["alnum", "alpha", "ascii", "blank", "cntrl", "digit", "graph", "lower", "print", "punct",
   "space", "upper", "word", "xdigit"]

/-- Reads the name of a class with its colons and the bracket behind it; true if what is not in the
class is meant. -/
def readNamed? : List Char → Option (Bool × List Char)
  | ':' :: cs =>
      let negated := cs.head? == some '^'
      let cs := if negated then cs.drop 1 else cs
      match cs.dropWhile (· ≠ ':') with
      | ':' :: ']' :: rest =>
          if classNames.contains (String.ofList (cs.takeWhile (· ≠ ':'))) then some (negated, rest)
          else none
      | _ => none
  | _ => none

def namedIsMember (f : Flags) (negated : Bool) : Bool :=
  if f.unicode then !f.ignoreCase else !negated

def peek (f : Flags) (cs : List Char) : Option Char :=
  if f.spaced then
    match cs.dropWhile Text.isBlankChar with
    | '#' :: cs => (cs.dropWhile Text.isBlankChar).head?
    | cs => cs.head?
  else cs.head?

def readAtom (f : Flags) : List Char → Option (Atom × List Char)
  | [] => none
  | '\\' :: cs => (Atom.readEscape f cs).filter fun (a, _) => a.isMember f
  | c :: cs => if (Atom.char c false).isMember f then some (.char c false, cs) else none

/-- Reads a member: an atom or a range of characters. -/
def readMember (f : Flags) (cs : List Char) : Option (List Char) := do
  let (first, cs) ← readAtom f cs
  let dash :: rest := skip f cs | none
  let next := peek f rest
  if dash ≠ '-' || next == some ']' || next == some '-' then return dash :: rest
  else
    let (last, rest) ← readAtom f (skip f rest)
    match first, last with
    | .char a _, .char b _ => if a ≤ b then return rest else none
    | _, _ => none

/-- Reads a class to its end, with the classes in which it lies. Every step goes past a
character. -/
def readFrom (f : Flags) : Nat → Bracket → List Bracket → List Char → Option (Nat × List Char)
  | 0, _, _, _ => none
  | fuel + 1, b, outer, cs =>
      match skip f cs with
      | [] => none
      | '[' :: cs =>
          match readNamed? cs with
          | some (negated, cs) =>
              if namedIsMember f negated then readFrom f fuel (b.add 0) outer cs else none
          | none => do
              let (inner, cs) ← start f cs
              readFrom f fuel inner (b :: outer) cs
      | ']' :: cs =>
          if b.fresh && b.members.isEmpty then
            if (Atom.char ']' false).isMember f then readFrom f fuel (b.add 0) outer cs else none
          else match outer with
            | [] => some (b.depth + 1, cs)
            | o :: os => readFrom f fuel (o.add (b.depth + 1)) os cs
      | '&' :: '&' :: cs | '~' :: '~' :: cs => readFrom f fuel b.operator outer cs
      | c :: cs =>
          if c = '-' && b.fresh then
            if (Atom.char '-' false).isMember f then
              readFrom f fuel { b.add 0 with fresh := true } outer cs
            else none
          else if c = '-' && cs.head? == some '-' then readFrom f fuel b.operator outer (cs.drop 1)
          else do
            let rest ← readMember f (c :: cs)
            readFrom f fuel (b.add 0) outer rest

/-- Reads what follows the opening bracket of a class; gives the depth of the class. -/
def read (f : Flags) (cs : List Char) : Option (Nat × List Char) := do
  let (b, cs) ← start f cs
  readFrom f (cs.length + 1) b [] cs

end Bracket

end Metaobject.Pattern
