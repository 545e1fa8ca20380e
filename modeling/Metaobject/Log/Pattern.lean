import Metaobject.Failure
import Metaobject.Log.Pattern.Bracket

/-!
# Patterns

The value of a field in a log filter is a pattern, which has the form of a regular expression with
groups, alternatives, classes and repetitions. `Pattern.fault?` says why a text is not a pattern.
-/

namespace Metaobject.Pattern

/-- What has been read of a group, or of what lies in no group. -/
structure Group where
  /-- How the pattern is meant outside. -/
  outside : Flags
  /-- The depths of the alternatives before the last bar. -/
  alternatives : List Nat
  /-- The depths of the parts behind it, the last first; none for flags that are set. -/
  parts : List (Option Nat)

namespace Group

def last (g : Group) : Nat := sideBySide (g.parts.map (·.getD 0))

def depth (g : Group) : Nat :=
  if g.alternatives.isEmpty then g.last else (g.last :: g.alternatives).foldl max 0 + 1

/-- Adds a part, or flags. -/
def add (g : Group) (part : Option Nat) : Group := { g with parts := part :: g.parts }

def bar (g : Group) : Group := { g with alternatives := g.last :: g.alternatives, parts := [] }

/-- Repeats the last part, which there must be. -/
def again : Group → Option Group
  | ⟨f, alternatives, some d :: parts⟩ => some ⟨f, alternatives, some (d + 1) :: parts⟩
  | _ => none

end Group

/-- How far the reading of a pattern has come. -/
structure Reading where
  flags : Flags
  group : Group
  /-- The groups in which the group lies. -/
  enclosing : List Group
  names : List String
  /-- Words of all alphabets have been asked for. -/
  boundary : Bool

/-- What an opening parenthesis means. -/
inductive Opening where
  | group (inside : Flags) (name : Option String)
  /-- Flags for the rest of the group that is open already. -/
  | setting (flags : Flags)

namespace Opening

def readName (f : Flags) (cs : List Char) : Option (Opening × List Char) :=
  let name := cs.takeWhile (· ≠ '>')
  match name, cs.dropWhile (· ≠ '>') with
  | c :: more, _ :: rest =>
      if (c = '_' || Text.isLetter c) &&
          more.all fun c => "_.[]".toList.contains c || Text.isLetterOrNumeral c then
        some (group f (some (String.ofList name)), rest)
      else none
  | _, _ => none

/-- Reads flags: those behind a dash are cleared. -/
def readFlags (seen : List Char) (f : Flags) : List Char → Option (Opening × List Char)
  | [] => none
  | c :: cs =>
      if c = ':' then if seen.head? == some '-' then none else some (group f none, cs)
      else if c = ')' then
        if seen.isEmpty || seen.head? == some '-' then none else some (setting f, cs)
      else if seen.contains c || !"imsUuRx-".toList.contains c then none
      else readFlags (c :: seen) (f.set c !seen.contains '-') cs

def read (f : Flags) (cs : List Char) : Option (Opening × List Char) :=
  match skip f cs with
  | '?' :: 'P' :: '<' :: cs | '?' :: '<' :: cs => readName f cs
  | '?' :: cs => readFlags [] f cs
  | cs => some (group f none, cs)

end Opening

namespace Reading

def start : Reading := ⟨.standard, ⟨.standard, [], []⟩, [], [], false⟩

def add (r : Reading) (depth : Nat) : Reading := { r with group := r.group.add (some depth) }

def atom (r : Reading) (a : Atom) : Option Reading :=
  if !a.standsAlone r.flags then none
  else
    let r := r.add 0
    match a with
    | .boundary => some { r with boundary := r.boundary || r.flags.unicode }
    | _ => some r

/-- Opens a group, or sets flags. -/
def enter (r : Reading) : Opening → Option Reading
  | .setting f => some { r with flags := f, group := r.group.add none }
  | .group f name =>
      if name.any r.names.contains then none
      else some ⟨f, ⟨r.flags, [], []⟩, r.group :: r.enclosing, name.toList ++ r.names, r.boundary⟩

/-- Closes a group, which must be open. -/
def leave (r : Reading) : Option Reading :=
  match r.enclosing with
  | [] => none
  | g :: gs =>
      some ⟨r.group.outside, g.add (some (r.group.depth + 1)), gs, r.names, r.boundary⟩

/-- Reads the part that begins with a character. Counted repetitions, which would begin with a
brace, do not occur where fields end with one. -/
def step (r : Reading) (c : Char) (cs : List Char) : Option (Reading × List Char) :=
  match c with
  | '(' => do
      let (opening, cs) ← Opening.read r.flags cs
      return (← r.enter opening, cs)
  | ')' => r.leave.map (·, cs)
  | '|' => some ({ r with group := r.group.bar }, cs)
  | '[' => (Bracket.read r.flags cs).map fun (depth, cs) => (r.add depth, cs)
  | '?' | '*' | '+' => do
      let cs := if cs.head? == some '?' then cs.drop 1 else cs
      return ({ r with group := ← r.group.again }, cs)
  | '\\' => do
      let (a, cs) ← Atom.readEscape r.flags cs
      return (← r.atom a, cs)
  | '.' => (r.atom .dot).map (·, cs)
  | '^' | '$' => (r.atom .anchor).map (·, cs)
  | c => if c.toNat = 0x7b then none else (r.atom (.char c false)).map (·, cs)

/-- Reads a pattern to its end, where no group is open. Every step goes past a character. -/
def toEnd : Nat → Reading → List Char → Option Reading
  | 0, _, _ => none
  | fuel + 1, r, cs =>
      match skip r.flags cs with
      | [] => if r.enclosing.isEmpty then some r else none
      | c :: cs => do
          let (r, cs) ← r.step c cs
          toEnd fuel r cs

end Reading

def depthLimit : Nat := 250

/-- Why a text is not a pattern, if it is none. -/
def fault? (s : String) : Option PatternFault :=
  match Reading.start.toEnd (s.length + 1) s.toList with
  | none => some .malformed
  | some r =>
      if r.group.depth > depthLimit then some .malformed
      else if r.boundary then some .unicodeBoundary
      else none

end Metaobject.Pattern
