import Metaobject.Config.Number
import Metaobject.Log.Event
import Metaobject.Log.Pattern

/-!
# Log filters

A filter is a list of directives, separated by commas. A directive sets the level for everything,
as in `info`, or for what comes from a target, as in `net::tcp=debug`; a target alone sets its most
detailed level. Square brackets restrict a directive to a span, braces in them to events with
certain fields. Of the directives that apply to an event the one with the longest target decides.
-/

namespace Metaobject

/-- A filter directive. -/
structure Directive where
  target : Option String
  /-- The least important level that passes; `none` lets nothing pass. -/
  level : Option Level
  /-- The directive applies within a span only, or depends on the value of a field. -/
  dynamic : Bool
  /-- The fields that an event must have. -/
  fields : List String

namespace Directive

/-- Reads a whole number, which may have a plus sign. -/
def number? (cs : List Char) : Option Nat :=
  let digits := match cs with
    | '+' :: ds => ds
    | _ => cs
  if digits.isEmpty || !digits.all Text.isDigit then none else some (Text.ofDigits digits)

/-- Reads the least important level that passes, by its name in any case or by its number; the
empty text stands for errors. The level `none` lets nothing pass. -/
def level? (s : String) : Option (Option Level) :=
  match number? s.toList with
  | some 0 => some none
  | some n => (Level.all.find? fun l => l.rank == n).map some
  | none =>
      let lower := s.toList.map Char.toLower
      if lower.isEmpty then some (some .error)
      else if String.ofList lower = "off" then some none
      else (Level.all.find? fun l => l.name.toList.map Char.toLower == lower).map some

/-- Where the reading of a directive has come to; the numbers are places in the text, counted in
bytes. -/
inductive Place where
  | start
  | levelOrTarget (start : Nat)
  | span (start : Nat)
  | field (start : Nat)
  | fields
  | target
  | level (start : Nat)

/-- What has been read of a directive. -/
structure Partial where
  place : Place
  target : Option String
  span : Option String
  /-- The fields with their values, if they have any. -/
  fields : List (String × Bool)

def before : Nat → List Char → List Char
  | 0, _ => []
  | _, [] => []
  | n, c :: cs => c :: before (n - c.utf8Size) cs

def behind : Nat → List Char → List Char
  | 0, cs => cs
  | _, [] => []
  | n, c :: cs => behind (n - c.utf8Size) cs

def slice (text : List Char) (first last : Nat) : String :=
  String.ofList (before (last - first) (behind first text))

def mayBegin (c : Char) : Bool := "-:_".toList.contains c || Text.isLetterOrNumeral c

/-- Reads a field, with or without a value. A value is a number or a pattern. -/
def readField (s : String) : Except FilterFault (String × Bool) :=
  match s.splitOn "=" with
  | [""] => .error .directive
  | name :: value :: _ =>
      if (Config.float? value).isSome then .ok (name, true)
      else match Pattern.fault? value with
        | none => .ok (name, true)
        | some cause => .error (.field cause)
  | _ => .ok (s, false)

/-- Reads one character, at the place `i`. -/
def step (text : List Char) (p : Partial) (i : Nat) (c : Char) : Except FilterFault Partial :=
  match p.place with
  | .start =>
      if c = '[' then .ok { p with place := .span (i + 1) }
      else if mayBegin c then .ok { p with place := .levelOrTarget i }
      else .error .directive
  | .levelOrTarget start =>
      if c = '=' then .ok { p with place := .level (i + 1), target := some (slice text start i) }
      else if c = '[' then
        .ok { p with place := .span (i + 1), target := some (slice text start i) }
      else .ok p
  | .span start =>
      let name := slice text start i
      if c = ']' then .ok { p with place := .target, span := some name }
      else if c.toNat = 0x7b then
        .ok { p with place := .field (i + 1), span := if name.isEmpty then none else some name }
      else .ok p
  | .field start =>
      if c.toNat = 0x7d then do
        return { p with place := .fields, fields := p.fields ++ [← readField (slice text start i)] }
      else .ok p
  | .fields => if c = ']' then .ok { p with place := .target } else .error .directive
  | .target => if c = '=' then .ok { p with place := .level (i + 1) } else .error .directive
  | .level _ => .ok p

/-- Reads characters, of which the first is at the place `i`. -/
def steps (text : List Char) : Partial → Nat → List Char → Except FilterFault Partial
  | p, _, [] => .ok p
  | p, i, c :: cs => do steps text (← step text p i c) (i + c.utf8Size) cs

def parse (s : String) : Except FilterFault Directive := do
  let text := s.toList
  let p ← steps text ⟨.start, none, none, []⟩ 0 (Text.trim text)
  let dynamic := p.span.isSome || p.fields.any (·.2)
  let fields := p.fields.map (·.1)
  match p.place with
  | .levelOrTarget start =>
      let word := slice text start s.utf8ByteSize
      match level? word with
      | some level => return ⟨none, level, dynamic, fields⟩
      | none => return ⟨some word, some .trace, dynamic, fields⟩
  | .level start =>
      let word := slice text start s.utf8ByteSize
      if word.isEmpty then return ⟨p.target, some .trace, dynamic, fields⟩
      else match level? word with
        | some level => return ⟨p.target, level, dynamic, fields⟩
        | none => throw .level
  | .target => return ⟨p.target, some .trace, dynamic, fields⟩
  | _ => throw .directive

/-- Whether the directive applies to an event with nothing but a message. -/
def appliesTo (target : String) (d : Directive) : Bool :=
  !d.dynamic && d.fields.all (· == "message") &&
    d.target.all fun t => t.toList.isPrefixOf target.toList

/-- Directives with longer targets go before others, and then those that name more fields. -/
def atLeastAsSpecific (a b : Directive) : Bool :=
  let length (d : Directive) : Nat := match d.target with
    | none => 0
    | some t => t.utf8ByteSize + 1
  length b < length a || (length b == length a && b.fields.length ≤ a.fields.length)

end Directive

/-- The directives of a filter. -/
structure Filter where
  directives : List Directive

namespace Filter

/-- The filter that lets pass what is at least as important as a level. -/
def ofLevel (level : Level) : Filter := ⟨[⟨none, some level, false, []⟩]⟩

/-- Reads a filter; a text without directives lets errors pass. -/
def parse (s : String) : Except FilterFault Filter :=
  match (s.splitOn ",").filter (· ≠ "") with
  | [] => .ok (.ofLevel .error)
  | parts => do return ⟨← parts.mapM Directive.parse⟩

/-- Whether an event of a target with nothing but a message passes. -/
def passes (f : Filter) (target : String) (level : Level) : Bool :=
  let applying := f.directives.filter (Directive.appliesTo target)
  let deciding := applying.foldl (fun best d => match best with
    | none => some d
    | some b => if d.atLeastAsSpecific b then some d else some b) (none : Option Directive)
  match deciding with
  | some ⟨_, some least, _, _⟩ => level.rank ≤ least.rank
  | _ => false

end Filter

end Metaobject
