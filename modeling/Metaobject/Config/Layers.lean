import Metaobject.Config.Json
import Metaobject.Config.Settings
import Metaobject.Config.Toml
import Metaobject.Config.Yaml
import Metaobject.Log.Event

/-!
# Settings from files and from the environment

Settings are read in layers: what a variable of the environment says goes before what the file
says, and what neither says is standard. A key may be written as a path with dots; keys do not
distinguish upper and lower case. Values are converted as far as it makes sense: a truth value may
be written as a number or as a word, a text as a number, and a table as the list of its values.
-/

namespace Metaobject.Config

/-- One step of a path of keys. -/
inductive KeyStep where
  | key (name : String)
  | index (n : Int)

def isKeyChar (c : Char) : Bool := Toml.isBare c || c = ' '

/-- Reads an index, with an optional minus sign and blanks around it, that fits into 64 bits. -/
def index? (cs : List Char) : Option Int :=
  let isSpace (c : Char) : Bool := c = ' ' || c = '\t'
  let trimmed := ((cs.dropWhile isSpace).reverse.dropWhile isSpace).reverse
  if trimmed.head? == some '+' then none else long? (String.ofList trimmed)

def keySteps : Nat → List Char → Option (List KeyStep)
  | 0, _ => none
  | _, [] => some []
  | fuel + 1, '.' :: cs =>
      let name := cs.takeWhile isKeyChar
      if name.isEmpty then none
      else (keySteps fuel (cs.drop name.length)).map (.key (String.ofList name) :: ·)
  | fuel + 1, '[' :: cs => do
      let number := cs.takeWhile (· ≠ ']')
      let n ← index? number
      match cs.drop number.length with
      | ']' :: cs => (keySteps fuel cs).map (.index n :: ·)
      | _ => none
  | _, _ => none

/-- The path that a key is; what is no path is one key. -/
def keyPath (key : String) : List KeyStep :=
  let name := key.toList.takeWhile isKeyChar
  let path := if name.isEmpty then none
    else (keySteps (key.length + 1) (key.toList.drop name.length)).map
      (KeyStep.key (String.ofList name) :: ·)
  path.getD [.key key]

/-- The entries of a table; anything else is left for an empty table. -/
def entriesOf : Data → Table
  | .table es => es
  | _ => []

/-- The items of a list; anything else is left for an empty list. -/
def itemsOf : Data → List Data
  | .list items => items
  | _ => []

mutual

/-- Puts data over older data under a key: tables are merged entry by entry, all else replaces what
was there. -/
def overlay (key : String) : Data → Table → Table
  | .table es, t =>
      let old := (t.lookup (lower key)).getD (.table [])
      Table.put t (lower key) (overlayEach es old)
  | d, t => Table.put t (lower key) d

/-- Puts entries over older data, one after the other. -/
def overlayEach : List (String × Data) → Data → Data
  | [], old => old
  | e :: es, old => overlayEach es (overlayEntry e old)

/-- Puts one entry over older data, which becomes a table. -/
def overlayEntry : String × Data → Data → Data
  | (k, d), old => .table (overlay k d (entriesOf old))

end

def setPath (d : Data) : List KeyStep → Data → Data
  | [], _ => d
  | [.key k], old => .table (overlay k d (entriesOf old))
  | .key k :: steps, old =>
      let es := entriesOf old
      .table (Table.put es (lower k) (setPath d steps ((es.lookup (lower k)).getD .null)))
  | .index n :: steps, old =>
      let items := itemsOf old
      let i := if n < 0 then (items.length + n).toNat else n.toNat
      let items := items ++ List.replicate (i + 1 - items.length) .null
      .list (items.set i (setPath d steps (items.getD i .null)))

/-- What a variable of the environment sets. -/
structure Variable where
  name : String
  value : String

def variablePrefix : List Char := "reflect__".toList

/-- Replaces the separator of names in variables by dots. -/
def dotted : List Char → List Char
  | '_' :: '_' :: cs => '.' :: dotted cs
  | c :: cs => c :: dotted cs
  | [] => []

/-- The key that a variable sets, if it is one of ours. -/
def Variable.key? (v : Variable) : Option String :=
  let name := (lower v.name).toList
  if variablePrefix.isPrefixOf name then
    some (String.ofList (dotted (name.drop variablePrefix.length)))
  else none

/-- The value of a variable: a truth value or a number where it reads as one. -/
def Variable.data (v : Variable) : Data :=
  let word := lower v.value
  if word = "true" then .bool true
  else if word = "false" then .bool false
  else match long? v.value with
    | some n => .int n
    | none => match float? v.value with
      | some bits => .float bits
      | none => .text v.value

/-- The formats of configuration files, by the extension of the file name. -/
def parse (extension content : String) : Option Data :=
  match extension with
  | "toml" => Toml.parse content
  | "json" => Json.parse content
  | "yaml" | "yml" => Yaml.parse content
  | _ => none

/-- The data of a file, whose top must be a table. -/
def fileTable (extension content : String) : Option Table :=
  match parse extension content with
  | some (.table es) => some es
  | _ => none

def addFile (es : Table) (d : Data) : Data :=
  es.foldl (fun d e => setPath e.2 (keyPath e.1) d) d

/-- Puts the variables of the environment over older data. -/
def addVariables (vs : List Variable) (d : Data) : Data :=
  vs.foldl (fun d v => match v.key? with
    | some key => setPath v.data (keyPath key) d
    | none => d) d

def Data.asBool? : Data → Option Bool
  | .bool b => some b
  | .int n => some (n ≠ 0)
  | .float bits => some (bits &&& 0x7fffffffffffffff ≠ 0)
  | .text s =>
      let word := lower s
      if ["1", "true", "on", "yes"].contains word then some true
      else if ["0", "false", "off", "no"].contains word then some false
      else none
  | _ => none

def Data.asText? : Data → Option String
  | .text s => some s
  | .bool b => some (if b then "true" else "false")
  | .int n => some (toString n)
  | .float bits => some (floatText bits)
  | _ => none

/-- Data as a table with the given names, for which a list of its values may stand in their order;
further items of the list do not count. -/
def Data.asTable? (names : List String) : Data → Option Table
  | .table es => some es
  | .list items => some (names.zip items)
  | _ => none

/-- Reads an entry of a table, or takes the standard value when there is none. -/
def entry {α : Type} (t : Table) (key : String) (standard : α) (read : Data → Option α) :
    Option α :=
  match t.lookup key with
  | none => some standard
  | some d => read d

def readOptional (read : Data → Option String) : Data → Option (Option String)
  | .null => some none
  | d => (read d).map some

/-- How the parts of settings are read from data. -/
structure Reader where
  bool : Data → Option Bool
  text : Data → Option String
  /-- Reads the fields of a record with the given names, in this order. -/
  table : List String → Data → Option Table

def Reader.lenient : Reader := ⟨Data.asBool?, Data.asText?, Data.asTable?⟩

/-- Converts nothing, but a list may stand for a table too, if all its items count. -/
def Reader.strict : Reader where
  bool
    | .bool b => some b
    | _ => none
  text
    | .text s => some s
    | _ => none
  table names
    | .list items => if items.length ≤ names.length then Data.asTable? names (.list items) else none
    | d => d.asTable? names

namespace Reader

def invoker (r : Reader) (d : Data) : Option InvokerSettings := do
  let t ← r.table ["native_tier", "handle_tier"] d
  return ⟨← entry t "native_tier" InvokerSettings.standard.nativeTier r.bool,
    ← entry t "handle_tier" InvokerSettings.standard.handleTier r.bool⟩

def proxy (r : Reader) (d : Data) : Option ProxySettings := do
  let t ← r.table ["namespace", "dump_dir"] d
  return ⟨← entry t "namespace" ProxySettings.standard.space r.text,
    ← entry t "dump_dir" ProxySettings.standard.dumpDir (readOptional r.text)⟩

def allocation (r : Reader) (d : Data) : Option AllocationSettings := do
  let t ← r.table ["raw_allocation", "handle_allocation"] d
  return ⟨← entry t "raw_allocation" AllocationSettings.standard.rawAllocation r.bool,
    ← entry t "handle_allocation" AllocationSettings.standard.handleAllocation r.bool⟩

def settings (r : Reader) (d : Data) : Option Settings := do
  let t ← r.table ["invoker", "proxy", "allocation"] d
  return ⟨← entry t "invoker" .standard r.invoker, ← entry t "proxy" .standard r.proxy,
    ← entry t "allocation" .standard r.allocation⟩

end Reader

/-- Where settings come from. -/
inductive Source where
  | environment
  | missing (path : String)
  /-- A file, by the extension of its name and its content. -/
  | file (extension content : String)

/-- The settings that a source and the variables of the environment give. -/
def read (source : Source) (vs : List Variable) : Except ConfigFailure Settings := do
  let base ← match source with
    | .environment => .ok (Data.table [])
    | .missing path => .error (.fileNotFound path)
    | .file extension content => match fileTable extension content with
      | some es => .ok (addFile es (.table []))
      | none => .error .unreadable
  match Reader.lenient.settings (addVariables vs base) with
  | none => .error .unreadable
  | some s => do
      s.validate
      return s

def load (source : Source) (vs : List Variable) : ExceptT ConfigFailure Logged Settings := do
  let s ← ExceptT.mk (pure (read source vs))
  ExceptT.lift (Logged.report .debug s!"运行时配置加载完成: {s.inspect}")
  return s

end Metaobject.Config
