import Metaobject.Config.Number
import Metaobject.Config.Yaml.Token

/-!
# Nodes

What the tokens of a document say: a tree of scalars, lists and mappings. A node with a name can
stand in other places too; the name of a node that is not complete yet stands for a void node.
Of all nodes the void one cannot be a key: the node after it takes its place.
-/

namespace Metaobject.Config.Yaml

/-- A scalar, after what its text means. -/
inductive Scalar where
  | null
  | bool (b : Bool)
  | int (n : Int)
  /-- A floating-point number, as it is written. -/
  | real (text : String)
  | text (s : String)
deriving DecidableEq

/-- A node of a document. -/
inductive Node where
  | void
  | scalar (s : Scalar)
  | list (items : List Node)
  | mapping (entries : List (Scalar × Node))

/-! ## Scalars -/

/-- Reads a whole number in some base, with an optional sign, that fits into 64 bits. -/
def based? (base : Nat) (cs : List Char) : Option Int := do
  let (negative, ds) := spanSign cs
  if ds.isEmpty then none
  let n ← Text.ofBase? base ds
  let n : Int := if negative then -(n : Int) else n
  if fitsLong n then return n else none

def isSpecialReal (s : String) : Bool :=
  [".inf", ".Inf", ".INF", "+.inf", "+.Inf", "+.INF", "-.inf", "-.Inf", "-.INF", ".nan", "NaN",
    ".NAN"].contains s

def isReal (s : String) : Bool := isSpecialReal s || (float? s).isSome

/-- A whole number with a base or with a sign in front. -/
def marked? (cs : List Char) : Option Int :=
  match cs with
  | '0' :: 'x' :: ds => based? 16 ds
  | '0' :: 'o' :: ds => based? 8 ds
  | '+' :: ds => long? (String.ofList ds)
  | _ => none

def Scalar.ofPlain (s : String) : Scalar :=
  match marked? s.toList with
  | some n => .int n
  | none =>
      if s = "" || s = "~" || s = "null" then .null
      else if s = "true" then .bool true
      else if s = "false" then .bool false
      else match long? s with
        | some n => .int n
        | none => if isReal s then .real s else .text s

/-- The handle of the tags that the format itself defines. -/
def coreTags : String := "tag:yaml.org,2002:"

/-- What a plain scalar with one of the tags that the format defines means. -/
def Node.ofTagged (tag s : String) : Node :=
  match tag with
  | "bool" => if s = "true" then .scalar (.bool true) else if s = "false" then .scalar (.bool false)
      else .void
  | "int" => ((long? s).map fun n => .scalar (.int n)).getD .void
  | "float" => if isReal s then .scalar (.real s) else .void
  | "null" => if s = "~" || s = "null" then .scalar .null else .void
  | _ => .scalar (.text s)

def Node.ofPlain (tag : Option (String × String)) (s : String) : Node :=
  match tag with
  | none => .scalar (.ofPlain s)
  | some (handle, suffix) =>
      if handle = coreTags then .ofTagged suffix s else .scalar (.text s)

/-! ## Mappings -/

/-- Makes entries of keys and values that follow one another. A key may be any scalar but null and
must not occur twice; a key at the end without a value is dropped. -/
def entries? : List (Scalar × Node) → Option Scalar → List Node → Option (List (Scalar × Node))
  | es, _, [] => some es
  | es, none, .void :: ns => entries? es none ns
  | es, none, .scalar k :: ns => if k = .null then none else entries? es (some k) ns
  | _, none, _ :: _ => none
  | es, some k, n :: ns => if (es.lookup k).isSome then none else entries? (es ++ [(k, n)]) none ns

/-- The mapping of keys and values that follow one another. -/
def Node.ofChildren? (ns : List Node) : Option Node := (entries? [] none ns).map .mapping

/-! ## Reading -/

/-- What is known while a document is read. -/
structure Reading where
  tokens : List Token
  /-- For what the handles of tags stand. -/
  handles : List (String × String)
  /-- The numbers of the nodes with a name. -/
  names : List (String × Nat)
  /-- The nodes with a name that are complete, by their numbers. -/
  nodes : List (Nat × Node)

abbrev Read := StateT Reading Option

namespace Read

def peek? : Read (Option Token) := return (← get).tokens.head?

def skip : Read Unit := modify fun r => { r with tokens := r.tokens.drop 1 }

def missing : Node := .scalar .null

/-- The handle and the suffix of a tag with the handle replaced by what it stands for. A handle
between exclamation marks must be declared. -/
def resolve (handle suffix : String) : Read (String × String) := do
  let key := if handle.isEmpty && suffix = "!" then "" else handle
  match (← get).handles.lookup key with
  | some text => return (text, suffix)
  | none =>
      if handle = "!!" then return (coreTags, suffix)
      else if handle.length ≥ 2 && handle.toList.getLast? == some '!' then failure
      else return (handle, suffix)

/-- Gives a name to the node that is about to be read; the number of the node is the answer. -/
def declare (name : String) : Read Nat := do
  let r ← get
  let n := r.names.length
  set { r with names := (name, n) :: r.names }
  return n

def complete (number : Option Nat) (node : Node) : Read Node := do
  if let some n := number then modify fun r => { r with nodes := (n, node) :: r.nodes }
  return node

/-- Reads the tag at the place, if there is one. -/
def tag? : Read (Option (String × String)) := do
  match ← peek? with
  | some (.tag handle suffix) =>
      skip
      return some (← resolve handle suffix)
  | _ => return none

/-- Reads the name at the place, if there is one. -/
def anchor? : Read (Option Nat) := do
  match ← peek? with
  | some (.anchor name) =>
      skip
      return some (← declare name)
  | _ => return none

/-- Reads the name and the tag of a node, which may stand in either order. -/
def properties : Read (Option Nat × Option (String × String)) := do
  match ← anchor? with
  | some n => return (some n, ← tag?)
  | none =>
      match ← tag? with
      | some t => return (← anchor?, some t)
      | none => return (none, none)

mutual

/-- Reads a node. Blocks begin only where `block` says so, and the dashes of a sequence may stand as
far to the left as the key before it where `dashes` says so. -/
def node : Nat → Bool → Bool → Read Node
  | 0, _, _ => failure
  | fuel + 1, block, dashes => do
      if let some (.alias name) := ← peek? then
        skip
        let r ← get
        let n ← r.names.lookup name
        return (r.nodes.lookup n).getD .void
      let (number, tag) ← properties
      match ← peek? with
      | some .blockEntry =>
          if dashes then complete number (.list (← dashItems fuel))
          else if number.isSome || tag.isSome then complete number (.ofPlain tag "")
          else failure
      | some (.scalar plain text) =>
          skip
          complete number (if plain then .ofPlain tag text else .scalar (.text text))
      | some .flowSequence =>
          skip
          complete number (.list (← flowItems fuel true))
      | some .flowMapping =>
          skip
          complete number (← Node.ofChildren? (← flowMembers fuel true))
      | some .blockSequence =>
          if !block then failure
          skip
          complete number (.list (← blockItems fuel))
      | some .blockMapping =>
          if !block then failure
          skip
          complete number (← Node.ofChildren? (← blockMembers fuel))
      | _ =>
          if number.isSome || tag.isSome then complete number (.ofPlain tag "")
          else failure

/-- Reads a node of a block unless one of the tokens comes next that end it. -/
def blockChild : Nat → Bool → List Token → Read Node
  | 0, _, _ => failure
  | fuel + 1, dashes, ends => do
      match ← peek? with
      | some t => if ends.contains t then return missing else node fuel true dashes
      | none => node fuel true dashes

/-- Reads a node of a flow collection unless one of the tokens comes next that end it. -/
def flowChild : Nat → List Token → Read Node
  | 0, _ => failure
  | fuel + 1, ends => do
      match ← peek? with
      | some t => if ends.contains t then return missing else node fuel false false
      | none => node fuel false false

/-- Reads the items of a sequence whose dashes stand below a key. -/
def dashItems : Nat → Read (List Node)
  | 0 => failure
  | fuel + 1 => do
      match ← peek? with
      | some .blockEntry =>
          skip
          let n ← blockChild fuel false [.blockEntry, .key, .value, .blockEnd]
          return n :: (← dashItems fuel)
      | _ => return []

def blockItems : Nat → Read (List Node)
  | 0 => failure
  | fuel + 1 => do
      match ← peek? with
      | some .blockEntry =>
          skip
          let n ← blockChild fuel false [.blockEntry, .blockEnd]
          return n :: (← blockItems fuel)
      | some .blockEnd =>
          skip
          return []
      | _ => failure

/-- Reads the keys and values of a block mapping up to its end. -/
def blockMembers : Nat → Read (List Node)
  | 0 => failure
  | fuel + 1 => do
      let ends := [.key, .value, .blockEnd]
      match ← peek? with
      | some .blockEnd =>
          skip
          return []
      | some .key =>
          skip
          let k ← blockChild fuel true ends
          blockValue fuel k
      | some .value => blockValue fuel missing
      | _ => failure

/-- Reads the value of a key of a block mapping and what follows in the mapping. -/
def blockValue : Nat → Node → Read (List Node)
  | 0, _ => failure
  | fuel + 1, k => do
      match ← peek? with
      | some .value =>
          skip
          let v ← blockChild fuel true [.key, .value, .blockEnd]
          return k :: v :: (← blockMembers fuel)
      | _ => return k :: missing :: (← blockMembers fuel)

/-- Reads the keys and values of a mapping in braces up to its end. -/
def flowMembers : Nat → Bool → Read (List Node)
  | 0, _ => failure
  | fuel + 1, first => do
      if (← peek?) = some .flowMappingEnd then
        skip
        return []
      if !first then
        if (← peek?) ≠ some .flowEntry then failure
        skip
      match ← peek? with
      | some .flowMappingEnd =>
          skip
          return []
      | some .key =>
          skip
          let k ← flowChild fuel [.value, .flowEntry, .flowMappingEnd]
          flowValue fuel k
      | some .value => flowValue fuel missing
      | _ =>
          let k ← node fuel false false
          return k :: missing :: (← flowMembers fuel false)

/-- Reads the value of a key of a mapping in braces and what follows in the mapping. -/
def flowValue : Nat → Node → Read (List Node)
  | 0, _ => failure
  | fuel + 1, k => do
      match ← peek? with
      | some .value =>
          skip
          let v ← flowChild fuel [.flowEntry, .flowMappingEnd]
          return k :: v :: (← flowMembers fuel false)
      | _ => return k :: missing :: (← flowMembers fuel false)

/-- Reads the items of a sequence in brackets up to its end. -/
def flowItems : Nat → Bool → Read (List Node)
  | 0, _ => failure
  | fuel + 1, first => do
      if (← peek?) = some .flowSequenceEnd then
        skip
        return []
      if !first then
        if (← peek?) ≠ some .flowEntry then failure
        skip
      match ← peek? with
      | some .flowSequenceEnd =>
          skip
          return []
      | some .key =>
          skip
          let n ← pair fuel
          return n :: (← flowItems fuel false)
      | _ =>
          let n ← node fuel false false
          return n :: (← flowItems fuel false)

/-- Reads a mapping of one key in a sequence in brackets. -/
def pair : Nat → Read Node
  | 0 => failure
  | fuel + 1 => do
      let k ← match ← peek? with
        | some .value | some .flowEntry | some .flowSequenceEnd => do
            skip
            pure missing
        | _ => node fuel false false
      let v ← match ← peek? with
        | some .value => do
            skip
            flowChild fuel [.flowEntry, .flowSequenceEnd]
        | _ => pure missing
      Node.ofChildren? [k, v]

end

/-! ## Documents -/

/-- Reads the directives of a document. Only the last of them counts for tags, and at most one says
which version the format has. -/
def directives : Nat → Bool → Read Unit
  | 0, _ => failure
  | fuel + 1, versioned => do
      match ← peek? with
      | some .version =>
          if versioned then failure
          skip
          modify fun r => { r with handles := [] }
          directives fuel true
      | some (.tagHandle handle text) =>
          skip
          modify fun r => { r with handles := [(handle, text)] }
          directives fuel versioned
      | _ => pure ()

/-- Reads the root of a document that begins with directives or a marker. -/
def markedRoot (fuel : Nat) : Read Node := do
  directives fuel false
  if (← peek?) ≠ some .documentStart then failure
  skip
  match ← peek? with
  | none | some .version | some (.tagHandle ..) | some .documentStart | some .documentEnd =>
      return missing
  | _ => node fuel true false

/-- Reads the root of the only document, if there is one. -/
def root? (fuel : Nat) : Read (Option Node) := do
  modify fun r => { r with tokens := r.tokens.dropWhile (· = .documentEnd) }
  let root ← match ← peek? with
    | none => return none
    | some .version | some (.tagHandle ..) | some .documentStart => markedRoot fuel
    | _ => node fuel true false
  if (← get).tokens.all (· = .documentEnd) then return some root else failure

end Read

/-- The root of the only document that the tokens hold, if they hold one. -/
def Node.ofTokens? (ts : List Token) : Option (Option Node) :=
  ((Read.root? (8 * ts.length + 8)).run ⟨ts, [], [], []⟩).map Prod.fst

end Metaobject.Config.Yaml
