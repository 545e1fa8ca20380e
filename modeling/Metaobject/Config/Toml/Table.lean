import Metaobject.Config.Data

/-!
# Tables that are open

While a document is read its tables are open: keys, headers and dotted keys go on adding to them. No
key is set twice, a table has at most one header, and tables that dotted keys or braces made are
closed to headers.
-/

namespace Metaobject.Config.Toml

/-- How a table came about. -/
inductive Origin where
  /-- On the way to the table of a header. -/
  | onTheWay
  | header
  | dotted
  | listed
deriving DecidableEq

/-- What a key stands for. -/
inductive Item where
  | leaf (d : Data)
  | table (origin : Origin) (entries : List (String × Item))
  /-- A list of tables; the last one is still open. -/
  | tables (items : List (List (String × Item)))

abbrev Entries := List (String × Item)

def replace (es : Entries) (k : String) (i : Item) : Entries :=
  es.map fun e => if e.1 == k then (k, i) else e

/-- Goes into the table of a key: what `f` makes of its entries takes their place. A key that stands
for nothing gets a table of the given origin; `enter` says into which tables one may go. -/
def descend (es : Entries) (k : String) (origin : Origin) (enter : Origin → Bool)
    (f : Entries → Option Entries) : Option Entries :=
  match es.lookup k with
  | none => do return es ++ [(k, .table origin (← f []))]
  | some (.table o sub) => if enter o then do return replace es k (.table o (← f sub)) else none
  | some (.tables items) =>
      match items.getLast? with
      | some last =>
          if enter .listed then do return replace es k (.tables (items.dropLast ++ [← f last]))
          else none
      | none => none
  | some (.leaf _) => none

def openTable : List String → Entries → Option Entries
  | [], es => some es
  | [k], es =>
      match es.lookup k with
      | none => some (es ++ [(k, .table .header [])])
      | some (.table .onTheWay sub) => some (replace es k (.table .header sub))
      | _ => none
  | k :: ks, es => descend es k .onTheWay (fun _ => true) (openTable ks)

def openNext : List String → Entries → Option Entries
  | [], es => some es
  | [k], es =>
      match es.lookup k with
      | none => some (es ++ [(k, .tables [[]])])
      | some (.tables items) => some (replace es k (.tables (items ++ [[]])))
      | _ => none
  | k :: ks, es => descend es k .onTheWay (fun _ => true) (openNext ks)

/-- Sets a dotted key that is not set yet. The table that its last part is set in must be one that
dotted keys made; on the way to it there may be others, but for those that have a header. -/
def setKey (d : Data) : List String → Entries → Option Entries
  | [], _ => none
  | [k], es => if (es.lookup k).isSome then none else some (es ++ [(k, .leaf d)])
  | k :: ks, es =>
      let enter (o : Origin) := if ks.length = 1 then o = .dotted else o ≠ .header
      descend es k .dotted enter (setKey d ks)

def setIn (keys : List String) (d : Data) : List String → Entries → Option Entries
  | [], es => setKey d keys es
  | k :: ks, es => descend es k .onTheWay (fun _ => true) (setIn keys d ks)

mutual

def Item.data : Item → Data
  | .leaf d => d
  | .table _ es => .table (dataOf es)
  | .tables items => .list (dataOfEach items)

def dataOf : List (String × Item) → List (String × Data)
  | [] => []
  | e :: es => dataOfEntry e :: dataOf es

def dataOfEntry : String × Item → String × Data
  | (k, i) => (k, i.data)

def dataOfEach : List (List (String × Item)) → List Data
  | [] => []
  | es :: rest => .table (dataOf es) :: dataOfEach rest

end

end Metaobject.Config.Toml
