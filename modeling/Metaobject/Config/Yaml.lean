import Metaobject.Config.Yaml.Layout
import Metaobject.Config.Yaml.Node

/-!
# YAML text

Reads configuration data from YAML text, which holds at most one document. A text without a document
is an empty table.
-/

namespace Metaobject.Config.Yaml

def Scalar.keyText : Scalar → String
  | .null => "~"
  | .bool b => if b then "true" else "false"
  | .int n => toString n
  | .real s => s
  | .text s => s

/-- The data that a scalar stands for. A real number must be written in digits or as a word. -/
def Scalar.data? : Scalar → Option Data
  | .null => some .null
  | .bool b => some (.bool b)
  | .int n => some (.int n)
  | .real s => (float? s).map .float
  | .text s => some (.text s)

mutual

def Node.data? : Node → Option Data
  | .void => some .null
  | .scalar s => s.data?
  | .list items => (dataOfItems? items).map .list
  | .mapping entries => (dataOfEntries? entries).map .table

def dataOfItems? : List Node → Option (List Data)
  | [] => some []
  | n :: ns => do return (← n.data?) :: (← dataOfItems? ns)

def dataOfEntries? : List (Scalar × Node) → Option (List (String × Data))
  | [] => some []
  | e :: es => do return (← dataOfEntry? e) :: (← dataOfEntries? es)

def dataOfEntry? : Scalar × Node → Option (String × Data)
  | (k, n) => do return (k.keyText, ← n.data?)

end

def parse (s : String) : Option Data := do
  match ← Node.ofTokens? (← tokens? s.toList) with
  | none => return .table []
  | some root => root.data?

end Metaobject.Config.Yaml
