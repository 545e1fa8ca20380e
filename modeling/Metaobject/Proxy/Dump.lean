import Metaobject.Log.Event
import Metaobject.Proxy.Request
import Metaobject.Storage.Files

/-!
# Descriptions of proxy classes

For inspection, the description of a generated class can be written to a file that is named after
the class. When that is not possible, it is reported, and nothing else happens.
-/

namespace Metaobject

/-- The description of a method. -/
structure MethodDump where
  name : String
  signature : String
  returnType : String
  exceptions : List String
deriving DecidableEq

/-- The description of a proxy class. -/
structure ClassDump where
  name : String
  superclass : Option String
  interfaces : List String
  callSuper : Bool
  constructors : List String
  methods : List MethodDump
deriving DecidableEq

/-- Files that hold descriptions, or something else. -/
abbrev DumpFiles := Files (Option ClassDump)

namespace ClassDump

def ofProxy (p : ProxyClass) : ClassDump where
  name := p.cls.name
  superclass := p.cls.superclass.map Class.name
  interfaces := p.cls.interfaces.map Class.name
  callSuper := p.callSuper
  constructors := p.cls.constructors.map Constructor.signature
  methods := p.cls.methods.map fun m =>
    ⟨m.name, TypeRef.paramsText m.params, m.returnType.text, m.exceptions⟩

def path (dir className : String) : String := Path.join dir (className ++ ".json")

/-- Writes the description of a proxy class; gives the files and what went wrong, if anything
did. -/
def write? (dir : String) (p : ProxyClass) (fs : DumpFiles) : Option String × DumpFiles :=
  let file := path dir p.name
  match (FileChange.makeDirectories dir).run fs with
  | (.error e, fs) => (some s!"无法创建转储目录 {dir}: {e.message}", fs)
  | (.ok (), fs) =>
      match (FileChange.write file (some (ofProxy p))).run fs with
      | (.error e, fs) => (some s!"无法写入 {file}: {e.message}", fs)
      | (.ok (), fs) => (none, fs)

/-- Writes the description of a proxy class. Directories that were made stay when the file cannot
be written. -/
def write (dir : String) (p : ProxyClass) (fs : DumpFiles) : Logged DumpFiles := do
  let (problem, fs) := write? dir p fs
  match problem with
  | none => Logged.report .debug s!"生成类已转储: {path dir p.name}"
  | some e => Logged.report .warn s!"生成类转储失败 {p.name}: {e}"
  return fs

end ClassDump

end Metaobject
