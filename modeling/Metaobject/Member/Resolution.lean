import Metaobject.Registry

/-!
# Finding members

A request for a constructor names the parameter types or leaves them open; a request for a field
names the field. Constructors are those of the class itself: one whose parameters are the requested
types wins, and otherwise the first whose parameters the requested types can be assigned to. With
the types left open, the constructor without parameters wins, and otherwise the only one. A field
is looked for along the superclass chain below the root. These are the rules of the usual resolver;
what looks members up may have rules of its own.
-/

namespace Metaobject

/-- A constructor of a class. -/
structure ConstructorMember where
  owner : Class
  index : Fin owner.constructors.length

namespace ConstructorMember

def constructor (m : ConstructorMember) : Constructor := m.owner.constructors[m.index]

def params (m : ConstructorMember) : List TypeRef := m.constructor.params

/-- The name that messages give the constructor, such as `app.Person.<init>(String, int)`. -/
def text (m : ConstructorMember) : String := m.owner.name ++ ".<init>" ++ m.constructor.signature

end ConstructorMember

/-- A field of a class: `owner` is the class it was asked of, `declaring` that class or the one of
its superclasses that declares the field. -/
structure FieldMember where
  owner : Class
  declaring : Class
  index : Fin declaring.fields.length

namespace FieldMember

def field (m : FieldMember) : Field := m.declaring.fields[m.index]

def name (m : FieldMember) : String := m.field.name

def text (m : FieldMember) : String := m.declaring.name ++ "." ++ m.name

end FieldMember

namespace Class

/-- The constructor for a request that leaves the types open. -/
def defaultConstructor (c : Class) : Attempt (Fin c.constructors.length) :=
  match c.constructors.findFinIdx? fun k => k.params.isEmpty with
  | some i => return i
  | none =>
      if h : c.constructors.length = 1 then do
        let i : Fin c.constructors.length := ⟨0, by omega⟩
        report .debug
          s!"{c.name} 没有无参构造器，使用唯一声明的构造器 {c.constructors[i].signature}"
        return i
      else if c.constructors.length = 0 then throw (.memberNotFound c.name "<init>()")
      else throw (.ambiguousConstructor c.name c.constructors.length)

def findMember? (owner : Class) (name : String) : List Class → Option FieldMember
  | [] => none
  | c :: cs =>
      match c.fields.findFinIdx? fun f => f.name == name with
      | some i => some ⟨owner, c, i⟩
      | none => findMember? owner name cs

/-- Finds a field along the superclass chain below the root. -/
def resolveField (c : Class) (name : String) : Attempt FieldMember :=
  match c.findMember? name c.belowRoot with
  | some m => do
      report .debug s!"解析字段: {m.text} (请求类型 {c.name})"
      return m
  | none => throw (.memberNotFound c.name name)

end Class

namespace Registry

/-- Whether the requested types can be assigned to the parameters, one by one. -/
def fits (r : Registry) (params requested : List TypeRef) : Bool :=
  params.length == requested.length &&
    (params.zip requested).all fun (param, type) => r.isAssignable param type

/-- The constructor for the requested types: the one with exactly these parameters, else the first
that they fit. -/
def matchingConstructor? (r : Registry) (c : Class) (requested : List TypeRef) :
    Option (Fin c.constructors.length) :=
  (c.constructors.findFinIdx? fun k => k.params == requested).or
    (c.constructors.findFinIdx? fun k => r.fits k.params requested)

def resolveConstructor (r : Registry) (c : Class) (requested : Option (List TypeRef)) :
    Attempt ConstructorMember := do
  if c.isInterface then throw (.memberNotFound c.name "<init>")
  let i ← match requested with
    | none => c.defaultConstructor
    | some types => match r.matchingConstructor? c types with
      | some i => pure i
      | none => throw (.memberNotFound c.name s!"<init>{TypeRef.paramsText types}")
  let m : ConstructorMember := ⟨c, i⟩
  report .debug s!"解析构造器: {m.text}"
  return m

end Registry

/-- What looks members up. -/
structure Resolver where
  constructor : Class → Option (List TypeRef) → Attempt ConstructorMember
  field : Class → String → Attempt FieldMember

/-- The usual resolver, for the types that are known to a registry. -/
def Registry.resolver (r : Registry) : Resolver := ⟨r.resolveConstructor, Class.resolveField⟩

end Metaobject
