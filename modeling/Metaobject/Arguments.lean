import Metaobject.Failure
import Metaobject.Value

/-!
# Arguments and results

Arguments are checked against parameter types before anything runs, and are passed on unchanged.
The first argument that its parameter refuses is the one that is reported. What a handler answers
is converted to the result type of the method that it stands in for.
-/

namespace Metaobject

namespace TypeRef

/-- The first argument that its parameter type refuses: its position, the type and the argument. -/
def firstRefused? : List TypeRef → List Value → Option (Nat × TypeRef × Value)
  | p :: ps, a :: as =>
      if p.accepts a then (firstRefused? ps as).map fun (i, r) => (i + 1, r)
      else some (0, p, a)
  | _, _ => none

def checkArguments (params : List TypeRef) (args : List Value) : Except Failure Unit :=
  if params.length ≠ args.length then
    .error (.argumentTypeMismatch (min params.length args.length)
      s!"{params.length} 个参数" s!"{args.length} 个参数")
  else match firstRefused? params args with
    | some (i, p, a) => .error (.argumentTypeMismatch i p.text a.typeName)
    | none => .ok ()

/-- Checks the arguments of a method that hands its calls to a handler. -/
def checkForwarded (params : List TypeRef) (args : List Value) : Except Exception Unit :=
  if params.length ≠ args.length then
    .error (.illegalArgument s!"参数个数不匹配: 需要 {params.length}，实际 {args.length}")
  else match firstRefused? params args with
    | some (_, p, a) =>
        .error (.illegalArgument s!"参数类型不匹配: 需要 {p.text}，实际 {a.typeName}")
    | none => .ok ()

/-- Checks a single value against a type; the position is reported when the type refuses it. -/
def check (type : TypeRef) (index : Nat) (v : Value) : Except Failure Unit :=
  if type.accepts v then .ok ()
  else .error (.argumentTypeMismatch index type.text v.typeName)

/-- What a method with the given result type answers when its handler answered the value. -/
def convertResult : TypeRef → Value → Except Exception Value
  | .void, _ => .ok .null
  | .primitive p, v =>
      if v.isNull then .error (.nullPointer s!"处理器为 {p.name} 返回值返回了 null")
      else if v.primitive? = some p then .ok v
      else .error (.classCast s!"{v.typeName} 无法转换为 {p.wrapperName}")
  | type, v =>
      if type.accepts v then .ok v
      else .error (.classCast s!"{v.typeName} 无法转换为 {type.text}")

end TypeRef

namespace Class

/-- Checks that an object is an instance of the class by its name. -/
def checkTarget (declaring : Class) (target : ObjectRef) : Except Failure Unit :=
  if target.isInstanceOf declaring.name then .ok ()
  else .error (.argumentTypeMismatch 0 declaring.name target.cls.name)

end Class

end Metaobject
