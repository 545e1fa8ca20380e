import Metaobject.Class.Hierarchy
import Metaobject.Text.Hex

/-!
# Values

Values are dynamically typed. A value of a primitive kind stands for its boxed form too: boxing is
a matter of types only. A floating-point value is kept as its bit pattern, so that every NaN keeps
its payload; `Value.same` compares such values as numbers.

An object is referred to by its address and its class. The class of an object never changes, so
whether a type accepts a value does not depend on the heap.
-/

namespace Metaobject

/-- A reference to an object. -/
structure ObjectRef where
  address : Nat
  cls : Class

namespace ObjectRef

def same (a b : ObjectRef) : Bool := a.address == b.address

/-- Whether the object is an instance of the named class or interface. -/
def isInstanceOf (o : ObjectRef) (typeName : String) : Bool := o.cls.isSubtypeOf typeName

/-- A number that tells objects apart: the address, spread over all 32 bits by an odd factor. -/
def identityHash (o : ObjectRef) : Int32 := Int32.ofNat ((o.address + 1) * 2654435761)

/-- The class name and the identity hash in hexadecimal. -/
def identityText (o : ObjectRef) : String :=
  o.cls.name ++ "@" ++ Text.hex o.identityHash.toUInt32.toNat

end ObjectRef

/-- A value. -/
inductive Value where
  | null
  | boolean (b : Bool)
  | byte (n : Int8)
  | short (n : Int16)
  | char (c : Char)
  | int (n : Int32)
  | long (n : Int64)
  | float (bits : UInt32)
  | double (bits : UInt64)
  | str (s : String)
  | object (ref : ObjectRef)

/-- Equality of two floating-point numbers given by their bits, where `infinity` is the pattern of
the positive infinity and `sign` the sign bit: no NaN equals anything, and the two zeros are
equal. -/
def sameNumber (infinity sign a b : Nat) : Bool :=
  a % sign ≤ infinity && b % sign ≤ infinity && (a == b || (a % sign == 0 && b % sign == 0))

namespace Value

def primitive? : Value → Option Primitive
  | .boolean _ => some .boolean
  | .byte _ => some .byte
  | .short _ => some .short
  | .char _ => some .char
  | .int _ => some .int
  | .long _ => some .long
  | .float _ => some .float
  | .double _ => some .double
  | .null | .str _ | .object _ => none

def isNull : Value → Bool
  | .null => true
  | _ => false

/-- The name of the type of a value at run time; a primitive value reports its wrapper type. -/
def typeName : Value → String
  | .null => "null"
  | .boolean _ => Primitive.boolean.wrapperName
  | .byte _ => Primitive.byte.wrapperName
  | .short _ => Primitive.short.wrapperName
  | .char _ => Primitive.char.wrapperName
  | .int _ => Primitive.int.wrapperName
  | .long _ => Primitive.long.wrapperName
  | .float _ => Primitive.float.wrapperName
  | .double _ => Primitive.double.wrapperName
  | .str _ => "String"
  | .object o => o.cls.name

def bool? : Value → Option Bool
  | .boolean b => some b
  | _ => none

def int? : Value → Option Int32
  | .int n => some n
  | _ => none

def long? : Value → Option Int64
  | .long n => some n
  | _ => none

def str? : Value → Option String
  | .str s => some s
  | _ => none

def object? : Value → Option ObjectRef
  | .object o => some o
  | _ => none

/-- Equality of values: of the same kind, numbers as numbers, objects by identity. -/
def same : Value → Value → Bool
  | .null, .null => true
  | .boolean a, .boolean b => a == b
  | .byte a, .byte b => a == b
  | .short a, .short b => a == b
  | .char a, .char b => a == b
  | .int a, .int b => a == b
  | .long a, .long b => a == b
  | .float a, .float b => sameNumber 0x7f800000 0x80000000 a.toNat b.toNat
  | .double a, .double b =>
      sameNumber 0x7ff0000000000000 0x8000000000000000 a.toNat b.toNat
  | .str a, .str b => a == b
  | .object a, .object b => a.same b
  | _, _ => false

end Value

namespace Primitive

/-- The value of a primitive field that has not been set: false, or zero. -/
def defaultValue : Primitive → Value
  | .boolean => .boolean false
  | .byte => .byte 0
  | .short => .short 0
  | .char => .char '\x00'
  | .int => .int 0
  | .long => .long 0
  | .float => .float 0
  | .double => .double 0

end Primitive

namespace TypeRef

def defaultValue : TypeRef → Value
  | .primitive p => p.defaultValue
  | _ => .null

/-- Whether a value may be passed or stored where the type is expected. A wrapper type takes null
and the values of its kind, the root type takes every value. -/
def accepts : TypeRef → Value → Bool
  | .void, _ => false
  | .primitive p, v => v.primitive? == some p
  | .boxed p, v => v.isNull || v.primitive? == some p
  | .string, v => v.isNull || v.str?.isSome
  | .named name, v =>
      name == rootName || match v with
        | .null => true
        | .object o => o.isInstanceOf name
        | _ => false

end TypeRef

namespace Method

/-- Whether the method can be called by the name with the arguments. -/
def accepts (m : Method) (name : String) (args : List Value) : Bool :=
  m.name == name && m.params.length == args.length &&
    (m.params.zip args).all fun (type, arg) => type.accepts arg

end Method

end Metaobject
