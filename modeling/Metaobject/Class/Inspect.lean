import Metaobject.Class.Basic
import Metaobject.Text.Inspect

/-!
# Inspecting members

The inspection texts of constructors, fields and methods, and of the types that occur in them.
-/

namespace Metaobject

def Primitive.inspect : Primitive → String
  | .boolean => "Boolean"
  | .byte => "Byte"
  | .short => "Short"
  | .char => "Char"
  | .int => "Int"
  | .long => "Long"
  | .float => "Float"
  | .double => "Double"

def TypeRef.inspect : TypeRef → String
  | .void => "Void"
  | .primitive p => s!"Primitive({p.inspect})"
  | .boxed p => s!"Boxed({p.inspect})"
  | .string => "String"
  | .named name => s!"Class({Text.quoted name})"

def Visibility.inspect : Visibility → String
  | .pub => "Public"
  | .prot => "Protected"
  | .pack => "Package"
  | .priv => "Private"

def ClassKind.inspect : ClassKind → String
  | .ordinary => "Class"
  | .interface => "Interface"

def Constructor.inspect (k : Constructor) : String :=
  Text.record "ConstructorDescriptor"
    [("params", Text.list (k.params.map TypeRef.inspect)),
     ("visibility", k.visibility.inspect),
     ("native", Text.bool k.native.isSome)]

def Field.inspect (f : Field) : String :=
  Text.record "FieldDescriptor"
    [("name", Text.quoted f.name),
     ("ty", f.type.inspect),
     ("visibility", f.visibility.inspect),
     ("is_final", Text.bool f.isFinal),
     ("native", Text.bool f.native.isSome)]

def Method.inspect (m : Method) : String :=
  Text.record "MethodDescriptor"
    [("name", Text.quoted m.name),
     ("params", Text.list (m.params.map TypeRef.inspect)),
     ("return_type", m.returnType.inspect),
     ("is_final", Text.bool m.isFinal),
     ("is_synthetic", Text.bool m.isSynthetic),
     ("abstract", Text.bool m.isAbstract)]

end Metaobject
