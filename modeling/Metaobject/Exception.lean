/-!
# Exceptions

An exception is thrown by the body of a constructor, of a method or of a handler, or by the object
model itself when it dispatches a call or stores into a field.
-/

namespace Metaobject

/-- An exception: the name of its class and a message. -/
structure Exception where
  className : String
  message : String
deriving DecidableEq

namespace Exception

/-- An operation came at a time when it is not possible. -/
def illegalState (message : String) : Exception := ⟨"IllegalStateException", message⟩

/-- An argument is of the wrong type, or there are too many or too few. -/
def illegalArgument (message : String) : Exception := ⟨"IllegalArgumentException", message⟩

def classCast (message : String) : Exception := ⟨"ClassCastException", message⟩

def nullPointer (message : String) : Exception := ⟨"NullPointerException", message⟩

def abstractMethod (message : String) : Exception := ⟨"AbstractMethodError", message⟩

def noSuchMethod (message : String) : Exception := ⟨"NoSuchMethodError", message⟩

def noSuchField (message : String) : Exception := ⟨"NoSuchFieldError", message⟩

/-- Whether the exception is of the class with the given name. -/
def isOf (e : Exception) (className : String) : Bool := e.className == className

/-- The class and the message; an empty message is left out together with its colon. -/
def text (e : Exception) : String :=
  if e.message.isEmpty then e.className else e.className ++ ": " ++ e.message

end Exception

end Metaobject
