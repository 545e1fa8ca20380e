/-!
# Hexadecimal numbers

Hexadecimal text in lower case, either as short as possible or filled up with zeros.
-/

namespace Metaobject.Text

/-- A number in hexadecimal, in lower case and without leading zeros. -/
def hex (n : Nat) : String := String.ofList (Nat.toDigits 16 n)

/-- A number in hexadecimal with at least the given number of digits. -/
def hexFilled (width n : Nat) : String :=
  String.ofList (List.leftpad width '0' (Nat.toDigits 16 n))

end Metaobject.Text
