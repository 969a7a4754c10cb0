import Mathlib

/-!
# Parsed JSON

JSON values as a parser returns them, and the accessors by which a program reads them. An accessor
returns nothing where the value has another shape.
-/

namespace Lib

/-- A number: an integer that fits 64 bits, or a float, by its bits. -/
inductive JsonNumber where
  | posInt (n : UInt64)
  | negInt (n : Int64)
  | float (bits : UInt64)

inductive JsonValue where
  | null
  | bool (b : Bool)
  | number (n : JsonNumber)
  | string (s : String)
  | array (items : List JsonValue)
  | object (fields : List (String × JsonValue))

def JsonNumber.asI64 : JsonNumber → Option Int64
  | .posInt n => if n.toNat < 2 ^ 63 then some n.toInt64 else none
  | .negInt n => some n
  | .float _ => none

namespace JsonValue

def get : JsonValue → String → Option JsonValue
  | .object fields, key => fields.lookup key
  | _, _ => none

def asStr : JsonValue → Option String
  | .string s => some s
  | _ => none

def asBool : JsonValue → Option Bool
  | .bool b => some b
  | _ => none

def asI64 : JsonValue → Option Int64
  | .number n => n.asI64
  | _ => none

def asArray : JsonValue → Option (List JsonValue)
  | .array items => some items
  | _ => none

end JsonValue

end Lib
