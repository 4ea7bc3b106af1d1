import QueryChain.Dictionary
import QueryChain.Json.Binary64

namespace QueryChain.Json

/-! JSON values.

A number is a whole number in the range of 64-bit words or a binary64 number,
as it was written; the members of an object keep their order.
-/

inductive Number where
  | int (value : Int)
  | float (value : Binary64)
deriving DecidableEq

inductive Value where
  | null
  | bool (value : Bool)
  | number (value : Number)
  | string (value : String)
  | array (items : List Value)
  | object (members : List (String × Value))

instance : Inhabited Value := ⟨.null⟩

namespace Number

/-- The nearest binary64 number. -/
def toBinary64 : Number → Binary64
  | .int value => Binary64.ofInt value
  | .float value => value

/-- Whole numbers equal whole numbers, and floats equal floats by value. -/
def equal : Number → Number → Bool
  | .int left, .int right => left == right
  | .float left, .float right => left.order right == .eq
  | _, _ => false

end Number

namespace Value

def isNull : Value → Bool
  | .null => true
  | _ => false

def asBool? : Value → Option Bool
  | .bool value => some value
  | _ => none

def asString? : Value → Option String
  | .string value => some value
  | _ => none

/-- A whole number of an unsigned 64-bit word. -/
def asCount? : Value → Option Nat
  | .number (.int value) => if 0 ≤ value ∧ value < pow2 64 then some value.toNat else none
  | _ => none

/-- A whole number of a signed 64-bit word. -/
def asInt64? : Value → Option Int
  | .number (.int value) =>
    if -(pow2 63 : Int) ≤ value ∧ value < pow2 63 then some value else none
  | _ => none

def asBinary64? : Value → Option Binary64
  | .number value => some value.toBinary64
  | _ => none

mutual

/-- Equality of values; the order of an object's members does not matter. -/
def equal : Value → Value → Bool
  | .null, .null => true
  | .bool left, .bool right => left == right
  | .number left, .number right => left.equal right
  | .string left, .string right => left == right
  | .array left, .array right => equalItems left right
  | .object left, .object right => left.length == right.length && equalMembers left right
  | _, _ => false

def equalItems : List Value → List Value → Bool
  | [], [] => true
  | left :: lefts, right :: rights => equal left right && equalItems lefts rights
  | _, _ => false

/-- Every member of the first object has an equal counterpart in the second. -/
def equalMembers : List (String × Value) → Dictionary String Value → Bool
  | [], _ => true
  | (name, left) :: rest, members =>
    (match members.get? name with
      | some right => equal left right
      | none => false) && equalMembers rest members

end

end Value

end QueryChain.Json
