import QueryChain.Json.Printer

namespace QueryChain.Json

/-! Typed readings of JSON values.

A reader takes a value to a typed one or says how the value differs from what
was expected.  Compound readers report the first part that does not read.
-/

inductive ReadError where
  /-- A value of another kind. -/
  | wrongType (found : Value) (expected : String)
  /-- A whole number outside the range of the expected type. -/
  | outOfRange (found : Int) (expected : String)
  /-- A sequence with more elements than fields. -/
  | tooLong (length : Nat)

/-- The kind of a value, with its text where it is a scalar. -/
def Value.kindText : Value → String
  | .null => "null"
  | .bool value => "boolean `" ++ (if value then "true" else "false") ++ "`"
  | .number (.int value) => "integer `" ++ toString value ++ "`"
  | .number (.float value) => "floating point `" ++ value.text ++ "`"
  | .string value => "string " ++ Text.quoted value
  | .array _ => "sequence"
  | .object _ => "map"

def ReadError.message : ReadError → String
  | .wrongType found expected => "invalid type: " ++ found.kindText ++ ", expected " ++ expected
  | .outOfRange found expected =>
    "invalid value: integer `" ++ toString found ++ "`, expected " ++ expected
  | .tooLong length =>
    "invalid length " ++ toString length ++ ", expected fewer elements in array"

abbrev Reader (α : Type) := Value → Except ReadError α

namespace Reader

variable {α : Type}

def value : Reader Value := .ok

/-- A whole number from `low` up to `high`, `high` excluded; a float never reads as one. -/
def whole (name : String) (low high : Int) : Reader Int
  | .number (.int value) =>
    if low ≤ value ∧ value < high then .ok value else .error (.outOfRange value name)
  | other => .error (.wrongType other name)

def int64 : Reader Int := whole "i64" (-(pow2 63 : Int)) (pow2 63)

def byte : Reader Int := whole "u8" 0 (pow2 8)

def size : Reader Nat := fun value => (whole "usize" 0 (pow2 64) value).map Int.toNat

/-- Any number; a whole one is rounded to the nearest. -/
def float : Reader Binary64
  | .number value => .ok value.toBinary64
  | other => .error (.wrongType other "f64")

def boolean : Reader Bool
  | .bool value => .ok value
  | other => .error (.wrongType other "a boolean")

def string : Reader String
  | .string value => .ok value
  | other => .error (.wrongType other "a string")

/-- Nothing for null. -/
def optional (read : Reader α) : Reader (Option α)
  | .null => .ok none
  | other => (read other).map some

def sequence (read : Reader α) : Reader (List α)
  | .array items => items.mapM read
  | other => .error (.wrongType other "a sequence")

def mapping (read : Reader α) : Reader (Dictionary String α)
  | .object members => members.mapM fun (name, value) => (read value).map (name, ·)
  | other => .error (.wrongType other "a map")

end Reader

end QueryChain.Json
