import QueryChain.Error

namespace QueryChain

open Json

/-! Evaluation of expressions that do not depend on a row.

Captured variables, computed counts and the elements of collections become
values before a statement is written.  Both operands of a connective are
evaluated before either is looked at, so a parameter anywhere in an expression
is an error.
-/

def reject {α : Type} (cause : MalformedQuery) : Except QueryError α := .error (.malformed cause)

def expectBool (value : Value) : Except QueryError Bool :=
  match value.asBool? with
  | some flag => .ok flag
  | none => reject (.booleanExpected value)

/-- The order of two numbers, texts or booleans; numbers are compared as binary64. -/
def valueOrder? : Value → Value → Option Ordering
  | .number left, .number right => some (left.toBinary64.order right.toBinary64)
  | .string left, .string right => some (compare left right)
  | .bool left, .bool right => some (compare left right)
  | _, _ => none

/-- Equality holds of any two values; only ordered ones can be compared further. -/
def applyComparison (op : Comparison) (left right : Value) : Except QueryError Bool :=
  let ordered (test : Ordering → Bool) : Except QueryError Bool :=
    match valueOrder? left right with
    | some order => .ok (test order)
    | none => reject (.notComparable left right)
  match op with
  | .eq => .ok (left.equal right)
  | .ne => .ok (!left.equal right)
  | .lt => ordered (· == .lt)
  | .le => ordered (· != .gt)
  | .gt => ordered (· == .gt)
  | .ge => ordered (· != .lt)

/-- The right operand need not be a boolean where the left one decides. -/
def applyConnective (op : Connective) (left right : Value) : Except QueryError Bool := do
  match op, ← expectBool left with
  | .and, false => .ok false
  | .or, true => .ok true
  | _, _ => expectBool right

def applyMember (name : String) : Value → Except QueryError Value
  | .object members =>
    match Dictionary.get? name members with
    | some value => .ok value
    | none => reject (.noMember name)
  | .null => reject (.memberOfNull name)
  | other => reject (.memberOfScalar name other)

/-- Whether `value` occurs anywhere in a text. -/
def occursIn (value : List Char) : List Char → Bool
  | [] => value.isEmpty
  | c :: rest => value.isPrefixOf (c :: rest) || occursIn value rest

/-- Whether one text occurs in another, at the place the operator names. -/
def StringOp.test (op : StringOp) (target value : String) : Bool :=
  match op with
  | .contains => occursIn value.toList target.toList
  | .startsWith => value.toList.isPrefixOf target.toList
  | .endsWith => value.toList.isSuffixOf target.toList

def applyMatch (op : StringOp) (target value : Value) : Except QueryError Bool :=
  match target.asString?, value.asString? with
  | some target, some value => .ok (op.test target value)
  | _, _ => reject .matchOnNonString

def nullOrEmpty : Value → Bool
  | .null => true
  | .string text => text.isEmpty
  | _ => false

def expectList : Value → Except QueryError (List Value)
  | .array items => .ok items
  | other => reject (.collectionExpected other)

mutual

def Expr.evaluate : Expr → Except QueryError Value
  | .constant value => .ok value
  | .captured _ value => .ok value
  | .member target name => do applyMember name (← target.evaluate)
  | .array items => do return .array (← evaluateItems items)
  | .not operand => do return .bool !(← expectBool (← operand.evaluate))
  | .hasValue operand => do return .bool !(← operand.evaluate).isNull
  | .isNullOrEmpty operand => do return .bool (nullOrEmpty (← operand.evaluate))
  | .compare op left right => do
    let left ← left.evaluate
    let right ← right.evaluate
    return .bool (← applyComparison op left right)
  | .connect op left right => do
    let left ← left.evaluate
    let right ← right.evaluate
    return .bool (← applyConnective op left right)
  | .stringMatch op target value => do
    let target ← target.evaluate
    let value ← value.evaluate
    return .bool (← applyMatch op target value)
  | .collectionContains collection item => do
    let item ← item.evaluate
    let values ← expectList (← collection.evaluate)
    return .bool (values.any (·.equal item))
  | .parameter param => reject (.dependsOnParameter param.name)

def evaluateItems : List Expr → Except QueryError (List Value)
  | [] => .ok []
  | item :: rest => do
    let value ← item.evaluate
    let values ← evaluateItems rest
    return value :: values

end

namespace Expr

/-- The elements of a collection, in order. -/
def evaluateList (expr : Expr) : Except QueryError (List Value) := do
  expectList (← expr.evaluate)

/-- The count of a take or skip. -/
def evaluateCount (expr : Expr) : Except QueryError Nat := do
  let value ← expr.evaluate
  match value.asCount? with
  | some count => .ok count
  | none => .error (.usage (.invalidCount value))

end Expr

end QueryChain
