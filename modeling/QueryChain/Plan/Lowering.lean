import QueryChain.Expr.Eval
import QueryChain.Plan.Draft

namespace QueryChain

open Json Schema

/-! Lowering of expressions to conditions and operands.

Columns become references, and whatever does not depend on a row becomes a
parameter.  A negation is carried down to the condition that can express it.
-/

namespace Planning

/-- Binds a value; null is written as itself. -/
def bindValue (value : Value) : Planning (Sql.Operand ColumnRef) := do
  if value.isNull then return .null
  let (name, parameters) ← settle (((← get).parameters.bind value).mapError .usage)
  modify fun draft => { draft with parameters }
  return .placeholder name

def bindValues : List Value → Planning (List (Sql.Operand ColumnRef))
  | [] => return []
  | value :: rest => do
    let operand ← bindValue value
    let operands ← bindValues rest
    return operand :: operands

/-- Binds the value of a condition, which must be known before the query runs. -/
def foldedCondition (expr : Expr) : Planning (Sql.Operand ColumnRef) :=
  match expr.evaluate with
  | .ok value => bindValue value
  | .error _ => throw (.malformed (.rowDependent expr))

/-- The operand of a comparison or the pattern of a match. -/
def operand (catalog : Catalog) (expr : Expr) : Planning (Sql.Operand ColumnRef) :=
  match expr with
  | .member _ _ =>
    match expr.column? with
    | some (entity, property) => do return .column (← column catalog entity property)
    | none => do bindValue (← settle expr.evaluate)
  | .constant value => bindValue value
  | .captured _ value => bindValue value
  | .parameter _ | .array _ => throw (.malformed (.notValue expr))
  | .hasValue _ | .compare _ _ _ | .connect _ _ _ | .not _ | .stringMatch _ _ _
  | .collectionContains _ _ | .isNullOrEmpty _ => foldedCondition expr

/-- A condition whose truth is known before the query runs. -/
def knownCondition (expr : Expr) (negated : Bool) : Planning (Sql.Condition ColumnRef) := do
  let value ← settle expr.evaluate
  match value.asBool? with
  | some flag => return .truth (flag != negated)
  | none => throw (.malformed (.notFlag value))

/-- A boolean column as a condition. -/
def flagCondition (catalog : Catalog) (entity : Entity) (property : String) (negated : Bool) :
    Planning (Sql.Condition ColumnRef) := do
  let column ← column catalog entity property
  if column.column.type = .boolean then return .flag negated column
  else throw (.usage (.notBoolean entity column.column.property))

/-- An expression as a condition, or as the negation of one. -/
def condition (catalog : Catalog) (expr : Expr) (negated : Bool) :
    Planning (Sql.Condition ColumnRef) :=
  match expr with
  | .not operand => condition catalog operand !negated
  | .compare op left right => do
    let left ← operand catalog left
    let right ← operand catalog right
    return .compare negated op left right
  | .connect op left right => do
    let left ← condition catalog left false
    let right ← condition catalog right false
    return .connect negated op left right
  | .member _ _ =>
    match expr.column? with
    | some (entity, property) => flagCondition catalog entity property negated
    | none => knownCondition expr negated
  | .constant _ => knownCondition expr negated
  | .captured _ _ => knownCondition expr negated
  | .hasValue operand => do
    return .hasValue negated (← requireColumn catalog "HasValue" operand)
  | .stringMatch op target value => do
    let column ← requireColumn catalog "String matching" target
    return .like negated column op (← operand catalog value)
  | .collectionContains collection item => do
    let column ← requireColumn catalog "Collection membership" item
    let values ← settle collection.evaluateList
    if values.isEmpty then return .truth negated
    return .oneOf negated column (← bindValues values)
  | .isNullOrEmpty operand => do
    return .nullOrEmpty negated (← requireColumn catalog "IsNullOrEmpty" operand)
  | .parameter _ | .array _ => throw (.malformed (.notCondition expr))

/-- Adds a condition that the rows have to meet. -/
def addCondition (catalog : Catalog) (predicate : Lambda) : Planning Unit := do
  let condition ← condition catalog predicate.body false
  modify fun draft => { draft with conditions := draft.conditions ++ [condition] }

end Planning

end QueryChain
