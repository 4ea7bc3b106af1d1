import QueryChain.Entity
import QueryChain.Json.Value

namespace QueryChain

open Json

/-! Scalar expressions and conditions over the rows of a query.

A member of a parameter is a column of the parameter's entity.  All other
members, constants and captured variables are known before the query runs.
-/

/-- A lambda parameter, bound to one row of an entity. -/
structure Param where
  name : String
  entity : Entity
deriving DecidableEq

inductive Comparison where
  | eq | ne | lt | le | gt | ge
deriving DecidableEq

inductive Connective where
  | and | or
deriving DecidableEq

/-- Where a text is looked for in another one. -/
inductive StringOp where
  | contains | startsWith | endsWith
deriving DecidableEq

namespace StringOp

def leadingWildcard (op : StringOp) : Bool := op = .contains || op = .endsWith

def trailingWildcard (op : StringOp) : Bool := op = .contains || op = .startsWith

end StringOp

inductive Expr where
  | parameter (param : Param)
  | member (target : Expr) (name : String)
  | hasValue (operand : Expr)
  | constant (value : Value)
  /-- A variable of the scope around the query, with its value. -/
  | captured (name : String) (value : Value)
  | array (items : List Expr)
  | compare (op : Comparison) (left right : Expr)
  | connect (op : Connective) (left right : Expr)
  | not (operand : Expr)
  | stringMatch (op : StringOp) (target value : Expr)
  | collectionContains (collection item : Expr)
  | isNullOrEmpty (operand : Expr)

namespace Expr

/-- The column of a parameter's entity for a property. -/
def field (param : Param) (property : String) : Expr := .member (.parameter param) property

/-- A negation repeated `count` times. -/
def notTimes : Nat → Expr → Expr
  | 0, operand => operand
  | count + 1, operand => .not (notTimes count operand)

mutual

/-- Equality of expressions, their values compared as JSON values. -/
def equal : Expr → Expr → Bool
  | .parameter left, .parameter right => left = right
  | .member target name, .member target' name' => equal target target' && name == name'
  | .hasValue left, .hasValue right => equal left right
  | .constant left, .constant right => left.equal right
  | .captured name left, .captured name' right => name == name' && left.equal right
  | .array left, .array right => equalItems left right
  | .compare op left right, .compare op' left' right' =>
    op = op' && equal left left' && equal right right'
  | .connect op left right, .connect op' left' right' =>
    op = op' && equal left left' && equal right right'
  | .not left, .not right => equal left right
  | .stringMatch op target value, .stringMatch op' target' value' =>
    op = op' && equal target target' && equal value value'
  | .collectionContains collection item, .collectionContains collection' item' =>
    equal collection collection' && equal item item'
  | .isNullOrEmpty left, .isNullOrEmpty right => equal left right
  | _, _ => false

def equalItems : List Expr → List Expr → Bool
  | [], [] => true
  | left :: lefts, right :: rights => equal left right && equalItems lefts rights
  | _, _ => false

end

end Expr

/-- A predicate, projection or key selector, with the parameters it declares. -/
structure Lambda where
  params : List Param
  body : Expr

def Lambda.equal (left right : Lambda) : Bool :=
  left.params = right.params && left.body.equal right.body

end QueryChain
