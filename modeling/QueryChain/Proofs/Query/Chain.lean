import QueryChain.Proofs.Predicate
import QueryChain.Plan

namespace QueryChain

open Json Schema

/-! What each operator of a chain asks for, and what it contributes once its
columns are resolved.  The parts of a query are lists in the order of writing.
-/

namespace Operator

def predicate? : Operator → Option Lambda
  | .filter predicate => some predicate
  | .first predicate _ => predicate
  | _ => none

def projector? : Operator → Option Lambda
  | .select projector => some projector
  | _ => none

def sortKey? : Operator → Option (Lambda × Direction)
  | .orderBy key direction => some (key, direction)
  | _ => none

def join? : Operator → Option (Entity × Lambda × Lambda)
  | .join inner outerKey innerKey => some (inner, outerKey, innerKey)
  | _ => none

def count? : Operator → Option Expr
  | .take count => some count
  | .skip count => some count
  | _ => none

def isDistinct : Operator → Bool
  | .distinct => true
  | _ => false

/-- Operators that keep a number of rows from the first one on. -/
def takes : Operator → Bool
  | .take _ => true
  | .first _ _ => true
  | _ => false

def skips : Operator → Bool
  | .skip _ => true
  | _ => false

def limits (operator : Operator) : Bool := operator.takes || operator.skips

/-- Operators that a statement applies before it limits its rows. -/
def precedesLimits : Operator → Bool
  | .filter _ => true
  | .join _ _ _ => true
  | .orderBy _ _ => true
  | .distinct => true
  | .first (some _) _ => true
  | _ => false

def taken? : Operator → Option Nat
  | .take count => count.evaluateCount.toOption
  | .first _ _ => some 1
  | _ => none

def skipped? : Operator → Option Nat
  | .skip count => count.evaluateCount.toOption
  | _ => none

variable (lookup : Lookup)

def plannedKey? : Operator → Option PlannedKey
  | .orderBy key direction => (key.body.columnIn? lookup).map fun column => ⟨column, direction⟩
  | _ => none

def plannedJoin? : Operator → Option PlannedJoin
  | .join inner outerKey innerKey => do
    let table ← lookup inner
    let left ← outerKey.body.columnIn? lookup
    let right ← innerKey.body.columnIn? lookup
    return ⟨⟨inner, table⟩, left, right⟩
  | _ => none

def reads? (operator : Operator) : Option Predicate :=
  operator.predicate?.bind fun predicate => predicate.body.predicate? lookup

end Operator

def Lambda.projection? (lookup : Lookup) (projector : Lambda) : Option Projection :=
  match projector.body with
  | .parameter param => some (.entity param.entity)
  | body => (body.columnIn? lookup).map fun column => .property column.entity column.column.property

def Lambda.selection? (lookup : Lookup) (projector : Lambda) : Option Selection :=
  match projector.body with
  | .parameter param => (lookup param.entity).map fun table => .entity ⟨param.entity, table⟩
  | body => (body.columnIn? lookup).map .column

namespace Query

def predicates (query : Query) : List Lambda := query.operators.filterMap Operator.predicate?

def projectors (query : Query) : List Lambda := query.operators.filterMap Operator.projector?

def sortKeys (query : Query) : List (Lambda × Direction) :=
  query.operators.filterMap Operator.sortKey?

def joins (query : Query) : List (Entity × Lambda × Lambda) :=
  query.operators.filterMap Operator.join?

def counts (query : Query) : List Expr := query.operators.filterMap Operator.count?

def isDistinct (query : Query) : Bool := query.operators.any Operator.isDistinct

/-- The count of the last operator that takes rows. -/
def limit? (query : Query) : Option Nat := (query.operators.filterMap Operator.taken?).getLast?

/-- The count of the last operator that skips rows. -/
def offset? (query : Query) : Option Nat := (query.operators.filterMap Operator.skipped?).getLast?

/-- The predicates as they read over a lookup. -/
def readings (lookup : Lookup) (query : Query) : List Predicate :=
  query.operators.filterMap (Operator.reads? lookup)

/-- The values of the predicates, from left to right. -/
def values (lookup : Lookup) (query : Query) : List Value :=
  (query.readings lookup).flatMap Predicate.values

end Query

end QueryChain
