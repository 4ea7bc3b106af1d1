import QueryChain.Expr

namespace QueryChain

/-! Query chains: a source entity and the operators applied to it, in the order
in which they are written.
-/

inductive Direction where
  | ascending | descending
deriving DecidableEq

/-- The operators that ask for a single element. -/
inductive FirstMode where
  | first | firstOrDefault | single
deriving DecidableEq

inductive Operator where
  | filter (predicate : Lambda)
  | select (projector : Lambda)
  | join (inner : Entity) (outerKey innerKey : Lambda)
  /-- A first or a further sort key. -/
  | orderBy (key : Lambda) (direction : Direction)
  | take (count : Expr)
  | skip (count : Expr)
  | distinct
  | first (predicate : Option Lambda) (mode : FirstMode)

structure Query where
  source : Entity
  operators : List Operator

namespace Operator

/-- The entity an operator adds to the query. -/
def joined? : Operator → Option Entity
  | .join inner _ _ => some inner
  | _ => none

def equal : Operator → Operator → Bool
  | .filter left, .filter right => left.equal right
  | .select left, .select right => left.equal right
  | .join inner outerKey innerKey, .join inner' outerKey' innerKey' =>
    inner = inner' && outerKey.equal outerKey' && innerKey.equal innerKey'
  | .orderBy key direction, .orderBy key' direction' => key.equal key' && direction = direction'
  | .take left, .take right => left.equal right
  | .skip left, .skip right => left.equal right
  | .distinct, .distinct => true
  | .first none mode, .first none mode' => mode = mode'
  | .first (some left) mode, .first (some right) mode' => left.equal right && mode = mode'
  | _, _ => false

end Operator

namespace Query

/-- The untouched source of an entity. -/
def ofEntity (source : Entity) : Query := ⟨source, []⟩

def isSource (query : Query) : Bool := query.operators.isEmpty

/-- Applies an operator after those already written. -/
def push (query : Query) (operator : Operator) : Query :=
  { query with operators := query.operators ++ [operator] }

/-- The source and each joined entity, in the order of the joins. -/
def tables (query : Query) : List Entity :=
  query.source :: query.operators.filterMap Operator.joined?

/-- The mode of the operator written last, if it asks for a single element. -/
def firstMode? (query : Query) : Option FirstMode :=
  match query.operators.getLast? with
  | some (.first _ mode) => some mode
  | _ => none

def equal (left right : Query) : Bool :=
  left.source = right.source &&
    left.operators.length == right.operators.length &&
    (left.operators.zip right.operators).all fun (mine, other) => mine.equal other

end Query

end QueryChain
