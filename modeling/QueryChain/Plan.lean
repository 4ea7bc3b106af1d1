import QueryChain.Plan.Lowering
import QueryChain.Sql.Writer

namespace QueryChain

open Schema

/-! Plans of queries.

Planning walks a chain twice.  From the last operator to the first it collects
projections and sort keys, where the projection written last counts; then, in the
order of writing, it checks each operator against the limits before it and adds
joins, conditions and limits.  A plan becomes a statement once every entity has
an alias.
-/

/-- What the rows of the result hold. -/
inductive Selection where
  | entity (table : TableRef)
  | column (column : ColumnRef)
deriving DecidableEq, Repr

structure Plan where
  outline : Outline
  source : TableRef
  selection : Selection
  joins : List PlannedJoin
  conditions : List (Sql.Condition ColumnRef)
  order : List PlannedKey
  parameters : Sql.Parameters

namespace Planning

def projection (catalog : Catalog) (projector : Lambda) : Planning Projection :=
  match projector.body with
  | .parameter param => do
    noteReference param.entity
    return .entity param.entity
  | .member target name =>
    match Expr.column? (.member target name) with
    | some (entity, property) => do
      let column ← column catalog entity property
      return .property entity column.column.property
    | none => throw (.usage .computedProjection)
  | other => throw (.usage (.unsupportedProjection other))

/-- What an operator contributes on the way from the last operator to the first. -/
def descend (catalog : Catalog) : Operator → Planning Unit
  | .select projector => do
    let projection ← projection catalog projector
    modify fun draft => { draft with outline := draft.outline.select projection }
  | .orderBy key direction => do
    let column ← keyColumn catalog key
    modify fun draft => { draft with order := ⟨column, direction⟩ :: draft.order }
  | _ => return ()

/-- Joins a table that is not part of the statement yet.  The outer key belongs
to a table before it, the inner key to the joined one. -/
def join (catalog : Catalog) (inner : Entity) (outerKey innerKey : Lambda) : Planning Unit := do
  let tables := (← get).tables
  if inner ∈ tables then throw (.usage (.selfJoin inner))
  let left ← keyColumn catalog outerKey
  if left.entity ∉ tables then throw (.malformed (.outerKey left.entity))
  let table ← resolve catalog inner
  let right ← keyColumn catalog innerKey
  if right.entity ≠ inner then throw (.malformed (.innerKey right.entity inner))
  modify fun draft =>
    { draft with
      tables := draft.tables ++ [inner]
      joins := draft.joins ++ [⟨⟨inner, table⟩, left, right⟩] }

/-- What an operator contributes in the order of writing. -/
def ascend (catalog : Catalog) : Operator → Planning Unit
  | .filter predicate => do
    requireUnlimited "Where"
    addCondition catalog predicate
  | .select _ => return ()
  | .join inner outerKey innerKey => do
    requireUnlimited "Join"
    join catalog inner outerKey innerKey
  | .orderBy _ _ => requireUnlimited "OrderBy"
  | .take count => do
    let count ← settle count.evaluateCount
    onOutline (·.take count)
  | .skip count => do
    let count ← settle count.evaluateCount
    onOutline (·.skip count)
  | .distinct => do
    requireUnlimited "Distinct"
    onOutline fun outline => (.ok (), outline.requireDistinct)
  | .first none _ => onOutline (·.take 1)
  | .first (some predicate) _ => do
    requireUnlimited "A First predicate"
    addCondition catalog predicate
    onOutline (·.take 1)

/-- Every entity that is mentioned must be one of the tables. -/
def checkReferences : Planning Unit := do
  let draft ← get
  match draft.referenced.find? fun entity => entity ∉ draft.tables with
  | some entity => throw (.malformed (.outsideSource entity))
  | none => return ()

def selection (catalog : Catalog) : Projection → Planning Selection
  | .entity entity => do return .entity ⟨entity, ← resolve catalog entity⟩
  | .property entity property => do return .column (← column catalog entity property)

/-- Tables are resolved in the order of the joins before anything else. -/
def resolveTables (catalog : Catalog) : List Entity → Planning Unit
  | [] => return ()
  | entity :: rest => do
    let _ ← resolve catalog entity
    resolveTables catalog rest

def walk (step : Operator → Planning Unit) : List Operator → Planning Unit
  | [] => return ()
  | operator :: rest => do
    step operator
    walk step rest

def plan (catalog : Catalog) (root : Entity) (query : Query) : Planning Plan := do
  if query.source ≠ root then throw (.malformed (.rootMismatch query.source root))
  resolveTables catalog query.tables
  let source ← resolve catalog root
  walk (descend catalog) query.operators.reverse
  walk (ascend catalog) query.operators
  checkReferences
  let selection ← selection catalog (← get).outline.projection
  let draft ← get
  return {
    outline := draft.outline
    source := ⟨root, source⟩
    selection
    joins := draft.joins
    conditions := draft.conditions
    order := draft.order
    parameters := draft.parameters }

end Planning

/-- Plans a query from an empty draft, and returns the draft that was reached. -/
def Query.plan (query : Query) (catalog : Catalog) (settings : Settings) (root : Entity) :
    Except QueryError Plan × Draft :=
  (Planning.plan catalog root query).run.run (.ofRoot settings root)

/-- Aliases of entities. -/
abbrev Naming := Entity → String

def ColumnRef.reference (naming : Naming) (column : ColumnRef) : Sql.Reference :=
  .column (naming column.entity) column.column.name

def TableRef.source (naming : Naming) (table : TableRef) : Sql.Source :=
  ⟨table.table.name, naming table.entity⟩

def TableRef.columns (table : TableRef) : List ColumnRef :=
  table.table.columns.map fun column => ⟨table.entity, column⟩

def PlannedJoin.named (naming : Naming) (join : PlannedJoin) : Sql.Join :=
  ⟨join.inner.source naming, join.left.reference naming, join.right.reference naming⟩

def PlannedKey.named (naming : Naming) (key : PlannedKey) : Sql.SortKey :=
  ⟨key.column.reference naming, key.direction = .descending⟩

def Selection.columns : Selection → List ColumnRef
  | .entity table => table.columns
  | .column reference => [reference]

namespace Plan

/-- Writes a plan under the given aliases. -/
def writer (plan : Plan) (naming : Naming) : Sql.Writer :=
  plan.conditions.foldl
    (fun writer condition => writer.condition (condition.map (·.reference naming)))
    { parameters := plan.parameters
      joins := plan.joins.map (·.named naming)
      order := plan.order.map (·.named naming) }

def statement (plan : Plan) (naming : Naming) : Sql.Statement :=
  (plan.writer naming).statement plan.outline (plan.source.source naming)
    (plan.selection.columns.map (·.reference naming))

end Plan

end QueryChain
