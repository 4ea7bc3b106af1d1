import QueryChain.Query
import QueryChain.Schema.Mapping
import QueryChain.Sql.Condition
import QueryChain.Sql.Parameters
import QueryChain.Outline

namespace QueryChain

open Schema

/-! Drafts: the plan of a query while its operators are looked at.

A plan names columns by entity and so does not depend on aliases.  Planning
fails with the first error it meets; the draft that it leaves then still tells
which entities were resolved, because a registry keeps those.
-/

/-- A mapped column of an entity. -/
structure ColumnRef where
  entity : Entity
  column : Column
deriving DecidableEq, Repr

/-- An entity with its table. -/
structure TableRef where
  entity : Entity
  table : Table
deriving DecidableEq, Repr

structure PlannedJoin where
  inner : TableRef
  left : ColumnRef
  right : ColumnRef
deriving DecidableEq, Repr

structure PlannedKey where
  column : ColumnRef
  direction : Direction
deriving DecidableEq

structure Draft where
  outline : Outline
  parameters : Sql.Parameters
  /-- The entities of the statement so far, in the order of the joins. -/
  tables : List Entity
  /-- The entities that columns or projections mention, in the order of first mention. -/
  referenced : List Entity := []
  /-- The entities that were resolved, in the order of first use. -/
  resolved : List Entity := []
  joins : List PlannedJoin := []
  conditions : List (Sql.Condition ColumnRef) := []
  order : List PlannedKey := []

def Draft.ofRoot (settings : Settings) (root : Entity) : Draft :=
  { outline := .ofRoot root, parameters := .ofSettings settings, tables := [root] }

abbrev Planning (α : Type) := ExceptT QueryError (StateM Draft) α

/-- Appends an entity that is not in a list yet. -/
def noting (entity : Entity) (entities : List Entity) : List Entity :=
  if entity ∈ entities then entities else entities ++ [entity]

namespace Planning

variable {α : Type}

/-- The outcome of a computation that leaves the draft alone. -/
def settle (outcome : Except QueryError α) : Planning α := ExceptT.mk (pure outcome)

def noteReference (entity : Entity) : Planning Unit :=
  modify fun draft => { draft with referenced := noting entity draft.referenced }

/-- The table of an entity, which counts as resolved from then on. -/
def resolve (catalog : Catalog) (entity : Entity) : Planning Table := do
  let table ← settle ((catalog.table entity).mapError .configuration)
  modify fun draft => { draft with resolved := noting entity draft.resolved }
  return table

def column (catalog : Catalog) (entity : Entity) (property : String) : Planning ColumnRef := do
  let table ← resolve catalog entity
  match table.column? property with
  | some column =>
    noteReference entity
    return ⟨entity, column⟩
  | none => throw (.configuration (.notMappedProperty entity property))

end Planning

/-- The entity and property of a member of a parameter. -/
def Expr.column? : Expr → Option (Entity × String)
  | .member (.parameter param) property => some (param.entity, property)
  | _ => none

namespace Planning

/-- A column of a parameter's entity; anything else is the given error. -/
def columnOr (catalog : Catalog) (expr : Expr) (cause : MalformedQuery) : Planning ColumnRef :=
  match expr.column? with
  | some (entity, property) => column catalog entity property
  | none => throw (.malformed cause)

/-- The column that an operation applies to. -/
def requireColumn (catalog : Catalog) (operation : String) (expr : Expr) : Planning ColumnRef :=
  columnOr catalog expr (.columnExpected operation expr)

/-- The column that orders or joins rows. -/
def keyColumn (catalog : Catalog) (key : Lambda) : Planning ColumnRef :=
  columnOr catalog key.body (.keyNotColumn key.body)

def requireUnlimited (operator : String) : Planning Unit := do
  settle (((← get).outline.requireUnlimited operator).mapError .usage)

/-- Makes a call on the outline. -/
def onOutline (call : Outline → Except UsageError Unit × Outline) : Planning Unit := do
  let (outcome, outline) := call (← get).outline
  modify fun draft => { draft with outline }
  settle (outcome.mapError .usage)

end Planning

end QueryChain
