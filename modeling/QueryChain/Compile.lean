import QueryChain.Plan
import QueryChain.Schema.Registry

namespace QueryChain

open Schema

/-! Compilation of queries against a registry.

A query is planned against the catalog alone.  The entities that planning
resolved are then resolved in the registry, in the same order and whether or not
planning succeeded, and the plan is written with the aliases they have there.
-/

/-- How the rows of a result map back onto what the query selects. -/
inductive Shape where
  | entity (descriptor : Descriptor)
  | column (column : Column)
deriving DecidableEq, Repr

structure Compiled where
  statement : Sql.Statement
  parameters : Sql.Parameters
  shape : Shape

def Compiled.sql (compiled : Compiled) : String := compiled.statement.text

def Selection.shape (naming : Naming) : Selection → Shape
  | .entity table => .entity ⟨table.table, naming table.entity⟩
  | .column reference => .column reference.column

def Plan.compiled (plan : Plan) (naming : Naming) : Compiled :=
  { statement := plan.statement naming
    parameters := plan.parameters
    shape := plan.selection.shape naming }

namespace Schema.Registry

/-- Compiles a query for statements that select from `root`. -/
def compileAt (registry : Registry) (settings : Settings) (root : Entity) (query : Query) :
    Except QueryError Compiled × Registry :=
  let (outcome, draft) := query.plan registry.catalog settings root
  let after := registry.resolveAll draft.resolved
  (outcome.map fun plan => plan.compiled after.aliasOf, after)

def compile (registry : Registry) (settings : Settings) (query : Query) :
    Except QueryError Compiled × Registry :=
  registry.compileAt settings query.source query

end Schema.Registry

end QueryChain
