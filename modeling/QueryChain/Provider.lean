import QueryChain.Compile
import QueryChain.Store

namespace QueryChain

open Json Schema

/-! Providers: queries that are compiled, run by a store and read back.

A query that does not compile reaches no store.  What a store reports as an
error is returned together with the statement that it rejected.
-/

structure Provider (σ : Type) where
  store : Store σ
  settings : Settings := {}

/-- What a provider works on: the shared registry and the state of the store. -/
structure Session (σ : Type) where
  registry : Registry
  state : σ

/-- Takes the columns of a table out of a row, under the names of their
properties; a column that is missing is null. -/
def entityMembers : List Column → Row → List (String × Value)
  | [], _ => []
  | column :: rest, row =>
    let (value, row) := row.remove column.name
    (column.property, value.getD .null) :: entityMembers rest row

def Shape.rowValue (shape : Shape) (row : Row) : Value :=
  match shape with
  | .entity descriptor =>
    .object (Dictionary.ofEntries (entityMembers descriptor.table.columns row))
  | .column selected => (row.remove selected.name).1.getD .null

def readRow {α : Type} (read : Reader α) (shape : Shape) (row : Row) : Except QueryError α :=
  (read (shape.rowValue row)).mapError .json

/-- The rows in order, or the error of the first one that does not read. -/
def readRows {α : Type} (read : Reader α) (shape : Shape) :
    List Row → Except QueryError (List α)
  | [] => .ok []
  | row :: rest => do
    let value ← readRow read shape row
    let values ← readRows read shape rest
    return value :: values

/-- The first row; whether there may be none depends on the mode. -/
def readFirst {α : Type} (read : Reader α) (shape : Shape) (mode : FirstMode) :
    List Row → Except QueryError (Option α)
  | row :: _ => (readRow read shape row).map some
  | [] => if mode = .firstOrDefault then .ok none else .error .noElements

namespace Provider

variable {σ α β : Type}

def compile (provider : Provider σ) (query : Query) (session : Session σ) :
    Except QueryError Compiled × Session σ :=
  let (outcome, registry) := session.registry.compile provider.settings query
  (outcome, { session with registry })

/-- Compiles a query, has the store run the statement, and reads its answer. -/
def run (provider : Provider σ)
    (ask : String → Sql.Parameters → σ → Except QueryError α × σ)
    (read : Compiled → α → Except QueryError β) (query : Query) (session : Session σ) :
    Except QueryError β × Session σ :=
  match provider.compile query session with
  | (.error error, session) => (.error error, session)
  | (.ok compiled, session) =>
    let (answer, state) := ask compiled.sql compiled.parameters session.state
    let outcome :=
      match answer with
      | .error error => .error (.invalidQuery compiled.sql error)
      | .ok value => read compiled value
    (outcome, { session with state })

/-- The rows as the store gives them. -/
def queryRows (provider : Provider σ) :
    Query → Session σ → Except QueryError (List Row) × Session σ :=
  provider.run provider.store.rows fun _ rows => .ok rows

/-- Every row, read as the given type. -/
def query (provider : Provider σ) (read : Reader α) :
    Query → Session σ → Except QueryError (List α) × Session σ :=
  provider.run provider.store.rows fun compiled => readRows read compiled.shape

/-- The first row, read as the given type.  An empty result is an error unless
the query ends by asking for the first row or a default. -/
def first (provider : Provider σ) (read : Reader α) (query : Query) :
    Session σ → Except QueryError (Option α) × Session σ :=
  let mode := query.firstMode?.getD .first
  provider.run provider.store.rows (fun compiled => readFirst read compiled.shape mode) query

/-- The first column of the first row, as the store gives it. -/
def scalar (provider : Provider σ) :
    Query → Session σ → Except QueryError (Option Value) × Session σ :=
  provider.run provider.store.scalar fun _ value => .ok value

end Provider

end QueryChain
