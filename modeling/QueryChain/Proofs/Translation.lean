import QueryChain.Compile

namespace QueryChain

open Schema

/-! Translation of a query with a registry at hand.

A translation asks the registry for a descriptor whenever a table is needed, takes the alias from
it there and then, and writes each clause as it comes to it.  Nothing is planned: what the registry
holds when an entity is asked for decides what is written for it.
-/

structure Translation where
  registry : Registry
  outline : Outline
  writer : Sql.Writer
  /-- The entities of the statement so far, in the order of the joins. -/
  tables : List Entity
  /-- The entities that columns or projections mention. -/
  referenced : List Entity := []

def Translation.ofRoot (registry : Registry) (settings : Settings) (root : Entity) : Translation :=
  { registry, outline := .ofRoot root, writer := .ofSettings settings, tables := [root] }

/-- A column with the alias that the registry gave for its table. -/
structure NamedColumn where
  entity : Entity
  qualifier : String
  column : Column

def NamedColumn.reference (named : NamedColumn) : Sql.Reference :=
  .column named.qualifier named.column.name

abbrev Translating (α : Type) := ExceptT QueryError (StateM Translation) α

namespace Translating

variable {α : Type}

def settle (outcome : Except QueryError α) : Translating α := ExceptT.mk (pure outcome)

def descriptor (entity : Entity) : Translating Descriptor := do
  let answer := (← get).registry.resolve entity
  modify fun translation => { translation with registry := answer.2 }
  settle (answer.1.mapError .configuration)

def noteReference (entity : Entity) : Translating Unit :=
  modify fun translation =>
    { translation with referenced := noting entity translation.referenced }

def column (entity : Entity) (property : String) : Translating NamedColumn := do
  let descriptor ← descriptor entity
  match descriptor.table.column? property with
  | some column =>
    noteReference entity
    return ⟨entity, descriptor.qualifier, column⟩
  | none => throw (.configuration (.notMappedProperty entity property))

/-- A column of a parameter's entity; anything else is the given error. -/
def columnOr (expr : Expr) (cause : MalformedQuery) : Translating NamedColumn :=
  match expr.column? with
  | some (entity, property) => column entity property
  | none => throw (.malformed cause)

def requireColumn (operation : String) (expr : Expr) : Translating NamedColumn :=
  columnOr expr (.columnExpected operation expr)

def keyColumn (key : Lambda) : Translating NamedColumn :=
  columnOr key.body (.keyNotColumn key.body)

def requireUnlimited (operator : String) : Translating Unit := do
  settle (((← get).outline.requireUnlimited operator).mapError .usage)

/-- Makes a call on the outline. -/
def onOutline (call : Outline → Except UsageError Unit × Outline) : Translating Unit := do
  let made := call (← get).outline
  modify fun translation => { translation with outline := made.2 }
  settle (made.1.mapError .usage)

/-- Makes a call on the writer. -/
def onWriter (call : Sql.Writer → Except UsageError Unit × Sql.Writer) : Translating Unit := do
  let made := call (← get).writer
  modify fun translation => { translation with writer := made.2 }
  settle (made.1.mapError .usage)

def write (tokens : List (Sql.Token Sql.Reference)) : Translating Unit :=
  modify fun translation => { translation with writer := translation.writer.write tokens }

/-- Writes the value of a condition, which must be known before the query runs. -/
def foldedCondition (expr : Expr) : Translating Unit :=
  match expr.evaluate with
  | .ok value => onWriter (·.parameter value)
  | .error _ => throw (.malformed (.rowDependent expr))

/-- Writes the operand of a comparison or the pattern of a match. -/
def operand (expr : Expr) : Translating Unit :=
  match expr with
  | .member _ _ =>
    match expr.column? with
    | some (entity, property) => do
      let column ← column entity property
      write [.reference column.reference]
    | none => do
      let value ← settle expr.evaluate
      onWriter (·.parameter value)
  | .constant value => onWriter (·.parameter value)
  | .captured _ value => onWriter (·.parameter value)
  | .parameter _ | .array _ => throw (.malformed (.notValue expr))
  | .hasValue _ | .compare _ _ _ | .connect _ _ _ | .not _ | .stringMatch _ _ _
  | .collectionContains _ _ | .isNullOrEmpty _ => foldedCondition expr

/-- Writes a condition whose truth is known before the query runs. -/
def knownCondition (expr : Expr) (negated : Bool) : Translating Unit := do
  let value ← settle expr.evaluate
  match value.asBool? with
  | some flag => write (Sql.Phrase.truth (flag != negated))
  | none => throw (.malformed (.notFlag value))

/-- Writes a boolean column as a condition. -/
def flagCondition (entity : Entity) (property : String) (negated : Bool) : Translating Unit := do
  let column ← column entity property
  if column.column.type = .boolean then
    write (.reference column.reference :: Sql.Phrase.flag negated)
  else throw (.usage (.notBoolean entity column.column.property))

/-- Writes an expression as a condition, or as the negation of one. -/
def condition (expr : Expr) (negated : Bool) : Translating Unit :=
  match expr with
  | .not operand => condition operand !negated
  | .compare op left right => do
    write (Sql.Condition.negation negated ++ [.opening])
    operand left
    write (Sql.Phrase.comparison op)
    operand right
    write [.closing]
  | .connect op left right => do
    write (Sql.Condition.negation negated ++ [.opening])
    condition left false
    write (Sql.Phrase.spaced (Sql.connective op))
    condition right false
    write [.closing]
  | .member _ _ =>
    match expr.column? with
    | some (entity, property) => flagCondition entity property negated
    | none => knownCondition expr negated
  | .constant _ => knownCondition expr negated
  | .captured _ _ => knownCondition expr negated
  | .hasValue operand => do
    let column ← requireColumn "HasValue" operand
    write (.reference column.reference :: Sql.Phrase.nullTest negated)
  | .stringMatch op target value => do
    let column ← requireColumn "String matching" target
    write (.reference column.reference :: Sql.Phrase.like negated)
    write (if op.leadingWildcard then Sql.Phrase.leadingWildcard else [])
    operand value
    write (if op.trailingWildcard then Sql.Phrase.trailingWildcard else [])
  | .collectionContains collection item => do
    let column ← requireColumn "Collection membership" item
    let values ← settle collection.evaluateList
    if values.isEmpty then write (Sql.Phrase.truth negated)
    else
      write [.reference column.reference]
      onWriter (·.inList negated values)
  | .isNullOrEmpty operand => do
    let column ← requireColumn "IsNullOrEmpty" operand
    write ([.keyword .isNull, .opening, .reference column.reference] ++ Sql.Phrase.separator ++
      [Sql.Phrase.emptyText, .closing, .space, Sql.Phrase.equality negated, .space,
        Sql.Phrase.emptyText])
  | .parameter _ | .array _ => throw (.malformed (.notCondition expr))

/-- Writes a condition that the rows have to meet. -/
def addCondition (predicate : Lambda) : Translating Unit := do
  modify fun translation => { translation with writer := translation.writer.beginPredicate }
  condition predicate.body false

def projection (projector : Lambda) : Translating Projection :=
  match projector.body with
  | .parameter param => do
    noteReference param.entity
    return .entity param.entity
  | .member target name =>
    match Expr.column? (.member target name) with
    | some (entity, property) => do
      let column ← column entity property
      return .property entity column.column.property
    | none => throw (.usage .computedProjection)
  | other => throw (.usage (.unsupportedProjection other))

/-- What is written for an operator on the way from the last operator to the first. -/
def descend : Operator → Translating Unit
  | .select projector => do
    let projection ← projection projector
    modify fun translation =>
      { translation with outline := translation.outline.select projection }
  | .orderBy key direction => do
    let column ← keyColumn key
    modify fun translation =>
      { translation with
        writer := translation.writer.orderBy ⟨column.reference, direction = .descending⟩ }
  | _ => return ()

def join (inner : Entity) (outerKey innerKey : Lambda) : Translating Unit := do
  let tables := (← get).tables
  if inner ∈ tables then throw (.usage (.selfJoin inner))
  let left ← keyColumn outerKey
  if left.entity ∉ tables then throw (.malformed (.outerKey left.entity))
  let descriptor ← descriptor inner
  let right ← keyColumn innerKey
  if right.entity ≠ inner then throw (.malformed (.innerKey right.entity inner))
  modify fun translation =>
    { translation with
      tables := translation.tables ++ [inner]
      writer := translation.writer.join
        ⟨⟨descriptor.table.name, descriptor.qualifier⟩, left.reference, right.reference⟩ }

/-- What is written for an operator in the order of writing. -/
def ascend : Operator → Translating Unit
  | .filter predicate => do
    requireUnlimited "Where"
    addCondition predicate
  | .select _ => return ()
  | .join inner outerKey innerKey => do
    requireUnlimited "Join"
    join inner outerKey innerKey
  | .orderBy _ _ => requireUnlimited "OrderBy"
  | .take count => do
    let count ← settle count.evaluateCount
    onOutline (·.take count)
  | .skip count => do
    let count ← settle count.evaluateCount
    onOutline (·.skip count)
  | .distinct => do
    requireUnlimited "Distinct"
    onOutline fun outline => (.ok (), outline.requireDistinct)
  | .first none _ => onOutline (·.take 1)
  | .first (some predicate) _ => do
    requireUnlimited "A First predicate"
    addCondition predicate
    onOutline (·.take 1)

def checkReferences : Translating Unit := do
  let translation ← get
  match translation.referenced.find? fun entity => entity ∉ translation.tables with
  | some entity => throw (.malformed (.outsideSource entity))
  | none => return ()

/-- The columns that a statement selects, and how its rows map back. -/
def selection : Projection → Translating (List Sql.Reference × Shape)
  | .entity entity => do
    let descriptor ← descriptor entity
    return (descriptor.table.columns.map descriptor.reference, .entity descriptor)
  | .property entity property => do
    let column ← column entity property
    return ([column.reference], .column column.column)

def resolveTables : List Entity → Translating Unit
  | [] => return ()
  | entity :: rest => do
    let _ ← descriptor entity
    resolveTables rest

def walk (step : Operator → Translating Unit) : List Operator → Translating Unit
  | [] => return ()
  | operator :: rest => do
    step operator
    walk step rest

def translate (root : Entity) (query : Query) : Translating Compiled := do
  if query.source ≠ root then throw (.malformed (.rootMismatch query.source root))
  resolveTables query.tables
  let source ← descriptor root
  walk descend query.operators.reverse
  walk ascend query.operators
  checkReferences
  let selected ← selection (← get).outline.projection
  let translation ← get
  return {
    statement := translation.writer.statement translation.outline
      ⟨source.table.name, source.qualifier⟩ selected.1
    parameters := translation.writer.parameters
    shape := selected.2 }

end Translating

/-- Translates a query, and returns the registry as the translation leaves it. -/
def Schema.Registry.translateAt (registry : Registry) (settings : Settings) (root : Entity)
    (query : Query) : Except QueryError Compiled × Registry :=
  let (outcome, translation) :=
    (Translating.translate root query).run.run (.ofRoot registry settings root)
  (outcome, translation.registry)

end QueryChain
