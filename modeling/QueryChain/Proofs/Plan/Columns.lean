import QueryChain.Proofs.Plan.Outcome
import QueryChain.Schema.Registry

namespace QueryChain

open Json Schema

/-! Columns that expressions stand for, and what planning notes when it meets them. -/

/-- The tables that entities resolve to. -/
abbrev Schema.Lookup := Entity → Option Table

namespace Schema

def Catalog.lookup (catalog : Catalog) : Lookup := fun entity => (catalog.table entity).toOption

def Registry.lookup (registry : Registry) : Lookup :=
  fun entity => (registry.find? entity).map Descriptor.table

/-- A lookup that knows none but the given entities. -/
def Lookup.within (lookup : Lookup) (entities : List Entity) : Lookup :=
  fun entity => if entity ∈ entities then lookup entity else none

theorem Catalog.lookup_eq_some {catalog : Catalog} {entity : Entity} {table : Table} :
    catalog.lookup entity = some table ↔ catalog.table entity = .ok table := by
  unfold lookup
  cases catalog.table entity <;> simp [Except.toOption]

theorem Lookup.within_eq_some {lookup : Lookup} {entities : List Entity} {entity : Entity}
    {table : Table} :
    lookup.within entities entity = some table ↔
      entity ∈ entities ∧ lookup entity = some table := by
  unfold within
  split <;> simp [*]

end Schema

/-- The column that a member of a parameter stands for. -/
def Expr.columnIn? (lookup : Lookup) (expr : Expr) : Option ColumnRef := do
  let (entity, property) ← expr.column?
  let table ← lookup entity
  let column ← table.column? property
  return ⟨entity, column⟩

theorem Expr.columnIn?_eq_some {lookup : Lookup} {expr : Expr} {found : ColumnRef} :
    expr.columnIn? lookup = some found ↔
      ∃ property table, expr.column? = some (found.entity, property) ∧
        lookup found.entity = some table ∧ table.column? property = some found.column := by
  constructor
  · intro resolved
    simp only [columnIn?, Option.bind_eq_bind, Option.bind_eq_some_iff, Option.pure_def,
      Option.some.injEq] at resolved
    obtain ⟨⟨entity, property⟩, named, table, held, column, mapped, rfl⟩ := resolved
    exact ⟨property, table, named, held, mapped⟩
  · intro found
    obtain ⟨property, table, named, held, mapped⟩ := found
    simp [columnIn?, named, held, mapped]

theorem Expr.columnIn?_within {lookup : Lookup} {entities : List Entity} {expr : Expr}
    {found : ColumnRef} :
    expr.columnIn? (lookup.within entities) = some found ↔
      expr.columnIn? lookup = some found ∧ found.entity ∈ entities := by
  simp only [columnIn?_eq_some, Lookup.within_eq_some]
  constructor
  · intro resolved
    obtain ⟨property, table, named, ⟨member, held⟩, mapped⟩ := resolved
    exact ⟨⟨property, table, named, held, mapped⟩, member⟩
  · intro resolved
    obtain ⟨⟨property, table, named, held, mapped⟩, member⟩ := resolved
    exact ⟨property, table, named, ⟨member, held⟩, mapped⟩

/-- A property finds the column that is declared for it. -/
theorem Schema.Table.column?_property {table : Table} {property : String} {column : Column}
    (found : table.column? property = some column) : column.property = property := by
  simpa using List.find?_some found

def notingAll (entities noted : List Entity) : List Entity :=
  entities.foldl (fun noted entity => noting entity noted) noted

theorem mem_noting {entity other : Entity} {entities : List Entity} :
    other ∈ noting entity entities ↔ other ∈ entities ∨ other = entity := by
  unfold noting
  split
  · rename_i known
    constructor
    · exact .inl
    · intro found
      cases found with
      | inl member => exact member
      | inr same => exact same ▸ known
  · simp

theorem mem_notingAll {entities noted : List Entity} {other : Entity} :
    other ∈ notingAll entities noted ↔ other ∈ noted ∨ other ∈ entities := by
  induction entities generalizing noted with
  | nil => simp [notingAll]
  | cons entity rest ih =>
      have step : notingAll (entity :: rest) noted = notingAll rest (noting entity noted) := rfl
      rw [step, ih, mem_noting, List.mem_cons, or_assoc]

theorem notingAll_append (first second noted : List Entity) :
    notingAll (first ++ second) noted = notingAll second (notingAll first noted) := by
  simp [notingAll]

/-- The values that are bound; null is written as itself. -/
def nonNull (values : List Value) : List Value := values.filter fun value => !value.isNull

@[simp] theorem nonNull_nil : nonNull [] = [] := rfl

@[simp] theorem nonNull_append (left right : List Value) :
    nonNull (left ++ right) = nonNull left ++ nonNull right := List.filter_append ..

theorem nonNull_cons (value : Value) (rest : List Value) :
    nonNull (value :: rest) = nonNull [value] ++ nonNull rest := nonNull_append [value] rest

namespace Draft

/-- A draft in which some columns were used and some values written. -/
def record (draft : Draft) (columns : List ColumnRef) (values : List Value) : Draft :=
  { draft with
    parameters := { draft.parameters with values := draft.parameters.values ++ nonNull values }
    referenced := notingAll (columns.map ColumnRef.entity) draft.referenced
    resolved := notingAll (columns.map ColumnRef.entity) draft.resolved }

variable {draft : Draft} {columns : List ColumnRef} {values : List Value}

@[simp] theorem record_nil : draft.record [] [] = draft := by
  simp [record, notingAll]

@[simp] theorem record_record (others : List ColumnRef) (more : List Value) :
    (draft.record columns values).record others more =
      draft.record (columns ++ others) (values ++ more) := by
  simp [record, notingAll_append]

@[simp] theorem record_outline : (draft.record columns values).outline = draft.outline := rfl

@[simp] theorem record_tables : (draft.record columns values).tables = draft.tables := rfl

@[simp] theorem record_joins : (draft.record columns values).joins = draft.joins := rfl

@[simp] theorem record_conditions :
    (draft.record columns values).conditions = draft.conditions := rfl

@[simp] theorem record_order : (draft.record columns values).order = draft.order := rfl

@[simp] theorem record_stem :
    (draft.record columns values).parameters.stem = draft.parameters.stem := rfl

@[simp] theorem record_limit :
    (draft.record columns values).parameters.limit = draft.parameters.limit := rfl

@[simp] theorem record_size :
    (draft.record columns values).parameters.size =
      draft.parameters.size + (nonNull values).length := by
  simp [record, Sql.Parameters.size]

/-- No value is bound, or all of them stay under the limit. -/
def Fits (draft : Draft) (values : List Value) : Prop :=
  nonNull values = [] ∨ draft.parameters.size + (nonNull values).length ≤ draft.parameters.limit

@[simp] theorem fits_nil : draft.Fits [] := .inl rfl

@[simp] theorem fits_record_nil : (draft.record columns []).Fits values ↔ draft.Fits values := by
  simp [Fits]

theorem fits_append (columns : List ColumnRef) {more : List Value} :
    draft.Fits (values ++ more) ↔ draft.Fits values ∧
      (draft.record columns values).Fits more := by
  simp only [Fits, record_size, record_limit, nonNull_append, List.length_append,
    List.append_eq_nil_iff]
  by_cases first : nonNull values = []
  · simp [first]
  · by_cases second : nonNull more = []
    · simp [first, second]
    · simp only [first, second, false_and, false_or]
      omega

end Draft

namespace Planning

variable {catalog : Catalog} {before after : Draft} {found : ColumnRef} {entity : Entity}

theorem yields_resolve {table : Table} :
    Yields (resolve catalog entity) before table after ↔
      catalog.lookup entity = some table ∧
        after = { before with resolved := noting entity before.resolved } := by
  simp only [resolve, yields_bind, yields_settle, mapError_eq_ok, yields_modify, yields_pure,
    Catalog.lookup_eq_some]
  constructor
  · intro yields
    obtain ⟨_, _, ⟨held, rfl⟩, _, _, rfl, rfl, rfl⟩ := yields
    exact ⟨held, rfl⟩
  · intro resolved
    obtain ⟨held, rfl⟩ := resolved
    exact ⟨table, before, ⟨held, rfl⟩, ⟨⟩, _, rfl, rfl, rfl⟩

theorem yields_column {property : String} :
    Yields (column catalog entity property) before found after ↔
      ∃ table selected, catalog.lookup entity = some table ∧
        table.column? property = some selected ∧ found = ⟨entity, selected⟩ ∧
        after = before.record [found] [] := by
  simp only [column, yields_bind, yields_resolve]
  constructor
  · intro yields
    obtain ⟨table, middle, ⟨held, rfl⟩, run⟩ := yields
    cases mapped : table.column? property with
    | none => simp [mapped] at run
    | some selected =>
        simp only [mapped, noteReference, yields_bind, yields_modify, yields_pure] at run
        obtain ⟨_, _, rfl, rfl, rfl⟩ := run
        exact ⟨table, selected, held, mapped, rfl, by simp [Draft.record, notingAll]⟩
  · intro resolved
    obtain ⟨table, selected, held, mapped, rfl, rfl⟩ := resolved
    refine ⟨table, _, ⟨held, rfl⟩, ?_⟩
    simp only [mapped, noteReference, yields_bind, yields_modify, yields_pure]
    exact ⟨⟨⟩, _, rfl, trivial, by simp [Draft.record, notingAll]⟩

theorem yields_column_of_named {expr : Expr} {property : String}
    (named : expr.column? = some (entity, property)) :
    Yields (column catalog entity property) before found after ↔
      expr.columnIn? catalog.lookup = some found ∧ after = before.record [found] [] := by
  simp only [yields_column, Expr.columnIn?_eq_some, named, Option.some.injEq, Prod.mk.injEq]
  constructor
  · intro yields
    obtain ⟨table, selected, held, mapped, rfl, rfl⟩ := yields
    exact ⟨⟨property, table, ⟨rfl, rfl⟩, held, mapped⟩, rfl⟩
  · intro resolved
    obtain ⟨⟨_, table, ⟨rfl, rfl⟩, held, mapped⟩, rfl⟩ := resolved
    exact ⟨table, found.column, held, mapped, rfl, rfl⟩

theorem yields_columnOr {expr : Expr} {cause : MalformedQuery} :
    Yields (columnOr catalog expr cause) before found after ↔
      expr.columnIn? catalog.lookup = some found ∧ after = before.record [found] [] := by
  unfold columnOr
  cases named : expr.column? with
  | none => simp [Expr.columnIn?, named]
  | some member => exact yields_column_of_named named

end Planning

end QueryChain
