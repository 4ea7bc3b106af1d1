import QueryChain.Proofs.Query.Scope

namespace QueryChain

open Schema

/-! Order by clauses, and when a server takes them.

A server refuses a clause that orders by a column twice, and below a distinct selection
one that orders by anything else than what is selected.  Compilation checks neither.  Which
statements break a rule shows in the chain: in its sort keys, its last projection, and an
offset without sort keys, which orders rows by nothing in particular.
-/

namespace Sql

/-- What a statement orders rows by. -/
inductive OrderItem where
  | column (reference : Reference)
  | arbitrary
deriving DecidableEq

def OrderItem.text : OrderItem → String
  | .column reference => reference.text
  | .arbitrary => "(SELECT NULL)"

namespace Statement

/-- The items of the order by clause, each with whether it is descending. -/
def orderKeys (statement : Statement) : List (OrderItem × Bool) :=
  match statement.order, statement.window with
  | [], .page _ _ => [(.arbitrary, false)]
  | keys, _ => keys.map fun key => (.column key.column, key.descending)

def orderItems (statement : Statement) : List OrderItem := statement.orderKeys.map Prod.fst

/-- The clause that is written from some items. -/
def orderClause (keys : List (OrderItem × Bool)) : String :=
  if keys.isEmpty then ""
  else " ORDER BY " ++ ", ".intercalate
    (keys.map fun (item, descending) => item.text ++ (if descending then " DESC" else ""))

/-- What a server asks of an order by clause. -/
structure OrderAccepted (statement : Statement) : Prop where
  separate : statement.orderItems.Nodup
  selected : statement.distinct → ∀ item ∈ statement.orderItems,
    item ∈ statement.columns.map OrderItem.column

theorem orderByText_eq {statement : Statement}
    (visible : ∀ key ∈ statement.order, key.text ≠ "") :
    statement.orderByText = orderClause statement.orderKeys := by
  obtain ⟨written, empty⟩ := orderText_eq visible
  rw [orderByText, empty, written]
  unfold orderKeys orderClause
  cases statement.order with
  | nil => cases statement.window <;> rfl
  | cons key rest =>
      simp only [List.isEmpty_map, List.map_map]
      rfl

end Statement

end Sql

/-- What sets the columns of a query apart: an entity and the name of a column. -/
def ColumnRef.path (column : ColumnRef) : Entity × String := (column.entity, column.column.name)

namespace Query

variable (lookup : Lookup) (query : Query)

def sortColumns : List ColumnRef :=
  (query.operators.filterMap (Operator.plannedKey? lookup)).map PlannedKey.column

def selectedColumns : List ColumnRef := (query.selection? lookup).toList.flatMap Selection.columns

/-- The sort keys differ; a distinct query selects each of them, and has at least one if it
skips rows. -/
structure Orderable : Prop where
  separate : ((query.sortColumns lookup).map ColumnRef.path).Nodup
  selected : query.isDistinct → ∀ column ∈ query.sortColumns lookup,
    column.path ∈ (query.selectedColumns lookup).map ColumnRef.path
  anchored : query.isDistinct → query.offset?.isSome → query.sortColumns lookup ≠ []

end Query

section References

variable {α β γ : Type} {items : List α} {first : α → β} {second : α → γ}

/-- Whether images differ is all that matters for a list of them. -/
theorem nodup_map_congr
    (same : ∀ item ∈ items, ∀ other ∈ items, first item = first other ↔
      second item = second other) :
    (items.map first).Nodup ↔ (items.map second).Nodup := by
  simp only [List.Nodup, List.pairwise_map]
  exact List.Pairwise.iff_of_mem fun member memberToo =>
    not_congr (same _ member _ memberToo)

theorem mem_map_congr {item : α}
    (same : ∀ other ∈ items, first other = first item ↔ second other = second item) :
    first item ∈ items.map first ↔ second item ∈ items.map second := by
  simp only [List.mem_map]
  exact exists_congr fun other => and_congr_right (same other)

end References

section Ordered

variable {catalog : Catalog} {registry after : Registry} {settings : Settings} {query : Query}
  {plan : Plan} {compiled : Compiled} {column other : ColumnRef}

/-- Under the aliases of a registry, columns of different tables are different. -/
theorem ColumnRef.reference_eq_iff (names : Names catalog registry query)
    (numbered : registry.Numbered) (among : column.Among catalog.lookup query.tables)
    (amongToo : other.Among catalog.lookup query.tables) :
    column.reference registry.aliasOf = other.reference registry.aliasOf ↔
      column.path = other.path := by
  obtain ⟨descriptor, found⟩ := names.held column.entity among.1
  obtain ⟨another, foundToo⟩ := names.held other.entity amongToo.1
  simp only [reference, path, Sql.Reference.column.injEq, Prod.mk.injEq, Registry.aliasOf, found,
    foundToo]
  refine and_congr_left fun _ => ⟨numbered.eq_of_qualifier_eq found foundToo, ?_⟩
  intro same
  rw [same, foundToo] at found
  cases found
  rfl

theorem Query.Planned.orderItems (planned : query.Planned catalog.lookup settings plan)
    (naming : Naming) :
    (plan.statement naming).orderItems =
      if query.sortColumns catalog.lookup = [] ∧ query.offset?.isSome then [.arbitrary]
      else (query.sortColumns catalog.lookup).map fun column =>
        .column (column.reference naming) := by
  rw [Plan.statement_eq, Sql.Statement.orderItems, Sql.Statement.orderKeys, Outline.window,
    planned.skipped, planned.taken, Query.sortColumns, ← planned.order]
  cases plan.order with
  | nil => cases query.offset? <;> cases query.limit? <;> rfl
  | cons key rest => simp [PlannedKey.named]

theorem ColumnRef.orderItem_eq_iff (names : Names catalog registry query)
    (numbered : registry.Numbered) (among : column.Among catalog.lookup query.tables)
    (amongToo : other.Among catalog.lookup query.tables) :
    Sql.OrderItem.column (column.reference registry.aliasOf) =
      .column (other.reference registry.aliasOf) ↔ column.path = other.path := by
  rw [Sql.OrderItem.column.injEq, ColumnRef.reference_eq_iff names numbered among amongToo]

theorem Query.Planned.sortColumns_among (planned : query.Planned catalog.lookup settings plan)
    (inScope : plan.Scoped catalog.lookup query.tables) :
    ∀ column ∈ query.sortColumns catalog.lookup, column.Among catalog.lookup query.tables := by
  rw [Query.sortColumns, ← planned.order]
  exact List.forall_mem_map.mpr inScope.order

theorem Query.Planned.selectedColumns (planned : query.Planned catalog.lookup settings plan) :
    plan.selection.columns = query.selectedColumns catalog.lookup := by
  simp [Query.selectedColumns, planned.selection]

section Rules

variable (planned : query.Planned catalog.lookup settings plan)
  (inScope : plan.Scoped catalog.lookup query.tables) (names : Names catalog registry query)
  (numbered : registry.Numbered)

include planned inScope names numbered

theorem Query.Planned.separate_iff :
    (plan.statement registry.aliasOf).orderItems.Nodup ↔
      ((query.sortColumns catalog.lookup).map ColumnRef.path).Nodup := by
  have keys := planned.sortColumns_among inScope
  rw [planned.orderItems]
  split
  · rename_i filled
    simp [filled.1]
  · exact nodup_map_congr fun column member other memberToo =>
      ColumnRef.orderItem_eq_iff names numbered (keys column member) (keys other memberToo)

theorem Query.Planned.selected_iff :
    (∀ item ∈ (plan.statement registry.aliasOf).orderItems,
        item ∈ (plan.statement registry.aliasOf).columns.map Sql.OrderItem.column) ↔
      (query.offset?.isSome → query.sortColumns catalog.lookup ≠ []) ∧
        ∀ column ∈ query.sortColumns catalog.lookup,
          column.path ∈ (query.selectedColumns catalog.lookup).map ColumnRef.path := by
  have keys := planned.sortColumns_among inScope
  have selected : ∀ column ∈ query.selectedColumns catalog.lookup,
      column.Among catalog.lookup query.tables := by
    rw [← planned.selectedColumns]
    exact inScope.selection.columns
  have columns : (plan.statement registry.aliasOf).columns.map Sql.OrderItem.column =
      (query.selectedColumns catalog.lookup).map
        fun column => .column (column.reference registry.aliasOf) := by
    rw [Plan.statement_eq, planned.selectedColumns, List.map_map]
    rfl
  rw [planned.orderItems, columns]
  split
  · -- The filler is none of the selected columns.
    rename_i filled
    simp [filled.1, filled.2]
  · rename_i unfilled
    have anchored : query.offset?.isSome → query.sortColumns catalog.lookup ≠ [] :=
      fun skips none => unfilled ⟨none, skips⟩
    rw [List.forall_mem_map, and_iff_right anchored]
    refine forall₂_congr ?_
    intro column member
    exact mem_map_congr fun other memberToo =>
      ColumnRef.orderItem_eq_iff names numbered (selected other memberToo) (keys column member)

/-- A statement meets the rules exactly when its chain does. -/
theorem Query.Planned.orderAccepted_iff :
    (plan.statement registry.aliasOf).OrderAccepted ↔ query.Orderable catalog.lookup := by
  have separate := planned.separate_iff inScope names numbered
  have selected := planned.selected_iff inScope names numbered
  have distinct : (plan.statement registry.aliasOf).distinct = query.isDistinct := by
    rw [Plan.statement_eq, planned.distinct]
  refine ⟨?_, ?_⟩
  · intro accepted
    have rules := fun removes => selected.mp (accepted.selected (distinct ▸ removes))
    exact ⟨separate.mp accepted.separate, fun removes => (rules removes).2,
      fun removes => (rules removes).1⟩
  · intro orderable
    refine ⟨separate.mpr orderable.separate, ?_⟩
    intro removes
    rw [distinct] at removes
    exact selected.mpr ⟨orderable.anchored removes, orderable.selected removes⟩

end Rules

/-- The order by clause of a compiled query holds the items of its statement, and a server takes
them exactly when the sort keys of the chain are separate, selected and given where needed. -/
theorem Schema.Registry.Reachable.order_accepted_iff
    (reachable : Registry.Reachable catalog registry)
    (compiles : registry.compile settings query = (.ok compiled, after)) :
    compiled.statement.orderByText = Sql.Statement.orderClause compiled.statement.orderKeys ∧
      (compiled.statement.OrderAccepted ↔ query.Orderable catalog.lookup) := by
  obtain ⟨plan, walkable, planned, rfl, names⟩ := reachable.compiled_planned compiles
  have following := reachable.compile settings query
  rw [compiles] at following
  refine ⟨Sql.Statement.orderByText_eq ?_, ?_⟩
  · intro key listed
    change key ∈ (plan.statement after.aliasOf).order at listed
    rw [Plan.statement_eq] at listed
    obtain ⟨planned, _, rfl⟩ := List.mem_map.mp listed
    exact sortKey_visible after.aliasOf planned
  · exact planned.orderAccepted_iff (planned.plan_scoped walkable.acceptable)
      names following.numbered

end Ordered

namespace Sample

/-- The players by name, once each, reduced to one property. -/
def ranking (property : String) : Query :=
  ⟨players,
    [.distinct, .orderBy ⟨[player], .field player "Name"⟩ .ascending,
      .select ⟨[player], .field player property⟩]⟩

theorem ranking_compiles : ∀ property ∈ ["Id", "Name"], ∃ compiled after,
    (Registry.ofCatalog catalog).compile {} (ranking property) = (.ok compiled, after) ∧
      compiled.statement.distinct := by
  have succeeds : ∀ property ∈ ["Id", "Name"], ∃ compiled,
      ((Registry.ofCatalog catalog).compile {} (ranking property)).1 = .ok compiled ∧
        compiled.statement.distinct := by
    simp only [List.forall_mem_cons, List.not_mem_nil, false_implies, implies_true, and_true]
    exact ⟨⟨_, rfl, rfl⟩, ⟨_, rfl, rfl⟩⟩
  intro property member
  obtain ⟨compiled, succeeded, distinct⟩ := succeeds property member
  exact ⟨compiled, _, Prod.ext succeeded rfl, distinct⟩

/-- A distinct query that selects what it orders by. -/
theorem ranking_accepted : ∃ compiled after,
    (Registry.ofCatalog catalog).compile {} (ranking "Name") = (.ok compiled, after) ∧
      compiled.statement.distinct ∧ compiled.statement.OrderAccepted := by
  obtain ⟨compiled, after, compiles, distinct⟩ := ranking_compiles "Name" (by decide)
  have orderable : (ranking "Name").Orderable catalog.lookup :=
    ⟨by decide, by decide, by decide⟩
  exact ⟨compiled, after, compiles, distinct,
    (Registry.Reachable.order_accepted_iff .ofCatalog compiles).2.mpr orderable⟩

/-- A distinct query compiles although it orders by a column that it does not select. -/
theorem ranking_refused : ∃ compiled after,
    (Registry.ofCatalog catalog).compile {} (ranking "Id") = (.ok compiled, after) ∧
      compiled.statement.distinct ∧ ¬ compiled.statement.OrderAccepted := by
  obtain ⟨compiled, after, compiles, distinct⟩ := ranking_compiles "Id" (by decide)
  refine ⟨compiled, after, compiles, distinct, ?_⟩
  have reachable : Registry.Reachable catalog (Registry.ofCatalog catalog) := .ofCatalog
  have following := reachable.compile {} (ranking "Id")
  rw [compiles] at following
  obtain ⟨plan, walkable, planned, rfl, names⟩ := reachable.compiled_planned compiles
  intro accepted
  have orderable := (planned.orderAccepted_iff (planned.plan_scoped walkable.acceptable) names
    following.numbered).mp accepted
  have unselected : ¬ ∀ column ∈ (ranking "Id").sortColumns catalog.lookup,
      column.path ∈ ((ranking "Id").selectedColumns catalog.lookup).map ColumnRef.path := by
    decide
  exact unselected (orderable.selected rfl)

example :
    ((Registry.ofCatalog catalog).compile {} (ranking "Id")).1.toOption.map Compiled.sql =
      some "SELECT DISTINCT a.[Id] FROM [Player] a ORDER BY a.[Name]" := by
  decide +kernel

end Sample

end QueryChain
