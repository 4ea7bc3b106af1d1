import QueryChain.Proofs.Plan.Footprint
import QueryChain.Proofs.Query.History

namespace QueryChain

open Schema

/-! What an attempt to compile a query leaves in a registry.

Planning resolves the tables of a query before it looks at an operator, in the order in
which the statement lists them.  What the operators of an accepted query resolve after
that is known by then, so that the aliases do not depend on where a column is mentioned.
-/

/-- The tables of a statement, in the order in which it lists them. -/
def Sql.Statement.sources (statement : Sql.Statement) : List Sql.Source :=
  statement.source :: statement.joins.map Sql.Join.source

namespace Schema.Registry

/-- A compiled query has added its tables, under the next aliases in their order. -/
structure Enlists (before : Registry) (query : Query) (compiled : Compiled) (after : Registry) :
    Prop where
  materialized : ∀ entity,
    Materialized before after entity ↔ entity ∈ query.tables ∧ before.find? entity = none
  aliases : ∀ rank entity, (before.unheld query.tables)[rank]? = some entity →
    ∃ descriptor, after.find? entity = some descriptor ∧
      HasRank (before.size + rank) descriptor.qualifier
  listed : compiled.statement.sources.map some =
    query.tables.map fun entity => (after.find? entity).map Descriptor.source
  cold : before.isEmpty → ∀ (rank : Nat) (source : Sql.Source),
    compiled.statement.sources[rank]? = some source → HasRank rank source.qualifier

/-- What an attempt to compile a query does to a registry, whose entities hold the first of
the free words. -/
structure Materializes (before : Registry) (query : Query)
    (outcome : Except QueryError Compiled) (after : Registry) : Prop where
  kept : ∀ entity descriptor, before.find? entity = some descriptor →
    after.find? entity = some descriptor
  taken : ∀ rank, rank < before.size ↔ ∃ entity descriptor,
    before.find? entity = some descriptor ∧ HasRank rank descriptor.qualifier
  compiled : ∀ compiled, outcome = .ok compiled → before.Enlists query compiled after
  failed : ∀ error, outcome = .error error → ∀ entity, Materialized before after entity →
    entity ∈ query.tables ∨ entity ∈ query.mentioned

end Schema.Registry

theorem notingAll_known {entities known : List Entity}
    (members : ∀ entity ∈ entities, entity ∈ known) :
    notingAll entities known = known := by
  induction entities with
  | nil => rfl
  | cons entity rest ih =>
      obtain ⟨member, members⟩ := List.forall_mem_cons.mp members
      have first : noting entity known = known := if_pos member
      exact (congrArg (notingAll rest) first).trans (ih members)

theorem notingAll_new {entities known : List Entity} (distinct : (known ++ entities).Nodup) :
    notingAll entities known = known ++ entities := by
  induction entities generalizing known with
  | nil => exact (List.append_nil known).symm
  | cons entity rest ih =>
      have unknown : entity ∉ known := fun member =>
        (List.nodup_append.mp distinct).2.2 entity member entity List.mem_cons_self rfl
      have first : noting entity known = known ++ [entity] := if_neg unknown
      have step : notingAll (entity :: rest) known = notingAll rest (noting entity known) := rfl
      have moved : (known ++ [entity]) ++ rest = known ++ entity :: rest :=
        List.append_cons .. |>.symm
      rw [step, first, ih (by rwa [moved]), moved]

/-- Steps that use columns of known entities only resolve nothing. -/
theorem Draft.foldl_resolved {next : Draft → Operator → Draft}
    {columns : Operator → List ColumnRef}
    (notes : ∀ draft operator, (next draft operator).resolved =
      notingAll ((columns operator).map ColumnRef.entity) draft.resolved)
    {draft : Draft} {operators : List Operator}
    (within : ∀ operator ∈ operators, AllWithin draft.resolved (columns operator)) :
    (operators.foldl next draft).resolved = draft.resolved := by
  induction operators generalizing draft with
  | nil => rfl
  | cons operator rest ih =>
      obtain ⟨first, following⟩ := List.forall_mem_cons.mp within
      have unchanged : (next draft operator).resolved = draft.resolved := by
        rw [notes]
        exact notingAll_known (List.forall_mem_map.mpr first)
      rw [List.foldl_cons, ih (by rwa [unchanged]), unchanged]

section Resolved

variable {catalog : Catalog} {settings : Settings} {query : Query} {plan : Plan}
  {before after : Draft}

theorem Draft.descendAll_resolved {lookup : Lookup} {operators : List Operator}
    (within : ∀ operator ∈ operators,
      AllWithin before.resolved (operator.descentColumns lookup)) :
    (operators.foldl (Draft.descend lookup) before).resolved = before.resolved :=
  Draft.foldl_resolved (fun _ _ => rfl) within

theorem Draft.ascendAll_resolved {lookup : Lookup} {operators : List Operator}
    (within : ∀ operator ∈ operators,
      AllWithin before.resolved (operator.ascentColumns lookup)) :
    (operators.foldl (Draft.ascend lookup) before).resolved = before.resolved :=
  Draft.foldl_resolved (fun _ _ => rfl) within

/-- Neither walk of an accepted query resolves an entity besides its tables. -/
theorem Query.Walkable.draft_resolved (walkable : query.Walkable catalog.lookup settings) :
    (query.draft catalog.lookup settings).resolved = query.tables := by
  have references := Query.references_iff.mp walkable.references
  have start : noting query.source (notingAll query.tables []) = query.tables := by
    rw [notingAll_new walkable.acceptable.distinct]
    exact if_pos List.mem_cons_self
  have opening : (query.opening catalog.lookup settings).resolved = query.tables := by
    refine (Draft.descendAll_resolved ?_).trans start
    intro operator member
    dsimp only
    rw [start]
    exact (references operator (List.mem_reverse.mp member)).1
  refine (Draft.ascendAll_resolved ?_).trans opening
  intro operator member
  rw [opening]
  exact (references operator member).2.2

theorem Planning.yields_selection_known {projection : Projection} {chosen : Selection}
    (yields : Yields (selection catalog projection) before chosen after)
    (among : chosen.Among catalog.lookup before.resolved) : after.resolved = before.resolved := by
  cases projection with
  | entity selected =>
      obtain ⟨table, _, rfl, rfl⟩ := yields_selectionEntity.mp yields
      exact if_pos among.1
  | property selected property =>
      simp only [selection, yields_bind, yields_column, yields_pure] at yields
      obtain ⟨_, _, ⟨_, _, _, _, _, rfl⟩, rfl, rfl⟩ := yields
      exact notingAll_known (List.forall_mem_singleton.mpr among.1)

/-- Planning that succeeds has resolved the tables of the query, in order, and nothing else. -/
theorem Query.plan_resolved_eq
    (yields : Planning.Yields (Planning.plan catalog query.source query)
      (.ofRoot settings query.source) plan after) :
    after.resolved = query.tables := by
  obtain ⟨walkable, planned, _⟩ := Query.Planned.of_yields yields
  obtain ⟨_, _, chosen, _, selected, rfl⟩ := Planning.yields_plan.mp yields
  have among := walkable.acceptable.selection_among planned.selection
  rw [← walkable.draft_resolved] at among
  exact (Planning.yields_selection_known selected among).trans walkable.draft_resolved

end Resolved

namespace Schema.Registry

section Compilation

variable {catalog : Catalog} {registry : Registry} {settings : Settings} {query : Query}
  {plan : Plan} {draft : Draft}

/-- The tables of a plan are listed as the registry holds them. -/
theorem sources_eq (planned : query.Planned catalog.lookup settings plan)
    (acceptable : query.Acceptable catalog settings) (names : Names catalog registry query) :
    (plan.compiled registry.aliasOf).statement.sources.map some =
      query.tables.map fun entity => (registry.find? entity).map Descriptor.source := by
  obtain ⟨descriptors, held⟩ := exists_map_some names.held
  have sources : (plan.compiled registry.aliasOf).statement.sources =
      plan.tables.map (TableRef.source registry.aliasOf) := by
    simp [Plan.compiled, Plan.statement_eq, Sql.Statement.sources, Plan.tables, PlannedJoin.named,
      Function.comp_def]
  calc (plan.compiled registry.aliasOf).statement.sources.map some
      = (descriptors.map Descriptor.source).map some := by
        rw [sources, (planned.plan_scoped acceptable).sources names.faithful held]
    _ = (query.tables.map registry.find?).map (Option.map Descriptor.source) := by
        rw [held, List.map_map, List.map_map]
        rfl
    _ = query.tables.map fun entity => (registry.find? entity).map Descriptor.source := by
        rw [List.map_map]
        rfl

theorem Reachable.enlists (reachable : Reachable catalog registry)
    (yields : Planning.Yields (Planning.plan catalog query.source query)
      (.ofRoot settings query.source) plan draft) :
    registry.Enlists query (plan.compiled (registry.resolveAll draft.resolved).aliasOf)
      (registry.resolveAll draft.resolved) := by
  obtain ⟨walkable, planned, _⟩ := Query.Planned.of_yields yields
  have acceptable := walkable.acceptable
  have faithful := reachable.faithful
  have ranked : ∀ (rank : Nat) (entity : Entity),
      (registry.unheld query.tables)[rank]? = some entity → ∃ descriptor,
        (registry.resolveAll query.tables).find? entity = some descriptor ∧
          HasRank (registry.size + rank) descriptor.qualifier := fun _ _ =>
    reachable.numbered.resolveAll_ranked faithful acceptable.distinct walkable.tables
  have names : Names catalog (registry.resolveAll query.tables) query :=
    ⟨resolveAll_faithful faithful _, fun entity member =>
      resolveAll_find? faithful member (walkable.tables entity member)⟩
  have listed := sources_eq planned acceptable names
  rw [Query.plan_resolved_eq yields]
  refine {
    materialized := fun _ => materialized_iff faithful walkable.tables
    aliases := ranked
    listed
    cold := ?_ }
  intro empty rank source found
  have position := congrArg (·[rank]?) listed
  simp only [List.getElem?_map, found, Option.map_some] at position
  obtain ⟨entity, table, held⟩ := Option.map_eq_some_iff.mp position.symm
  rw [← unheld_of_isEmpty empty query.tables] at table
  obtain ⟨descriptor, kept, ranked⟩ := ranked rank entity table
  rw [kept] at held
  cases held
  have size : registry.size = 0 := by rw [size, List.isEmpty_iff.mp empty]; rfl
  rwa [size, Nat.zero_add] at ranked

/-- Compiling a query adds the tables of the query to the registry, in their order, and where
it fails nothing but such tables and entities that the operators mention. -/
theorem Reachable.compile_materializes (reachable : Reachable catalog registry)
    (settings : Settings) (query : Query) :
    registry.Materializes query (registry.compile settings query).1
      (registry.compile settings query).2 := by
  rcases planned : query.plan catalog settings query.source with ⟨outcome, draft⟩
  rw [reachable.compile_eq planned]
  refine {
    kept := fun _ _ found => resolveAll_kept _ found
    taken := reachable.numbered.taken
    compiled := ?_
    failed := ?_ }
  · intro compiled succeeds
    cases outcome with
    | error cause => cases succeeds
    | ok plan =>
        cases succeeds
        exact reachable.enlists planned
  · intro error _ entity added
    have resolved := query.plan_resolved catalog settings
    rw [planned] at resolved
    exact List.mem_append.mp (resolved (resolveAll_materialized added))

end Compilation

end Schema.Registry

/-- The sample chain on a registry that holds its joined table already. -/
theorem Sample.query_materializes : ∃ compiled after,
    ((Registry.ofCatalog Sample.catalog).resolve Sample.teams).2.compile {} Sample.query =
        (.ok compiled, after) ∧
      ((Registry.ofCatalog Sample.catalog).resolve Sample.teams).2.Materializes Sample.query
        (.ok compiled) after := by
  obtain ⟨compiled, succeeds⟩ : ∃ compiled,
      (((Registry.ofCatalog Sample.catalog).resolve Sample.teams).2.compile {} Sample.query).1 =
        .ok compiled := ⟨_, rfl⟩
  have reachable : Registry.Reachable Sample.catalog
      ((Registry.ofCatalog Sample.catalog).resolve Sample.teams).2 :=
        .resolve Sample.teams .ofCatalog
  have materializes := reachable.compile_materializes {} Sample.query
  rw [succeeds] at materializes
  exact ⟨compiled, _, Prod.ext succeeds rfl, materializes⟩

end QueryChain
