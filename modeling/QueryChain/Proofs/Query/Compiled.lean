import QueryChain.Proofs.Plan.Statement
import QueryChain.Proofs.Query.Planned
import QueryChain.Proofs.Schema.Reachable

namespace QueryChain

open Schema

/-! What a successful compilation comes from: a plan over the catalog, written with
the aliases of a registry in which every table of the query has one.
-/

/-- A registry that holds the tables of a query as the catalog describes them. -/
structure Names (catalog : Catalog) (registry : Registry) (query : Query) : Prop where
  faithful : registry.Faithful catalog
  held : ∀ entity ∈ query.tables, ∃ descriptor, registry.find? entity = some descriptor

namespace Schema.Registry

open Planning

variable {catalog : Catalog} {registry after : Registry} {settings : Settings} {query : Query}
  {compiled : Compiled}

theorem compile_eq_ok :
    registry.compile settings query = (.ok compiled, after) ↔
      ∃ plan draft, Yields (Planning.plan registry.catalog query.source query)
          (.ofRoot settings query.source) plan draft ∧
        after = registry.resolveAll draft.resolved ∧ compiled = plan.compiled after.aliasOf := by
  unfold compile compileAt Query.plan Yields
  generalize (Planning.plan registry.catalog query.source query).run.run
    (.ofRoot settings query.source) = reached
  obtain ⟨outcome, draft⟩ := reached
  refine ⟨?_, ?_⟩
  · intro run
    cases outcome with
    | error cause => cases run
    | ok plan =>
        cases run
        exact ⟨plan, draft, rfl, rfl, rfl⟩
  · intro planned
    obtain ⟨_, _, same, rfl, rfl⟩ := planned
    cases same
    rfl

theorem exists_compile_eq_ok :
    (∃ compiled, (registry.compile settings query).1 = .ok compiled) ↔
      query.Walkable registry.catalog.lookup settings := by
  refine ⟨?_, ?_⟩
  · intro compiles
    obtain ⟨compiled, succeeds⟩ := compiles
    obtain ⟨plan, draft, yields, _⟩ := compile_eq_ok.mp (Prod.ext succeeds rfl)
    exact (Query.Planned.of_yields yields).1
  · intro walkable
    obtain ⟨plan, draft, yields, _⟩ := walkable.plan
    exact ⟨_, congrArg Prod.fst (compile_eq_ok.mpr ⟨plan, draft, yields, rfl, rfl⟩)⟩

/-- The plan behind a compiled query, and the registry that names its columns. -/
theorem Reachable.compiled_planned (reachable : Reachable catalog registry)
    (compiles : registry.compile settings query = (.ok compiled, after)) :
    ∃ plan, query.Walkable catalog.lookup settings ∧
      query.Planned catalog.lookup settings plan ∧
      compiled = plan.compiled after.aliasOf ∧ Names catalog after query := by
  obtain ⟨plan, draft, yields, rfl, rfl⟩ := compile_eq_ok.mp compiles
  have faithful := reachable.faithful
  rw [faithful.catalog_eq] at yields
  obtain ⟨walkable, planned, resolved⟩ := Query.Planned.of_yields yields
  refine ⟨plan, walkable, planned, rfl, ⟨resolveAll_faithful faithful _, ?_⟩⟩
  intro entity member
  exact resolveAll_find? faithful (resolved entity member) (walkable.tables entity member)

end Schema.Registry

/-- The predicate of a statement is written from the readings of a query. -/
theorem Query.Planned.predicate {lookup : Lookup} {settings : Settings}
    {query : Query} {plan : Plan}
    (planned : query.Planned lookup settings plan) (naming : Naming) :
    (plan.statement naming).predicate = Sql.conjunctionTokens
      ((conditionsFrom settings.stem 0 (query.readings lookup)).map
        (Sql.Condition.map (ColumnRef.reference naming))) := by
  rw [← planned.conditions]
  exact congrArg Sql.Statement.predicate (plan.statement_eq naming)

/-! A sample: three players that are not called Ada, with one of two teams. -/

namespace Sample

open Json

def players : Entity := ⟨"Player"⟩

def teams : Entity := ⟨"Team"⟩

def catalog : Catalog :=
  ⟨[(players,
      (((Mapping.onto "Player").withKey "Id" .integer).withColumn "Name" .text).withNullable
        "TeamId" .integer),
    (teams, (Mapping.onto "Team").withKey "TeamId" .integer)]⟩

def player : Param := ⟨"p", players⟩

def team : Param := ⟨"t", teams⟩

def query : Query :=
  ⟨players,
    [.join teams ⟨[player], .field player "TeamId"⟩ ⟨[team], .field team "TeamId"⟩,
      .filter ⟨[player],
        .not (.compare .eq (.field player "Name") (.captured "name" (.string "Ada")))⟩,
      .filter ⟨[team], .collectionContains (.constant (.array [.null, .number (.int 7)]))
        (.field team "TeamId")⟩,
      .orderBy ⟨[player], .field player "Id"⟩ .descending,
      .take (.constant (.number (.int 3)))]⟩

theorem query_compiles : ∃ compiled after,
    (Registry.ofCatalog catalog).compile {} query = (.ok compiled, after) := by
  obtain ⟨compiled, succeeds⟩ : ∃ compiled,
      ((Registry.ofCatalog catalog).compile {} query).1 = .ok compiled := ⟨_, rfl⟩
  exact ⟨compiled, _, Prod.ext succeeds rfl⟩

end Sample

end QueryChain
