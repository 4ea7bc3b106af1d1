import QueryChain.Proofs.Query.Template
import QueryChain.Proofs.Schema.Allocation

namespace QueryChain

open Schema

/-! What the past of a registry means for compilation.

A query is planned over the catalog, so that the calls before it decide on the aliases
of its tables and on nothing else.  Once a query has been compiled, all that it
resolves is settled: it is held, or it cannot be resolved at all.  Later calls leave it
so, and compiling the query again changes neither the result nor the registry.
-/

namespace Schema.Registry

/-- The calls that a registry answers. -/
inductive Call where
  | resolve (entity : Entity)
  | compileAt (settings : Settings) (root : Entity) (query : Query)

def call (registry : Registry) : Call → Registry
  | .resolve entity => (registry.resolve entity).2
  | .compileAt settings root query => (registry.compileAt settings root query).2

/-- The registry after some calls, whether they succeed or fail. -/
def run (registry : Registry) (calls : List Call) : Registry := calls.foldl call registry

/-- An entity that is held, or has no table. -/
def Settled (registry : Registry) (entity : Entity) : Prop :=
  (∃ descriptor, registry.find? entity = some descriptor) ∨
    ∃ cause, registry.catalog.table entity = .error cause

/-- Compiling a query leaves the registry as it is and gives what it gave before. -/
def Repeats (registry : Registry) (settings : Settings) (query : Query) (compiled : Compiled) :
    Prop :=
  ∃ again, registry.compile settings query = (.ok again, registry) ∧
    again.sql = compiled.sql ∧
    again.parameters = compiled.parameters ∧ again.shape = compiled.shape

section Settled

variable {registry : Registry} {entity : Entity}

theorem Settled.unchanged (settled : registry.Settled entity) :
    (registry.resolve entity).2 = registry := by
  obtain ⟨_, _, call⟩ | ⟨_, _, _, call⟩ | ⟨table, absent, mapped, _⟩ :=
    registry.resolve_cases entity
  · rw [call]
  · rw [call]
  · rcases settled with ⟨_, held⟩ | ⟨_, unmapped⟩
    · cases absent.symm.trans held
    · cases mapped.symm.trans unmapped

theorem Settled.resolve (settled : registry.Settled entity) (other : Entity) :
    (registry.resolve other).2.Settled entity := by
  rcases settled with ⟨descriptor, held⟩ | ⟨cause, unmapped⟩
  · exact .inl ⟨descriptor, resolve_kept held⟩
  · exact .inr ⟨cause, by rw [resolve_catalog, unmapped]⟩

theorem Settled.resolveAll (settled : registry.Settled entity) (others : List Entity) :
    (registry.resolveAll others).Settled entity := by
  induction others generalizing registry with
  | nil => exact settled
  | cons other rest ih => exact ih (settled.resolve other)

theorem settled_resolve (registry : Registry) (entity : Entity) :
    (registry.resolve entity).2.Settled entity := by
  cases outcome : (registry.resolve entity).1 with
  | ok descriptor => exact .inl ⟨descriptor, resolve_ok outcome⟩
  | error cause =>
      have unmapped := (resolve_error outcome).1
      exact .inr ⟨cause, by rw [resolve_catalog, unmapped]⟩

/-- Resolving entities settles each of them. -/
theorem settled_resolveAll {entities : List Entity} (member : entity ∈ entities) :
    (registry.resolveAll entities).Settled entity := by
  induction entities generalizing registry with
  | nil => cases member
  | cons first rest ih =>
      rcases List.mem_cons.mp member with rfl | later
      · exact (registry.settled_resolve entity).resolveAll rest
      · exact ih later

theorem resolveAll_of_settled {entities : List Entity}
    (settled : ∀ entity ∈ entities, registry.Settled entity) :
    registry.resolveAll entities = registry := by
  induction entities with
  | nil => rfl
  | cons entity rest ih =>
      obtain ⟨first, following⟩ := List.forall_mem_cons.mp settled
      have step : registry.resolveAll (entity :: rest) =
          (registry.resolve entity).2.resolveAll rest :=
        rfl
      rw [step, first.unchanged, ih following]

end Settled

section Runs

variable {catalog : Catalog} {registry : Registry}

/-- A call does no more to a registry than to resolve some entities. -/
theorem call_resolves (registry : Registry) (call : Call) :
    ∃ entities, registry.call call = registry.resolveAll entities := by
  cases call with
  | resolve entity => exact ⟨[entity], rfl⟩
  | compileAt settings root query => exact ⟨_, rfl⟩

theorem run_resolves (registry : Registry) (calls : List Call) :
    ∃ entities, registry.run calls = registry.resolveAll entities := by
  induction calls generalizing registry with
  | nil => exact ⟨[], rfl⟩
  | cons call rest ih =>
      obtain ⟨first, called⟩ := registry.call_resolves call
      obtain ⟨following, ran⟩ := ih (registry.call call)
      refine ⟨first ++ following, ?_⟩
      calc registry.run (call :: rest) = (registry.call call).run rest := rfl
        _ = (registry.resolveAll first).resolveAll following := by rw [ran, called]
        _ = registry.resolveAll (first ++ following) := List.foldl_append.symm

theorem Settled.run {entity : Entity} (settled : registry.Settled entity) (calls : List Call) :
    (registry.run calls).Settled entity := by
  obtain ⟨entities, ran⟩ := registry.run_resolves calls
  rw [ran]
  exact settled.resolveAll entities

theorem Reachable.call (reachable : Reachable catalog registry) (call : Call) :
    Reachable catalog (registry.call call) := by
  cases call with
  | resolve entity => exact reachable.resolve entity
  | compileAt settings root query => exact reachable.compileAt settings root query

theorem Reachable.run (reachable : Reachable catalog registry) (calls : List Call) :
    Reachable catalog (registry.run calls) := by
  induction calls generalizing registry with
  | nil => exact reachable
  | cons call rest ih => exact ih (reachable.call call)

end Runs

section Compilation

variable {catalog : Catalog} {registry : Registry} {settings : Settings} {query : Query}
  {outcome : Except QueryError Plan} {draft : Draft}

/-- Planning does not look at a registry, only at its catalog. -/
theorem Reachable.compile_eq (reachable : Reachable catalog registry)
    (planned : query.plan catalog settings query.source = (outcome, draft)) :
    registry.compile settings query =
      (outcome.map fun plan => plan.compiled (registry.resolveAll draft.resolved).aliasOf,
        registry.resolveAll draft.resolved) := by
  rw [Registry.compile, Registry.compileAt, reachable.faithful.catalog_eq, planned]

/-- A query that has settled all that it resolves finds the registry as it leaves it. -/
theorem Reachable.compile_settled (reachable : Reachable catalog registry)
    (planned : query.plan catalog settings query.source = (outcome, draft))
    (settled : ∀ entity ∈ draft.resolved, registry.Settled entity) :
    registry.compile settings query =
      (outcome.map fun plan => plan.compiled registry.aliasOf, registry) := by
  have compiles := reachable.compile_eq planned
  rwa [resolveAll_of_settled settled] at compiles

theorem aliasOf_run {entity : Entity}
    (held : ∃ descriptor, registry.find? entity = some descriptor)
    (calls : List Call) : (registry.run calls).aliasOf entity = registry.aliasOf entity := by
  obtain ⟨descriptor, found⟩ := held
  obtain ⟨entities, ran⟩ := registry.run_resolves calls
  have kept : (registry.run calls).find? entity = some descriptor := by
    rw [ran]
    exact resolveAll_kept entities found
  rw [aliasOf, aliasOf, found, kept]

/-- What compiling a query comes to is decided by the catalog: one error, or one template
that every registry fills with the aliases it holds after the call, then and ever after. -/
theorem compile_independent (catalog : Catalog) (settings : Settings) (query : Query) :
    (∃ cause, ∀ registry, Reachable catalog registry →
      (registry.compile settings query).1 = .error cause) ∨
    ∃ template : Template, template.Within query.tables ∧
      ∀ registry, Reachable catalog registry → ∃ compiled after,
        registry.compile settings query = (.ok compiled, after) ∧
        (∀ entity ∈ query.tables, ∃ descriptor, after.find? entity = some descriptor) ∧
        template.Fills after.aliasOf compiled ∧
        ∀ calls, (after.run calls).Repeats settings query compiled := by
  rcases planned : query.plan catalog settings query.source with ⟨outcome, draft⟩
  cases outcome with
  | error cause =>
      refine .inl ⟨cause, ?_⟩
      intro registry reachable
      rw [reachable.compile_eq planned]
      rfl
  | ok plan =>
      obtain ⟨walkable, described, resolved⟩ := Query.Planned.of_yields planned
      have acceptable := walkable.acceptable
      obtain ⟨template, within, filled⟩ := (described.plan_scoped acceptable).template
      refine .inr ⟨template, within, ?_⟩
      intro registry reachable
      have compiles := reachable.compile_eq planned
      have following := reachable.compile settings query
      rw [compiles] at following
      have held : ∀ entity ∈ query.tables, ∃ descriptor,
          (registry.resolveAll draft.resolved).find? entity = some descriptor := by
        intro entity member
        exact resolveAll_find? reachable.faithful (resolved entity member)
          (walkable.tables entity member)
      have settled : ∀ entity ∈ draft.resolved,
          (registry.resolveAll draft.resolved).Settled entity :=
        fun _ member => settled_resolveAll member
      refine ⟨_, _, compiles, held, filled _, ?_⟩
      intro calls
      have recompiles := (following.run calls).compile_settled planned fun entity member =>
        (settled entity member).run calls
      have same := fun entity member => (aliasOf_run (held entity member) calls).symm
      exact ⟨_, recompiles, (filled _).congr within same (filled _)⟩

end Compilation

end Schema.Registry

/-- The sample chain compiles, whatever a registry was used for. -/
theorem Sample.query_template :
    ∃ template : Template, template.Within Sample.query.tables ∧
      ∀ registry, Registry.Reachable Sample.catalog registry → ∃ compiled after,
        registry.compile {} Sample.query = (.ok compiled, after) ∧
        template.Fills after.aliasOf compiled ∧
        ∀ calls, (after.run calls).Repeats {} Sample.query compiled := by
  rcases Registry.compile_independent Sample.catalog {} Sample.query with
    ⟨cause, fails⟩ | compiles
  · obtain ⟨compiled, after, succeeds⟩ := Sample.query_compiles
    have failed := fails _ .ofCatalog
    rw [succeeds] at failed
    cases failed
  · obtain ⟨template, within, filled⟩ := compiles
    refine ⟨template, within, ?_⟩
    intro registry reachable
    obtain ⟨compiled, after, succeeds, _, fills, repeats⟩ := filled registry reachable
    exact ⟨compiled, after, succeeds, fills, repeats⟩

end QueryChain
