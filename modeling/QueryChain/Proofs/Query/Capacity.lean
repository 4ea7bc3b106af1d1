import QueryChain.Proofs.Plan.Capacity
import QueryChain.Proofs.Query.Materialization

namespace QueryChain

open Schema

/-! A query compiled under another limit on its parameters.

The limit decides whether a query compiles, and nothing else: not the text, the values or the
shape, and not what is resolved, since the tables of a query are resolved before any value is
bound.
-/

/-- A compiled query with nothing changed but the limit of its parameters. -/
structure Compiled.Alike (compiled other : Compiled) : Prop where
  sql : other.sql = compiled.sql
  parameters : other.parameters.entries = compiled.parameters.entries
  shape : other.shape = compiled.shape

theorem Plan.compiled_alike (plan : Plan) (naming : Naming) (limit : Nat) :
    (plan.compiled naming).Alike ((plan.capped limit).compiled naming) := by
  refine ⟨?_, rfl, rfl⟩
  unfold Compiled.sql Plan.compiled
  rw [Plan.statement_eq, Plan.statement_eq]
  rfl

section Plans

open Planning

variable {catalog : Catalog} {settings : Settings} {query : Query} {plan : Plan} {draft : Draft}
  {limit : Nat}

/-- Where a run resolves nothing, the number of parameters alone decides how it ends under
another limit. -/
theorem Planning.Rerun.outcome {α : Type} {value : α} {before after : Draft}
    {run : Except QueryError α × Draft} (rerun : Rerun limit value before after run)
    (same : before.resolved = after.resolved) :
    run.2.resolved = after.resolved ∧
      (after.parameters.size ≤ limit → run.1 = .ok value) ∧
      (limit < after.parameters.size → run.1 = .error (.usage (.tooManyParameters limit))) := by
  cases rerun with
  | fits room => exact ⟨rfl, fun _ => rfl, fun excess => absurd room (Nat.not_le_of_lt excess)⟩
  | overflows excess first last =>
      refine ⟨?_, fun room => absurd room (Nat.not_le_of_lt excess), fun _ => rfl⟩
      rw [same] at first
      exact last.eq_of_length_le first.length_le

/-- Planning under another limit resolves the tables of the query all the same, and succeeds
or fails by the number of parameters. -/
theorem Query.plan_capped (planned : query.plan catalog settings query.source = (.ok plan, draft))
    (limit : Nat) :
    (query.plan catalog { settings with limit } query.source).2.resolved = draft.resolved ∧
      (plan.parameters.size ≤ limit →
        (query.plan catalog { settings with limit } query.source).1 = .ok (plan.capped limit)) ∧
      (limit < plan.parameters.size →
        (query.plan catalog { settings with limit } query.source).1 =
          .error (.usage (.tooManyParameters limit))) := by
  have resolved : draft.resolved = query.tables := Query.plan_resolved_eq planned
  have distinct := (Query.Planned.of_yields planned).1.acceptable.distinct
  have parameters : plan.parameters = draft.parameters := by
    obtain ⟨_, _, _, _, _, rfl⟩ := yields_plan.mp planned
    rfl
  obtain ⟨middle, tables, rerun⟩ := rerun_plan planned (Nat.zero_le limit)
  obtain ⟨_, rfl⟩ := yields_resolveTables.mp tables
  rw [parameters]
  refine rerun.outcome ?_
  rw [resolved]
  exact notingAll_new distinct

end Plans

namespace Schema.Registry

variable {registry after : Registry} {settings : Settings} {query : Query} {compiled : Compiled}

theorem compile_eq_plan (registry : Registry) (settings : Settings) (query : Query) :
    registry.compile settings query =
      ((query.plan registry.catalog settings query.source).1.map fun plan => plan.compiled
          (registry.resolveAll
            (query.plan registry.catalog settings query.source).2.resolved).aliasOf,
        registry.resolveAll (query.plan registry.catalog settings query.source).2.resolved) :=
  rfl

/-- A query that compiles also compiles under every limit that its parameters keep to, and
alike; under a lower limit it fails for want of room.  The registry ends the same in any case. -/
theorem compile_limited (compiles : registry.compile settings query = (.ok compiled, after))
    (limit : Nat) :
    (compiled.parameters.size ≤ limit → ∃ same,
      registry.compile { settings with limit } query = (.ok same, after) ∧
        compiled.Alike same) ∧
    (limit < compiled.parameters.size → ∃ error,
      registry.compile { settings with limit } query = (.error error, after) ∧
        error = .usage (.tooManyParameters limit) ∧
        error.message = "Usage error: Query needs more than " ++
          toString limit ++ " parameters") := by
  obtain ⟨plan, draft, yields, rfl, rfl⟩ := compile_eq_ok.mp compiles
  obtain ⟨resolved, fits, overflows⟩ := Query.plan_capped yields limit
  rw [compile_eq_plan, resolved]
  refine ⟨?_, ?_⟩
  · intro room
    rw [fits room]
    exact ⟨_, rfl, plan.compiled_alike _ limit⟩
  · intro excess
    rw [overflows excess]
    exact ⟨_, rfl, rfl, rfl⟩

end Schema.Registry

/-- The sample chain has two parameters, for which two are enough and one is not. -/
theorem Sample.query_limited : ∃ compiled after,
    (Registry.ofCatalog Sample.catalog).compile {} Sample.query = (.ok compiled, after) ∧
      compiled.parameters.size = 2 ∧
      (∃ same, (Registry.ofCatalog Sample.catalog).compile { limit := 2 } Sample.query =
        (.ok same, after) ∧ compiled.Alike same) ∧
      ∃ error, (Registry.ofCatalog Sample.catalog).compile { limit := 1 } Sample.query =
          (.error error, after) ∧
        error.message = "Usage error: Query needs more than 1 parameters" := by
  obtain ⟨compiled, succeeds, size⟩ : ∃ compiled,
      ((Registry.ofCatalog Sample.catalog).compile {} Sample.query).1 = .ok compiled ∧
        compiled.parameters.size = 2 := ⟨_, rfl, rfl⟩
  have compiles : (Registry.ofCatalog Sample.catalog).compile {} Sample.query = (.ok compiled, _) :=
    Prod.ext succeeds rfl
  refine ⟨compiled, _, compiles, size, ?_, ?_⟩
  · exact (Registry.compile_limited compiles 2).1 (Nat.le_of_eq size)
  · obtain ⟨error, fails, _, message⟩ := (Registry.compile_limited compiles 1).2 (by omega)
    exact ⟨error, fails, message⟩

end QueryChain
