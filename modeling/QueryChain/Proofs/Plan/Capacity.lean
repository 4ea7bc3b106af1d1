import QueryChain.Proofs.Plan.Alignment
import QueryChain.Proofs.Plan.Walk

namespace QueryChain

open Json Schema

/-! Planning under another limit on the parameters.

A computation that succeeds is run again under another limit.  If the parameters bound in the
end are within that limit, the second run ends as the first one, and if not, it stops at the
first value that finds no room: nothing but the binding of a value looks at the limit.  The
draft where it stops has resolved what the first run had resolved by then.
-/

namespace Draft

/-- A draft under another limit. -/
def capped (limit : Nat) (draft : Draft) : Draft :=
  { draft with parameters := { draft.parameters with limit } }

/-- What a draft has bound and resolved stays. -/
structure Extends (before after : Draft) : Prop where
  size : before.parameters.size ≤ after.parameters.size
  resolved : before.resolved <+: after.resolved

variable {before middle after : Draft}

theorem Extends.refl : before.Extends before := ⟨Nat.le_refl _, List.prefix_refl _⟩

theorem Extends.trans (first : before.Extends middle) (second : middle.Extends after) :
    before.Extends after :=
  ⟨Nat.le_trans first.size second.size, first.resolved.trans second.resolved⟩

end Draft

theorem noting_extends (entity : Entity) (noted : List Entity) : noted <+: noting entity noted := by
  unfold noting
  split
  · exact List.prefix_refl _
  · exact List.prefix_append ..

theorem notingAll_extends (entities noted : List Entity) : noted <+: notingAll entities noted := by
  induction entities generalizing noted with
  | nil => exact List.prefix_refl _
  | cons entity rest ih => exact (noting_extends entity noted).trans (ih _)

/-- A plan under another limit. -/
def Plan.capped (limit : Nat) (plan : Plan) : Plan :=
  { plan with parameters := { plan.parameters with limit } }

namespace Planning

variable {α β : Type} {limit : Nat} {before middle after : Draft}

/-- How a computation ends under another limit, where under its own it leads from one draft to
another. -/
inductive Rerun (limit : Nat) (value : α) (before after : Draft) :
    Except QueryError α × Draft → Prop where
  | fits (room : after.parameters.size ≤ limit) :
      Rerun limit value before after (.ok value, after.capped limit)
  | overflows {reached : Draft} (excess : limit < after.parameters.size)
      (first : before.resolved <+: reached.resolved) (last : reached.resolved <+: after.resolved) :
      Rerun limit value before after (.error (.usage (.tooManyParameters limit)), reached)

/-- A computation that depends on the limit only through the values it binds; `alter` is what
the limit changes in its result. -/
structure Capped (limit : Nat) (alter : α → α) (computation : Planning α) : Prop where
  grows : ∀ {before value after}, Yields computation before value after → before.Extends after
  rerun : ∀ {before value after}, Yields computation before value after →
    before.parameters.size ≤ limit →
      Rerun limit (alter value) before after (computation.run.run (before.capped limit))

theorem Rerun.earlier {value : α} {run : Except QueryError α × Draft}
    (rerun : Rerun limit value middle after run) (resolved : before.resolved <+: middle.resolved) :
    Rerun limit value before after run := by
  cases rerun with
  | fits room => exact .fits room
  | overflows excess first last => exact .overflows excess (resolved.trans first) last

namespace Capped

variable {alter : β → β} {first : Planning α} {next : α → Planning β}

theorem pure {value : α} : Capped limit id (pure value) := by
  refine ⟨?_, ?_⟩
  · intro before result after yields
    obtain ⟨_, rfl⟩ := yields_pure.mp yields
    exact .refl
  · intro before result after yields room
    obtain ⟨rfl, rfl⟩ := yields_pure.mp yields
    exact .fits room

theorem throw {cause : QueryError} : Capped limit alter (throw cause) :=
  ⟨fun yields => absurd yields yields_throw, fun yields => absurd yields yields_throw⟩

theorem bind (capped : Capped limit id first)
    (continues : ∀ value, Capped limit alter (next value)) :
    Capped limit alter (first >>= next) := by
  refine ⟨?_, ?_⟩
  · intro before result after yields
    obtain ⟨value, middle, start, rest⟩ := yields_bind.mp yields
    exact (capped.grows start).trans ((continues value).grows rest)
  · intro before result after yields room
    obtain ⟨value, middle, start, rest⟩ := yields_bind.mp yields
    have later := (continues value).grows rest
    have rerun := capped.rerun start room
    rcases run : first.run.run (before.capped limit) with ⟨outcome, reached⟩
    rw [run] at rerun
    cases rerun with
    | overflows excess known unresolved =>
        -- The second run is over, and the rest of the first binds and resolves only more.
        rw [run_bind_error run]
        exact .overflows (Nat.lt_of_lt_of_le excess later.size) known
          (unresolved.trans later.resolved)
    | fits roomToo =>
        rw [run_bind_ok run]
        exact ((continues value).rerun rest roomToo).earlier (capped.grows start).resolved

/-- Whatever a computation returns, its result is wrapped. -/
theorem map {wrap : α → β} (capped : Capped limit id first) :
    Capped limit id (do return wrap (← first)) :=
  bind capped fun _ => pure

/-- A computation that binds no value and runs alike under every limit. -/
theorem of_yields (quiet : ∀ {before value after}, Yields first before value after →
    before.resolved <+: after.resolved ∧ after.parameters.size = before.parameters.size ∧
      Yields first (before.capped limit) value (after.capped limit)) :
    Capped limit id first := by
  refine ⟨?_, ?_⟩
  · intro before result after yields
    obtain ⟨resolved, size, _⟩ := quiet yields
    exact ⟨Nat.le_of_eq size.symm, resolved⟩
  · intro before result after yields room
    obtain ⟨_, size, again⟩ := quiet yields
    unfold Yields at again
    rw [again]
    exact .fits (size ▸ room)

theorem settle {outcome : Except QueryError α} : Capped limit id (settle outcome) := by
  refine of_yields ?_
  intro before value after yields
  obtain ⟨rfl, rfl⟩ := yields_settle.mp yields
  exact ⟨List.prefix_refl _, rfl, rfl⟩

theorem modify {change : Draft → Draft}
    (resolved : ∀ draft : Draft, draft.resolved <+: (change draft).resolved)
    (size : ∀ draft : Draft, (change draft).parameters.size = draft.parameters.size)
    (commutes : ∀ draft : Draft, change (draft.capped limit) = (change draft).capped limit) :
    Capped limit id (modify change) := by
  refine of_yields ?_
  intro before value after yields
  cases yields_modify.mp yields
  exact ⟨resolved before, size before, yields_modify.mpr (commutes before).symm⟩

/-- A look at what does not depend on the limit. -/
theorem get {next : Draft → Planning β}
    (same : ∀ draft : Draft, next (draft.capped limit) = next draft)
    (continues : ∀ draft, Capped limit alter (next draft)) :
    Capped limit alter (get >>= next) := by
  refine ⟨?_, ?_⟩
  · intro before result after yields
    obtain ⟨_, _, looked, rest⟩ := yields_bind.mp yields
    obtain ⟨rfl, rfl⟩ := yields_get.mp looked
    exact (continues _).grows rest
  · intro before result after yields room
    obtain ⟨_, _, looked, rest⟩ := yields_bind.mp yields
    obtain ⟨rfl, rfl⟩ := yields_get.mp looked
    rw [run_bind_ok run_get, same]
    exact (continues _).rerun rest room

/-- A result that is put together from the draft. -/
theorem build {result : Draft → β}
    (commutes : ∀ draft : Draft, result (draft.capped limit) = alter (result draft)) :
    Capped limit alter (do return result (← MonadState.get)) := by
  refine ⟨?_, ?_⟩
  · intro before value after yields
    obtain ⟨_, _, looked, built⟩ := yields_bind.mp yields
    obtain ⟨rfl, rfl⟩ := yields_get.mp looked
    obtain ⟨_, rfl⟩ := yields_pure.mp built
    exact .refl
  · intro before value after yields room
    obtain ⟨_, _, looked, built⟩ := yields_bind.mp yields
    obtain ⟨rfl, rfl⟩ := yields_get.mp looked
    obtain ⟨rfl, rfl⟩ := yields_pure.mp built
    rw [run_bind_ok run_get, commutes]
    exact .fits room

end Capped

section Quiet

variable {catalog : Catalog} {expr : Expr} {operator : Operator}

theorem capped_resolve (entity : Entity) : Capped limit id (resolve catalog entity) := by
  refine .of_yields ?_
  intro before table after yields
  obtain ⟨held, rfl⟩ := yields_resolve.mp yields
  exact ⟨noting_extends .., rfl, yields_resolve.mpr ⟨held, rfl⟩⟩

theorem capped_column (entity : Entity) (property : String) :
    Capped limit id (column catalog entity property) := by
  refine .of_yields ?_
  intro before found after yields
  obtain ⟨table, selected, held, mapped, same, rfl⟩ := yields_column.mp yields
  exact ⟨notingAll_extends .., by simp,
    yields_column.mpr ⟨table, selected, held, mapped, same, rfl⟩⟩

theorem capped_columnOr (cause : MalformedQuery) :
    Capped limit id (columnOr catalog expr cause) := by
  unfold columnOr
  cases expr.column? with
  | none => exact .throw
  | some member => exact capped_column ..

theorem capped_requireUnlimited (name : String) : Capped limit id (requireUnlimited name) := by
  refine .of_yields ?_
  intro before result after yields
  obtain ⟨unlimited, rfl⟩ := yields_requireUnlimited.mp yields
  exact ⟨List.prefix_refl _, rfl, yields_requireUnlimited.mpr ⟨unlimited, rfl⟩⟩

theorem capped_onOutline (call : Outline → Except UsageError Unit × Outline) :
    Capped limit id (onOutline call) := by
  refine .of_yields ?_
  intro before result after yields
  obtain ⟨outline, called, rfl⟩ := yields_onOutline.mp yields
  exact ⟨List.prefix_refl _, rfl, yields_onOutline.mpr ⟨outline, called, rfl⟩⟩

theorem capped_descend : Capped limit id (descend catalog operator) := by
  refine .of_yields ?_
  intro before result after yields
  obtain ⟨resolves, rfl⟩ := yields_descend.mp yields
  exact ⟨notingAll_extends .., by simp [Draft.descend, Draft.record, Sql.Parameters.size],
    yields_descend.mpr ⟨resolves, rfl⟩⟩

theorem capped_join {inner : Entity} {outerKey innerKey : Lambda} :
    Capped limit id (join catalog inner outerKey innerKey) := by
  refine .of_yields ?_
  intro before result after yields
  obtain ⟨absent, planned, resolved, member, same, rfl⟩ := yields_join.mp yields
  exact ⟨notingAll_extends .., by simp [Draft.record, Sql.Parameters.size],
    yields_join.mpr ⟨absent, planned, resolved, member, same, rfl⟩⟩

theorem capped_checkReferences : Capped limit id checkReferences := by
  refine .of_yields ?_
  intro before result after yields
  obtain ⟨members, rfl⟩ := yields_checkReferences.mp yields
  exact ⟨List.prefix_refl _, rfl, yields_checkReferences.mpr ⟨members, rfl⟩⟩

theorem capped_selection (projection : Projection) :
    Capped limit id (selection catalog projection) := by
  cases projection with
  | entity entity => exact (capped_resolve entity).map
  | property entity property => exact (capped_column entity property).map

end Quiet

section Values

variable {catalog : Catalog} {expr : Expr}

/-- A value finds room under the other limit, or the computation stops there. -/
theorem capped_bindValue (value : Value) : Capped limit id (bindValue value) := by
  cases known : value.isNull with
  | true =>
      rw [bindValue, if_pos known]
      exact .pure
  | false =>
      refine ⟨?_, ?_⟩
      · intro before operand after yields
        unfold Yields at yields
        rw [run_bindValue known] at yields
        split at yields <;> cases yields
        exact ⟨by simp [Sql.Parameters.size], List.prefix_refl _⟩
      · intro before operand after yields room
        unfold Yields at yields
        rw [run_bindValue known] at yields ⊢
        split at yields <;> cases yields
        split
        · rename_i small
          refine .fits ?_
          simpa [Draft.capped, Sql.Parameters.size, Nat.add_one_le_iff] using small
        · rename_i full
          refine .overflows ?_ (List.prefix_refl _) (List.prefix_refl _)
          simpa [Draft.capped, Sql.Parameters.size, Nat.lt_succ_iff] using full

theorem capped_bindValues (values : List Value) : Capped limit id (bindValues values) := by
  induction values with
  | nil => exact .pure
  | cons value rest ih =>
      refine .bind (capped_bindValue value) ?_
      intro _
      exact ih.map

theorem capped_foldedCondition : Capped limit id (foldedCondition expr) := by
  unfold foldedCondition
  split
  · exact capped_bindValue _
  · exact .throw

theorem capped_operand : Capped limit id (operand catalog expr) := by
  cases expr with
  | member target name =>
      unfold operand
      dsimp only
      split
      · exact (capped_column ..).map
      · exact .bind .settle capped_bindValue
  | constant value => exact capped_bindValue value
  | captured name value => exact capped_bindValue value
  | parameter _ | array _ => exact .throw
  | hasValue _ | compare _ _ _ | connect _ _ _ | not _ | stringMatch _ _ _
  | collectionContains _ _ | isNullOrEmpty _ => exact capped_foldedCondition

theorem capped_knownCondition {negated : Bool} : Capped limit id (knownCondition expr negated) := by
  refine .bind .settle ?_
  intro value
  cases value.asBool? with
  | none => exact .throw
  | some flag => exact .pure

theorem capped_flagCondition {entity : Entity} {property : String} {negated : Bool} :
    Capped limit id (flagCondition catalog entity property negated) := by
  refine .bind (capped_column ..) ?_
  intro column
  split
  · exact .pure
  · exact .throw

/-- The induction follows the recursion of the lowering. -/
theorem capped_condition (catalog : Catalog) :
    (expr : Expr) → (negated : Bool) → Capped limit id (condition catalog expr negated)
  | .not operand, negated => capped_condition catalog operand (!negated)
  | .connect op left right, negated => by
      refine .bind (capped_condition catalog left false) ?_
      intro _
      exact (capped_condition catalog right false).map
  | .compare op left right, negated => by
      refine .bind capped_operand ?_
      intro _
      exact capped_operand.map
  | .member target name, negated => by
      unfold condition
      split
      · exact capped_flagCondition
      · exact capped_knownCondition
  | .constant value, negated => capped_knownCondition
  | .captured name value, negated => capped_knownCondition
  | .hasValue operand, negated => (capped_columnOr _).map
  | .isNullOrEmpty operand, negated => (capped_columnOr _).map
  | .stringMatch op target value, negated => by
      refine .bind (capped_columnOr _) ?_
      intro _
      exact capped_operand.map
  | .collectionContains collection item, negated => by
      refine .bind (capped_columnOr _) ?_
      intro _
      refine .bind .settle ?_
      intro values
      cases values with
      | nil => exact .pure
      | cons value rest => exact (capped_bindValues _).map
  | .parameter param, negated => .throw
  | .array items, negated => .throw

theorem capped_addCondition (predicate : Lambda) :
    Capped limit id (addCondition catalog predicate) := by
  refine .bind (capped_condition catalog predicate.body false) ?_
  intro condition
  exact .modify (fun _ => List.prefix_refl _) (fun _ => rfl) (fun _ => rfl)

end Values

section Plans

variable {catalog : Catalog}

theorem capped_ascend (operator : Operator) : Capped limit id (ascend catalog operator) := by
  cases operator with
  | filter predicate =>
      exact .bind (capped_requireUnlimited _) fun _ => capped_addCondition predicate
  | select projector => exact .pure
  | join inner outerKey innerKey => exact .bind (capped_requireUnlimited _) fun _ => capped_join
  | orderBy key direction => exact capped_requireUnlimited _
  | take count => exact .bind .settle fun _ => capped_onOutline _
  | skip count => exact .bind .settle fun _ => capped_onOutline _
  | distinct => exact .bind (capped_requireUnlimited _) fun _ => capped_onOutline _
  | first predicate mode =>
      cases predicate with
      | none =>
          rw [ascend]
          exact capped_onOutline _
      | some predicate =>
          refine .bind (capped_requireUnlimited _) ?_
          intro _
          exact .bind (capped_addCondition predicate) fun _ => capped_onOutline _

theorem capped_walk {step : Operator → Planning Unit}
    (steps : ∀ operator, Capped limit id (step operator)) (operators : List Operator) :
    Capped limit id (walk step operators) := by
  induction operators with
  | nil => exact .pure
  | cons operator rest ih => exact .bind (steps operator) fun _ => ih

/-- What planning does once the tables of a query are resolved: a plan that succeeds is the
same under another limit, or is not reached for want of room. -/
theorem rerun_plan {query : Query} {plan : Plan}
    (yields : Yields (Planning.plan catalog query.source query) before plan after)
    (room : before.parameters.size ≤ limit) :
    ∃ middle, Yields (resolveTables catalog query.tables) before ⟨⟩ middle ∧
      Rerun limit (plan.capped limit) middle after
        ((Planning.plan catalog query.source query).run.run (before.capped limit)) := by
  unfold Planning.plan at yields ⊢
  rw [if_neg (by simp)] at yields ⊢
  obtain ⟨_, middle, tables, rest⟩ := yields_bind.mp yields
  obtain ⟨mapped, rfl⟩ := yields_resolveTables.mp tables
  have again : Yields (resolveTables catalog query.tables) (before.capped limit) ⟨⟩
      (Draft.capped limit { before with resolved := notingAll query.tables before.resolved }) :=
    yields_resolveTables.mpr ⟨mapped, rfl⟩
  -- Both runs resolve the tables, so that the second goes on from the same draft but for the limit.
  refine ⟨_, tables, ?_⟩
  rw [run_bind_ok again]
  refine Capped.rerun ?_ rest room
  refine .bind (capped_resolve _) fun source => ?_
  refine .bind (capped_walk (fun _ => capped_descend) _) fun _ => ?_
  refine .bind (capped_walk capped_ascend _) fun _ => ?_
  refine .bind capped_checkReferences fun _ => ?_
  refine .get (fun _ => rfl) fun draft => ?_
  refine .bind (capped_selection _) fun selection => ?_
  exact .build fun _ => rfl

end Plans

end Planning

end QueryChain
