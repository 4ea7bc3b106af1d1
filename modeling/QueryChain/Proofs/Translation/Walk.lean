import QueryChain.Proofs.Translation.Conditions

namespace QueryChain

open Schema

/-! Whole translations in lockstep with plans.

The two walks, the check of what is mentioned and the selection do the same on both sides, so a
translation ends as the compilation of a plan does: with one result or error, and one registry.
-/

theorem Schema.Registry.Spells.both {β γ δ : Type}
    {registry : Registry} (wrap : β → γ → δ)
    {spelled : Naming → β} {spelledToo : Naming → γ} {value : β} {other : γ}
    (spells : registry.Spells spelled value) (spellsToo : registry.Spells spelledToo other) :
    registry.Spells (fun naming => wrap (spelled naming) (spelledToo naming)) (wrap value other) :=
  fun later grows => congrArg₂ wrap (spells later grows) (spellsToo later grows)

namespace Translating

variable {catalog : Catalog} {start world : Registry} {ahead : Writing}

theorem follows_projection (faithful : start.Faithful catalog) (projector : Lambda) :
    Follows start world ahead (fun _ => ahead) (fun value _ => value)
      (Planning.projection catalog projector) (projection projector) := by
  unfold Planning.projection projection
  cases projector.body with
  | parameter param => exact .bind follows_noteReference fun _ _ _ _ _ => .pure rfl (.const _)
  | member target name =>
      dsimp only
      cases (Expr.member target name).column? with
      | none => exact .throw
      | some member =>
          refine .bind (follows_column faithful) ?_
          intro _ found named _ spells
          rw [← spells.now]
          exact .pure rfl (.const _)
  | hasValue _ | constant _ | captured _ _ | array _ | compare _ _ _ | connect _ _ _ | not _
  | stringMatch _ _ _ | collectionContains _ _ | isNullOrEmpty _ => exact .throw

theorem follows_descend (faithful : start.Faithful catalog) (operator : Operator) :
    Follows start world ahead (fun _ => ahead) (fun _ _ => ())
      (Planning.descend catalog operator) (descend operator) := by
  cases operator with
  | select projector =>
      refine .bind (follows_projection faithful projector) ?_
      intro _ projection _ _ same
      cases same.now
      exact .modify (fun _ => rfl) fun _ _ _ shows =>
        { shows with outline := congrArg (·.select projection) shows.outline }
  | orderBy key direction =>
      refine .bind (follows_columnOr faithful) ?_
      intro reached found named _ spells
      refine .modify (fun _ => rfl) ?_
      intro draft translation grows shows
      exact { shows with
        order := ((spells.later grows).reference.map
          (Sql.SortKey.mk · (direction = .descending))).both List.cons shows.order }
  | filter _ | join _ _ _ | take _ | skip _ | distinct | first _ _ => exact .pure rfl (.const _)

theorem follows_join (faithful : start.Faithful catalog) (inner : Entity)
    (outerKey innerKey : Lambda) :
    Follows start world ahead (fun _ => ahead) (fun _ _ => ())
      (Planning.join catalog inner outerKey innerKey) (join inner outerKey innerKey) := by
  refine .look fun draft translation _ shows => ?_
  rw [shows.tables]
  refine .guarded (.bind (follows_columnOr faithful) ?_)
  intro _ left namedLeft _ spellsLeft
  have sameLeft : namedLeft.entity = left.entity :=
    congrArg NamedColumn.entity spellsLeft.now.symm
  rw [sameLeft]
  refine .guarded (.bind (follows_resolve faithful) ?_)
  intro _ table found grows spellsTable
  refine .bind (follows_columnOr faithful) ?_
  intro _ right namedRight growsToo spellsRight
  have sameRight : namedRight.entity = right.entity :=
    congrArg NamedColumn.entity spellsRight.now.symm
  rw [sameRight]
  refine .guarded (.modify (fun _ => rfl) ?_)
  intro draft translation growsOn shows
  have added : translation.registry.Spells
    (PlannedJoin.named · ⟨⟨inner, table⟩, left, right⟩)
      ⟨⟨found.table.name, found.qualifier⟩, namedLeft.reference, namedRight.reference⟩ := by
    intro later further
    have growsAll := growsOn.trans further
    rw [← spellsTable later (growsToo.trans growsAll), ← spellsRight.reference later growsAll,
      ← spellsLeft.reference later ((grows.trans growsToo).trans growsAll)]
    rfl
  refine { shows with tables := congrArg (· ++ [inner]) shows.tables, joins := ?_ }
  intro later further
  have both := shows.joins.both (fun joins join => joins ++ [join]) added later further
  simpa only [Sql.Writer.join, List.map_append, List.map_singleton] using both

theorem follows_ascend (faithful : start.Faithful catalog) (operator : Operator) :
    Follows start world (fun _ => []) (fun _ _ => []) (fun _ _ => ())
      (Planning.ascend catalog operator) (ascend operator) := by
  cases operator with
  | filter predicate =>
      exact .bind follows_requireUnlimited fun _ _ _ _ _ => follows_addCondition faithful predicate
  | select _ => exact .pure rfl (.const _)
  | join inner outerKey innerKey =>
      exact .bind follows_requireUnlimited fun _ _ _ _ _ =>
        follows_join faithful inner outerKey innerKey
  | orderBy _ _ => exact follows_requireUnlimited
  | take count | skip count =>
      refine .bind .settle ?_
      intro _ number _ _ same
      cases same.now
      exact follows_onOutline
  | distinct => exact .bind follows_requireUnlimited fun _ _ _ _ _ => follows_onOutline
  | first predicate mode =>
      cases predicate with
      | none =>
          rw [Planning.ascend, ascend]
          exact follows_onOutline
      | some predicate =>
          refine .bind follows_requireUnlimited ?_
          intro _ _ _ _ _
          exact .bind (follows_addCondition faithful predicate) fun _ _ _ _ _ => follows_onOutline

theorem follows_walk {step : Operator → Planning Unit} {stepToo : Operator → Translating Unit}
    (follows : ∀ world operator, Follows start world ahead (fun _ => ahead) (fun _ _ => ())
      (step operator) (stepToo operator)) (operators : List Operator) :
    Follows start world ahead (fun _ => ahead) (fun _ _ => ())
      (Planning.walk step operators) (walk stepToo operators) := by
  induction operators generalizing world with
  | nil => exact .pure rfl (.const _)
  | cons operator rest ih => exact .bind (follows world operator) fun _ _ _ _ _ => ih

theorem follows_resolveTables (faithful : start.Faithful catalog) (entities : List Entity) :
    Follows start world ahead (fun _ => ahead) (fun _ _ => ())
      (Planning.resolveTables catalog entities) (resolveTables entities) := by
  induction entities generalizing world with
  | nil => exact .pure rfl (.const _)
  | cons entity rest ih => exact .bind (follows_resolve faithful) fun _ _ _ _ _ => ih

theorem follows_checkReferences :
    Follows start world ahead (fun _ => ahead) (fun _ _ => ())
      Planning.checkReferences checkReferences := by
  refine .look fun draft translation _ shows => ?_
  rw [shows.referenced, shows.tables]
  cases draft.referenced.find? fun entity => entity ∉ draft.tables with
  | none => exact .pure rfl (.const _)
  | some entity => exact .throw

theorem follows_selection (faithful : start.Faithful catalog) (projection : Projection) :
    Follows start world ahead (fun _ => ahead)
      (fun selection naming =>
        (selection.columns.map (·.reference naming), selection.shape naming))
      (Planning.selection catalog projection) (selection projection) := by
  cases projection with
  | entity entity =>
      refine .bind (follows_resolve faithful) ?_
      intro _ table found _ spells
      refine .pure rfl ?_
      intro later grows
      rw [← spells later grows]
      simp [Selection.columns, Selection.shape, TableRef.columns, ColumnRef.reference,
        Descriptor.reference]
  | property entity property =>
      refine .bind (follows_column faithful) ?_
      intro _ found named _ spells
      refine .pure rfl ?_
      intro later grows
      rw [← spells later grows]
      rfl

theorem follows_plan (faithful : start.Faithful catalog) (root : Entity) (query : Query) :
    Follows start world (fun _ => []) (fun _ _ => []) Plan.compiled
      (Planning.plan catalog root query) (translate root query) := by
  refine .guarded (.bind (follows_resolveTables faithful _) ?_)
  intro _ _ _ _ _
  refine .bind (follows_resolve faithful) ?_
  intro _ table source _ spellsSource
  refine .bind (follows_walk (fun _ => follows_descend faithful) _) ?_
  intro _ _ _ growsDown _
  refine .bind (follows_walk (fun _ => follows_ascend faithful) _) ?_
  intro _ _ _ growsUp _
  refine .bind follows_checkReferences ?_
  intro _ _ _ growsCheck _
  refine .look fun draft translation growsLook shows => ?_
  rw [shows.outline]
  refine .bind (follows_selection faithful _) ?_
  intro _ selection selected growsSelection spellsSelection
  refine .look fun draft translation growsEnd shows => ?_
  refine .pure rfl ?_
  intro later grows
  have grown := ((((growsDown.trans growsUp).trans growsCheck).trans growsLook).trans
    growsSelection).trans (growsEnd.trans grows)
  have predicate : draft.predicateTokens later.aliasOf = translation.writer.predicate := by
    simpa only [List.append_nil] using shows.predicate later grows
  rw [Draft.predicateTokens] at predicate
  simp only [Plan.compiled, Plan.statement_eq, Sql.Writer.statement, shows.parameters,
    shows.outline, ← spellsSource later grown, ← spellsSelection later (growsEnd.trans grows),
    ← shows.joins later grows, ← shows.order later grows, ← predicate]
  rfl

end Translating

namespace Schema.Registry

/-- A translation that asks the registry at every step ends as a compilation does. -/
theorem Faithful.translateAt_eq {catalog : Catalog} {registry : Registry}
    (faithful : registry.Faithful catalog) (settings : Settings) (root : Entity) (query : Query) :
    registry.translateAt settings root query = registry.compileAt settings root query := by
  have shows : (Draft.ofRoot settings root).Shows registry (fun _ => [])
      (Translation.ofRoot registry settings root) :=
    { registry := rfl
      outline := rfl
      tables := rfl
      referenced := rfl
      parameters := rfl
      joins := .const _
      order := .const _
      predicate := .const _ }
  have outcomes := Translating.follows_plan faithful root query (Draft.ofRoot settings root)
    (Translation.ofRoot registry settings root) (.refl registry) shows
  rw [translateAt, compileAt, faithful.catalog_eq, Query.plan]
  generalize (Planning.plan catalog root query).run.run _ = planned at outcomes ⊢
  generalize (Translating.translate root query).run.run _ = translated at outcomes ⊢
  cases outcomes with
  | ok _ spells shows =>
      change _ = (Except.ok _, registry.resolveAll _)
      rw [← shows.registry, ← spells.now]
  | error resolved =>
      change _ = (Except.error _, registry.resolveAll _)
      rw [← resolved]

theorem Reachable.translateAt_eq {catalog : Catalog} {registry : Registry}
    (reachable : Reachable catalog registry) (settings : Settings) (root : Entity) (query : Query) :
    registry.translateAt settings root query = registry.compileAt settings root query :=
  reachable.faithful.translateAt_eq settings root query

end Schema.Registry

end QueryChain
