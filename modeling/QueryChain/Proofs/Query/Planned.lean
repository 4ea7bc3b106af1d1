import QueryChain.Proofs.Plan.Walk

namespace QueryChain

open Json Schema

/-! The plan of a query, part by part.

`Query.Walkable` collects the conditions under which planning succeeds, step by
step, and `Query.Planned` says what each part of the plan is then.
-/

namespace Query

/-- The draft with which the way up starts. -/
def opening (lookup : Lookup) (settings : Settings) (query : Query) : Draft :=
  query.operators.reverse.foldl (Draft.descend lookup)
    { Draft.ofRoot settings query.source with
      resolved := noting query.source (notingAll query.tables []) }

def draft (lookup : Lookup) (settings : Settings) (query : Query) : Draft :=
  query.operators.foldl (Draft.ascend lookup) (query.opening lookup settings)

structure Walkable (lookup : Lookup) (settings : Settings) (query : Query) : Prop where
  tables : ∀ entity ∈ query.tables, (lookup entity).isSome
  resolves : ∀ operator ∈ query.operators, operator.Resolves lookup
  admissible : Along (fun draft operator => operator.Admissible lookup draft) (Draft.ascend lookup)
    (query.opening lookup settings) query.operators
  references : ∀ entity ∈ (query.draft lookup settings).referenced,
    entity ∈ (query.draft lookup settings).tables

/-- What the select operator written last selects, or else the source. -/
def selection? (lookup : Lookup) (query : Query) : Option Selection :=
  match query.projectors.getLast? with
  | none => (lookup query.source).map fun table => .entity ⟨query.source, table⟩
  | some projector => projector.selection? lookup

structure Planned (lookup : Lookup) (settings : Settings) (query : Query) (plan : Plan) : Prop where
  source : plan.source.entity = query.source ∧ lookup query.source = some plan.source.table
  selection : query.selection? lookup = some plan.selection
  joins : plan.joins = query.operators.filterMap (Operator.plannedJoin? lookup)
  conditions : plan.conditions = conditionsFrom settings.stem 0 (query.readings lookup)
  order : plan.order = query.operators.filterMap (Operator.plannedKey? lookup)
  parameters : plan.parameters = ⟨settings.stem, settings.limit, nonNull (query.values lookup)⟩
  distinct : plan.outline.distinct = query.isDistinct
  taken : plan.outline.taken = query.limit?
  skipped : plan.outline.skipped = query.offset?

section Drafts

variable {lookup : Lookup} {settings : Settings} {query : Query}

theorem opening_rest :
    ∃ selected referenced resolved order, query.opening lookup settings =
      { Draft.ofRoot settings query.source with
        outline := { Outline.ofRoot query.source with selected }, referenced, resolved, order } :=
  Draft.descendAll_rest lookup _ _

theorem opening_tables : (query.opening lookup settings).tables = [query.source] := by
  obtain ⟨_, _, _, _, same⟩ := @opening_rest lookup settings query
  rw [same]
  rfl

theorem opening_joins : (query.opening lookup settings).joins = [] := by
  obtain ⟨_, _, _, _, same⟩ := @opening_rest lookup settings query
  rw [same]
  rfl

theorem opening_conditions : (query.opening lookup settings).conditions = [] := by
  obtain ⟨_, _, _, _, same⟩ := @opening_rest lookup settings query
  rw [same]
  rfl

theorem opening_parameters : (query.opening lookup settings).parameters = .ofSettings settings := by
  obtain ⟨_, _, _, _, same⟩ := @opening_rest lookup settings query
  rw [same]
  rfl

theorem opening_outline :
    ∃ selected, (query.opening lookup settings).outline =
      { Outline.ofRoot query.source with selected } := by
  obtain ⟨selected, _, _, _, same⟩ := @opening_rest lookup settings query
  exact ⟨selected, by rw [same]⟩

theorem draft_tables : (query.draft lookup settings).tables = query.tables := by
  rw [draft, Draft.ascendAll_tables, opening_tables]
  rfl

theorem draft_joins :
    (query.draft lookup settings).joins =
      query.operators.filterMap (Operator.plannedJoin? lookup) := by
  rw [draft, Draft.ascendAll_joins, opening_joins, List.nil_append]

theorem draft_conditions :
    (query.draft lookup settings).conditions =
      conditionsFrom settings.stem 0 (query.readings lookup) := by
  rw [draft, Draft.ascendAll_conditions, opening_conditions, opening_parameters, List.nil_append]
  rfl

theorem draft_order :
    (query.draft lookup settings).order =
      query.operators.filterMap (Operator.plannedKey? lookup) := by
  rw [draft, Draft.ascendAll_order, opening, Draft.descendAll_order, List.filterMap_reverse,
    List.reverse_reverse]
  exact List.append_nil _

theorem draft_parameters :
    (query.draft lookup settings).parameters =
      ⟨settings.stem, settings.limit, nonNull (query.values lookup)⟩ := by
  have stem := Draft.ascendAll_stem lookup (query.opening lookup settings) query.operators
  have limit := Draft.ascendAll_limit lookup (query.opening lookup settings) query.operators
  have values := Draft.ascendAll_values lookup (query.opening lookup settings) query.operators
  rw [opening_parameters] at stem limit values
  change (query.operators.foldl (Draft.ascend lookup) _).parameters = _
  generalize (query.operators.foldl (Draft.ascend lookup) _).parameters =
    parameters at stem limit values ⊢
  cases parameters
  cases stem
  cases limit
  cases values
  rfl

theorem draft_outline :
    (query.draft lookup settings).outline.root = query.source ∧
      (query.draft lookup settings).outline.distinct = query.isDistinct ∧
      (query.draft lookup settings).outline.taken = query.limit? ∧
      (query.draft lookup settings).outline.skipped = query.offset? := by
  obtain ⟨selected, same⟩ := @opening_outline lookup settings query
  refine ⟨?_, ?_, ?_, ?_⟩
  · rw [draft, Draft.ascendAll_root, same]
    rfl
  · rw [draft, Draft.ascendAll_distinct, same]
    rfl
  · rw [draft, Draft.ascendAll_taken, same]
    exact Option.or_none
  · rw [draft, Draft.ascendAll_skipped, same]
    exact Option.or_none

/-- The last value of a list in which every element has one. -/
theorem getLast?_filterMap_of_isSome {α β : Type} {part : α → Option β} {items : List α}
    (total : ∀ item ∈ items, (part item).isSome) :
    (items.filterMap part).getLast? = items.getLast?.bind part := by
  rcases List.eq_nil_or_concat items with rfl | ⟨init, last, rfl⟩
  · rfl
  · obtain ⟨value, found⟩ := Option.isSome_iff_exists.mp (total last (by simp))
    simp [List.filterMap_append, found]

theorem draft_selected
    (resolves : ∀ operator ∈ query.operators, operator.Resolves lookup) :
    (query.draft lookup settings).outline.selected =
      query.projectors.getLast?.bind fun projector => projector.projection? lookup := by
  have total : ∀ projector ∈ query.projectors, (projector.projection? lookup).isSome := by
    intro projector member
    obtain ⟨operator, member, asks⟩ := List.mem_filterMap.mp member
    cases operator <;> cases asks
    exact resolves _ member
  rw [draft, Draft.ascendAll_selected, opening, Draft.descendAll_selected, List.filterMap_reverse,
    List.head?_reverse, ← getLast?_filterMap_of_isSome total, projectors,
      List.filterMap_filterMap]
  exact Option.none_or

theorem mem_draft_referenced {entity : Entity} :
    entity ∈ (query.draft lookup settings).referenced ↔ ∃ operator ∈ query.operators,
      entity ∈ (operator.descentColumns lookup).map ColumnRef.entity ∨
        entity ∈ operator.wholeEntities ∨
        entity ∈ (operator.ascentColumns lookup).map ColumnRef.entity := by
  have unmentioned : entity ∉ (Draft.ofRoot settings query.source).referenced := List.not_mem_nil
  simp only [draft, opening, Draft.mem_ascendAll_referenced, Draft.mem_descendAll_referenced,
    unmentioned, false_or, List.mem_reverse,
      List.mem_append, ← exists_or, ← and_or_left, or_assoc]

theorem mem_draft_resolved {entity : Entity} (member : entity ∈ query.tables) :
    entity ∈ (query.draft lookup settings).resolved := by
  apply (Draft.mem_ascendAll_resolved lookup _ _).mpr (.inl _)
  apply (Draft.mem_descendAll_resolved lookup _ _).mpr (.inl _)
  exact mem_noting.mpr (.inl (mem_notingAll.mpr (.inr member)))

end Drafts

end Query

namespace Planning

variable {catalog : Catalog} {before after : Draft} {result : Selection}

theorem yields_selectionEntity {entity : Entity} :
    Yields (selection catalog (.entity entity)) before result after ↔
      ∃ table, catalog.lookup entity = some table ∧ result = .entity ⟨entity, table⟩ ∧
        after = { before with resolved := noting entity before.resolved } := by
  simp only [selection, yields_bind, yields_resolve, yields_pure]
  refine ⟨?_, ?_⟩
  · intro yields
    obtain ⟨table, _, ⟨held, rfl⟩, rfl, rfl⟩ := yields
    exact ⟨table, held, rfl, rfl⟩
  · intro specified
    obtain ⟨table, held, rfl, rfl⟩ := specified
    exact ⟨table, _, ⟨held, rfl⟩, rfl, rfl⟩

theorem yields_selectionProperty {expr : Expr} {found : ColumnRef}
    (resolved : expr.columnIn? catalog.lookup = some found) :
    Yields (selection catalog (.property found.entity found.column.property))
        before result after ↔
      result = .column found ∧ after = before.record [found] [] := by
  obtain ⟨property, table, named, held, mapped⟩ := Expr.columnIn?_eq_some.mp resolved
  cases Schema.Table.column?_property mapped
  simp only [selection, yields_bind, yields_column_of_named named, yields_pure]
  refine ⟨?_, ?_⟩
  · intro yields
    obtain ⟨_, _, ⟨same, rfl⟩, rfl, rfl⟩ := yields
    cases resolved.symm.trans same
    exact ⟨rfl, rfl⟩
  · intro specified
    obtain ⟨rfl, rfl⟩ := specified
    exact ⟨found, _, ⟨resolved, rfl⟩, rfl, rfl⟩

theorem yields_plan {settings : Settings} {query : Query} {plan : Plan} :
    Yields (Planning.plan catalog query.source query) (.ofRoot settings query.source) plan after ↔
      query.Walkable catalog.lookup settings ∧ ∃ table chosen,
        catalog.lookup query.source = some table ∧
        Yields (selection catalog (query.draft catalog.lookup settings).outline.projection)
          (query.draft catalog.lookup settings) chosen after ∧
        plan = ⟨after.outline, ⟨query.source, table⟩, chosen, after.joins, after.conditions,
          after.order, after.parameters⟩ := by
  simp only [Planning.plan, ne_eq, not_true_eq_false, if_false, yields_bind, yields_get,
    yields_resolveTables, yields_resolve, yields_pure, yields_checkReferences,
    yields_walk (fun _ _ _ => yields_descend), yields_walk (fun _ _ _ => yields_ascend),
    along_always, List.mem_reverse]
  refine ⟨?_, ?_⟩
  · intro yields
    obtain ⟨_, _, ⟨tables, rfl⟩, table, _, ⟨held, rfl⟩, _, _, ⟨resolves, rfl⟩, _, _,
      ⟨admissible, rfl⟩, _, _, ⟨references, rfl⟩, _, _, ⟨rfl, rfl⟩, chosen, _, selected,
      _, _, ⟨rfl, rfl⟩, rfl, rfl⟩ := yields
    exact ⟨⟨tables, resolves, admissible, references⟩, table, chosen, held, selected, rfl⟩
  · intro specified
    obtain ⟨⟨tables, resolves, admissible, references⟩, table, chosen, held,
      selected, rfl⟩ := specified
    exact ⟨⟨⟩, _, ⟨tables, rfl⟩, table, _, ⟨held, rfl⟩, ⟨⟩,
      _, ⟨resolves, rfl⟩, ⟨⟩, _, ⟨admissible, rfl⟩, ⟨⟩, _, ⟨references, rfl⟩, _,
      _, ⟨rfl, rfl⟩, chosen, _, selected,
      _, _, ⟨rfl, rfl⟩, rfl, rfl⟩

/-- Once the walks succeed, so does the selection. -/
theorem yields_selection {settings : Settings} {query : Query}
    (walkable : query.Walkable catalog.lookup settings) :
    ∃ chosen referenced resolved, query.selection? catalog.lookup = some chosen ∧
      Yields (selection catalog (query.draft catalog.lookup settings).outline.projection)
        (query.draft catalog.lookup settings) chosen
        { query.draft catalog.lookup settings with referenced, resolved } ∧
      ∀ entity ∈ (query.draft catalog.lookup settings).resolved, entity ∈ resolved := by
  have projection : (query.draft catalog.lookup settings).outline.projection =
      ((query.draft catalog.lookup settings).outline.selected).getD (.entity query.source) := by
    rw [← (Query.draft_outline).1]
    rfl
  rw [projection, Query.draft_selected walkable.resolves]
  unfold Query.selection?
  cases last : query.projectors.getLast? with
  | none =>
      obtain ⟨table, held⟩ := Option.isSome_iff_exists.mp
        (walkable.tables query.source (by simp [Query.tables]))
      refine ⟨.entity ⟨query.source, table⟩, _, _, by simp [held],
        yields_selectionEntity.mpr ⟨table, held, rfl, rfl⟩, ?_⟩
      exact fun entity member => mem_noting.mpr (.inl member)
  | some projector =>
      obtain ⟨operator, member, asks⟩ := List.mem_filterMap.mp (List.mem_of_getLast? last)
      cases operator <;> cases asks
      have resolves := walkable.resolves _ member
      by_cases whole : ∃ param, projector.body = .parameter param
      · obtain ⟨param, body⟩ := whole
        have mentioned := walkable.references param.entity
          (Query.mem_draft_referenced.mpr
            ⟨_, member, .inr (.inl (by simp [Operator.wholeEntities, body]))⟩)
        rw [Query.draft_tables] at mentioned
        obtain ⟨table, held⟩ := Option.isSome_iff_exists.mp (walkable.tables _ mentioned)
        refine ⟨.entity ⟨param.entity, table⟩,
          (query.draft catalog.lookup settings).referenced,
          noting param.entity (query.draft catalog.lookup settings).resolved,
          by simp [Lambda.selection?, body, held], ?_, ?_⟩
        · simp only [Option.bind_some, Lambda.projection?, body, Option.getD_some]
          exact yields_selectionEntity.mpr ⟨table, held, rfl, rfl⟩
        · exact fun entity member => mem_noting.mpr (.inl member)
      · have column : ∀ param, projector.body ≠ .parameter param := fun param same =>
          whole ⟨param, same⟩
        rw [Operator.Resolves, projection?_column column, Option.isSome_map,
          Option.isSome_iff_exists] at resolves
        obtain ⟨found, resolved⟩ := resolves
        refine ⟨.column found,
          notingAll [found.entity] (query.draft catalog.lookup settings).referenced,
          notingAll [found.entity] (query.draft catalog.lookup settings).resolved, ?_, ?_, ?_⟩
        · simp [selection?_column column, resolved]
        · simp only [Option.bind_some, projection?_column column, resolved, Option.map_some,
            Option.getD_some]
          exact (yields_selectionProperty resolved).mpr ⟨rfl, by simp [Draft.record]⟩
        · exact fun entity member => mem_notingAll.mpr (.inl member)

end Planning

open Planning

section Plans

variable {catalog : Catalog} {settings : Settings} {query : Query}

theorem Query.Walkable.plan (walkable : query.Walkable catalog.lookup settings) :
    ∃ plan after, Yields (Planning.plan catalog query.source query)
      (.ofRoot settings query.source)
      plan after ∧ query.Planned catalog.lookup settings plan ∧
        ∀ entity ∈ query.tables, entity ∈ after.resolved := by
  obtain ⟨table, held⟩ := Option.isSome_iff_exists.mp
    (walkable.tables query.source (by simp [Query.tables]))
  obtain ⟨chosen, _, _, selected, yields, kept⟩ := yields_selection walkable
  refine ⟨_, _, yields_plan.mpr ⟨walkable, table, chosen, held, yields, rfl⟩, ?_, ?_⟩
  · obtain ⟨_, distinct, taken, skipped⟩ := @Query.draft_outline catalog.lookup settings query
    exact {
      source := ⟨rfl, held⟩
      selection := selected
      joins := Query.draft_joins
      conditions := Query.draft_conditions
      order := Query.draft_order
      parameters := Query.draft_parameters
      distinct, taken, skipped }
  · exact fun entity member => kept entity (Query.mem_draft_resolved member)

theorem Query.Planned.of_yields {plan : Plan} {after : Draft}
    (yields : Yields (Planning.plan catalog query.source query) (.ofRoot settings query.source)
      plan after) :
    query.Walkable catalog.lookup settings ∧ query.Planned catalog.lookup settings plan ∧
      ∀ entity ∈ query.tables, entity ∈ after.resolved := by
  have walkable := (yields_plan.mp yields).1
  obtain ⟨_, _, yieldsToo, planned, resolved⟩ := walkable.plan
  obtain ⟨rfl, rfl⟩ := yields.unique yieldsToo
  exact ⟨walkable, planned, resolved⟩

end Plans

end QueryChain
