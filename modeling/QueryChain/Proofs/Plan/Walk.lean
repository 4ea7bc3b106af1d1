import QueryChain.Proofs.Plan.Steps

namespace QueryChain

open Json Schema

/-! Whole walks over a chain, and the draft that they leave. -/

/-- Each step of a walk is allowed in the draft that the steps before it leave. -/
def Along (allowed : Draft → Operator → Prop)
    (next : Draft → Operator → Draft) (draft : Draft)
    (operators : List Operator) : Prop :=
  ∀ earlier operator later, operators = earlier ++ operator :: later →
    allowed (earlier.foldl next draft) operator

section Along

variable {allowed : Draft → Operator → Prop}
    {next : Draft → Operator → Draft} {draft : Draft}

theorem along_nil : Along allowed next draft [] := by
  intro earlier operator later split
  simp at split

theorem along_cons {operator : Operator} {rest : List Operator} :
    Along allowed next draft (operator :: rest) ↔
      allowed draft operator ∧ Along allowed next (next draft operator) rest := by
  refine ⟨?_, ?_⟩
  · intro along
    refine ⟨along [] operator rest rfl, ?_⟩
    intro earlier other later split
    exact along (operator :: earlier) other later (by rw [split]; rfl)
  · intro steps earlier other later split
    cases earlier with
    | nil =>
        cases split
        exact steps.1
    | cons first earlier =>
        cases split
        exact steps.2 earlier other later rfl

theorem along_always {allowed : Operator → Prop} {operators : List Operator} :
    Along (fun _ operator => allowed operator) next draft operators ↔
      ∀ operator ∈ operators, allowed operator := by
  induction operators generalizing draft with
  | nil => simp [along_nil]
  | cons operator rest ih => simp [along_cons, ih]

theorem along_and {first second : Draft → Operator → Prop} {operators : List Operator} :
    Along (fun draft operator => first draft operator ∧ second draft operator)
        next draft operators ↔
      Along first next draft operators ∧ Along second next draft operators := by
  simp only [Along, forall_and]

/-- What every allowed step keeps, a whole walk keeps. -/
theorem Along.invariant (kept : Draft → Prop) {operators : List Operator}
    (along : Along allowed next draft operators) (start : kept draft)
    (step : ∀ draft operator, allowed draft operator → kept draft →
      kept (next draft operator)) :
    kept (operators.foldl next draft) := by
  induction operators generalizing draft with
  | nil => exact start
  | cons operator rest ih =>
      obtain ⟨first, following⟩ := along_cons.mp along
      exact ih following (step draft operator first start)

end Along

namespace Planning

variable {catalog : Catalog} {before after : Draft}

theorem yields_walk {step : Operator → Planning Unit} {allowed : Draft → Operator → Prop}
    {next : Draft → Operator → Draft}
    (steps : ∀ operator before after,
      Yields (step operator) before ⟨⟩ after ↔
        allowed before operator ∧ after = next before operator)
    {operators : List Operator} {result : Unit} :
    Yields (walk step operators) before result after ↔
      Along allowed next before operators ∧ after = operators.foldl next before := by
  induction operators generalizing before with
  | nil => simp [walk, along_nil]
  | cons operator rest ih =>
      simp only [walk, yields_bind, ih, along_cons, List.foldl_cons]
      refine ⟨?_, ?_⟩
      · intro yields
        obtain ⟨_, _, first, following, rfl⟩ := yields
        obtain ⟨allowed, rfl⟩ := (steps operator before _).mp first
        exact ⟨⟨allowed, following⟩, rfl⟩
      · intro specified
        obtain ⟨⟨allowed, following⟩, rfl⟩ := specified
        exact ⟨⟨⟩, _, (steps operator before _).mpr ⟨allowed, rfl⟩, following, rfl⟩

theorem yields_resolveTables {entities : List Entity} {result : Unit} :
    Yields (resolveTables catalog entities) before result after ↔
      (∀ entity ∈ entities, (catalog.lookup entity).isSome) ∧
        after = { before with resolved := notingAll entities before.resolved } := by
  induction entities generalizing before with
  | nil => simp [resolveTables, notingAll]
  | cons entity rest ih =>
      simp only [resolveTables, yields_bind, yields_resolve, ih, List.forall_mem_cons]
      refine ⟨?_, ?_⟩
      · intro yields
        obtain ⟨table, _, ⟨held, rfl⟩, following, rfl⟩ := yields
        exact ⟨⟨by simp [held], following⟩, rfl⟩
      · intro specified
        obtain ⟨⟨first, following⟩, rfl⟩ := specified
        obtain ⟨table, held⟩ := Option.isSome_iff_exists.mp first
        exact ⟨table, _, ⟨held, rfl⟩, following, rfl⟩

theorem yields_checkReferences {result : Unit} :
    Yields checkReferences before result after ↔
      (∀ entity ∈ before.referenced, entity ∈ before.tables) ∧ after = before := by
  simp only [checkReferences, yields_bind, yields_get]
  refine ⟨?_, ?_⟩
  · intro yields
    obtain ⟨_, _, ⟨rfl, rfl⟩, checked⟩ := yields
    split at checked
    · exact absurd checked yields_throw
    · rename_i none
      refine ⟨?_, (yields_pure.mp checked).2⟩
      intro entity member
      simpa using List.find?_eq_none.mp none entity member
  · intro specified
    obtain ⟨members, rfl⟩ := specified
    have none : after.referenced.find? (fun entity => decide (entity ∉ after.tables)) = none := by
      apply List.find?_eq_none.mpr
      intro entity member
      simpa using members entity member
    exact ⟨_, _, ⟨rfl, rfl⟩, by simp only [none, yields_pure, and_self]⟩

end Planning

section Folds

variable {α : Type} {next : Draft → Operator → Draft} {draft : Draft}
    {operators : List Operator}

theorem foldl_kept (view : Draft → α)
    (kept : ∀ draft operator, view (next draft operator) = view draft) :
    view (operators.foldl next draft) = view draft := by
  induction operators generalizing draft with
  | nil => rfl
  | cons operator rest ih => rw [List.foldl_cons, ih, kept]

theorem foldl_appends (view : Draft → List α) {part : Operator → Option α}
    (appends : ∀ draft operator, view (next draft operator) =
      view draft ++ (part operator).toList) :
    view (operators.foldl next draft) = view draft ++ operators.filterMap part := by
  induction operators generalizing draft with
  | nil => simp
  | cons operator rest ih =>
      rw [List.foldl_cons, ih, appends]
      cases found : part operator <;> simp [found]

/-- A part that every operator may overwrite is the one of the last that does. -/
theorem foldl_overwrites (view : Draft → Option α) {part : Operator → Option α}
    (overwrites : ∀ draft operator,
      view (next draft operator) = (part operator).or (view draft)) :
    view (operators.foldl next draft) = (operators.filterMap part).getLast?.or (view draft) := by
  induction operators generalizing draft with
  | nil => simp
  | cons operator rest ih =>
      rw [List.foldl_cons, ih, overwrites]
      cases found : part operator with
      | none => simp [found]
      | some value =>
          rw [List.filterMap_cons_some found, List.getLast?_cons]
          cases (rest.filterMap part).getLast? <;> simp

/-- A part that only the first operator fills is the one of the first that does. -/
theorem foldl_fills (view : Draft → Option α) {part : Operator → Option α}
    (fills : ∀ draft operator, view (next draft operator) = (view draft).or (part operator)) :
    view (operators.foldl next draft) = (view draft).or (operators.filterMap part).head? := by
  induction operators generalizing draft with
  | nil => simp
  | cons operator rest ih =>
      rw [List.foldl_cons, ih, fills, Option.or_assoc]
      cases found : part operator <;> simp [found]

theorem mem_foldl (view : Draft → List α) {part : Operator → List α} {value : α}
    (grows : ∀ draft operator, value ∈ view (next draft operator) ↔
      value ∈ view draft ∨ value ∈ part operator) :
    value ∈ view (operators.foldl next draft) ↔
      value ∈ view draft ∨ ∃ operator ∈ operators, value ∈ part operator := by
  induction operators generalizing draft with
  | nil => simp
  | cons operator rest ih =>
      rw [List.foldl_cons, ih, grows]
      simp [or_assoc]

end Folds

namespace Draft

variable (lookup : Lookup) (draft : Draft) (operators : List Operator)

theorem descendAll_order :
    (operators.foldl (descend lookup) draft).order =
      (operators.filterMap (Operator.plannedKey? lookup)).reverse ++ draft.order := by
  induction operators generalizing draft with
  | nil => rfl
  | cons operator rest ih =>
      rw [List.foldl_cons, ih]
      cases key : operator.plannedKey? lookup <;> simp [descend, key]

theorem descendAll_selected :
    (operators.foldl (descend lookup) draft).outline.selected =
      draft.outline.selected.or (operators.filterMap fun operator =>
        operator.projector?.bind fun projector => projector.projection? lookup).head? :=
  foldl_fills (fun draft => draft.outline.selected) fun _ _ => rfl

/-- The way down changes nothing but the projection, the order and what is noted. -/
theorem descendAll_rest :
    ∃ selected referenced resolved order, operators.foldl (descend lookup) draft =
      { draft with outline := { draft.outline with selected }, referenced, resolved, order } := by
  induction operators generalizing draft with
  | nil => exact ⟨_, _, _, _, rfl⟩
  | cons operator rest ih =>
      obtain ⟨selected, referenced, resolved, order, same⟩ := ih (draft.descend lookup operator)
      refine ⟨selected, referenced, resolved, order, ?_⟩
      rw [List.foldl_cons, same]
      simp [descend, record]

theorem mem_descendAll_referenced {entity : Entity} :
    entity ∈ (operators.foldl (descend lookup) draft).referenced ↔
      entity ∈ draft.referenced ∨ ∃ operator ∈ operators,
        entity ∈ (operator.descentColumns lookup).map ColumnRef.entity ++
          operator.wholeEntities :=
  mem_foldl Draft.referenced fun draft operator => by
    simp [descend, record, mem_notingAll, or_assoc]

theorem mem_descendAll_resolved {entity : Entity} :
    entity ∈ (operators.foldl (descend lookup) draft).resolved ↔
      entity ∈ draft.resolved ∨ ∃ operator ∈ operators,
        entity ∈ (operator.descentColumns lookup).map ColumnRef.entity :=
  mem_foldl Draft.resolved fun draft operator => by
    simp [descend, record, mem_notingAll]

theorem ascendAll_tables :
    (operators.foldl (ascend lookup) draft).tables =
      draft.tables ++ operators.filterMap Operator.joined? :=
  foldl_appends Draft.tables fun _ _ => rfl

theorem ascendAll_joins :
    (operators.foldl (ascend lookup) draft).joins =
      draft.joins ++ operators.filterMap (Operator.plannedJoin? lookup) :=
  foldl_appends Draft.joins fun _ _ => rfl

theorem ascendAll_order : (operators.foldl (ascend lookup) draft).order = draft.order :=
  foldl_kept Draft.order fun _ _ => rfl

theorem ascendAll_root :
    (operators.foldl (ascend lookup) draft).outline.root = draft.outline.root :=
  foldl_kept (fun draft => draft.outline.root) fun _ _ => rfl

theorem ascendAll_selected :
    (operators.foldl (ascend lookup) draft).outline.selected = draft.outline.selected :=
  foldl_kept (fun draft => draft.outline.selected) fun _ _ => rfl

theorem ascendAll_taken :
    (operators.foldl (ascend lookup) draft).outline.taken =
      (operators.filterMap Operator.taken?).getLast?.or draft.outline.taken :=
  foldl_overwrites (fun draft => draft.outline.taken) fun _ _ => rfl

theorem ascendAll_skipped :
    (operators.foldl (ascend lookup) draft).outline.skipped =
      (operators.filterMap Operator.skipped?).getLast?.or draft.outline.skipped :=
  foldl_overwrites (fun draft => draft.outline.skipped) fun _ _ => rfl

theorem ascendAll_distinct :
    (operators.foldl (ascend lookup) draft).outline.distinct =
      (draft.outline.distinct || operators.any Operator.isDistinct) := by
  induction operators generalizing draft with
  | nil => simp
  | cons operator rest ih =>
      rw [List.foldl_cons, ih]
      simp [ascend, Outline.after, Bool.or_assoc]

theorem ascendAll_stem :
    (operators.foldl (ascend lookup) draft).parameters.stem = draft.parameters.stem :=
  foldl_kept (fun draft => draft.parameters.stem) fun _ _ => rfl

theorem ascendAll_limit :
    (operators.foldl (ascend lookup) draft).parameters.limit = draft.parameters.limit :=
  foldl_kept (fun draft => draft.parameters.limit) fun _ _ => rfl

theorem ascendAll_values :
    (operators.foldl (ascend lookup) draft).parameters.values = draft.parameters.values ++
      nonNull ((operators.filterMap (Operator.reads? lookup)).flatMap Predicate.values) := by
  induction operators generalizing draft with
  | nil => simp
  | cons operator rest ih =>
      rw [List.foldl_cons, ih]
      cases read : operator.reads? lookup <;>
        simp [ascend, record, Operator.ascentValues, read]

theorem ascendAll_conditions :
    (operators.foldl (ascend lookup) draft).conditions = draft.conditions ++
      conditionsFrom draft.parameters.stem draft.parameters.size
        (operators.filterMap (Operator.reads? lookup)) := by
  induction operators generalizing draft with
  | nil => simp [conditionsFrom]
  | cons operator rest ih =>
      rw [List.foldl_cons, ih]
      cases read : operator.reads? lookup <;>
        simp [ascend, Operator.ascentValues, read, conditionsFrom]

theorem mem_ascendAll_referenced {entity : Entity} :
    entity ∈ (operators.foldl (ascend lookup) draft).referenced ↔
      entity ∈ draft.referenced ∨ ∃ operator ∈ operators,
        entity ∈ (operator.ascentColumns lookup).map ColumnRef.entity :=
  mem_foldl Draft.referenced fun draft operator => by
    simp [ascend, record, mem_notingAll]

theorem mem_ascendAll_resolved {entity : Entity} :
    entity ∈ (operators.foldl (ascend lookup) draft).resolved ↔
      entity ∈ draft.resolved ∨ ∃ operator ∈ operators,
        entity ∈ (operator.ascentColumns lookup).map ColumnRef.entity :=
  mem_foldl Draft.resolved fun draft operator => by
    simp [ascend, record, mem_notingAll]

end Draft

end QueryChain
