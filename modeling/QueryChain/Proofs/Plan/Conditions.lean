import QueryChain.Proofs.Predicate

namespace QueryChain

open Json Schema

/-! Planning of conditions.

Planning an expression succeeds exactly when the expression reads as a predicate
whose values still fit.  The condition is then the one of that predicate, and the
draft notes its columns and values.
-/

namespace Planning

variable {catalog : Catalog} {before after : Draft}

theorem bind_eq_ok {parameters bound : Sql.Parameters} {value : Value} {name : String} :
    parameters.bind value = .ok (name, bound) ↔
      parameters.size < parameters.limit ∧
        name = Sql.Parameters.nameFrom parameters.stem (parameters.size + 1) ∧
        bound = { parameters with values := parameters.values ++ [value] } := by
  unfold Sql.Parameters.bind
  by_cases room : parameters.size < parameters.limit
  · simp [room, eq_comm]
  · simp [room]

theorem yields_bindValue {value : Value} {operand : Sql.Operand ColumnRef} :
    Yields (bindValue value) before operand after ↔
      before.Fits [value] ∧
        operand = valueOperand before.parameters.stem before.parameters.size value ∧
        after = before.record [] [value] := by
  unfold bindValue valueOperand
  by_cases null : value.isNull = true
  · have unbound : nonNull [value] = [] := by simp [nonNull, null]
    simp [null, Draft.Fits, Draft.record, unbound, notingAll]
  · have bound : nonNull [value] = [value] := by simp [nonNull, null]
    have fits : before.Fits [value] ↔ before.parameters.size < before.parameters.limit := by
      simp only [Draft.Fits, bound, List.cons_ne_nil, false_or, List.length_singleton,
        Nat.succ_le_iff]
    have recorded : before.record [] [value] = { before with
        parameters :=
          { before.parameters with values := before.parameters.values ++ [value] } } := by
      simp [Draft.record, bound, notingAll]
    simp only [null, fits, recorded, Bool.false_eq_true, if_false, yields_bind, yields_get,
      yields_settle, mapError_eq_ok, yields_modify, yields_pure]
    constructor
    · intro yields
      obtain ⟨_, _, ⟨rfl, rfl⟩, ⟨name, bound⟩, _, ⟨step, rfl⟩, _, _,
        rfl, rfl, rfl⟩ := yields
      obtain ⟨room, rfl, rfl⟩ := bind_eq_ok.mp step
      exact ⟨room, rfl, rfl⟩
    · intro specified
      obtain ⟨room, rfl, rfl⟩ := specified
      exact ⟨before, before, ⟨rfl, rfl⟩, (_, _), before,
        ⟨bind_eq_ok.mpr ⟨room, rfl, rfl⟩, rfl⟩, ⟨⟩, _, rfl, rfl, rfl⟩

theorem yields_bindValues {values : List Value} {operands : List (Sql.Operand ColumnRef)} :
    Yields (bindValues values) before operands after ↔
      before.Fits values ∧
        operands = valueOperands before.parameters.stem before.parameters.size values ∧
        after = before.record [] values := by
  induction values generalizing before operands after with
  | nil => simp [bindValues, valueOperands]
  | cons value rest ih =>
      rw [← List.singleton_append, Draft.fits_append []]
      simp only [bindValues, yields_bind, yields_bindValue, ih, yields_pure, valueOperands,
        List.singleton_append]
      constructor
      · intro yields
        obtain ⟨_, _, ⟨fits, rfl, rfl⟩, _, _, ⟨restFits, rfl, rfl⟩, rfl, rfl⟩ := yields
        exact ⟨⟨fits, restFits⟩, by simp, by simp⟩
      · intro specified
        obtain ⟨⟨fits, restFits⟩, rfl, rfl⟩ := specified
        exact ⟨_, _, ⟨fits, rfl, rfl⟩, _, _, ⟨restFits, rfl, rfl⟩, by simp, by simp⟩

/-- A computation plans what is read as an item with some columns and values.  It
succeeds exactly when there is an item and its values fit, writes the item with
numbers after those in use, and records its columns and values. -/
def Plans {τ β : Type} (computation : Planning β) (reading : Option τ)
    (columns : τ → List ColumnRef) (values : τ → List Value)
    (write : String → Nat → τ → β) : Prop :=
  ∀ before result after, Yields computation before result after ↔
    ∃ item, reading = some item ∧ before.Fits (values item) ∧
      result = write before.parameters.stem before.parameters.size item ∧
      after = before.record (columns item) (values item)

theorem Plans.pair {τ υ κ β γ δ : Type} {first : Planning β} {second : Planning γ}
    {reading : Option τ} {nextReading : Option υ}
    {make : τ → υ → κ} {combine : β → γ → δ}
    {columns : τ → List ColumnRef} {nextColumns : υ → List ColumnRef}
    {allColumns : κ → List ColumnRef}
    {values : τ → List Value} {nextValues : υ → List Value} {allValues : κ → List Value}
    {write : String → Nat → τ → β} {nextWrite : String → Nat → υ → γ}
    {writeAll : String → Nat → κ → δ}
    (plans : Plans first reading columns values write)
    (plansNext : Plans second nextReading nextColumns nextValues nextWrite)
    (columnsOf : ∀ item next, allColumns (make item next) = columns item ++ nextColumns next)
    (valuesOf : ∀ item next, allValues (make item next) = values item ++ nextValues next)
    (written : ∀ stem bound item next, writeAll stem bound (make item next) =
      combine (write stem bound item)
        (nextWrite stem (bound + (nonNull (values item)).length) next)) :
    Plans (do let left ← first; let right ← second; return combine left right)
      (do let item ← reading; let next ← nextReading; return make item next)
      allColumns allValues writeAll := by
  intro before result after
  simp only [yields_bind, yields_pure, plans _ _ _, plansNext _ _ _]
  refine ⟨?_, ?_⟩
  · intro yields
    obtain ⟨_, _, ⟨item, read, fits, rfl, rfl⟩, _, _,
      ⟨next, readNext, fitsNext, rfl, rfl⟩, rfl, rfl⟩ :=
      yields
    refine ⟨make item next, by simp [read, readNext], ?_, by simp [written], ?_⟩
    · rw [valuesOf]
      exact (Draft.fits_append _).mpr ⟨fits, fitsNext⟩
    · rw [Draft.record_record, columnsOf, valuesOf]
  · intro specified
    obtain ⟨_, readAll, fits, rfl, rfl⟩ := specified
    obtain ⟨item, read, rest⟩ := Option.bind_eq_some_iff.mp readAll
    obtain ⟨next, readNext, made⟩ := Option.bind_eq_some_iff.mp rest
    cases made
    rw [valuesOf] at fits
    obtain ⟨fits, fitsNext⟩ := (Draft.fits_append (columns item)).mp fits
    exact ⟨_, _, ⟨item, read, fits, rfl, rfl⟩, _, _, ⟨next, readNext, fitsNext, rfl, rfl⟩,
      by simp [written], by simp [columnsOf, valuesOf]⟩

theorem plans_columnOr {expr : Expr} {cause : MalformedQuery} :
    Plans (columnOr catalog expr cause) (expr.columnIn? catalog.lookup) (fun found => [found])
      (fun _ => []) (fun _ _ found => found) := by
  intro before found after
  rw [yields_columnOr]
  constructor
  · intro resolved
    exact ⟨found, resolved.1, Draft.fits_nil, rfl, resolved.2⟩
  · intro resolved
    obtain ⟨_, resolved, _, rfl, done⟩ := resolved
    exact ⟨resolved, done⟩

/-- Binding what an expression evaluates to, whatever error stands for a failure. -/
theorem plans_evaluated (expr : Expr) {bound : Planning (Sql.Operand ColumnRef)}
    (evaluated : ∀ value, expr.evaluate = .ok value → bound = bindValue value)
    (failed : ∀ cause, expr.evaluate = .error cause → ∃ error, bound = throw error) :
    Plans bound (expr.evaluate.toOption.map Term.value) Term.columns Term.values Term.operand := by
  intro before operand after
  cases outcome : expr.evaluate with
  | error cause =>
      obtain ⟨error, rfl⟩ := failed cause outcome
      simp [Except.toOption]
  | ok value =>
      rw [evaluated value outcome, yields_bindValue]
      simp [Except.toOption, Term.values, Term.operand, Term.columns]

theorem plans_foldedCondition {expr : Expr} :
    Plans (foldedCondition expr) (expr.evaluate.toOption.map Term.value) Term.columns Term.values
      Term.operand := by
  refine plans_evaluated expr ?_ ?_
  · intro value outcome
    simp [foldedCondition, outcome]
  · intro cause outcome
    exact ⟨_, by simp [foldedCondition, outcome]; rfl⟩

theorem plans_operand (expr : Expr) :
    Plans (Planning.operand catalog expr) (expr.term? catalog.lookup) Term.columns Term.values
      Term.operand := by
  intro before operand after
  cases expr with
  | parameter param => simp [Planning.operand, Expr.term?]
  | array items => simp [Planning.operand, Expr.term?]
  | member target name =>
      simp only [Planning.operand, Expr.term?]
      cases named : (Expr.member target name).column? with
      | none =>
          refine plans_evaluated (.member target name) ?_ ?_ _ _ _
          · intro value outcome
            simp [outcome, settle]; rfl
          · intro cause outcome
            exact ⟨cause, by simp [outcome, settle]; rfl⟩
      | some selected =>
          obtain ⟨entity, property⟩ := selected
          simp only [yields_bind, yields_pure, yields_column_of_named named]
          constructor
          · intro yields
            obtain ⟨found, _, ⟨resolved, rfl⟩, rfl, rfl⟩ := yields
            exact ⟨.column found, by rw [resolved]; rfl, by simp [Term.values], rfl, rfl⟩
          · intro read
            obtain ⟨term, mapped, _, rfl, rfl⟩ := read
            obtain ⟨found, resolved, rfl⟩ := Option.map_eq_some_iff.mp mapped
            exact ⟨found, _, ⟨resolved, rfl⟩, rfl, rfl⟩
  | constant value =>
      refine plans_evaluated (.constant value) ?_ ?_ _ _ _
      · intro _ outcome
        cases outcome
        rfl
      · intro _ outcome
        cases outcome
  | captured name value =>
      refine plans_evaluated (.captured name value) ?_ ?_ _ _ _
      · intro _ outcome
        cases outcome
        rfl
      · intro _ outcome
        cases outcome
  | hasValue _ | compare _ _ _ | connect _ _ _ | not _ | stringMatch _ _ _
  | collectionContains _ _ | isNullOrEmpty _ => exact plans_foldedCondition _ _ _

theorem plans_knownCondition (expr : Expr) (negated : Bool) :
    Plans (knownCondition expr negated) expr.known? Predicate.columns Predicate.values
      fun stem bound predicate => predicate.condition stem negated bound := by
  intro before result after
  unfold knownCondition Expr.known?
  cases expr.evaluate with
  | error cause => simp [Except.toOption]
  | ok value =>
      rw [settle_ok_bind]
      cases flag : value.asBool? with
      | none => simp [Except.toOption, flag]
      | some flag =>
          simp [Except.toOption, *, Predicate.values, Predicate.columns, Predicate.condition]

theorem plans_flagCondition {expr : Expr} {entity : Entity} {property : String}
    (named : expr.column? = some (entity, property)) (negated : Bool) :
    Plans (flagCondition catalog entity property negated) (expr.flag? catalog.lookup)
      Predicate.columns Predicate.values
      fun stem bound predicate => predicate.condition stem negated bound := by
  intro before result after
  simp only [flagCondition, Expr.flag?, yields_bind, yields_column_of_named named]
  constructor
  · intro yields
    obtain ⟨found, _, ⟨resolved, rfl⟩, rest⟩ := yields
    by_cases boolean : found.column.type = .boolean
    · simp only [boolean, if_true, yields_pure] at rest
      obtain ⟨rfl, rfl⟩ := rest
      exact ⟨.flag found, by simp [resolved, boolean], Draft.fits_nil, rfl, rfl⟩
    · simp [boolean] at rest
  · intro read
    obtain ⟨predicate, flagged, _, rfl, rfl⟩ := read
    obtain ⟨found, resolved, boolean⟩ := Option.bind_eq_some_iff.mp flagged
    by_cases boolean' : found.column.type = .boolean
    · simp only [boolean', if_true, Option.some.injEq] at boolean
      subst boolean
      exact ⟨found, _, ⟨resolved, rfl⟩, by
        simp [boolean', Predicate.condition, Predicate.columns, Predicate.values]⟩
    · simp [boolean'] at boolean

/-- Predicates of one column that a negation turns into their counterparts. -/
theorem plans_test {expr : Expr} {operation : String} {negated : Bool}
    {make : ColumnRef → Predicate} {write : ColumnRef → Sql.Condition ColumnRef}
    (columns : ∀ found, (make found).columns = [found])
    (values : ∀ found, (make found).values = [])
    (written : ∀ stem bound found, (make found).condition stem negated bound = write found) :
    Plans (do return write (← requireColumn catalog operation expr))
      ((expr.columnIn? catalog.lookup).map make) Predicate.columns Predicate.values
      fun stem bound predicate => predicate.condition stem negated bound := by
  intro before result after
  simp only [requireColumn, yields_bind, yields_pure, yields_columnOr, Option.map_eq_some_iff]
  refine ⟨?_, ?_⟩
  · intro yields
    obtain ⟨found, _, ⟨resolved, rfl⟩, rfl, rfl⟩ := yields
    exact ⟨make found, ⟨found, resolved, rfl⟩, by simp [values],
      (written ..).symm, by simp [columns, values]⟩
  · intro read
    obtain ⟨_, ⟨found, resolved, rfl⟩, _, rfl, rfl⟩ := read
    exact ⟨found, _, ⟨resolved, rfl⟩, written .., by simp [columns, values]⟩

/-- Nothing is one of no values, so an empty collection leaves no list to write. -/
theorem plans_membership (collection item : Expr) (negated : Bool) :
    Plans (Planning.condition catalog (.collectionContains collection item) negated)
      ((Expr.collectionContains collection item).predicate? catalog.lookup)
      Predicate.columns Predicate.values
      fun stem bound predicate => predicate.condition stem negated bound := by
  intro before result after
  simp only [Planning.condition, requireColumn, yields_bind, yields_columnOr, Expr.predicate?]
  cases collection.evaluateList with
  | error cause => simp [Except.toOption]
  | ok values =>
      have read : (do
          let column ← item.columnIn? catalog.lookup
          let values ← (Except.ok values : Except QueryError (List Value)).toOption
          return Predicate.oneOf column values) =
          (item.columnIn? catalog.lookup).map (Predicate.oneOf · values) := by
        cases item.columnIn? catalog.lookup <;> rfl
      simp only [read, Option.map_eq_some_iff, yields_settle, Except.ok.injEq]
      refine ⟨?_, ?_⟩
      · intro yields
        obtain ⟨found, _, ⟨resolved, rfl⟩, _, _, ⟨rfl, rfl⟩, rest⟩ := yields
        refine ⟨_, ⟨found, resolved, rfl⟩, ?_⟩
        by_cases empty : values = []
        · subst empty
          simpa [Predicate.values, Predicate.columns, Predicate.condition] using rest
        · simp only [List.isEmpty_iff, empty, if_false, yields_bind, yields_bindValues,
            yields_pure] at rest
          obtain ⟨_, _, ⟨fits, rfl, rfl⟩, rfl, rfl⟩ := rest
          refine ⟨Draft.fits_record_nil.mp fits, ?_, ?_⟩
          · simp [Predicate.condition, empty]
          · simp [Predicate.columns, Predicate.values]
      · intro specified
        obtain ⟨_, ⟨found, resolved, rfl⟩, fits, rfl, rfl⟩ := specified
        refine ⟨found, _, ⟨resolved, rfl⟩, values, _, ⟨rfl, rfl⟩, ?_⟩
        by_cases empty : values = []
        · subst empty
          simp [Predicate.values, Predicate.columns, Predicate.condition]
        · simp only [List.isEmpty_iff, empty, if_false, yields_bind,
            yields_bindValues, yields_pure]
          refine ⟨_, _, ⟨Draft.fits_record_nil.mpr fits, rfl, rfl⟩, ?_, ?_⟩
          · simp [Predicate.condition, empty]
          · simp [Predicate.columns, Predicate.values]

theorem plans_condition : (expr : Expr) → (negated : Bool) →
    Plans (Planning.condition catalog expr negated) (expr.predicate? catalog.lookup)
      Predicate.columns Predicate.values
      fun stem bound predicate => predicate.condition stem negated bound
  | .not operand, negated => by
      intro before result after
      simp only [Planning.condition, plans_condition operand _ _ _ _, Expr.predicate?]
      refine ⟨?_, ?_⟩
      · intro yields
        obtain ⟨predicate, read, rest⟩ := yields
        exact ⟨.not predicate, by simp [read], rest⟩
      · intro specified
        obtain ⟨_, readAll, rest⟩ := specified
        obtain ⟨predicate, read, made⟩ := Option.bind_eq_some_iff.mp readAll
        cases made
        exact ⟨predicate, read, rest⟩
  | .compare op left right, negated =>
      (plans_operand left).pair (plans_operand right)
        (fun _ _ => rfl) (fun _ _ => rfl) (fun _ _ _ _ => rfl)
  | .connect op left right, negated =>
      (plans_condition left false).pair (plans_condition right false)
        (fun _ _ => rfl) (fun _ _ => rfl) (fun _ _ _ _ => rfl)
  | .member target name, negated => by
      simp only [Planning.condition, Expr.predicate?]
      cases named : (Expr.member target name).column? with
      | none => exact plans_knownCondition _ negated
      | some selected => exact plans_flagCondition named negated
  | .constant value, negated => plans_knownCondition _ negated
  | .captured name value, negated => plans_knownCondition _ negated
  | .hasValue operand, negated => plans_test (fun _ => rfl) (fun _ => rfl) (fun _ _ _ => rfl)
  | .isNullOrEmpty operand, negated => plans_test (fun _ => rfl) (fun _ => rfl) (fun _ _ _ => rfl)
  | .stringMatch op target value, negated =>
      plans_columnOr.pair (plans_operand value)
        (fun _ _ => rfl) (fun _ _ => rfl) (fun _ _ _ _ => rfl)
  | .collectionContains collection item, negated => plans_membership collection item negated
  | .parameter param, negated => by
      intro before result after
      simp [Planning.condition, Expr.predicate?]
  | .array items, negated => by
      intro before result after
      simp [Planning.condition, Expr.predicate?]

end Planning

end QueryChain
