import QueryChain.Proofs.Outline
import QueryChain.Proofs.Plan.Conditions
import QueryChain.Proofs.Query.Chain

namespace QueryChain

open Json Schema

/-! The steps of the two walks over a chain.

`Draft.descend` and `Draft.ascend` say what an operator leaves in a draft on either
walk, and `Operator.Resolves` and `Operator.Admissible` when it succeeds.
-/

def Outline.after (outline : Outline) (operator : Operator) : Outline :=
  { outline with
    distinct := outline.distinct || operator.isDistinct
    taken := operator.taken?.or outline.taken
    skipped := operator.skipped?.or outline.skipped }

namespace Outline

variable (outline : Outline)

@[simp] theorem after_filter (predicate : Lambda) :
    outline.after (.filter predicate) = outline := by
  simp [after, Operator.taken?, Operator.skipped?, Operator.isDistinct]

@[simp] theorem after_select (projector : Lambda) :
    outline.after (.select projector) = outline := by
  simp [after, Operator.taken?, Operator.skipped?, Operator.isDistinct]

@[simp] theorem after_orderBy (key : Lambda) (direction : Direction) :
    outline.after (.orderBy key direction) = outline := by
  simp [after, Operator.taken?, Operator.skipped?, Operator.isDistinct]

@[simp] theorem after_distinct : outline.after .distinct = outline.requireDistinct := by
  simp [after, Operator.taken?, Operator.skipped?, Operator.isDistinct, requireDistinct]

@[simp] theorem after_first (predicate : Option Lambda) (mode : FirstMode) :
    outline.after (.first predicate mode) = { outline with taken := some 1 } := by
  simp [after, Operator.taken?, Operator.skipped?, Operator.isDistinct]

theorem after_take {count : Expr} {number : Nat} (counted : count.evaluateCount = .ok number) :
    outline.after (.take count) = { outline with taken := some number } := by
  simp [after, Operator.taken?, Operator.skipped?, Operator.isDistinct, counted, Except.toOption]

theorem after_skip {count : Expr} {number : Nat} (counted : count.evaluateCount = .ok number) :
    outline.after (.skip count) = { outline with skipped := some number } := by
  simp [after, Operator.taken?, Operator.skipped?, Operator.isDistinct, counted, Except.toOption]

end Outline

namespace Operator

variable (lookup : Lookup)

/-- The columns that an operator uses on the way down. -/
def descentColumns : Operator → List ColumnRef
  | .select projector => (projector.body.columnIn? lookup).toList
  | .orderBy key _ => (key.body.columnIn? lookup).toList
  | _ => []

/-- The entities that are selected as a whole. -/
def wholeEntities : Operator → List Entity
  | .select projector =>
    match projector.body with
    | .parameter param => [param.entity]
    | _ => []
  | _ => []

def Resolves : Operator → Prop
  | .select projector => (projector.projection? lookup).isSome
  | .orderBy key _ => (key.body.columnIn? lookup).isSome
  | _ => True

/-- The columns that an operator uses on the way up. -/
def ascentColumns (operator : Operator) : List ColumnRef :=
  match operator.plannedJoin? lookup with
  | some planned => [planned.left, planned.right]
  | none => (operator.reads? lookup).toList.flatMap Predicate.columns

def ascentValues (operator : Operator) : List Value :=
  (operator.reads? lookup).toList.flatMap Predicate.values

end Operator

namespace Draft

variable (lookup : Lookup)

def descend (draft : Draft) (operator : Operator) : Draft :=
  { draft.record (operator.descentColumns lookup) [] with
    outline := { draft.outline with
      selected := draft.outline.selected.or
        (operator.projector?.bind fun projector => projector.projection? lookup) }
    referenced := notingAll operator.wholeEntities
      (draft.record (operator.descentColumns lookup) []).referenced
    order := (operator.plannedKey? lookup).toList ++ draft.order }

def ascend (draft : Draft) (operator : Operator) : Draft :=
  { draft.record (operator.ascentColumns lookup) (operator.ascentValues lookup) with
    outline := draft.outline.after operator
    tables := draft.tables ++ operator.joined?.toList
    joins := draft.joins ++ (operator.plannedJoin? lookup).toList
    conditions := draft.conditions ++
      conditionsFrom draft.parameters.stem draft.parameters.size (operator.reads? lookup).toList }

/-- A predicate that can be added to a draft. -/
def Allows (draft : Draft) (predicate : Lambda) : Prop :=
  draft.outline.isLimited = false ∧
    ∃ reading, predicate.body.predicate? lookup = some reading ∧ draft.Fits reading.values

end Draft

def Operator.Admissible (lookup : Lookup) (draft : Draft) : Operator → Prop
  | .filter predicate => draft.Allows lookup predicate
  | .select _ => True
  | .join inner outerKey innerKey =>
    draft.outline.isLimited = false ∧ inner ∉ draft.tables ∧
      ∃ join, (Operator.join inner outerKey innerKey).plannedJoin? lookup = some join ∧
        join.left.entity ∈ draft.tables ∧ join.right.entity = inner
  | .orderBy _ _ => draft.outline.isLimited = false
  | .take count =>
    ∃ number, count.evaluateCount = .ok number ∧ (number = 0 → draft.outline.skipped = none)
  | .skip count => ∃ number, count.evaluateCount = .ok number ∧ draft.outline.taken = none
  | .distinct => draft.outline.isLimited = false
  | .first none _ => True
  | .first (some predicate) _ => draft.Allows lookup predicate

namespace Planning

variable {catalog : Catalog} {before after : Draft}

theorem projection?_column {lookup : Lookup} {projector : Lambda}
    (column : ∀ param, projector.body ≠ .parameter param) :
    projector.projection? lookup = (projector.body.columnIn? lookup).map
      fun found => .property found.entity found.column.property := by
  unfold Lambda.projection?
  split
  · rename_i param body
    exact absurd body (column param)
  · rfl

theorem selection?_column {lookup : Lookup} {projector : Lambda}
    (column : ∀ param, projector.body ≠ .parameter param) :
    projector.selection? lookup = (projector.body.columnIn? lookup).map .column := by
  unfold Lambda.selection?
  split
  · rename_i param body
    exact absurd body (column param)
  · rfl

theorem yields_selectColumn {projector : Lambda}
    (column : ∀ param, projector.body ≠ .parameter param) {result : Projection} :
    Yields (projection catalog projector) before result after ↔
      ∃ found, projector.body.columnIn? catalog.lookup = some found ∧
        result = .property found.entity found.column.property ∧
          after = before.record [found] [] := by
  unfold projection
  cases body : projector.body with
  | parameter param => exact absurd body (column param)
  | member target name =>
      cases named : (Expr.member target name).column? with
      | none => simp [Expr.columnIn?, named]
      | some selected =>
          obtain ⟨entity, property⟩ := selected
          simp only [named, yields_bind, yields_pure, yields_column_of_named named]
          refine ⟨?_, ?_⟩
          · intro yields
            obtain ⟨found, _, ⟨resolved, rfl⟩, rfl, rfl⟩ := yields
            obtain ⟨_, _, same, _⟩ := Expr.columnIn?_eq_some.mp resolved
            cases named.symm.trans same
            exact ⟨found, resolved, rfl, rfl⟩
          · intro specified
            obtain ⟨found, resolved, rfl, rfl⟩ := specified
            obtain ⟨_, _, same, _⟩ := Expr.columnIn?_eq_some.mp resolved
            cases named.symm.trans same
            exact ⟨found, _, ⟨resolved, rfl⟩, rfl, rfl⟩
  | hasValue _ | constant _ | captured _ _ | array _ | compare _ _ _ | connect _ _ _ | not _
  | stringMatch _ _ _ | collectionContains _ _ | isNullOrEmpty _ =>
      simp [Expr.columnIn?, Expr.column?]

theorem yields_selectWhole {projector : Lambda} {param : Param}
    (body : projector.body = .parameter param) {result : Projection} :
    Yields (projection catalog projector) before result after ↔
      result = .entity param.entity ∧
        after = { before with referenced := noting param.entity before.referenced } := by
  simp only [projection, body, noteReference, yields_bind, yields_modify, yields_pure]
  refine ⟨?_, ?_⟩
  · intro yields
    obtain ⟨_, _, rfl, rfl, rfl⟩ := yields
    exact ⟨rfl, rfl⟩
  · intro specified
    obtain ⟨rfl, rfl⟩ := specified
    exact ⟨⟨⟩, _, rfl, rfl, rfl⟩

theorem descend_whole {lookup : Lookup} {projector : Lambda} {param : Param}
    (body : projector.body = .parameter param) :
    before.descend lookup (.select projector) = { before with
      outline := before.outline.select (.entity param.entity)
      referenced := noting param.entity before.referenced } := by
  simp [Draft.descend, Operator.descentColumns, Operator.wholeEntities, Operator.projector?,
    Operator.plannedKey?, Lambda.projection?, body, Expr.columnIn?, Expr.column?, Outline.select,
    notingAll]

theorem wholeEntities_column {projector : Lambda}
    (column : ∀ param, projector.body ≠ .parameter param) :
    (Operator.select projector).wholeEntities = [] := by
  unfold Operator.wholeEntities
  dsimp only
  split
  · rename_i param body
    exact absurd body (column param)
  · rfl

theorem descend_column (before : Draft) {lookup : Lookup} {projector : Lambda}
    (column : ∀ param, projector.body ≠ .parameter param) {found : ColumnRef}
    (resolved : projector.body.columnIn? lookup = some found) :
    before.descend lookup (.select projector) = { before.record [found] [] with
      outline := before.outline.select (.property found.entity found.column.property) } := by
  simp [Draft.descend, Operator.descentColumns, wholeEntities_column column,
    Operator.projector?, Operator.plannedKey?, projection?_column column, resolved,
    Outline.select, notingAll]

theorem yields_descend {operator : Operator} :
    Yields (descend catalog operator) before ⟨⟩ after ↔
      operator.Resolves catalog.lookup ∧ after = before.descend catalog.lookup operator := by
  cases operator with
  | select projector =>
      simp only [descend, yields_bind, yields_modify, Operator.Resolves]
      by_cases whole : ∃ param, projector.body = .parameter param
      · obtain ⟨param, body⟩ := whole
        simp only [yields_selectWhole body, descend_whole body]
        refine ⟨?_, ?_⟩
        · intro yields
          obtain ⟨_, _, ⟨rfl, rfl⟩, rfl⟩ := yields
          exact ⟨by simp [Lambda.projection?, body], rfl⟩
        · intro specified
          obtain ⟨_, rfl⟩ := specified
          exact ⟨_, _, ⟨rfl, rfl⟩, rfl⟩
      · have column : ∀ param, projector.body ≠ .parameter param := fun param same =>
          whole ⟨param, same⟩
        simp only [yields_selectColumn column]
        refine ⟨?_, ?_⟩
        · intro yields
          obtain ⟨_, _, ⟨found, resolved, rfl, rfl⟩, rfl⟩ := yields
          exact ⟨by simp [projection?_column column, resolved],
            (descend_column before column resolved).symm⟩
        · intro specified
          obtain ⟨resolves, rfl⟩ := specified
          rw [projection?_column column, Option.isSome_map, Option.isSome_iff_exists] at resolves
          obtain ⟨found, resolved⟩ := resolves
          exact ⟨_, _, ⟨found, resolved, rfl, rfl⟩, descend_column before column resolved⟩
  | orderBy key direction =>
      simp only [descend, yields_bind, keyColumn, yields_columnOr, yields_modify,
        Operator.Resolves, Option.isSome_iff_exists]
      refine ⟨?_, ?_⟩
      · intro yields
        obtain ⟨found, _, ⟨resolved, rfl⟩, rfl⟩ := yields
        refine ⟨⟨found, resolved⟩, ?_⟩
        simp [Draft.descend, Operator.descentColumns, Operator.plannedKey?, resolved,
          Operator.wholeEntities, Operator.projector?, notingAll, Draft.record]
      · intro specified
        obtain ⟨⟨found, resolved⟩, rfl⟩ := specified
        refine ⟨found, _, ⟨resolved, rfl⟩, ?_⟩
        simp [Draft.descend, Operator.descentColumns, Operator.plannedKey?, resolved,
          Operator.wholeEntities, Operator.projector?, notingAll, Draft.record]
  | filter _ | join _ _ _ | take _ | skip _ | distinct | first _ _ =>
      simp [descend, Operator.Resolves, Draft.descend, Operator.descentColumns,
        Operator.wholeEntities, Operator.projector?, Operator.plannedKey?, notingAll]

theorem yields_requireUnlimited {name : String} {result : Unit} :
    Yields (requireUnlimited name) before result after ↔
      before.outline.isLimited = false ∧ after = before := by
  simp only [requireUnlimited, yields_bind, yields_get, yields_settle, mapError_eq_ok,
    Outline.requireUnlimited]
  refine ⟨?_, ?_⟩
  · intro yields
    obtain ⟨_, _, ⟨rfl, rfl⟩, unlimited, rfl⟩ := yields
    split at unlimited
    · cases unlimited
    · rename_i limited
      exact ⟨by simpa using limited, rfl⟩
  · intro specified
    obtain ⟨unlimited, rfl⟩ := specified
    exact ⟨_, _, ⟨rfl, rfl⟩, by simp [unlimited], rfl⟩

theorem yields_onOutline {call : Outline → Except UsageError Unit × Outline} {result : Unit} :
    Yields (onOutline call) before result after ↔
      ∃ outline, call before.outline = (.ok (), outline) ∧ after = { before with outline } := by
  simp only [onOutline, yields_bind, yields_get, yields_modify, yields_settle, mapError_eq_ok]
  refine ⟨?_, ?_⟩
  · intro yields
    obtain ⟨_, _, ⟨rfl, rfl⟩, _, _, rfl, accepted, rfl⟩ := yields
    exact ⟨_, Prod.ext accepted rfl, rfl⟩
  · intro specified
    obtain ⟨outline, called, rfl⟩ := specified
    exact ⟨_, _, ⟨rfl, rfl⟩, ⟨⟩, _, rfl, by rw [called], by rw [called]⟩

theorem yields_addCondition {predicate : Lambda} {result : Unit} :
    Yields (addCondition catalog predicate) before result after ↔
      ∃ reading, predicate.body.predicate? catalog.lookup = some reading ∧
        before.Fits reading.values ∧
        after = { before.record reading.columns reading.values with
          conditions := before.conditions ++
            [reading.condition before.parameters.stem false before.parameters.size] } := by
  simp only [addCondition, yields_bind, plans_condition predicate.body false _ _ _, yields_modify]
  refine ⟨?_, ?_⟩
  · intro yields
    obtain ⟨_, _, ⟨reading, read, fits, rfl, rfl⟩, rfl⟩ := yields
    exact ⟨reading, read, fits, rfl⟩
  · intro specified
    obtain ⟨reading, read, fits, rfl⟩ := specified
    exact ⟨_, _, ⟨reading, read, fits, rfl, rfl⟩, rfl⟩

/-- A step that adds a condition, whatever happens to the outline afterwards. -/
theorem ascend_reads (before : Draft) {lookup : Lookup} (operator : Operator) {predicate : Lambda}
    {reading : Predicate} (asks : operator.predicate? = some predicate)
    (read : predicate.body.predicate? lookup = some reading)
    (noJoin : operator.plannedJoin? lookup = none) (noTable : operator.joined? = none) :
    before.ascend lookup operator = { before.record reading.columns reading.values with
      outline := before.outline.after operator
      conditions := before.conditions ++
        [reading.condition before.parameters.stem false before.parameters.size] } := by
  simp [Draft.ascend, Operator.ascentColumns, Operator.ascentValues, Operator.reads?, asks, read,
    noJoin, noTable, conditionsFrom]

theorem ascend_plain (before : Draft) {lookup : Lookup} (operator : Operator)
    (asks : operator.predicate? = none)
    (noJoin : operator.plannedJoin? lookup = none) (noTable : operator.joined? = none) :
    before.ascend lookup operator = { before with outline := before.outline.after operator } := by
  simp [Draft.ascend, Operator.ascentColumns, Operator.ascentValues, Operator.reads?, asks,
    noJoin, noTable, conditionsFrom]

theorem ascend_join (before : Draft) {lookup : Lookup} {inner : Entity} {outerKey innerKey : Lambda}
    {planned : PlannedJoin}
    (resolved : (Operator.join inner outerKey innerKey).plannedJoin? lookup = some planned) :
    before.ascend lookup (.join inner outerKey innerKey) =
      { before.record [planned.left, planned.right] [] with
        tables := before.tables ++ [inner]
        joins := before.joins ++ [planned] } := by
  simp [Draft.ascend, Operator.ascentColumns, Operator.ascentValues, Operator.reads?, resolved,
    Operator.predicate?, Operator.joined?, Outline.after, Operator.taken?, Operator.skipped?,
    Operator.isDistinct, conditionsFrom]

theorem plannedJoin?_eq_some {lookup : Lookup} {inner : Entity} {outerKey innerKey : Lambda}
    {planned : PlannedJoin} :
    (Operator.join inner outerKey innerKey).plannedJoin? lookup = some planned ↔
      ∃ table left right, lookup inner = some table ∧
        outerKey.body.columnIn? lookup = some left ∧
          innerKey.body.columnIn? lookup = some right ∧
        planned = ⟨⟨inner, table⟩, left, right⟩ := by
  simp only [Operator.plannedJoin?, Option.bind_eq_bind, Option.bind_eq_some_iff, Option.pure_def,
    Option.some.injEq]
  refine ⟨?_, ?_⟩
  · intro resolved
    obtain ⟨table, held, left, outer, right, inner, rfl⟩ := resolved
    exact ⟨table, left, right, held, outer, inner, rfl⟩
  · intro resolved
    obtain ⟨table, left, right, held, outer, inner, rfl⟩ := resolved
    exact ⟨table, held, left, outer, right, inner, rfl⟩

/-- The joined entity is noted once, although its table and its key are resolved apart. -/
theorem noting_self {entity : Entity} {entities : List Entity} :
    noting entity (noting entity entities) = noting entity entities := by
  have known : entity ∈ noting entity entities := mem_noting.mpr (.inr rfl)
  rw [noting, if_pos known]

theorem yields_join {inner : Entity} {outerKey innerKey : Lambda} {result : Unit} :
    Yields (join catalog inner outerKey innerKey) before result after ↔
      inner ∉ before.tables ∧
        ∃ planned, (Operator.join inner outerKey innerKey).plannedJoin? catalog.lookup =
          some planned ∧
          planned.left.entity ∈ before.tables ∧ planned.right.entity = inner ∧
          after = { before.record [planned.left, planned.right] [] with
            tables := before.tables ++ [inner]
            joins := before.joins ++ [planned] } := by
  simp only [join, yields_bind, yields_get, keyColumn, yields_columnOr, yields_resolve,
    yields_modify, yields_unless, Decidable.not_not]
  refine ⟨?_, ?_⟩
  · intro yields
    obtain ⟨_, _, ⟨rfl, rfl⟩, absent, left, _, ⟨outer, rfl⟩,
      member, table, _, ⟨held, rfl⟩, right, _, ⟨resolved, rfl⟩, rfl, rfl⟩ := yields
    refine ⟨absent, _, plannedJoin?_eq_some.mpr
      ⟨table, left, right, held, outer, resolved, rfl⟩, member, rfl, ?_⟩
    simp [Draft.record, notingAll, noting_self]
  · intro specified
    obtain ⟨absent, planned, resolved, member, same, rfl⟩ := specified
    obtain ⟨table, left, right, held, outer, found, rfl⟩ := plannedJoin?_eq_some.mp resolved
    dsimp only at same
    refine ⟨_, _, ⟨rfl, rfl⟩, absent, left, _, ⟨outer, rfl⟩,
      member, table, _, ⟨held, rfl⟩, right, _, ⟨found, rfl⟩, same, ?_⟩
    simp [Draft.record, notingAll, noting_self, same]

/-- A condition that may follow no limit. -/
theorem yields_allows {name : String} {predicate : Lambda} {result : Unit} :
    Yields (do requireUnlimited name; addCondition catalog predicate) before result after ↔
      before.Allows catalog.lookup predicate ∧
        ∃ reading, predicate.body.predicate? catalog.lookup = some reading ∧
          after = { before.record reading.columns reading.values with
            conditions := before.conditions ++
              [reading.condition before.parameters.stem false before.parameters.size] } := by
  simp only [yields_bind, yields_requireUnlimited, yields_addCondition, Draft.Allows]
  refine ⟨?_, ?_⟩
  · intro yields
    obtain ⟨_, middle, ⟨unlimited, same⟩, reading, read, fits, rfl⟩ := yields
    subst same
    exact ⟨⟨unlimited, reading, read, fits⟩, reading, read, rfl⟩
  · intro specified
    obtain ⟨⟨unlimited, _, allowed, fits⟩, _, read, rfl⟩ := specified
    cases allowed.symm.trans read
    exact ⟨⟨⟩, _, ⟨unlimited, rfl⟩, _, read, fits, rfl⟩

theorem yields_take {count : Expr} {result : Unit} :
    Yields (ascend catalog (.take count)) before result after ↔
      ∃ number, count.evaluateCount = .ok number ∧
        (number = 0 → before.outline.skipped = none) ∧
        after = { before with outline := { before.outline with taken := some number } } := by
  simp only [ascend, yields_bind, yields_settle, yields_onOutline, Outline.take_eq_ok]
  refine ⟨?_, ?_⟩
  · intro yields
    obtain ⟨number, _, ⟨counted, rfl⟩, _, ⟨page, rfl⟩, rfl⟩ := yields
    exact ⟨number, counted, page, rfl⟩
  · intro specified
    obtain ⟨number, counted, page, rfl⟩ := specified
    exact ⟨number, _, ⟨counted, rfl⟩, _, ⟨page, rfl⟩, rfl⟩

theorem yields_skip {count : Expr} {result : Unit} :
    Yields (ascend catalog (.skip count)) before result after ↔
      ∃ number, count.evaluateCount = .ok number ∧ before.outline.taken = none ∧
        after = { before with outline := { before.outline with skipped := some number } } := by
  simp only [ascend, yields_bind, yields_settle, yields_onOutline, Outline.skip_eq_ok]
  refine ⟨?_, ?_⟩
  · intro yields
    obtain ⟨number, _, ⟨counted, rfl⟩, _, ⟨untaken, rfl⟩, rfl⟩ := yields
    exact ⟨number, counted, untaken, rfl⟩
  · intro specified
    obtain ⟨number, counted, untaken, rfl⟩ := specified
    exact ⟨number, _, ⟨counted, rfl⟩, _, ⟨untaken, rfl⟩, rfl⟩

theorem yields_distinct {result : Unit} :
    Yields (ascend catalog .distinct) before result after ↔
      before.outline.isLimited = false ∧
        after = { before with outline := before.outline.requireDistinct } := by
  simp only [ascend, yields_bind, yields_requireUnlimited, yields_onOutline]
  refine ⟨?_, ?_⟩
  · intro yields
    obtain ⟨_, _, ⟨unlimited, rfl⟩, _, same, rfl⟩ := yields
    cases same
    exact ⟨unlimited, rfl⟩
  · intro specified
    obtain ⟨unlimited, rfl⟩ := specified
    exact ⟨⟨⟩, _, ⟨unlimited, rfl⟩, _, rfl, rfl⟩

/-- One row makes a page, whatever the offset. -/
theorem yields_single {result : Unit} :
    Yields (onOutline (·.take 1)) before result after ↔
      after = { before with outline := { before.outline with taken := some 1 } } := by
  simp [yields_onOutline, Outline.take_eq_ok]

theorem yields_firstWhere {predicate : Lambda} {mode : FirstMode} {result : Unit} :
    Yields (ascend catalog (.first (some predicate) mode)) before result after ↔
      before.Allows catalog.lookup predicate ∧
        ∃ reading, predicate.body.predicate? catalog.lookup = some reading ∧
          after = { before.record reading.columns reading.values with
            outline := { before.outline with taken := some 1 }
            conditions := before.conditions ++
              [reading.condition before.parameters.stem false before.parameters.size] } := by
  have steps : ascend catalog (.first (some predicate) mode) = (do
      (do requireUnlimited "A First predicate"; addCondition catalog predicate)
      onOutline (·.take 1)) := by
    rw [ascend, bind_assoc]
  rw [steps, yields_bind]
  simp only [yields_allows, yields_single]
  refine ⟨?_, ?_⟩
  · intro yields
    obtain ⟨_, _, ⟨allowed, reading, read, rfl⟩, rfl⟩ := yields
    exact ⟨allowed, reading, read, rfl⟩
  · intro specified
    obtain ⟨allowed, reading, read, rfl⟩ := specified
    exact ⟨⟨⟩, _, ⟨allowed, reading, read, rfl⟩, rfl⟩

theorem yields_ascend {operator : Operator} :
    Yields (ascend catalog operator) before ⟨⟩ after ↔
      operator.Admissible catalog.lookup before ∧
        after = before.ascend catalog.lookup operator := by
  cases operator with
  | filter predicate =>
      refine yields_allows.trans (and_congr_right ?_)
      intro allowed
      obtain ⟨_, reading, read, _⟩ := allowed
      simp [ascend_reads before (.filter predicate) rfl read rfl rfl, read]
  | select projector =>
      rw [ascend_plain before (.select projector) rfl rfl rfl]
      simp [ascend, Operator.Admissible]
  | join inner outerKey innerKey =>
      simp only [ascend, yields_bind, yields_requireUnlimited, yields_join, Operator.Admissible]
      refine ⟨?_, ?_⟩
      · intro yields
        obtain ⟨_, middle, ⟨unlimited, same⟩, absent, planned, resolved,
          left, right, rfl⟩ := yields
        subst same
        exact ⟨⟨unlimited, absent, planned, resolved, left, right⟩,
          (ascend_join middle resolved).symm⟩
      · intro specified
        obtain ⟨⟨unlimited, absent, planned, resolved, left, right⟩, rfl⟩ := specified
        exact ⟨⟨⟩, _, ⟨unlimited, rfl⟩, absent, planned, resolved, left, right,
          ascend_join before resolved⟩
  | orderBy key direction =>
      rw [ascend_plain before (.orderBy key direction) rfl rfl rfl]
      simp [ascend, yields_requireUnlimited, Operator.Admissible]
  | take count =>
      rw [yields_take, ascend_plain before (.take count) rfl rfl rfl]
      refine ⟨?_, ?_⟩
      · intro specified
        obtain ⟨number, counted, page, rfl⟩ := specified
        exact ⟨⟨number, counted, page⟩, by rw [Outline.after_take _ counted]⟩
      · intro specified
        obtain ⟨⟨number, counted, page⟩, rfl⟩ := specified
        exact ⟨number, counted, page, by rw [Outline.after_take _ counted]⟩
  | skip count =>
      rw [yields_skip, ascend_plain before (.skip count) rfl rfl rfl]
      refine ⟨?_, ?_⟩
      · intro specified
        obtain ⟨number, counted, untaken, rfl⟩ := specified
        exact ⟨⟨number, counted, untaken⟩, by rw [Outline.after_skip _ counted]⟩
      · intro specified
        obtain ⟨⟨number, counted, untaken⟩, rfl⟩ := specified
        exact ⟨number, counted, untaken, by rw [Outline.after_skip _ counted]⟩
  | distinct =>
      rw [yields_distinct, ascend_plain before .distinct rfl rfl rfl, Outline.after_distinct]
      rfl
  | first predicate mode =>
      cases predicate with
      | none =>
          rw [ascend_plain before (.first none mode) rfl rfl rfl, Outline.after_first]
          simp [ascend, yields_single, Operator.Admissible]
      | some predicate =>
          refine yields_firstWhere.trans (and_congr_right ?_)
          intro allowed
          obtain ⟨_, reading, read, _⟩ := allowed
          simp [ascend_reads before (.first (some predicate) mode) rfl read rfl rfl, read]

end Planning

end QueryChain
