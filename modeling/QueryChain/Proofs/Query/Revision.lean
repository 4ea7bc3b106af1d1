import Mathlib.Data.List.Forall2
import QueryChain.Proofs.Expr.Known
import QueryChain.Proofs.Plan.Alignment
import QueryChain.Proofs.Plan.Statement
import QueryChain.Proofs.Query.Compiled
import QueryChain.Proofs.Sql.Parameters

namespace QueryChain

open Json Schema

/-! Queries that bind other values, under other names.

A revision of a query replaces values that its conditions compare columns with, and renames
parameters and captured variables.  It compiles when the query does, to the same text with the
same parameters, which then hold the values of the revision.
-/

namespace Expr

/-- The value of a constant or a captured variable. -/
def given? : Expr → Option Value
  | .constant value => some value
  | .captured _ value => some value
  | _ => none

/-- The entity of a parameter. -/
def whole? : Expr → Option Entity
  | .parameter param => some param.entity
  | _ => none

/-- An operand that is renamed, or that gives another value; null is not replaced. -/
inductive OperandRevised : Expr → Expr → List Change → Prop where
  | kept {expr other : Expr} (renames : expr.Renames other) :
      OperandRevised expr other (expr.written?.toList.map Change.kept)
  | replaced {expr other : Expr} {change : Change} (bound : change.old.isNull = false)
      (given : expr.given? = some change.old) (givenToo : other.given? = some change.new) :
      OperandRevised expr other [change]

/-- A collection that is renamed, or that gives other values, null in the same places. -/
inductive CollectionRevised : Expr → Expr → List Change → Prop where
  | kept {expr other : Expr} (renames : expr.Renames other) :
      CollectionRevised expr other ((expr.evaluateList.toOption.getD []).map Change.kept)
  | replaced {expr other : Expr} {changes : List Change}
      (given : expr.given? = some (.array (changes.map Change.old)))
      (givenToo : other.given? = some (.array (changes.map Change.new))) :
      CollectionRevised expr other changes

/-- A condition in which values that columns are compared with are replaced, and which is
otherwise renamed.  The changes are those of all values that the condition writes, in order. -/
inductive Revised : Expr → Expr → List Change → Prop where
  | not {operand operand' : Expr} {changes : List Change}
      (revised : Revised operand operand' changes) :
      Revised (.not operand) (.not operand') changes
  | connect {left left' right right' : Expr} {changes more : List Change} (op : Connective)
      (first : Revised left left' changes) (second : Revised right right' more) :
      Revised (.connect op left right) (.connect op left' right') (changes ++ more)
  | compare {left left' right right' : Expr} {changes more : List Change} (op : Comparison)
      (first : OperandRevised left left' changes) (second : OperandRevised right right' more) :
      Revised (.compare op left right) (.compare op left' right') (changes ++ more)
  | stringMatch {target target' value value' : Expr} {changes : List Change} (op : StringOp)
      (column : target.Renames target') (pattern : OperandRevised value value' changes) :
      Revised (.stringMatch op target value) (.stringMatch op target' value') changes
  | collectionContains {collection collection' item item' : Expr} {changes : List Change}
      (column : item.Renames item') (values : CollectionRevised collection collection' changes) :
      Revised (.collectionContains collection item) (.collectionContains collection' item') changes
  | hasValue {operand operand' : Expr} (column : operand.Renames operand') :
      Revised (.hasValue operand) (.hasValue operand') []
  | isNullOrEmpty {operand operand' : Expr} (column : operand.Renames operand') :
      Revised (.isNullOrEmpty operand) (.isNullOrEmpty operand') []
  | member {target target' : Expr} {name name' : String}
      (renames : Renames (.member target name) (.member target' name')) :
      Revised (.member target name) (.member target' name') []
  | constant (value : Value) : Revised (.constant value) (.constant value) []
  | captured (name name' : String) (value : Value) :
      Revised (.captured name value) (.captured name' value) []
  | parameter (param param' : Param) : Revised (.parameter param) (.parameter param') []
  | array (items items' : List Expr) : Revised (.array items) (.array items') []

theorem written?_unnamed (expr : Expr) : expr.unnamed.written? = expr.written? := by
  have same := congrArg₂
    (fun (named : Option (Entity × String)) (value : Option Value) =>
      if named.isSome then none else value)
    (column?_unnamed expr) (toOption_evaluate_unnamed expr)
  cases expr with
  | array _ => rfl
  | parameter _ | member _ _ | hasValue _ | constant _ | captured _ _ | compare _ _ _
  | connect _ _ _ | not _ | stringMatch _ _ _ | collectionContains _ _
  | isNullOrEmpty _ => exact same

theorem whole?_unnamed (expr : Expr) : expr.unnamed.whole? = expr.whole? := by
  cases expr <;> rfl

theorem Renames.written? {expr other : Expr} (renames : expr.Renames other) :
    other.written? = expr.written? := by
  rw [← written?_unnamed, renames, written?_unnamed]

theorem Renames.whole? {expr other : Expr} (renames : expr.Renames other) :
    other.whole? = expr.whole? := by
  rw [← whole?_unnamed, renames, whole?_unnamed]

theorem written?_of_given? {expr : Expr} {value : Value} (given : expr.given? = some value) :
    expr.written? = some value := by
  cases expr <;> first | exact given | cases given

theorem evaluate_of_given? {expr : Expr} {value : Value} (given : expr.given? = some value) :
    expr.evaluate = .ok value := by
  cases expr with
  | constant _ | captured _ _ => cases given; rfl
  | _ => cases given

end Expr

namespace Planning

variable {catalog : Catalog} {expr other : Expr}

theorem aligned_operand {changes : List Change} (revised : expr.OperandRevised other changes) :
    Aligned Eq changes (operand catalog expr) (operand catalog other) := by
  cases revised with
  | replaced bound given givenToo =>
      rw [operand_of_written (Expr.written?_of_given? given),
        operand_of_written (Expr.written?_of_given? givenToo)]
      exact aligned_bindValue _
  | kept renames =>
      cases written : expr.written? with
      | some value =>
          rw [operand_of_written written, operand_of_written (renames.written?.trans written)]
          exact aligned_bindValue (.kept value)
      | none =>
          have unwritten := renames.written?.trans written
          cases named : expr.column? with
          | some member =>
              rw [operand_of_column named, operand_of_column (renames.column?.trans named)]
              exact (aligned_column _ _).map
          | none =>
              obtain ⟨cause, fails⟩ := operand_of_neither catalog named written
              obtain ⟨cause', failsToo⟩ := operand_of_neither catalog
                (renames.column?.trans named) unwritten
              rw [fails, failsToo]
              exact .throw

theorem aligned_knownCondition (negated : Bool)
    (evaluates : other.evaluate.toOption = expr.evaluate.toOption) :
    Aligned Eq [] (knownCondition expr negated) (knownCondition other negated) := by
  refine .seq (.settle evaluates) ?_
  intro value _ same
  subst same
  cases value.asBool? with
  | none => exact .throw
  | some flag => exact .pure rfl

theorem aligned_flagCondition (entity : Entity) (property : String) (negated : Bool) :
    Aligned Eq [] (flagCondition catalog entity property negated)
      (flagCondition catalog entity property negated) := by
  refine .seq (aligned_column entity property) ?_
  intro column _ same
  subst same
  split
  · exact .pure rfl
  · exact .throw

/-- Membership in the values of a collection; in no value it is known. -/
theorem aligned_membership (column : ColumnRef) (negated : Bool) (changes : List Change) :
    let membership (values : List Value) : Planning (Sql.Condition ColumnRef) := do
      if values.isEmpty then return .truth negated
      return .oneOf negated column (← bindValues values)
    Aligned Eq changes (membership (changes.map Change.old))
      (membership (changes.map Change.new)) := by
  cases changes with
  | nil => exact .pure rfl
  | cons change rest => exact (aligned_bindValues (change :: rest)).map

theorem Expr.CollectionRevised.evaluateList {changes : List Change}
    (revised : expr.CollectionRevised other changes) :
    (∃ cause cause', expr.evaluateList = .error cause ∧ other.evaluateList = .error cause') ∨
      expr.evaluateList = .ok (changes.map Change.old) ∧
        other.evaluateList = .ok (changes.map Change.new) := by
  cases revised with
  | replaced given givenToo =>
      refine .inr ⟨?_, ?_⟩
      · simp only [Expr.evaluateList, Expr.evaluate_of_given? given]
        rfl
      · simp only [Expr.evaluateList, Expr.evaluate_of_given? givenToo]
        rfl
  | kept renames =>
      have same := renames.evaluateList
      cases evaluated : expr.evaluateList with
      | error cause =>
          cases evaluatedToo : other.evaluateList with
          | error cause' => exact .inl ⟨cause, cause', rfl, rfl⟩
          | ok values => simp [evaluated, evaluatedToo, Except.toOption] at same
      | ok values =>
          cases evaluatedToo : other.evaluateList with
          | error cause' => simp [evaluated, evaluatedToo, Except.toOption] at same
          | ok values' =>
              simp only [evaluated, evaluatedToo, Except.toOption, Option.some.injEq] at same
              subst same
              simp [Except.toOption, Change.kept, Function.comp_def]

theorem aligned_collectionContains {collection collection' item item' : Expr}
    {changes : List Change}
    (negated : Bool) (column : item.Renames item')
    (values : collection.CollectionRevised collection' changes) :
    Aligned Eq changes (condition catalog (.collectionContains collection item) negated)
      (condition catalog (.collectionContains collection' item') negated) := by
  refine .seq (aligned_columnOr column.column?) ?_
  intro found _ same
  subst same
  rcases Expr.CollectionRevised.evaluateList values with
    ⟨cause, cause', fails, failsToo⟩ | ⟨evaluated, evaluatedToo⟩
  · rw [fails, failsToo]
    exact .throw
  · rw [evaluated, evaluatedToo]
    exact aligned_membership found negated changes

theorem aligned_condition {changes : List Change} (revised : expr.Revised other changes)
    (negated : Bool) :
    Aligned Eq changes (condition catalog expr negated) (condition catalog other negated) := by
  induction revised generalizing negated with
  | not _ ih => exact ih _
  | connect op _ _ ihFirst ihSecond =>
      refine .bind (ihFirst false) ?_
      intro left _ same
      subst same
      exact (ihSecond false).map
  | compare op first second =>
      refine .bind (aligned_operand first) ?_
      intro left _ same
      subst same
      exact (aligned_operand second).map
  | stringMatch op column pattern =>
      refine .seq (aligned_columnOr column.column?) ?_
      intro found _ same
      subst same
      exact (aligned_operand pattern).map
  | collectionContains column values => exact aligned_collectionContains negated column values
  | hasValue column | isNullOrEmpty column => exact (aligned_columnOr column.column?).map
  | member renames =>
      have named := renames.column?
      unfold condition
      simp only [named]
      split
      · exact aligned_flagCondition _ _ negated
      · exact aligned_knownCondition negated renames.evaluate
  | constant value => exact aligned_knownCondition negated rfl
  | captured name name' value => exact aligned_knownCondition negated rfl
  | parameter param param' | array items items' => exact .throw

theorem aligned_addCondition {predicate predicate' : Lambda} {changes : List Change}
    (revised : predicate.body.Revised predicate'.body changes) :
    Aligned Eq changes (addCondition catalog predicate) (addCondition catalog predicate') := by
  refine .last (aligned_condition revised false) ?_
  intro condition _ same
  subst same
  exact .modify fun varies => ⟨varies.values, by rw [varies.varied]⟩

end Planning

/-- An operator in which values are replaced as in its condition, and which is otherwise renamed. -/
inductive Operator.Revised : Operator → Operator → List Change → Prop where
  | filter {predicate predicate' : Lambda} {changes : List Change}
      (revised : predicate.body.Revised predicate'.body changes) :
      Revised (.filter predicate) (.filter predicate') changes
  | select {projector projector' : Lambda} (renames : projector.body.Renames projector'.body) :
      Revised (.select projector) (.select projector') []
  | join {outerKey outerKey' innerKey innerKey' : Lambda} (inner : Entity)
      (outer : outerKey.body.Renames outerKey'.body)
        (renames : innerKey.body.Renames innerKey'.body) :
      Revised (.join inner outerKey innerKey) (.join inner outerKey' innerKey') []
  | orderBy {key key' : Lambda} (direction : Direction) (renames : key.body.Renames key'.body) :
      Revised (.orderBy key direction) (.orderBy key' direction) []
  | take {count count' : Expr} (renames : count.Renames count') :
      Revised (.take count) (.take count') []
  | skip {count count' : Expr} (renames : count.Renames count') :
      Revised (.skip count) (.skip count') []
  | distinct : Revised .distinct .distinct []
  | first (mode : FirstMode) : Revised (.first none mode) (.first none mode) []
  | firstOf {predicate predicate' : Lambda} {changes : List Change} (mode : FirstMode)
      (revised : predicate.body.Revised predicate'.body changes) :
      Revised (.first (some predicate) mode) (.first (some predicate') mode) changes

/-- Chains whose operators are revised one by one. -/
inductive Operator.AllRevised : List Operator → List Operator → List Change → Prop where
  | nil : AllRevised [] [] []
  | cons {operator operator' : Operator} {rest rest' : List Operator} {changes more : List Change}
      (revised : operator.Revised operator' changes) (following : AllRevised rest rest' more) :
      AllRevised (operator :: rest) (operator' :: rest') (changes ++ more)

/-- A query under other names, with other values.  The changes are those of all values that the
query writes, in the order of writing. -/
structure Query.Revised (query other : Query) (changes : List Change) : Prop where
  source : other.source = query.source
  operators : Operator.AllRevised query.operators other.operators changes

namespace Planning

variable {catalog : Catalog} {operator operator' : Operator} {changes : List Change}

theorem projection_of_whole {projector : Lambda} {entity : Entity}
    (whole : projector.body.whole? = some entity) :
    projection catalog projector = do
      noteReference entity
      return .entity entity := by
  obtain ⟨params, body⟩ := projector
  cases body <;> cases whole
  rfl

theorem projection_of_column {projector : Lambda} {entity : Entity} {property : String}
    (named : projector.body.column? = some (entity, property)) :
    projection catalog projector = do
      let column ← column catalog entity property
      return .property entity column.column.property := by
  obtain ⟨params, body⟩ := projector
  cases body with
  | member target name =>
      unfold projection
      simp only [named]
  | _ => cases named

theorem projection_of_neither (catalog : Catalog) {projector : Lambda}
    (unwhole : projector.body.whole? = none)
    (unnamed : projector.body.column? = none) :
    ∃ cause, projection catalog projector = throw cause := by
  obtain ⟨params, body⟩ := projector
  cases body with
  | parameter param => cases unwhole
  | member target name =>
      refine ⟨.usage .computedProjection, ?_⟩
      unfold projection
      simp only [unnamed]
  | _ => exact ⟨_, rfl⟩

theorem aligned_projection {projector projector' : Lambda}
    (renames : projector.body.Renames projector'.body) :
    Aligned Eq [] (projection catalog projector) (projection catalog projector') := by
  cases whole : projector.body.whole? with
  | some entity =>
      rw [projection_of_whole whole, projection_of_whole (renames.whole?.trans whole)]
      refine .seq (aligned_noteReference entity) ?_
      intro _ _ _
      exact .pure rfl
  | none =>
      cases named : projector.body.column? with
      | some member =>
          rw [projection_of_column named, projection_of_column (renames.column?.trans named)]
          refine .seq (aligned_column _ _) ?_
          intro column _ same
          subst same
          exact .pure rfl
      | none =>
          obtain ⟨cause, fails⟩ := projection_of_neither catalog whole named
          obtain ⟨cause', failsToo⟩ := projection_of_neither catalog
            (renames.whole?.trans whole) (renames.column?.trans named)
          rw [fails, failsToo]
          exact .throw

theorem aligned_descend (revised : operator.Revised operator' changes) :
    Aligned Eq [] (descend catalog operator) (descend catalog operator') := by
  cases revised with
  | select renames =>
      refine .seq (aligned_projection renames) ?_
      intro projection _ same
      subst same
      exact .modify fun varies => ⟨varies.values, by rw [varies.varied]⟩
  | orderBy direction renames =>
      refine .seq (aligned_columnOr renames.column?) ?_
      intro column _ same
      subst same
      exact .modify fun varies => ⟨varies.values, by rw [varies.varied]⟩
  | filter _ | join _ _ _ | take _ | skip _ | distinct | first _ | firstOf _ _ => exact .pure rfl

theorem aligned_join {outerKey outerKey' innerKey innerKey' : Lambda} (inner : Entity)
    (outer : outerKey.body.Renames outerKey'.body)
    (renames : innerKey.body.Renames innerKey'.body) :
    Aligned Eq [] (join catalog inner outerKey innerKey)
      (join catalog inner outerKey' innerKey') := by
  refine .seq .get ?_
  intro draft other varies
  obtain ⟨_, varies⟩ := varies
  rw [varies.varied]
  refine .guarded (.seq (aligned_columnOr outer.column?) ?_)
  intro left _ same
  subst same
  refine .guarded (.seq (aligned_resolve inner) ?_)
  intro table _ same
  subst same
  refine .seq (aligned_columnOr renames.column?) ?_
  intro right _ same
  subst same
  exact .guarded (.modify fun varies => ⟨varies.values, by rw [varies.varied]⟩)

theorem aligned_ascend (revised : operator.Revised operator' changes) :
    Aligned Eq changes (ascend catalog operator) (ascend catalog operator') := by
  cases revised with
  | filter revised =>
      refine .seq (aligned_requireUnlimited _) ?_
      intro _ _ _
      exact aligned_addCondition revised
  | select _ => exact .pure rfl
  | join inner outer renames =>
      refine .seq (aligned_requireUnlimited _) ?_
      intro _ _ _
      exact aligned_join inner outer renames
  | orderBy _ _ => exact aligned_requireUnlimited _
  | take renames | skip renames =>
      refine .seq (.settle renames.evaluateCount) ?_
      intro count _ same
      subst same
      exact aligned_onOutline _
  | distinct =>
      refine .seq (aligned_requireUnlimited _) ?_
      intro _ _ _
      exact aligned_onOutline _
  | first mode => exact aligned_onOutline (·.take 1)
  | firstOf mode revised =>
      refine .seq (aligned_requireUnlimited _) ?_
      intro _ _ _
      refine .last (aligned_addCondition revised) ?_
      intro _ _ _
      exact aligned_onOutline _

theorem aligned_descendAll {operators others : List Operator}
    (revised : List.Forall₂ (fun operator other => ∃ changes, operator.Revised other changes)
      operators others) :
    Aligned Eq [] (walk (descend catalog) operators) (walk (descend catalog) others) := by
  induction revised with
  | nil => exact .pure rfl
  | cons first _ ih =>
      obtain ⟨changes, first⟩ := first
      refine .seq (aligned_descend first) ?_
      intro _ _ _
      exact ih

theorem aligned_ascendAll {operators others : List Operator}
    (revised : Operator.AllRevised operators others changes) :
    Aligned Eq changes (walk (ascend catalog) operators) (walk (ascend catalog) others) := by
  induction revised with
  | nil => exact .pure rfl
  | cons first _ ih =>
      refine .bind (aligned_ascend first) ?_
      intro _ _ _
      exact ih

end Planning

namespace Operator

theorem Revised.joined? {operator operator' : Operator} {changes : List Change}
    (revised : operator.Revised operator' changes) : operator'.joined? = operator.joined? := by
  cases revised <;> rfl

theorem AllRevised.forall₂ {operators others : List Operator} {changes : List Change}
    (revised : AllRevised operators others changes) :
    List.Forall₂ (fun operator other => ∃ changes, operator.Revised other changes)
      operators others := by
  induction revised with
  | nil => exact .nil
  | cons first _ ih => exact .cons ⟨_, first⟩ ih

theorem AllRevised.joined {operators others : List Operator} {changes : List Change}
    (revised : AllRevised operators others changes) :
    others.filterMap Operator.joined? = operators.filterMap Operator.joined? := by
  induction revised with
  | nil => rfl
  | cons first _ ih => simp only [List.filterMap_cons, first.joined?, ih]

end Operator

namespace Planning

variable {catalog : Catalog} {query other : Query} {changes : List Change}

/-- The plan of a revision is that of the query, apart from the values bound. -/
theorem aligned_plan (catalog : Catalog) (root : Entity) (revised : query.Revised other changes) :
    Aligned (fun plan plan' => plan' = { plan with parameters := plan'.parameters }) changes
      (Planning.plan catalog root query) (Planning.plan catalog root other) := by
  have reversed := List.forall₂_reverse_iff.mpr revised.operators.forall₂
  have tables : other.tables = query.tables := by
    rw [Query.tables, revised.source, revised.operators.joined, Query.tables]
  unfold Planning.plan
  rw [revised.source, tables]
  refine .guarded (.seq (aligned_resolveTables _) ?_)
  intro _ _ _
  refine .seq (aligned_resolve root) ?_
  intro table _ same
  subst same
  refine .seq (aligned_descendAll reversed) ?_
  intro _ _ _
  refine .last (aligned_ascendAll revised.operators) ?_
  intro _ _ _
  refine .seq aligned_checkReferences ?_
  intro _ _ _
  refine .seq .get ?_
  intro draft _ varies
  obtain ⟨_, varies⟩ := varies
  rw [varies.varied]
  refine .seq (aligned_selection _) ?_
  intro chosen _ same
  subst same
  refine .seq .get ?_
  intro draft _ varies
  obtain ⟨_, varies⟩ := varies
  rw [varies.varied]
  exact .pure rfl

end Planning

section Compiled

open Planning

variable {query other : Query} {changes : List Change}

theorem Planning.parameters_of_yields {catalog : Catalog} {settings : Settings} {plan : Plan}
    {after : Draft}
    (yields : Yields (Planning.plan catalog query.source query) (.ofRoot settings query.source)
      plan after) : plan.parameters = after.parameters := by
  obtain ⟨_, _, _, _, _, rfl⟩ := yields_plan.mp yields
  rfl

/-- Planning does not look at values: a revision resolves the same entities, and its plan
differs in the values bound. -/
theorem Query.Revised.plan (revised : query.Revised other changes) (catalog : Catalog)
    (settings : Settings) :
    (other.plan catalog settings other.source).2.resolved =
        (query.plan catalog settings query.source).2.resolved ∧
      ((∃ cause cause', (query.plan catalog settings query.source).1 = .error cause ∧
          (other.plan catalog settings other.source).1 = .error cause') ∨
        ∃ plan, (query.plan catalog settings query.source).1 = .ok plan ∧
          plan.parameters.values = (Change.bound changes).map Change.old ∧
          (other.plan catalog settings other.source).1 = .ok { plan with
            parameters :=
              { plan.parameters with values := (Change.bound changes).map Change.new } }) := by
  have outcomes := aligned_plan catalog query.source revised []
    (.ofRoot settings query.source) (.ofRoot settings query.source) ⟨rfl, rfl⟩
  rw [revised.source]
  unfold Query.plan
  rcases run : (Planning.plan catalog query.source query).run.run (.ofRoot settings query.source)
    with ⟨outcome, draft⟩
  rcases runToo : (Planning.plan catalog query.source other).run.run (.ofRoot settings query.source)
    with ⟨outcome', draft'⟩
  rw [run, runToo] at outcomes
  cases outcomes with
  | error resolved => exact ⟨resolved, .inl ⟨_, _, rfl, rfl⟩⟩
  | ok agrees varies =>
      rename_i plan plan'
      have parameters := parameters_of_yields run
      rw [← revised.source] at runToo
      have parametersToo := parameters_of_yields runToo
      obtain ⟨values, rfl⟩ := varies
      refine ⟨rfl, .inr ⟨plan, rfl, ?_, ?_⟩⟩
      · rw [parameters, values]
        rfl
      · rw [agrees, parametersToo, parameters]
        rfl

/-- A revision compiles if and only if the query does, with the same effect on the registry.  It
compiles to the same text and shape, with parameters of the same names, and their values are
those of the query with the replacements in their places. -/
theorem Schema.Registry.compile_revised (registry : Registry) (settings : Settings)
    (revised : query.Revised other changes) :
    (registry.compile settings other).2 = (registry.compile settings query).2 ∧
      ((∃ compiled, (registry.compile settings query).1 = .ok compiled) ↔
        ∃ compiled, (registry.compile settings other).1 = .ok compiled) ∧
      ∀ compiled compiled', (registry.compile settings query).1 = .ok compiled →
        (registry.compile settings other).1 = .ok compiled' →
        compiled'.sql = compiled.sql ∧
        compiled'.parameters.names = compiled.parameters.names ∧
        compiled'.shape = compiled.shape ∧
        compiled.parameters.values = (Change.bound changes).map Change.old ∧
        compiled'.parameters.values = (Change.bound changes).map Change.new := by
  obtain ⟨resolved, outcomes⟩ := revised.plan registry.catalog settings
  unfold compile compileAt
  rcases run : query.plan registry.catalog settings query.source with ⟨outcome, draft⟩
  rcases runToo : other.plan registry.catalog settings other.source with ⟨outcome', draft'⟩
  rw [run, runToo] at resolved outcomes
  dsimp only at resolved outcomes ⊢
  rw [resolved]
  rcases outcomes with ⟨cause, cause', rfl, rfl⟩ | ⟨plan, rfl, values, rfl⟩
  · refine ⟨rfl, ?_, ?_⟩
    · refine ⟨?_, ?_⟩
      · intro compiles
        obtain ⟨_, fails⟩ := compiles
        cases fails
      · intro compiles
        obtain ⟨_, fails⟩ := compiles
        cases fails
    · intro _ _ fails
      cases fails
  · refine ⟨rfl, ⟨fun _ => ⟨_, rfl⟩, fun _ => ⟨_, rfl⟩⟩, ?_⟩
    intro compiled compiled' compiles compilesToo
    cases compiles
    cases compilesToo
    refine ⟨?_, ?_, rfl, values, rfl⟩
    · simp only [Compiled.sql, Plan.compiled, Plan.statement_eq]
    · simp only [Plan.compiled, Sql.Parameters.names, Sql.Parameters.entries,
        Sql.Parameters.entriesFrom_names, values, List.length_map]

end Compiled

namespace Sample

/-- Players that are not called Bob, with no team or team 8; every name differs. -/
def revision : Query :=
  let row : Param := ⟨"x", players⟩
  let joined : Param := ⟨"y", teams⟩
  ⟨players,
    [.join teams ⟨[row], .field row "TeamId"⟩ ⟨[], .field joined "TeamId"⟩,
      .filter ⟨[row],
        .not (.compare .eq (.field row "Name") (.constant (.string "Bob' OR 1=1")))⟩,
      .filter ⟨[joined, row],
        .collectionContains (.captured "ids" (.array [.null, .number (.int 8)]))
          (.field joined "TeamId")⟩,
      .orderBy ⟨[row], .field row "Id"⟩ .descending,
      .take (.constant (.number (.int 3)))]⟩

/-- What the revision changes: a name, and one team of two. -/
def replacements : List Change :=
  [⟨.string "Ada", .string "Bob' OR 1=1", rfl⟩, .kept .null,
    ⟨.number (.int 7), .number (.int 8), rfl⟩]

theorem query_revised : query.Revised revision replacements where
  source := rfl
  operators := by
    have renamed : ∀ (name name' : String) (entity : Entity) (property : String),
        (Expr.field ⟨name, entity⟩ property).Renames (.field ⟨name', entity⟩ property) :=
      fun _ _ _ _ => rfl
    refine .cons (.join _ (renamed _ _ _ _) (renamed _ _ _ _)) ?_
    refine @Operator.AllRevised.cons _ _ _ _ [⟨.string "Ada", .string "Bob' OR 1=1", rfl⟩] _
      (.filter (.not (@Expr.Revised.compare _ _ _ _ [] _ _ (.kept (renamed _ _ _ _))
        (.replaced rfl rfl rfl)))) ?_
    refine @Operator.AllRevised.cons _ _ _ _
      [.kept .null, ⟨.number (.int 7), .number (.int 8), rfl⟩] _
      (.filter (.collectionContains (renamed _ _ _ _) (.replaced rfl rfl))) ?_
    refine .cons (.orderBy _ (renamed _ _ _ _)) ?_
    exact .cons (.take rfl) .nil

theorem revision_compiles : query.Revised revision replacements ∧ ∃ compiled compiled' after,
    (Registry.ofCatalog catalog).compile {} query = (.ok compiled, after) ∧
      (Registry.ofCatalog catalog).compile {} revision = (.ok compiled', after) ∧
      compiled'.sql = compiled.sql ∧
      compiled.parameters.values = [.string "Ada", .number (.int 7)] ∧
      compiled'.parameters.values = [.string "Bob' OR 1=1", .number (.int 8)] := by
  obtain ⟨compiled, after, compiles⟩ := query_compiles
  obtain ⟨same, succeeds, agree⟩ :=
    Registry.compile_revised (Registry.ofCatalog catalog) {} query_revised
  have succeeded : ((Registry.ofCatalog catalog).compile {} query).1 = .ok compiled :=
    congrArg Prod.fst compiles
  obtain ⟨compiled', succeedsToo⟩ := succeeds.mp ⟨compiled, succeeded⟩
  obtain ⟨sql, _, _, values, valuesToo⟩ := agree compiled compiled' succeeded succeedsToo
  have kept : ((Registry.ofCatalog catalog).compile {} revision).2 = after := by rw [same, compiles]
  exact ⟨query_revised, compiled, compiled', after, compiles,
    Prod.ext succeedsToo kept, sql, values, valuesToo⟩

end Sample

end QueryChain
