import QueryChain.Proofs.Plan.Steps

namespace QueryChain

open Json Schema

/-! Which entities planning resolves, whether it succeeds or fails.

A step resolves no entities but those that it names: a table that it joins, and the entities of
parameters in its lambdas.  A computation is confined to a scope if it resolves no entity outside
of it, so that what a failed query leaves behind is known as well.
-/

namespace Expr

mutual

/-- The entities of the parameters that occur in an expression. -/
def entities : Expr → List Entity
  | .parameter param => [param.entity]
  | .member target _ => target.entities
  | .hasValue operand => operand.entities
  | .constant _ => []
  | .captured _ _ => []
  | .array items => entitiesOfItems items
  | .compare _ left right => left.entities ++ right.entities
  | .connect _ left right => left.entities ++ right.entities
  | .not operand => operand.entities
  | .stringMatch _ target value => target.entities ++ value.entities
  | .collectionContains collection item => collection.entities ++ item.entities
  | .isNullOrEmpty operand => operand.entities

def entitiesOfItems : List Expr → List Entity
  | [] => []
  | item :: rest => item.entities ++ entitiesOfItems rest

end

theorem entities_of_column? {expr : Expr} {entity : Entity} {property : String}
    (named : expr.column? = some (entity, property)) : expr.entities = [entity] := by
  cases expr with
  | member target name =>
      cases target <;> cases named
      rfl
  | parameter _ | hasValue _ | constant _ | captured _ _ | array _ | compare _ _ _
  | connect _ _ _ | not _ | stringMatch _ _ _ | collectionContains _ _ | isNullOrEmpty _ =>
      cases named

end Expr

namespace Operator

def lambdas : Operator → List Lambda
  | .filter predicate => [predicate]
  | .select projector => [projector]
  | .join _ outerKey innerKey => [outerKey, innerKey]
  | .orderBy key _ => [key]
  | .take _ => []
  | .skip _ => []
  | .distinct => []
  | .first predicate _ => predicate.toList

end Operator

/-- The entities of the parameters that occur in the lambdas of a query. -/
def Query.mentioned (query : Query) : List Entity :=
  (query.operators.flatMap Operator.lambdas).flatMap fun lambda => lambda.body.entities

theorem Query.mentioned_of_mem {query : Query} {operator : Operator} {lambda : Lambda}
    (member : operator ∈ query.operators) (asks : lambda ∈ operator.lambdas) :
    lambda.body.entities ⊆ query.mentioned := by
  intro entity mentions
  exact List.mem_flatMap.mpr
    ⟨lambda, List.mem_flatMap.mpr ⟨operator, member, asks⟩, mentions⟩

/-- The entity whose rows or property a projection selects. -/
def Projection.owner : Projection → Entity
  | .entity selected => selected
  | .property selected _ => selected

/-- A draft that resolved and selects nothing outside of a scope. -/
structure Draft.Within (scope : List Entity) (draft : Draft) : Prop where
  resolved : draft.resolved ⊆ scope
  projection : draft.outline.projection.owner ∈ scope

theorem Draft.Within.note {scope : List Entity} {draft : Draft} (within : draft.Within scope)
    {entity : Entity} (member : entity ∈ scope) :
    Draft.Within scope { draft with resolved := noting entity draft.resolved } := by
  refine ⟨?_, within.projection⟩
  unfold noting
  split
  · exact within.resolved
  · exact List.append_subset.mpr
      ⟨within.resolved, List.cons_subset.mpr ⟨member, List.nil_subset _⟩⟩

theorem Draft.Within.select {scope : List Entity} {draft : Draft} (within : draft.Within scope)
    {projection : Projection} (member : projection.owner ∈ scope) :
    Draft.Within scope { draft with outline := draft.outline.select projection } := by
  refine ⟨within.resolved, ?_⟩
  have former := within.projection
  simp only [Outline.projection, Outline.select] at former ⊢
  cases selected : draft.outline.selected with
  | none => exact member
  | some earlier => simpa [selected] using former

namespace Planning

variable {α β : Type} {scope : List Entity}

/-- Success or failure with a draft within the scope, and with a result as expected. -/
inductive Reaches (scope : List Entity) (returns : α → Prop) :
    Except QueryError α × Draft → Prop where
  | ok {value : α} {draft : Draft} (returned : returns value) (within : draft.Within scope) :
      Reaches scope returns (.ok value, draft)
  | error {cause : QueryError} {draft : Draft} (within : draft.Within scope) :
      Reaches scope returns (.error cause, draft)

/-- A computation that stays within a scope, and what its results are like. -/
def Keeps (scope : List Entity) (returns : α → Prop) (computation : Planning α) : Prop :=
  ∀ draft : Draft, draft.Within scope → Reaches scope returns (computation.run.run draft)

/-- A computation that resolves no entity outside of a scope. -/
abbrev Confined (scope : List Entity) (computation : Planning α) : Prop :=
  Keeps scope (fun _ => True) computation

namespace Keeps

variable {returns : α → Prop} {returnsToo : β → Prop}
    {first : Planning α} {next : α → Planning β}

theorem pure {value : α} (returned : returns value) : Keeps scope returns (pure value) :=
  fun _ within => .ok returned within

theorem throw {cause : QueryError} : Keeps scope returns (throw cause) :=
  fun _ within => .error within

theorem bind (keeps : Keeps scope returns first)
    (continues : ∀ value, returns value → Keeps scope returnsToo (next value)) :
    Keeps scope returnsToo (first >>= next) := by
  intro draft within
  have reaches := keeps draft within
  rcases run : first.run.run draft with ⟨outcome, middle⟩
  rw [run] at reaches
  cases reaches with
  | error within =>
      rw [run_bind_error run]
      exact .error within
  | ok returned within =>
      rw [run_bind_ok run]
      exact continues _ returned middle within

theorem confined (keeps : Keeps scope returns first) : Confined scope first := by
  intro draft within
  have reaches := keeps draft within
  generalize first.run.run draft = reached at reaches ⊢
  cases reaches with
  | ok _ within => exact .ok trivial within
  | error within => exact .error within

/-- Whatever a computation returns, its result is wrapped. -/
theorem map {wrap : α → β} (keeps : Keeps scope returns first) :
    Confined scope (do return wrap (← first)) :=
  bind keeps fun _ _ => pure trivial

/-- A check that a step starts with. -/
theorem guarded {failed : Prop} [Decidable failed] {cause : QueryError}
    {rest : PUnit → Planning α}
    (keeps : Keeps scope returns first) :
    Keeps scope returns (if failed then MonadExcept.throw cause >>= rest else first) := by
  by_cases failing : failed
  · rw [if_pos failing]
    have fails : Keeps scope (fun _ => False) (MonadExcept.throw cause : Planning PUnit) := throw
    exact bind fails fun _ => False.elim
  · rwa [if_neg failing]

theorem settle {outcome : Except QueryError α} :
    Keeps scope (fun value => outcome = .ok value) (settle outcome) := by
  cases outcome with
  | error cause => exact throw
  | ok value => exact pure rfl

theorem get : Keeps scope (Draft.Within scope) get :=
  fun _ within => .ok within within

theorem modify {change : Draft → Draft}
    (keeps : ∀ {draft : Draft}, draft.Within scope → (change draft).Within scope) :
    Confined scope (modify change) :=
  fun _ within => .ok trivial (keeps within)

end Keeps

section Columns

variable {catalog : Catalog} {entity : Entity}

theorem confined_noteReference : Confined scope (noteReference entity) :=
  .modify fun within => ⟨within.resolved, within.projection⟩

theorem confined_resolve (member : entity ∈ scope) :
    Confined scope (resolve catalog entity) := by
  refine .bind .settle ?_
  intro table _
  refine .bind (.modify fun within => within.note member) ?_
  intro _ _
  exact .pure trivial

theorem confined_column {property : String} (member : entity ∈ scope) :
    Confined scope (column catalog entity property) := by
  refine .bind (confined_resolve member) ?_
  intro table _
  cases table.column? property with
  | none => exact .throw
  | some selected =>
      refine .bind confined_noteReference ?_
      intro _ _
      exact .pure trivial

theorem confined_columnOr {expr : Expr} {cause : MalformedQuery} (named : expr.entities ⊆ scope) :
    Confined scope (columnOr catalog expr cause) := by
  unfold columnOr
  split
  · rename_i entity property column
    rw [Expr.entities_of_column? column] at named
    exact confined_column (named List.mem_cons_self)
  · exact .throw

theorem confined_requireUnlimited {operator : String} :
    Confined scope (requireUnlimited operator) := by
  refine .bind .get ?_
  intro draft _
  exact .confined .settle

/-- A call on the outline, whether it is refused or not. -/
theorem confined_onOutline {call : Outline → Except UsageError Unit × Outline}
    (keeps : ∀ outline, (call outline).2.projection = outline.projection) :
    Confined scope (onOutline call) := by
  refine .bind .get ?_
  intro draft known
  have same := keeps draft.outline
  refine .bind (.modify fun within => ⟨within.resolved, same ▸ known.projection⟩) ?_
  intro _ _
  exact .confined .settle

end Columns

section Conditions

variable {catalog : Catalog} {expr : Expr}

theorem confined_bindValue {value : Value} : Confined scope (bindValue value) := by
  unfold bindValue
  split
  · exact .pure trivial
  · refine .bind .get ?_
    intro draft _
    refine .bind .settle ?_
    intro bound _
    refine .bind (.modify fun within => ⟨within.resolved, within.projection⟩) ?_
    intro _ _
    exact .pure trivial

theorem confined_bindValues {values : List Value} :
    Confined scope (bindValues values) := by
  induction values with
  | nil => exact .pure trivial
  | cons value rest ih =>
      refine .bind confined_bindValue ?_
      intro _ _
      exact ih.map

theorem confined_foldedCondition : Confined scope (foldedCondition expr) := by
  unfold foldedCondition
  split
  · exact confined_bindValue
  · exact .throw

theorem confined_operand (named : expr.entities ⊆ scope) :
    Confined scope (operand catalog expr) := by
  cases expr with
  | member target name =>
      unfold operand
      dsimp only
      split
      · rename_i entity property column
        rw [Expr.entities_of_column? column] at named
        exact (confined_column (named List.mem_cons_self)).map
      · exact .bind .settle fun _ _ => confined_bindValue
  | constant value => exact confined_bindValue
  | captured name value => exact confined_bindValue
  | parameter _ | array _ => exact .throw
  | hasValue _ | compare _ _ _ | connect _ _ _ | not _ | stringMatch _ _ _
  | collectionContains _ _ | isNullOrEmpty _ => exact confined_foldedCondition

theorem confined_knownCondition {negated : Bool} :
    Confined scope (knownCondition expr negated) := by
  refine .bind .settle ?_
  intro value _
  cases value.asBool? with
  | none => exact .throw
  | some flag => exact .pure trivial

theorem confined_flagCondition {entity : Entity} {property : String} {negated : Bool}
    (member : entity ∈ scope) :
    Confined scope (flagCondition catalog entity property negated) := by
  refine .bind (confined_column member) ?_
  intro column _
  split
  · exact .pure trivial
  · exact .throw

/-- The induction follows the recursion of the lowering; operands, which are not conditions
themselves, are leaves. -/
theorem confined_condition (catalog : Catalog) :
    (expr : Expr) → (negated : Bool) → expr.entities ⊆ scope →
      Confined scope (condition catalog expr negated)
  | .not operand, negated, named => confined_condition catalog operand (!negated) named
  | .connect op left right, negated, named => by
      obtain ⟨namedLeft, namedRight⟩ := List.append_subset.mp named
      refine .bind (confined_condition catalog left false namedLeft) ?_
      intro _ _
      exact (confined_condition catalog right false namedRight).map
  | .compare op left right, negated, named => by
      obtain ⟨namedLeft, namedRight⟩ := List.append_subset.mp named
      refine .bind (confined_operand namedLeft) ?_
      intro _ _
      exact (confined_operand namedRight).map
  | .member target name, negated, named => by
      unfold condition
      split
      · rename_i entity property column
        rw [Expr.entities_of_column? column] at named
        exact confined_flagCondition (named List.mem_cons_self)
      · exact confined_knownCondition
  | .constant value, negated, _ => confined_knownCondition
  | .captured name value, negated, _ => confined_knownCondition
  | .hasValue operand, negated, named => by
      have column : operand.entities ⊆ scope := named
      exact (confined_columnOr column).map
  | .isNullOrEmpty operand, negated, named => by
      have column : operand.entities ⊆ scope := named
      exact (confined_columnOr column).map
  | .stringMatch op target value, negated, named => by
      obtain ⟨namedTarget, namedValue⟩ := List.append_subset.mp named
      refine .bind (confined_columnOr namedTarget) ?_
      intro _ _
      exact (confined_operand namedValue).map
  | .collectionContains collection item, negated, named => by
      obtain ⟨_, namedItem⟩ := List.append_subset.mp named
      refine .bind (confined_columnOr namedItem) ?_
      intro _ _
      refine .bind .settle ?_
      intro values _
      cases values with
      | nil => exact .pure trivial
      | cons value rest => exact confined_bindValues.map
  | .parameter param, negated, _ => .throw
  | .array items, negated, _ => .throw

theorem confined_addCondition {predicate : Lambda} (named : predicate.body.entities ⊆ scope) :
    Confined scope (addCondition catalog predicate) := by
  refine .bind (confined_condition catalog predicate.body false named) ?_
  intro _ _
  exact .modify fun within => ⟨within.resolved, within.projection⟩

end Conditions

section Operators

variable {catalog : Catalog} {operator : Operator}

theorem confined_projection {projector : Lambda} (named : projector.body.entities ⊆ scope) :
    Keeps scope (fun projection => projection.owner ∈ scope) (projection catalog projector) := by
  unfold projection
  cases body : projector.body with
  | parameter param =>
      rw [body] at named
      refine .bind confined_noteReference ?_
      intro _ _
      exact .pure (named List.mem_cons_self)
  | member target name =>
      rw [body] at named
      dsimp only
      split
      · rename_i entity property column
        rw [Expr.entities_of_column? column] at named
        have member : entity ∈ scope := named List.mem_cons_self
        refine .bind (confined_column member) ?_
        intro _ _
        exact .pure member
      · exact .throw
  | hasValue _ | constant _ | captured _ _ | array _ | compare _ _ _ | connect _ _ _ | not _
  | stringMatch _ _ _ | collectionContains _ _ | isNullOrEmpty _ => exact .throw

theorem confined_descend (named : ∀ lambda ∈ operator.lambdas, lambda.body.entities ⊆ scope) :
    Confined scope (descend catalog operator) := by
  cases operator with
  | select projector =>
      refine .bind (confined_projection (named projector List.mem_cons_self)) ?_
      intro projection member
      exact .modify fun within => within.select member
  | orderBy key direction =>
      refine .bind (confined_columnOr (named key List.mem_cons_self)) ?_
      intro _ _
      exact .modify fun within => ⟨within.resolved, within.projection⟩
  | filter _ | join _ _ _ | take _ | skip _ | distinct | first _ _ => exact .pure trivial

theorem confined_join {inner : Entity} {outerKey innerKey : Lambda} (member : inner ∈ scope)
    (outer : outerKey.body.entities ⊆ scope) (named : innerKey.body.entities ⊆ scope) :
    Confined scope (join catalog inner outerKey innerKey) := by
  refine .bind .get ?_
  intro draft _
  refine .guarded (.bind (confined_columnOr outer) ?_)
  intro left _
  refine .guarded (.bind (confined_resolve member) ?_)
  intro table _
  refine .bind (confined_columnOr named) ?_
  intro right _
  exact .guarded (.modify fun within => ⟨within.resolved, within.projection⟩)

theorem confined_ascend (joined : operator.joined?.toList ⊆ scope)
    (named : ∀ lambda ∈ operator.lambdas, lambda.body.entities ⊆ scope) :
    Confined scope (ascend catalog operator) := by
  cases operator with
  | filter predicate =>
      refine .bind confined_requireUnlimited ?_
      intro _ _
      exact confined_addCondition (named predicate List.mem_cons_self)
  | select projector => exact .pure trivial
  | join inner outerKey innerKey =>
      have outer := named outerKey List.mem_cons_self
      have following := named innerKey (List.mem_cons_of_mem _ List.mem_cons_self)
      refine .bind confined_requireUnlimited ?_
      intro _ _
      exact confined_join (joined List.mem_cons_self) outer following
  | orderBy key direction => exact confined_requireUnlimited
  | take count =>
      refine .bind .settle ?_
      intro number _
      exact confined_onOutline fun outline => outline.take_projection number
  | skip count =>
      refine .bind .settle ?_
      intro number _
      exact confined_onOutline fun outline => outline.skip_projection number
  | distinct =>
      refine .bind confined_requireUnlimited ?_
      intro _ _
      exact confined_onOutline fun _ => rfl
  | first predicate mode =>
      cases predicate with
      | none => exact confined_onOutline fun outline => outline.take_projection 1
      | some predicate =>
          refine .bind confined_requireUnlimited ?_
          intro _ _
          refine .bind (confined_addCondition (named predicate List.mem_cons_self)) ?_
          intro _ _
          exact confined_onOutline fun outline => outline.take_projection 1

end Operators

section Plans

variable {catalog : Catalog}

theorem confined_resolveTables {entities : List Entity} (members : entities ⊆ scope) :
    Confined scope (resolveTables catalog entities) := by
  induction entities with
  | nil => exact .pure trivial
  | cons entity rest ih =>
      obtain ⟨member, members⟩ := List.cons_subset.mp members
      exact .bind (confined_resolve member) fun _ _ => ih members

theorem confined_walk {step : Operator → Planning Unit} {operators : List Operator}
    (steps : ∀ operator ∈ operators, Confined scope (step operator)) :
    Confined scope (walk step operators) := by
  induction operators with
  | nil => exact .pure trivial
  | cons operator rest ih =>
      obtain ⟨first, following⟩ := List.forall_mem_cons.mp steps
      exact .bind first fun _ _ => ih following

theorem confined_checkReferences : Confined scope checkReferences := by
  refine .bind .get ?_
  intro draft _
  cases draft.referenced.find? fun entity => entity ∉ draft.tables with
  | none => exact .pure trivial
  | some entity => exact .throw

theorem confined_selection {projection : Projection} (member : projection.owner ∈ scope) :
    Confined scope (selection catalog projection) := by
  cases projection with
  | entity entity => exact (confined_resolve member).map
  | property entity property => exact (confined_column member).map

theorem confined_plan (catalog : Catalog) (query : Query) :
    Confined (query.tables ++ query.mentioned)
      (Planning.plan catalog query.source query) := by
  have source : query.source ∈ query.tables ++ query.mentioned :=
    List.mem_append_left _ List.mem_cons_self
  have named : ∀ operator ∈ query.operators, ∀ lambda ∈ operator.lambdas,
      lambda.body.entities ⊆ query.tables ++ query.mentioned := fun operator member lambda asks =>
    List.subset_append_of_subset_right _ (Query.mentioned_of_mem member asks)
  have joined : ∀ operator ∈ query.operators,
      operator.joined?.toList ⊆ query.tables ++ query.mentioned := by
    intro operator member entity joins
    refine List.mem_append_left _ (List.mem_cons_of_mem _ ?_)
    exact List.mem_filterMap.mpr ⟨operator, member, Option.mem_toList.mp joins⟩
  refine .guarded (.bind (confined_resolveTables (List.subset_append_left _ _)) ?_)
  intro _ _
  refine .bind (confined_resolve source) ?_
  intro table _
  refine .bind (confined_walk fun operator member =>
    confined_descend (named operator (List.mem_reverse.mp member))) ?_
  intro _ _
  refine .bind (confined_walk fun operator member =>
    confined_ascend (joined operator member) (named operator member)) ?_
  intro _ _
  refine .bind confined_checkReferences ?_
  intro _ _
  refine .bind .get ?_
  intro draft within
  refine .bind (confined_selection within.projection) ?_
  intro chosen _
  refine .bind .get ?_
  intro _ _
  exact .pure trivial

end Plans

end Planning

/-- Planning resolves tables of the query and entities of its parameters, and no others. -/
theorem Query.plan_resolved (catalog : Catalog) (settings : Settings) (query : Query) :
    (query.plan catalog settings query.source).2.resolved ⊆ query.tables ++ query.mentioned := by
  have reaches := Planning.confined_plan catalog query (.ofRoot settings query.source)
    ⟨List.nil_subset _, List.mem_append_left _ List.mem_cons_self⟩
  unfold Query.plan
  rcases run : (Planning.plan catalog query.source query).run.run (.ofRoot settings query.source)
    with ⟨outcome, draft⟩
  rw [run] at reaches
  cases reaches with
  | ok _ within => exact within.resolved
  | error within => exact within.resolved

end QueryChain
