import QueryChain.Proofs.Expr.Names
import QueryChain.Proofs.Plan.Outcome
import QueryChain.Plan

namespace QueryChain

open Json Schema

/-! Planning two queries side by side, where the second writes other values.

Two computations are aligned if, begun in drafts that differ in the values bound so far, they
fail together or give the same result, and if what they leave differs in bound values only.
No step looks at a value beyond whether it is null, so alignment passes through each of them.
-/

/-- A value that is written, and the one that is written in its place.  Null, which is not bound,
stands in the place of null only. -/
structure Change where
  old : Value
  new : Value
  isNull_eq : new.isNull = old.isNull

namespace Change

/-- A value that stays as it is. -/
def kept (value : Value) : Change := ⟨value, value, rfl⟩

/-- The changes of values that are bound. -/
def bound (changes : List Change) : List Change := changes.filter fun change => !change.old.isNull

theorem bound_append (changes more : List Change) :
    bound (changes ++ more) = bound changes ++ bound more := List.filter_append ..

end Change

/-- Drafts that differ only in the values bound so far, and there by the given changes. -/
structure Draft.Varies (changes : List Change) (draft other : Draft) : Prop where
  values : draft.parameters.values = changes.map Change.old
  varied : other =
    { draft with parameters := { draft.parameters with values := changes.map Change.new } }

namespace Planning

variable {α β : Type}

/-- Runs that fail together, with the same entities resolved, or succeed together with results
that agree. -/
inductive Outcomes (agree : α → α → Prop) (changes : List Change) :
    Except QueryError α × Draft → Except QueryError α × Draft → Prop where
  | ok {value other : α} {draft draft' : Draft} (agrees : agree value other)
      (varies : draft.Varies changes draft') :
        Outcomes agree changes (.ok value, draft) (.ok other, draft')
  | error {cause cause' : QueryError} {draft draft' : Draft}
      (resolved : draft'.resolved = draft.resolved) :
      Outcomes agree changes (.error cause, draft) (.error cause', draft')

/-- Computations that write values one for one, by the given changes, and otherwise do the same. -/
def Aligned (agree : α → α → Prop) (changes : List Change) (first second : Planning α) :
    Prop :=
  ∀ earlier draft other, draft.Varies earlier other →
    Outcomes agree (earlier ++ Change.bound changes) (first.run.run draft) (second.run.run other)

namespace Aligned

variable {agree : α → α → Prop} {agreeToo : β → β → Prop} {changes more : List Change}
  {first second : Planning α} {next following : α → Planning β}

theorem pure {value other : α} (agrees : agree value other) :
    Aligned agree [] (pure value) (pure other) := by
  intro earlier draft other varies
  rw [Change.bound, List.filter_nil, List.append_nil]
  exact .ok agrees varies

theorem throw {cause cause' : QueryError} : Aligned agree changes (throw cause) (throw cause') := by
  intro earlier draft other varies
  exact .error (by rw [varies.varied])

theorem bind (aligned : Aligned agree changes first second)
    (continues : ∀ value other, agree value other →
      Aligned agreeToo more (next value) (following other)) :
    Aligned agreeToo (changes ++ more) (first >>= next) (second >>= following) := by
  intro earlier draft other varies
  have outcomes := aligned earlier draft other varies
  rcases run : first.run.run draft with ⟨outcome, middle⟩
  rcases runToo : second.run.run other with ⟨outcome', middle'⟩
  rw [run, runToo] at outcomes
  cases outcomes with
  | error resolved =>
      rw [run_bind_error run, run_bind_error runToo]
      exact .error resolved
  | ok agrees varies =>
      rw [run_bind_ok run, run_bind_ok runToo, Change.bound_append, ← List.append_assoc]
      exact continues _ _ agrees _ _ _ varies

/-- The first computation writes no values. -/
theorem seq (aligned : Aligned agree [] first second)
    (continues : ∀ value other, agree value other →
      Aligned agreeToo more (next value) (following other)) :
    Aligned agreeToo more (first >>= next) (second >>= following) :=
  bind aligned continues

/-- The second computation writes no values. -/
theorem last (aligned : Aligned agree changes first second)
    (continues : ∀ value other, agree value other →
      Aligned agreeToo [] (next value) (following other)) :
    Aligned agreeToo changes (first >>= next) (second >>= following) := by
  have both := bind aligned continues
  rwa [List.append_nil] at both

/-- A result that is wrapped in the same way. -/
theorem map {wrap : α → β} (aligned : Aligned Eq changes first second) :
    Aligned Eq changes (do return wrap (← first)) (do return wrap (← second)) :=
  last aligned fun _ _ same => pure (congrArg wrap same)

/-- A check that a step starts with. -/
theorem guarded {failed : Prop} [Decidable failed] {cause cause' : QueryError}
    {left right : PUnit → Planning α} (aligned : Aligned agree changes first second) :
    Aligned agree changes (if failed then MonadExcept.throw cause >>= left else first)
      (if failed then MonadExcept.throw cause' >>= right else second) := by
  by_cases failing : failed
  · rw [if_pos failing, if_pos failing]
    have fails : Aligned (fun _ _ => False) [] (MonadExcept.throw cause : Planning PUnit)
        (MonadExcept.throw cause' : Planning PUnit) := throw
    exact seq fails fun _ _ => False.elim
  · rwa [if_neg failing, if_neg failing]

theorem settle {outcome outcome' : Except QueryError α}
    (same : outcome'.toOption = outcome.toOption) :
    Aligned Eq [] (settle outcome) (settle outcome') := by
  cases outcome with
  | error cause =>
      cases outcome' with
      | error cause' => exact throw
      | ok value => cases same
  | ok value =>
      cases outcome' with
      | error cause' => cases same
      | ok value' =>
          cases same
          exact pure rfl

/-- Drafts that are read differ in bound values only. -/
theorem get :
    Aligned (fun draft other => ∃ changes, draft.Varies changes other) [] get get := by
  intro earlier draft other varies
  rw [Change.bound, List.filter_nil, List.append_nil]
  exact .ok ⟨earlier, varies⟩ varies

theorem modify {change : Draft → Draft}
    (keeps : ∀ {changes draft other}, draft.Varies changes other →
      (change draft).Varies changes (change other)) :
    Aligned Eq [] (modify change) (modify change) := by
  intro earlier draft other varies
  rw [Change.bound, List.filter_nil, List.append_nil]
  exact .ok rfl (keeps varies)

end Aligned

theorem run_bindValue {value : Value} (known : value.isNull = false) (draft : Draft) :
    (bindValue value).run.run draft =
      if draft.parameters.size < draft.parameters.limit then
        (.ok (.placeholder
            (Sql.Parameters.nameFrom draft.parameters.stem (draft.parameters.size + 1))),
          { draft with parameters :=
            { draft.parameters with values := draft.parameters.values ++ [value] } })
      else (.error (.usage (.tooManyParameters draft.parameters.limit)), draft) := by
  by_cases room : draft.parameters.size < draft.parameters.limit
  · simp only [bindValue, known, Bool.false_eq_true, if_false, if_pos room]
    rw [run_bind_ok run_get, Sql.Parameters.bind, if_pos room]
    rfl
  · simp only [bindValue, known, Bool.false_eq_true, if_false, if_neg room]
    rw [run_bind_ok run_get, Sql.Parameters.bind, if_neg room]
    rfl

theorem aligned_bindValue (change : Change) :
    Aligned Eq [change] (bindValue change.old) (bindValue change.new) := by
  intro earlier draft other varies
  cases null : change.old.isNull with
  | true =>
      have nullToo : change.new.isNull = true := change.isNull_eq.trans null
      have unbound : Change.bound [change] = [] := by simp [Change.bound, null]
      rw [unbound, List.append_nil, bindValue, if_pos null, bindValue, if_pos nullToo]
      exact .ok rfl varies
  | false =>
      have known : change.new.isNull = false := change.isNull_eq.trans null
      have single : Change.bound [change] = [change] := by simp [Change.bound, null]
      obtain ⟨values, rfl⟩ := varies
      rw [single, run_bindValue null, run_bindValue known]
      simp only [Sql.Parameters.size, values, List.length_map]
      split
      · exact .ok rfl ⟨by simp, by simp⟩
      · exact .error rfl

theorem aligned_bindValues (changes : List Change) :
    Aligned Eq changes (bindValues (changes.map Change.old))
      (bindValues (changes.map Change.new)) := by
  induction changes with
  | nil => exact .pure rfl
  | cons change rest ih =>
      change Aligned Eq ([change] ++ rest) _ _
      refine .bind (aligned_bindValue change) ?_
      intro operand _ same
      subst same
      exact ih.map

section Steps

variable {catalog : Catalog} {expr other : Expr}

theorem aligned_noteReference (entity : Entity) :
    Aligned Eq [] (noteReference entity) (noteReference entity) :=
  .modify fun varies => ⟨varies.values, by rw [varies.varied]⟩

theorem aligned_resolve (entity : Entity) :
    Aligned Eq [] (resolve catalog entity) (resolve catalog entity) := by
  refine .seq (.settle rfl) ?_
  intro table _ same
  subst same
  refine .seq (.modify fun varies => ⟨varies.values, by rw [varies.varied]⟩) ?_
  intro _ _ _
  exact .pure rfl

theorem aligned_column (entity : Entity) (property : String) :
    Aligned Eq [] (column catalog entity property) (column catalog entity property) := by
  refine .seq (aligned_resolve entity) ?_
  intro table _ same
  subst same
  cases table.column? property with
  | none => exact .throw
  | some selected =>
      refine .seq (aligned_noteReference entity) ?_
      intro _ _ _
      exact .pure rfl

theorem aligned_columnOr {cause cause' : MalformedQuery} (named : other.column? = expr.column?) :
    Aligned Eq [] (columnOr catalog expr cause) (columnOr catalog other cause') := by
  unfold columnOr
  rw [named]
  cases expr.column? with
  | none => exact .throw
  | some member => exact aligned_column _ _

theorem aligned_requireUnlimited (operator : String) :
    Aligned Eq [] (requireUnlimited operator) (requireUnlimited operator) := by
  refine .seq .get ?_
  intro draft other varies
  obtain ⟨_, varies⟩ := varies
  rw [varies.varied]
  exact .settle rfl

theorem aligned_onOutline (call : Outline → Except UsageError Unit × Outline) :
    Aligned Eq [] (onOutline call) (onOutline call) := by
  refine .seq .get ?_
  intro draft other varies
  obtain ⟨_, varies⟩ := varies
  rw [varies.varied]
  refine .seq (.modify fun varies => ⟨varies.values, by rw [varies.varied]⟩) ?_
  intro _ _ _
  exact .settle rfl

theorem aligned_resolveTables (entities : List Entity) :
    Aligned Eq [] (resolveTables catalog entities) (resolveTables catalog entities) := by
  induction entities with
  | nil => exact .pure rfl
  | cons entity rest ih =>
      refine .seq (aligned_resolve entity) ?_
      intro _ _ _
      exact ih

theorem aligned_checkReferences : Aligned Eq [] checkReferences checkReferences := by
  refine .seq .get ?_
  intro draft other varies
  obtain ⟨_, varies⟩ := varies
  rw [varies.varied]
  cases draft.referenced.find? fun entity => entity ∉ draft.tables with
  | none => exact .pure rfl
  | some entity => exact .throw

theorem aligned_selection (projection : Projection) :
    Aligned Eq [] (selection catalog projection) (selection catalog projection) := by
  cases projection with
  | entity entity => exact (aligned_resolve entity).map
  | property entity property => exact (aligned_column entity property).map

end Steps

end Planning

end QueryChain
