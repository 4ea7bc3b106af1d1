import QueryChain.Proofs.Plan.Alignment
import QueryChain.Proofs.Plan.Conditions
import QueryChain.Proofs.Translation.Lockstep

namespace QueryChain

open Schema

/-! Conditions in lockstep.

Planning builds a condition and writes it when all of it is known; a translation writes
each token as it comes to it.  By the end of a condition both have written the same.
-/

namespace Translating

variable {α : Type} {catalog : Catalog} {start world : Registry} {ahead : Writing}

theorem run_onWriter (call : Sql.Writer → Except UsageError Unit × Sql.Writer)
    (translation : Translation) :
    (onWriter call).run.run translation = ((call translation.writer).1.mapError .usage,
      { translation with writer := (call translation.writer).2 }) := rfl

/-- A value is bound when it is planned, and when it is written. -/
theorem follows_parameter (value : Json.Value) :
    Follows start world ahead (fun operand naming => ahead naming ++ operand.written naming)
      (fun _ _ => ()) (Planning.bindValue value) (onWriter (·.parameter value)) := by
  intro draft translation _ shows
  rw [run_onWriter, Sql.Writer.parameter]
  cases null : value.isNull with
  | true =>
      rw [if_pos rfl, Planning.bindValue, if_pos null]
      exact .ok (.refl _) (.const ()) (shows.write fun _ _ => rfl)
  | false =>
      rw [if_neg Bool.false_ne_true, Planning.run_bindValue null, shows.parameters,
        Sql.Parameters.bind]
      split
      · have bound : { draft with parameters :=
            { draft.parameters with values := draft.parameters.values ++ [value] } }.Shows start
            ahead { translation with writer := { translation.writer with parameters :=
              { draft.parameters with values := draft.parameters.values ++ [value] } } } :=
          { shows with parameters := rfl }
        exact .ok (.refl _) (.const ()) (bound.write fun _ _ => rfl)
      · exact .error shows.registry

theorem eq_of_runs {first second : Translating α}
    (same : ∀ translation, first.run.run translation = second.run.run translation) :
    first = second := funext same

/-- A list is written value by value. -/
theorem onWriter_listValues (value : Json.Value) (rest : List Json.Value) :
    onWriter (·.listValues (value :: rest)) = (do
      onWriter (·.parameter value)
      onWriter fun writer =>
        (if rest.isEmpty then writer else writer.write Sql.Phrase.separator).listValues rest) := by
  refine eq_of_runs fun translation => ?_
  rw [run_onWriter, Sql.Writer.listValues]
  have run := run_onWriter (·.parameter value) translation
  rcases call : translation.writer.parameter value with ⟨outcome, writer⟩
  rw [call] at run
  cases outcome with
  | error cause => exact (Planning.run_bind_error run).symm
  | ok _ =>
      rw [Planning.run_bind_ok run, run_onWriter]

theorem listTokens_cons {ρ : Type} (first : Sql.Operand ρ) (rest : List (Sql.Operand ρ)) :
    Sql.Condition.listTokens (first :: rest) =
      first.token :: rest.flatMap fun operand => Sql.Phrase.separator ++ [operand.token] := by
  induction rest generalizing first with
  | nil => rfl
  | cons second more ih =>
      rw [Sql.Condition.listTokens, ih second, List.flatMap_cons, List.append_assoc]
      · rfl
      · intro empty
        cases empty

/-- The values of a list after the first one. -/
theorem follows_listRest (rest : List Json.Value) :
    Follows start world ahead
      (fun operands naming => ahead naming ++
        ((operands.flatMap fun operand => Sql.Phrase.separator ++ operand.written naming) ++
          [.closing]))
      (fun _ _ => ()) (Planning.bindValues rest)
      (onWriter fun writer =>
        (if rest.isEmpty then writer else writer.write Sql.Phrase.separator).listValues rest) := by
  induction rest generalizing world ahead with
  | nil => exact .close (.const _) rfl
  | cons value rest ih =>
      have starts : (onWriter fun writer =>
          (writer.write Sql.Phrase.separator).listValues (value :: rest)) =
          (do write Sql.Phrase.separator; onWriter (·.listValues (value :: rest))) := rfl
      change Follows _ _ _ _ _ _ (onWriter fun writer =>
        (writer.write Sql.Phrase.separator).listValues (value :: rest))
      rw [starts, onWriter_listValues]
      refine .write (.const _) (.bind (follows_parameter value) ?_)
      intro _ operand _ _ _
      refine .wrapped ih ?_
      intro operands
      funext naming
      simp

/-- A column that equals one of some values. -/
theorem follows_inList (negated : Bool) {values : List Json.Value} (some : values ≠ []) :
    Follows start world ahead
      (fun operands naming => ahead naming ++ (Sql.Phrase.isIn negated ++ [.opening] ++
        Sql.Condition.listTokens (operands.map (·.map (·.reference naming))) ++ [.closing]))
      (fun _ _ => ()) (Planning.bindValues values) (onWriter (·.inList negated values)) := by
  obtain ⟨value, rest, rfl⟩ := List.exists_cons_of_ne_nil some
  have starts : onWriter (·.inList negated (value :: rest)) =
      (do write (Sql.Phrase.isIn negated ++ [.opening])
          onWriter (·.listValues (value :: rest))) := rfl
  rw [starts, onWriter_listValues]
  refine .write (.const _) (.bind (follows_parameter value) ?_)
  intro _ operand _ _ _
  refine .wrapped (follows_listRest rest) ?_
  intro operands
  funext naming
  simp [listTokens_cons, List.flatMap_map, Sql.Operand.written]

theorem follows_foldedCondition (expr : Expr) :
    Follows start world ahead (fun operand naming => ahead naming ++ operand.written naming)
      (fun _ _ => ()) (Planning.foldedCondition expr) (foldedCondition expr) := by
  unfold Planning.foldedCondition foldedCondition
  cases expr.evaluate with
  | error cause => exact .throw
  | ok value => exact follows_parameter value

theorem follows_operand (faithful : start.Faithful catalog) (expr : Expr) :
    Follows start world ahead (fun operand naming => ahead naming ++ operand.written naming)
      (fun _ _ => ()) (Planning.operand catalog expr) (operand expr) := by
  cases expr with
  | member target name =>
      simp only [Planning.operand, operand]
      cases (Expr.member target name).column? with
      | none => exact .bind .settle fun _ value _ _ same => same.now ▸ follows_parameter value
      | some member =>
          refine .bind (follows_column faithful) ?_
          intro _ found named _ spells
          exact .close (spells.reference.map fun reference => [Sql.Token.reference reference]) rfl
  | constant value => exact follows_parameter value
  | captured name value => exact follows_parameter value
  | parameter _ | array _ => exact .throw
  | hasValue _ | compare _ _ _ | connect _ _ _ | not _ | stringMatch _ _ _
  | collectionContains _ _ | isNullOrEmpty _ => exact follows_foldedCondition _

theorem follows_knownCondition (expr : Expr) (negated : Bool) :
    Follows start world ahead (fun condition naming => ahead naming ++ condition.written naming)
      (fun _ _ => ()) (Planning.knownCondition expr negated) (knownCondition expr negated) := by
  refine .bind .settle ?_
  intro _ value other _ same
  cases same.now
  cases value.asBool? with
  | none => exact .throw
  | some flag => exact .close (.const _) rfl

theorem follows_flagCondition (faithful : start.Faithful catalog) (entity : Entity)
    (property : String) (negated : Bool) :
    Follows start world ahead (fun condition naming => ahead naming ++ condition.written naming)
      (fun _ _ => ()) (Planning.flagCondition catalog entity property negated)
      (flagCondition entity property negated) := by
  refine .bind (follows_column faithful) ?_
  intro _ found named _ spells
  have same : named.column = found.column := congrArg NamedColumn.column spells.now.symm
  rw [same]
  by_cases boolean : found.column.type = .boolean
  · rw [if_pos boolean, if_pos boolean]
    exact .close (spells.reference.map fun reference =>
      Sql.Token.reference reference :: Sql.Phrase.flag negated) rfl
  · rw [if_neg boolean, if_neg boolean]
    exact .throw

theorem follows_condition (faithful : start.Faithful catalog) :
    (expr : Expr) → (negated : Bool) → (world : Registry) → (ahead : Writing) →
    Follows start world ahead (fun condition naming => ahead naming ++ condition.written naming)
      (fun _ _ => ()) (Planning.condition catalog expr negated) (condition expr negated)
  | .not operand, negated, world, ahead => by
      simp only [Planning.condition, condition]
      exact follows_condition faithful operand (!negated) world ahead
  | .compare op left right, negated, world, ahead => by
      simp only [Planning.condition, condition]
      refine .write (.const _) (.bind (follows_operand faithful left) ?_)
      intro _ leftOperand _ _ _
      refine .write (.const _) (.bind (follows_operand faithful right) ?_)
      intro _ rightOperand _ _ _
      refine .close (.const _) ?_
      funext naming
      simp [Sql.Condition.written, Sql.Condition.map, Sql.Condition.tokens, Sql.Operand.written]
  | .connect op left right, negated, world, ahead => by
      simp only [Planning.condition, condition]
      refine .write (.const _) (.bind (follows_condition faithful left false _ _) ?_)
      intro _ leftCondition _ _ _
      refine .write (.const _) (.bind (follows_condition faithful right false _ _) ?_)
      intro _ rightCondition _ _ _
      refine .close (.const _) ?_
      funext naming
      simp [Sql.Condition.written, Sql.Condition.map, Sql.Condition.tokens]
  | .member target name, negated, world, ahead => by
      simp only [Planning.condition, condition]
      cases (Expr.member target name).column? with
      | none => exact follows_knownCondition _ negated
      | some member => exact follows_flagCondition faithful _ _ negated
  | .constant value, negated, world, ahead => follows_knownCondition _ negated
  | .captured name value, negated, world, ahead => follows_knownCondition _ negated
  | .hasValue operand, negated, world, ahead => by
      simp only [Planning.condition, condition]
      refine .bind (follows_columnOr faithful) ?_
      intro _ found named _ spells
      refine .close (spells.reference.map fun reference =>
        (Sql.Condition.hasValue negated reference).tokens) ?_
      rfl
  | .stringMatch op target value, negated, world, ahead => by
      simp only [Planning.condition, condition]
      refine .bind (follows_columnOr faithful) ?_
      intro _ found named _ spells
      refine .write (spells.reference.map fun reference =>
        Sql.Token.reference reference :: Sql.Phrase.like negated) ?_
      refine .write (.const _) (.bind (follows_operand faithful value) ?_)
      intro _ pattern _ _ _
      refine .close (.const _) ?_
      funext naming
      simp [Sql.Condition.written, Sql.Condition.map, Sql.Condition.tokens, Sql.Operand.written]
  | .collectionContains collection item, negated, world, ahead => by
      simp only [Planning.condition, condition]
      refine .bind (follows_columnOr faithful) ?_
      intro _ found named _ spells
      refine .bind .settle ?_
      intro _ values other grows same
      cases same.now
      by_cases empty : values.isEmpty = true
      · rw [if_pos empty, if_pos empty]
        exact .close (.const _) rfl
      · rw [if_neg empty, if_neg empty]
        refine .write ((spells.later grows).reference.map fun reference =>
          [Sql.Token.reference reference]) (.wrapped (follows_inList negated ?_) ?_)
        · simpa using empty
        · intro operands
          funext naming
          simp [Sql.Condition.written, Sql.Condition.map, Sql.Condition.tokens]
  | .isNullOrEmpty operand, negated, world, ahead => by
      simp only [Planning.condition, condition]
      refine .bind (follows_columnOr faithful) ?_
      intro _ found named _ spells
      refine .close (spells.reference.map fun reference =>
        (Sql.Condition.nullOrEmpty negated reference).tokens) ?_
      rfl
  | .parameter param, negated, world, ahead => .throw
  | .array items, negated, world, ahead => .throw

theorem conjunctionTokens_append {ρ : Type} (conditions : List (Sql.Condition ρ))
    (condition : Sql.Condition ρ) :
    Sql.conjunctionTokens (conditions ++ [condition]) = Sql.conjunctionTokens conditions ++
      ((if conditions.isEmpty then [] else Sql.Phrase.spaced .and) ++ condition.tokens) := by
  cases conditions with
  | nil => simp [Sql.conjunctionTokens]
  | cons first rest => simp [Sql.conjunctionTokens]

/-- A further condition is set off from those that are written. -/
theorem shows_beginPredicate {draft : Draft} {translation : Translation}
    (shows : draft.Shows start (fun _ => []) translation) :
    draft.Shows start
      (fun _ => if draft.conditions.isEmpty then [] else Sql.Phrase.spaced .and)
      { translation with writer := translation.writer.beginPredicate } := by
  have written : translation.writer.predicate =
      Sql.conjunctionTokens
        (draft.conditions.map (·.map (·.reference translation.registry.aliasOf))) := by
    rw [← shows.predicate.now, List.append_nil]
    rfl
  have none : translation.writer.predicateText.isEmpty = draft.conditions.isEmpty := by
    rw [Sql.Writer.predicateText, written, Sql.conjunction_isEmpty, List.isEmpty_map]
  rw [Sql.Writer.beginPredicate, none]
  cases draft.conditions.isEmpty with
  | true => exact shows
  | false => exact shows.write (.const _)

theorem follows_addCondition (faithful : start.Faithful catalog) (predicate : Lambda) :
    Follows start world (fun _ => []) (fun _ _ => []) (fun _ _ => ())
      (Planning.addCondition catalog predicate) (addCondition predicate) := by
  intro draft translation grows shows
  have outcomes := follows_condition faithful predicate.body false world _ draft
    { translation with writer := translation.writer.beginPredicate } grows
    (shows_beginPredicate shows)
  have run : (addCondition predicate).run.run translation =
      (condition predicate.body false).run.run
        { translation with writer := translation.writer.beginPredicate } := rfl
  rw [run, Planning.addCondition]
  rcases planned : (Planning.condition catalog predicate.body false).run.run draft with
    ⟨outcome, middle⟩
  rw [planned] at outcomes
  generalize (condition predicate.body false).run.run _ = reached at outcomes ⊢
  cases outcomes with
  | error registry =>
      rw [Planning.run_bind_error planned]
      exact .error registry
  | ok growsOn spells shows =>
      rw [Planning.run_bind_ok planned]
      -- The draft takes the condition last, so it still has those that the new one is set off from.
      obtain ⟨_, _, _, _, recorded⟩ := (Planning.plans_condition _ _ _ _ _).mp planned
      have kept : middle.conditions = draft.conditions := by rw [recorded, Draft.record_conditions]
      refine .ok growsOn (.const _) { shows with predicate := ?_ }
      intro later growsFurther
      rw [← shows.predicate later growsFurther]
      simp [Draft.predicateTokens, conjunctionTokens_append, kept, Sql.Condition.written]

end Translating

end QueryChain
