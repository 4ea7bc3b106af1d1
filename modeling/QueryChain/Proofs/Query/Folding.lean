import QueryChain.Proofs.Expr.Known
import QueryChain.Proofs.Plan.Conditions
import QueryChain.Proofs.Query.Meaning

namespace QueryChain

open Json Schema

/-! Conditions that do not depend on a row, written into a statement or evaluated.

As the operand of a comparison such a condition is evaluated; as a predicate it is written.  A
database that compares values as evaluation does reads what is written as `Expr.verdict`, which
is the value of the condition or unknown, and unknown only on account of a null.
-/

namespace Sql

/-- What a database does with values other than null, where it compares them as evaluation does. -/
structure Operators where
  compare : Comparison → Value → Value → Bool
  like : Value → Value → Bool
  concat : Value → Value → Value
  compare_eq : ∀ {op left right flag}, applyComparison op left right = .ok flag →
    compare op left right = flag

/-- A database that decides what evaluation rejects in one way or the other. -/
def Operators.ofEvaluation (like : Value → Value → Bool) (concat : Value → Value → Value) :
    Operators where
  compare op left right := (applyComparison op left right).toOption.getD false
  like
  concat
  compare_eq decided := by rw [decided]; rfl

section Judgement

variable {ρ : Type} (operators : Operators) (bound : String → Option Value)
    (row : ρ → Option Value)

def Scalar.value : Scalar ρ → Option Value
  | .column found => row found
  | .placeholder name => (bound name).filter fun value => !value.isNull
  | .null => none
  | .number known => some (.number (.int known))
  | .string text => some (.string text)
  | .concat left right => do return operators.concat (← left.value) (← right.value)
  | .orElse value other => value.value.or other.value

def Formula.judged : Formula ρ → Truth
  | .compare op left right =>
    Interpretation.lift (operators.compare op) (left.value operators bound row)
      (right.value operators bound row)
  | .isNull operand => .ofBool (operand.value operators bound row).isNone
  | .like operand pattern =>
    Interpretation.lift operators.like (operand.value operators bound row)
      (pattern.value operators bound row)
  | .isIn operand values => .any (values.map fun value =>
    Interpretation.lift (operators.compare .eq) (operand.value operators bound row)
      (value.value operators bound row))
  | .not operand => operand.judged.not
  | .and left right => left.judged.and right.judged
  | .or left right => left.judged.or right.judged

theorem judged_negateIf (negated : Bool) (formula : Formula ρ) :
    (formula.negateIf negated).judged operators bound row =
      Truth.negateIf negated (formula.judged operators bound row) := by
  cases negated <;> rfl

theorem judged_truth (value : Bool) :
    (Condition.truth value : Condition ρ).formula.judged operators bound row = .ofBool value := by
  have decided : applyComparison .eq (.number (.int 1)) (.number (.int (if value then 1 else 0))) =
      .ok value := by
    cases value <;> simp [applyComparison, Value.equal, Number.equal]
  have compared := operators.compare_eq decided
  cases value with
  | true => exact congrArg Truth.ofBool compared
  | false => exact congrArg Truth.ofBool compared

theorem valueOperand_value {parameters : Parameters} {position : Nat} {value : Value}
    (held : parameters.HoldAt position [value]) :
    (valueOperand parameters.stem position value : Operand ρ).scalar.value operators
        parameters.get? row =
      if value.isNull then none else some value := by
  unfold valueOperand
  by_cases null : value.isNull
  · simp [null, Operand.scalar, Scalar.value]
  · obtain ⟨earlier, later, rfl, values⟩ := held
    have found : parameters.values[earlier.length]? = some value := by
      simp [values, nonNull, null]
    simp [null, Operand.scalar, Scalar.value, parameters.get?_nameFrom, found]

/-- What is written for a condition is judged as its verdict, negations included. -/
theorem judged_condition {expr : Expr} {predicate : Predicate} {parameters : Parameters}
    (f : ColumnRef → ρ) (decided : expr.Decided predicate) (negated : Bool) (position : Nat)
    (held : parameters.HoldAt position predicate.values) :
    ((predicate.condition parameters.stem negated position).map f).formula.judged operators
        parameters.get? row = Truth.negateIf negated expr.verdict := by
  induction decided generalizing negated position with
  | flag evaluates alone =>
      rw [alone, Expr.holds_of_evaluate evaluates, Predicate.condition, Condition.map, judged_truth]
      cases negated <;> simp [Truth.negateIf]
  | not _ ih =>
      rw [Expr.verdict, Truth.negateIf_not]
      exact ih _ _ held
  | connect op _ _ ihFirst ihSecond =>
      obtain ⟨heldFirst, heldSecond⟩ := HoldAt.append held
      have first := ihFirst false position heldFirst
      have second := ihSecond false _ heldSecond
      cases op <;>
        simp only [Predicate.condition, Condition.map, Condition.formula, judged_negateIf,
          Formula.judged, first, second, Expr.verdict, Truth.negateIf, Bool.false_eq_true, if_false]
  | compare evaluates evaluatesToo applied =>
      rename_i op left right first second flag
      have heldFirst : parameters.HoldAt position [first] := (HoldAt.append held).1
      have heldSecond : parameters.HoldAt (position + (nonNull [first]).length) [second] :=
        (HoldAt.append held).2
      have leftValue := valueOperand_value (ρ := ρ) operators row heldFirst
      have rightValue := valueOperand_value (ρ := ρ) operators row heldSecond
      have leftNull : left.evaluatesToNull = first.isNull := by
        simp [Expr.evaluatesToNull, evaluates, Except.toOption]
      have rightNull : right.evaluatesToNull = second.isNull := by
        simp [Expr.evaluatesToNull, evaluatesToo, Except.toOption]
      simp only [Predicate.condition, Condition.map, Condition.formula, judged_negateIf,
        Formula.judged, Term.operand, valueOperand_map, Term.values, leftValue, rightValue,
        Expr.verdict, leftNull, rightNull,
        Expr.Decided.holds_compare evaluates evaluatesToo applied]
      cases first.isNull <;> cases second.isNull <;>
        simp [Interpretation.lift, operators.compare_eq applied]

end Judgement

theorem reads_condition_iff {ρ : Type} (condition : Condition ρ) (listed : condition.Listed)
    (formula : Formula ρ) :
    Reads .disjunction (shown condition.tokens) formula [] ↔ formula = condition.formula := by
  have single := reads_conjunction_iff condition [] (List.forall_mem_singleton.mpr listed) formula
  rwa [conjunctionTokens, List.flatMap_nil, List.append_nil] at single

end Sql

open Planning Sql

/-- As an operand, a condition without parameters is the truth value that it evaluates to.  As a
predicate it is written in a way that reads in one way and is judged as its verdict, which is
that truth value or unknown, and is that truth value where nothing is compared with null. -/
theorem Planning.condition_verdict {catalog : Catalog} {before after : Draft}
    {found : Condition ColumnRef} {expr : Expr} {value : Value}
    (yields : Yields (Planning.condition catalog expr false) before found after)
    (known : expr.mentionsRow = false) (evaluates : expr.evaluate = .ok value) :
    ∃ flag, value = .bool flag ∧ Planning.operand catalog expr = bindValue (.bool flag) ∧
      (expr.verdict = .unknown ∨ expr.verdict = .ofBool flag) ∧
      (expr.NullFree → expr.verdict = .ofBool flag) ∧
      ∀ {ρ : Type} (f : ColumnRef → ρ), ∃ formula,
        (∀ other, Reads .disjunction (shown (found.map f).tokens) other [] ↔
          other = formula) ∧
        ∀ (operators : Operators) (row : ρ → Option Value) (later : List Value),
          formula.judged operators
            { after.parameters with values := after.parameters.values ++ later }.get? row =
              expr.verdict := by
  obtain ⟨predicate, read, _, rfl, rfl⟩ := (plans_condition expr false _ _ _).mp yields
  have decided := Expr.Decided.of_known expr known read evaluates
  have truth : value = .bool expr.holds := by
    have same := evaluates.symm.trans decided.evaluate
    cases same
    rfl
  have written := Expr.written?_of_bool (Expr.column?_of_known known) decided.evaluate
  refine ⟨expr.holds, truth, operand_of_written written, decided.verdict_sound,
    decided.verdict_of_nullFree, ?_⟩
  intro ρ f
  refine ⟨_, reads_condition_iff _ (condition_listed f _ _ _ _), ?_⟩
  intro operators row later
  have held : Parameters.HoldAt { (before.record predicate.columns predicate.values).parameters with
      values := (before.record predicate.columns predicate.values).parameters.values ++ later }
      before.parameters.size predicate.values :=
    ⟨before.parameters.values, later, rfl, rfl⟩
  exact judged_condition operators row f decided false _ held

namespace Sample

/-- A setting that is on, and a captured number other than 7. -/
def enabled : Expr :=
  .connect .and (.captured "enabled" (.bool true))
    (.not (.compare .eq (.captured "limit" (.number (.int 5))) (.constant (.number (.int 7)))))

theorem enabled_verdict : ∃ found after,
    Yields (Planning.condition catalog enabled false) (.ofRoot {} players) found after ∧
      enabled.mentionsRow = false ∧ enabled.evaluate = .ok (.bool true) ∧ enabled.NullFree ∧
      ∀ naming : Naming, ∃ formula,
        (∀ other, Reads .disjunction (shown (found.map (·.reference naming)).tokens) other [] ↔
          other = formula) ∧
        ∀ like concat row,
          formula.judged (.ofEvaluation like concat) after.parameters.get? row = .yes := by
  obtain ⟨found, after, yields⟩ : ∃ found after,
      Yields (Planning.condition catalog enabled false) (.ofRoot {} players) found after :=
        ⟨_, _, rfl⟩
  have known : enabled.mentionsRow = false := rfl
  have evaluates : enabled.evaluate = .ok (.bool true) := by
    simp [enabled, Expr.evaluate, applyComparison, Value.equal, Number.equal, applyConnective,
      expectBool, Value.asBool?, bind, Except.bind, pure, Except.pure]
  have nullFree : enabled.NullFree := ⟨trivial, rfl, rfl⟩
  obtain ⟨flag, same, _, _, decided, written⟩ :=
    Planning.condition_verdict yields known evaluates
  cases same
  refine ⟨found, after, yields, known, evaluates, nullFree, ?_⟩
  intro naming
  obtain ⟨formula, reads, judged⟩ := written (ColumnRef.reference naming)
  refine ⟨formula, reads, ?_⟩
  intro like concat row
  have whole := judged (.ofEvaluation like concat) row []
  rw [List.append_nil] at whole
  exact whole.trans (decided nullFree)

/-- A captured variable that is null, compared with null. -/
def missing : Expr := .compare .eq (.captured "filter" .null) (.constant .null)

/-- The comparison evaluates to true and is written as one that is unknown. -/
theorem missing_unknown : ∃ found after,
    Yields (Planning.condition catalog missing false) (.ofRoot {} players) found after ∧
      missing.mentionsRow = false ∧ missing.evaluate = .ok (.bool true) ∧
      ∀ naming : Naming, ∃ formula,
        (∀ other, Reads .disjunction (shown (found.map (·.reference naming)).tokens) other [] ↔
          other = formula) ∧
        ∀ operators row, formula.judged operators after.parameters.get? row = .unknown := by
  refine ⟨.compare false .eq .null .null, .ofRoot {} players, rfl, rfl, ?_, ?_⟩
  · simp [missing, Expr.evaluate, applyComparison, Value.equal, bind,
      Except.bind, pure, Except.pure]
  · intro naming
    refine ⟨.compare .eq .null .null,
      reads_condition_iff (.compare false .eq .null .null) trivial, ?_⟩
    intro operators row
    rfl

end Sample

end QueryChain
