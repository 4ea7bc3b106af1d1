import QueryChain.Proofs.Query.Acceptance
import QueryChain.Proofs.Sql.Parameters
import QueryChain.Proofs.Sql.Reading

namespace QueryChain

open Json Schema

/-! What the predicate of a statement means.

`Predicate.meaning` gives each predicate its truth on a row.  The formula as which the
predicate of a statement reads is true, false or unknown of a row just as all of the
query's predicates together are.
-/

section Meaning

open Sql

variable {δ : Type} [DecidableEq δ] (interpretation : Interpretation δ)
    (row : ColumnRef → Option δ)

def Term.meaning : Term → Option δ
  | .column found => row found
  | .value known => interpretation.valueOf known

def Predicate.meaning : Predicate → Truth
  | .truth value => .ofBool value
  | .compare op left right =>
    interpretation.compare op (left.meaning interpretation row) (right.meaning interpretation row)
  | .connect .and left right => left.meaning.and right.meaning
  | .connect .or left right => left.meaning.or right.meaning
  | .not operand => operand.meaning.not
  | .flag column => interpretation.compare .ne (row column) (some (interpretation.number 0))
  | .hasValue column => .ofBool (row column).isSome
  | .like column op pattern =>
    interpretation.matchesPattern (row column)
      ((pattern.meaning interpretation row).map (interpretation.pattern op))
  | .oneOf column values =>
    .any (values.map fun value =>
      interpretation.compare .eq (row column) (interpretation.valueOf value))
  | .nullOrEmpty column => .ofBool (row column = none || row column = some (interpretation.text ""))

end Meaning

/-- The values other than null are bound one after another, after `bound` others. -/
def Sql.Parameters.HoldAt (parameters : Parameters) (bound : Nat) (values : List Value) : Prop :=
  ∃ earlier later, earlier.length = bound ∧
    parameters.values = earlier ++ nonNull values ++ later

section Values

open Sql

variable {ρ δ : Type} (interpretation : Interpretation δ) (row : ρ → Option δ)
  {parameters : Parameters} {bound : Nat}

theorem HoldAt.append {left right : List Value} (held : parameters.HoldAt bound (left ++ right)) :
    parameters.HoldAt bound left ∧
      parameters.HoldAt (bound + (nonNull left).length) right := by
  obtain ⟨earlier, later, length, values⟩ := held
  rw [nonNull_append] at values
  refine ⟨⟨earlier, nonNull right ++ later, length, ?_⟩,
    earlier ++ nonNull left, later, by simp [length], ?_⟩
  · simp [values]
  · simp [values]

theorem valueOperand_eval {value : Value} (held : parameters.HoldAt bound [value]) :
    (valueOperand parameters.stem bound value : Operand ρ).scalar.eval interpretation
      parameters.get? row = interpretation.valueOf value := by
  unfold valueOperand Interpretation.valueOf
  by_cases null : value.isNull
  · simp [null, Operand.scalar, Scalar.eval]
  · obtain ⟨earlier, later, rfl, values⟩ := held
    have found : parameters.values[earlier.length]? = some value := by
      simp [values, nonNull, null]
    simp [null, Operand.scalar, Scalar.eval, parameters.get?_nameFrom, found]

theorem valueOperands_eval {values : List Value} (held : parameters.HoldAt bound values) :
    ((valueOperands parameters.stem bound values : List (Operand ρ)).map Operand.scalar).map
        (fun value => value.eval interpretation parameters.get? row) =
      values.map interpretation.valueOf := by
  induction values generalizing bound with
  | nil => rfl
  | cons value rest ih =>
      obtain ⟨first, following⟩ := @HoldAt.append _ _ [value] rest held
      simp only [valueOperands, List.map_cons,
        valueOperand_eval interpretation row first, ih following]

theorem operand_eval (f : ColumnRef → ρ) {term : Term}
    (held : parameters.HoldAt bound term.values) :
    ((term.operand parameters.stem bound).map f).scalar.eval interpretation parameters.get? row =
      term.meaning interpretation (fun found => row (f found)) := by
  cases term with
  | column found => rfl
  | value known =>
      rw [Term.operand, valueOperand_map]
      exact valueOperand_eval interpretation row held

theorem pattern_eval (op : StringOp) (operand : Operand ρ) (bindings : String → Option Value) :
    (operand.pattern op).eval interpretation bindings row =
      (operand.scalar.eval interpretation bindings row).map (interpretation.pattern op) := by
  cases value : operand.scalar.eval interpretation bindings row <;> cases op <;>
    simp [Operand.pattern, Interpretation.pattern, Scalar.eval, value]

end Values

section Listed

open Sql

variable {ρ : Type}

theorem condition_listed (f : ColumnRef → ρ) (stem : String)
    (predicate : Predicate) (negated : Bool)
    (bound : Nat) : ((predicate.condition stem negated bound).map f).Listed := by
  induction predicate generalizing negated bound with
  | connect op left right ihLeft ihRight => exact ⟨ihLeft _ _, ihRight _ _⟩
  | not operand ih => exact ih _ _
  | oneOf column values =>
      cases values with
      | nil => trivial
      | cons value rest => exact List.cons_ne_nil _ _
  | truth _ | compare _ _ _ | flag _ | hasValue _ | like _ _ _ | nullOrEmpty _ => trivial

theorem conditions_listed (f : ColumnRef → ρ) (stem : String) (predicates : List Predicate)
    (bound : Nat) :
    ∀ condition ∈ (conditionsFrom stem bound predicates).map (Condition.map f),
      condition.Listed := by
  induction predicates generalizing bound with
  | nil => exact List.forall_mem_nil _
  | cons predicate rest ih =>
      exact List.forall_mem_cons.mpr ⟨condition_listed f stem predicate false bound, ih _⟩

end Listed

section Conditions

open Sql

variable {ρ δ : Type} [DecidableEq δ]
    (interpretation : Interpretation δ) (row : ρ → Option δ)

theorem negateIf_truth (negated : Bool) (formula : Formula ρ)
    (bindings : String → Option Value) :
    (formula.negateIf negated).truth interpretation bindings row =
      Truth.negateIf negated (formula.truth interpretation bindings row) := by
  cases negated <;> rfl

theorem conjoin_truth (first : Formula ρ) (rest : List (Formula ρ))
    (bindings : String → Option Value) :
    (first.conjoin rest).truth interpretation bindings row =
      .all ((first :: rest).map fun formula => formula.truth interpretation bindings row) := by
  induction rest generalizing first with
  | nil => simp [Formula.conjoin, Truth.all]
  | cons next rest ih =>
      have step : first.conjoin (next :: rest) = (Formula.and first next).conjoin rest := rfl
      rw [step, ih]
      simp [Truth.all, Formula.truth, Truth.and_assoc]

theorem truth_truth (value : Bool) (bindings : String → Option Value) :
    (Condition.truth value : Condition ρ).formula.truth interpretation bindings row =
      .ofBool value := by
  have different := interpretation.zero_ne_one.symm
  cases value <;>
    simp [Condition.formula, Formula.truth, Scalar.eval, Interpretation.compare,
      Interpretation.lift, different]

/-- A condition is true of a row when its predicate is, negations included. -/
theorem condition_truth (f : ColumnRef → ρ) {parameters : Parameters} (predicate : Predicate)
    (negated : Bool) (bound : Nat) (held : parameters.HoldAt bound predicate.values) :
    ((predicate.condition parameters.stem negated bound).map f).formula.truth interpretation
        parameters.get? row =
      Truth.negateIf negated (predicate.meaning interpretation fun found => row (f found)) := by
  induction predicate generalizing negated bound with
  | truth value =>
      rw [Predicate.condition, Condition.map, truth_truth, Predicate.meaning]
      cases negated <;> simp [Truth.negateIf]
  | compare op left right =>
      obtain ⟨heldLeft, heldRight⟩ := HoldAt.append held
      simp only [Predicate.condition, Condition.map, Condition.formula,
        negateIf_truth, Formula.truth, operand_eval interpretation row f heldLeft,
        operand_eval interpretation row f heldRight,
        Predicate.meaning]
  | connect op left right ihLeft ihRight =>
      obtain ⟨heldLeft, heldRight⟩ := HoldAt.append held
      have leftTruth := ihLeft false bound heldLeft
      have rightTruth := ihRight false _ heldRight
      cases op <;>
        simp only [Predicate.condition, Condition.map, Condition.formula,
          negateIf_truth, Formula.truth, leftTruth, rightTruth, Predicate.meaning, Truth.negateIf,
          Bool.false_eq_true, if_false]
  | not operand ih =>
      rw [Predicate.meaning, Truth.negateIf_not]
      exact ih _ _ held
  | flag column =>
      cases negated <;>
        simp [Predicate.condition, Condition.map, Condition.formula, Formula.truth, Scalar.eval,
          Predicate.meaning, Truth.negateIf, Interpretation.not_compare_ne]
  | hasValue column =>
      cases value : row (f column) <;> cases negated <;>
        simp [Predicate.condition, Condition.map, Condition.formula, negateIf_truth, Formula.truth,
          Scalar.eval, Predicate.meaning, Truth.negateIf, value]
  | like column op pattern =>
      simp only [Predicate.condition, Condition.map, Condition.formula,
        negateIf_truth, Formula.truth, pattern_eval, operand_eval interpretation row f held,
        Predicate.meaning, Scalar.eval]
  | oneOf column values =>
      cases values with
      | nil =>
          refine (truth_truth interpretation row negated _).trans ?_
          cases negated <;> rfl
      | cons value rest =>
          have compared := congrArg (fun evaluated => Truth.any
            (evaluated.map (interpretation.compare .eq (row (f column)))))
            (valueOperands_eval interpretation row held)
          simp only [List.map_map, Function.comp_def] at compared
          simp only [Predicate.condition, List.isEmpty_cons, Bool.false_eq_true,
            if_false, Condition.map, Condition.formula, negateIf_truth, Formula.truth,
            valueOperands_map, Scalar.eval,
            Predicate.meaning, List.map_map, Function.comp_def]
          exact congrArg _ compared
  | nullOrEmpty column =>
      cases value : row (f column) <;> cases negated <;>
        simp [Predicate.condition, Condition.map, Condition.formula, Formula.truth, Scalar.eval,
          Predicate.meaning, Truth.negateIf, value, Interpretation.compare, Interpretation.lift]

theorem conditions_truth (f : ColumnRef → ρ) {parameters : Parameters}
    (predicates : List Predicate)
    (bound : Nat) (held : parameters.HoldAt bound (predicates.flatMap Predicate.values)) :
    ((conditionsFrom parameters.stem bound predicates).map (Condition.map f)).map
        (fun condition => condition.formula.truth interpretation parameters.get? row) =
      predicates.map (Predicate.meaning interpretation fun found => row (f found)) := by
  induction predicates generalizing bound with
  | nil => rfl
  | cons predicate rest ih =>
      obtain ⟨first, following⟩ := HoldAt.append held
      simp only [conditionsFrom, List.map_cons, ih _ following,
        condition_truth interpretation row f predicate false bound first]
      rfl

end Conditions

section Statements

variable {catalog : Catalog} {registry after : Registry} {settings : Settings} {query : Query}
  {compiled : Compiled}

/-- The predicate of a statement is the text of its tokens.  It reads in one way, and is as
true of a row as the predicates of its query.  It is absent when they are. -/
theorem Schema.Registry.Reachable.predicate_meaning
    (reachable : Registry.Reachable catalog registry)
    (compiles : registry.compile settings query = (.ok compiled, after)) :
    compiled.statement.predicateText =
        String.join (compiled.statement.predicate.map Sql.spelling) ∧
      ∃ readings,
        query.predicates.mapM (fun predicate => predicate.body.predicate? catalog.lookup) =
          some readings ∧
      (readings = [] → compiled.statement.predicate = []) ∧
      (readings ≠ [] → ∃ formula,
        (∀ found, Sql.Reads .disjunction (Sql.shown compiled.statement.predicate) found [] ↔
          found = formula) ∧
        ∀ (δ : Type) [DecidableEq δ] (interpretation : Sql.Interpretation δ)
          (row : Sql.Reference → Option δ),
          formula.truth interpretation compiled.parameters.get? row =
            .all (readings.map (Predicate.meaning interpretation fun column =>
              row (column.reference after.aliasOf)))) := by
  obtain ⟨plan, walkable, planned, rfl, names⟩ := reachable.compiled_planned compiles
  have read := walkable.acceptable.readings (rfl : catalog.lookup.within query.tables = _)
  have predicate := planned.predicate after.aliasOf
  refine ⟨?_, query.readings catalog.lookup, read, ?_, ?_⟩
  · rw [Sql.Statement.predicateText, Sql.tokensText]
    exact congrArg String.join (List.map_congr_left fun token _ => Sql.text_eq_spelling token)
  · intro unread
    rw [unread] at predicate
    exact predicate
  · intro readings
    obtain ⟨first, rest, conditions⟩ : ∃ first rest,
        (conditionsFrom settings.stem 0 (query.readings catalog.lookup)).map
          (Sql.Condition.map (ColumnRef.reference after.aliasOf)) = first :: rest := by
      cases known : query.readings catalog.lookup with
      | nil => exact absurd known readings
      | cons reading more => exact ⟨_, _, rfl⟩
    have listed := conditions_listed (ColumnRef.reference after.aliasOf) settings.stem
      (query.readings catalog.lookup) 0
    have held : plan.parameters.HoldAt 0
        ((query.readings catalog.lookup).flatMap Predicate.values) := by
      rw [planned.parameters]
      exact ⟨[], [], rfl, by simp [Query.values]⟩
    have stem : plan.parameters.stem = settings.stem := by rw [planned.parameters]
    rw [conditions] at listed predicate
    refine ⟨first.formula.conjoin (rest.map Sql.Condition.formula), ?_, ?_⟩
    · intro found
      change Sql.Reads _ (Sql.shown (plan.statement after.aliasOf).predicate) _ _ ↔ _
      rw [predicate]
      exact Sql.reads_conjunction_iff first rest listed found
    · intro δ _ interpretation row
      have truths :=
        conditions_truth interpretation row (ColumnRef.reference after.aliasOf) _ 0 held
      rw [stem, conditions] at truths
      rw [conjoin_truth, ← truths]
      simp [Plan.compiled, Function.comp_def]

theorem Sample.query_meaning : ∃ (compiled : Compiled) (after : Registry)
    (readings : List Predicate) (formula : Sql.Formula Sql.Reference),
    (Registry.ofCatalog Sample.catalog).compile {} Sample.query = (.ok compiled, after) ∧
      readings ≠ [] ∧
      ∀ (interpretation : Sql.Interpretation Nat) (row : Sql.Reference → Option Nat),
        formula.truth interpretation compiled.parameters.get? row =
          .all (readings.map (Predicate.meaning interpretation fun column =>
            row (column.reference after.aliasOf))) := by
  obtain ⟨compiled, after, compiles⟩ := Sample.query_compiles
  obtain ⟨_, readings, read, _, meaning⟩ :=
    Registry.Reachable.predicate_meaning .ofCatalog compiles
  have filtered : readings ≠ [] := by
    intro unread
    obtain ⟨first, rest, predicates⟩ :
        ∃ first rest, Sample.query.predicates = first :: rest := ⟨_, _, rfl⟩
    rw [unread, predicates] at read
    simp [Option.bind_eq_some_iff] at read
  obtain ⟨formula, _, truth⟩ := meaning filtered
  exact ⟨compiled, after, readings, formula, compiles, filtered, truth Nat⟩

end Statements

end QueryChain
