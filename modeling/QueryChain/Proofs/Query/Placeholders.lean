import QueryChain.Proofs.Query.Acceptance
import QueryChain.Proofs.Sql.Parameters

namespace QueryChain

open Json Schema

/-! Placeholders of a compiled query and the parameters behind them. -/

namespace Sql

variable {ρ σ : Type}

/-- The tokens that stand for values: placeholders, and nulls that no test asks for. -/
def valueTokens : List (Token ρ) → List (Token ρ)
  | [] => []
  | .keyword .is :: .space :: .keyword .null :: rest => valueTokens rest
  | .keyword .is :: .space :: .keyword .not :: .space :: .keyword .null :: rest => valueTokens rest
  | .keyword .null :: rest => .keyword .null :: valueTokens rest
  | .placeholder name :: rest => .placeholder name :: valueTokens rest
  | _ :: rest => valueTokens rest

def Token.placeholder? : Token ρ → Option String
  | .placeholder name => some name
  | _ => none

/-- Tokens that hold no text of a caller. -/
def Token.fixed : Token Reference → Bool
  | .verbatim _ => false
  | .reference (.verbatim _) => false
  | _ => true

/-- The columns that a statement names outside its predicate. -/
def Statement.references (statement : Statement) : List Reference :=
  statement.columns ++ statement.joins.flatMap (fun join => [join.left, join.right])
    ++ statement.order.map SortKey.column

end Sql

/-- The parameters of a compiled query are the values of its predicates, each behind
the placeholder at its place. -/
structure Compiled.Binds (compiled : Compiled) (settings : Settings) (values : List Value) :
    Prop where
  entries : compiled.parameters.entries = ((nonNull values).zipIdx 1).map
    fun (value, number) => (settings.stem ++ toString number, value)
  positions : Sql.valueTokens compiled.statement.predicate = values.mapIdx fun index value =>
    if value.isNull then .keyword .null
    else .placeholder (settings.stem ++ toString ((nonNull (values.take index)).length + 1))
  placeholders :
    compiled.statement.predicate.filterMap Sql.Token.placeholder? = compiled.parameters.names
  tokens : compiled.statement.predicate.all Sql.Token.fixed
  columns : ∀ reference ∈ compiled.statement.references,
    ∃ qualifier name, reference = .column qualifier name
  fits : (nonNull values).length ≤ settings.limit
  distinct : compiled.parameters.names.Nodup
  object : compiled.parameters.toValue = .object compiled.parameters.entries

namespace Sql

variable {ρ σ : Type}

def Operand.valueTokens : Operand ρ → List (Token ρ)
  | .column _ => []
  | .placeholder name => [.placeholder name]
  | .null => [.keyword .null]

theorem valueTokens_operand (operand : Operand ρ) (rest : List (Token ρ)) :
    valueTokens (operand.token :: rest) = operand.valueTokens ++ valueTokens rest := by
  cases operand <;> simp [Operand.token, Operand.valueTokens, valueTokens]

theorem valueTokens_list (values : List (Operand ρ)) (rest : List (Token ρ)) :
    valueTokens (Condition.listTokens values ++ rest) =
      values.flatMap Operand.valueTokens ++ valueTokens rest := by
  induction values with
  | nil => rfl
  | cons value more ih =>
      cases more with
      | nil => simp [Condition.listTokens, valueTokens_operand]
      | cons next more =>
          simp only [Condition.listTokens, List.cons_append, List.append_assoc, valueTokens_operand,
            Phrase.separator, List.nil_append, valueTokens, ih, List.flatMap_cons]

/-- The values of a condition stand where its operands do. -/
theorem valueTokens_condition (condition : Condition ρ) (rest : List (Token ρ)) :
    valueTokens (condition.tokens ++ rest) =
      condition.operands.flatMap Operand.valueTokens ++ valueTokens rest := by
  induction condition generalizing rest with
  | truth value =>
      simp [Condition.tokens, Condition.operands, Phrase.truth, Phrase.comparison, valueTokens]
  | compare negated op left right =>
      cases negated <;>
        simp [Condition.tokens, Condition.operands, Condition.negation, Phrase.comparison,
          valueTokens, valueTokens_operand]
  | connect negated op left right ihLeft ihRight =>
      cases negated <;> cases op <;>
        simp [Condition.tokens, Condition.operands, Condition.negation, Phrase.spaced, connective,
          valueTokens, ihLeft, ihRight]
  | flag negated column =>
      simp [Condition.tokens, Condition.operands, Phrase.flag, Phrase.comparison, valueTokens]
  | hasValue negated column =>
      cases negated <;> simp [Condition.tokens, Condition.operands, Phrase.nullTest, valueTokens]
  | like negated column op pattern =>
      cases negated <;> cases op <;>
        simp [Condition.tokens, Condition.operands, Phrase.like, StringOp.leadingWildcard,
          StringOp.trailingWildcard, Phrase.leadingWildcard, Phrase.trailingWildcard,
          Phrase.wildcard, valueTokens, valueTokens_operand]
  | oneOf negated column values =>
      cases negated <;>
        simp [Condition.tokens, Condition.operands, Phrase.isIn, valueTokens, valueTokens_list]
  | nullOrEmpty negated column =>
      simp [Condition.tokens, Condition.operands, Phrase.separator, Phrase.emptyText,
        Phrase.equality, valueTokens]

theorem valueTokens_conjunction (conditions : List (Condition ρ)) :
    valueTokens (conjunctionTokens conditions) =
      (conditions.flatMap Condition.operands).flatMap Operand.valueTokens := by
  cases conditions with
  | nil => rfl
  | cons first rest =>
      rw [conjunctionTokens, valueTokens_condition, List.flatMap_cons, List.flatMap_append]
      congr 1
      induction rest with
      | nil => rfl
      | cons next rest ih =>
          have and : ∀ tokens : List (Token ρ),
              valueTokens (Phrase.spaced .and ++ tokens) = valueTokens tokens := fun _ => rfl
          simp only [List.flatMap_cons, List.append_assoc, List.flatMap_append, and,
            valueTokens_condition, ih]

theorem placeholders_valueTokens (tokens : List (Token ρ)) :
    (valueTokens tokens).filterMap Token.placeholder? = tokens.filterMap Token.placeholder? := by
  fun_induction valueTokens tokens with
  | case1 => rfl
  | case2 rest ih => exact ih
  | case3 rest ih => exact ih
  | case4 rest ih => exact ih
  | case5 name rest ih => exact congrArg (name :: ·) ih
  | case6 token rest _ _ _ other ih =>
      have unnamed : token.placeholder? = none := by
        cases token with
        | placeholder name => exact absurd rfl (other name)
        | _ => rfl
      simpa [unnamed] using ih

end Sql

section Fixed

open Sql

variable {naming : Naming}

theorem operand_fixed (operand : Operand ColumnRef) :
    (operand.map (ColumnRef.reference naming)).token.fixed := by
  cases operand <;> rfl

theorem listTokens_fixed (values : List (Operand ColumnRef)) :
    (Condition.listTokens (values.map (Operand.map (ColumnRef.reference naming)))).all
      Token.fixed := by
  induction values with
  | nil => rfl
  | cons value rest ih =>
      cases rest with
      | nil => simp [Condition.listTokens, operand_fixed]
      | cons next rest =>
          simp only [List.map_cons, Condition.listTokens, List.all_cons, List.all_append,
            operand_fixed] at ih ⊢
          simp [ih, Phrase.separator, Token.fixed]

theorem condition_fixed (condition : Condition ColumnRef) :
    (condition.map (ColumnRef.reference naming)).tokens.all Token.fixed := by
  induction condition with
  | truth value => cases value <;> rfl
  | compare negated op left right => cases negated <;> cases left <;> cases right <;> rfl
  | connect negated op left right ihLeft ihRight =>
      cases negated <;>
        simp_all [Condition.map, Condition.tokens, Condition.negation, Phrase.spaced, Token.fixed]
  | flag negated column => cases negated <;> rfl
  | hasValue negated column => cases negated <;> rfl
  | like negated column op pattern =>
      cases negated <;> cases op <;> cases pattern <;> rfl
  | oneOf negated column values =>
      have column : (Token.reference (column.reference naming)).fixed := rfl
      have phrase : ((Phrase.isIn negated ++ [.opening] : List (Token Reference)).all
          Token.fixed) := by
        cases negated <;> rfl
      simp only [Condition.map, Condition.tokens, List.all_append, List.all_cons, listTokens_fixed,
        column, Bool.true_and, List.cons_append] at phrase ⊢
      rw [phrase]
      rfl
  | nullOrEmpty negated column => cases negated <;> rfl

theorem conjunction_fixed (conditions : List (Condition ColumnRef)) :
    (conjunctionTokens (conditions.map (Condition.map (ColumnRef.reference naming)))).all
      Token.fixed := by
  cases conditions with
  | nil => rfl
  | cons first rest =>
      have following : (rest.map (Condition.map (ColumnRef.reference naming))).all
          fun condition => (Phrase.spaced .and ++ condition.tokens).all Token.fixed := by
        rw [List.all_map, List.all_eq_true]
        intro condition _
        rw [Function.comp_apply, List.all_append, condition_fixed]
        rfl
      rw [List.map_cons, conjunctionTokens, List.all_append, condition_fixed, List.all_flatMap,
        following]
      rfl

end Fixed

section Values

open Sql

variable {ρ : Type} {stem : String}

theorem valueOperand_valueTokens (bound : Nat) (value : Value) :
    (valueOperand stem bound value : Operand ρ).valueTokens =
      [if value.isNull then .keyword .null
        else .placeholder (stem ++ toString (bound + 1))] := by
  unfold valueOperand
  split <;> rfl

theorem valueOperands_valueTokens (bound : Nat) (values : List Value) :
    (valueOperands stem bound values : List (Operand ρ)).flatMap Operand.valueTokens =
      values.mapIdx fun index value =>
        if value.isNull then .keyword .null
        else .placeholder
          (stem ++ toString (bound + (nonNull (values.take index)).length + 1)) := by
  induction values generalizing bound with
  | nil => rfl
  | cons value rest ih =>
      have shifted : ∀ index, bound + (nonNull ((value :: rest).take (index + 1))).length =
          bound + (nonNull [value]).length + (nonNull (rest.take index)).length := by
        intro index
        rw [List.take_succ_cons, nonNull_cons, List.length_append, Nat.add_assoc]
      simp only [valueOperands, List.flatMap_cons, valueOperand_valueTokens, ih, List.mapIdx_cons,
        shifted]
      rfl

theorem valueOperands_placeholders (bound : Nat) (values : List Value) :
    ((valueOperands stem bound values : List (Operand ρ)).flatMap Operand.valueTokens).filterMap
        Token.placeholder? =
      (Parameters.entriesFrom stem (bound + 1) (nonNull values)).map Prod.fst := by
  induction values generalizing bound with
  | nil => rfl
  | cons value rest ih =>
      simp only [valueOperands, List.flatMap_cons, valueOperand_valueTokens,
        List.filterMap_append, ih]
      by_cases null : value.isNull <;>
        simp [null, nonNull, Token.placeholder?, Parameters.entriesFrom, Parameters.nameFrom]

theorem operand_valueTokens (f : ColumnRef → ρ) (bound : Nat) (term : Term) :
    ((term.operand stem bound).map f).valueTokens =
      (valueOperands stem bound term.values : List (Operand ρ)).flatMap Operand.valueTokens := by
  cases term with
  | column found => rfl
  | value known =>
      simp [Term.operand, Term.values, valueOperands, valueOperand_map]

/-- A condition writes the values of its predicate in order, whatever its negations. -/
theorem condition_valueTokens (f : ColumnRef → ρ) (predicate : Predicate) (negated : Bool)
    (bound : Nat) :
    ((predicate.condition stem negated bound).map f).operands.flatMap Operand.valueTokens =
      (valueOperands stem bound predicate.values : List (Operand ρ)).flatMap
        Operand.valueTokens := by
  induction predicate generalizing negated bound with
  | truth value => rfl
  | compare op left right =>
      simp [Predicate.condition, Condition.map, Condition.operands, Predicate.values,
        operand_valueTokens, valueOperands_append]
  | connect op left right ihLeft ihRight =>
      simp [Predicate.condition, Condition.map, Condition.operands, Predicate.values, ihLeft,
        ihRight, valueOperands_append]
  | not operand ih => exact ih _ _
  | flag column => rfl
  | hasValue column => rfl
  | like column op pattern =>
      simp [Predicate.condition, Condition.map, Condition.operands, Predicate.values,
        operand_valueTokens]
  | oneOf column values =>
      cases values with
      | nil => rfl
      | cons value rest =>
          simp [Predicate.condition, Condition.map, Condition.operands, Predicate.values,
            valueOperands_map]
  | nullOrEmpty column => rfl

theorem conditions_valueTokens (f : ColumnRef → ρ) (predicates : List Predicate) (bound : Nat) :
    (((conditionsFrom stem bound predicates).map (Condition.map f)).flatMap
        Condition.operands).flatMap Operand.valueTokens =
      (valueOperands stem bound (predicates.flatMap Predicate.values) : List (Operand ρ)).flatMap
        Operand.valueTokens := by
  induction predicates generalizing bound with
  | nil => rfl
  | cons predicate rest ih =>
      simp only [conditionsFrom, List.map_cons, List.flatMap_cons, List.flatMap_append,
        condition_valueTokens, ih, valueOperands_append]

end Values

theorem Plan.references_columns (plan : Plan) (naming : Naming) :
    ∀ reference ∈ (plan.statement naming).references,
      ∃ qualifier name, reference = .column qualifier name := by
  intro reference member
  simp only [Plan.statement_eq, Sql.Statement.references, List.mem_append, List.mem_map,
    List.mem_flatMap, List.mem_cons, List.not_mem_nil, or_false] at member
  rcases member with
    (⟨column, _, rfl⟩ | ⟨_, ⟨join, _, rfl⟩, rfl | rfl⟩) |
    ⟨_, ⟨key, _, rfl⟩, rfl⟩
  · exact ⟨_, _, rfl⟩
  · exact ⟨_, _, rfl⟩
  · exact ⟨_, _, rfl⟩
  · exact ⟨_, _, rfl⟩

section Binding

variable {catalog : Catalog} {registry after : Registry} {settings : Settings} {query : Query}
  {compiled : Compiled}

theorem Schema.Registry.Reachable.binds (reachable : Registry.Reachable catalog registry)
    (compiles : registry.compile settings query = (.ok compiled, after)) :
    ∃ readings,
      query.predicates.mapM (fun predicate => predicate.body.predicate? catalog.lookup) =
          some readings ∧
        compiled.Binds settings (readings.flatMap Predicate.values) := by
  obtain ⟨plan, walkable, planned, rfl, names⟩ := reachable.compiled_planned compiles
  have predicate := planned.predicate after.aliasOf
  have values : Sql.valueTokens ((plan.compiled after.aliasOf).statement).predicate =
      (valueOperands settings.stem 0 (query.values catalog.lookup)).flatMap
        Sql.Operand.valueTokens := by
    change Sql.valueTokens (plan.statement after.aliasOf).predicate = _
    rw [predicate, Sql.valueTokens_conjunction, conditions_valueTokens]
    rfl
  have parameters : (plan.compiled after.aliasOf).parameters =
      ⟨settings.stem, settings.limit, nonNull (query.values catalog.lookup)⟩ :=
        planned.parameters
  refine ⟨query.readings catalog.lookup, walkable.acceptable.readings rfl, ?_⟩
  exact {
    entries := by rw [parameters]; exact Sql.Parameters.entriesFrom_eq_zipIdx
    positions := by rw [values, valueOperands_valueTokens]; simp; rfl
    placeholders := by
      rw [← Sql.placeholders_valueTokens, values, valueOperands_placeholders, parameters]
      rfl
    tokens := predicate ▸ conjunction_fixed _
    columns := plan.references_columns after.aliasOf
    fits := walkable.acceptable.fits
    distinct := Sql.Parameters.names_nodup _
    object := Sql.Parameters.toValue_eq _ }

theorem Sample.query_binds :
    ∃ (readings : List Predicate) (compiled : Compiled) (after : Registry),
    (Registry.ofCatalog Sample.catalog).compile {} Sample.query = (.ok compiled, after) ∧
      compiled.Binds {} (readings.flatMap Predicate.values) := by
  obtain ⟨compiled, after, compiles⟩ := Sample.query_compiles
  obtain ⟨readings, _, binds⟩ := Registry.Reachable.binds .ofCatalog compiles
  exact ⟨readings, compiled, after, compiles, binds⟩

end Binding

end QueryChain
