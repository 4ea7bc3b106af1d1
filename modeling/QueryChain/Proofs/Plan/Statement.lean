import QueryChain.Plan

namespace QueryChain

open Sql

/-! The statement of a plan, with its predicate as one list of tokens. -/

namespace Sql

section Tokens

variable {ρ σ : Type} {spell : ρ → String}

@[simp] theorem tokensText_nil : tokensText spell [] = "" := rfl

@[simp] theorem tokensText_cons (token : Token ρ) (rest : List (Token ρ)) :
    tokensText spell (token :: rest) = token.text spell ++ tokensText spell rest := by
  simp [tokensText]

@[simp] theorem tokensText_append (first rest : List (Token ρ)) :
    tokensText spell (first ++ rest) = tokensText spell first ++ tokensText spell rest := by
  simp [tokensText]

theorem tokensText_ne_empty {tokens : List (Token ρ)} {token : Token ρ}
    (member : token ∈ tokens)
    (visible : token.text spell ≠ "") : tokensText spell tokens ≠ "" := by
  obtain ⟨before, after, rfl⟩ := List.append_of_mem member
  simp [visible]

/-- A condition is written with at least one token that shows. -/
theorem Condition.text_ne_empty (condition : Condition ρ) :
    tokensText spell condition.tokens ≠ "" := by
  have opening : (Token.opening : Token ρ).text spell ≠ "" := by
    change "(" ≠ ""
    decide
  have number : ∀ value < 2, (Token.number value : Token ρ).text spell ≠ "" := by
    change ∀ value < 2, toString value ≠ ""
    decide
  have keyword : ∀ word, (Token.keyword word : Token ρ).text spell ≠ "" := by
    change ∀ word : Keyword, word.text ≠ ""
    intro word
    cases word <;> decide
  cases condition with
  | truth value => exact tokensText_ne_empty (by simp [tokens, Phrase.truth]) (number 1 (by decide))
  | compare negated op left right => exact tokensText_ne_empty (by simp [tokens]) opening
  | connect negated op left right => exact tokensText_ne_empty (by simp [tokens]) opening
  | flag negated column =>
      exact tokensText_ne_empty (by simp [tokens, Phrase.flag]) (number 0 (by decide))
  | hasValue negated column =>
      exact tokensText_ne_empty (by cases negated <;> simp [tokens, Phrase.nullTest])
        (keyword .null)
  | like negated column op pattern =>
      exact tokensText_ne_empty (by cases negated <;> simp [tokens, Phrase.like]) (keyword .like)
  | oneOf negated column values => exact tokensText_ne_empty (by simp [tokens]) opening
  | nullOrEmpty negated column => exact tokensText_ne_empty (by simp [tokens]) opening

/-- Tokens of conditions that all have to hold. -/
def conjunctionTokens : List (Condition ρ) → List (Token ρ)
  | [] => []
  | first :: rest =>
    first.tokens ++ rest.flatMap fun condition => Phrase.spaced .and ++ condition.tokens

theorem conjunction_isEmpty (conditions : List (Condition ρ)) :
    (tokensText spell (conjunctionTokens conditions)).isEmpty = conditions.isEmpty := by
  cases conditions with
  | nil => rfl
  | cons first rest => simp [conjunctionTokens, first.text_ne_empty]

end Tokens

namespace Writer

variable {writer : Writer}

theorem foldl_condition (conditions : List (Condition Reference))
    (written : writer.predicateText ≠ "") :
    conditions.foldl Writer.condition writer = { writer with
      predicate := writer.predicate ++
        conditions.flatMap fun condition => Phrase.spaced .and ++ condition.tokens } := by
  induction conditions generalizing writer with
  | nil => simp
  | cons first rest ih =>
      have next : writer.condition first =
          { writer with predicate :=
            writer.predicate ++ (Phrase.spaced .and ++ first.tokens) } := by
        simp [Writer.condition, beginPredicate, written, Writer.write]
      rw [List.foldl_cons, ih, next]
      · simp
      · rw [next]
        simp [predicateText, first.text_ne_empty]

theorem foldl_condition_of_empty (conditions : List (Condition Reference))
    (empty : writer.predicate = []) :
    conditions.foldl Writer.condition writer =
      { writer with predicate := conjunctionTokens conditions } := by
  cases conditions with
  | nil => simp [conjunctionTokens, ← empty]
  | cons first rest =>
      have next : writer.condition first = { writer with predicate := first.tokens } := by
        simp [Writer.condition, beginPredicate, predicateText, empty, Writer.write]
      rw [List.foldl_cons, next, foldl_condition]
      · rfl
      · exact first.text_ne_empty

end Writer

end Sql

theorem Plan.statement_eq (plan : Plan) (naming : Naming) :
    plan.statement naming =
      { window := plan.outline.window
        distinct := plan.outline.distinct
        columns := plan.selection.columns.map (·.reference naming)
        source := plan.source.source naming
        joins := plan.joins.map (·.named naming)
        predicate := conjunctionTokens (plan.conditions.map (·.map (·.reference naming)))
        order := plan.order.map (·.named naming) } := by
  unfold Plan.statement Plan.writer
  rw [← List.foldl_map, Writer.foldl_condition_of_empty _ rfl]
  rfl

end QueryChain
