import QueryChain.Proofs.Expr.Known

namespace QueryChain

open Json

/-! Expressions that mention a row do not evaluate.

All operands are evaluated before the value of any is looked at, so a parameter anywhere in an
expression makes its evaluation fail, as the error of a malformed query.
-/

/-- An outcome that is a value only where no row is mentioned, and else that a query is
malformed. -/
inductive RowFree {α : Type} (mentions : Bool) : Except QueryError α → Prop where
  | value {value : α} (free : mentions = false) : RowFree mentions (.ok value)
  | malformed (cause : MalformedQuery) : RowFree mentions (.error (.malformed cause))

namespace RowFree

variable {α β : Type} {mentions more : Bool} {outcome : Except QueryError α}

theorem bind {next : α → Except QueryError β} (rowFree : RowFree mentions outcome)
    (nextRowFree : ∀ value, RowFree more (next value)) :
    RowFree (mentions || more) (outcome >>= next) := by
  cases rowFree with
  | @value value free =>
      rw [free, Bool.false_or]
      exact nextRowFree value
  | malformed cause => exact .malformed cause

/-- What follows an evaluation mentions no row of its own. -/
theorem apply {next : α → Except QueryError β} (rowFree : RowFree mentions outcome)
    (nextRowFree : ∀ value, RowFree false (next value)) :
    RowFree mentions (outcome >>= next) := by
  rw [← Bool.or_false mentions]
  exact rowFree.bind nextRowFree

theorem pure (value : α) : RowFree false (pure value : Except QueryError α) := .value rfl

theorem map {apply : α → β} (rowFree : RowFree mentions outcome) :
    RowFree mentions (do return apply (← outcome)) :=
  rowFree.apply fun _ => .pure _

theorem error_of_mentions (rowFree : RowFree mentions outcome) (mentioned : mentions = true) :
    ∃ cause, outcome = .error (.malformed cause) := by
  cases rowFree with
  | value free => cases mentioned.symm.trans free
  | malformed cause => exact ⟨cause, rfl⟩

theorem free_of_ok {value : α} (rowFree : RowFree mentions outcome)
    (succeeds : outcome = .ok value) :
    mentions = false := by
  cases rowFree with
  | value free => exact free
  | malformed cause => cases succeeds

end RowFree

section Values

theorem rowFree_expectBool (value : Value) : RowFree false (expectBool value) := by
  cases value with
  | bool flag => exact .value rfl
  | null | number _ | string _ | array _ | object _ => exact .malformed _

theorem rowFree_expectList (value : Value) : RowFree false (expectList value) := by
  cases value with
  | array items => exact .value rfl
  | null | bool _ | number _ | string _ | object _ => exact .malformed _

theorem rowFree_applyMember (name : String) (value : Value) :
    RowFree false (applyMember name value) := by
  cases value with
  | object members =>
      simp only [applyMember]
      split
      · exact .value rfl
      · exact .malformed _
  | null | bool _ | number _ | string _ | array _ => exact .malformed _

theorem rowFree_applyMatch (op : StringOp) (target value : Value) :
    RowFree false (applyMatch op target value) := by
  unfold applyMatch
  split
  · exact .value rfl
  · exact .malformed _

theorem rowFree_applyComparison (op : Comparison) (left right : Value) :
    RowFree false (applyComparison op left right) := by
  cases op with
  | eq | ne => exact .value rfl
  | lt | le | gt | ge =>
      simp only [applyComparison]
      split
      · exact .value rfl
      · exact .malformed _

theorem rowFree_applyConnective (op : Connective) (left right : Value) :
    RowFree false (applyConnective op left right) := by
  refine (rowFree_expectBool left).apply ?_
  intro flag
  cases op <;> cases flag
  · exact .value rfl
  · exact rowFree_expectBool right
  · exact rowFree_expectBool right
  · exact .value rfl

end Values

namespace Expr

mutual

theorem rowFree_evaluate : (expr : Expr) → RowFree expr.mentionsRow expr.evaluate
  | .parameter _ => .malformed _
  | .constant _ => .value rfl
  | .captured _ _ => .value rfl
  | .member target name => (rowFree_evaluate target).apply (rowFree_applyMember name)
  | .array items => (rowFree_evaluateItems items).map
  | .not operand => (rowFree_evaluate operand).apply fun value => (rowFree_expectBool value).map
  | .hasValue operand => (rowFree_evaluate operand).map
  | .isNullOrEmpty operand => (rowFree_evaluate operand).map
  | .compare op left right =>
      (rowFree_evaluate left).bind fun first => (rowFree_evaluate right).apply fun second =>
        (rowFree_applyComparison op first second).map
  | .connect op left right =>
      (rowFree_evaluate left).bind fun first => (rowFree_evaluate right).apply fun second =>
        (rowFree_applyConnective op first second).map
  | .stringMatch op target value =>
      (rowFree_evaluate target).bind fun first => (rowFree_evaluate value).apply fun second =>
        (rowFree_applyMatch op first second).map
  | .collectionContains collection item => by
      rw [mentionsRow, Bool.or_comm]
      exact (rowFree_evaluate item).bind fun found => (rowFree_evaluate collection).apply
        fun value => (rowFree_expectList value).map

theorem rowFree_evaluateItems : (items : List Expr) →
    RowFree (anyMentionsRow items) (evaluateItems items)
  | [] => .value rfl
  | item :: rest => (rowFree_evaluate item).bind fun _ => (rowFree_evaluateItems rest).map

end

theorem rowFree_evaluateList (expr : Expr) : RowFree expr.mentionsRow expr.evaluateList :=
  expr.rowFree_evaluate.apply rowFree_expectList

variable {expr : Expr}

theorem evaluate_of_mentionsRow (mentions : expr.mentionsRow = true) :
    ∃ cause, expr.evaluate = .error (.malformed cause) :=
  expr.rowFree_evaluate.error_of_mentions mentions

theorem evaluateList_of_mentionsRow (mentions : expr.mentionsRow = true) :
    ∃ cause, expr.evaluateList = .error (.malformed cause) :=
  expr.rowFree_evaluateList.error_of_mentions mentions

/-- A count that is no number of rows is another error, but not before it has a value. -/
theorem evaluateCount_of_mentionsRow (mentions : expr.mentionsRow = true) :
    ∃ cause, expr.evaluateCount = .error (.malformed cause) := by
  obtain ⟨cause, fails⟩ := evaluate_of_mentionsRow mentions
  exact ⟨cause, by rw [evaluateCount, fails]; rfl⟩

theorem mentionsRow_of_evaluate {value : Value} (evaluates : expr.evaluate = .ok value) :
    expr.mentionsRow = false :=
  expr.rowFree_evaluate.free_of_ok evaluates

theorem mentionsRow_of_evaluateList {values : List Value}
    (evaluates : expr.evaluateList = .ok values) : expr.mentionsRow = false :=
  expr.rowFree_evaluateList.free_of_ok evaluates

end Expr

end QueryChain
