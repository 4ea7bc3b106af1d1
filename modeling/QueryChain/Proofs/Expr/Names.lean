import QueryChain.Expr.Eval
import QueryChain.Plan.Draft

namespace QueryChain

open Json

/-! Names that an expression gives to parameters and captured variables.

Messages quote them, and nothing else depends on them: expressions that differ in such
names stand for the same columns and evaluate to the same values.
-/

theorem toOption_bind {ε α β : Type} (outcome : Except ε α) (next : α → Except ε β) :
    (outcome >>= next).toOption = outcome.toOption.bind fun value => (next value).toOption := by
  cases outcome <;> rfl

namespace Expr

mutual

/-- An expression without the names of its parameters and captured variables. -/
def unnamed : Expr → Expr
  | .parameter param => .parameter { param with name := "" }
  | .member target name => .member target.unnamed name
  | .hasValue operand => .hasValue operand.unnamed
  | .constant value => .constant value
  | .captured _ value => .captured "" value
  | .array items => .array (unnamedItems items)
  | .compare op left right => .compare op left.unnamed right.unnamed
  | .connect op left right => .connect op left.unnamed right.unnamed
  | .not operand => .not operand.unnamed
  | .stringMatch op target value => .stringMatch op target.unnamed value.unnamed
  | .collectionContains collection item => .collectionContains collection.unnamed item.unnamed
  | .isNullOrEmpty operand => .isNullOrEmpty operand.unnamed

def unnamedItems : List Expr → List Expr
  | [] => []
  | item :: rest => item.unnamed :: unnamedItems rest

end

/-- Expressions that differ at most in the names of parameters and captured variables. -/
def Renames (expr other : Expr) : Prop := other.unnamed = expr.unnamed

mutual

theorem toOption_evaluate_unnamed :
    (expr : Expr) → expr.unnamed.evaluate.toOption = expr.evaluate.toOption
  | .parameter param => rfl
  | .constant value => rfl
  | .captured name value => rfl
  | .member target name => by
      simp only [unnamed, evaluate, toOption_bind, toOption_evaluate_unnamed target]
  | .hasValue operand => by
      simp only [unnamed, evaluate, toOption_bind, toOption_evaluate_unnamed operand]
  | .isNullOrEmpty operand => by
      simp only [unnamed, evaluate, toOption_bind, toOption_evaluate_unnamed operand]
  | .not operand => by
      simp only [unnamed, evaluate, toOption_bind, toOption_evaluate_unnamed operand]
  | .array items => by
      simp only [unnamed, evaluate, toOption_bind, toOption_evaluateItems_unnamed items]
  | .compare op left right => by
      simp only [unnamed, evaluate, toOption_bind, toOption_evaluate_unnamed left,
        toOption_evaluate_unnamed right]
  | .connect op left right => by
      simp only [unnamed, evaluate, toOption_bind, toOption_evaluate_unnamed left,
        toOption_evaluate_unnamed right]
  | .stringMatch op target value => by
      simp only [unnamed, evaluate, toOption_bind, toOption_evaluate_unnamed target,
        toOption_evaluate_unnamed value]
  | .collectionContains collection item => by
      simp only [unnamed, evaluate, toOption_bind, toOption_evaluate_unnamed collection,
        toOption_evaluate_unnamed item]

theorem toOption_evaluateItems_unnamed :
    (items : List Expr) → (evaluateItems (unnamedItems items)).toOption =
      (evaluateItems items).toOption
  | [] => rfl
  | item :: rest => by
      simp only [unnamedItems, evaluateItems, toOption_bind, toOption_evaluate_unnamed item,
        toOption_evaluateItems_unnamed rest]

end

theorem column?_unnamed (expr : Expr) : expr.unnamed.column? = expr.column? := by
  cases expr with
  | member target name => cases target <;> rfl
  | parameter _ | hasValue _ | constant _ | captured _ _ | array _ | compare _ _ _
  | connect _ _ _ | not _ | stringMatch _ _ _ | collectionContains _ _ | isNullOrEmpty _ => rfl

namespace Renames

variable {expr other : Expr}

theorem evaluate (renames : expr.Renames other) :
    other.evaluate.toOption = expr.evaluate.toOption := by
  rw [← toOption_evaluate_unnamed, renames, toOption_evaluate_unnamed]

theorem evaluateList (renames : expr.Renames other) :
    other.evaluateList.toOption = expr.evaluateList.toOption := by
  simp only [Expr.evaluateList, toOption_bind, renames.evaluate]

theorem evaluateCount (renames : expr.Renames other) :
    other.evaluateCount.toOption = expr.evaluateCount.toOption := by
  simp only [Expr.evaluateCount, toOption_bind, renames.evaluate]

theorem column? (renames : expr.Renames other) : other.column? = expr.column? := by
  rw [← column?_unnamed, renames, column?_unnamed]

end Renames

end Expr

end QueryChain
