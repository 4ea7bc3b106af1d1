import QueryChain.Proofs.Expr.Known
import QueryChain.Proofs.Json.Rounding

namespace QueryChain

open Json

/-! Comparisons of whole numbers that are known before the query runs.

Evaluation decides equality on the numbers themselves and order on the doubles nearest to them.
The two agree as long as the doubles tell the numbers apart.
-/

namespace Comparison

/-- The truth of a comparison of whole numbers. -/
def holds : Comparison → Int → Int → Bool
  | .eq, left, right => left = right
  | .ne, left, right => left ≠ right
  | .lt, left, right => left < right
  | .le, left, right => left ≤ right
  | .gt, left, right => right < left
  | .ge, left, right => right ≤ left

/-- What becomes of it where only the doubles are ordered. -/
def folded : Comparison → Int → Int → Bool
  | .eq, left, right => left = right
  | .ne, left, right => left ≠ right
  | .lt, left, right => left < right ∧ Binary64.ofInt left ≠ Binary64.ofInt right
  | .le, left, right => left ≤ right ∨ Binary64.ofInt left = Binary64.ofInt right
  | .gt, left, right => right < left ∧ Binary64.ofInt left ≠ Binary64.ofInt right
  | .ge, left, right => right ≤ left ∨ Binary64.ofInt left = Binary64.ofInt right

variable {left right : Int}

theorem folded_of_tellsApart (op : Comparison) (apart : Binary64.TellsApart left right) :
    op.folded left right = op.holds left right := by
  rcases apart with rfl | differ
  · cases op <;> simp [folded, holds]
  · cases op <;> simp [folded, holds, differ]

/-- Where two numbers become one double, neither is the lesser, and yet they are not equal. -/
theorem folded_of_not_tellsApart (blurred : ¬Binary64.TellsApart left right) :
    eq.folded left right = false ∧ lt.folded left right = false ∧
      gt.folded left right = false ∧
      le.folded left right = true ∧ ge.folded left right = true := by
  obtain ⟨differ, same⟩ := not_or.mp blurred
  have same : Binary64.ofInt left = Binary64.ofInt right := not_ne_iff.mp same
  simp [folded, differ, same]

theorem folded_eq_holds_iff :
    (∀ op : Comparison, op.folded left right = op.holds left right) ↔
      Binary64.TellsApart left right := by
  refine ⟨?_, fun apart op => folded_of_tellsApart op apart⟩
  intro exact
  by_contra blurred
  obtain ⟨equal, less, greater, _, _⟩ := folded_of_not_tellsApart blurred
  rw [exact] at equal less greater
  simp only [holds, decide_eq_false_iff_not] at equal less greater
  omega

/-- One of the three holds, and not more. -/
theorem trichotomy_iff :
    ([lt, eq, gt].countP fun op => op.folded left right) = 1 ↔
      Binary64.TellsApart left right := by
  by_cases apart : Binary64.TellsApart left right
  · refine iff_of_true ?_ apart
    simp only [List.countP_cons, List.countP_nil, folded_of_tellsApart _ apart, holds,
      decide_eq_true_eq]
    split <;> split <;> split <;> omega
  · refine iff_of_false ?_ apart
    obtain ⟨equal, less, greater, _, _⟩ := folded_of_not_tellsApart apart
    simp [equal, less, greater]

theorem le_eq_lt_or_eq_iff :
    le.folded left right = (lt.folded left right || eq.folded left right) ↔
      Binary64.TellsApart left right := by
  by_cases apart : Binary64.TellsApart left right
  · refine iff_of_true ?_ apart
    rw [Bool.eq_iff_iff, Bool.or_eq_true]
    simp only [folded_of_tellsApart _ apart, holds, decide_eq_true_eq]
    omega
  · refine iff_of_false ?_ apart
    obtain ⟨equal, less, _, atMost, _⟩ := folded_of_not_tellsApart apart
    simp [equal, less, atMost]

end Comparison

theorem applyComparison_ints (op : Comparison) (left right : Int) :
    applyComparison op (.number (.int left)) (.number (.int right)) =
      .ok (op.folded left right) := by
  have ordered : valueOrder? (.number (.int left)) (.number (.int right)) =
      some (if Binary64.ofInt left = Binary64.ofInt right then .eq else compare left right) :=
    congrArg some (Binary64.order_ofInt left right)
  cases op with
  | eq => rfl
  | ne => exact congrArg Except.ok decide_not.symm
  | lt | le | gt | ge =>
      simp only [applyComparison, ordered, Comparison.folded]
      by_cases same : Binary64.ofInt left = Binary64.ofInt right
      · simp [same]
      · rcases lt_trichotomy left right with less | rfl | greater
        · simp [same, compare_lt_iff_lt.mpr less, less, less.le, less.not_ge, less.not_gt]
        · exact absurd rfl same
        · simp [same, compare_gt_iff_gt.mpr greater, greater, greater.le,
            greater.not_ge, greater.not_gt]

namespace Expr

variable {left right : Expr} {first second : Int}

theorem evaluate_compare_ints (evaluates : left.evaluate = .ok (.number (.int first)))
    (evaluatesToo : right.evaluate = .ok (.number (.int second))) (op : Comparison) :
    (Expr.compare op left right).evaluate = .ok (.bool (op.folded first second)) :=
  evaluate_compare_eq_ok.mpr
    ⟨_, _, _, evaluates, evaluatesToo, applyComparison_ints op first second, rfl⟩

/-- Comparisons of whole numbers are exact, and exactly one of less, equal and greater holds, where
the doubles tell the numbers apart: up to `2 ^ 53`, and everywhere in the range of words where the
numbers are more than `2 ^ 11` apart. -/
theorem compare_exact_iff (evaluates : left.evaluate = .ok (.number (.int first)))
    (evaluatesToo : right.evaluate = .ok (.number (.int second))) :
    (∀ op, (Expr.compare op left right).evaluate = .ok (.bool (op.folded first second))) ∧
    ((∀ op, (Expr.compare op left right).evaluate = .ok (.bool (op.holds first second))) ↔
      Binary64.TellsApart first second) ∧
    (([.lt, .eq, .gt].countP fun op => (Expr.compare op left right).holds) = 1 ↔
      Binary64.TellsApart first second) ∧
    ((Expr.compare .le left right).holds =
        ((Expr.compare .lt left right).holds || (Expr.compare .eq left right).holds) ↔
      Binary64.TellsApart first second) ∧
    (first.natAbs ≤ pow2 53 → second.natAbs ≤ pow2 53 →
      Binary64.TellsApart first second) ∧
    (first.natAbs < pow2 64 → second.natAbs < pow2 64 → pow2 11 < (first - second).natAbs →
      Binary64.TellsApart first second) := by
  have folds := evaluate_compare_ints evaluates evaluatesToo
  have holds (op : Comparison) : (Expr.compare op left right).holds = op.folded first second :=
    holds_of_evaluate (folds op)
  refine ⟨folds, ?_, ?_, ?_, Binary64.tellsApart_of_small, Binary64.tellsApart_of_far⟩
  · simp only [folds, Except.ok.injEq, Value.bool.injEq]
    exact Comparison.folded_eq_holds_iff
  · simp only [holds]
    exact Comparison.trichotomy_iff
  · simp only [holds]
    exact Comparison.le_eq_lt_or_eq_iff

end Expr

namespace Sample

def number (value : Int) : Expr := .constant (.number (.int value))

/-- Timestamps in nanoseconds that are three microseconds apart. -/
theorem timestamps_compared :
    (Expr.compare .lt (number 1700000000000000000) (number 1700000000000003000)).evaluate =
      .ok (.bool true) ∧
    (Expr.compare .eq (number 1700000000000000000) (number 1700000000000003000)).evaluate =
      .ok (.bool false) ∧
    (Expr.compare .gt (number 1700000000000000000) (number 1700000000000003000)).evaluate =
      .ok (.bool false) := by
  have compared := @Expr.compare_exact_iff (number 1700000000000000000) (number 1700000000000003000)
    1700000000000000000 1700000000000003000 rfl rfl
  obtain ⟨_, exact, _, _, _, far⟩ := compared
  have evaluates := exact.mpr (far (by decide) (by decide) (by decide))
  exact ⟨evaluates .lt, evaluates .eq, evaluates .gt⟩

/-- `2 ^ 53` and the number after it become one double: neither is the lesser, they are not equal,
and yet the first is at most as great as the second. -/
theorem neighbours_blurred :
    Comparison.lt.holds 9007199254740992 9007199254740993 = true ∧
    (Expr.compare .lt (number 9007199254740992) (number 9007199254740993)).evaluate =
      .ok (.bool false) ∧
    (Expr.compare .eq (number 9007199254740992) (number 9007199254740993)).evaluate =
      .ok (.bool false) ∧
    (Expr.compare .gt (number 9007199254740992) (number 9007199254740993)).evaluate =
      .ok (.bool false) ∧
    (Expr.compare .le (number 9007199254740992) (number 9007199254740993)).evaluate =
      .ok (.bool true) := by
  have folds := @Expr.evaluate_compare_ints (number 9007199254740992) (number 9007199254740993)
    9007199254740992 9007199254740993 rfl rfl
  have blurred : ¬Binary64.TellsApart 9007199254740992 9007199254740993 := by decide +kernel
  obtain ⟨equal, less, greater, atMost, _⟩ := Comparison.folded_of_not_tellsApart blurred
  refine ⟨by decide, ?_, ?_, ?_, ?_⟩
  · rw [folds, less]
  · rw [folds, equal]
  · rw [folds, greater]
  · rw [folds, atMost]

end Sample

end QueryChain
