import Mathlib.Algebra.Order.BigOperators.Group.List
import Mathlib.Algebra.Order.Ring.Nat
import Mathlib.Data.List.Induction
import QueryChain.Proofs.Query.Acceptance

namespace QueryChain

open Json Schema

/-! The rows that a window keeps, against those that a chain asks for.

An outline records one offset, so that a chain which skips rows twice keeps the count
written last and loses the others.
-/

section Rows

variable {α : Type}

/-- The first rows up to a limit. -/
def limited : Option Nat → List α → List α
  | none, rows => rows
  | some count, rows => rows.take count

def Window.rows : Window → List α → List α
  | .all, rows => rows
  | .top count, rows => rows.take count
  | .page offset fetch, rows => limited fetch (rows.drop offset)

/-- The counts that a chain skips, in the order of writing. -/
def Query.skips (query : Query) : List Nat := query.operators.filterMap Operator.skipped?

/-- The rows that a chain asks for.  Each operator that skips rows drops a count of its
own; of those that take rows the last one counts. -/
def Query.rows (query : Query) (rows : List α) : List α :=
  limited query.limit? (query.skips.foldl (fun rows count => rows.drop count) rows)

theorem foldl_drop (counts : List Nat) (rows : List α) :
    counts.foldl (fun rows count => rows.drop count) rows = rows.drop counts.sum := by
  induction counts generalizing rows with
  | nil => rfl
  | cons count rest ih => rw [List.foldl_cons, ih, List.drop_drop, List.sum_cons]

theorem limited_length (limit : Option Nat) (rows : List α) :
    (limited limit rows).length = limit.elim rows.length (min · rows.length) := by
  cases limit <;> simp [limited]

/-- A window drops the rows before its offset and keeps the first ones of the others. -/
theorem Outline.window_rows_eq (outline : Outline) (rows : List α) :
    outline.window.rows rows = limited outline.taken (rows.drop (outline.skipped.getD 0)) := by
  unfold Outline.window
  cases outline.skipped <;> cases outline.taken <;> rfl

/-- Under a positive limit, an offset that drops fewer rows than there are leaves one to be seen. -/
theorem le_of_limited_drop {limit : Option Nat} {offset total : Nat} (positive : limit ≠ some 0)
    (same : limited limit ((List.replicate total ()).drop offset) =
      limited limit ((List.replicate total ()).drop total)) : total ≤ offset := by
  have lengths := congrArg List.length same
  rw [limited_length, limited_length, List.length_drop, List.length_drop, List.length_replicate,
    Nat.sub_self] at lengths
  cases limit with
  | none => exact Nat.le_of_sub_eq_zero lengths
  | some count =>
      have nonzero : count ≠ 0 := fun zero => positive (congrArg some zero)
      have left : min count (total - offset) = 0 := by simpa using lengths
      omega

end Rows

/-- The last count is the sum of all when those before it are zero. -/
theorem sum_eq_getLast?_iff (counts : List Nat) :
    counts.sum = counts.getLast?.getD 0 ↔ ∀ count ∈ counts.dropLast, count = 0 := by
  induction counts using List.reverseRecOn with
  | nil => simp
  | append_singleton counts last _ =>
      rw [List.sum_append, List.sum_singleton, List.getLast?_concat, Option.getD_some,
        List.dropLast_concat, Nat.add_eq_right, List.sum_eq_zero_iff_forall_eq_nat]

namespace Operator

variable {operator : Operator} {count : Nat}

theorem takes_of_taken? (taken : operator.taken? = some count) : operator.takes := by
  cases operator with
  | take _ | first _ _ => rfl
  | filter _ | select _ | join _ _ _ | orderBy _ _ | skip _ | distinct => cases taken

theorem skips_of_skipped? (skipped : operator.skipped? = some count) : operator.skips := by
  cases operator with
  | skip _ => rfl
  | filter _ | select _ | join _ _ _ | orderBy _ _ | take _ | distinct | first _ _ => cases skipped

theorem not_takes_of_skips (skips : operator.skips) : ¬ operator.takes := by
  cases operator with
  | skip _ => exact Bool.false_ne_true
  | filter _ | select _ | join _ _ _ | orderBy _ _ | take _ | distinct | first _ _ => cases skips

end Operator

section Compiled

variable {catalog : Catalog} {registry after : Registry} {settings : Settings} {query : Query}
  {compiled : Compiled}

/-- A query that skips rows keeps some of the others, wherever it takes them. -/
theorem Query.Acceptable.limit_ne_zero (acceptable : query.Acceptable catalog settings)
    (skips : query.skips ≠ []) : query.limit? ≠ some 0 := by
  intro none
  obtain ⟨taking, takes, empty⟩ := List.mem_filterMap.mp (List.mem_of_getLast? none)
  obtain ⟨count, listed⟩ := List.exists_mem_of_ne_nil _ skips
  obtain ⟨skipping, skipped, counted⟩ := List.mem_filterMap.mp listed
  have takesRows := Operator.takes_of_taken? empty
  have skipsRows := Operator.skips_of_skipped? counted
  obtain ⟨position, bounded, rfl⟩ := List.mem_iff_getElem.mp takes
  obtain ⟨earlier, boundedToo, rfl⟩ := List.mem_iff_getElem.mp skipped
  rcases Nat.lt_trichotomy earlier position with before | same | behind
  · exact List.pairwise_iff_getElem.mp acceptable.pages _ _ boundedToo
      bounded before skipsRows empty
  · subst same
    exact Operator.not_takes_of_skips skipsRows takesRows
  · exact List.pairwise_iff_getElem.mp acceptable.offsets _ _ bounded boundedToo behind takesRows
      skipsRows

/-- What a compiled query keeps is what its chain asks for if and only if the counts that are
overwritten are zero. -/
theorem Schema.Registry.Reachable.window_rows (reachable : Registry.Reachable catalog registry)
    (compiles : registry.compile settings query = (.ok compiled, after)) :
    (∀ {α : Type} (rows : List α), compiled.statement.window.rows rows =
      limited query.limit? (rows.drop (query.offset?.getD 0))) ∧
    ((∀ {α : Type} (rows : List α), compiled.statement.window.rows rows = query.rows rows) ↔
      ∀ count ∈ query.skips.dropLast, count = 0) := by
  obtain ⟨plan, walkable, planned, rfl, _⟩ := reachable.compiled_planned compiles
  have window : (plan.compiled after.aliasOf).statement.window = plan.outline.window :=
    congrArg Sql.Statement.window (plan.statement_eq after.aliasOf)
  have kept : ∀ {α : Type} (rows : List α),
      (plan.compiled after.aliasOf).statement.window.rows rows =
        limited query.limit? (rows.drop (query.offset?.getD 0)) := by
    intro α rows
    rw [window, Outline.window_rows_eq, planned.taken, planned.skipped]
  have asked : ∀ {α : Type} (rows : List α),
      query.rows rows = limited query.limit? (rows.drop query.skips.sum) := by
    intro α rows
    rw [Query.rows, foldl_drop]
  refine ⟨kept, ?_⟩
  rw [← sum_eq_getLast?_iff]
  refine ⟨?_, ?_⟩
  · intro same
    by_cases none : query.skips = []
    · rw [none]
      rfl
    -- Of as many rows as are skipped in all, the chain asks for none.
    have emptied := same (List.replicate query.skips.sum ())
    rw [kept, asked] at emptied
    have covered : query.skips.sum ≤ query.offset?.getD 0 :=
      le_of_limited_drop (walkable.acceptable.limit_ne_zero none) emptied
    have part : query.skips.getLast?.getD 0 ≤ query.skips.sum := by
      rw [List.getLast?_eq_some_getLast none]
      exact List.le_sum_of_mem (List.getLast_mem none)
    exact Nat.le_antisymm covered part
  · intro total α rows
    rw [kept, asked, total]
    rfl

end Compiled

namespace Sample

def skip (count : Nat) : Operator := .skip (.constant (.number (.int count)))

/-- The second page of four players. -/
def page : Query := ⟨players, [skip 0, skip 4, .take (.constant (.number (.int 4)))]⟩

theorem page_rows : ∃ compiled after,
    (Registry.ofCatalog catalog).compile {} page = (.ok compiled, after) ∧
      ∀ {α : Type} (rows : List α), compiled.statement.window.rows rows = page.rows rows := by
  obtain ⟨compiled, succeeds⟩ : ∃ compiled,
      ((Registry.ofCatalog catalog).compile {} page).1 = .ok compiled := ⟨_, rfl⟩
  have zero : ∀ count ∈ page.skips.dropLast, count = 0 := by decide
  exact ⟨compiled, _, Prod.ext succeeds rfl,
    (Registry.Reachable.window_rows .ofCatalog (Prod.ext succeeds rfl)).2.mpr zero⟩

def skips : Query := ⟨players, [skip 5, skip 3]⟩

/-- Of ten players all but three are kept, where all but eight are asked for. -/
theorem skips_rows : ∃ compiled after,
    (Registry.ofCatalog catalog).compile {} skips = (.ok compiled, after) ∧
      compiled.statement.window.rows (List.range 10) = [3, 4, 5, 6, 7, 8, 9] ∧
      skips.rows (List.range 10) = [8, 9] := by
  obtain ⟨compiled, succeeds, window⟩ : ∃ compiled,
      ((Registry.ofCatalog catalog).compile {} skips).1 = .ok compiled ∧
        compiled.statement.window = .page 3 none := ⟨_, rfl, rfl⟩
  refine ⟨compiled, _, Prod.ext succeeds rfl, ?_, by decide⟩
  rw [window]
  rfl

end Sample

end QueryChain
