import QueryChain.Plan.Draft

namespace QueryChain.Planning

/-! Outcomes of planning.

`Yields` says that a computation succeeds, with which value, and what draft it
leaves.  Each lemma reads a step backwards as well as forwards, so a chain of
steps unfolds into the conditions under which all of it succeeds.
-/

variable {α β : Type} {before after : Draft}

def Yields (computation : Planning α) (before : Draft) (value : α) (after : Draft) : Prop :=
  computation.run.run before = (.ok value, after)

@[simp] theorem yields_pure {value result : α} :
    Yields (pure value) before result after ↔ result = value ∧ after = before := by
  constructor
  · intro run
    cases run
    exact ⟨rfl, rfl⟩
  · intro same
    obtain ⟨rfl, rfl⟩ := same
    rfl

theorem run_get : (get : Planning Draft).run.run before = (.ok before, before) := rfl

section Runs

variable {σ : Type} {before middle : σ} {first : ExceptT QueryError (StateM σ) α}
  {next : α → ExceptT QueryError (StateM σ) β}

theorem run_bind_ok {value : α} (run : first.run.run before = (.ok value, middle)) :
    (first >>= next).run.run before = (next value).run.run middle := by
  change (ExceptT.bindCont next (first.run.run before).1).run (first.run.run before).2 = _
  rw [run]
  rfl

theorem run_bind_error {cause : QueryError} (run : first.run.run before = (.error cause, middle)) :
    (first >>= next).run.run before = (.error cause, middle) := by
  change (ExceptT.bindCont next (first.run.run before).1).run (first.run.run before).2 = _
  rw [run]
  rfl

end Runs

@[simp] theorem yields_bind {first : Planning α} {next : α → Planning β} {result : β} :
    Yields (first >>= next) before result after ↔
      ∃ value middle, Yields first before value middle ∧
        Yields (next value) middle result after := by
  unfold Yields
  rcases reached : first.run.run before with ⟨outcome, middle⟩
  cases outcome with
  | error cause =>
      rw [run_bind_error reached]
      constructor
      · intro run
        cases run
      · intro steps
        obtain ⟨_, _, run, _⟩ := steps
        cases run
  | ok value =>
      rw [run_bind_ok reached]
      constructor
      · intro run
        exact ⟨value, middle, rfl, run⟩
      · intro steps
        obtain ⟨_, _, same, run⟩ := steps
        cases same
        exact run

@[simp] theorem yields_throw {error : QueryError} {result : α} :
    ¬ Yields (throw error) before result after := by
  intro run
  cases run

/-- A check that a step starts with. -/
theorem yields_unless {failed : Prop} [Decidable failed] {error : QueryError}
    {next : PUnit → Planning α} {rest : Planning α} {result : α} :
    Yields (if failed then throw error >>= next else rest) before result after ↔
      ¬ failed ∧ Yields rest before result after := by
  by_cases failing : failed
  · simp [failing]
  · simp [failing]

@[simp] theorem yields_settle {outcome : Except QueryError α} {result : α} :
    Yields (settle outcome) before result after ↔ outcome = .ok result ∧ after = before := by
  constructor
  · intro run
    cases run
    exact ⟨rfl, rfl⟩
  · intro same
    obtain ⟨rfl, rfl⟩ := same
    rfl

@[simp] theorem settle_ok_bind (value : α) (next : α → Planning β) :
    settle (.ok value) >>= next = next value := rfl

@[simp] theorem yields_get {result : Draft} :
    Yields get before result after ↔ result = before ∧ after = before := by
  constructor
  · intro run
    cases run
    exact ⟨rfl, rfl⟩
  · intro same
    obtain ⟨rfl, rfl⟩ := same
    rfl

@[simp] theorem yields_modify {change : Draft → Draft} {result : PUnit} :
    Yields (modify change) before result after ↔ after = change before := by
  constructor
  · intro run
    cases run
    rfl
  · intro same
    subst same
    rfl

/-- What a computation yields, it yields in one way. -/
theorem Yields.unique {computation : Planning α} {value other : α} {afterwards : Draft}
    (yields : Yields computation before value after)
    (yieldsToo : Yields computation before other afterwards) :
    other = value ∧ afterwards = after := by
  have same := yields.symm.trans yieldsToo
  cases same
  exact ⟨rfl, rfl⟩

theorem mapError_eq_ok {ε ε' : Type} {wrap : ε → ε'} {outcome : Except ε α} {value : α} :
    outcome.mapError wrap = .ok value ↔ outcome = .ok value := by
  cases outcome with
  | error cause =>
      refine ⟨?_, ?_⟩
      · intro failed
        cases failed
      · intro failed
        cases failed
  | ok found =>
      refine ⟨?_, ?_⟩
      · intro same
        cases same
        rfl
      · intro same
        cases same
        rfl

end QueryChain.Planning
