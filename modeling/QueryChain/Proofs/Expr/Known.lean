import QueryChain.Proofs.Predicate
import QueryChain.Proofs.Sql.Truth

namespace QueryChain

open Json Schema Sql

/-! Expressions that are known before the query runs.

An expression without parameters can be evaluated, or written into a statement.  Evaluation
knows two truth values and lets null equal null.  A statement knows three, and its comparisons
with null are neither true nor false.  `Expr.verdict` is the value that a statement arrives at.
-/

theorem except_bind_eq_ok {ε α β : Type} {outcome : Except ε α}
    {next : α → Except ε β} {result : β} :
    outcome >>= next = .ok result ↔
      ∃ value, outcome = .ok value ∧ next value = .ok result := by
  cases outcome with
  | error cause =>
      refine ⟨?_, ?_⟩
      · intro fails
        cases fails
      · intro steps
        obtain ⟨_, fails, _⟩ := steps
        cases fails
  | ok value =>
      refine ⟨fun run => ⟨value, rfl, run⟩, ?_⟩
      intro steps
      obtain ⟨_, same, run⟩ := steps
      cases same
      exact run

namespace Expr

mutual

/-- Whether a parameter occurs in an expression. -/
def mentionsRow : Expr → Bool
  | .parameter _ => true
  | .member target _ => target.mentionsRow
  | .hasValue operand => operand.mentionsRow
  | .constant _ => false
  | .captured _ _ => false
  | .array items => anyMentionsRow items
  | .compare _ left right => left.mentionsRow || right.mentionsRow
  | .connect _ left right => left.mentionsRow || right.mentionsRow
  | .not operand => operand.mentionsRow
  | .stringMatch _ target value => target.mentionsRow || value.mentionsRow
  | .collectionContains collection item => collection.mentionsRow || item.mentionsRow
  | .isNullOrEmpty operand => operand.mentionsRow

def anyMentionsRow : List Expr → Bool
  | [] => false
  | item :: rest => item.mentionsRow || anyMentionsRow rest

end

/-- The value as which an operand is written, unless it is a column. -/
def written? : Expr → Option Value
  | .array _ => none
  | expr => if expr.column?.isSome then none else expr.evaluate.toOption

/-- Whether an expression evaluates to true. -/
def holds (expr : Expr) : Bool := (expr.evaluate.toOption.bind Value.asBool?) == some true

def evaluatesToNull (expr : Expr) : Bool := expr.evaluate.toOption.any Value.isNull

/-- The truth of a condition where comparisons with null are unknown. -/
def verdict : Expr → Truth
  | .not operand => operand.verdict.not
  | .connect .and left right => left.verdict.and right.verdict
  | .connect .or left right => left.verdict.or right.verdict
  | .compare op left right =>
    if left.evaluatesToNull || right.evaluatesToNull then .unknown
      else .ofBool (Expr.compare op left right).holds
  | expr => .ofBool expr.holds

/-- No comparison under negations and connectives has an operand that is null. -/
def NullFree : Expr → Prop
  | .not operand => operand.NullFree
  | .connect _ left right => left.NullFree ∧ right.NullFree
  | .compare _ left right => left.evaluatesToNull = false ∧ right.evaluatesToNull = false
  | _ => True

variable {expr : Expr} {lookup : Lookup}

theorem column?_of_known (known : expr.mentionsRow = false) : expr.column? = none := by
  cases expr with
  | member target name =>
      cases target with
      | parameter param => cases known
      | member _ _ | hasValue _ | constant _ | captured _ _ | array _ | compare _ _ _
      | connect _ _ _ | not _ | stringMatch _ _ _ | collectionContains _ _ | isNullOrEmpty _ => rfl
  | parameter _ | hasValue _ | constant _ | captured _ _ | array _ | compare _ _ _
  | connect _ _ _ | not _ | stringMatch _ _ _ | collectionContains _ _ | isNullOrEmpty _ => rfl

theorem eq_member_of_column? {member : Entity × String} (named : expr.column? = some member) :
    ∃ param property, expr = .member (.parameter param) property := by
  unfold column? at named
  split at named
  · exact ⟨_, _, rfl⟩
  · cases named

theorem columnIn?_of_known (known : expr.mentionsRow = false) : expr.columnIn? lookup = none := by
  rw [columnIn?, column?_of_known known]
  rfl

theorem holds_of_evaluate {flag : Bool} (evaluates : expr.evaluate = .ok (.bool flag)) :
    expr.holds = flag := by
  cases flag <;> simp [holds, evaluates, Except.toOption, Value.asBool?]

theorem expectBool_eq_ok {value : Value} {flag : Bool} :
    expectBool value = .ok flag ↔ value = .bool flag := by
  cases value <;> simp [expectBool, Value.asBool?, reject]

theorem evaluate_not_eq_ok {operand : Expr} {value : Value} :
    (Expr.not operand).evaluate = .ok value ↔
      ∃ flag, operand.evaluate = .ok (.bool flag) ∧ value = .bool !flag := by
  simp only [evaluate, except_bind_eq_ok, expectBool_eq_ok]
  refine ⟨?_, ?_⟩
  · intro run
    obtain ⟨_, evaluates, flag, rfl, same⟩ := run
    cases same
    exact ⟨flag, evaluates, rfl⟩
  · intro run
    obtain ⟨flag, evaluates, rfl⟩ := run
    exact ⟨_, evaluates, flag, rfl, rfl⟩

/-- Operators that evaluate both operands and then decide. -/
theorem evaluate_both_eq_ok {left right : Except QueryError Value}
    {apply : Value → Value → Except QueryError Bool} {value : Value} :
    (do return Value.bool (← apply (← left) (← right))) = Except.ok value ↔
      ∃ first second flag, left = .ok first ∧ right = .ok second ∧
        apply first second = .ok flag ∧
        value = .bool flag := by
  simp only [except_bind_eq_ok]
  refine ⟨?_, ?_⟩
  · intro run
    obtain ⟨first, evaluates, second, evaluatesToo, flag, applied, same⟩ := run
    cases same
    exact ⟨first, second, flag, evaluates, evaluatesToo, applied, rfl⟩
  · intro run
    obtain ⟨first, second, flag, evaluates, evaluatesToo, applied, rfl⟩ := run
    exact ⟨first, evaluates, second, evaluatesToo, flag, applied, rfl⟩

theorem evaluate_compare_eq_ok {op : Comparison} {left right : Expr} {value : Value} :
    (Expr.compare op left right).evaluate = .ok value ↔
      ∃ first second flag, left.evaluate = .ok first ∧ right.evaluate = .ok second ∧
        applyComparison op first second = .ok flag ∧ value = .bool flag :=
  evaluate_both_eq_ok

theorem evaluate_connect_eq_ok {op : Connective} {left right : Expr} {value : Value} :
    (Expr.connect op left right).evaluate = .ok value ↔
      ∃ first second flag, left.evaluate = .ok first ∧ right.evaluate = .ok second ∧
        applyConnective op first second = .ok flag ∧ value = .bool flag :=
  evaluate_both_eq_ok

/-- An expression that reads as a term is a member of a parameter, or else it evaluates. -/
theorem term?_cases {term : Term} (read : expr.term? lookup = some term) :
    (∃ param property found, expr = .member (.parameter param) property ∧
      expr.columnIn? lookup = some found ∧ term = .column found) ∨
    ∃ value, expr.evaluate = .ok value ∧ term = .value value := by
  have evaluated : expr.evaluate.toOption.map Term.value = some term →
      ∃ value, expr.evaluate = .ok value ∧ term = .value value := by
    intro mapped
    cases outcome : expr.evaluate with
    | error cause => simp [outcome, Except.toOption] at mapped
    | ok value => exact ⟨value, rfl, by simpa [outcome, Except.toOption, eq_comm] using mapped⟩
  cases expr with
  | parameter _ | array _ => cases read
  | member target name =>
      cases named : (Expr.member target name).column? with
      | none =>
          simp only [term?, named] at read
          exact .inr (evaluated read)
      | some member =>
          simp only [term?, named] at read
          obtain ⟨found, resolved, same⟩ := Option.map_eq_some_iff.mp read
          obtain ⟨param, property, shape⟩ := eq_member_of_column? named
          exact .inl ⟨param, property, found, shape, resolved, same.symm⟩
  | constant _ | captured _ _ | hasValue _ | compare _ _ _ | connect _ _ _ | not _
  | stringMatch _ _ _ | collectionContains _ _ | isNullOrEmpty _ => exact .inr (evaluated read)

theorem term?_of_known {term : Term} (known : expr.mentionsRow = false)
    (read : expr.term? lookup = some term) :
    ∃ value, expr.evaluate = .ok value ∧ term = .value value := by
  obtain ⟨_, _, _, rfl, _, _⟩ | evaluated := term?_cases read
  · cases known
  · exact evaluated

theorem known?_eq_some {predicate : Predicate} :
    expr.known? = some predicate ↔
      ∃ flag, expr.evaluate = .ok (.bool flag) ∧ predicate = .truth flag := by
  unfold known?
  cases outcome : expr.evaluate with
  | error cause => simp [Except.toOption]
  | ok value => cases value <;> simp [Except.toOption, Value.asBool?, eq_comm]

theorem evaluate_of_written? {value : Value} (written : expr.written? = some value) :
    expr.column? = none ∧ expr.evaluate = .ok value := by
  have plain : (if expr.column?.isSome then none else expr.evaluate.toOption) = some value := by
    cases expr with
    | array _ => cases written
    | parameter _ | member _ _ | hasValue _ | constant _ | captured _ _ | compare _ _ _
    | connect _ _ _ | not _ | stringMatch _ _ _ | collectionContains _ _ | isNullOrEmpty _ =>
        exact written
  cases named : expr.column? with
  | some member => simp [named] at plain
  | none =>
      cases evaluated : expr.evaluate with
      | error cause => simp [named, evaluated, Except.toOption] at plain
      | ok known => simpa [named, evaluated, Except.toOption] using plain

theorem written?_of_bool {flag : Bool} (unnamed : expr.column? = none)
    (evaluates : expr.evaluate = .ok (.bool flag)) : expr.written? = some (.bool flag) := by
  have plain : (if expr.column?.isSome then none else expr.evaluate.toOption) =
      some (.bool flag) := by
    rw [unnamed, evaluates]
    rfl
  cases expr with
  | array items =>
      obtain ⟨values, _, same⟩ := except_bind_eq_ok.mp evaluates
      cases same
  | parameter _ | member _ _ | hasValue _ | constant _ | captured _ _ | compare _ _ _
  | connect _ _ _ | not _ | stringMatch _ _ _ | collectionContains _ _
  | isNullOrEmpty _ => exact plain

/-- Conditions without parameters that evaluate, with the predicates as which they read. -/
inductive Decided : Expr → Predicate → Prop where
  | flag {expr : Expr} {value : Bool} (evaluates : expr.evaluate = .ok (.bool value))
      (alone : expr.verdict = .ofBool expr.holds) : Decided expr (.truth value)
  | not {operand : Expr} {predicate : Predicate} (decided : Decided operand predicate) :
      Decided (.not operand) (.not predicate)
  | compare {op : Comparison} {left right : Expr} {first second : Value} {value : Bool}
      (evaluates : left.evaluate = .ok first) (evaluatesToo : right.evaluate = .ok second)
      (applied : applyComparison op first second = .ok value) :
      Decided (.compare op left right) (.compare op (.value first) (.value second))
  | connect {left right : Expr} {predicate next : Predicate} (op : Connective)
      (decided : Decided left predicate) (decidedToo : Decided right next) :
      Decided (.connect op left right) (.connect op predicate next)

theorem Decided.of_known : (expr : Expr) → {predicate : Predicate} → {value : Value} →
    (known : expr.mentionsRow = false) → (read : expr.predicate? lookup = some predicate) →
      (evaluates : expr.evaluate = .ok value) → Decided expr predicate
  | .not operand, _, _, known, read, evaluates => by
      obtain ⟨inner, readInner, same⟩ := Option.bind_eq_some_iff.mp read
      cases same
      obtain ⟨flag, evaluatesInner, _⟩ := evaluate_not_eq_ok.mp evaluates
      exact .not (of_known operand known readInner evaluatesInner)
  | .compare op left right, _, _, known, read, evaluates => by
      obtain ⟨knownLeft, knownRight⟩ := Bool.or_eq_false_iff.mp known
      obtain ⟨leftTerm, readLeft, read⟩ := Option.bind_eq_some_iff.mp read
      obtain ⟨rightTerm, readRight, same⟩ := Option.bind_eq_some_iff.mp read
      cases same
      obtain ⟨first, evaluatesLeft, rfl⟩ := term?_of_known knownLeft readLeft
      obtain ⟨second, evaluatesRight, rfl⟩ := term?_of_known knownRight readRight
      obtain ⟨_, _, flag, evaluatesFirst, evaluatesSecond, applied, _⟩ :=
        evaluate_compare_eq_ok.mp evaluates
      cases evaluatesLeft.symm.trans evaluatesFirst
      cases evaluatesRight.symm.trans evaluatesSecond
      exact .compare evaluatesLeft evaluatesRight applied
  | .connect op left right, _, _, known, read, evaluates => by
      obtain ⟨knownLeft, knownRight⟩ := Bool.or_eq_false_iff.mp known
      obtain ⟨first, readLeft, read⟩ := Option.bind_eq_some_iff.mp read
      obtain ⟨second, readRight, same⟩ := Option.bind_eq_some_iff.mp read
      cases same
      obtain ⟨_, _, _, evaluatesLeft, evaluatesRight, _⟩ := evaluate_connect_eq_ok.mp evaluates
      exact .connect op (of_known left knownLeft readLeft evaluatesLeft)
        (of_known right knownRight readRight evaluatesRight)
  | .member target name, _, _, known, read, _ => by
      simp only [predicate?, column?_of_known known] at read
      obtain ⟨flag, evaluates, rfl⟩ := known?_eq_some.mp read
      exact .flag evaluates rfl
  | .constant _, _, _, _, read, _ => by
      obtain ⟨flag, evaluates, rfl⟩ := known?_eq_some.mp read
      exact .flag evaluates rfl
  | .captured _ _, _, _, _, read, _ => by
      obtain ⟨flag, evaluates, rfl⟩ := known?_eq_some.mp read
      exact .flag evaluates rfl
  | .hasValue operand, _, _, known, read, _ => by
      have absent : operand.columnIn? lookup = none := columnIn?_of_known known
      simp [predicate?, absent] at read
  | .isNullOrEmpty operand, _, _, known, read, _ => by
      have absent : operand.columnIn? lookup = none := columnIn?_of_known known
      simp [predicate?, absent] at read
  | .stringMatch op target value, _, _, known, read, _ => by
      have absent : target.columnIn? lookup = none := columnIn?_of_known (by simp_all [mentionsRow])
      simp [predicate?, absent] at read
  | .collectionContains collection item, _, _, known, read, _ => by
      have absent : item.columnIn? lookup = none := columnIn?_of_known (by simp_all [mentionsRow])
      simp [predicate?, absent] at read

namespace Decided

variable {predicate : Predicate}

theorem evaluate (decided : expr.Decided predicate) : expr.evaluate = .ok (.bool expr.holds) := by
  suffices truth : ∃ flag, expr.evaluate = .ok (.bool flag) by
    obtain ⟨flag, evaluates⟩ := truth
    rw [holds_of_evaluate evaluates, evaluates]
  induction decided with
  | flag evaluates _ => exact ⟨_, evaluates⟩
  | not _ ih =>
      obtain ⟨flag, evaluates⟩ := ih
      exact ⟨!flag, evaluate_not_eq_ok.mpr ⟨flag, evaluates, rfl⟩⟩
  | compare evaluates evaluatesToo applied =>
      exact ⟨_, evaluate_compare_eq_ok.mpr ⟨_, _, _, evaluates, evaluatesToo, applied, rfl⟩⟩
  | connect op _ _ ihFirst ihSecond =>
      obtain ⟨first, evaluates⟩ := ihFirst
      obtain ⟨second, evaluatesToo⟩ := ihSecond
      have applied : ∃ flag, applyConnective op (.bool first) (.bool second) = .ok flag := by
        cases op <;> cases first <;> exact ⟨_, rfl⟩
      obtain ⟨flag, applied⟩ := applied
      exact ⟨flag, evaluate_connect_eq_ok.mpr
        ⟨_, _, _, evaluates, evaluatesToo, applied, rfl⟩⟩

theorem holds_not {operand : Expr} (decided : operand.Decided predicate) :
    (Expr.not operand).holds = !operand.holds :=
  holds_of_evaluate (evaluate_not_eq_ok.mpr ⟨_, decided.evaluate, rfl⟩)

theorem holds_connect {left right : Expr} {next : Predicate} (op : Connective)
    (decided : left.Decided predicate) (decidedToo : right.Decided next) :
    (Expr.connect op left right).holds =
      match op with
      | .and => left.holds && right.holds
      | .or => left.holds || right.holds := by
  refine holds_of_evaluate (evaluate_connect_eq_ok.mpr
    ⟨_, _, _, decided.evaluate, decidedToo.evaluate, ?_, rfl⟩)
  cases op <;> cases left.holds <;> rfl

theorem holds_compare {op : Comparison} {left right : Expr} {first second : Value} {value : Bool}
    (evaluates : left.evaluate = .ok first) (evaluatesToo : right.evaluate = .ok second)
    (applied : applyComparison op first second = .ok value) :
    (Expr.compare op left right).holds = value :=
  holds_of_evaluate
    (evaluate_compare_eq_ok.mpr ⟨_, _, _, evaluates, evaluatesToo, applied, rfl⟩)

/-- What a statement finds out, evaluation finds too. -/
theorem verdict_sound (decided : expr.Decided predicate) :
    expr.verdict = .unknown ∨ expr.verdict = .ofBool expr.holds := by
  induction decided with
  | flag _ alone => exact .inr alone
  | not decided ih =>
      rw [verdict, decided.holds_not]
      rcases ih with unknown | same
      · exact .inl (by rw [unknown]; rfl)
      · exact .inr (by rw [same, Truth.not_ofBool])
  | compare _ _ _ =>
      rw [verdict]
      split
      · exact .inl rfl
      · exact .inr rfl
  | connect op decided decidedToo ihFirst ihSecond =>
      rename_i left right _ _
      rw [holds_connect op decided decidedToo]
      cases op <;> rcases ihFirst with first | first <;> rcases ihSecond with second | second <;>
        rw [verdict, first, second] <;> cases left.holds <;> cases right.holds <;> decide

/-- Where nothing is compared with null, a statement finds out all that evaluation does. -/
theorem verdict_of_nullFree (decided : expr.Decided predicate) (nullFree : expr.NullFree) :
    expr.verdict = .ofBool expr.holds := by
  induction decided with
  | flag _ alone => exact alone
  | not decided ih => rw [verdict, decided.holds_not, ih nullFree, Truth.not_ofBool]
  | compare _ _ _ =>
      obtain ⟨left, right⟩ := nullFree
      rw [verdict, left, right]
      rfl
  | connect op decided decidedToo ihFirst ihSecond =>
      rename_i left right _ _
      rw [holds_connect op decided decidedToo]
      cases op <;> rw [verdict, ihFirst nullFree.1, ihSecond nullFree.2] <;>
        cases left.holds <;> cases right.holds <;> rfl

end Decided

end Expr

namespace Planning

variable {catalog : Catalog} {expr : Expr}

theorem operand_of_column {entity : Entity} {property : String}
    (named : expr.column? = some (entity, property)) :
    operand catalog expr = do return .column (← column catalog entity property) := by
  cases expr with
  | member target name =>
    unfold operand
    simp only [named]
  | _ => cases named

theorem operand_of_written {value : Value} (written : expr.written? = some value) :
    operand catalog expr = bindValue value := by
  obtain ⟨unnamed, evaluated⟩ := Expr.evaluate_of_written? written
  cases expr with
  | array _ | parameter _ => cases written
  | constant known | captured _ known => cases evaluated; rfl
  | member target name =>
      unfold operand
      simp only [unnamed, evaluated]
      rfl
  | hasValue _ | compare _ _ _ | connect _ _ _ | not _ | stringMatch _ _ _ | collectionContains _ _
  | isNullOrEmpty _ =>
      simp only [operand, foldedCondition, evaluated]

theorem operand_of_neither (catalog : Catalog) (unnamed : expr.column? = none)
    (unwritten : expr.written? = none) :
    ∃ cause, operand catalog expr = throw cause := by
  cases expr with
  | array _ | parameter _ => exact ⟨_, rfl⟩
  | constant known | captured _ known => cases unwritten
  | member target name =>
      cases evaluated : (Expr.member target name).evaluate with
      | ok value => simp [Expr.written?, unnamed, evaluated, Except.toOption] at unwritten
      | error cause =>
          refine ⟨cause, ?_⟩
          unfold operand
          simp only [unnamed, evaluated]
          rfl
  | hasValue _ | compare _ _ _ | connect _ _ _ | not _ | stringMatch _ _ _ | collectionContains _ _
  | isNullOrEmpty _ =>
      simp only [operand, foldedCondition]
      split
      · rename_i value evaluated
        simp [Expr.written?, unnamed, evaluated, Except.toOption] at unwritten
      · exact ⟨_, rfl⟩

end Planning

end QueryChain
