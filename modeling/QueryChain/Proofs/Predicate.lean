import QueryChain.Proofs.Plan.Columns
import QueryChain.Plan.Lowering

namespace QueryChain

open Json Schema

/-! Predicates: conditions whose columns are resolved and whose values are known.

`Expr.predicate?` reads an expression as a predicate and keeps its negations where
they are written.  `Predicate.condition` is the condition that is planned for it,
with the negations carried down and the values numbered from left to right.
-/

/-- An operand: a column, or a value that is known before the query runs. -/
inductive Term where
  | column (column : ColumnRef)
  | value (value : Value)

inductive Predicate where
  | truth (value : Bool)
  | compare (op : Comparison) (left right : Term)
  | connect (op : Connective) (left right : Predicate)
  | not (operand : Predicate)
  | flag (column : ColumnRef)
  | hasValue (column : ColumnRef)
  | like (column : ColumnRef) (op : StringOp) (pattern : Term)
  | oneOf (column : ColumnRef) (values : List Value)
  | nullOrEmpty (column : ColumnRef)

namespace Expr

variable (lookup : Lookup)

/-- The operand that an expression stands for.  A member of a parameter is a
column, and everything else must be known. -/
def term? (expr : Expr) : Option Term :=
  match expr with
  | .parameter _ | .array _ => none
  | .member _ _ =>
    match expr.column? with
    | some _ => (expr.columnIn? lookup).map .column
    | none => expr.evaluate.toOption.map .value
  | _ => expr.evaluate.toOption.map .value

/-- A condition that is known before the query runs. -/
def known? (expr : Expr) : Option Predicate := do
  let value ← expr.evaluate.toOption
  let flag ← value.asBool?
  return .truth flag

/-- A member of a parameter as a condition, which takes a boolean column. -/
def flag? (expr : Expr) : Option Predicate := do
  let column ← expr.columnIn? lookup
  if column.column.type = .boolean then some (.flag column) else none

def predicate? : Expr → Option Predicate
  | .not operand => do return .not (← operand.predicate?)
  | .compare op left right => do
    let left ← left.term? lookup
    let right ← right.term? lookup
    return .compare op left right
  | .connect op left right => do
    let left ← left.predicate?
    let right ← right.predicate?
    return .connect op left right
  | .member target name =>
    match Expr.column? (.member target name) with
    | some _ => (Expr.member target name).flag? lookup
    | none => (Expr.member target name).known?
  | .constant value => (Expr.constant value).known?
  | .captured name value => (Expr.captured name value).known?
  | .hasValue operand => (operand.columnIn? lookup).map .hasValue
  | .stringMatch op target value => do
    let column ← target.columnIn? lookup
    let pattern ← value.term? lookup
    return .like column op pattern
  | .collectionContains collection item => do
    let column ← item.columnIn? lookup
    let values ← collection.evaluateList.toOption
    return .oneOf column values
  | .isNullOrEmpty operand => (operand.columnIn? lookup).map .nullOrEmpty
  | .parameter _ | .array _ => none

end Expr

namespace Term

def values : Term → List Value
  | .column _ => []
  | .value known => [known]

def columns : Term → List ColumnRef
  | .column found => [found]
  | .value _ => []

end Term

namespace Predicate

/-- The values a predicate is written with, from left to right. -/
def values : Predicate → List Value
  | .truth _ => []
  | .compare _ left right => left.values ++ right.values
  | .connect _ left right => left.values ++ right.values
  | .not operand => operand.values
  | .flag _ => []
  | .hasValue _ => []
  | .like _ _ pattern => pattern.values
  | .oneOf _ values => values
  | .nullOrEmpty _ => []

/-- The columns of a predicate in the order in which they are resolved. -/
def columns : Predicate → List ColumnRef
  | .truth _ => []
  | .compare _ left right => left.columns ++ right.columns
  | .connect _ left right => left.columns ++ right.columns
  | .not operand => operand.columns
  | .flag column => [column]
  | .hasValue column => [column]
  | .like column _ pattern => column :: pattern.columns
  | .oneOf column _ => [column]
  | .nullOrEmpty column => [column]

end Predicate

/-! An expression reads over some of the entities exactly when it reads over all of
them and its columns belong to those.
-/

section Within

variable {lookup : Lookup} {entities : List Entity}

/-- Columns all belong to the given entities. -/
def AllWithin (entities : List Entity) (columns : List ColumnRef) : Prop :=
  ∀ column ∈ columns, column.entity ∈ entities

theorem allWithin_append {columns others : List ColumnRef} :
    AllWithin entities (columns ++ others) ↔
      AllWithin entities columns ∧ AllWithin entities others := by
  simp only [AllWithin, List.mem_append, or_imp, forall_and]

theorem columnIn?_within_list {expr : Expr} {found : ColumnRef} :
    expr.columnIn? (lookup.within entities) = some found ↔
      expr.columnIn? lookup = some found ∧ AllWithin entities [found] := by
  simp [Expr.columnIn?_within, AllWithin]

theorem map_columnIn?_within {τ : Type} {expr : Expr} {make : ColumnRef → τ} {item : τ}
    {columns : τ → List ColumnRef} (columnsOf : ∀ found, columns (make found) = [found]) :
    (expr.columnIn? (lookup.within entities)).map make = some item ↔
      (expr.columnIn? lookup).map make = some item ∧ AllWithin entities (columns item) := by
  simp only [Option.map_eq_some_iff, Expr.columnIn?_within]
  refine ⟨?_, ?_⟩
  · intro resolved
    obtain ⟨found, ⟨resolved, member⟩, rfl⟩ := resolved
    exact ⟨⟨found, resolved, rfl⟩, by simpa [AllWithin, columnsOf] using member⟩
  · intro resolved
    obtain ⟨⟨found, resolved, rfl⟩, within⟩ := resolved
    exact ⟨found, ⟨resolved, by simpa [AllWithin, columnsOf] using within⟩, rfl⟩

theorem term?_evaluated (expr : Expr) {term : Term} :
    expr.evaluate.toOption.map Term.value = some term ↔
      expr.evaluate.toOption.map Term.value = some term ∧ AllWithin entities term.columns := by
  refine ⟨?_, And.left⟩
  intro read
  obtain ⟨value, _, rfl⟩ := Option.map_eq_some_iff.mp read
  exact ⟨read, by simp [AllWithin, Term.columns]⟩

theorem Expr.term?_within {expr : Expr} {term : Term} :
    expr.term? (lookup.within entities) = some term ↔
      expr.term? lookup = some term ∧ AllWithin entities term.columns := by
  cases expr with
  | parameter param => simp [term?]
  | array items => simp [term?]
  | member target name =>
      simp only [term?]
      cases Expr.column? (.member target name) with
      | none => exact term?_evaluated _
      | some selected => exact map_columnIn?_within fun _ => rfl
  | constant value => exact term?_evaluated (.constant value)
  | captured name value => exact term?_evaluated (.captured name value)
  | hasValue _ | compare _ _ _ | connect _ _ _ | not _ | stringMatch _ _ _
  | collectionContains _ _ | isNullOrEmpty _ => exact term?_evaluated _

theorem Expr.known?_columns {expr : Expr} {predicate : Predicate}
    (known : expr.known? = some predicate) : predicate.columns = [] := by
  simp only [known?, Option.bind_eq_bind, Option.bind_eq_some_iff, Option.pure_def,
    Option.some.injEq] at known
  obtain ⟨_, _, _, _, rfl⟩ := known
  rfl

/-- Two readings of which each can be restricted. -/
theorem bind_bind_within {τ υ κ : Type} {first firstWithin : Option τ}
    {second secondWithin : Option υ}
    {make : τ → υ → κ} {item : κ} {columns : τ → List ColumnRef}
    {nextColumns : υ → List ColumnRef}
    {allColumns : κ → List ColumnRef}
    (restricted : ∀ {item}, firstWithin = some item ↔
      first = some item ∧ AllWithin entities (columns item))
    (restrictedNext : ∀ {item}, secondWithin = some item ↔
      second = some item ∧ AllWithin entities (nextColumns item))
    (columnsOf : ∀ item next, allColumns (make item next) = columns item ++ nextColumns next) :
    (do let item ← firstWithin; let next ← secondWithin; return make item next) = some item ↔
      (do let item ← first; let next ← second; return make item next) = some item ∧
        AllWithin entities (allColumns item) := by
  simp only [Option.bind_eq_bind, Option.bind_eq_some_iff, Option.pure_def, Option.some.injEq,
    restricted, restrictedNext]
  refine ⟨?_, ?_⟩
  · intro read
    obtain ⟨item, ⟨read, within⟩, next, ⟨readNext, withinNext⟩, rfl⟩ := read
    rw [columnsOf, allWithin_append]
    exact ⟨⟨item, read, next, readNext, rfl⟩, within, withinNext⟩
  · intro read
    obtain ⟨⟨item, read, next, readNext, rfl⟩, within⟩ := read
    rw [columnsOf, allWithin_append] at within
    exact ⟨item, ⟨read, within.1⟩, next, ⟨readNext, within.2⟩, rfl⟩

theorem Expr.flag?_within {expr : Expr} {predicate : Predicate} :
    expr.flag? (lookup.within entities) = some predicate ↔
      expr.flag? lookup = some predicate ∧ AllWithin entities predicate.columns := by
  simp only [flag?, Option.bind_eq_bind, Option.bind_eq_some_iff, columnIn?_within]
  refine ⟨?_, ?_⟩
  · intro read
    obtain ⟨found, ⟨resolved, member⟩, flagged⟩ := read
    refine ⟨⟨found, resolved, flagged⟩, ?_⟩
    split at flagged
    · cases flagged
      simpa [AllWithin, Predicate.columns] using member
    · cases flagged
  · intro read
    obtain ⟨⟨found, resolved, flagged⟩, within⟩ := read
    refine ⟨found, ⟨resolved, ?_⟩, flagged⟩
    split at flagged
    · cases flagged
      simpa [AllWithin, Predicate.columns] using within
    · cases flagged

theorem Expr.predicate?_within : (expr : Expr) → {predicate : Predicate} →
    (expr.predicate? (lookup.within entities) = some predicate ↔
      expr.predicate? lookup = some predicate ∧ AllWithin entities predicate.columns)
  | .not operand, predicate => by
      simp only [predicate?, Option.bind_eq_bind, Option.bind_eq_some_iff, Option.pure_def,
        Option.some.injEq, predicate?_within operand]
      refine ⟨?_, ?_⟩
      · intro read
        obtain ⟨inner, ⟨read, within⟩, rfl⟩ := read
        exact ⟨⟨inner, read, rfl⟩, within⟩
      · intro read
        obtain ⟨⟨inner, read, rfl⟩, within⟩ := read
        exact ⟨inner, ⟨read, within⟩, rfl⟩
  | .compare op left right, _ => bind_bind_within term?_within term?_within fun _ _ => rfl
  | .connect op left right, _ =>
      bind_bind_within (predicate?_within left) (predicate?_within right) fun _ _ => rfl
  | .member target name, predicate => by
      simp only [predicate?]
      cases Expr.column? (.member target name) with
      | none =>
          refine ⟨fun known => ⟨known, ?_⟩, And.left⟩
          simp [known?_columns known, AllWithin]
      | some selected => exact flag?_within
  | .constant value, _ => by
      refine ⟨fun known => ⟨known, ?_⟩, And.left⟩
      simp [known?_columns known, AllWithin]
  | .captured name value, _ => by
      refine ⟨fun known => ⟨known, ?_⟩, And.left⟩
      simp [known?_columns known, AllWithin]
  | .hasValue operand, _ => map_columnIn?_within fun _ => rfl
  | .isNullOrEmpty operand, _ => map_columnIn?_within fun _ => rfl
  | .stringMatch op target value, _ =>
      bind_bind_within columnIn?_within_list term?_within fun _ _ => rfl
  | .collectionContains collection item, _ =>
      bind_bind_within columnIn?_within_list (by simp [AllWithin]) fun _ _ => rfl
  | .parameter param, _ => by simp [predicate?]
  | .array items, _ => by simp [predicate?]

end Within

/-- How a value is written when `bound` values are bound before it. -/
def valueOperand {ρ : Type} (stem : String) (bound : Nat) (value : Value) : Sql.Operand ρ :=
  if value.isNull then .null else .placeholder (Sql.Parameters.nameFrom stem (bound + 1))

def valueOperands {ρ : Type} (stem : String) : Nat → List Value → List (Sql.Operand ρ)
  | _, [] => []
  | bound, value :: rest =>
    valueOperand stem bound value :: valueOperands stem (bound + (nonNull [value]).length) rest

theorem valueOperands_append {ρ : Type} (stem : String) (bound : Nat) (left right : List Value) :
    (valueOperands stem bound (left ++ right) : List (Sql.Operand ρ)) =
      valueOperands stem bound left ++
        valueOperands stem (bound + (nonNull left).length) right := by
  induction left generalizing bound with
  | nil => simp [valueOperands]
  | cons value rest ih =>
      simp only [List.cons_append, valueOperands, ih, List.length_append, nonNull_cons value rest,
        Nat.add_assoc]

theorem valueOperand_map {ρ σ : Type} (f : ρ → σ) (stem : String)
    (bound : Nat) (value : Value) :
    (valueOperand stem bound value).map f = valueOperand stem bound value := by
  unfold valueOperand
  split <;> rfl

theorem valueOperands_map {ρ σ : Type} (f : ρ → σ) (stem : String) (bound : Nat)
    (values : List Value) :
    (valueOperands stem bound values).map (Sql.Operand.map f) =
      valueOperands stem bound values := by
  induction values generalizing bound with
  | nil => rfl
  | cons value rest ih => simp only [valueOperands, List.map_cons, valueOperand_map, ih]

def Term.operand (stem : String) (bound : Nat) : Term → Sql.Operand ColumnRef
  | .column found => .column found
  | .value known => valueOperand stem bound known

/-- The condition of a predicate, or of its negation, when `bound` values are
bound before it.  No column is one of no values. -/
def Predicate.condition (stem : String) (negated : Bool) (bound : Nat) :
    Predicate → Sql.Condition ColumnRef
  | .truth value => .truth (value != negated)
  | .compare op left right =>
    .compare negated op (left.operand stem bound)
      (right.operand stem (bound + (nonNull left.values).length))
  | .connect op left right =>
    .connect negated op (left.condition stem false bound)
      (right.condition stem false (bound + (nonNull left.values).length))
  | .not operand => operand.condition stem (!negated) bound
  | .flag column => .flag negated column
  | .hasValue column => .hasValue negated column
  | .like column op pattern => .like negated column op (pattern.operand stem bound)
  | .oneOf column values =>
    if values.isEmpty then .truth negated
    else .oneOf negated column (valueOperands stem bound values)
  | .nullOrEmpty column => .nullOrEmpty negated column

/-- The conditions of predicates that are planned one after another. -/
def conditionsFrom (stem : String) : Nat → List Predicate → List (Sql.Condition ColumnRef)
  | _, [] => []
  | bound, predicate :: rest =>
    predicate.condition stem false bound ::
      conditionsFrom stem (bound + (nonNull predicate.values).length) rest

end QueryChain
