import QueryChain.Expr

namespace QueryChain.Sql

open Json

/-! What a predicate says of a row, in the logic of three truth values. -/

inductive Truth where
  | no | unknown | yes
deriving DecidableEq, Repr

namespace Truth

def ofBool (holds : Bool) : Truth := if holds then .yes else .no

def not : Truth → Truth
  | .no => .yes
  | .unknown => .unknown
  | .yes => .no

def and : Truth → Truth → Truth
  | .no, _ => .no
  | _, .no => .no
  | .yes, .yes => .yes
  | _, _ => .unknown

def or : Truth → Truth → Truth
  | .yes, _ => .yes
  | _, .yes => .yes
  | .no, .no => .no
  | _, _ => .unknown

def all (truths : List Truth) : Truth := truths.foldr and .yes

def any (truths : List Truth) : Truth := truths.foldr or .no

/-- A truth value, or its negation. -/
def negateIf (negated : Bool) (truth : Truth) : Truth := if negated then truth.not else truth

@[simp] theorem not_not (truth : Truth) : truth.not.not = truth := by
  cases truth <;> rfl

@[simp] theorem not_ofBool (holds : Bool) : (ofBool holds).not = ofBool !holds := by
  cases holds <;> rfl

@[simp] theorem unknown_not : unknown.not = unknown := rfl

@[simp] theorem and_yes (truth : Truth) : truth.and .yes = truth := by
  cases truth <;> rfl

theorem and_assoc (first second third : Truth) :
    (first.and second).and third = first.and (second.and third) := by
  cases first <;> cases second <;> cases third <;> rfl

theorem negateIf_not (negated : Bool) (truth : Truth) :
    negateIf negated truth.not = negateIf (!negated) truth := by
  cases negated <;> simp [negateIf]

end Truth

/-- The values other than null, with the operators on them.  Equality is equality, and
the order, matching and concatenation are whatever they are. -/
structure Interpretation (δ : Type) where
  number : Nat → δ
  text : String → δ
  parameter : Value → δ
  orders : Comparison → δ → δ → Bool
  like : δ → δ → Bool
  concat : δ → δ → δ
  zero_ne_one : number 0 ≠ number 1

namespace Interpretation

variable {δ : Type} [DecidableEq δ] (interpretation : Interpretation δ)

/-- An operator is unknown where one of its operands is null. -/
def lift (test : δ → δ → Bool) : Option δ → Option δ → Truth
  | some left, some right => .ofBool (test left right)
  | _, _ => .unknown

def compare (op : Comparison) : Option δ → Option δ → Truth :=
  lift fun left right =>
    match op with
    | .eq => left = right
    | .ne => left ≠ right
    | _ => interpretation.orders op left right

def matchesPattern : Option δ → Option δ → Truth := lift interpretation.like

/-- A text between the wildcards of an operator. -/
def pattern (op : StringOp) (text : δ) : δ :=
  let wildcard := interpretation.text "%"
  match op with
  | .contains => interpretation.concat (interpretation.concat wildcard text) wildcard
  | .startsWith => interpretation.concat text wildcard
  | .endsWith => interpretation.concat wildcard text

/-- The value of a parameter; null is the absence of one. -/
def valueOf (value : Value) : Option δ :=
  if value.isNull then none else some (interpretation.parameter value)

theorem not_compare_eq (left right : Option δ) :
    (interpretation.compare .eq left right).not = interpretation.compare .ne left right := by
  cases left <;> cases right <;> simp [compare, lift]

theorem not_compare_ne (left right : Option δ) :
    (interpretation.compare .ne left right).not = interpretation.compare .eq left right := by
  rw [← not_compare_eq, Truth.not_not]

end Interpretation

variable {ρ δ : Type}

/-- Expressions of a predicate that stand for a value. -/
inductive Scalar (ρ : Type) where
  | column (column : ρ)
  | placeholder (name : String)
  | null
  | number (value : Nat)
  | string (text : String)
  | concat (left right : Scalar ρ)
  /-- A value, or another one where it is null. -/
  | orElse (value other : Scalar ρ)

inductive Formula (ρ : Type) where
  | compare (op : Comparison) (left right : Scalar ρ)
  | isNull (operand : Scalar ρ)
  | like (operand pattern : Scalar ρ)
  | isIn (operand : Scalar ρ) (values : List (Scalar ρ))
  | not (operand : Formula ρ)
  | and (left right : Formula ρ)
  | or (left right : Formula ρ)

section Evaluation

variable [DecidableEq δ] (interpretation : Interpretation δ) (bound : String → Option Value)
  (row : ρ → Option δ)

def Scalar.eval : Scalar ρ → Option δ
  | .column found => row found
  | .placeholder name => (bound name).map interpretation.parameter
  | .null => none
  | .number known => some (interpretation.number known)
  | .string text => some (interpretation.text text)
  | .concat left right => do return interpretation.concat (← left.eval) (← right.eval)
  | .orElse value other => value.eval.or other.eval

def Formula.truth : Formula ρ → Truth
  | .compare op left right =>
    interpretation.compare op (left.eval interpretation bound row)
      (right.eval interpretation bound row)
  | .isNull operand => .ofBool (operand.eval interpretation bound row).isNone
  | .like operand pattern =>
    interpretation.matchesPattern (operand.eval interpretation bound row)
      (pattern.eval interpretation bound row)
  | .isIn operand values => .any (values.map fun value =>
    interpretation.compare .eq (operand.eval interpretation bound row)
      (value.eval interpretation bound row))
  | .not operand => operand.truth.not
  | .and left right => left.truth.and right.truth
  | .or left right => left.truth.or right.truth

end Evaluation

/-- A formula, or its negation. -/
def Formula.negateIf (negated : Bool) (formula : Formula ρ) : Formula ρ :=
  if negated then .not formula else formula

end QueryChain.Sql
