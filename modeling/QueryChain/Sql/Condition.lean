import QueryChain.Sql.Token

namespace QueryChain.Sql

/-! Conditions as a statement writes them.

A negation is part of the condition it applies to: most conditions have a
negated form of their own, and the others take the keyword in front of
parentheses.  `Condition.tokens` writes a condition.
-/

/-- What a comparison or a pattern is compared with. -/
inductive Operand (ρ : Type) where
  | column (column : ρ)
  | placeholder (name : String)
  | null
deriving DecidableEq

/-- Conditions over some representation `ρ` of column references. -/
inductive Condition (ρ : Type) where
  | truth (value : Bool)
  | compare (negated : Bool) (op : Comparison) (left right : Operand ρ)
  | connect (negated : Bool) (op : Connective) (left right : Condition ρ)
  /-- A boolean column as a condition. -/
  | flag (negated : Bool) (column : ρ)
  /-- A column that is not null. -/
  | hasValue (negated : Bool) (column : ρ)
  | like (negated : Bool) (column : ρ) (op : StringOp) (pattern : Operand ρ)
  /-- A column that equals one of some values, at least one. -/
  | oneOf (negated : Bool) (column : ρ) (values : List (Operand ρ))
  | nullOrEmpty (negated : Bool) (column : ρ)
deriving DecidableEq

variable {ρ σ : Type}

def Operand.token : Operand ρ → Token ρ
  | .column reference => .reference reference
  | .placeholder name => .placeholder name
  | .null => .keyword .null

def Operand.map (f : ρ → σ) : Operand ρ → Operand σ
  | .column reference => .column (f reference)
  | .placeholder name => .placeholder name
  | .null => .null

namespace Condition

def map (f : ρ → σ) : Condition ρ → Condition σ
  | .truth value => .truth value
  | .compare negated op left right => .compare negated op (left.map f) (right.map f)
  | .connect negated op left right => .connect negated op (left.map f) (right.map f)
  | .flag negated column => .flag negated (f column)
  | .hasValue negated column => .hasValue negated (f column)
  | .like negated column op pattern => .like negated (f column) op (pattern.map f)
  | .oneOf negated column values => .oneOf negated (f column) (values.map (Operand.map f))
  | .nullOrEmpty negated column => .nullOrEmpty negated (f column)

/-- The keyword of a negation that stands in front of parentheses. -/
def negation (negated : Bool) : List (Token ρ) :=
  if negated then [.keyword .not, .space] else []

/-- Tokens of the values of a list, with a separator between them. -/
def listTokens : List (Operand ρ) → List (Token ρ)
  | [] => []
  | [value] => [value.token]
  | value :: rest => value.token :: (Phrase.separator ++ listTokens rest)

def tokens : Condition ρ → List (Token ρ)
  | .truth value => Phrase.truth value
  | .compare negated op left right =>
    negation negated ++ [.opening, left.token] ++ Phrase.comparison op ++ [right.token, .closing]
  | .connect negated op left right =>
    negation negated ++ [.opening] ++ left.tokens ++ Phrase.spaced (connective op)
      ++ right.tokens ++ [.closing]
  | .flag negated column => .reference column :: Phrase.flag negated
  | .hasValue negated column => .reference column :: Phrase.nullTest negated
  | .like negated column op pattern =>
    .reference column :: Phrase.like negated
      ++ (if op.leadingWildcard then Phrase.leadingWildcard else [])
      ++ [pattern.token]
      ++ (if op.trailingWildcard then Phrase.trailingWildcard else [])
  | .oneOf negated column values =>
    .reference column :: Phrase.isIn negated ++ [.opening] ++ listTokens values ++ [.closing]
  | .nullOrEmpty negated column =>
    [.keyword .isNull, .opening, .reference column] ++ Phrase.separator
      ++ [Phrase.emptyText, .closing, .space, Phrase.equality negated, .space, Phrase.emptyText]

/-- The operands of a condition, from left to right. -/
def operands : Condition ρ → List (Operand ρ)
  | .truth _ => []
  | .compare _ _ left right => [left, right]
  | .connect _ _ left right => left.operands ++ right.operands
  | .flag _ _ => []
  | .hasValue _ _ => []
  | .like _ _ _ pattern => [pattern]
  | .oneOf _ _ values => values
  | .nullOrEmpty _ _ => []

end Condition

end QueryChain.Sql
