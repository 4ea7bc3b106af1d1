import QueryChain.Expr
import QueryChain.Sql.Reference

namespace QueryChain.Sql

/-! The tokens of a predicate.  The text of a predicate is the text of its
tokens, one after another; spaces are tokens of their own.
-/

inductive Keyword where
  | and | or | not | is | null | like | isIn | isNull
deriving DecidableEq, Repr

def Keyword.text : Keyword → String
  | .and => "AND"
  | .or => "OR"
  | .not => "NOT"
  | .is => "IS"
  | .null => "NULL"
  | .like => "LIKE"
  | .isIn => "IN"
  | .isNull => "ISNULL"

def symbol : Comparison → String
  | .eq => "="
  | .ne => "<>"
  | .lt => "<"
  | .le => "<="
  | .gt => ">"
  | .ge => ">="

/-- Tokens over some representation `ρ` of column references. -/
inductive Token (ρ : Type) where
  | space
  | opening
  | closing
  | comma
  | plus
  | keyword (word : Keyword)
  | comparison (op : Comparison)
  | number (value : Nat)
  | string (text : String)
  | reference (column : ρ)
  | placeholder (name : String)
  /-- Text that a caller supplies. -/
  | verbatim (text : String)
deriving DecidableEq

namespace Token

variable {ρ : Type}

def text (spell : ρ → String) : Token ρ → String
  | .space => " "
  | .opening => "("
  | .closing => ")"
  | .comma => ","
  | .plus => "+"
  | .keyword word => word.text
  | .comparison op => symbol op
  | .number value => toString value
  | .string text => "'" ++ text ++ "'"
  | .reference column => spell column
  | .placeholder name => "@" ++ name
  | .verbatim text => text

end Token

/-- The text of consecutive tokens. -/
def tokensText {ρ : Type} (spell : ρ → String) (tokens : List (Token ρ)) : String :=
  String.join (tokens.map (Token.text spell))

def connective : Connective → Keyword
  | .and => .and
  | .or => .or

namespace Phrase

/-! A negated phrase differs from the plain one in a keyword or a comparison. -/

variable {ρ : Type}

/-- A keyword between spaces. -/
def spaced (word : Keyword) : List (Token ρ) := [.space, .keyword word, .space]

def comparison (op : Comparison) : List (Token ρ) := [.space, .comparison op, .space]

def nullTest (negated : Bool) : List (Token ρ) :=
  if negated then [.space, .keyword .is, .space, .keyword .null]
  else [.space, .keyword .is, .space, .keyword .not, .space, .keyword .null]

def like (negated : Bool) : List (Token ρ) :=
  if negated then [.space, .keyword .not, .space, .keyword .like, .space]
  else [.space, .keyword .like, .space]

def wildcard : Token ρ := .string "%"

def leadingWildcard : List (Token ρ) := [wildcard, .plus]

def trailingWildcard : List (Token ρ) := [.plus, wildcard]

def isIn (negated : Bool) : List (Token ρ) :=
  if negated then [.space, .keyword .not, .space, .keyword .isIn, .space]
  else [.space, .keyword .isIn, .space]

def separator : List (Token ρ) := [.comma, .space]

/-- A boolean column holds when it differs from zero. -/
def flag (negated : Bool) : List (Token ρ) :=
  comparison (if negated then .eq else .ne) ++ [.number 0]

def equality (negated : Bool) : Token ρ := .comparison (if negated then .ne else .eq)

def emptyText : Token ρ := .string ""

def truth (value : Bool) : List (Token ρ) :=
  [.number 1] ++ comparison .eq ++ [.number (if value then 1 else 0)]

end Phrase

end QueryChain.Sql
