import QueryChain.Outline
import QueryChain.Sql.Condition

namespace QueryChain.Sql

/-! Statements, clause by clause, and their text. -/

structure Join where
  source : Source
  left : Reference
  right : Reference
deriving DecidableEq, Repr

structure SortKey where
  column : Reference
  descending : Bool
deriving DecidableEq, Repr

structure Statement where
  window : Window
  distinct : Bool
  columns : List Reference
  source : Source
  joins : List Join
  predicate : List (Token Reference)
  order : List SortKey
deriving DecidableEq

def Join.text (join : Join) : String :=
  " JOIN " ++ join.source.text ++ " ON " ++ join.left.text ++ " = " ++ join.right.text

def SortKey.text (key : SortKey) : String :=
  key.column.text ++ (if key.descending then " DESC" else "")

/-- Sort keys with a comma in front of whatever text follows. -/
def orderText : List SortKey → String
  | [] => ""
  | key :: rest =>
    let following := orderText rest
    key.text ++ (if following.isEmpty then "" else ", " ++ following)

namespace Statement

def headText (statement : Statement) : String :=
  let top :=
    match statement.window with
    | .top count => "TOP(" ++ toString count ++ ") "
    | _ => ""
  "SELECT " ++ top ++ (if statement.distinct then "DISTINCT " else "")
    ++ ",".intercalate (statement.columns.map Reference.text)

def fromText (statement : Statement) : String :=
  " FROM " ++ statement.source.text ++ String.join (statement.joins.map Join.text)

def predicateText (statement : Statement) : String :=
  tokensText Reference.text statement.predicate

def whereText (statement : Statement) : String :=
  if statement.predicateText.isEmpty then "" else " WHERE " ++ statement.predicateText

/-- A page needs an order, if only an arbitrary one. -/
def orderByText (statement : Statement) : String :=
  let keys := orderText statement.order
  if keys.isEmpty then
    match statement.window with
    | .page _ _ => " ORDER BY (SELECT NULL)"
    | _ => ""
  else " ORDER BY " ++ keys

def pageText (statement : Statement) : String :=
  match statement.window with
  | .page offset none => " OFFSET " ++ toString offset ++ " ROWS"
  | .page offset (some fetch) =>
    " OFFSET " ++ toString offset ++ " ROWS FETCH NEXT " ++ toString fetch ++ " ROWS ONLY"
  | _ => ""

def text (statement : Statement) : String :=
  statement.headText ++ statement.fromText ++ statement.whereText
    ++ statement.orderByText ++ statement.pageText

end Statement

end QueryChain.Sql
