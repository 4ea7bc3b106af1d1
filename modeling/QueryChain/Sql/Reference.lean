namespace QueryChain.Sql

/-! Names in a statement.  Names of tables and columns stand in brackets; a
column is qualified with the alias of its table.
-/

def bracketed (name : String) : String := "[" ++ name ++ "]"

/-- A column of a table in the statement, or text that a caller supplies. -/
inductive Reference where
  | column (qualifier name : String)
  | verbatim (text : String)
deriving DecidableEq, Repr

def Reference.text : Reference → String
  | .column qualifier name => qualifier ++ "." ++ bracketed name
  | .verbatim text => text

/-- A table under its alias. -/
structure Source where
  table : String
  qualifier : String
deriving DecidableEq, Repr

def Source.text (source : Source) : String := bracketed source.table ++ " " ++ source.qualifier

end QueryChain.Sql
