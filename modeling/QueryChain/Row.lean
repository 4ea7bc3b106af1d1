import QueryChain.Json.Reader

namespace QueryChain

open Json

/-! Rows of a query result, keyed by column name. -/

structure Row where
  columns : Dictionary String Value

namespace Row

def empty : Row := ⟨[]⟩

/-- A row of the members of an object. -/
def ofMembers (members : Dictionary String Value) : Row := ⟨members⟩

def size (row : Row) : Nat := row.columns.length

def find? (row : Row) (column : String) : Option Value := row.columns.get? column

def insert (row : Row) (column : String) (value : Value) : Row :=
  ⟨Dictionary.insert column value row.columns⟩

/-- Takes a column out of a row. -/
def remove (row : Row) (column : String) : Option Value × Row :=
  (row.find? column, ⟨row.columns.erase column⟩)

/-- A column that is present and reads as the given type. -/
def read? {α : Type} (row : Row) (column : String) (read : Reader α) : Option α :=
  (row.find? column).bind fun value => (read value).toOption

def string? (row : Row) (column : String) : Option String :=
  (row.find? column).bind Value.asString?

def int64? (row : Row) (column : String) : Option Int :=
  (row.find? column).bind Value.asInt64?

def float? (row : Row) (column : String) : Option Binary64 :=
  (row.find? column).bind Value.asBinary64?

def bool? (row : Row) (column : String) : Option Bool :=
  (row.find? column).bind Value.asBool?

/-- The row as an object, its columns in increasing order of their names. -/
def toValue (row : Row) : Value := .object (Dictionary.sorted row.columns)

end Row

end QueryChain
