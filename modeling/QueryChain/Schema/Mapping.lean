import QueryChain.Error

namespace QueryChain.Schema

/-! Declared mappings of entities onto tables.

A mapping is written column by column and not checked while it is written;
`Mapping.table` checks it and gives the table it describes.
-/

inductive ColumnType where
  | bigInt | integer | smallInt | real | text | boolean | timestamp
deriving DecidableEq, Repr

/-- A property of an entity and the column that holds it. -/
structure Column where
  property : String
  name : String
  type : ColumnType
  nullable : Bool
deriving DecidableEq, Repr

structure Mapping where
  table : String
  /-- The property of the identifying key. -/
  key : Option String := none
  columns : List Column := []

namespace Mapping

def onto (table : String) : Mapping := { table }

def push (mapping : Mapping) (column : Column) : Mapping :=
  { mapping with columns := mapping.columns ++ [column] }

/-- Maps a property onto a column of the same name. -/
def withColumn (mapping : Mapping) (property : String) (type : ColumnType) : Mapping :=
  mapping.push ⟨property, property, type, false⟩

/-- Maps the identifying property; the last key declared is the key. -/
def withKey (mapping : Mapping) (property : String) (type : ColumnType) : Mapping :=
  { mapping.withColumn property type with key := some property }

def withNullable (mapping : Mapping) (property : String) (type : ColumnType) : Mapping :=
  mapping.push ⟨property, property, type, true⟩

/-- Maps a property onto a column of another name. -/
def withColumnNamed (mapping : Mapping) (property name : String) (type : ColumnType) : Mapping :=
  mapping.push ⟨property, name, type, false⟩

end Mapping

/-- A table with its columns in the order in which they were declared. -/
structure Table where
  name : String
  key : String
  columns : List Column
deriving DecidableEq, Repr

def Table.column? (table : Table) (property : String) : Option Column :=
  table.columns.find? fun column => column.property = property

/-- The first text that occurred before. -/
def firstRepeated? (seen : List String) : List String → Option String
  | [] => none
  | text :: rest => if text ∈ seen then some text else firstRepeated? (text :: seen) rest

/-- The table of a mapping with a table name, columns, a key, and properties
that are mapped once each. -/
def Mapping.toTable (mapping : Mapping) (entity : Entity) : Except ConfigurationError Table :=
  if mapping.table.isEmpty then .error (.noTableName entity)
  else if mapping.columns.isEmpty then .error (.noColumns entity)
  else
    match mapping.key, firstRepeated? [] (mapping.columns.map Column.property) with
    | none, _ => .error (.noKey entity)
    | some _, some property => .error (.mappedTwice entity property)
    | some key, none => .ok ⟨mapping.table, key, mapping.columns⟩

/-- The mappings declared for entities.  The first mapping of an entity stays. -/
structure Catalog where
  mappings : Dictionary Entity Mapping

namespace Catalog

def empty : Catalog := ⟨[]⟩

def size (catalog : Catalog) : Nat := catalog.mappings.length

def isEmpty (catalog : Catalog) : Bool := catalog.mappings.isEmpty

def find? (catalog : Catalog) (entity : Entity) : Option Mapping := catalog.mappings.get? entity

def contains (catalog : Catalog) (entity : Entity) : Bool := (catalog.find? entity).isSome

def register (catalog : Catalog) (entity : Entity) (mapping : Mapping) :
    Except ConfigurationError Catalog :=
  if catalog.contains entity then .error (.alreadyRegistered entity)
  else .ok ⟨catalog.mappings.insert entity mapping⟩

/-- The table of an entity, if its mapping can be used. -/
def table (catalog : Catalog) (entity : Entity) : Except ConfigurationError Table :=
  match catalog.find? entity with
  | some mapping => mapping.toTable entity
  | none => .error (.notMapped entity)

end Catalog

end QueryChain.Schema
