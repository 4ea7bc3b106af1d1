import QueryChain.Schema.Alias
import QueryChain.Schema.Mapping
import QueryChain.Sql.Reference

namespace QueryChain.Schema

/-! The registry of resolved tables.

An entity is resolved on its first use: its mapping is checked, and its table
takes the next free alias.  What is resolved stays as it is, and an entity that
cannot be resolved leaves the registry as it was.
-/

/-- A table under the alias by which all statements refer to it. -/
structure Descriptor where
  table : Table
  qualifier : String
deriving DecidableEq, Repr

def Descriptor.reference (descriptor : Descriptor) (column : Column) : Sql.Reference :=
  .column descriptor.qualifier column.name

structure Registry where
  catalog : Catalog
  /-- The resolved entities, in the order in which they were resolved. -/
  descriptors : Dictionary Entity Descriptor
  /-- Where the search for the next alias starts. -/
  nextAlias : Nat

namespace Registry

def ofCatalog (catalog : Catalog) : Registry := ⟨catalog, [], 0⟩

def size (registry : Registry) : Nat := registry.descriptors.length

def isEmpty (registry : Registry) : Bool := registry.descriptors.isEmpty

def find? (registry : Registry) (entity : Entity) : Option Descriptor :=
  registry.descriptors.get? entity

/-- Gives a table the next free alias and keeps it under its entity. -/
def add (registry : Registry) (entity : Entity) (table : Table) : Descriptor × Registry :=
  let index := nextFree registry.nextAlias
  let descriptor := ⟨table, word index⟩
  (descriptor,
    { registry with
      descriptors := registry.descriptors.insert entity descriptor
      nextAlias := index + 1 })

def resolve (registry : Registry) (entity : Entity) :
    Except ConfigurationError Descriptor × Registry :=
  match registry.find? entity with
  | some descriptor => (.ok descriptor, registry)
  | none =>
    match registry.catalog.table entity with
    | .error cause => (.error cause, registry)
    | .ok table =>
      let (descriptor, registry) := registry.add entity table
      (.ok descriptor, registry)

/-- Resolves entities one after another, those that cannot be resolved included. -/
def resolveAll (registry : Registry) (entities : List Entity) : Registry :=
  entities.foldl (fun registry entity => (registry.resolve entity).2) registry

/-- The alias of a resolved entity. -/
def aliasOf (registry : Registry) (entity : Entity) : String :=
  match registry.find? entity with
  | some descriptor => descriptor.qualifier
  | none => ""

end Registry

end QueryChain.Schema
