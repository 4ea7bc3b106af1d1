import QueryChain.Error
import QueryChain.Settings

namespace QueryChain.Sql

open Json

/-! The parameters of a statement.

Values are bound one after another; the name of a parameter is the stem of the
settings followed by its number, which starts at one.
-/

structure Parameters where
  stem : String
  /-- The most values that can be bound. -/
  limit : Nat
  values : List Value

namespace Parameters

def ofSettings (settings : Settings) : Parameters := ⟨settings.stem, settings.limit, []⟩

def size (parameters : Parameters) : Nat := parameters.values.length

def isEmpty (parameters : Parameters) : Bool := parameters.values.isEmpty

def nameFrom (stem : String) (number : Nat) : String := stem ++ toString number

/-- The names of consecutive parameters, from a number on, with their values. -/
def entriesFrom (stem : String) (number : Nat) : List Value → List (String × Value)
  | [] => []
  | value :: rest => (nameFrom stem number, value) :: entriesFrom stem (number + 1) rest

/-- The parameters in the order in which they were bound. -/
def entries (parameters : Parameters) : List (String × Value) :=
  entriesFrom parameters.stem 1 parameters.values

def names (parameters : Parameters) : List String := parameters.entries.map Prod.fst

def get? (parameters : Parameters) (name : String) : Option Value :=
  Dictionary.get? name parameters.entries

/-- Binds a value and returns the name of its parameter. -/
def bind (parameters : Parameters) (value : Value) : Except UsageError (String × Parameters) :=
  if parameters.size < parameters.limit then
    .ok (nameFrom parameters.stem (parameters.size + 1),
      { parameters with values := parameters.values ++ [value] })
  else .error (.tooManyParameters parameters.limit)

/-- The parameters as an object. -/
def toValue (parameters : Parameters) : Value :=
  .object (Dictionary.ofEntries parameters.entries)

end Parameters

end QueryChain.Sql
