import QueryChain.Error

namespace QueryChain

/-! The outline of a statement: what it selects and which rows of the result it keeps.

A statement filters, orders and removes duplicates before it limits, so no
other operator may follow a limit.  A call that may fail returns the outline after
it beside its outcome.
-/

/-- What the rows of the result hold: all columns of an entity, or one property. -/
inductive Projection where
  | entity (entity : Entity)
  | property (entity : Entity) (property : String)
deriving DecidableEq, Repr

/-- The rows that are kept: all, the first ones, or those after an offset. -/
inductive Window where
  | all
  | top (count : Nat)
  | page (offset : Nat) (fetch : Option Nat)
deriving DecidableEq, Repr

structure Outline where
  root : Entity
  selected : Option Projection := none
  distinct : Bool := false
  taken : Option Nat := none
  skipped : Option Nat := none
deriving DecidableEq, Repr

namespace Outline

def ofRoot (root : Entity) : Outline := { root }

/-- Records a limit; the last one counts.  A page of no rows cannot be written. -/
def take (outline : Outline) (count : Nat) : Except UsageError Unit × Outline :=
  match count, outline.skipped with
  | 0, some skipped => (.error (.emptyPage skipped), outline)
  | _, _ => (.ok (), { outline with taken := some count })

/-- Records an offset, which cannot follow a limit; the last one counts. -/
def skip (outline : Outline) (count : Nat) : Except UsageError Unit × Outline :=
  match outline.taken with
  | some taken => (.error (.skipAfterTake count taken), outline)
  | none => (.ok (), { outline with skipped := some count })

def isLimited (outline : Outline) : Bool := outline.taken.isSome || outline.skipped.isSome

/-- Refuses an operator that would have to apply after a limit. -/
def requireUnlimited (outline : Outline) (operator : String) : Except UsageError Unit :=
  if outline.isLimited then .error (.afterLimit operator) else .ok ()

def requireDistinct (outline : Outline) : Outline := { outline with distinct := true }

/-- Records a projection; the first one counts, since chains are walked from
their last operator on. -/
def select (outline : Outline) (projection : Projection) : Outline :=
  { outline with selected := outline.selected.or (some projection) }

/-- The recorded projection, or else the root entity. -/
def projection (outline : Outline) : Projection :=
  outline.selected.getD (.entity outline.root)

/-- An offset makes a page of what would be the first rows. -/
def window (outline : Outline) : Window :=
  match outline.skipped, outline.taken with
  | some offset, fetch => .page offset fetch
  | none, some count => .top count
  | none, none => .all

/-- The calls that fill an outline. -/
inductive Step where
  | take (count : Nat)
  | skip (count : Nat)
  | requireUnlimited (operator : String)
  | requireDistinct
  | select (projection : Projection)
deriving DecidableEq, Repr

/-- Makes a call. -/
def step (outline : Outline) : Step → Except UsageError Unit × Outline
  | .take count => outline.take count
  | .skip count => outline.skip count
  | .requireUnlimited operator => (outline.requireUnlimited operator, outline)
  | .requireDistinct => (.ok (), outline.requireDistinct)
  | .select projection => (.ok (), outline.select projection)

end Outline

end QueryChain
