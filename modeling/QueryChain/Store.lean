import QueryChain.Row
import QueryChain.Sql.Parameters

namespace QueryChain

open Json

/-! Stores: what runs statements. -/

/-- A store with a state `σ`.  `rows` gives every row of a statement's result,
and `scalar` the first column of its first row. -/
structure Store (σ : Type) where
  rows : String → Sql.Parameters → σ → Except QueryError (List Row) × σ
  scalar : String → Sql.Parameters → σ → Except QueryError (Option Value) × σ

inductive RequestKind where
  | rows | scalar
deriving DecidableEq, Repr

/-- A statement that a store was asked to run. -/
structure Request where
  kind : RequestKind
  sql : String
  parameters : Sql.Parameters

/-- What a store that always answers the same answers with. -/
structure Answers where
  rows : List Row := []
  scalar : Option Value := none
  /-- The message of a store that fails. -/
  failure : Option String := none

/-- A store that always answers the same and keeps the requests made to it. -/
def Store.recording (answers : Answers) : Store (List Request) :=
  let answer {α : Type} (value : α) : Except QueryError α :=
    match answers.failure with
    | some message => .error (.database message)
    | none => .ok value
  { rows := fun sql parameters requests =>
      (answer answers.rows, requests ++ [⟨.rows, sql, parameters⟩])
    scalar := fun sql parameters requests =>
      (answer answers.scalar, requests ++ [⟨.scalar, sql, parameters⟩]) }

end QueryChain
