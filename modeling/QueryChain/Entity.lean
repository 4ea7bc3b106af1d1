namespace QueryChain

/-! Entities: the row types that queries range over, identified by name. -/

structure Entity where
  name : String
deriving DecidableEq, Repr

end QueryChain
