import QueryChain.Expr.Description
import QueryChain.Query

namespace QueryChain

/-! Descriptions of queries.  Each operator is described around the chain it is
applied to, so the operator written last stands outermost.
-/

def Direction.description : Direction → String
  | .ascending => "Asc"
  | .descending => "Desc"

def FirstMode.description : FirstMode → String
  | .first => "First"
  | .firstOrDefault => "FirstOrDefault"
  | .single => "Single"

/-- The description of an operator applied to a chain described by `source`. -/
def Operator.description (source : String) : Operator → String
  | .filter predicate =>
    Text.record "Where" [("source", source), ("predicate", predicate.description)]
  | .select projector =>
    Text.record "Select" [("source", source), ("projector", projector.description)]
  | .join inner outerKey innerKey =>
    Text.record "Join"
      [("outer", source), ("inner", inner.description),
        ("outer_key", outerKey.description), ("inner_key", innerKey.description)]
  | .orderBy key direction =>
    Text.record "OrderBy"
      [("source", source), ("key", key.description), ("direction", direction.description)]
  | .take count => Text.record "Take" [("source", source), ("count", count.description)]
  | .skip count => Text.record "Skip" [("source", source), ("count", count.description)]
  | .distinct => Text.record "Distinct" [("source", source)]
  | .first predicate mode =>
    Text.record "First"
      [("source", source), ("predicate", Text.option (predicate.map Lambda.description)),
        ("mode", mode.description)]

def Query.description (query : Query) : String :=
  query.operators.foldl (fun source operator => operator.description source)
    (Text.tuple "Source" [query.source.description])

end QueryChain
