import QueryChain.Expr
import QueryChain.Json.Printer
import QueryChain.Text.Structure

namespace QueryChain

open Json

/-! Descriptions of expressions: the structure of an expression as text, for
messages about expressions that cannot be used where they stand.
-/

mutual

def valueDescription : Value → String
  | .null => "Null"
  | .bool value => Text.tuple "Bool" [if value then "true" else "false"]
  | .number value => Text.tuple "Number" [value.text]
  | .string value => Text.tuple "String" [Text.quoted value]
  | .array items => "Array " ++ Text.list (itemDescriptions items)
  | .object members =>
    "Object \x7b" ++ ", ".intercalate (memberDescriptions members) ++ "\x7d"

def itemDescriptions : List Value → List String
  | [] => []
  | item :: rest => valueDescription item :: itemDescriptions rest

def memberDescriptions : List (String × Value) → List String
  | [] => []
  | (name, value) :: rest =>
    Text.fieldText (Text.quoted name, valueDescription value) :: memberDescriptions rest

end

def Entity.description (entity : Entity) : String := Text.tuple "EntityType" [entity.name]

def Param.description (param : Param) : String :=
  Text.record "Param"
    [("name", Text.quoted param.name), ("entity", param.entity.description)]

def Comparison.description : Comparison → String
  | .eq => "Eq"
  | .ne => "Ne"
  | .lt => "Lt"
  | .le => "Le"
  | .gt => "Gt"
  | .ge => "Ge"

def Connective.description : Connective → String
  | .and => "And"
  | .or => "Or"

def StringOp.description : StringOp → String
  | .contains => "Contains"
  | .startsWith => "StartsWith"
  | .endsWith => "EndsWith"

mutual

def Expr.description : Expr → String
  | .parameter param => Text.tuple "Parameter" [param.description]
  | .member target name =>
    Text.record "Member" [("target", target.description), ("member", Text.quoted name)]
  | .hasValue operand => Text.tuple "HasValue" [operand.description]
  | .constant value => Text.tuple "Constant" [valueDescription value]
  | .captured name value =>
    Text.record "Captured" [("name", Text.quoted name), ("value", valueDescription value)]
  | .array items => Text.tuple "Array" [Text.list (exprDescriptions items)]
  | .compare op left right =>
    Text.record "Binary"
      [("op", op.description), ("left", left.description), ("right", right.description)]
  | .connect op left right =>
    Text.record "Binary"
      [("op", op.description), ("left", left.description), ("right", right.description)]
  | .not operand => Text.tuple "Not" [operand.description]
  | .stringMatch op target value =>
    Text.record "StringMatch"
      [("op", op.description), ("target", target.description), ("value", value.description)]
  | .collectionContains collection item =>
    Text.record "CollectionContains"
      [("collection", collection.description), ("item", item.description)]
  | .isNullOrEmpty operand => Text.tuple "IsNullOrEmpty" [operand.description]

def exprDescriptions : List Expr → List String
  | [] => []
  | item :: rest => item.description :: exprDescriptions rest

end

def Lambda.description (lambda : Lambda) : String :=
  Text.record "Lambda"
    [("params", Text.list (lambda.params.map Param.description)),
      ("body", lambda.body.description)]

end QueryChain
