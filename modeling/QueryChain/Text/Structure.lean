import QueryChain.Text.Quoted

namespace QueryChain.Text

/-! The text of structured data: a constructor's name with its parts, in
parentheses where the parts have no names and in braces where they have.
-/

def tuple (name : String) (parts : List String) : String :=
  name ++ "(" ++ ", ".intercalate parts ++ ")"

def fieldText (field : String × String) : String := field.1 ++ ": " ++ field.2

def record (name : String) (fields : List (String × String)) : String :=
  name ++ " \x7b " ++ ", ".intercalate (fields.map fieldText) ++ " \x7d"

def list (items : List String) : String := "[" ++ ", ".intercalate items ++ "]"

def option : Option String → String
  | none => "None"
  | some text => tuple "Some" [text]

end QueryChain.Text
