import QueryChain.Json.Decimal
import QueryChain.Json.Value
import QueryChain.Text.Quoted

namespace QueryChain.Json

/-! JSON text of values, with no space between its parts. -/

/-- Only the two characters that end or escape a string, and the controls, are
written as escapes. -/
def escaped (c : Char) : String :=
  match c with
  | '"' => "\\\""
  | '\\' => "\\\\"
  | '\n' => "\\n"
  | '\r' => "\\r"
  | '\t' => "\\t"
  | '\x08' => "\\b"
  | '\x0c' => "\\f"
  | _ => if c.toNat < 0x20 then "\\u" ++ Text.hexFour c.toNat else c.toString

def stringText (text : String) : String :=
  "\"" ++ String.join (text.toList.map escaped) ++ "\""

def Number.text : Number → String
  | .int value => toString value
  | .float value => value.text

mutual

def Value.text : Value → String
  | .null => "null"
  | .bool value => if value then "true" else "false"
  | .number value => value.text
  | .string value => stringText value
  | .array items => "[" ++ ",".intercalate (itemTexts items) ++ "]"
  | .object members => "\x7b" ++ ",".intercalate (memberTexts members) ++ "\x7d"

def itemTexts : List Value → List String
  | [] => []
  | item :: rest => item.text :: itemTexts rest

def memberTexts : List (String × Value) → List String
  | [] => []
  | (name, value) :: rest => (stringText name ++ ":" ++ value.text) :: memberTexts rest

end

end QueryChain.Json
