import QueryChain.Text.Printable

namespace QueryChain.Text

/-! Quoted text: a string between double quotes, on one line, with every
character that would not show written as an escape.
-/

def hexDigits (value : Nat) : List Char := Nat.toDigits 16 value

/-- Hexadecimal digits, padded to four places. -/
def hexFour (value : Nat) : String :=
  let digits := hexDigits value
  String.ofList (List.replicate (4 - digits.length) '0' ++ digits)

/-- The usual short escapes, and `\u` with the code point in braces for the
characters that are not printable. -/
def escaped (c : Char) : String :=
  match c with
  | '"' => "\\\""
  | '\\' => "\\\\"
  | '\n' => "\\n"
  | '\r' => "\\r"
  | '\t' => "\\t"
  | '\x00' => "\\0"
  | _ =>
    if isPrintable c then c.toString
    else "\\u\x7b" ++ String.ofList (hexDigits c.toNat) ++ "\x7d"

def quoted (text : String) : String :=
  "\"" ++ String.join (text.toList.map escaped) ++ "\""

end QueryChain.Text
