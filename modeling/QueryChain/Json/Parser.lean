import QueryChain.Json.Literal

namespace QueryChain.Json

/-! Reading JSON text.

Every step consumes a part of its input: it returns what it read with the rest,
which is shorter.  The members of an object keep their order, and a name that
occurs twice keeps its first place and its last value.
-/

/-- A value read from the front of `input`, with the shorter rest. -/
structure Parsed (α : Type) (input : List Char) where
  value : α
  rest : List Char
  shorter : rest.length < input.length

namespace Parsed

variable {α β : Type} {inner input : List Char}

def map (f : α → β) (parsed : Parsed α input) : Parsed β input :=
  { value := f parsed.value, rest := parsed.rest, shorter := parsed.shorter }

/-- A part read from a suffix of a text is read from the text. -/
def within (parsed : Parsed α inner) (suffix : inner.length ≤ input.length) : Parsed α input :=
  { value := parsed.value, rest := parsed.rest
    shorter := Nat.lt_of_lt_of_le parsed.shorter suffix }

end Parsed

def isBlank (c : Char) : Bool := c == ' ' || c == '\n' || c == '\r' || c == '\t'

def skipBlanks (input : List Char) : List Char := input.dropWhile isBlank

theorem skipBlanks_length (input : List Char) : (skipBlanks input).length ≤ input.length :=
  (List.dropWhile_sublist isBlank).length_le

def hexDigit? (c : Char) : Option Nat :=
  if '0' ≤ c ∧ c ≤ '9' then some (c.toNat - '0'.toNat)
  else if 'a' ≤ c ∧ c ≤ 'f' then some (c.toNat - 'a'.toNat + 10)
  else if 'A' ≤ c ∧ c ≤ 'F' then some (c.toNat - 'A'.toNat + 10)
  else none

def hexUnit? (digits : List Char) : Option Nat :=
  digits.foldlM (fun value c => (hexDigit? c).map (value * 16 + ·)) 0

/-- The characters of the short escapes. -/
def shortEscape? : Char → Option Char
  | '"' => some '"'
  | '\\' => some '\\'
  | '/' => some '/'
  | 'b' => some '\x08'
  | 'f' => some '\x0c'
  | 'n' => some '\n'
  | 'r' => some '\r'
  | 't' => some '\t'
  | _ => none

/-- The first half of a surrogate pair is completed by a second one. -/
def surrogatePair? (high low : Nat) : Option Char :=
  if 0xd800 ≤ high ∧ high < 0xdc00 ∧ 0xdc00 ≤ low ∧ low < 0xe000 then
    some (Char.ofNat (0x10000 + (high - 0xd800) * 0x400 + (low - 0xdc00)))
  else none

/-- The characters up to the closing quote. -/
def parseString (input : List Char) : Option (Parsed (List Char) input) :=
  match input with
  | [] => none
  | '"' :: rest => some ⟨[], rest, Nat.lt_add_one _⟩
  | '\\' :: 'u' :: a :: b :: c :: d :: rest =>
    match hexUnit? [a, b, c, d] with
    | none => none
    | some unit =>
      if unit < 0xd800 ∨ 0xe000 ≤ unit then
        (parseString rest).map fun tail =>
          (tail.map (Char.ofNat unit :: ·)).within (Nat.le_add_right _ 6)
      else
        match rest with
        | '\\' :: 'u' :: e :: f :: g :: h :: rest =>
          match (hexUnit? [e, f, g, h]).bind (surrogatePair? unit) with
          | none => none
          | some char =>
            (parseString rest).map fun tail =>
              (tail.map (char :: ·)).within (Nat.le_add_right _ 12)
        | _ => none
  | '\\' :: c :: rest =>
    match shortEscape? c with
    | none => none
    | some char =>
      (parseString rest).map fun tail => (tail.map (char :: ·)).within (Nat.le_add_right _ 2)
  | c :: rest =>
    if c.toNat < 0x20 || c == '\\' then none
    else (parseString rest).map fun tail => (tail.map (c :: ·)).within (Nat.le_add_right _ 1)
termination_by input.length

/-- A word such as `null` at the front of a text. -/
def parseWord (word : List Char) (input : List Char) : Option (List Char) :=
  if word.isPrefixOf input then some (input.drop word.length) else none

/-- A value without parts. -/
def parseScalar (input : List Char) : Option (Value × List Char) :=
  match parseWord "null".toList input with
  | some rest => some (.null, rest)
  | none =>
    match parseWord "true".toList input with
    | some rest => some (.bool true, rest)
    | none =>
      match parseWord "false".toList input with
      | some rest => some (.bool false, rest)
      | none =>
        match Literal.read? input with
        | some (literal, rest) => literal.number?.map fun number => (.number number, rest)
        | none => none

mutual

def parseValue (input : List Char) : Option (Parsed Value input) :=
  match found : skipBlanks input with
  | '"' :: rest =>
    (parseString rest).map fun text =>
      (text.map fun chars => Value.string (String.ofList chars)).within (by
        have := skipBlanks_length input
        simp only [found, List.length_cons] at this
        omega)
  | '[' :: rest =>
    have suffix : rest.length < input.length := by
      have := skipBlanks_length input
      simp only [found, List.length_cons] at this
      omega
    match opened : skipBlanks rest with
    | ']' :: after => some ⟨.array [], after, by
        have := skipBlanks_length rest
        simp only [opened, List.length_cons] at this
        omega⟩
    | _ => (parseItems rest).map fun items => (items.map Value.array).within (by omega)
  | '{' :: rest =>
    have suffix : rest.length < input.length := by
      have := skipBlanks_length input
      simp only [found, List.length_cons] at this
      omega
    match opened : skipBlanks rest with
    | '}' :: after => some ⟨.object [], after, by
        have := skipBlanks_length rest
        simp only [opened, List.length_cons] at this
        omega⟩
    | _ =>
      (parseMembers rest).map fun members =>
        (members.map fun entries => Value.object (Dictionary.ofEntries entries)).within (by omega)
  | _ =>
    match parseScalar (skipBlanks input) with
    | none => none
    | some (value, rest) =>
      if shorter : rest.length < input.length then some ⟨value, rest, shorter⟩ else none
termination_by 2 * input.length

/-- Items up to the closing bracket, at least one. -/
def parseItems (input : List Char) : Option (Parsed (List Value) input) :=
  match parseValue input with
  | none => none
  | some first =>
    have shorter := first.shorter
    match found : skipBlanks first.rest with
    | ',' :: rest =>
      have suffix : rest.length < first.rest.length := by
        have := skipBlanks_length first.rest
        simp only [found, List.length_cons] at this
        omega
      (parseItems rest).map fun items => (items.map (first.value :: ·)).within (by omega)
    | ']' :: rest => some ⟨[first.value], rest, by
        have := skipBlanks_length first.rest
        simp only [found, List.length_cons] at this
        omega⟩
    | _ => none
termination_by 2 * input.length + 1

/-- Members up to the closing brace, at least one. -/
def parseMembers (input : List Char) : Option (Parsed (List (String × Value)) input) :=
  match opened : skipBlanks input with
  | '"' :: rest =>
    have start : rest.length < input.length := by
      have := skipBlanks_length input
      simp only [opened, List.length_cons] at this
      omega
    match parseString rest with
    | none => none
    | some name =>
      have named := name.shorter
      match found : skipBlanks name.rest with
      | ':' :: rest =>
        have suffix : rest.length < name.rest.length := by
          have := skipBlanks_length name.rest
          simp only [found, List.length_cons] at this
          omega
        match parseValue rest with
        | none => none
        | some first =>
          have shorter := first.shorter
          let entry := (String.ofList name.value, first.value)
          match closed : skipBlanks first.rest with
          | ',' :: rest =>
            have suffix : rest.length < first.rest.length := by
              have := skipBlanks_length first.rest
              simp only [closed, List.length_cons] at this
              omega
            (parseMembers rest).map fun entries => (entries.map (entry :: ·)).within (by omega)
          | '}' :: rest => some ⟨[entry], rest, by
              have := skipBlanks_length first.rest
              simp only [closed, List.length_cons] at this
              omega⟩
          | _ => none
      | _ => none
  | _ => none
termination_by 2 * input.length + 1

end

/-- The value a text holds, with nothing but blanks around it. -/
def parse? (text : String) : Option Value :=
  match parseValue text.toList with
  | some parsed => if (skipBlanks parsed.rest).isEmpty then some parsed.value else none
  | none => none

end QueryChain.Json
