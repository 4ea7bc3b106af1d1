import QueryChain.Json.Value

namespace QueryChain.Json

/-! Number literals and the numbers they stand for.

A literal without point or exponent that fits a 64-bit word is a whole number.
Every other literal is a binary64 number: as many leading digits as fit an
unsigned word form the significand, the whole digits after them only raise the
exponent, and the fraction digits after them are dropped.  The nearest number to
the significand is then scaled by a power of ten, with one rounding a step.
-/

/-- A literal, part by part.  An absent fraction or exponent differs from a zero one. -/
structure Literal where
  negative : Bool
  whole : List Nat
  fraction : Option (List Nat)
  exponent : Option Int

/-- Appends digits to a significand as long as it fits an unsigned word, and
returns the digits left over. -/
def appendDigits (significand : Nat) : List Nat → Nat × List Nat
  | [] => (significand, [])
  | digit :: rest =>
    let next := significand * 10 + digit
    if next < pow2 64 then appendDigits next rest else (significand, digit :: rest)

def powerOfTen (exponent : Nat) : Binary64 := Binary64.ofInt (pow10 exponent)

/-- Scales a number by a power of ten, in steps of at most `10 ^ 308`; fails
where the result is infinite. -/
def Binary64.scale? (x : Binary64) (exponent : Int) : Option Binary64 :=
  if exponent.natAbs ≤ 308 then
    if 0 ≤ exponent then
      let product := x.mul (powerOfTen exponent.natAbs)
      if product.isFinite then some product else none
    else some (x.div (powerOfTen exponent.natAbs))
  else if x.isZero then some x
  else if 0 ≤ exponent then none
  else (x.div (powerOfTen 308)).scale? (exponent + 308)
termination_by exponent.natAbs

def Binary64.withSign (x : Binary64) (negative : Bool) : Binary64 := { x with negative }

/-- The whole number of a literal without fraction and exponent, if it is in
range.  The literal `-0` is not a whole number. -/
def wordNumber? (negative : Bool) (significand : Nat) : Option Int :=
  if negative then
    if significand = 0 ∨ pow2 63 < significand then none else some (-(significand : Int))
  else some significand

/-- The number a literal stands for; none where it is infinite. -/
def Literal.number? (literal : Literal) : Option Number :=
  let (whole, excess) := appendDigits 0 literal.whole
  let float (significand : Nat) (exponent : Int) : Option Number :=
    ((Binary64.ofInt significand).scale? exponent).map fun x => .float (x.withSign literal.negative)
  match literal.fraction, literal.exponent, excess with
  | none, none, [] =>
    match wordNumber? literal.negative whole with
    | some value => some (.int value)
    | none => float whole 0
  | fraction, exponent, _ =>
    let digits := fraction.getD []
    let (significand, dropped) := appendDigits whole digits
    let places : Int := digits.length - dropped.length
    float significand (excess.length - places + exponent.getD 0)

def digit? (c : Char) : Option Nat :=
  if '0' ≤ c ∧ c ≤ '9' then some (c.toNat - '0'.toNat) else none

/-- The digits at the front of a text, and the rest of it. -/
def takeDigits : List Char → List Nat × List Char
  | [] => ([], [])
  | c :: rest =>
    match digit? c with
    | some digit =>
      let (digits, rest) := takeDigits rest
      (digit :: digits, rest)
    | none => ([], c :: rest)

def digitsValue (digits : List Nat) : Nat := digits.foldl (fun value digit => value * 10 + digit) 0

/-- The sign, the whole digits, the fraction and the exponent, in this order;
several whole digits do not start with a zero. -/
def Literal.read? (input : List Char) : Option (Literal × List Char) := do
  let (negative, input) :=
    match input with
    | '-' :: rest => (true, rest)
    | _ => (false, input)
  let (whole, input) := takeDigits input
  if whole.isEmpty || (whole.head? == some 0 && whole.length != 1) then none
  let (fraction, input) ←
    match input with
    | '.' :: rest =>
      let (digits, rest) := takeDigits rest
      if digits.isEmpty then none else some (some digits, rest)
    | _ => some (none, input)
  let (exponent, input) ←
    match input with
    | 'e' :: rest | 'E' :: rest =>
      let (below, rest) :=
        match rest with
        | '+' :: rest => (false, rest)
        | '-' :: rest => (true, rest)
        | _ => (false, rest)
      let (digits, rest) := takeDigits rest
      let size : Int := digitsValue digits
      if digits.isEmpty then none else some (some (if below then -size else size), rest)
    | _ => some (none, input)
  some (⟨negative, whole, fraction, exponent⟩, input)

end QueryChain.Json
