import QueryChain.Json.Binary64

namespace QueryChain.Json

/-! Decimal text of binary64 numbers.

A number is written with the fewest digits that read back as the same number;
of the candidates with that many digits the nearest one is taken, and of two
equally near the even one.  `Decimal.shortest` finds the digits by exact integer
arithmetic, and a `NumberFormat` says how they are laid out.
-/

/-- The number `digits * 10 ^ exponent`. -/
structure Decimal where
  digits : Nat
  exponent : Int
deriving DecidableEq, Repr

namespace Decimal

/-- The reals that round to a magnitude, as bounds in quarter units.  The ends
belong to the interval exactly when the significand is even. -/
structure Interval where
  lower : Nat
  upper : Nat
  closed : Bool

def Interval.contains (interval : Interval) (scale candidate : Nat) : Bool :=
  if interval.closed then
    interval.lower * scale ≤ candidate && candidate ≤ interval.upper * scale
  else
    interval.lower * scale < candidate && candidate < interval.upper * scale

/-- Half the spacing lies on either side of a magnitude, except that the
spacing below a power of two is half the one above. -/
def interval (units : Nat) : Interval :=
  let exponent := spacing units
  let gap := pow2 exponent
  let boundary := exponent != 0 && units == pow2 52 * gap
  { lower := 4 * units - (if boundary then gap else 2 * gap)
    upper := 4 * units + 2 * gap
    closed := units / gap % 2 == 0 }

/-- The best multiple of `10 ^ exponent` that reads back as `units`, if any. -/
def onGrid (units : Nat) (exponent : Int) : Option Decimal :=
  let scale := pow10 (-exponent).toNat
  let step := pow2 1074 * pow10 exponent.toNat
  let below := units * scale / step
  let fits (candidate : Nat) := (interval units).contains scale (4 * (candidate * step))
  let best :=
    match fits below, fits (below + 1) with
    | true, true => some (nearestEven (units * scale) step)
    | true, false => some below
    | false, true => some (below + 1)
    | false, false => none
  best.map fun digits => ⟨digits, exponent⟩

/-- Searches grids from the coarsest on. -/
def search (units : Nat) (exponent : Int) : Nat → Option Decimal
  | 0 => none
  | grids + 1 => (onGrid units exponent).or (search units (exponent - 1) grids)

/-- An exponent above the leading digit of a magnitude, and above it by two at most. -/
def topExponent (units : Nat) : Int := ((units.log2 : Int) - 1074) * 30103 / 100000 + 1

/-- The fewest digits for a positive magnitude.  Seventeen digits always
suffice, so the search ends within twenty grids. -/
def shortest (units : Nat) : Decimal :=
  (search units (topExponent units) 20).getD ⟨units, 0⟩

end Decimal

/-- The layout of a decimal: the range of exponents of the leading digit that
are written positionally, and the texts that announce an exponent. -/
structure NumberFormat where
  lowest : Int
  highest : Int
  positive : String
  negative : String

def zeros (count : Nat) : String := String.ofList (List.replicate count '0')

/-- The text of a positive decimal.  A point or an exponent is always written. -/
def NumberFormat.text (format : NumberFormat) (value : Decimal) : String :=
  let digits := (toString value.digits).toList
  let leading := value.exponent + digits.length - 1
  if leading < format.lowest || format.highest < leading then
    let fraction := digits.drop 1
    String.ofList (digits.take 1)
      ++ (if fraction.isEmpty then "" else "." ++ String.ofList fraction)
      ++ (if leading < 0 then format.negative else format.positive)
      ++ toString leading.natAbs
  else if 0 ≤ value.exponent then
    String.ofList digits ++ zeros value.exponent.toNat ++ ".0"
  else if 0 ≤ leading then
    let whole := (leading + 1).toNat
    String.ofList (digits.take whole) ++ "." ++ String.ofList (digits.drop whole)
  else
    "0." ++ zeros (-leading - 1).toNat ++ String.ofList digits

/-- Numbers from `0.00001` up to `10 ^ 16` are written positionally; other
exponents carry their sign. -/
def numberFormat : NumberFormat := ⟨-5, 15, "e+", "e-"⟩

def Binary64.text (x : Binary64) : String :=
  (if x.negative then "-" else "")
    ++ (if x.isZero then "0.0" else numberFormat.text (Decimal.shortest x.units))

end QueryChain.Json
