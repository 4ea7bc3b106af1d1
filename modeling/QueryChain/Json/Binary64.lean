namespace QueryChain.Json

/-! Binary64 numbers in exact arithmetic.

Every finite binary64 number is a whole number of units of `2 ^ (-1074)`, the
smallest positive one, so its magnitude is kept as that number of units.
`spacing` says which magnitudes are representable, and `roundUnits` rounds a
quotient to the nearest of them, a tie going to the even significand.  The
largest finite magnitude is no part of the type: `isFinite` tests it where a
number is read.
-/

def pow2 (exponent : Nat) : Nat := Nat.pow 2 exponent

def pow10 (exponent : Nat) : Nat := Nat.pow 10 exponent

theorem pow2_pos (exponent : Nat) : 0 < pow2 exponent := Nat.pow_pos (by decide)

theorem pow2_add (left right : Nat) : pow2 (left + right) = pow2 left * pow2 right :=
  Nat.pow_add 2 left right

theorem pow2_dvd {small large : Nat} (le : small ≤ large) : pow2 small ∣ pow2 large :=
  Nat.pow_dvd_pow 2 le

theorem lt_pow2 {value exponent : Nat} (log : value.log2 < exponent) : value < pow2 exponent :=
  Nat.lt_of_lt_of_le Nat.lt_log2_self (Nat.pow_le_pow_right (by decide) log)

theorem log2_lt_of_lt_pow2 {value exponent : Nat} (nonzero : value ≠ 0)
    (below : value < pow2 exponent) : value.log2 < exponent :=
  (Nat.log2_lt nonzero).mpr below

/-- Doubles at magnitude `units` are `2 ^ spacing units` units apart. -/
def spacing (units : Nat) : Nat := units.log2 - 52

/-- The magnitudes whose significand has at most 53 bits. -/
def Representable (units : Nat) : Prop := pow2 (spacing units) ∣ units

/-- The whole number nearest to a quotient, a tie going to the even one. -/
def nearestEven (num den : Nat) : Nat :=
  let floor := num / den
  let twice := 2 * (num % den)
  if twice < den then floor
  else if den < twice then floor + 1
  else floor + floor % 2

/-- The representable magnitude nearest to `num / den` units. -/
def roundUnits (num den : Nat) : Nat :=
  let exponent := spacing (num / den)
  nearestEven num (den * pow2 exponent) * pow2 exponent

theorem nearestEven_bounds (num den : Nat) :
    num / den ≤ nearestEven num den ∧ nearestEven num den ≤ num / den + 1 := by
  have parity : num / den % 2 < 2 := Nat.mod_lt _ (by decide)
  unfold nearestEven
  dsimp only
  split
  · omega
  · split <;> omega

theorem representable_of_significand {significand exponent : Nat}
    (small : significand < pow2 53) : Representable (significand * pow2 exponent) := by
  unfold Representable spacing
  by_cases zero : significand * pow2 exponent = 0
  · rw [zero]; exact Nat.dvd_zero _
  · have below : significand * pow2 exponent < pow2 (53 + exponent) := by
      rw [pow2_add]
      exact Nat.mul_lt_mul_of_pos_right small (pow2_pos _)
    have logSmall := log2_lt_of_lt_pow2 zero below
    exact Nat.dvd_trans (pow2_dvd (by omega)) (Nat.dvd_mul_left _ _)

theorem roundUnits_representable (num den : Nat) : Representable (roundUnits num den) := by
  unfold roundUnits
  dsimp only
  generalize chosen : spacing (num / den) = exponent
  have quotient : num / (den * pow2 exponent) < pow2 53 := by
    rw [← Nat.div_div_eq_div_mul]
    apply (Nat.div_lt_iff_lt_mul (pow2_pos _)).mpr
    rw [← pow2_add]
    apply lt_pow2
    unfold spacing at chosen
    omega
  have bound := (nearestEven_bounds num (den * pow2 exponent)).2
  by_cases small : nearestEven num (den * pow2 exponent) < pow2 53
  · exact representable_of_significand small
  · have full : nearestEven num (den * pow2 exponent) = pow2 53 := by omega
    have carried : pow2 53 * pow2 exponent = pow2 52 * pow2 (exponent + 1) := by
      rw [← pow2_add, ← pow2_add]
      congr 1
      omega
    rw [full, carried]
    exact representable_of_significand (by decide)

/-- A binary64 number: a sign and a representable magnitude in units of
`2 ^ (-1074)`.  Zero has two signs. -/
structure Binary64 where
  negative : Bool
  units : Nat
  representable : Representable units
deriving DecidableEq

namespace Binary64

/-- The number nearest to `num / den` units, with the given sign. -/
def round (negative : Bool) (num den : Nat) : Binary64 :=
  ⟨negative, roundUnits num den, roundUnits_representable num den⟩

/-- The number nearest to a whole number. -/
def ofInt (value : Int) : Binary64 := round (value < 0) (value.natAbs * pow2 1074) 1


def mul (x y : Binary64) : Binary64 :=
  round (x.negative != y.negative) (x.units * y.units) (pow2 1074)

def div (x y : Binary64) : Binary64 :=
  round (x.negative != y.negative) (x.units * pow2 1074) y.units

def isZero (x : Binary64) : Bool := x.units == 0

/-- Magnitudes from `2 ^ 1024` on are infinite. -/
def isFinite (x : Binary64) : Bool := x.units < pow2 2098

/-- The value as a signed number of units; both zeros have the value `0`. -/
def signedUnits (x : Binary64) : Int := if x.negative then -(x.units : Int) else x.units

/-- Numbers are ordered by value, so the two zeros are equal. -/
def order (x y : Binary64) : Ordering := compare x.signedUnits y.signedUnits

end Binary64

end QueryChain.Json
