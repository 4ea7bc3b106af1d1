import Mathlib.Data.Nat.Dist
import Mathlib.Order.Compare
import QueryChain.Json.Value

namespace QueryChain.Json

/-! Rounding to binary64.

No representable magnitude is nearer to a quotient than the one that `roundUnits` gives.  So
rounding keeps the order of what it rounds, although two numbers may become one, and it keeps
each number that is representable.  Distances are taken between multiples of the denominator.
-/

variable {num den : Nat}

theorem nearestEven_dist (num : Nat) (positive : 0 < den) :
    Nat.dist (nearestEven num den * den) num = min (num % den) (den - num % den) := by
  have split : num / den * den + num % den = num := Nat.div_add_mod' num den
  have below : num % den < den := Nat.mod_lt num positive
  have next : (num / den + 1) * den = num / den * den + den := Nat.succ_mul _ _
  have parity : num / den % 2 = 0 ∨ num / den % 2 = 1 := Nat.mod_two_eq_zero_or_one _
  simp only [nearestEven, Nat.dist]
  split
  · omega
  · split
    · rw [next]; omega
    · rcases parity with even | odd
      · rw [even, Nat.add_zero]; omega
      · rw [odd, next]; omega

/-- No whole number is nearer to a quotient. -/
theorem nearestEven_nearest (num whole : Nat) (positive : 0 < den) :
    Nat.dist (nearestEven num den * den) num ≤ Nat.dist (whole * den) num := by
  rw [nearestEven_dist num positive]
  have split : num / den * den + num % den = num := Nat.div_add_mod' num den
  have next : (num / den + 1) * den = num / den * den + den := Nat.succ_mul _ _
  simp only [Nat.dist]
  rcases Nat.lt_or_ge (num / den) whole with above | below
  · have far : (num / den + 1) * den ≤ whole * den := Nat.mul_le_mul_right den above
    omega
  · have far : whole * den ≤ num / den * den := Nat.mul_le_mul_right den below
    omega

theorem roundUnits_mul (num den : Nat) :
    roundUnits num den * den =
      nearestEven num (den * pow2 (spacing (num / den))) * (den * pow2 (spacing (num / den))) := by
  rw [roundUnits, Nat.mul_assoc, Nat.mul_comm den]

/-- No representable magnitude is nearer to a quotient. -/
theorem roundUnits_nearest {units : Nat} (num : Nat) (positive : 0 < den)
    (representable : Representable units) :
    Nat.dist (roundUnits num den * den) num ≤ Nat.dist (units * den) num := by
  rw [roundUnits_mul]
  generalize chosen : spacing (num / den) = exponent
  have nearest (whole : Nat) :=
    nearestEven_nearest num whole (Nat.mul_pos positive (pow2_pos exponent))
  by_cases multiple : pow2 exponent ∣ units
  · obtain ⟨whole, rfl⟩ := multiple
    rw [Nat.mul_comm (pow2 exponent) whole, Nat.mul_assoc, Nat.mul_comm (pow2 exponent) den]
    exact nearest whole
  · -- a magnitude off the grid lies below the binade of the quotient, and that begins on the grid
    have finer : spacing units < exponent := by
      by_contra coarser
      exact multiple (Nat.dvd_trans (pow2_dvd (Nat.le_of_not_lt coarser)) representable)
    unfold spacing at chosen finer
    have below : units < pow2 (52 + exponent) := lt_pow2 (by omega)
    have reached : pow2 (52 + exponent) ≤ num / den := by
      have log : 52 + exponent = (num / den).log2 := by omega
      have positive : num / den ≠ 0 := by
        intro zero
        simp [zero] at log
      rw [log]
      exact Nat.log2_self_le positive
    have start := nearest (pow2 52)
    have begins : pow2 52 * (den * pow2 exponent) = pow2 (52 + exponent) * den := by
      rw [Nat.mul_comm den, ← Nat.mul_assoc, ← pow2_add]
    rw [begins] at start
    have left : units * den ≤ pow2 (52 + exponent) * den := Nat.mul_le_mul_right den below.le
    have right : pow2 (52 + exponent) * den ≤ num :=
      Nat.le_trans (Nat.mul_le_mul_right den reached) (Nat.div_mul_le_self num den)
    simp only [Nat.dist] at start ⊢
    omega

theorem roundUnits_of_representable {units : Nat} (positive : 0 < den)
    (representable : Representable units) : roundUnits (units * den) den = units := by
  have nearest := roundUnits_nearest (units * den) positive representable
  rw [Nat.dist_self, Nat.le_zero] at nearest
  exact Nat.eq_of_mul_eq_mul_right positive (Nat.eq_of_dist_eq_zero nearest)

theorem roundUnits_mono {other : Nat} (positive : 0 < den) (le : num ≤ other) :
    roundUnits num den ≤ roundUnits other den := by
  by_contra crossed
  have lt : roundUnits other den * den < roundUnits num den * den :=
    Nat.mul_lt_mul_of_pos_right (Nat.lt_of_not_le crossed) positive
  have first := roundUnits_nearest num positive (roundUnits_representable other den)
  have second := roundUnits_nearest other positive (roundUnits_representable num den)
  -- each would be no farther from the other's rounding, so both lie halfway between the two
  have same : num = other := by
    simp only [Nat.dist] at first second
    omega
  subst same
  exact crossed (Nat.le_refl _)

/-- The error is half the distance of neighbouring magnitudes at most. -/
theorem roundUnits_error (num : Nat) (positive : 0 < den) :
    2 * Nat.dist (roundUnits num den * den) num ≤ den * pow2 (spacing (num / den)) := by
  rw [roundUnits_mul, nearestEven_dist num (Nat.mul_pos positive (pow2_pos _))]
  omega

namespace Binary64

variable {value left right : Int}

/-- Whole numbers that rounding does not take for one another. -/
def TellsApart (left right : Int) : Prop := left = right ∨ ofInt left ≠ ofInt right

instance (left right : Int) : Decidable (TellsApart left right) :=
  inferInstanceAs (Decidable (_ ∨ _))

/-- The units that make up one. -/
def unitsOfOne : Nat := pow2 1074

theorem unitsOfOne_pos : 0 < unitsOfOne := pow2_pos 1074

theorem units_ofInt (value : Int) :
    (ofInt value).units = roundUnits (value.natAbs * unitsOfOne) 1 := rfl

theorem negative_ofInt (value : Int) : (ofInt value).negative = decide (value < 0) := rfl

theorem signedUnits_ofInt_of_neg (negative : value < 0) :
    (ofInt value).signedUnits = -((ofInt value).units : Int) := by
  simp [signedUnits, negative_ofInt, negative]

theorem signedUnits_ofInt_of_nonneg (nonneg : 0 ≤ value) :
    (ofInt value).signedUnits = (ofInt value).units := by
  simp [signedUnits, negative_ofInt, nonneg]

theorem mul_of_neg (negative : value < 0) (units : Nat) :
    value * units = -((value.natAbs * units : Nat) : Int) := by
  rw [Int.natCast_mul, Int.ofNat_natAbs_of_nonpos negative.le, Int.neg_mul, Int.neg_neg]

theorem mul_of_nonneg (nonneg : 0 ≤ value) (units : Nat) :
    value * units = ((value.natAbs * units : Nat) : Int) := by
  rw [Int.natCast_mul, Int.natAbs_of_nonneg nonneg]

theorem units_ofInt_mono (le : left.natAbs ≤ right.natAbs) :
    (ofInt left).units ≤ (ofInt right).units := by
  rw [units_ofInt, units_ofInt]
  exact roundUnits_mono Nat.one_pos (Nat.mul_le_mul_right _ le)

theorem units_ofInt_of_small (small : value.natAbs ≤ pow2 53) :
    (ofInt value).units = value.natAbs * unitsOfOne := by
  have representable : Representable (value.natAbs * unitsOfOne) := by
    rcases Nat.lt_or_eq_of_le small with below | full
    · exact representable_of_significand below
    · have carried : pow2 53 * unitsOfOne = pow2 52 * pow2 1075 := by
        rw [unitsOfOne, ← pow2_add, ← pow2_add]
      rw [full, carried]
      exact representable_of_significand (by decide)
  have exact := roundUnits_of_representable Nat.one_pos representable
  rwa [Nat.mul_one] at exact

/-- Whole numbers up to `2 ^ 53` are kept. -/
theorem signedUnits_ofInt_of_small (small : value.natAbs ≤ pow2 53) :
    (ofInt value).signedUnits = value * unitsOfOne := by
  rcases lt_or_ge value 0 with negative | nonneg
  · rw [signedUnits_ofInt_of_neg negative, mul_of_neg negative, units_ofInt_of_small small]
  · rw [signedUnits_ofInt_of_nonneg nonneg, mul_of_nonneg nonneg, units_ofInt_of_small small]

theorem units_ofInt_pos (nonzero : value ≠ 0) : 0 < (ofInt value).units := by
  have one : (ofInt 1).units ≤ (ofInt value).units := units_ofInt_mono (by omega)
  rw [units_ofInt_of_small (by decide), Int.natAbs_one, Nat.one_mul] at one
  exact Nat.lt_of_lt_of_le unitsOfOne_pos one

/-- Rounding keeps the order of whole numbers. -/
theorem signedUnits_ofInt_mono (le : left ≤ right) :
    (ofInt left).signedUnits ≤ (ofInt right).signedUnits := by
  rcases lt_or_ge right 0 with negative | nonneg
  · rw [signedUnits_ofInt_of_neg (Int.lt_of_le_of_lt le negative),
      signedUnits_ofInt_of_neg negative]
    have units : (ofInt right).units ≤ (ofInt left).units := units_ofInt_mono (by omega)
    omega
  · rw [signedUnits_ofInt_of_nonneg nonneg]
    rcases lt_or_ge left 0 with negative | nonneg
    · rw [signedUnits_ofInt_of_neg negative]
      omega
    · rw [signedUnits_ofInt_of_nonneg nonneg]
      have units : (ofInt left).units ≤ (ofInt right).units := units_ofInt_mono (by omega)
      omega

theorem signedUnits_ofInt_neg_iff : (ofInt value).signedUnits < 0 ↔ value < 0 := by
  rcases lt_or_ge value 0 with negative | nonneg
  · rw [signedUnits_ofInt_of_neg negative]
    have units : 0 < (ofInt value).units := units_ofInt_pos negative.ne
    omega
  · rw [signedUnits_ofInt_of_nonneg nonneg]
    omega

theorem natAbs_signedUnits (x : Binary64) : x.signedUnits.natAbs = x.units := by
  unfold signedUnits
  split <;> omega

theorem eq_of_parts {x y : Binary64} (negative : x.negative = y.negative)
    (units : x.units = y.units) :
    x = y := by
  cases x
  cases y
  cases negative
  cases units
  rfl

/-- No whole number is rounded to the negative zero. -/
theorem ofInt_eq_iff :
    ofInt left = ofInt right ↔ (ofInt left).signedUnits = (ofInt right).signedUnits := by
  refine ⟨fun same => by rw [same], ?_⟩
  intro same
  refine eq_of_parts ?_ ?_
  · have signs := @signedUnits_ofInt_neg_iff left
    rw [same, signedUnits_ofInt_neg_iff] at signs
    rw [negative_ofInt, negative_ofInt, decide_eq_decide]
    exact signs.symm
  · rw [← natAbs_signedUnits, ← natAbs_signedUnits, same]

/-- Doubles are in the order of the numbers that they are nearest to, unless they are one. -/
theorem order_ofInt (left right : Int) :
    (ofInt left).order (ofInt right) = if ofInt left = ofInt right then .eq
      else compare left right := by
  unfold order
  split
  · rename_i same
    rw [same, compare_eq_iff_eq]
  · rename_i differ
    rw [ofInt_eq_iff] at differ
    rcases lt_trichotomy left right with less | rfl | greater
    · rw [compare_lt_iff_lt.mpr less, compare_lt_iff_lt]
      exact lt_of_le_of_ne (signedUnits_ofInt_mono less.le) differ
    · exact absurd rfl differ
    · rw [compare_gt_iff_gt.mpr greater, compare_gt_iff_gt]
      exact lt_of_le_of_ne (signedUnits_ofInt_mono greater.le) (Ne.symm differ)

theorem tellsApart_of_small (smallLeft : left.natAbs ≤ pow2 53)
    (smallRight : right.natAbs ≤ pow2 53) :
    TellsApart left right := by
  by_cases same : left = right
  · exact .inl same
  · right
    rw [Ne, ofInt_eq_iff, signedUnits_ofInt_of_small smallLeft,
      signedUnits_ofInt_of_small smallRight]
    exact fun units =>
      same (Int.eq_of_mul_eq_mul_right (by exact_mod_cast unitsOfOne_pos.ne') units)

/-- Below `2 ^ 64` doubles are at most `2 ^ 11` apart. -/
theorem units_ofInt_error (word : value.natAbs < pow2 64) :
    Nat.dist (ofInt value).units (value.natAbs * unitsOfOne) ≤ pow2 10 * unitsOfOne := by
  have error := roundUnits_error (value.natAbs * unitsOfOne) Nat.one_pos
  rw [Nat.mul_one, Nat.one_mul, Nat.div_one, ← units_ofInt] at error
  have magnitude (exponent : Nat) : value.natAbs * pow2 exponent < pow2 (64 + exponent) := by
    rw [pow2_add]
    exact Nat.mul_lt_mul_of_pos_right word (pow2_pos exponent)
  have fine : pow2 (spacing (value.natAbs * unitsOfOne)) ≤ 2 * (pow2 10 * unitsOfOne) := by
    have double (exponent : Nat) : 2 * (pow2 10 * pow2 exponent) = pow2 (11 + exponent) := by
      rw [pow2_add, ← Nat.mul_assoc]
      rfl
    have narrow : spacing (value.natAbs * unitsOfOne) ≤ 11 + 1074 := by
      unfold spacing
      rcases Nat.eq_zero_or_pos (value.natAbs * unitsOfOne) with zero | positive
      · rw [zero]
        decide
      · have log := log2_lt_of_lt_pow2 positive.ne' (magnitude 1074)
        omega
    rw [unitsOfOne, double]
    exact Nat.le_of_dvd (pow2_pos _) (pow2_dvd narrow)
  omega

theorem signedUnits_ofInt_error (word : value.natAbs < pow2 64) :
    (value - pow2 10) * unitsOfOne ≤ (ofInt value).signedUnits ∧
      (ofInt value).signedUnits ≤ (value + pow2 10) * unitsOfOne := by
  have error := units_ofInt_error word
  rw [Int.sub_mul, Int.add_mul, ← Int.natCast_mul]
  simp only [Nat.dist] at error
  rcases lt_or_ge value 0 with negative | nonneg
  · rw [signedUnits_ofInt_of_neg negative, mul_of_neg negative]
    omega
  · rw [signedUnits_ofInt_of_nonneg nonneg, mul_of_nonneg nonneg]
    omega

/-- Words that become one double are at most `2 ^ 11` apart. -/
theorem tellsApart_of_far (wordLeft : left.natAbs < pow2 64) (wordRight : right.natAbs < pow2 64)
    (far : pow2 11 < (left - right).natAbs) : TellsApart left right := by
  right
  rw [Ne, ofInt_eq_iff]
  intro same
  have one : (0 : Int) < unitsOfOne := by exact_mod_cast unitsOfOne_pos
  have errorLeft := signedUnits_ofInt_error wordLeft
  have errorRight := signedUnits_ofInt_error wordRight
  have below : left - pow2 10 ≤ right + pow2 10 :=
    Int.le_of_mul_le_mul_right (errorLeft.1.trans (same.trans_le errorRight.2)) one
  have above : right - pow2 10 ≤ left + pow2 10 :=
    Int.le_of_mul_le_mul_right (errorRight.1.trans (same.symm.trans_le errorLeft.2)) one
  have double : pow2 11 = 2 * pow2 10 := rfl
  omega

end Binary64

end QueryChain.Json
