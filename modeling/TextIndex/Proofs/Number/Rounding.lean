import Mathlib
import TextIndex.Number.Shortest

/-!
# Rounding to the nearest double

The numbers between two doubles go to the nearer one, and those halfway to the one with an even last
bit. What is worked out on whole numbers is read here as a statement on rational numbers: a quotient
is rounded to the double that attracts it, and a decimal is told to read back as a double exactly if
the double attracts it.

* `Binary64.value`, `Binary64.size`: the number that a quotient stands for, and that a double does.
* `Binary64.Attracts`: the numbers that go to a double.
* `Binary64.readsBack_iff`, `Binary64.ofRatio_of_attracts`: reading back and rounding.
* `Binary64.exists_size_eq`: doubles of a given size.
-/

namespace TextIndex.Binary64

/-! ### Quotients -/

/-- The number that a quotient of whole numbers stands for. -/
def value (quotient : Nat × Nat) : ℚ :=
  quotient.1 / quotient.2

theorem value_scaled {base : Nat} (positive : base ≠ 0) (top bottom : Nat) (exponent : Int) :
    value (top * base ^ exponent.toNat, bottom * base ^ (-exponent).toNat) =
      value (top, bottom) * (base : ℚ) ^ exponent := by
  have nonzero : (base : ℚ) ≠ 0 := Nat.cast_ne_zero.mpr positive
  unfold value
  rcases Int.eq_nat_or_neg exponent with ⟨count, rfl | rfl⟩
  · simp [mul_div_right_comm]
  · simp [div_mul_eq_div_div]
    ring

theorem value_scaleBinary (quotient : Nat × Nat) (exponent : Int) :
    value (scaleBinary quotient exponent) = value quotient * 2 ^ exponent := by
  unfold scaleBinary
  rw [Nat.shiftLeft_eq, Nat.shiftLeft_eq, value_scaled two_ne_zero]
  rfl

theorem scaleBinary_snd_pos {quotient : Nat × Nat} (positive : 0 < quotient.2) (exponent : Int) :
    0 < (scaleBinary quotient exponent).2 := by
  show 0 < quotient.2 <<< (-exponent).toNat
  rw [Nat.shiftLeft_eq]
  exact Nat.mul_pos positive (Nat.two_pow_pos _)

theorem value_scaleDecimal (quotient : Nat × Nat) (exponent : Int) :
    value (scaleDecimal quotient exponent) = value quotient * 10 ^ exponent :=
  value_scaled (by decide) quotient.1 quotient.2 exponent

section Compare

variable {first second : Nat × Nat} (firstPositive : 0 < first.2) (secondPositive : 0 < second.2)

include firstPositive secondPositive

theorem compareRatios_eq : compareRatios first second = compare (value first) (value second) := by
  have one : (0 : ℚ) < first.2 := Nat.cast_pos.mpr firstPositive
  have two : (0 : ℚ) < second.2 := Nat.cast_pos.mpr secondPositive
  unfold compareRatios value
  rcases lt_trichotomy (first.1 * second.2) (second.1 * first.2) with less | same | more
  · rw [compare_lt_iff_lt.mpr less, compare_lt_iff_lt.mpr]
    rw [div_lt_div_iff₀ one two]
    exact_mod_cast less
  · rw [compare_eq_iff_eq.mpr same, compare_eq_iff_eq.mpr]
    rw [div_eq_div_iff one.ne' two.ne']
    exact_mod_cast same
  · rw [compare_gt_iff_gt.mpr more, compare_gt_iff_gt.mpr]
    rw [div_lt_div_iff₀ two one]
    exact_mod_cast more

end Compare

/-! ### Whole numbers and powers of two -/

theorem value_eq_add {top bottom : Nat} (positive : 0 < bottom) :
    value (top, bottom) = (top / bottom : Nat) + ((top % bottom : Nat) : ℚ) / bottom := by
  have isPositive : (0 : ℚ) < bottom := Nat.cast_pos.mpr positive
  have division : ((bottom * (top / bottom) + top % bottom : Nat) : ℚ) = top := by
    rw [Nat.div_add_mod]
  unfold value
  rw [← division, Nat.cast_add, Nat.cast_mul, add_div, mul_div_cancel_left₀ _ isPositive.ne']

theorem compare_double_eq {rest bottom : Nat} (positive : 0 < bottom) :
    compare (2 * rest) bottom = compare ((rest : ℚ) / bottom) (1 / 2) := by
  have halves := @compareRatios_eq (rest, bottom) (1, 2) positive two_pos
  unfold compareRatios value at halves
  rw [one_mul, mul_comm] at halves
  exact_mod_cast halves

/-- A whole number is the nearest one if it is at most half away, and even if it is half away. -/
theorem nearest_eq {quotient : Nat × Nat} {whole : Nat} (positive : 0 < quotient.2)
    (above : (whole : ℚ) - 1 / 2 ≤ value quotient) (below : value quotient ≤ whole + 1 / 2)
    (ties : value quotient = whole - 1 / 2 ∨ value quotient = whole + 1 / 2 → whole % 2 = 0) :
    nearest quotient.1 quotient.2 = whole := by
  obtain ⟨top, bottom⟩ := quotient
  have proper : ((top % bottom : Nat) : ℚ) / bottom < 1 :=
    (div_lt_one (Nat.cast_pos.mpr positive)).mpr (Nat.cast_lt.mpr (Nat.mod_lt top positive))
  have natural : (0 : ℚ) ≤ ((top % bottom : Nat) : ℚ) / bottom := by positivity
  rw [value_eq_add positive] at above below ties
  unfold nearest
  simp only [compare_double_eq positive]
  generalize top / bottom = quotient at above below ties ⊢
  generalize ((top % bottom : Nat) : ℚ) / bottom = rest at above below ties proper natural ⊢
  have atMost : quotient ≤ whole := by
    have : (quotient : ℚ) < whole + 1 := by linarith
    exact Nat.lt_succ_iff.mp (by exact_mod_cast this)
  have atLeast : whole ≤ quotient + 1 := by
    have : (whole : ℚ) < quotient + 1 + 1 := by linarith
    exact Nat.lt_succ_iff.mp (by exact_mod_cast this)
  rcases lt_trichotomy rest (1 / 2) with less | rfl | more
  · rw [compare_lt_iff_lt.mpr less]
    have : (whole : ℚ) < quotient + 1 := by linarith
    exact Nat.le_antisymm atMost (Nat.lt_succ_iff.mp (by exact_mod_cast this))
  · rw [compare_eq_iff_eq.mpr rfl]
    rcases Nat.lt_or_eq_of_le atMost with below | rfl
    · obtain rfl : whole = quotient + 1 := Nat.le_antisymm atLeast below
      have even := ties (.inl (by push_cast; ring))
      exact if_neg (by omega)
    · exact if_pos (ties (.inr rfl))
  · rw [compare_gt_iff_gt.mpr more]
    have : (quotient : ℚ) < whole := by linarith
    exact Nat.le_antisymm (Nat.succ_le_of_lt (by exact_mod_cast this)) atLeast

theorem value_pos {top bottom : Nat} (topPositive : 0 < top) (bottomPositive : 0 < bottom) :
    0 < value (top, bottom) :=
  div_pos (Nat.cast_pos.mpr topPositive) (Nat.cast_pos.mpr bottomPositive)

theorem one_le_value {quotient : Nat × Nat} (positive : 0 < quotient.2) :
    1 ≤ value quotient ↔ quotient.2 ≤ quotient.1 := by
  unfold value
  rw [one_le_div (Nat.cast_pos.mpr positive), Nat.cast_le]

theorem log2_spec {number : Nat} (positive : 0 < number) :
    (2 : ℚ) ^ number.log2 ≤ number ∧ (number : ℚ) < 2 ^ (number.log2 + 1) :=
  ⟨by exact_mod_cast Nat.log2_self_le positive.ne', by exact_mod_cast Nat.lt_log2_self⟩

/-- The largest power of two that is at most a quotient is found. -/
theorem binaryExponent_spec {top bottom : Nat} (topPositive : 0 < top)
    (bottomPositive : 0 < bottom) : (2 : ℚ) ^ binaryExponent top bottom ≤ value (top, bottom) ∧
      value (top, bottom) < 2 ^ (binaryExponent top bottom + 1) := by
  let estimate : Int := top.log2 - bottom.log2
  obtain ⟨topLow, topHigh⟩ := log2_spec topPositive
  obtain ⟨bottomLow, bottomHigh⟩ := log2_spec bottomPositive
  have low : (2 : ℚ) ^ (estimate - 1) < value (top, bottom) := by
    have split : (2 : ℚ) ^ (estimate - 1) = 2 ^ top.log2 / 2 ^ (bottom.log2 + 1) := by
      rw [← zpow_natCast, ← zpow_natCast, ← zpow_sub₀ two_ne_zero]
      congr 1
      omega
    rw [split]
    exact div_lt_div₀' topLow bottomHigh (Nat.cast_pos.mpr topPositive)
      (Nat.cast_pos.mpr bottomPositive)
  have high : value (top, bottom) < 2 ^ (estimate + 1) := by
    have split : (2 : ℚ) ^ (estimate + 1) = 2 ^ (top.log2 + 1) / 2 ^ bottom.log2 := by
      rw [← zpow_natCast, ← zpow_natCast, ← zpow_sub₀ two_ne_zero]
      congr 1
      omega
    rw [split]
    exact div_lt_div₀ topHigh bottomLow (by positivity) (by positivity)
  have scaled : (scaleBinary (top, bottom) (-estimate)).2 ≤
      (scaleBinary (top, bottom) (-estimate)).1 ↔ (2 : ℚ) ^ estimate ≤ value (top, bottom) := by
    rw [← one_le_value (scaleBinary_snd_pos bottomPositive _), value_scaleBinary, zpow_neg,
      ← div_eq_mul_inv, one_le_div (by positivity)]
  unfold binaryExponent
  by_cases reached : (2 : ℚ) ^ estimate ≤ value (top, bottom)
  · rw [if_pos (scaled.mpr reached)]
    exact ⟨reached, high⟩
  · rw [if_neg (scaled.not.mpr reached), sub_add_cancel]
    exact ⟨low.le, not_le.mp reached⟩

theorem binaryExponent_lt_iff {top bottom : Nat} (topPositive : 0 < top)
    (bottomPositive : 0 < bottom) {exponent : Int} :
    binaryExponent top bottom < exponent ↔ value (top, bottom) < 2 ^ exponent := by
  obtain ⟨low, high⟩ := binaryExponent_spec topPositive bottomPositive
  constructor
  · intro less
    exact high.trans_le ((zpow_le_zpow_iff_right₀ one_lt_two).mpr less)
  · intro below
    exact (zpow_lt_zpow_iff_right₀ one_lt_two).mp (low.trans_lt below)

/-- The same in units of a power of two. -/
theorem binaryExponent_lt_units {top bottom : Nat} (topPositive : 0 < top)
    (bottomPositive : 0 < bottom) {unit : Int} {count : Nat} :
    binaryExponent top bottom < count + unit ↔
      value (top, bottom) * 2 ^ (-unit) < 2 ^ count := by
  rw [binaryExponent_lt_iff topPositive bottomPositive, zpow_add₀ two_ne_zero, zpow_natCast,
    zpow_neg, ← div_eq_mul_inv, div_lt_iff₀ (by positivity)]

/-! ### Doubles -/

variable {x y : Binary64} {number : ℚ}

/-- The number that a finite double stands for, without its sign. -/
def size (x : Binary64) : ℚ :=
  x.significand * 2 ^ x.unitExponent

theorem value_ratio (x : Binary64) : value x.ratio = x.size := by
  unfold ratio
  rw [value_scaleBinary]
  simp [value, size]

/-- The numbers that go to a double: those between its ends, and the ends if its last bit is
even. -/
structure Attracts (x : Binary64) (number : ℚ) : Prop where
  above : value x.lowerEnd < number ∨ x.magnitude % 2 = 0 ∧ value x.lowerEnd = number
  below : number < value x.upperEnd ∨ x.magnitude % 2 = 0 ∧ number = value x.upperEnd

/-- **A decimal reads back as a double exactly if the double attracts it.** -/
theorem readsBack_iff {decimal : Decimal} :
    x.readsBack decimal ↔ x.Attracts (value decimal.ratio) := by
  have lowPositive : 0 < x.lowerEnd.2 := scaleBinary_snd_pos one_pos _
  have highPositive : 0 < x.upperEnd.2 := scaleBinary_snd_pos one_pos _
  have ratioPositive : 0 < decimal.ratio.2 := Nat.mul_pos one_pos (Nat.pow_pos (by decide))
  unfold readsBack
  rw [compareRatios_eq ratioPositive lowPositive, compareRatios_eq ratioPositive highPositive]
  simp only [Bool.and_eq_true, Bool.or_eq_true, beq_iff_eq, compare_lt_iff_lt, compare_gt_iff_gt,
    compare_eq_iff_eq]
  constructor
  · rintro ⟨above, below⟩
    exact ⟨above.imp_right fun ⟨even, same⟩ => ⟨even, same.symm⟩, below⟩
  · rintro ⟨above, below⟩
    exact ⟨above.imp_right fun ⟨even, same⟩ => ⟨even, same.symm⟩, below⟩

/-- A double below the second power of two that is normal has its magnitude as its significand. -/
theorem significand_of_small (small : x.magnitude < 2 * exponentBit) :
    x.significand = x.magnitude ∧ x.unitExponent = -1074 := by
  unfold significand unitExponent
  split
  · exact ⟨rfl, rfl⟩
  · have quotient : x.magnitude / exponentBit = 1 := by
      refine Nat.div_eq_of_lt_le ?_ ?_ <;> omega
    have division := Nat.div_add_mod x.magnitude exponentBit
    rw [quotient] at division ⊢
    constructor
    · omega
    · rfl

/-- The significand of any other double has all its bits. -/
theorem significand_of_large (large : 2 * exponentBit ≤ x.magnitude) :
    x.significand = exponentBit + x.magnitude % exponentBit ∧
      x.unitExponent = (x.magnitude / exponentBit : Nat) - 1075 ∧
      2 ≤ x.magnitude / exponentBit := by
  have normal : ¬x.magnitude < exponentBit := by omega
  unfold significand unitExponent
  rw [if_neg normal, if_neg normal]
  exact ⟨rfl, rfl, (Nat.le_div_iff_mul_le (by decide)).mpr large⟩

/-- The significand runs on into the exponent. -/
theorem magnitude_of_large (large : 2 * exponentBit ≤ x.magnitude) :
    (x.unitExponent + 1074).toNat * exponentBit + x.significand = x.magnitude := by
  obtain ⟨isSignificand, isUnit, many⟩ := significand_of_large large
  obtain ⟨more, isMore⟩ := Nat.exists_eq_add_of_le many
  have division := Nat.div_add_mod' x.magnitude exponentBit
  have unit : (x.unitExponent + 1074).toNat = more + 1 := by omega
  rw [isMore] at division
  rw [isSignificand, unit, ← add_assoc, ← Nat.succ_mul, ← division]
  congr 2
  omega

theorem significand_pos (positive : 0 < x.magnitude) : 0 < x.significand := by
  unfold significand
  split
  · exact positive
  · exact Nat.add_pos_left (by decide) _

theorem size_pos_iff : 0 < x.size ↔ 0 < x.magnitude := by
  constructor
  · intro nonzero
    refine Nat.pos_of_ne_zero fun isZero => ?_
    have small : x.magnitude < 2 * exponentBit := by
      rw [isZero]
      decide
    rw [size, (significand_of_small small).1, isZero] at nonzero
    simp at nonzero
  · intro positive
    exact mul_pos (Nat.cast_pos.mpr (significand_pos positive)) (by positivity)

theorem value_upperEnd (x : Binary64) :
    value x.upperEnd = (x.significand + 1 / 2) * 2 ^ x.unitExponent := by
  unfold upperEnd
  rw [value_scaleBinary, zpow_sub₀ two_ne_zero]
  simp only [value]
  push_cast
  ring

/-- The gap below a double is half as long as usual if the doubles below it are twice as dense. -/
theorem value_lowerEnd (positive : 0 < x.magnitude) :
    value x.lowerEnd = (x.significand - if x.magnitude % exponentBit = 0 ∧
      2 * exponentBit ≤ x.magnitude then 1 / 4 else 1 / 2) * 2 ^ x.unitExponent := by
  have positiveSignificand := significand_pos positive
  unfold lowerEnd
  rw [value_scaleBinary, zpow_sub₀ two_ne_zero]
  simp only [value]
  split
  · rw [Nat.cast_sub (by omega)]
    push_cast
    ring
  · rw [Nat.cast_sub (by omega)]
    push_cast
    ring

/-- What a double attracts, in its own units. -/
theorem Attracts.scaled (attracts : x.Attracts number) (positive : 0 < x.magnitude) :
    let gap : ℚ := if x.magnitude % exponentBit = 0 ∧ 2 * exponentBit ≤ x.magnitude then 1 / 4
      else 1 / 2
    let units := number * 2 ^ (-x.unitExponent)
    x.significand - gap ≤ units ∧ units ≤ x.significand + 1 / 2 ∧
      (units = x.significand - gap ∨ units = x.significand + 1 / 2 → x.magnitude % 2 = 0) := by
  intro gap units
  obtain ⟨above, below⟩ := attracts
  have unitPositive : (0 : ℚ) < 2 ^ x.unitExponent := by positivity
  have inUnits : number = units * 2 ^ x.unitExponent := by
    rw [mul_assoc, ← zpow_add₀ two_ne_zero, neg_add_cancel, zpow_zero, mul_one]
  rw [value_lowerEnd positive, inUnits, mul_lt_mul_iff_left₀ unitPositive,
    mul_left_inj' unitPositive.ne'] at above
  rw [value_upperEnd, inUnits, mul_lt_mul_iff_left₀ unitPositive,
    mul_left_inj' unitPositive.ne'] at below
  refine ⟨above.elim le_of_lt fun same => same.2.le, below.elim le_of_lt fun same => same.2.le, ?_⟩
  rintro (low | high)
  · exact above.elim (fun less => absurd low less.ne') fun same => same.1
  · exact below.elim (fun less => absurd high less.ne) fun same => same.1

/-! ### Rounding -/

theorem exponentBit_eq : exponentBit = 2 ^ 52 := rfl

section Rounding

variable {top bottom : Nat}

theorem roundMagnitude_eq {unit : Int} {whole : Nat}
    (isUnit : max (binaryExponent top bottom - 52) (-1074) = unit) (bottomPositive : 0 < bottom)
    (above : (whole : ℚ) - 1 / 2 ≤ value (top, bottom) * 2 ^ (-unit))
    (below : value (top, bottom) * 2 ^ (-unit) ≤ whole + 1 / 2)
    (ties : value (top, bottom) * 2 ^ (-unit) = whole - 1 / 2 ∨
      value (top, bottom) * 2 ^ (-unit) = whole + 1 / 2 → whole % 2 = 0) :
    roundMagnitude top bottom =
      min ((unit + 1074).toNat * exponentBit + whole) infiniteMagnitude := by
  rw [← value_scaleBinary] at above below ties
  rw [← nearest_eq (scaleBinary_snd_pos bottomPositive (-unit)) above below ties, ← isUnit]
  rfl

variable (topPositive : 0 < top) (bottomPositive : 0 < bottom) (positive : 0 < x.magnitude)
  (attracts : x.Attracts (value (top, bottom)))

include topPositive bottomPositive positive attracts

theorem roundMagnitude_of_small (small : x.magnitude < 2 * exponentBit) :
    roundMagnitude top bottom = min x.magnitude infiniteMagnitude := by
  obtain ⟨above, below, ties⟩ := attracts.scaled positive
  obtain ⟨isSignificand, isUnit⟩ := significand_of_small small
  rw [if_neg (by omega)] at above ties
  rw [isSignificand, isUnit] at above below ties
  have less : binaryExponent top bottom < (53 : Nat) + -1074 := by
    have : (x.magnitude : ℚ) + 1 ≤ 2 ^ 53 := by exact_mod_cast (small : x.magnitude + 1 ≤ 2 ^ 53)
    exact (binaryExponent_lt_units topPositive bottomPositive).mpr
      (below.trans_lt (by linarith))
  rw [roundMagnitude_eq (by omega) bottomPositive above below ties]
  simp

theorem binaryExponent_lt_of_large (large : 2 * exponentBit ≤ x.magnitude) :
    binaryExponent top bottom < (53 : Nat) + x.unitExponent := by
  obtain ⟨-, below, -⟩ := attracts.scaled positive
  obtain ⟨isSignificand, -, -⟩ := significand_of_large large
  have proper : x.magnitude % exponentBit < exponentBit := Nat.mod_lt _ (by decide)
  have short : x.significand + 1 ≤ 2 ^ 53 := by
    rw [isSignificand, exponentBit_eq] at *
    omega
  have : (x.significand : ℚ) + 1 ≤ 2 ^ 53 := by exact_mod_cast short
  exact (binaryExponent_lt_units topPositive bottomPositive).mpr (below.trans_lt (by linarith))

/-- A quotient that has all bits in the units of the double. -/
theorem roundMagnitude_of_full (large : 2 * exponentBit ≤ x.magnitude)
    (full : 2 ^ 52 ≤ value (top, bottom) * 2 ^ (-x.unitExponent)) :
    roundMagnitude top bottom = min x.magnitude infiniteMagnitude := by
  obtain ⟨above, below, ties⟩ := attracts.scaled positive
  obtain ⟨isSignificand, isUnit, many⟩ := significand_of_large large
  have less := binaryExponent_lt_of_large topPositive bottomPositive positive attracts large
  have more := (binaryExponent_lt_units topPositive bottomPositive).not.mpr (not_lt.mpr full)
  have unit : max (binaryExponent top bottom - 52) (-1074) = x.unitExponent := by
    omega
  have half : (x.significand : ℚ) - 1 / 2 ≤ value (top, bottom) * 2 ^ (-x.unitExponent) := by
    split at above <;> linarith
  have even : x.magnitude % 2 = 0 → x.significand % 2 = 0 := by
    rw [isSignificand, exponentBit_eq]
    omega
  rw [roundMagnitude_eq unit bottomPositive half below fun tie => even (ties (tie.imp_left ?_)),
    magnitude_of_large large]
  intro low
  rw [low]
  split at above
  · linarith
  · next dense => rw [if_neg dense]

/-- A quotient just below a power of two. The units are half as long there: two of them make up for
the missing one. -/
theorem roundMagnitude_of_short (large : 2 * exponentBit ≤ x.magnitude)
    (short : value (top, bottom) * 2 ^ (-x.unitExponent) < 2 ^ 52) :
    roundMagnitude top bottom = min x.magnitude infiniteMagnitude := by
  obtain ⟨above, below, -⟩ := attracts.scaled positive
  obtain ⟨isSignificand, isUnit, many⟩ := significand_of_large large
  have least : x.significand = 2 ^ 52 := by
    have : (x.significand : ℚ) < 2 ^ 52 + 1 := by split at above <;> linarith
    have : x.significand < 2 ^ 52 + 1 := by exact_mod_cast this
    rw [exponentBit_eq] at isSignificand
    omega
  have aligned : x.magnitude % exponentBit = 0 := by
    have : exponentBit + x.magnitude % exponentBit = 2 ^ 52 := isSignificand.symm.trans least
    rw [exponentBit_eq] at *
    omega
  rw [if_pos ⟨aligned, large⟩, least] at above
  push_cast at above
  have more : ¬binaryExponent top bottom < (51 : Nat) + x.unitExponent := by
    refine (binaryExponent_lt_units topPositive bottomPositive).not.mpr (not_lt.mpr ?_)
    exact le_trans (by norm_num) above
  have less := (binaryExponent_lt_units topPositive bottomPositive).mpr short
  have unit : max (binaryExponent top bottom - 52) (-1074) = x.unitExponent - 1 := by
    omega
  have doubled : value (top, bottom) * 2 ^ (-(x.unitExponent - 1)) =
      value (top, bottom) * 2 ^ (-x.unitExponent) * 2 := by
    rw [neg_sub, sub_eq_neg_add, zpow_add_one₀ two_ne_zero, mul_assoc]
  have whole : ((2 ^ 53 : Nat) : ℚ) = 2 * 2 ^ 52 := by norm_num
  rw [@roundMagnitude_eq top bottom _ (2 ^ 53) unit bottomPositive ?_ ?_ fun _ => rfl]
  · have shifted : (x.unitExponent + 1074).toNat = (x.unitExponent - 1 + 1074).toNat + 1 := by
      omega
    have carry : 2 ^ 53 = exponentBit + 2 ^ 52 := by decide
    rw [← magnitude_of_large large, least, shifted, Nat.succ_mul, carry, Nat.add_assoc]
  · rw [doubled, whole]
    linarith
  · rw [doubled, whole]
    linarith

/-- **A quotient is rounded to the double that attracts it.** -/
theorem roundMagnitude_of_attracts (finite : x.isFinite) :
    roundMagnitude top bottom = x.magnitude := by
  have isFinite : x.magnitude < infiniteMagnitude := of_decide_eq_true finite
  have rounded : roundMagnitude top bottom = min x.magnitude infiniteMagnitude := by
    rcases Nat.lt_or_ge x.magnitude (2 * exponentBit) with small | large
    · exact roundMagnitude_of_small topPositive bottomPositive positive attracts small
    · rcases lt_or_ge (value (top, bottom) * 2 ^ (-x.unitExponent)) (2 ^ 52) with short | full
      · exact roundMagnitude_of_short topPositive bottomPositive positive attracts large short
      · exact roundMagnitude_of_full topPositive bottomPositive positive attracts large full
  rw [rounded, Nat.min_eq_left isFinite.le]

end Rounding

/-! ### Doubles of the same magnitude -/

theorem significand_congr (same : x.magnitude = y.magnitude) :
    x.significand = y.significand ∧ x.unitExponent = y.unitExponent := by
  unfold significand unitExponent
  rw [same]
  exact ⟨rfl, rfl⟩

theorem size_congr (same : x.magnitude = y.magnitude) : x.size = y.size := by
  obtain ⟨significand, unit⟩ := significand_congr same
  unfold size
  rw [significand, unit]

theorem Attracts.congr (attracts : x.Attracts number) (same : x.magnitude = y.magnitude) :
    y.Attracts number := by
  obtain ⟨above, below⟩ := attracts
  obtain ⟨significand, unit⟩ := significand_congr same
  have low : x.lowerEnd = y.lowerEnd := by
    unfold lowerEnd
    rw [same, significand, unit]
  have high : x.upperEnd = y.upperEnd := by
    unfold upperEnd
    rw [significand, unit]
  rw [low, same] at above
  rw [high, same] at below
  exact ⟨above, below⟩

/-! ### Signs and magnitudes -/

theorem magnitude_lt (x : Binary64) : x.magnitude < signBit :=
  Nat.mod_lt _ (by decide)

theorem toNat_ofMagnitude (negative : Bool) {magnitude : Nat} (fits : magnitude < signBit) :
    (ofMagnitude negative magnitude).bits.toNat =
      if negative then signBit + magnitude else magnitude := by
  have room : signBit + signBit = UInt64.size := rfl
  refine UInt64.toNat_ofNat_of_lt' ?_
  split <;> omega

theorem magnitude_ofMagnitude (negative : Bool) {magnitude : Nat} (fits : magnitude < signBit) :
    (ofMagnitude negative magnitude).magnitude = magnitude := by
  unfold Binary64.magnitude
  rw [toNat_ofMagnitude negative fits]
  cases negative
  · exact Nat.mod_eq_of_lt fits
  · exact (Nat.add_mod_left signBit magnitude).trans (Nat.mod_eq_of_lt fits)

theorem negative_ofMagnitude (negative : Bool) {magnitude : Nat} (fits : magnitude < signBit) :
    (ofMagnitude negative magnitude).negative = negative := by
  unfold Binary64.negative
  rw [toNat_ofMagnitude negative fits]
  cases negative
  · exact decide_eq_false (Nat.not_le.mpr fits)
  · exact decide_eq_true (Nat.le_add_right signBit magnitude)

/-- A double is its sign and its magnitude. -/
theorem ofMagnitude_negative_magnitude (x : Binary64) :
    ofMagnitude x.negative x.magnitude = x := by
  obtain ⟨bits⟩ := x
  have small : bits.toNat < UInt64.size := bits.toNat_lt
  have room : signBit + signBit = UInt64.size := rfl
  unfold ofMagnitude Binary64.negative Binary64.magnitude
  congr 1
  refine UInt64.toNat_inj.mp ?_
  by_cases isNegative : signBit ≤ bits.toNat
  · have rest : bits.toNat % signBit = bits.toNat - signBit := by
      rw [Nat.mod_eq_sub_mod isNegative]
      exact Nat.mod_eq_of_lt (by omega)
    simp only [isNegative, decide_true, if_true, rest, Nat.add_sub_cancel' isNegative]
    exact UInt64.toNat_ofNat_of_lt' small
  · simp only [isNegative, decide_false, Bool.false_eq_true, if_false,
      Nat.mod_eq_of_lt (not_le.mp isNegative)]
    exact UInt64.toNat_ofNat_of_lt' small

theorem ofRatio_of_attracts (negative : Bool) {top bottom : Nat} (topPositive : 0 < top)
    (bottomPositive : 0 < bottom) (finite : x.isFinite) (positive : 0 < x.magnitude)
    (attracts : x.Attracts (value (top, bottom))) :
    ofRatio negative top bottom = ofMagnitude negative x.magnitude := by
  unfold ofRatio
  rw [if_neg topPositive.ne',
    roundMagnitude_of_attracts topPositive bottomPositive positive attracts finite]

/-- A double attracts its own size. -/
theorem attracts_size (positive : 0 < x.magnitude) : x.Attracts x.size := by
  have unit : (0 : ℚ) < 2 ^ x.unitExponent := by positivity
  unfold size
  constructor
  · left
    rw [value_lowerEnd positive, mul_lt_mul_iff_left₀ unit]
    split <;> linarith
  · left
    rw [value_upperEnd, mul_lt_mul_iff_left₀ unit]
    linarith

theorem exists_magnitude_eq {magnitude : Nat} (finite : magnitude < infiniteMagnitude) :
    ∃ x : Binary64, x.negative = false ∧ x.isFinite ∧ x.magnitude = magnitude := by
  have fits : magnitude < signBit := finite.trans (by decide)
  have same := magnitude_ofMagnitude false fits
  refine ⟨ofMagnitude false magnitude, negative_ofMagnitude false fits, decide_eq_true ?_, same⟩
  rwa [same]

/-- Every whole number of at most 53 bits, in units that are neither too small nor too large, is the
size of a double. It is doubled, with units half as long, until it has all its bits or the units are
the smallest. -/
theorem exists_size_eq {count : Nat} (small : count < 2 ^ 53) {places : Nat}
    (room : places ≤ 2045) : ∃ x : Binary64, x.negative = false ∧ x.isFinite ∧
      x.size = count * 2 ^ ((places : Int) - 1074) := by
  induction places generalizing count with
  | zero =>
    have low : count < 2 * exponentBit := small
    obtain ⟨x, notNegative, finite, rfl⟩ := exists_magnitude_eq (low.trans (by decide))
    obtain ⟨significand, unit⟩ := significand_of_small low
    exact ⟨x, notNegative, finite, by rw [size, significand, unit]; rfl⟩
  | succ places ih =>
    by_cases full : 2 ^ 52 ≤ count
    · have fits : (places + 1) * exponentBit + count < infiniteMagnitude := by
        unfold infiniteMagnitude
        rw [exponentBit_eq]
        omega
      obtain ⟨x, notNegative, finite, magnitude⟩ := exists_magnitude_eq fits
      have large : 2 * exponentBit ≤ x.magnitude := by
        rw [magnitude, exponentBit_eq]
        omega
      obtain ⟨significand, unit, -⟩ := significand_of_large large
      have quotient : x.magnitude / exponentBit = places + 2 := by
        rw [magnitude, exponentBit_eq]
        omega
      have rest : exponentBit + x.magnitude % exponentBit = count := by
        rw [magnitude, exponentBit_eq]
        omega
      refine ⟨x, notNegative, finite, ?_⟩
      rw [size, significand, rest, unit, quotient]
      congr 2
      omega
    · obtain ⟨x, notNegative, finite, same⟩ := @ih (2 * count) (by omega) (by omega)
      refine ⟨x, notNegative, finite, ?_⟩
      rw [same, Nat.cast_succ, add_sub_right_comm, zpow_add_one₀ two_ne_zero]
      push_cast
      ring

/-! ### Arithmetic -/

/-- The numbers of at most 53 bits, with zeros behind, are rounded to doubles of their size. -/
theorem size_ofRatio {count places : Nat} (positive : 0 < count) (small : count < 2 ^ 53)
    (room : places ≤ 971) :
    (ofRatio false (count * 2 ^ places) 1).size = count * 2 ^ places ∧
      (ofRatio false (count * 2 ^ places) 1).negative = false := by
  obtain ⟨x, -, finite, isSize⟩ := @exists_size_eq count small (places + 1074) (by omega)
  have isValue : x.size = value (count * 2 ^ places, 1) := by
    rw [isSize]
    simp [value]
  have nonzero : 0 < x.magnitude := by
    rw [← size_pos_iff, isValue]
    exact value_pos (by positivity) one_pos
  have attracts := attracts_size nonzero
  rw [isValue] at attracts
  rw [ofRatio_of_attracts false (by positivity) one_pos finite nonzero attracts,
    size_congr (magnitude_ofMagnitude false x.magnitude_lt), isValue]
  exact ⟨by simp [value], negative_ofMagnitude false x.magnitude_lt⟩

theorem ratio_pos (positive : 0 < x.magnitude) : 0 < x.ratio.1 ∧ 0 < x.ratio.2 := by
  refine ⟨?_, scaleBinary_snd_pos one_pos _⟩
  show 0 < x.significand <<< _
  rw [Nat.shiftLeft_eq]
  exact Nat.mul_pos (significand_pos positive) (Nat.two_pow_pos _)

variable {first second : Binary64} (firstPositive : 0 < first.magnitude)
  (secondPositive : 0 < second.magnitude) (finite : x.isFinite) (positive : 0 < x.magnitude)

include firstPositive secondPositive finite positive

/-- A product is rounded once. -/
theorem product_of_attracts (attracts : x.Attracts (first.size * second.size)) :
    first.product second = ofMagnitude (first.negative != second.negative) x.magnitude := by
  obtain ⟨firstTop, firstBottom⟩ := ratio_pos firstPositive
  obtain ⟨secondTop, secondBottom⟩ := ratio_pos secondPositive
  rw [← value_ratio, ← value_ratio, value, value, div_mul_div_comm] at attracts
  exact ofRatio_of_attracts _ (Nat.mul_pos firstTop secondTop)
    (Nat.mul_pos firstBottom secondBottom) finite positive (by simpa [value] using attracts)

/-- A quotient is rounded once. -/
theorem quotient_of_attracts (attracts : x.Attracts (first.size / second.size)) :
    first.quotient second = ofMagnitude (first.negative != second.negative) x.magnitude := by
  obtain ⟨firstTop, firstBottom⟩ := ratio_pos firstPositive
  obtain ⟨secondTop, secondBottom⟩ := ratio_pos secondPositive
  rw [← value_ratio, ← value_ratio, value, value, div_div_div_eq] at attracts
  exact ofRatio_of_attracts _ (Nat.mul_pos firstTop secondBottom)
    (Nat.mul_pos firstBottom secondTop) finite positive (by simpa [value, mul_comm] using attracts)

end TextIndex.Binary64
