import TextIndex.Json.Record
import TextIndex.Proofs.Json.Reading
import TextIndex.Proofs.Number.ShortestDecimals

/-!
# Doubles in JSON

A double is written as the decimal that stands for it. A reader of the literal rounds the digits to
a double, and rounds again when it scales by the power of ten that is left. So a double need not be
read as it was written. It is if the digits and the power of ten are doubles themselves, since then
only the result is rounded.

* `Literal.ofBinary64_spec`: the literal of a double may be written and stands for its decimal.
* `Json.written_binary64`: so may the JSON of a double, finite or not.
* `Literal.Exact`: that only the result is rounded.
* `Literal.toBinary64?_ofBinary64`: such a double is read as it was written.
-/

namespace TextIndex

open TextIndex.Number

theorem Binary64.shortest_exponent {tie : Tie} {x : Binary64}
    (zero : (x.shortest tie).digits = 0) : (x.shortest tie).exponent = 0 := by
  rcases Nat.eq_zero_or_pos x.magnitude with isZero | positive
  · unfold shortest
    rw [if_pos isZero]
  · exact absurd zero (attracts_shortest tie positive).2

namespace Json

namespace Literal

/-! ### Decimals laid out -/

/-- The digits before a point and those after it may be written, and with an exponent they stand
for a decimal. -/
structure LaysOut (parts : List Nat × List Nat) (exponent : Int) (decimal : Decimal) : Prop where
  whole : Run parts.1
  leading : ∀ rest, parts.1 = 0 :: rest → rest = []
  fraction : ∀ digit ∈ parts.2, digit < 10
  amount : ofDigits (parts.1 ++ parts.2) * 10 ^ (exponent - parts.2.length) = decimal.value

section Layouts

variable {decimal : Decimal}

theorem run_digitsOf (value : Nat) : Run (digitsOf value) :=
  ⟨digitsOf_ne_nil value, fun _ => lt_ten_of_mem_digitsOf⟩

/-- The digits of a decimal, with a point somewhere between them. -/
theorem laysOut_split {count : Nat} (positive : 0 < count) {exponent : Int}
    (scaled : exponent - ((digitsOf decimal.digits).drop count).length = decimal.exponent) :
    LaysOut ((digitsOf decimal.digits).take count, (digitsOf decimal.digits).drop count) exponent
      decimal := by
  have run := run_digitsOf decimal.digits
  have split := List.take_append_drop count (digitsOf decimal.digits)
  refine ⟨⟨?_, fun digit member => run.small digit (List.mem_of_mem_take member)⟩,
    fun rest leading => ?_, fun digit member => run.small digit (List.mem_of_mem_drop member), ?_⟩
  · simp [List.take_eq_nil_iff, run.nonempty, positive.ne']
  · replace leading : (digitsOf decimal.digits).take count = 0 :: rest := leading
    rw [leading, List.cons_append] at split
    exact (List.append_eq_nil_iff.mp (digitsOf_eq_zero_cons split.symm)).1
  · rw [split, scaled, ofDigits_digitsOf]
    rfl

theorem laysOut_scientific (decimal : Decimal) :
    LaysOut decimal.scientific decimal.leadingExponent decimal := by
  refine laysOut_split one_pos ?_
  unfold Decimal.leadingExponent
  rw [List.length_drop]
  omega

theorem small_of_mem_zeros {count : Nat} : ∀ digit ∈ List.replicate count 0, digit < 10 := by
  intro digit member
  rw [List.eq_of_mem_replicate member]
  exact Nat.zero_lt_succ _

/-- The digits of a decimal, and zeros behind them up to the point. -/
theorem laysOut_zerosBehind (zero : decimal.digits = 0 → decimal.exponent = 0) {count : Nat}
    (isCount : decimal.exponent = count) :
    LaysOut (digitsOf decimal.digits ++ List.replicate count 0, []) 0 decimal := by
  have run := run_digitsOf decimal.digits
  refine ⟨⟨by simp [run.nonempty], List.forall_mem_append.mpr ⟨run.small, small_of_mem_zeros⟩⟩,
    fun rest leading => ?_, nofun, ?_⟩
  · obtain ⟨first, later, digits⟩ := List.exists_cons_of_ne_nil run.nonempty
    rw [digits, List.cons_append] at leading
    obtain ⟨rfl, rfl⟩ := List.cons.inj leading
    obtain rfl := digitsOf_eq_zero_cons digits
    have isZero : decimal.digits = 0 := by
      rw [← ofDigits_digitsOf decimal.digits, digits]
      rfl
    obtain rfl : count = 0 := Int.ofNat_eq_zero.mp (isCount.symm.trans (zero isZero))
    rfl
  · rw [List.append_nil, ofDigits_append_replicate_zero, ofDigits_digitsOf, Decimal.value, isCount]
    simp

/-- The digits of a decimal, and zeros in front of them up to the point. -/
theorem laysOut_zerosInFront {count : Nat}
    (isCount : decimal.exponent = -(count + (digitsOf decimal.digits).length : Nat)) :
    LaysOut ([0], List.replicate count 0 ++ digitsOf decimal.digits) 0 decimal := by
  refine ⟨⟨List.cons_ne_nil _ _, by simp⟩, fun rest leading => ?_,
    List.forall_mem_append.mpr ⟨small_of_mem_zeros, (run_digitsOf decimal.digits).small⟩, ?_⟩
  · exact (List.cons.inj leading).2.symm
  · rw [List.length_append, List.length_replicate, zero_sub, ← isCount]
    show ((ofDigits (List.replicate (count + 1) 0 ++ digitsOf decimal.digits) : Nat) : ℚ) * _ = _
    rw [ofDigits_replicate_zero_append, ofDigits_digitsOf]
    rfl

theorem laysOut_positional (zero : decimal.digits = 0 → decimal.exponent = 0) :
    LaysOut decimal.positional 0 decimal := by
  unfold Decimal.positional
  simp only
  split
  · next whole => exact laysOut_zerosBehind zero (Int.toNat_of_nonneg whole).symm
  · next fractional =>
    split
    · next inside =>
      refine laysOut_split (Nat.sub_pos_of_lt inside) ?_
      rw [List.length_drop]
      omega
    · next outside =>
      refine laysOut_zerosInFront ?_
      omega

/-- A zero may be put behind the point. -/
theorem LaysOut.withPoint {parts : List Nat × List Nat} {exponent : Int}
    (laysOut : LaysOut parts exponent decimal) :
    LaysOut (parts.1, if parts.2 = [] then [0] else parts.2) exponent decimal := by
  obtain ⟨whole, fraction⟩ := parts
  by_cases noFraction : fraction = []
  · obtain ⟨run, leading, -, amount⟩ := laysOut
    subst noFraction
    refine ⟨run, leading, by simp, ?_⟩
    rw [← amount, if_pos rfl, List.append_nil, ofDigits_append]
    have unit : (10 : ℚ) ^ exponent = 10 * 10 ^ (exponent - 1) := by
      rw [← zpow_one_add₀ (by norm_num)]
      congr 1
      omega
    simp [unit]
    ring
  · rwa [if_neg noFraction]

end Layouts

/-! ### What is written -/

variable {x : Binary64} {literal : Literal}

/-- The power of ten that the digits of a literal are scaled by. -/
def scale (literal : Literal) : Int :=
  literal.exponent.elim 0 Exponent.value - literal.fraction.length

/-- The number that a literal stands for, without its sign. -/
def amount (literal : Literal) : ℚ :=
  ofDigits (literal.whole ++ literal.fraction) * 10 ^ literal.scale

theorem value_exponent (value : Int) :
    Exponent.value ⟨some (value < 0), digitsOf value.natAbs⟩ = value := by
  unfold Exponent.value
  rw [ofDigits_digitsOf]
  by_cases negative : value < 0
  · rw [if_pos (by simp [negative])]
    omega
  · rw [if_neg (by simp [negative])]
    omega

/-- **A double is written as its decimal.** -/
theorem ofBinary64_spec (x : Binary64) : (ofBinary64 x).Written ∧
    (ofBinary64 x).negative = x.negative ∧ (ofBinary64 x).amount = (x.shortest .toEven).value := by
  have positional := (laysOut_positional (@Binary64.shortest_exponent .toEven x)).withPoint
  have scientific := laysOut_scientific (x.shortest .toEven)
  unfold ofBinary64
  simp only
  split
  · exact ⟨⟨positional.whole, positional.leading, positional.fraction, nofun⟩, rfl,
      positional.amount⟩
  · refine ⟨⟨scientific.whole, scientific.leading, scientific.fraction, ?_⟩, rfl, ?_⟩
    · rintro exponent ⟨⟩
      exact run_digitsOf _
    · rw [← scientific.amount]
      unfold amount scale
      simp only [Option.elim_some, value_exponent]

/-! ### What is read -/

theorem le_foldl_digits (value : Nat) (digits : List Nat) :
    value ≤ digits.foldl (fun value digit => value * 10 + digit) value := by
  induction digits generalizing value with
  | nil => exact Nat.le_refl value
  | cons first later ih => exact le_trans (by omega) (ih (value * 10 + first))

/-- All digits are read together, if there is room for them in a word. -/
theorem leadingWord_eq {value : Nat} {digits : List Nat}
    (fits : digits.foldl (fun value digit => value * 10 + digit) value < UInt64.size) :
    leadingWord value digits =
      (digits.foldl (fun value digit => value * 10 + digit) value, []) := by
  induction digits generalizing value with
  | nil => rfl
  | cons first later ih =>
    rw [List.foldl_cons] at fits ⊢
    unfold leadingWord
    rw [if_pos ((le_foldl_digits _ later).trans_lt fits), ih fits]

theorem toBinary64?_eq (fits : ofDigits (literal.whole ++ literal.fraction) < UInt64.size) :
    literal.toBinary64? =
      (scale? (.ofInt (ofDigits (literal.whole ++ literal.fraction))) literal.scale).map fun x =>
        if literal.negative then x.opposite else x := by
  rw [ofDigits_append] at fits ⊢
  have whole : leadingWord 0 literal.whole = (ofDigits literal.whole, []) :=
    leadingWord_eq ((le_foldl_digits _ _).trans_lt fits)
  have fraction := leadingWord_eq fits
  unfold toBinary64?
  simp only [whole, fraction, scale]
  simp [sub_eq_neg_add]

/-- Neither the digits nor the power of ten that they are scaled by have to be rounded. -/
def Exact (literal : Literal) : Prop :=
  ofDigits (literal.whole ++ literal.fraction) < 2 ^ 53 ∧
    -22 ≤ literal.scale ∧ literal.scale ≤ 22

instance (literal : Literal) : Decidable literal.Exact :=
  inferInstanceAs (Decidable (_ ∧ _ ∧ _))

theorem powerOfTen_spec {exponent : Nat} (small : exponent ≤ 22) :
    (powerOfTen exponent).size = 10 ^ exponent ∧ (powerOfTen exponent).negative = false := by
  have rounded : powerOfTen exponent = .ofRatio false (5 ^ exponent * 2 ^ exponent) 1 := by
    have logarithm : Nat.log2 1 = 0 := by decide
    unfold powerOfTen Binary64.ofScientific
    rw [if_neg one_ne_zero]
    simp only [logarithm]
    rw [if_neg (by omega), if_neg (by omega), ← Nat.mul_pow]
    simp [Binary64.scaleDecimal, tenTo]
  have fits : 5 ^ exponent < 2 ^ 53 :=
    (Nat.pow_le_pow_right (by decide) small).trans_lt (by decide)
  obtain ⟨size, negative⟩ := @Binary64.size_ofRatio _ exponent (Nat.pow_pos (by decide)) fits
    (by omega)
  rw [rounded, size]
  refine ⟨?_, negative⟩
  push_cast
  rw [← mul_pow]
  norm_num

theorem ofInt_spec {digits : Nat} (positive : 0 < digits) (small : digits < 2 ^ 53) :
    (Binary64.ofInt digits).size = digits ∧ (Binary64.ofInt digits).negative = false := by
  obtain ⟨size, negative⟩ := @Binary64.size_ofRatio digits 0 positive small (by decide)
  have rounded : Binary64.ofInt digits = .ofRatio false (digits * 2 ^ 0) 1 := by
    unfold Binary64.ofInt
    rw [decide_eq_false (Int.not_lt.mpr (Int.natCast_nonneg digits)), Int.natAbs_natCast, pow_zero,
      mul_one]
  rw [rounded, size]
  exact ⟨by simp, negative⟩

/-- What is written for a double is rounded to it, if its digits and the power of ten are exact. -/
theorem scale?_of_attracts {digits : Nat} (positive : 0 < digits) (small : digits < 2 ^ 53)
    {exponent : Int} (above : -22 ≤ exponent) (below : exponent ≤ 22) (finite : x.isFinite)
    (nonzero : 0 < x.magnitude) (attracts : x.Attracts (digits * 10 ^ exponent)) :
    scale? (.ofInt digits) exponent = some (.ofMagnitude false x.magnitude) := by
  obtain ⟨size, negative⟩ := ofInt_spec positive small
  have amountPositive : 0 < (Binary64.ofInt digits).magnitude := by
    rw [← Binary64.size_pos_iff, size]
    exact Nat.cast_pos.mpr positive
  obtain ⟨count, isCount⟩ := Int.eq_nat_or_neg exponent
  have few : count ≤ 22 := by omega
  obtain ⟨powerSize, powerNegative⟩ := powerOfTen_spec few
  have powerPositive : 0 < (powerOfTen count).magnitude := by
    rw [← Binary64.size_pos_iff, powerSize]
    positivity
  unfold scale?
  by_cases down : exponent < 0
  · obtain rfl : exponent = -count := by omega
    have scaled := Binary64.quotient_of_attracts amountPositive powerPositive finite nonzero (by
      rw [size, powerSize]
      simpa [div_eq_mul_inv] using attracts)
    rw [if_pos down]
    unfold scaleDown
    rw [if_neg amountPositive.ne', if_neg (by unfold largestPower; omega), neg_neg,
      Int.toNat_natCast, scaled, negative, powerNegative]
    rfl
  · obtain rfl : exponent = count := by omega
    have scaled := Binary64.product_of_attracts amountPositive powerPositive finite nonzero (by
      rw [size, powerSize]
      simpa using attracts)
    have scaledFinite : (Binary64.ofMagnitude false x.magnitude).isFinite := by
      refine decide_eq_true ?_
      rw [Binary64.magnitude_ofMagnitude false x.magnitude_lt]
      exact of_decide_eq_true finite
    rw [if_neg down, if_pos (by unfold largestPower; omega), Int.toNat_natCast]
    simp only [scaled, negative, powerNegative, bne_self_eq_false, scaledFinite, if_true]

theorem ofBinary64_of_zero (zero : x.magnitude = 0) :
    ofBinary64 x = ⟨x.negative, [0], [0], none⟩ := by
  have digits : digitsOf 0 = [0] := by
    rw [digitsOf]
    rfl
  have shortest : x.shortest .toEven = ⟨0, 0⟩ := if_pos zero
  unfold ofBinary64
  rw [shortest]
  simp [Decimal.leadingExponent, Decimal.positional, digits]

/-- A double is its size with its sign. -/
theorem opposite_of_negative (x : Binary64) :
    (if x.negative then (Binary64.ofMagnitude false x.magnitude).opposite
      else .ofMagnitude false x.magnitude) = x := by
  have whole := x.ofMagnitude_negative_magnitude
  cases isNegative : x.negative with
  | true =>
    rw [isNegative] at whole
    unfold Binary64.opposite
    rw [Binary64.negative_ofMagnitude false x.magnitude_lt,
      Binary64.magnitude_ofMagnitude false x.magnitude_lt]
    exact whole
  | false =>
    rw [isNegative] at whole
    rw [if_neg Bool.false_ne_true, whole]

theorem scale?_ofBinary64 (finite : x.isFinite) (exact : (ofBinary64 x).Exact) :
    scale? (.ofInt (ofDigits ((ofBinary64 x).whole ++ (ofBinary64 x).fraction)))
      (ofBinary64 x).scale = some (.ofMagnitude false x.magnitude) := by
  obtain ⟨small, above, below⟩ := exact
  rcases Nat.eq_zero_or_pos x.magnitude with zero | positive
  · rw [ofBinary64_of_zero zero, zero]
    show scale? (.ofMagnitude false 0) (-1) = _
    unfold scale? scaleDown
    rfl
  · obtain ⟨-, -, amount⟩ := ofBinary64_spec x
    obtain ⟨attracts, nonzero⟩ := Binary64.attracts_shortest .toEven positive
    rw [← amount] at attracts
    refine scale?_of_attracts (Nat.pos_of_ne_zero fun isZero => nonzero ?_) small above below finite
      positive attracts
    have nothing : (x.shortest .toEven).value = 0 := by
      rw [← amount, Literal.amount, isZero, Nat.cast_zero, zero_mul]
    exact Nat.cast_eq_zero.mp ((mul_eq_zero.mp nothing).resolve_right (by positivity))

/-- **A double is read as it was written**, if neither its digits nor their power of ten have to be
rounded. -/
theorem toBinary64?_ofBinary64 (finite : x.isFinite) (exact : (ofBinary64 x).Exact) :
    (ofBinary64 x).toBinary64? = some x := by
  obtain ⟨-, negative, -⟩ := ofBinary64_spec x
  rw [toBinary64?_eq (exact.1.trans (by decide)), scale?_ofBinary64 finite exact, negative,
    Option.map_some, opposite_of_negative]

end Literal

/-- What is written for a double where none may be given. -/
theorem written_binary64 (x : Binary64) : (binary64 x).Written := by
  unfold binary64
  split
  · exact .number (Literal.ofBinary64_spec x).1
  · exact .null

/-- A double that is not finite is read as none, and any other one as its literal is. -/
theorem nullable?_binary64 (x : Binary64) : (binary64 x).nullable? binary64? =
    if x.isFinite then (Literal.ofBinary64 x).toBinary64?.map some else some none := by
  unfold binary64
  split <;> rfl

end Json

end TextIndex
