import TextIndex.Proofs.Number.Rounding

/-!
# The decimal that is written for a double

The decimal that is written for a double is one that the double attracts, so it is read as that
double wherever reading rounds once. Zeros at the end of its digits make no difference, and only a
zero is written without other digits.

* `Decimal.value`: the number that a decimal stands for.
* `Decimal.value_strip`: zeros at the end are left out.
* `Binary64.attracts_shortest`: what is written.
-/

namespace TextIndex

namespace Decimal

variable {decimal : Decimal}

/-- The number that a decimal stands for. -/
def value (decimal : Decimal) : ℚ :=
  decimal.digits * 10 ^ decimal.exponent

theorem value_ratio (decimal : Decimal) : Binary64.value decimal.ratio = decimal.value := by
  unfold ratio
  rw [Binary64.value_scaleDecimal]
  simp [Binary64.value, value]

/-! ### Zeros at the end -/

theorem value_stripFrom (fuel : Nat) (decimal : Decimal) :
    (stripFrom fuel decimal).value = decimal.value := by
  induction fuel generalizing decimal with
  | zero => rfl
  | succ fuel ih =>
    unfold stripFrom
    split
    · next ends =>
      have tenfold : decimal.digits = decimal.digits / 10 * 10 := by omega
      have inTens : (decimal.digits : ℚ) = (decimal.digits / 10 : Nat) * 10 := by
        exact_mod_cast tenfold
      rw [ih, value, value, inTens, zpow_add_one₀ (by norm_num)]
      ring
    · rfl

theorem value_strip (decimal : Decimal) : decimal.strip.value = decimal.value :=
  value_stripFrom _ decimal

theorem stripFrom_digits_ne_zero (fuel : Nat) (decimal : Decimal) (nonzero : decimal.digits ≠ 0) :
    (stripFrom fuel decimal).digits ≠ 0 := by
  induction fuel generalizing decimal with
  | zero => exact nonzero
  | succ fuel ih =>
    unfold stripFrom
    split
    · exact ih _ (by show decimal.digits / 10 ≠ 0; omega)
    · exact nonzero

theorem strip_digits_ne_zero (nonzero : decimal.digits ≠ 0) : decimal.strip.digits ≠ 0 :=
  stripFrom_digits_ne_zero _ decimal nonzero

end Decimal

namespace Binary64

variable {x : Binary64}

/-! ### What is written -/

theorem value_exact (x : Binary64) : x.exact.value = x.size := by
  unfold exact
  split
  · next whole =>
    obtain ⟨count, isCount⟩ := Int.eq_ofNat_of_zero_le whole
    rw [Decimal.value, size, isCount, Int.toNat_natCast, Nat.shiftLeft_eq]
    simp
  · next fractional =>
    obtain ⟨count, isCount⟩ :=
      Int.eq_ofNat_of_zero_le (Int.neg_nonneg.mpr (not_le.mp fractional).le)
    have unit : x.unitExponent = -(count : Int) := by omega
    have tens : (10 : ℚ) ^ (-(count : Int)) = 5 ^ (-(count : Int)) * 2 ^ (-(count : Int)) := by
      rw [← mul_zpow]
      norm_num
    have halves : (5 : ℚ) ^ count * 5 ^ (-(count : Int)) = 1 := by
      rw [← zpow_natCast, ← zpow_add₀ (by norm_num), add_neg_cancel, zpow_zero]
    have fives : ((Nat.pow 5 count : Nat) : ℚ) = 5 ^ count := Nat.cast_pow 5 count
    rw [Decimal.value, size, unit, neg_neg, Int.toNat_natCast, tens, Nat.cast_mul, fives, mul_assoc,
      ← mul_assoc (5 ^ count), halves, one_mul]

/-- A hit is a decimal that reads back and is not zero. -/
theorem of_hit? {tie : Tie} {exponent : Int} {decimal : Decimal}
    (found : hit? tie x exponent = some decimal) : x.readsBack decimal ∧ decimal.digits ≠ 0 := by
  simp only [hit?] at found
  split at found
  · next below above =>
    rw [Bool.and_eq_true, bne_iff_ne] at below
    -- both read back, and the nearer one is taken or the tie is broken
    split at found
    · obtain rfl := Option.some.inj found
      exact below
    · obtain rfl := Option.some.inj found
      exact ⟨above, Nat.succ_ne_zero _⟩
    · split at found
      · obtain rfl := Option.some.inj found
        exact below
      · obtain rfl := Option.some.inj found
        exact ⟨above, Nat.succ_ne_zero _⟩
  · next below above =>
    rw [Bool.and_eq_true, bne_iff_ne] at below
    obtain rfl := Option.some.inj found
    exact below
  · next below above =>
    obtain rfl := Option.some.inj found
    exact ⟨above, Nat.succ_ne_zero _⟩
  · cases found

/-- What is written is a hit, or the exact decimal if there is none. -/
theorem shortest_cases (tie : Tie) (positive : 0 < x.magnitude) :
    let size := ofMagnitude false x.magnitude
    (∃ decimal exponent, hit? tie size exponent = some decimal ∧
        x.shortest tie = decimal.strip) ∨
      x.shortest tie = size.exact.strip := by
  intro size
  simp only [shortest, if_neg positive.ne']
  split
  · next decimal found =>
    obtain ⟨more, -, hit⟩ := List.exists_of_findSome?_eq_some found
    exact .inl ⟨decimal, _, hit, rfl⟩
  · exact .inr rfl

/-- **A double attracts the decimal that is written for it**, which is not zero unless the double
is. -/
theorem attracts_shortest (tie : Tie) (positive : 0 < x.magnitude) :
    x.Attracts (x.shortest tie).value ∧ (x.shortest tie).digits ≠ 0 := by
  have same : (ofMagnitude false x.magnitude).magnitude = x.magnitude :=
    magnitude_ofMagnitude false x.magnitude_lt
  rcases shortest_cases tie positive with ⟨decimal, exponent, hit, written⟩ | written
  · obtain ⟨readsBack, nonzero⟩ := of_hit? hit
    rw [readsBack_iff, Decimal.value_ratio] at readsBack
    rw [written, Decimal.value_strip]
    exact ⟨readsBack.congr same, Decimal.strip_digits_ne_zero nonzero⟩
  · have own := attracts_size positive
    rw [written, Decimal.value_strip, value_exact, size_congr same]
    refine ⟨own, Decimal.strip_digits_ne_zero fun isZero => ?_⟩
    have isSize := (value_exact (ofMagnitude false x.magnitude)).trans (size_congr same)
    rw [Decimal.value, isZero, Nat.cast_zero, zero_mul] at isSize
    exact (size_pos_iff.mpr positive).ne isSize

end Binary64

end TextIndex
