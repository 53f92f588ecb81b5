import TextIndex.Proofs.Number.Rounding

/-!
# The infinities

Every number lies between the two infinities, and a finite one strictly. What is no number compares
with nothing.

* `Binary64.place_le`, `Binary64.place_lt`: the places of numbers.
* `Binary64.infinity_le`, `Binary64.le_infinity`: only what is no number is kept out by an infinity.
* `Binary64.le_lower_iff`, `Binary64.upper_le_iff`: nothing lies beyond an infinity.
-/

namespace TextIndex

namespace Binary64

variable {value : Binary64}

@[simp]
theorem isNaN_infinity (negative : Bool) : (infinity negative).isNaN = false := by
  cases negative <;> decide

theorem not_isFinite_infinity (negative : Bool) : ¬(infinity negative).isFinite := by
  cases negative <;> decide

theorem place_infinity (negative : Bool) :
    (infinity negative).place =
      if negative then -(infiniteMagnitude : Int) else infiniteMagnitude := by
  cases negative <;> decide

theorem isNaN_of_isFinite (finite : value.isFinite) : value.isNaN = false :=
  decide_eq_false (not_lt.mpr (of_decide_eq_true finite).le)

/-- A number lies between the infinities. -/
theorem place_le (number : value.isNaN = false) :
    (infinity true).place ≤ value.place ∧ value.place ≤ (infinity false).place := by
  have small : value.magnitude ≤ infiniteMagnitude := not_lt.mp (of_decide_eq_false number)
  simp only [place_infinity, if_true, Bool.false_eq_true, if_false]
  unfold place
  split <;> omega

/-- A finite number is neither of them. -/
theorem place_lt (finite : value.isFinite) :
    (infinity true).place < value.place ∧ value.place < (infinity false).place := by
  have small : value.magnitude < infiniteMagnitude := of_decide_eq_true finite
  simp only [place_infinity, if_true, Bool.false_eq_true, if_false]
  unfold place
  split <;> omega

/-- An infinity is the only value at its place. -/
theorem eq_infinity_of_place {negative : Bool} (same : value.place = (infinity negative).place) :
    value = infinity negative := by
  have positive : 0 < infiniteMagnitude := by decide
  obtain ⟨sign, magnitude⟩ :
      value.negative = negative ∧ value.magnitude = infiniteMagnitude := by
    rw [place_infinity] at same
    unfold place at same
    cases sign : value.negative <;> cases negative <;>
      simp only [sign, if_true, Bool.false_eq_true, if_false] at same
    · exact ⟨rfl, by omega⟩
    · omega
    · omega
    · exact ⟨rfl, by omega⟩
  unfold infinity
  rw [← sign, ← magnitude, ofMagnitude_negative_magnitude]

/-! ### Comparison with an infinity -/

theorem infinity_le (value : Binary64) : (infinity true).le value = !value.isNaN := by
  unfold le
  cases number : value.isNaN with
  | true => simp
  | false => simp [(place_le number).1]

theorem le_infinity (value : Binary64) : value.le (infinity false) = !value.isNaN := by
  unfold le
  cases number : value.isNaN with
  | true => simp
  | false => simp [(place_le number).2]

theorem infinity_lt (finite : value.isFinite) : (infinity true).lt value = true := by
  unfold lt
  simp [isNaN_of_isFinite finite, (place_lt finite).1]

theorem lt_infinity (finite : value.isFinite) : value.lt (infinity false) = true := by
  unfold lt
  simp [isNaN_of_isFinite finite, (place_lt finite).2]

theorem not_lt_lower (value : Binary64) : value.lt (infinity true) = false := by
  unfold lt
  cases number : value.isNaN with
  | true => rfl
  | false => simp [(place_le number).1]

theorem not_upper_lt (value : Binary64) : (infinity false).lt value = false := by
  unfold lt
  cases number : value.isNaN with
  | true => simp
  | false => simp [(place_le number).2]

/-- Nothing but the lower infinity itself lies at or below it. -/
theorem le_lower_iff : value.le (infinity true) ↔ value = infinity true := by
  constructor
  · intro below
    unfold le at below
    simp only [Bool.and_eq_true, Bool.not_eq_true', decide_eq_true_eq] at below
    obtain ⟨⟨number, -⟩, below⟩ := below
    exact eq_infinity_of_place (le_antisymm below (place_le number).1)
  · rintro rfl
    rw [infinity_le, isNaN_infinity]
    rfl

/-- Nothing but the upper infinity itself lies at or above it. -/
theorem upper_le_iff : (infinity false).le value ↔ value = infinity false := by
  constructor
  · intro above
    unfold le at above
    simp only [Bool.and_eq_true, Bool.not_eq_true', decide_eq_true_eq] at above
    obtain ⟨⟨-, number⟩, above⟩ := above
    exact eq_infinity_of_place (le_antisymm (place_le number).2 above)
  · rintro rfl
    rw [le_infinity, isNaN_infinity]
    rfl

end Binary64

end TextIndex
