import Mathlib.Algebra.Group.Nat.Defs
import TextIndex.Number.Digits

/-!
# Reading what was written in digits

The digits of a number stand for it, with any zeros in front. A run of digits is read up to the
first character that is no digit.

* `ofDigits_digitsOf`: the digits of a number stand for it.
* `digitRun_append`: a run of digits is read as it was written.
* `padded_eq`, `length_paddedDigits`: numbers of a fixed width.
* `ofList_signedDecimal`: an integer is written as integers are elsewhere.
-/

namespace TextIndex.Number

/-! ### Digits and characters -/

theorem digit?_digitChar {digit : Nat} (small : digit < 10) :
    digit? (digitChar digit) = some digit := by
  revert digit
  decide

theorem digitChar_ne {digit : Nat} (small : digit < 10) {c : Char} (other : digit? c = none) :
    digitChar digit ≠ c := by
  rintro rfl
  rw [digit?_digitChar small] at other
  cases other

/-- What comes after a number does not go on with a digit. -/
def Ends (rest : List Char) : Prop :=
  ∀ c ∈ rest.head?, digit? c = none

theorem ends_cons {c : Char} (other : digit? c = none) (rest : List Char) : Ends (c :: rest) := by
  intro first isFirst
  cases isFirst
  exact other

theorem digitRun_of_ends {rest : List Char} (ends : Ends rest) : digitRun rest = ([], rest) := by
  cases rest with
  | nil => rfl
  | cons c rest =>
    unfold digitRun
    rw [ends c rfl]

/-- **A run of digits is read as it was written.** -/
theorem digitRun_append {digits : List Nat} (small : ∀ digit ∈ digits, digit < 10)
    {rest : List Char} (ends : Ends rest) :
    digitRun (digits.map digitChar ++ rest) = (digits, rest) := by
  induction digits with
  | nil => exact digitRun_of_ends ends
  | cons first later ih =>
    rw [List.forall_mem_cons] at small
    rw [List.map_cons, List.cons_append]
    unfold digitRun
    rw [digit?_digitChar small.1, ih small.2]

theorem digitRun_map {digits : List Nat} (small : ∀ digit ∈ digits, digit < 10) :
    digitRun (digits.map digitChar) = (digits, []) := by
  have run := @digitRun_append _ small [] nofun
  rwa [List.append_nil] at run

/-! ### The digits of a number -/

theorem ofDigits_append (front back : List Nat) :
    ofDigits (front ++ back) =
      back.foldl (fun value digit => value * 10 + digit) (ofDigits front) :=
  List.foldl_append

/-- Zeros in front make no difference. -/
theorem ofDigits_replicate_zero_append (count : Nat) (digits : List Nat) :
    ofDigits (List.replicate count 0 ++ digits) = ofDigits digits := by
  induction count with
  | zero => rfl
  | succ count ih => exact ih

/-- Each zero behind makes it ten times as large. -/
theorem ofDigits_append_replicate_zero (digits : List Nat) (count : Nat) :
    ofDigits (digits ++ List.replicate count 0) = ofDigits digits * 10 ^ count := by
  induction count with
  | zero => simp
  | succ count ih =>
    rw [List.replicate_succ', ← List.append_assoc, ofDigits_append, ih]
    simp [Nat.pow_succ, Nat.mul_assoc]

theorem ofDigits_digitsOf (value : Nat) : ofDigits (digitsOf value) = value := by
  induction value using digitsOf.induct with
  | case1 value small =>
    rw [digitsOf, if_pos small]
    simp [ofDigits]
  | case2 value large ih =>
    rw [digitsOf, if_neg large, ofDigits_append, ih]
    simp only [List.foldl_cons, List.foldl_nil]
    omega

theorem lt_ten_of_mem_digitsOf {value digit : Nat} (member : digit ∈ digitsOf value) :
    digit < 10 := by
  induction value using digitsOf.induct with
  | case1 value small =>
    rw [digitsOf, if_pos small] at member
    rwa [List.mem_singleton.mp member]
  | case2 value large ih =>
    rw [digitsOf, if_neg large] at member
    rcases List.mem_append.mp member with front | last
    · exact ih front
    · rw [List.mem_singleton.mp last]
      omega

theorem digitsOf_ne_nil (value : Nat) : digitsOf value ≠ [] := by
  rw [digitsOf]
  split <;> simp

theorem head?_digitsOf_ne_zero {value : Nat} (positive : 0 < value) :
    (digitsOf value).head? ≠ some 0 := by
  induction value using digitsOf.induct with
  | case1 value small =>
    rw [digitsOf, if_pos small]
    simpa using Nat.ne_of_gt positive
  | case2 value large ih =>
    have front := ih (by omega)
    rw [digitsOf, if_neg large]
    cases digits : digitsOf (value / 10) with
    | nil => exact absurd digits (digitsOf_ne_nil _)
    | cons first rest =>
      rw [digits] at front
      exact front

/-- No number begins with a zero, but for zero itself. -/
theorem digitsOf_eq_zero_cons {value : Nat} {rest : List Nat}
    (leading : digitsOf value = 0 :: rest) : rest = [] := by
  rcases Nat.eq_zero_or_pos value with rfl | positive
  · rw [digitsOf] at leading
    simpa using leading.symm
  · have first := head?_digitsOf_ne_zero positive
    rw [leading] at first
    exact absurd rfl first

theorem length_digitsOf_le {value width : Nat} (roomy : 0 < width) (fits : value < 10 ^ width) :
    (digitsOf value).length ≤ width := by
  induction value using digitsOf.induct generalizing width with
  | case1 value small =>
    rw [digitsOf, if_pos small]
    exact roomy
  | case2 value large ih =>
    rw [digitsOf, if_neg large, List.length_append, List.length_singleton]
    obtain ⟨less, rfl⟩ := Nat.exists_eq_succ_of_ne_zero (Nat.ne_of_gt roomy)
    rw [Nat.pow_succ] at fits
    have wide : 0 < less := Nat.pos_of_ne_zero fun isZero => by
      rw [isZero] at fits
      omega
    have shorter := ih wide (by omega)
    omega

/-! ### Numbers of a fixed width -/

/-- The digits of a number with zeros in front. -/
def paddedDigits (width value : Nat) : List Nat :=
  List.replicate (width - (digitsOf value).length) 0 ++ digitsOf value

theorem padded_eq (width value : Nat) :
    padded width value = (paddedDigits width value).map digitChar := by
  unfold padded paddedDigits decimal
  rw [List.map_append, List.map_replicate, List.length_map]
  rfl

theorem ofDigits_paddedDigits (width value : Nat) :
    ofDigits (paddedDigits width value) = value := by
  unfold paddedDigits
  rw [ofDigits_replicate_zero_append, ofDigits_digitsOf]

theorem lt_ten_of_mem_paddedDigits {width value digit : Nat}
    (member : digit ∈ paddedDigits width value) : digit < 10 := by
  rcases List.mem_append.mp member with zero | own
  · rw [List.eq_of_mem_replicate zero]
    exact Nat.zero_lt_succ _
  · exact lt_ten_of_mem_digitsOf own

theorem paddedDigits_ne_nil (width value : Nat) : paddedDigits width value ≠ [] := by
  unfold paddedDigits
  simp [digitsOf_ne_nil]

/-- A number that fits has as many digits as there is room for. -/
theorem length_paddedDigits {width value : Nat} (roomy : 0 < width) (fits : value < 10 ^ width) :
    (paddedDigits width value).length = width := by
  have short := length_digitsOf_le roomy fits
  unfold paddedDigits
  rw [List.length_append, List.length_replicate]
  omega

/-! ### Decimal notation -/

theorem digitChar_eq {digit : Nat} (small : digit < 10) : digitChar digit = digit.digitChar := by
  revert digit
  decide

theorem decimal_eq_toDigits (value : Nat) : decimal value = Nat.toDigits 10 value := by
  unfold decimal
  induction value using digitsOf.induct with
  | case1 value small =>
    rw [digitsOf, if_pos small, List.map_singleton, digitChar_eq small,
      Nat.toDigits_of_lt_base small]
  | case2 value large ih =>
    have last : value % 10 < 10 := Nat.mod_lt _ (by decide)
    have longer := @Nat.toDigits_append_toDigits 10 (value / 10) _ (by decide) (by omega) last
    rw [Nat.toDigits_of_lt_base last, Nat.div_add_mod] at longer
    rw [digitsOf, if_neg large, List.map_append, ih, List.map_singleton, digitChar_eq last, longer]

theorem ofList_decimal (value : Nat) : String.ofList (decimal value) = toString value := by
  rw [decimal_eq_toDigits]
  exact Nat.repr_eq_ofList_toDigits.symm

theorem ofList_signedDecimal (value : Int) :
    String.ofList (signedDecimal value) = toString value := by
  unfold signedDecimal
  cases value with
  | ofNat value =>
    have notNegative : ¬Int.ofNat value < 0 := Int.not_lt.mpr (Int.natCast_nonneg value)
    rw [if_neg notNegative]
    exact ofList_decimal value
  | negSucc value =>
    rw [if_pos (Int.negSucc_lt_zero value), ← List.singleton_append, String.ofList_append,
      ofList_decimal]
    rfl

end TextIndex.Number
