import TextIndex.Time.InternetTime
import TextIndex.Proofs.Number.Digits

/-!
# Reading time stamps that were written

A time stamp is read part by part as it was written: the year with its sign, numbers of two digits
between separators, a fraction of as many digits as it needs, and the offset. No part begins with
white space, and the year and the fraction end where no digit follows.

* `Stamp.number?_padded`, `Stamp.year?_yearText`, `Stamp.fraction?_fractionText`: the parts.
* `Instant.ofLocal?_zero`: clocks at the zero meridian.
* `Instant.ofStamp?_stamp`: an instant is found again from its time stamp.
-/

namespace TextIndex.Time

open TextIndex.Number TextIndex.Unicode

namespace Stamp

theorem dropWhiteSpace_cons {c : Char} (visible : isWhiteSpace c = false) (rest : List Char) :
    dropWhiteSpace (c :: rest) = c :: rest :=
  List.dropWhile_cons_of_neg (by simp [visible])

theorem isWhiteSpace_digitChar {digit : Nat} (small : digit < 10) :
    isWhiteSpace (digitChar digit) = false := by
  revert digit
  decide

/-- A number of a fixed width begins with a digit. -/
theorem padded_eq_cons (width value : Nat) :
    ∃ digit < 10, ∃ later, padded width value = digitChar digit :: later := by
  obtain ⟨first, later, digits⟩ := List.exists_cons_of_ne_nil (paddedDigits_ne_nil width value)
  refine ⟨first, lt_ten_of_mem_paddedDigits (digits ▸ List.mem_cons_self), later.map digitChar, ?_⟩
  rw [padded_eq, digits, List.map_cons]

/-! ### Parts of a time stamp -/

/-- **A number that fits its width is read as it was written**, whatever comes after it. -/
theorem number?_padded {width value : Nat} (roomy : 0 < width) (fits : value < 10 ^ width)
    (rest : List Char) : number? width (padded width value ++ rest) = some (value, rest) := by
  obtain ⟨digit, small, later, begins⟩ := padded_eq_cons width value
  have visible : dropWhiteSpace (padded width value ++ rest) = padded width value ++ rest := by
    rw [begins, List.cons_append, dropWhiteSpace_cons (isWhiteSpace_digitChar small)]
  have length : (padded width value).length = width := by
    rw [padded_eq, List.length_map, length_paddedDigits roomy fits]
  have run : (digitRun (padded width value)).1 = paddedDigits width value := by
    rw [padded_eq, digitRun_map fun _ => lt_ten_of_mem_paddedDigits]
  unfold number?
  simp only [visible, List.take_left' length, run, paddedDigits_ne_nil, if_false,
    ofDigits_paddedDigits, length_paddedDigits roomy fits, List.drop_left' length]

theorem digitRun_padded (width value : Nat) {rest : List Char} (ends : Ends rest) :
    digitRun (padded width value ++ rest) = (paddedDigits width value, rest) := by
  rw [padded_eq, digitRun_append (fun _ => lt_ten_of_mem_paddedDigits) ends]

theorem year?_yearText (year : Int) {rest : List Char} (ends : Ends rest) :
    year? (yearText year ++ rest) = some (year, rest) := by
  unfold yearText
  by_cases common : 0 ≤ year ∧ year ≤ 9999
  · have read := number?_padded (show 0 < 4 by decide) (show year.toNat < 10 ^ 4 by omega) rest
    obtain ⟨digit, small, later, begins⟩ := padded_eq_cons 4 year.toNat
    have minus : digitChar digit ≠ '-' := digitChar_ne small rfl
    have plus : digitChar digit ≠ '+' := digitChar_ne small rfl
    rw [begins, List.cons_append] at read
    rw [if_pos common, begins, List.cons_append]
    unfold year?
    rw [dropWhiteSpace_cons (isWhiteSpace_digitChar small)]
    dsimp only
    split
    · next same => exact absurd (List.cons.inj same).1 minus
    · next same => exact absurd (List.cons.inj same).1 plus
    · rw [read, Option.map_some, Int.toNat_of_nonneg common.1]
  · have run := digitRun_padded 4 year.natAbs ends
    obtain ⟨first, later, digits⟩ := List.exists_cons_of_ne_nil (paddedDigits_ne_nil 4 year.natAbs)
    have stands := ofDigits_paddedDigits 4 year.natAbs
    rw [digits] at run stands
    rw [if_neg common, List.cons_append]
    unfold year?
    split
    all_goals
      rw [dropWhiteSpace_cons rfl]
      simp only [run, stands, Option.some.injEq, Prod.mk.injEq, and_true]
      omega

theorem separator?_cons {mark : Char} (visible : isWhiteSpace mark = false) (rest : List Char) :
    separator? mark (mark :: rest) = some rest := by
  unfold separator?
  rw [dropWhiteSpace_cons visible]
  exact if_pos rfl

theorem fraction?_point {width value : Nat} (roomy : 0 < width) (short : width ≤ 9)
    (fits : value < 10 ^ width) {rest : List Char} (ends : Ends rest) :
    fraction? ('.' :: (padded width value ++ rest)) = some (value * 10 ^ (9 - width), rest) := by
  have run := digitRun_padded width value ends
  have length := length_paddedDigits roomy fits
  have stands := ofDigits_paddedDigits width value
  obtain ⟨first, later, digits⟩ := List.exists_cons_of_ne_nil (paddedDigits_ne_nil width value)
  rw [digits] at run length stands
  have whole : (first :: later).take 9 = first :: later := List.take_of_length_le (by omega)
  unfold fraction?
  simp only [run, whole, ofDigits_append_replicate_zero, stands, length]

/-- **A fraction is read as it was written**, in as many digits as it needs. -/
theorem fraction?_fractionText {nanos : Nat} (small : nanos < nanosPerSecond) {rest : List Char}
    (ends : Ends rest) (noPoint : rest.head? ≠ some '.') :
    fraction? (fractionText nanos ++ rest) = some (nanos, rest) := by
  unfold nanosPerSecond at small
  unfold fractionText
  repeat' split
  · next zero =>
    unfold fraction?
    split <;> simp_all
  all_goals
    rw [List.cons_append, fraction?_point (by decide) (by decide) (by omega) ends]
    simp only [Option.some.injEq, Prod.mk.injEq, and_true]
    omega

/-- One part is read, and then the others from what comes after it. -/
theorem bind_eq_some_of {α β : Type} {part : Option α} {others : α → Option β} {value : α}
    {result : β} (first : part = some value) (later : others value = some result) :
    part.bind others = some result :=
  Option.bind_eq_some_iff.mpr ⟨value, first, later⟩

end Stamp

/-! ### Instants -/

theorem daysInMonth_le (year : Int) (month : Nat) : daysInMonth year month ≤ 31 := by
  unfold daysInMonth
  repeat' split
  all_goals omega

namespace Instant

theorem of?_parts (moment : Instant) :
    of? moment.date moment.second moment.nanos = some moment := by
  unfold of?
  rw [dif_pos moment.second_lt, dif_pos moment.nanos_lt, dif_pos moment.leap_at_end]

/-- Clocks at the zero meridian show the instant itself. -/
theorem ofLocal?_zero (moment : Instant) :
    ofLocal? 0 moment.date moment.second moment.nanos = some moment := by
  have early : (moment.second : Int) < secondsPerDay := by
    unfold secondsPerDay
    exact_mod_cast moment.second_lt
  have wraps : ((moment.second : Int) % secondsPerDay).toNat = moment.second := by
    rw [Int.emod_eq_of_lt (Int.natCast_nonneg _) early, Int.toNat_natCast]
  unfold ofLocal?
  simp only [Int.sub_zero, Int.not_lt.mpr (Int.natCast_nonneg _), early, wraps, if_true, if_false,
    Option.bind_some, of?_parts]

open Stamp in
/-- **An instant is found again from its time stamp**, unless it is in a leap second. -/
theorem ofStamp?_stamp {moment : Instant} (plain : moment.nanos < nanosPerSecond) :
    ofStamp? (moment.stamp .letter) = some moment := by
  have whole : moment.nanos / nanosPerSecond = 0 := Nat.div_eq_of_lt plain
  have part : moment.nanos % nanosPerSecond = moment.nanos := Nat.mod_eq_of_lt plain
  have early := moment.second_lt
  have monthMem := moment.date.month_mem
  have dayMem := moment.date.day_mem
  have days := daysInMonth_le moment.date.year moment.date.month
  have two {value : Nat} (fits : value < 100) (rest : List Char) :
      number? 2 (padded 2 value ++ rest) = some (value, rest) :=
    number?_padded (by decide) fits rest
  have dash (rest : List Char) : separator? '-' ('-' :: rest) = some rest :=
    separator?_cons rfl rest
  have colon (rest : List Char) : separator? ':' (':' :: rest) = some rest :=
    separator?_cons rfl rest
  unfold stamp ofStamp?
  simp only [List.append_assoc, List.cons_append, whole, part, Nat.add_zero, ZoneStyle.text]
  refine bind_eq_some_of (year?_yearText _ (ends_cons rfl _)) (bind_eq_some_of (dash _) ?_)
  refine bind_eq_some_of (two (by omega) _) (bind_eq_some_of (dash _) ?_)
  refine bind_eq_some_of (two (by omega) _) (bind_eq_some_of (Date.of?_parts _) ?_)
  -- the letter between date and time of day
  refine bind_eq_some_of rfl ?_
  refine bind_eq_some_of (two (by omega) _) (bind_eq_some_of (colon _) ?_)
  refine bind_eq_some_of (two (by omega) _) (bind_eq_some_of (colon _) ?_)
  refine bind_eq_some_of (two (by omega) _) ?_
  refine bind_eq_some_of (fraction?_fractionText plain (ends_cons rfl _) nofun) ?_
  refine bind_eq_some_of (show offset? ['Z'] = some (0, []) from rfl) ?_
  have together : moment.second / 3600 * 3600 + moment.second / 60 % 60 * 60 +
      min (moment.second % 60) 59 = moment.second := by omega
  dsimp only
  rw [if_pos ⟨by omega, by omega, by omega, by decide, rfl⟩, together, if_neg (by omega),
    ofLocal?_zero]

end Instant

end TextIndex.Time
