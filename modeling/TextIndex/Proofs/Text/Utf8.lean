import Mathlib.Data.List.Basic
import TextIndex.Text.Utf8

/-!
# Reading UTF-8 back

Bytes are read as a text exactly if they are the UTF-8 form of that text. So they are refused
exactly if they are the form of no text at all.

* `encode_one`, `encode_two`, `encode_three`, `encode_four`: the bytes of a character that was read.
* `decodeFrom_encode`: the character that is read from its bytes.
* `decode_eq_ok_iff`: what is read from bytes.
* `exists_decode_eq_error_iff`: which bytes are refused.
-/

namespace TextIndex.Text.Utf8

theorem map_eq_ok {α β ε : Type} {f : α → β} {result : Except ε α} {value : β} :
    result.map f = .ok value ↔ ∃ inner, result = .ok inner ∧ f inner = value := by
  cases result <;> simp [Except.map]

/-! ### Bytes as numbers -/

section Bytes

variable {first second byte : UInt8} {value : Nat}

theorem between_iff {low high : UInt8} :
    low ≤ byte ∧ byte ≤ high ↔ low.toNat ≤ byte.toNat ∧ byte.toNat ≤ high.toNat := by
  rw [UInt8.le_iff_toNat_le, UInt8.le_iff_toNat_le]

theorem isContinuation_iff :
    isContinuation byte = true ↔ 128 ≤ byte.toNat ∧ byte.toNat ≤ 191 := by
  simp [isContinuation, UInt8.le_iff_toNat_le]

theorem secondOfThree_iff : secondOfThree first second = true ↔
    (128 ≤ second.toNat ∧ second.toNat ≤ 191) ∧ (first.toNat = 224 → 160 ≤ second.toNat) ∧
      (first.toNat = 237 → second.toNat ≤ 159) := by
  simp only [secondOfThree, isContinuation, ← UInt8.toNat_inj, UInt8.le_iff_toNat_le,
    UInt8.reduceToNat]
  split_ifs <;> simp <;> omega

theorem secondOfFour_iff : secondOfFour first second = true ↔
    (128 ≤ second.toNat ∧ second.toNat ≤ 191) ∧ (first.toNat = 240 → 144 ≤ second.toNat) ∧
      (first.toNat = 244 → second.toNat ≤ 143) := by
  simp only [secondOfFour, isContinuation, ← UInt8.toNat_inj, UInt8.le_iff_toNat_le,
    UInt8.reduceToNat]
  split_ifs <;> simp <;> omega

theorem toNat_byte (small : value < 256) : (UInt8.ofNat value).toNat = value :=
  UInt8.toNat_ofNat_of_lt' small

theorem byte_eq (same : value = byte.toNat) : UInt8.ofNat value = byte := by
  rw [same, UInt8.ofNat_toNat]

theorem ofNat_eq {c : Char} (same : value = c.toNat) : Char.ofNat value = c := by
  rw [same, Char.ofNat_toNat]

theorem encode_ofNat (valid : value.isValidChar) : String.utf8EncodeChar (Char.ofNat value) =
    if value ≤ 127 then [UInt8.ofNat value]
    else if value ≤ 2047 then [UInt8.ofNat (value / 64 % 32 + 192), UInt8.ofNat (value % 64 + 128)]
    else if value ≤ 65535 then
      [UInt8.ofNat (value / 4096 % 16 + 224), UInt8.ofNat (value / 64 % 64 + 128),
        UInt8.ofNat (value % 64 + 128)]
    else
      [UInt8.ofNat (value / 262144 % 8 + 240), UInt8.ofNat (value / 4096 % 64 + 128),
        UInt8.ofNat (value / 64 % 64 + 128), UInt8.ofNat (value % 64 + 128)] := by
  have same : (Char.ofNat value).val.toNat = value := by
    unfold Char.ofNat
    rw [dif_pos valid]
    rfl
  unfold String.utf8EncodeChar
  simp only [same]

end Bytes

/-! ### One character

For each number of bytes: what they are read as, and that these bytes are its form. -/

section Characters

variable {first second third fourth : UInt8} {rest : List UInt8} (index : Nat)

theorem encode_one (ascii : first < 0x80) :
    String.utf8EncodeChar (Char.ofNat first.toNat) = [first] := by
  have small : first.toNat < 128 := UInt8.lt_iff_toNat_lt.mp ascii
  rw [encode_ofNat (.inl (by omega)), if_pos (by omega), UInt8.ofNat_toNat]

theorem encode_two (lead : 0xC2 ≤ first ∧ first ≤ 0xDF) (follows : isContinuation second = true) :
    String.utf8EncodeChar (Char.ofNat (first.toNat % 32 * 64 + payload second)) =
      [first, second] := by
  obtain ⟨low, high⟩ := between_iff.mp lead
  have range := isContinuation_iff.mp follows
  simp only [UInt8.reduceToNat] at low high
  unfold payload
  rw [encode_ofNat (.inl (by omega)), if_neg (by omega), if_pos (by omega),
    @byte_eq first _ (by omega), @byte_eq second _ (by omega)]

theorem encode_three (lead : 0xE0 ≤ first ∧ first ≤ 0xEF)
    (follows : secondOfThree first second = true) (ends : isContinuation third = true) :
    String.utf8EncodeChar
        (Char.ofNat (first.toNat % 16 * 4096 + payload second * 64 + payload third)) =
      [first, second, third] := by
  obtain ⟨low, high⟩ := between_iff.mp lead
  obtain ⟨range, notOverlong, notSurrogate⟩ := secondOfThree_iff.mp follows
  have last := isContinuation_iff.mp ends
  simp only [UInt8.reduceToNat] at low high
  unfold payload
  have valid : (first.toNat % 16 * 4096 + second.toNat % 64 * 64 +
      third.toNat % 64).isValidChar := by
    unfold Nat.isValidChar
    omega
  rw [encode_ofNat valid, if_neg (by omega), if_neg (by omega), if_pos (by omega),
    @byte_eq first _ (by omega), @byte_eq second _ (by omega), @byte_eq third _ (by omega)]

theorem encode_four (lead : 0xF0 ≤ first ∧ first ≤ 0xF4)
    (follows : secondOfFour first second = true) (goesOn : isContinuation third = true)
    (ends : isContinuation fourth = true) :
    String.utf8EncodeChar
        (Char.ofNat (first.toNat % 8 * 262144 + payload second * 4096 + payload third * 64 +
          payload fourth)) = [first, second, third, fourth] := by
  obtain ⟨low, high⟩ := between_iff.mp lead
  obtain ⟨range, notOverlong, notBeyond⟩ := secondOfFour_iff.mp follows
  have middle := isContinuation_iff.mp goesOn
  have last := isContinuation_iff.mp ends
  simp only [UInt8.reduceToNat] at low high
  unfold payload
  have valid : (first.toNat % 8 * 262144 + second.toNat % 64 * 4096 + third.toNat % 64 * 64 +
      fourth.toNat % 64).isValidChar := by
    unfold Nat.isValidChar
    omega
  rw [encode_ofNat valid, if_neg (by omega), if_neg (by omega), if_neg (by omega),
    @byte_eq first _ (by omega), @byte_eq second _ (by omega), @byte_eq third _ (by omega),
    @byte_eq fourth _ (by omega)]

theorem decodeFrom_one (ascii : first < 0x80) : decodeFrom index (first :: rest) =
    (decodeFrom (index + 1) rest).map (Char.ofNat first.toNat :: ·) := by
  rw [decodeFrom.eq_def]
  exact if_pos ascii

theorem not_between {low high least : UInt8} (beyond : high < least) (lead : least ≤ first) :
    ¬(low ≤ first ∧ first ≤ high) :=
  fun between => UInt8.not_lt.mpr between.2 (UInt8.lt_of_lt_of_le beyond lead)

theorem not_ascii {least : UInt8} (beyond : 0x80 ≤ least) (lead : least ≤ first) :
    ¬first < 0x80 :=
  UInt8.not_lt.mpr (UInt8.le_trans beyond lead)

theorem decodeFrom_two (lead : 0xC2 ≤ first ∧ first ≤ 0xDF)
    (follows : isContinuation second = true) : decodeFrom index (first :: second :: rest) =
      (decodeFrom (index + 2) rest).map
        (Char.ofNat (first.toNat % 32 * 64 + payload second) :: ·) := by
  rw [decodeFrom.eq_def]
  simp only [if_neg (not_ascii (by decide) lead.1), if_pos lead, if_pos follows]

theorem decodeFrom_three (lead : 0xE0 ≤ first ∧ first ≤ 0xEF)
    (follows : secondOfThree first second = true) (ends : isContinuation third = true) :
    decodeFrom index (first :: second :: third :: rest) = (decodeFrom (index + 3) rest).map
      (Char.ofNat (first.toNat % 16 * 4096 + payload second * 64 + payload third) :: ·) := by
  have notTwo : ¬(0xC2 ≤ first ∧ first ≤ 0xDF) := not_between (by decide) lead.1
  rw [decodeFrom.eq_def]
  simp only [if_neg (not_ascii (by decide) lead.1), if_neg notTwo, if_pos lead, if_pos follows,
    if_pos ends]

theorem decodeFrom_four (lead : 0xF0 ≤ first ∧ first ≤ 0xF4)
    (follows : secondOfFour first second = true) (goesOn : isContinuation third = true)
    (ends : isContinuation fourth = true) :
    decodeFrom index (first :: second :: third :: fourth :: rest) =
      (decodeFrom (index + 4) rest).map
        (Char.ofNat (first.toNat % 8 * 262144 + payload second * 4096 + payload third * 64 +
          payload fourth) :: ·) := by
  have notTwo : ¬(0xC2 ≤ first ∧ first ≤ 0xDF) := not_between (by decide) lead.1
  have notThree : ¬(0xE0 ≤ first ∧ first ≤ 0xEF) := not_between (by decide) lead.1
  rw [decodeFrom.eq_def]
  simp only [if_neg (not_ascii (by decide) lead.1), if_neg notTwo, if_neg notThree, if_pos lead,
    if_pos follows, if_pos goesOn, if_pos ends]

/-- A character is read from its bytes, whatever comes after them. -/
theorem decodeFrom_encode (c : Char) (rest : List UInt8) :
    ∃ next, decodeFrom index (String.utf8EncodeChar c ++ rest) =
      (decodeFrom next rest).map (c :: ·) := by
  have valid : c.toNat.isValidChar := c.valid
  have form := @encode_ofNat c.toNat valid
  rw [Char.ofNat_toNat] at form
  rw [form]
  unfold Nat.isValidChar at valid
  split_ifs with one two three
  · have ascii : UInt8.ofNat c.toNat < 0x80 := by
      rw [UInt8.lt_iff_toNat_lt, toNat_byte (by omega)]
      simp only [UInt8.reduceToNat]
      omega
    refine ⟨index + 1, ?_⟩
    rw [List.singleton_append, decodeFrom_one _ ascii, toNat_byte (by omega), Char.ofNat_toNat]
  · have lead := @between_iff (UInt8.ofNat (c.toNat / 64 % 32 + 192)) 0xC2 0xDF
    have follows := @isContinuation_iff (UInt8.ofNat (c.toNat % 64 + 128))
    rw [toNat_byte (by omega)] at lead follows
    simp only [UInt8.reduceToNat] at lead
    refine ⟨index + 2, ?_⟩
    rw [List.cons_append, List.singleton_append,
      decodeFrom_two _ (lead.mpr (by omega)) (follows.mpr (by omega)), @ofNat_eq _ c]
    unfold payload
    rw [toNat_byte (by omega), toNat_byte (by omega)]
    omega
  · have lead := @between_iff (UInt8.ofNat (c.toNat / 4096 % 16 + 224)) 0xE0 0xEF
    have follows := @secondOfThree_iff (UInt8.ofNat (c.toNat / 4096 % 16 + 224))
      (UInt8.ofNat (c.toNat / 64 % 64 + 128))
    have ends := @isContinuation_iff (UInt8.ofNat (c.toNat % 64 + 128))
    rw [toNat_byte (by omega)] at lead follows ends
    rw [toNat_byte (by omega)] at follows
    simp only [UInt8.reduceToNat] at lead
    refine ⟨index + 3, ?_⟩
    rw [List.cons_append, List.cons_append, List.singleton_append,
      decodeFrom_three _ (lead.mpr (by omega)) (follows.mpr (by omega)) (ends.mpr (by omega)),
      @ofNat_eq _ c]
    unfold payload
    rw [toNat_byte (by omega), toNat_byte (by omega), toNat_byte (by omega)]
    omega
  · have lead := @between_iff (UInt8.ofNat (c.toNat / 262144 % 8 + 240)) 0xF0 0xF4
    have follows := @secondOfFour_iff (UInt8.ofNat (c.toNat / 262144 % 8 + 240))
      (UInt8.ofNat (c.toNat / 4096 % 64 + 128))
    have goesOn := @isContinuation_iff (UInt8.ofNat (c.toNat / 64 % 64 + 128))
    have ends := @isContinuation_iff (UInt8.ofNat (c.toNat % 64 + 128))
    rw [toNat_byte (by omega)] at lead follows goesOn ends
    rw [toNat_byte (by omega)] at follows
    simp only [UInt8.reduceToNat] at lead
    refine ⟨index + 4, ?_⟩
    rw [List.cons_append, List.cons_append, List.cons_append, List.singleton_append,
      decodeFrom_four _ (lead.mpr (by omega)) (follows.mpr (by omega)) (goesOn.mpr (by omega))
        (ends.mpr (by omega)), @ofNat_eq _ c]
    unfold payload
    rw [toNat_byte (by omega), toNat_byte (by omega), toNat_byte (by omega),
      toNat_byte (by omega)]
    omega

end Characters

/-! ### Texts -/

/-- What was read is the text whose form the bytes are. -/
theorem encode_of_decodeFrom {index : Nat} {bytes : List UInt8} {chars : List Char}
    (done : decodeFrom index bytes = .ok chars) :
    chars.flatMap String.utf8EncodeChar = bytes := by
  fun_induction decodeFrom index bytes generalizing chars with
  | case1 =>
    obtain rfl := Except.ok.inj done
    rfl
  | case2 index first rest ascii ih =>
    obtain ⟨later, read, rfl⟩ := map_eq_ok.mp done
    rw [List.flatMap_cons, encode_one ascii, ih read]
    rfl
  | case3 index first ascii lead second rest follows ih =>
    obtain ⟨later, read, rfl⟩ := map_eq_ok.mp done
    rw [List.flatMap_cons, encode_two lead follows, ih read]
    rfl
  | case6 index first ascii notTwo lead second follows third rest ends ih =>
    obtain ⟨later, read, rfl⟩ := map_eq_ok.mp done
    rw [List.flatMap_cons, encode_three lead follows ends, ih read]
    rfl
  | case11 index first ascii notTwo notThree lead second follows third goesOn fourth rest ends ih =>
    obtain ⟨later, read, rfl⟩ := map_eq_ok.mp done
    rw [List.flatMap_cons, encode_four lead follows goesOn ends, ih read]
    rfl
  | _ => cases done

theorem decodeFrom_flatMap_encode (index : Nat) (chars : List Char) :
    decodeFrom index (chars.flatMap String.utf8EncodeChar) = .ok chars := by
  induction chars generalizing index with
  | nil => exact decodeFrom.eq_def index []
  | cons c later ih =>
    obtain ⟨next, read⟩ := decodeFrom_encode index c (later.flatMap String.utf8EncodeChar)
    rw [List.flatMap_cons, read, ih]
    rfl

theorem toUTF8_eq (text : String) :
    text.toUTF8 = (text.toList.flatMap String.utf8EncodeChar).toByteArray := by
  rw [String.toUTF8_eq_toByteArray, ← String.utf8Encode_toList]
  rfl

theorem toByteArray_inj {first second : List UInt8}
    (same : first.toByteArray = second.toByteArray) : first = second := by
  have data := congrArg (·.data.toList) same
  simpa using data

/-- **Bytes are read as the text that they are the UTF-8 form of.** -/
theorem decode_eq_ok_iff {bytes : List UInt8} {text : String} :
    decode bytes = .ok text ↔ text.toUTF8 = bytes.toByteArray := by
  rw [toUTF8_eq]
  constructor
  · intro done
    obtain ⟨chars, read, rfl⟩ := map_eq_ok.mp done
    rw [String.toList_ofList, encode_of_decodeFrom read]
  · intro same
    refine map_eq_ok.mpr ⟨text.toList, ?_, String.ofList_toList⟩
    rw [← toByteArray_inj same]
    exact decodeFrom_flatMap_encode 0 text.toList

/-- **Bytes are refused if they are no UTF-8**, and only then. -/
theorem exists_decode_eq_error_iff {bytes : List UInt8} :
    (∃ fault, decode bytes = .error fault) ↔ ¬bytes.toByteArray.IsValidUTF8 := by
  have read : bytes.toByteArray.IsValidUTF8 ↔ ∃ text, decode bytes = .ok text := by
    simp only [decode_eq_ok_iff, String.toUTF8_eq_toByteArray]
    constructor
    · rintro ⟨chars, same⟩
      exact ⟨String.ofList chars, String.toByteArray_ofList.trans same.symm⟩
    · rintro ⟨text, same⟩
      exact ⟨text.toList, same.symm.trans String.utf8Encode_toList.symm⟩
  rw [read]
  cases decode bytes <;> simp

end TextIndex.Text.Utf8
