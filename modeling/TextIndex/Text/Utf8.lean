/-!
# Reading UTF-8

Bytes are read character by character. Where they are no well-formed text, the fault tells how many
bytes from the start were good, and how many of the following ones are bad for certain, unless the
bytes simply end inside a character.

* `decode`: the text, or the first fault.
* `Fault.message`: the fault in words.
-/

namespace TextIndex.Text.Utf8

/-- Why bytes are no text: `validUpTo` bytes are good, then come `badBytes` bad ones, or too few
bytes to finish a character. -/
structure Fault where
  validUpTo : Nat
  badBytes : Option Nat
deriving DecidableEq, Repr

def Fault.message (fault : Fault) : String :=
  match fault.badBytes with
  | some count =>
    "invalid utf-8 sequence of " ++ toString count ++ " bytes from index " ++
      toString fault.validUpTo
  | none => "incomplete utf-8 byte sequence from index " ++ toString fault.validUpTo

def isContinuation (byte : UInt8) : Bool :=
  0x80 ≤ byte && byte ≤ 0xBF

def payload (byte : UInt8) : Nat :=
  byte.toNat % 64

/-- Whether a second byte may follow a first byte of three: no overlong form and no surrogate. -/
def secondOfThree (first second : UInt8) : Bool :=
  if first = 0xE0 then 0xA0 ≤ second && second ≤ 0xBF
  else if first = 0xED then 0x80 ≤ second && second ≤ 0x9F
  else isContinuation second

/-- Whether a second byte may follow a first byte of four: no overlong form and nothing beyond the
last code point. -/
def secondOfFour (first second : UInt8) : Bool :=
  if first = 0xF0 then 0x90 ≤ second && second ≤ 0xBF
  else if first = 0xF4 then 0x80 ≤ second && second ≤ 0x8F
  else isContinuation second

/-- The text of bytes that stand after `index` good ones. -/
def decodeFrom (index : Nat) : List UInt8 → Except Fault (List Char)
  | [] => .ok []
  | first :: rest =>
    if first < 0x80 then
      (decodeFrom (index + 1) rest).map (Char.ofNat first.toNat :: ·)
    else if 0xC2 ≤ first ∧ first ≤ 0xDF then
      match rest with
      | second :: rest =>
        if isContinuation second then
          (decodeFrom (index + 2) rest).map
            (Char.ofNat (first.toNat % 32 * 64 + payload second) :: ·)
        else .error ⟨index, some 1⟩
      | [] => .error ⟨index, none⟩
    else if 0xE0 ≤ first ∧ first ≤ 0xEF then
      match rest with
      | second :: rest =>
        if secondOfThree first second then
          match rest with
          | third :: rest =>
            if isContinuation third then
              (decodeFrom (index + 3) rest).map
                (Char.ofNat (first.toNat % 16 * 4096 + payload second * 64 + payload third) :: ·)
            else .error ⟨index, some 2⟩
          | [] => .error ⟨index, none⟩
        else .error ⟨index, some 1⟩
      | [] => .error ⟨index, none⟩
    else if 0xF0 ≤ first ∧ first ≤ 0xF4 then
      match rest with
      | second :: rest =>
        if secondOfFour first second then
          match rest with
          | third :: rest =>
            if isContinuation third then
              match rest with
              | fourth :: rest =>
                if isContinuation fourth then
                  (decodeFrom (index + 4) rest).map
                    (Char.ofNat (first.toNat % 8 * 262144 + payload second * 4096 +
                      payload third * 64 + payload fourth) :: ·)
                else .error ⟨index, some 3⟩
              | [] => .error ⟨index, none⟩
            else .error ⟨index, some 2⟩
          | [] => .error ⟨index, none⟩
        else .error ⟨index, some 1⟩
      | [] => .error ⟨index, none⟩
    else .error ⟨index, some 1⟩

/-- The text that bytes are the UTF-8 form of, or the first fault. -/
def decode (bytes : List UInt8) : Except Fault String :=
  (decodeFrom 0 bytes).map String.ofList

end TextIndex.Text.Utf8
