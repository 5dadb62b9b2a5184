import Mathlib.Tactic.Common

/-!
# Base64

The decoder is the lenient one of Python: it skips characters outside the
alphabet, stops at a complete padding, and fails when the input ends inside a
group.  It undoes the encoder on every byte string.
-/

namespace Base64

def alphabet : List Char :=
  "ABCDEFGHIJKLMNOPQRSTUVWXYZabcdefghijklmnopqrstuvwxyz0123456789+/".toList

def digitChar (digit : Nat) : Char := alphabet.getD digit 'A'

def charDigit? (char : Char) : Option Nat :=
  if char ∈ alphabet then some (alphabet.idxOf char) else none

def encode : List UInt8 → List Char
  | [] => []
  | [first] =>
      [digitChar (first.toNat / 4), digitChar (first.toNat % 4 * 16), '=', '=']
  | [first, second] =>
      [digitChar (first.toNat / 4),
        digitChar (first.toNat % 4 * 16 + second.toNat / 16),
        digitChar (second.toNat % 16 * 4), '=']
  | first :: second :: third :: rest =>
      digitChar (first.toNat / 4) ::
        digitChar (first.toNat % 4 * 16 + second.toNat / 16) ::
        digitChar (second.toNat % 16 * 4 + third.toNat / 64) ::
        digitChar (third.toNat % 64) :: encode rest

/-- Decode from a position in a group of four, with the bits left over from
the characters of the group and the padding seen since the last of them. -/
def decodeFrom : Nat → Nat → Nat → List Char → Option (List UInt8)
  | position, _, _, [] => if position = 0 then some [] else none
  | position, left, pads, char :: rest =>
      if char = '=' then
        if 2 ≤ position then
          if 4 ≤ position + pads + 1 then some []
          else decodeFrom position left (pads + 1) rest
        else decodeFrom position left pads rest
      else
        match charDigit? char with
        | none => decodeFrom position left pads rest
        | some digit =>
            match position with
            | 0 => decodeFrom 1 digit 0 rest
            | 1 => (UInt8.ofNat (left * 4 + digit / 16) :: ·) <$>
                decodeFrom 2 (digit % 16) 0 rest
            | 2 => (UInt8.ofNat (left * 16 + digit / 4) :: ·) <$>
                decodeFrom 3 (digit % 4) 0 rest
            | _ => (UInt8.ofNat (left * 64 + digit) :: ·) <$>
                decodeFrom 0 0 0 rest

/-- Text with a character outside ASCII is refused. -/
def decode (chars : List Char) : Option (List UInt8) :=
  if chars.all fun char => char.toNat < 128 then decodeFrom 0 0 0 chars
  else none

theorem charDigit?_digitChar {digit : Nat} (small : digit < 64) :
    charDigit? (digitChar digit) = some digit := by
  have checked : ∀ digit < 64, charDigit? (digitChar digit) = some digit := by
    decide +kernel
  exact checked digit small

theorem digitChar_ne_padding {digit : Nat} (small : digit < 64) :
    digitChar digit ≠ '=' := by
  have checked : ∀ digit < 64, digitChar digit ≠ '=' := by
    decide +kernel
  exact checked digit small

theorem digitChar_ascii (digit : Nat) : (digitChar digit).toNat < 128 := by
  by_cases small : digit < 64
  · have checked : ∀ digit < 64, (digitChar digit).toNat < 128 := by
      decide +kernel
    exact checked digit small
  · have outside : alphabet[digit]? = none :=
      List.getElem?_eq_none (Nat.le_of_not_lt small)
    rw [digitChar, List.getD_eq_getElem?_getD, outside]
    decide

theorem decodeFrom_digit
    {digit : Nat} (small : digit < 64) (position left pads : Nat)
    (rest : List Char) :
    decodeFrom position left pads (digitChar digit :: rest) =
      match position with
      | 0 => decodeFrom 1 digit 0 rest
      | 1 => (UInt8.ofNat (left * 4 + digit / 16) :: ·) <$>
          decodeFrom 2 (digit % 16) 0 rest
      | 2 => (UInt8.ofNat (left * 16 + digit / 4) :: ·) <$>
          decodeFrom 3 (digit % 4) 0 rest
      | _ => (UInt8.ofNat (left * 64 + digit) :: ·) <$>
          decodeFrom 0 0 0 rest := by
  rw [decodeFrom, if_neg (digitChar_ne_padding small),
    charDigit?_digitChar small]

theorem ofNat_eq_byte {byte : UInt8} {value : Nat} (same : value = byte.toNat) :
    UInt8.ofNat value = byte := by
  rw [same, UInt8.ofNat_toNat]

theorem decodeFrom_encode (bytes : List UInt8) :
    decodeFrom 0 0 0 (encode bytes) = some bytes := by
  induction bytes using encode.induct with
  | case1 => rfl
  | case2 first =>
      have firstSmall := first.toNat_lt
      rw [encode, decodeFrom_digit (by omega)]
      simp only []
      rw [decodeFrom_digit (by omega)]
      have ended : decodeFrom 2 (first.toNat % 4 * 16 % 16) 0 ['=', '='] =
          some [] := by
        simp [decodeFrom]
      rw [ended]
      exact congrArg (some [·]) (ofNat_eq_byte (by omega))
  | case3 first second =>
      have firstSmall := first.toNat_lt
      have secondSmall := second.toNat_lt
      rw [encode, decodeFrom_digit (by omega)]
      simp only []
      rw [decodeFrom_digit (by omega)]
      simp only []
      rw [decodeFrom_digit (by omega)]
      simp only [decodeFrom, if_true]
      rw [if_pos (by decide), if_pos (by decide)]
      simp only [Option.map_eq_map, Option.map_some, Option.some.injEq,
        List.cons.injEq, and_true]
      exact ⟨ofNat_eq_byte (by omega), ofNat_eq_byte (by omega)⟩
  | case4 first second third rest ih =>
      have firstSmall := first.toNat_lt
      have secondSmall := second.toNat_lt
      have thirdSmall := third.toNat_lt
      rw [encode, decodeFrom_digit (by omega)]
      simp only []
      rw [decodeFrom_digit (by omega)]
      simp only []
      rw [decodeFrom_digit (by omega)]
      simp only []
      rw [decodeFrom_digit (by omega)]
      simp only [ih, Option.map_eq_map, Option.map_some, Option.some.injEq,
        List.cons.injEq, and_true]
      exact ⟨ofNat_eq_byte (by omega), ofNat_eq_byte (by omega),
        ofNat_eq_byte (by omega)⟩

theorem encode_ascii (bytes : List UInt8) :
    ∀ char ∈ encode bytes, char.toNat < 128 := by
  induction bytes using encode.induct with
  | case1 => simp [encode]
  | case2 first =>
      simp [encode, digitChar_ascii]
  | case3 first second =>
      simp [encode, digitChar_ascii]
  | case4 first second third rest ih =>
      simp only [encode, List.mem_cons, forall_eq_or_imp, digitChar_ascii,
        true_and]
      exact ih

theorem decode_encode (bytes : List UInt8) :
    decode (encode bytes) = some bytes := by
  have ascii : (encode bytes).all fun char => char.toNat < 128 := by
    simpa using encode_ascii bytes
  rw [decode, if_pos ascii, decodeFrom_encode]

theorem four_dvd_length_encode (bytes : List UInt8) :
    (encode bytes).length % 4 = 0 := by
  induction bytes using encode.induct with
  | case1 => rfl
  | case2 first => simp [encode]
  | case3 first second => simp [encode]
  | case4 first second third rest ih =>
      simp only [encode, List.length_cons]
      omega

theorem encode_eq_nil_iff {bytes : List UInt8} : encode bytes = [] ↔ bytes = [] := by
  cases bytes with
  | nil => simp [encode]
  | cons first rest =>
      cases rest with
      | nil => simp [encode]
      | cons second rest => cases rest <;> simp [encode]

end Base64
