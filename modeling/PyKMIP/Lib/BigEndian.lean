import Mathlib.Algebra.Group.Int.Defs
import Mathlib.Algebra.GroupWithZero.Nat
import Mathlib.Tactic.Common

/-!
# Big-endian numbers

Numbers as byte strings of a fixed width, the most significant byte first;
signed numbers in two's complement.
-/

namespace BigEndian

/-- The last bytes of a number. -/
def encode : Nat → Nat → List UInt8
  | 0, _ => []
  | width + 1, number =>
      encode width (number / 256) ++ [UInt8.ofNat (number % 256)]

def decode (bytes : List UInt8) : Nat :=
  bytes.foldl (fun number byte => number * 256 + byte.toNat) 0

@[simp] theorem length_encode (width number : Nat) :
    (encode width number).length = width := by
  induction width generalizing number with
  | zero => rfl
  | succ width ih => simp [encode, ih]

theorem decode_append_singleton (bytes : List UInt8) (byte : UInt8) :
    decode (bytes ++ [byte]) = decode bytes * 256 + byte.toNat := by
  simp [decode, List.foldl_append]

theorem decode_encode_mod (width number : Nat) :
    decode (encode width number) = number % 256 ^ width := by
  induction width generalizing number with
  | zero => simp [encode, decode, Nat.mod_one]
  | succ width ih =>
      have byte : (UInt8.ofNat (number % 256)).toNat = number % 256 := by
        simp
      rw [encode, decode_append_singleton, ih, byte, Nat.pow_succ',
        Nat.mod_mul, Nat.mul_comm]
      omega

theorem decode_encode {width number : Nat} (fits : number < 256 ^ width) :
    decode (encode width number) = number := by
  rw [decode_encode_mod, Nat.mod_eq_of_lt fits]

/-- Two's complement. -/
def encodeSigned (width : Nat) (number : Int) : List UInt8 :=
  encode width (number % 256 ^ width).toNat

def decodeSigned (bytes : List UInt8) : Int :=
  (decode bytes : Int).bmod (256 ^ bytes.length)

@[simp] theorem length_encodeSigned (width : Nat) (number : Int) :
    (encodeSigned width number).length = width :=
  length_encode ..

/-- Whether a number has a signed encoding of the width. -/
def FitsSigned (width : Nat) (number : Int) : Prop :=
  -(256 ^ width) ≤ 2 * number ∧ 2 * number < 256 ^ width

instance (width : Nat) (number : Int) : Decidable (FitsSigned width number) :=
  inferInstanceAs (Decidable (_ ∧ _))

theorem decodeSigned_encodeSigned
    {width : Nat} {number : Int} (fits : FitsSigned width number) :
    decodeSigned (encodeSigned width number) = number := by
  have power : (256 ^ width : Int) = ((256 ^ width : Nat) : Int) :=
    (Int.natCast_pow 256 width).symm
  have positive : 0 < 256 ^ width := Nat.pow_pos (by decide)
  unfold FitsSigned at fits
  unfold decodeSigned encodeSigned
  rw [power] at fits ⊢
  have digits : ((number % (256 ^ width : Nat)).toNat : Int) =
      number % (256 ^ width : Nat) :=
    Int.toNat_of_nonneg (Int.emod_nonneg _ (by omega))
  have small : (number % (256 ^ width : Nat)).toNat < 256 ^ width := by
    have below := Int.emod_lt_of_pos number (Int.natCast_pos.mpr positive)
    omega
  rw [decode_encode small, length_encode, digits, Int.emod_bmod]
  exact Int.bmod_eq_of_le_mul_two (by omega) (by omega)

end BigEndian
