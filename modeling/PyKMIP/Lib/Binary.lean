import Mathlib.Algebra.GroupWithZero.Nat
import Mathlib.Data.List.Induction

/-!
# Binary notation

Strings of binary digits, the most significant first, and their bytes.
-/

namespace Binary

def toNat (bits : List Bool) : Nat :=
  bits.foldl (fun number bit => 2 * number + bit.toNat) 0

/-- The digits of a number; zero has one. -/
def digits (number : Nat) : List Bool :=
  if number < 2 then [decide (number = 1)]
  else digits (number / 2) ++ [decide (number % 2 = 1)]

theorem toNat_append_singleton (bits : List Bool) (bit : Bool) :
    toNat (bits ++ [bit]) = 2 * toNat bits + bit.toNat := by
  unfold toNat
  rw [List.foldl_append]
  rfl

theorem toNat_cons (bit : Bool) (bits : List Bool) :
    toNat (bit :: bits) = bit.toNat * 2 ^ bits.length + toNat bits := by
  induction bits using List.reverseRecOn with
  | nil => simp [toNat]
  | append_singleton bits last ih =>
      rw [← List.cons_append, toNat_append_singleton, ih,
        toNat_append_singleton, List.length_append, List.length_singleton,
        Nat.pow_succ]
      cases bit with
      | false => simp
      | true =>
          rw [Bool.toNat_true]
          omega

theorem toNat_append (left right : List Bool) :
    toNat (left ++ right) = toNat left * 2 ^ right.length + toNat right := by
  induction right using List.reverseRecOn with
  | nil => simp [toNat]
  | append_singleton right last ih =>
      rw [← List.append_assoc, toNat_append_singleton, ih,
        toNat_append_singleton, List.length_append, List.length_singleton,
        Nat.pow_succ, Nat.mul_add, Nat.mul_comm 2 (_ * _), Nat.mul_assoc,
        Nat.add_assoc]

/-- A number and the one with its bits exchanged have all bits together. -/
theorem toNat_map_not (bits : List Bool) :
    toNat (bits.map Bool.not) + toNat bits + 1 = 2 ^ bits.length := by
  induction bits with
  | nil => rfl
  | cons bit bits ih =>
      rw [List.map_cons, toNat_cons, toNat_cons, List.length_map,
        List.length_cons, Nat.pow_succ]
      cases bit with
      | false =>
          rw [Bool.not_false, Bool.toNat_true, Bool.toNat_false]
          omega
      | true =>
          rw [Bool.not_true, Bool.toNat_true, Bool.toNat_false]
          omega

theorem toNat_zeros_append (count : Nat) (bits : List Bool) :
    toNat (List.replicate count false ++ bits) = toNat bits := by
  induction count with
  | zero => rfl
  | succ count ih =>
      rw [List.replicate_succ, List.cons_append, toNat_cons, ih]
      simp

theorem toNat_one_zeros (count : Nat) :
    toNat (true :: List.replicate count false) = 2 ^ count := by
  have zeros := toNat_zeros_append count []
  rw [List.append_nil] at zeros
  rw [toNat_cons, zeros, List.length_replicate]
  simp [toNat]

theorem toNat_lt (bits : List Bool) : toNat bits < 2 ^ bits.length := by
  induction bits with
  | nil => exact Nat.one_pos
  | cons bit bits ih =>
      rw [toNat_cons, List.length_cons, Nat.pow_succ]
      cases bit with
      | false =>
          rw [Bool.toNat_false]
          omega
      | true =>
          rw [Bool.toNat_true]
          omega

/-- Digits of the same number are the same if there are as many. -/
theorem toNat_injective
    {left right : List Bool} (length : left.length = right.length)
    (same : toNat left = toNat right) : left = right := by
  induction left generalizing right with
  | nil => exact (List.length_eq_zero_iff.mp length.symm).symm
  | cons first left ih =>
      cases right with
      | nil => cases length
      | cons other right =>
          have tails : left.length = right.length := Nat.succ.inj length
          rw [toNat_cons, toNat_cons, tails] at same
          have below := toNat_lt left
          have above := toNat_lt right
          rw [tails] at below
          have heads : first = other := by
            cases first <;> cases other <;> simp at same ⊢ <;> omega
          subst heads
          rw [ih tails (Nat.add_left_cancel same)]

theorem toNat_digits (number : Nat) : toNat (digits number) = number := by
  induction number using digits.induct with
  | case1 number small =>
      unfold digits
      rw [if_pos small]
      rcases Nat.lt_succ_iff_lt_or_eq.mp small with zero | rfl
      · rw [Nat.lt_one_iff.mp zero]
        rfl
      · rfl
  | case2 number large ih =>
      unfold digits
      rw [if_neg large, toNat_append_singleton, ih]
      have bit : (decide (number % 2 = 1)).toNat = number % 2 := by
        rcases Nat.mod_two_eq_zero_or_one number with even | odd
        · simp [even]
        · simp [odd]
      rw [bit]
      exact Nat.div_add_mod number 2

theorem length_digits_le
    {width number : Nat} (positive : 0 < width) (fits : number < 2 ^ width) :
    (digits number).length ≤ width := by
  induction width generalizing number with
  | zero => cases positive
  | succ width ih =>
      unfold digits
      split
      · exact positive
      · rename_i large
        rw [List.length_append, List.length_singleton]
        apply Nat.succ_le_succ
        cases width with
        | zero => omega
        | succ width =>
            apply ih (Nat.succ_pos width)
            rw [Nat.pow_succ] at fits
            omega

theorem length_digits_pos (number : Nat) : 0 < (digits number).length := by
  unfold digits
  split
  · exact Nat.one_pos
  · simp

section Bytes

/-- The digits of a byte, completed to eight. -/
def ofByte (byte : Nat) : List Bool :=
  let bits := digits byte
  let pad := bits.length % 8
  if pad ≠ 0 then List.replicate (8 - pad) false ++ bits else bits

/-- Some bytes of eight digits each. -/
def toBytes : Nat → List Bool → List UInt8
  | 0, _ => []
  | count + 1, bits =>
      UInt8.ofNat (toNat (bits.take 8)) :: toBytes count (bits.drop 8)

theorem length_toBytes (count : Nat) (bits : List Bool) :
    (toBytes count bits).length = count := by
  induction count generalizing bits with
  | zero => rfl
  | succ count ih => exact congrArg Nat.succ (ih _)

theorem toNat_ofByte (byte : Nat) : toNat (ofByte byte) = byte := by
  unfold ofByte
  dsimp only
  split
  · rw [toNat_zeros_append, toNat_digits]
  · exact toNat_digits byte

theorem length_ofByte {byte : Nat} (fits : byte < 256) :
    (ofByte byte).length = 8 := by
  have most := @length_digits_le 8 _ (by decide) fits
  have least := length_digits_pos byte
  unfold ofByte
  dsimp only
  split
  · rw [List.length_append, List.length_replicate]
    omega
  · omega

theorem ofByte_toNat {bits : List Bool} (length : bits.length = 8) :
    ofByte (UInt8.ofNat (toNat bits)).toNat = bits := by
  have fits : toNat bits < 256 := by
    have bound := toNat_lt bits
    rwa [length] at bound
  have value : (UInt8.ofNat (toNat bits)).toNat = toNat bits := by
    rw [UInt8.toNat_ofNat']
    exact Nat.mod_eq_of_lt fits
  rw [value]
  exact toNat_injective ((length_ofByte fits).trans length.symm)
    (toNat_ofByte _)

end Bytes

end Binary
