import PyKMIP.Wire.PrimitiveObjects
import PyKMIP.Wire.Encodings

/-!
# Big integers in two's complement

The codec of the big integers works on strings of binary digits.  What it
writes and reads is two's complement, except that an encoding without bytes has
no first digit to look at.
-/

namespace PyKMIP

open Formats

namespace BigInteger

section Digits

/-- The digits of an encoding. -/
def payloadBits (payload : Bytes) : List Bool :=
  payload.flatMap fun byte => Binary.ofByte byte.toNat

theorem length_payloadBits (payload : Bytes) :
    (payloadBits payload).length = 8 * payload.length := by
  induction payload with
  | nil => rfl
  | cons byte payload ih =>
      have first : (Binary.ofByte byte.toNat).length = 8 :=
        Binary.length_ofByte byte.toNat_lt
      unfold payloadBits at ih ⊢
      rw [List.flatMap_cons, List.length_append, first, ih, List.length_cons]
      omega

theorem toNat_payloadBits (payload : Bytes) :
    Binary.toNat (payloadBits payload) = BigEndian.decode payload := by
  induction payload using List.reverseRecOn with
  | nil => rfl
  | append_singleton payload last ih =>
      have single : payloadBits [last] = Binary.ofByte last.toNat :=
        List.append_nil _
      have split : payloadBits (payload ++ [last]) =
          payloadBits payload ++ Binary.ofByte last.toNat := by
        rw [← single]
        exact List.flatMap_append
      rw [split, Binary.toNat_append, ih, Binary.toNat_ofByte,
        Binary.length_ofByte last.toNat_lt, show 2 ^ 8 = 256 from rfl,
        BigEndian.decode_append_singleton]

theorem reads_payloadBits (payload : Bytes) :
    Reads (unpackBits payload.length) payload (payloadBits payload) := by
  induction payload with
  | nil => exact Reads.pure []
  | cons byte payload ih =>
      have packed : pack 1 byte.toNat = .ok [byte] := by
        have small : byte.toNat < 256 := byte.toNat_lt
        unfold pack
        rw [if_pos (show _ < 256 ^ 1 from small), BigEndian.encode,
          Nat.mod_eq_of_lt small, UInt8.ofNat_toNat]
        rfl
      intro rest
      change (unpack 1 >>= _ : Reader _).run ([byte] ++ (payload ++ rest)) = _
      rw [run_bind_ok (reads_unpack packed _), run_bind_ok (ih rest)]
      rfl

/-- Exchanging the bits before the last one negates a number. -/
theorem toNat_twosComplement {bits : List Bool} (nonzero : true ∈ bits) :
    Binary.toNat (twosComplement bits) + Binary.toNat bits =
      2 ^ bits.length := by
  obtain ⟨leading, count, rfl⟩ := exists_last_one nonzero
  have exchanged := Binary.toNat_map_not leading
  rw [twosComplement_append, Binary.toNat_append, Binary.toNat_append,
    Binary.toNat_one_zeros, List.length_append, List.length_cons,
    List.length_replicate, Nat.pow_add 2 leading.length, ← exchanged,
    Nat.add_mul, Nat.add_mul, Nat.one_mul, Nat.pow_succ]
  omega

/-- Digits stand for the number of their two's complement. -/
theorem ofBits_cons (first : Bool) (bits : List Bool) :
    ofBits (first :: bits) =
      .ok ((Binary.toNat (first :: bits) : Int).bmod
        (2 ^ (first :: bits).length)) := by
  have below := Binary.toNat_lt bits
  have value := Binary.toNat_cons first bits
  have power : 2 ^ (first :: bits).length =
      2 ^ bits.length + 2 ^ bits.length := by
    rw [List.length_cons, Nat.pow_succ]
    omega
  cases first with
  | false =>
      rw [Bool.toNat_false, Nat.zero_mul, Nat.zero_add] at value
      rw [power, value, Int.bmod_eq_of_le_mul_two (by omega) (by omega), ← value]
      rfl
  | true =>
      have negated := toNat_twosComplement (List.mem_cons_self : true ∈ true :: bits)
      rw [Bool.toNat_true, Nat.one_mul] at value
      have less : ((2 ^ bits.length + Binary.toNat bits : Nat) : Int) =
          (Binary.toNat bits : Int) - (2 ^ bits.length : Nat) +
            (2 ^ bits.length + 2 ^ bits.length : Nat) := by
        omega
      rw [power, value, less, Int.add_bmod_right,
        Int.bmod_eq_of_le_mul_two (by omega) (by omega)]
      rw [power, value] at negated
      change Except.ok (-(Binary.toNat (twosComplement (true :: bits)) : Int)) = _
      exact congrArg Except.ok (by omega)

theorem ofBits_payloadBits {payload : Bytes} (nonempty : payload ≠ []) :
    ofBits (payloadBits payload) = .ok (BigEndian.decodeSigned payload) := by
  have length := length_payloadBits payload
  have positive := List.length_pos_iff.mpr nonempty
  obtain ⟨first, bits, starts⟩ :
      ∃ first bits, payloadBits payload = first :: bits :=
    List.exists_cons_of_length_pos (by omega)
  have power : 2 ^ (payloadBits payload).length = 256 ^ payload.length := by
    rw [length, Nat.pow_mul]
  rw [starts, ofBits_cons, ← starts, power, toNat_payloadBits]
  rfl

end Digits

section Items

variable {tag : Tag} {payload bytes : Bytes}

theorem run_read
    (item : IsItem tag .bigInteger payload bytes)
    (whole : 8 ∣ payload.length) (rest : Bytes) :
    (read tag).run (bytes ++ rest) =
      (do
        let value ← ofBits (payloadBits payload)
        return (⟨value, some payload.length, 0⟩, rest)) := by
  obtain ⟨header, heads, rfl⟩ := isItem_iff.mp item
  have complete : paddingLength payload.length = 0 := by
    unfold paddingLength
    omega
  rw [complete, List.replicate_zero, List.append_nil, List.append_assoc]
  unfold read
  rw [run_bind_ok (reads_readBase heads _),
    if_neg (not_not.mpr (Nat.mod_eq_zero_of_dvd whole)),
    run_bind_ok (reads_payloadBits payload rest)]
  cases stands : ofBits (payloadBits payload) with
  | error exception => rfl
  | ok value => rfl

/-- The encoding stands for a number in two's complement that the reader
returns, or the reader refuses the length. -/
def IsReadOrRefused (tag : Tag) (payload bytes : Bytes) : Prop :=
  (∃ decoded, Reads (read tag) bytes decoded ∧
      decoded.value = BigEndian.decodeSigned payload) ∨
    ∃ message, ∀ rest,
      (read tag).run (bytes ++ rest) = .error (.invalidPrimitiveLength message)

/-- The number is written in two's complement, in so many blocks of eight bytes,
and read back. -/
def IsWritten (tag : Tag) (value : Int) : Prop :=
  ∃ payload bytes, write tag (new value) = .ok bytes ∧
    IsItem tag .bigInteger payload bytes ∧
    0 < payload.length ∧ 8 ∣ payload.length ∧
    BigEndian.decodeSigned payload = value ∧
    ∃ decoded, Reads (read tag) bytes decoded ∧ decoded.value = value

theorem reads_of_nonempty
    (item : IsItem tag .bigInteger payload bytes)
    (whole : 8 ∣ payload.length) (nonempty : payload ≠ []) :
    Reads (read tag) bytes
      ⟨BigEndian.decodeSigned payload, some payload.length, 0⟩ := by
  intro rest
  rw [run_read item whole, ofBits_payloadBits nonempty]
  rfl

theorem isReadOrRefused_iff
    (item : IsItem tag .bigInteger payload bytes)
    (whole : 8 ∣ payload.length) :
    IsReadOrRefused tag payload bytes ↔ payload ≠ [] := by
  constructor
  · rintro outcome rfl
    have fails := fun rest => run_read item whole rest
    rcases outcome with ⟨decoded, reads, _⟩ | ⟨message, refuses⟩
    · cases (reads []).symm.trans (fails [])
    · cases (refuses []).symm.trans (fails [])
  · intro nonempty
    exact .inl ⟨_, reads_of_nonempty item whole nonempty, rfl⟩

/-- The bytes of a number. -/
def payloadOf (value : Int) : Bytes :=
  Binary.toBytes (((toBits value).length + 7) / 8) (toBits value)

/-- The bits of a number and the blocks of its encoding. -/
theorem length_toBits_eq (value : Int) :
    (toBits value).length =
      64 * ((Binary.digits value.natAbs).length / 64 + 1) := by
  have length : (padded value.natAbs).length =
      64 * ((Binary.digits value.natAbs).length / 64 + 1) := by
    unfold padded
    dsimp only
    rw [List.length_append, List.length_replicate]
    omega
  unfold toBits
  split
  · rename_i negative
    obtain ⟨leading, count, isPadded⟩ :=
      padded_nonzero (Int.natAbs_ne_zero.mpr (Int.ne_of_lt negative))
    rw [isPadded] at length ⊢
    rw [twosComplement_append]
    simpa using length
  · exact length

theorem length_payloadOf (value : Int) :
    (payloadOf value).length =
      8 * ((Binary.digits value.natAbs).length / 64 + 1) := by
  have length := length_toBits_eq value
  unfold payloadOf
  rw [Binary.length_toBytes]
  omega

theorem write_of_isItem
    {value : Int} (item : IsItem tag .bigInteger (payloadOf value) bytes) :
    write tag (new value) = .ok bytes := by
  have length := length_payloadOf value
  obtain ⟨header, heads, rfl⟩ := isItem_iff.mp item
  have complete : paddingLength (payloadOf value).length = 0 := by
    unfold paddingLength
    omega
  rw [complete, List.replicate_zero, List.append_nil]
  change (do
    let header ← writeBase tag .bigInteger (payloadOf value).length
    return header ++ payloadOf value) = _
  rw [heads]
  rfl

theorem isWritten_of_isItem
    {value : Int} (item : IsItem tag .bigInteger (payloadOf value) bytes) :
    IsWritten tag value := by
  have length := length_payloadOf value
  have whole : 8 ∣ (payloadOf value).length := ⟨_, length⟩
  have positive : 0 < (payloadOf value).length := by omega
  have written := write_of_isItem item
  have back := reads_write written
  have stands := reads_of_nonempty item whole
    (List.length_pos_iff.mp positive)
  have same := Except.ok.inj ((stands []).symm.trans (back []))
  have value_eq : BigEndian.decodeSigned (payloadOf value) = value :=
    congrArg (·.1.value) same
  exact ⟨_, bytes, written, item, positive, whole, value_eq, _, back, rfl⟩

end Items

end BigInteger

/-- Every number is written in two's complement and read back, as long as its
digits can be announced; an encoding is read as two's complement exactly if it
has a first byte. -/
theorem big_integer_survives_iff (tag : Tag) (value : Int) :
    (BigInteger.IsWritten tag value ↔
        (Binary.digits value.natAbs).length < 64 * (2 ^ 29 - 1)) ∧
      ∀ payload bytes, IsItem tag .bigInteger payload bytes →
        8 ∣ payload.length →
        (BigInteger.IsReadOrRefused tag payload bytes ↔ payload ≠ []) := by
  refine ⟨?_, fun _ _ => BigInteger.isReadOrRefused_iff⟩
  have length := BigInteger.length_payloadOf value
  constructor
  · rintro ⟨payload, bytes, written, _⟩
    obtain ⟨header, heads, written⟩ := bind_eq_ok written
    have announced := of_decide_eq_true ((yields_writeBase _ _ _).of_ok heads).1
    change (BigInteger.payloadOf value).length < 256 ^ 4 at announced
    omega
  · intro small
    exact BigInteger.isWritten_of_isItem ⟨by omega, rfl⟩

theorem big_integer_survives_iff_minus_one :
    BigInteger.IsWritten .default (-1) ∧
      BigInteger.IsReadOrRefused .default (List.replicate 8 255)
        [66, 0, 0, 4, 0, 0, 0, 8, 255, 255, 255, 255, 255, 255, 255, 255] := by
  have digits : (Binary.digits 1).length ≤ 1 :=
    Binary.length_digits_le (by decide) (by decide)
  have survives := big_integer_survives_iff .default (-1)
  constructor
  · exact survives.1.mpr (Nat.lt_of_le_of_lt digits (by decide))
  · exact (survives.2 (List.replicate 8 255) _ ⟨by decide, by decide⟩
      (by decide)).mpr (by decide)

/-- The encoding of no bytes has no sign to look at. -/
theorem empty_big_integer_is_not_read :
    ¬∀ (tag : Tag) (payload bytes : Bytes),
      IsItem tag .bigInteger payload bytes → 8 ∣ payload.length →
      BigInteger.IsReadOrRefused tag payload bytes := by
  intro reads
  have item : IsItem .default .bigInteger [] _ := ⟨by decide, rfl⟩
  exact (BigInteger.isReadOrRefused_iff item (by decide)).mp
    (reads _ _ _ item (by decide)) rfl

end PyKMIP
