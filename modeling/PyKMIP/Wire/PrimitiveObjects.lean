import PyKMIP.Lib.Binary
import PyKMIP.Wire.Primitives

/-!
# Objects of the primitive types

A primitive object keeps a length and a padding beside its value.  The
constructor computes them, the reader computes them again, and the writer
trusts them.
-/

namespace PyKMIP

open Formats

structure Primitive (Value : Type) where
  value : Value
  length : Option Nat
  paddingLength : Nat := 0

/-- `Base.write`, with the length that the object has. -/
def Primitive.writeHeader {Value : Type} (tag : Tag) (type : ItemType)
    (object : Primitive Value) : Except CodecError Bytes :=
  match object.length with
  | none => .error .typeError
  | some length => writeBase tag type length

/-- The bounds of a numeric type. -/
def validateRange (minimum maximum value : Int) : Except CodecError Unit :=
  if value > maximum then .error .valueError
  else if value < minimum then .error .valueError
  else .ok ()

/-- `pack` of a number with an unsigned format. -/
def packUnsigned (width : Nat) (number : Int) : Except CodecError Bytes :=
  if number < 0 then .error .structError else pack width number.toNat

def unpackUnsigned (width : Nat) : Reader Int := Int.ofNat <$> unpack width

theorem reads_unpackUnsigned
    {width : Nat} {number : Int} {bytes : Bytes}
    (packed : packUnsigned width number = .ok bytes) :
    Reads (unpackUnsigned width) bytes number := by
  unfold packUnsigned at packed
  split at packed
  · cases packed
  · have reads := reads_unpack packed
    have whole : Int.ofNat number.toNat = number :=
      Int.toNat_of_nonneg (by omega)
    intro rest
    unfold unpackUnsigned
    rw [← whole, StateT.run_map, reads rest]
    rfl

/-- A check at the end lets the object pass, or fails. -/
theorem run_check
    {check : Except CodecError Unit} {Value : Type} (object : Value)
    (input : Bytes) :
    (do check; return object : Reader Value).run input =
      check.map fun _ => (object, input) := by
  cases check <;> rfl

section Numbers

namespace Integer

def validate : Int → Except CodecError Unit :=
  validateRange (-2147483648) 2147483647

def new (value : Int) : Except CodecError (Primitive Int) := do
  validate value
  return ⟨value, some 4, 4⟩

/-- `pack` with the format of the object. -/
def packValue (signed : Bool) (value : Int) : Except CodecError Bytes :=
  if signed then packSigned 4 value else packUnsigned 4 value

def unpackValue (signed : Bool) : Reader Int :=
  if signed then unpackSigned 4 else unpackUnsigned 4

def read (signed : Bool) (tag : Tag) : Reader (Primitive Int) := do
  let length ← readBase tag .integer
  if length ≠ 4 then throw (.readValueError "Integer" "length")
  let value ← unpackValue signed
  let pad ← unpackValue signed
  if pad ≠ 0 then throw (.readValueError "Integer" "pad")
  validate value
  return ⟨value, some length, 4⟩

def write (signed : Bool) (tag : Tag) (object : Primitive Int) :
    Except CodecError Bytes := do
  let header ← object.writeHeader tag .integer
  let packed ← packValue signed object.value
  let padding ← packValue signed 0
  return header ++ (packed ++ padding)

theorem reads_unpackValue
    {signed : Bool} {value : Int} {bytes : Bytes}
    (packed : packValue signed value = .ok bytes) :
    Reads (unpackValue signed) bytes value := by
  cases signed with
  | true => exact reads_unpackSigned packed
  | false => exact reads_unpackUnsigned packed

/-- What has been written is read, and checked again. -/
theorem run_read
    {signed : Bool} {tag : Tag} {value : Int} {bytes : Bytes}
    (written : write signed tag ⟨value, some 4, 4⟩ = .ok bytes) (rest : Bytes) :
    (read signed tag).run (bytes ++ rest) =
      (validate value).map fun _ => (⟨value, some 4, 4⟩, rest) := by
  obtain ⟨header, heads, written⟩ := bind_eq_ok written
  obtain ⟨packed, packs, written⟩ := bind_eq_ok written
  obtain ⟨padding, pads, written⟩ := bind_eq_ok written
  cases written
  unfold read
  rw [List.append_assoc, List.append_assoc,
    run_bind_ok (reads_readBase heads _), if_neg (by decide),
    run_bind_ok (reads_unpackValue packs _),
    run_bind_ok (reads_unpackValue pads _), if_neg (by decide)]
  exact run_check _ rest

theorem reads_write
    {signed : Bool} {tag : Tag} {value : Int} {object : Primitive Int}
    {bytes : Bytes} (built : new value = .ok object)
    (written : write signed tag object = .ok bytes) :
    Reads (read signed tag) bytes object := by
  obtain ⟨_, valid, built⟩ := bind_eq_ok built
  cases built
  intro rest
  rw [run_read written, valid]
  rfl

end Integer

namespace LongInteger

/-- Long integers and dates differ in their types. -/
def validate : Int → Except CodecError Unit :=
  validateRange (-9223372036854775808) 9223372036854775807

def new (value : Int) : Except CodecError (Primitive Int) := do
  validate value
  return ⟨value, some 8, 0⟩

def read (type : ItemType) (tag : Tag) : Reader (Primitive Int) := do
  let length ← readBase tag type
  if length ≠ 8 then
    throw (.invalidPrimitiveLength
      s!"invalid long integer length read; expected: 8, observed: {length}")
  let value ← unpackSigned 8
  validate value
  return ⟨value, some length, 0⟩

def write (type : ItemType) (tag : Tag) (object : Primitive Int) :
    Except CodecError Bytes := do
  let header ← object.writeHeader tag type
  let packed ← packSigned 8 object.value
  return header ++ packed

/-- What has been written is read, and checked again. -/
theorem run_read
    {type : ItemType} {tag : Tag} {value : Int} {bytes : Bytes}
    (written : write type tag ⟨value, some 8, 0⟩ = .ok bytes) (rest : Bytes) :
    (read type tag).run (bytes ++ rest) =
      (validate value).map fun _ => (⟨value, some 8, 0⟩, rest) := by
  obtain ⟨header, heads, written⟩ := bind_eq_ok written
  obtain ⟨packed, packs, written⟩ := bind_eq_ok written
  cases written
  unfold read
  rw [List.append_assoc, run_bind_ok (reads_readBase heads _),
    if_neg (by decide), run_bind_ok (reads_unpackSigned packs _)]
  exact run_check _ rest

theorem reads_write
    {type : ItemType} {tag : Tag} {value : Int} {object : Primitive Int}
    {bytes : Bytes} (built : new value = .ok object)
    (written : write type tag object = .ok bytes) :
    Reads (read type tag) bytes object := by
  obtain ⟨_, valid, built⟩ := bind_eq_ok built
  cases built
  intro rest
  rw [run_read written, valid]
  rfl

end LongInteger

namespace Interval

/-- The upper bound is included, although it cannot be packed. -/
def validate : Int → Except CodecError Unit := validateRange 0 4294967296

def new (value : Int) : Except CodecError (Primitive Int) := do
  validate value
  return ⟨value, some 4, 0⟩

def read (tag : Tag) : Reader (Primitive Int) := do
  let length ← readBase tag .interval
  if length ≠ 4 then
    throw (.invalidPrimitiveLength "interval length must be 4")
  let value ← unpackUnsigned 4
  let pad ← unpackUnsigned 4
  if pad ≠ 0 then throw (.invalidPaddingBytes "padding bytes must be zero")
  validate value
  return ⟨value, some length, 0⟩

def write (tag : Tag) (object : Primitive Int) : Except CodecError Bytes := do
  let header ← object.writeHeader tag .interval
  let packed ← packUnsigned 4 object.value
  let padding ← packUnsigned 4 0
  return header ++ (packed ++ padding)

/-- What has been written is read, and checked again. -/
theorem run_read
    {tag : Tag} {value : Int} {bytes : Bytes}
    (written : write tag ⟨value, some 4, 0⟩ = .ok bytes) (rest : Bytes) :
    (read tag).run (bytes ++ rest) =
      (validate value).map fun _ => (⟨value, some 4, 0⟩, rest) := by
  obtain ⟨header, heads, written⟩ := bind_eq_ok written
  obtain ⟨packed, packs, written⟩ := bind_eq_ok written
  obtain ⟨padding, pads, written⟩ := bind_eq_ok written
  cases written
  unfold read
  rw [List.append_assoc, List.append_assoc,
    run_bind_ok (reads_readBase heads _), if_neg (by decide),
    run_bind_ok (reads_unpackUnsigned packs _),
    run_bind_ok (reads_unpackUnsigned pads _), if_neg (by decide)]
  exact run_check _ rest

theorem reads_write
    {tag : Tag} {value : Int} {object : Primitive Int} {bytes : Bytes}
    (built : new value = .ok object)
    (written : write tag object = .ok bytes) :
    Reads (read tag) bytes object := by
  obtain ⟨_, valid, built⟩ := bind_eq_ok built
  cases built
  intro rest
  rw [run_read written, valid]
  rfl

end Interval

end Numbers

section BigIntegers

/-- `rfind`, where a bit that is not found has no index. -/
def rfind (bit : Bool) : List Bool → Option Nat
  | [] => none
  | first :: rest =>
      match rfind bit rest with
      | some index => some (index + 1)
      | none => if first = bit then some 0 else none

/-- The bits are exchanged and the last zero becomes a one, with zeros after
it.  Without a zero the pivot is −1. -/
def twosComplement (binary : List Bool) : List Bool :=
  let flipped := binary.map Bool.not
  match rfind false flipped with
  | some pivot =>
      flipped.take pivot ++
        true :: List.replicate (flipped.drop (pivot + 1)).length false
  | none => flipped.dropLast ++ true :: List.replicate flipped.length false

theorem rfind_ones (count : Nat) :
    rfind false (List.replicate count true) = none := by
  induction count with
  | zero => rfl
  | succ count ih => simp [List.replicate_succ, rfind, ih]

theorem rfind_append (leading : List Bool) (count : Nat) :
    rfind false (leading ++ false :: List.replicate count true) =
      some leading.length := by
  induction leading with
  | nil => simp [rfind, rfind_ones]
  | cons first leading ih => simp [rfind, ih]

/-- Everything before the last one is exchanged. -/
theorem twosComplement_append (leading : List Bool) (count : Nat) :
    twosComplement (leading ++ true :: List.replicate count false) =
      leading.map Bool.not ++ true :: List.replicate count false := by
  have flipped : (leading ++ true :: List.replicate count false).map Bool.not =
      leading.map Bool.not ++ false :: List.replicate count true := by
    simp
  have after : (leading.map Bool.not ++
      false :: List.replicate count true).drop ((leading.map Bool.not).length + 1) =
        List.replicate count true := by
    rw [← List.singleton_append, ← List.append_assoc]
    exact List.drop_left' (by simp)
  unfold twosComplement
  rw [flipped]
  dsimp only
  rw [rfind_append]
  dsimp only
  rw [List.take_left, after, List.length_replicate]

/-- Bits that are not all zero end with a one and zeros. -/
theorem exists_last_one {bits : List Bool} (nonzero : true ∈ bits) :
    ∃ leading count, bits = leading ++ true :: List.replicate count false := by
  induction bits with
  | nil => cases nonzero
  | cons first bits ih =>
      by_cases later : true ∈ bits
      · obtain ⟨leading, count, rfl⟩ := ih later
        exact ⟨first :: leading, count, rfl⟩
      · have zeros : bits = List.replicate bits.length false := by
          refine List.eq_replicate_iff.mpr ⟨rfl, fun bit member => ?_⟩
          cases bit with
          | false => rfl
          | true => exact absurd member later
        have one : first = true := by
          rcases List.mem_cons.mp nonzero with isFirst | member
          · exact isFirst.symm
          · exact absurd member later
        exact ⟨[], bits.length, by rw [one, ← zeros, List.nil_append]⟩

namespace BigInteger

def new (value : Int) : Primitive Int := ⟨value, none, 0⟩

def unpackBits : Nat → Reader (List Bool)
  | 0 => return []
  | count + 1 => do
      let byte ← unpack 1
      let others ← unpackBits count
      return Binary.ofByte byte ++ others

/-- The number that bits in two's complement stand for. -/
def ofBits : List Bool → Except CodecError Int
  | [] => .error .indexError
  | true :: rest => .ok (-Binary.toNat (twosComplement (true :: rest)))
  | false :: rest => .ok (Binary.toNat (false :: rest))

def read (tag : Tag) : Reader (Primitive Int) := do
  let length ← readBase tag .bigInteger
  if length % 8 ≠ 0 then
    throw (.invalidPrimitiveLength
      ("invalid big integer length read; expected: multiple of 8, " ++
        s!"observed: {length}"))
  let binary ← unpackBits length
  let value ← ofBits binary
  return ⟨value, some length, 0⟩

/-- There is at least one digit more than those of the number. -/
def padded (number : Nat) : List Bool :=
  let binary := Binary.digits number
  List.replicate (64 - binary.length % 64) false ++ binary

def toBits (value : Int) : List Bool :=
  if value < 0 then twosComplement (padded value.natAbs)
  else padded value.natAbs

/-- The length is computed anew. -/
def write (tag : Tag) (object : Primitive Int) : Except CodecError Bytes := do
  let binary := toBits object.value
  let hexadecimal := Binary.toBytes ((binary.length + 7) / 8) binary
  let header ← ({ object with length := some hexadecimal.length } :
    Primitive Int).writeHeader tag .bigInteger
  return header ++ hexadecimal

theorem padded_eq (number : Nat) :
    ∃ rest, padded number = false :: rest := by
  have some : 64 - (Binary.digits number).length % 64 =
      (63 - (Binary.digits number).length % 64) + 1 := by omega
  unfold padded
  dsimp only
  rw [some, List.replicate_succ, List.cons_append]
  exact ⟨_, rfl⟩

theorem toNat_padded (number : Nat) : Binary.toNat (padded number) = number := by
  unfold padded
  dsimp only
  rw [Binary.toNat_zeros_append, Binary.toNat_digits]

theorem length_padded (number : Nat) : (padded number).length % 64 = 0 := by
  unfold padded
  dsimp only
  rw [List.length_append, List.length_replicate]
  omega

/-- A number other than zero has a one after the first digit. -/
theorem padded_nonzero {number : Nat} (nonzero : number ≠ 0) :
    ∃ leading count, padded number =
      false :: leading ++ true :: List.replicate count false := by
  obtain ⟨rest, starts⟩ := padded_eq number
  have one : true ∈ rest := by
    by_contra zeros
    apply nonzero
    have isZero : rest = List.replicate rest.length false := by
      refine List.eq_replicate_iff.mpr ⟨rfl, fun bit member => ?_⟩
      cases bit with
      | false => rfl
      | true => exact absurd member zeros
    have value := toNat_padded number
    rw [starts, isZero, ← List.replicate_succ] at value
    have empty := Binary.toNat_zeros_append (rest.length + 1) []
    rw [List.append_nil, value] at empty
    exact empty
  obtain ⟨leading, count, ends⟩ := exists_last_one one
  exact ⟨leading, count, by rw [starts, ends, List.cons_append]⟩

theorem length_toBits (value : Int) : (toBits value).length % 64 = 0 := by
  unfold toBits
  split
  · rename_i negative
    obtain ⟨leading, count, isPadded⟩ :=
      padded_nonzero (Int.natAbs_ne_zero.mpr (Int.ne_of_lt negative))
    have length := length_padded value.natAbs
    rw [isPadded] at length ⊢
    rw [twosComplement_append]
    simpa using length
  · exact length_padded value.natAbs

/-- The bits stand for the number that they were made from. -/
theorem ofBits_toBits (value : Int) : ofBits (toBits value) = .ok value := by
  unfold toBits
  split
  · rename_i negative
    obtain ⟨leading, count, isPadded⟩ :=
      padded_nonzero (Int.natAbs_ne_zero.mpr (Int.ne_of_lt negative))
    have number := toNat_padded value.natAbs
    have back : twosComplement (true ::
        (leading.map Bool.not ++ true :: List.replicate count false)) =
        padded value.natAbs := by
      have involutive : Bool.not ∘ Bool.not = id := funext Bool.not_not
      rw [← List.cons_append, twosComplement_append, isPadded]
      simp [involutive]
    rw [isPadded, twosComplement_append]
    change Except.ok (-(Binary.toNat (twosComplement (true ::
      (leading.map Bool.not ++ true :: List.replicate count false))) : Int)) = _
    rw [back, number]
    exact congrArg Except.ok (by omega)
  · obtain ⟨rest, isPadded⟩ := padded_eq value.natAbs
    have number := toNat_padded value.natAbs
    rw [isPadded] at number ⊢
    change Except.ok (Binary.toNat (false :: rest) : Int) = _
    rw [number]
    exact congrArg Except.ok (by omega)

theorem reads_unpackBits {count : Nat} {bits : List Bool}
    (length : bits.length = 8 * count) :
    Reads (unpackBits count) (Binary.toBytes count bits) bits := by
  induction count generalizing bits with
  | zero =>
      rw [List.length_eq_zero_iff.mp length]
      exact Reads.pure []
  | succ count ih =>
      have first : (bits.take 8).length = 8 := by
        rw [List.length_take]
        omega
      have others : (bits.drop 8).length = 8 * count := by
        rw [List.length_drop]
        omega
      have packed : pack 1
          (UInt8.ofNat (Binary.toNat (bits.take 8))).toNat =
          .ok [UInt8.ofNat (Binary.toNat (bits.take 8))] := by
        have small : (UInt8.ofNat (Binary.toNat (bits.take 8))).toNat < 256 :=
          UInt8.toNat_lt _
        unfold pack
        rw [if_pos (show _ < 256 ^ 1 from small), BigEndian.encode,
          Nat.mod_eq_of_lt small, UInt8.ofNat_toNat]
        rfl
      intro rest
      change (unpack 1 >>= _ : Reader _).run
        ([UInt8.ofNat (Binary.toNat (bits.take 8))] ++
          (Binary.toBytes count (bits.drop 8) ++ rest)) = _
      rw [run_bind_ok (reads_unpack packed _), run_bind_ok (ih others rest),
        Binary.ofByte_toNat first, List.take_append_drop]
      rfl

theorem reads_ofBits {bits : List Bool} {value : Int}
    (stands : ofBits bits = .ok value) :
    Reads (liftM (ofBits bits) : Reader Int) [] value := by
  rw [stands]
  exact fun _ => rfl

/-- The value is read back; the length is that of its bits. -/
theorem reads_write
    {tag : Tag} {value : Int} {bytes : Bytes}
    (written : write tag (new value) = .ok bytes) :
    Reads (read tag) bytes
      ⟨value, some (((toBits value).length + 7) / 8), 0⟩ := by
  obtain ⟨header, heads, written⟩ := bind_eq_ok written
  cases written
  have whole := length_toBits value
  change writeBase tag .bigInteger (Binary.toBytes
    (((toBits value).length + 7) / 8) (toBits value)).length = _ at heads
  rw [Binary.length_toBytes] at heads
  have unpacks := @reads_unpackBits (((toBits value).length + 7) / 8)
    (toBits value) (by omega)
  intro rest
  unfold read
  dsimp only [new]
  rw [List.append_assoc, run_bind_ok (reads_readBase heads _),
    if_neg (by omega)]
  rw [run_bind_ok (unpacks rest)]
  exact run_bind_ok (reads_ofBits (ofBits_toBits value) rest)

end BigInteger

end BigIntegers

section Enumerations

/-- A class of enumerations: its members, their codes, and the member that a
code names. -/
structure EnumMeta where
  Member : Type
  code : Member → Int
  ofCode? : Int → Option Member
  ofCode?_code : ∀ member, ofCode? (code member) = some member

namespace Enumeration

variable (enum : EnumMeta)

def validate (value : enum.Member) : Except CodecError Unit :=
  validateRange 0 4294967296 (enum.code value)

def new (value : enum.Member) :
    Except CodecError (Primitive enum.Member) := do
  validate enum value
  return ⟨value, some 4, 0⟩

def read (tag : Tag) : Reader (Primitive enum.Member) := do
  let length ← readBase tag .enumeration
  if length ≠ 4 then
    throw (.invalidPrimitiveLength "enumeration length must be 4")
  match enum.ofCode? (← unpackUnsigned 4) with
  | none => throw .valueError
  | some value => do
      let pad ← unpackUnsigned 4
      if pad ≠ 0 then throw (.invalidPaddingBytes "padding bytes must be zero")
      validate enum value
      return ⟨value, some length, 0⟩

def write (tag : Tag) (object : Primitive enum.Member) :
    Except CodecError Bytes := do
  let header ← object.writeHeader tag .enumeration
  let packed ← packUnsigned 4 (enum.code object.value)
  let padding ← packUnsigned 4 0
  return header ++ (packed ++ padding)

variable {enum}

/-- What has been written is read, and checked again. -/
theorem run_read
    {tag : Tag} {value : enum.Member} {bytes : Bytes}
    (written : write enum tag ⟨value, some 4, 0⟩ = .ok bytes) (rest : Bytes) :
    (read enum tag).run (bytes ++ rest) =
      (validate enum value).map fun _ => (⟨value, some 4, 0⟩, rest) := by
  obtain ⟨header, heads, written⟩ := bind_eq_ok written
  obtain ⟨packed, packs, written⟩ := bind_eq_ok written
  obtain ⟨padding, pads, written⟩ := bind_eq_ok written
  cases written
  unfold read
  rw [List.append_assoc, List.append_assoc,
    run_bind_ok (reads_readBase heads _), if_neg (by decide),
    run_bind_ok (reads_unpackUnsigned packs _), enum.ofCode?_code]
  dsimp only
  rw [run_bind_ok (reads_unpackUnsigned pads _), if_neg (by decide)]
  exact run_check _ rest

theorem reads_write
    {tag : Tag} {value : enum.Member} {object : Primitive enum.Member}
    {bytes : Bytes} (built : new enum value = .ok object)
    (written : write enum tag object = .ok bytes) :
    Reads (read enum tag) bytes object := by
  obtain ⟨_, valid, built⟩ := bind_eq_ok built
  cases built
  intro rest
  rw [run_read written, valid]
  rfl

end Enumeration

namespace Boolean

def new (value : Bool) : Primitive Bool := ⟨value, some 8, 0⟩

/-- The object keeps the length that is declared, whatever it is. -/
def read (tag : Tag) : Reader (Primitive Bool) := do
  let length ← readBase tag .boolean
  let value ← unpack 8
  if value = 1 then return ⟨true, some length, 0⟩
  else if value = 0 then return ⟨false, some length, 0⟩
  else throw .valueError

def write (tag : Tag) (object : Primitive Bool) :
    Except CodecError Bytes := do
  let header ← object.writeHeader tag .boolean
  let packed ← pack 8 object.value.toNat
  return header ++ packed

theorem reads_write
    {tag : Tag} {value : Bool} {bytes : Bytes}
    (written : write tag (new value) = .ok bytes) :
    Reads (read tag) bytes (new value) := by
  obtain ⟨header, heads, written⟩ := bind_eq_ok written
  obtain ⟨packed, packs, written⟩ := bind_eq_ok written
  cases written
  intro rest
  unfold read
  rw [List.append_assoc, run_bind_ok (reads_readBase heads _),
    run_bind_ok (reads_unpack packs _)]
  cases value <;> rfl

end Boolean

end Enumerations

section Strings

/-- The padding that the constructors compute. -/
def newPadding (length : Nat) : Nat :=
  let padding := 8 - length % 8
  if padding = 8 then 0 else padding

theorem newPadding_eq (length : Nat) :
    newPadding length = paddingLength length := by
  unfold newPadding paddingLength
  dsimp only
  split
  · omega
  · omega

namespace TextString

def new (value : String) : Primitive String :=
  ⟨value, some value.toList.length, newPadding value.toList.length⟩

/-- A padding of eight bytes is not read, but kept. -/
def read (tag : Tag) : Reader (Primitive String) := do
  let length ← readBase tag .textString
  let chars ← unpackChars length
  let padding := 8 - length % 8
  if padding < 8 then readPadding padding
  return ⟨.ofList chars, some length, padding⟩

def write (tag : Tag) (object : Primitive String) :
    Except CodecError Bytes := do
  let header ← object.writeHeader tag .textString
  let packed ← packChars object.value.toList
  return header ++ (packed ++ List.replicate object.paddingLength 0)

/-- The value is what the codec of the structures reads. -/
theorem value_read (tag : Tag) :
    Primitive.value <$> read tag = readTextString tag := by
  unfold read readTextString
  simp only [map_bind]
  congr
  funext length
  congr
  funext chars
  split <;> simp

/-- A new string is written as the codec of the structures writes it. -/
theorem write_new (tag : Tag) (value : String) :
    write tag (new value) =
      writeTextString tag value (paddingLength value.toList.length) := by
  rw [← newPadding_eq]
  rfl

theorem reads_write
    {tag : Tag} {value : String} {bytes : Bytes}
    (written : write tag (new value) = .ok bytes) :
    Reads (read tag) bytes ⟨value, some value.toList.length,
      8 - value.toList.length % 8⟩ := by
  obtain ⟨header, heads, written⟩ := bind_eq_ok written
  obtain ⟨packed, packs, written⟩ := bind_eq_ok written
  cases written
  change packChars value.toList = _ at packs
  intro rest
  unfold read
  rw [List.append_assoc, List.append_assoc,
    run_bind_ok (reads_readBase heads _),
    run_bind_ok (reads_unpackChars packs _)]
  dsimp only [new]
  by_cases whole : value.toList.length % 8 = 0
  · have none : newPadding value.toList.length = 0 := by
      simp [newPadding, whole]
    rw [none, if_neg (by omega), String.ofList_toList]
    rfl
  · have some : newPadding value.toList.length =
        8 - value.toList.length % 8 := if_neg (by omega)
    rw [some, if_pos (by omega), run_bind_ok (reads_readPadding _ rest),
      String.ofList_toList]
    rfl

/-- A decoded string of whole blocks is written with another block. -/
theorem write_decoded
    {tag : Tag} {value : String} {bytes : Bytes}
    (written : write tag (new value) = .ok bytes) :
    write tag ⟨value, some value.toList.length,
        8 - value.toList.length % 8⟩ =
      .ok (bytes ++ List.replicate
        (if value.toList.length % 8 = 0 then 8 else 0) 0) := by
  obtain ⟨header, heads, written⟩ := bind_eq_ok written
  obtain ⟨packed, packs, written⟩ := bind_eq_ok written
  cases written
  change writeBase tag .textString value.toList.length = _ at heads
  change packChars value.toList = _ at packs
  have rewritten : write tag ⟨value, some value.toList.length,
      8 - value.toList.length % 8⟩ =
        .ok (header ++ (packed ++
          List.replicate (8 - value.toList.length % 8) 0)) := by
    simp only [write, Primitive.writeHeader, heads, packs]
    rfl
  have split : 8 - value.toList.length % 8 =
      (new value).paddingLength +
        (if value.toList.length % 8 = 0 then 8 else 0) := by
    dsimp only [new, newPadding]
    split <;> split <;> omega
  rw [rewritten, split, ← List.replicate_append_replicate, List.append_assoc,
    List.append_assoc]

end TextString

namespace ByteString

def new (value : Bytes) : Primitive Bytes :=
  ⟨value, some value.length, newPadding value.length⟩

def read (tag : Tag) : Reader (Primitive Bytes) := do
  let length ← readBase tag .byteString
  let value ← unpackBytes length
  let padding := newPadding length
  if padding < 8 then readPadding padding
  return ⟨value, some length, padding⟩

def write (tag : Tag) (object : Primitive Bytes) :
    Except CodecError Bytes := do
  let header ← object.writeHeader tag .byteString
  return header ++ (object.value ++ List.replicate object.paddingLength 0)

theorem newPadding_lt (length : Nat) : newPadding length < 8 := by
  rw [newPadding_eq]
  exact Nat.mod_lt _ (by decide)

/-- The value is what the codec of the structures reads. -/
theorem value_read (tag : Tag) :
    Primitive.value <$> read tag = readByteString tag := by
  unfold read readByteString
  simp only [map_bind]
  congr
  funext length
  congr
  funext value
  rw [if_pos (newPadding_lt length), newPadding_eq]
  simp

/-- A new string is written as the codec of the structures writes it. -/
theorem write_new (tag : Tag) (value : Bytes) :
    write tag (new value) = writeByteString tag value := by
  unfold writeByteString
  rw [← newPadding_eq]
  rfl

theorem reads_write
    {tag : Tag} {value : Bytes} {bytes : Bytes}
    (written : write tag (new value) = .ok bytes) :
    Reads (read tag) bytes (new value) := by
  obtain ⟨header, heads, written⟩ := bind_eq_ok written
  cases written
  intro rest
  unfold read
  dsimp only [new]
  rw [List.append_assoc, List.append_assoc,
    run_bind_ok (reads_readBase heads _),
    run_bind_ok (reads_unpackBytes value _), if_pos (newPadding_lt _)]
  exact run_bind_ok (reads_readPadding _ rest)

end ByteString

end Strings

end PyKMIP
