import PyKMIP.Lib.BigEndian
import PyKMIP.Wire.Tags
import PyKMIP.Attributes

/-!
# Primitive items

An item is a tag, a type, a length and a value.  Each primitive type has an
encoder and a decoder of its own.
-/

namespace PyKMIP

open Formats

/-- What encoding and decoding raise. -/
inductive CodecError where
  | attributeError | valueError | typeError | structError | indexError
  | unicodeDecodeError | notImplementedError
  | exception (message : String)
  | readValueError (className descriptor : String)
  | writeOverflowError (className descriptor : String)
  | streamNotEmptyError (className : String) (extra : Nat)
  | invalidField (message : String)
  | invalidKmipEncoding (message : String)
  | invalidPaddingBytes (message : String)
  | invalidPrimitiveLength (message : String)
deriving DecidableEq

abbrev Reader := Decoder CodecError

section Packing

/-- `pack` of an unsigned number. -/
def pack (width number : Nat) : Except CodecError Bytes :=
  if number < 256 ^ width then .ok (BigEndian.encode width number)
  else .error .structError

/-- `pack` of a signed number. -/
def packSigned (width : Nat) (number : Int) : Except CodecError Bytes :=
  if BigEndian.FitsSigned width number then
    .ok (BigEndian.encodeSigned width number)
  else .error .structError

/-- `unpack` of the next bytes. -/
def unpack (width : Nat) : Reader Nat := do
  let bytes ← take width
  if bytes.length = width then return BigEndian.decode bytes
  else throw .structError

def unpackSigned (width : Nat) : Reader Int := do
  let bytes ← take width
  if bytes.length = width then return BigEndian.decodeSigned bytes
  else throw .structError

theorem yields_pack (width number : Nat) :
    Yields (pack width number) (number < 256 ^ width) width := by
  unfold pack
  split
  · rename_i fits
    exact ⟨decide_eq_true fits, BigEndian.length_encode ..⟩
  · rename_i fits
    exact decide_eq_false fits

theorem yields_packSigned (width : Nat) (number : Int) :
    Yields (packSigned width number) (BigEndian.FitsSigned width number)
      width := by
  unfold packSigned
  split
  · rename_i fits
    exact ⟨decide_eq_true fits, BigEndian.length_encodeSigned ..⟩
  · rename_i fits
    exact decide_eq_false fits

theorem length_of_pack {width number : Nat} {bytes : Bytes}
    (packed : pack width number = .ok bytes) : bytes.length = width :=
  ((yields_pack width number).of_ok packed).2

theorem reads_unpack {width number : Nat} {bytes : Bytes}
    (packed : pack width number = .ok bytes) :
    Reads (unpack width) bytes number := by
  have length := length_of_pack packed
  unfold pack at packed
  split at packed
  · rename_i fits
    cases packed
    intro rest
    unfold unpack
    rw [run_bind_ok (Reads.take_of_length length rest), if_pos length,
      BigEndian.decode_encode fits]
    rfl
  · cases packed

theorem length_of_packSigned {width : Nat} {number : Int} {bytes : Bytes}
    (packed : packSigned width number = .ok bytes) : bytes.length = width :=
  ((yields_packSigned width number).of_ok packed).2

theorem reads_unpackSigned {width : Nat} {number : Int} {bytes : Bytes}
    (packed : packSigned width number = .ok bytes) :
    Reads (unpackSigned width) bytes number := by
  have length := length_of_packSigned packed
  unfold packSigned at packed
  split at packed
  · rename_i fits
    cases packed
    intro rest
    unfold unpackSigned
    rw [run_bind_ok (Reads.take_of_length length rest), if_pos length,
      BigEndian.decodeSigned_encodeSigned fits]
    rfl
  · cases packed

end Packing

section Headers

inductive ItemType where
  | default | struct | integer | longInteger | bigInteger | enumeration
  | boolean | textString | byteString | dateTime | interval
deriving DecidableEq

def ItemType.code (type : ItemType) : Nat := type.ctorIdx

/-- `enums.Types(code)`. -/
def ItemType.ofCode? (code : Nat) : Option ItemType :=
  if code < 11 then some (.ofNat code) else none

theorem ItemType.code_lt (type : ItemType) : type.code < 11 := by
  cases type <;> decide

theorem ItemType.ofCode?_code (type : ItemType) :
    ofCode? type.code = some type := by
  unfold ofCode?
  rw [if_pos type.code_lt]
  exact congrArg some (ItemType.ofNat_ctorIdx type)

/-- The tag that `is_tag_next` sees. -/
def nextTag (input : Bytes) : Option Tag :=
  if 3 ≤ input.length then Tag.ofCode? (BigEndian.decode (input.take 3))
  else none

/-- `Base.write`. -/
def writeBase (tag : Tag) (type : ItemType) (length : Nat) :
    Except CodecError Bytes :=
  if length < 256 ^ 4 then
    .ok (BigEndian.encode 3 tag.code ++ BigEndian.encode 1 type.code ++
      BigEndian.encode 4 length)
  else .error (.writeOverflowError "Base" "length")

/-- `Base.read_tag`. -/
def readTag (tag : Tag) : Reader Unit := do
  let tts ← take 3
  if tts.length ≠ 3 then throw .structError
  match Tag.ofCode? (BigEndian.decode tts) with
  | none => throw .valueError
  | some found =>
      if found ≠ tag then throw (.readValueError "Base" "tag")

/-- `Base.read_type`. -/
def readType (type : ItemType) : Reader Unit := do
  let tts ← take 1
  if tts.length ≠ 1 then throw (.readValueError "Base" "type")
  match ItemType.ofCode? (BigEndian.decode tts) with
  | none => throw .valueError
  | some found =>
      if found ≠ type then throw (.readValueError "Base" "type")

/-- `Base.read_length`. -/
def readLength : Reader Nat := do
  let lst ← take 4
  if lst.length ≠ 4 then throw (.readValueError "Base" "length")
  return BigEndian.decode lst

/-- `Base.read`; the result is the length that the header declares. -/
def readBase (tag : Tag) (type : ItemType) : Reader Nat := do
  readTag tag
  readType type
  readLength

/-- The check that a structure has been read to its end. -/
def isOversized : Reader Unit := do
  let extra := (← get).length
  if 0 < extra then throw (.streamNotEmptyError "Base" extra)

theorem yields_writeBase (tag : Tag) (type : ItemType) (length : Nat) :
    Yields (writeBase tag type length) (length < 256 ^ 4) 8 := by
  unfold writeBase
  split
  · rename_i small
    exact ⟨decide_eq_true small, by simp⟩
  · rename_i small
    exact decide_eq_false small

theorem nextTag_nil : nextTag [] = none := rfl

theorem nextTag_of_writeBase
    {tag : Tag} {type : ItemType} {length : Nat} {bytes : Bytes}
    (written : writeBase tag type length = .ok bytes) (rest : Bytes) :
    nextTag (bytes ++ rest) = some tag := by
  unfold writeBase at written
  split at written
  · cases written
    have shown : ((BigEndian.encode 3 tag.code ++ BigEndian.encode 1 type.code ++
        BigEndian.encode 4 length) ++ rest).take 3 =
        BigEndian.encode 3 tag.code := by
      rw [List.append_assoc, List.append_assoc]
      exact List.take_left' (BigEndian.length_encode ..)
    unfold nextTag
    rw [if_pos (by simp), shown, BigEndian.decode_encode tag.code_lt,
      tag.ofCode?_code]
  · cases written

theorem reads_readTag (tag : Tag) :
    Reads (readTag tag) (BigEndian.encode 3 tag.code) () := by
  intro rest
  have length := BigEndian.length_encode 3 tag.code
  unfold readTag
  rw [run_bind_ok (Reads.take_of_length length rest),
    if_neg (not_not.mpr length), BigEndian.decode_encode tag.code_lt,
    tag.ofCode?_code]
  dsimp only
  rw [if_neg (not_not.mpr rfl)]
  rfl

theorem reads_readType (type : ItemType) :
    Reads (readType type) (BigEndian.encode 1 type.code) () := by
  intro rest
  have length := BigEndian.length_encode 1 type.code
  have small : type.code < 256 ^ 1 := Nat.lt_trans type.code_lt (by decide)
  unfold readType
  rw [run_bind_ok (Reads.take_of_length length rest),
    if_neg (not_not.mpr length), BigEndian.decode_encode small,
    type.ofCode?_code]
  dsimp only
  rw [if_neg (not_not.mpr rfl)]
  rfl

theorem reads_readLength {length : Nat} (small : length < 256 ^ 4) :
    Reads readLength (BigEndian.encode 4 length) length := by
  intro rest
  have size := BigEndian.length_encode 4 length
  unfold readLength
  rw [run_bind_ok (Reads.take_of_length size rest),
    if_neg (not_not.mpr size), BigEndian.decode_encode small]
  rfl

theorem reads_readBase
    {tag : Tag} {type : ItemType} {length : Nat} {bytes : Bytes}
    (written : writeBase tag type length = .ok bytes) :
    Reads (readBase tag type) bytes length := by
  unfold writeBase at written
  split at written
  · rename_i small
    cases written
    rw [List.append_assoc]
    exact (reads_readTag tag).bind
      ((reads_readType type).bind (reads_readLength small))
  · cases written

end Headers

section Primitives

/-- What completes a value to a multiple of eight bytes. -/
def paddingLength (length : Nat) : Nat := (8 - length % 8) % 8

def writeInteger (tag : Tag) (value : Int) : Except CodecError Bytes := do
  let header ← writeBase tag .integer 4
  let packed ← packSigned 4 value
  let padding ← packSigned 4 0
  return header ++ (packed ++ padding)

def readInteger (tag : Tag) : Reader Int := do
  let length ← readBase tag .integer
  if length ≠ 4 then throw (.readValueError "Integer" "length")
  let value ← unpackSigned 4
  let pad ← unpackSigned 4
  if pad ≠ 0 then throw (.readValueError "Integer" "pad")
  return value

/-- The items of eight bytes: long integers and dates. -/
def writeLongInteger (type : ItemType) (tag : Tag) (value : Int) :
    Except CodecError Bytes := do
  let header ← writeBase tag type 8
  let packed ← packSigned 8 value
  return header ++ packed

def readLongInteger (type : ItemType) (tag : Tag) : Reader Int := do
  let length ← readBase tag type
  if length ≠ 8 then
    throw (.invalidPrimitiveLength
      s!"invalid long integer length read; expected: 8, observed: {length}")
  unpackSigned 8

/-- The member has no value before it is set or read. -/
def writeEnumeration (tag : Tag) (code : Option Nat) :
    Except CodecError Bytes := do
  let header ← writeBase tag .enumeration 4
  match code with
  | none => throw .attributeError
  | some code => do
      let packed ← pack 4 code
      let padding ← pack 4 0
      return header ++ (packed ++ padding)

def readEnumeration (ofCode? : Nat → Option α) (tag : Tag) : Reader α := do
  let length ← readBase tag .enumeration
  if length ≠ 4 then
    throw (.invalidPrimitiveLength "enumeration length must be 4")
  match ofCode? (← unpack 4) with
  | none => throw .valueError
  | some value => do
      let pad ← unpack 4
      if pad ≠ 0 then throw (.invalidPaddingBytes "padding bytes must be zero")
      return value

/-- A value of `None` cannot be packed. -/
def writeBoolean (tag : Tag) (value : Option Bool) :
    Except CodecError Bytes := do
  let header ← writeBase tag .boolean 8
  match value with
  | none => throw .structError
  | some value => do
      let packed ← pack 8 (if value then 1 else 0)
      return header ++ packed

/-- The declared length is not looked at. -/
def readBoolean (tag : Tag) : Reader Bool := do
  let _ ← readBase tag .boolean
  let value ← unpack 8
  if value = 1 then return true
  else if value = 0 then return false
  else throw .valueError

def writeInterval (tag : Tag) (value : Option Nat) :
    Except CodecError Bytes := do
  let header ← writeBase tag .interval 4
  match value with
  | none => throw .structError
  | some value => do
      let packed ← pack 4 value
      let padding ← pack 4 0
      return header ++ (packed ++ padding)

def readInterval (tag : Tag) : Reader Nat := do
  let length ← readBase tag .interval
  if length ≠ 4 then
    throw (.invalidPrimitiveLength "interval length must be 4")
  let value ← unpack 4
  let pad ← unpack 4
  if pad ≠ 0 then throw (.invalidPaddingBytes "padding bytes must be zero")
  return value

/-- `pack('!c', char.encode())`, character by character: the encoding of a
character outside ASCII is longer than a byte. -/
def packChars : List Char → Except CodecError Bytes
  | [] => .ok []
  | char :: rest => do
      if char.toNat < 128 then
        let others ← packChars rest
        return UInt8.ofNat char.toNat :: others
      else throw .structError

/-- A byte is decoded on its own. -/
def unpackChars : Nat → Reader (List Char)
  | 0 => return []
  | count + 1 => do
      match ← take 1 with
      | [byte] =>
          if byte.toNat < 128 then
            let others ← unpackChars count
            return Char.ofNat byte.toNat :: others
          else throw .unicodeDecodeError
      | _ => throw .structError

/-- `istream.read(1)[0]`, byte by byte. -/
def unpackBytes : Nat → Reader Bytes
  | 0 => return []
  | count + 1 => do
      match ← take 1 with
      | [byte] => do
          let others ← unpackBytes count
          return byte :: others
      | _ => throw .indexError

/-- The padding bytes must be zero. -/
def readPadding : Nat → Reader Unit
  | 0 => return ()
  | count + 1 => do
      let pad ← unpack 1
      if pad ≠ 0 then throw (.readValueError "TextString" "pad")
      readPadding count

/-- The length counts the characters.  The padding is part of the state of the
object: a decoded one can have another than a new one. -/
def writeTextString (tag : Tag) (value : String) (padding : Nat) :
    Except CodecError Bytes := do
  let header ← writeBase tag .textString value.toList.length
  let packed ← packChars value.toList
  return header ++ (packed ++ List.replicate padding 0)

/-- Also a padding of eight bytes is not read. -/
def readTextString (tag : Tag) : Reader String := do
  let length ← readBase tag .textString
  let chars ← unpackChars length
  let padding := 8 - length % 8
  if padding < 8 then readPadding padding
  return .ofList chars

def writeByteString (tag : Tag) (value : Bytes) : Except CodecError Bytes := do
  let header ← writeBase tag .byteString value.length
  return header ++ (value ++ List.replicate (paddingLength value.length) 0)

def readByteString (tag : Tag) : Reader Bytes := do
  let length ← readBase tag .byteString
  let value ← unpackBytes length
  readPadding (paddingLength length)
  return value

end Primitives

section Items

/-- The members of an enumeration and their codes. -/
class Coded (α : Type) where
  code : α → Nat
  ofCode? : Nat → Option α
  ofCode?_code : ∀ value, ofCode? (code value) = some value
  code_lt : ∀ value, code value < 256 ^ 4

abbrev Item := Format Tag CodecError

def integerItem (tag : Tag) : Item Int where
  tag := tag
  encode := writeInteger tag
  decode := readInteger tag
  fits value := BigEndian.FitsSigned 4 value
  size _ := 16

def longIntegerItem (tag : Tag) : Item Int where
  tag := tag
  encode := writeLongInteger .longInteger tag
  decode := readLongInteger .longInteger tag
  fits value := BigEndian.FitsSigned 8 value
  size _ := 16

def dateTimeItem (tag : Tag) : Item Int where
  tag := tag
  encode := writeLongInteger .dateTime tag
  decode := readLongInteger .dateTime tag
  fits value := BigEndian.FitsSigned 8 value
  size _ := 16

def enumerationItem (α : Type) [Coded α] (tag : Tag) : Item α where
  tag := tag
  encode value := writeEnumeration tag (some (Coded.code value))
  decode := readEnumeration Coded.ofCode? tag
  fits _ := true
  size _ := 16

def booleanItem (tag : Tag) : Item Bool where
  tag := tag
  encode value := writeBoolean tag (some value)
  decode := readBoolean tag
  fits _ := true
  size _ := 16

def intervalItem (tag : Tag) : Item Nat where
  tag := tag
  encode value := writeInterval tag (some value)
  decode := readInterval tag
  fits value := value < 256 ^ 4
  size _ := 16

def textStringItem (tag : Tag) : Item String where
  tag := tag
  encode value := writeTextString tag value (paddingLength value.toList.length)
  decode := readTextString tag
  fits value := value.toList.all (·.toNat < 128) &&
    value.toList.length < 256 ^ 4
  size value :=
    8 + (value.toList.length + paddingLength value.toList.length)

def byteStringItem (tag : Tag) : Item Bytes where
  tag := tag
  encode := writeByteString tag
  decode := readByteString tag
  fits value := value.length < 256 ^ 4
  size value := 8 + (value.length + paddingLength value.length)

/-- Items that begin with a header show its tag. -/
theorem shows_of_writeBase
    {tag : Tag} {type : ItemType} {length : Nat} {header value bytes : Bytes}
    (written : writeBase tag type length = .ok header)
    (same : header ++ value = bytes) (rest : Bytes) :
    nextTag (bytes ++ rest) = some tag := by
  rw [← same, List.append_assoc]
  exact nextTag_of_writeBase written _

theorem reads_readInteger
    {tag : Tag} {value : Int} {bytes : Bytes}
    (encoded : writeInteger tag value = .ok bytes) :
    Reads (readInteger tag) bytes value := by
  obtain ⟨header, written, encoded⟩ := bind_eq_ok encoded
  obtain ⟨packed, packs, encoded⟩ := bind_eq_ok encoded
  obtain ⟨padding, pads, encoded⟩ := bind_eq_ok encoded
  cases encoded
  intro rest
  unfold readInteger
  rw [List.append_assoc, List.append_assoc,
    run_bind_ok (reads_readBase written _), if_neg (by decide),
    run_bind_ok (reads_unpackSigned packs _),
    run_bind_ok (reads_unpackSigned pads _), if_neg (by decide)]
  rfl

theorem lawful_integerItem (tag : Tag) :
    (integerItem tag).Lawful nextTag where
  shows := by
    intro value bytes encoded
    obtain ⟨header, written, encoded⟩ := bind_eq_ok encoded
    obtain ⟨packed, packs, encoded⟩ := bind_eq_ok encoded
    obtain ⟨padding, pads, encoded⟩ := bind_eq_ok encoded
    cases encoded
    exact shows_of_writeBase written rfl
  reads := reads_readInteger

theorem reads_readLongInteger
    {type : ItemType} {tag : Tag} {value : Int} {bytes : Bytes}
    (encoded : writeLongInteger type tag value = .ok bytes) :
    Reads (readLongInteger type tag) bytes value := by
  obtain ⟨header, written, encoded⟩ := bind_eq_ok encoded
  obtain ⟨packed, packs, encoded⟩ := bind_eq_ok encoded
  cases encoded
  intro rest
  unfold readLongInteger
  rw [List.append_assoc, run_bind_ok (reads_readBase written _),
    if_neg (by decide)]
  exact reads_unpackSigned packs rest

theorem shows_of_writeLongInteger
    {type : ItemType} {tag : Tag} {value : Int} {bytes : Bytes}
    (encoded : writeLongInteger type tag value = .ok bytes) (rest : Bytes) :
    nextTag (bytes ++ rest) = some tag := by
  obtain ⟨header, written, encoded⟩ := bind_eq_ok encoded
  obtain ⟨packed, packs, encoded⟩ := bind_eq_ok encoded
  cases encoded
  exact shows_of_writeBase written rfl rest

theorem lawful_longIntegerItem (tag : Tag) :
    (longIntegerItem tag).Lawful nextTag where
  shows := shows_of_writeLongInteger
  reads := reads_readLongInteger

theorem lawful_dateTimeItem (tag : Tag) :
    (dateTimeItem tag).Lawful nextTag where
  shows := shows_of_writeLongInteger
  reads := reads_readLongInteger

theorem lawful_enumerationItem (α : Type) [Coded α] (tag : Tag) :
    (enumerationItem α tag).Lawful nextTag where
  shows := by
    intro value bytes encoded
    obtain ⟨header, written, encoded⟩ := bind_eq_ok encoded
    obtain ⟨packed, packs, encoded⟩ := bind_eq_ok encoded
    obtain ⟨padding, pads, encoded⟩ := bind_eq_ok encoded
    cases encoded
    exact shows_of_writeBase written rfl
  reads := by
    intro value bytes encoded rest
    obtain ⟨header, written, encoded⟩ := bind_eq_ok encoded
    obtain ⟨packed, packs, encoded⟩ := bind_eq_ok encoded
    obtain ⟨padding, pads, encoded⟩ := bind_eq_ok encoded
    cases encoded
    change (readEnumeration Coded.ofCode? tag).run _ = _
    unfold readEnumeration
    rw [List.append_assoc, List.append_assoc,
      run_bind_ok (reads_readBase written _), if_neg (by decide),
      run_bind_ok (reads_unpack packs _), Coded.ofCode?_code]
    dsimp only
    rw [run_bind_ok (reads_unpack pads _), if_neg (by decide)]
    rfl

theorem lawful_booleanItem (tag : Tag) :
    (booleanItem tag).Lawful nextTag where
  shows := by
    intro value bytes encoded
    obtain ⟨header, written, encoded⟩ := bind_eq_ok encoded
    obtain ⟨packed, packs, encoded⟩ := bind_eq_ok encoded
    cases encoded
    exact shows_of_writeBase written rfl
  reads := by
    intro value bytes encoded rest
    obtain ⟨header, written, encoded⟩ := bind_eq_ok encoded
    obtain ⟨packed, packs, encoded⟩ := bind_eq_ok encoded
    cases encoded
    change (readBoolean tag).run _ = _
    unfold readBoolean
    rw [List.append_assoc, run_bind_ok (reads_readBase written _),
      run_bind_ok (reads_unpack packs _)]
    cases value <;> rfl

theorem lawful_intervalItem (tag : Tag) :
    (intervalItem tag).Lawful nextTag where
  shows := by
    intro value bytes encoded
    obtain ⟨header, written, encoded⟩ := bind_eq_ok encoded
    obtain ⟨packed, packs, encoded⟩ := bind_eq_ok encoded
    obtain ⟨padding, pads, encoded⟩ := bind_eq_ok encoded
    cases encoded
    exact shows_of_writeBase written rfl
  reads := by
    intro value bytes encoded rest
    obtain ⟨header, written, encoded⟩ := bind_eq_ok encoded
    obtain ⟨packed, packs, encoded⟩ := bind_eq_ok encoded
    obtain ⟨padding, pads, encoded⟩ := bind_eq_ok encoded
    cases encoded
    change (readInterval tag).run _ = _
    unfold readInterval
    rw [List.append_assoc, List.append_assoc,
      run_bind_ok (reads_readBase written _), if_neg (by decide),
      run_bind_ok (reads_unpack packs _),
      run_bind_ok (reads_unpack pads _), if_neg (by decide)]
    rfl

section Strings

theorem reads_unpackChars
    {chars : List Char} {bytes : Bytes} (packed : packChars chars = .ok bytes) :
    Reads (unpackChars chars.length) bytes chars := by
  induction chars generalizing bytes with
  | nil =>
      cases packed
      exact Reads.pure []
  | cons char chars ih =>
      unfold packChars at packed
      split at packed
      · rename_i ascii
        obtain ⟨others, packs, packed⟩ := bind_eq_ok packed
        cases packed
        intro rest
        have byte : (UInt8.ofNat char.toNat).toNat = char.toNat := by
          rw [UInt8.toNat_ofNat']
          omega
        have first : Reads (take 1 : Reader Bytes) [UInt8.ofNat char.toNat]
            [UInt8.ofNat char.toNat] := .take_of_length rfl
        change (take 1 >>= _ : Reader _).run
          ([UInt8.ofNat char.toNat] ++ (others ++ rest)) = _
        rw [run_bind_ok (first _)]
        dsimp only
        rw [byte, if_pos ascii, run_bind_ok (ih packs rest), Char.ofNat_toNat]
        rfl
      · cases packed

theorem reads_unpackBytes (bytes : Bytes) :
    Reads (unpackBytes bytes.length) bytes bytes := by
  induction bytes with
  | nil => exact Reads.pure []
  | cons byte bytes ih =>
      intro rest
      have first : Reads (take 1 : Reader Bytes) [byte] [byte] :=
        .take_of_length rfl
      change (take 1 >>= _ : Reader _).run ([byte] ++ (bytes ++ rest)) = _
      rw [run_bind_ok (first _)]
      dsimp only
      rw [run_bind_ok (ih rest)]
      rfl

theorem reads_readPadding (count : Nat) :
    Reads (readPadding count) (List.replicate count 0) () := by
  induction count with
  | zero => exact Reads.pure ()
  | succ count ih =>
      intro rest
      have zero : pack 1 0 = .ok [0] := rfl
      change (unpack 1 >>= _ : Reader _).run
        ([0] ++ (List.replicate count 0 ++ rest)) = _
      rw [run_bind_ok (reads_unpack zero _), if_neg (by decide)]
      exact ih rest

theorem reads_readTextString
    {tag : Tag} {value : String} {bytes : Bytes}
    (encoded : writeTextString tag value (paddingLength value.toList.length) =
      .ok bytes) :
    Reads (readTextString tag) bytes value := by
  obtain ⟨header, written, encoded⟩ := bind_eq_ok encoded
  obtain ⟨packed, packs, encoded⟩ := bind_eq_ok encoded
  cases encoded
  intro rest
  unfold readTextString
  rw [List.append_assoc, List.append_assoc,
    run_bind_ok (reads_readBase written _),
    run_bind_ok (reads_unpackChars packs _)]
  dsimp only
  by_cases whole : value.toList.length % 8 = 0
  · have none : paddingLength value.toList.length = 0 := by
      simp [paddingLength, whole]
    rw [none, if_neg (by omega), String.ofList_toList]
    rfl
  · have some : paddingLength value.toList.length =
        8 - value.toList.length % 8 := by
      unfold paddingLength
      omega
    rw [some, if_pos (by omega), run_bind_ok (reads_readPadding _ rest),
      String.ofList_toList]
    rfl

theorem lawful_textStringItem (tag : Tag) :
    (textStringItem tag).Lawful nextTag where
  shows := by
    intro value bytes encoded
    obtain ⟨header, written, encoded⟩ := bind_eq_ok encoded
    obtain ⟨packed, packs, encoded⟩ := bind_eq_ok encoded
    cases encoded
    exact shows_of_writeBase written rfl
  reads := reads_readTextString

theorem lawful_byteStringItem (tag : Tag) :
    (byteStringItem tag).Lawful nextTag where
  shows := by
    intro value bytes encoded
    obtain ⟨header, written, encoded⟩ := bind_eq_ok encoded
    cases encoded
    exact shows_of_writeBase written rfl
  reads := by
    intro value bytes encoded rest
    obtain ⟨header, written, encoded⟩ := bind_eq_ok encoded
    cases encoded
    change (readByteString tag).run _ = _
    unfold readByteString
    rw [List.append_assoc, List.append_assoc,
      run_bind_ok (reads_readBase written _),
      run_bind_ok (reads_unpackBytes value _),
      run_bind_ok (reads_readPadding _ rest)]
    rfl

end Strings

section Sizes

theorem yields_header
    (tag : Tag) (type : ItemType) {length : Nat} (small : length < 256 ^ 4) :
    Yields (writeBase tag type length) true 8 := by
  have yields := yields_writeBase tag type length
  rwa [decide_eq_true small] at yields

theorem yields_zeros (width : Nat) : Yields (pack width 0) true width := by
  have yields := yields_pack width 0
  rwa [decide_eq_true (Nat.pow_pos (by decide))] at yields

/-- An item of eight bytes after its header, half of them padding. -/
theorem yields_padded
    {tag : Tag} {type : ItemType} {value padding : Except CodecError Bytes}
    {fits : Bool} (yields : Yields value fits 4) (pads : Yields padding true 4) :
    Yields (do
      let header ← writeBase tag type 4
      let packed ← value
      let zeros ← padding
      return header ++ (packed ++ zeros)) fits 16 := by
  have written := (yields_header tag type (by decide : 4 < 256 ^ 4)).append_append
    yields pads
  rwa [Bool.and_true, Bool.true_and] at written

theorem sized_integerItem (tag : Tag) : (integerItem tag).Sized := by
  intro value
  have zeros : Yields (packSigned 4 0) true 4 := yields_packSigned 4 0
  exact yields_padded (yields_packSigned 4 value) zeros

theorem yields_writeLongInteger (type : ItemType) (tag : Tag) (value : Int) :
    Yields (writeLongInteger type tag value) (BigEndian.FitsSigned 8 value)
      16 := by
  have header := yields_header tag type (by decide : 8 < 256 ^ 4)
  have written := header.append (yields_packSigned 8 value)
  rwa [Bool.true_and] at written

theorem sized_dateTimeItem (tag : Tag) : (dateTimeItem tag).Sized :=
  yields_writeLongInteger .dateTime tag

theorem sized_enumerationItem (α : Type) [Coded α] (tag : Tag) :
    (enumerationItem α tag).Sized := by
  intro value
  have yields := yields_pack 4 (Coded.code value)
  rw [decide_eq_true (Coded.code_lt value)] at yields
  exact yields_padded yields (yields_zeros 4)

theorem sized_booleanItem (tag : Tag) : (booleanItem tag).Sized := by
  intro value
  have header := yields_header tag .boolean (by decide : 8 < 256 ^ 4)
  cases value
  · exact header.append (yields_pack 8 0)
  · exact header.append (yields_pack 8 1)

theorem sized_intervalItem (tag : Tag) : (intervalItem tag).Sized := by
  intro value
  exact yields_padded (yields_pack 4 value) (yields_zeros 4)

theorem yields_packChars (chars : List Char) :
    Yields (packChars chars) (chars.all (·.toNat < 128)) chars.length := by
  induction chars with
  | nil => exact ⟨rfl, rfl⟩
  | cons char chars ih =>
      unfold packChars
      rw [List.all_cons]
      split
      · rename_i ascii
        rw [decide_eq_true ascii]
        cases packed : packChars chars with
        | error exception =>
            rw [packed] at ih
            exact ih
        | ok others =>
            rw [packed] at ih
            exact ⟨ih.1, congrArg (· + 1) ih.2⟩
      · rename_i other
        rw [decide_eq_false other]
        rfl

theorem sized_textStringItem (tag : Tag) : (textStringItem tag).Sized := by
  intro value
  have header := yields_writeBase tag .textString value.toList.length
  have padding : Yields (.ok (List.replicate
      (paddingLength value.toList.length) 0) : Except CodecError Bytes) true
      (paddingLength value.toList.length) := ⟨rfl, List.length_replicate⟩
  have written := header.append_append (yields_packChars value.toList) padding
  rw [Bool.and_true, Bool.and_comm] at written
  exact written

theorem sized_byteStringItem (tag : Tag) : (byteStringItem tag).Sized := by
  intro value
  have header := yields_writeBase tag .byteString value.length
  have bytes : Yields (.ok (value ++ List.replicate
      (paddingLength value.length) 0) : Except CodecError Bytes) true
      (value.length + paddingLength value.length) := ⟨rfl, by simp⟩
  have written := header.append bytes
  rw [Bool.and_true] at written
  exact written

end Sizes

end Items

end PyKMIP
