import PyKMIP.Wire.PrimitiveObjects

/-!
# Decoding and encoding again

A primitive that is decoded and written again has its bytes again, except for
the text strings whose length is a multiple of eight: their reader computes a
padding of eight bytes where the constructor and the byte string have none.
-/

namespace PyKMIP

open Formats

/-- The primitive types.  An integer may have a signed or an unsigned format,
and an enumeration belongs to a class. -/
inductive PrimitiveType : Type 1 where
  | integer (signed : Bool)
  | longInteger
  | bigInteger
  | enumeration (enum : EnumMeta)
  | boolean
  | textString
  | byteString
  | dateTime
  | interval

namespace PrimitiveType

def Value : PrimitiveType → Type
  | .integer _ | .longInteger | .bigInteger | .dateTime | .interval => Int
  | .enumeration enum => enum.Member
  | .boolean => Bool
  | .textString => String
  | .byteString => Bytes

/-- The constructor. -/
def new :
    (type : PrimitiveType) → type.Value →
      Except CodecError (Primitive type.Value)
  | .integer _, value => Integer.new value
  | .longInteger, value => LongInteger.new value
  | .bigInteger, value => .ok (BigInteger.new value)
  | .enumeration enum, value => Enumeration.new enum value
  | .boolean, value => .ok (Boolean.new value)
  | .textString, value => .ok (TextString.new value)
  | .byteString, value => .ok (ByteString.new value)
  | .dateTime, value => LongInteger.new value
  | .interval, value => Interval.new value

def read (tag : Tag) :
    (type : PrimitiveType) → Reader (Primitive type.Value)
  | .integer signed => Integer.read signed tag
  | .longInteger => LongInteger.read .longInteger tag
  | .bigInteger => BigInteger.read tag
  | .enumeration enum => Enumeration.read enum tag
  | .boolean => Boolean.read tag
  | .textString => TextString.read tag
  | .byteString => ByteString.read tag
  | .dateTime => LongInteger.read .dateTime tag
  | .interval => Interval.read tag

def write (tag : Tag) :
    (type : PrimitiveType) → Primitive type.Value → Except CodecError Bytes
  | .integer signed, object => Integer.write signed tag object
  | .longInteger, object => LongInteger.write .longInteger tag object
  | .bigInteger, object => BigInteger.write tag object
  | .enumeration enum, object => Enumeration.write enum tag object
  | .boolean, object => Boolean.write tag object
  | .textString, object => TextString.write tag object
  | .byteString, object => ByteString.write tag object
  | .dateTime, object => LongInteger.write .dateTime tag object
  | .interval, object => Interval.write tag object

/-- The encoding of a new object with the value. -/
def encode (tag : Tag) (type : PrimitiveType) (value : type.Value) :
    Except CodecError Bytes :=
  type.new value >>= type.write tag

/-- Text does not fill its last block. -/
def KeepsPadding : (type : PrimitiveType) → type.Value → Prop
  | .textString, (value : String) => value.toList.length % 8 ≠ 0
  | _, _ => True

variable {tag : Tag} {bytes : Bytes}

/-- A decoded object that is the new one is written as that. -/
theorem rewritten_of_same
    {type : PrimitiveType} {value : type.Value}
    {object : Primitive type.Value}
    (reads : Reads (type.read tag) bytes object)
    (written : type.write tag object = .ok bytes)
    (keeps : type.KeepsPadding value) :
    ∃ decoded, Reads (type.read tag) bytes decoded ∧
      (type.write tag decoded = .ok bytes ↔ type.KeepsPadding value) :=
  ⟨object, reads, iff_of_true written keeps⟩

theorem rewritten_textString
    {value : String}
    (written : TextString.write tag (TextString.new value) = .ok bytes) :
    ∃ decoded, Reads (TextString.read tag) bytes decoded ∧
      (TextString.write tag decoded = .ok bytes ↔
        value.toList.length % 8 ≠ 0) := by
  refine ⟨_, TextString.reads_write written, ?_⟩
  rw [TextString.write_decoded written]
  by_cases whole : value.toList.length % 8 = 0
  · rw [if_pos whole]
    apply iff_of_false
    · intro same
      have lengths := congrArg List.length (Except.ok.inj same)
      simp at lengths
    · exact not_not.mpr whole
  · rw [if_neg whole]
    apply iff_of_true
    · simp
    · exact whole

end PrimitiveType

/-- The encoding of every value of every primitive type is decoded, and the
decoded object is written with the same bytes exactly if it is not text that
fills its last block. -/
theorem decoded_primitive_is_rewritten_iff
    (type : PrimitiveType) (tag : Tag) (value : type.Value) {bytes : Bytes}
    (encoded : type.encode tag value = .ok bytes) :
    ∃ decoded, Reads (type.read tag) bytes decoded ∧
      (type.write tag decoded = .ok bytes ↔ type.KeepsPadding value) := by
  obtain ⟨object, built, written⟩ := bind_eq_ok encoded
  cases type with
  | integer signed =>
      exact PrimitiveType.rewritten_of_same (Integer.reads_write built written)
        written trivial
  | longInteger | dateTime =>
      exact PrimitiveType.rewritten_of_same
        (LongInteger.reads_write built written) written trivial
  | bigInteger =>
      cases built
      exact PrimitiveType.rewritten_of_same (BigInteger.reads_write written)
        written trivial
  | enumeration enum =>
      exact PrimitiveType.rewritten_of_same
        (Enumeration.reads_write built written) written trivial
  | boolean =>
      cases built
      exact PrimitiveType.rewritten_of_same (Boolean.reads_write written)
        written trivial
  | textString =>
      cases built
      exact PrimitiveType.rewritten_textString written
  | byteString =>
      cases built
      exact PrimitiveType.rewritten_of_same (ByteString.reads_write written)
        written trivial
  | interval =>
      exact PrimitiveType.rewritten_of_same (Interval.reads_write built written)
        written trivial

theorem decoded_primitive_is_rewritten_iff_secret :
    ∃ bytes decoded,
      PrimitiveType.textString.encode .nameValue "secret" = .ok bytes ∧
      Reads (PrimitiveType.textString.read .nameValue) bytes decoded ∧
      (PrimitiveType.textString.write .nameValue decoded = .ok bytes ↔
        PrimitiveType.textString.KeepsPadding "secret") := by
  have encoded : PrimitiveType.textString.encode .nameValue "secret" =
      .ok [66, 0, 85, 7, 0, 0, 0, 6, 115, 101, 99, 114, 101, 116, 0, 0] := rfl
  obtain ⟨decoded, reads, rewritten⟩ :=
    decoded_primitive_is_rewritten_iff .textString .nameValue "secret" encoded
  exact ⟨_, decoded, encoded, reads, rewritten⟩

/-- The empty text is decoded from its header and written with eight zeros
after it. -/
theorem empty_text_grows :
    ¬∀ (type : PrimitiveType) (tag : Tag) (value : type.Value) (bytes : Bytes)
        (decoded : Primitive type.Value),
      type.encode tag value = .ok bytes →
      Reads (type.read tag) bytes decoded →
      type.write tag decoded = .ok bytes := by
  intro rewrites
  have encoded : TextString.write .nameValue (TextString.new "") =
      .ok [66, 0, 85, 7, 0, 0, 0, 0] := rfl
  have same := rewrites .textString .nameValue "" _ _ encoded
    (TextString.reads_write encoded)
  have grown := TextString.write_decoded encoded
  cases grown.symm.trans same

end PyKMIP
