import PyKMIP.Properties.PrimitiveRewriting

/-!
# The bounds of the numeric primitives

The constructors check the bounds of a type, the writers pack with its format,
and the readers unpack and check again.  The bounds and the formats agree for
the signed types; an unsigned integer has the bounds of a signed one, and the
upper bound of intervals and enumerations is one too high.
-/

namespace PyKMIP

open Formats

inductive NumericType : Type 1 where
  | integer (signed : Bool)
  | longInteger
  | interval
  | dateTime
  | enumeration (enum : EnumMeta)

namespace NumericType

def primitive : NumericType → PrimitiveType
  | .integer signed => .integer signed
  | .longInteger => .longInteger
  | .interval => .interval
  | .dateTime => .dateTime
  | .enumeration enum => .enumeration enum

abbrev Value (type : NumericType) : Type := type.primitive.Value

/-- An object that holds the value, whether its constructor accepts it or
not. -/
def holding : (type : NumericType) → type.Value → Primitive type.Value
  | .integer _, (value : Int) => (⟨value, some 4, 4⟩ : Primitive Int)
  | .longInteger, (value : Int) => (⟨value, some 8, 0⟩ : Primitive Int)
  | .interval, (value : Int) => (⟨value, some 4, 0⟩ : Primitive Int)
  | .dateTime, (value : Int) => (⟨value, some 8, 0⟩ : Primitive Int)
  | .enumeration enum, (value : enum.Member) =>
      (⟨value, some 4, 0⟩ : Primitive enum.Member)

variable (tag : Tag) (type : NumericType) (value : type.Value)

/-- The constructor accepts the value. -/
def Accepts : Prop := ∃ object, type.primitive.new value = .ok object

/-- The bytes are read as the value. -/
def ReadsBack (bytes : Bytes) : Prop :=
  ∃ decoded, Reads (type.primitive.read tag) bytes decoded ∧
    decoded.value = value

/-- The constructor accepts what can be written and read back; what it accepts
is written, and what is written is read back. -/
structure Agrees : Prop where
  accepts_iff : type.Accepts value ↔
    ∃ bytes, type.primitive.write tag (type.holding value) = .ok bytes ∧
      type.ReadsBack tag value bytes
  writes : ∀ object, type.primitive.new value = .ok object →
    ∃ bytes, type.primitive.write tag object = .ok bytes
  reads : ∀ bytes, type.primitive.write tag (type.holding value) = .ok bytes →
    type.ReadsBack tag value bytes

/-- The values about which the bounds and the format agree. -/
def BoundsMatch : (type : NumericType) → type.Value → Prop
  | .integer true, _ | .longInteger, _ | .dateTime, _ => True
  | .integer false, (value : Int) =>
      ¬(-2 ^ 31 ≤ value ∧ value < 0) ∧ ¬(2 ^ 31 ≤ value ∧ value < 2 ^ 32)
  | .interval, (value : Int) => value ≠ 2 ^ 32
  | .enumeration enum, (value : enum.Member) => enum.code value ≠ 2 ^ 32

variable {tag type value}

/-- A type whose constructor and reader make the same check agrees about a value
exactly if the check and the format do. -/
theorem agrees_iff
    {check : Except CodecError Unit} {fits : Prop}
    (news : type.primitive.new value = check.map fun _ => type.holding value)
    (writes : (∃ bytes,
      type.primitive.write tag (type.holding value) = .ok bytes) ↔ fits)
    (runs : ∀ bytes,
      type.primitive.write tag (type.holding value) = .ok bytes →
      ∀ rest, (type.primitive.read tag).run (bytes ++ rest) =
        check.map fun _ => (type.holding value, rest))
    (holds : (type.holding value).value = value) :
    type.Agrees tag value ↔ (check = .ok () ↔ fits) := by
  have accepts : type.Accepts value ↔ check = .ok () := by
    unfold Accepts
    rw [news]
    cases check with
    | ok => exact iff_of_true ⟨_, rfl⟩ rfl
    | error exception => exact iff_of_false nofun nofun
  have readsBack : ∀ bytes,
      type.primitive.write tag (type.holding value) = .ok bytes →
      (type.ReadsBack tag value bytes ↔ check = .ok ()) := by
    intro bytes written
    constructor
    · rintro ⟨decoded, reads, _⟩
      have ran := (reads []).symm.trans (runs bytes written [])
      cases check with
      | ok => rfl
      | error exception => cases ran
    · intro passes
      refine ⟨_, fun rest => ?_, holds⟩
      rw [runs bytes written, passes]
      rfl
  constructor
  · intro agrees
    constructor
    · intro passes
      obtain ⟨bytes, written, _⟩ :=
        agrees.accepts_iff.mp (accepts.mpr passes)
      exact writes.mp ⟨bytes, written⟩
    · intro fit
      obtain ⟨bytes, written⟩ := writes.mpr fit
      exact (readsBack bytes written).mp (agrees.reads bytes written)
  · intro same
    constructor
    · rw [accepts]
      constructor
      · intro passes
        obtain ⟨bytes, written⟩ := writes.mpr (same.mp passes)
        exact ⟨bytes, written, (readsBack bytes written).mpr passes⟩
      · rintro ⟨bytes, written, _⟩
        exact same.mpr (writes.mp ⟨bytes, written⟩)
    · intro object built
      have passes := accepts.mp ⟨object, built⟩
      rw [news, passes] at built
      cases built
      exact writes.mpr (same.mp passes)
    · intro bytes written
      exact (readsBack bytes written).mpr
        (same.mpr (writes.mp ⟨bytes, written⟩))

section Formats

variable {width : Nat} {number : Int}

theorem validateRange_eq_ok_iff {minimum maximum value : Int} :
    validateRange minimum maximum value = .ok () ↔
      minimum ≤ value ∧ value ≤ maximum := by
  unfold validateRange
  split
  · exact iff_of_false nofun (by omega)
  · split
    · exact iff_of_false nofun (by omega)
    · exact iff_of_true rfl (by omega)

theorem exists_packSigned_iff :
    (∃ bytes, packSigned width number = .ok bytes) ↔
      BigEndian.FitsSigned width number := by
  unfold packSigned
  split
  · exact iff_of_true ⟨_, rfl⟩ ‹_›
  · exact iff_of_false nofun ‹_›

theorem exists_packUnsigned_iff :
    (∃ bytes, packUnsigned width number = .ok bytes) ↔
      0 ≤ number ∧ number < 256 ^ width := by
  have power : ((256 ^ width : Nat) : Int) = 256 ^ width :=
    Int.natCast_pow 256 width
  unfold packUnsigned pack
  split
  · exact iff_of_false nofun (by omega)
  · split
    · exact iff_of_true ⟨_, rfl⟩ (by omega)
    · exact iff_of_false nofun (by omega)

/-- Only the packing of the value can fail. -/
theorem exists_written_iff
    {header packed padding : Except CodecError Bytes}
    (heads : ∃ bytes, header = .ok bytes) (pads : ∃ zeros, padding = .ok zeros) :
    (∃ bytes, (do
      let first ← header
      let value ← packed
      let zeros ← padding
      return first ++ (value ++ zeros)) = .ok bytes) ↔
      ∃ bytes, packed = .ok bytes := by
  obtain ⟨first, rfl⟩ := heads
  obtain ⟨zeros, rfl⟩ := pads
  cases packed with
  | ok value => exact iff_of_true ⟨_, rfl⟩ ⟨_, rfl⟩
  | error exception => exact iff_of_false nofun nofun

theorem exists_written_whole_iff
    {header packed : Except CodecError Bytes}
    (heads : ∃ bytes, header = .ok bytes) :
    (∃ bytes, (do return (← header) ++ (← packed)) = .ok bytes) ↔
      ∃ bytes, packed = .ok bytes := by
  obtain ⟨first, rfl⟩ := heads
  cases packed with
  | ok value => exact iff_of_true ⟨_, rfl⟩ ⟨_, rfl⟩
  | error exception => exact iff_of_false nofun nofun

theorem writeBase_small {type : ItemType} {length : Nat}
    (small : length < 256 ^ 4) :
    ∃ header, writeBase tag type length = .ok header :=
  ⟨_, if_pos small⟩

end Formats

section Types

theorem agrees_integer_iff (signed : Bool) (number : Int) :
    (NumericType.integer signed).Agrees tag number ↔
      (Integer.validate number = .ok () ↔
        ∃ packed, Integer.packValue signed number = .ok packed) := by
  apply agrees_iff
  · change Integer.new number = _
    unfold Integer.new
    cases Integer.validate number <;> rfl
  · exact exists_written_iff (writeBase_small (by decide))
      ⟨_, by cases signed <;> rfl⟩
  · exact fun bytes written => Integer.run_read written
  · rfl

theorem agrees_signed (number : Int) :
    (NumericType.integer true).Agrees tag number := by
  have packs : (∃ packed, Integer.packValue true number = .ok packed) ↔
      BigEndian.FitsSigned 4 number := exists_packSigned_iff
  rw [agrees_integer_iff, packs]
  unfold Integer.validate BigEndian.FitsSigned
  rw [validateRange_eq_ok_iff]
  omega

theorem agrees_unsigned_iff (number : Int) :
    (NumericType.integer false).Agrees tag number ↔
      ¬(-2 ^ 31 ≤ number ∧ number < 0) ∧
        ¬(2 ^ 31 ≤ number ∧ number < 2 ^ 32) := by
  have packs : (∃ packed, Integer.packValue false number = .ok packed) ↔
      0 ≤ number ∧ number < 256 ^ 4 := exists_packUnsigned_iff
  rw [agrees_integer_iff, packs]
  unfold Integer.validate
  rw [validateRange_eq_ok_iff]
  omega

/-- The check of the eight-byte types agrees with their format. -/
theorem validate_longInteger_iff (number : Int) :
    LongInteger.validate number = .ok () ↔
      ∃ packed, packSigned 8 number = .ok packed := by
  rw [exists_packSigned_iff]
  unfold LongInteger.validate BigEndian.FitsSigned
  rw [validateRange_eq_ok_iff]
  omega

theorem new_longInteger (number : Int) :
    LongInteger.new number = (LongInteger.validate number).map fun _ =>
      ⟨number, some 8, 0⟩ := by
  unfold LongInteger.new
  cases LongInteger.validate number with
  | ok => rfl
  | error exception => rfl

theorem exists_written_longInteger_iff (type : ItemType) (number : Int) :
    (∃ bytes, LongInteger.write type tag ⟨number, some 8, 0⟩ = .ok bytes) ↔
      ∃ packed, packSigned 8 number = .ok packed :=
  exists_written_whole_iff (writeBase_small (by decide))

theorem agrees_longInteger (number : Int) :
    NumericType.longInteger.Agrees tag number := by
  refine (agrees_iff ?_ ?_ ?_ rfl).mpr (validate_longInteger_iff number)
  · exact new_longInteger number
  · exact exists_written_longInteger_iff .longInteger number
  · exact fun bytes written => LongInteger.run_read written

theorem agrees_dateTime (number : Int) :
    NumericType.dateTime.Agrees tag number := by
  refine (agrees_iff ?_ ?_ ?_ rfl).mpr (validate_longInteger_iff number)
  · exact new_longInteger number
  · exact exists_written_longInteger_iff .dateTime number
  · exact fun bytes written => LongInteger.run_read written

/-- An unsigned number of four bytes with an upper bound of one more. -/
theorem validate_iff_packs_iff (number : Int) :
    (validateRange 0 4294967296 number = .ok () ↔
        ∃ packed, packUnsigned 4 number = .ok packed) ↔
      number ≠ 2 ^ 32 := by
  rw [exists_packUnsigned_iff, validateRange_eq_ok_iff]
  omega

theorem agrees_interval_iff (number : Int) :
    NumericType.interval.Agrees tag number ↔ number ≠ 2 ^ 32 := by
  rw [← validate_iff_packs_iff]
  apply agrees_iff
  · change Interval.new number = _
    unfold Interval.new Interval.validate
    cases validateRange 0 4294967296 number <;> rfl
  · exact exists_written_iff (writeBase_small (by decide)) ⟨_, rfl⟩
  · exact fun bytes written => Interval.run_read written
  · rfl

theorem agrees_enumeration_iff {enum : EnumMeta} (member : enum.Member) :
    (NumericType.enumeration enum).Agrees tag member ↔
      enum.code member ≠ 2 ^ 32 := by
  rw [← validate_iff_packs_iff]
  apply agrees_iff
  · change Enumeration.new enum member = _
    unfold Enumeration.new Enumeration.validate
    cases validateRange 0 4294967296 (enum.code member) <;> rfl
  · exact exists_written_iff (writeBase_small (by decide)) ⟨_, rfl⟩
  · exact fun bytes written => Enumeration.run_read written
  · rfl

end Types

end NumericType

/-- The constructor of a numeric type accepts a value exactly if it can be
written and read back, except for the values about which the bounds do not match
the format. -/
theorem numeric_bounds_agree_iff
    (tag : Tag) (type : NumericType) (value : type.Value) :
    type.Agrees tag value ↔ type.BoundsMatch value := by
  cases type with
  | integer signed =>
      cases signed with
      | true => exact iff_of_true (NumericType.agrees_signed value) trivial
      | false => exact NumericType.agrees_unsigned_iff value
  | longInteger =>
      exact iff_of_true (NumericType.agrees_longInteger value) trivial
  | dateTime => exact iff_of_true (NumericType.agrees_dateTime value) trivial
  | interval => exact NumericType.agrees_interval_iff value
  | enumeration enum => exact NumericType.agrees_enumeration_iff value

/-- The upper bound of an interval takes one more bit than its format has. -/
theorem interval_bound_is_not_written :
    ¬∀ (tag : Tag) (type : NumericType) (value : type.Value),
      type.Agrees tag value := by
  intro agrees
  have matching := (NumericType.agrees_interval_iff (2 ^ 32)).mp
    (agrees .default .interval (2 ^ 32 : Int))
  exact matching rfl

end PyKMIP
