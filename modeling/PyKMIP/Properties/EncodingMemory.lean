import Mathlib.Data.List.Nodup
import PyKMIP.Properties.AttributeForms
import PyKMIP.Wire.AttributePayloads

/-!
# What encoding leaves behind

A payload is encoded by its value: with a fresh tag on every attribute value.
Writing it comes to the same unless an earlier write in the form of version 2.0
has changed the tags of its values, or a list holds one value under two names.
-/

namespace PyKMIP.Wire

open Formats StatefulExcept

section Encoding

variable {version : KmipVersion}

/-- The fields with the given tags. -/
def Layout.encodeWith (version : KmipVersion) :
    Layout (Tag × Attribute) → Except AttributesError Bytes
  | .other write => (write version).mapError .codec
  | .attributes place entries => encodeAttributes version place entries
  | .seq first second => do
      return (← first.encodeWith version) ++ (← second.encodeWith version)
  | .struct tag fields => do
      enclose tag (← fields.encodeWith version)

/-- The tag under which the value of an attribute belongs into the encoding. -/
def freshTag (version : KmipVersion) (entry : Attribute) : Tag :=
  if .kmip20 ≤ version then entry.form20.1 else .attributeValue

def fresh (version : KmipVersion) (entry : Attribute) : Tag × Attribute :=
  (freshTag version entry, entry)

/-- The encoding of a payload by its value. -/
def Layout.encode (version : KmipVersion) (layout : Layout Attribute) :
    Except AttributesError Bytes :=
  (layout.map (fresh version)).encodeWith version

end Encoding

section Sizes

variable {version : KmipVersion}

/-- Whether a place and its attributes have an encoding in the 1.x versions. -/
def Place.fits (fits : Bool) (size : Nat) : Place → Bool
  | .template _ names => names.all (nameItem .name).fits && fits &&
      (names.map (nameItem .name).size).sum + size < 256 ^ 4
  | .payload => fits

def Place.size (size : Nat) : Place → Nat
  | .template _ names => 8 + ((names.map (nameItem .name).size).sum + size)
  | .payload => size

/-- The length of the encoding of a payload. -/
def Layout.size (version : KmipVersion) : Layout Attribute → Nat
  | .other write => (write version).toOption.elim 0 List.length
  | .attributes place entries =>
      if .kmip20 ≤ version then
        8 + (entries.map (·.attributeValue.size)).sum
      else place.size (entries.map attributeItem.size).sum
  | .seq first second => first.size version + second.size version
  | .struct _ fields => 8 + fields.size version

/-- Whether a payload has an encoding. -/
def Layout.fits (version : KmipVersion) : Layout Attribute → Bool
  | .other write => (write version).isOk
  | .attributes place entries =>
      if .kmip20 ≤ version then
        entries.all (fun entry => supported version entry.form20) &&
          entries.all (·.attributeValue.fits) &&
          (entries.map (·.attributeValue.size)).sum < 256 ^ 4
      else place.fits (entries.all attributeItem.fits)
        (entries.map attributeItem.size).sum
  | .seq first second => first.fits version && second.fits version
  | .struct _ fields => fields.fits version && fields.size version < 256 ^ 4

theorem yields_writeEntries (entries : List (Tag × Attribute)) :
    Yields (writeEntries entries) ((entries.map (·.2)).all attributeItem.fits)
      ((entries.map (·.2)).map attributeItem.size).sum := by
  induction entries with
  | nil => exact ⟨rfl, rfl⟩
  | cons entry entries ih =>
      obtain ⟨tag, entry⟩ := entry
      rw [List.map_cons, List.all_cons, List.map_cons, List.sum_cons]
      exact (entry.yields_write tag).append ih

theorem Place.yields_encode
    {attributes : Except CodecError Bytes} {fits : Bool} {size : Nat}
    (yields : Yields attributes fits size) (place : Place) :
    Yields (place.encode attributes) (place.fits fits size) (place.size size) := by
  cases place with
  | template tag names =>
      have written := yields_encodeMany (sized_nameItem .name) names
      exact yields_writeStruct (written.append yields)
  | payload => exact yields

theorem yields_enclose
    {fields : Except AttributesError Bytes} {fits : Bool} {size : Nat}
    (yields : Yields fields fits size) (tag : Tag) :
    Yields (do enclose tag (← fields)) (fits && decide (size < 256 ^ 4))
      (8 + size) := by
  cases fields with
  | error exception =>
      rw [show fits = false from yields]
      exact Bool.false_and _
  | ok bytes =>
      obtain ⟨fitted, rfl⟩ := yields
      have header := (yields_writeBase tag .struct bytes.length).mapError
        AttributesError.codec
      have value : Yields (.ok bytes : Except AttributesError Bytes) true
        bytes.length := ⟨rfl, rfl⟩
      have written := header.append value
      rw [fitted, Bool.true_and]
      rw [Bool.and_true] at written
      exact written

theorem isAttribute_of_recent
    (recent : .kmip20 ≤ version) {tag : Tag}
    (known : isAttribute tag (some version)) : isAttribute tag none := by
  cases version with
  | kmip20 =>
      unfold isAttribute at known ⊢
      dsimp only at known ⊢
      rw [show kmip20AttributeTags.contains tag = true from known, Bool.or_true]
  | kmip10 => exact absurd recent (by decide)
  | kmip11 => exact absurd recent (by decide)
  | kmip12 => exact absurd recent (by decide)
  | kmip13 => exact absurd recent (by decide)
  | kmip14 => exact absurd recent (by decide)

theorem yields_writeValues
    (version : KmipVersion) (values : List (Tag × ValueObject)) :
    Yields (writeValues version values)
      (values.all (supported version) && values.all (·.2.fits))
      (values.map (·.2.size)).sum := by
  have tells := tells_writeValues version values
  cases written : writeValues version values with
  | ok bytes =>
      rw [written] at tells
      obtain ⟨known, fit, length⟩ := tells
      rw [List.all_eq_true.mpr known, List.all_eq_true.mpr fit]
      exact ⟨rfl, length⟩
  | error exception =>
      rw [written] at tells
      apply Bool.eq_false_iff.mpr
      intro fits
      obtain ⟨known, fit⟩ := (Bool.and_eq_true _ _).mp fits
      rw [List.all_eq_true] at known fit
      cases exception with
      | attributeNotSupported tag refused =>
          obtain ⟨_, ⟨tagged, member, unknown⟩, _⟩ := tells
          rw [known tagged member] at unknown
          cases unknown
      | codec exception =>
          obtain ⟨tagged, member, unfit⟩ := tells
          rw [fit tagged (List.takeWhile_subset _ member)] at unfit
          cases unfit
      | versionNotSupported refused => exact tells

theorem yields_attributesWrite
    (recent : .kmip20 ≤ version) (attributes : Attributes) :
    Yields (attributes.write version)
      (attributes.attributes.all (supported version) &&
        attributes.attributes.all (·.2.fits) &&
        decide ((attributes.attributes.map (·.2.size)).sum < 256 ^ 4))
      (8 + (attributes.attributes.map (·.2.size)).sum) := by
  have written := yields_enclose (yields_writeValues version attributes.attributes) attributes.tag
  unfold Attributes.write
  rw [if_pos recent]
  exact written

/-- In version 2.0, the attributes whose tags the version supports. -/
theorem encodeAttributes_recent
    (recent : .kmip20 ≤ version) (place : Place)
    (entries : List (Tag × Attribute)) :
    Yields (encodeAttributes version place entries)
      (entries.all (fun entry => isAttribute entry.1 (some version)) &&
        entries.all (·.2.attributeValue.fits) &&
        decide ((entries.map (·.2.attributeValue.size)).sum < 256 ^ 4))
      (8 + (entries.map (·.2.attributeValue.size)).sum) := by
  have written := yields_attributesWrite recent
    { attributes := taggedValues entries, tag := place.structureTag }
  have sizes : ((taggedValues entries).map (·.2.size)).sum =
      (entries.map (·.2.attributeValue.size)).sum := by
    unfold taggedValues
    rw [List.map_map]
    rfl
  have known : (taggedValues entries).all (supported version) =
      entries.all (fun entry => isAttribute entry.1 (some version)) := by
    unfold taggedValues
    rw [List.all_map]
    rfl
  have fit : (taggedValues entries).all (·.2.fits) =
      entries.all (·.2.attributeValue.fits) := by
    unfold taggedValues
    rw [List.all_map]
    rfl
  dsimp only at written
  rw [sizes, known, fit] at written
  unfold encodeAttributes Attributes.make
  rw [if_pos recent]
  split
  · exact written
  · rename_i attributes
    have unknown : entries.all
        (fun entry => isAttribute entry.1 (some version)) = false := by
      apply Bool.eq_false_iff.mpr
      intro all
      apply attributes
      unfold taggedValues
      rw [List.all_map]
      rw [List.all_eq_true] at all ⊢
      exact fun entry member => isAttribute_of_recent recent (all entry member)
    rw [unknown]
    rfl

theorem encodeAttributes_old
    (old : ¬.kmip20 ≤ version) (place : Place)
    (entries : List (Tag × Attribute)) :
    Yields (encodeAttributes version place entries)
      (place.fits ((entries.map (·.2)).all attributeItem.fits)
        ((entries.map (·.2)).map attributeItem.size).sum)
      (place.size ((entries.map (·.2)).map attributeItem.size).sum) := by
  have written := place.yields_encode (yields_writeEntries entries)
  unfold encodeAttributes
  rw [if_neg old]
  exact written.mapError AttributesError.codec

theorem yields_other
    (write : KmipVersion → Except CodecError Bytes) :
    Yields ((write version).mapError AttributesError.codec) (write version).isOk
      ((write version).toOption.elim 0 List.length) := by
  cases write version with
  | ok bytes => exact ⟨rfl, rfl⟩
  | error exception => rfl

theorem Layout.map_map (change : α → β) (next : β → γ) (layout : Layout α) :
    (layout.map change).map next = layout.map (next ∘ change) := by
  unfold map
  induction layout with
  | other write => rfl
  | attributes place entries =>
      exact congrArg (attributes place) List.map_map
  | seq first second ihFirst ihSecond =>
      exact congrArg₂ seq ihFirst ihSecond
  | struct tag fields ih => exact congrArg (struct tag) ih

theorem Layout.map_id (layout : Layout α) : layout.map id = layout := by
  unfold map
  induction layout with
  | other write => rfl
  | attributes place entries => exact congrArg (attributes place) (List.map_id _)
  | seq first second ihFirst ihSecond => exact congrArg₂ seq ihFirst ihSecond
  | struct tag fields ih => exact congrArg (struct tag) ih

/-- In the 1.x versions, the tags decide nothing about the success. -/
theorem Layout.yields_encodeWith
    (old : ¬.kmip20 ≤ version) (layout : Layout (Tag × Attribute)) :
    Yields (layout.encodeWith version) ((layout.map (·.2)).fits version)
      ((layout.map (·.2)).size version) := by
  induction layout with
  | other write => exact yields_other write
  | attributes place entries =>
      have written := encodeAttributes_old old place entries
      unfold map mapLists fits size
      rw [if_neg old, if_neg old]
      exact written
  | seq first second ihFirst ihSecond => exact ihFirst.append ihSecond
  | struct tag fields ih => exact yields_enclose ih tag

theorem Layout.yields_encode
    (version : KmipVersion) (layout : Layout Attribute) :
    Yields (layout.encode version) (layout.fits version) (layout.size version) := by
  by_cases recent : .kmip20 ≤ version
  · induction layout with
    | other write => exact yields_other write
    | attributes place entries =>
        have written := encodeAttributes_recent recent place
          (entries.map (fresh version))
        rw [List.all_map, List.all_map, List.map_map] at written
        unfold fits size
        rw [if_pos recent, if_pos recent]
        have tag : ∀ entry, freshTag version entry = entry.form20.1 :=
          fun entry => if_pos recent
        simp only [Function.comp_def, fresh, tag] at written
        exact written
    | seq first second ihFirst ihSecond => exact ihFirst.append ihSecond
    | struct tag fields ih => exact yields_enclose ih tag
  · have written := yields_encodeWith recent (layout.map (fresh version))
    rw [map_map] at written
    rw [show (fun tagged : Tag × Attribute => tagged.2) ∘ fresh version = id
      from rfl, map_id] at written
    exact written

end Sizes

section Injectivity

variable {version : KmipVersion}

theorem Layout.length_encodeWith
    {layout : Layout (Tag × Attribute)} {bytes : Bytes}
    (encoded : layout.encodeWith version = .ok bytes) :
    bytes.length = (layout.map (·.2)).size version := by
  induction layout generalizing bytes with
  | other write => exact ((yields_other write).of_ok encoded).2
  | attributes place entries =>
      unfold map mapLists size
      by_cases recent : .kmip20 ≤ version
      · rw [if_pos recent, List.map_map]
        exact ((encodeAttributes_recent recent place entries).of_ok encoded).2
      · rw [if_neg recent]
        exact ((encodeAttributes_old recent place entries).of_ok encoded).2
  | seq first second ihFirst ihSecond =>
      obtain ⟨bytesFirst, encodedFirst, encoded⟩ := bind_eq_ok encoded
      obtain ⟨bytesSecond, encodedSecond, encoded⟩ := bind_eq_ok encoded
      cases encoded
      rw [List.length_append, ihFirst encodedFirst, ihSecond encodedSecond]
      rfl
  | struct tag fields ih =>
      obtain ⟨localBuffer, encodedFields, encoded⟩ := bind_eq_ok encoded
      have yields : Yields (.ok localBuffer : Except AttributesError Bytes) true
        localBuffer.length := ⟨rfl, rfl⟩
      have length := ((yields_enclose yields tag).of_ok encoded).2
      rw [length, ih encodedFields]
      rfl

/-- A value that is written to the same bytes carries the same tag. -/
theorem ValueObject.tag_eq_of_write
    {value : ValueObject} {first second : Tag} {bytes : Bytes}
    (writtenFirst : value.write first = .ok bytes)
    (writtenSecond : value.write second = .ok bytes) : first = second := by
  have shown := ValueObject.shows_write writtenFirst []
  rw [ValueObject.shows_write writtenSecond []] at shown
  exact (Option.some.inj shown).symm

theorem fields_of_writeStruct
    {tag : Tag} {fields : Except CodecError Bytes} {bytes : Bytes}
    (written : writeStruct tag fields = .ok bytes) :
    ∃ tstream, fields = .ok tstream ∧ bytes.drop 8 = tstream := by
  obtain ⟨tstream, ran, written⟩ := bind_eq_ok written
  obtain ⟨header, wroteHeader, written⟩ := bind_eq_ok written
  cases written
  have length := ((yields_writeBase _ _ _).of_ok wroteHeader).2
  exact ⟨tstream, ran, List.drop_left' length⟩

theorem Attribute.tag_eq_of_write
    {entry : Attribute} {first second : Tag} {bytes : Bytes}
    (writtenFirst : entry.write first = .ok bytes)
    (writtenSecond : entry.write second = .ok bytes) : first = second := by
  obtain ⟨streamFirst, fieldsFirst, rfl⟩ := fields_of_writeStruct writtenFirst
  obtain ⟨streamSecond, fieldsSecond, same⟩ := fields_of_writeStruct writtenSecond
  obtain ⟨name, encodedName, fieldsFirst⟩ := bind_eq_ok fieldsFirst
  obtain ⟨index, encodedIndex, fieldsFirst⟩ := bind_eq_ok fieldsFirst
  obtain ⟨value, encodedValue, fieldsFirst⟩ := bind_eq_ok fieldsFirst
  rw [encodedName, encodedIndex] at fieldsSecond
  obtain ⟨otherName, sameName, fieldsSecond⟩ := bind_eq_ok fieldsSecond
  cases sameName
  obtain ⟨otherIndex, sameIndex, fieldsSecond⟩ := bind_eq_ok fieldsSecond
  cases sameIndex
  obtain ⟨other, encodedOther, fieldsSecond⟩ := bind_eq_ok fieldsSecond
  have streams := (Except.ok.inj fieldsFirst).trans
    (same.trans (Except.ok.inj fieldsSecond).symm)
  have values : value = other :=
    List.append_cancel_left (List.append_cancel_left streams)
  rw [← values] at encodedOther
  exact ValueObject.tag_eq_of_write encodedValue encodedOther

theorem writeEntries_injective
    {first second : List (Tag × Attribute)} {bytes : Bytes}
    (same : first.map (·.2) = second.map (·.2))
    (writtenFirst : writeEntries first = .ok bytes)
    (writtenSecond : writeEntries second = .ok bytes) : first = second := by
  induction first generalizing second bytes with
  | nil =>
      have none := List.map_eq_nil_iff.mp same.symm
      exact none.symm
  | cons entry first ih =>
      obtain ⟨tag, entry⟩ := entry
      cases second with
      | nil => cases same
      | cons other second =>
          obtain ⟨otherTag, other⟩ := other
          rw [List.map_cons, List.map_cons, List.cons.injEq] at same
          obtain ⟨sameEntry, sameRest⟩ := same
          cases sameEntry
          obtain ⟨bytesFirst, wrote, writtenFirst⟩ := bind_eq_ok writtenFirst
          obtain ⟨restFirst, wroteRest, writtenFirst⟩ := bind_eq_ok writtenFirst
          obtain ⟨bytesSecond, wroteOther, writtenSecond⟩ :=
            bind_eq_ok writtenSecond
          obtain ⟨restSecond, wroteOthers, writtenSecond⟩ :=
            bind_eq_ok writtenSecond
          have appended := (Except.ok.inj writtenFirst).trans
            (Except.ok.inj writtenSecond).symm
          have length := ((entry.yields_write tag).of_ok wrote).2.trans
            ((entry.yields_write otherTag).of_ok wroteOther).2.symm
          obtain ⟨sameBytes, sameOthers⟩ := List.append_inj appended length
          rw [← sameBytes] at wroteOther
          rw [← sameOthers] at wroteOthers
          rw [Attribute.tag_eq_of_write wrote wroteOther,
            ih sameRest wroteRest wroteOthers]

theorem writeValues_injective
    {first second : List (Tag × ValueObject)} {bytes : Bytes}
    (same : first.map (·.2) = second.map (·.2))
    (writtenFirst : writeValues version first = .ok bytes)
    (writtenSecond : writeValues version second = .ok bytes) :
    first = second := by
  induction first generalizing second bytes with
  | nil =>
      have none := List.map_eq_nil_iff.mp same.symm
      exact none.symm
  | cons tagged first ih =>
      obtain ⟨tag, value⟩ := tagged
      cases second with
      | nil => cases same
      | cons other second =>
          obtain ⟨otherTag, other⟩ := other
          rw [List.map_cons, List.map_cons, List.cons.injEq] at same
          obtain ⟨sameValue, sameRest⟩ := same
          cases sameValue
          obtain ⟨_, bytesFirst, restFirst, wrote, wroteRest, rfl⟩ :=
            writeValues_cons writtenFirst
          obtain ⟨_, bytesSecond, restSecond, wroteOther, wroteOthers, appended⟩ :=
            writeValues_cons writtenSecond
          have length := ((value.yields_write tag).of_ok wrote).2.trans
            ((value.yields_write otherTag).of_ok wroteOther).2.symm
          obtain ⟨sameBytes, sameOthers⟩ := List.append_inj appended length
          rw [← sameBytes] at wroteOther
          rw [← sameOthers] at wroteOthers
          rw [ValueObject.tag_eq_of_write wrote wroteOther,
            ih sameRest wroteRest wroteOthers]

theorem mapError_eq_ok
    {outcome : Except ε α} {change : ε → ε'} {value : α}
    (ran : outcome.mapError change = .ok value) : outcome = .ok value := by
  cases outcome with
  | ok found => exact congrArg Except.ok (Except.ok.inj ran)
  | error exception => cases ran

theorem map_snd_taggedValues (entries : List (Tag × Attribute)) :
    (taggedValues entries).map (·.2) =
      (entries.map (·.2)).map (·.attributeValue) := by
  unfold taggedValues
  rw [List.map_map, List.map_map]
  rfl

/-- The same attributes with the same tagged values. -/
theorem eq_of_taggedValues
    {first second : List (Tag × Attribute)}
    (same : first.map (·.2) = second.map (·.2))
    (values : taggedValues first = taggedValues second) : first = second := by
  induction first generalizing second with
  | nil => exact (List.map_eq_nil_iff.mp same.symm).symm
  | cons entry first ih =>
      cases second with
      | nil => cases same
      | cons other second =>
          obtain ⟨sameEntry, sameRest⟩ := List.cons.inj same
          obtain ⟨sameValue, sameValues⟩ := List.cons.inj values
          have sameTag : entry.1 = other.1 := (Prod.mk.inj sameValue).1
          have sameWhole : entry = other := Prod.ext sameTag sameEntry
          rw [sameWhole, ih sameRest sameValues]

/-- The values of a structure of version 2.0 are what follows its header. -/
theorem values_of_write
    {entries : List (Tag × Attribute)} {tag : Tag} {bytes : Bytes}
    (encoded : (do
      let attributes ← (Attributes.make (taggedValues entries) tag).mapError
        AttributesError.codec
      attributes.write version) = .ok bytes) :
    writeValues version (taggedValues entries) = .ok (bytes.drop 8) := by
  obtain ⟨attributes, made, written⟩ := bind_eq_ok encoded
  have made := mapError_eq_ok made
  unfold Attributes.make at made
  split at made
  · cases made
    obtain ⟨_, header, localStream, values, wroteHeader, rfl⟩ :=
      Attributes.write_cases written
    have length := ((yields_writeBase _ _ _).of_ok wroteHeader).2
    rw [List.drop_left' length]
    exact values
  · cases made

theorem encodeAttributes_injective
    {place : Place} {first second : List (Tag × Attribute)} {bytes : Bytes}
    (same : first.map (·.2) = second.map (·.2))
    (encodedFirst : encodeAttributes version place first = .ok bytes)
    (encodedSecond : encodeAttributes version place second = .ok bytes) :
    first = second := by
  unfold encodeAttributes at encodedFirst encodedSecond
  by_cases recent : .kmip20 ≤ version
  · rw [if_pos recent] at encodedFirst encodedSecond
    apply eq_of_taggedValues same
    apply writeValues_injective _ (values_of_write encodedFirst)
      (values_of_write encodedSecond)
    rw [map_snd_taggedValues, map_snd_taggedValues, same]
  · rw [if_neg recent] at encodedFirst encodedSecond
    have writtenFirst := mapError_eq_ok encodedFirst
    have writtenSecond := mapError_eq_ok encodedSecond
    cases place with
    | payload => exact writeEntries_injective same writtenFirst writtenSecond
    | template tag names =>
        obtain ⟨streamFirst, fieldsFirst, rfl⟩ := fields_of_writeStruct writtenFirst
        obtain ⟨streamSecond, fieldsSecond, sameStream⟩ :=
          fields_of_writeStruct writtenSecond
        obtain ⟨nameBytes, encodedNames, fieldsFirst⟩ := bind_eq_ok fieldsFirst
        obtain ⟨entriesFirst, wroteFirst, fieldsFirst⟩ := bind_eq_ok fieldsFirst
        rw [encodedNames] at fieldsSecond
        obtain ⟨otherNames, sameNames, fieldsSecond⟩ := bind_eq_ok fieldsSecond
        cases sameNames
        obtain ⟨entriesSecond, wroteSecond, fieldsSecond⟩ :=
          bind_eq_ok fieldsSecond
        have streams := (Except.ok.inj fieldsFirst).trans
          (sameStream.trans (Except.ok.inj fieldsSecond).symm)
        rw [← List.append_cancel_left streams] at wroteSecond
        exact writeEntries_injective same wroteFirst wroteSecond

theorem fields_of_enclose
    {tag : Tag} {fields bytes : Bytes} (enclosed : enclose tag fields = .ok bytes) :
    bytes.drop 8 = fields := by
  obtain ⟨header, wroteHeader, enclosed⟩ := bind_eq_ok enclosed
  cases enclosed
  have length := ((yields_writeBase _ _ _).of_ok (mapError_eq_ok wroteHeader)).2
  exact List.drop_left' length

/-- Layouts with the same attributes are encoded to the same bytes only with the
same tags. -/
theorem Layout.encodeWith_injective
    {first second : Layout (Tag × Attribute)} {bytes : Bytes}
    (same : first.map (·.2) = second.map (·.2))
    (encodedFirst : first.encodeWith version = .ok bytes)
    (encodedSecond : second.encodeWith version = .ok bytes) : first = second := by
  induction first generalizing second bytes with
  | other write =>
      cases second <;> cases same
      rfl
  | attributes place entries =>
      cases second with
      | attributes otherPlace others =>
          obtain ⟨samePlace, sameEntries⟩ := Layout.attributes.inj same
          cases samePlace
          rw [encodeAttributes_injective sameEntries encodedFirst encodedSecond]
      | other write => cases same
      | seq first second => cases same
      | struct tag fields => cases same
  | seq first rest ihFirst ihRest =>
      cases second with
      | seq other others =>
          obtain ⟨sameFirst, sameRest⟩ := Layout.seq.inj same
          obtain ⟨bytesFirst, wroteFirst, encodedFirst⟩ := bind_eq_ok encodedFirst
          obtain ⟨bytesRest, wroteRest, encodedFirst⟩ := bind_eq_ok encodedFirst
          obtain ⟨bytesOther, wroteOther, encodedSecond⟩ :=
            bind_eq_ok encodedSecond
          obtain ⟨bytesOthers, wroteOthers, encodedSecond⟩ :=
            bind_eq_ok encodedSecond
          have appended := (Except.ok.inj encodedFirst).trans
            (Except.ok.inj encodedSecond).symm
          have length : bytesFirst.length = bytesOther.length := by
            rw [length_encodeWith wroteFirst, length_encodeWith wroteOther]
            exact congrArg (Layout.size version) sameFirst
          obtain ⟨sameBytes, sameOthers⟩ := List.append_inj appended length
          rw [← sameBytes] at wroteOther
          rw [← sameOthers] at wroteOthers
          rw [ihFirst sameFirst wroteFirst wroteOther,
            ihRest sameRest wroteRest wroteOthers]
      | other write => cases same
      | attributes place entries => cases same
      | struct tag fields => cases same
  | struct tag fields ih =>
      cases second with
      | struct otherTag otherFields =>
          obtain ⟨sameTag, sameFields⟩ := Layout.struct.inj same
          cases sameTag
          obtain ⟨buffer, wrote, enclosed⟩ := bind_eq_ok encodedFirst
          obtain ⟨other, wroteOther, enclosedOther⟩ := bind_eq_ok encodedSecond
          rw [← fields_of_enclose enclosed] at wrote
          rw [← fields_of_enclose enclosedOther] at wroteOther
          rw [ih sameFields wrote wroteOther]
      | other write => cases same
      | attributes place entries => cases same
      | seq first second => cases same

end Injectivity

section Tags

/-- The tags that the conversion leaves. -/
def retag : List HeldAttribute → ValueTags → ValueTags
  | [], tags => tags
  | held :: rest, tags =>
      match convertAttributeNameToTag held.attributeName with
      | none => tags
      | some tag => retag rest fun reference =>
          if reference = held.reference then tag else tags reference

def convertible (held : HeldAttribute) : Bool :=
  (convertAttributeNameToTag held.attributeName).isSome

theorem run_convertAttributes (helds : List HeldAttribute) (tags : ValueTags) :
    (convertAttributes helds).run tags =
      if helds.all convertible then .ok () (retag helds tags)
      else .error (.codec .valueError) (retag helds tags) := by
  induction helds generalizing tags with
  | nil => rfl
  | cons held rest ih =>
      unfold convertAttributes retag
      rw [List.all_cons]
      unfold convertible
      cases convertAttributeNameToTag held.attributeName with
      | none => rfl
      | some tag => exact ih _

theorem retag_of_not_mem
    {helds : List HeldAttribute} {tags : ValueTags} {reference : Nat}
    (absent : ∀ held ∈ helds, held.reference ≠ reference) :
    retag helds tags reference = tags reference := by
  induction helds generalizing tags with
  | nil => rfl
  | cons held rest ih =>
      obtain ⟨other, others⟩ := List.forall_mem_cons.mp absent
      unfold retag
      cases convertAttributeNameToTag held.attributeName with
      | none => rfl
      | some tag =>
          dsimp only
          rw [ih others, if_neg other.symm]

/-- A converted value carries the tag of the last name that it is held under. -/
theorem retag_of_mem
    {helds : List HeldAttribute} (known : ∀ held ∈ helds, convertible held)
    (tags : ValueTags) {held : HeldAttribute} (member : held ∈ helds) :
    ∃ last ∈ helds, last.reference = held.reference ∧
      convertAttributeNameToTag last.attributeName =
        some (retag helds tags held.reference) := by
  induction helds generalizing tags held with
  | nil => cases member
  | cons first rest ih =>
      obtain ⟨knownFirst, knownRest⟩ := List.forall_mem_cons.mp known
      obtain ⟨tag, named⟩ := Option.isSome_iff_exists.mp knownFirst
      unfold retag
      rw [named]
      dsimp only
      by_cases later : ∃ other ∈ rest, other.reference = held.reference
      · obtain ⟨other, found, same⟩ := later
        rw [← same]
        obtain ⟨last, member, sameLast, convert⟩ := ih knownRest _ found
        exact ⟨last, List.mem_cons_of_mem _ member, sameLast, convert⟩
      · have absent : ∀ other ∈ rest, other.reference ≠ held.reference :=
          fun other found same => later ⟨other, found, same⟩
        rcases List.mem_cons.mp member with rfl | found
        · refine ⟨held, List.mem_cons_self, rfl, ?_⟩
          rw [retag_of_not_mem absent, if_pos rfl]
          exact named
        · exact absurd rfl (absent held found)

/-- What the tags were before does not matter for them. -/
theorem retag_congr
    {helds : List HeldAttribute} (known : ∀ held ∈ helds, convertible held)
    (first second : ValueTags) {held : HeldAttribute} (member : held ∈ helds) :
    retag helds first held.reference = retag helds second held.reference := by
  induction helds generalizing first second held with
  | nil => cases member
  | cons head rest ih =>
      obtain ⟨knownFirst, knownRest⟩ := List.forall_mem_cons.mp known
      obtain ⟨tag, named⟩ := Option.isSome_iff_exists.mp knownFirst
      unfold retag
      rw [named]
      dsimp only
      by_cases later : ∃ other ∈ rest, other.reference = held.reference
      · obtain ⟨other, found, same⟩ := later
        rw [← same]
        exact ih knownRest _ _ found
      · have absent : ∀ other ∈ rest, other.reference ≠ held.reference :=
          fun other found same => later ⟨other, found, same⟩
        rw [retag_of_not_mem absent, retag_of_not_mem absent]
        rcases List.mem_cons.mp member with rfl | found
        · rw [if_pos rfl, if_pos rfl]
        · exact absurd rfl (absent held found)

end Tags

section Runs

variable {objects : Nat → ValueObject} {version : KmipVersion}

theorem Layout.write_seq (first second : Layout HeldAttribute) :
    (seq first second).write objects version = (do
      let bytes ← first.write objects version
      let others ← second.write objects version
      return bytes ++ others) := rfl

theorem Layout.write_struct (tag : Tag) (fields : Layout HeldAttribute) :
    (struct tag fields).write objects version = (do
      let localBuffer ← fields.write objects version
      fromExcept (enclose tag localBuffer)) := rfl

/-- The 1.x writers encode with the tags that they find, and change none. -/
theorem Layout.run_write_old
    (old : ¬.kmip20 ≤ version) (layout : Layout HeldAttribute)
    (tags : ValueTags) :
    (layout.write objects version).run tags =
      concluded ((layout.map (·.carried objects tags)).encodeWith version) tags := by
  induction layout with
  | other write => exact run_fromExcept_concluded _ tags
  | attributes place helds =>
      unfold write
      rw [if_neg old]
      exact run_fromExcept_concluded _ tags
  | seq first second ihFirst ihSecond =>
      apply run_bind_concluded ihFirst
      intro bytes
      apply run_bind_concluded ihSecond
      intro others
      rfl
  | struct tag fields ih =>
      apply run_bind_concluded ih
      intro localBuffer
      exact run_fromExcept_concluded _ tags

theorem run_attributes_recent
    (recent : .kmip20 ≤ version) (place : Place) (helds : List HeldAttribute)
    (tags : ValueTags) :
    ((Layout.attributes place helds).write objects version).run tags =
      if helds.all convertible then
        concluded (encodeAttributes version place
          (helds.map (·.carried objects (retag helds tags)))) (retag helds tags)
      else .error (.codec .valueError) (retag helds tags) := by
  unfold Layout.write
  rw [if_pos recent, EStateM.run_bind, run_convertAttributes]
  by_cases known : helds.all convertible
  · rw [if_pos known, if_pos known]
    exact run_fromExcept_concluded _ _
  · rw [if_neg known, if_neg known]

theorem outcomeOf_concluded (outcome : Except ε α) (state : σ) :
    outcomeOf (concluded outcome state) = outcome := by
  cases outcome <;> rfl

theorem outcomeOf_bind
    {first : EStateM ε σ α} {next : α → EStateM ε σ β} (state : σ) :
    outcomeOf ((first >>= next).run state) =
      (outcomeOf (first.run state)).bind fun value =>
        outcomeOf ((next value).run (finalState (first.run state))) := by
  rw [EStateM.run_bind]
  cases first.run state <;> rfl

/-- In version 2.0, the encoding does not depend on the tags before. -/
theorem Layout.outcome_write_recent
    (recent : .kmip20 ≤ version) (layout : Layout HeldAttribute)
    (first second : ValueTags) :
    outcomeOf ((layout.write objects version).run first) =
      outcomeOf ((layout.write objects version).run second) := by
  induction layout generalizing first second with
  | other write =>
      unfold Layout.write
      rw [run_fromExcept_concluded, run_fromExcept_concluded, outcomeOf_concluded,
        outcomeOf_concluded]
  | attributes place helds =>
      rw [run_attributes_recent recent, run_attributes_recent recent]
      split
      · rename_i known
        rw [outcomeOf_concluded, outcomeOf_concluded]
        congr 1
        apply List.map_congr_left
        intro held member
        unfold HeldAttribute.carried
        rw [retag_congr (List.all_eq_true.mp known) first second member]
      · rfl
  | seq head rest ihHead ihRest =>
      unfold Layout.write
      rw [outcomeOf_bind, outcomeOf_bind, ihHead first second]
      cases outcomeOf ((head.write objects version).run second) with
      | error exception => rfl
      | ok bytes =>
          change outcomeOf ((_ >>= _ : EStateM _ _ _).run _) =
            outcomeOf ((_ >>= _ : EStateM _ _ _).run _)
          rw [outcomeOf_bind, outcomeOf_bind, ihRest _
            (finalState ((head.write objects version).run second))]
          rfl
  | struct tag fields ih =>
      unfold Layout.write
      rw [outcomeOf_bind, outcomeOf_bind, ih first second]
      cases outcomeOf ((fields.write objects version).run second) with
      | error exception => rfl
      | ok localBuffer =>
          change outcomeOf ((fromExcept _).run _) = outcomeOf ((fromExcept _).run _)
          rw [run_fromExcept_concluded, run_fromExcept_concluded, outcomeOf_concluded,
            outcomeOf_concluded]

/-- The attributes of a list with the tags that its conversion leaves. -/
def converted (objects : Nat → ValueObject) (helds : List HeldAttribute) :
    List (Tag × Attribute) :=
  helds.map (·.carried objects (retag helds freshTags))

theorem convertible_of_supported
    (recent : .kmip20 ≤ version) {held : HeldAttribute}
    (known : supported version (held.entry objects).form20) :
    convertAttributeNameToTag held.attributeName =
      some (freshTag version (held.entry objects)) := by
  unfold freshTag
  rw [if_pos recent]
  unfold supported Attribute.form20 at known
  unfold Attribute.form20
  change convertAttributeNameToTag held.attributeName =
    some ((convertAttributeNameToTag held.attributeName).getD .default)
  cases found : convertAttributeNameToTag held.attributeName with
  | some tag => rfl
  | none =>
      change isAttribute ((convertAttributeNameToTag held.attributeName).getD
        .default) (some version) = true at known
      rw [found] at known
      cases version <;> cases known

/-- The attributes of a list that has an encoding in version 2.0. -/
structure ListFits (objects : Nat → ValueObject) (version : KmipVersion)
    (helds : List HeldAttribute) : Prop where
  known : ∀ held ∈ helds, supported version (held.entry objects).form20
  fit : ∀ held ∈ helds, (objects held.reference).fits
  small : (helds.map fun held => (objects held.reference).size).sum < 256 ^ 4

theorem listFits_of_fits
    (recent : .kmip20 ≤ version) {place : Place} {helds : List HeldAttribute}
    (fits : ((Layout.attributes place helds).map (·.entry objects)).fits
      version) : ListFits objects version helds := by
  unfold Layout.map Layout.mapLists Layout.fits at fits
  rw [if_pos recent, List.all_map, List.all_map, List.map_map,
    Bool.and_eq_true, Bool.and_eq_true, List.all_eq_true, List.all_eq_true] at fits
  exact ⟨fits.1.1, fits.1.2, of_decide_eq_true fits.2⟩

theorem ListFits.convertible
    (recent : .kmip20 ≤ version) {helds : List HeldAttribute}
    (fits : ListFits objects version helds) :
    ∀ held ∈ helds, convertible held := by
  intro held member
  unfold Wire.convertible
  rw [convertible_of_supported recent (fits.known held member)]
  rfl

/-- The tags that the conversion leaves are tags of names in the list. -/
theorem ListFits.supported_retag
    (recent : .kmip20 ≤ version) {helds : List HeldAttribute}
    (fits : ListFits objects version helds) (tags : ValueTags) :
    ∀ held ∈ helds, isAttribute (retag helds tags held.reference) (some version) := by
  intro held member
  obtain ⟨last, found, _, named⟩ :=
    retag_of_mem (fits.convertible recent) tags member
  have known := fits.known last found
  have own := convertible_of_supported recent known
  rw [named] at own
  rw [Option.some.inj own]
  unfold freshTag
  rw [if_pos recent]
  exact known

theorem ListFits.encodes
    (recent : .kmip20 ≤ version) {helds : List HeldAttribute}
    (fits : ListFits objects version helds) (place : Place) (tags : ValueTags) :
    ∃ bytes, encodeAttributes version place
      (helds.map (·.carried objects (retag helds tags))) = .ok bytes := by
  have yields := encodeAttributes_recent recent place
    (helds.map (·.carried objects (retag helds tags)))
  rw [List.all_map, List.all_map, List.map_map] at yields
  have known : helds.all ((fun entry : Tag × Attribute =>
      isAttribute entry.1 (some version)) ∘
        (·.carried objects (retag helds tags))) = true :=
    List.all_eq_true.mpr (fits.supported_retag recent tags)
  have fit : helds.all ((fun entry : Tag × Attribute =>
      entry.2.attributeValue.fits) ∘
        (·.carried objects (retag helds tags))) = true :=
    List.all_eq_true.mpr fits.fit
  rw [known, fit, Bool.true_and, Bool.true_and] at yields
  have small := decide_eq_true fits.small
  obtain ⟨bytes, encoded, _⟩ := Yields.of_fits (small ▸ yields)
  exact ⟨bytes, encoded⟩

theorem Layout.map_snd_converted (layout : Layout HeldAttribute) :
    (layout.mapLists (converted objects)).map (·.2) =
      layout.map (·.entry objects) := by
  unfold map
  induction layout with
  | other write => rfl
  | attributes place helds =>
      exact congrArg (attributes place) List.map_map
  | seq first second ihFirst ihSecond => exact congrArg₂ seq ihFirst ihSecond
  | struct tag fields ih => exact congrArg (struct tag) ih

/-- What has an encoding is written in version 2.0, with the tags that the
conversion of its lists leaves. -/
theorem Layout.run_write_recent
    (recent : .kmip20 ≤ version) {layout : Layout HeldAttribute}
    (fits : (layout.map (·.entry objects)).fits version) (tags : ValueTags) :
    ∃ bytes after, (layout.write objects version).run tags = .ok bytes after ∧
      (layout.mapLists (converted objects)).encodeWith version = .ok bytes := by
  induction layout generalizing tags with
  | other write =>
      obtain ⟨bytes, wrote⟩ : ∃ bytes, write version = .ok bytes := by
        cases wrote : write version with
        | ok bytes => exact ⟨bytes, rfl⟩
        | error exception =>
            have refused : (write version).isOk = true := fits
            rw [wrote] at refused
            cases refused
      have encoded : (write version).mapError AttributesError.codec = .ok bytes := by
        rw [wrote]
        rfl
      refine ⟨bytes, tags, ?_, encoded⟩
      unfold Layout.write
      rw [run_fromExcept_concluded, encoded]
      rfl
  | attributes place helds =>
      have fits := listFits_of_fits recent fits
      obtain ⟨bytes, encoded⟩ := fits.encodes recent place tags
      refine ⟨bytes, retag helds tags, ?_, ?_⟩
      · rw [run_attributes_recent recent,
          if_pos (List.all_eq_true.mpr (fits.convertible recent)), encoded]
        rfl
      · rw [← encoded]
        change encodeAttributes version place (converted objects helds) = _
        congr 1
        apply List.map_congr_left
        intro held member
        unfold HeldAttribute.carried
        rw [retag_congr (fits.convertible recent) freshTags tags member]
  | seq first second ihFirst ihSecond =>
      obtain ⟨fitsFirst, fitsSecond⟩ := (Bool.and_eq_true _ _).mp fits
      obtain ⟨bytes, between, ranFirst, encodedFirst⟩ := ihFirst fitsFirst tags
      obtain ⟨others, after, ranSecond, encodedSecond⟩ :=
        ihSecond fitsSecond between
      refine ⟨bytes ++ others, after, ?_, ?_⟩
      · unfold Layout.write
        rw [EStateM.run_bind, ranFirst]
        change ((second.write objects version) >>= _).run between = _
        rw [EStateM.run_bind, ranSecond]
        rfl
      · unfold Layout.mapLists Layout.encodeWith
        rw [encodedFirst, encodedSecond]
        rfl
  | struct tag fields ih =>
      obtain ⟨fitsFields, small⟩ := (Bool.and_eq_true _ _).mp fits
      obtain ⟨buffer, after, ran, encoded⟩ := ih fitsFields tags
      have length := Layout.length_encodeWith encoded
      rw [map_snd_converted] at length
      have small : decide ((fields.map (·.entry objects)).size version <
        256 ^ 4) = true := small
      have yields : Yields (.ok buffer : Except AttributesError Bytes) true
        buffer.length := ⟨rfl, rfl⟩
      have enclosing := yields_enclose yields tag
      rw [length, small, Bool.and_self] at enclosing
      obtain ⟨bytes, enclosed, _⟩ := enclosing.of_fits
      have enclosed : enclose tag buffer = .ok bytes := enclosed
      refine ⟨bytes, after, ?_, ?_⟩
      · unfold Layout.write
        rw [EStateM.run_bind, ran]
        change (fromExcept _).run after = _
        rw [run_fromExcept_concluded, enclosed]
        rfl
      · unfold Layout.mapLists Layout.encodeWith
        rw [encoded]
        exact enclosed

end Runs

section Sharing

variable {objects : Nat → ValueObject} {version : KmipVersion}

/-- No list holds one value object under two names. -/
def Layout.Unmixed (layout : Layout HeldAttribute) : Prop :=
  ∀ helds ∈ layout.lists, ∀ first ∈ helds, ∀ second ∈ helds,
    first.reference = second.reference →
      first.attributeName = second.attributeName

/-- A tag belongs to one name. -/
theorem name_eq_of_tag
    {first second : String} {tag : Tag}
    (namesFirst : convertAttributeNameToTag first = some tag)
    (namesSecond : convertAttributeNameToTag second = some tag) :
    first = second := by
  have back : ∀ entry ∈ attributeNameTagTable,
      convertAttributeTagToName entry.2 = some entry.1 := by decide
  have name : ∀ {name}, convertAttributeNameToTag name = some tag →
      convertAttributeTagToName tag = some name := by
    intro name names
    obtain ⟨entry, found, rfl⟩ := Option.map_eq_some_iff.mp names
    have same := List.find?_some found
    rw [back entry (List.mem_of_find?_eq_some found), of_decide_eq_true same]
  exact Option.some.inj ((name namesFirst).symm.trans (name namesSecond))

theorem converted_eq_iff
    (recent : .kmip20 ≤ version) {helds : List HeldAttribute}
    (fits : ListFits objects version helds) :
    converted objects helds =
        helds.map (fun held => fresh version (held.entry objects)) ↔
      ∀ first ∈ helds, ∀ second ∈ helds, first.reference = second.reference →
        first.attributeName = second.attributeName := by
  have own := fun held member =>
    convertible_of_supported recent (fits.known held member)
  have carries : converted objects helds =
        helds.map (fun held => fresh version (held.entry objects)) ↔
      ∀ held ∈ helds, retag helds freshTags held.reference =
        freshTag version (held.entry objects) := by
    unfold converted
    rw [List.map_inj_left]
    constructor
    · exact fun same held member => congrArg Prod.fst (same held member)
    · exact fun same held member => Prod.ext (same held member) rfl
  rw [carries]
  constructor
  · intro same first memberFirst second memberSecond shared
    apply name_eq_of_tag (own first memberFirst)
    rw [own second memberSecond, ← same first memberFirst, shared,
      same second memberSecond]
  · intro unmixed held member
    obtain ⟨last, found, shared, named⟩ :=
      retag_of_mem (fits.convertible recent) freshTags member
    have name := unmixed last found held member shared
    rw [name, own held member] at named
    exact (Option.some.inj named).symm

theorem lists_fit
    (recent : .kmip20 ≤ version) {layout : Layout HeldAttribute}
    (fits : (layout.map (·.entry objects)).fits version) :
    ∀ helds ∈ layout.lists, ListFits objects version helds := by
  induction layout with
  | other write =>
      intro helds member
      cases member
  | attributes place helds =>
      intro others member
      rw [List.mem_singleton.mp member]
      exact listFits_of_fits recent fits
  | seq first second ihFirst ihSecond =>
      obtain ⟨fitsFirst, fitsSecond⟩ := (Bool.and_eq_true _ _).mp fits
      intro helds member
      rcases List.mem_append.mp member with found | found
      · exact ihFirst fitsFirst helds found
      · exact ihSecond fitsSecond helds found
  | struct tag fields ih => exact ih ((Bool.and_eq_true _ _).mp fits).1

theorem Layout.mapLists_eq_iff
    {change other : List α → List β} {layout : Layout α} :
    layout.mapLists change = layout.mapLists other ↔
      ∀ entries ∈ layout.lists, change entries = other entries := by
  induction layout with
  | other write =>
      constructor
      · intro _ entries member
        cases member
      · exact fun _ => rfl
  | attributes place entries =>
      constructor
      · intro same others member
        rw [List.mem_singleton.mp member]
        exact (Layout.attributes.inj same).2
      · intro same
        exact congrArg (attributes place) (same entries List.mem_cons_self)
  | seq first second ihFirst ihSecond =>
      unfold mapLists lists
      rw [Layout.seq.injEq, ihFirst, ihSecond, List.forall_mem_append]
  | struct tag fields ih =>
      unfold mapLists lists
      rw [Layout.struct.injEq, ih]
      exact and_iff_right rfl

theorem mapLists_converted_iff
    (recent : .kmip20 ≤ version) {layout : Layout HeldAttribute}
    (fits : (layout.map (·.entry objects)).fits version) :
    layout.mapLists (converted objects) =
        (layout.map (·.entry objects)).map (fresh version) ↔
      layout.Unmixed := by
  have fit := lists_fit recent fits
  rw [Layout.map_map]
  unfold Layout.map
  rw [Layout.mapLists_eq_iff]
  constructor
  · intro same helds listed
    exact (converted_eq_iff recent (fit helds listed)).mp (same helds listed)
  · intro unmixed helds listed
    exact (converted_eq_iff recent (fit helds listed)).mpr (unmixed helds listed)

end Sharing

section Marks

variable {objects : Nat → ValueObject} {version : KmipVersion}

/-- Whether writing a payload in version 2.0 changes a tag: the first attribute
that the writer gets to has a name that is known. -/
def Layout.retags (version : KmipVersion) : Layout Attribute → Bool
  | .other _ => false
  | .attributes _ entries => entries.head?.any fun entry =>
      (convertAttributeNameToTag entry.attributeName).isSome
  | .seq first second =>
      first.retags version || (first.fits version && second.retags version)
  | .struct _ fields => fields.retags version

/-- The value no longer carries the tag that it was created with. -/
def Marked (tags : ValueTags) (reference : Nat) : Prop :=
  tags reference ≠ .attributeValue

theorem tag_ne_attributeValue
    {name : String} {tag : Tag}
    (named : convertAttributeNameToTag name = some tag) :
    tag ≠ .attributeValue := by
  have others : ∀ entry ∈ attributeNameTagTable, entry.2 ≠ .attributeValue := by
    decide
  obtain ⟨entry, found, rfl⟩ := Option.map_eq_some_iff.mp named
  exact others entry (List.mem_of_find?_eq_some found)

theorem retag_marks
    {helds : List HeldAttribute} {tags : ValueTags} {reference : Nat}
    (marked : Marked tags reference) : Marked (retag helds tags) reference := by
  induction helds generalizing tags with
  | nil => exact marked
  | cons held rest ih =>
      unfold retag
      cases named : convertAttributeNameToTag held.attributeName with
      | none => exact marked
      | some tag =>
          apply ih
          unfold Marked
          dsimp only
          split
          · exact tag_ne_attributeValue named
          · exact marked

theorem retag_head
    {held : HeldAttribute} {rest : List HeldAttribute} (tags : ValueTags)
    (known : convertible held) :
    Marked (retag (held :: rest) tags) held.reference := by
  obtain ⟨tag, named⟩ := Option.isSome_iff_exists.mp known
  unfold retag
  rw [named]
  apply retag_marks
  unfold Marked
  dsimp only
  rw [if_pos rfl]
  exact tag_ne_attributeValue named

theorem finalState_concluded (outcome : Except ε α) (state : σ) :
    finalState (concluded outcome state) = state := by
  cases outcome <;> rfl

theorem finalState_attributes
    (recent : .kmip20 ≤ version) (place : Place) (helds : List HeldAttribute)
    (tags : ValueTags) :
    finalState (((Layout.attributes place helds).write objects version).run
      tags) = retag helds tags := by
  rw [run_attributes_recent recent]
  split
  · exact finalState_concluded _ _
  · rfl

theorem finalState_bind
    {first : EStateM ε σ α} {next : α → EStateM ε σ β} (state : σ) :
    finalState ((first >>= next).run state) =
      match first.run state with
      | .ok value between => finalState ((next value).run between)
      | .error _ between => between := by
  rw [EStateM.run_bind]
  cases first.run state <;> rfl

/-- The end of the second part does not depend on what is done with its bytes. -/
theorem Layout.finalState_seq
    (first second : Layout HeldAttribute) (tags : ValueTags) :
    finalState (((Layout.seq first second).write objects version).run tags) =
      match (first.write objects version).run tags with
      | .ok _ between => finalState ((second.write objects version).run between)
      | .error _ between => between := by
  rw [write_seq, finalState_bind]
  cases (first.write objects version).run tags with
  | error exception between => rfl
  | ok bytes between =>
      dsimp only
      rw [finalState_bind]
      cases (second.write objects version).run between <;> rfl

theorem Layout.finalState_struct
    (tag : Tag) (fields : Layout HeldAttribute) (tags : ValueTags) :
    finalState (((Layout.struct tag fields).write objects version).run tags) =
      finalState ((fields.write objects version).run tags) := by
  rw [write_struct, finalState_bind]
  cases (fields.write objects version).run tags with
  | error exception after => rfl
  | ok buffer after =>
      dsimp only
      rw [run_fromExcept_concluded, finalState_concluded]
      rfl

theorem Layout.write_marks
    (recent : .kmip20 ≤ version) {layout : Layout HeldAttribute}
    {tags : ValueTags} {reference : Nat} (marked : Marked tags reference) :
    Marked (finalState ((layout.write objects version).run tags)) reference := by
  induction layout generalizing tags with
  | other write =>
      unfold Layout.write
      rw [run_fromExcept_concluded, finalState_concluded]
      exact marked
  | attributes place helds =>
      rw [finalState_attributes recent]
      exact retag_marks marked
  | seq first second ihFirst ihSecond =>
      rw [finalState_seq]
      have between := ihFirst marked
      cases ran : (first.write objects version).run tags with
      | error exception after =>
          rw [ran] at between
          exact between
      | ok bytes after =>
          rw [ran] at between
          exact ihSecond between
  | struct tag fields ih =>
      rw [finalState_struct]
      exact ih marked

theorem Layout.fits_other
    {write : KmipVersion → Except CodecError Bytes} {tags after : ValueTags}
    {bytes : Bytes}
    (ran : ((other write).write objects version).run tags = .ok bytes after) :
    (write version).isOk := by
  unfold Layout.write at ran
  rw [run_fromExcept_concluded] at ran
  cases wrote : write version with
  | ok bytes => rfl
  | error exception =>
      rw [wrote] at ran
      cases ran

theorem Layout.fits_struct
    (recent : .kmip20 ≤ version) {tag : Tag} {fields : Layout HeldAttribute}
    {tags after between : ValueTags} {buffer bytes : Bytes}
    (fits : (fields.map (·.entry objects)).fits version)
    (ranFields : (fields.write objects version).run tags = .ok buffer between)
    (ran : (fromExcept (enclose tag buffer)).run between = .ok bytes after) :
    (((struct tag fields).map (·.entry objects)).fits version) := by
  obtain ⟨same, rest, wrote, encoded⟩ := run_write_recent recent fits tags
  rw [ranFields] at wrote
  cases wrote
  have enclosed := (fromExcept_ok_iff.mp ran).1
  have length := Layout.length_encodeWith encoded
  rw [map_snd_converted] at length
  have yields : Yields (.ok buffer : Except AttributesError Bytes) true
    buffer.length := ⟨rfl, rfl⟩
  have small := ((yields_enclose yields tag).of_ok enclosed).1
  rw [Bool.true_and, length] at small
  exact (Bool.and_eq_true _ _).mpr ⟨fits, small⟩

/-- A write that changes no tag succeeds only if there is an encoding. -/
theorem Layout.fits_of_untouched
    (recent : .kmip20 ≤ version) {layout : Layout HeldAttribute}
    (untouched : (layout.map (·.entry objects)).retags version = false)
    {tags after : ValueTags} {bytes : Bytes}
    (ran : (layout.write objects version).run tags = .ok bytes after) :
    (layout.map (·.entry objects)).fits version := by
  induction layout generalizing tags after bytes with
  | other write => exact fits_other ran
  | attributes place helds =>
      cases helds with
      | nil =>
          unfold map mapLists fits
          rw [if_pos recent]
          rfl
      | cons held rest =>
          rw [run_attributes_recent recent] at ran
          have unknown : convertible held = false := untouched
          rw [List.all_cons, unknown] at ran
          cases ran
  | seq first second ihFirst ihSecond =>
      obtain ⟨untouchedFirst, untouchedSecond⟩ :=
        Bool.or_eq_false_iff.mp untouched
      obtain ⟨bytesFirst, between, ranFirst, ran⟩ := bind_ok_iff.mp ran
      obtain ⟨bytesSecond, later, ranSecond, ran⟩ := bind_ok_iff.mp ran
      have fitsFirst : (first.mapLists (List.map (·.entry objects))).fits
        version = true := ihFirst untouchedFirst ranFirst
      rw [fitsFirst, Bool.true_and] at untouchedSecond
      have fitsSecond := ihSecond untouchedSecond ranSecond
      exact (Bool.and_eq_true _ _).mpr ⟨fitsFirst, fitsSecond⟩
  | struct tag fields ih =>
      obtain ⟨buffer, between, ranFields, ran⟩ := bind_ok_iff.mp ran
      exact fits_struct recent (ih untouched ranFields) ranFields ran

/-- The writer of version 2.0 leaves every tag as it is, -/
theorem Layout.finalState_of_untouched
    (recent : .kmip20 ≤ version) {layout : Layout HeldAttribute}
    (untouched : (layout.map (·.entry objects)).retags version = false)
    (tags : ValueTags) :
    finalState ((layout.write objects version).run tags) = tags := by
  induction layout generalizing tags with
  | other write =>
      unfold Layout.write
      rw [run_fromExcept_concluded, finalState_concluded]
  | attributes place helds =>
      rw [finalState_attributes recent]
      cases helds with
      | nil => rfl
      | cons held rest =>
          have unknown : convertible held = false := untouched
          unfold retag
          rw [Option.isSome_eq_false_iff.mp unknown |> Option.isNone_iff_eq_none.mp]
  | seq first second ihFirst ihSecond =>
      obtain ⟨untouchedFirst, untouchedSecond⟩ :=
        Bool.or_eq_false_iff.mp untouched
      have between := ihFirst untouchedFirst tags
      rw [finalState_seq]
      cases ran : (first.write objects version).run tags with
      | error exception after =>
          rw [ran] at between
          exact between
      | ok bytes after =>
          rw [ran] at between
          have fitsFirst : (first.mapLists (List.map (·.entry objects))).fits
            version = true := fits_of_untouched recent untouchedFirst ran
          rw [fitsFirst, Bool.true_and] at untouchedSecond
          change after = tags at between
          rw [between]
          exact ihSecond untouchedSecond tags
  | struct tag fields ih =>
      rw [finalState_struct]
      exact ih untouched tags

/-- or marks one of the values. -/
theorem Layout.marked_of_retags
    (recent : .kmip20 ≤ version) {layout : Layout HeldAttribute}
    (retags : (layout.map (·.entry objects)).retags version)
    (tags : ValueTags) :
    ∃ helds ∈ layout.lists, ∃ held ∈ helds,
      Marked (finalState ((layout.write objects version).run tags))
        held.reference := by
  induction layout generalizing tags with
  | other write => cases retags
  | attributes place helds =>
      rw [finalState_attributes recent]
      cases helds with
      | nil => cases retags
      | cons held rest =>
          exact ⟨held :: rest, List.mem_cons_self, held, List.mem_cons_self,
            retag_head tags retags⟩
  | seq first second ihFirst ihSecond =>
      rw [finalState_seq]
      by_cases early : (first.map (·.entry objects)).retags version
      · obtain ⟨helds, listed, held, member, marked⟩ := ihFirst early tags
        refine ⟨helds, List.mem_append_left _ listed, held, member, ?_⟩
        cases ran : (first.write objects version).run tags with
        | error exception after =>
            rw [ran] at marked
            exact marked
        | ok bytes after =>
            rw [ran] at marked
            exact write_marks recent marked
      · have untouched := Bool.of_not_eq_true early
        have late : ((first.map (·.entry objects)).retags version ||
            ((first.map (·.entry objects)).fits version &&
              (second.map (·.entry objects)).retags version)) = true := retags
        rw [untouched, Bool.false_or, Bool.and_eq_true] at late
        obtain ⟨bytes, after, ran, _⟩ := run_write_recent recent late.1 tags
        rw [ran]
        obtain ⟨helds, listed, held, member, marked⟩ := ihSecond late.2 after
        exact ⟨helds, List.mem_append_right _ listed, held, member, marked⟩
  | struct tag fields ih =>
      rw [finalState_struct]
      exact ih retags tags

end Marks

section Memory

variable {objects : Nat → ValueObject} {layout : Layout HeldAttribute}

theorem map_carried_freshTags
    (objects : Nat → ValueObject) (layout : Layout HeldAttribute)
    {version : KmipVersion} (old : ¬.kmip20 ≤ version) :
    layout.map (·.carried objects freshTags) =
      (layout.map (·.entry objects)).map (fresh version) := by
  rw [Layout.map_map]
  congr 1
  funext held
  unfold Function.comp fresh freshTag
  rw [if_neg old]
  rfl

/-- The tags that a first write leaves. -/
def tagsAfter (objects : Nat → ValueObject) (layout : Layout HeldAttribute)
    (version : KmipVersion) : ValueTags :=
  finalState ((layout.write objects version).run freshTags)

/-- A payload that has been written once is written to the same bytes again, and
under another version to those of a fresh payload. -/
structure HasNoMemory (objects : Nat → ValueObject)
    (layout : Layout HeldAttribute) (first second : KmipVersion) : Prop where
  again : outcomeOf ((layout.write objects first).run
      (tagsAfter objects layout first)) =
    outcomeOf ((layout.write objects first).run freshTags)
  asFresh : ∀ bytes, (layout.map (·.entry objects)).encode second = .ok bytes →
    outcomeOf ((layout.write objects second).run
      (tagsAfter objects layout first)) = .ok bytes

theorem tagsAfter_old
    {version : KmipVersion} (old : ¬.kmip20 ≤ version) :
    tagsAfter objects layout version = freshTags := by
  unfold tagsAfter
  rw [Layout.run_write_old old, finalState_concluded]

theorem written_again (version : KmipVersion) :
    outcomeOf ((layout.write objects version).run
        (tagsAfter objects layout version)) =
      outcomeOf ((layout.write objects version).run freshTags) := by
  by_cases recent : .kmip20 ≤ version
  · exact Layout.outcome_write_recent recent layout _ _
  · rw [tagsAfter_old recent]

/-- Under a 1.x version, the bytes are those of a fresh payload if no value has
been marked. -/
theorem written_old_iff
    {version : KmipVersion} (old : ¬.kmip20 ≤ version) (tags : ValueTags)
    {bytes : Bytes}
    (encoded : (layout.map (·.entry objects)).encode version = .ok bytes) :
    outcomeOf ((layout.write objects version).run tags) = .ok bytes ↔
      ∀ helds ∈ layout.lists, ∀ held ∈ helds, ¬Marked tags held.reference := by
  rw [Layout.run_write_old old, outcomeOf_concluded]
  have carried := map_carried_freshTags objects layout old
  have unmarked : layout.map (·.carried objects tags) =
        layout.map (·.carried objects freshTags) ↔
      ∀ helds ∈ layout.lists, ∀ held ∈ helds,
        ¬Marked tags held.reference := by
    unfold Layout.map
    rw [Layout.mapLists_eq_iff]
    simp only [List.map_inj_left]
    constructor
    · intro same helds listed held member marked
      exact marked (congrArg Prod.fst (same helds listed held member))
    · intro unmarked helds listed held member
      exact Prod.ext (not_not.mp (unmarked helds listed held member)) rfl
  unfold Layout.encode at encoded
  rw [← carried] at encoded
  rw [← unmarked]
  constructor
  · intro wrote
    apply Layout.encodeWith_injective _ wrote encoded
    rw [Layout.map_map, Layout.map_map]
    rfl
  · intro same
    rw [same]
    exact encoded

/-- Under version 2.0, the bytes are those of a fresh payload if no list holds a
value under two names. -/
theorem written_recent_iff
    {version : KmipVersion} (recent : .kmip20 ≤ version) (tags : ValueTags)
    {bytes : Bytes}
    (encoded : (layout.map (·.entry objects)).encode version = .ok bytes) :
    outcomeOf ((layout.write objects version).run tags) = .ok bytes ↔
      layout.Unmixed := by
  have fits := ((Layout.yields_encode _ _).of_ok encoded).1
  obtain ⟨found, after, ran, converts⟩ :=
    Layout.run_write_recent recent fits tags
  rw [ran, ← mapLists_converted_iff recent fits]
  constructor
  · intro same
    cases same
    apply Layout.encodeWith_injective _ converts encoded
    rw [Layout.map_snd_converted, Layout.map_map, Layout.map_map]
    rfl
  · intro same
    rw [same] at converts
    exact converts.symm.trans encoded

theorem hasNoMemory_iff
    (objects : Nat → ValueObject) (layout : Layout HeldAttribute)
    (first second : KmipVersion) :
    HasNoMemory objects layout first second ↔
      (.kmip20 ≤ first → ¬.kmip20 ≤ second →
        (layout.map (·.entry objects)).fits second →
          (layout.map (·.entry objects)).retags first = false) ∧
      (.kmip20 ≤ second → (layout.map (·.entry objects)).fits second →
        layout.Unmixed) := by
  have encodes : (layout.map (·.entry objects)).fits second →
      ∃ bytes, (layout.map (·.entry objects)).encode second = .ok bytes := by
    intro fits
    have yields := (layout.map (·.entry objects)).yields_encode second
    rw [fits] at yields
    obtain ⟨bytes, encoded, _⟩ := yields.of_fits
    exact ⟨bytes, encoded⟩
  constructor
  · intro memoryless
    refine ⟨fun recent old fits => ?_, fun recent fits => ?_⟩
    · obtain ⟨bytes, encoded⟩ := encodes fits
      have unmarked := (written_old_iff old _ encoded).mp
        (memoryless.asFresh bytes encoded)
      apply Bool.eq_false_iff.mpr
      intro retags
      obtain ⟨helds, listed, held, member, marked⟩ :=
        Layout.marked_of_retags recent retags freshTags
      exact unmarked helds listed held member marked
    · obtain ⟨bytes, encoded⟩ := encodes fits
      exact (written_recent_iff recent _ encoded).mp
        (memoryless.asFresh bytes encoded)
  · rintro ⟨untouched, unmixed⟩
    refine ⟨written_again first, fun bytes encoded => ?_⟩
    have fits := ((Layout.yields_encode _ _).of_ok encoded).1
    by_cases recent : .kmip20 ≤ second
    · exact (written_recent_iff recent _ encoded).mpr (unmixed recent fits)
    · apply (written_old_iff recent _ encoded).mpr
      intro helds listed held member marked
      apply marked
      by_cases changing : .kmip20 ≤ first
      · unfold tagsAfter
        rw [Layout.finalState_of_untouched changing
          (untouched changing recent fits)]
        rfl
      · rw [tagsAfter_old changing]
        rfl

/-- Writing a payload or a message leaves no trace in later encodings exactly if
no change of a tag by version 2.0 meets an encoding of version 1.x, and no list
holds one value under two names. -/
theorem encoding_has_no_memory_iff
    (objects : Nat → ValueObject) (holder : AttributeHolder)
    (first second : KmipVersion) :
    HasNoMemory objects holder.layout first second ↔
      (.kmip20 ≤ first → ¬.kmip20 ≤ second →
        (holder.layout.map (·.entry objects)).fits second →
          (holder.layout.map (·.entry objects)).retags first = false) ∧
      (.kmip20 ≤ second → (holder.layout.map (·.entry objects)).fits second →
        holder.layout.Unmixed) :=
  hasNoMemory_iff objects holder.layout first second

/-- A search for the objects in a state. -/
def stateSearch : AttributeHolder :=
  .payload (.locate { attributes := [{ attributeName := "State", reference := 0 }] })

def activeState : Nat → ValueObject := fun _ => ⟨.state, some State.active⟩

/-- Written for version 2.0, it is not the same for version 1.0 any more. -/
theorem stateSearch_has_memory :
    ¬HasNoMemory activeState stateSearch.layout .kmip20 .kmip10 := by
  intro memoryless
  have untouched := ((hasNoMemory_iff ..).mp memoryless).1 (by decide) (by decide)
    (by decide)
  revert untouched
  decide

end Memory

end PyKMIP.Wire
