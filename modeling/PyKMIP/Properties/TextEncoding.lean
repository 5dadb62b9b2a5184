import PyKMIP.Wire.PrimitiveObjects
import PyKMIP.Wire.Encodings

/-!
# Text strings and UTF-8

A text string is written character by character and read byte by byte, as if
every character were a byte.  So text of ASCII characters survives, and no other
text is written or read.
-/

namespace PyKMIP

open Formats

section Characters

/-- The characters are packed if each of them is a byte. -/
theorem packChars_eq (chars : List Char) :
    packChars chars =
      if chars.all (·.toNat < 128) then
        .ok (chars.flatMap String.utf8EncodeChar)
      else .error .structError := by
  induction chars with
  | nil => rfl
  | cons char chars ih =>
      unfold packChars
      rw [List.all_cons, List.flatMap_cons]
      by_cases ascii : char.toNat < 128
      · rw [if_pos ascii, ih, decide_eq_true ascii, Bool.true_and,
          utf8EncodeChar_of_ascii ascii]
        split <;> rfl
      · rw [if_neg ascii, decide_eq_false ascii, Bool.false_and]
        rfl

/-- A byte that is no character by itself ends the reading. -/
theorem run_unpackChars_of_high
    {bytes : Bytes} (high : bytes.all (·.toNat < 128) = false) (rest : Bytes) :
    (unpackChars bytes.length).run (bytes ++ rest) =
      .error .unicodeDecodeError := by
  induction bytes with
  | nil => cases high
  | cons byte bytes ih =>
      have first : Reads (take 1 : Reader Bytes) [byte] [byte] :=
        .take_of_length rfl
      change (take 1 >>= _ : Reader _).run ([byte] ++ (bytes ++ rest)) = _
      rw [run_bind_ok (first _)]
      dsimp only
      by_cases ascii : byte.toNat < 128
      · rw [List.all_cons, decide_eq_true ascii, Bool.true_and] at high
        rw [if_pos ascii, StateT.run_bind, ih high]
        rfl
      · rw [if_neg ascii]
        rfl

end Characters

namespace TextString

variable {tag : Tag} {text : String} {bytes : Bytes}

/-- The text is what a reader of the encoding obtains. -/
def IsRead (tag : Tag) (text : String) (bytes : Bytes) : Prop :=
  ∃ decoded, Reads (read tag) bytes decoded ∧ decoded.value = text

/-- The text is written as the encoding of its UTF-8 bytes and read back. -/
def IsWritten (tag : Tag) (text : String) : Prop :=
  ∃ bytes, write tag (new text) = .ok bytes ∧
    IsItem tag .textString (encodeUtf8 text) bytes ∧ IsRead tag text bytes

theorem packChars_of_ascii (ascii : isAscii text) :
    packChars text.toList = .ok (encodeUtf8 text) := by
  rw [packChars_eq, encodeUtf8_eq]
  exact if_pos ascii

/-- The bytes of ASCII text are as many as its characters. -/
theorem length_encodeUtf8 (ascii : isAscii text) :
    (encodeUtf8 text).length = text.toList.length :=
  ((yields_packChars text.toList).of_ok (packChars_of_ascii ascii)).2

theorem write_of_isItem
    (ascii : isAscii text)
    (item : IsItem tag .textString (encodeUtf8 text) bytes) :
    write tag (new text) = .ok bytes := by
  obtain ⟨header, heads, rfl⟩ := isItem_iff.mp item
  rw [length_encodeUtf8 ascii] at heads ⊢
  rw [write_new]
  unfold writeTextString
  rw [heads, packChars_of_ascii ascii]
  rfl

theorem isAscii_of_write (written : write tag (new text) = .ok bytes) :
    isAscii text := by
  obtain ⟨header, heads, written⟩ := bind_eq_ok written
  obtain ⟨packed, packs, written⟩ := bind_eq_ok written
  exact ((yields_packChars text.toList).of_ok packs).1

theorem isRead_of_write (written : write tag (new text) = .ok bytes) :
    IsRead tag text bytes :=
  ⟨_, reads_write written, rfl⟩

/-- The encoding of other text is refused. -/
theorem run_read_of_other
    (other : isAscii text = false)
    (item : IsItem tag .textString (encodeUtf8 text) bytes) (rest : Bytes) :
    (read tag).run (bytes ++ rest) = .error .unicodeDecodeError := by
  obtain ⟨header, heads, rfl⟩ := isItem_iff.mp item
  have high : (encodeUtf8 text).all (·.toNat < 128) = false := by
    rw [all_encodeUtf8, other]
  unfold read
  rw [List.append_assoc, List.append_assoc,
    run_bind_ok (reads_readBase heads _), StateT.run_bind,
    run_unpackChars_of_high high]
  rfl

theorem isAscii_of_isRead
    (item : IsItem tag .textString (encodeUtf8 text) bytes)
    (isRead : IsRead tag text bytes) : isAscii text := by
  obtain ⟨decoded, reads, _⟩ := isRead
  by_contra other
  have ran := run_read_of_other (Bool.eq_false_iff.mpr other) item []
  cases (reads []).symm.trans ran

end TextString

/-- Text is written and read back exactly if its characters are ASCII and its
length can be announced; the encoding of text by the protocol is read exactly if
the characters are ASCII. -/
theorem text_survives_iff (tag : Tag) (text : String) :
    (TextString.IsWritten tag text ↔
        isAscii text ∧ (encodeUtf8 text).length < 256 ^ 4) ∧
      ∀ value bytes, decodeUtf8 value = some text →
        IsItem tag .textString value bytes →
        (TextString.IsRead tag text bytes ↔ isAscii text) := by
  constructor
  · constructor
    · rintro ⟨bytes, written, item, isRead⟩
      exact ⟨TextString.isAscii_of_write written, item.announced⟩
    · rintro ⟨ascii, announced⟩
      have item : IsItem tag .textString (encodeUtf8 text) _ :=
        ⟨announced, rfl⟩
      have written := TextString.write_of_isItem ascii item
      exact ⟨_, written, item, TextString.isRead_of_write written⟩
  · intro value bytes decodes item
    have encodes := encodeUtf8_of_decodeUtf8 decodes
    subst encodes
    exact ⟨TextString.isAscii_of_isRead item, fun ascii =>
      TextString.isRead_of_write (TextString.write_of_isItem ascii item)⟩

theorem text_survives_iff_key :
    TextString.IsWritten .nameValue "key" ∧
      TextString.IsRead .nameValue "key"
        [66, 0, 85, 7, 0, 0, 0, 3, 107, 101, 121, 0, 0, 0, 0, 0] := by
  have decodes : decodeUtf8 [107, 101, 121] = some "key" :=
    decodeUtf8_encodeUtf8 "key"
  constructor
  · exact (text_survives_iff .nameValue "key").1.mpr ⟨rfl, by decide⟩
  · exact ((text_survives_iff .nameValue "key").2 [107, 101, 121] _ decodes
      ⟨by decide, rfl⟩).mpr rfl

/-- One accent is enough. -/
theorem accent_is_not_written :
    ¬∀ (tag : Tag) (text : String), (encodeUtf8 text).length < 256 ^ 4 →
      TextString.IsWritten tag text := by
  intro writes
  obtain ⟨bytes, written, _⟩ := writes .nameValue "é" (by decide)
  exact absurd (TextString.isAscii_of_write written) (by decide)

end PyKMIP
