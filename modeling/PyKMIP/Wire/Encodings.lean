import PyKMIP.Barbican
import PyKMIP.Wire.Primitives

/-!
# Encodings of the protocol

The encoding of an item by the protocol, whatever the program writes: the
length counts the bytes of the value, and zeros complete the value to a multiple
of eight bytes.  Text is encoded in UTF-8.
-/

namespace PyKMIP

section Items

structure IsItem (tag : Tag) (type : ItemType) (value bytes : Bytes) : Prop where
  announced : value.length < 256 ^ 4
  encoded : bytes =
    (BigEndian.encode 3 tag.code ++ BigEndian.encode 1 type.code ++
      BigEndian.encode 4 value.length) ++
      (value ++ List.replicate (paddingLength value.length) 0)

theorem isItem_iff {tag : Tag} {type : ItemType} {value bytes : Bytes} :
    IsItem tag type value bytes ↔
      ∃ header, writeBase tag type value.length = .ok header ∧
        bytes = header ++
          (value ++ List.replicate (paddingLength value.length) 0) := by
  unfold writeBase
  constructor
  · rintro ⟨announced, encoded⟩
    exact ⟨_, if_pos announced, encoded⟩
  · rintro ⟨header, written, encoded⟩
    split at written
    · rename_i announced
      cases written
      exact ⟨announced, encoded⟩
    · cases written

end Items

section Text

def isAscii (text : String) : Bool := text.toList.all (·.toNat < 128)

theorem encodeUtf8_eq (text : String) :
    encodeUtf8 text = text.toList.flatMap String.utf8EncodeChar := by
  unfold encodeUtf8
  rw [← String.utf8Encode_toList, List.utf8Encode]
  simp

theorem encodeUtf8_of_decodeUtf8 {value : Bytes} {text : String}
    (decodes : decodeUtf8 value = some text) : encodeUtf8 text = value := by
  unfold decodeUtf8 String.fromUTF8? at decodes
  split at decodes
  · cases decodes
    rfl
  · cases decodes

theorem utf8EncodeChar_of_ascii {char : Char} (ascii : char.toNat < 128) :
    String.utf8EncodeChar char = [UInt8.ofNat char.toNat] := by
  unfold String.utf8EncodeChar
  exact if_pos (Nat.le_of_lt_succ ascii)

/-- The bytes of every other character have their first bit set. -/
theorem le_of_mem_utf8EncodeChar
    {char : Char} (other : ¬char.toNat < 128) {byte : UInt8}
    (member : byte ∈ String.utf8EncodeChar char) : 128 ≤ byte.toNat := by
  have large : ¬char.val.toNat ≤ 127 := fun small =>
    other (Nat.lt_succ_of_le small)
  unfold String.utf8EncodeChar at member
  dsimp only at member
  rw [if_neg large] at member
  split at member
  · simp only [List.mem_cons, List.not_mem_nil, or_false] at member
    rcases member with rfl | rfl <;> rw [UInt8.toNat_ofNat'] <;> omega
  · split at member
    · simp only [List.mem_cons, List.not_mem_nil, or_false] at member
      rcases member with rfl | rfl | rfl <;> rw [UInt8.toNat_ofNat'] <;> omega
    · simp only [List.mem_cons, List.not_mem_nil, or_false] at member
      rcases member with rfl | rfl | rfl | rfl <;> rw [UInt8.toNat_ofNat'] <;>
        omega

theorem all_utf8EncodeChar (char : Char) :
    (String.utf8EncodeChar char).all (·.toNat < 128) =
      decide (char.toNat < 128) := by
  by_cases ascii : char.toNat < 128
  · have byte : (UInt8.ofNat char.toNat).toNat = char.toNat := by
      rw [UInt8.toNat_ofNat']
      omega
    rw [utf8EncodeChar_of_ascii ascii, List.all_cons, byte]
    simp
  · rename _ => other
    obtain ⟨byte, member⟩ :=
      List.exists_mem_of_ne_nil _ (String.utf8EncodeChar_ne_nil (c := char))
    have high := le_of_mem_utf8EncodeChar other member
    rw [decide_eq_false other, List.all_eq_false]
    exact ⟨byte, member, by simpa using high⟩

/-- Text is ASCII exactly if its bytes are. -/
theorem all_encodeUtf8 (text : String) :
    (encodeUtf8 text).all (·.toNat < 128) = isAscii text := by
  rw [encodeUtf8_eq, List.all_flatMap]
  simp only [all_utf8EncodeChar]
  rfl

end Text

end PyKMIP
