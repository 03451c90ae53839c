import VisualSignParser.Codec.Framing

/-!
# ASCII text as bytes

A character is one byte of UTF-8 exactly when it is ASCII, and every other
character has a byte with the high bit set.  A test of the bytes of a text that
only ASCII bytes pass is therefore a test of its characters.
-/

namespace VisualSignParser.Framing

/-- The byte of an ASCII character. -/
def asciiByte (char : Char) : UInt8 := UInt8.ofNat char.toNat

theorem asciiByte_toNat {char : Char} (hascii : char.toNat < 128) :
    (asciiByte char).toNat = char.toNat := by
  rw [asciiByte, UInt8.toNat_ofNat']
  exact Nat.mod_eq_of_lt (by omega)

theorem utf8EncodeChar_ascii {char : Char} (hascii : char.toNat < 128) :
    String.utf8EncodeChar char = [asciiByte char] := by
  have hval : char.val.toNat ≤ 0x7f := by
    change char.toNat ≤ 0x7f
    omega
  unfold String.utf8EncodeChar
  rw [if_pos hval]
  rfl

/-- The last byte of any other character continues the one before it. -/
theorem exists_high_utf8EncodeChar {char : Char} (hother : 128 ≤ char.toNat) :
    ∃ byte ∈ String.utf8EncodeChar char, 128 ≤ byte.toNat := by
  have hval : ¬char.val.toNat ≤ 0x7f := by
    change ¬char.toNat ≤ 0x7f
    omega
  have hlast : 128 ≤ (UInt8.ofNat (char.val.toNat % 0x40 + 0x80)).toNat := by
    rw [UInt8.toNat_ofNat']
    omega
  refine ⟨UInt8.ofNat (char.val.toNat % 0x40 + 0x80), ?_, hlast⟩
  unfold String.utf8EncodeChar
  rw [if_neg hval]
  split_ifs <;> simp

theorem utf8Bytes_append (left right : String) :
    utf8Bytes (left ++ right) = utf8Bytes left ++ utf8Bytes right := by
  rw [← String.ofList_toList (s := left), ← String.ofList_toList (s := right),
    ← String.ofList_append, utf8Bytes_ofList, utf8Bytes_ofList, utf8Bytes_ofList,
    List.flatMap_append]

theorem utf8Bytes_eq_map {text : String} (hascii : ∀ char ∈ text.toList, char.toNat < 128) :
    utf8Bytes text = text.toList.map asciiByte := by
  have hchars (chars : List Char) (hchars : ∀ char ∈ chars, char.toNat < 128) :
      chars.flatMap String.utf8EncodeChar = chars.map asciiByte := by
    induction chars with
    | nil => rfl
    | cons char chars ih =>
        obtain ⟨hchar, hrest⟩ := List.forall_mem_cons.1 hchars
        rw [List.flatMap_cons, utf8EncodeChar_ascii hchar, ih hrest, List.map_cons,
          List.singleton_append]
  conv_lhs => rw [← String.ofList_toList (s := text)]
  rw [utf8Bytes_ofList, hchars _ hascii]

/-- A property of ASCII bytes holds of the bytes of a text when it holds of its
characters, all of them ASCII. -/
theorem forall_utf8Bytes {P : UInt8 → Prop} (hascii : ∀ byte, P byte → byte.toNat < 128)
    {text : String} :
    (∀ byte ∈ utf8Bytes text, P byte) ↔
      ∀ char ∈ text.toList, char.toNat < 128 ∧ P (asciiByte char) := by
  conv_lhs => rw [← String.ofList_toList (s := text)]
  rw [utf8Bytes_ofList]
  simp only [List.mem_flatMap, forall_exists_index, and_imp]
  constructor
  · intro hbytes char hchar
    by_cases hcode : char.toNat < 128
    · refine ⟨hcode, hbytes _ char hchar ?_⟩
      rw [utf8EncodeChar_ascii hcode]
      exact List.mem_singleton_self _
    · obtain ⟨byte, hmem, hhigh⟩ := exists_high_utf8EncodeChar (not_lt.1 hcode)
      exact absurd (hascii byte (hbytes byte char hchar hmem)) (not_lt.2 hhigh)
  · intro hchars byte char hchar hbyte
    obtain ⟨hcode, hholds⟩ := hchars char hchar
    rw [utf8EncodeChar_ascii hcode, List.mem_singleton] at hbyte
    rwa [hbyte]

/-- One byte a character. -/
theorem length_utf8Bytes_ascii {text : String} (hascii : ∀ char ∈ text.toList, char.toNat < 128) :
    (utf8Bytes text).length = text.toList.length := by
  rw [utf8Bytes_eq_map hascii, List.length_map]

end VisualSignParser.Framing

namespace VisualSignParser.Text

/-- `eq_ignore_ascii_case`. -/
def eqIgnoreAsciiCase (left right : String) : Bool :=
  left.toList.map Char.toLower == right.toList.map Char.toLower

end VisualSignParser.Text
