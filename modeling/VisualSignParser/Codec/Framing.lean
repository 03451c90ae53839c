import Mathlib.Data.List.Basic
import Mathlib.Data.UInt
import Mathlib.Tactic.Ring

/-!
# Byte strings and length-prefixed framing

Every digest of the parser is taken over a concatenation of fields.  These
lemmas prove the byte-level facts that make such a concatenation readable: a
fixed-width integer can be split off the front, and a field behind its own
length determines both itself and the bytes that follow it.
-/

namespace VisualSignParser.Framing

abbrev Bytes := List UInt8

/-- Rust's `[u8; length]`. -/
abbrev ByteArr (length : ℕ) := {bytes : Bytes // bytes.length = length}

/-- `to_le_bytes` of an unsigned integer of `width` bytes. -/
def leBytes : (width value : ℕ) → Bytes
  | 0, _ => []
  | width + 1, value => UInt8.ofNat value :: leBytes width (value / 256)

/-- `from_le_bytes`: the first byte is the least significant one. -/
def ofLeBytes : Bytes → ℕ
  | [] => 0
  | byte :: bytes => byte.toNat + 256 * ofLeBytes bytes

/-- `to_be_bytes` of an unsigned integer of `width` bytes. -/
def beBytes (width value : ℕ) : Bytes := (leBytes width value).reverse

/-- `from_be_bytes`: the last byte is the least significant one. -/
def ofBeBytes (bytes : Bytes) : ℕ := ofLeBytes bytes.reverse

@[simp]
theorem length_leBytes (width value : ℕ) : (leBytes width value).length = width := by
  induction width generalizing value with
  | zero => rfl
  | succ width ih => simp [leBytes, ih]

@[simp]
theorem length_beBytes (width value : ℕ) : (beBytes width value).length = width := by
  simp [beBytes]

theorem ofLeBytes_leBytes {width value : ℕ} (hvalue : value < 256 ^ width) :
    ofLeBytes (leBytes width value) = value := by
  induction width generalizing value with
  | zero =>
      have : value = 0 := by simpa using hvalue
      simp [leBytes, ofLeBytes, this]
  | succ width ih =>
      have hdiv : value / 256 < 256 ^ width :=
        Nat.div_lt_of_lt_mul (by rwa [pow_succ, Nat.mul_comm] at hvalue)
      simp only [leBytes, ofLeBytes, ih hdiv, UInt8.toNat_ofNat']
      omega

theorem ofLeBytes_lt (bytes : Bytes) : ofLeBytes bytes < 256 ^ bytes.length := by
  induction bytes with
  | nil => simp [ofLeBytes]
  | cons byte bytes ih =>
      have hbyte : byte.toNat < 256 := UInt8.toNat_lt byte
      simp only [ofLeBytes, List.length_cons, pow_succ]
      omega

theorem leBytes_ofLeBytes (bytes : Bytes) :
    leBytes bytes.length (ofLeBytes bytes) = bytes := by
  induction bytes with
  | nil => rfl
  | cons byte bytes ih =>
      have hbyte : byte.toNat < 256 := UInt8.toNat_lt byte
      have hdiv : (byte.toNat + 256 * ofLeBytes bytes) / 256 = ofLeBytes bytes := by omega
      simp only [List.length_cons, leBytes, ofLeBytes, hdiv, ih, List.cons.injEq, and_true]
      apply UInt8.toNat_inj.1
      simp

theorem leBytes_injective {width left right : ℕ} (hleft : left < 256 ^ width)
    (hright : right < 256 ^ width)
    (heq : leBytes width left = leBytes width right) : left = right := by
  rw [← ofLeBytes_leBytes hleft, ← ofLeBytes_leBytes hright, heq]

theorem beBytes_injective {width left right : ℕ} (hleft : left < 256 ^ width)
    (hright : right < 256 ^ width)
    (heq : beBytes width left = beBytes width right) : left = right :=
  leBytes_injective hleft hright (List.reverse_injective heq)

theorem ofBeBytes_beBytes {width value : ℕ} (hvalue : value < 256 ^ width) :
    ofBeBytes (beBytes width value) = value := by
  rw [ofBeBytes, beBytes, List.reverse_reverse, ofLeBytes_leBytes hvalue]

/-- A field behind its own little-endian length. -/
def lenPrefixed (width : ℕ) (field : Bytes) : Bytes :=
  leBytes width field.length ++ field

/-- A length-prefixed field can be split off the front of any byte string: the
prefix fixes where the field ends, so the bytes that follow are fixed too. -/
theorem lenPrefixed_append_inj {width : ℕ} {left right leftRest rightRest : Bytes}
    (hleft : left.length < 256 ^ width) (hright : right.length < 256 ^ width)
    (heq : lenPrefixed width left ++ leftRest = lenPrefixed width right ++ rightRest) :
    left = right ∧ leftRest = rightRest := by
  simp only [lenPrefixed, List.append_assoc] at heq
  obtain ⟨hcount, hrest⟩ := List.append_inj heq (by simp)
  exact List.append_inj hrest (leBytes_injective hleft hright hcount)

theorem lenPrefixed_injective {width : ℕ} {left right : Bytes}
    (hleft : left.length < 256 ^ width) (hright : right.length < 256 ^ width)
    (heq : lenPrefixed width left = lenPrefixed width right) : left = right := by
  have happend : lenPrefixed width left ++ [] = lenPrefixed width right ++ [] := by rw [heq]
  exact (lenPrefixed_append_inj hleft hright happend).1

/-- Read a field of exactly `count` bytes, leaving the rest. -/
def takeExact (count : ℕ) (bytes : Bytes) : Option (Bytes × Bytes) :=
  if count ≤ bytes.length then some (bytes.take count, bytes.drop count) else none

theorem takeExact_append (field rest : Bytes) :
    takeExact field.length (field ++ rest) = some (field, rest) := by
  simp [takeExact]

theorem takeExact_eq_some {count : ℕ} {bytes field rest : Bytes}
    (hread : takeExact count bytes = some (field, rest)) :
    bytes = field ++ rest ∧ field.length = count := by
  unfold takeExact at hread
  split at hread
  · rename_i hcount
    simp only [Option.some.injEq, Prod.mk.injEq] at hread
    obtain ⟨rfl, rfl⟩ := hread
    simp [hcount]
  · simp at hread

/-- `str::as_bytes`. -/
def utf8Bytes (text : String) : Bytes := text.toUTF8.data.toList

theorem utf8Bytes_injective : Function.Injective utf8Bytes := by
  intro left right heq
  have harray : left.toUTF8.data = right.toUTF8.data := Array.toList_inj.1 heq
  exact String.toByteArray_inj.1 (ByteArray.ext harray)

theorem utf8Bytes_ofList (chars : List Char) :
    utf8Bytes (String.ofList chars) = chars.flatMap String.utf8EncodeChar :=
  calc utf8Bytes (String.ofList chars)
      = (String.ofList chars).toByteArray.data.toList := rfl
    _ = chars.flatMap String.utf8EncodeChar := by
        rw [String.toByteArray_ofList, List.utf8Encode, List.toList_data_toByteArray]

/-- A character takes at most four bytes. -/
theorem length_utf8Bytes_ofList_le (chars : List Char) :
    (utf8Bytes (String.ofList chars)).length ≤ 4 * chars.length := by
  rw [utf8Bytes_ofList]
  induction chars with
  | nil => simp
  | cons char chars ih =>
      have hchar := Char.utf8Size_le_four char
      rw [List.flatMap_cons, List.length_append, String.length_utf8EncodeChar, List.length_cons]
      omega

/-- `String::from_utf8`, which rejects byte strings that are not UTF-8. -/
def ofUtf8Bytes (bytes : Bytes) : Option String := String.fromUTF8? ⟨bytes.toArray⟩

theorem ofUtf8Bytes_utf8Bytes (text : String) : ofUtf8Bytes (utf8Bytes text) = some text := by
  have hbytes : (⟨(utf8Bytes text).toArray⟩ : ByteArray) = text.toByteArray := rfl
  unfold ofUtf8Bytes
  rw [hbytes, String.fromUTF8?, dif_pos text.isValidUTF8]
  rfl

theorem utf8Bytes_of_ofUtf8Bytes {bytes : Bytes} {text : String}
    (htext : ofUtf8Bytes bytes = some text) : utf8Bytes text = bytes := by
  unfold ofUtf8Bytes String.fromUTF8? at htext
  split_ifs at htext with hvalid
  obtain rfl := Option.some.inj htext
  rfl

end VisualSignParser.Framing
