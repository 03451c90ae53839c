import Mathlib.Tactic.IntervalCases
import VisualSignParser.Codec.Framing
import VisualSignParser.Codec.Outcome
import VisualSignParser.Codec.Text

/-!
# Hexadecimal text

Digests, keys and signatures leave the parser as lower-case hexadecimal text.
Text that comes in from outside may carry a `0x` marker and upper-case digits.
-/

namespace VisualSignParser.Hex

open VisualSignParser.Framing
open VisualSignParser.Outcome

def digit (value : ℕ) : Char := "0123456789abcdef".toList.getD value '0'

/-- `qos_hex::encode`: two lower-case digits a byte, no marker. -/
def encode (bytes : Bytes) : String :=
  String.ofList (bytes.flatMap fun byte => [digit (byte.toNat / 16), digit (byte.toNat % 16)])

theorem digit_injective {left right : ℕ} (hleft : left < 16) (hright : right < 16)
    (heq : digit left = digit right) : left = right := by
  have hdigits : ∀ left < 16, ∀ right < 16, digit left = digit right → left = right := by decide
  exact hdigits left hleft right hright heq

/-- Different bytes have different digits, because every byte is written with two of
them. -/
theorem encode_injective : Function.Injective encode := by
  intro left right heq
  have hdigits := String.ofList_injective heq
  clear heq
  induction left generalizing right with
  | nil =>
      cases right with
      | nil => rfl
      | cons byte bytes => cases hdigits
  | cons leftByte leftBytes ih =>
      cases right with
      | nil => cases hdigits
      | cons rightByte rightBytes =>
          simp only [List.flatMap_cons, List.cons_append, List.nil_append,
            List.cons.injEq] at hdigits
          obtain ⟨hhigh, hlow, hrest⟩ := hdigits
          have hleft := UInt8.toNat_lt leftByte
          have hright := UInt8.toNat_lt rightByte
          have hhigh := digit_injective (by omega) (by omega) hhigh
          have hlow := digit_injective (by omega) (by omega) hlow
          have hbyte : leftByte = rightByte := UInt8.toNat_inj.1 (by omega)
          rw [hbyte, ih hrest]

theorem length_toList_encode (bytes : Bytes) : (encode bytes).toList.length = bytes.length * 2 := by
  rw [encode, String.toList_ofList, List.length_flatMap]
  simp

theorem length_utf8Bytes_encode_le (bytes : Bytes) :
    (utf8Bytes (encode bytes)).length ≤ 8 * bytes.length := by
  have hdigits : (bytes.flatMap fun byte =>
      [digit (byte.toNat / 16), digit (byte.toNat % 16)]).length = bytes.length * 2 := by
    rw [← length_toList_encode, encode, String.toList_ofList]
  calc
    (utf8Bytes (encode bytes)).length ≤ 4 * (bytes.flatMap fun byte =>
        [digit (byte.toNat / 16), digit (byte.toNat % 16)]).length :=
      length_utf8Bytes_ofList_le _
    _ = 8 * bytes.length := by
      rw [hdigits]
      omega

/-! ## Reading caller-supplied text -/

/-- `hex::FromHexError`, less the variant for fixed-size output. -/
inductive FromHexError where
  | invalidHexCharacter (char : Char) (index : ℕ)
  | oddLength
  deriving DecidableEq

/-- The value of one digit, in either case. -/
def digitValue (byte : UInt8) (index : ℕ) : Except FromHexError ℕ :=
  let code := byte.toNat
  if 0x41 ≤ code ∧ code ≤ 0x46 then .ok (code - 0x41 + 10)
  else if 0x61 ≤ code ∧ code ≤ 0x66 then .ok (code - 0x61 + 10)
  else if 0x30 ≤ code ∧ code ≤ 0x39 then .ok (code - 0x30)
  else .error (.invalidHexCharacter (Char.ofNat code) index)

def decodePairs (index : ℕ) : Bytes → Except FromHexError Bytes
  | high :: low :: rest => do
      let highValue ← digitValue high index
      let lowValue ← digitValue low (index + 1)
      let bytes ← decodePairs (index + 2) rest
      return UInt8.ofNat (16 * highValue + lowValue) :: bytes
  | _ => .ok []

/-- `hex::decode`. -/
def decode (text : Bytes) : Except FromHexError Bytes :=
  if text.length % 2 = 0 then decodePairs 0 text else .error .oddLength

/-- `strip_hex_prefix`. -/
def stripHexMarker (text : String) : String :=
  ((Text.stripStart "0x" text).or (Text.stripStart "0X" text)).getD text

/-- `split_hex_prefix`: the marker is required. -/
def splitHexMarker (text : String) : Option String :=
  (Text.stripStart "0x" text).or (Text.stripStart "0X" text)

/-- `char::is_ascii_hexdigit`. -/
def isHexDigit (char : Char) : Bool :=
  char.isDigit || ('a' ≤ char && char ≤ 'f') || ('A' ≤ char && char ≤ 'F')

inductive SupportedEncodings where
  | base64
  | hex
  deriving DecidableEq

def SupportedEncodings.detect (text : String) : SupportedEncodings :=
  if (stripHexMarker text).toList.all isHexDigit then .hex else .base64

def decodeHex (text : String) : Except FromHexError Bytes :=
  decode (utf8Bytes (stripHexMarker text))

inductive DecodeHexArrayError where
  | hex (error : FromHexError)
  | length (expected got : ℕ)
  deriving DecidableEq

def decodeHexArray (size : ℕ) (text : String) : Except DecodeHexArrayError (ByteArr size) := do
  let bytes ← (decodeHex text).mapError .hex
  if hlength : bytes.length = size then pure ⟨bytes, hlength⟩
  else throw (.length size bytes.length)

theorem decodeHexArray_eq_ok {size : ℕ} {text : String} {bytes : ByteArr size}
    (hdecode : decodeHexArray size text = .ok bytes) : decodeHex text = .ok bytes.val := by
  obtain ⟨decoded, hdecoded, hlength⟩ := bind_eq_ok.1 hdecode
  split_ifs at hlength with hsize
  rw [← pure_eq_ok.1 hlength]
  exact mapError_eq_ok.1 hdecoded

/-- A digit is one byte of UTF-8, and reads back. -/
theorem digit_reads_back {value : ℕ} (hvalue : value < 16) :
    ∃ byte, String.utf8EncodeChar (digit value) = [byte] ∧
      ∀ index, digitValue byte index = .ok value := by
  interval_cases value <;> exact ⟨_, rfl, fun index => rfl⟩

/-- The digits of bytes are read back pair by pair, by induction on the bytes; their
number is even. -/
theorem decodePairs_encode (bytes : Bytes) (index : ℕ) :
    (utf8Bytes (encode bytes)).length % 2 = 0 ∧
      decodePairs index (utf8Bytes (encode bytes)) = .ok bytes := by
  induction bytes generalizing index with
  | nil => exact ⟨rfl, rfl⟩
  | cons byte bytes ih =>
      have hbyte := UInt8.toNat_lt byte
      obtain ⟨high, hhigh, hhighValue⟩ := @digit_reads_back (byte.toNat / 16) (by omega)
      obtain ⟨low, hlow, hlowValue⟩ := @digit_reads_back (byte.toNat % 16) (by omega)
      have htext : utf8Bytes (encode (byte :: bytes)) = high :: low :: utf8Bytes (encode bytes) := by
        simp only [encode, utf8Bytes_ofList, List.flatMap_cons, hhigh, hlow, List.cons_append,
          List.nil_append]
      have hvalue : UInt8.ofNat (16 * (byte.toNat / 16) + byte.toNat % 16) = byte := by
        rw [Nat.div_add_mod, UInt8.ofNat_toNat]
      obtain ⟨hlength, hrest⟩ := ih (index + 2)
      rw [htext]
      constructor
      · rw [List.length_cons, List.length_cons]
        omega
      · simp only [decodePairs, hhighValue, hlowValue, hrest]
        exact congrArg (fun first => Except.ok (first :: bytes)) hvalue

theorem decode_encode (bytes : Bytes) : decode (utf8Bytes (encode bytes)) = .ok bytes := by
  obtain ⟨hlength, hpairs⟩ := decodePairs_encode bytes 0
  rw [decode, if_pos hlength, hpairs]

/-- No encoding starts with a marker. -/
theorem stripHexMarker_encode (bytes : Bytes) : stripHexMarker (encode bytes) = encode bytes := by
  cases bytes with
  | nil => rfl
  | cons byte bytes =>
      have hbyte := UInt8.toNat_lt byte
      have hdigit : ∀ value < 16, digit value ≠ 'x' ∧ digit value ≠ 'X' := by decide
      obtain ⟨hlower, hupper⟩ := hdigit (byte.toNat % 16) (by omega)
      have hchars : (encode (byte :: bytes)).toList =
          digit (byte.toNat / 16) :: digit (byte.toNat % 16) :: (encode bytes).toList := by
        simp [encode]
      rw [stripHexMarker, Text.stripStart, Text.stripStart, hchars, if_neg, if_neg]
      · rfl
      · simp [List.cons_prefix_cons, hupper.symm]
      · simp [List.cons_prefix_cons, hlower.symm]

theorem decodeHex_encode (bytes : Bytes) : decodeHex (encode bytes) = .ok bytes := by
  rw [decodeHex, stripHexMarker_encode, decode_encode]

/-- Digits that are decoded are twice as many as the bytes, so none of them is
skipped. -/
theorem length_of_decodePairs {text bytes : Bytes} {index : ℕ} (heven : text.length % 2 = 0)
    (hdecode : decodePairs index text = .ok bytes) : text.length = 2 * bytes.length := by
  induction text using List.twoStepInduction generalizing index bytes with
  | nil =>
      cases hdecode
      rfl
  | singleton byte => simp at heven
  | cons_cons high low rest ih _ =>
      obtain ⟨highValue, -, hdecode⟩ := bind_eq_ok.1 hdecode
      obtain ⟨lowValue, -, hdecode⟩ := bind_eq_ok.1 hdecode
      obtain ⟨others, hothers, hdecode⟩ := bind_eq_ok.1 hdecode
      rw [List.length_cons, List.length_cons] at heven
      rw [← pure_eq_ok.1 hdecode, List.length_cons, List.length_cons, List.length_cons,
        ih (by omega) hothers]
      omega

/-- Two digits a byte. -/
theorem length_of_decode {text bytes : Bytes} (hdecode : decode text = .ok bytes) :
    text.length = 2 * bytes.length := by
  unfold decode at hdecode
  split_ifs at hdecode with heven
  exact length_of_decodePairs heven hdecode

theorem mem_stripHexMarker {text : String} {char : Char} (hchar : char ∈ text.toList) :
    char ∈ (stripHexMarker text).toList ∨ char ∈ ['0', 'x', 'X'] := by
  unfold stripHexMarker
  cases hlower : Text.stripStart "0x" text with
  | some rest =>
      rw [Text.toList_of_stripStart hlower] at hchar
      rcases List.mem_append.1 hchar with hmarker | hrest
      · exact .inr (by revert hmarker; simp; tauto)
      · exact .inl hrest
  | none =>
      cases hupper : Text.stripStart "0X" text with
      | some rest =>
          rw [Text.toList_of_stripStart hupper] at hchar
          rcases List.mem_append.1 hchar with hmarker | hrest
          · exact .inr (by revert hmarker; simp; tauto)
          · exact .inl hrest
      | none => exact .inl hchar

/-- A hexadecimal digit is one byte of UTF-8 that has a value. -/
theorem digitValue_of_isHexDigit {char : Char} (hdigit : isHexDigit char = true) :
    ∃ byte, String.utf8EncodeChar char = [byte] ∧
      ∀ index, ∃ value, digitValue byte index = .ok value := by
  simp only [isHexDigit, Char.isDigit, Bool.or_eq_true, Bool.and_eq_true, decide_eq_true_eq] at hdigit
  have hcode : (0x30 ≤ char.toNat ∧ char.toNat ≤ 0x39) ∨ (0x61 ≤ char.toNat ∧ char.toNat ≤ 0x66) ∨
      (0x41 ≤ char.toNat ∧ char.toNat ≤ 0x46) := by
    rcases hdigit with (hdecimal | hlower) | hupper
    · exact .inl hdecimal
    · exact .inr (.inl hlower)
    · exact .inr (.inr hupper)
  have hascii : char.val.toNat ≤ 0x7f := by
    change char.toNat ≤ 0x7f
    omega
  have hsize : char.utf8Size = 1 := by
    rw [Char.utf8Size, if_pos]
    exact UInt32.le_iff_toNat_le.2 hascii
  refine ⟨_, String.utf8EncodeChar_eq_singleton hsize, fun index => ?_⟩
  have hbyte : char.val.toUInt8.toNat = char.toNat := by
    rw [UInt32.toNat_toUInt8]
    exact Nat.mod_eq_of_lt (by omega)
  unfold digitValue
  rw [hbyte]
  dsimp only
  split_ifs
  · exact ⟨_, rfl⟩
  · exact ⟨_, rfl⟩
  · exact ⟨_, rfl⟩
  · omega

/-- An even number of digits is always decoded, in lower case or in upper case. -/
theorem decodePairs_of_digits {chars : List Char} (hdigits : ∀ char ∈ chars, isHexDigit char = true)
    (heven : chars.length % 2 = 0) (index : ℕ) :
    (chars.flatMap String.utf8EncodeChar).length = chars.length ∧
      ∃ bytes, decodePairs index (chars.flatMap String.utf8EncodeChar) = .ok bytes := by
  induction chars using List.twoStepInduction generalizing index with
  | nil => exact ⟨rfl, [], rfl⟩
  | singleton char => simp at heven
  | cons_cons first second rest ih _ =>
      obtain ⟨hfirst, hdigits⟩ := List.forall_mem_cons.1 hdigits
      obtain ⟨hsecond, hdigits⟩ := List.forall_mem_cons.1 hdigits
      obtain ⟨high, hhigh, hhighValue⟩ := digitValue_of_isHexDigit hfirst
      obtain ⟨low, hlow, hlowValue⟩ := digitValue_of_isHexDigit hsecond
      rw [List.length_cons, List.length_cons] at heven
      obtain ⟨hlength, bytes, hbytes⟩ := ih hdigits (by omega) (index + 2)
      obtain ⟨highDigit, hhighDigit⟩ := hhighValue index
      obtain ⟨lowDigit, hlowDigit⟩ := hlowValue (index + 1)
      rw [List.flatMap_cons, List.flatMap_cons, hhigh, hlow]
      refine ⟨by simp [hlength], UInt8.ofNat (16 * highDigit + lowDigit) :: bytes, ?_⟩
      simp only [List.cons_append, List.nil_append, decodePairs, hhighDigit, hlowDigit, hbytes]
      rfl

/-- Digits in pairs are read, whatever they stand for. -/
theorem decode_of_digits {chars : List Char} (hdigits : ∀ char ∈ chars, isHexDigit char = true)
    (heven : chars.length % 2 = 0) :
    ∃ bytes, decode (utf8Bytes (String.ofList chars)) = .ok bytes ∧
      chars.length = 2 * bytes.length := by
  obtain ⟨hlength, bytes, hbytes⟩ := decodePairs_of_digits hdigits heven 0
  have hdecode : decode (utf8Bytes (String.ofList chars)) = .ok bytes := by
    rw [decode, utf8Bytes_ofList, hlength, if_pos heven, hbytes]
  refine ⟨bytes, hdecode, ?_⟩
  rw [← hlength, ← utf8Bytes_ofList]
  exact length_of_decode hdecode

/-- The text of the marker and what follows it. -/
theorem splitHexMarker_append (digits : String) : splitHexMarker ("0x" ++ digits) = some digits := by
  rw [splitHexMarker, Text.stripStart_append, Option.some_or]

theorem stripHexMarker_append (digits : String) : stripHexMarker ("0x" ++ digits) = digits := by
  rw [stripHexMarker, Text.stripStart_append, Option.some_or, Option.getD_some]

/-- A text has one marker at most. -/
theorem splitHexMarker_eq_some {text digits : String} :
    splitHexMarker text = some digits ↔ text = "0x" ++ digits ∨ text = "0X" ++ digits := by
  rw [splitHexMarker, Option.or_eq_some_iff, Text.stripStart_eq_some, Text.stripStart_eq_some]
  constructor
  · rintro (hlower | ⟨-, hupper⟩)
    · exact .inl hlower
    · exact .inr hupper
  · rintro (hlower | hupper)
    · exact .inl hlower
    · refine .inr ⟨?_, hupper⟩
      subst hupper
      rw [Text.stripStart, if_neg]
      rw [String.toList_append]
      simp

theorem stripHexMarker_of_split {text digits : String} (hsplit : splitHexMarker text = some digits) :
    stripHexMarker text = digits := by
  rw [splitHexMarker] at hsplit
  rw [stripHexMarker, hsplit, Option.getD_some]

/-- A marker has two characters. -/
theorem length_stripHexMarker (text : String) :
    text.toList.length = (stripHexMarker text).toList.length ∨
      text.toList.length = (stripHexMarker text).toList.length + 2 := by
  cases hsplit : splitHexMarker text with
  | none =>
      rw [splitHexMarker] at hsplit
      rw [stripHexMarker, hsplit, Option.getD_none]
      exact .inl rfl
  | some digits =>
      rw [stripHexMarker_of_split hsplit]
      rcases splitHexMarker_eq_some.1 hsplit with rfl | rfl
      · exact .inr (by rw [String.toList_append, List.length_append, Nat.add_comm]; rfl)
      · exact .inr (by rw [String.toList_append, List.length_append, Nat.add_comm]; rfl)

theorem exists_digit_of_mem_encode {bytes : Bytes} {char : Char}
    (hchar : char ∈ (encode bytes).toList) : ∃ value < 16, char = digit value := by
  rw [encode, String.toList_ofList, List.mem_flatMap] at hchar
  obtain ⟨byte, -, hchar⟩ := hchar
  have hbyte := UInt8.toNat_lt byte
  rcases List.mem_cons.1 hchar with rfl | hchar
  · exact ⟨_, by omega, rfl⟩
  · exact ⟨_, by omega, List.mem_singleton.1 hchar⟩

theorem isHexDigit_of_mem_encode {bytes : Bytes} {char : Char}
    (hchar : char ∈ (encode bytes).toList) : isHexDigit char = true := by
  obtain ⟨value, hvalue, rfl⟩ := exists_digit_of_mem_encode hchar
  have hdigit : ∀ value < 16, isHexDigit (digit value) = true := by decide
  exact hdigit value hvalue

theorem toLower_of_mem_encode {bytes : Bytes} {char : Char}
    (hchar : char ∈ (encode bytes).toList) : char.toLower = char := by
  obtain ⟨value, hvalue, rfl⟩ := exists_digit_of_mem_encode hchar
  have hdigit : ∀ value < 16, (digit value).toLower = digit value := by decide
  exact hdigit value hvalue

/-- The digits of bytes are taken as such, with a marker or without. -/
theorem detect_encode {text : String} {bytes : Bytes} (htext : stripHexMarker text = encode bytes) :
    SupportedEncodings.detect text = .hex ∧ decodeHex text = .ok bytes := by
  constructor
  · rw [SupportedEncodings.detect, htext, if_pos]
    rw [List.all_eq_true]
    intro char hchar
    exact isHexDigit_of_mem_encode hchar
  · rw [decodeHex, htext, decode_encode]

theorem toNat_of_isHexDigit {char : Char} (hdigit : isHexDigit char = true) :
    (0x30 ≤ char.toNat ∧ char.toNat ≤ 0x39) ∨ (0x61 ≤ char.toNat ∧ char.toNat ≤ 0x66) ∨
      (0x41 ≤ char.toNat ∧ char.toNat ≤ 0x46) := by
  simp only [isHexDigit, Char.isDigit, Bool.or_eq_true, Bool.and_eq_true, decide_eq_true_eq] at hdigit
  rcases hdigit with (hdecimal | hlower) | hupper
  · exact .inl hdecimal
  · exact .inr (.inl hlower)
  · exact .inr (.inr hupper)

/-- A digit in either case stands for the value whose digit is its lower-case form. -/
theorem value_of_isHexDigit {char : Char} (hdigit : isHexDigit char = true) :
    ∃ value < 16, digit value = char.toLower ∧
      ∃ byte, String.utf8EncodeChar char = [byte] ∧
        ∀ index, digitValue byte index = .ok value := by
  have hcode := toNat_of_isHexDigit hdigit
  rw [← Char.ofNat_toNat char]
  generalize char.toNat = code at hcode
  rcases hcode with ⟨hlow, hhigh⟩ | ⟨hlow, hhigh⟩ | ⟨hlow, hhigh⟩
  · refine ⟨code - 0x30, by omega, ?_⟩
    interval_cases code <;> exact ⟨rfl, _, rfl, fun _ => rfl⟩
  · refine ⟨code - 0x61 + 10, by omega, ?_⟩
    interval_cases code <;> exact ⟨rfl, _, rfl, fun _ => rfl⟩
  · refine ⟨code - 0x41 + 10, by omega, ?_⟩
    interval_cases code <;> exact ⟨rfl, _, rfl, fun _ => rfl⟩

/-- The encoding of what is read is the text in lower case. -/
theorem encode_of_decodePairs {chars : List Char} (hdigits : ∀ char ∈ chars, isHexDigit char = true)
    {index : ℕ} {bytes : Bytes} (heven : chars.length % 2 = 0)
    (hdecode : decodePairs index (chars.flatMap String.utf8EncodeChar) = .ok bytes) :
    (encode bytes).toList = chars.map Char.toLower := by
  induction chars using List.twoStepInduction generalizing index bytes with
  | nil =>
      cases hdecode
      rfl
  | singleton char => simp at heven
  | cons_cons first second rest ih _ =>
      obtain ⟨hfirst, hdigits⟩ := List.forall_mem_cons.1 hdigits
      obtain ⟨hsecond, hdigits⟩ := List.forall_mem_cons.1 hdigits
      obtain ⟨high, hhigh, hhighText, highByte, hhighByte, hhighValue⟩ := value_of_isHexDigit hfirst
      obtain ⟨low, hlow, hlowText, lowByte, hlowByte, hlowValue⟩ := value_of_isHexDigit hsecond
      rw [List.flatMap_cons, List.flatMap_cons, hhighByte, hlowByte, List.singleton_append,
        List.singleton_append, decodePairs, hhighValue, hlowValue, ok_bind, ok_bind] at hdecode
      obtain ⟨others, hothers, hdecode⟩ := bind_eq_ok.1 hdecode
      have hvalue : (UInt8.ofNat (16 * high + low)).toNat = 16 * high + low := by
        rw [UInt8.toNat_ofNat']
        exact Nat.mod_eq_of_lt (by omega)
      rw [List.length_cons, List.length_cons] at heven
      have hrest := ih hdigits (by omega) hothers
      rw [encode, String.toList_ofList] at hrest
      rw [← pure_eq_ok.1 hdecode, encode, String.toList_ofList, List.flatMap_cons, hvalue, hrest,
        List.map_cons, List.map_cons, ← hhighText, ← hlowText,
        show (16 * high + low) / 16 = high by omega, show (16 * high + low) % 16 = low by omega]
      rfl

/-- Decoding digits and encoding the bytes again gives the digits in lower case. -/
theorem encode_of_digits {chars : List Char} (hdigits : ∀ char ∈ chars, isHexDigit char = true)
    (heven : chars.length % 2 = 0) :
    ∃ bytes, decode (utf8Bytes (String.ofList chars)) = .ok bytes ∧
      chars.length = 2 * bytes.length ∧ encode bytes = String.ofList (chars.map Char.toLower) := by
  obtain ⟨bytes, hbytes, hlength⟩ := decode_of_digits hdigits heven
  refine ⟨bytes, hbytes, hlength, ?_⟩
  have hpairs := hbytes
  rw [decode, utf8Bytes_ofList] at hpairs
  split_ifs at hpairs
  rw [← encode_of_decodePairs hdigits heven hpairs, String.ofList_toList]

example : decodeHex "0XdeadBEEF" = .ok [0xde, 0xad, 0xbe, 0xef] := by decide +kernel

end VisualSignParser.Hex
