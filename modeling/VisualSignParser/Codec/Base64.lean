import VisualSignParser.Codec.Framing

/-!
# Base64

The standard alphabet with padding.  Three bytes become four characters; one
or two left-over bytes become a group that is filled up with `=`.  The reader
accepts canonical text only, and reads every encoding back.
-/

namespace VisualSignParser.Base64

open VisualSignParser.Framing

def alphabet : List Char :=
  "ABCDEFGHIJKLMNOPQRSTUVWXYZabcdefghijklmnopqrstuvwxyz0123456789+/".toList

/-- The character of a six-bit value. -/
def symbol (value : ℕ) : Char := alphabet.getD value 'A'

def symbolValue (char : Char) : Option ℕ := alphabet.idxOf? char

def encodeChars : Bytes → List Char
  | [] => []
  | [first] => [symbol (first.toNat / 4), symbol (first.toNat % 4 * 16), '=', '=']
  | [first, second] =>
      [symbol (first.toNat / 4), symbol (first.toNat % 4 * 16 + second.toNat / 16),
        symbol (second.toNat % 16 * 4), '=']
  | first :: second :: third :: rest =>
      symbol (first.toNat / 4) :: symbol (first.toNat % 4 * 16 + second.toNat / 16) ::
        symbol (second.toNat % 16 * 4 + third.toNat / 64) :: symbol (third.toNat % 64) ::
        encodeChars rest

/-- `base64::engine::general_purpose::STANDARD.encode`. -/
def encode (bytes : Bytes) : String := String.ofList (encodeChars bytes)

/-- A last group that stands for one byte.  The unused bits must be zero. -/
def decodeOne (first second : Char) : Option Bytes := do
  let high ← symbolValue first
  let low ← symbolValue second
  if low % 16 = 0 then some [UInt8.ofNat (high * 4 + low / 16)] else none

/-- A last group that stands for two bytes. -/
def decodeTwo (first second third : Char) : Option Bytes := do
  let high ← symbolValue first
  let middle ← symbolValue second
  let low ← symbolValue third
  if low % 4 = 0 then
    some [UInt8.ofNat (high * 4 + middle / 16), UInt8.ofNat (middle % 16 * 16 + low / 4)]
  else none

def decodeThree (first second third fourth : Char) : Option Bytes := do
  let high ← symbolValue first
  let middle ← symbolValue second
  let low ← symbolValue third
  let last ← symbolValue fourth
  return [UInt8.ofNat (high * 4 + middle / 16), UInt8.ofNat (middle % 16 * 16 + low / 4),
    UInt8.ofNat (low % 4 * 64 + last)]

def decodeChars : List Char → Option Bytes
  | [] => some []
  | first :: second :: third :: fourth :: rest =>
      if rest = [] ∧ third = '=' ∧ fourth = '=' then decodeOne first second
      else if rest = [] ∧ fourth = '=' then decodeTwo first second third
      else do
        let group ← decodeThree first second third fourth
        let bytes ← decodeChars rest
        return group ++ bytes
  | _ => none

/-- `base64::engine::general_purpose::STANDARD.decode`. -/
def decode (text : String) : Option Bytes := decodeChars text.toList

theorem symbolValue_symbol {value : ℕ} (hvalue : value < 64) :
    symbolValue (symbol value) = some value := by
  have hall : ∀ value < 64, symbolValue (symbol value) = some value := by decide +kernel
  exact hall value hvalue

theorem symbol_ne_pad {value : ℕ} (hvalue : value < 64) : symbol value ≠ '=' := by
  have hall : ∀ value < 64, symbol value ≠ '=' := by decide +kernel
  exact hall value hvalue

theorem ofNat_eq (byte : UInt8) {value : ℕ} (hvalue : value = byte.toNat) :
    UInt8.ofNat value = byte := by
  rw [hvalue, UInt8.ofNat_toNat]

theorem decodeChars_encodeChars (bytes : Bytes) :
    decodeChars (encodeChars bytes) = some bytes := by
  induction bytes using encodeChars.induct with
  | case1 => rfl
  | case2 first =>
      have hfirst := UInt8.toNat_lt first
      rw [encodeChars, decodeChars, if_pos ⟨rfl, rfl, rfl⟩, decodeOne,
        symbolValue_symbol (by omega), symbolValue_symbol (by omega)]
      simp only [Option.bind_eq_bind, Option.bind_some, Nat.mul_mod_left, if_true]
      rw [ofNat_eq first (by omega)]
  | case3 first second =>
      have hfirst := UInt8.toNat_lt first
      have hsecond := UInt8.toNat_lt second
      have hthird : symbol (second.toNat % 16 * 4) ≠ '=' := symbol_ne_pad (by omega)
      rw [encodeChars, decodeChars, if_neg (fun hpad => hthird hpad.2.1), if_pos ⟨rfl, rfl⟩,
        decodeTwo, symbolValue_symbol (by omega), symbolValue_symbol (by omega),
        symbolValue_symbol (by omega)]
      simp only [Option.bind_eq_bind, Option.bind_some, Nat.mul_mod_left, if_true]
      rw [ofNat_eq first (by omega), ofNat_eq second (by omega)]
  | case4 first second third rest ih =>
      have hfirst := UInt8.toNat_lt first
      have hsecond := UInt8.toNat_lt second
      have hthird := UInt8.toNat_lt third
      have hlast : symbol (third.toNat % 64) ≠ '=' := symbol_ne_pad (by omega)
      rw [encodeChars, decodeChars, if_neg (fun hpad => hlast hpad.2.2),
        if_neg (fun hpad => hlast hpad.2), decodeThree, symbolValue_symbol (by omega),
        symbolValue_symbol (by omega), symbolValue_symbol (by omega),
        symbolValue_symbol (by omega), ih]
      simp only [Option.bind_eq_bind, Option.bind_some, Option.pure_def]
      rw [ofNat_eq first (by omega), ofNat_eq second (by omega),
        ofNat_eq third (by omega)]
      rfl

theorem decode_encode (bytes : Bytes) : decode (encode bytes) = some bytes := by
  rw [decode, encode, String.toList_ofList, decodeChars_encodeChars]

/-- Four characters for up to three bytes. -/
theorem length_encodeChars (bytes : Bytes) :
    (encodeChars bytes).length = 4 * ((bytes.length + 2) / 3) := by
  induction bytes using encodeChars.induct with
  | case1 => rfl
  | case2 => simp [encodeChars]
  | case3 => simp [encodeChars]
  | case4 first second third rest ih =>
      simp only [encodeChars, List.length_cons, ih]
      omega

/-- A group that is not full is filled up. -/
theorem pad_mem_encodeChars {bytes : Bytes} (hremainder : bytes.length % 3 ≠ 0) :
    '=' ∈ encodeChars bytes := by
  induction bytes using encodeChars.induct with
  | case1 => exact absurd rfl hremainder
  | case2 => simp [encodeChars]
  | case3 => simp [encodeChars]
  | case4 first second third rest ih =>
      have hrest : rest.length % 3 ≠ 0 := by
        simp only [List.length_cons] at hremainder
        omega
      simp [encodeChars, ih hrest]

/-! ## The characters of a text that is read -/

def IsSymbol (char : Char) : Prop := char ∈ alphabet ∨ char = '='

theorem isSymbol_of_value {char : Char} {value : ℕ} (hvalue : symbolValue char = some value) :
    IsSymbol char := by
  apply Or.inl
  rw [← List.isSome_idxOf?, ← symbolValue, hvalue]
  rfl

theorem isSymbol_of_decodeOne {first second : Char} {bytes : Bytes}
    (hdecode : decodeOne first second = some bytes) : ∀ char ∈ [first, second], IsSymbol char := by
  obtain ⟨high, hhigh, hdecode⟩ := Option.bind_eq_some_iff.1 hdecode
  obtain ⟨low, hlow, -⟩ := Option.bind_eq_some_iff.1 hdecode
  simp [isSymbol_of_value hhigh, isSymbol_of_value hlow]

theorem isSymbol_of_decodeTwo {first second third : Char} {bytes : Bytes}
    (hdecode : decodeTwo first second third = some bytes) :
    ∀ char ∈ [first, second, third], IsSymbol char := by
  obtain ⟨high, hhigh, hdecode⟩ := Option.bind_eq_some_iff.1 hdecode
  obtain ⟨middle, hmiddle, hdecode⟩ := Option.bind_eq_some_iff.1 hdecode
  obtain ⟨low, hlow, -⟩ := Option.bind_eq_some_iff.1 hdecode
  simp [isSymbol_of_value hhigh, isSymbol_of_value hmiddle, isSymbol_of_value hlow]

theorem isSymbol_of_decodeThree {first second third fourth : Char} {bytes : Bytes}
    (hdecode : decodeThree first second third fourth = some bytes) :
    ∀ char ∈ [first, second, third, fourth], IsSymbol char := by
  obtain ⟨high, hhigh, hdecode⟩ := Option.bind_eq_some_iff.1 hdecode
  obtain ⟨middle, hmiddle, hdecode⟩ := Option.bind_eq_some_iff.1 hdecode
  obtain ⟨low, hlow, hdecode⟩ := Option.bind_eq_some_iff.1 hdecode
  obtain ⟨last, hlast, -⟩ := Option.bind_eq_some_iff.1 hdecode
  simp [isSymbol_of_value hhigh, isSymbol_of_value hmiddle, isSymbol_of_value hlow,
    isSymbol_of_value hlast]

/-- A text that is read has no character outside the alphabet. -/
theorem isSymbol_of_decodeChars {text : List Char} {bytes : Bytes}
    (hdecode : decodeChars text = some bytes) : ∀ char ∈ text, IsSymbol char := by
  have hpad : IsSymbol '=' := .inr rfl
  induction text using decodeChars.induct generalizing bytes with
  | case1 => simp
  | case2 first second third fourth rest hlast =>
      rw [decodeChars, if_pos hlast] at hdecode
      obtain ⟨rfl, rfl, rfl⟩ := hlast
      simpa [hpad] using isSymbol_of_decodeOne hdecode
  | case3 first second third fourth rest hone hlast =>
      rw [decodeChars, if_neg hone, if_pos hlast] at hdecode
      obtain ⟨rfl, rfl⟩ := hlast
      simpa [hpad] using isSymbol_of_decodeTwo hdecode
  | case4 first second third fourth rest hone htwo ih =>
      rw [decodeChars, if_neg hone, if_neg htwo] at hdecode
      obtain ⟨group, hgroup, hdecode⟩ := Option.bind_eq_some_iff.1 hdecode
      obtain ⟨others, hothers, -⟩ := Option.bind_eq_some_iff.1 hdecode
      have hrest := ih hothers
      simpa [or_imp, forall_and, and_assoc] using
        And.intro (isSymbol_of_decodeThree hgroup) hrest
  | case5 text hnil hcons =>
      rw [decodeChars] at hdecode
      · cases hdecode
      · exact hnil
      · exact hcons

theorem isSymbol_of_decode {text : String} {bytes : Bytes} (hdecode : decode text = some bytes) :
    ∀ char ∈ text.toList, IsSymbol char :=
  isSymbol_of_decodeChars hdecode

end VisualSignParser.Base64
