import VisualSignParser.Ethereum.InputForms

/-!
# The numbers of JSON transactions

A number is meant to be a marker and hexadecimal digits.  The parsers hand what
follows the marker to the integer parsers of their types, which read more than
digits: the primitive types a sign, the wide type separators.  Apart from these
texts the parsers accept exactly the numbers that fit.
-/

namespace VisualSignParser.Ethereum

open VisualSignParser.Framing
open VisualSignParser.Outcome

/-! ## The grammar -/

/-- A marker and digits, at least one, that stand for the value. -/
def IsHexNumber (text : String) (value : ℕ) : Prop :=
  ∃ digits : List Char,
    (text = "0x" ++ String.ofList digits ∨ text = "0X" ++ String.ofList digits) ∧ digits ≠ [] ∧
      (∀ char ∈ digits, Hex.isHexDigit char = true) ∧ Radix.digitsValue 16 0 digits = some value

/-- Exactly the numbers are accepted, each with its value. -/
def ReadsNumbers {E A : Type} (parse : String → Except E A) (toNat : A → ℕ) (text : String) :
    Prop :=
  ∀ result, parse text = .ok result ↔ IsHexNumber text (toNat result)

/-- A marker, a sign and digits of a number that fits. -/
def HasSign (bits : ℕ) (text : String) : Prop :=
  ∃ hex digits value, Hex.splitHexMarker text = some hex ∧ hex.toList = '+' :: digits ∧
    Radix.Fits bits 16 value digits

def withoutSeparators (digits : List Char) : List Char := digits.filter (· ≠ '_')

/-- A marker and separators, alone or between the digits of a number that fits. -/
def HasSeparator (text : String) : Prop :=
  ∃ hex value, Hex.splitHexMarker text = some hex ∧ '_' ∈ hex.toList ∧
    Radix.digitsValue 16 0 (withoutSeparators hex.toList) = some value ∧ value < 2 ^ 256

/-- What is documented of `U256::from_str_radix`: digits of either case are read,
separators are ignored, and nothing else is. -/
def JsonCrates.IgnoresSeparators (crates : JsonCrates) : Prop :=
  ∀ hex result, crates.parseU256 hex = .ok result ↔
    Radix.digitsValue 16 0 (withoutSeparators hex.toList) = some result.toNat

theorem isHexDigit_of_toDigit {char : Char} {digit : ℕ}
    (hdigit : Radix.toDigit 16 char = some digit) : Hex.isHexDigit char = true := by
  simp only [Radix.toDigit, Option.filter_eq_some_iff, decide_eq_true_eq] at hdigit
  obtain ⟨hvalue, hsmall⟩ := hdigit
  simp only [Hex.isHexDigit, Char.isDigit, Bool.or_eq_true, Bool.and_eq_true, decide_eq_true_eq]
  split_ifs at hvalue with hdecimal hlower hupper
  · exact .inl (.inl hdecimal)
  · have hlast : char ≤ 'f' := by
      have hvalue := Option.some.inj hvalue
      have hle : 'a'.toNat ≤ char.toNat := hlower.1
      change char.toNat ≤ 'f'.toNat
      simp only [Char.reduceToNat] at hvalue hle ⊢
      omega
    exact .inl (.inr ⟨hlower.1, hlast⟩)
  · have hlast : char ≤ 'F' := by
      have hvalue := Option.some.inj hvalue
      have hle : 'A'.toNat ≤ char.toNat := hupper.1
      change char.toNat ≤ 'F'.toNat
      simp only [Char.reduceToNat] at hvalue hle ⊢
      omega
    exact .inr ⟨hupper.1, hlast⟩

theorem isHexDigit_of_value {value result : ℕ} {digits : List Char}
    (hvalue : Radix.digitsValue 16 value digits = some result) :
    ∀ char ∈ digits, Hex.isHexDigit char = true := by
  induction digits generalizing value with
  | nil => simp
  | cons first digits ih =>
      rw [Radix.digitsValue] at hvalue
      cases hdigit : Radix.toDigit 16 first with
      | none =>
          rw [hdigit] at hvalue
          cases hvalue
      | some digit =>
          rw [hdigit] at hvalue
          intro char hchar
          rcases List.mem_cons.1 hchar with rfl | hrest
          · exact isHexDigit_of_toDigit hdigit
          · exact ih hvalue char hrest

/-- The grammar in the words of the code. -/
theorem isHexNumber_iff_spells {text : String} {value : ℕ} :
    IsHexNumber text value ↔ SpellsNumber value text := by
  constructor
  · rintro ⟨digits, hmarker, hnonempty, -, hvalue⟩
    refine ⟨String.ofList digits, Hex.splitHexMarker_eq_some.2 hmarker, ?_, ?_⟩
    · rwa [Ne, String.ofList_eq_empty_iff]
    · rwa [String.toList_ofList]
  · rintro ⟨hex, hsplit, hnonempty, hvalue⟩
    refine ⟨hex.toList, ?_, ?_, isHexDigit_of_value hvalue, hvalue⟩
    · rw [String.ofList_toList]
      exact Hex.splitHexMarker_eq_some.1 hsplit
    · rwa [Ne, String.toList_eq_nil_iff]

/-! ## What the parsers accept -/

theorem parseHexInt_eq_ok_iff {A : Type} {label : String} {read : String → Except String A}
    {text : String} {result : A} :
    parseHexInt label read text = .ok result ↔
      ∃ hex, Hex.splitHexMarker text = some hex ∧ hex ≠ "" ∧ read hex = .ok result := by
  rw [parseHexInt, bind_eq_ok]
  simp only [requireHexMarker, okOr_eq_ok]
  refine exists_congr fun hex => and_congr_right fun _ => ?_
  by_cases hempty : hex = ""
  · subst hempty
    rw [if_pos (by decide)]
    exact iff_of_false (by simp) fun hread => hread.1 rfl
  · rw [if_neg (by rwa [String.isEmpty_iff]), mapError_eq_ok]
    exact (and_iff_right hempty).symm

theorem fromHexDigits_eq_ok_iff {bits value : ℕ} {hex : String} :
    fromHexDigits bits hex = .ok value ↔
      Radix.Fits bits 16 value hex.toList ∨
        ∃ digits, hex.toList = '+' :: digits ∧ Radix.Fits bits 16 value digits := by
  rw [fromHexDigits, mapError_eq_ok, Radix.fromStrRadix_eq_ok_iff (by decide)]

/-- The parser of a primitive type of the given width. -/
theorem readsNumbers_iff_sign {A : Type} {bits : ℕ} {label : String} {ofNat : ℕ → A}
    {toNat : A → ℕ} (hofNat : ∀ result, ofNat (toNat result) = result)
    (htoNat : ∀ value, value < 2 ^ bits → toNat (ofNat value) = value)
    (hbound : ∀ result, toNat result < 2 ^ bits) (text : String) :
    ReadsNumbers (parseHexInt label fun hex => (fromHexDigits bits hex).map ofNat) toNat text ↔
      ¬ HasSign bits text := by
  have hread (hex : String) (result : A) :
      (fromHexDigits bits hex).map ofNat = .ok result ↔
        fromHexDigits bits hex = .ok (toNat result) := by
    rw [map_eq_ok]
    constructor
    · rintro ⟨value, hvalue, rfl⟩
      have hfits : value < 2 ^ bits := by
        rcases fromHexDigits_eq_ok_iff.1 hvalue with hfits | ⟨digits, -, hfits⟩
        · exact hfits.2.2
        · exact hfits.2.2
      rwa [htoNat value hfits]
    · intro hvalue
      exact ⟨_, hvalue, hofNat result⟩
  constructor
  · rintro hreads ⟨hex, digits, value, hsplit, hsign, hfits⟩
    -- the text is accepted, but a sign is not a digit
    have haccepted : fromHexDigits bits hex = .ok (toNat (ofNat value)) := by
      rw [htoNat value hfits.2.2]
      exact fromHexDigits_eq_ok_iff.2 (.inr ⟨digits, hsign, hfits⟩)
    have hnonempty : hex ≠ "" := by
      rintro rfl
      cases hsign
    obtain ⟨other, hother, -, hvalue⟩ := isHexNumber_iff_spells.1 ((hreads _).1
      (parseHexInt_eq_ok_iff.2 ⟨hex, hsplit, hnonempty, (hread _ _).2 haccepted⟩))
    rw [← Option.some.inj (hsplit.symm.trans hother), hsign] at hvalue
    cases hvalue
  · intro hunsigned result
    rw [isHexNumber_iff_spells, parseHexInt_eq_ok_iff]
    refine exists_congr fun hex => and_congr_right fun hsplit => and_congr_right fun hnonempty => ?_
    rw [hread, fromHexDigits_eq_ok_iff]
    constructor
    · rintro (hfits | ⟨digits, hsign, hfits⟩)
      · exact hfits.2.1
      · exact absurd ⟨hex, digits, _, hsplit, hsign, hfits⟩ hunsigned
    · intro hvalue
      exact .inl ⟨by rwa [Ne, String.toList_eq_nil_iff], hvalue, hbound result⟩

/-- The parser of the wide type. -/
theorem readsNumbers_iff_separator {crates : JsonCrates} (hcrates : crates.IgnoresSeparators)
    (text : String) :
    ReadsNumbers (parseHexU256 crates) BitVec.toNat text ↔ ¬ HasSeparator text := by
  constructor
  · rintro hreads ⟨hex, value, hsplit, hseparator, hvalue, hfits⟩
    have hresult : (BitVec.ofNat 256 value).toNat = value := Nat.mod_eq_of_lt hfits
    have hnonempty : hex ≠ "" := by
      rintro rfl
      cases hseparator
    have haccepted : parseHexU256 crates text = .ok (BitVec.ofNat 256 value) := by
      refine parseHexInt_eq_ok_iff.2 ⟨hex, hsplit, hnonempty, (hcrates _ _).2 ?_⟩
      rw [hvalue, hresult]
    obtain ⟨other, hother, -, hdigits⟩ := isHexNumber_iff_spells.1 ((hreads _).1 haccepted)
    rw [← Option.some.inj (hsplit.symm.trans hother)] at hdigits
    exact absurd (isHexDigit_of_value hdigits _ hseparator) (by decide)
  · intro hplain result
    rw [isHexNumber_iff_spells, parseHexU256, parseHexInt_eq_ok_iff]
    refine exists_congr fun hex => and_congr_right fun hsplit => and_congr_right fun _ => ?_
    rw [hcrates]
    have hsame (hdigits : '_' ∉ hex.toList) : withoutSeparators hex.toList = hex.toList := by
      rw [withoutSeparators, List.filter_eq_self]
      intro char hchar
      rw [decide_eq_true_eq]
      rintro rfl
      exact hdigits hchar
    constructor
    · intro hvalue
      rwa [hsame] at hvalue
      intro hseparator
      exact hplain ⟨hex, _, hsplit, hseparator, hvalue, result.isLt⟩
    · intro hvalue
      rwa [hsame]
      intro hseparator
      exact absurd (isHexDigit_of_value hvalue _ hseparator) (by decide)

/-- The numbers are read as meant, except for texts with a sign or a separator. -/
theorem parseHex_reads_numbers_iff (crates : JsonCrates) (hcrates : crates.IgnoresSeparators)
    (text : String) :
    (ReadsNumbers parseHexU64 UInt64.toNat text ↔ ¬ HasSign 64 text) ∧
    (ReadsNumbers parseHexU128 BitVec.toNat text ↔ ¬ HasSign 128 text) ∧
    (ReadsNumbers (parseHexU256 crates) BitVec.toNat text ↔ ¬ HasSeparator text) := by
  refine ⟨?_, ?_, readsNumbers_iff_separator hcrates text⟩
  · exact readsNumbers_iff_sign (fun _ => UInt64.ofNat_toNat) (fun _ => UInt64.toNat_ofNat_of_lt')
      UInt64.toNat_lt text
  · exact readsNumbers_iff_sign (BitVec.ofNat_toNat 128) (fun _ => Nat.mod_eq_of_lt) BitVec.isLt
      text

/-- Reads wide numbers as documented. -/
def separatedCrates : JsonCrates where
  serdeError _ := "not read"
  parseU256 hex := match Radix.digitsValue 16 0 (withoutSeparators hex.toList) with
    | some value =>
        if value < 2 ^ 256 then .ok (BitVec.ofNat 256 value)
        else .error "number too large to fit in target type"
    | none => .error "invalid digit"
  addressError _ := "not read"

theorem ignoresSeparators_separatedCrates : separatedCrates.IgnoresSeparators := by
  intro hex result
  simp only [separatedCrates]
  cases Radix.digitsValue 16 0 (withoutSeparators hex.toList) with
  | none => exact iff_of_false nofun nofun
  | some value =>
      dsimp only
      rw [Option.some.injEq]
      split_ifs with hfits
      · rw [Except.ok.injEq]
        constructor
        · rintro rfl
          exact (Nat.mod_eq_of_lt hfits).symm
        · rintro rfl
          exact BitVec.ofNat_toNat 256 result
      · refine iff_of_false nofun ?_
        rintro rfl
        exact hfits result.isLt

/-- A nonce is read by each of the parsers. -/
theorem parseHex_reads_numbers_iff_nonce :
    parseHexU64 "0x2A" = .ok 42 ∧ ReadsNumbers parseHexU64 UInt64.toNat "0x2A" ∧
      ReadsNumbers (parseHexU256 separatedCrates) BitVec.toNat "0x2A" := by
  obtain ⟨hnarrow, -, hwide⟩ := parseHex_reads_numbers_iff separatedCrates
    ignoresSeparators_separatedCrates "0x2A"
  have hsplit : Hex.splitHexMarker "0x2A" = some "2A" := by decide +kernel
  refine ⟨by decide +kernel, hnarrow.2 ?_, hwide.2 ?_⟩
  · rintro ⟨hex, digits, -, hhex, hsign, -⟩
    rw [hsplit, Option.some.injEq] at hhex
    subst hhex
    cases hsign
  · rintro ⟨hex, -, hhex, hseparator, -⟩
    rw [hsplit, Option.some.injEq] at hhex
    subst hhex
    exact absurd hseparator (by decide)

/-- Texts with a sign and without any digit are accepted as numbers. -/
theorem signed_text_read_as_number :
    parseHexU64 "0x+1" = .ok 1 ∧ parseHexU128 "0x+1" = .ok 1 ∧
      parseHexU256 separatedCrates "0x_" = .ok 0 ∧
      ¬ IsHexNumber "0x+1" 1 ∧ ¬ IsHexNumber "0x_" 0 := by
  refine ⟨by decide +kernel, by decide +kernel, by decide +kernel, ?_, ?_⟩
  · intro hnumber
    obtain ⟨hex, hsplit, -, hvalue⟩ := isHexNumber_iff_spells.1 hnumber
    rw [show Hex.splitHexMarker "0x+1" = some "+1" by decide +kernel, Option.some.injEq] at hsplit
    subst hsplit
    cases hvalue
  · intro hnumber
    obtain ⟨hex, hsplit, -, hvalue⟩ := isHexNumber_iff_spells.1 hnumber
    rw [show Hex.splitHexMarker "0x_" = some "_" by decide +kernel, Option.some.injEq] at hsplit
    subst hsplit
    cases hvalue

end VisualSignParser.Ethereum
