import VisualSignParser.Near.Actions
import VisualSignParser.Near.Render
import VisualSignParser.Solana.JupiterSwap
import VisualSignParser.Tron.Contracts

/-!
# Amounts are exact

Each chain has a formatter of its own for amounts in units.  Here they are computed
with numbers of the width that the source has, where a power that does not fit or a
division by zero would be a fault.
-/

namespace VisualSignParser

open VisualSignParser.VisualSign

/-- Every amount has a text, which denotes the value, has no superfluous digits and is
accepted for an amount field; different amounts have different texts. -/
structure ExactTexts {A : Type} (format : A → Option String) (value : A → ℚ) : Prop where
  exact : ∀ amount, ∃ text, format amount = some text ∧
    Decimal.textValue text = value amount ∧ Decimal.Trimmed text ∧
    validateNumberString text = .ok () ∧
    ∀ label abbreviation, abbreviation ≠ "" →
      ∃ field, createAmountField label text abbreviation = .ok field
  injective : Function.Injective format

/-- Texts of different values are different. -/
theorem ExactTexts.of_text {A : Type} {format : A → Option String} {text : A → String}
    {value : A → ℚ} (hformat : ∀ amount, format amount = some (text amount))
    (hvalue : ∀ amount, Decimal.textValue (text amount) = value amount)
    (htrimmed : ∀ amount, Decimal.Trimmed (text amount))
    (hvalid : ∀ amount, validateNumberString (text amount) = .ok ())
    (hinjective : Function.Injective value) : ExactTexts format value where
  exact amount := by
    refine ⟨text amount, hformat amount, hvalue amount, htrimmed amount, hvalid amount, ?_⟩
    intro label abbreviation habbreviation
    exact ⟨_, createAmountField_eq label (hvalid amount) habbreviation⟩
  injective left right heq := by
    rw [hformat, hformat] at heq
    apply hinjective
    rw [← hvalue, ← hvalue, Option.some.inj heq]

/-- The texts of a formatter that divides by a power of ten. -/
theorem ExactTexts.of_trimmedText {A : Type} {format : A → Option String} {toNat : A → ℕ}
    {decimals : ℕ} (hnat : Function.Injective toNat)
    (hformat : ∀ amount, format amount = some (Decimal.trimmedText (toNat amount) decimals)) :
    ExactTexts format fun amount => toNat amount / 10 ^ decimals := by
  apply ExactTexts.of_text hformat
  · exact fun amount => Decimal.textValue_trimmedText (toNat amount) decimals
  · exact fun amount => Decimal.trimmed_trimmedText (toNat amount) decimals
  · exact fun amount => validateNumberString_trimmedText (toNat amount) decimals
  · intro left right heq
    have hpow : (10 : ℚ) ^ decimals ≠ 0 := pow_ne_zero decimals (by norm_num)
    exact hnat (Nat.cast_injective ((div_left_inj' hpow).1 heq))

/-! ## NEAR -/

namespace Near

/-- `format_units` in the width of its numbers. -/
def formatUnitsChecked (units : BitVec 128) (decimals : UInt8) : Option String :=
  Decimal.checkedText 128 units.toNat decimals.toNat

def formatFixed (units : BitVec 128) (decimals : UInt32) : Option String :=
  Decimal.checkedText 128 units.toNat decimals.toNat

def formatNear (yocto : BitVec 128) : Option String := formatFixed yocto 24

/-- `format_tgas` in the width of its numbers. -/
def formatTgasChecked (gas : UInt64) : Option String := formatFixed (gas.toBitVec.setWidth 128) 12

theorem scale_lt {decimals : ℕ} (hdecimals : decimals ≤ 38) : 10 ^ decimals < 2 ^ 128 := by
  calc
    10 ^ decimals ≤ 10 ^ 38 := Nat.pow_le_pow_right (by omega) hdecimals
    _ < 2 ^ 128 := by norm_num

theorem formatUnitsChecked_eq {decimals : UInt8} (hdecimals : decimals ≤ maxDecimals)
    (units : BitVec 128) :
    formatUnitsChecked units decimals = some (formatUnits units.toNat decimals) :=
  Decimal.checkedText_eq (scale_lt hdecimals) units.toNat

theorem formatTgasChecked_eq (gas : UInt64) : formatTgasChecked gas = some (formatTgas gas) := by
  have hgas : (gas.toBitVec.setWidth 128).toNat = gas.toNat :=
    BitVec.toNat_setWidth_of_le (by omega)
  rw [formatTgasChecked, formatFixed, hgas]
  exact Decimal.checkedText_eq (scale_lt (by decide)) gas.toNat

end Near

/-! ## Solana -/

namespace Solana

/-- `format_token_amount` in the width of its numbers. -/
def formatTokenAmountChecked (amount : UInt64) (decimals : UInt8) : Option String :=
  match Decimal.checkedPow 64 10 decimals.toNat with
  | none => some (toString amount.toNat)
  | some divisor =>
      if divisor = 0 then some (toString amount.toNat)
      else do
        let whole ← Decimal.checkedDiv amount.toNat divisor
        let fractional ← Decimal.checkedRem amount.toNat divisor
        if fractional = 0 then return toString whole
        else
          let trimmed := Decimal.trimZeros (Decimal.padded decimals.toNat fractional)
          if trimmed.isEmpty then return toString whole
          else return toString whole ++ "." ++ String.ofList trimmed

theorem formatTokenAmountChecked_eq (amount : UInt64) (decimals : UInt8) :
    formatTokenAmountChecked amount decimals =
      some (formatTokenAmount amount.toNat decimals) := by
  rw [formatTokenAmountChecked, formatTokenAmount, Decimal.checkedPow]
  by_cases hscale : 10 ^ decimals.toNat < 2 ^ 64
  · have hpos : 10 ^ decimals.toNat ≠ 0 := (Nat.pow_pos (by omega)).ne'
    rw [if_pos hscale, if_pos hscale]
    dsimp only
    rw [if_neg hpos, Decimal.checkedDiv_pow, Option.bind_eq_bind, Option.bind_some,
      Decimal.checkedRem_pow, Option.bind_some, Decimal.trimmedText]
    by_cases hfraction : amount.toNat % 10 ^ decimals.toNat = 0
    · rw [if_pos hfraction, if_pos hfraction]
      rfl
    · have hnonempty : (Decimal.trimZeros (Decimal.padded decimals.toNat
          (amount.toNat % 10 ^ decimals.toNat))).isEmpty = false :=
        List.isEmpty_eq_false_iff.2 (Decimal.trimZeros_padded_ne_nil hfraction)
      rw [if_neg hfraction, if_neg hfraction, hnonempty]
      rfl
  · rw [if_neg hscale, if_neg hscale]

end Solana

/-! ## All formatters -/

theorem toNat_injective_bitVec (width : ℕ) :
    Function.Injective (BitVec.toNat : BitVec width → ℕ) := fun _ _ => BitVec.eq_of_toNat_eq

theorem toNat_injective_uInt64 : Function.Injective UInt64.toNat := fun _ _ => UInt64.toNat_inj.1

theorem exactTexts_formatNear :
    ExactTexts Near.formatNear fun yocto => yocto.toNat / 10 ^ 24 := by
  have hformat (yocto : BitVec 128) :
      Near.formatNear yocto = some (Decimal.trimmedText yocto.toNat 24) :=
    Decimal.checkedText_eq (Near.scale_lt (by decide)) yocto.toNat
  exact .of_trimmedText (toNat_injective_bitVec 128) hformat

theorem exactTexts_formatTokenAmount {decimals : UInt8} (hdecimals : decimals ≤ 19) :
    ExactTexts (fun amount => Solana.formatTokenAmountChecked amount decimals)
      fun amount => amount.toNat / 10 ^ decimals.toNat := by
  have hscale : 10 ^ decimals.toNat < 2 ^ 64 := by
    calc
      10 ^ decimals.toNat ≤ 10 ^ 19 := Nat.pow_le_pow_right (by omega) hdecimals
      _ < 2 ^ 64 := by norm_num
  apply ExactTexts.of_trimmedText toNat_injective_uInt64
  intro amount
  rw [Solana.formatTokenAmountChecked_eq, Solana.formatTokenAmount, if_pos hscale]

theorem exactTexts_sunToTrxString :
    ExactTexts (fun sun => some (Tron.sunToTrxString sun)) fun sun => sun.toInt / 10 ^ 6 := by
  apply ExactTexts.of_text fun sun => rfl
  · exact Tron.textValue_sunToTrxString
  · intro sun
    have htrimmed := Decimal.trimmed_trimmedText sun.toInt.natAbs 6
    rw [Tron.sunToTrxString_eq]
    split_ifs
    · exact htrimmed.minus
    · rwa [String.empty_append]
  · exact Tron.validateNumberString_sunToTrxString
  · intro left right heq
    have hpow : (10 : ℚ) ^ 6 ≠ 0 := by norm_num
    exact Int64.toInt_inj.1 (Int.cast_injective ((div_left_inj' hpow).1 heq))

/-- Every formatter is exact for every amount and every number of decimals it is called
with, and no step of it overflows or divides by zero. -/
theorem exact_amounts :
    (∀ decimals ≤ Near.maxDecimals, ExactTexts (fun units => Near.formatUnitsChecked units decimals)
      fun units => units.toNat / 10 ^ decimals.toNat) ∧
    ExactTexts Near.formatNear (fun yocto => yocto.toNat / 10 ^ 24) ∧
    ExactTexts Near.formatTgasChecked (fun gas => gas.toNat / 10 ^ 12) ∧
    (∀ decimals : UInt8, decimals ≤ 19 →
      ExactTexts (fun amount => Solana.formatTokenAmountChecked amount decimals)
        fun amount => amount.toNat / 10 ^ decimals.toNat) ∧
    ExactTexts (fun sun => some (Tron.sunToTrxString sun)) (fun sun => sun.toInt / 10 ^ 6) ∧
    ∀ sun, (Tron.signAndMagnitude sun).2.toNat = sun.toInt.natAbs := by
  refine ⟨?_, exactTexts_formatNear, ?_, ?_, exactTexts_sunToTrxString, ?_⟩
  · intro decimals hdecimals
    exact .of_trimmedText (toNat_injective_bitVec 128) fun units =>
      Near.formatUnitsChecked_eq hdecimals units
  · exact .of_trimmedText toNat_injective_uInt64 Near.formatTgasChecked_eq
  · exact fun decimals hdecimals => exactTexts_formatTokenAmount hdecimals
  · exact fun sun => (Tron.signAndMagnitude_eq sun).2

theorem exact_amounts_largest_scales :
    (38 : UInt8) ≤ Near.maxDecimals ∧ (19 : UInt8) ≤ 19 ∧
      (ExactTexts (fun units => Near.formatUnitsChecked units 38)
        fun units => units.toNat / 10 ^ (38 : UInt8).toNat) ∧
      ExactTexts (fun amount => Solana.formatTokenAmountChecked amount 19)
        fun amount => amount.toNat / 10 ^ (19 : UInt8).toNat := by
  obtain ⟨hnear, -, -, hsolana, -⟩ := exact_amounts
  exact ⟨by decide, by decide, hnear 38 (by decide), hsolana 19 (by decide)⟩

/-- The smallest amount of Tron. -/
example : Tron.sunToTrxString Int64.minValue = "-9223372036854.775808" := by decide +kernel

end VisualSignParser
