import VisualSignParser.Codec.Decimal
import VisualSignParser.Codec.Hex
import VisualSignParser.VisualSign.Errors
import VisualSignParser.VisualSign.Field

/-!
# Builders of annotated fields
-/

namespace VisualSignParser.VisualSign

open VisualSignParser.Framing

def annotateField (field : SignablePayloadField) : AnnotatedPayloadField := ⟨field, none, none⟩

def createTextField (label text : String) : AnnotatedPayloadField :=
  annotateField (.textV2 ⟨text, label⟩ ⟨text⟩)

theorem createTextField_inj {label other left right : String}
    (heq : createTextField label left = createTextField other right) : left = right := by
  simp only [createTextField, annotateField, AnnotatedPayloadField.mk.injEq,
    SignablePayloadField.textV2.injEq, SignablePayloadFieldTextV2.mk.injEq] at heq
  exact heq.1.2

/-- Digits up to the end, or up to a point with digits behind it. -/
def isUnsignedProperNumber (text : List Char) : Bool :=
  !(text.takeWhile Char.isDigit).isEmpty &&
    match text.dropWhile Char.isDigit with
    | [] => true
    | '.' :: fraction => !fraction.isEmpty && fraction.all Char.isDigit
    | _ => false

/-- `SIGNED_PROPER_NUMBER_RE`: an optional sign in front of a number. -/
def isSignedProperNumber (text : List Char) : Bool :=
  match text with
  | '-' :: rest => isUnsignedProperNumber rest
  | '+' :: rest => isUnsignedProperNumber rest
  | rest => isUnsignedProperNumber rest

def validateNumberString (number : String) : Except VisualSignError Unit :=
  if number.toList.isEmpty then .error (.emptyField number)
  else if isSignedProperNumber number.toList then .ok ()
  else .error (.invalidNumberField number)

def createAmountField (label amount abbreviation : String) :
    Except VisualSignError AnnotatedPayloadField := do
  validateNumberString amount
  if abbreviation.toList.isEmpty then .error (.emptyField abbreviation)
  else pure (annotateField (.amountV2 ⟨amount ++ " " ++ abbreviation, label⟩
    ⟨amount, some abbreviation⟩))

/-- Digits, and possibly a point with digits behind it. -/
theorem isUnsignedProperNumber_append {whole fraction : List Char} (hwhole : whole ≠ [])
    (hdigits : ∀ char ∈ whole, char.isDigit = true)
    (hfraction : fraction = [] ∨ ∃ digits, fraction = '.' :: digits ∧ digits ≠ [] ∧
      ∀ char ∈ digits, char.isDigit = true) :
    isUnsignedProperNumber (whole ++ fraction) = true := by
  have hhead : (fraction.takeWhile Char.isDigit) = [] ∧
      fraction.dropWhile Char.isDigit = fraction := by
    rcases hfraction with rfl | ⟨digits, rfl, -, -⟩ <;> exact ⟨rfl, rfl⟩
  rw [isUnsignedProperNumber, List.takeWhile_append_of_pos hdigits,
    List.dropWhile_append_of_pos hdigits, hhead.1, hhead.2, List.append_nil]
  rcases hfraction with rfl | ⟨digits, rfl, hnonempty, hall⟩
  · simpa using hwhole
  · simpa [hwhole, hnonempty] using hall

theorem isUnsignedProperNumber_trimmedText (amount decimals : ℕ) :
    isUnsignedProperNumber (Decimal.trimmedText amount decimals).toList = true := by
  have hdigit : ∀ (value : ℕ), ∀ char ∈ Nat.toDigits 10 value, char.isDigit = true := by
    intro value char hchar
    exact Nat.isDigit_of_mem_toDigits (by omega) le_rfl hchar
  have hwhole : Nat.toDigits 10 (amount / 10 ^ decimals) ≠ [] :=
    List.ne_nil_of_length_pos Nat.length_toDigits_pos
  by_cases hfraction : amount % 10 ^ decimals = 0
  · rw [Decimal.trimmedText, if_pos hfraction, Decimal.toList_toString,
      ← List.append_nil (Nat.toDigits _ _)]
    exact isUnsignedProperNumber_append hwhole (hdigit _) (.inl rfl)
  · rw [Decimal.toList_trimmedText_of_fraction hfraction]
    apply isUnsignedProperNumber_append hwhole (hdigit _)
    refine .inr ⟨_, rfl, Decimal.trimZeros_padded_ne_nil hfraction, ?_⟩
    intro char hchar
    exact Decimal.isDigit_of_mem_padded (Decimal.mem_of_mem_trimZeros hchar)

/-- Every amount can be shown. -/
theorem validateNumberString_trimmedText (amount decimals : ℕ) :
    validateNumberString (Decimal.trimmedText amount decimals) = .ok () := by
  have hproper := isUnsignedProperNumber_trimmedText amount decimals
  rw [validateNumberString]
  generalize (Decimal.trimmedText amount decimals).toList = text at hproper
  cases text with
  | nil => cases hproper
  | cons first rest =>
      have hsigned : isSignedProperNumber (first :: rest) = true := by
        unfold isSignedProperNumber
        split
        · next heq =>
            rw [heq] at hproper
            cases hproper
        · next heq =>
            rw [heq] at hproper
            cases hproper
        · exact hproper
      rw [hsigned]
      rfl

/-- Every number can be shown. -/
theorem validateNumberString_toString (value : ℕ) :
    validateNumberString (toString value) = .ok () := by
  have htext : Decimal.trimmedText value 0 = toString value := by
    simp [Decimal.trimmedText, Nat.mod_one]
  rw [← htext]
  exact validateNumberString_trimmedText value 0

/-- The field of a number with a symbol. -/
theorem createAmountField_eq (label : String) {amount abbreviation : String}
    (hamount : validateNumberString amount = .ok ()) (habbreviation : abbreviation ≠ "") :
    createAmountField label amount abbreviation =
      .ok (annotateField (.amountV2 ⟨amount ++ " " ++ abbreviation, label⟩
        ⟨amount, some abbreviation⟩)) := by
  have hnonempty : abbreviation.toList.isEmpty = false := by
    simpa using habbreviation
  rw [createAmountField, hamount, hnonempty]
  rfl

def createNumberField (label number unit : String) :
    Except VisualSignError AnnotatedPayloadField := do
  validateNumberString number
  pure (annotateField (.number ⟨if unit.toList.isEmpty then number else number ++ " " ++ unit, label⟩
    ⟨number⟩))

def createAddressField (label address : String) (name memo assetLabel badgeText : Option String) :
    AnnotatedPayloadField :=
  annotateField (.addressV2 ⟨address, label⟩
    ⟨address, name.getD "", memo, assetLabel.getD "", badgeText⟩)

def createRawDataField (data : Bytes) (optionalFallbackString : Option String) :
    AnnotatedPayloadField :=
  createTextField "Raw Data" (optionalFallbackString.getD (Hex.encode data))

end VisualSignParser.VisualSign
