import VisualSignParser.Codec.Outcome
import VisualSignParser.VisualSign.FieldBuilders
import VisualSignParser.VisualSign.Shape

/-!
# Numbers on the wire

A number with a unit has no type of its own on the wire.  It is written as an
amount, and its unit is read back from the fallback text, behind the number.
-/

namespace VisualSignParser.VisualSign

open VisualSignParser.Json
open VisualSignParser.OrderedMap

/-! ## Amounts -/

/-- A field of the type `amount_v2`, with its amount and its abbreviation. -/
def IsAmountV2 (json : Value) (amount abbreviation : String) : Prop :=
  ∃ members content, json = .object members ∧
    lookup "Type" members = some (.string "amount_v2") ∧
    lookup "AmountV2" members = some (.object content) ∧
    lookup "Amount" content = some (.string amount) ∧
    lookup "Abbreviation" content = some (.string abbreviation)

/-- What a document of an amount says is all that it says. -/
theorem IsAmountV2.abbreviation_eq {json : Value} {amount other abbreviation unit : String}
    (hjson : IsAmountV2 json amount abbreviation) (hother : IsAmountV2 json other unit) :
    abbreviation = unit := by
  obtain ⟨members, content, hmembers, -, hcontent, -, habbreviation⟩ := hjson
  obtain ⟨others, otherContent, hothers, -, hotherContent, -, hunit⟩ := hother
  obtain rfl := Value.object.inj (hmembers.symm.trans hothers)
  obtain rfl := Value.object.inj (Option.some.inj (hcontent.symm.trans hotherContent))
  exact Value.string.inj (Option.some.inj (habbreviation.symm.trans hunit))

theorem lookup_amountV2 (amount abbreviation : String) : ∃ content,
    (SignablePayloadFieldAmountV2.mk amount (some abbreviation)).serialize = .object content ∧
      lookup "Amount" content = some (.string amount) ∧
      lookup "Abbreviation" content = some (.string abbreviation) := by
  refine ⟨_, rfl, ?_, ?_⟩
  · rw [lookup_collectSorted (by simp [DistinctKeys, skipIfNone])]
    rfl
  · rw [lookup_collectSorted (by simp [DistinctKeys, skipIfNone])]
    rfl

/-- A field that is written as an amount. -/
theorem isAmountV2_serialize (backing : Backing) {field : SignablePayloadField}
    {amount abbreviation : String} (htype : field.variantName = "amount_v2")
    (hkey : field.contentKey = "AmountV2")
    (hcontent : field.content backing =
      (SignablePayloadFieldAmountV2.mk amount (some abbreviation)).serialize) :
    IsAmountV2 ((annotateField field).serialize backing) amount abbreviation := by
  obtain ⟨content, hserialize, hamount, habbreviation⟩ := lookup_amountV2 amount abbreviation
  have hentries : (annotateField field).entries backing =
      [("FallbackText", .string field.common.fallbackText), ("Label", .string field.common.label),
        ("Type", .string "amount_v2"), ("AmountV2", .object content)] := by
    rw [← hserialize, ← rebuild_of_ordered backing (ordered_amountV2 _), ← hcontent, ← htype,
      ← hkey]
    rfl
  refine ⟨_, content, annotated_serialize_eq backing (annotateField field), ?_, ?_, hamount,
    habbreviation⟩
  · rw [lookup_collectSorted (distinctKeys_annotated backing _), hentries]
    rfl
  · rw [lookup_collectSorted (distinctKeys_annotated backing _), hentries]
    rfl

/-! ## Units -/

/-- What `create_number_field` writes behind the number. -/
def unitText (unit : String) : String := if unit.toList.isEmpty then "" else " " ++ unit

theorem fallbackText_eq (number unit : String) :
    (if unit.toList.isEmpty then number else number ++ " " ++ unit) = number ++ unitText unit := by
  unfold unitText
  split
  · rw [String.append_empty]
  · rw [String.append_assoc]

theorem trimStart_unitText (unit : String) :
    Text.trimStart (unitText unit) = Text.trimStart unit := by
  have hblank : Text.isWhitespace ' ' = true := by decide
  apply String.toList_inj.1
  rw [Text.toList_trimStart, Text.toList_trimStart, unitText]
  split
  · next hunit => rw [List.isEmpty_iff.1 hunit]; rfl
  · rw [String.toList_append]
    exact List.dropWhile_cons_of_pos hblank

/-- The unit that is read back lacks the white space at its start. -/
theorem asAmountV2_numberField (label number unit : String) :
    (SignablePayloadFieldNumber.mk number).asAmountV2
        ⟨if unit.toList.isEmpty then number else number ++ " " ++ unit, label⟩ =
      ⟨number, some (Text.trimStart unit)⟩ := by
  rw [fallbackText_eq, SignablePayloadFieldNumber.asAmountV2]
  simp only [Text.stripStart_append, trimStart_unitText]

theorem isAmountV2_createNumberField (backing : Backing) {label number unit : String}
    {annotated : AnnotatedPayloadField}
    (hfield : createNumberField label number unit = .ok annotated) :
    IsAmountV2 (annotated.serialize backing) number (Text.trimStart unit) := by
  obtain ⟨-, -, hannotated⟩ := Outcome.bind_eq_ok.1 hfield
  rw [← Outcome.pure_eq_ok.1 hannotated]
  apply isAmountV2_serialize backing rfl rfl
  rw [← asAmountV2_numberField label number unit]
  rfl

/-- An amount has its abbreviation as it was given. -/
theorem isAmountV2_createAmountField (backing : Backing) {label amount abbreviation : String}
    {annotated : AnnotatedPayloadField}
    (hfield : createAmountField label amount abbreviation = .ok annotated) :
    IsAmountV2 (annotated.serialize backing) amount abbreviation := by
  obtain ⟨-, -, hannotated⟩ := Outcome.bind_eq_ok.1 hfield
  split at hannotated
  · cases hannotated
  · rw [← Outcome.pure_eq_ok.1 hannotated]
    exact isAmountV2_serialize backing rfl rfl rfl

/-- A number field keeps its unit exactly if the unit does not start with white space. -/
theorem createNumberField_keeps_unit_iff (backing : Backing) (label unit : String)
    {number : String} (hnumber : validateNumberString number = .ok ()) :
    ∃ annotated, createNumberField label number unit = .ok annotated ∧
      (IsAmountV2 (annotated.serialize backing) number unit ↔
        ∀ first ∈ unit.toList.head?, Text.isWhitespace first = false) := by
  have hfield : ∃ annotated, createNumberField label number unit = .ok annotated := by
    rw [createNumberField, hnumber]
    exact ⟨_, rfl⟩
  obtain ⟨annotated, hannotated⟩ := hfield
  have htrimmed := isAmountV2_createNumberField backing hannotated
  refine ⟨annotated, hannotated, ?_⟩
  calc
    IsAmountV2 (annotated.serialize backing) number unit ↔ Text.trimStart unit = unit := by
      constructor
      · intro hunit
        exact htrimmed.abbreviation_eq hunit
      · intro hunit
        rwa [hunit] at htrimmed
    _ ↔ ∀ first ∈ unit.toList.head?, Text.isWhitespace first = false :=
      Text.trimStart_eq_self_iff

theorem createNumberField_keeps_bps :
    validateNumberString "50" = .ok () ∧
    ∃ annotated, createNumberField "Slippage" "50" "bps" = .ok annotated ∧
      (IsAmountV2 (annotated.serialize .sorted) "50" "bps" ↔
        ∀ first ∈ "bps".toList.head?, Text.isWhitespace first = false) :=
  ⟨by decide, createNumberField_keeps_unit_iff .sorted "Slippage" "bps" (by decide)⟩

/-- A unit behind another blank loses the blank. -/
theorem createNumberField_loses_blank :
    ∃ annotated, createNumberField "Slippage" "50" " bps" = .ok annotated ∧
      IsAmountV2 (annotated.serialize .sorted) "50" "bps" ∧
      ¬IsAmountV2 (annotated.serialize .sorted) "50" " bps" := by
  obtain ⟨annotated, hannotated⟩ :
      ∃ annotated, createNumberField "Slippage" "50" " bps" = .ok annotated := ⟨_, rfl⟩
  have htrimmed := isAmountV2_createNumberField .sorted hannotated
  have htrim : Text.trimStart " bps" = "bps" := by decide
  rw [htrim] at htrimmed
  refine ⟨annotated, hannotated, htrimmed, ?_⟩
  intro hunit
  exact absurd (htrimmed.abbreviation_eq hunit) (by decide)

end VisualSignParser.VisualSign
