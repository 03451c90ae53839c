import VisualSignParser.VisualSign.Shape

/-!
# The strings of a payload

Everything a payload carries as text, at any depth of its layouts, stands in
the document it serializes to, and that document has no other text than the
words of the format and the unit cut from a number's fallback text.
-/

namespace VisualSignParser.VisualSign

open VisualSignParser.Json
open VisualSignParser.OrderedMap

def SignablePayloadFieldCommon.strings (common : SignablePayloadFieldCommon) : List String :=
  [common.fallbackText, common.label]

mutual

def SignablePayloadField.strings : SignablePayloadField → List String
  | .text common record => common.strings ++ [record.text]
  | .textV2 common record => common.strings ++ [record.text]
  | .address common record => common.strings ++ [record.address, record.name]
  | .addressV2 common record =>
      common.strings ++ record.address :: record.name :: record.memo.toList ++
        record.assetLabel :: record.badgeText.toList
  | .number common record => common.strings ++ [record.number]
  | .amount common record => common.strings ++ record.amount :: record.abbreviation.toList
  | .amountV2 common record => common.strings ++ record.amount :: record.abbreviation.toList
  | .divider common record => common.strings ++ [record.style.style]
  | .previewLayout common layout => common.strings ++ layout.strings
  | .listLayout common layout => common.strings ++ layout.strings
  | .unknown common record => common.strings ++ [record.data, record.explanation]
  | .diagnostic common record =>
      common.strings ++ [record.rule, record.domain, record.level, record.message]

def SignablePayloadFieldPreviewLayout.strings : SignablePayloadFieldPreviewLayout → List String
  | ⟨title, subtitle, condensed, expanded⟩ =>
      (title.map (·.text)).toList ++ (subtitle.map (·.text)).toList ++
        optionalStrings condensed ++ optionalStrings expanded

def optionalStrings : Option SignablePayloadFieldListLayout → List String
  | none => []
  | some layout => layout.strings

def SignablePayloadFieldListLayout.strings : SignablePayloadFieldListLayout → List String
  | ⟨fields⟩ => annotatedStrings fields

def annotatedStrings : List AnnotatedPayloadField → List String
  | [] => []
  | annotated :: fields => annotated.strings ++ annotatedStrings fields

def AnnotatedPayloadField.strings : AnnotatedPayloadField → List String
  | ⟨field, staticAnnotation, dynamicAnnotation⟩ =>
      field.strings ++ ( staticAnnotation.map (·.text)).toList ++
        ( dynamicAnnotation.map fun note => note.fieldType :: note.id :: note.params).getD []

end

def SignablePayload.strings (payload : SignablePayload) : List String :=
  payload.fields.flatMap SignablePayloadField.strings ++
    payload.payloadType :: payload.subtitle.toList ++ [payload.title, payload.version]

theorem annotatedStrings_eq (fields : List AnnotatedPayloadField) :
    annotatedStrings fields = fields.flatMap AnnotatedPayloadField.strings := by
  induction fields with
  | nil => rfl
  | cons annotated fields ih => rw [annotatedStrings, ih, List.flatMap_cons]

theorem optionalStrings_eq (layout : Option SignablePayloadFieldListLayout) :
    optionalStrings layout = (listedFields layout).flatMap AnnotatedPayloadField.strings := by
  cases layout with
  | none => rfl
  | some layout =>
      cases layout
      rw [optionalStrings, SignablePayloadFieldListLayout.strings, annotatedStrings_eq]
      rfl

/-! ## Texts of the document -/

/-- A word of the format: a key, or a tag. -/
def isPlainWord (text : String) : Bool :=
  text.toList.all fun char => char.isAlphanum || char == '_'

section Texts

variable {P : String → Prop} (hplain : ∀ text, isPlainWord text = true → P text)
  (hpart : ∀ {text part : String}, P text → part.toList <:+: text.toList → P part)

include hplain

theorem forall_texts_skipIfEmpty {key text : String} (hkey : isPlainWord key = true) :
    (∀ entry ∈ skipIfEmpty key text, P entry.1 ∧ ∀ part ∈ entry.2.texts, P part) ↔ P text := by
  unfold skipIfEmpty
  split
  · rename_i hempty
    subst hempty
    exact iff_of_true (by simp) (hplain "" (by decide))
  · simp [Value.texts, hplain key hkey]

theorem forall_texts_skipIfNone {key : String} {optional : Option String}
    (hkey : isPlainWord key = true) :
    (∀ entry ∈ skipIfNone key optional, P entry.1 ∧ ∀ part ∈ entry.2.texts, P part) ↔
      ∀ text ∈ optional.toList, P text := by
  cases optional with
  | none => simp [skipIfNone]
  | some text => simp [skipIfNone, Value.texts, hplain key hkey]

theorem forall_texts_optionalEntry {A : Type} {backing : Backing} {key : String}
    {serialize : A → Value} {value : Option A} (hkey : isPlainWord key = true)
    (hdistinct : ∀ present, (serialize present).Distinct) :
    (∀ entry ∈ optionalEntry backing key serialize value,
        P entry.1 ∧ ∀ text ∈ entry.2.texts, P text) ↔
      ∀ present ∈ value, ∀ text ∈ (serialize present).texts, P text := by
  cases value with
  | none => simp [optionalEntry]
  | some present =>
      simp [optionalEntry, hplain key hkey, forall_texts_rebuild backing (hdistinct present)]

/-- The texts of a field are its common ones and those of its content. -/
theorem forall_texts_entries (backing : Backing) (field : SignablePayloadField) :
    (∀ text ∈ (Value.object (field.entries backing)).texts, P text) ↔
      P field.common.fallbackText ∧ P field.common.label ∧
        ∀ text ∈ (field.content backing).texts, P text := by
  have hkey : isPlainWord field.contentKey = true := by
    cases field <;> dsimp only [SignablePayloadField.contentKey] <;> decide
  have htag : isPlainWord field.variantName = true := by
    cases field <;> dsimp only [SignablePayloadField.variantName] <;> decide
  rw [forall_texts_object]
  simp (disch := decide) only [SignablePayloadField.entries, List.forall_mem_cons,
    forall_texts_string, List.not_mem_nil, false_implies, implies_true, hplain, hplain _ hkey,
    hplain _ htag, true_and, and_true,
    forall_texts_rebuild backing (distinct_content backing field)]

theorem forall_texts_textV2 (textV2 : SignablePayloadFieldTextV2) :
    (∀ text ∈ textV2.serialize.texts, P text) ↔ P textV2.text := by
  rw [SignablePayloadFieldTextV2.serialize, forall_texts_object, List.forall_mem_singleton,
    forall_texts_string]
  exact and_iff_right (hplain "Text" (by decide))

theorem forall_texts_note (note : SignablePayloadFieldStaticAnnotation) :
    (∀ text ∈ note.serialize.texts, P text) ↔ P note.text := by
  rw [ SignablePayloadFieldStaticAnnotation.serialize, forall_texts_object,
    List.forall_mem_singleton, forall_texts_string]
  exact and_iff_right (hplain "Text" (by decide))

theorem forall_texts_dynamicNote (note : SignablePayloadFieldDynamicAnnotation) :
    (∀ text ∈ note.serialize.texts, P text) ↔
      ∀ text ∈ note.fieldType :: note.id :: note.params, P text := by
  rw [ SignablePayloadFieldDynamicAnnotation.serialize, forall_texts_object]
  simp (disch := decide) only [List.forall_mem_cons, List.not_mem_nil, false_implies,
    implies_true, forall_texts_array, List.forall_mem_map, forall_texts_string, hplain, true_and,
    and_true]
  tauto

theorem forall_texts_amountV2 (amountV2 : SignablePayloadFieldAmountV2) :
    (∀ text ∈ amountV2.serialize.texts, P text) ↔
      ∀ text ∈ amountV2.amount :: amountV2.abbreviation.toList, P text := by
  have hkeys : DistinctKeys (("Amount", Value.string amountV2.amount) ::
      skipIfNone "Abbreviation" amountV2.abbreviation) := by
    cases amountV2.abbreviation <;> simp [skipIfNone, DistinctKeys]
  rw [SignablePayloadFieldAmountV2.serialize, forall_texts_collectSorted hkeys,
    forall_texts_object, List.forall_mem_cons, forall_texts_skipIfNone hplain (by decide),
    List.forall_mem_cons, forall_texts_string, and_iff_right (hplain "Amount" (by decide))]

theorem forall_texts_addressV2 (addressV2 : SignablePayloadFieldAddressV2) :
    (∀ text ∈ addressV2.serialize.texts, P text) ↔
      ∀ text ∈ addressV2.address :: addressV2.name :: addressV2.memo.toList ++
        addressV2.assetLabel :: addressV2.badgeText.toList, P text := by
  rw [SignablePayloadFieldAddressV2.serialize, forall_texts_object]
  simp (disch := decide) only [List.forall_mem_cons, List.forall_mem_append, List.cons_append,
    forall_texts_string, forall_texts_skipIfEmpty hplain, forall_texts_skipIfNone hplain, hplain,
    true_and]
  tauto

theorem forall_texts_diagnostic (diagnostic : SignablePayloadFieldDiagnostic) :
    (∀ text ∈ diagnostic.serialize.texts, P text) ↔
      ∀ text ∈ [diagnostic.rule, diagnostic.domain, diagnostic.level, diagnostic.message],
        P text := by
  obtain ⟨rule, domain, level, message, instructionIndex⟩ := diagnostic
  rw [SignablePayloadFieldDiagnostic.serialize, forall_texts_object]
  cases instructionIndex <;>
  · simp (disch := decide) only [List.forall_mem_cons, List.forall_mem_append, forall_texts_string,
      List.not_mem_nil, false_implies, implies_true, hplain, true_and, and_true]
    tauto

theorem forall_texts_annotated (backing : Backing) {annotated : AnnotatedPayloadField}
    (hfield : (∀ text ∈ (Value.object (annotated.signablePayloadField.entries backing)).texts,
      P text) ↔ ∀ text ∈ annotated.signablePayloadField.strings, P text) :
    (∀ text ∈ (annotated.serialize backing).texts, P text) ↔
      ∀ text ∈ annotated.strings, P text := by
  rw [annotated_serialize_eq, forall_texts_collectSorted (distinctKeys_annotated backing annotated),
    forall_texts_object, AnnotatedPayloadField.entries, List.forall_mem_append,
    List.forall_mem_append, ← forall_texts_object, hfield,
    forall_texts_optionalEntry hplain (by decide) fun note => (ordered_staticNote note).distinct,
    forall_texts_optionalEntry hplain (by decide) fun note => (ordered_dynamicNote note).distinct]
  obtain ⟨field, staticAnnotation, dynamicAnnotation⟩ := annotated
  simp only [AnnotatedPayloadField.strings, List.forall_mem_append, and_assoc]
  apply and_congr_right fun _ => and_congr ?_ ?_
  · cases staticAnnotation with
    | none => simp
    | some note => simpa using forall_texts_note hplain note
  · cases dynamicAnnotation with
    | none => simp
    | some note => simpa using forall_texts_dynamicNote hplain note

theorem forall_texts_fieldList (backing : Backing) {fields : List AnnotatedPayloadField}
    (hfields : ∀ annotated ∈ fields,
      (∀ text ∈ (Value.object (annotated.signablePayloadField.entries backing)).texts, P text) ↔
        ∀ text ∈ annotated.signablePayloadField.strings, P text) :
    (∀ text ∈ (Value.object [("Fields",
        .array (fields.map (AnnotatedPayloadField.serialize backing)))]).texts, P text) ↔
      ∀ text ∈ fields.flatMap AnnotatedPayloadField.strings, P text := by
  rw [forall_texts_object, List.forall_mem_singleton, forall_texts_array, List.forall_mem_map,
    and_iff_right (hplain "Fields" (by decide)), List.forall_mem_flatMap]
  exact forall₂_congr fun annotated hmem =>
    forall_texts_annotated hplain backing (hfields annotated hmem)

theorem forall_texts_optionalList (backing : Backing)
    {layout : Option SignablePayloadFieldListLayout}
    (hfields : ∀ annotated ∈ listedFields layout,
      (∀ text ∈ (Value.object (annotated.signablePayloadField.entries backing)).texts, P text) ↔
        ∀ text ∈ annotated.signablePayloadField.strings, P text) :
    (∀ text ∈ ((serializeOrEmpty backing layout).rebuild backing).texts, P text) ↔
      ∀ text ∈ optionalStrings layout, P text := by
  have hdistinct := distinct_fieldList backing
    fun annotated (_ : annotated ∈ listedFields layout) =>
      distinct_content backing annotated.signablePayloadField
  rw [serializeOrEmpty_eq, forall_texts_rebuild backing hdistinct,
    forall_texts_fieldList hplain backing hfields, optionalStrings_eq]

theorem forall_texts_optionalText (backing : Backing) {key : String}
    {optional : Option SignablePayloadFieldTextV2} (hkey : isPlainWord key = true) :
    (∀ entry ∈ optionalEntry backing key SignablePayloadFieldTextV2.serialize optional,
        P entry.1 ∧ ∀ text ∈ entry.2.texts, P text) ↔
      ∀ text ∈ (optional.map (·.text)).toList, P text := by
  rw [forall_texts_optionalEntry hplain hkey fun textV2 => (ordered_textV2 textV2).distinct]
  cases optional with
  | none => simp
  | some textV2 => simpa using forall_texts_textV2 hplain textV2

include hpart

/-- The unit of a number is a part of its fallback text. -/
theorem forall_texts_number (number : SignablePayloadFieldNumber)
    (common : SignablePayloadFieldCommon) (hfallback : P common.fallbackText) :
    (∀ text ∈ (number.asAmountV2 common).serialize.texts, P text) ↔ P number.number := by
  rw [forall_texts_amountV2 hplain, List.forall_mem_cons]
  apply and_iff_left
  intro abbreviation hunit
  rw [← Option.some.inj (Option.mem_toList.1 hunit)]
  cases hstrip : Text.stripStart number.number common.fallbackText with
  | none => exact hplain "" (by decide)
  | some rest =>
      apply hpart hfallback
      change (String.ofList _).toList <:+: _
      rw [String.toList_ofList, Text.toList_of_stripStart hstrip]
      exact (List.dropWhile_suffix _).isInfix.trans (List.suffix_append _ _).isInfix

theorem forall_texts_record (backing : Backing) {field : SignablePayloadField}
    (hrecord : field.IsRecord) :
    (∀ text ∈ (Value.object (field.entries backing)).texts, P text) ↔
      ∀ text ∈ field.strings, P text := by
  rw [forall_texts_entries hplain]
  cases field with
  | previewLayout common layout => exact hrecord.elim
  | listLayout common layout => exact hrecord.elim
  | number common record =>
      have hcontent := forall_texts_number hplain hpart record common
      simp only [SignablePayloadField.content, SignablePayloadField.common,
        SignablePayloadField.strings, SignablePayloadFieldCommon.strings, List.forall_mem_append,
        List.forall_mem_cons, List.not_mem_nil, false_implies, implies_true]
      tauto
  | _ =>
      simp (disch := decide) only [SignablePayloadField.content, SignablePayloadField.common,
        SignablePayloadField.strings, SignablePayloadFieldCommon.strings, List.forall_mem_append,
        List.forall_mem_cons, List.not_mem_nil, false_implies, implies_true,
        forall_texts_textV2 hplain,
        forall_texts_addressV2 hplain, forall_texts_amountV2 hplain,
        forall_texts_diagnostic hplain, SignablePayloadFieldText.serialize,
        SignablePayloadFieldAddress.serialize, SignablePayloadFieldAmount.serialize,
        SignablePayloadFieldDivider.serialize, SignablePayloadFieldUnknown.serialize,
        forall_texts_object, forall_texts_skipIfNone hplain, forall_texts_string, hplain,
        true_and, and_true,
        and_assoc, List.cons_append]

/-- What holds of the words of the format and of every part of a text it holds
of, holds of all texts a field is written with exactly when of its strings. -/
theorem forall_texts_field (backing : Backing) (field : SignablePayloadField) :
    (∀ text ∈ (Value.object (field.entries backing)).texts, P text) ↔
      ∀ text ∈ field.strings, P text := by
  induction field using SignablePayloadField.induction with
  | record field hrecord => exact forall_texts_record hplain hpart backing hrecord
  | previewLayout common layout hcondensed hexpanded =>
      rw [forall_texts_entries hplain, SignablePayloadField.content, previewLayout_serialize_eq,
        forall_texts_collectSorted (distinctKeys_previewLayout backing layout),
        forall_texts_object, SignablePayloadFieldPreviewLayout.entries, List.forall_mem_append,
        List.forall_mem_append, List.forall_mem_cons, List.forall_mem_singleton,
        forall_texts_optionalList hplain backing hcondensed,
        forall_texts_optionalList hplain backing hexpanded,
        forall_texts_optionalText hplain backing (by decide),
        forall_texts_optionalText hplain backing (by decide)]
      have hwords := And.intro (hplain "Condensed" (by decide)) (hplain "Expanded" (by decide))
      cases layout
      simp only [SignablePayloadField.strings, SignablePayloadFieldPreviewLayout.strings,
        SignablePayloadFieldCommon.strings, SignablePayloadField.common, List.forall_mem_append,
        List.forall_mem_cons]
      tauto
  | listLayout common layout hfields =>
      rw [forall_texts_entries hplain, SignablePayloadField.content, listLayout_serialize_eq,
        forall_texts_fieldList hplain backing hfields, SignablePayloadField.strings]
      cases layout
      rw [SignablePayloadFieldListLayout.strings, annotatedStrings_eq, List.forall_mem_append,
        SignablePayloadFieldCommon.strings, List.forall_mem_cons, List.forall_mem_singleton,
        and_assoc]
      rfl

theorem forall_texts_document (backing : Backing) (payload : SignablePayload) :
    (∀ text ∈ (payload.document backing).texts, P text) ↔ ∀ text ∈ payload.strings, P text := by
  have hfields (field : SignablePayloadField) :
      (∀ text ∈ (Value.object (field.serializeToMap backing)).texts, P text) ↔
        ∀ text ∈ field.strings, P text := by
    rw [serializeToMap_eq, forall_texts_collectSorted (distinctKeys_entries backing field)]
    exact forall_texts_field hplain hpart backing field
  rw [SignablePayload.document, forall_texts_object]
  simp (disch := decide) only [SignablePayload.entries, SignablePayload.strings,
    List.forall_mem_cons, List.forall_mem_append, forall_texts_array, List.forall_mem_map,
    List.forall_mem_flatMap, hfields, forall_texts_skipIfEmpty hplain,
    forall_texts_skipIfNone hplain, forall_texts_string, hplain, true_and]
  tauto

end Texts

end VisualSignParser.VisualSign
