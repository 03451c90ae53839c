import VisualSignParser.VisualSign.Serialize

/-!
# The shape of a serialized payload

Every field variant emits the same four entries, with its own tag, content key
and content.  Written that way, a fact about all fields is a fact about the
contents: the records one by one, and the two layouts by induction.
-/

namespace VisualSignParser.VisualSign

open VisualSignParser.Json
open VisualSignParser.OrderedMap

/-! ## Four entries -/

def SignablePayloadField.common : SignablePayloadField → SignablePayloadFieldCommon
  | .text common _ => common
  | .textV2 common _ => common
  | .address common _ => common
  | .addressV2 common _ => common
  | .number common _ => common
  | .amount common _ => common
  | .amountV2 common _ => common
  | .divider common _ => common
  | .previewLayout common _ => common
  | .listLayout common _ => common
  | .unknown common _ => common
  | .diagnostic common _ => common

/-- The tag written under `Type`. -/
def SignablePayloadField.variantName : SignablePayloadField → String
  | .text .. => "text"
  | .textV2 .. => "text_v2"
  | .address .. => "address"
  | .addressV2 .. => "address_v2"
  | .number .. => "amount_v2"
  | .amount .. => "amount"
  | .amountV2 .. => "amount_v2"
  | .divider .. => "divider"
  | .previewLayout .. => "preview_layout"
  | .listLayout .. => "list_layout"
  | .unknown .. => "unknown"
  | .diagnostic .. => "diagnostic"

/-- What the variant emits under its content key. -/
def SignablePayloadField.content (backing : Backing) : SignablePayloadField → Value
  | .text _ record => record.serialize
  | .textV2 _ record => record.serialize
  | .address _ record => record.serialize
  | .addressV2 _ record => record.serialize
  | .number common record => (record.asAmountV2 common).serialize
  | .amount _ record => record.serialize
  | .amountV2 _ record => record.serialize
  | .divider _ record => record.serialize
  | .previewLayout _ layout => layout.serialize backing
  | .listLayout _ layout => layout.serialize backing
  | .unknown _ record => record.serialize
  | .diagnostic _ record => record.serialize

/-- The entries of a field before they are sorted. -/
def SignablePayloadField.entries (backing : Backing) (field : SignablePayloadField) :
    List (String × Value) :=
  [("FallbackText", .string field.common.fallbackText), ("Label", .string field.common.label),
    ("Type", .string field.variantName), (field.contentKey, (field.content backing).rebuild backing)]

theorem serializeToMap_eq (backing : Backing) (field : SignablePayloadField) :
    field.serializeToMap backing = collectSorted (field.entries backing) := by
  cases field <;> rfl

/-- A content key is none of the keys around it. -/
theorem contentKey_ne (field : SignablePayloadField) :
    field.contentKey ≠ "FallbackText" ∧ field.contentKey ≠ "Label" ∧
      field.contentKey ≠ "Type" ∧ field.contentKey ≠ "StaticAnnotation" ∧
      field.contentKey ≠ "DynamicAnnotation" := by
  cases field <;> simp [SignablePayloadField.contentKey]

/-- The entries of a field have distinct keys: the three that all fields share, and
the one of its kind. -/
theorem distinctKeys_entries (backing : Backing) (field : SignablePayloadField) :
    DistinctKeys (field.entries backing) := by
  obtain ⟨hfallback, hlabel, htype, -, -⟩ := contentKey_ne field
  simp [DistinctKeys, SignablePayloadField.entries, hfallback.symm, hlabel.symm, htype.symm]

/-- A field is written with exactly four keys, whatever its content, and one of them
depends on its kind. -/
theorem serializeToMap_keys (backing : Backing) (field : SignablePayloadField) :
    ((field.serializeToMap backing).map Prod.fst).Perm
      ["FallbackText", "Label", "Type", field.contentKey] := by
  rw [serializeToMap_eq]
  exact (collectSorted_perm (distinctKeys_entries backing field)).map Prod.fst

/-- The key check of a field's serializer always passes. -/
theorem serialize_eq_ok (backing : Backing) (field : SignablePayloadField) :
    field.serialize backing = .ok (.object (field.serializeToMap backing)) := by
  have hkeys := serializeToMap_keys backing field
  have hexpected : field.getExpectedFields.Perm
      ["FallbackText", "Label", "Type", field.contentKey] := List.perm_insertionSort _ _
  have hmem (key : String) : key ∈ field.getExpectedFields ↔
      key ∈ (field.serializeToMap backing).map Prod.fst :=
    hexpected.mem_iff.trans hkeys.mem_iff.symm
  have hmissing : field.getExpectedFields.find? (fun expected => decide
      (expected ∉ (field.serializeToMap backing).map Prod.fst)) = none :=
    List.find?_eq_none.2 fun key hkey => by simpa using (hmem key).1 hkey
  have hunexpected : ((field.serializeToMap backing).map Prod.fst).find?
      (fun actual => decide (actual ∉ field.getExpectedFields)) = none :=
    List.find?_eq_none.2 fun key hkey => by simpa using (hmem key).2 hkey
  simp only [SignablePayloadField.serialize, hmissing, hunexpected]

/-- The entries a payload emits. -/
def SignablePayload.entries (backing : Backing) (payload : SignablePayload) :
    List (String × Value) :=
  ("Fields", .array (payload.fields.map fun field => .object (field.serializeToMap backing))) ::
    (skipIfEmpty "PayloadType" payload.payloadType ++ skipIfNone "Subtitle" payload.subtitle ++
      [("Title", .string payload.title), ("Version", .string payload.version)])

/-- The document a payload serializes to. -/
def SignablePayload.document (backing : Backing) (payload : SignablePayload) : Value :=
  .object (payload.entries backing)

/-- Writing a payload never fails, and gives the document whatever map the writer is
backed by. -/
theorem serialize_payload_eq_ok (backing : Backing) (payload : SignablePayload) :
    payload.serialize backing = .ok (payload.document backing) := by
  have hfields : payload.fields.mapM (SignablePayloadField.serialize backing) =
      Except.ok (payload.fields.map fun field => Value.object (field.serializeToMap backing)) := by
    induction payload.fields with
    | nil => rfl
    | cons field fields ih => rw [List.mapM_cons, serialize_eq_ok, ih]; rfl
  rw [SignablePayload.serialize, hfields]
  rfl

/-! ## Annotated fields and layouts -/

/-- The entries of an annotated field before they are sorted. -/
def AnnotatedPayloadField.entries (backing : Backing) (annotated : AnnotatedPayloadField) :
    List (String × Value) :=
  annotated.signablePayloadField.entries backing ++
    (optionalEntry backing "StaticAnnotation" SignablePayloadFieldStaticAnnotation.serialize
      annotated.staticAnnotation ++
    optionalEntry backing "DynamicAnnotation" SignablePayloadFieldDynamicAnnotation.serialize
      annotated.dynamicAnnotation)

/-- The two annotations have keys of their own beside those of the field, so no key
occurs twice. -/
theorem distinctKeys_annotated (backing : Backing) (annotated : AnnotatedPayloadField) :
    DistinctKeys (annotated.entries backing) := by
  obtain ⟨field, staticAnnotation, dynamicAnnotation⟩ := annotated
  obtain ⟨hfallback, hlabel, htype, hstatic, hdynamic⟩ := contentKey_ne field
  cases staticAnnotation <;> cases dynamicAnnotation <;>
    simp [DistinctKeys, AnnotatedPayloadField.entries, SignablePayloadField.entries,
      optionalEntry, hfallback.symm, hlabel.symm, htype.symm, hstatic, hdynamic]

/-- An annotated field is one object, in which the entries of the field and those of
the annotations are sorted together. -/
theorem annotated_serialize_eq (backing : Backing) (annotated : AnnotatedPayloadField) :
    annotated.serialize backing = .object (collectSorted (annotated.entries backing)) := by
  have hdistinct := distinctKeys_annotated backing annotated
  obtain ⟨field, staticAnnotation, dynamicAnnotation⟩ := annotated
  rw [AnnotatedPayloadField.serialize, serializeToMap_eq, List.append_assoc,
    collectSorted_append hdistinct]
  rfl

theorem serializeAnnotated_eq (backing : Backing) (fields : List AnnotatedPayloadField) :
    serializeAnnotated backing fields = fields.map (AnnotatedPayloadField.serialize backing) := by
  induction fields with
  | nil => rfl
  | cons annotated fields ih => rw [serializeAnnotated, ih, List.map_cons]

theorem listLayout_serialize_eq (backing : Backing) (layout : SignablePayloadFieldListLayout) :
    layout.serialize backing =
      .object [("Fields", .array (layout.fields.map (AnnotatedPayloadField.serialize backing)))] := by
  cases layout
  rw [SignablePayloadFieldListLayout.serialize, serializeAnnotated_eq]

/-- A list that is absent is written like an empty one, as an object with an empty
array. -/
theorem serializeOrEmpty_eq (backing : Backing) (layout : Option SignablePayloadFieldListLayout) :
    serializeOrEmpty backing layout =
      .object [("Fields", .array ((listedFields layout).map
        (AnnotatedPayloadField.serialize backing)))] := by
  cases layout with
  | none => rfl
  | some layout => exact listLayout_serialize_eq backing layout

/-- The entries of a preview layout before they are sorted. -/
def SignablePayloadFieldPreviewLayout.entries (backing : Backing)
    (layout : SignablePayloadFieldPreviewLayout) : List (String × Value) :=
  [("Condensed", (serializeOrEmpty backing layout.condensed).rebuild backing),
    ("Expanded", (serializeOrEmpty backing layout.expanded).rebuild backing)] ++
    optionalEntry backing "Subtitle" SignablePayloadFieldTextV2.serialize layout.subtitle ++
    optionalEntry backing "Title" SignablePayloadFieldTextV2.serialize layout.title

theorem previewLayout_serialize_eq (backing : Backing)
    (layout : SignablePayloadFieldPreviewLayout) :
    layout.serialize backing = .object (collectSorted (layout.entries backing)) := by
  cases layout
  rfl

theorem distinctKeys_previewLayout (backing : Backing)
    (layout : SignablePayloadFieldPreviewLayout) : DistinctKeys (layout.entries backing) := by
  obtain ⟨title, subtitle, condensed, expanded⟩ := layout
  cases title <;> cases subtitle <;>
    simp [DistinctKeys, SignablePayloadFieldPreviewLayout.entries, optionalEntry]

/-! ## Key order -/

/-- An optional entry is there only for a value that is present, and holds the value
as it is written. -/
theorem mem_optionalEntry {A : Type} {backing : Backing} {key : String} {serialize : A → Value}
    {value : Option A} {entry : String × Value}
    (hentry : entry ∈ optionalEntry backing key serialize value) :
    ∃ present, value = some present ∧ entry = (key, (serialize present).rebuild backing) := by
  cases value with
  | none => simp [optionalEntry] at hentry
  | some value => exact ⟨value, rfl, by simpa [optionalEntry] using hentry⟩

/-- An object is ordered when its keys ascend and its values are ordered. -/
theorem ordered_of_keys {members : List (String × Value)} {keys : List String}
    (hkeys : members.map Prod.fst = keys) (hascending : keys.Pairwise (· < ·))
    (hvalues : ∀ entry ∈ members, entry.2.Ordered) : (Value.object members).Ordered := by
  rw [ordered_object, ascending_iff_keys, hkeys]
  exact ⟨hascending, hvalues⟩

theorem ordered_staticNote (note : SignablePayloadFieldStaticAnnotation) :
    note.serialize.Ordered :=
  ordered_of_keys rfl (List.pairwise_singleton ..) (by simp [Value.Ordered])

theorem ordered_textV2 (textV2 : SignablePayloadFieldTextV2) : textV2.serialize.Ordered :=
  ordered_of_keys rfl (List.pairwise_singleton ..) (by simp [Value.Ordered])

theorem ordered_dynamicNote (note : SignablePayloadFieldDynamicAnnotation) :
    note.serialize.Ordered := by
  have hparams : (Value.array (note.params.map .string)).Ordered := by
    rw [ordered_array]
    simp [Value.Ordered]
  exact ordered_of_keys rfl (show ["ID", "Params", "Type"].Pairwise (· < ·) by decide)
    (by simpa [Value.Ordered] using hparams)

/-- The content keys of an address in alphabetical order.  They are emitted in
the order `Address`, `Name`, `Memo`, `AssetLabel`, `BadgeText`. -/
def SignablePayloadFieldAddressV2.KeysInOrder (addressV2 : SignablePayloadFieldAddressV2) : Prop :=
  (addressV2.name = "" ∨
    addressV2.memo = none ∧ addressV2.assetLabel = "" ∧ addressV2.badgeText = none) ∧
  (addressV2.memo = none ∨ addressV2.assetLabel = "" ∧ addressV2.badgeText = none)

instance (addressV2 : SignablePayloadFieldAddressV2) : Decidable addressV2.KeysInOrder :=
  inferInstanceAs (Decidable (_ ∧ _))

/-- The keys of an address are written in the order of its struct, and those of
empty texts are left out. -/
theorem addressV2_keys (addressV2 : SignablePayloadFieldAddressV2) : ∃ members,
    addressV2.serialize = .object members ∧ (∀ entry ∈ members, entry.2.Ordered) ∧
    members.map Prod.fst = "Address" :: ((if addressV2.name = "" then [] else ["Name"]) ++
      (if addressV2.memo = none then [] else ["Memo"]) ++
      (if addressV2.assetLabel = "" then [] else ["AssetLabel"]) ++
      (if addressV2.badgeText = none then [] else ["BadgeText"])) := by
  obtain ⟨address, name, memo, assetLabel, badgeText⟩ := addressV2
  refine ⟨_, rfl, ?_, ?_⟩
  · by_cases hname : name = "" <;> by_cases hasset : assetLabel = "" <;> cases memo <;>
      cases badgeText <;> simp [skipIfEmpty, skipIfNone, hname, hasset, Value.Ordered]
  · by_cases hname : name = "" <;> by_cases hasset : assetLabel = "" <;> cases memo <;>
      cases badgeText <;> simp [skipIfEmpty, skipIfNone, hname, hasset]

/-- The keys of an address ascend exactly if the texts that would stand in front of
their turn are empty. -/
theorem ordered_addressV2 (addressV2 : SignablePayloadFieldAddressV2) :
    addressV2.serialize.Ordered ↔ addressV2.KeysInOrder := by
  obtain ⟨members, heq, hvalues, hkeys⟩ := addressV2_keys addressV2
  rw [heq, ordered_object, ascending_iff_keys, hkeys, and_iff_left hvalues,
    SignablePayloadFieldAddressV2.KeysInOrder]
  by_cases hname : addressV2.name = "" <;> by_cases hmemo : addressV2.memo = none <;>
    by_cases hasset : addressV2.assetLabel = "" <;>
    by_cases hbadge : addressV2.badgeText = none <;>
    simp only [hname, hmemo, hasset, hbadge, if_true, if_false] <;> decide

theorem distinct_addressV2 (addressV2 : SignablePayloadFieldAddressV2) :
    addressV2.serialize.Distinct := by
  obtain ⟨members, heq, hvalues, hkeys⟩ := addressV2_keys addressV2
  have hnodup : (members.map Prod.fst).Pairwise (· ≠ ·) := by
    rw [hkeys]
    by_cases hname : addressV2.name = "" <;> by_cases hmemo : addressV2.memo = none <;>
      by_cases hasset : addressV2.assetLabel = "" <;>
      by_cases hbadge : addressV2.badgeText = none <;>
      simp only [hname, hmemo, hasset, hbadge, if_true, if_false] <;> decide
  rw [heq, distinct_object]
  exact ⟨List.pairwise_map.1 hnodup, fun entry hentry => (hvalues entry hentry).distinct⟩

/-- The keys of an amount ascend exactly if there is no abbreviation, as it is
written behind the amount. -/
theorem ordered_amount (amount : SignablePayloadFieldAmount) :
    amount.serialize.Ordered ↔ amount.abbreviation = none := by
  obtain ⟨amount, abbreviation⟩ := amount
  rw [SignablePayloadFieldAmount.serialize, ordered_object, ascending_iff_keys]
  cases abbreviation with
  | none => simp [skipIfNone, Value.Ordered]
  | some abbreviation =>
      have hkeys : ¬["Amount", "Abbreviation"].Pairwise (· < ·) := by decide
      simpa only [skipIfNone, List.map_cons, List.map_nil, reduceCtorEq, iff_false] using
        fun hboth => hkeys hboth.1

theorem distinct_amount (amount : SignablePayloadFieldAmount) : amount.serialize.Distinct := by
  obtain ⟨amount, abbreviation⟩ := amount
  rw [SignablePayloadFieldAmount.serialize, distinct_object]
  cases abbreviation <;> simp [skipIfNone, DistinctKeys, Value.Distinct]

theorem ordered_amountV2 (amountV2 : SignablePayloadFieldAmountV2) :
    amountV2.serialize.Ordered := by
  obtain ⟨amount, abbreviation⟩ := amountV2
  apply (ordered_collectSorted _).2
  · cases abbreviation <;> simp [skipIfNone, Value.Ordered]
  · cases abbreviation <;> simp [skipIfNone, DistinctKeys]

theorem ordered_diagnostic (diagnostic : SignablePayloadFieldDiagnostic) :
    diagnostic.serialize.Ordered := by
  obtain ⟨rule, domain, level, message, instructionIndex⟩ := diagnostic
  cases instructionIndex with
  | none =>
      exact ordered_of_keys rfl
        (show ["Domain", "Level", "Message", "Rule"].Pairwise (· < ·) by decide)
        (by simp [Value.Ordered])
  | some index =>
      exact ordered_of_keys rfl
        (show ["Domain", "InstructionIndex", "Level", "Message", "Rule"].Pairwise (· < ·) by
          decide)
        (by simp [Value.Ordered])

/-- The keys of this field's own record are emitted in alphabetical order. -/
def SignablePayloadField.KeysInOrder : SignablePayloadField → Prop
  | .addressV2 _ record => record.KeysInOrder
  | .amount _ record => record.abbreviation = none
  | _ => True

instance : (field : SignablePayloadField) → Decidable field.KeysInOrder
  | .addressV2 _ record => inferInstanceAs (Decidable record.KeysInOrder)
  | .amount _ record => inferInstanceAs (Decidable (record.abbreviation = none))
  | .text .. => .isTrue trivial
  | .textV2 .. => .isTrue trivial
  | .address .. => .isTrue trivial
  | .number .. => .isTrue trivial
  | .amountV2 .. => .isTrue trivial
  | .divider .. => .isTrue trivial
  | .previewLayout .. => .isTrue trivial
  | .listLayout .. => .isTrue trivial
  | .unknown .. => .isTrue trivial
  | .diagnostic .. => .isTrue trivial

/-- The content of a field without lists has its keys in order exactly if the
condition of its kind holds. -/
theorem ordered_record (backing : Backing) {field : SignablePayloadField}
    (hrecord : field.IsRecord) : (field.content backing).Ordered ↔ field.KeysInOrder := by
  cases field with
  | text common record =>
      exact iff_of_true (ordered_of_keys rfl (List.pairwise_singleton ..)
        (by simp [Value.Ordered])) trivial
  | textV2 common record => exact iff_of_true (ordered_textV2 record) trivial
  | address common record =>
      exact iff_of_true (ordered_of_keys rfl
        (show ["Address", "Name"].Pairwise (· < ·) by decide) (by simp [Value.Ordered])) trivial
  | addressV2 common record => exact ordered_addressV2 record
  | number common record => exact iff_of_true (ordered_amountV2 _) trivial
  | amount common record => exact ordered_amount record
  | amountV2 common record => exact iff_of_true (ordered_amountV2 record) trivial
  | divider common record =>
      exact iff_of_true (ordered_of_keys rfl (List.pairwise_singleton ..)
        (by simp [Value.Ordered])) trivial
  | previewLayout common layout => exact hrecord.elim
  | listLayout common layout => exact hrecord.elim
  | unknown common record =>
      exact iff_of_true (ordered_of_keys rfl
        (show ["Data", "Explanation"].Pairwise (· < ·) by decide) (by simp [Value.Ordered])) trivial
  | diagnostic common record => exact iff_of_true (ordered_diagnostic record) trivial

theorem distinct_record (backing : Backing) {field : SignablePayloadField}
    (hrecord : field.IsRecord) : (field.content backing).Distinct := by
  by_cases hordered : field.KeysInOrder
  · exact ((ordered_record backing hrecord).2 hordered).distinct
  · cases field with
    | addressV2 common record => exact distinct_addressV2 record
    | amount common record => exact distinct_amount record
    | _ => exact absurd trivial hordered

/-! ## Documents without repeated keys -/

/-- No key occurs twice in an annotated field if none does in its content. -/
theorem distinct_annotated (backing : Backing) {annotated : AnnotatedPayloadField}
    (hcontent : (annotated.signablePayloadField.content backing).Distinct) :
    (annotated.serialize backing).Distinct := by
  rw [annotated_serialize_eq]
  apply distinct_collectSorted
  rw [distinct_object]
  apply And.intro (distinctKeys_annotated backing annotated)
  intro entry hentry
  rcases List.mem_append.1 hentry with hfield | hannotation
  · have hrebuilt := distinct_rebuild backing hcontent
    simp only [SignablePayloadField.entries, List.mem_cons, List.not_mem_nil, or_false] at hfield
    rcases hfield with rfl | rfl | rfl | rfl
    · trivial
    · trivial
    · trivial
    · exact hrebuilt
  · rcases List.mem_append.1 hannotation with hstatic | hdynamic
    · obtain ⟨note, -, rfl⟩ := mem_optionalEntry hstatic
      exact distinct_rebuild backing (ordered_staticNote note).distinct
    · obtain ⟨note, -, rfl⟩ := mem_optionalEntry hdynamic
      exact distinct_rebuild backing (ordered_dynamicNote note).distinct

/-- No key occurs twice in a list of fields if none does in the content of each
field. -/
theorem distinct_fieldList (backing : Backing) {fields : List AnnotatedPayloadField}
    (hfields : ∀ annotated ∈ fields,
      (annotated.signablePayloadField.content backing).Distinct) :
    (Value.object [("Fields",
      .array (fields.map (AnnotatedPayloadField.serialize backing)))]).Distinct := by
  have hitems : (Value.array
      (fields.map (AnnotatedPayloadField.serialize backing))).Distinct := by
    rw [distinct_array]
    intro item hitem
    obtain ⟨annotated, hannotated, rfl⟩ := List.mem_map.1 hitem
    exact distinct_annotated backing (hfields annotated hannotated)
  rw [distinct_object]
  exact ⟨List.pairwise_singleton .., by simpa using hitems⟩

/-- No key occurs twice in the content of a field, by induction on the field. -/
theorem distinct_content (backing : Backing) (field : SignablePayloadField) :
    (field.content backing).Distinct := by
  induction field using SignablePayloadField.induction with
  | record field hrecord => exact distinct_record backing hrecord
  | previewLayout common layout hcondensed hexpanded =>
      rw [SignablePayloadField.content, previewLayout_serialize_eq]
      apply distinct_collectSorted
      rw [distinct_object]
      apply And.intro (distinctKeys_previewLayout backing layout)
      intro entry hentry
      simp only [SignablePayloadFieldPreviewLayout.entries, List.cons_append, List.nil_append,
        List.mem_cons, List.mem_append] at hentry
      rcases hentry with rfl | rfl | hsubtitle | htitle
      · rw [serializeOrEmpty_eq]
        exact distinct_rebuild backing (distinct_fieldList backing hcondensed)
      · rw [serializeOrEmpty_eq]
        exact distinct_rebuild backing (distinct_fieldList backing hexpanded)
      · obtain ⟨text, -, rfl⟩ := mem_optionalEntry hsubtitle
        exact distinct_rebuild backing (ordered_textV2 text).distinct
      · obtain ⟨text, -, rfl⟩ := mem_optionalEntry htitle
        exact distinct_rebuild backing (ordered_textV2 text).distinct
  | listLayout common layout hfields =>
      rw [SignablePayloadField.content, listLayout_serialize_eq]
      exact distinct_fieldList backing hfields

theorem distinct_serializeToMap (backing : Backing) (field : SignablePayloadField) :
    (Value.object (field.serializeToMap backing)).Distinct := by
  have hrebuilt := distinct_rebuild backing (distinct_content backing field)
  rw [serializeToMap_eq]
  apply distinct_collectSorted
  rw [distinct_object]
  apply And.intro (distinctKeys_entries backing field)
  simp [SignablePayloadField.entries, Value.Distinct, hrebuilt]

/-- The keys of a payload's own object, in the order they are emitted. -/
theorem document_keys (payload : SignablePayload) (backing : Backing) : ∃ others,
    payload.document backing = .object (("Fields", .array (payload.fields.map fun field =>
      .object (field.serializeToMap backing))) :: others) ∧
    (∀ entry ∈ others, entry.2.Ordered) ∧
    others.map Prod.fst = (if payload.payloadType = "" then [] else ["PayloadType"]) ++
      (if payload.subtitle = none then [] else ["Subtitle"]) ++ ["Title", "Version"] := by
  obtain ⟨fields, payloadType, subtitle, title, version⟩ := payload
  refine ⟨_, rfl, ?_, ?_⟩
  · by_cases htype : payloadType = "" <;> cases subtitle <;>
      simp [skipIfEmpty, skipIfNone, htype, Value.Ordered]
  · by_cases htype : payloadType = "" <;> cases subtitle <;>
      simp [skipIfEmpty, skipIfNone, htype]

/-- A written payload has its keys in order exactly if each of its fields has; the
keys around the fields are sorted by the writer. -/
theorem ordered_document (payload : SignablePayload) (backing : Backing) :
    (payload.document backing).Ordered ↔
      ∀ field ∈ payload.fields, (Value.object (field.serializeToMap backing)).Ordered := by
  obtain ⟨others, heq, hvalues, hkeys⟩ := document_keys payload backing
  rw [heq, ordered_object, ascending_iff_keys, List.map_cons, hkeys, List.forall_mem_cons,
    ordered_array, List.forall_mem_map]
  have hascending : ("Fields" :: ((if payload.payloadType = "" then [] else ["PayloadType"]) ++
      (if payload.subtitle = none then [] else ["Subtitle"]) ++
      ["Title", "Version"])).Pairwise (· < ·) := by
    by_cases htype : payload.payloadType = "" <;> by_cases hsubtitle : payload.subtitle = none <;>
      simp only [htype, hsubtitle, if_true, if_false] <;> decide
  exact ⟨fun hall => hall.2.1, fun hfields => ⟨hascending, hfields, hvalues⟩⟩

/-- No key occurs twice in a written payload, so that a reader which refuses
repeated keys accepts every one. -/
theorem distinct_document (payload : SignablePayload) (backing : Backing) :
    (payload.document backing).Distinct := by
  obtain ⟨others, heq, hvalues, hkeys⟩ := document_keys payload backing
  have hnodup : ("Fields" :: others.map Prod.fst).Pairwise (· ≠ ·) := by
    rw [hkeys]
    by_cases htype : payload.payloadType = "" <;> by_cases hsubtitle : payload.subtitle = none <;>
      simp only [htype, hsubtitle, if_true, if_false] <;> decide
  rw [heq, distinct_object, List.forall_mem_cons, distinct_array, List.forall_mem_map]
  exact ⟨List.pairwise_map.1 hnodup, fun field _ => distinct_serializeToMap backing field,
    fun entry hentry => (hvalues entry hentry).distinct⟩

end VisualSignParser.VisualSign
