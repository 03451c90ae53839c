import VisualSignParser.Json.Parser
import VisualSignParser.VisualSign.Shape

/-!
# Key order on the signing path

`to_json` sorts every object; the signing path writes the payload as its
serializers emit it.  The two texts agree exactly when the emitted keys already
ascend at every depth.  Under the sorted backing they always do.  Under the
insertion-ordered backing two derived records can break the order: an address
with a name, memo or label that an alphabetically earlier key follows, and an
amount with an abbreviation.
-/

namespace VisualSignParser.VisualSign

open VisualSignParser.Json
open VisualSignParser.OrderedMap

/-! ## Both texts as documents -/

theorem sortJsonAlphabetically_eq_canon (backing : Backing) (value : Value) :
    sortJsonAlphabetically backing value = value.canon := by
  have hitems (items : List Value)
      (hall : ∀ item ∈ items, sortJsonAlphabetically backing item = item.canon) :
      sortItemsAlphabetically backing items = items.map Value.canon := by
    induction items with
    | nil => rfl
    | cons item items ih =>
        rw [sortItemsAlphabetically, hall item (List.mem_cons_self ..),
          ih fun other hmem => hall other (List.mem_cons_of_mem _ hmem), List.map_cons]
  have hmembers (members : List (String × Value))
      (hall : ∀ entry ∈ members, sortJsonAlphabetically backing entry.2 = entry.2.canon) :
      sortMembersAlphabetically backing members =
        members.map fun entry => (entry.1, entry.2.canon) := by
    induction members with
    | nil => rfl
    | cons entry members ih =>
        rw [sortMembersAlphabetically, hall entry (List.mem_cons_self ..),
          ih fun other hmem => hall other (List.mem_cons_of_mem _ hmem), List.map_cons]
  induction value using Value.induction with
  | null => rfl
  | bool flag => rfl
  | number number => rfl
  | string text => rfl
  | array items ih => rw [sortJsonAlphabetically, hitems items ih, Value.canon, rebuild_array]
  | object members ih =>
      rw [sortJsonAlphabetically, hmembers members ih, Value.canon, rebuild_object]
      -- What a tree map hands over is ascending, so collecting it again keeps it.
      exact congrArg Value.object (backing.collect_of_ascending (ascending_collectSorted _))

theorem toJson_eq_ok (backing : Backing) (payload : SignablePayload) :
    payload.toJson backing =
      .ok (String.ofList (payload.document backing).canon.render) := by
  rw [SignablePayload.toJson, serialize_payload_eq_ok]
  change Except.ok (String.ofList (sortJsonAlphabetically backing
    ((payload.document backing).rebuild backing)).render) = _
  rw [sortJsonAlphabetically_eq_canon, canon_rebuild backing (distinct_document payload backing)]

theorem toSerdeString_eq_ok (backing : Backing) (payload : SignablePayload) :
    payload.toSerdeString backing = .ok (String.ofList (payload.document backing).render) := by
  rw [SignablePayload.toSerdeString, serialize_payload_eq_ok]
  rfl

theorem toSerdeString_eq_toJson_iff (backing : Backing) (payload : SignablePayload) :
    payload.toSerdeString backing = payload.toJson backing ↔
      (payload.document backing).Ordered := by
  rw [toJson_eq_ok, toSerdeString_eq_ok, ← canon_eq_self_iff (distinct_document payload backing)]
  constructor
  · intro heq
    exact (render_injective (String.ofList_injective (Except.ok.inj heq))).symm
  · intro heq
    rw [heq]

/-! ## When the emitted keys ascend -/

theorem ordered_serializeToMap_iff (backing : Backing) (field : SignablePayloadField) :
    (Value.object (field.serializeToMap backing)).Ordered ↔
      ((field.content backing).rebuild backing).Ordered := by
  rw [serializeToMap_eq, ordered_collectSorted (distinctKeys_entries backing field)]
  simp [SignablePayloadField.entries, Value.Ordered]

/-- Under the sorted backing every content is sorted when it becomes a value. -/
theorem ordered_serializeToMap_sorted (field : SignablePayloadField) :
    (Value.object (field.serializeToMap .sorted)).Ordered :=
  (ordered_serializeToMap_iff .sorted field).2 (ordered_canon (distinct_content .sorted field))

theorem ordered_annotated_insertion (annotated : AnnotatedPayloadField) :
    (annotated.serialize .insertion).Ordered ↔
      (annotated.signablePayloadField.content .insertion).Ordered := by
  rw [annotated_serialize_eq, ordered_collectSorted (distinctKeys_annotated .insertion annotated),
    AnnotatedPayloadField.entries, List.forall_mem_append, List.forall_mem_append,
    and_iff_left]
  · simp [SignablePayloadField.entries, Value.Ordered,
      rebuild_insertion (distinct_content .insertion annotated.signablePayloadField)]
  · constructor
    · intro entry hentry
      obtain ⟨note, -, rfl⟩ := mem_optionalEntry hentry
      rw [rebuild_of_ordered _ (ordered_staticNote note)]
      exact ordered_staticNote note
    · intro entry hentry
      obtain ⟨note, -, rfl⟩ := mem_optionalEntry hentry
      rw [rebuild_of_ordered _ (ordered_dynamicNote note)]
      exact ordered_dynamicNote note

theorem ordered_fieldList_insertion (fields : List AnnotatedPayloadField) :
    (Value.object [("Fields", .array (fields.map
        (AnnotatedPayloadField.serialize .insertion)))]).Ordered ↔
      ∀ annotated ∈ fields, (annotated.signablePayloadField.content .insertion).Ordered := by
  have hsingle (value : Value) : Ascending [("Fields", value)] := List.pairwise_singleton ..
  rw [ordered_object, List.forall_mem_singleton, ordered_array, List.forall_mem_map,
    and_iff_right (hsingle _)]
  exact forall₂_congr fun annotated _ => ordered_annotated_insertion annotated

theorem ordered_content_insertion (field : SignablePayloadField) :
    (field.content .insertion).Ordered ↔ ∀ below ∈ field.allFields, below.KeysInOrder := by
  induction field using SignablePayloadField.induction with
  | record field hrecord =>
      rw [allFields_record hrecord, List.forall_mem_singleton, ordered_record .insertion hrecord]
  | previewLayout common layout hcondensed hexpanded =>
      have hlist (fields : Option SignablePayloadFieldListLayout)
          (ih : ∀ annotated ∈ listedFields fields,
            (annotated.signablePayloadField.content .insertion).Ordered ↔
              ∀ below ∈ annotated.signablePayloadField.allFields, below.KeysInOrder) :
          ((serializeOrEmpty .insertion fields).rebuild .insertion).Ordered ↔
            ∀ annotated ∈ listedFields fields,
              ∀ below ∈ annotated.signablePayloadField.allFields, below.KeysInOrder := by
        rw [serializeOrEmpty_eq, rebuild_insertion (distinct_fieldList .insertion
          fun annotated _ => distinct_content .insertion annotated.signablePayloadField),
          ordered_fieldList_insertion]
        exact forall₂_congr ih
      have htexts : (∀ entry ∈ optionalEntry .insertion "Subtitle"
            SignablePayloadFieldTextV2.serialize layout.subtitle, entry.2.Ordered) ∧
          ∀ entry ∈ optionalEntry .insertion "Title" SignablePayloadFieldTextV2.serialize
            layout.title, entry.2.Ordered := by
        constructor <;>
        · intro entry hentry
          obtain ⟨text, -, rfl⟩ := mem_optionalEntry hentry
          rw [rebuild_of_ordered _ (ordered_textV2 text)]
          exact ordered_textV2 text
      rw [forall_allFields_previewLayout, SignablePayloadField.content,
        previewLayout_serialize_eq,
        ordered_collectSorted (distinctKeys_previewLayout .insertion layout),
        SignablePayloadFieldPreviewLayout.entries, List.forall_mem_append,
        List.forall_mem_append, List.forall_mem_cons, List.forall_mem_singleton,
        hlist _ hcondensed, hlist _ hexpanded]
      exact ⟨fun hall => ⟨trivial, hall.1.1⟩, fun hall => ⟨⟨hall.2, htexts.1⟩, htexts.2⟩⟩
  | listLayout common layout hfields =>
      rw [forall_allFields_listLayout, SignablePayloadField.content, listLayout_serialize_eq,
        ordered_fieldList_insertion, and_iff_right (show
          (SignablePayloadField.listLayout common layout).KeysInOrder from trivial)]
      exact forall₂_congr hfields

theorem ordered_document_iff (payload : SignablePayload) (backing : Backing) :
    (payload.document backing).Ordered ↔
      backing = .sorted ∨ ∀ field ∈ payload.allFields, field.KeysInOrder := by
  rw [ordered_document]
  cases backing with
  | sorted => exact iff_of_true (fun field _ => ordered_serializeToMap_sorted field) (.inl rfl)
  | insertion =>
      rw [or_iff_right (show ¬Backing.insertion = .sorted by decide), SignablePayload.allFields,
        List.forall_mem_flatMap]
      apply forall₂_congr
      intro field _
      rw [ordered_serializeToMap_iff, rebuild_insertion (distinct_content .insertion field),
        ordered_content_insertion]

/-- The text the signing path writes is the canonical one, and the text of a
document whose keys ascend at every depth, exactly when the object map sorts or
no record at any depth emits a key out of order. -/
theorem toSerdeString_canonical_iff (payload : SignablePayload) (backing : Backing) :
    (payload.toSerdeString backing = payload.toJson backing ↔
      backing = .sorted ∨ ∀ field ∈ payload.allFields, field.KeysInOrder) ∧
    ((∃ document : Value, payload.toSerdeString backing =
        .ok (String.ofList document.render) ∧ document.Ordered) ↔
      backing = .sorted ∨ ∀ field ∈ payload.allFields, field.KeysInOrder) := by
  rw [toSerdeString_eq_toJson_iff, ← ordered_document_iff payload backing]
  apply And.intro Iff.rfl
  constructor
  · rintro ⟨document, htext, hordered⟩
    rw [toSerdeString_eq_ok] at htext
    rw [render_injective (String.ofList_injective (Except.ok.inj htext))]
    exact hordered
  · intro hordered
    exact ⟨_, toSerdeString_eq_ok backing payload, hordered⟩

/-- An address with a name and an asset label, as the address field builder
produces it. -/
def namedAddressPayload : SignablePayload where
  fields := [.addressV2 ⟨"0xabc", "To"⟩ ⟨"0xabc", "Vault", none, "USDC", none⟩]
  payloadType := "EthereumTx"
  subtitle := none
  title := "Transfer"
  version := "0"

theorem namedAddressPayload_not_canonical :
    namedAddressPayload.toSerdeString .insertion ≠ namedAddressPayload.toJson .insertion := by
  intro heq
  rw [toSerdeString_eq_toJson_iff, ordered_document_iff] at heq
  exact absurd heq (by decide)

end VisualSignParser.VisualSign
