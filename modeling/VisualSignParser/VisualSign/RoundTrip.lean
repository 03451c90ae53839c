import VisualSignParser.VisualSign.Deserialize
import VisualSignParser.VisualSign.KeyOrder

/-!
# The JSON round trip

Reading back what `to_json` writes gives the payload up to the wire
normalisation, except where the writer skips an empty string that the reader
requires, and where the text nests deeper than the JSON crate accepts.
-/

namespace VisualSignParser.VisualSign

open VisualSignParser.Json
open VisualSignParser.OrderedMap

/-! ## The wire normalisation -/

mutual

/-- What a field is expected to come back as: a number as the amount it is
rendered as, an absent list as an empty one. -/
def SignablePayloadField.normalize : SignablePayloadField → SignablePayloadField
  | .number common number => .amountV2 common (number.asAmountV2 common)
  | .previewLayout common layout => .previewLayout common layout.normalize
  | .listLayout common layout => .listLayout common layout.normalize
  | field => field

def SignablePayloadFieldPreviewLayout.normalize :
    SignablePayloadFieldPreviewLayout → SignablePayloadFieldPreviewLayout
  | ⟨title, subtitle, condensed, expanded⟩ =>
      ⟨title, subtitle, some (normalizeOptional condensed), some (normalizeOptional expanded)⟩

def normalizeOptional : Option SignablePayloadFieldListLayout → SignablePayloadFieldListLayout
  | none => ⟨[]⟩
  | some layout => layout.normalize

def SignablePayloadFieldListLayout.normalize :
    SignablePayloadFieldListLayout → SignablePayloadFieldListLayout
  | ⟨fields⟩ => ⟨normalizeAnnotated fields⟩

def normalizeAnnotated : List AnnotatedPayloadField → List AnnotatedPayloadField
  | [] => []
  | annotated :: fields => annotated.normalize :: normalizeAnnotated fields

def AnnotatedPayloadField.normalize : AnnotatedPayloadField → AnnotatedPayloadField
  | ⟨field, staticAnnotation, dynamicAnnotation⟩ =>
      ⟨field.normalize, staticAnnotation, dynamicAnnotation⟩

end

def SignablePayload.normalize (payload : SignablePayload) : SignablePayload :=
  { payload with fields := payload.fields.map SignablePayloadField.normalize }

theorem normalizeAnnotated_eq (fields : List AnnotatedPayloadField) :
    normalizeAnnotated fields = fields.map AnnotatedPayloadField.normalize := by
  induction fields with
  | nil => rfl
  | cons annotated fields ih => rw [normalizeAnnotated, ih, List.map_cons]

theorem normalize_listLayout (layout : SignablePayloadFieldListLayout) :
    layout.normalize = ⟨layout.fields.map AnnotatedPayloadField.normalize⟩ := by
  cases layout
  rw [SignablePayloadFieldListLayout.normalize, normalizeAnnotated_eq]

theorem normalizeOptional_eq (layout : Option SignablePayloadFieldListLayout) :
    normalizeOptional layout = ⟨(listedFields layout).map AnnotatedPayloadField.normalize⟩ := by
  cases layout with
  | none => rfl
  | some layout => exact normalize_listLayout layout

/-! ## What the reader requires -/

/-- An address carries the name and asset label its reader requires. -/
def SignablePayloadField.Named : SignablePayloadField → Prop
  | .addressV2 _ record => record.name ≠ "" ∧ record.assetLabel ≠ ""
  | _ => True

instance : (field : SignablePayloadField) → Decidable field.Named
  | .addressV2 _ record => inferInstanceAs (Decidable (record.name ≠ "" ∧ record.assetLabel ≠ ""))
  | .amount .. => .isTrue trivial
  | .text .. => .isTrue trivial
  | .textV2 .. => .isTrue trivial
  | .address .. => .isTrue trivial
  | .number .. => .isTrue trivial
  | .amountV2 .. => .isTrue trivial
  | .divider .. => .isTrue trivial
  | .previewLayout .. => .isTrue trivial
  | .listLayout .. => .isTrue trivial
  | .unknown .. => .isTrue trivial
  | .diagnostic .. => .isTrue trivial

mutual

/-- The containers nested in the JSON object of a field: the object, the
object of its content, and for a layout a list of fields again. -/
def SignablePayloadField.levels : SignablePayloadField → ℕ
  | .previewLayout _ layout => layout.levels + 1
  | .listLayout _ layout => layout.levels + 1
  | _ => 2

def SignablePayloadFieldPreviewLayout.levels : SignablePayloadFieldPreviewLayout → ℕ
  | ⟨_, _, condensed, expanded⟩ => max (optionalLevels condensed) (optionalLevels expanded) + 1

def optionalLevels : Option SignablePayloadFieldListLayout → ℕ
  | none => 2
  | some layout => layout.levels

def SignablePayloadFieldListLayout.levels : SignablePayloadFieldListLayout → ℕ
  | ⟨fields⟩ => annotatedLevels fields + 2

def annotatedLevels : List AnnotatedPayloadField → ℕ
  | [] => 0
  | annotated :: fields => max annotated.levels (annotatedLevels fields)

/-- A dynamic annotation is an object with a list of parameters. -/
def AnnotatedPayloadField.levels : AnnotatedPayloadField → ℕ
  | ⟨field, _, none⟩ => field.levels
  | ⟨field, _, some _⟩ => max field.levels 3

end

/-- The containers nested in the JSON text of a payload. -/
def SignablePayload.levels (payload : SignablePayload) : ℕ :=
  (payload.fields.map SignablePayloadField.levels).foldr max 0 + 2

/-! ## Reading one member of a sorted object -/

section Members

variable {A : Type} {members : List (String × Value)} (hdistinct : DistinctKeys members)

include hdistinct

/-- Sorting the keys does not change what is read for a required key, if each value
is read as it is in the sorted document. -/
theorem requiredMember_canon (key : String) (read : Value → Option A) :
    requiredMember key read (canonMembers members) =
      requiredMember key (fun value => read value.canon) members := by
  rw [requiredMember, requiredMember, uniqueEntry_canon hdistinct]
  cases uniqueEntry key members with
  | none => rfl
  | some found => cases found <;> rfl

/-- An optional member is read from the sorted document as from the original; a key
that is absent or null stays so. -/
theorem optionalMember_canon (key : String) (read : Value → Option A) :
    optionalMember key read (canonMembers members) =
      optionalMember key (fun value => read value.canon) members := by
  rw [optionalMember, optionalMember, uniqueEntry_canon hdistinct]
  cases uniqueEntry key members with
  | none => rfl
  | some found =>
      cases found with
      | none => rfl
      | some value => cases value <;> rfl

end Members

theorem optionalMember_of_object {A : Type} {key : String} {read : Value → Option A}
    {members inner : List (String × Value)}
    (hentry : uniqueEntry key members = some (some (.object inner))) :
    optionalMember key read members = (read (.object inner)).map some := by
  rw [optionalMember, hentry]

theorem requiredMember_singleton {A : Type} (key : String) (read : Value → Option A)
    (value : Value) : requiredMember key read [(key, value)] = read value := by
  simp [requiredMember, uniqueEntry]

/-- The members of a struct in a sorted document are the sorted members, and no key
is gained or lost. -/
theorem structMembers_canon (keys : List String) (members : List (String × Value)) :
    structMembers keys (Value.object members).canon = some (canonMembers members) := by
  rw [canon_object]
  rfl

theorem canon_string (text : String) : (Value.string text).canon = .string text := rfl

/-! ## Records -/

theorem deserialize_text (text : SignablePayloadFieldText) :
    SignablePayloadFieldText.deserialize text.serialize.canon = some text := by
  rw [SignablePayloadFieldText.deserialize, SignablePayloadFieldText.serialize,
    structMembers_canon, Option.bind_eq_bind, Option.bind_some,
    requiredMember_canon (List.pairwise_singleton ..)]
  rfl

theorem deserialize_textV2 (textV2 : SignablePayloadFieldTextV2) :
    SignablePayloadFieldTextV2.deserialize textV2.serialize.canon = some textV2 := by
  rw [SignablePayloadFieldTextV2.deserialize, SignablePayloadFieldTextV2.serialize,
    structMembers_canon, Option.bind_eq_bind, Option.bind_some,
    requiredMember_canon (List.pairwise_singleton ..)]
  rfl

theorem deserialize_staticAnnotation (note : SignablePayloadFieldStaticAnnotation) :
    SignablePayloadFieldStaticAnnotation.deserialize note.serialize.canon =
      some note := by
  rw [ SignablePayloadFieldStaticAnnotation.deserialize,
    SignablePayloadFieldStaticAnnotation.serialize, structMembers_canon, Option.bind_eq_bind,
    Option.bind_some, requiredMember_canon (List.pairwise_singleton ..)]
  rfl

theorem deserialize_divider (divider : SignablePayloadFieldDivider) :
    SignablePayloadFieldDivider.deserialize divider.serialize.canon = some divider := by
  rw [SignablePayloadFieldDivider.deserialize, SignablePayloadFieldDivider.serialize,
    structMembers_canon, Option.bind_eq_bind, Option.bind_some,
    requiredMember_canon (List.pairwise_singleton ..)]
  rfl

theorem deserialize_address (address : SignablePayloadFieldAddress) :
    SignablePayloadFieldAddress.deserialize address.serialize.canon = some address := by
  have hdistinct : DistinctKeys [("Address", Value.string address.address),
      ("Name", Value.string address.name)] := by simp [DistinctKeys]
  rw [SignablePayloadFieldAddress.deserialize, SignablePayloadFieldAddress.serialize,
    structMembers_canon]
  simp only [Option.bind_eq_bind, Option.bind_some, requiredMember_canon hdistinct]
  simp [requiredMember, uniqueEntry, canon_string, readString]

theorem deserialize_unknown (unknown : SignablePayloadFieldUnknown) :
    SignablePayloadFieldUnknown.deserialize unknown.serialize.canon = some unknown := by
  have hdistinct : DistinctKeys [("Data", Value.string unknown.data),
      ("Explanation", Value.string unknown.explanation)] := by simp [DistinctKeys]
  rw [SignablePayloadFieldUnknown.deserialize, SignablePayloadFieldUnknown.serialize,
    structMembers_canon]
  simp only [Option.bind_eq_bind, Option.bind_some, requiredMember_canon hdistinct]
  simp [requiredMember, uniqueEntry, canon_string, readString]

theorem deserialize_amount (amount : SignablePayloadFieldAmount) :
    SignablePayloadFieldAmount.deserialize amount.serialize.canon = some amount := by
  have hdistinct := ((distinct_object _).1 (distinct_amount amount)).1
  obtain ⟨amount, abbreviation⟩ := amount
  rw [SignablePayloadFieldAmount.deserialize, SignablePayloadFieldAmount.serialize,
    structMembers_canon]
  simp only [Option.bind_eq_bind, Option.bind_some, requiredMember_canon hdistinct,
    optionalMember_canon hdistinct]
  cases abbreviation <;>
    simp [requiredMember, optionalMember, uniqueEntry, skipIfNone, canon_string, readString]

theorem deserialize_amountV2 (amountV2 : SignablePayloadFieldAmountV2) :
    SignablePayloadFieldAmountV2.deserialize amountV2.serialize.canon = some amountV2 := by
  obtain ⟨amount, abbreviation⟩ := amountV2
  have hdistinct : DistinctKeys (("Amount", Value.string amount) ::
      skipIfNone "Abbreviation" abbreviation) := by
    cases abbreviation <;> simp [skipIfNone, DistinctKeys]
  rw [SignablePayloadFieldAmountV2.deserialize, SignablePayloadFieldAmountV2.serialize,
    canon_collectSorted hdistinct, structMembers_canon]
  simp only [Option.bind_eq_bind, Option.bind_some, requiredMember_canon hdistinct,
    optionalMember_canon hdistinct]
  cases abbreviation <;>
    simp [requiredMember, optionalMember, uniqueEntry, skipIfNone, canon_string, readString]

theorem readU32_ofNat (value : UInt32) :
    readU32 (Value.number (.ofNat value.toNat)).canon = some value := by
  have hdigits : (decimal value.toNat).all Char.isDigit = true :=
    List.all_eq_true.2 fun char hchar => (decimal_all_isDigit value.toNat char hchar).1
  have hbound : value.toNat < 2 ^ 32 := UInt32.toNat_lt value
  change (if (decimal value.toNat).all Char.isDigit && ofDecimal (decimal value.toNat) < 2 ^ 32
    then some (UInt32.ofNat (ofDecimal (decimal value.toNat))) else none) = some value
  rw [hdigits, ofDecimal_decimal, decide_eq_true hbound, UInt32.ofNat_toNat]
  rfl

theorem deserialize_diagnostic (diagnostic : SignablePayloadFieldDiagnostic) :
    SignablePayloadFieldDiagnostic.deserialize diagnostic.serialize.canon = some diagnostic := by
  have hdistinct := ((distinct_object _).1 (ordered_diagnostic diagnostic).distinct).1
  obtain ⟨rule, domain, level, message, instructionIndex⟩ := diagnostic
  rw [SignablePayloadFieldDiagnostic.deserialize, SignablePayloadFieldDiagnostic.serialize,
    structMembers_canon]
  simp only [Option.bind_eq_bind, Option.bind_some, requiredMember_canon hdistinct,
    optionalMember_canon hdistinct]
  cases instructionIndex <;>
    simp [requiredMember, optionalMember, uniqueEntry, canon_string, readString, readU32_ofNat]

theorem mapM_readString (texts : List String) :
    (texts.map fun text => (Value.string text).canon).mapM readString = some texts := by
  induction texts with
  | nil => rfl
  | cons text texts ih =>
      rw [List.map_cons, List.mapM_cons, ih]
      rfl

theorem deserialize_dynamicAnnotation (note : SignablePayloadFieldDynamicAnnotation) :
    SignablePayloadFieldDynamicAnnotation.deserialize note.serialize.canon =
      some note := by
  have hdistinct := ((distinct_object _).1 (ordered_dynamicNote note).distinct).1
  have hparams : readArray readString
      (Value.array (note.params.map .string)).canon = some note.params := by
    rw [Value.canon, rebuild_array, List.map_map]
    exact mapM_readString note.params
  rw [ SignablePayloadFieldDynamicAnnotation.deserialize,
    SignablePayloadFieldDynamicAnnotation.serialize, structMembers_canon]
  simp only [Option.bind_eq_bind, Option.bind_some, requiredMember_canon hdistinct]
  simp [requiredMember, uniqueEntry, canon_string, readString, hparams]

/-- The reader requires a name and an asset label, which the writer leaves out when
they are empty, so an address is read back only if it has both. -/
theorem deserialize_addressV2 (addressV2 : SignablePayloadFieldAddressV2) :
    SignablePayloadFieldAddressV2.deserialize addressV2.serialize.canon =
      if addressV2.name ≠ "" ∧ addressV2.assetLabel ≠ "" then some addressV2 else none := by
  have hdistinct := ((distinct_object _).1 (distinct_addressV2 addressV2)).1
  obtain ⟨address, name, memo, assetLabel, badgeText⟩ := addressV2
  rw [SignablePayloadFieldAddressV2.deserialize, SignablePayloadFieldAddressV2.serialize,
    structMembers_canon]
  simp only [Option.bind_eq_bind, Option.bind_some, requiredMember_canon hdistinct,
    optionalMember_canon hdistinct]
  by_cases hname : name = "" <;> by_cases hasset : assetLabel = "" <;> cases memo <;>
    cases badgeText <;>
    simp [requiredMember, optionalMember, uniqueEntry, skipIfEmpty, skipIfNone, hname, hasset,
      canon_string, readString]

/-! ## Fields -/

/-- Members with other keys behind an entry do not matter for the lookup of a key
that may occur once. -/
theorem uniqueEntry_append {key : String} {members others : List (String × Value)}
    (hothers : ∀ entry ∈ others, entry.1 ≠ key) :
    uniqueEntry key (members ++ others) = uniqueEntry key members := by
  have hfilter : (others.filter fun entry => decide (entry.1 = key)) = [] :=
    List.filter_eq_nil_iff.2 fun entry hentry => by simpa using hothers entry hentry
  rw [uniqueEntry, uniqueEntry, List.filter_append, hfilter, List.append_nil]

/-- The members of an object that holds the four entries of a field. -/
structure HoldsField (backing : Backing) (field : SignablePayloadField)
    (members : List (String × Value)) : Prop where
  distinct : DistinctKeys members
  fallbackText : uniqueEntry "FallbackText" members =
    some (some (.string field.common.fallbackText))
  label : uniqueEntry "Label" members = some (some (.string field.common.label))
  type : uniqueEntry "Type" members = some (some (.string field.variantName))
  content : uniqueEntry field.contentKey members =
    some (some ((field.content backing).rebuild backing))

/-- The entries that a field is written with hold all that the reader of that kind
looks for. -/
theorem holdsField_entries (backing : Backing) (field : SignablePayloadField) :
    HoldsField backing field (field.entries backing) := by
  obtain ⟨hfallback, hlabel, htype, -, -⟩ := contentKey_ne field
  exact {
    distinct := distinctKeys_entries backing field
    fallbackText := by simp [uniqueEntry, SignablePayloadField.entries, hfallback]
    label := by simp [uniqueEntry, SignablePayloadField.entries, hlabel]
    type := by simp [uniqueEntry, SignablePayloadField.entries, htype]
    content := by
      simp [uniqueEntry, SignablePayloadField.entries, hfallback.symm, hlabel.symm, htype.symm] }

/-- The annotations stand beside the entries of the field under keys of their own,
so the field is found among them as before. -/
theorem holdsField_annotated (backing : Backing) (annotated : AnnotatedPayloadField) :
    HoldsField backing annotated.signablePayloadField (annotated.entries backing) := by
  have hfield := holdsField_entries backing annotated.signablePayloadField
  obtain ⟨-, -, -, hstatic, hdynamic⟩ := contentKey_ne annotated.signablePayloadField
  have hothers (key : String) (hstatic : key ≠ "StaticAnnotation")
      (hdynamic : key ≠ "DynamicAnnotation") :
      uniqueEntry key (annotated.entries backing) =
        uniqueEntry key (annotated.signablePayloadField.entries backing) := by
    apply uniqueEntry_append
    intro entry hentry
    rcases List.mem_append.1 hentry with hentry | hentry
    · obtain ⟨_, -, rfl⟩ := mem_optionalEntry hentry
      exact hstatic.symm
    · obtain ⟨_, -, rfl⟩ := mem_optionalEntry hentry
      exact hdynamic.symm
  exact {
    distinct := distinctKeys_annotated backing annotated
    fallbackText := (hothers _ (by decide) (by decide)).trans hfield.fallbackText
    label := (hothers _ (by decide) (by decide)).trans hfield.label
    type := (hothers _ (by decide) (by decide)).trans hfield.type
    content := (hothers _ hstatic hdynamic).trans hfield.content }

section Field

variable {backing : Backing} {field : SignablePayloadField} {members : List (String × Value)}
  (hfield : HoldsField backing field members)
  (readList : Value → Option SignablePayloadFieldListLayout)

include hfield

theorem HoldsField.requiredMember_content {A : Type} (read : Value → Option A) :
    requiredMember field.contentKey read (canonMembers members) =
      read (field.content backing).canon := by
  rw [requiredMember_canon hfield.distinct, requiredMember, hfield.content]
  exact congrArg read (canon_rebuild backing (distinct_content backing field))

theorem HoldsField.deserializeMembers_eq :
    SignablePayloadField.deserializeMembers readList (canonMembers members) =
      SignablePayloadField.deserializeVariant readList field.variantName field.common
        (canonMembers members) := by
  rw [SignablePayloadField.deserializeMembers, SignablePayloadFieldCommon.deserialize]
  simp only [requiredMember_canon hfield.distinct]
  simp [requiredMember, hfield.type, hfield.fallbackText, hfield.label, canon_string, readString]

/-- A flat record comes back, unless its reader requires a string that the
writer skipped. -/
theorem HoldsField.deserializeVariant_record (hrecord : field.IsRecord) :
    SignablePayloadField.deserializeVariant readList field.variantName field.common
        (canonMembers members) =
      if field.Named then some field.normalize else none := by
  have hread {A : Type} (read : Value → Option A) := hfield.requiredMember_content read
  cases field with
  | text common record =>
      exact congrArg (Option.map _) ((hread _).trans (deserialize_text record))
  | textV2 common record =>
      exact congrArg (Option.map _) ((hread _).trans (deserialize_textV2 record))
  | address common record =>
      exact congrArg (Option.map _) ((hread _).trans (deserialize_address record))
  | addressV2 common record =>
      apply (congrArg (Option.map _) ((hread _).trans (deserialize_addressV2 record))).trans
      rw [Option.map_if]
      rfl
  | number common record =>
      exact congrArg (Option.map _) ((hread _).trans (deserialize_amountV2 _))
  | amount common record =>
      exact congrArg (Option.map _) ((hread _).trans (deserialize_amount record))
  | amountV2 common record =>
      exact congrArg (Option.map _) ((hread _).trans (deserialize_amountV2 record))
  | divider common record =>
      exact congrArg (Option.map _) ((hread _).trans (deserialize_divider record))
  | previewLayout common layout => exact hrecord.elim
  | listLayout common layout => exact hrecord.elim
  | unknown common record =>
      exact congrArg (Option.map _) ((hread _).trans (deserialize_unknown record))
  | diagnostic common record =>
      exact congrArg (Option.map _) ((hread _).trans (deserialize_diagnostic record))

end Field

/-! ## Layouts -/

/-- Every field below is complete. -/
abbrev AllNamed (fields : List SignablePayloadField) : Prop := ∀ field ∈ fields, field.Named

/-- What the reader must answer on any object that holds the field, if its
lists may be `fuel` levels deep. -/
def ReadsBack (backing : Backing) (field : SignablePayloadField) : Prop :=
  ∀ (fuel : ℕ) (members : List (String × Value)), field.levels ≤ fuel →
    HoldsField backing field members →
    SignablePayloadField.deserializeMembers (SignablePayloadFieldListLayout.deserialize fuel)
        (canonMembers members) =
      if AllNamed field.allFields then some field.normalize else none

theorem mapM_eq_ite {A B : Type} {read : A → Option B} {result : A → B} {P : A → Prop}
    [DecidablePred P] {items : List A}
    (hitems : ∀ item ∈ items, read item = if P item then some (result item) else none) :
    items.mapM read = if ∀ item ∈ items, P item then some (items.map result) else none := by
  induction items with
  | nil => rfl
  | cons item items ih =>
      rw [List.mapM_cons, hitems item (List.mem_cons_self ..),
        ih fun other hmem => hitems other (List.mem_cons_of_mem _ hmem)]
      by_cases hitem : P item
      · by_cases hothers : ∀ other ∈ items, P other
        · rw [if_pos hitem, if_pos hothers, if_pos (List.forall_mem_cons.2 ⟨hitem, hothers⟩)]
          rfl
        · rw [if_pos hitem, if_neg hothers,
            if_neg fun hall => hothers (List.forall_mem_cons.1 hall).2]
          rfl
      · rw [if_neg hitem, if_neg fun hall => hitem (List.forall_mem_cons.1 hall).1]
        rfl

theorem levels_le_annotated (annotated : AnnotatedPayloadField) :
    annotated.signablePayloadField.levels ≤ annotated.levels := by
  obtain ⟨field, staticAnnotation, dynamicAnnotation⟩ := annotated
  cases dynamicAnnotation <;> simp [AnnotatedPayloadField.levels]

theorem annotatedLevels_le_iff {fields : List AnnotatedPayloadField} {bound : ℕ} :
    annotatedLevels fields ≤ bound ↔ ∀ annotated ∈ fields, annotated.levels ≤ bound := by
  induction fields with
  | nil => simp [annotatedLevels]
  | cons annotated fields ih => simp [annotatedLevels, ih]

theorem optionalLevels_eq (layout : Option SignablePayloadFieldListLayout) :
    optionalLevels layout = annotatedLevels (listedFields layout) + 2 := by
  cases layout with
  | none => rfl
  | some layout =>
      cases layout
      rw [optionalLevels, SignablePayloadFieldListLayout.levels]
      rfl

/-- Reading an optional object that was an in-memory value. -/
theorem optionalMember_rebuilt {A : Type} (backing : Backing) {key : String}
    (read : Value → Option A) {members inner : List (String × Value)}
    (hdistinct : DistinctKeys members) (hinner : (Value.object inner).Distinct)
    (hentry : uniqueEntry key members = some (some ((Value.object inner).rebuild backing))) :
    optionalMember key read (canonMembers members) =
      (read (Value.object inner).canon).map some := by
  have hback := canon_rebuild backing hinner
  rw [rebuild_object] at hentry hback
  rw [optionalMember_canon hdistinct, optionalMember_of_object hentry, hback]

/-- An optional record comes back if the record does. -/
theorem optionalMember_optionalEntry {A : Type} (backing : Backing) {key : String}
    (serialize : A → Value) {read : Value → Option A} {value : Option A}
    {members : List (String × Value)} (hdistinct : DistinctKeys members)
    (hentry : uniqueEntry key members =
      some (value.map fun present => (serialize present).rebuild backing))
    (hobject : ∀ present, ∃ inner, serialize present = .object inner)
    (hserialize : ∀ present, (serialize present).Distinct)
    (hread : ∀ present, read (serialize present).canon = some present) :
    optionalMember key read (canonMembers members) = some value := by
  cases value with
  | none => rw [optionalMember_canon hdistinct, optionalMember, hentry]; rfl
  | some present =>
      obtain ⟨inner, hinner⟩ := hobject present
      have hdistinctInner := hserialize present
      rw [Option.map_some, hinner] at hentry
      rw [hinner] at hdistinctInner
      rw [optionalMember_rebuilt backing read hdistinct hdistinctInner hentry, ← hinner, hread]
      rfl

theorem deserialize_annotated {backing : Backing} {annotated : AnnotatedPayloadField} {fuel : ℕ}
    (hread : ReadsBack backing annotated.signablePayloadField)
    (hfuel : annotated.signablePayloadField.levels ≤ fuel) :
    AnnotatedPayloadField.deserialize (SignablePayloadFieldListLayout.deserialize fuel)
        (annotated.serialize backing).canon =
      if AllNamed annotated.signablePayloadField.allFields then some annotated.normalize
      else none := by
  have hholds := holdsField_annotated backing annotated
  have hdistinct := hholds.distinct
  have hfield := hread fuel _ hfuel hholds
  have hkeys := (contentKey_ne annotated.signablePayloadField).2.2.2
  have hstatic : optionalMember "StaticAnnotation"
      SignablePayloadFieldStaticAnnotation.deserialize
      (canonMembers (annotated.entries backing)) = some annotated.staticAnnotation := by
    refine optionalMember_optionalEntry backing SignablePayloadFieldStaticAnnotation.serialize
      hdistinct ?_ (fun _ => ⟨_, rfl⟩)
      (fun note => (ordered_staticNote note).distinct)
      deserialize_staticAnnotation
    cases hs : annotated.staticAnnotation <;> cases hd : annotated.dynamicAnnotation <;>
      simp [uniqueEntry, AnnotatedPayloadField.entries, SignablePayloadField.entries,
        optionalEntry, hkeys, hs, hd]
  have hdynamic : optionalMember "DynamicAnnotation"
      SignablePayloadFieldDynamicAnnotation.deserialize
      (canonMembers (annotated.entries backing)) = some annotated.dynamicAnnotation := by
    refine optionalMember_optionalEntry backing SignablePayloadFieldDynamicAnnotation.serialize
      hdistinct ?_ (fun _ => ⟨_, rfl⟩)
      (fun note => (ordered_dynamicNote note).distinct)
      deserialize_dynamicAnnotation
    cases hs : annotated.staticAnnotation <;> cases hd : annotated.dynamicAnnotation <;>
      simp [uniqueEntry, AnnotatedPayloadField.entries, SignablePayloadField.entries,
        optionalEntry, hkeys, hs, hd]
  rw [annotated_serialize_eq, canon_collectSorted hdistinct, canon_object,
    AnnotatedPayloadField.deserialize, hfield, hstatic, hdynamic]
  obtain ⟨field, staticAnnotation, dynamicAnnotation⟩ := annotated
  by_cases hnamed : AllNamed field.allFields
  · rw [if_pos hnamed, if_pos hnamed]
    rfl
  · rw [if_neg hnamed, if_neg hnamed]
    rfl

theorem deserialize_fieldList {backing : Backing} {fields : List AnnotatedPayloadField} {fuel : ℕ}
    (hread : ∀ annotated ∈ fields, ReadsBack backing annotated.signablePayloadField)
    (hfuel : annotatedLevels fields < fuel) :
    SignablePayloadFieldListLayout.deserialize fuel (Value.object [("Fields",
        .array (fields.map (AnnotatedPayloadField.serialize backing)))]).canon =
      if ∀ annotated ∈ fields, AllNamed annotated.signablePayloadField.allFields then
        some ⟨fields.map AnnotatedPayloadField.normalize⟩
      else none := by
  obtain ⟨fuel, rfl⟩ : ∃ less, fuel = less + 1 := ⟨fuel - 1, by omega⟩
  have hitems := mapM_eq_ite fun annotated hannotated =>
    deserialize_annotated (hread annotated hannotated) ((levels_le_annotated annotated).trans
      (annotatedLevels_le_iff.1 (Nat.lt_succ_iff.1 hfuel) annotated hannotated))
  have harray : readArray (AnnotatedPayloadField.deserialize
      (SignablePayloadFieldListLayout.deserialize fuel))
      (Value.array (fields.map (AnnotatedPayloadField.serialize backing))).canon =
      if ∀ annotated ∈ fields, AllNamed annotated.signablePayloadField.allFields then
        some (fields.map AnnotatedPayloadField.normalize) else none := by
    rw [Value.canon, rebuild_array, List.map_map, readArray, List.mapM_map]
    exact hitems
  rw [SignablePayloadFieldListLayout.deserialize, structMembers_canon, Option.bind_eq_bind,
    Option.bind_some, requiredMember_canon (List.pairwise_singleton ..),
    requiredMember_singleton, harray]
  by_cases hnamed : ∀ annotated ∈ fields, AllNamed annotated.signablePayloadField.allFields
  · rw [if_pos hnamed, if_pos hnamed]
    rfl
  · rw [if_neg hnamed, if_neg hnamed]
    rfl

/-- The four entries of a preview layout, read by key. -/
theorem uniqueEntry_previewLayout (backing : Backing)
    (layout : SignablePayloadFieldPreviewLayout) :
    uniqueEntry "Condensed" (layout.entries backing) =
        some (some ((serializeOrEmpty backing layout.condensed).rebuild backing)) ∧
      uniqueEntry "Expanded" (layout.entries backing) =
        some (some ((serializeOrEmpty backing layout.expanded).rebuild backing)) ∧
      uniqueEntry "Subtitle" (layout.entries backing) =
        some (layout.subtitle.map fun text => text.serialize.rebuild backing) ∧
      uniqueEntry "Title" (layout.entries backing) =
        some (layout.title.map fun text => text.serialize.rebuild backing) := by
  obtain ⟨title, subtitle, condensed, expanded⟩ := layout
  cases title <;> cases subtitle <;>
    simp [uniqueEntry, SignablePayloadFieldPreviewLayout.entries, optionalEntry]

theorem deserialize_previewLayout {backing : Backing} {layout : SignablePayloadFieldPreviewLayout}
    {fuel : ℕ}
    (hcondensed : ∀ annotated ∈ listedFields layout.condensed,
      ReadsBack backing annotated.signablePayloadField)
    (hexpanded : ∀ annotated ∈ listedFields layout.expanded,
      ReadsBack backing annotated.signablePayloadField)
    (hfuel : layout.levels ≤ fuel) :
    SignablePayloadFieldPreviewLayout.deserialize
        (SignablePayloadFieldListLayout.deserialize fuel) (layout.serialize backing).canon =
      if (∀ annotated ∈ listedFields layout.condensed,
          AllNamed annotated.signablePayloadField.allFields) ∧
        ∀ annotated ∈ listedFields layout.expanded,
          AllNamed annotated.signablePayloadField.allFields
      then some layout.normalize else none := by
  have hdistinct := distinctKeys_previewLayout backing layout
  obtain ⟨hfirst, hsecond, hthird, hfourth⟩ := uniqueEntry_previewLayout backing layout
  have hlevels : layout.levels =
      max (optionalLevels layout.condensed) (optionalLevels layout.expanded) + 1 := by
    cases layout
    rfl
  have hnormal : layout.normalize = ⟨layout.title, layout.subtitle,
      some (normalizeOptional layout.condensed), some (normalizeOptional layout.expanded)⟩ := by
    cases layout
    rfl
  have htext (key : String) (text : Option SignablePayloadFieldTextV2)
      (hentry : uniqueEntry key (layout.entries backing) =
        some (text.map fun present => present.serialize.rebuild backing)) :
      optionalMember key SignablePayloadFieldTextV2.deserialize
        (canonMembers (layout.entries backing)) = some text :=
    optionalMember_optionalEntry backing SignablePayloadFieldTextV2.serialize hdistinct hentry
      (fun _ => ⟨_, rfl⟩) (fun present => (ordered_textV2 present).distinct) deserialize_textV2
  have hlist (key : String) (fields : Option SignablePayloadFieldListLayout)
      (hread : ∀ annotated ∈ listedFields fields,
        ReadsBack backing annotated.signablePayloadField)
      (hless : optionalLevels fields ≤ fuel)
      (hentry : uniqueEntry key (layout.entries backing) =
        some (some ((serializeOrEmpty backing fields).rebuild backing))) :
      optionalMember key (SignablePayloadFieldListLayout.deserialize fuel)
        (canonMembers (layout.entries backing)) =
        if ∀ annotated ∈ listedFields fields, AllNamed annotated.signablePayloadField.allFields
        then some (some (normalizeOptional fields)) else none := by
    rw [optionalLevels_eq] at hless
    rw [serializeOrEmpty_eq] at hentry
    rw [optionalMember_rebuilt backing _ hdistinct (distinct_fieldList backing
      fun annotated _ => distinct_content backing annotated.signablePayloadField) hentry,
      deserialize_fieldList hread (by omega), Option.map_if, normalizeOptional_eq]
  rw [previewLayout_serialize_eq, canon_collectSorted hdistinct,
    SignablePayloadFieldPreviewLayout.deserialize, structMembers_canon, Option.bind_eq_bind,
    Option.bind_some, htext _ _ hthird, htext _ _ hfourth,
    hlist _ _ hcondensed (by omega) hfirst, hlist _ _ hexpanded (by omega) hsecond]
  rw [hnormal, ite_and]
  split_ifs <;> rfl

/-- Every field reads back. -/
theorem readsBack (backing : Backing) (field : SignablePayloadField) : ReadsBack backing field := by
  induction field using SignablePayloadField.induction with
  | record field hrecord =>
      intro fuel members _ hfield
      rw [hfield.deserializeMembers_eq, hfield.deserializeVariant_record _ hrecord]
      apply if_congr _ rfl rfl
      rw [AllNamed, allFields_record hrecord, List.forall_mem_singleton]
  | previewLayout common layout hcondensed hexpanded =>
      intro fuel members hfuel hfield
      have hlevels : layout.levels ≤ fuel := Nat.le_of_succ_le hfuel
      have hread := hfield.requiredMember_content
        (SignablePayloadFieldPreviewLayout.deserialize
          (SignablePayloadFieldListLayout.deserialize fuel))
      rw [hfield.deserializeMembers_eq]
      apply (congrArg (Option.map _) (hread.trans
        (deserialize_previewLayout hcondensed hexpanded hlevels))).trans
      rw [Option.map_if]
      apply if_congr _ rfl rfl
      rw [AllNamed, forall_allFields_previewLayout]
      exact (and_iff_right trivial).symm
  | listLayout common layout hfields =>
      intro fuel members hfuel hfield
      have hlevels : layout.levels = annotatedLevels layout.fields + 2 := by
        cases layout
        rfl
      have hless : annotatedLevels layout.fields < fuel := by
        have hself : (SignablePayloadField.listLayout common layout).levels =
          layout.levels + 1 := rfl
        omega
      have hread := hfield.requiredMember_content
        (SignablePayloadFieldListLayout.deserialize fuel)
      rw [SignablePayloadField.content, listLayout_serialize_eq,
        deserialize_fieldList hfields hless] at hread
      rw [hfield.deserializeMembers_eq]
      apply (congrArg (Option.map _) hread).trans
      rw [Option.map_if, ← normalize_listLayout]
      apply if_congr _ rfl rfl
      rw [AllNamed, forall_allFields_listLayout]
      exact (and_iff_right trivial).symm

/-! ## Nesting -/

theorem depth_object_of_flat {members : List (String × Value)}
    (hflat : ∀ entry ∈ members, entry.2.depth = 0) : (Value.object members).depth = 1 := by
  have hzero : membersDepth members ≤ 0 := membersDepth_le_iff.2 fun entry hentry =>
    (hflat entry hentry).le
  rw [Value.depth, Nat.le_zero.1 hzero]

theorem flat_skipIfEmpty (key text : String) :
    ∀ entry ∈ skipIfEmpty key text, entry.2.depth = 0 := by
  unfold skipIfEmpty
  split_ifs <;> simp [Value.depth]

theorem flat_skipIfNone (key : String) (text : Option String) :
    ∀ entry ∈ skipIfNone key text, entry.2.depth = 0 := by
  cases text <;> simp [skipIfNone, Value.depth]

theorem depth_amountV2 (amountV2 : SignablePayloadFieldAmountV2) :
    amountV2.serialize.depth = 1 := by
  obtain ⟨amount, abbreviation⟩ := amountV2
  rw [SignablePayloadFieldAmountV2.serialize, depth_collectSorted]
  · cases abbreviation <;> rfl
  · cases abbreviation <;> simp [skipIfNone, DistinctKeys]

/-- The content of a field without lists is an object of depth one, as all of its
values are flat. -/
theorem depth_record (backing : Backing) {field : SignablePayloadField}
    (hrecord : field.IsRecord) : (field.content backing).depth = 1 := by
  cases field with
  | addressV2 common record =>
      apply depth_object_of_flat
      rw [List.forall_mem_cons, List.forall_mem_append, List.forall_mem_append,
        List.forall_mem_append]
      exact ⟨rfl, ⟨⟨flat_skipIfEmpty _ _, flat_skipIfNone _ _⟩, flat_skipIfEmpty _ _⟩,
        flat_skipIfNone _ _⟩
  | number common record => exact depth_amountV2 _
  | amount common record =>
      obtain ⟨amount, abbreviation⟩ := record
      cases abbreviation <;> rfl
  | amountV2 common record => exact depth_amountV2 record
  | diagnostic common record =>
      obtain ⟨rule, domain, level, message, instructionIndex⟩ := record
      cases instructionIndex <;> rfl
  | previewLayout common layout => exact hrecord.elim
  | listLayout common layout => exact hrecord.elim
  | _ => rfl

theorem membersDepth_append (left right : List (String × Value)) :
    membersDepth (left ++ right) = max (membersDepth left) (membersDepth right) := by
  induction left with
  | nil => simp [membersDepth]
  | cons entry left ih => rw [List.cons_append, membersDepth, membersDepth, ih, max_assoc]

theorem depth_entries (backing : Backing) (field : SignablePayloadField) :
    membersDepth (field.entries backing) = (field.content backing).depth := by
  simp [SignablePayloadField.entries, membersDepth, Value.depth,
    depth_rebuild backing (distinct_content backing field)]

/-- An annotated field nests as deep as its own levels say, as the annotations
beside it are never deeper than its content. -/
theorem depth_annotated (backing : Backing) {annotated : AnnotatedPayloadField}
    (hcontent : (annotated.signablePayloadField.content backing).depth + 1 =
      annotated.signablePayloadField.levels) (hpositive :
      0 < (annotated.signablePayloadField.content backing).depth) :
    (annotated.serialize backing).depth = annotated.levels := by
  have hstatic (note : SignablePayloadFieldStaticAnnotation) :
      (note.serialize.rebuild backing).depth = 1 := by
    rw [depth_rebuild backing (ordered_staticNote note).distinct]
    rfl
  have hdynamic (note : SignablePayloadFieldDynamicAnnotation) :
      (note.serialize.rebuild backing).depth = 2 := by
    have hparams : itemsDepth (note.params.map Value.string) ≤ 0 :=
      itemsDepth_le_iff.2 (by simp [Value.depth])
    rw [depth_rebuild backing (ordered_dynamicNote note).distinct]
    simp [ SignablePayloadFieldDynamicAnnotation.serialize, Value.depth, membersDepth,
      Nat.le_zero.1 hparams]
  rw [annotated_serialize_eq, depth_collectSorted (distinctKeys_annotated backing annotated),
    Value.depth, AnnotatedPayloadField.entries, membersDepth_append, membersDepth_append,
    depth_entries]
  obtain ⟨field, staticAnnotation, dynamicAnnotation⟩ := annotated
  cases staticAnnotation <;> cases dynamicAnnotation <;>
    simp [optionalEntry, membersDepth, hstatic, hdynamic, AnnotatedPayloadField.levels] <;>
    simp only at hcontent hpositive <;> omega

/-- A list of fields adds two levels to the deepest of them, one for the array and
one for the object around it. -/
theorem depth_fieldList (backing : Backing) {fields : List AnnotatedPayloadField}
    (hfields : ∀ annotated ∈ fields,
      (annotated.serialize backing).depth = annotated.levels) :
    (Value.object [("Fields", .array (fields.map
      (AnnotatedPayloadField.serialize backing)))]).depth = annotatedLevels fields + 2 := by
  have hitems : itemsDepth (fields.map (AnnotatedPayloadField.serialize backing)) =
      annotatedLevels fields := by
    induction fields with
    | nil => rfl
    | cons annotated fields ih =>
        rw [List.map_cons, itemsDepth, annotatedLevels, hfields annotated (List.mem_cons_self ..),
          ih fun other hmem => hfields other (List.mem_cons_of_mem _ hmem)]
  simp [Value.depth, membersDepth, hitems]

/-- The depth of the content of a field is computed by its levels; by induction on
the field, where the lists of a preview add two levels each. -/
theorem depth_content (backing : Backing) (field : SignablePayloadField) :
    (field.content backing).depth + 1 = field.levels ∧ 0 < (field.content backing).depth := by
  induction field using SignablePayloadField.induction with
  | record field hrecord =>
      rw [depth_record backing hrecord]
      cases field with
      | previewLayout common layout => exact hrecord.elim
      | listLayout common layout => exact hrecord.elim
      | _ => exact ⟨rfl, Nat.one_pos⟩
  | previewLayout common layout hcondensed hexpanded =>
      have hlist (fields : Option SignablePayloadFieldListLayout)
          (ih : ∀ annotated ∈ listedFields fields,
            (annotated.signablePayloadField.content backing).depth + 1 =
              annotated.signablePayloadField.levels ∧
            0 < (annotated.signablePayloadField.content backing).depth) :
          ((serializeOrEmpty backing fields).rebuild backing).depth = optionalLevels fields := by
        rw [serializeOrEmpty_eq, depth_rebuild backing (distinct_fieldList backing
          fun annotated _ => distinct_content backing annotated.signablePayloadField),
          depth_fieldList backing fun annotated hmem =>
            depth_annotated backing (ih annotated hmem).1 (ih annotated hmem).2,
          optionalLevels_eq]
      have htext (text : SignablePayloadFieldTextV2) :
          (text.serialize.rebuild backing).depth = 1 := by
        rw [depth_rebuild backing (ordered_textV2 text).distinct]
        rfl
      have hfirst := hlist layout.condensed hcondensed
      have hsecond := hlist layout.expanded hexpanded
      have htwo := optionalLevels_eq layout.condensed
      obtain ⟨title, subtitle, condensed, expanded⟩ := layout
      rw [SignablePayloadField.content, previewLayout_serialize_eq,
        depth_collectSorted (distinctKeys_previewLayout backing _), Value.depth,
        SignablePayloadFieldPreviewLayout.entries, membersDepth_append, membersDepth_append]
      simp only [membersDepth, hfirst, hsecond, SignablePayloadField.levels,
        SignablePayloadFieldPreviewLayout.levels]
      cases title <;> cases subtitle <;> simp [optionalEntry, membersDepth, htext] <;>
        simp only at htwo <;> omega
  | listLayout common layout hfields =>
      rw [SignablePayloadField.content, listLayout_serialize_eq,
        depth_fieldList backing fun annotated hmem =>
          depth_annotated backing (hfields annotated hmem).1 (hfields annotated hmem).2]
      cases layout
      exact ⟨rfl, by omega⟩

/-! ## The payload -/

theorem depth_serializeToMap (backing : Backing) (field : SignablePayloadField) :
    (Value.object (field.serializeToMap backing)).depth = field.levels := by
  rw [serializeToMap_eq, depth_collectSorted (distinctKeys_entries backing field), Value.depth,
    depth_entries, (depth_content backing field).1]

/-- The depth of the written document is the number of levels of the payload, which
is what the limit of the reader is compared with. -/
theorem depth_document (backing : Backing) (payload : SignablePayload) :
    (payload.document backing).depth = payload.levels := by
  have hitems (fields : List SignablePayloadField) :
      itemsDepth (fields.map fun field => .object (field.serializeToMap backing)) =
        (fields.map SignablePayloadField.levels).foldr max 0 := by
    induction fields with
    | nil => rfl
    | cons field fields ih =>
        rw [List.map_cons, itemsDepth, depth_serializeToMap, ih, List.map_cons, List.foldr_cons]
  have hothers : membersDepth (skipIfEmpty "PayloadType" payload.payloadType ++
      skipIfNone "Subtitle" payload.subtitle ++
      [("Title", .string payload.title), ("Version", .string payload.version)]) ≤ 0 := by
    apply membersDepth_le_iff.2
    intro entry hentry
    rcases List.mem_append.1 hentry with hskipped | hwritten
    · rcases List.mem_append.1 hskipped with htype | hsubtitle
      · exact (flat_skipIfEmpty _ _ entry htype).le
      · exact (flat_skipIfNone _ _ entry hsubtitle).le
    · rcases List.mem_pair.1 hwritten with rfl | rfl <;> exact le_rfl
  rw [SignablePayload.document, SignablePayload.entries, Value.depth, membersDepth,
    Nat.le_zero.1 hothers, Value.depth, hitems, Nat.max_zero]
  rfl

/-- No field of a payload has more levels than the payload, so a payload within the
limit has only fields within the limit. -/
theorem levels_le_payload {payload : SignablePayload} {field : SignablePayloadField}
    (hfield : field ∈ payload.fields) : field.levels ≤ payload.levels := by
  have hmax : field.levels ≤ (payload.fields.map SignablePayloadField.levels).foldr max 0 := by
    generalize payload.fields = fields at hfield
    induction fields with
    | nil => simp at hfield
    | cons head fields ih =>
        rw [List.map_cons, List.foldr_cons]
        rcases List.mem_cons.1 hfield with rfl | hmem
        · exact le_max_left ..
        · exact (ih hmem).trans (le_max_right ..)
  calc
    field.levels ≤ (payload.fields.map SignablePayloadField.levels).foldr max 0 := hmax
    _ ≤ payload.levels := Nat.le_add_right _ 2

/-- The entries of a payload, read by key. -/
theorem uniqueEntry_payload (backing : Backing) (payload : SignablePayload) :
    uniqueEntry "Fields" (payload.entries backing) = some (some (.array
        (payload.fields.map fun field => .object (field.serializeToMap backing)))) ∧
      uniqueEntry "PayloadType" (payload.entries backing) =
        some (if payload.payloadType = "" then none else some (.string payload.payloadType)) ∧
      uniqueEntry "Subtitle" (payload.entries backing) = some (payload.subtitle.map .string) ∧
      uniqueEntry "Title" (payload.entries backing) = some (some (.string payload.title)) ∧
      uniqueEntry "Version" (payload.entries backing) = some (some (.string payload.version)) := by
  obtain ⟨fields, payloadType, subtitle, title, version⟩ := payload
  by_cases htype : payloadType = "" <;> cases subtitle <;>
    simp [uniqueEntry, SignablePayload.entries, skipIfEmpty, skipIfNone, htype]

/-- The fields of a payload come back if each of them is complete. -/
theorem deserialize_fields (backing : Backing) (payload : SignablePayload) :
    readArray (SignablePayloadField.deserialize
        (SignablePayloadFieldListLayout.deserialize payload.levels))
        (Value.array (payload.fields.map fun field =>
          .object (field.serializeToMap backing))).canon =
      if AllNamed payload.allFields then some payload.normalize.fields else none := by
  have hfield (field : SignablePayloadField) (hmem : field ∈ payload.fields) :
      SignablePayloadField.deserialize
        (SignablePayloadFieldListLayout.deserialize payload.levels)
        (Value.object (field.serializeToMap backing)).canon =
      if AllNamed field.allFields then some field.normalize else none := by
    rw [serializeToMap_eq, canon_collectSorted (distinctKeys_entries backing field), canon_object]
    exact readsBack backing field payload.levels _ (levels_le_payload hmem)
      (holdsField_entries backing field)
  have hnamed : AllNamed payload.allFields ↔
      ∀ field ∈ payload.fields, AllNamed field.allFields := by
    rw [AllNamed, SignablePayload.allFields, List.forall_mem_flatMap]
  rw [Value.canon, rebuild_array, List.map_map, readArray, List.mapM_map]
  exact (mapM_eq_ite hfield).trans (if_congr hnamed.symm rfl rfl)

/-- The sorted document of a payload is read back as the payload itself, normalised,
if it has a payload type and every address is named, and refused otherwise. -/
theorem deserialize_document (backing : Backing) (payload : SignablePayload) :
    SignablePayload.deserialize (payload.document backing).canon =
      if payload.payloadType ≠ "" ∧ AllNamed payload.allFields then some payload.normalize
      else none := by
  have hdistinct : DistinctKeys (payload.entries backing) :=
    ((distinct_object _).1 (distinct_document payload backing)).1
  have hdepth : (payload.document backing).canon.depth = payload.levels := by
    calc
      (payload.document backing).canon.depth = (payload.document backing).depth :=
        depth_canon (distinct_document payload backing)
      _ = payload.levels := depth_document backing payload
  obtain ⟨hfields, htype, hsubtitle, htitle, hversion⟩ := uniqueEntry_payload backing payload
  have hreadSubtitle : optionalMember "Subtitle" (fun value => readString value.canon)
      (payload.entries backing) = some payload.subtitle := by
    rw [optionalMember, hsubtitle]
    cases payload.subtitle <;> rfl
  have hreadType : requiredMember "PayloadType" (fun value => readString value.canon)
      (payload.entries backing) =
      if payload.payloadType ≠ "" then some payload.payloadType else none := by
    rw [requiredMember, htype]
    by_cases hempty : payload.payloadType = ""
    · rw [if_pos hempty, if_neg (not_not.2 hempty)]
    · rw [if_neg hempty, if_pos hempty]
      rfl
  rw [SignablePayload.deserialize, hdepth, SignablePayload.document, structMembers_canon]
  simp only [Option.bind_eq_bind, Option.bind_some, requiredMember_canon hdistinct,
    optionalMember_canon hdistinct, hreadSubtitle, hreadType]
  simp only [requiredMember, hfields, htitle, hversion, deserialize_fields]
  by_cases hcomplete : payload.payloadType ≠ "" ∧ AllNamed payload.allFields
  · rw [if_pos hcomplete.2, if_pos hcomplete.1, if_pos hcomplete]
    rfl
  · rw [if_neg hcomplete]
    split_ifs with hnamed hempty
    · exact absurd ⟨hempty, hnamed⟩ hcomplete
    · rfl
    · rfl
    · rfl

/-- What the reader makes of a payload's canonical text. -/
theorem fromStr_canonical (payload : SignablePayload) (backing : Backing) :
    SignablePayload.fromStr (String.ofList (payload.document backing).canon.render) =
      if payload.levels < recursionLimit then
        if payload.payloadType ≠ "" ∧ AllNamed payload.allFields then some payload.normalize
        else none
      else none := by
  rw [SignablePayload.fromStr, String.toList_ofList,
    parseDocument_render _ (by decide : 0 < recursionLimit),
    depth_canon (distinct_document payload backing), depth_document]
  by_cases hlevels : payload.levels < recursionLimit
  · rw [if_pos hlevels, if_pos hlevels]
    exact deserialize_document backing payload
  · rw [if_neg hlevels, if_neg hlevels]
    rfl

/-- Reading a payload's canonical text back succeeds with the normalised
payload exactly when the payload has a type, every address at every depth has a
name and an asset label, and the text nests no deeper than the reader accepts. -/
theorem fromStr_toJson_iff (payload : SignablePayload) (backing : Backing) :
    (∃ json, payload.toJson backing = .ok json ∧
        SignablePayload.fromStr json = some payload.normalize) ↔
      payload.payloadType ≠ "" ∧ (∀ field ∈ payload.allFields, field.Named) ∧
        payload.levels < recursionLimit := by
  have hread := fromStr_canonical payload backing
  rw [toJson_eq_ok]
  constructor
  · rintro ⟨json, hjson, hback⟩
    rw [← Except.ok.inj hjson, hread] at hback
    split_ifs at hback with hlevels hcomplete
    exact ⟨hcomplete.1, hcomplete.2, hlevels⟩
  · rintro ⟨htype, hnamed, hlevels⟩
    exact ⟨_, rfl, by rw [hread, if_pos hlevels, if_pos ⟨htype, hnamed⟩]⟩

/-- An address field as it is built when the caller knows neither a name nor an
asset label. -/
def unnamedAddressPayload : SignablePayload where
  fields := [.addressV2 ⟨"0xabc", "To"⟩ ⟨"0xabc", "", none, "", none⟩]
  payloadType := "EthereumTx"
  subtitle := none
  title := "Transfer"
  version := "0"

/-- An address without a name is written without the key, and no reader of the
document gives the payload back. -/
theorem unnamedAddressPayload_not_read_back :
    ¬∃ json, unnamedAddressPayload.toJson .sorted = .ok json ∧
      SignablePayload.fromStr json = some unnamedAddressPayload.normalize := by
  rintro ⟨json, hjson, hback⟩
  rw [toJson_eq_ok] at hjson
  rw [← Except.ok.inj hjson, fromStr_canonical] at hback
  split_ifs at hback with hlevels hcomplete
  -- the only field is the address, and its name is empty
  exact (hcomplete.2 _ (List.mem_of_mem_head? rfl)).1 rfl

end VisualSignParser.VisualSign
