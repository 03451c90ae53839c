import VisualSignParser.VisualSign.Errors
import VisualSignParser.VisualSign.FieldPaths
import VisualSignParser.VisualSign.Shape

/-!
# What the wallet can render

A check walks the fields of a payload and reports each one that the wallet does not
render, with a path to it.  A preview is walked into and reported behind its fields;
a list that stands alone is reported and not walked into.
-/

namespace VisualSignParser.VisualSign

open VisualSignParser.Json
open VisualSignParser.OrderedMap

/-! ## The check -/

def anchorageRenderableLeafTypes : List String :=
  ["text_v2", "address_v2", "amount_v2", "diagnostic"]

inductive AnchorageUnsupportedReason where
  | unsupportedFieldType
  | listLayoutAsStandaloneField
  | containsUnsupportedNestedFields
  deriving DecidableEq

def AnchorageUnsupportedReason.asStr : AnchorageUnsupportedReason → String
  | unsupportedFieldType => "unsupported field type"
  | listLayoutAsStandaloneField => "list_layout used as a standalone field"
  | containsUnsupportedNestedFields => "contains unsupported nested fields"

structure AnchorageRenderFinding where
  path : String
  label : String
  fieldType : String
  reason : AnchorageUnsupportedReason
  deriving DecidableEq

def SignablePayloadField.fieldType : SignablePayloadField → String
  | .text .. => "text"
  | .textV2 .. => "text_v2"
  | .address .. => "address"
  | .addressV2 .. => "address_v2"
  | .number .. => "number"
  | .amount .. => "amount"
  | .amountV2 .. => "amount_v2"
  | .divider .. => "divider"
  | .previewLayout .. => "preview_layout"
  | .listLayout .. => "list_layout"
  | .unknown .. => "unknown"
  | .diagnostic .. => "diagnostic"

section Check

variable (backing : Backing)

/-- The type that reaches the wallet. -/
def wireType (field : SignablePayloadField) : String :=
  match lookup "Type" (field.serializeToMap backing) with
  | some (.string text) => text
  | _ => field.fieldType

def finding (path : String) (field : SignablePayloadField)
    (reason : AnchorageUnsupportedReason) : AnchorageRenderFinding :=
  ⟨path, field.common.label, wireType backing field, reason⟩

mutual

/-- Whether the field renders, and the findings with those of the field pushed. -/
def checkField (path : String) (out : List AnchorageRenderFinding) :
    SignablePayloadField → Bool × List AnchorageRenderFinding
  | .previewLayout common layout =>
      let (descendantsOk, out) := checkPreview path out layout
      (descendantsOk, if descendantsOk then out else
        out ++ [finding backing path (.previewLayout common layout)
          .containsUnsupportedNestedFields])
  | .listLayout common layout =>
      (false, out ++ [finding backing path (.listLayout common layout)
        .listLayoutAsStandaloneField])
  | field =>
      if anchorageRenderableLeafTypes.contains (wireType backing field) then (true, out)
      else (false, out ++ [finding backing path field .unsupportedFieldType])

/-- The condensed fields and then the expanded ones. -/
def checkPreview (path : String) (out : List AnchorageRenderFinding) :
    SignablePayloadFieldPreviewLayout → Bool × List AnchorageRenderFinding
  | ⟨_, _, condensed, expanded⟩ =>
      let (condensedOk, out) := checkOptional (path ++ ".Condensed") out condensed
      let (expandedOk, out) := checkOptional (path ++ ".Expanded") out expanded
      (condensedOk && expandedOk, out)

def checkOptional (path : String) (out : List AnchorageRenderFinding) :
    Option SignablePayloadFieldListLayout → Bool × List AnchorageRenderFinding
  | none => (true, out)
  | some layout => checkList path out layout

def checkList (path : String) (out : List AnchorageRenderFinding) :
    SignablePayloadFieldListLayout → Bool × List AnchorageRenderFinding
  | ⟨fields⟩ => checkAnnotatedFields path 0 out fields

def checkAnnotatedFields (path : String) (index : ℕ) (out : List AnchorageRenderFinding) :
    List AnnotatedPayloadField → Bool × List AnchorageRenderFinding
  | [] => (true, out)
  | annotated :: fields =>
      let (ok, out) := checkAnnotated (path ++ ".Fields[" ++ toString index ++ "]") out annotated
      let (restOk, out) := checkAnnotatedFields path (index + 1) out fields
      (ok && restOk, out)

def checkAnnotated (path : String) (out : List AnchorageRenderFinding) :
    AnnotatedPayloadField → Bool × List AnchorageRenderFinding
  | ⟨field, _, _⟩ => checkField path out field

end

def SignablePayload.anchorageRenderFindings (payload : SignablePayload) :
    List AnchorageRenderFinding :=
  payload.fields.zipIdx.foldl (fun findings entry =>
    (checkField backing ("Fields[" ++ toString entry.2 ++ "]") findings entry.1).2) []

def SignablePayload.validateAnchorageWalletRenderable (payload : SignablePayload) :
    Except VisualSignError Unit :=
  let findings := payload.anchorageRenderFindings backing
  if findings.isEmpty then .ok ()
  else
    let summary := "; ".intercalate (findings.map fun finding =>
      finding.path ++ " [" ++ finding.fieldType ++ "] (" ++ finding.reason.asStr ++ ")")
    .error (.validationError ("payload contains " ++ toString findings.length ++
      " field(s) the Anchorage wallet cannot render: " ++ summary))

/-- The type on the wire is the tag of the variant. -/
theorem wireType_eq (field : SignablePayloadField) :
    wireType backing field = field.variantName := by
  have htype : lookup "Type" (field.serializeToMap backing) = some (.string field.variantName) := by
    rw [serializeToMap_eq, lookup_collectSorted (distinctKeys_entries backing field)]
    rfl
  rw [wireType, htype]

end Check

/-! ## Shapes -/

/-- A container, or a leaf of a type that the wallet knows. -/
def SignablePayloadField.supportedShape : SignablePayloadField → Bool
  | .previewLayout .. => true
  | .listLayout .. => false
  | field => anchorageRenderableLeafTypes.contains field.variantName

/-- Every field at every depth has a supported shape. -/
def SignablePayloadField.renders (field : SignablePayloadField) : Bool :=
  field.allFields.all SignablePayloadField.supportedShape

/-- Why a field is reported, if it is. -/
def SignablePayloadField.unsupportedReason (field : SignablePayloadField) :
    Option AnchorageUnsupportedReason :=
  if field.renders then none else some <|
    match field with
    | .previewLayout .. => .containsUnsupportedNestedFields
    | .listLayout .. => .listLayoutAsStandaloneField
    | _ => .unsupportedFieldType

/-- A field that holds no other fields is rendered exactly if its kind is on the
list of the leaf kinds the wallet can show. -/
theorem renders_record {field : SignablePayloadField} (hrecord : field.IsRecord) :
    field.renders = anchorageRenderableLeafTypes.contains field.variantName := by
  rw [SignablePayloadField.renders, allFields_record hrecord, List.all_cons, List.all_nil,
    Bool.and_true]
  cases field with
  | previewLayout common layout => exact hrecord.elim
  | listLayout common layout => exact hrecord.elim
  | _ => rfl

/-- The fields of a layout that may be absent render. -/
def rendersAll (fields : List AnnotatedPayloadField) : Bool :=
  fields.all fun annotated => annotated.signablePayloadField.renders

/-- A preview is rendered if all fields of its condensed and of its expanded list
are; a list that is absent has no fields and does no harm. -/
theorem renders_previewLayout (common : SignablePayloadFieldCommon)
    (layout : SignablePayloadFieldPreviewLayout) :
    (SignablePayloadField.previewLayout common layout).renders =
      (rendersAll (listedFields layout.condensed) && rendersAll (listedFields layout.expanded)) := by
  have hfields : (SignablePayloadField.previewLayout common layout).allFields =
      .previewLayout common layout ::
        (optionalFields layout.condensed ++ optionalFields layout.expanded) := by
    cases layout
    rfl
  have hall : ∀ fields : List AnnotatedPayloadField,
      (fields.flatMap fun annotated => annotated.signablePayloadField.allFields).all
        SignablePayloadField.supportedShape = rendersAll fields := by
    intro fields
    exact List.all_flatMap
  rw [SignablePayloadField.renders, hfields, List.all_cons, List.all_append, optionalFields_eq,
    optionalFields_eq, hall, hall]
  rfl

/-! ## Fields below -/

/-- What is below a field that renders renders. -/
theorem renders_of_descend {steps : List Step} {field other : SignablePayloadField}
    (hother : descend steps field = some other) (hrenders : field.renders = true) :
    other.renders = true := by
  rw [SignablePayloadField.renders, List.all_eq_true] at hrenders ⊢
  intro below hbelow
  obtain ⟨others, hothers⟩ := mem_allFields_iff.1 hbelow
  apply hrenders below
  apply mem_allFields_iff.2
  refine ⟨steps ++ others, ?_⟩
  rw [descend_append, hother]
  exact hothers

/-- A preview that does not render has a field of its own that does not render. -/
theorem child_of_not_renders {common : SignablePayloadFieldCommon}
    {layout : SignablePayloadFieldPreviewLayout}
    (hrenders : (SignablePayloadField.previewLayout common layout).renders = false) :
    ∃ step other, step.side ≠ .listed ∧
      descend [step] (.previewLayout common layout) = some other ∧ other.renders = false := by
  have hchild : ∀ side, side ≠ .listed →
      rendersAll ((SignablePayloadField.previewLayout common layout).children side) = false →
      ∃ step other, step.side ≠ .listed ∧
        descend [step] (.previewLayout common layout) = some other ∧ other.renders = false := by
    intro side hside hall
    obtain ⟨annotated, hmem, hannotated⟩ := List.all_eq_false.1 hall
    obtain ⟨index, hindex⟩ := List.mem_iff_getElem?.1 hmem
    refine ⟨⟨side, index⟩, annotated.signablePayloadField, hside, ?_, by simpa using hannotated⟩
    rw [descend, hindex]
    rfl
  rw [renders_previewLayout, Bool.and_eq_false_iff] at hrenders
  rcases hrenders with hcondensed | hexpanded
  · exact hchild .condensed (by decide) hcondensed
  · exact hchild .expanded (by decide) hexpanded

/-- A finding has a reason exactly for the fields that are not rendered, so the
rules and the reasons cannot disagree. -/
theorem unsupportedReason_eq_none_iff {field : SignablePayloadField} :
    field.unsupportedReason = none ↔ field.renders = true := by
  unfold SignablePayloadField.unsupportedReason
  by_cases hrenders : field.renders = true
  · rw [if_pos hrenders]
    exact iff_of_true rfl hrenders
  · rw [if_neg hrenders]
    exact iff_of_false (Option.some_ne_none _) hrenders

/-! ## The walk -/

/-- A field with the steps to it. -/
abbrev Located := List Step × SignablePayloadField

def Located.under (step : Step) (located : Located) : Located := (step :: located.1, located.2)

mutual

/-- The fields that are visited, each behind the fields below it. -/
def visitField : SignablePayloadField → List Located
  | .previewLayout common layout => visitPreview layout ++ [([], .previewLayout common layout)]
  | field => [([], field)]

def visitPreview : SignablePayloadFieldPreviewLayout → List Located
  | ⟨_, _, condensed, expanded⟩ => visitOptional .condensed condensed ++
      visitOptional .expanded expanded

def visitOptional (side : Side) : Option SignablePayloadFieldListLayout → List Located
  | none => []
  | some layout => visitList side layout

def visitList (side : Side) : SignablePayloadFieldListLayout → List Located
  | ⟨fields⟩ => visitAnnotatedFields side 0 fields

def visitAnnotatedFields (side : Side) (index : ℕ) : List AnnotatedPayloadField → List Located
  | [] => []
  | annotated :: fields => (visitAnnotated annotated).map (Located.under ⟨side, index⟩) ++
      visitAnnotatedFields side (index + 1) fields

def visitAnnotated : AnnotatedPayloadField → List Located
  | ⟨field, _, _⟩ => visitField field

end

theorem visitOptional_eq (side : Side) (layout : Option SignablePayloadFieldListLayout) :
    visitOptional side layout = visitAnnotatedFields side 0 (listedFields layout) := by
  cases layout with
  | none => rfl
  | some layout =>
      cases layout
      rfl

/-- The walk goes through the condensed list, then through the expanded one, and
reports the preview itself behind both of them. -/
theorem visitField_previewLayout (common : SignablePayloadFieldCommon)
    (layout : SignablePayloadFieldPreviewLayout) :
    visitField (.previewLayout common layout) =
      visitAnnotatedFields .condensed 0 (listedFields layout.condensed) ++
        visitAnnotatedFields .expanded 0 (listedFields layout.expanded) ++
        [([], .previewLayout common layout)] := by
  cases layout
  rw [visitField, visitPreview, visitOptional_eq, visitOptional_eq]

theorem visitField_of_not_preview {field : SignablePayloadField}
    (hpreview : ∀ common layout, field ≠ .previewLayout common layout) :
    visitField field = [([], field)] := by
  cases field with
  | previewLayout common layout => exact absurd rfl (hpreview common layout)
  | _ => rfl

theorem visitAnnotated_eq (annotated : AnnotatedPayloadField) :
    visitAnnotated annotated = visitField annotated.signablePayloadField := by
  cases annotated
  rfl

/-- What the walk over a list meets is met below one of its elements, and the
position of that element is the first step of the path. -/
theorem mem_visitAnnotatedFields {side : Side} {index : ℕ} {fields : List AnnotatedPayloadField}
    {located : Located} :
    located ∈ visitAnnotatedFields side index fields ↔
      ∃ offset annotated rest, fields[offset]? = some annotated ∧
        located.1 = ⟨side, index + offset⟩ :: rest ∧
        (rest, located.2) ∈ visitField annotated.signablePayloadField := by
  induction fields generalizing index with
  | nil => simp [visitAnnotatedFields]
  | cons annotated fields ih =>
      rw [visitAnnotatedFields, visitAnnotated_eq, List.mem_append, List.mem_map, ih]
      constructor
      · rintro (⟨below, hbelow, rfl⟩ | ⟨offset, other, rest, hother, hsteps, hrest⟩)
        · exact ⟨0, annotated, below.1, rfl, rfl, hbelow⟩
        · exact ⟨offset + 1, other, rest, hother, by rw [hsteps]; congr 2; omega, hrest⟩
      · rintro ⟨offset, other, rest, hother, hsteps, hrest⟩
        cases offset with
        | zero =>
            obtain rfl := Option.some.inj hother
            exact .inl ⟨(rest, located.2), hrest, Prod.ext hsteps.symm rfl⟩
        | succ offset =>
            refine .inr ⟨offset, other, rest, hother, ?_, hrest⟩
            rw [hsteps]
            congr 2
            omega

/-- A field that is no preview has fields only in a list of its own. -/
theorem children_eq_nil {field : SignablePayloadField}
    (hpreview : ∀ common layout, field ≠ .previewLayout common layout) {side : Side}
    (hside : side ≠ .listed) : field.children side = [] := by
  cases field with
  | previewLayout common layout => exact absurd rfl (hpreview common layout)
  | listLayout common layout =>
      cases side with
      | listed => exact absurd rfl hside
      | _ => rfl
  | _ => rfl

/-- Below a field that is no preview nothing is visited: the walk reports the field
at the empty path, as descending does. -/
theorem mem_visitField_of_not_preview {field other : SignablePayloadField} {steps : List Step}
    (hpreview : ∀ common layout, field ≠ .previewLayout common layout) :
    (steps, other) ∈ visitField field ↔
      descend steps field = some other ∧ ∀ step ∈ steps, step.side ≠ .listed := by
  rw [visitField_of_not_preview hpreview, List.mem_singleton, Prod.mk.injEq]
  constructor
  · rintro ⟨rfl, rfl⟩
    exact ⟨rfl, List.forall_mem_nil _⟩
  · rintro ⟨hother, hsides⟩
    cases steps with
    | nil => exact ⟨rfl, (Option.some.inj hother).symm⟩
    | cons step steps =>
        rw [descend, children_eq_nil hpreview (hsides step (List.mem_cons_self ..))] at hother
        cases hother

/-- The fields of one list, if the walk through each of them is known. -/
theorem mem_visit_children {field other : SignablePayloadField} {side : Side} {steps : List Step}
    (hchildren : ∀ annotated ∈ field.children side, ∀ {other steps},
      (steps, other) ∈ visitField annotated.signablePayloadField ↔
        descend steps annotated.signablePayloadField = some other ∧
          ∀ step ∈ steps, step.side ≠ .listed) :
    (steps, other) ∈ visitAnnotatedFields side 0 (field.children side) ↔
      ∃ index rest, steps = ⟨side, index⟩ :: rest ∧ descend steps field = some other ∧
        ∀ step ∈ rest, step.side ≠ .listed := by
  rw [mem_visitAnnotatedFields]
  constructor
  · rintro ⟨index, annotated, rest, hindex, hsteps, hrest⟩
    obtain rfl : steps = ⟨side, 0 + index⟩ :: rest := hsteps
    obtain ⟨hother, hsides⟩ := (hchildren annotated (List.mem_of_getElem? hindex)).1 hrest
    rw [Nat.zero_add]
    exact ⟨index, rest, rfl, Option.bind_eq_some_iff.2 ⟨annotated, hindex, hother⟩, hsides⟩
  · rintro ⟨index, rest, rfl, hbelow, hsides⟩
    obtain ⟨annotated, hindex, hother⟩ := Option.bind_eq_some_iff.1 hbelow
    refine ⟨index, annotated, rest, hindex, by rw [Nat.zero_add], ?_⟩
    exact (hchildren annotated (List.mem_of_getElem? hindex)).2 ⟨hother, hsides⟩

/-- The visited fields are those that are reached through previews only. -/
theorem mem_visitField {field other : SignablePayloadField} {steps : List Step} :
    (steps, other) ∈ visitField field ↔
      descend steps field = some other ∧ ∀ step ∈ steps, step.side ≠ .listed := by
  induction field using SignablePayloadField.childrenInduction generalizing steps other with
  | hchildren field ih =>
      cases field with
      | previewLayout common layout =>
          rw [visitField_previewLayout, List.mem_append, List.mem_append, List.mem_singleton,
            Prod.mk.injEq]
          change (_ ∈ visitAnnotatedFields .condensed 0
            ((SignablePayloadField.previewLayout common layout).children .condensed) ∨
            _ ∈ visitAnnotatedFields .expanded 0
            ((SignablePayloadField.previewLayout common layout).children .expanded)) ∨ _ ↔ _
          rw [mem_visit_children (ih .condensed), mem_visit_children (ih .expanded)]
          constructor
          · rintro ((⟨index, rest, rfl, hother, hsides⟩ | ⟨index, rest, rfl, hother, hsides⟩) |
              ⟨rfl, rfl⟩)
            · exact ⟨hother, List.forall_mem_cons.2 ⟨by rintro ⟨⟩, hsides⟩⟩
            · exact ⟨hother, List.forall_mem_cons.2 ⟨by rintro ⟨⟩, hsides⟩⟩
            · exact ⟨rfl, List.forall_mem_nil _⟩
          · rintro ⟨hother, hsides⟩
            cases steps with
            | nil => exact .inr ⟨rfl, (Option.some.inj hother).symm⟩
            | cons step rest =>
                rw [List.forall_mem_cons] at hsides
                obtain ⟨side, index⟩ := step
                cases side with
                | condensed => exact .inl (.inl ⟨index, rest, rfl, hother, hsides.2⟩)
                | expanded => exact .inl (.inr ⟨index, rest, rfl, hother, hsides.2⟩)
                | listed => exact absurd rfl hsides.1
      | _ => exact mem_visitField_of_not_preview (by rintro _ _ ⟨⟩)

/-! ## No field is visited twice -/

/-- If no element of a list reports a path twice, the list does not either, because
the first steps of different elements differ. -/
theorem nodup_visitAnnotatedFields {side : Side} {index : ℕ}
    {fields : List AnnotatedPayloadField}
    (hfields : ∀ annotated ∈ fields,
      ((visitField annotated.signablePayloadField).map Prod.fst).Nodup) :
    ((visitAnnotatedFields side index fields).map Prod.fst).Nodup := by
  induction fields generalizing index with
  | nil => exact List.nodup_nil
  | cons annotated fields ih =>
      rw [List.forall_mem_cons] at hfields
      rw [visitAnnotatedFields, visitAnnotated_eq, List.map_append, List.map_map]
      have hunder : (Prod.fst ∘ Located.under ⟨side, index⟩ : Located → List Step) =
          List.cons ⟨side, index⟩ ∘ Prod.fst := rfl
      rw [hunder, ← List.map_map]
      apply List.Nodup.append (hfields.1.map List.cons_injective) (ih hfields.2)
      intro steps hfirst hlater
      obtain ⟨below, -, rfl⟩ := List.mem_map.1 hfirst
      obtain ⟨located, hlocated, hsteps⟩ := List.mem_map.1 hlater
      obtain ⟨offset, -, rest, -, hrest, -⟩ := mem_visitAnnotatedFields.1 hlocated
      rw [hrest] at hsteps
      have hindex := congrArg Step.index (List.cons.inj hsteps).1
      simp at hindex
      omega

theorem head_of_mem_visit {side : Side} {index : ℕ} {fields : List AnnotatedPayloadField}
    {steps : List Step} (hsteps : steps ∈ (visitAnnotatedFields side index fields).map Prod.fst) :
    ∃ position rest, steps = ⟨side, position⟩ :: rest := by
  obtain ⟨located, hlocated, rfl⟩ := List.mem_map.1 hsteps
  obtain ⟨offset, -, rest, -, hrest, -⟩ := mem_visitAnnotatedFields.1 hlocated
  exact ⟨_, rest, hrest⟩

/-- No path is visited twice below a field, by induction on the field; the condensed
and the expanded half begin with different sides. -/
theorem nodup_visitField (field : SignablePayloadField) :
    ((visitField field).map Prod.fst).Nodup := by
  induction field using SignablePayloadField.childrenInduction with
  | hchildren field ih =>
      cases field with
      | previewLayout common layout =>
          rw [visitField_previewLayout, List.map_append, List.map_append]
          apply List.Nodup.append
          · apply List.Nodup.append (nodup_visitAnnotatedFields (ih .condensed))
              (nodup_visitAnnotatedFields (ih .expanded))
            intro steps hleft hright
            obtain ⟨position, rest, rfl⟩ := head_of_mem_visit hleft
            obtain ⟨other, others, hother⟩ := head_of_mem_visit hright
            cases hother
          · exact List.nodup_singleton _
          · intro steps hleft hright
            obtain rfl := List.mem_singleton.1 hright
            rcases List.mem_append.1 hleft with hside | hside
            · obtain ⟨position, rest, hnil⟩ := head_of_mem_visit hside
              cases hnil
            · obtain ⟨position, rest, hnil⟩ := head_of_mem_visit hside
              cases hnil
      | _ => exact List.nodup_singleton _

/-! ## The check reports what it visits -/

section Found

variable (backing : Backing)

/-- The finding for a field at a path, if there is one. -/
def found (path : String) (located : Located) : Option AnchorageRenderFinding :=
  located.2.unsupportedReason.map
    (finding backing (path ++ stepsText located.1) located.2)

theorem found_under (path : String) (step : Step) (located : Located) :
    found backing path (located.under step) = found backing (path ++ step.text) located := by
  rw [found, found, Located.under, stepsText, String.append_assoc]

theorem checkOptional_eq (path : String) (out : List AnchorageRenderFinding)
    (layout : Option SignablePayloadFieldListLayout) :
    checkOptional backing path out layout =
      checkAnnotatedFields backing path 0 out (listedFields layout) := by
  cases layout with
  | none => rfl
  | some layout =>
      cases layout
      rfl

theorem checkAnnotated_eq (path : String) (out : List AnchorageRenderFinding)
    (annotated : AnnotatedPayloadField) :
    checkAnnotated backing path out annotated =
      checkField backing path out annotated.signablePayloadField := by
  cases annotated
  rfl

/-- The check of a preview threads the findings through both of its lists and then
decides on the preview with what the two lists returned. -/
theorem checkField_previewLayout (path : String) (out : List AnchorageRenderFinding)
    (common : SignablePayloadFieldCommon) (layout : SignablePayloadFieldPreviewLayout) :
    checkField backing path out (.previewLayout common layout) =
      let (condensedOk, out) := checkAnnotatedFields backing (path ++ ".Condensed") 0 out
        (listedFields layout.condensed)
      let (expandedOk, out) := checkAnnotatedFields backing (path ++ ".Expanded") 0 out
        (listedFields layout.expanded)
      (condensedOk && expandedOk, if condensedOk && expandedOk then out else
        out ++ [finding backing path (.previewLayout common layout)
          .containsUnsupportedNestedFields]) := by
  cases layout
  rw [checkField, checkPreview, checkOptional_eq]
  simp only [checkOptional_eq]

/-- What the check of a field does: it says whether the field renders, and it pushes a
finding for every field that it visits and that does not. -/
def Reports (field : SignablePayloadField) : Prop :=
  ∀ path out, checkField backing path out field =
    (field.renders, out ++ (visitField field).filterMap (found backing path))

/-- The check of a list returns whether all of its elements render, and appends the
findings of the visited fields in the order of the walk. -/
theorem checkAnnotatedFields_eq {fields : List AnnotatedPayloadField}
    (hfields : ∀ annotated ∈ fields, Reports backing annotated.signablePayloadField)
    (path : String) (side : Side) (index : ℕ) (out : List AnchorageRenderFinding) :
    checkAnnotatedFields backing (path ++ side.text) index out fields =
      (rendersAll fields,
        out ++ (visitAnnotatedFields side index fields).filterMap (found backing path)) := by
  induction fields generalizing index out with
  | nil => rw [checkAnnotatedFields, visitAnnotatedFields, List.filterMap_nil, List.append_nil]; rfl
  | cons annotated fields ih =>
      rw [List.forall_mem_cons] at hfields
      have hpath : path ++ side.text ++ ".Fields[" ++ toString index ++ "]" =
          path ++ (Step.mk side index).text := by
        simp only [Step.text, String.append_assoc]
      have hunder : (fun located : Located =>
          found backing path (located.under ⟨side, index⟩)) =
          found backing (path ++ (Step.mk side index).text) :=
        funext (found_under backing path ⟨side, index⟩)
      rw [checkAnnotatedFields, checkAnnotated_eq, hpath, hfields.1]
      simp only [ih hfields.2]
      rw [visitAnnotatedFields, visitAnnotated_eq, List.filterMap_append, List.filterMap_map,
        List.append_assoc]
      change _ = (_, out ++ (List.filterMap (fun located : Located =>
        found backing path (located.under ⟨side, index⟩)) _ ++ _))
      rw [hunder]
      rfl

/-- The finding for the visited field itself. -/
theorem filterMap_found_self (path : String) (field : SignablePayloadField) :
    [([], field)].filterMap (found backing path) =
      (field.unsupportedReason.map (finding backing path field)).toList := by
  have hself : found backing path ([], field) =
      field.unsupportedReason.map (finding backing path field) := by
    rw [found, stepsText, String.append_empty]
  cases hreason : field.unsupportedReason.map (finding backing path field) with
  | none => rw [List.filterMap_cons_none (by rw [hself, hreason])]; rfl
  | some own => rw [List.filterMap_cons_some (by rw [hself, hreason])]; rfl

/-- For a field without fields of its own the check adds at most one finding, the
one that the walk finds at the empty path. -/
theorem reports_record {field : SignablePayloadField} (hrecord : field.IsRecord) :
    Reports backing field := by
  intro path out
  have hpreview : ∀ common layout, field ≠ .previewLayout common layout := by
    rintro common layout rfl
    exact hrecord
  have hcheck : checkField backing path out field =
      if anchorageRenderableLeafTypes.contains (wireType backing field) then (true, out)
      else (false, out ++ [finding backing path field .unsupportedFieldType]) := by
    cases field with
    | previewLayout common layout => exact hrecord.elim
    | listLayout common layout => exact hrecord.elim
    | _ => rfl
  have hreason : field.unsupportedReason =
      if field.renders then none else some .unsupportedFieldType := by
    cases field with
    | previewLayout common layout => exact hrecord.elim
    | listLayout common layout => exact hrecord.elim
    | _ => rfl
  rw [hcheck, wireType_eq, ← renders_record hrecord, visitField_of_not_preview hpreview,
    filterMap_found_self, hreason]
  cases field.renders with
  | true => simp
  | false => rfl

theorem reports_listLayout (common : SignablePayloadFieldCommon)
    (layout : SignablePayloadFieldListLayout) : Reports backing (.listLayout common layout) := by
  intro path out
  have hvisit : visitField (.listLayout common layout) = [([], .listLayout common layout)] := rfl
  rw [hvisit, filterMap_found_self]
  rfl

/-- If the check agrees with the walk on all fields of the two lists, it agrees on
the preview around them. -/
theorem reports_previewLayout {common : SignablePayloadFieldCommon}
    {layout : SignablePayloadFieldPreviewLayout}
    (hcondensed : ∀ annotated ∈ listedFields layout.condensed,
      Reports backing annotated.signablePayloadField)
    (hexpanded : ∀ annotated ∈ listedFields layout.expanded,
      Reports backing annotated.signablePayloadField) :
    Reports backing (.previewLayout common layout) := by
  intro path out
  have hlists := checkAnnotatedFields_eq backing hcondensed path .condensed 0 out
  have hexpandedLists := fun out => checkAnnotatedFields_eq backing hexpanded path .expanded 0 out
  have hreason : (SignablePayloadField.previewLayout common layout).unsupportedReason =
      if rendersAll (listedFields layout.condensed) && rendersAll (listedFields layout.expanded)
        then none else some .containsUnsupportedNestedFields := by
    rw [← renders_previewLayout common layout]
    rfl
  change checkAnnotatedFields backing (path ++ ".Condensed") 0 out _ = _ at hlists
  change ∀ out, checkAnnotatedFields backing (path ++ ".Expanded") 0 out _ = _ at hexpandedLists
  rw [checkField_previewLayout, hlists]
  simp only [hexpandedLists]
  rw [renders_previewLayout, visitField_previewLayout, List.filterMap_append,
    List.filterMap_append, filterMap_found_self, hreason]
  cases rendersAll (listedFields layout.condensed) && rendersAll (listedFields layout.expanded) with
  | true => simp
  | false => simp

/-- The check of every field is the walk through it. -/
theorem reports (field : SignablePayloadField) : Reports backing field := by
  induction field using SignablePayloadField.induction with
  | record field hrecord => exact reports_record backing hrecord
  | listLayout common layout hfields => exact reports_listLayout backing common layout
  | previewLayout common layout hcondensed hexpanded =>
      exact reports_previewLayout backing hcondensed hexpanded

end Found

/-! ## Findings of a payload -/

/-- The fields of a payload that are visited. -/
def SignablePayload.visits (payload : SignablePayload) :
    List (FieldPath × SignablePayloadField) :=
  payload.fields.zipIdx.flatMap fun entry => (visitField entry.1).map fun located =>
    (⟨entry.2, located.1⟩, located.2)

/-- The walk over a payload visits exactly the fields that a path leads to without a
step into the list of a list layout. -/
theorem mem_visits {payload : SignablePayload} {path : FieldPath} {field : SignablePayloadField} :
    (path, field) ∈ payload.visits ↔
      payload.fieldAt path = some field ∧ ∀ step ∈ path.steps, step.side ≠ .listed := by
  rw [SignablePayload.visits, List.mem_flatMap, SignablePayload.fieldAt]
  constructor
  · rintro ⟨⟨root, index⟩, hroot, hmem⟩
    obtain ⟨⟨steps, other⟩, hvisit, hpair⟩ := List.mem_map.1 hmem
    obtain ⟨rfl, rfl⟩ := Prod.ext_iff.1 hpair
    obtain ⟨hother, hsides⟩ := mem_visitField.1 hvisit
    have hindex := List.mem_zipIdx_iff_getElem?.1 hroot
    exact ⟨Option.bind_eq_some_iff.2 ⟨root, hindex, hother⟩, hsides⟩
  · rintro ⟨hfield, hsides⟩
    obtain ⟨root, hindex, hother⟩ := Option.bind_eq_some_iff.1 hfield
    refine ⟨(root, path.root), List.mem_zipIdx_iff_getElem?.2 hindex, ?_⟩
    exact List.mem_map.2 ⟨(path.steps, field), mem_visitField.2 ⟨hother, hsides⟩, rfl⟩

/-- The paths that the walk over a payload visits are pairwise different, so a
finding is located by its path alone. -/
theorem nodup_visits (payload : SignablePayload) : (payload.visits.map Prod.fst).Nodup := by
  rw [SignablePayload.visits, List.map_flatMap, List.nodup_flatMap]
  constructor
  · intro entry _
    rw [List.map_map]
    have hpaths : (Prod.fst ∘ fun located : Located => (FieldPath.mk entry.2 located.1, located.2)) =
        FieldPath.mk entry.2 ∘ Prod.fst := rfl
    rw [hpaths, ← List.map_map]
    apply (nodup_visitField entry.1).map
    intro left right heq
    exact congrArg FieldPath.steps heq
  · have hindexes : (payload.fields.zipIdx.map Prod.snd).Nodup := by
      rw [List.zipIdx_map_snd]
      exact List.nodup_range'
    have hroot : ∀ (entry : SignablePayloadField × ℕ) (path : FieldPath),
        path ∈ ((visitField entry.1).map fun located =>
          (FieldPath.mk entry.2 located.1, located.2)).map Prod.fst → path.root = entry.2 := by
      intro entry path hpath
      rw [List.map_map] at hpath
      obtain ⟨located, -, rfl⟩ := List.mem_map.1 hpath
      rfl
    rw [List.Nodup, List.pairwise_map] at hindexes
    apply hindexes.imp
    intro left right hne path hleft hright
    exact hne ((hroot left path hleft).symm.trans (hroot right path hright))

section Findings

variable (backing : Backing) (payload : SignablePayload)

/-- The findings are those of the visited fields, in the order of the walk. -/
theorem anchorageRenderFindings_eq : payload.anchorageRenderFindings backing =
    payload.visits.filterMap fun visit =>
      visit.2.unsupportedReason.map (finding backing visit.1.text visit.2) := by
  have hroot : ∀ (findings : List AnchorageRenderFinding) (entry : SignablePayloadField × ℕ),
      (checkField backing ("Fields[" ++ toString entry.2 ++ "]") findings entry.1).2 =
        findings ++ (visitField entry.1).filterMap
          (found backing ("Fields[" ++ toString entry.2 ++ "]")) := by
    intro findings entry
    rw [reports backing entry.1]
  rw [SignablePayload.anchorageRenderFindings, SignablePayload.visits, List.filterMap_flatMap]
  simp only [hroot, List.filterMap_map]
  rw [← List.flatMap_eq_foldl]
  rfl

/-- A finding is what some visited field gives rise to, with the path, the label and
the kind of that field; nothing else is found. -/
theorem mem_anchorageRenderFindings {found : AnchorageRenderFinding} :
    found ∈ payload.anchorageRenderFindings backing ↔
      ∃ path field reason, payload.fieldAt path = some field ∧
        (∀ step ∈ path.steps, step.side ≠ .listed) ∧ field.unsupportedReason = some reason ∧
        found = finding backing path.text field reason := by
  rw [anchorageRenderFindings_eq, List.mem_filterMap]
  constructor
  · rintro ⟨⟨path, field⟩, hvisit, hfound⟩
    obtain ⟨reason, hreason, hfound⟩ := Option.map_eq_some_iff.1 hfound
    obtain ⟨hfield, hsides⟩ := mem_visits.1 hvisit
    exact ⟨path, field, reason, hfield, hsides, hreason, hfound.symm⟩
  · rintro ⟨path, field, reason, hfield, hsides, hreason, rfl⟩
    exact ⟨(path, field), mem_visits.2 ⟨hfield, hsides⟩, by rw [hreason]; rfl⟩

/-- A field that is visited is reported exactly if it does not render. -/
theorem exists_finding_at {path : FieldPath} {field : SignablePayloadField}
    (hfield : payload.fieldAt path = some field)
    (hsides : ∀ step ∈ path.steps, step.side ≠ .listed) (reason : AnchorageUnsupportedReason) :
    (∃ found ∈ payload.anchorageRenderFindings backing,
      found.path = path.text ∧ found.reason = reason) ↔ field.unsupportedReason = some reason := by
  constructor
  · rintro ⟨found, hfound, hpath, hreason⟩
    obtain ⟨other, otherField, otherReason, hother, -, hotherReason, rfl⟩ :=
      (mem_anchorageRenderFindings backing payload).1 hfound
    obtain rfl := FieldPath.text_injective hpath
    rw [hfield] at hother
    obtain rfl := Option.some.inj hother
    obtain rfl : otherReason = reason := hreason
    exact hotherReason
  · intro hreason
    exact ⟨finding backing path.text field reason, (mem_anchorageRenderFindings backing payload).2
      ⟨path, field, reason, hfield, hsides, hreason, rfl⟩, rfl, rfl⟩

end Findings

/-! ## What the findings say -/

/-- The findings of a payload say exactly what the wallet does not render. -/
structure FindingsExact (payload : SignablePayload) (findings : List AnchorageRenderFinding) :
    Prop where
  /-- There are none exactly if every field at every depth has a supported shape. -/
  clean : findings = [] ↔ ∀ field ∈ payload.allFields, field.supportedShape = true
  /-- A preview is reported exactly if there is a finding for a field below it. -/
  nested : ∀ path common layout, payload.fieldAt path = some (.previewLayout common layout) →
    ((∃ found ∈ findings, found.path = path.text ∧
        found.reason = .containsUnsupportedNestedFields) ↔
      ∃ steps, steps ≠ [] ∧ ∃ found ∈ findings, found.path = (path.below steps).text)
  /-- A finding is at the path of the one field that it describes. -/
  located : ∀ found ∈ findings, ∃! path, found.path = path.text ∧
    ∃ field, payload.fieldAt path = some field ∧ field.unsupportedReason = some found.reason ∧
      found.label = field.common.label ∧ found.fieldType = field.variantName
  /-- No two findings share a path and a reason. -/
  distinct : (findings.map fun found => (found.path, found.reason)).Nodup

section Exact

variable (backing : Backing) (payload : SignablePayload)

/-- There are no findings exactly if every field of the payload, at whatever depth,
has a shape that the wallet supports. -/
theorem anchorageRenderFindings_eq_nil_iff : payload.anchorageRenderFindings backing = [] ↔
    ∀ field ∈ payload.allFields, field.supportedShape = true := by
  have hvisits : payload.anchorageRenderFindings backing = [] ↔
      ∀ visit ∈ payload.visits, visit.2.renders = true := by
    rw [anchorageRenderFindings_eq, List.filterMap_eq_nil_iff]
    simp only [Option.map_eq_none_iff, unsupportedReason_eq_none_iff]
  have hfields : (∀ field ∈ payload.allFields, field.supportedShape = true) ↔
      ∀ field ∈ payload.fields, field.renders = true := by
    rw [SignablePayload.allFields, List.forall_mem_flatMap]
    simp only [SignablePayloadField.renders, List.all_eq_true]
  rw [hvisits, hfields]
  constructor
  · intro hrenders field hfield
    obtain ⟨index, hindex⟩ := List.mem_iff_getElem?.1 hfield
    have hvisit : ((⟨index, []⟩ : FieldPath), field) ∈ payload.visits := by
      rw [mem_visits, SignablePayload.fieldAt, hindex]
      exact ⟨rfl, List.forall_mem_nil _⟩
    exact hrenders _ hvisit
  · rintro hrenders ⟨path, field⟩ hvisit
    obtain ⟨root, hroot, hfield⟩ := Option.bind_eq_some_iff.1 (mem_visits.1 hvisit).1
    exact renders_of_descend hfield (hrenders root (List.mem_of_getElem? hroot))

/-- Below a preview that does not render there is a finding, and nowhere else. -/
theorem nested_finding_iff {path : FieldPath} {common : SignablePayloadFieldCommon}
    {layout : SignablePayloadFieldPreviewLayout}
    (hpreview : payload.fieldAt path = some (.previewLayout common layout)) :
    (∃ found ∈ payload.anchorageRenderFindings backing, found.path = path.text ∧
        found.reason = .containsUnsupportedNestedFields) ↔
      ∃ steps, steps ≠ [] ∧ ∃ found ∈ payload.anchorageRenderFindings backing,
        found.path = (path.below steps).text := by
  constructor
  · rintro ⟨found, hfound, hpath, -⟩
    obtain ⟨other, field, reason, hfield, hsides, hreason, rfl⟩ :=
      (mem_anchorageRenderFindings backing payload).1 hfound
    obtain rfl := FieldPath.text_injective hpath
    rw [hpreview] at hfield
    obtain rfl := Option.some.inj hfield
    have hrenders : (SignablePayloadField.previewLayout common layout).renders = false := by
      rw [Bool.eq_false_iff, ne_eq, ← unsupportedReason_eq_none_iff, hreason]
      exact Option.some_ne_none reason
    obtain ⟨step, child, hside, hchild, hchildRenders⟩ := child_of_not_renders hrenders
    have hchildReason : child.unsupportedReason ≠ none := by
      rw [ne_eq, unsupportedReason_eq_none_iff, hchildRenders]
      exact Bool.false_ne_true
    obtain ⟨childReason, hchildReason⟩ := Option.ne_none_iff_exists'.1 hchildReason
    have hbelow : payload.fieldAt (other.below [step]) = some child := by
      rw [fieldAt_below, hpreview]
      exact hchild
    have hbelowSides : ∀ step' ∈ (other.below [step]).steps, step'.side ≠ .listed :=
      List.forall_mem_append.2 ⟨hsides, List.forall_mem_singleton.2 hside⟩
    obtain ⟨childFound, hchildFound, hchildPath, -⟩ :=
      (exists_finding_at backing payload hbelow hbelowSides childReason).2 hchildReason
    exact ⟨[step], List.cons_ne_nil _ _, childFound, hchildFound, hchildPath⟩
  · rintro ⟨steps, -, found, hfound, hpath⟩
    obtain ⟨other, field, reason, hfield, hsides, hreason, rfl⟩ :=
      (mem_anchorageRenderFindings backing payload).1 hfound
    obtain rfl := FieldPath.text_injective hpath
    rw [fieldAt_below, hpreview, Option.bind_some] at hfield
    have hrenders : (SignablePayloadField.previewLayout common layout).renders ≠ true := by
      intro hrenders
      have hnone := unsupportedReason_eq_none_iff.2 (renders_of_descend hfield hrenders)
      rw [hreason] at hnone
      cases hnone
    apply (exists_finding_at backing payload hpreview (List.forall_mem_append.1 hsides).1 _).2
    rw [SignablePayloadField.unsupportedReason, if_neg hrenders]

/-- The path in a finding belongs to one field only, and the label, the kind and the
reason are those of that field. -/
theorem located_finding {found : AnchorageRenderFinding}
    (hfound : found ∈ payload.anchorageRenderFindings backing) :
    ∃! path, found.path = path.text ∧ ∃ field, payload.fieldAt path = some field ∧
      field.unsupportedReason = some found.reason ∧ found.label = field.common.label ∧
      found.fieldType = field.variantName := by
  obtain ⟨path, field, reason, hfield, -, hreason, rfl⟩ :=
    (mem_anchorageRenderFindings backing payload).1 hfound
  refine ⟨path, ⟨rfl, field, hfield, hreason, rfl, wireType_eq backing field⟩, ?_⟩
  rintro other ⟨hother, -⟩
  exact (FieldPath.text_injective hother).symm

/-- No finding is reported twice: the path and the reason together occur once in the
list. -/
theorem nodup_anchorageRenderFindings :
    ((payload.anchorageRenderFindings backing).map fun found =>
      (found.path, found.reason)).Nodup := by
  have hvisits := nodup_visits payload
  rw [List.Nodup, List.pairwise_map] at hvisits
  rw [anchorageRenderFindings_eq, List.Nodup, List.pairwise_map, List.pairwise_filterMap]
  apply hvisits.imp
  intro left right hne leftFound hleft rightFound hright heq
  obtain ⟨_, -, rfl⟩ := Option.map_eq_some_iff.1 hleft
  obtain ⟨_, -, rfl⟩ := Option.map_eq_some_iff.1 hright
  exact hne (FieldPath.text_injective (congrArg Prod.fst heq))

/-- The validation succeeds exactly if all fields have supported shapes; its error
is made of the same findings as the list. -/
theorem validateAnchorageWalletRenderable_eq_ok_iff :
    payload.validateAnchorageWalletRenderable backing = .ok () ↔
      ∀ field ∈ payload.allFields, field.supportedShape = true := by
  rw [← anchorageRenderFindings_eq_nil_iff backing payload,
    SignablePayload.validateAnchorageWalletRenderable]
  cases payload.anchorageRenderFindings backing with
  | nil => exact iff_of_true rfl rfl
  | cons first rest => exact iff_of_false (by rintro ⟨⟩) (List.cons_ne_nil first rest)

/-- The findings are exact: there is none for a payload of supported shapes, each
one is located at the field it names, and none occurs twice. -/
theorem anchorageRenderFindings_exact :
    FindingsExact payload (payload.anchorageRenderFindings backing) where
  clean := anchorageRenderFindings_eq_nil_iff backing payload
  nested _ _ _ hpreview := nested_finding_iff backing payload hpreview
  located _ hfound := located_finding backing payload hfound
  distinct := nodup_anchorageRenderFindings backing payload

end Exact

end VisualSignParser.VisualSign
