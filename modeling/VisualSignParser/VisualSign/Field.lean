import Mathlib.Data.List.Basic

/-!
# The payload shown to a signer

A payload is a list of fields.  Most field variants carry a flat record; a
preview layout and a list layout carry annotated fields again, so the field
type is recursive through lists and options.
-/

namespace VisualSignParser.VisualSign

structure SignablePayloadFieldCommon where
  fallbackText : String
  label : String
  deriving DecidableEq

structure SignablePayloadFieldText where
  text : String
  deriving DecidableEq

structure SignablePayloadFieldTextV2 where
  text : String
  deriving DecidableEq

structure SignablePayloadFieldAddress where
  address : String
  name : String
  deriving DecidableEq

structure SignablePayloadFieldAddressV2 where
  address : String
  name : String
  memo : Option String
  assetLabel : String
  badgeText : Option String
  deriving DecidableEq

structure SignablePayloadFieldNumber where
  number : String
  deriving DecidableEq

structure SignablePayloadFieldAmount where
  amount : String
  abbreviation : Option String
  deriving DecidableEq

structure SignablePayloadFieldAmountV2 where
  amount : String
  abbreviation : Option String
  deriving DecidableEq

/-- The divider style is a newtype around its text. -/
structure DividerStyle where
  style : String
  deriving DecidableEq

def DividerStyle.thin : DividerStyle := ⟨""⟩

structure SignablePayloadFieldDivider where
  style : DividerStyle
  deriving DecidableEq

structure SignablePayloadFieldUnknown where
  data : String
  explanation : String
  deriving DecidableEq

/-- Present when the crate is built with its `diagnostics` feature. -/
structure SignablePayloadFieldDiagnostic where
  rule : String
  domain : String
  level : String
  message : String
  instructionIndex : Option UInt32
  deriving DecidableEq

structure SignablePayloadFieldStaticAnnotation where
  text : String
  deriving DecidableEq

structure SignablePayloadFieldDynamicAnnotation where
  fieldType : String
  id : String
  params : List String
  deriving DecidableEq

mutual

inductive SignablePayloadField where
  | text (common : SignablePayloadFieldCommon) (text : SignablePayloadFieldText)
  | textV2 (common : SignablePayloadFieldCommon) (textV2 : SignablePayloadFieldTextV2)
  | address (common : SignablePayloadFieldCommon) (address : SignablePayloadFieldAddress)
  | addressV2 (common : SignablePayloadFieldCommon) (addressV2 : SignablePayloadFieldAddressV2)
  | number (common : SignablePayloadFieldCommon) (number : SignablePayloadFieldNumber)
  | amount (common : SignablePayloadFieldCommon) (amount : SignablePayloadFieldAmount)
  | amountV2 (common : SignablePayloadFieldCommon) (amountV2 : SignablePayloadFieldAmountV2)
  | divider (common : SignablePayloadFieldCommon) (divider : SignablePayloadFieldDivider)
  | previewLayout (common : SignablePayloadFieldCommon)
      (previewLayout : SignablePayloadFieldPreviewLayout)
  | listLayout (common : SignablePayloadFieldCommon) (listLayout : SignablePayloadFieldListLayout)
  | unknown (common : SignablePayloadFieldCommon) (unknown : SignablePayloadFieldUnknown)
  | diagnostic (common : SignablePayloadFieldCommon) (diagnostic : SignablePayloadFieldDiagnostic)

structure SignablePayloadFieldPreviewLayout where
  title : Option SignablePayloadFieldTextV2
  subtitle : Option SignablePayloadFieldTextV2
  condensed : Option SignablePayloadFieldListLayout
  expanded : Option SignablePayloadFieldListLayout

structure SignablePayloadFieldListLayout where
  fields : List AnnotatedPayloadField

structure AnnotatedPayloadField where
  signablePayloadField : SignablePayloadField
  staticAnnotation : Option SignablePayloadFieldStaticAnnotation
  dynamicAnnotation : Option SignablePayloadFieldDynamicAnnotation

end

structure SignablePayload where
  fields : List SignablePayloadField
  payloadType : String
  subtitle : Option String
  title : String
  version : String

/-- The annotated fields of a layout that may be absent. -/
def listedFields (layout : Option SignablePayloadFieldListLayout) : List AnnotatedPayloadField :=
  match layout with
  | none => []
  | some layout => layout.fields

/-- A variant whose content is a flat record. -/
def SignablePayloadField.IsRecord : SignablePayloadField → Prop
  | .previewLayout .. => False
  | .listLayout .. => False
  | _ => True

/-- Induction over fields: one case for the flat records, and a layout's own
fields carry the hypothesis. -/
theorem SignablePayloadField.induction {P : SignablePayloadField → Prop}
    (record : ∀ field : SignablePayloadField, field.IsRecord → P field)
    (previewLayout : ∀ common layout,
      (∀ annotated ∈ listedFields layout.condensed, P annotated.signablePayloadField) →
      (∀ annotated ∈ listedFields layout.expanded, P annotated.signablePayloadField) →
      P (.previewLayout common layout))
    (listLayout : ∀ common layout,
      (∀ annotated ∈ layout.fields, P annotated.signablePayloadField) →
      P (.listLayout common layout))
    (field : SignablePayloadField) : P field := by
  refine @SignablePayloadField.rec P
    (fun layout => ∀ common, P (.previewLayout common layout))
    (fun layout => ∀ annotated ∈ layout.fields, P annotated.signablePayloadField)
    (fun annotated => P annotated.signablePayloadField)
    (fun layout => ∀ annotated ∈ listedFields layout, P annotated.signablePayloadField)
    (fun fields => ∀ annotated ∈ fields, P annotated.signablePayloadField)
    (fun _ _ => record _ trivial) (fun _ _ => record _ trivial) (fun _ _ => record _ trivial)
    (fun _ _ => record _ trivial) (fun _ _ => record _ trivial) (fun _ _ => record _ trivial)
    (fun _ _ => record _ trivial) (fun _ _ => record _ trivial)
    (fun common _ hlayout => hlayout common) listLayout
    (fun _ _ => record _ trivial) (fun _ _ => record _ trivial)
    ?_ ?_ ?_ ?_ ?_ ?_ ?_ field
  · intro title subtitle condensed expanded hcondensed hexpanded common
    exact previewLayout common ⟨title, subtitle, condensed, expanded⟩ hcondensed hexpanded
  · intro fields hfields
    exact hfields
  · intro field staticAnnotation dynamicAnnotation hfield
    exact hfield
  · simp [listedFields]
  · intro layout hlayout
    exact hlayout
  · simp
  · intro head tail hhead htail
    simpa using ⟨hhead, htail⟩

/-! ## Every field of a payload -/

mutual

/-- The field itself and every field below it, at any depth. -/
def SignablePayloadField.allFields : SignablePayloadField → List SignablePayloadField
  | .previewLayout common layout => .previewLayout common layout :: layout.allFields
  | .listLayout common layout => .listLayout common layout :: layout.allFields
  | field => [field]

def SignablePayloadFieldPreviewLayout.allFields :
    SignablePayloadFieldPreviewLayout → List SignablePayloadField
  | ⟨_, _, condensed, expanded⟩ => optionalFields condensed ++ optionalFields expanded

def optionalFields : Option SignablePayloadFieldListLayout → List SignablePayloadField
  | none => []
  | some layout => layout.allFields

def SignablePayloadFieldListLayout.allFields :
    SignablePayloadFieldListLayout → List SignablePayloadField
  | ⟨fields⟩ => annotatedFields fields

def annotatedFields : List AnnotatedPayloadField → List SignablePayloadField
  | [] => []
  | annotated :: fields => annotated.allFields ++ annotatedFields fields

def AnnotatedPayloadField.allFields : AnnotatedPayloadField → List SignablePayloadField
  | ⟨field, _, _⟩ => field.allFields

end

def SignablePayload.allFields (payload : SignablePayload) : List SignablePayloadField :=
  payload.fields.flatMap SignablePayloadField.allFields

theorem annotatedFields_eq (fields : List AnnotatedPayloadField) :
    annotatedFields fields =
      fields.flatMap fun annotated => annotated.signablePayloadField.allFields := by
  induction fields with
  | nil => rfl
  | cons annotated fields ih =>
      cases annotated
      rw [annotatedFields, ih, List.flatMap_cons, AnnotatedPayloadField.allFields]

theorem optionalFields_eq (layout : Option SignablePayloadFieldListLayout) :
    optionalFields layout =
      (listedFields layout).flatMap fun annotated => annotated.signablePayloadField.allFields := by
  cases layout with
  | none => rfl
  | some layout =>
      cases layout
      rw [optionalFields, SignablePayloadFieldListLayout.allFields, annotatedFields_eq]
      rfl

section AllFields

variable {P : SignablePayloadField → Prop}

theorem forall_allFields_annotated {fields : List AnnotatedPayloadField} :
    (∀ field ∈ annotatedFields fields, P field) ↔
      ∀ annotated ∈ fields, ∀ field ∈ annotated.signablePayloadField.allFields, P field := by
  rw [annotatedFields_eq, List.forall_mem_flatMap]

theorem allFields_record {field : SignablePayloadField} (hrecord : field.IsRecord) :
    field.allFields = [field] := by
  cases field with
  | previewLayout common layout => exact hrecord.elim
  | listLayout common layout => exact hrecord.elim
  | _ => rfl

/-- A property of every field below a preview layout. -/
theorem forall_allFields_previewLayout {common : SignablePayloadFieldCommon}
    {layout : SignablePayloadFieldPreviewLayout} :
    (∀ field ∈ (SignablePayloadField.previewLayout common layout).allFields, P field) ↔
      P (.previewLayout common layout) ∧
      (∀ annotated ∈ listedFields layout.condensed,
        ∀ field ∈ annotated.signablePayloadField.allFields, P field) ∧
      ∀ annotated ∈ listedFields layout.expanded,
        ∀ field ∈ annotated.signablePayloadField.allFields, P field := by
  cases layout
  rw [SignablePayloadField.allFields, SignablePayloadFieldPreviewLayout.allFields,
    List.forall_mem_cons, List.forall_mem_append, optionalFields_eq, optionalFields_eq,
    List.forall_mem_flatMap, List.forall_mem_flatMap]

/-- A property of every field below a list layout. -/
theorem forall_allFields_listLayout {common : SignablePayloadFieldCommon}
    {layout : SignablePayloadFieldListLayout} :
    (∀ field ∈ (SignablePayloadField.listLayout common layout).allFields, P field) ↔
      P (.listLayout common layout) ∧
      ∀ annotated ∈ layout.fields,
        ∀ field ∈ annotated.signablePayloadField.allFields, P field := by
  cases layout
  rw [SignablePayloadField.allFields, SignablePayloadFieldListLayout.allFields,
    List.forall_mem_cons, forall_allFields_annotated]

end AllFields

end VisualSignParser.VisualSign
