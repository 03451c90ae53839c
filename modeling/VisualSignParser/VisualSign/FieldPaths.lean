import VisualSignParser.Codec.Decimal
import VisualSignParser.Codec.Delimited
import VisualSignParser.VisualSign.Field

/-!
# Paths to fields

A field of a payload is addressed by its position and the steps down to it, each
into one of the lists of a layout.  A path is written as a text, and no two paths
have the same text.
-/

namespace VisualSignParser.VisualSign

open VisualSignParser.Delimited

/-! ## Addresses -/

/-- A list of fields inside of a field. -/
inductive Side where
  | condensed
  | expanded
  | listed
  deriving DecidableEq

def Side.text : Side → String
  | condensed => ".Condensed"
  | expanded => ".Expanded"
  | listed => ""

structure Step where
  side : Side
  index : ℕ
  deriving DecidableEq

def Step.text (step : Step) : String := step.side.text ++ ".Fields[" ++ toString step.index ++ "]"

def stepsText : List Step → String
  | [] => ""
  | step :: steps => step.text ++ stepsText steps

def SignablePayloadField.children : SignablePayloadField → Side → List AnnotatedPayloadField
  | .previewLayout _ layout, .condensed => listedFields layout.condensed
  | .previewLayout _ layout, .expanded => listedFields layout.expanded
  | .listLayout _ layout, .listed => layout.fields
  | _, _ => []

/-- The field below another one. -/
def descend : List Step → SignablePayloadField → Option SignablePayloadField
  | [], field => some field
  | step :: steps, field => (field.children step.side)[step.index]?.bind fun annotated =>
      descend steps annotated.signablePayloadField

/-- A field of a payload, or one below it. -/
structure FieldPath where
  root : ℕ
  steps : List Step
  deriving DecidableEq

def FieldPath.text (path : FieldPath) : String :=
  "Fields[" ++ toString path.root ++ "]" ++ stepsText path.steps

def FieldPath.below (path : FieldPath) (steps : List Step) : FieldPath :=
  ⟨path.root, path.steps ++ steps⟩

def SignablePayload.fieldAt (payload : SignablePayload) (path : FieldPath) :
    Option SignablePayloadField :=
  payload.fields[path.root]?.bind (descend path.steps)

theorem descend_append (steps others : List Step) (field : SignablePayloadField) :
    descend (steps ++ others) field = (descend steps field).bind (descend others) := by
  induction steps generalizing field with
  | nil => rfl
  | cons step steps ih =>
      rw [List.cons_append, descend, descend, Option.bind_assoc]
      congr 1
      funext annotated
      exact ih annotated.signablePayloadField

theorem fieldAt_below (payload : SignablePayload) (path : FieldPath) (steps : List Step) :
    payload.fieldAt (path.below steps) = (payload.fieldAt path).bind (descend steps) := by
  rw [SignablePayload.fieldAt, SignablePayload.fieldAt, Option.bind_assoc]
  congr 1
  funext field
  exact descend_append path.steps steps field

/-- Induction along the children of a field. -/
theorem SignablePayloadField.childrenInduction {P : SignablePayloadField → Prop}
    (hchildren : ∀ field : SignablePayloadField,
      (∀ side, ∀ annotated ∈ field.children side, P annotated.signablePayloadField) → P field)
    (field : SignablePayloadField) : P field := by
  induction field using SignablePayloadField.induction with
  | record field hrecord =>
      apply hchildren
      intro side annotated hmem
      cases field with
      | previewLayout common layout => exact hrecord.elim
      | listLayout common layout => exact hrecord.elim
      | _ => exact absurd hmem List.not_mem_nil
  | previewLayout common layout hcondensed hexpanded =>
      apply hchildren
      intro side annotated hmem
      cases side with
      | condensed => exact hcondensed annotated hmem
      | expanded => exact hexpanded annotated hmem
      | listed => exact absurd hmem List.not_mem_nil
  | listLayout common layout hfields =>
      apply hchildren
      intro side annotated hmem
      cases side with
      | listed => exact hfields annotated hmem
      | _ => exact absurd hmem List.not_mem_nil

theorem mem_allFields_children {field other : SignablePayloadField} :
    other ∈ field.allFields ↔ other = field ∨ ∃ side, ∃ annotated ∈ field.children side,
      other ∈ annotated.signablePayloadField.allFields := by
  cases field with
  | previewLayout common layout =>
      cases layout
      rw [SignablePayloadField.allFields, SignablePayloadFieldPreviewLayout.allFields,
        List.mem_cons, List.mem_append, optionalFields_eq, optionalFields_eq, List.mem_flatMap,
        List.mem_flatMap]
      apply or_congr_right
      constructor
      · rintro (⟨annotated, hmem, hother⟩ | ⟨annotated, hmem, hother⟩)
        · exact ⟨.condensed, annotated, hmem, hother⟩
        · exact ⟨.expanded, annotated, hmem, hother⟩
      · rintro ⟨side, annotated, hmem, hother⟩
        cases side with
        | condensed => exact .inl ⟨annotated, hmem, hother⟩
        | expanded => exact .inr ⟨annotated, hmem, hother⟩
        | listed => exact absurd hmem List.not_mem_nil
  | listLayout common layout =>
      cases layout
      rw [SignablePayloadField.allFields, SignablePayloadFieldListLayout.allFields, List.mem_cons,
        annotatedFields_eq, List.mem_flatMap]
      apply or_congr_right
      constructor
      · rintro ⟨annotated, hmem, hother⟩
        exact ⟨.listed, annotated, hmem, hother⟩
      · rintro ⟨side, annotated, hmem, hother⟩
        cases side with
        | listed => exact ⟨annotated, hmem, hother⟩
        | _ => exact absurd hmem List.not_mem_nil
  | _ =>
      change other ∈ [_] ↔ _
      rw [List.mem_singleton]
      refine (or_iff_left ?_).symm
      rintro ⟨side, annotated, hmem, -⟩
      exact absurd hmem List.not_mem_nil

theorem mem_allFields_iff {field other : SignablePayloadField} :
    other ∈ field.allFields ↔ ∃ steps, descend steps field = some other := by
  induction field using SignablePayloadField.childrenInduction with
  | hchildren field ih =>
      rw [mem_allFields_children]
      constructor
      · rintro (rfl | ⟨side, annotated, hmem, hother⟩)
        · exact ⟨[], rfl⟩
        · obtain ⟨steps, hsteps⟩ := (ih side annotated hmem).1 hother
          obtain ⟨index, hindex⟩ := List.mem_iff_getElem?.1 hmem
          exact ⟨⟨side, index⟩ :: steps, Option.bind_eq_some_iff.2 ⟨annotated, hindex, hsteps⟩⟩
      · rintro ⟨steps, hsteps⟩
        cases steps with
        | nil => exact .inl (Option.some.inj hsteps).symm
        | cons step steps =>
            obtain ⟨annotated, hindex, hother⟩ := Option.bind_eq_some_iff.1 hsteps
            have hmem := List.mem_of_getElem? hindex
            exact .inr ⟨step.side, annotated, hmem, (ih step.side annotated hmem).2 ⟨steps, hother⟩⟩

/-- Every field of a payload has a path. -/
theorem mem_allFields_iff_fieldAt {payload : SignablePayload} {field : SignablePayloadField} :
    field ∈ payload.allFields ↔ ∃ path, payload.fieldAt path = some field := by
  rw [SignablePayload.allFields, List.mem_flatMap]
  constructor
  · rintro ⟨root, hroot, hfield⟩
    obtain ⟨steps, hsteps⟩ := mem_allFields_iff.1 hfield
    obtain ⟨index, hindex⟩ := List.mem_iff_getElem?.1 hroot
    exact ⟨⟨index, steps⟩, Option.bind_eq_some_iff.2 ⟨root, hindex, hsteps⟩⟩
  · rintro ⟨path, hpath⟩
    obtain ⟨root, hindex, hsteps⟩ := Option.bind_eq_some_iff.1 hpath
    exact ⟨root, List.mem_of_getElem? hindex, mem_allFields_iff.2 ⟨path.steps, hsteps⟩⟩

/-! ## Paths as texts -/

/-- A step in front of its closing bracket. -/
def Step.body (step : Step) : List Char :=
  (step.side.text ++ ".Fields").toList ++ '[' :: Nat.toDigits 10 step.index

theorem Step.toList_text (step : Step) : step.text.toList = step.body ++ [']'] := by
  simp [Step.text, Step.body]

theorem toList_stepsText (steps : List Step) :
    (stepsText steps).toList = steps.flatMap fun step => step.body ++ [']'] := by
  induction steps with
  | nil => rfl
  | cons step steps ih =>
      rw [stepsText, String.toList_append, ih, List.flatMap_cons, Step.toList_text]

theorem FieldPath.toList_text (path : FieldPath) : path.text.toList =
    ("Fields[".toList ++ Nat.toDigits 10 path.root) ++
      ']' :: path.steps.flatMap fun step => step.body ++ [']'] := by
  simp [FieldPath.text, toList_stepsText]

theorem closing_not_mem_index {name : List Char} (hname : ']' ∉ name) (index : ℕ) :
    ']' ∉ name ++ Nat.toDigits 10 index := by
  rw [List.mem_append, not_or]
  exact ⟨hname, Decimal.not_mem_toDigits (by decide) index⟩

theorem Step.closing_not_mem_body (step : Step) : ']' ∉ step.body := by
  have hname : ']' ∉ (step.side.text ++ ".Fields").toList ++ ['['] := by
    cases step.side <;> decide
  have hbody : step.body = ((step.side.text ++ ".Fields").toList ++ ['[']) ++
      Nat.toDigits 10 step.index := by
    rw [Step.body, List.append_assoc]
    rfl
  rw [hbody]
  exact closing_not_mem_index hname step.index

theorem Side.text_injective {left right : Side}
    (heq : (left.text ++ ".Fields").toList = (right.text ++ ".Fields").toList) : left = right := by
  cases left <;> cases right <;> first | rfl | (revert heq; decide)

theorem Step.body_injective : Function.Injective Step.body := by
  intro left right heq
  have hopening : ∀ side : Side, '[' ∉ (side.text ++ ".Fields").toList := by
    intro side
    cases side <;> decide
  obtain ⟨hsides, hindexes⟩ := heads_eq (eq_false_of_not_mem (hopening left.side))
    (eq_false_of_not_mem (hopening right.side)) (ends_cons (by decide)) (ends_cons (by decide)) heq
  cases left
  cases right
  exact congrArg₂ Step.mk (Side.text_injective hsides)
    (Decimal.toDigits_injective (List.cons.inj hindexes).2)

/-- A text stands for at most one path. -/
theorem FieldPath.text_injective : Function.Injective FieldPath.text := by
  intro left right heq
  have hlists := congrArg String.toList heq
  rw [FieldPath.toList_text, FieldPath.toList_text] at hlists
  have hroot : ∀ index : ℕ, ']' ∉ "Fields[".toList ++ Nat.toDigits 10 index :=
    closing_not_mem_index (by decide)
  obtain ⟨hroots, hsteps⟩ := heads_eq (eq_false_of_not_mem (hroot left.root))
    (eq_false_of_not_mem (hroot right.root)) (ends_cons (by decide)) (ends_cons (by decide)) hlists
  cases left
  cases right
  exact congrArg₂ FieldPath.mk (Decimal.toDigits_injective (List.append_cancel_left hroots))
    (closed_inj (by decide) (fun step => eq_false_of_not_mem step.closing_not_mem_body)
      Step.body_injective (List.cons.inj hsteps).2)

end VisualSignParser.VisualSign
