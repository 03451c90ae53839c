import VisualSignParser.Codec.OrderedMap
import VisualSignParser.Json.Parser
import VisualSignParser.VisualSign.Field
import Mathlib.Data.String.Basic

/-!
# Reading a payload back

The derived deserializers.  A struct is read from an object by key: a repeated
key is an error, an unknown key is ignored, an absent key is an error unless the
field is an `Option`.  It can also be read from an array of its fields in
declaration order.  A field dispatches on its `Type` tag, and an annotated field
hands all its members on to the field flattened into it.
-/

namespace VisualSignParser.VisualSign

open VisualSignParser.Json
open VisualSignParser.OrderedMap

variable {A : Type}

/-- The members a struct with these keys is read from. -/
def structMembers (keys : List String) : Value → Option (List (String × Value))
  | .object members => some members
  | .array items => if items.length = keys.length then some (keys.zip items) else none
  | _ => none

/-- A field without a default. -/
def requiredMember (key : String) (read : Value → Option A) (members : List (String × Value)) :
    Option A :=
  match uniqueEntry key members with
  | some (some value) => read value
  | _ => none

/-- An `Option` field: absent and `null` both read as `None`. -/
def optionalMember (key : String) (read : Value → Option A) (members : List (String × Value)) :
    Option (Option A) :=
  match uniqueEntry key members with
  | none => none
  | some none => some none
  | some (some .null) => some none
  | some (some value) => (read value).map some

def readString : Value → Option String
  | .string text => some text
  | _ => none

def readU32 : Value → Option UInt32
  | .number number =>
      if number.1.all Char.isDigit && ofDecimal number.1 < 2 ^ 32 then
        some (UInt32.ofNat (ofDecimal number.1))
      else none
  | _ => none

def readArray (read : Value → Option A) : Value → Option (List A)
  | .array items => items.mapM read
  | _ => none

/-! ## Records -/

def SignablePayloadFieldText.deserialize (value : Value) : Option SignablePayloadFieldText := do
  let members ← structMembers ["Text"] value
  return ⟨← requiredMember "Text" readString members⟩

def SignablePayloadFieldTextV2.deserialize (value : Value) :
    Option SignablePayloadFieldTextV2 := do
  let members ← structMembers ["Text"] value
  return ⟨← requiredMember "Text" readString members⟩

def SignablePayloadFieldAddress.deserialize (value : Value) :
    Option SignablePayloadFieldAddress := do
  let members ← structMembers ["Address", "Name"] value
  return {
    address := ← requiredMember "Address" readString members
    name := ← requiredMember "Name" readString members }

def SignablePayloadFieldAddressV2.deserialize (value : Value) :
    Option SignablePayloadFieldAddressV2 := do
  let members ← structMembers ["Address", "Name", "Memo", "AssetLabel", "BadgeText"] value
  return {
    address := ← requiredMember "Address" readString members
    name := ← requiredMember "Name" readString members
    memo := ← optionalMember "Memo" readString members
    assetLabel := ← requiredMember "AssetLabel" readString members
    badgeText := ← optionalMember "BadgeText" readString members }

def SignablePayloadFieldNumber.deserialize (value : Value) :
    Option SignablePayloadFieldNumber := do
  let members ← structMembers ["Number"] value
  return ⟨← requiredMember "Number" readString members⟩

def SignablePayloadFieldAmount.deserialize (value : Value) :
    Option SignablePayloadFieldAmount := do
  let members ← structMembers ["Amount", "Abbreviation"] value
  return {
    amount := ← requiredMember "Amount" readString members
    abbreviation := ← optionalMember "Abbreviation" readString members }

def SignablePayloadFieldAmountV2.deserialize (value : Value) :
    Option SignablePayloadFieldAmountV2 := do
  let members ← structMembers ["Amount", "Abbreviation"] value
  return {
    amount := ← requiredMember "Amount" readString members
    abbreviation := ← optionalMember "Abbreviation" readString members }

def SignablePayloadFieldDivider.deserialize (value : Value) :
    Option SignablePayloadFieldDivider := do
  let members ← structMembers ["Style"] value
  return ⟨⟨← requiredMember "Style" readString members⟩⟩

def SignablePayloadFieldUnknown.deserialize (value : Value) :
    Option SignablePayloadFieldUnknown := do
  let members ← structMembers ["Data", "Explanation"] value
  return {
    data := ← requiredMember "Data" readString members
    explanation := ← requiredMember "Explanation" readString members }

def SignablePayloadFieldDiagnostic.deserialize (value : Value) :
    Option SignablePayloadFieldDiagnostic := do
  let members ← structMembers ["Rule", "Domain", "Level", "Message", "InstructionIndex"] value
  return {
    rule := ← requiredMember "Rule" readString members
    domain := ← requiredMember "Domain" readString members
    level := ← requiredMember "Level" readString members
    message := ← requiredMember "Message" readString members
    instructionIndex := ← optionalMember "InstructionIndex" readU32 members }

def SignablePayloadFieldStaticAnnotation.deserialize (value : Value) :
    Option SignablePayloadFieldStaticAnnotation := do
  let members ← structMembers ["Text"] value
  return ⟨← requiredMember "Text" readString members⟩

def SignablePayloadFieldDynamicAnnotation.deserialize (value : Value) :
    Option SignablePayloadFieldDynamicAnnotation := do
  let members ← structMembers ["Type", "ID", "Params"] value
  return {
    fieldType := ← requiredMember "Type" readString members
    id := ← requiredMember "ID" readString members
    params := ← requiredMember "Params" (readArray readString) members }

/-! ## Fields and layouts

`readList` reads a list layout one level further down. -/

section Layouts

variable (readList : Value → Option SignablePayloadFieldListLayout)

def SignablePayloadFieldPreviewLayout.deserialize (value : Value) :
    Option SignablePayloadFieldPreviewLayout := do
  let members ← structMembers ["Title", "Subtitle", "Condensed", "Expanded"] value
  return {
    title := ← optionalMember "Title" SignablePayloadFieldTextV2.deserialize members
    subtitle := ← optionalMember "Subtitle" SignablePayloadFieldTextV2.deserialize members
    condensed := ← optionalMember "Condensed" readList members
    expanded := ← optionalMember "Expanded" readList members }

/-- The common part flattened into every variant. -/
def SignablePayloadFieldCommon.deserialize (members : List (String × Value)) :
    Option SignablePayloadFieldCommon := do
  return {
    fallbackText := ← requiredMember "FallbackText" readString members
    label := ← requiredMember "Label" readString members }

/-- The content of a variant, read under its own key. -/
def SignablePayloadField.deserializeVariant (tag : String) (common : SignablePayloadFieldCommon)
    (members : List (String × Value)) : Option SignablePayloadField :=
  if tag = "text" then
    (requiredMember "Text" SignablePayloadFieldText.deserialize members).map (.text common)
  else if tag = "text_v2" then
    (requiredMember "TextV2" SignablePayloadFieldTextV2.deserialize members).map (.textV2 common)
  else if tag = "address" then
    (requiredMember "Address" SignablePayloadFieldAddress.deserialize members).map
      (.address common)
  else if tag = "address_v2" then
    (requiredMember "AddressV2" SignablePayloadFieldAddressV2.deserialize members).map
      (.addressV2 common)
  else if tag = "number" then
    (requiredMember "Number" SignablePayloadFieldNumber.deserialize members).map (.number common)
  else if tag = "amount" then
    (requiredMember "Amount" SignablePayloadFieldAmount.deserialize members).map (.amount common)
  else if tag = "amount_v2" then
    (requiredMember "AmountV2" SignablePayloadFieldAmountV2.deserialize members).map
      (.amountV2 common)
  else if tag = "divider" then
    (requiredMember "Divider" SignablePayloadFieldDivider.deserialize members).map
      (.divider common)
  else if tag = "preview_layout" then
    (requiredMember "PreviewLayout"
      (SignablePayloadFieldPreviewLayout.deserialize readList) members).map (.previewLayout common)
  else if tag = "list_layout" then
    (requiredMember "ListLayout" readList members).map (.listLayout common)
  else if tag = "unknown" then
    (requiredMember "Unknown" SignablePayloadFieldUnknown.deserialize members).map
      (.unknown common)
  else if tag = "diagnostic" then
    (requiredMember "Diagnostic" SignablePayloadFieldDiagnostic.deserialize members).map
      (.diagnostic common)
  else none

def SignablePayloadField.deserializeMembers (members : List (String × Value)) :
    Option SignablePayloadField := do
  let tag ← requiredMember "Type" readString members
  let common ← SignablePayloadFieldCommon.deserialize members
  SignablePayloadField.deserializeVariant readList tag common members

def SignablePayloadField.deserialize : Value → Option SignablePayloadField
  | .object members => SignablePayloadField.deserializeMembers readList members
  | _ => none

def AnnotatedPayloadField.deserialize : Value → Option AnnotatedPayloadField
  | .object members => do
      return {
        signablePayloadField := ← SignablePayloadField.deserializeMembers readList members
        staticAnnotation := ← optionalMember "StaticAnnotation"
          SignablePayloadFieldStaticAnnotation.deserialize members
        dynamicAnnotation := ← optionalMember "DynamicAnnotation"
          SignablePayloadFieldDynamicAnnotation.deserialize members }
  | _ => none

end Layouts

/-- A list layout, at most `fuel` levels of lists deep. -/
def SignablePayloadFieldListLayout.deserialize :
    ℕ → Value → Option SignablePayloadFieldListLayout
  | 0, _ => none
  | fuel + 1, value => do
      let members ← structMembers ["Fields"] value
      return ⟨← requiredMember "Fields" (readArray (AnnotatedPayloadField.deserialize
        (SignablePayloadFieldListLayout.deserialize fuel))) members⟩

/-- A list layout is always a container of the document, so the depth of the
document is fuel enough. -/
def SignablePayload.deserialize (value : Value) : Option SignablePayload := do
  let readList := SignablePayloadFieldListLayout.deserialize value.depth
  let members ← structMembers ["Fields", "PayloadType", "Subtitle", "Title", "Version"] value
  return {
    fields := ← requiredMember "Fields"
      (readArray (SignablePayloadField.deserialize readList)) members
    payloadType := ← requiredMember "PayloadType" readString members
    subtitle := ← optionalMember "Subtitle" readString members
    title := ← requiredMember "Title" readString members
    version := ← requiredMember "Version" readString members }

/-- The JSON crate refuses a text in which this many containers are nested. -/
def recursionLimit : ℕ := 128

/-- `serde_json::from_str::<SignablePayload>`. -/
def SignablePayload.fromStr (text : String) : Option SignablePayload := do
  let value ← parseDocument recursionLimit text.toList
  SignablePayload.deserialize value

end VisualSignParser.VisualSign
