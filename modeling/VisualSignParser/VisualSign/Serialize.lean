import VisualSignParser.Codec.Text
import VisualSignParser.Json.KeyOrder
import VisualSignParser.VisualSign.Field

/-!
# Serializing a payload

Three kinds of serializers meet here.  A derived one emits the fields of its
struct in declaration order; the hand-written ones of a field, an annotated
field and a preview layout collect a tree map and emit it; and what a
hand-written one collects has already been an in-memory value, so it has the key
order of the backing of the JSON crate's object map.  `to_json` sorts every
object of the result once more.
-/

namespace VisualSignParser.VisualSign

open VisualSignParser.Json
open VisualSignParser.OrderedMap

/-- A string field skipped when it is empty. -/
def skipIfEmpty (key text : String) : List (String × Value) :=
  if text = "" then [] else [(key, .string text)]

/-- An optional string field skipped when it is absent. -/
def skipIfNone (key : String) (text : Option String) : List (String × Value) :=
  match text with
  | none => []
  | some text => [(key, .string text)]

/-! ## Records -/

def SignablePayloadFieldText.serialize (text : SignablePayloadFieldText) : Value :=
  .object [("Text", .string text.text)]

def SignablePayloadFieldTextV2.serialize (textV2 : SignablePayloadFieldTextV2) : Value :=
  .object [("Text", .string textV2.text)]

def SignablePayloadFieldAddress.serialize (address : SignablePayloadFieldAddress) : Value :=
  .object [("Address", .string address.address), ("Name", .string address.name)]

def SignablePayloadFieldAddressV2.serialize (addressV2 : SignablePayloadFieldAddressV2) : Value :=
  .object (("Address", .string addressV2.address) :: (skipIfEmpty "Name" addressV2.name ++
    skipIfNone "Memo" addressV2.memo ++ skipIfEmpty "AssetLabel" addressV2.assetLabel ++
    skipIfNone "BadgeText" addressV2.badgeText))

def SignablePayloadFieldAmount.serialize (amount : SignablePayloadFieldAmount) : Value :=
  .object (("Amount", .string amount.amount) :: skipIfNone "Abbreviation" amount.abbreviation)

/-- Hand-written: the same two entries as `Amount`, collected into a tree map. -/
def SignablePayloadFieldAmountV2.serialize (amountV2 : SignablePayloadFieldAmountV2) : Value :=
  .object (collectSorted
    (("Amount", .string amountV2.amount) :: skipIfNone "Abbreviation" amountV2.abbreviation))

def SignablePayloadFieldDivider.serialize (divider : SignablePayloadFieldDivider) : Value :=
  .object [("Style", .string divider.style.style)]

def SignablePayloadFieldUnknown.serialize (unknown : SignablePayloadFieldUnknown) : Value :=
  .object [("Data", .string unknown.data), ("Explanation", .string unknown.explanation)]

/-- Hand-written, with the entries in alphabetical order. -/
def SignablePayloadFieldDiagnostic.serialize (diagnostic : SignablePayloadFieldDiagnostic) :
    Value :=
  let instructionIndex := match diagnostic.instructionIndex with
    | none => []
    | some index => [("InstructionIndex", Value.number (.ofNat index.toNat))]
  .object (("Domain", .string diagnostic.domain) :: (instructionIndex ++
    [("Level", .string diagnostic.level), ("Message", .string diagnostic.message),
      ("Rule", .string diagnostic.rule)]))

def SignablePayloadFieldStaticAnnotation.serialize
    (note : SignablePayloadFieldStaticAnnotation) : Value :=
  .object [("Text", .string note.text)]

/-- Hand-written, with the entries in alphabetical order. -/
def SignablePayloadFieldDynamicAnnotation.serialize
    (note : SignablePayloadFieldDynamicAnnotation) : Value :=
  .object [("ID", .string note.id), ("Params", .array (note.params.map .string)),
    ("Type", .string note.fieldType)]

/-- A number is rendered as an amount whose unit is what follows the number in
the fallback text. -/
def SignablePayloadFieldNumber.asAmountV2 (number : SignablePayloadFieldNumber)
    (common : SignablePayloadFieldCommon) : SignablePayloadFieldAmountV2 where
  amount := number.number
  abbreviation := some <|
    match Text.stripStart number.number common.fallbackText with
    | some rest => Text.trimStart rest
    | none => ""

/-! ## Fields and layouts -/

/-- `serialize_field_variant!`: the common entries, the variant's tag and its
content as an in-memory value, collected into a tree map. -/
def serializeFieldVariant (backing : Backing) (variantName : String)
    (common : SignablePayloadFieldCommon) (fieldName : String) (fieldValue : Value) :
    List (String × Value) :=
  collectSorted [("FallbackText", .string common.fallbackText), ("Label", .string common.label),
    ("Type", .string variantName), (fieldName, fieldValue.rebuild backing)]

/-- An optional annotation or text as an in-memory value under its key. -/
def optionalEntry {A : Type} (backing : Backing) (key : String) (serialize : A → Value)
    (value : Option A) : List (String × Value) :=
  match value with
  | none => []
  | some value => [(key, (serialize value).rebuild backing)]

mutual

def SignablePayloadField.serializeToMap (backing : Backing) :
    SignablePayloadField → List (String × Value)
  | .text common text => serializeFieldVariant backing "text" common "Text" text.serialize
  | .textV2 common textV2 =>
      serializeFieldVariant backing "text_v2" common "TextV2" textV2.serialize
  | .address common address =>
      serializeFieldVariant backing "address" common "Address" address.serialize
  | .addressV2 common addressV2 =>
      serializeFieldVariant backing "address_v2" common "AddressV2" addressV2.serialize
  | .number common number =>
      serializeFieldVariant backing "amount_v2" common "AmountV2"
        (number.asAmountV2 common).serialize
  | .amount common amount =>
      serializeFieldVariant backing "amount" common "Amount" amount.serialize
  | .amountV2 common amountV2 =>
      serializeFieldVariant backing "amount_v2" common "AmountV2" amountV2.serialize
  | .divider common divider =>
      serializeFieldVariant backing "divider" common "Divider" divider.serialize
  | .previewLayout common previewLayout =>
      serializeFieldVariant backing "preview_layout" common "PreviewLayout"
        (previewLayout.serialize backing)
  | .listLayout common listLayout =>
      serializeFieldVariant backing "list_layout" common "ListLayout"
        (listLayout.serialize backing)
  | .unknown common unknown =>
      serializeFieldVariant backing "unknown" common "Unknown" unknown.serialize
  | .diagnostic common diagnostic =>
      serializeFieldVariant backing "diagnostic" common "Diagnostic" diagnostic.serialize

/-- Both lists are always emitted; title and subtitle only when present. -/
def SignablePayloadFieldPreviewLayout.serialize (backing : Backing) :
    SignablePayloadFieldPreviewLayout → Value
  | ⟨title, subtitle, condensed, expanded⟩ =>
      .object (collectSorted
        ([("Condensed", (serializeOrEmpty backing condensed).rebuild backing),
          ("Expanded", (serializeOrEmpty backing expanded).rebuild backing)] ++
          optionalEntry backing "Subtitle" SignablePayloadFieldTextV2.serialize subtitle ++
          optionalEntry backing "Title" SignablePayloadFieldTextV2.serialize title))

/-- An absent list is emitted as the empty list. -/
def serializeOrEmpty (backing : Backing) : Option SignablePayloadFieldListLayout → Value
  | none => .object [("Fields", .array [])]
  | some listLayout => listLayout.serialize backing

def SignablePayloadFieldListLayout.serialize (backing : Backing) :
    SignablePayloadFieldListLayout → Value
  | ⟨fields⟩ => .object [("Fields", .array (serializeAnnotated backing fields))]

def serializeAnnotated (backing : Backing) : List AnnotatedPayloadField → List Value
  | [] => []
  | annotated :: fields => annotated.serialize backing :: serializeAnnotated backing fields

/-- The entries of the flattened field and the annotations, in one tree map. -/
def AnnotatedPayloadField.serialize (backing : Backing) : AnnotatedPayloadField → Value
  | ⟨field, staticAnnotation, dynamicAnnotation⟩ =>
      .object (collectSorted (field.serializeToMap backing ++
        optionalEntry backing "StaticAnnotation" SignablePayloadFieldStaticAnnotation.serialize
          staticAnnotation ++
        optionalEntry backing "DynamicAnnotation" SignablePayloadFieldDynamicAnnotation.serialize
          dynamicAnnotation))

end

/-! ## The payload -/

inductive SerializeError where
  | missingExpectedField (key : String) (discriminant : ℕ) (expected actual : List String)
  | unexpectedField (key : String) (discriminant : ℕ) (expected : List String)
  deriving DecidableEq

/-- The debug text of a list of plain strings. -/
def debugList (texts : List String) : String :=
  "[" ++ ", ".intercalate (texts.map fun text => "\"" ++ text ++ "\"") ++ "]"

def SerializeError.message : SerializeError → String
  | .missingExpectedField key discriminant expected actual =>
      "Missing expected field '" ++ key ++ "' in serialization of Discriminant(" ++
        toString discriminant ++ "). Expected fields: " ++ debugList expected ++
        ", Actual fields: " ++ debugList actual
  | .unexpectedField key discriminant expected =>
      "Unexpected field '" ++ key ++ "' found in serialization of Discriminant(" ++
        toString discriminant ++ "). Expected fields: " ++ debugList expected

/-- The position of the variant in its enum. -/
def SignablePayloadField.discriminant : SignablePayloadField → ℕ
  | .text .. => 0
  | .textV2 .. => 1
  | .address .. => 2
  | .addressV2 .. => 3
  | .number .. => 4
  | .amount .. => 5
  | .amountV2 .. => 6
  | .divider .. => 7
  | .previewLayout .. => 8
  | .listLayout .. => 9
  | .unknown .. => 10
  | .diagnostic .. => 11

/-- The key a variant's content is expected under. -/
def SignablePayloadField.contentKey : SignablePayloadField → String
  | .text .. => "Text"
  | .textV2 .. => "TextV2"
  | .address .. => "Address"
  | .addressV2 .. => "AddressV2"
  | .number .. => "AmountV2"
  | .amount .. => "Amount"
  | .amountV2 .. => "AmountV2"
  | .divider .. => "Divider"
  | .previewLayout .. => "PreviewLayout"
  | .listLayout .. => "ListLayout"
  | .unknown .. => "Unknown"
  | .diagnostic .. => "Diagnostic"

def SignablePayloadField.getExpectedFields (field : SignablePayloadField) : List String :=
  ["FallbackText", "Label", "Type", field.contentKey].insertionSort (· ≤ ·)

/-- Emit the tree map of a field after checking that its keys are the expected
ones. -/
def SignablePayloadField.serialize (backing : Backing) (field : SignablePayloadField) :
    Except SerializeError Value :=
  let sortedMap := field.serializeToMap backing
  let expectedFields := field.getExpectedFields
  let actualFields := sortedMap.map Prod.fst
  match expectedFields.find? fun expected => expected ∉ actualFields with
  | some expected =>
      .error (.missingExpectedField expected field.discriminant expectedFields actualFields)
  | none =>
      match actualFields.find? fun actual => actual ∉ expectedFields with
      | some actual => .error (.unexpectedField actual field.discriminant expectedFields)
      | none => .ok (.object sortedMap)

def SignablePayload.serialize (backing : Backing) (payload : SignablePayload) :
    Except SerializeError Value := do
  let fields ← payload.fields.mapM (SignablePayloadField.serialize backing)
  return .object (("Fields", .array fields) :: (skipIfEmpty "PayloadType" payload.payloadType ++
    skipIfNone "Subtitle" payload.subtitle ++
    [("Title", .string payload.title), ("Version", .string payload.version)]))

mutual

def sortJsonAlphabetically (backing : Backing) : Value → Value
  | .object members =>
      .object (backing.collect (collectSorted (sortMembersAlphabetically backing members)))
  | .array items => .array (sortItemsAlphabetically backing items)
  | other => other

def sortItemsAlphabetically (backing : Backing) : List Value → List Value
  | [] => []
  | item :: items =>
      sortJsonAlphabetically backing item :: sortItemsAlphabetically backing items

def sortMembersAlphabetically (backing : Backing) :
    List (String × Value) → List (String × Value)
  | [] => []
  | (key, value) :: members =>
      (key, sortJsonAlphabetically backing value) :: sortMembersAlphabetically backing members

end

/-- `SignablePayload::to_json`. -/
def SignablePayload.toJson (backing : Backing) (payload : SignablePayload) :
    Except SerializeError String := do
  let value ← payload.serialize backing
  return String.ofList (sortJsonAlphabetically backing (value.rebuild backing)).render

/-- `serde_json::to_string` of a payload: the serializer writes as it goes. -/
def SignablePayload.toSerdeString (backing : Backing) (payload : SignablePayload) :
    Except SerializeError String := do
  let value ← payload.serialize backing
  return String.ofList value.render

end VisualSignParser.VisualSign
