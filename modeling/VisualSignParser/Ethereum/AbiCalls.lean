import VisualSignParser.Ethereum.AbiTexts

/-!
# Calls shown by an ABI

The arguments of a call are encoded as a sequence of parameters.  The decoder
reads them as one value of a tuple type, which is the same where every type is
static; where one is dynamic, such a value starts with an offset, and the first
word of the arguments is taken for it.  Struct parameters are named `tuple`,
which is no type the decoder parses.
-/

namespace VisualSignParser.Ethereum

open VisualSignParser.Delimited
open VisualSignParser.Framing
open VisualSignParser.Outcome
open VisualSignParser.VisualSign

/-! ## The standard encoding -/

mutual

/-- The encoding of a dynamic value stands behind the heads. -/
def DynSolType.isDynamic : DynSolType → Bool
  | .bytes => true
  | .string => true
  | .array _ => true
  | .fixedArray element _ => element.isDynamic
  | .tuple elements => anyDynamic elements
  | _ => false

def anyDynamic : List DynSolType → Bool
  | [] => false
  | type :: types => type.isDynamic || anyDynamic types

end

def word (value : ℕ) : Bytes := beBytes 32 value

/-- Bytes filled up to whole words. -/
def fillWords (bytes : Bytes) : Bytes :=
  bytes ++ List.replicate ((32 - bytes.length % 32) % 32) 0

/-- A component of a sequence and its encoding. -/
structure Part where
  dynamic : Bool
  encoding : Bytes

def Part.headLength (part : Part) : ℕ := if part.dynamic then 32 else part.encoding.length

/-- The heads, when the next tail stands at the offset. -/
def headsFrom (offset : ℕ) : List Part → Bytes
  | [] => []
  | part :: parts =>
      if part.dynamic then word offset ++ headsFrom (offset + part.encoding.length) parts
      else part.encoding ++ headsFrom offset parts

def encodeParts (parts : List Part) : Bytes :=
  headsFrom (parts.map Part.headLength).sum parts ++
    (parts.filter Part.dynamic).flatMap Part.encoding

mutual

def encodeValue : DynSolType → DynSolValue → Bytes
  | .address, .address value => List.replicate 12 0 ++ value.1
  | .uint _, .uint value _ => word value
  | .int _, .int value _ => word (value % 2 ^ 256).toNat
  | .bool, .bool value => word value.toNat
  | .bytes, .bytes value => word value.length ++ fillWords value
  | .fixedBytes _, .fixedBytes value _ => value
  | .string, .string value =>
      let bytes := utf8Bytes value
      word bytes.length ++ fillWords bytes
  | .array element, .array values =>
      word values.length ++
        encodeParts (values.map fun value => ⟨element.isDynamic, encodeValue element value⟩)
  | .fixedArray element _, .fixedArray values =>
      encodeParts (values.map fun value => ⟨element.isDynamic, encodeValue element value⟩)
  | .tuple elements, .tuple values => encodeParts (partsOf elements values)
  | .function, .function value => value ++ List.replicate 8 0
  | _, _ => []

def partsOf : List DynSolType → List DynSolValue → List Part
  | type :: types, value :: values =>
      ⟨type.isDynamic, encodeValue type value⟩ :: partsOf types values
  | _, _ => []

end

/-- The argument data of a call. -/
def encodeParams (types : List DynSolType) (args : List DynSolValue) : Bytes :=
  encodeParts (partsOf types args)

/-! ## Declared functions -/

/-- The type as a JSON ABI names it. -/
def DynSolType.jsonName : DynSolType → String
  | .address => "address"
  | .uint bits => "uint" ++ toString bits
  | .int bits => "int" ++ toString bits
  | .bool => "bool"
  | .bytes => "bytes"
  | .fixedBytes size => "bytes" ++ toString size
  | .string => "string"
  | .array element => element.jsonName ++ "[]"
  | .fixedArray element length => element.jsonName ++ "[" ++ toString length ++ "]"
  | .tuple _ => "tuple"
  | .function => "function"

/-- A struct, or an array of structs. -/
def DynSolType.isStruct : DynSolType → Bool
  | .array element => element.isStruct
  | .fixedArray element _ => element.isStruct
  | .tuple _ => true
  | _ => false

mutual

/-- The components that belong to the type. -/
def DynSolType.Components : DynSolType → List AbiParam → Prop
  | .array element, components => element.Components components
  | .fixedArray element _, components => element.Components components
  | .tuple elements, components => DeclareAll elements components
  | _, components => components = []

/-- The parameters declare the types, in order. -/
def DeclareAll : List DynSolType → List AbiParam → Prop
  | [], [] => True
  | type :: types, param :: params =>
      (param.ty = type.jsonName ∧ type.Components param.components) ∧ DeclareAll types params
  | _, _ => False

end

/-- Parameters that declare types carry the names of these types, in their order. -/
theorem tys_of_declareAll {types : List DynSolType} {params : List AbiParam}
    (hdeclared : DeclareAll types params) :
    params.map AbiParam.ty = types.map DynSolType.jsonName := by
  induction types generalizing params with
  | nil =>
      cases params with
      | nil => rfl
      | cons param params => exact hdeclared.elim
  | cons type types ih =>
      cases params with
      | nil => exact hdeclared.elim
      | cons param params => rw [List.map_cons, List.map_cons, hdeclared.1.1, ih hdeclared.2]

/-! ## Signatures -/

def isTypeDelimiter (char : Char) : Bool := char == ',' || char == ')'

theorem isTypeDelimiter_of_mem_toString {char : Char} {value : ℕ}
    (hchar : char ∈ (toString value).toList) : isTypeDelimiter char = false := by
  rw [Decimal.toList_toString] at hchar
  have hdigit := Nat.isDigit_of_mem_toDigits (by omega) le_rfl hchar
  by_contra hdelimiter
  simp only [isTypeDelimiter, Bool.not_eq_false, Bool.or_eq_true, beq_iff_eq] at hdelimiter
  rcases hdelimiter with rfl | rfl <;> exact absurd hdigit (by decide)

/-- The name of a type has no delimiter within it, so the names in a signature can
be told apart; by induction on the type. -/
theorem plain_jsonName (type : DynSolType) : Plain isTypeDelimiter type.jsonName.toList := by
  have hsized {front : String} (hfront : Plain isTypeDelimiter front.toList) (value : ℕ) :
      Plain isTypeDelimiter (front ++ toString value).toList := by
    rw [String.toList_append]
    exact hfront.append fun char => isTypeDelimiter_of_mem_toString
  induction type using DynSolType.induction with
  | address => decide
  | uint bits => exact hsized (by decide) bits
  | int bits => exact hsized (by decide) bits
  | bool => decide
  | bytes => decide
  | fixedBytes size => exact hsized (by decide) size
  | string => decide
  | array element ih =>
      have hbrackets : Plain isTypeDelimiter "[]".toList := by decide
      rw [DynSolType.jsonName, String.toList_append]
      exact ih.append hbrackets.2
  | fixedArray element length ih =>
      have hopening : Plain isTypeDelimiter (element.jsonName ++ "[").toList := by
        have hbracket : Plain isTypeDelimiter "[".toList := by decide
        rw [String.toList_append]
        exact ih.append hbracket.2
      have hclosing : Plain isTypeDelimiter "]".toList := by decide
      rw [DynSolType.jsonName, String.toList_append]
      exact (hsized hopening length).append hclosing.2
  | tuple elements =>
      change Plain isTypeDelimiter "tuple".toList
      decide
  | function => decide

def signature (function : AbiFunction) : String :=
  function.name ++ "(" ++ ",".intercalate (function.inputs.map AbiParam.ty) ++ ")"

/-- Declared functions of one name have one signature only if they have the same
parameter types. -/
theorem tys_of_signature {left right : AbiFunction} {leftTypes rightTypes : List DynSolType}
    (hleft : DeclareAll leftTypes left.inputs) (hright : DeclareAll rightTypes right.inputs)
    (hname : left.name = right.name) (hsignature : signature left = signature right) :
    left.inputs.map AbiParam.ty = right.inputs.map AbiParam.ty := by
  have hplain {types : List DynSolType} :
      ∀ name ∈ types.map DynSolType.jsonName, Plain isTypeDelimiter name.toList := by
    rw [List.forall_mem_map]
    exact fun type _ => plain_jsonName type
  rw [signature, signature, hname, tys_of_declareAll hleft, tys_of_declareAll hright] at hsignature
  rw [tys_of_declareAll hleft, tys_of_declareAll hright]
  have hlists := congrArg String.toList hsignature
  simp only [String.toList_append, String.toList_intercalate, List.append_assoc] at hlists
  have hjoined : joined String.toList [','] (leftTypes.map DynSolType.jsonName) ++ [')'] =
      joined String.toList [','] (rightTypes.map DynSolType.jsonName) ++ [')'] :=
    List.append_cancel_left (List.append_cancel_left hlists)
  have hpairs : ∀ pair ∈ (leftTypes.map DynSolType.jsonName).zip
      (rightTypes.map DynSolType.jsonName),
        Separable isTypeDelimiter String.toList pair.1 pair.2 := by
    intro pair hpair
    obtain ⟨hfirst, hsecond⟩ := List.of_mem_zip hpair
    exact separable_of_plain (hplain _ hfirst) (hplain _ hsecond) String.toList_inj.1
  exact (joined_inj (by decide) (by decide) (by decide) hpairs
    (fun name hmem => (hplain name hmem).opens) (fun name hmem => (hplain name hmem).opens)
    hjoined).1

/-! ## What a call should show -/

variable (formats : Formats)

/-- The labels of parameters: their names, or their positions. -/
def shownLabels (params : List AbiParam) : List String :=
  params.zipIdx.map fun entry =>
    if entry.1.name.isEmpty then "param" ++ toString entry.2 else entry.1.name

/-- One row a parameter, in order, with its label and the text of its argument. -/
def callRows (function : AbiFunction) (args : List DynSolValue) : List AnnotatedPayloadField :=
  List.zipWith textRow (shownLabels function.inputs) (args.map (formatDynSolValue formats))

def callField (function : AbiFunction) (args : List DynSolValue) : SignablePayloadField :=
  let rows := callRows formats function args
  previewField function.name (signature function) (if rows.isEmpty then none else some rows)

theorem length_shownLabels (params : List AbiParam) :
    (shownLabels params).length = params.length := by
  rw [shownLabels, List.length_map, List.length_zipIdx]

/-- The rows are the labels of the parameters with the texts of their values, row by
row. -/
theorem paramRows_eq (params : List AbiParam) (values : List DynSolValue) :
    paramRows formats params values =
      List.zipWith textRow (shownLabels params) (values.map (formatDynSolValue formats)) := by
  rw [paramRows, shownLabels]
  generalize 0 = start
  induction params generalizing values start with
  | nil => rfl
  | cons param params ih =>
      cases values with
      | nil => rfl
      | cons value values =>
          rw [List.zip_cons_cons, List.zipIdx_cons, List.zipIdx_cons, List.map_cons, List.map_cons,
            List.map_cons, List.zipWith_cons_cons, ih]

/-- From the rows both the labels and the texts can be recovered, if there are as
many of the one as of the other. -/
theorem zipWith_textRow_inj {labels otherLabels texts otherTexts : List String}
    (hlength : labels.length = texts.length)
    (hotherLength : otherLabels.length = otherTexts.length)
    (heq : List.zipWith textRow labels texts = List.zipWith textRow otherLabels otherTexts) :
    labels = otherLabels ∧ texts = otherTexts := by
  have hrow {label otherLabel text otherText : String} :
      textRow label text = textRow otherLabel otherText ↔
        label = otherLabel ∧ text = otherText := by
    simp [textRow, plainField, textField, and_comm]
  have hcount := congrArg List.length heq
  rw [List.length_zipWith, List.length_zipWith, ← hlength, ← hotherLength, Nat.min_self,
    Nat.min_self] at hcount
  constructor
  · apply List.ext_getElem hcount
    intro index hindex hotherIndex
    have hat := List.getElem_of_eq heq (by simpa [← hlength] using hindex)
    rw [List.getElem_zipWith, List.getElem_zipWith] at hat
    exact (hrow.1 hat).1
  · apply List.ext_getElem (hlength.symm.trans (hcount.trans hotherLength))
    intro index hindex hotherIndex
    have hat := List.getElem_of_eq heq (by simpa [hlength] using hindex)
    rw [List.getElem_zipWith, List.getElem_zipWith] at hat
    exact (hrow.1 hat).2

/-! ## What the decoder relies on -/

/-- The first word as an offset into the data. -/
def leadingOffset (data : Bytes) : Option ℕ :=
  let offset := ofBeBytes (data.take 32)
  if 32 ≤ data.length ∧ offset ≤ data.length then some offset else none

/-- What is relied on of the crates for a call with these types and arguments.
`decodeParams` stands for `abi_decode_params` at the types: it inverts the
standard encoding.  A type name that is no struct's is parsed; and a tuple with
a dynamic member is decoded behind the offset that starts it, any other one in
place. -/
structure DynAbi.Standard (dyn : DynAbi) (solType : DynSolType → dyn.SolType)
    (decodeParams : Bytes → Except String (List DynSolValue)) (types : List DynSolType)
    (args : List DynSolValue) : Prop where
  parseType_name : ∀ type ∈ types, type.isStruct = false →
    dyn.parseType type.jsonName = .ok (solType type)
  parseType_struct : ∀ type ∈ types, type.isStruct = true →
    ∃ error, dyn.parseType type.jsonName = .error error
  decodeParams_encodeParams : HoldAll types args →
    decodeParams (encodeParams types args) = .ok args
  length_decodeParams : ∀ data values, decodeParams data = .ok values →
    values.length = types.length
  decodeTuple_static : anyDynamic types = false →
    dyn.decodeTuple (types.map solType) (encodeParams types args) =
      (decodeParams (encodeParams types args)).map .tuple
  decodeTuple_dynamic : anyDynamic types = true → ∀ decoded,
    dyn.decodeTuple (types.map solType) (encodeParams types args) = .ok decoded ↔
      ∃ offset values, leadingOffset (encodeParams types args) = some offset ∧
        decodeParams ((encodeParams types args).drop offset) = .ok values ∧
        decoded = .tuple values

/-- The first function of the ABI with the selector is shown as this one. -/
def FirstAlike (dyn : DynAbi) (abi : JsonAbi) (function : AbiFunction) : Prop :=
  ∃ before found after, abi.functions = before ++ found :: after ∧
    (∀ earlier ∈ before, dyn.selector earlier ≠ dyn.selector function) ∧
    dyn.selector found = dyn.selector function ∧
    found.name = function.name ∧
    found.inputs.map AbiParam.ty = function.inputs.map AbiParam.ty ∧
    shownLabels found.inputs = shownLabels function.inputs

/-- The argument list is read where it stands: no parameter is a struct, and
either every parameter is static or the word that is taken for an offset is
zero. -/
structure ReadInPlace (dyn : DynAbi) (abi : JsonAbi) (function : AbiFunction)
    (types : List DynSolType) (args : List DynSolValue) : Prop where
  first : FirstAlike dyn abi function
  noStruct : ∀ type ∈ types, type.isStruct = false
  offset : anyDynamic types = false ∨ leadingOffset (encodeParams types args) = some 0

/-- A dynamic argument list is read again further on, from the first offset of the
list itself, and what is found there happens to have the same texts. -/
structure ReadElsewhere (decodeParams : Bytes → Except String (List DynSolValue))
    (types : List DynSolType) (args : List DynSolValue) : Prop where
  dynamic : anyDynamic types = true
  coincide : ∃ offset values, 0 < offset ∧
    leadingOffset (encodeParams types args) = some offset ∧
    decodeParams ((encodeParams types args).drop offset) = .ok values ∧
    values.map (formatDynSolValue formats) = args.map (formatDynSolValue formats)

/-! ## The decoder -/

section Decoder

variable {dyn : DynAbi} {abi : JsonAbi} {function : AbiFunction} {types : List DynSolType}
  {args : List DynSolValue} {solType : DynSolType → dyn.SolType}
  {decodeParams : Bytes → Except String (List DynSolValue)}

/-- Parsing the parameter types reads nothing but their names. -/
theorem mapM_parseParamType {params : List AbiParam}
    (hparams : params.map AbiParam.ty = types.map DynSolType.jsonName)
    {parsed : List dyn.SolType} :
    params.mapM (parseParamType dyn) = .ok parsed ↔
      List.Forall₂ (fun type result => dyn.parseType type.jsonName = .ok result) types parsed := by
  simp only [mapM_eq_ok, parseParamType, mapError_eq_ok]
  rw [← List.forall₂_map_left_iff (R := fun name result => dyn.parseType name = .ok result)
    (f := AbiParam.ty), hparams, List.forall₂_map_left_iff]

/-- The types are parsed when none is a struct. -/
theorem forall₂_parseType
    (hname : ∀ type ∈ types, type.isStruct = false →
      dyn.parseType type.jsonName = .ok (solType type))
    (hstruct : ∀ type ∈ types, type.isStruct = true →
      ∃ error, dyn.parseType type.jsonName = .error error) {parsed : List dyn.SolType} :
    List.Forall₂ (fun type result => dyn.parseType type.jsonName = .ok result) types parsed ↔
      (∀ type ∈ types, type.isStruct = false) ∧ parsed = types.map solType := by
  induction types generalizing parsed with
  | nil => simp
  | cons type types ih =>
      rw [List.forall_mem_cons] at hname hstruct
      rw [List.forall₂_cons_left_iff, List.forall_mem_cons, List.map_cons]
      cases hkind : type.isStruct with
      | true =>
          obtain ⟨error, herror⟩ := hstruct.1 hkind
          simp [herror]
      | false =>
          simp [hname.1 hkind, ih hname.2 hstruct.2, and_assoc]

/-- The values that the argument data holds when it is read as a tuple. -/
def ReadAsTuple (decodeParams : Bytes → Except String (List DynSolValue))
    (types : List DynSolType) (args values : List DynSolValue) : Prop :=
  if anyDynamic types then
    ∃ offset, leadingOffset (encodeParams types args) = some offset ∧
      decodeParams ((encodeParams types args).drop offset) = .ok values
  else values = args

section Call

variable (hstandard : dyn.Standard solType decodeParams types args) (hargs : HoldAll types args)

include hstandard hargs

theorem length_args : args.length = types.length :=
  hstandard.length_decodeParams _ _ (hstandard.decodeParams_encodeParams hargs)

theorem length_of_readAsTuple {values : List DynSolValue}
    (hvalues : ReadAsTuple decodeParams types args values) : values.length = types.length := by
  unfold ReadAsTuple at hvalues
  split at hvalues
  · obtain ⟨offset, -, hvalues⟩ := hvalues
    exact hstandard.length_decodeParams _ _ hvalues
  · rw [hvalues, length_args hstandard hargs]

theorem decodeTuple_eq_ok {decoded : DynSolValue} :
    dyn.decodeTuple (types.map solType) (encodeParams types args) = .ok decoded ↔
      ∃ values, decoded = .tuple values ∧ ReadAsTuple decodeParams types args values := by
  unfold ReadAsTuple
  cases hdynamic : anyDynamic types with
  | true =>
      rw [hstandard.decodeTuple_dynamic hdynamic]
      simp only [if_true]
      constructor
      · rintro ⟨offset, values, hoffset, hvalues, hdecoded⟩
        exact ⟨values, hdecoded, offset, hoffset, hvalues⟩
      · rintro ⟨values, hdecoded, offset, hoffset, hvalues⟩
        exact ⟨offset, values, hoffset, hvalues, hdecoded⟩
  | false =>
      rw [hstandard.decodeTuple_static hdynamic, hstandard.decodeParams_encodeParams hargs]
      simp [Except.map, eq_comm]

/-- At a zero word, and at static types, the arguments themselves are read. -/
theorem readAsTuple_self
    (hoffset : anyDynamic types = false ∨ leadingOffset (encodeParams types args) = some 0) :
    ReadAsTuple decodeParams types args args := by
  unfold ReadAsTuple
  split
  · next hdynamic =>
      have hzero := hoffset.resolve_left (by rw [hdynamic]; decide)
      exact ⟨0, hzero, hstandard.decodeParams_encodeParams hargs⟩
  · rfl

/-- The rows of a call are those of the values that its tuple decodes to; a function
without parameters has none. -/
theorem argumentRows_eq_ok {found : AbiFunction}
    (hfound : found.inputs.map AbiParam.ty = types.map DynSolType.jsonName)
    {rows : List AnnotatedPayloadField} :
    argumentRows formats dyn found (encodeParams types args) = .ok rows ↔
      (types = [] ∧ rows = []) ∨ (types ≠ [] ∧ (∀ type ∈ types, type.isStruct = false) ∧
        ∃ values, rows = paramRows formats found.inputs values ∧
          ReadAsTuple decodeParams types args values) := by
  by_cases hempty : types = []
  · have hinputs : found.inputs = [] := by
      rw [hempty, List.map_nil, List.map_eq_nil_iff] at hfound
      exact hfound
    rw [argumentRows, hinputs, hempty]
    change Except.ok [] = Except.ok rows ↔ _
    constructor
    · intro hrows
      exact .inl ⟨rfl, (Except.ok.inj hrows).symm⟩
    · rintro (⟨-, rfl⟩ | ⟨hne, -⟩)
      · rfl
      · exact absurd rfl hne
  · have hinputs : ¬found.inputs.isEmpty = true := by
      rw [List.isEmpty_iff, ← List.map_eq_nil_iff (f := AbiParam.ty), hfound, List.map_eq_nil_iff]
      exact hempty
    rw [argumentRows, if_neg hinputs, bind_eq_ok]
    constructor
    · rintro ⟨parsed, hparsed, hrest⟩
      rw [mapM_parseParamType hfound,
        forall₂_parseType hstandard.parseType_name hstandard.parseType_struct] at hparsed
      obtain ⟨hstruct, rfl⟩ := hparsed
      obtain ⟨decoded, hdecoded, hrows⟩ := bind_eq_ok.1 hrest
      rw [mapError_eq_ok, decodeTuple_eq_ok hstandard hargs] at hdecoded
      obtain ⟨values, rfl, hvalues⟩ := hdecoded
      exact .inr ⟨hempty, hstruct, values, (pure_eq_ok.1 hrows).symm, hvalues⟩
    · rintro (⟨hnil, -⟩ | ⟨-, hstruct, values, rfl, hvalues⟩)
      · exact absurd hnil hempty
      · refine ⟨types.map solType, ?_, bind_eq_ok.2 ⟨.tuple values, ?_, rfl⟩⟩
        · rw [mapM_parseParamType hfound,
            forall₂_parseType hstandard.parseType_name hstandard.parseType_struct]
          exact ⟨hstruct, rfl⟩
        · rw [mapError_eq_ok, decodeTuple_eq_ok hstandard hargs]
          exact ⟨values, rfl, hvalues⟩

end Call

/-- The search stops at the first function with the selector. -/
theorem findFunctionBySelector_eq_some {selector : Bytes} {found : AbiFunction} :
    findFunctionBySelector dyn abi selector = some found ↔
      dyn.selector found = selector ∧ ∃ before after,
        abi.functions = before ++ found :: after ∧
          ∀ earlier ∈ before, dyn.selector earlier ≠ selector := by
  simp only [findFunctionBySelector, List.find?_eq_some_iff_append, decide_eq_true_eq,
    Bool.not_eq_true', decide_eq_false_iff_not, ne_eq]

/-- A function that is shown as another one has its name and signature, hence its
parameter types. -/
theorem firstAlike_of_found {found : AbiFunction}
    (hfound : findFunctionBySelector dyn abi (dyn.selector function) = some found)
    (hname : found.name = function.name)
    (htys : found.inputs.map AbiParam.ty = function.inputs.map AbiParam.ty)
    (hlabels : shownLabels found.inputs = shownLabels function.inputs) :
    FirstAlike dyn abi function := by
  obtain ⟨hselector, before, after, hfunctions, hbefore⟩ :=
    findFunctionBySelector_eq_some.1 hfound
  exact ⟨before, found, after, hfunctions, hbefore, hselector, hname, htys, hlabels⟩

/-- Calldata is shown if the ABI has a function with its selector and the arguments
can be shown as rows. -/
theorem visualizeByAbi_eq_ok (hselector : (dyn.selector function).length = 4) {data : Bytes}
    {field : SignablePayloadField} :
    visualizeByAbi formats dyn abi (dyn.selector function ++ data) = .ok field ↔
      ∃ found rows, findFunctionBySelector dyn abi (dyn.selector function) = some found ∧
        argumentRows formats dyn found data = .ok rows ∧
        previewField found.name (signature found) (if rows.isEmpty then none else some rows) =
          field := by
  have hlength : 4 ≤ (dyn.selector function ++ data).length := by
    rw [List.length_append]
    omega
  rw [visualizeByAbi, bind_eq_ok]
  simp only [require_eq_ok, bind_eq_ok, okOr_eq_ok, pure_eq_ok, List.take_left' hselector,
    List.drop_left' hselector]
  constructor
  · rintro ⟨-, -, found, hfound, rows, hrows, hfield⟩
    exact ⟨found, rows, hfound, hrows, hfield⟩
  · rintro ⟨found, rows, hfound, hrows, hfield⟩
    exact ⟨(), hlength, found, hfound, rows, hrows, hfield⟩

/-- From the preview the name, the text and the rows can be recovered; an empty list
of rows is shown as no list. -/
theorem previewField_rows_inj {name otherName text otherText : String}
    {rows otherRows : List AnnotatedPayloadField} :
    previewField name text (if rows.isEmpty then none else some rows) =
        previewField otherName otherText (if otherRows.isEmpty then none else some otherRows) ↔
      name = otherName ∧ text = otherText ∧ rows = otherRows := by
  have hrows : (if rows.isEmpty then none else some rows) =
      (if otherRows.isEmpty then none else some otherRows) ↔ rows = otherRows := by
    cases rows <;> cases otherRows <;> simp
  constructor
  · intro heq
    simp only [previewField, SignablePayloadField.previewLayout.injEq,
      SignablePayloadFieldCommon.mk.injEq, SignablePayloadFieldPreviewLayout.mk.injEq] at heq
    refine ⟨heq.1.2, heq.1.1, hrows.1 ?_⟩
    exact Option.map_injective (fun _ _ => SignablePayloadFieldListLayout.mk.inj) heq.2.2.2.2
  · rintro ⟨rfl, rfl, rfl⟩
    rfl

section Shown

variable (hselector : (dyn.selector function).length = 4)
  (habi : ∀ declared ∈ abi.functions, ∃ types, DeclareAll types declared.inputs)
  (htypes : DeclareAll types function.inputs) (hargs : HoldAll types args)
  (hstandard : dyn.Standard solType decodeParams types args)

include hselector htypes hargs hstandard

/-- What is read in place is shown, argument by argument. -/
theorem shown_of_readInPlace (hplace : ReadInPlace dyn abi function types args) :
    visualizeByAbi formats dyn abi (dyn.selector function ++ encodeParams types args) =
      .ok (callField formats function args) := by
  have htys := tys_of_declareAll htypes
  have hinputsLength : function.inputs.length = types.length := by
    simpa using congrArg List.length htys
  obtain ⟨before, found, after, hfunctions, hbefore, hsame, hname, hfoundTys, hlabels⟩ :=
    hplace.first
  have hfound : findFunctionBySelector dyn abi (dyn.selector function) = some found :=
    findFunctionBySelector_eq_some.2 ⟨hsame, before, after, hfunctions, hbefore⟩
  have hsignature : signature found = signature function := by
    rw [signature, signature, hname, hfoundTys]
  rw [visualizeByAbi_eq_ok formats hselector]
  refine ⟨found, callRows formats function args, hfound, ?_, by rw [hname, hsignature]; rfl⟩
  rw [argumentRows_eq_ok formats hstandard hargs (hfoundTys.trans htys)]
  by_cases hnil : types = []
  · rw [hnil, List.length_nil, List.length_eq_zero_iff] at hinputsLength
    exact .inl ⟨hnil, by rw [callRows, hinputsLength]; rfl⟩
  · exact .inr ⟨hnil, hplace.noStruct, args, by rw [callRows, paramRows_eq, hlabels],
      readAsTuple_self hstandard hargs hplace.offset⟩

include habi

/-- What is shown was read in place, or read elsewhere with the same texts. -/
theorem readInPlace_or_elsewhere
    (hshown : visualizeByAbi formats dyn abi (dyn.selector function ++ encodeParams types args) =
      .ok (callField formats function args)) :
    ReadInPlace dyn abi function types args ∨
      FirstAlike dyn abi function ∧ (∀ type ∈ types, type.isStruct = false) ∧
        ReadElsewhere formats decodeParams types args := by
  have htys := tys_of_declareAll htypes
  have hargsLength := length_args hstandard hargs
  have hinputsLength : function.inputs.length = types.length := by
    simpa using congrArg List.length htys
  rw [visualizeByAbi_eq_ok formats hselector] at hshown
  obtain ⟨found, rows, hfound, hrows, hfield⟩ := hshown
  obtain ⟨hname, hsignature, rfl⟩ := previewField_rows_inj.1 hfield
  obtain ⟨foundTypes, hfoundTypes⟩ := habi found (List.mem_of_find?_eq_some hfound)
  have hsame := tys_of_signature hfoundTypes htypes hname hsignature
  have hfoundLength : found.inputs.length = types.length := by
    simpa using congrArg List.length (hsame.trans htys)
  rw [argumentRows_eq_ok formats hstandard hargs (hsame.trans htys)] at hrows
  rcases hrows with ⟨hnil, -⟩ | ⟨-, hstruct, values, hequal, hvalues⟩
  · rw [hnil, List.length_nil, List.length_eq_zero_iff] at hfoundLength hinputsLength
    have hfirst := firstAlike_of_found hfound hname hsame (by rw [hfoundLength, hinputsLength])
    rw [hnil]
    exact .inl ⟨hfirst, by simp, .inl rfl⟩
  · have hvaluesLength := length_of_readAsTuple hstandard hargs hvalues
    rw [callRows, paramRows_eq] at hequal
    obtain ⟨hlabels, htexts⟩ := zipWith_textRow_inj
      (by rw [length_shownLabels, List.length_map, hinputsLength, hargsLength])
      (by rw [length_shownLabels, List.length_map, hfoundLength, hvaluesLength]) hequal
    have hfirst := firstAlike_of_found hfound hname hsame hlabels.symm
    unfold ReadAsTuple at hvalues
    split at hvalues
    · next hdynamic =>
        obtain ⟨offset, hoffset, hdecoded⟩ := hvalues
        rcases Nat.eq_zero_or_pos offset with rfl | hpos
        · exact .inl ⟨hfirst, hstruct, .inr hoffset⟩
        · exact .inr ⟨hfirst, hstruct, hdynamic, offset, values, hpos, hoffset, hdecoded,
            htexts.symm⟩
    · next hstatic => exact .inl ⟨hfirst, hstruct, .inl (Bool.eq_false_iff.2 hstatic)⟩

end Shown

/-- For every declared function of an ABI and every list of arguments: the call in
the standard encoding is shown, argument by argument, when the argument list is
read in place.  Nothing else shows it, except that a dynamic list that is read
from a wrong offset can have the texts of the arguments by coincidence. -/
theorem visualizeByAbi_shows (hselector : (dyn.selector function).length = 4)
    (habi : ∀ declared ∈ abi.functions, ∃ types, DeclareAll types declared.inputs)
    (htypes : DeclareAll types function.inputs) (hargs : HoldAll types args)
    (hstandard : dyn.Standard solType decodeParams types args) :
    (ReadInPlace dyn abi function types args →
      visualizeByAbi formats dyn abi (dyn.selector function ++ encodeParams types args) =
        .ok (callField formats function args)) ∧
    (visualizeByAbi formats dyn abi (dyn.selector function ++ encodeParams types args) =
        .ok (callField formats function args) →
      ReadInPlace dyn abi function types args ∨
        FirstAlike dyn abi function ∧ (∀ type ∈ types, type.isStruct = false) ∧
          ReadElsewhere formats decodeParams types args) :=
  ⟨shown_of_readInPlace formats hselector htypes hargs hstandard,
    readInPlace_or_elsewhere formats hselector habi htypes hargs hstandard⟩

end Decoder

/-! ## Calls that store a byte string -/

/-- The argument decoder of `store(bytes)` and of `storeAt(uint256,bytes)`. -/
def decodeStored : List DynSolType → Bytes → Except String (List DynSolValue)
  | [.bytes], data =>
      okOr "buffer overrun while deserializing"
        ((Abi.decodeSequence Abi.bytes data).map fun value => [.bytes value])
  | [.uint bits, .bytes], data =>
      okOr "buffer overrun while deserializing"
        ((Abi.decodeSequence (Prod.mk <$> Abi.uint bits <*> Abi.bytes) data).map fun stored =>
          [.uint stored.1.toNat bits, .bytes stored.2])
  | _, _ => .error "unsupported"

/-- Crates that know the types and the selectors of the two functions. -/
def storeAbi : DynAbi where
  SolType := DynSolType
  fromStr _ := .error "unsupported"
  selector function :=
    if function.name = "store" then [0xb3, 0x74, 0x01, 0x2b] else [0xe1, 0x80, 0x12, 0x15]
  parseType name :=
    if name = "bytes" then .ok .bytes
    else if name = "uint256" then .ok (.uint 256)
    else .error ("invalid type string: " ++ name)
  decodeTuple types data :=
    match leadingOffset data with
    | some offset => (decodeStored types (data.drop offset)).map .tuple
    | none => .error "buffer overrun while deserializing"

def storeFunction : AbiFunction := ⟨"store", [⟨"data", "bytes", []⟩]⟩

def storeAtFunction : AbiFunction := ⟨"storeAt", [⟨"slot", "uint256", []⟩, ⟨"", "bytes", []⟩]⟩

def storage : JsonAbi := ⟨[storeFunction, storeAtFunction]⟩

theorem declareAll_storeFunction : DeclareAll [.bytes] storeFunction.inputs :=
  ⟨⟨rfl, rfl⟩, trivial⟩

theorem declareAll_storeAtFunction : DeclareAll [.uint 256, .bytes] storeAtFunction.inputs :=
  ⟨⟨by decide +kernel, rfl⟩, ⟨rfl, rfl⟩, trivial⟩

theorem declared_storage :
    ∀ declared ∈ storage.functions, ∃ types, DeclareAll types declared.inputs := by
  intro declared hdeclared
  rcases List.mem_pair.1 hdeclared with rfl | rfl
  · exact ⟨_, declareAll_storeFunction⟩
  · exact ⟨_, declareAll_storeAtFunction⟩

theorem length_decodeStored {types : List DynSolType} {data : Bytes} {values : List DynSolValue}
    (hvalues : decodeStored types data = .ok values) : values.length = types.length := by
  unfold decodeStored at hvalues
  split at hvalues
  · rw [okOr_eq_ok, Option.map_eq_some_iff] at hvalues
    obtain ⟨value, -, rfl⟩ := hvalues
    rfl
  · rw [okOr_eq_ok, Option.map_eq_some_iff] at hvalues
    obtain ⟨stored, -, rfl⟩ := hvalues
    rfl
  · cases hvalues

theorem standard_storeAbi {types : List DynSolType} {args : List DynSolValue}
    (hdynamic : anyDynamic types = true)
    (hparse : ∀ type ∈ types, type.isStruct = false ∧
      storeAbi.parseType type.jsonName = .ok type)
    (hdecode : decodeStored types (encodeParams types args) = .ok args) :
    storeAbi.Standard id (decodeStored types) types args where
  parseType_name type htype _ := (hparse type htype).2
  parseType_struct type htype hstruct := by
    rw [(hparse type htype).1] at hstruct
    cases hstruct
  decodeParams_encodeParams _ := hdecode
  length_decodeParams _ _ := length_decodeStored
  decodeTuple_static hstatic := absurd hstatic (by rw [hdynamic]; decide)
  decodeTuple_dynamic _ decoded := by
    simp only [storeAbi, List.map_id]
    cases hoffset : leadingOffset (encodeParams types args) with
    | none => simp
    | some offset =>
        dsimp only
        rw [map_eq_ok]
        constructor
        · rintro ⟨values, hvalues, rfl⟩
          exact ⟨offset, values, rfl, hvalues, rfl⟩
        · rintro ⟨other, values, hother, hvalues, rfl⟩
          rw [← Option.some.inj hother] at hvalues
          exact ⟨values, hvalues, rfl⟩

theorem standard_store {value : Bytes}
    (hdecode : Abi.decodeSequence Abi.bytes (encodeParams [.bytes] [.bytes value]) = some value) :
    storeAbi.Standard id (decodeStored [.bytes]) [.bytes] [.bytes value] := by
  apply standard_storeAbi rfl
  · intro type htype
    rw [List.mem_singleton.1 htype]
    exact ⟨rfl, rfl⟩
  · rw [decodeStored, hdecode]
    rfl

theorem standard_storeAt {slot : ℕ} {value : Bytes}
    (hdecode : (Abi.decodeSequence (Prod.mk <$> Abi.uint 256 <*> Abi.bytes)
      (encodeParams [.uint 256, .bytes] [.uint slot 256, .bytes value])).map
        (fun stored => (stored.1.toNat, stored.2)) = some (slot, value)) :
    storeAbi.Standard id (decodeStored [.uint 256, .bytes]) [.uint 256, .bytes]
      [.uint slot 256, .bytes value] := by
  apply standard_storeAbi rfl
  · intro type htype
    rcases List.mem_pair.1 htype with rfl | rfl
    · have hname : (DynSolType.uint 256).jsonName = "uint256" := by decide +kernel
      exact ⟨rfl, by rw [hname]; rfl⟩
    · exact ⟨rfl, rfl⟩
  · obtain ⟨stored, hstored, hvalues⟩ := Option.map_eq_some_iff.1 hdecode
    obtain ⟨rfl, rfl⟩ := Prod.mk.inj hvalues
    rw [decodeStored, hstored]
    rfl

/-- A byte string at slot zero is shown: its call starts with a zero word. -/
theorem visualizeByAbi_shows_slot :
    visualizeByAbi plainFormats storeAbi storage (storeAbi.selector storeAtFunction ++
        encodeParams [.uint 256, .bytes] [.uint 0 256, .bytes [0xff]]) =
      .ok (callField plainFormats storeAtFunction [.uint 0 256, .bytes [0xff]]) := by
  have hplace : ReadInPlace storeAbi storage storeAtFunction [.uint 256, .bytes]
      [.uint 0 256, .bytes [0xff]] := by
    refine ⟨⟨[storeFunction], storeAtFunction, [], rfl, ?_, rfl, rfl, rfl, rfl⟩, ?_, ?_⟩
    · intro earlier hearlier
      rw [List.mem_singleton.1 hearlier]
      decide
    · intro type htype
      rcases List.mem_pair.1 htype with rfl | rfl <;> rfl
    · exact .inr (by decide +kernel)
  have hargs : HoldAll [.uint 256, .bytes] [.uint 0 256, .bytes [0xff]] :=
    ⟨⟨rfl, by decide⟩, trivial, trivial⟩
  exact (visualizeByAbi_shows plainFormats (by decide) declared_storage
    declareAll_storeAtFunction hargs (standard_storeAt (by decide +kernel))).1 hplace

/-- A call with one byte is not shown: its length is taken for an offset. -/
theorem byte_argument_not_shown :
    ¬∀ (formats : Formats) (dyn : DynAbi) (abi : JsonAbi) (function : AbiFunction)
      (types : List DynSolType) (args : List DynSolValue) (solType : DynSolType → dyn.SolType)
      (decodeParams : Bytes → Except String (List DynSolValue)),
      (dyn.selector function).length = 4 →
      (∀ declared ∈ abi.functions, ∃ types, DeclareAll types declared.inputs) →
      function ∈ abi.functions → DeclareAll types function.inputs → HoldAll types args →
      dyn.Standard solType decodeParams types args →
      visualizeByAbi formats dyn abi (dyn.selector function ++ encodeParams types args) =
        .ok (callField formats function args) := by
  intro hall
  have hshown := hall plainFormats storeAbi storage storeFunction [.bytes]
    [.bytes [0xff]] id (decodeStored [.bytes]) rfl declared_storage (List.mem_cons_self ..)
    declareAll_storeFunction ⟨trivial, trivial⟩ (standard_store (by decide))
  have hrefused : (visualizeByAbi plainFormats storeAbi storage
      (storeAbi.selector storeFunction ++ encodeParams [.bytes] [.bytes [0xff]])).toBool =
        false := by
    decide +kernel
  rw [hshown] at hrefused
  cases hrefused

end VisualSignParser.Ethereum
