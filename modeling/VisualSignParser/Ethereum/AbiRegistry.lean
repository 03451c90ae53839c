import VisualSignParser.Codec.Outcome
import VisualSignParser.Ethereum.Tokens

/-!
# ABIs supplied with a request

A registry of parsed ABIs by name and of the contracts they describe, the
decoder that shows a call by an ABI, and the resolution of proxies to the ABI of
their implementation.  Types and values of the ABI are read by crates outside
the repository; `DynAbi` holds their operations.
-/

namespace VisualSignParser.Ethereum

open VisualSignParser.Framing
open VisualSignParser.OrderedMap
open VisualSignParser.Outcome
open VisualSignParser.VisualSign

/-! ## Values -/

/-- `alloy_dyn_abi::DynSolValue`. -/
inductive DynSolValue where
  | address (value : Address)
  | uint (value bits : ℕ)
  | int (value : ℤ) (bits : ℕ)
  | bool (value : Bool)
  | bytes (value : Bytes)
  | fixedBytes (value : Bytes) (size : ℕ)
  | string (value : String)
  | array (values : List DynSolValue)
  | fixedArray (values : List DynSolValue)
  | tuple (values : List DynSolValue)
  | function (value : Bytes)

mutual

def formatDynSolValue (formats : Formats) : DynSolValue → String
  | .address value => formats.debugAddress value
  | .uint value _ => toString value
  | .int value _ => toString value
  | .bool value => toString value
  | .bytes value => hexText value
  | .fixedBytes value _ => hexText value
  | .string value => value
  | .array values => "[" ++ ", ".intercalate (formatDynSolValues formats values) ++ "]"
  | .fixedArray values => "[" ++ ", ".intercalate (formatDynSolValues formats values) ++ "]"
  | .tuple values => "(" ++ ", ".intercalate (formatDynSolValues formats values) ++ ")"
  | .function value => hexText value

def formatDynSolValues (formats : Formats) : List DynSolValue → List String
  | [] => []
  | value :: values => formatDynSolValue formats value :: formatDynSolValues formats values

end

/-! ## Decoding by an ABI -/

/-- The type of a struct is `tuple`, and its members are the components. -/
structure AbiParam where
  name : String
  ty : String
  components : List AbiParam

structure AbiFunction where
  name : String
  inputs : List AbiParam

/-- The functions of an ABI, in the order in which they are searched. -/
structure JsonAbi where
  functions : List AbiFunction

/-- The operations of `alloy_json_abi` and `alloy_dyn_abi`; errors are their
texts. -/
structure DynAbi where
  SolType : Type
  fromStr : String → Except String JsonAbi
  selector : AbiFunction → Bytes
  parseType : String → Except String SolType
  decodeTuple : List SolType → Bytes → Except String DynSolValue

section Decoder

variable (formats : Formats) (dyn : DynAbi)

def findFunctionBySelector (abi : JsonAbi) (selector : Bytes) : Option AbiFunction :=
  abi.functions.find? fun function => dyn.selector function = selector

def parseParamType (param : AbiParam) : Except String dyn.SolType :=
  (dyn.parseType param.ty).mapError fun error =>
    "Failed to parse type '" ++ param.ty ++ "': " ++ error

def paramRows (params : List AbiParam) (values : List DynSolValue) :
    List AnnotatedPayloadField :=
  (params.zip values).zipIdx.map fun entry =>
    let name := entry.1.1.name
    textRow (if name.isEmpty then "param" ++ toString entry.2 else name)
      (formatDynSolValue formats entry.1.2)

/-- The rows of the arguments; a function without parameters has none. -/
def argumentRows (function : AbiFunction) (inputData : Bytes) :
    Except String (List AnnotatedPayloadField) :=
  if function.inputs.isEmpty then .ok []
  else do
    let types ← function.inputs.mapM (parseParamType dyn)
    let decoded ← (dyn.decodeTuple types inputData).mapError fun error =>
      "Failed to decode parameters: " ++ error ++ ". Data length: " ++
        toString inputData.length ++ ", Data: " ++ hexText inputData
    match decoded with
    | .tuple values => pure (paramRows formats function.inputs values)
    | _ => .error "Expected tuple from decode"

/-- `AbiDecoder::visualize`. -/
def visualizeByAbi (abi : JsonAbi) (calldata : Bytes) : Except String SignablePayloadField := do
  require (4 ≤ calldata.length) "Calldata too short"
  let function ← okOr "Function not found" (findFunctionBySelector dyn abi (calldata.take 4))
  let rows ← argumentRows formats dyn function (calldata.drop 4)
  let signature :=
    function.name ++ "(" ++ ",".intercalate (function.inputs.map AbiParam.ty) ++ ")"
  pure (previewField function.name signature (if rows.isEmpty then none else some rows))

/-- `DynamicAbiVisualizer::visualize_calldata`. -/
def visualizeCalldata (abi : JsonAbi) (calldata : Bytes) : Option SignablePayloadField :=
  (visualizeByAbi formats dyn abi calldata).toOption

end Decoder

/-! ## The registry -/

inductive AbiKind where
  | implementation
  | proxy
  deriving DecidableEq

structure AddressMapping where
  abiName : String
  abiKind : AbiKind
  implementation : Option Address

structure AbiRegistry where
  abis : BTreeMap String JsonAbi
  addressMappings : BTreeMap ChainAddress AddressMapping

namespace AbiRegistry

def new : AbiRegistry := ⟨BTreeMap.empty, BTreeMap.empty⟩

def registerAbi (dyn : DynAbi) (registry : AbiRegistry) (name abiJson : String) :
    Except String AbiRegistry := do
  let abi ← dyn.fromStr abiJson
  pure { registry with abis := registry.abis.insert name abi }

def mapAddressWithType (registry : AbiRegistry) (chainId : ChainId) (address : Address)
    (abiName : String) (abiKind : AbiKind) (implementation : Option Address) : AbiRegistry :=
  { registry with
    addressMappings :=
      registry.addressMappings.insert ⟨chainId, address⟩ ⟨abiName, abiKind, implementation⟩ }

def getAbiForAddress (registry : AbiRegistry) (chainId : ChainId) (address : Address) :
    Option JsonAbi := do
  let mapping ← registry.addressMappings.get ⟨chainId, address⟩
  registry.abis.get mapping.abiName

def getAbiKind (registry : AbiRegistry) (chainId : ChainId) (address : Address) :
    Option AbiKind :=
  (registry.addressMappings.get ⟨chainId, address⟩).map AddressMapping.abiKind

/-- The implementation behind a proxy and its ABI; one link is followed. -/
def getImplementationAbi (registry : AbiRegistry) (chainId : ChainId) (proxy : Address) :
    Option (Address × JsonAbi) := do
  let mapping ← registry.addressMappings.get ⟨chainId, proxy⟩
  if mapping.abiKind = .proxy then
    let implementation ← mapping.implementation
    let abi ← registry.getAbiForAddress chainId implementation
    pure (implementation, abi)
  else none

end AbiRegistry

/-! ## Calls to a contract of the registry -/

section Visualize

variable (formats : Formats) (dyn : DynAbi)

/-- The address a proxy delegates to. -/
def implementationField (badge : String) (implementation : Address) : SignablePayloadField :=
  let text := formats.displayAddress implementation
  .addressV2 ⟨text, "Implementation"⟩ ⟨text, "Implementation", none, "", some badge⟩

def implementationAddressField (implementation : Address) : SignablePayloadField :=
  implementationField formats "Proxy implementation" implementation

def unresolvedImplementationField (implementation : Address) : SignablePayloadField :=
  implementationField formats "Proxy implementation (unresolved)" implementation

def visualizeWithAbiRegistry (registry : AbiRegistry) (chainId : ChainId) (toAddress : Address)
    (input : Bytes) : List SignablePayloadField :=
  let ownField := (registry.getAbiForAddress chainId toAddress).bind fun abi =>
    visualizeCalldata formats dyn abi input
  let linked := if registry.getAbiKind chainId toAddress = some .proxy then
      registry.getImplementationAbi chainId toAddress
    else none
  match linked with
  | some (implementation, abi) => match visualizeCalldata formats dyn abi input with
    | some field => [implementationAddressField formats implementation, field]
    | none =>
        [unresolvedImplementationField formats implementation,
          ownField.getD (visualizeHex input)]
  | none => ownField.toList

end Visualize

end VisualSignParser.Ethereum
