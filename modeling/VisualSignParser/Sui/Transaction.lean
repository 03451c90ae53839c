import VisualSignParser.Codec.Outcome
import VisualSignParser.Json.Value
import VisualSignParser.VisualSign.FieldBuilders

/-!
# Programmable transactions

A programmable transaction is a list of commands over a list of inputs.  An
argument names the gas coin, an input, or a result of an earlier command.
-/

namespace VisualSignParser.Sui

open VisualSignParser.Framing
open VisualSignParser.Outcome
open VisualSignParser.VisualSign

abbrev SuiAddress := ByteArr 32

abbrev ObjectID := ByteArr 32

/-- `SuiAddress: Display`. -/
def SuiAddress.display (address : SuiAddress) : String := "0x" ++ Hex.encode address.val

def ObjectID.toHex (id : ObjectID) : String := Hex.encode id.val

/-- The digits without leading zeros. -/
def ObjectID.toHexLiteral (id : ObjectID) : String :=
  let digits := (Hex.encode id.val).toList.dropWhile (· == '0')
  "0x" ++ if digits.isEmpty then "0" else String.ofList digits

inductive SuiArgument where
  | gasCoin
  | input (index : UInt16)
  | result (command : UInt16)
  | nestedResult (command index : UInt16)
  deriving DecidableEq

inductive TypeTag where
  | bool
  | u8
  | u16
  | u32
  | u64
  | u128
  | u256
  | address
  | signer
  | vector (element : TypeTag)
  | struct (name : String)
  deriving DecidableEq

/-- A pure input with its type, when the call that uses it tells one. -/
structure SuiPureValue where
  valueType : Option TypeTag
  value : Json.Value

inductive SuiObjectArg where
  | immOrOwnedObject (objectId : ObjectID)
  | sharedObject (objectId : ObjectID)
  | receiving (objectId : ObjectID)

def SuiObjectArg.objectId : SuiObjectArg → ObjectID
  | .immOrOwnedObject objectId => objectId
  | .sharedObject objectId => objectId
  | .receiving objectId => objectId

inductive SuiCallArg where
  | object (arg : SuiObjectArg)
  | pure (value : SuiPureValue)

def SuiCallArg.pure? : SuiCallArg → Option SuiPureValue
  | .pure value => some value
  | .object _ => none

structure SuiProgrammableMoveCall where
  package : ObjectID
  module : String
  function : String
  typeArguments : List String
  arguments : List SuiArgument

inductive SuiCommand where
  | moveCall (call : SuiProgrammableMoveCall)
  | transferObjects (objects : List SuiArgument) (recipient : SuiArgument)
  | splitCoins (coin : SuiArgument) (amounts : List SuiArgument)
  | mergeCoins (coin : SuiArgument) (sources : List SuiArgument)
  | publish (dependencies : List ObjectID)
  | upgrade (dependencies : List ObjectID) (package : ObjectID) (ticket : SuiArgument)
  | makeMoveVec (type : Option String) (elements : List SuiArgument)

/-- What the Sui crates read off pure values. -/
structure SuiJson where
  /-- `SuiPureValue::to_sui_address`. -/
  toSuiAddress : SuiPureValue → Except String SuiAddress
  /-- `SuiJsonValue::to_move_value` at the layout of `u64`, none for a value of
  another kind. -/
  toMoveU64 : Json.Value → Except String (Option UInt64)

/-- Nothing is read, as where no pure value is an address or typed. -/
def noJson : SuiJson := ⟨fun _ => .error "no address", fun _ => .error "not typed"⟩

/-! ## Arguments -/

def parseNumericArgument : SuiArgument → Except VisualSignError UInt16
  | .input index => .ok index
  | .result _ => .error (.decodeError
      ("Cannot dereference `SuiArgument::Result(N)` as an input index: it references the " ++
        "output of a prior command, not the inputs vector"))
  | _ => .error (.decodeError
      "Parsing numeric argument from Sui argument (expected `Input`)")

def parseResultCommandIndex : SuiArgument → Except VisualSignError UInt16
  | .result command => .ok command
  | _ => .error (.decodeError "Expected `SuiArgument::Result(N)` for command-index lookup")

def getIndex (args : List SuiArgument) (index : Option ℕ) : Except VisualSignError UInt16 := do
  let arg ← match index with
    | some index => okOr (.missingData "Index out of bounds") args[index]?
    | none => okOr (.missingData "No arguments provided") args.head?
  parseNumericArgument arg

/-- `Value::as_u64`. -/
def asU64 : Json.Value → Option ℕ
  | .number number =>
      if number.1.all Char.isDigit && Json.ofDecimal number.1 < 2 ^ 64 then
        some (Json.ofDecimal number.1)
      else none
  | _ => none

def jsonByte (entry : Json.Value × ℕ) : Except String UInt8 := do
  let value ← okOr ("Non-integer at index " ++ toString entry.2) (asU64 entry.1)
  if value < 256 then pure (UInt8.ofNat value)
  else .error ("Byte out of range at index " ++ toString entry.2 ++ ": " ++ toString value)

def jsonArrayToBytes : Json.Value → Except String Bytes
  | .array items => items.zipIdx.mapM jsonByte
  | _ => .error "Expected JSON array for pure bytes"

/-- `u64::from_le_bytes` of a slice. -/
def u64FromLeBytes (bytes : Bytes) : Except String UInt64 :=
  if bytes.length = 8 then .ok (UInt64.ofNat (ofLeBytes bytes))
  else .error "Invalid u64 value: could not convert slice to array"

/-- The branch of a value whose type is known. -/
def u64FromMoveValue (json : SuiJson) (type : TypeTag) (value : Json.Value) :
    Except VisualSignError UInt64 :=
  if type ≠ .u64 then .error (.decodeError "Expected u64 value type")
  else match json.toMoveU64 value with
    | .error message => .error (.decodeError message)
    | .ok (some number) => .ok number
    | .ok none => .error (.decodeError "Expected u64 value type")

/-- `decode_number::<u64>`. -/
def decodeNumber (json : SuiJson) : SuiCallArg → Except VisualSignError UInt64
  | .object _ => .error (.decodeError "Unexpected object in `decode_number`")
  | .pure pure => match pure.valueType with
    | none => do
        let bytes ← (jsonArrayToBytes pure.value).mapError fun error =>
          .decodeError ("Invalid pure value bytes: " ++ error)
        (u64FromLeBytes bytes).mapError .decodeError
    | some type => u64FromMoveValue json type pure.value

/-- The first six and the last four characters of a long address. -/
def truncateAddress (address : String) : String :=
  let chars := address.toList
  if chars.length ≤ 10 then address
  else String.ofList (chars.take 6 ++ "...".toList ++ chars.drop (chars.length - 4))

/-! ## Visualizers -/

structure VisualizerContext where
  sender : SuiAddress
  commandIndex : ℕ
  commands : List SuiCommand
  inputs : List SuiCallArg

inductive VisualizerKind where
  | dex (name : String)
  | lending (name : String)
  | stakingPools (name : String)
  | payments (name : String)
  deriving DecidableEq

/-- `CommandVisualizer`: which commands it takes and what it shows of them. -/
structure CommandVisualizer where
  canHandle : VisualizerContext → Bool
  visualizeTxCommands : VisualizerContext → Except VisualSignError (List AnnotatedPayloadField)
  kind : VisualizerKind

structure VisualizeResult where
  field : List AnnotatedPayloadField
  kind : VisualizerKind

def visualizeWithAny (visualizers : List CommandVisualizer) (context : VisualizerContext) :
    Option (Except VisualSignError VisualizeResult) :=
  visualizers.findSome? fun visualizer =>
    if visualizer.canHandle context then
      some ((visualizer.visualizeTxCommands context).map fun field => ⟨field, visualizer.kind⟩)
    else none

/-- The supported functions of the modules of packages. -/
structure SuiIntegrationConfigData where
  packages : List (String × List (String × List String))

/-- Lookups in the two maps, then membership in the list of functions. -/
def SuiIntegrationConfigData.canHandle (data : SuiIntegrationConfigData)
    (package module function : String) : Bool :=
  (((data.packages.lookup package).bind fun modules => modules.lookup module).map fun functions =>
    functions.contains function).getD false

/-- The visualizer of an integration takes the calls its configuration lists. -/
def configCanHandle (data : SuiIntegrationConfigData) (context : VisualizerContext) : Bool :=
  match context.commands[context.commandIndex]? with
  | some (.moveCall call) =>
      data.canHandle (ObjectID.toHexLiteral call.package) call.module call.function
  | _ => false

end VisualSignParser.Sui
