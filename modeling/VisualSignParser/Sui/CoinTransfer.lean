import VisualSignParser.Sui.Transaction

/-!
# Transfers and stakes

What is shown of `TransferObjects` commands and of calls to native staking.  An
amount is shown for the result of a `SplitCoins` with a single amount.
-/

namespace VisualSignParser.Sui

open VisualSignParser.Outcome
open VisualSignParser.VisualSign

inductive CoinObject where
  | sui
  | unknownObject (id : String)
  deriving DecidableEq

def CoinObject.display : CoinObject → String
  | .sui => "Sui"
  | .unknownObject id => "Object ID: " ++ id

def CoinObject.getLabel : CoinObject → String
  | .sui => "MIST"
  | .unknownObject _ => "Unknown"

section Resolution

variable (json : SuiJson) (commands : List SuiCommand) (inputs : List SuiCallArg)

/-- A pure input read as an address. -/
def pureAddress (input : SuiCallArg) : Except VisualSignError SuiAddress := do
  let pure ← okOr (.missingData "Receiver input not found") input.pure?
  (json.toSuiAddress pure).mapError .conversionError

def resolveReceiver (receiver : SuiArgument) : Except VisualSignError SuiAddress := do
  let index ← parseNumericArgument receiver
  let input ← okOr (.missingData "Receiver input not found") inputs[index.toNat]?
  pureAddress json input

def maxResolveObjectDepth : ℕ := 32

/-- The coin behind the result of a command. -/
def followProducer (next : SuiArgument → Except VisualSignError CoinObject) :
    Option SuiCommand → Except VisualSignError CoinObject
  | none => .error (.missingData "Result command not found")
  | some (.splitCoins coin _) => next coin
  | some (.mergeCoins coin _) => next coin
  | some (.moveCall _) => .ok (.unknownObject "Unknown")
  | some _ => .error (.parseError (.unsupportedVersion
      "Parsing Sui native transfer expected `SplitCoins` or `MergeCoins`"))

/-- Follow splits and merges to the coin they started from, within the budget of
hops. -/
def resolveObjectWithin : ℕ → SuiArgument → Except VisualSignError CoinObject
  | _, .gasCoin => .ok .sui
  | _, .input index => match inputs[index.toNat]? with
    | none => .error (.missingData "Input not found")
    | some (.object arg) => .ok (.unknownObject (ObjectID.toHex arg.objectId))
    | some (.pure _) => .error (.parseError (.unsupportedVersion
        "Parsing Sui native transfer input expected `Object`"))
  | 0, _ => .error (.validationError
      ("Sui coin reference chain exceeded max depth of " ++ toString maxResolveObjectDepth ++
        " hops (possible cycle)"))
  | hops + 1, .result command =>
      followProducer (resolveObjectWithin hops) commands[command.toNat]?
  | hops + 1, .nestedResult command _ =>
      followProducer (resolveObjectWithin hops) commands[command.toNat]?

def resolveObject (object : SuiArgument) : Except VisualSignError CoinObject :=
  resolveObjectWithin commands inputs maxResolveObjectDepth object

/-- The amount of a split into one coin. -/
def splitAmount : SuiCommand → Except VisualSignError (Option UInt64)
  | .splitCoins _ [amount] => do
      let index ← parseNumericArgument amount
      let input ← okOr (.missingData "Amount argument not found") inputs[index.toNat]?
      some <$> decodeNumber json input
  | _ => .ok none

def resolveAmount (object : SuiArgument) : Except VisualSignError (Option UInt64) :=
  match object with
  | .result _ => do
      let index ← parseResultCommandIndex object
      let command ← okOr (.missingData "Command not found") commands[index.toNat]?
      splitAmount json inputs command
  | _ => .ok none

def getStakeAmount (args : List SuiArgument) : Except VisualSignError (Option UInt64) := do
  let stake ← okOr (.missingData "Stake argument missing") args[1]?
  let index ← parseResultCommandIndex stake
  let command ← okOr (.missingData "Command not found") commands[index.toNat]?
  splitAmount json inputs command

/-- The last argument; without any, the index wraps and finds nothing. -/
def getStakeReceiver (args : List SuiArgument) : Except VisualSignError SuiAddress := do
  let index ← getIndex args (some (args.length - 1))
  let input ← okOr (.missingData "Command not found") inputs[index.toNat]?
  pureAddress json input

end Resolution

/-! ## Fields -/

def mistPerSui : ℕ := 1000000000

/-- A preview whose fallback text is its title. -/
def titledPreview (label title subtitle : String) (condensed expanded : List AnnotatedPayloadField) :
    AnnotatedPayloadField :=
  annotateField (.previewLayout ⟨title, label⟩
    ⟨some ⟨title⟩, some ⟨subtitle⟩, some ⟨condensed⟩, some ⟨expanded⟩⟩)

def fromField (context : VisualizerContext) : AnnotatedPayloadField :=
  createAddressField "From" (SuiAddress.display context.sender) none none none none

def visualizeTransferCommand (json : SuiJson) (context : VisualizerContext) (receiver : SuiAddress)
    (sent : CoinObject) (object : SuiArgument) : Except VisualSignError AnnotatedPayloadField := do
  let amount ← resolveAmount json context.commands context.inputs object
  let (amountText, title, amountField) ← match amount with
    | some amount => do
        let number := toString amount.toNat
        let title := match sent with
          | .sui => "Transfer: " ++ number ++ " MIST (" ++ toString (amount.toNat / mistPerSui) ++
              " SUI)"
          | .unknownObject id => "Transfer: " ++ number ++ " " ++ id
        let field ← createAmountField "Amount" number sent.getLabel
        pure (number ++ " MIST", title, field)
    | none => pure ("N/A MIST", "Transfer Command", createTextField "Amount" "N/A MIST")
  let sender := truncateAddress (SuiAddress.display context.sender)
  let shortReceiver := truncateAddress (SuiAddress.display receiver)
  pure (titledPreview "Transfer Command" title ("From " ++ sender ++ " to " ++ shortReceiver)
    [createTextField "Summary"
      ("Transfer " ++ amountText ++ " from " ++ sender ++ " to " ++ shortReceiver)]
    [createTextField "Asset Object ID" sent.display, fromField context,
      createAddressField "To" (SuiAddress.display receiver) none none none none, amountField])

/-- `CoinTransferVisualizer`. -/
def coinTransferVisualizer (json : SuiJson) : CommandVisualizer where
  canHandle context := match context.commands[context.commandIndex]? with
    | some (.transferObjects _ _) => true
    | _ => false
  visualizeTxCommands context := match context.commands[context.commandIndex]? with
    | some (.transferObjects objects recipient) => do
        let receiver ← resolveReceiver json context.inputs recipient
        let sent ← objects.mapM (resolveObject context.commands context.inputs)
        (objects.zip sent).mapM fun entry =>
          visualizeTransferCommand json context receiver entry.2 entry.1
    | _ => .error (.missingData "Expected `TransferObjects` for coin transfer parsing")
  kind := .payments "Native Transfer"

theorem length_zeroAddress : (List.replicate 32 (0 : UInt8)).length = 32 := rfl

/-- `SuiAddress::ZERO`. -/
def zeroAddress : SuiAddress := ⟨List.replicate 32 0, length_zeroAddress⟩

def handleAddStake (json : SuiJson) (context : VisualizerContext) (call : SuiProgrammableMoveCall) :
    Except VisualSignError (List AnnotatedPayloadField) := do
  let amount := (getStakeAmount json context.commands context.inputs call.arguments).toOption.join
  let receiver := (getStakeReceiver json context.inputs call.arguments).toOption.getD
    zeroAddress
  let (title, amountField) ← match amount with
    | some amount => do
        let field ← createAmountField "Amount" (toString amount.toNat) "MIST"
        pure ("Stake: " ++ toString amount.toNat ++ " MIST", field)
    | none => pure ("Stake Command", createTextField "Amount" "N/A MIST")
  let subtitle := "From " ++ truncateAddress (SuiAddress.display context.sender) ++
    " to validator " ++ truncateAddress (SuiAddress.display receiver)
  pure [titledPreview "Stake Command" title subtitle [amountField]
    [fromField context,
      createAddressField "Validator" (SuiAddress.display receiver) none none none none,
      amountField]]

def handleWithdrawStake (context : VisualizerContext) : List AnnotatedPayloadField :=
  [titledPreview "Withdraw Command" "Withdraw Stake"
    ("From " ++ truncateAddress (SuiAddress.display context.sender)) [fromField context]
    [fromField context]]

def nativeStakingConfig : SuiIntegrationConfigData where
  packages := [("0x3", [("sui_system", ["request_add_stake", "request_withdraw_stake"])])]

/-- `SuiNativeStakingVisualizer`. -/
def suiNativeStakingVisualizer (json : SuiJson) : CommandVisualizer where
  canHandle := configCanHandle nativeStakingConfig
  visualizeTxCommands context := match context.commands[context.commandIndex]? with
    | some (.moveCall call) => match call.function with
      | "request_add_stake" => handleAddStake json context call
      | "request_withdraw_stake" => .ok (handleWithdrawStake context)
      | function => .error (.decodeError ("Unsupported function name: " ++ function))
    | _ => .error (.missingData "Expected a `MoveCall` for staking parsing")
  kind := .stakingPools "Sui Native Staking"

end VisualSignParser.Sui
