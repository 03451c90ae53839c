import VisualSignParser.Sui.CoinTransfer

/-!
# The payload of a Sui transaction

Two passes go over the commands.  The first shows transfers; the second shows
the calls that one of the integrations lists, by package, module and function.
-/

namespace VisualSignParser.Sui

open VisualSignParser.Framing
open VisualSignParser.Outcome
open VisualSignParser.VisualSign

/-! ## Integrations -/

def cetusConfig : SuiIntegrationConfigData where
  packages := [("0xb2db7142fa83210a7d78d9c12ac49c043b3cbbd482224fea6e3da00aa5a5ae2d",
    [("pool_script",
      ["swap_a2b", "swap_b2a", "swap_a2b_with_partner", "swap_b2a_with_partner",
        "close_position", "remove_liquidity", "open_position_with_liquidity_with_all"]),
      ("pool_script_v2",
        ["swap_a2b", "swap_b2a", "swap_a2b_with_partner", "swap_b2a_with_partner",
          "add_liquidity_by_fix_coin", "open_position_with_liquidity_by_fix_coin",
          "collect_fee", "collect_reward"]),
      ("pool_script_v3", ["collect_fee", "collect_reward"]),
      ("router", ["swap", "check_coin_threshold"]),
      ("utils", ["transfer_coin_to_sender"])])]

def momentumConfig : SuiIntegrationConfigData where
  packages := [("0xcf60a40f45d46fc1e828871a647c1e25a0915dec860d2662eb10fdb382c3c1d1",
    [("collect", ["fee", "reward"]),
      ("liquidity", ["remove_liquidity", "close_position", "add_liquidity", "open_position"]),
      ("trade", ["flash_swap", "repay_flash_swap", "swap_receipt_debts"])])]

def suilendConfig : SuiIntegrationConfigData where
  packages := [("0xdf6df8a1e16c58b66d5c432cc6a5a8981c9982f111723ec0894d152be57b3e7e",
    [("lending_market",
      ["borrow_request", "claim_rewards", "claim_rewards_and_deposit", "create_obligation",
        "deposit_ctokens_into_obligation", "deposit_liquidity_and_mint_ctokens",
        "fulfill_liquidity_request", "rebalance_staker",
        "redeem_ctokens_and_withdraw_liquidity_request", "refresh_reserve_price", "repay",
        "unstake_sui_from_staker", "withdraw_ctokens"])])]

/-- The handlers of the trading and lending integrations, each of which ends with
one preview field.  Nothing is assumed of them: which commands are shown is decided
in front of them, whatever fields the swaps and the loans have. -/
structure Handlers where
  cetus : VisualizerContext → Except VisualSignError AnnotatedPayloadField
  momentum : VisualizerContext → Except VisualSignError AnnotatedPayloadField
  suilend : VisualizerContext → Except VisualSignError AnnotatedPayloadField

def integration (config : SuiIntegrationConfigData)
    (handler : VisualizerContext → Except VisualSignError AnnotatedPayloadField)
    (kind : VisualizerKind) : CommandVisualizer where
  canHandle := configCanHandle config
  visualizeTxCommands context := (handler context).map fun field => [field]
  kind := kind

/-- The generated list, in the order of the folders. -/
def availableVisualizers (json : SuiJson) (handlers : Handlers) : List CommandVisualizer :=
  [integration cetusConfig handlers.cetus (.dex "Cetus"),
    integration momentumConfig handlers.momentum (.dex "Momentum"),
    suiNativeStakingVisualizer json,
    integration suilendConfig handlers.suilend (.lending "Suilend")]

/-! ## Passes over the commands -/

inductive SuiTransactionBlockKind where
  | programmableTransaction (commands : List SuiCommand) (inputs : List SuiCallArg)
  | changeEpoch
  | genesis
  | consensusCommitPrologue
  | authenticatorStateUpdate
  | randomnessStateUpdate
  | endOfEpochTransaction
  | consensusCommitPrologueV2
  | consensusCommitPrologueV3
  | consensusCommitPrologueV4
  | programmableSystemTransaction

def determineTransactionTypeString : SuiTransactionBlockKind → String
  | .programmableTransaction _ _ => "Programmable Transaction"
  | .changeEpoch => "Change Epoch"
  | .genesis => "Genesis"
  | .consensusCommitPrologue => "Consensus Commit"
  | .authenticatorStateUpdate => "Authenticator State Update"
  | .randomnessStateUpdate => "Randomness State Update"
  | .endOfEpochTransaction => "End of Epoch Transaction"
  | .consensusCommitPrologueV2 => "Consensus Commit Prologue V2"
  | .consensusCommitPrologueV3 => "Consensus Commit Prologue V3"
  | .consensusCommitPrologueV4 => "Consensus Commit Prologue V4"
  | .programmableSystemTransaction => "Programmable System Transaction"

structure SuiGasData where
  owner : SuiAddress
  price : UInt64
  budget : UInt64

structure SuiTransactionBlockData where
  transaction : SuiTransactionBlockKind
  sender : SuiAddress
  gasData : SuiGasData

/-- One pass: the commands that a visualizer takes, in their order. -/
def decodeWith (visualizers : List CommandVisualizer) (block : SuiTransactionBlockData) :
    Except VisualSignError (List AnnotatedPayloadField) :=
  match block.transaction with
  | .programmableTransaction commands inputs => do
      let nested ← ((List.range commands.length).filterMap fun index =>
        visualizeWithAny visualizers ⟨block.sender, index, commands, inputs⟩).mapM
          fun result => result.map VisualizeResult.field
      pure nested.flatten
  | _ => .ok []

def decodeCommands (visualizers : List CommandVisualizer) (block : SuiTransactionBlockData) :
    Except VisualSignError (List AnnotatedPayloadField) :=
  decodeWith visualizers block

def decodeTransfers (json : SuiJson) (block : SuiTransactionBlockData) :
    Except VisualSignError (List AnnotatedPayloadField) :=
  decodeWith [coinTransferVisualizer json] block

/-! ## The payload -/

def getTxNetwork : AnnotatedPayloadField := createTextField "Network" "Sui Network"

def createTxTypeFields (block : SuiTransactionBlockData) : AnnotatedPayloadField :=
  createTextField "Transaction Type" (determineTransactionTypeString block.transaction)

def createTxGasFields (gas : SuiGasData) :
    Except VisualSignError (List AnnotatedPayloadField) := do
  let budget ← createAmountField "Gas Budget" (toString gas.budget.toNat) "MIST"
  let price ← createAmountField "Gas Price" (toString gas.price.toNat) "MIST"
  pure [createAddressField "Gas Owner" (SuiAddress.display gas.owner) none none none none, budget,
    price]

/-- The details of the transaction, with its encoding when there is one. -/
def getTxDetails (encoded : Option Bytes) (block : SuiTransactionBlockData) :
    Except VisualSignError AnnotatedPayloadField := do
  let gas ← createTxGasFields block.gasData
  let budget ← createAmountField "Gas Budget" (toString block.gasData.budget.toNat) "MIST"
  let raw := (encoded.map fun bytes => createRawDataField bytes none).toList
  pure (annotateField (.previewLayout ⟨"Transaction Details", "Transaction Details"⟩
    ⟨some ⟨"Transaction Details"⟩,
      some ⟨"Gas: " ++ toString block.gasData.budget.toNat ++ " MIST"⟩,
      some ⟨[createTxTypeFields block, budget]⟩,
      some ⟨createTxTypeFields block :: gas ++ raw⟩⟩))

/-- What the Sui crates make of a transaction. -/
structure SuiSdk (Transaction : Type) where
  json : SuiJson
  /-- `SuiTransactionBlockData::try_from_with_module_cache`. -/
  blockData : Transaction → Except String SuiTransactionBlockData
  /-- `bcs::to_bytes`. -/
  encoded : Transaction → Option Bytes

section Conversion

variable {Transaction : Type} (sdk : SuiSdk Transaction) (visualizers : List CommandVisualizer)

def convertToVisualSignPayload (transaction : Transaction) (decodeTransfers : Bool)
    (title : Option String) : Except VisualSignError SignablePayload := do
  let block ← (sdk.blockData transaction).mapError fun message =>
    .parseError (.decodeError message)
  let transfers ← if decodeTransfers then Sui.decodeTransfers sdk.json block else pure []
  let commands ← decodeCommands visualizers block
  let details ← getTxDetails (sdk.encoded transaction) block
  pure {
    version := "0"
    title := title.getD (determineTransactionTypeString block.transaction)
    subtitle := none
    fields := getTxNetwork.signablePayloadField ::
      ((transfers ++ commands).map AnnotatedPayloadField.signablePayloadField ++
        [details.signablePayloadField])
    payloadType := "Sui" }

end Conversion

end VisualSignParser.Sui
