import VisualSignParser.Ethereum.AbiMetadata
import VisualSignParser.Ethereum.Networks
import VisualSignParser.Ethereum.UniversalRouter
import VisualSignParser.VisualSign.Registry

/-!
# From a transaction to a payload

The payload of a transaction starts with the fields of its envelope.  The fields
of the calldata come from the first of five stages that has an answer: the
Uniswap visualizers, the known tokens, the ABIs of the request, the generic
ERC-20 decoder, and the raw bytes.
-/

namespace VisualSignParser.Ethereum

open VisualSignParser.Framing
open VisualSignParser.VisualSign

/-! ## Transactions -/

inductive TxKind where
  | create
  | call (address : Address)

structure TxLegacy where
  chainId : Option ChainId
  nonce : UInt64
  gasPrice : BitVec 128
  gasLimit : UInt64
  destination : TxKind
  value : BitVec 256
  input : Bytes

structure TxEip1559 where
  chainId : ChainId
  nonce : UInt64
  gasLimit : UInt64
  maxFeePerGas : BitVec 128
  maxPriorityFeePerGas : BitVec 128
  destination : TxKind
  value : BitVec 256
  accessList : List (Address × List (ByteArr 32))
  input : Bytes

/-- The types that are not converted. -/
inductive UnsupportedType where
  | eip2930
  | eip4844
  | eip7702

def UnsupportedType.display : UnsupportedType → String
  | eip2930 => "EIP-2930"
  | eip4844 => "EIP-4844"
  | eip7702 => "EIP-7702"

/-- The transactions that are converted. -/
inductive SupportedTransaction where
  | legacy (tx : TxLegacy)
  | eip1559 (tx : TxEip1559)

/-- `alloy_consensus::TypedTransaction`; a transaction of another type is refused
by its type alone. -/
inductive TypedTransaction where
  | supported (tx : SupportedTransaction)
  | unsupported (txType : UnsupportedType)

namespace SupportedTransaction

def chainId : SupportedTransaction → Option ChainId
  | legacy tx => tx.chainId
  | eip1559 tx => some tx.chainId

def nonce : SupportedTransaction → UInt64
  | legacy tx => tx.nonce
  | eip1559 tx => tx.nonce

def gasLimit : SupportedTransaction → UInt64
  | legacy tx => tx.gasLimit
  | eip1559 tx => tx.gasLimit

def destination : SupportedTransaction → TxKind
  | legacy tx => tx.destination
  | eip1559 tx => tx.destination

/-- `Transaction::to`. -/
def toAddress (tx : SupportedTransaction) : Option Address :=
  match tx.destination with
  | .create => none
  | .call address => some address

def value : SupportedTransaction → BitVec 256
  | legacy tx => tx.value
  | eip1559 tx => tx.value

def input : SupportedTransaction → Bytes
  | legacy tx => tx.input
  | eip1559 tx => tx.input

def isLegacy : SupportedTransaction → Bool
  | legacy _ => true
  | eip1559 _ => false

def extractGasPrice : SupportedTransaction → BitVec 128
  | legacy tx => tx.gasPrice
  | eip1559 tx => tx.maxFeePerGas

def extractPriorityFee : SupportedTransaction → Option (BitVec 128)
  | legacy _ => none
  | eip1559 tx => some tx.maxPriorityFeePerGas

end SupportedTransaction

/-! ## The chain -/

/-- The chain id of the bytes wins; metadata may only agree with it. -/
def resolveChainId (tx : SupportedTransaction) (options : VisualSignOptions) :
    Except VisualSignError ChainId :=
  match tx.chainId, extractChainIdFromMetadata options.metadata with
  | some txChainId, some metaChainId =>
      if txChainId ≠ metaChainId then
        .error (.validationError ("chain_id mismatch: transaction bytes declare chain_id " ++
          toString txChainId.toNat ++ " but chain_metadata.network_id resolves to chain_id " ++
          toString metaChainId.toNat ++
          ". The transaction bytes are authoritative; refusing to produce a payload."))
      else .ok txChainId
  | some txChainId, none => .ok txChainId
  | none, some metaChainId => .ok metaChainId
  | none, none =>
      if tx.isLegacy then .ok 1
      else .error (.decodeError ("Unable to determine chain_id: no metadata provided and " ++
        "transaction does not contain chain_id"))

/-! ## The envelope -/

section Envelope

variable (formats : Formats) (tx : SupportedTransaction) (chainId : ChainId)
  (abiRegistry : Option AbiRegistry)

/-- The badge repeats what the caller says of the destination. -/
def destinationField (address : Address) : SignablePayloadField :=
  let text := formats.displayAddress address
  let badge := match abiRegistry with
    | some registry =>
        if registry.getAbiKind chainId address = some .proxy then some "Proxy" else none
    | none => none
  .addressV2 ⟨text, "To"⟩
    ⟨text, "To", none, (getFeePayingAssetSymbol chainId).getD "", badge⟩

def valueField : SignablePayloadField :=
  let value := formats.formatEther tx.value.toNat
  let symbol := getFeePayingAssetSymbol chainId
  .amountV2 ⟨(symbol.map fun symbol => value ++ " " ++ symbol).getD value, "Value"⟩
    ⟨value, symbol⟩

def createPriorityFeeField (maxPriorityFeePerGas : BitVec 128) : SignablePayloadField :=
  textField "Max Priority Fee Per Gas" (formats.formatGwei maxPriorityFeePerGas.toNat ++ " gwei")

def headerFields : List SignablePayloadField :=
  [textField "Network" (getNetworkName (some chainId))] ++
  (tx.toAddress.map (destinationField formats chainId abiRegistry)).toList ++
  [valueField formats tx chainId, textField "Gas Limit" (toString tx.gasLimit.toNat),
    textField "Gas Price" (formats.formatGwei tx.extractGasPrice.toNat ++ " gwei")] ++
  (tx.extractPriorityFee.map (createPriorityFeeField formats)).toList ++
  [textField "Nonce" (toString tx.nonce.toNat)]

end Envelope

/-! ## The calldata -/

/-- The contract types that have a visualizer. -/
structure EthereumVisualizerRegistry where
  contractTypes : List String

/-- `UniswapUniversalRouter::short_type_id()`. -/
def universalRouterType : String := "UniswapUniversalRouter"

/-- `Permit2Contract::short_type_id()`. -/
def permit2Type : String := "Permit2Contract"

/-- A stage is asked only when the stages before it had no answer. -/
def whenEmpty (fields next : List SignablePayloadField) : List SignablePayloadField :=
  if fields.isEmpty then next else fields

section Calldata

variable (formats : Formats) (dyn : DynAbi) (layered : LayeredRegistry ContractRegistry)
  (visualizers : EthereumVisualizerRegistry) (abiRegistry : Option AbiRegistry)
  (decodeTransfers : Bool) (chainId : ChainId) (tx : SupportedTransaction)

def protocolFields : List SignablePayloadField :=
  match tx.toAddress with
  | none => []
  | some address => match layered.lookup fun known => known.getContractType chainId address with
    | none => []
    | some contractType =>
        if contractType ∈ visualizers.contractTypes then
          if contractType = universalRouterType then
            (UniversalRouter.visualizeTxCommands formats chainId (some layered.global)
              tx.input).toList
          else if contractType = permit2Type then
            (Permit2.visualizeTxCommands formats chainId (some layered.global) tx.input).toList
          else []
        else []

def knownTokenFields : List SignablePayloadField :=
  match tx.toAddress with
  | none => []
  | some address =>
      (tryKnownTokenDispatch formats layered tx.chainId address tx.input).getD []

def callerAbiFields : List SignablePayloadField :=
  match tx.toAddress, abiRegistry with
  | some address, some registry =>
      visualizeWithAbiRegistry formats dyn registry chainId address tx.input
  | _, _ => []

def erc20FallbackFields : List SignablePayloadField :=
  if decodeTransfers then (Erc20.visualizeTxCommands formats tx.input).toList else []

/-- What the first two stages leave. -/
def afterKnownToken : List SignablePayloadField :=
  whenEmpty (protocolFields formats layered visualizers chainId tx)
    (knownTokenFields formats layered tx)

/-- What the stages in front of the generic ERC-20 decoder leave. -/
def afterCallerAbi : List SignablePayloadField :=
  whenEmpty (afterKnownToken formats layered visualizers chainId tx)
    (callerAbiFields formats dyn abiRegistry chainId tx)

def calldataFields : List SignablePayloadField :=
  if tx.input.isEmpty then []
  else
    whenEmpty
      (whenEmpty (afterCallerAbi formats dyn layered visualizers abiRegistry chainId tx)
        (erc20FallbackFields formats decodeTransfers tx))
      [visualizeHex tx.input]

/-- The generic ERC-20 decoder is asked. -/
def Erc20FallbackReached : Prop :=
  tx.input ≠ [] ∧ afterCallerAbi formats dyn layered visualizers abiRegistry chainId tx = [] ∧
    decodeTransfers = true

def convertToVisualSignPayload (transactionName : Option String) : SignablePayload where
  fields := headerFields formats tx chainId abiRegistry ++
    calldataFields formats dyn layered visualizers abiRegistry decodeTransfers chainId tx
  payloadType := "EthereumTx"
  subtitle := none
  title := transactionName.getD "Ethereum Transaction"
  version := "0"

end Calldata

/-! ## The converter -/

structure EthereumVisualSignConverter where
  registry : ContractRegistry
  visualizerRegistry : EthereumVisualizerRegistry
  abiTrust : MetadataTrustPolicy

namespace EthereumVisualSignConverter

variable (formats : Formats) (dyn : DynAbi) (k256 : K256)
  (converter : EthereumVisualSignConverter)

/-- Nothing of the request is put in front of the compiled-in registry. -/
def createLayeredRegistry : LayeredRegistry ContractRegistry :=
  LayeredRegistry.new converter.registry

def extractMetadataAbi (options : VisualSignOptions) (chainId : ChainId) : Option AbiRegistry :=
  tryExtractFromChainMetadata formats dyn k256 options.metadata chainId converter.abiTrust

def convertTransactionInner (transaction : TypedTransaction) (options : VisualSignOptions) :
    Except VisualSignError SignablePayload :=
  match transaction with
  | .unsupported txType =>
      .error (.decodeError ("Unsupported transaction type: " ++ txType.display))
  | .supported tx => do
      let chainId ← resolveChainId tx options
      pure (convertToVisualSignPayload formats dyn converter.createLayeredRegistry
        converter.visualizerRegistry (converter.extractMetadataAbi formats dyn k256 options chainId)
        options.decodeTransfers chainId tx options.transactionName)

end EthereumVisualSignConverter

/-! ## Known tokens -/

@[simp]
theorem whenEmpty_nil (next : List SignablePayloadField) : whenEmpty [] next = next :=
  rfl

@[simp]
theorem whenEmpty_cons (field : SignablePayloadField) (fields next : List SignablePayloadField) :
    whenEmpty (field :: fields) next = field :: fields :=
  rfl

/-- The address is neither a Universal Router nor Permit2 on the chain. -/
def NotUniswap (registry : ContractRegistry) (chainId : ChainId) (address : Address) : Prop :=
  registry.getContractType chainId address ≠ some universalRouterType ∧
    registry.getContractType chainId address ≠ some permit2Type

section KnownToken

variable {formats : Formats} {dyn : DynAbi} {registry : ContractRegistry}
  {visualizers : EthereumVisualizerRegistry} {chainId : ChainId} {tx : SupportedTransaction}
  {token : Address} {standard : ErcStandard}

theorem protocolFields_of_notUniswap (hto : tx.toAddress = some token)
    (huniswap : NotUniswap registry chainId token) :
    protocolFields formats (LayeredRegistry.new registry) visualizers chainId tx = [] := by
  rw [protocolFields, hto]
  dsimp only
  rw [LayeredRegistry.lookup_new]
  cases htype : registry.getContractType chainId token with
  | none => rfl
  | some contractType =>
      have hrouter : contractType ≠ universalRouterType := by
        rintro rfl
        exact huniswap.1 htype
      have hpermit2 : contractType ≠ permit2Type := by
        rintro rfl
        exact huniswap.2 htype
      simp [hrouter, hpermit2]

theorem knownTokenFields_of_standard (hto : tx.toAddress = some token)
    (hstandard : registry.getTokenErcStandard tx.chainId token = some standard) :
    knownTokenFields formats (LayeredRegistry.new registry) tx =
      [visualizeToken formats standard tx.input] := by
  have hglobal : (LayeredRegistry.new registry).global = registry := rfl
  rw [knownTokenFields, hto]
  dsimp only
  rw [tryKnownTokenDispatch, hglobal, hstandard]
  rfl

/-- No later stage is asked about a call to a known token. -/
theorem afterCallerAbi_of_standard (abiRegistry : Option AbiRegistry)
    (hto : tx.toAddress = some token) (huniswap : NotUniswap registry chainId token)
    (hstandard : registry.getTokenErcStandard tx.chainId token = some standard) :
    afterCallerAbi formats dyn (LayeredRegistry.new registry) visualizers abiRegistry chainId tx =
      [visualizeToken formats standard tx.input] := by
  rw [afterCallerAbi, afterKnownToken, protocolFields_of_notUniswap hto huniswap,
    knownTokenFields_of_standard hto hstandard, whenEmpty_nil, whenEmpty_cons]

theorem calldataFields_of_standard (abiRegistry : Option AbiRegistry) (decodeTransfers : Bool)
    (hto : tx.toAddress = some token) (huniswap : NotUniswap registry chainId token)
    (hstandard : registry.getTokenErcStandard tx.chainId token = some standard) :
    calldataFields formats dyn (LayeredRegistry.new registry) visualizers abiRegistry
      decodeTransfers chainId tx =
        if tx.input.isEmpty then [] else [visualizeToken formats standard tx.input] := by
  rw [calldataFields, afterCallerAbi_of_standard abiRegistry hto huniswap hstandard,
    whenEmpty_cons, whenEmpty_cons]

/-- One run of the converter on a call to a known token. -/
theorem convertTransactionInner_of_standard {k256 : K256}
    {converter : EthereumVisualSignConverter} {options : VisualSignOptions}
    (hto : tx.toAddress = some token) (hchain : resolveChainId tx options = .ok chainId)
    (huniswap : NotUniswap converter.registry chainId token)
    (hstandard : converter.registry.getTokenErcStandard tx.chainId token = some standard) :
    ∃ payload,
      converter.convertTransactionInner formats dyn k256 (.supported tx) options = .ok payload ∧
      payload.fields = headerFields formats tx chainId
        (converter.extractMetadataAbi formats dyn k256 options chainId) ++
          (if tx.input.isEmpty then [] else [visualizeToken formats standard tx.input]) := by
  refine ⟨convertToVisualSignPayload formats dyn converter.createLayeredRegistry
    converter.visualizerRegistry (converter.extractMetadataAbi formats dyn k256 options chainId)
    options.decodeTransfers chainId tx options.transactionName, ?_, ?_⟩
  · rw [EthereumVisualSignConverter.convertTransactionInner, hchain]
    rfl
  · simp only [convertToVisualSignPayload, EthereumVisualSignConverter.createLayeredRegistry]
    rw [calldataFields_of_standard _ _ hto huniswap hstandard]

theorem not_erc20FallbackReached (abiRegistry : Option AbiRegistry) (decodeTransfers : Bool)
    (hto : tx.toAddress = some token) (huniswap : NotUniswap registry chainId token)
    (hstandard : registry.getTokenErcStandard tx.chainId token = some standard) :
    ¬ Erc20FallbackReached formats dyn (LayeredRegistry.new registry) visualizers abiRegistry
      decodeTransfers chainId tx := by
  rintro ⟨-, hempty, -⟩
  rw [afterCallerAbi_of_standard abiRegistry hto huniswap hstandard] at hempty
  exact List.cons_ne_nil _ _ hempty

end KnownToken

theorem resolveChainId_congr (tx : SupportedTransaction) {first second : VisualSignOptions}
    (hsame : extractChainIdFromMetadata first.metadata =
      extractChainIdFromMetadata second.metadata) :
    resolveChainId tx first = resolveChainId tx second := by
  rw [resolveChainId, resolveChainId, hsame]

/-- What is shown of the calldata of a known token is the same for all metadata
that name the same chain: it is the answer of the built-in visualizer, and the
generic ERC-20 decoder is not asked. -/
theorem knownToken_calldata_fixed (formats : Formats) (dyn : DynAbi) (k256 : K256)
    (converter : EthereumVisualSignConverter) (tx : SupportedTransaction) (token : Address)
    (first second : VisualSignOptions) (hto : tx.toAddress = some token)
    (htoken : converter.registry.Registers tx.chainId token)
    (huniswap : ∀ chainId, resolveChainId tx first = .ok chainId →
      NotUniswap converter.registry chainId token)
    (hsame : extractChainIdFromMetadata first.metadata =
      extractChainIdFromMetadata second.metadata) :
    (∃ error,
      converter.convertTransactionInner formats dyn k256 (.supported tx) first = .error error ∧
      converter.convertTransactionInner formats dyn k256 (.supported tx) second = .error error) ∨
    ∃ chainId left right calldata,
      converter.convertTransactionInner formats dyn k256 (.supported tx) first = .ok left ∧
      converter.convertTransactionInner formats dyn k256 (.supported tx) second = .ok right ∧
      left.fields = headerFields formats tx chainId
        (converter.extractMetadataAbi formats dyn k256 first chainId) ++ calldata ∧
      right.fields = headerFields formats tx chainId
        (converter.extractMetadataAbi formats dyn k256 second chainId) ++ calldata ∧
      (∃ standard, converter.registry.getTokenErcStandard tx.chainId token = some standard ∧
        calldata =
          if tx.input.isEmpty then [] else [visualizeToken formats standard tx.input]) ∧
      (tx.input ≠ [] → calldata ≠ []) ∧
      ∀ options ∈ [first, second], ¬ Erc20FallbackReached formats dyn
        converter.createLayeredRegistry converter.visualizerRegistry
        (converter.extractMetadataAbi formats dyn k256 options chainId) options.decodeTransfers
        chainId tx := by
  obtain ⟨standard, hstandard⟩ := Option.isSome_iff_exists.1
    ((converter.registry.getTokenErcStandard_isSome tx.chainId token).2 htoken)
  have hresolve := resolveChainId_congr tx hsame
  cases hchain : resolveChainId tx first with
  | error error =>
      apply Or.inl
      use error
      constructor
      · rw [EthereumVisualSignConverter.convertTransactionInner, hchain]
        rfl
      · rw [EthereumVisualSignConverter.convertTransactionInner, ← hresolve, hchain]
        rfl
  | ok chainId =>
      have hnot := huniswap chainId hchain
      obtain ⟨left, hleft, hleftFields⟩ :=
        convertTransactionInner_of_standard hto hchain hnot hstandard
      obtain ⟨right, hright, hrightFields⟩ :=
        convertTransactionInner_of_standard hto (hresolve ▸ hchain) hnot hstandard
      refine .inr ⟨chainId, left, right, _, hleft, hright, hleftFields, hrightFields,
        ⟨standard, hstandard, rfl⟩, fun hinput => ?_, fun options _ => ?_⟩
      · rw [if_neg (by rwa [List.isEmpty_iff])]
        exact List.cons_ne_nil _ _
      · exact not_erc20FallbackReached _ _ hto hnot hstandard

/-- WETH on Optimism. -/
def wethOptimism : Address := addressOf 0x4200000000000000000000000000000000000006

/-- A registry that knows WETH on Optimism and nothing else. -/
def wethConverter : EthereumVisualSignConverter where
  registry := { ContractRegistry.new with
    tokenMetadata := OrderedMap.BTreeMap.empty.insert ⟨10, wethOptimism⟩
      ⟨"WETH", "WETH9", .erc20, "0x4200000000000000000000000000000000000006", 18⟩ }
  visualizerRegistry := ⟨[universalRouterType, permit2Type]⟩
  abiTrust := .acceptUnsigned

/-- `transfer` of five units of WETH on Optimism. -/
def wethTransfer : SupportedTransaction := .legacy {
  chainId := some 10
  nonce := 0
  gasPrice := 1000000000
  gasLimit := 60000
  destination := .call wethOptimism
  value := 0
  input := Erc20.TransferCall.selector ++ (List.replicate 12 0 ++ List.replicate 20 0x11) ++
    beBytes 32 5 }

/-- A request for Optimism with the given ABI mappings. -/
def optimismOptions (mappings : OrderedMap.BTreeMap String Proto.Abi) : VisualSignOptions where
  decodeTransfers := true
  transactionName := none
  metadata := some ⟨some (.ethereum ⟨some "OPTIMISM_MAINNET", mappings⟩)⟩
  developerConfig := none
  includeIntermediateOutput := false

/-- The caller declares the token a proxy for another contract. -/
def proxyMappings : OrderedMap.BTreeMap String Proto.Abi :=
  OrderedMap.BTreeMap.empty.insert "0x4200000000000000000000000000000000000006"
    ⟨"[]", none, some 2, some "0x2222222222222222222222222222222222222222"⟩

/-- Reads the ABI without functions. -/
def emptyAbi : DynAbi where
  SolType := Unit
  fromStr text := if text = "[]" then .ok ⟨[]⟩ else .error "not read"
  selector _ := []
  parseType _ := .error "not read"
  decodeTuple _ _ := .error "not read"

/-- Accepts no signature. -/
def noSignatures : K256 where
  Signature := Unit
  Point := Unit
  Key := Unit
  fromDer _ := .error "not read"
  encodedPoint _ := .error "not read"
  verifyingKey _ := .error "not read"
  verifyPrehash _ _ _ := .error "not read"
  uncompressed _ := []

theorem length_headerFields_wethTransfer (chainId : ChainId) (abiRegistry : Option AbiRegistry) :
    (headerFields plainFormats wethTransfer chainId abiRegistry).length = 6 :=
  rfl

theorem knownToken_calldata_fixed_weth :
    ∃ left right,
      wethConverter.convertTransactionInner plainFormats emptyAbi noSignatures
        (.supported wethTransfer) (optimismOptions OrderedMap.BTreeMap.empty) = .ok left ∧
      wethConverter.convertTransactionInner plainFormats emptyAbi noSignatures
        (.supported wethTransfer) (optimismOptions proxyMappings) = .ok right ∧
      left.fields.drop 6 = right.fields.drop 6 ∧ left.fields.drop 6 ≠ [] := by
  have hchain : resolveChainId wethTransfer (optimismOptions OrderedMap.BTreeMap.empty) =
      .ok 10 := by decide +kernel
  rcases knownToken_calldata_fixed plainFormats emptyAbi noSignatures wethConverter wethTransfer
    wethOptimism (optimismOptions OrderedMap.BTreeMap.empty) (optimismOptions proxyMappings) rfl
    ⟨_, List.mem_singleton_self _, rfl, fun own hown => Option.some.inj hown⟩
    (fun chainId _ => ⟨nofun, nofun⟩) (by decide +kernel) with
    ⟨error, herror, -⟩ |
    ⟨chainId, left, right, calldata, hleft, hright, hleftFields, hrightFields, -, hcalldata, -⟩
  · rw [EthereumVisualSignConverter.convertTransactionInner, hchain] at herror
    cases herror
  · refine ⟨left, right, hleft, hright, ?_, ?_⟩
    · rw [hleftFields, hrightFields, List.drop_left' (length_headerFields_wethTransfer ..),
        List.drop_left' (length_headerFields_wethTransfer ..)]
    · rw [hleftFields, List.drop_left' (length_headerFields_wethTransfer ..)]
      exact hcalldata (List.cons_ne_nil _ _)

end VisualSignParser.Ethereum
