import VisualSignParser.Codec.Base64
import VisualSignParser.Near.Actions
import VisualSignParser.Near.Envelope
import VisualSignParser.VisualSign.Charset

/-!
# The payload of a NEAR transaction

The input is a transaction or the envelope of intents that is about to be signed.
The network is found once for the request.  It is shown, it is what the metadata
of tokens has to be signed for, and the accounts have to agree with it.
-/

namespace VisualSignParser.Near

open VisualSignParser.Framing
open VisualSignParser.Json
open VisualSignParser.Outcome
open VisualSignParser.VisualSign
open VisualSignParser.Ethereum (LayeredRegistry MetadataTrustPolicy SignerAllowlist)

structure Transaction where
  signerId : String
  receiverId : String
  actions : List Action

inductive NearTransaction where
  | onChain (tx : Transaction)
  | intent (json : String)

/-- What is called in other crates, and the curators that the deployment names. -/
structure NearCrates where
  tokens : TokenCrates
  args : ArgsReaders
  json : IntentsJson
  clock : Clock
  authorizedSigners : SignerAllowlist
  /-- `borsh::from_slice` of a transaction. -/
  transaction : Bytes → Except String Transaction
  /-- `borsh::from_slice` of a signed transaction, without its signature. -/
  signedTransaction : Bytes → Except String Transaction

/-! ## Input -/

def decodeInput (text : String) : Option Bytes :=
  match Hex.SupportedEncodings.detect text with
  | .hex => (Hex.decodeHex text).toOption
  | .base64 => Base64.decode text

/-- The transaction, or why there is none. -/
def decodeBorsh (crates : NearCrates) (text : String) (developerConfig : Option DeveloperConfig) :
    Except String Transaction :=
  match decodeInput text with
  | none => .error "input is not hex or base64"
  | some bytes =>
      match crates.transaction bytes with
      | .ok unsigned => .ok unsigned
      | .error unsignedError =>
          if (developerConfig.map DeveloperConfig.allowSignedTransactions).getD false then
            (crates.signedTransaction bytes).mapError fun signedError =>
              "unsigned=" ++ unsignedError ++ ", signed=" ++ signedError
          else .error unsignedError

def NearTransaction.fromStringWithOptions (crates : NearCrates) (text : String)
    (developerConfig : Option DeveloperConfig) : Except TransactionParseError NearTransaction :=
  let trimmed := Text.trim text
  match decodeBorsh crates trimmed developerConfig with
  | .ok tx => .ok (.onChain tx)
  | .error borshCause =>
      match crates.json.envelope (utf8Bytes trimmed) with
      | .ok _ => .ok (.intent trimmed)
      | .error error => .error (.decodeError
          ("input is neither a NEAR borsh transaction nor a DefusePayload JSON envelope: " ++
            error ++ "; near borsh decode: " ++ borshCause))

/-! ## Metadata of the request -/

def resolveNetwork (options : VisualSignOptions) (fallback : NearNetwork) :
    Except VisualSignError NearNetwork :=
  (extractNetworkFromMetadata options.metadata).map fun network => network.getD fallback

/-- The network of a request: the one it names, or the one of the converter. -/
def requestNetwork (networkId : Option String) (fallback : NearNetwork) : Option NearNetwork :=
  match networkId with
  | some networkId => NearNetwork.fromNetworkId networkId
  | none => some fallback

theorem resolveNetwork_eq_ok {options : VisualSignOptions} {fallback network : NearNetwork} :
    resolveNetwork options fallback = .ok network ↔
      requestNetwork (suppliedNetworkId options.metadata) fallback = some network := by
  rw [resolveNetwork, extractNetworkFromMetadata]
  cases suppliedNetworkId options.metadata with
  | none =>
      change Except.ok fallback = .ok network ↔ some fallback = some network
      rw [Except.ok.injEq, Option.some.injEq]
  | some networkId =>
      dsimp only [requestNetwork]
      cases NearNetwork.fromNetworkId networkId with
      | none => simp [Except.map]
      | some found =>
          change Except.ok found = .ok network ↔ _
          rw [Except.ok.injEq, Option.some.injEq]

structure RequestTokenRegistry where
  registry : LayeredRegistry NearTokenRegistry
  diagnostics : Fields

def RequestTokenRegistry.empty : RequestTokenRegistry := ⟨requestLayers none, []⟩

/-- The curators of the policy, or those of the deployment when it has none. -/
def curatorsFor (crates : NearCrates) (trustPolicy : MetadataTrustPolicy) : SignerAllowlist :=
  match trustPolicy with
  | .requireAllowlistedSigner allowlist => allowlist
  | .acceptUnsigned => crates.authorizedSigners

def tokenRegistryFor (crates : NearCrates) (options : VisualSignOptions) (network : NearNetwork)
    (trustPolicy : MetadataTrustPolicy) : RequestTokenRegistry :=
  let extraction := tryExtractFromChainMetadata crates.tokens network
    (curatorsFor crates trustPolicy) trustPolicy options.metadata
  ⟨requestLayers extraction.registry, rejectedMetadataDiagnostics extraction.rejected⟩

/-! ## Payloads -/

structure NearVisualSignConverter where
  network : NearNetwork
  trustPolicy : MetadataTrustPolicy

def payloadVersion : String := "0"
def payloadType : String := "NearTx"

def executeIntentsMethod : String := "execute_intents"

/-- The call whose intents are shown. -/
def tokenMetadataConsumer (receiverId : String) : Action → Option FunctionCallAction
  | .functionCall call =>
      if receiverId = intentsReceiver ∧ call.methodName = executeIntentsMethod then some call
      else none
  | _ => none

def intentsError : NearIntentsError → VisualSignError
  | .networkMismatch mismatch => .validationError mismatch
  | other => .conversionError other.display

section Conversion

variable (crates : NearCrates)

def decodeIntents (receiverId : String) (action : Action)
    (registry : LayeredRegistry NearTokenRegistry) (network : NearNetwork) :
    Except VisualSignError Fields :=
  match tokenMetadataConsumer receiverId action with
  | none => .ok []
  | some call => (tryDecodeExecuteIntents crates.json crates.clock crates.tokens.isNep141 registry
      network call.args).mapError intentsError

/-- One turn of the loop over the actions. -/
def renderActionWithIntents (tx : Transaction) (registry : LayeredRegistry NearTokenRegistry)
    (network : NearNetwork) (action : Action) : Except VisualSignError Fields := do
  let fields ← renderAction crates.args action tx.actions.length
  let intents ← decodeIntents crates tx.receiverId action registry network
  pure (fields ++ intents)

/-- The registry is only built when some action shows intents. -/
def onChainTokens (tx : Transaction) (options : VisualSignOptions) (network : NearNetwork)
    (trustPolicy : MetadataTrustPolicy) : RequestTokenRegistry :=
  if tx.actions.any fun action => (tokenMetadataConsumer tx.receiverId action).isSome then
    tokenRegistryFor crates options network trustPolicy
  else RequestTokenRegistry.empty

/-- The payload of a transaction around the fields of its actions. -/
def onChainPayload (tx : Transaction) (network : NearNetwork) (diagnostics : Fields)
    (actions : List Fields) : ConversionResult where
  payload :=
    { version := payloadVersion
      title := titleFor tx.actions
      subtitle := none
      fields := textField "Network" network.displayName :: addressField "From" tx.signerId ::
        addressField "To" tx.receiverId :: (diagnostics ++ actions.flatten)
      payloadType := payloadType }
  intermediateOutput := none

def renderOnChain (converter : NearVisualSignConverter) (tx : Transaction)
    (options : VisualSignOptions) : Except VisualSignError ConversionResult := do
  require (tx.actions.isEmpty = false) (.validationError "NEAR transaction has no actions")
  let network ← resolveNetwork options converter.network
  requireNetwork network "signer" tx.signerId
  requireNetwork network "receiver" tx.receiverId
  let tokens := onChainTokens crates tx options network converter.trustPolicy
  let actions ← tx.actions.mapM (renderActionWithIntents crates tx tokens.registry network)
  pure (onChainPayload tx network tokens.diagnostics actions)

/-- The registry is only built when some intent looks at it. -/
def envelopeTokens (json : String) (options : VisualSignOptions) (network : NearNetwork)
    (trustPolicy : MetadataTrustPolicy) : RequestTokenRegistry :=
  if singleIntentConsumesTokenRegistry crates.json (utf8Bytes json) then
    tokenRegistryFor crates options network trustPolicy
  else RequestTokenRegistry.empty

def renderIntentEnvelope (json : String) (options : VisualSignOptions) (network : NearNetwork)
    (trustPolicy : MetadataTrustPolicy) : Except VisualSignError ConversionResult := do
  let tokens := envelopeTokens crates json options network trustPolicy
  let rendered ← (tryRenderSingleIntent crates.json crates.clock crates.tokens.isNep141
    tokens.registry network (utf8Bytes json)).mapError intentsError
  pure {
    payload :=
      { version := payloadVersion
        title := rendered.title
        subtitle := none
        fields := textField "Network" network.displayName :: (tokens.diagnostics ++ rendered.fields)
        payloadType := payloadType }
    intermediateOutput := none }

def toVisualSignPayload (converter : NearVisualSignConverter) (transaction : NearTransaction)
    (options : VisualSignOptions) : Except VisualSignError ConversionResult :=
  match transaction with
  | .onChain tx => renderOnChain crates converter tx options
  | .intent json => do
      let network ← resolveNetwork options converter.network
      renderIntentEnvelope crates json options network converter.trustPolicy

def toVisualSignPayloadFromString (backing : Backing) (converter : NearVisualSignConverter)
    (transactionData : String) (options : VisualSignOptions) :
    Except VisualSignError ConversionResult := do
  let transaction ← (NearTransaction.fromStringWithOptions crates transactionData
    options.developerConfig).mapError .parseError
  let result ← toVisualSignPayload crates converter transaction options
  result.payload.validateCharset backing
  pure result

/-! ## What is shown -/

/-- The envelopes whose intents are shown. -/
def shownEnvelopes (transaction : NearTransaction) : List DefusePayload :=
  match transaction with
  | .onChain tx => (tx.actions.filterMap (tokenMetadataConsumer tx.receiverId)).flatMap
      fun call => batchEnvelopes crates.json call.args
  | .intent json => (crates.json.envelope (utf8Bytes json)).toOption.toList

variable {crates}

theorem mem_shownEnvelopes_onChain {tx : Transaction} {envelope : DefusePayload} :
    envelope ∈ shownEnvelopes crates (.onChain tx) ↔ ∃ action ∈ tx.actions, ∃ call,
      tokenMetadataConsumer tx.receiverId action = some call ∧
        envelope ∈ batchEnvelopes crates.json call.args := by
  rw [shownEnvelopes, List.mem_flatMap]
  constructor
  · rintro ⟨call, hcall, henvelope⟩
    obtain ⟨action, haction, hcall⟩ := List.mem_filterMap.1 hcall
    exact ⟨action, haction, call, hcall, henvelope⟩
  · rintro ⟨action, haction, call, hcall, henvelope⟩
    exact ⟨call, List.mem_filterMap.2 ⟨action, haction, hcall⟩, henvelope⟩

theorem mem_shownEnvelopes_intent {json : String} {envelope : DefusePayload} :
    envelope ∈ shownEnvelopes crates (.intent json) ↔
      crates.json.envelope (utf8Bytes json) = .ok envelope := by
  rw [shownEnvelopes, Option.mem_toList]
  cases crates.json.envelope (utf8Bytes json) with
  | error error => simp [Except.toOption]
  | ok found => simp [Except.toOption]

theorem renderOnChain_eq_ok {converter : NearVisualSignConverter} {tx : Transaction}
    {options : VisualSignOptions} {result : ConversionResult}
    (hresult : renderOnChain crates converter tx options = .ok result) :
    ∃ network actions, resolveNetwork options converter.network = .ok network ∧
      network.contradicts tx.signerId = false ∧ network.contradicts tx.receiverId = false ∧
      tx.actions.mapM (renderActionWithIntents crates tx
        (onChainTokens crates tx options network converter.trustPolicy).registry network) =
          .ok actions ∧
      result = onChainPayload tx network
        (onChainTokens crates tx options network converter.trustPolicy).diagnostics actions := by
  obtain ⟨⟨⟩, -, hresult⟩ := bind_eq_ok.1 hresult
  obtain ⟨network, hnetwork, hresult⟩ := bind_eq_ok.1 hresult
  obtain ⟨⟨⟩, hsigner, hresult⟩ := bind_eq_ok.1 hresult
  obtain ⟨⟨⟩, hreceiver, hresult⟩ := bind_eq_ok.1 hresult
  obtain ⟨actions, hactions, hresult⟩ := bind_eq_ok.1 hresult
  exact ⟨network, actions, hnetwork, requireNetwork_eq_ok.1 hsigner,
    requireNetwork_eq_ok.1 hreceiver, hactions, (pure_eq_ok.1 hresult).symm⟩

/-- Of a transaction that is shown the actions are shown, the batches decode and the
envelopes are shown. -/
theorem shown_of_actions {tx : Transaction} {registry : LayeredRegistry NearTokenRegistry}
    {network : NearNetwork} {actions : List Fields}
    (hactions : tx.actions.mapM (renderActionWithIntents crates tx registry network) =
      .ok actions) :
    (∀ action ∈ tx.actions,
      ∃ fields, renderAction crates.args action tx.actions.length = .ok fields) ∧
    (∀ action ∈ tx.actions, ∀ call, tokenMetadataConsumer tx.receiverId action = some call →
      ∃ payloads, crates.json.signedBatch call.args = .ok payloads) ∧
    ∀ envelope ∈ shownEnvelopes crates (.onChain tx), ∃ fields,
      renderSingle crates.clock crates.tokens.isNep141 registry network envelope =
        .ok fields := by
  have heach := mapM_isOk_iff.1 ⟨actions, hactions⟩
  have hbatch : ∀ action ∈ tx.actions, ∀ call,
      tokenMetadataConsumer tx.receiverId action = some call → ∃ fields,
        tryDecodeExecuteIntents crates.json crates.clock crates.tokens.isNep141 registry network
          call.args = .ok fields := by
    intro action haction call hcall
    obtain ⟨fields, hfields⟩ := heach action haction
    obtain ⟨own, -, hfields⟩ := bind_eq_ok.1 hfields
    obtain ⟨intents, hintents, -⟩ := bind_eq_ok.1 hfields
    rw [decodeIntents, hcall] at hintents
    exact ⟨intents, mapError_eq_ok.1 hintents⟩
  refine ⟨?_, ?_, ?_⟩
  · intro action haction
    obtain ⟨fields, hfields⟩ := heach action haction
    obtain ⟨own, hown, -⟩ := bind_eq_ok.1 hfields
    exact ⟨own, hown⟩
  · intro action haction call hcall
    exact (tryDecodeExecuteIntents_isOk_iff.1 (hbatch action haction call hcall)).1
  · intro envelope henvelope
    obtain ⟨action, haction, call, hcall, henvelope⟩ := mem_shownEnvelopes_onChain.1 henvelope
    exact (tryDecodeExecuteIntents_isOk_iff.1 (hbatch action haction call hcall)).2 envelope
      henvelope

end Conversion

end VisualSignParser.Near
