import VisualSignParser.Near.UnreadMetadata

/-!
# One network for a request

The network is caller-influenced and is used in three ways: it is shown, it is
part of what the metadata of tokens is signed for, and accounts are checked
against it.  On every path these are the same network.
-/

namespace VisualSignParser.Near

open VisualSignParser.Framing
open VisualSignParser.OrderedMap
open VisualSignParser.Outcome
open VisualSignParser.VisualSign
open VisualSignParser.Ethereum (LayeredRegistry MetadataTrustPolicy SignerAllowlist)

/-! ## Signatures of one network -/

/-- Other answers of the two curves to the question whether a signature verifies. -/
structure Verification (tokens : TokenCrates) where
  verifyStrict : tokens.ed25519.VerifyingKey → ByteArr 32 → ByteArr 64 → Except String Unit
  verifyPrehash : tokens.k256.Key → ByteArr 32 → tokens.k256.Signature → Except String Unit

def TokenCrates.withVerification (tokens : TokenCrates) (verification : Verification tokens) :
    TokenCrates :=
  { tokens with
    ed25519 := { tokens.ed25519 with verifyStrict := verification.verifyStrict }
    k256 := { tokens.k256 with verifyPrehash := verification.verifyPrehash } }

def NearCrates.withVerification (crates : NearCrates) (verification : Verification crates.tokens) :
    NearCrates :=
  { crates with tokens := crates.tokens.withVerification verification }

/-- The answers are the same for the digests that are scoped by the network. -/
structure Verification.AgreesFor {tokens : TokenCrates} (verification : Verification tokens)
    (network : NearNetwork) : Prop where
  strict : ∀ (domain : TokenMetadataDomain) assetId body verifyingKey signature,
    verification.verifyStrict verifyingKey (domain.prehash network.networkId assetId body)
      signature = tokens.ed25519.verifyStrict verifyingKey
        (domain.prehash network.networkId assetId body) signature
  prehash : ∀ (domain : TokenMetadataDomain) assetId body verifyingKey signature,
    verification.verifyPrehash verifyingKey (domain.prehash network.networkId assetId body)
      signature = tokens.k256.verifyPrehash verifyingKey
        (domain.prehash network.networkId assetId body) signature

section Scope

variable {tokens : TokenCrates} {verification : Verification tokens} {network : NearNetwork}

theorem validateEd25519_withVerification (hagrees : verification.AgreesFor network)
    (assetId value : String) (domain : TokenMetadataDomain) (signature : SignatureMetadata)
    (allowlist : SignerAllowlist) :
    validateEd25519 (tokens.withVerification verification) network.networkId assetId value domain
        signature allowlist =
      validateEd25519 tokens network.networkId assetId value domain signature allowlist := by
  rw [validateEd25519, validateEd25519]
  apply bind_congr_ok
  intro publicKeyHex _
  dsimp only
  apply bind_congr_ok
  intro signatureBytes _
  apply bind_congr_ok
  intro publicKeyBytes _
  apply bind_congr_ok
  intro verifyingKey _
  have hstrict := hagrees.strict domain assetId (utf8Bytes value) verifyingKey signatureBytes
  change ((verification.verifyStrict verifyingKey _ signatureBytes).mapError _ >>= _) = _
  rw [hstrict]
  rfl

theorem validateSecp256k1_withVerification (hagrees : verification.AgreesFor network)
    (assetId value : String) (domain : TokenMetadataDomain) (signature : SignatureMetadata)
    (allowlist : SignerAllowlist) :
    validateSecp256k1 (tokens.withVerification verification) network.networkId assetId value domain
        signature allowlist =
      validateSecp256k1 tokens network.networkId assetId value domain signature allowlist := by
  rw [validateSecp256k1, validateSecp256k1]
  apply bind_congr_ok
  intro publicKeyHex _
  dsimp only
  apply bind_congr_ok
  intro signatureBytes _
  apply bind_congr_ok
  intro parsed _
  apply bind_congr_ok
  intro publicKeyBytes _
  apply bind_congr_ok
  intro encodedPoint _
  apply bind_congr_ok
  intro verifyingKey _
  have hprehash := hagrees.prehash domain assetId (utf8Bytes value) verifyingKey parsed
  change ((verification.verifyPrehash verifyingKey _ parsed).mapError _ >>= _) = _
  rw [hprehash]
  rfl

theorem entryProvenance_withVerification (hagrees : verification.AgreesFor network)
    (allowlist : SignerAllowlist) (trustPolicy : MetadataTrustPolicy) (assetId : String)
    (entry : Proto.TokenMetadataEntry) (domain : TokenMetadataDomain) :
    entryProvenance (tokens.withVerification verification) network allowlist trustPolicy assetId
        entry domain =
      entryProvenance tokens network allowlist trustPolicy assetId entry domain := by
  have hvalidate : ∀ signature,
      validateTokenMetadataSignature (tokens.withVerification verification) network.networkId
          assetId entry.value domain signature allowlist =
        validateTokenMetadataSignature tokens network.networkId assetId entry.value domain
          signature allowlist := by
    intro signature
    cases domain with
    | near => exact validateEd25519_withVerification hagrees ..
    | solana => exact validateEd25519_withVerification hagrees ..
    | ethereum => exact validateSecp256k1_withVerification hagrees ..
  rw [entryProvenance, entryProvenance]
  cases entry.signature with
  | none => rfl
  | some signature =>
      dsimp only
      rw [hvalidate]

/-- Only signatures for the network are looked at: other answers for the digests of
another network lead to the same entries and the same refusals. -/
theorem tryExtractFromChainMetadata_withVerification (hagrees : verification.AgreesFor network)
    (allowlist : SignerAllowlist) (trustPolicy : MetadataTrustPolicy)
    (metadata : Option Proto.ChainMetadata) :
    tryExtractFromChainMetadata (tokens.withVerification verification) network allowlist
        trustPolicy metadata =
      tryExtractFromChainMetadata tokens network allowlist trustPolicy metadata := by
  have haccept : acceptEntry (tokens.withVerification verification) network allowlist trustPolicy =
      acceptEntry tokens network allowlist trustPolicy := by
    funext assetId entry
    rw [acceptEntry, acceptEntry]
    simp only [entryProvenance_withVerification hagrees]
    rfl
  have hentry : extractEntry (tokens.withVerification verification) network allowlist
      trustPolicy = extractEntry tokens network allowlist trustPolicy := by
    funext assetId entry
    rw [extractEntry, extractEntry, haccept]
  have hstep : extractStep (tokens.withVerification verification) network allowlist
      trustPolicy = extractStep tokens network allowlist trustPolicy := by
    funext extracted mapping
    rw [extractStep, extractStep, hentry]
  have hmappings : extractMappings (tokens.withVerification verification) network allowlist
      trustPolicy = extractMappings tokens network allowlist trustPolicy := by
    funext mappings
    rw [extractMappings, extractMappings, hstep]
  rw [tryExtractFromChainMetadata, tryExtractFromChainMetadata, hmappings]

end Scope

/-! ## Conversion -/

/-- What holds of a payload that is shown. -/
structure NetworkAgreement (crates : NearCrates) (converter : NearVisualSignConverter)
    (transaction : NearTransaction) (options : VisualSignOptions) (result : ConversionResult)
    (network : NearNetwork) : Prop where
  /-- The first field names the network. -/
  shown : ∃ rest, result.payload.fields = textField "Network" network.displayName :: rest
  /-- A network id of the request was recognised as the network. -/
  recognised : ∀ networkId, suppliedNetworkId options.metadata = some networkId →
    NearNetwork.fromNetworkId networkId = some network
  unnamed : suppliedNetworkId options.metadata = none → converter.network = network
  /-- Whether a signature verifies for a digest that the network does not scope
  has no say in the payload. -/
  signatures : ∀ verification : Verification crates.tokens, verification.AgreesFor network →
    toVisualSignPayload (crates.withVerification verification) converter transaction options =
      .ok result
  accounts : ∀ tx, transaction = .onChain tx →
    network.contradicts tx.signerId = false ∧ network.contradicts tx.receiverId = false
  envelopes : ∀ envelope ∈ shownEnvelopes crates transaction,
    network.contradicts envelope.signerId = false ∧
      network.contradicts envelope.verifyingContract = false

section Agreement

variable {crates : NearCrates} {converter : NearVisualSignConverter}
  {options : VisualSignOptions} {network : NearNetwork} {result : ConversionResult}

variable (options) in
theorem tokenRegistryFor_withVerification {verification : Verification crates.tokens}
    (hagrees : verification.AgreesFor network) (trustPolicy : MetadataTrustPolicy) :
    tokenRegistryFor (crates.withVerification verification) options network trustPolicy =
      tokenRegistryFor crates options network trustPolicy := by
  have hextract := tryExtractFromChainMetadata_withVerification hagrees
    (curatorsFor crates trustPolicy) trustPolicy options.metadata
  have hcurators : curatorsFor (crates.withVerification verification) trustPolicy =
      curatorsFor crates trustPolicy := by
    cases trustPolicy <;> rfl
  rw [tokenRegistryFor, tokenRegistryFor, hcurators]
  exact congrArg (fun extraction : TokenMetadataExtraction =>
    (⟨requestLayers extraction.registry, rejectedMetadataDiagnostics extraction.rejected⟩ :
      RequestTokenRegistry)) hextract

/-- The network of the request is the only thing the check of a signature is scoped by. -/
theorem toVisualSignPayload_withVerification {verification : Verification crates.tokens}
    (hagrees : verification.AgreesFor network)
    (hnetwork : resolveNetwork options converter.network = .ok network)
    (transaction : NearTransaction) :
    toVisualSignPayload (crates.withVerification verification) converter transaction options =
      toVisualSignPayload crates converter transaction options := by
  have htokens := tokenRegistryFor_withVerification options hagrees converter.trustPolicy
  cases transaction with
  | onChain tx =>
      have hregistry : onChainTokens (crates.withVerification verification) tx options network
          converter.trustPolicy = onChainTokens crates tx options network
            converter.trustPolicy := by
        rw [onChainTokens, onChainTokens, htokens]
      change renderOnChain _ _ _ _ = renderOnChain _ _ _ _
      rw [renderOnChain, renderOnChain, hnetwork]
      apply bind_congr_ok
      intro _ _
      apply bind_congr_ok
      intro resolved hresolved
      rw [← Except.ok.inj hresolved, hregistry]
      rfl
  | intent json =>
      have hregistry : envelopeTokens (crates.withVerification verification) json options network
          converter.trustPolicy = envelopeTokens crates json options network
            converter.trustPolicy := by
        rw [envelopeTokens, envelopeTokens, htokens]
        rfl
      change (resolveNetwork _ _ >>= _) = (resolveNetwork _ _ >>= _)
      rw [hnetwork]
      change renderIntentEnvelope _ _ _ _ _ = renderIntentEnvelope _ _ _ _ _
      rw [renderIntentEnvelope, renderIntentEnvelope, hregistry]
      rfl

theorem recognised_of_resolveNetwork
    (hnetwork : resolveNetwork options converter.network = .ok network) :
    (∀ networkId, suppliedNetworkId options.metadata = some networkId →
      NearNetwork.fromNetworkId networkId = some network) ∧
    (suppliedNetworkId options.metadata = none → converter.network = network) := by
  have hrequest := resolveNetwork_eq_ok.1 hnetwork
  constructor
  · intro networkId hsupplied
    rw [hsupplied] at hrequest
    exact hrequest
  · intro hsupplied
    rw [hsupplied] at hrequest
    exact Option.some.inj hrequest

theorem networkAgreement_onChain {tx : Transaction}
    (hresult : toVisualSignPayload crates converter (.onChain tx) options = .ok result) :
    ∃ network, NetworkAgreement crates converter (.onChain tx) options result network := by
  obtain ⟨network, actions, hnetwork, hsigner, hreceiver, hactions, hpayload⟩ :=
    renderOnChain_eq_ok hresult
  obtain ⟨hrecognised, hunnamed⟩ := recognised_of_resolveNetwork hnetwork
  refine ⟨network, ?_, hrecognised, hunnamed, ?_, ?_, ?_⟩
  · rw [hpayload]
    exact ⟨_, rfl⟩
  · intro verification hagrees
    rw [toVisualSignPayload_withVerification hagrees hnetwork, hresult]
  · intro other hother
    cases hother
    exact ⟨hsigner, hreceiver⟩
  · intro envelope henvelope
    exact (renderSingle_isOk_iff.1 ((shown_of_actions hactions).2.2 envelope henvelope)).1

theorem networkAgreement_intent {json : String}
    (hresult : toVisualSignPayload crates converter (.intent json) options = .ok result) :
    ∃ network, NetworkAgreement crates converter (.intent json) options result network := by
  have hpayload := hresult
  obtain ⟨network, hnetwork, hpayload⟩ := bind_eq_ok.1 hpayload
  obtain ⟨rendered, hrendered, hpayload⟩ := bind_eq_ok.1 hpayload
  obtain ⟨payload, hread, hrendered⟩ := bind_eq_ok.1 (mapError_eq_ok.1 hrendered)
  obtain ⟨fields, hfields, -⟩ := bind_eq_ok.1 hrendered
  obtain ⟨hrecognised, hunnamed⟩ := recognised_of_resolveNetwork hnetwork
  refine ⟨network, ?_, hrecognised, hunnamed, ?_, ?_, ?_⟩
  · rw [← pure_eq_ok.1 hpayload]
    exact ⟨_, rfl⟩
  · intro verification hagrees
    rw [toVisualSignPayload_withVerification hagrees hnetwork, hresult]
  · intro tx htx
    cases htx
  · intro envelope henvelope
    have hsame := (mem_shownEnvelopes_intent.1 henvelope).symm.trans (mapError_eq_ok.1 hread)
    rw [Except.ok.inj hsame]
    exact (renderSingle_isOk_iff.1 ⟨fields, mapError_eq_ok.1 hfields⟩).1

end Agreement

/-- Whatever the converter accepts agrees with one network, whether the input is
decoded already or comes as text. -/
theorem network_agreement (crates : NearCrates) (backing : Json.Backing)
    (converter : NearVisualSignConverter) (options : VisualSignOptions) :
    (∀ transaction result, toVisualSignPayload crates converter transaction options = .ok result →
      ∃ network, NetworkAgreement crates converter transaction options result network) ∧
    ∀ transactionData result,
      toVisualSignPayloadFromString crates backing converter transactionData options =
        .ok result →
      ∃ transaction network,
        NearTransaction.fromStringWithOptions crates transactionData options.developerConfig =
          .ok transaction ∧
        NetworkAgreement crates converter transaction options result network := by
  have hagreement : ∀ transaction result,
      toVisualSignPayload crates converter transaction options = .ok result →
      ∃ network, NetworkAgreement crates converter transaction options result network := by
    intro transaction result hresult
    cases transaction with
    | onChain tx => exact networkAgreement_onChain hresult
    | intent json => exact networkAgreement_intent hresult
  refine ⟨hagreement, ?_⟩
  intro transactionData result hresult
  obtain ⟨transaction, htransaction, hresult⟩ := bind_eq_ok.1 hresult
  obtain ⟨converted, hconverted, hresult⟩ := bind_eq_ok.1 hresult
  obtain ⟨⟨⟩, -, hresult⟩ := bind_eq_ok.1 hresult
  rw [pure_eq_ok.1 hresult] at hconverted
  obtain ⟨network, hnetwork⟩ := hagreement transaction result hconverted
  exact ⟨transaction, network, mapError_eq_ok.1 htransaction, hnetwork⟩

def testnetConverter : NearVisualSignConverter := ⟨.testnet, .acceptUnsigned⟩

/-- A signed batch on the network that the request names. -/
theorem network_agreement_nativeWithdraw :
    ∃ result network, NetworkAgreement nativeWithdrawCrates testnetConverter
      (.onChain nativeWithdrawTransaction)
      (withTokenMappings plainOptions (some "near_mainnet") refusedMapping) result network := by
  have hnetwork : requestNetwork (some "near_mainnet") testnetConverter.network =
      some .mainnet := by decide
  obtain ⟨actions, hactions⟩ := renderOnChain_of_showable plainOptions
    readsNoMetadata_nativeWithdraw ⟨_, List.mem_singleton_self _, rfl⟩ hnetwork
    showable_nativeWithdraw
  exact ⟨_, (network_agreement nativeWithdrawCrates .sorted testnetConverter _).1 _ _
    (hactions refusedMapping)⟩

end VisualSignParser.Near
