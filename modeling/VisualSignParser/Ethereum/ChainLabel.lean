import VisualSignParser.Ethereum.EnvelopeDisplay

/-!
# The network a transaction is shown on

The chain id of the bytes, the network of the metadata and a default for legacy
transactions are tried in turn.  A network that is not recognised counts as one
that is not given, so it never contradicts the label, but it does not keep the
label from being that of mainnet either.
-/

namespace VisualSignParser.Ethereum

open VisualSignParser.VisualSign

/-- The network a request names, recognised or not. -/
def suppliedNetworkId (metadata : Option Proto.ChainMetadata) : Option String := do
  let metadata ← metadata
  let inner ← metadata.metadata
  match inner with
  | .ethereum ethereum => ethereum.networkId
  | _ => none

theorem extractChainIdFromMetadata_eq (metadata : Option Proto.ChainMetadata) :
    extractChainIdFromMetadata metadata =
      (suppliedNetworkId metadata).bind networkIdToChainId := by
  cases metadata with
  | none => rfl
  | some metadata =>
      obtain ⟨inner⟩ := metadata
      cases inner with
      | none => rfl
      | some inner => cases inner <;> rfl

/-- The chain that is shown is the one of the bytes and the one of a recognised
network, whichever there is.  With a chain id in the bytes, a network that is not
recognised is shown as mainnet only where the bytes say so. -/
structure AgreesWithRequest (tx : SupportedTransaction) (networkId : Option String)
    (chainId : ChainId) : Prop where
  own : ∀ own, tx.chainId = some own → chainId = own
  supplied : ∀ supplied denoted, networkId = some supplied →
    networkIdToChainId supplied = some denoted → chainId = denoted
  unrecognised : ∀ own supplied, tx.chainId = some own → networkId = some supplied →
    networkIdToChainId supplied = none →
      (getNetworkName (some chainId) = "Ethereum Mainnet" ↔ own = 1)

theorem getNetworkName_mainnet : getNetworkName (some 1) = "Ethereum Mainnet" := by
  decide

theorem getNetworkName_eq_mainnet_iff (chainId : ChainId) :
    getNetworkName (some chainId) = "Ethereum Mainnet" ↔ chainId = 1 := by
  rw [← getNetworkName_mainnet]
  exact getNetworkName_injective.eq_iff

theorem resolveChainId_own {tx : SupportedTransaction} {options : VisualSignOptions}
    {chainId own : ChainId} (hresolved : resolveChainId tx options = .ok chainId)
    (hown : tx.chainId = some own) : chainId = own := by
  rw [resolveChainId, hown] at hresolved
  cases hmetadata : extractChainIdFromMetadata options.metadata with
  | none =>
      rw [hmetadata] at hresolved
      exact (Except.ok.inj hresolved).symm
  | some denoted =>
      rw [hmetadata] at hresolved
      dsimp only at hresolved
      split_ifs at hresolved
      exact (Except.ok.inj hresolved).symm

/-- A recognised network either is the one shown or makes the conversion fail. -/
theorem resolveChainId_denoted {tx : SupportedTransaction} {options : VisualSignOptions}
    {chainId denoted : ChainId} (hresolved : resolveChainId tx options = .ok chainId)
    (hdenoted : extractChainIdFromMetadata options.metadata = some denoted) :
    chainId = denoted := by
  rw [resolveChainId, hdenoted] at hresolved
  cases hown : tx.chainId with
  | none =>
      rw [hown] at hresolved
      exact (Except.ok.inj hresolved).symm
  | some own =>
      rw [hown] at hresolved
      dsimp only at hresolved
      split_ifs at hresolved with hsame
      rw [← Except.ok.inj hresolved]
      exact not_not.1 hsame

theorem agreesWithRequest_of_resolved {tx : SupportedTransaction} {options : VisualSignOptions}
    {chainId : ChainId} (hresolved : resolveChainId tx options = .ok chainId) :
    AgreesWithRequest tx (suppliedNetworkId options.metadata) chainId where
  own own hown := resolveChainId_own hresolved hown
  supplied supplied denoted hsupplied hdenoted := by
    apply resolveChainId_denoted hresolved
    rw [extractChainIdFromMetadata_eq, hsupplied, Option.bind_some, hdenoted]
  unrecognised own supplied hown _ _ := by
    rw [getNetworkName_eq_mainnet_iff, resolveChainId_own hresolved hown]

/-- A network that is not recognised counts as one that is not given. -/
theorem resolveChainId_of_unrecognised (tx : SupportedTransaction) {options : VisualSignOptions}
    (hunrecognised : (suppliedNetworkId options.metadata).bind networkIdToChainId = none) :
    resolveChainId tx options = .ok tx.shownChain := by
  have hnone : { options with metadata := none }.metadata = none := rfl
  rw [← resolveChainId_of_no_metadata tx hnone, resolveChainId, resolveChainId,
    extractChainIdFromMetadata_eq, hunrecognised]
  rfl

theorem convertTransactionInner_of_resolved (formats : Formats) (dyn : DynAbi) (k256 : K256)
    (converter : EthereumVisualSignConverter) {tx : SupportedTransaction}
    {options : VisualSignOptions} {chainId : ChainId}
    (hresolved : resolveChainId tx options = .ok chainId) :
    converter.convertTransactionInner formats dyn k256 (.supported tx) options =
      .ok (convertToVisualSignPayload formats dyn converter.createLayeredRegistry
        converter.visualizerRegistry (converter.extractMetadataAbi formats dyn k256 options chainId)
        options.decodeTransfers chainId tx options.transactionName) := by
  rw [EthereumVisualSignConverter.convertTransactionInner, hresolved]
  rfl

/-- A chain that is resolved agrees with the transaction and the request, and is
the one whose name comes first in the payload. -/
theorem network_label_agrees (tx : SupportedTransaction) (options : VisualSignOptions)
    (chainId : ChainId) (hresolved : resolveChainId tx options = .ok chainId) :
    AgreesWithRequest tx (suppliedNetworkId options.metadata) chainId ∧
    ∀ formats dyn k256 (converter : EthereumVisualSignConverter), ∃ payload,
      converter.convertTransactionInner formats dyn k256 (.supported tx) options = .ok payload ∧
      payload.fields.head? = some (textField "Network" (getNetworkName (some chainId))) :=
  ⟨agreesWithRequest_of_resolved hresolved, fun formats dyn k256 converter =>
    ⟨_, convertTransactionInner_of_resolved formats dyn k256 converter hresolved, rfl⟩⟩

/-- A call of nothing on the given chain. -/
def emptyCall (chainId : Option ChainId) : SupportedTransaction := .legacy {
  chainId := chainId
  nonce := 0
  gasPrice := 0
  gasLimit := 21000
  destination := .call .zero
  value := 0
  input := [] }

/-- Options that name a network. -/
def networkOptions (networkId : String) : VisualSignOptions where
  decodeTransfers := false
  transactionName := none
  metadata := some ⟨some (.ethereum ⟨some networkId, OrderedMap.BTreeMap.empty⟩)⟩
  developerConfig := none
  includeIntermediateOutput := false

theorem network_label_agrees_polygon :
    AgreesWithRequest (emptyCall none) (some "polygon_mainnet") 137 ∧
      getNetworkName (some 137) = "Polygon Mainnet" := by
  have hresolved :
      resolveChainId (emptyCall none) (networkOptions "polygon_mainnet") = .ok 137 := by
    decide +kernel
  exact ⟨(network_label_agrees _ _ _ hresolved).1, by decide⟩

/-- A network nobody knows is shown as mainnet. -/
theorem unknown_network_shown_as_mainnet :
    networkIdToChainId "ETHEREUM_TESTNET" = none ∧
      resolveChainId (emptyCall (some 1)) (networkOptions "ETHEREUM_TESTNET") = .ok 1 ∧
      resolveChainId (emptyCall none) (networkOptions "ETHEREUM_TESTNET") = .ok 1 ∧
      getNetworkName (some 1) = "Ethereum Mainnet" := by
  have hunknown : networkIdToChainId "ETHEREUM_TESTNET" = none := by decide +kernel
  exact ⟨hunknown, resolveChainId_of_unrecognised _ hunknown,
    resolveChainId_of_unrecognised _ hunknown, getNetworkName_mainnet⟩

end VisualSignParser.Ethereum
