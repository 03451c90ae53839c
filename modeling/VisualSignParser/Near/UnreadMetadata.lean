import VisualSignParser.Near.Convert
import VisualSignParser.Near.TokenTrust

/-!
# Metadata that nothing reads

Metadata of tokens is only looked at when amounts of tokens are shown.  For an
envelope the registry is built when one of its intents looks at it.  For a
transaction it is built as soon as it calls `execute_intents`, whatever the
intents are, and what it refuses is shown.
-/

namespace VisualSignParser.Near

open VisualSignParser.Framing
open VisualSignParser.OrderedMap
open VisualSignParser.Outcome
open VisualSignParser.VisualSign
open VisualSignParser.Ethereum (LayeredRegistry MetadataTrustPolicy SignerAllowlist)

/-- The intents that are shown. -/
def renderedIntents (crates : NearCrates) (transaction : NearTransaction) : List Intent :=
  (shownEnvelopes crates transaction).flatMap DefusePayload.intents

/-- The request with these mappings as its metadata. -/
def withTokenMappings (options : VisualSignOptions) (networkId : Option String)
    (mappings : BTreeMap String Proto.TokenMetadataEntry) : VisualSignOptions :=
  { options with metadata := some ⟨some (.near ⟨networkId, mappings⟩)⟩ }

/-- No rendered intent looks at the metadata. -/
def ReadsNoMetadata (crates : NearCrates) (transaction : NearTransaction) : Prop :=
  ∀ intent ∈ renderedIntents crates transaction, intentConsumesTokenRegistry intent = false

/-- The payload does not depend on mappings that no rendered intent reads. -/
def UnreadMetadataInvisible (crates : NearCrates) (converter : NearVisualSignConverter)
    (options : VisualSignOptions) (networkId : Option String) (transaction : NearTransaction) :
    Prop :=
  (ReadsNoMetadata crates transaction → ∀ left right,
    toVisualSignPayload crates converter transaction (withTokenMappings options networkId left) =
      toVisualSignPayload crates converter transaction
        (withTokenMappings options networkId right)) ∧
  ∀ intent, intentConsumesTokenRegistry intent = false → ∀ left right,
    renderIntent crates.tokens.isNep141 left intent =
      renderIntent crates.tokens.isNep141 right intent

/-- A transaction that is not refused: its accounts and those of its envelopes
agree with the network, its actions can be shown and its batches decode. -/
structure Showable (crates : NearCrates) (network : NearNetwork) (tx : Transaction) : Prop where
  signer : network.contradicts tx.signerId = false
  receiver : network.contradicts tx.receiverId = false
  actions : ∀ action ∈ tx.actions,
    ∃ fields, renderAction crates.args action tx.actions.length = .ok fields
  batches : ∀ action ∈ tx.actions, ∀ call,
    tokenMetadataConsumer tx.receiverId action = some call →
    ∃ payloads, crates.json.signedBatch call.args = .ok payloads
  envelopes : ∀ envelope ∈ shownEnvelopes crates (.onChain tx), envelope.Agrees network

/-- A transaction that calls `execute_intents` and is not refused. -/
def ShowsBatch (crates : NearCrates) (converter : NearVisualSignConverter)
    (networkId : Option String) (transaction : NearTransaction) : Prop :=
  ∃ tx network, transaction = .onChain tx ∧
    (∃ action ∈ tx.actions, (tokenMetadataConsumer tx.receiverId action).isSome = true) ∧
    requestNetwork networkId converter.network = some network ∧ Showable crates network tx

section Unread

variable {crates : NearCrates} {converter : NearVisualSignConverter}
  {options : VisualSignOptions} {networkId : Option String}

/-- The mappings have no say in the network. -/
theorem resolveNetwork_withTokenMappings (mappings : BTreeMap String Proto.TokenMetadataEntry)
    (fallback : NearNetwork) :
    resolveNetwork (withTokenMappings options networkId mappings) fallback =
      resolveNetwork (withTokenMappings options networkId BTreeMap.empty) fallback := rfl

theorem quiet_of_readsNoMetadata {transaction : NearTransaction}
    (hreads : ReadsNoMetadata crates transaction) {envelope : DefusePayload}
    (henvelope : envelope ∈ shownEnvelopes crates transaction) : envelope.Quiet := by
  intro intent hintent
  exact hreads intent (List.mem_flatMap.2 ⟨envelope, henvelope, hintent⟩)

/-- The fields of the actions are the same for every registry. -/
theorem actions_of_readsNoMetadata {tx : Transaction}
    (hreads : ReadsNoMetadata crates (.onChain tx)) (network : NearNetwork)
    (left right : LayeredRegistry NearTokenRegistry) :
    tx.actions.mapM (renderActionWithIntents crates tx left network) =
      tx.actions.mapM (renderActionWithIntents crates tx right network) := by
  apply mapM_congr
  intro action haction
  have hintents : decodeIntents crates tx.receiverId action left network =
      decodeIntents crates tx.receiverId action right network := by
    rw [decodeIntents, decodeIntents]
    cases hcall : tokenMetadataConsumer tx.receiverId action with
    | none => rfl
    | some call =>
        dsimp only
        rw [tryDecodeExecuteIntents_of_quiet _ left right]
        intro envelope henvelope
        apply quiet_of_readsNoMetadata hreads
        exact mem_shownEnvelopes_onChain.2 ⟨action, haction, call, hcall, henvelope⟩
  rw [renderActionWithIntents, renderActionWithIntents, hintents]

theorem actions_of_showable {tx : Transaction} {network : NearNetwork}
    (hreads : ReadsNoMetadata crates (.onChain tx)) (hshowable : Showable crates network tx)
    (registry : LayeredRegistry NearTokenRegistry) :
    ∃ actions, tx.actions.mapM (renderActionWithIntents crates tx registry network) =
      .ok actions := by
  apply mapM_isOk_iff.2
  intro action haction
  obtain ⟨fields, hfields⟩ := hshowable.actions action haction
  have hintents : ∃ intents, decodeIntents crates tx.receiverId action registry network =
      .ok intents := by
    rw [decodeIntents]
    cases hcall : tokenMetadataConsumer tx.receiverId action with
    | none => exact ⟨[], rfl⟩
    | some call =>
        simp only [mapError_eq_ok]
        refine tryDecodeExecuteIntents_isOk_iff.2 ⟨hshowable.batches action haction call hcall, ?_⟩
        intro envelope henvelope
        have hshown := mem_shownEnvelopes_onChain.2 ⟨action, haction, call, hcall, henvelope⟩
        refine renderSingle_isOk_iff.2 ⟨hshowable.envelopes envelope hshown, ?_⟩
        intro listed hlisted
        obtain ⟨fields, hfields⟩ := renderListedIntent_of_quiet crates.tokens.isNep141
          (quiet_of_readsNoMetadata hreads hshown) hlisted
        exact ⟨fields, hfields registry⟩
  obtain ⟨intents, hintents⟩ := hintents
  exact ⟨_, bind_eq_ok.2 ⟨fields, hfields, bind_eq_ok.2 ⟨intents, hintents, rfl⟩⟩⟩

/-- A mapping that is refused whatever the network and the policy are. -/
def refusedMapping : BTreeMap String Proto.TokenMetadataEntry :=
  BTreeMap.empty.insert "nep141:gap.near" ⟨"", none, some 9⟩

theorem extractMappings_refusedMapping (tokens : TokenCrates) (network : NearNetwork)
    (allowlist : SignerAllowlist) (trustPolicy : MetadataTrustPolicy) :
    extractMappings tokens network allowlist trustPolicy refusedMapping =
      ⟨none, [⟨"nep141:gap.near", "unrecognized origin_chain 9"⟩]⟩ := by
  rfl

theorem onChainTokens_of_no_consumer {tx : Transaction}
    (hnone : ¬ ∃ action ∈ tx.actions, (tokenMetadataConsumer tx.receiverId action).isSome = true)
    (network : NearNetwork) (trustPolicy : MetadataTrustPolicy) :
    onChainTokens crates tx options network trustPolicy = RequestTokenRegistry.empty := by
  rw [onChainTokens, if_neg]
  intro hany
  exact hnone (List.any_eq_true.1 hany)

variable (options) in
/-- A transaction that is shown and calls `execute_intents` is shown with the
report of every refused mapping. -/
theorem renderOnChain_of_showable {tx : Transaction} {network : NearNetwork}
    (hreads : ReadsNoMetadata crates (.onChain tx))
    (hcall : ∃ action ∈ tx.actions, (tokenMetadataConsumer tx.receiverId action).isSome = true)
    (hnetwork : requestNetwork networkId converter.network = some network)
    (hshowable : Showable crates network tx) :
    ∃ actions, ∀ mappings,
      renderOnChain crates converter tx (withTokenMappings options networkId mappings) =
        .ok (onChainPayload tx network (rejectedMetadataDiagnostics
          (extractMappings crates.tokens network (curatorsFor crates converter.trustPolicy)
            converter.trustPolicy mappings).rejected) actions) := by
  obtain ⟨actions, hactions⟩ := actions_of_showable hreads hshowable (requestLayers none)
  refine ⟨actions, ?_⟩
  intro mappings
  have hnonempty : tx.actions.isEmpty = false := by
    obtain ⟨action, haction, -⟩ := hcall
    exact List.isEmpty_eq_false_iff_exists_mem.2 ⟨action, haction⟩
  have htokens : onChainTokens crates tx (withTokenMappings options networkId mappings) network
      converter.trustPolicy = tokenRegistryFor crates
        (withTokenMappings options networkId mappings) network converter.trustPolicy := by
    rw [onChainTokens, if_pos]
    exact List.any_eq_true.2 hcall
  rw [actions_of_readsNoMetadata hreads network _ (tokenRegistryFor crates
    (withTokenMappings options networkId mappings) network converter.trustPolicy).registry]
    at hactions
  refine bind_eq_ok.2 ⟨(), require_eq_ok.2 hnonempty, ?_⟩
  refine bind_eq_ok.2 ⟨network, resolveNetwork_eq_ok.2 hnetwork, ?_⟩
  refine bind_eq_ok.2 ⟨(), requireNetwork_eq_ok.2 hshowable.signer, ?_⟩
  refine bind_eq_ok.2 ⟨(), requireNetwork_eq_ok.2 hshowable.receiver, ?_⟩
  dsimp only
  rw [htokens]
  exact bind_eq_ok.2 ⟨actions, hactions, rfl⟩

/-- The mapping that is refused changes the payload of such a transaction. -/
theorem differs_of_showsBatch {transaction : NearTransaction}
    (hreads : ReadsNoMetadata crates transaction)
    (hshows : ShowsBatch crates converter networkId transaction) :
    toVisualSignPayload crates converter transaction
        (withTokenMappings options networkId BTreeMap.empty) ≠
      toVisualSignPayload crates converter transaction
        (withTokenMappings options networkId refusedMapping) := by
  obtain ⟨tx, network, rfl, hcall, hnetwork, hshowable⟩ := hshows
  obtain ⟨actions, hactions⟩ := renderOnChain_of_showable options hreads hcall hnetwork hshowable
  intro heq
  rw [toVisualSignPayload, toVisualSignPayload, hactions, hactions,
    extractMappings_refusedMapping] at heq
  have hlength := congrArg (fun result => result.payload.fields.length) (Except.ok.inj heq)
  simp [onChainPayload, rejectedMetadataDiagnostics, extractMappings, BTreeMap.empty] at hlength

theorem renderOnChain_of_not_showsBatch {tx : Transaction}
    (hreads : ReadsNoMetadata crates (.onChain tx))
    (hshows : ¬ ShowsBatch crates converter networkId (.onChain tx))
    (left right : BTreeMap String Proto.TokenMetadataEntry) :
    renderOnChain crates converter tx (withTokenMappings options networkId left) =
      renderOnChain crates converter tx (withTokenMappings options networkId right) := by
  rw [renderOnChain, renderOnChain, resolveNetwork_withTokenMappings left,
    resolveNetwork_withTokenMappings right]
  apply bind_congr_ok
  intro _ _
  apply bind_congr_ok
  intro network hnetwork
  apply bind_congr_ok
  intro _ hsigner
  apply bind_congr_ok
  intro _ hreceiver
  dsimp only
  by_cases hcall : ∃ action ∈ tx.actions, (tokenMetadataConsumer tx.receiverId action).isSome = true
  · rw [actions_of_readsNoMetadata hreads network
      (onChainTokens crates tx (withTokenMappings options networkId left) network
        converter.trustPolicy).registry
      (onChainTokens crates tx (withTokenMappings options networkId right) network
        converter.trustPolicy).registry]
    apply bind_congr_ok
    intro actions hactions
    obtain ⟨hrendered, hbatches, henvelopes⟩ := shown_of_actions hactions
    refine absurd ⟨tx, network, rfl, hcall, resolveNetwork_eq_ok.1 hnetwork,
      requireNetwork_eq_ok.1 hsigner, requireNetwork_eq_ok.1 hreceiver, hrendered, hbatches, ?_⟩
      hshows
    intro envelope henvelope
    exact (renderSingle_isOk_iff.1 (henvelopes envelope henvelope)).1
  · rw [onChainTokens_of_no_consumer hcall, onChainTokens_of_no_consumer hcall]

/-- An envelope without an intent that looks at the metadata builds no registry. -/
theorem envelopeTokens_of_readsNoMetadata {json : String}
    (hreads : ReadsNoMetadata crates (.intent json)) (network : NearNetwork)
    (trustPolicy : MetadataTrustPolicy) :
    envelopeTokens crates json options network trustPolicy = RequestTokenRegistry.empty := by
  rw [envelopeTokens, if_neg]
  rw [singleIntentConsumesTokenRegistry]
  cases henvelope : crates.json.envelope (utf8Bytes json) with
  | error error => exact Bool.false_ne_true
  | ok envelope =>
      intro hany
      obtain ⟨intent, hintent, hconsumes⟩ := List.any_eq_true.1 hany
      have hquiet := quiet_of_readsNoMetadata hreads (mem_shownEnvelopes_intent.2 henvelope)
      exact Bool.false_ne_true ((hquiet intent hintent).symm.trans hconsumes)

/-- Mappings that nothing reads are invisible, except to a transaction that shows a
batch none of whose intents reads them. -/
theorem unreadMetadata_invisible_iff (crates : NearCrates) (converter : NearVisualSignConverter)
    (options : VisualSignOptions) (networkId : Option String) (transaction : NearTransaction) :
    UnreadMetadataInvisible crates converter options networkId transaction ↔
      ¬ (ReadsNoMetadata crates transaction ∧
        ShowsBatch crates converter networkId transaction) := by
  constructor
  · rintro ⟨hinvisible, -⟩ ⟨hreads, hshows⟩
    exact differs_of_showsBatch hreads hshows (hinvisible hreads _ _)
  · intro hnot
    constructor
    · intro hreads left right
      have hshows := fun hshows => hnot ⟨hreads, hshows⟩
      cases transaction with
      | onChain tx => exact renderOnChain_of_not_showsBatch hreads hshows left right
      | intent json =>
          rw [toVisualSignPayload, toVisualSignPayload, resolveNetwork_withTokenMappings left,
            resolveNetwork_withTokenMappings right]
          apply bind_congr_ok
          intro network _
          rw [renderIntentEnvelope, renderIntentEnvelope,
            envelopeTokens_of_readsNoMetadata hreads, envelopeTokens_of_readsNoMetadata hreads]
    · intro intent hconsumes left right
      obtain ⟨fields, hfields⟩ := renderIntent_of_not_consumes crates.tokens.isNep141 hconsumes
      rw [hfields left, hfields right]

end Unread

/-! ## A batch that withdraws NEAR -/

/-- One signed envelope with a single `native_withdraw`. -/
def nativeWithdrawArgs : Bytes := utf8Bytes
  ("\x7b\"signed\":[\x7b\"standard\":\"raw_ed25519\",\"payload\":\"" ++
    "\x7b\\\"signer_id\\\":\\\"alice.near\\\",\\\"verifying_contract\\\":\\\"intents.near\\\"," ++
    "\\\"deadline\\\":\\\"2999-01-01T00:00:00Z\\\"," ++
    "\\\"nonce\\\":\\\"AAAAAAAAAAAAAAAAAAAAAAAAAAAAAAAAAAAAAAAAAAA=\\\",\\\"intents\\\":[" ++
    "\x7b\\\"intent\\\":\\\"native_withdraw\\\",\\\"receiver_id\\\":\\\"bob.near\\\"," ++
    "\\\"amount\\\":\\\"1\\\"\x7d]\x7d\"," ++
    "\"public_key\":\"ed25519:8rVvtHWFr8hasdQGGD5WiQBTyr4iH2ruEPPVfj491RPN\"," ++
    "\"signature\":\"ed25519:3vtbNQJHZfuV1s5DykzyjkbNLc583hnkrhTz57eDhd966iqzkor6Twgr4Loh2C195" ++
    "SCSEsiGfrd6KcxpjNq9ZbVj\"\x7d]\x7d")

def nativeWithdrawEnvelope : DefusePayload where
  signerId := "alice.near"
  verifyingContract := "intents.near"
  deadline := 32472144000
  nonce := ⟨List.replicate 32 0, List.length_replicate⟩
  intents := [.nativeWithdraw ⟨"bob.near", 1⟩]

/-- The signature is of another text. -/
def nativeWithdrawBatch : List MultiPayload :=
  [⟨.rawEd25519, 0, none, .ok nativeWithdrawEnvelope⟩]

/-- Readers that know the one batch. -/
def nativeWithdrawCrates : NearCrates where
  tokens := unsignedCrates
  args := ⟨fun _ => none, fun _ => none⟩
  json :=
    { signedBatch := fun args => if args = nativeWithdrawArgs then .ok nativeWithdrawBatch
        else .error "expected value at line 1 column 1"
      envelope := fun _ => .error "expected value at line 1 column 1" }
  clock := ⟨fun _ => "2999-01-01T00:00:00+00:00", fun deadline => deadline < 1750000000⟩
  authorizedSigners := ⟨[]⟩
  transaction := fun _ => .error "Unexpected length of input"
  signedTransaction := fun _ => .error "Unexpected length of input"

def nativeWithdrawCall : FunctionCallAction where
  methodName := "execute_intents"
  args := nativeWithdrawArgs
  gas := 30000000000000
  deposit := 0

def nativeWithdrawTransaction : Transaction :=
  ⟨"alice.near", "intents.near", [.functionCall nativeWithdrawCall]⟩

def plainOptions : VisualSignOptions := ⟨true, none, none, none, false⟩

theorem signedBatch_nativeWithdraw :
    nativeWithdrawCrates.json.signedBatch nativeWithdrawArgs = .ok nativeWithdrawBatch := by
  simp only [nativeWithdrawCrates, if_true]

theorem tokenMetadataConsumer_nativeWithdraw :
    tokenMetadataConsumer "intents.near" (.functionCall nativeWithdrawCall) =
      some nativeWithdrawCall := by
  rw [tokenMetadataConsumer, if_pos]
  exact ⟨rfl, rfl⟩

theorem shownEnvelopes_nativeWithdraw :
    shownEnvelopes nativeWithdrawCrates (.onChain nativeWithdrawTransaction) =
      [nativeWithdrawEnvelope] := by
  rw [shownEnvelopes, nativeWithdrawTransaction, List.filterMap_cons_some
    tokenMetadataConsumer_nativeWithdraw, List.filterMap_nil, List.flatMap_singleton,
    batchEnvelopes, nativeWithdrawCall, signedBatch_nativeWithdraw]
  rfl

theorem readsNoMetadata_nativeWithdraw :
    ReadsNoMetadata nativeWithdrawCrates (.onChain nativeWithdrawTransaction) := by
  rw [ReadsNoMetadata, renderedIntents, shownEnvelopes_nativeWithdraw]
  intro intent hintent
  rw [List.mem_singleton.1 hintent]
  rfl

theorem showable_nativeWithdraw :
    Showable nativeWithdrawCrates .mainnet nativeWithdrawTransaction where
  signer := by decide
  receiver := by decide
  actions := by
    intro action haction
    rw [List.mem_singleton.1 haction]
    exact ⟨_, rfl⟩
  batches := by
    intro action haction call hcall
    rw [List.mem_singleton.1 haction, nativeWithdrawTransaction,
      tokenMetadataConsumer_nativeWithdraw] at hcall
    rw [← Option.some.inj hcall]
    exact ⟨_, signedBatch_nativeWithdraw⟩
  envelopes := by
    rw [shownEnvelopes_nativeWithdraw]
    intro envelope henvelope
    rw [List.mem_singleton.1 henvelope]
    exact ⟨by decide, by decide⟩

/-- A refused mapping is shown although the batch moves no token. -/
theorem refused_mapping_shown : ¬ UnreadMetadataInvisible nativeWithdrawCrates
    ⟨.mainnet, .acceptUnsigned⟩ plainOptions none (.onChain nativeWithdrawTransaction) := by
  rintro ⟨hinvisible, -⟩
  refine differs_of_showsBatch readsNoMetadata_nativeWithdraw ?_
    (hinvisible readsNoMetadata_nativeWithdraw _ _)
  exact ⟨_, .mainnet, rfl, ⟨_, List.mem_singleton_self _, rfl⟩, rfl, showable_nativeWithdraw⟩

end VisualSignParser.Near
