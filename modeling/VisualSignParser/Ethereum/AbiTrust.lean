import VisualSignParser.Ethereum.Convert

/-!
# Which ABIs decode a call

The registry of a request is built by one pass over its ABI mappings.  An
address leads to the text that was accepted for this very address, although the
texts are stored under the spelling of the mapping's key.
-/

namespace VisualSignParser.Ethereum

open VisualSignParser.Framing
open VisualSignParser.OrderedMap
open VisualSignParser.Outcome
open VisualSignParser.Prehash
open VisualSignParser.VisualSign

/-! ## Accepted mappings -/

/-- The signature of the key over the chain, the address and the text. -/
structure Verified (k256 : K256) (chainId : ChainId) (address : Address) (abiJson : String)
    (signature : SignatureMetadata) (key : k256.Key) : Prop where
  algorithm : signature.algorithm = some supportedAlgorithm
  publicKey : ∃ publicKeyHex publicKeyBytes point, signature.publicKey = some publicKeyHex ∧
    Hex.decodeHex publicKeyHex = .ok publicKeyBytes ∧
    k256.encodedPoint publicKeyBytes = .ok point ∧ k256.verifyingKey point = .ok key
  signature : ∃ signatureBytes parsed, Hex.decodeHex signature.value = .ok signatureBytes ∧
    k256.fromDer signatureBytes = .ok parsed ∧
    k256.verifyPrehash key (ethereumMetadataPrehash chainId address (utf8Bytes abiJson)) parsed =
      .ok ()

theorem validateAbiSignature_eq_ok_iff {k256 : K256} {abiJson : String} {address : Address}
    {chainId : ChainId} {signature : SignatureMetadata} {allowlist : Option SignerAllowlist} :
    validateAbiSignature k256 abiJson address chainId signature allowlist = .ok () ↔
      ∃ key, Verified k256 chainId address abiJson signature key ∧
        ∀ authorized, allowlist = some authorized → k256.uncompressed key ∈ authorized.keys := by
  simp only [validateAbiSignature, bind_eq_ok, okOr_eq_ok, require_eq_ok, mapError_eq_ok]
  constructor
  · rintro ⟨_, halgorithm, -, rfl, publicKeyHex, hpublicKey, signatureBytes, hsignature, parsed,
      hparsed, publicKeyBytes, hbytes, point, hpoint, key, hkey, ⟨⟩, hverify, hauthorized⟩
    use key, ⟨halgorithm, ⟨publicKeyHex, publicKeyBytes, point, hpublicKey, hbytes, hpoint, hkey⟩,
      ⟨signatureBytes, parsed, hsignature, hparsed, hverify⟩⟩
    rintro authorized rfl
    exact require_eq_ok.1 hauthorized
  · rintro ⟨key, ⟨halgorithm, ⟨publicKeyHex, publicKeyBytes, point, hpublicKey, hbytes, hpoint,
      hkey⟩, ⟨signatureBytes, parsed, hsignature, hparsed, hverify⟩⟩, hauthorized⟩
    use supportedAlgorithm, halgorithm, (), rfl, publicKeyHex, hpublicKey, signatureBytes,
      hsignature, parsed, hparsed, publicKeyBytes, hbytes, point, hpoint, key, hkey, (), hverify
    cases allowlist with
    | none => rfl
    | some authorized => exact require_eq_ok.2 (hauthorized authorized rfl)

/-- What a policy demands of the signature of a mapping. -/
def AcceptedUnder (k256 : K256) (chainId : ChainId) (address : Address) (abi : Proto.Abi) :
    MetadataTrustPolicy → Prop
  | .acceptUnsigned => ∀ signature, abi.signature = some signature →
      ∃ key, Verified k256 chainId address abi.value (convertProtoSignature signature) key
  | .requireAllowlistedSigner allowlist => ∃ signature key, abi.signature = some signature ∧
      Verified k256 chainId address abi.value (convertProtoSignature signature) key ∧
      k256.uncompressed key ∈ allowlist.keys

theorem toBool_eq_true_iff {E : Type} {outcome : Except E Unit} :
    outcome.toBool = true ↔ outcome = .ok () := by
  cases outcome with
  | error error => simp [Except.toBool]
  | ok value => simp [Except.toBool]

theorem acceptsEntry_iff {k256 : K256} {policy : MetadataTrustPolicy} {chainId : ChainId}
    {address : Address} {abi : Proto.Abi} :
    acceptsEntry k256 policy chainId address abi = true ↔
      AcceptedUnder k256 chainId address abi policy := by
  unfold acceptsEntry
  cases hsignature : abi.signature with
  | none =>
      cases policy with
      | acceptUnsigned => simp [AcceptedUnder, hsignature, MetadataTrustPolicy.acceptsUnsigned]
      | requireAllowlistedSigner allowlist =>
          simp [AcceptedUnder, hsignature, MetadataTrustPolicy.acceptsUnsigned]
  | some signature =>
      dsimp only
      rw [toBool_eq_true_iff, validateAbiSignature_eq_ok_iff]
      cases policy with
      | acceptUnsigned => simp [AcceptedUnder, hsignature, MetadataTrustPolicy.signerAllowlist]
      | requireAllowlistedSigner allowlist =>
          simp [AcceptedUnder, hsignature, MetadataTrustPolicy.signerAllowlist]

section Extraction

variable (formats : Formats) (dyn : DynAbi) (k256 : K256) (policy : MetadataTrustPolicy)
  (chainId : ChainId)

/-- The mapping is accepted for the address, and its text is the ABI. -/
structure AcceptedMapping (entry : String × Proto.Abi) (address : Address) (abi : JsonAbi) :
    Prop where
  parses : formats.parseAddress entry.1 = some address
  size : (utf8Bytes entry.2.value).length ≤ maxAbiJsonBytes
  accepted : AcceptedUnder k256 chainId address entry.2 policy
  parsed : dyn.fromStr entry.2.value = .ok abi

/-- One turn of the loop either leaves the registry or adds an accepted mapping. -/
theorem registerMapping_cases (registry : AbiRegistry) (entry : String × Proto.Abi) :
    registerMapping formats dyn k256 policy chainId registry entry = registry ∨
      ∃ address abi, AcceptedMapping formats dyn k256 policy chainId entry address abi ∧
        registerMapping formats dyn k256 policy chainId registry entry =
          ⟨registry.abis.insert entry.1 abi, registry.addressMappings.insert ⟨chainId, address⟩
            ⟨entry.1, (resolveAbiKind formats entry.2).1, (resolveAbiKind formats entry.2).2⟩⟩ := by
  unfold registerMapping
  cases haddress : formats.parseAddress entry.1 with
  | none => exact .inl rfl
  | some address =>
      dsimp only
      split_ifs with hsize haccepts
      · exact .inl rfl
      · cases hparsed : dyn.fromStr entry.2.value with
        | error error => exact .inl (by simp [AbiRegistry.registerAbi, hparsed, bind, Except.bind])
        | ok abi =>
            apply Or.inr
            use address, abi, ⟨haddress, not_lt.1 hsize, acceptsEntry_iff.1 haccepts, hparsed⟩
            simp [AbiRegistry.registerAbi, AbiRegistry.mapAddressWithType, hparsed, bind,
              Except.bind, pure, Except.pure]
      · exact .inl rfl

/-- Every address of the registry leads to the text of a mapping that was
accepted for it. -/
def Extracted (entries : List (String × Proto.Abi)) (registry : AbiRegistry) : Prop :=
  ∀ key mapping, registry.addressMappings.get key = some mapping →
    key.chainId = chainId ∧ ∃ entry ∈ entries, entry.1 = mapping.abiName ∧
      ∃ abi, AcceptedMapping formats dyn k256 policy chainId entry key.address abi ∧
        registry.abis.get entry.1 = some abi

theorem Extracted.mono {entries more : List (String × Proto.Abi)} {registry : AbiRegistry}
    (hextracted : Extracted formats dyn k256 policy chainId entries registry)
    (hmore : entries ⊆ more) : Extracted formats dyn k256 policy chainId more registry := by
  intro key mapping hmapping
  obtain ⟨hchain, entry, hentry, hrest⟩ := hextracted key mapping hmapping
  exact ⟨hchain, entry, hmore hentry, hrest⟩

theorem extracted_registerMapping {entries : List (String × Proto.Abi)} {registry : AbiRegistry}
    {entry : String × Proto.Abi}
    (hextracted : Extracted formats dyn k256 policy chainId entries registry)
    (hfresh : ∀ earlier ∈ entries, earlier.1 ≠ entry.1) :
    Extracted formats dyn k256 policy chainId (entries ++ [entry])
      (registerMapping formats dyn k256 policy chainId registry entry) := by
  obtain hsame | ⟨address, abi, haccepted, hadded⟩ :=
    registerMapping_cases formats dyn k256 policy chainId registry entry
  · rw [hsame]
    exact hextracted.mono formats dyn k256 policy chainId (List.subset_append_left _ _)
  · rw [hadded]
    intro key mapping hmapping
    rw [BTreeMap.get_insert] at hmapping
    split_ifs at hmapping with hkey
    · rw [← hkey, ← Option.some.inj hmapping]
      exact ⟨rfl, entry, List.mem_append_right _ (List.mem_singleton_self entry), rfl, abi,
        haccepted, BTreeMap.get_insert_self ..⟩
    · obtain ⟨hchain, earlier, hearlier, hname, known, hknown, hget⟩ :=
        hextracted key mapping hmapping
      exact ⟨hchain, earlier, List.mem_append_left _ hearlier, hname, known, hknown,
        (BTreeMap.get_insert_of_ne _ _ (hfresh earlier hearlier).symm).trans hget⟩

/-- The whole pass, for mappings without repeated keys. -/
theorem extracted_foldl {earlier entries : List (String × Proto.Abi)} {registry : AbiRegistry}
    (hextracted : Extracted formats dyn k256 policy chainId earlier registry)
    (hdistinct : DistinctKeys (earlier ++ entries)) :
    Extracted formats dyn k256 policy chainId (earlier ++ entries)
      (entries.foldl (registerMapping formats dyn k256 policy chainId) registry) := by
  induction entries generalizing earlier registry with
  | nil => rwa [List.append_nil]
  | cons entry entries ih =>
      have hfresh : ∀ known ∈ earlier, known.1 ≠ entry.1 := fun known hknown =>
        (List.pairwise_append.1 hdistinct).2.2 known hknown entry (List.mem_cons_self ..)
      have hstep := extracted_registerMapping formats dyn k256 policy chainId hextracted hfresh
      rw [List.append_cons] at hdistinct ⊢
      exact ih hstep hdistinct

/-- The address has a mapping among the metadata of the request that is accepted
for it and whose text is the ABI. -/
def AcceptedAbi (metadata : Option Proto.ChainMetadata) (address : Address) (abi : JsonAbi) :
    Prop :=
  ∃ ethereum, metadata.bind Proto.ChainMetadata.metadata = some (.ethereum ethereum) ∧
    ∃ entry ∈ ethereum.abiMappings.entries,
      AcceptedMapping formats dyn k256 policy chainId entry address abi

theorem acceptedAbi_of_extracted {metadata : Option Proto.ChainMetadata} {registry : AbiRegistry}
    (hregistry : tryExtractFromChainMetadata formats dyn k256 metadata chainId policy =
      some registry) {address : Address} {abi : JsonAbi}
    (habi : registry.getAbiForAddress chainId address = some abi) :
    AcceptedAbi formats dyn k256 policy chainId metadata address abi := by
  unfold tryExtractFromChainMetadata at hregistry
  split at hregistry
  · rename_i ethereum hmetadata
    have hextracted := @extracted_foldl formats dyn k256 policy chainId []
      ethereum.abiMappings.entries AbiRegistry.new (fun _ _ hnone => nomatch hnone)
      ethereum.abiMappings.ascending.distinctKeys
    dsimp only at hregistry
    split_ifs at hregistry
    rw [Option.some.inj hregistry, List.nil_append] at hextracted
    obtain ⟨mapping, hmapping, hget⟩ := Option.bind_eq_some_iff.1 habi
    obtain ⟨-, entry, hentry, hname, known, hknown, hnamed⟩ := hextracted _ mapping hmapping
    rw [← hname, hnamed] at hget
    exact ⟨ethereum, hmetadata, entry, hentry, Option.some.inj hget ▸ hknown⟩
  · cases hregistry

end Extraction

/-! ## What a call shows -/

section Shown

variable (formats : Formats) (dyn : DynAbi) (accepted : Address → JsonAbi → Prop)
  (toAddress : Address) (input : Bytes)

/-- The fields of a call that accepted ABIs decode.  A decoded field stands
behind the address it was decoded for, unless that is the destination. -/
inductive DecodedBy : List SignablePayloadField → Prop where
  | nothing : DecodedBy []
  | own {abi : JsonAbi} {field : SignablePayloadField} (habi : accepted toAddress abi)
      (hfield : visualizeCalldata formats dyn abi input = some field) : DecodedBy [field]
  | linked {implementation : Address} {abi : JsonAbi} {field : SignablePayloadField}
      (habi : accepted implementation abi)
      (hfield : visualizeCalldata formats dyn abi input = some field) :
      DecodedBy [implementationAddressField formats implementation, field]
  | unresolved {implementation : Address} {abi own : JsonAbi} {field : SignablePayloadField}
      (habi : accepted implementation abi)
      (hnone : visualizeCalldata formats dyn abi input = none)
      (hown : accepted toAddress own)
      (hfield : visualizeCalldata formats dyn own input = some field) :
      DecodedBy [unresolvedImplementationField formats implementation, field]
  | raw {implementation : Address} {abi : JsonAbi} (habi : accepted implementation abi)
      (hnone : visualizeCalldata formats dyn abi input = none) :
      DecodedBy [unresolvedImplementationField formats implementation, visualizeHex input]

variable {formats dyn accepted}

theorem getImplementationAbi_eq_some {registry : AbiRegistry} {chainId : ChainId}
    {proxy implementation : Address} {abi : JsonAbi}
    (hlinked : registry.getImplementationAbi chainId proxy = some (implementation, abi)) :
    registry.getAbiKind chainId proxy = some .proxy ∧
      registry.getAbiForAddress chainId implementation = some abi := by
  obtain ⟨mapping, hmapping, hlinked⟩ := Option.bind_eq_some_iff.1 hlinked
  split_ifs at hlinked with hproxy
  obtain ⟨known, -, hlinked⟩ := Option.bind_eq_some_iff.1 hlinked
  obtain ⟨found, hfound, heq⟩ := Option.bind_eq_some_iff.1 hlinked
  obtain ⟨rfl, rfl⟩ := Prod.mk.inj (Option.some.inj heq)
  exact ⟨by rw [AbiRegistry.getAbiKind, hmapping, Option.map_some, hproxy], hfound⟩

theorem decodedBy_visualizeWithAbiRegistry {registry : AbiRegistry} {chainId : ChainId}
    (haccepted : ∀ address abi, registry.getAbiForAddress chainId address = some abi →
      accepted address abi) :
    DecodedBy formats dyn accepted toAddress input
      (visualizeWithAbiRegistry formats dyn registry chainId toAddress input) := by
  -- the field that the destination's own ABI decodes
  have hown : ∀ field, ((registry.getAbiForAddress chainId toAddress).bind fun abi =>
      visualizeCalldata formats dyn abi input) = some field →
      ∃ abi, accepted toAddress abi ∧ visualizeCalldata formats dyn abi input = some field := by
    intro field hfield
    obtain ⟨abi, habi, hdecoded⟩ := Option.bind_eq_some_iff.1 hfield
    exact ⟨abi, haccepted toAddress abi habi, hdecoded⟩
  unfold visualizeWithAbiRegistry
  generalize ((registry.getAbiForAddress chainId toAddress).bind fun abi =>
    visualizeCalldata formats dyn abi input) = own at hown
  dsimp only
  split
  · rename_i implementation abi hlinked
    have hlinked : registry.getImplementationAbi chainId toAddress =
        some (implementation, abi) := by
      split_ifs at hlinked
      exact hlinked
    have habi := haccepted implementation abi (getImplementationAbi_eq_some hlinked).2
    cases hdecoded : visualizeCalldata formats dyn abi input with
    | some field => exact .linked habi hdecoded
    | none =>
        cases own with
        | none => exact .raw habi hdecoded
        | some field =>
            obtain ⟨ownAbi, hownAbi, hfield⟩ := hown field rfl
            exact .unresolved habi hdecoded hownAbi hfield
  · cases own with
    | none => exact .nothing
    | some field =>
        obtain ⟨ownAbi, hownAbi, hfield⟩ := hown field rfl
        exact .own hownAbi hfield

theorem visualizeWithAbiRegistry_ne_nil {registry : AbiRegistry} {chainId : ChainId}
    {implementation : Address} {abi : JsonAbi}
    (hlinked : registry.getImplementationAbi chainId toAddress = some (implementation, abi)) :
    visualizeWithAbiRegistry formats dyn registry chainId toAddress input ≠ [] := by
  unfold visualizeWithAbiRegistry
  rw [if_pos (getImplementationAbi_eq_some hlinked).1, hlinked]
  dsimp only
  cases visualizeCalldata formats dyn abi input with
  | some field => exact List.cons_ne_nil _ _
  | none => exact List.cons_ne_nil _ _

end Shown

/-- Every ABI that the registry of a request hands out was accepted for the
chain and for its own address; what is shown of a call is decoded by such ABIs;
and a proxy with a linked implementation always shows something. -/
theorem callerAbi_accepted (formats : Formats) (dyn : DynAbi) (k256 : K256)
    (policy : MetadataTrustPolicy) (chainId : ChainId) (metadata : Option Proto.ChainMetadata)
    (registry : AbiRegistry)
    (hregistry : tryExtractFromChainMetadata formats dyn k256 metadata chainId policy =
      some registry) :
    (∀ address abi, registry.getAbiForAddress chainId address = some abi →
      AcceptedAbi formats dyn k256 policy chainId metadata address abi) ∧
    ∀ toAddress input,
      DecodedBy formats dyn (AcceptedAbi formats dyn k256 policy chainId metadata) toAddress input
        (visualizeWithAbiRegistry formats dyn registry chainId toAddress input) ∧
      ∀ implementation abi,
        registry.getImplementationAbi chainId toAddress = some (implementation, abi) →
        visualizeWithAbiRegistry formats dyn registry chainId toAddress input ≠ [] := by
  have haccepted (address : Address) (abi : JsonAbi)
      (habi : registry.getAbiForAddress chainId address = some abi) :
      AcceptedAbi formats dyn k256 policy chainId metadata address abi :=
    acceptedAbi_of_extracted formats dyn k256 policy chainId hregistry habi
  apply And.intro haccepted
  intro toAddress input
  apply And.intro (decodedBy_visualizeWithAbiRegistry toAddress input haccepted)
  intro implementation abi hlinked
  exact visualizeWithAbiRegistry_ne_nil toAddress input hlinked

/-- A proxy whose implementation is mapped as well. -/
def linkedMappings : BTreeMap String Proto.Abi :=
  proxyMappings.insert "0x2222222222222222222222222222222222222222" ⟨"[]", none, some 1, none⟩

def linkedMetadata : Option Proto.ChainMetadata := (optimismOptions linkedMappings).metadata

theorem callerAbi_accepted_linked :
    ∃ registry abi, tryExtractFromChainMetadata plainFormats emptyAbi noSignatures linkedMetadata
        10 .acceptUnsigned = some registry ∧
      registry.getImplementationAbi 10 wethOptimism =
        some (addressOf 0x2222222222222222222222222222222222222222, abi) ∧
      AcceptedAbi plainFormats emptyAbi noSignatures .acceptUnsigned 10 linkedMetadata
        (addressOf 0x2222222222222222222222222222222222222222) abi ∧
      visualizeWithAbiRegistry plainFormats emptyAbi registry 10 wethOptimism [1, 2, 3, 4] ≠ [] := by
  have hlinks : (tryExtractFromChainMetadata plainFormats emptyAbi noSignatures linkedMetadata 10
      .acceptUnsigned).bind (fun registry =>
        (registry.getImplementationAbi 10 wethOptimism).map Prod.fst) =
      some (addressOf 0x2222222222222222222222222222222222222222) := by decide +kernel
  obtain ⟨registry, hregistry, hlink⟩ := Option.bind_eq_some_iff.1 hlinks
  obtain ⟨⟨implementation, abi⟩, hlinked, rfl⟩ := Option.map_eq_some_iff.1 hlink
  obtain ⟨haccepted, hshown⟩ := callerAbi_accepted plainFormats emptyAbi noSignatures
    .acceptUnsigned 10 linkedMetadata registry hregistry
  exact ⟨registry, abi, hregistry, hlinked,
    haccepted _ _ (getImplementationAbi_eq_some hlinked).2,
    (hshown wethOptimism [1, 2, 3, 4]).2 _ _ hlinked⟩

end VisualSignParser.Ethereum
