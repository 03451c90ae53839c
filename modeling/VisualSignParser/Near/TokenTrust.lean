import VisualSignParser.Json.Parser
import VisualSignParser.Near.Render

/-!
# What token metadata can change

An entry that no enrolled key signed never touches an asset of the seed table,
and an amount that it scales is shown with a warning.  A signature counts for the
network, the asset and the text it was made for, under the domain of the entry.
-/

namespace VisualSignParser.Near

open VisualSignParser.Framing
open VisualSignParser.OrderedMap
open VisualSignParser.Outcome
open VisualSignParser.VisualSign
open VisualSignParser.Ethereum (LayeredRegistry MetadataTrustPolicy SignerAllowlist)

/-! ## Keys and their domains -/

theorem TokenMetadataDomain.tag_injective : Function.Injective TokenMetadataDomain.tag := by
  intro left right
  cases left <;> cases right <;> decide

theorem TokenMetadataDomain.length_tag_lt (domain : TokenMetadataDomain) :
    (utf8Bytes domain.tag).length < 256 ^ 8 := by
  cases domain <;> decide

/-- An enrolled key is one key of one domain. -/
theorem scopedSignerKey_injective {left right : TokenMetadataDomain} {leftKey rightKey : Bytes}
    (hleft : leftKey.length < 256 ^ 8) (hright : rightKey.length < 256 ^ 8)
    (heq : scopedSignerKey left leftKey = scopedSignerKey right rightKey) :
    left = right ∧ leftKey = rightKey := by
  simp only [scopedSignerKey, List.flatMap_cons, List.flatMap_nil, List.append_nil] at heq
  obtain ⟨htag, hkey⟩ := lenPrefixed_append_inj left.length_tag_lt right.length_tag_lt heq
  exact ⟨TokenMetadataDomain.tag_injective (utf8Bytes_injective htag),
    lenPrefixed_injective hleft hright hkey⟩

/-! ## Signatures -/

/-- The signature verifies for the network, the asset and the value under the key
with these canonical bytes. -/
def VerifiesFor (crates : TokenCrates) (networkId assetId value : String)
    (domain : TokenMetadataDomain) (signature : Proto.SignatureMetadata)
    (canonicalPubkey : Bytes) : Prop :=
  match domain with
  | .ethereum => ∃ signatureBytes parsed verifyingKey,
      Hex.decodeHex signature.value = .ok signatureBytes ∧
      crates.k256.fromDer signatureBytes = .ok parsed ∧
      crates.k256.verifyPrehash verifyingKey
        (domain.prehash networkId assetId (utf8Bytes value)) parsed = .ok () ∧
      crates.k256.uncompressed verifyingKey = canonicalPubkey
  | _ => ∃ (signatureBytes : ByteArr 64) (verifyingKey : crates.ed25519.VerifyingKey),
      Hex.decodeHex signature.value = .ok signatureBytes.val ∧
      crates.ed25519.verifyStrict verifyingKey
        (domain.prehash networkId assetId (utf8Bytes value)) signatureBytes = .ok () ∧
      (crates.ed25519.toBytes verifyingKey).val = canonicalPubkey

/-- A signer is recognised only if its key, in the domain it signs for, is on the
list. -/
theorem SignerIdentity.of_eq_recognized {allowlist : SignerAllowlist}
    {domain : TokenMetadataDomain} {canonicalPubkey : Bytes}
    (hidentity : SignerIdentity.of allowlist domain canonicalPubkey = .recognized) :
    scopedSignerKey domain canonicalPubkey ∈ allowlist.keys := by
  rw [SignerIdentity.of] at hidentity
  split_ifs at hidentity with hmem
  exact hmem

section Validation

variable {crates : TokenCrates} {networkId assetId value : String}
  {domain : TokenMetadataDomain} {signature : Proto.SignatureMetadata}
  {allowlist : SignerAllowlist} {identity : SignerIdentity}

theorem decodeHexFixed_eq_ok {size : ℕ} {text what : String} {bytes : ByteArr size}
    (hdecode : decodeHexFixed crates size text what = .ok bytes) :
    Hex.decodeHex text = .ok bytes.val :=
  Hex.decodeHexArray_eq_ok (mapError_eq_ok.1 hdecode)

/-- A signature that is validated verifies for the digest of the entry under a key
that decides the identity. -/
theorem verifies_of_validateEd25519 (hdomain : domain ≠ .ethereum)
    (hvalid : validateEd25519 crates networkId assetId value domain
      (convertProtoSignature signature) allowlist = .ok identity) :
    ∃ canonicalPubkey, VerifiesFor crates networkId assetId value domain signature
      canonicalPubkey ∧ SignerIdentity.of allowlist domain canonicalPubkey = identity := by
  obtain ⟨publicKeyHex, -, hvalid⟩ := bind_eq_ok.1 hvalid
  obtain ⟨signatureBytes, hsignature, hvalid⟩ := bind_eq_ok.1 hvalid
  obtain ⟨publicKeyBytes, -, hvalid⟩ := bind_eq_ok.1 hvalid
  obtain ⟨verifyingKey, -, hvalid⟩ := bind_eq_ok.1 hvalid
  obtain ⟨⟨⟩, hverified, hvalid⟩ := bind_eq_ok.1 hvalid
  refine ⟨(crates.ed25519.toBytes verifyingKey).val, ?_, pure_eq_ok.1 hvalid⟩
  have hparts := And.intro (decodeHexFixed_eq_ok hsignature)
    (And.intro (mapError_eq_ok.1 hverified) (rfl : (crates.ed25519.toBytes verifyingKey).val = _))
  cases domain with
  | near => exact ⟨signatureBytes, verifyingKey, hparts⟩
  | ethereum => exact absurd rfl hdomain
  | solana => exact ⟨signatureBytes, verifyingKey, hparts⟩

/-- The same for the curve of Ethereum, where the list is searched for the
uncompressed key. -/
theorem verifies_of_validateSecp256k1
    (hvalid : validateSecp256k1 crates networkId assetId value .ethereum
      (convertProtoSignature signature) allowlist = .ok identity) :
    ∃ canonicalPubkey, VerifiesFor crates networkId assetId value .ethereum signature
      canonicalPubkey ∧ SignerIdentity.of allowlist .ethereum canonicalPubkey = identity := by
  obtain ⟨publicKeyHex, -, hvalid⟩ := bind_eq_ok.1 hvalid
  obtain ⟨signatureBytes, hsignature, hvalid⟩ := bind_eq_ok.1 hvalid
  obtain ⟨parsed, hparsed, hvalid⟩ := bind_eq_ok.1 hvalid
  obtain ⟨publicKeyBytes, -, hvalid⟩ := bind_eq_ok.1 hvalid
  obtain ⟨encodedPoint, -, hvalid⟩ := bind_eq_ok.1 hvalid
  obtain ⟨verifyingKey, -, hvalid⟩ := bind_eq_ok.1 hvalid
  obtain ⟨⟨⟩, hverified, hvalid⟩ := bind_eq_ok.1 hvalid
  exact ⟨crates.k256.uncompressed verifyingKey,
    ⟨signatureBytes, parsed, verifyingKey, mapError_eq_ok.1 hsignature, mapError_eq_ok.1 hparsed,
      mapError_eq_ok.1 hverified, rfl⟩, pure_eq_ok.1 hvalid⟩

/-- Whatever the domain, a validated signature verifies for the network, the asset
and the value of this entry and for no others. -/
theorem verifies_of_validate
    (hvalid : validateTokenMetadataSignature crates networkId assetId value domain
      (convertProtoSignature signature) allowlist = .ok identity) :
    ∃ canonicalPubkey, VerifiesFor crates networkId assetId value domain signature
      canonicalPubkey ∧ SignerIdentity.of allowlist domain canonicalPubkey = identity := by
  cases domain with
  | near => exact verifies_of_validateEd25519 (by decide) hvalid
  | ethereum => exact verifies_of_validateSecp256k1 hvalid
  | solana => exact verifies_of_validateEd25519 (by decide) hvalid

/-- The bytes of a key fit the length in front of them. -/
theorem VerifiesFor.length_lt {canonicalPubkey : Bytes}
    (hpoint : ∀ key, (crates.k256.uncompressed key).length = 65)
    (hverifies : VerifiesFor crates networkId assetId value domain signature canonicalPubkey) :
    canonicalPubkey.length < 256 ^ 8 := by
  cases domain with
  | near =>
      obtain ⟨-, verifyingKey, -, -, rfl⟩ := hverifies
      rw [(crates.ed25519.toBytes verifyingKey).2]
      decide
  | ethereum =>
      obtain ⟨-, -, verifyingKey, -, -, -, rfl⟩ := hverifies
      rw [hpoint verifyingKey]
      decide
  | solana =>
      obtain ⟨-, verifyingKey, -, -, rfl⟩ := hverifies
      rw [(crates.ed25519.toBytes verifyingKey).2]
      decide

end Validation

/-! ## One entry -/

/-- A key enrolled for the domain of the entry signed it for this network. -/
def SignedByCurator (crates : TokenCrates) (network : NearNetwork) (allowlist : SignerAllowlist)
    (assetId : String) (entry : Proto.TokenMetadataEntry) (domain : TokenMetadataDomain)
    (canonicalPubkey : Bytes) : Prop :=
  (∃ originChain, entryOriginChain entry = .ok originChain ∧
    TokenMetadataDomain.fromOriginChain originChain = domain) ∧
  scopedSignerKey domain canonicalPubkey ∈ allowlist.keys ∧
  ∃ signature, entry.signature = some signature ∧
    VerifiesFor crates network.networkId assetId entry.value domain signature canonicalPubkey

section Entry

variable {crates : TokenCrates} {network : NearNetwork} {allowlist : SignerAllowlist}
  {trustPolicy : MetadataTrustPolicy} {assetId : String} {entry : Proto.TokenMetadataEntry}
  {found : TokenMeta}

/-- What an accepted entry went through. -/
theorem acceptEntry_eq_ok
    (haccept : acceptEntry crates network allowlist trustPolicy assetId entry = .ok found) :
    (∃ originChain, entryOriginChain entry = .ok originChain ∧
      entryProvenance crates network allowlist trustPolicy assetId entry
        (TokenMetadataDomain.fromOriginChain originChain) = .ok found.provenance) ∧
    (entry.signature.isSome ∨ trustPolicy.acceptsUnsigned) ∧
    (found.provenance.verified = false → seededDecimals crates.isNep141 assetId = none) := by
  obtain ⟨-, -, haccept⟩ := bind_eq_ok.1 haccept
  obtain ⟨originChain, horigin, haccept⟩ := bind_eq_ok.1 haccept
  obtain ⟨⟨⟩, hsigned, haccept⟩ := bind_eq_ok.1 haccept
  obtain ⟨parsed, -, haccept⟩ := bind_eq_ok.1 haccept
  obtain ⟨-, -, haccept⟩ := bind_eq_ok.1 haccept
  obtain ⟨-, -, haccept⟩ := bind_eq_ok.1 haccept
  obtain ⟨-, -, haccept⟩ := bind_eq_ok.1 haccept
  obtain ⟨provenance, hprovenance, haccept⟩ := bind_eq_ok.1 haccept
  cases hseeded : seededDecimals crates.isNep141 assetId with
  | none =>
      rw [hseeded] at haccept
      rw [← pure_eq_ok.1 haccept]
      exact ⟨⟨originChain, horigin, hprovenance⟩, require_eq_ok.1 hsigned, fun _ => rfl⟩
  | some curated =>
      rw [hseeded] at haccept
      obtain ⟨⟨⟩, hverified, haccept⟩ := bind_eq_ok.1 haccept
      rw [← pure_eq_ok.1 haccept]
      refine ⟨⟨originChain, horigin, hprovenance⟩, require_eq_ok.1 hsigned, ?_⟩
      intro hunverified
      rw [require_eq_ok.1 hverified] at hunverified
      cases hunverified

theorem extractEntry_eq_ok
    (hextract : extractEntry crates network allowlist trustPolicy assetId entry = .ok found) :
    acceptEntry crates network allowlist trustPolicy assetId entry = .ok found := by
  rw [extractEntry] at hextract
  split_ifs at hextract
  exact mapError_eq_ok.1 hextract

/-- Only a signature of an enrolled key makes an entry one of a curator. -/
theorem signedByCurator_of_provenance {domain : TokenMetadataDomain}
    {originChain : TokenOriginChain} (horigin : entryOriginChain entry = .ok originChain)
    (hdomain : TokenMetadataDomain.fromOriginChain originChain = domain)
    {provenance : TokenProvenance} (hverified : provenance.verified = true)
    (hprovenance : entryProvenance crates network allowlist trustPolicy assetId entry domain =
      .ok provenance) :
    provenance = .recognizedSigner ∧
      ∃ canonicalPubkey, SignedByCurator crates network allowlist assetId entry domain
        canonicalPubkey := by
  rw [entryProvenance] at hprovenance
  cases hsignature : entry.signature with
  | none =>
      rw [hsignature] at hprovenance
      rw [← pure_eq_ok.1 hprovenance] at hverified
      cases hverified
  | some signature =>
      rw [hsignature] at hprovenance
      obtain ⟨identity, hvalid, hprovenance⟩ := bind_eq_ok.1 hprovenance
      obtain ⟨canonicalPubkey, hverifies, hidentity⟩ :=
        verifies_of_validate (mapError_eq_ok.1 hvalid)
      cases identity with
      | recognized =>
          exact ⟨(pure_eq_ok.1 hprovenance).symm, canonicalPubkey,
            ⟨originChain, horigin, hdomain⟩, SignerIdentity.of_eq_recognized hidentity,
            signature, hsignature, hverifies⟩
      | unrecognized =>
          obtain ⟨-, -, hprovenance⟩ := bind_eq_ok.1 hprovenance
          rw [← pure_eq_ok.1 hprovenance] at hverified
          cases hverified

/-- A strict deployment accepts an entry of a curator only. -/
theorem verified_of_strict (hstrict : trustPolicy.acceptsUnsigned = false)
    {domain : TokenMetadataDomain} {provenance : TokenProvenance}
    (hsigned : entry.signature.isSome = true)
    (hprovenance : entryProvenance crates network allowlist trustPolicy assetId entry domain =
      .ok provenance) :
    provenance.verified = true := by
  obtain ⟨signature, hsignature⟩ := Option.isSome_iff_exists.1 hsigned
  rw [entryProvenance, hsignature] at hprovenance
  obtain ⟨identity, -, hprovenance⟩ := bind_eq_ok.1 hprovenance
  cases identity with
  | recognized =>
      rw [← pure_eq_ok.1 hprovenance]
      rfl
  | unrecognized =>
      obtain ⟨⟨⟩, hrequire, -⟩ := bind_eq_ok.1 hprovenance
      rw [require_eq_ok.1 hrequire] at hstrict
      cases hstrict

end Entry

/-! ## The whole map -/

section Extraction

variable (crates : TokenCrates) (network : NearNetwork) (allowlist : SignerAllowlist)
  (trustPolicy : MetadataTrustPolicy)

/-- The metadata an entry is accepted with. -/
def acceptedMeta (assetId : String) (entry : Proto.TokenMetadataEntry) : Option TokenMeta :=
  (extractEntry crates network allowlist trustPolicy assetId entry).toOption

/-- The report on an entry that is refused. -/
def rejectionOf (assetId : String) (entry : Proto.TokenMetadataEntry) :
    Option RejectedTokenMetadata :=
  match extractEntry crates network allowlist trustPolicy assetId entry with
  | .ok _ => none
  | .error rejected => some rejected

/-- An entry is accepted exactly if it is not rejected, so each entry has one of the
two fates. -/
theorem acceptedMeta_isSome (assetId : String) (entry : Proto.TokenMetadataEntry) :
    (acceptedMeta crates network allowlist trustPolicy assetId entry).isSome = true ↔
      rejectionOf crates network allowlist trustPolicy assetId entry = none := by
  rw [acceptedMeta, rejectionOf]
  cases extractEntry crates network allowlist trustPolicy assetId entry <;>
    simp [Except.toOption]

/-- The loop over the entries keeps the accepted ones in the map and the reports of
the others, each in the order of the entries. -/
theorem foldl_extractStep (entries : List (String × Proto.TokenMetadataEntry))
    (found : BTreeMap String TokenMeta) (rejected : List RejectedTokenMetadata) :
    entries.foldl (extractStep crates network allowlist trustPolicy) (found, rejected) =
      (entries.foldl (BTreeMap.insertChosen
          (acceptedMeta crates network allowlist trustPolicy)) found,
        rejected ++ entries.filterMap fun mapping =>
          rejectionOf crates network allowlist trustPolicy mapping.1 mapping.2) := by
  induction entries generalizing found rejected with
  | nil => rw [List.filterMap_nil, List.append_nil]; rfl
  | cons mapping entries ih =>
      rw [List.foldl_cons, List.foldl_cons, extractStep, BTreeMap.insertChosen, acceptedMeta]
      cases hextract : extractEntry crates network allowlist trustPolicy mapping.1 mapping.2 with
      | ok accepted =>
          have hnone : rejectionOf crates network allowlist trustPolicy mapping.1 mapping.2 =
              none := by
            rw [rejectionOf, hextract]
          dsimp only [Except.toOption]
          rw [ih, List.filterMap_cons, hnone]
      | error refused =>
          have hsome : rejectionOf crates network allowlist trustPolicy mapping.1 mapping.2 =
              some refused := by
            rw [rejectionOf, hextract]
          dsimp only [Except.toOption]
          rw [ih, List.filterMap_cons, hsome, List.append_assoc, List.singleton_append]

variable {mappings : BTreeMap String Proto.TokenMetadataEntry}

/-- A map within the limit is taken entry by entry. -/
theorem extractMappings_of_le (hlength : mappings.entries.length ≤ maxTokenMetadataEntries)
    (assetId : String) :
    findInRequest (extractMappings crates network allowlist trustPolicy mappings).registry assetId =
        (mappings.get assetId).bind (acceptedMeta crates network allowlist trustPolicy assetId) ∧
      (extractMappings crates network allowlist trustPolicy mappings).rejected =
        mappings.entries.filterMap fun mapping =>
          rejectionOf crates network allowlist trustPolicy mapping.1 mapping.2 := by
  have hget := BTreeMap.get_foldl_insertChosen_empty
    (acceptedMeta crates network allowlist trustPolicy) mappings assetId
  rw [extractMappings, if_neg (Nat.not_lt.2 hlength)]
  by_cases hempty : mappings.entries.isEmpty = true
  · have hnil : mappings.entries = [] := List.isEmpty_iff.1 hempty
    rw [if_pos hempty, BTreeMap.get, hnil]
    exact ⟨rfl, rfl⟩
  · rw [if_neg hempty, foldl_extractStep]
    dsimp only
    split_ifs with hnone
    · rw [BTreeMap.get, List.isEmpty_iff.1 hnone] at hget
      exact ⟨hget, List.nil_append _⟩
    · exact ⟨hget, List.nil_append _⟩

/-- A map over the limit is refused whole. -/
theorem extractMappings_of_lt (hlength : maxTokenMetadataEntries < mappings.entries.length) :
    extractMappings crates network allowlist trustPolicy mappings =
      ⟨none, [⟨"all assets", toString mappings.entries.length ++
        " entries exceeds the limit of " ++ toString maxTokenMetadataEntries⟩]⟩ := by
  have hempty : ¬mappings.entries.isEmpty = true := by
    intro hempty
    rw [List.isEmpty_iff.1 hempty] at hlength
    cases hlength
  rw [extractMappings, if_neg hempty, if_pos hlength]

/-- What the request says about an asset was accepted from its entry. -/
theorem acceptedMeta_of_find {assetId : String} {found : TokenMeta}
    (hfind : findInRequest (extractMappings crates network allowlist trustPolicy mappings).registry
      assetId = some found) :
    ∃ entry, mappings.get assetId = some entry ∧
      acceptEntry crates network allowlist trustPolicy assetId entry = .ok found := by
  by_cases hlength : mappings.entries.length ≤ maxTokenMetadataEntries
  · rw [(extractMappings_of_le crates network allowlist trustPolicy hlength assetId).1] at hfind
    obtain ⟨entry, hentry, haccepted⟩ := Option.bind_eq_some_iff.1 hfind
    refine ⟨entry, hentry, extractEntry_eq_ok ?_⟩
    rw [acceptedMeta] at haccepted
    cases hextract : extractEntry crates network allowlist trustPolicy assetId entry with
    | ok accepted =>
        rw [hextract] at haccepted
        rw [← Option.some.inj haccepted]
    | error refused =>
        rw [hextract] at haccepted
        cases haccepted
  · rw [extractMappings_of_lt crates network allowlist trustPolicy (Nat.not_le.1 hlength)] at hfind
    cases hfind

end Extraction

/-! ## Trust -/

/-- The extraction of a request with this metadata. -/
def extractionOf (crates : TokenCrates) (network : NearNetwork) (allowlist : SignerAllowlist)
    (trustPolicy : MetadataTrustPolicy) (near : Proto.NearMetadata) : TokenMetadataExtraction :=
  tryExtractFromChainMetadata crates network allowlist trustPolicy (some ⟨some (.near near)⟩)

/-- The registry without the entries that no curator signed. -/
def curatedOnly (registry : Option NearTokenRegistry) : Option NearTokenRegistry :=
  registry.map fun registry =>
    ⟨registry.byAssetId.filter fun found => found.provenance.verified⟩

/-- The entry is accepted as one of a curator. -/
def IsCurated (crates : TokenCrates) (network : NearNetwork) (allowlist : SignerAllowlist)
    (trustPolicy : MetadataTrustPolicy) (assetId : String) (entry : Proto.TokenMetadataEntry) :
    Prop :=
  ∃ found, acceptedMeta crates network allowlist trustPolicy assetId entry = some found ∧
    found.provenance.verified = true

/-- What the metadata of a request can and cannot do. -/
structure TokenMetadataTrust (crates : TokenCrates) (network : NearNetwork)
    (allowlist : SignerAllowlist) (trustPolicy : MetadataTrustPolicy) (near : Proto.NearMetadata) :
    Prop where
  /-- The multi-token form of a seeded asset has seeded decimals as well. -/
  alias_seeded : ∀ seed ∈ seeds,
    seededDecimals crates.isNep141 ("nep245:intents.near:" ++ seed.1) = some seed.2.2
  /-- Entries no curator signed do not change what a seeded asset resolves to. -/
  seeded_unchanged : ∀ assetId, (seededDecimals crates.isNep141 assetId).isSome = true →
    resolve crates.isNep141
        (requestLayers (extractionOf crates network allowlist trustPolicy near).registry) assetId =
      resolve crates.isNep141 (requestLayers (curatedOnly
        (extractionOf crates network allowlist trustPolicy near).registry)) assetId
  /-- Neither does exchanging them for others, within the limit. -/
  seeded_independent : ∀ other : Proto.NearMetadata,
    near.tokenMappings.entries.length ≤ maxTokenMetadataEntries →
    other.tokenMappings.entries.length ≤ maxTokenMetadataEntries →
    (∀ assetId entry, IsCurated crates network allowlist trustPolicy assetId entry →
      (near.tokenMappings.get assetId = some entry ↔
        other.tokenMappings.get assetId = some entry)) →
    ∀ assetId, (seededDecimals crates.isNep141 assetId).isSome = true →
    resolve crates.isNep141
        (requestLayers (extractionOf crates network allowlist trustPolicy near).registry) assetId =
      resolve crates.isNep141
        (requestLayers (extractionOf crates network allowlist trustPolicy other).registry) assetId
  /-- An entry is one of a curator only by a key enrolled for its own domain. -/
  curated : ∀ assetId found,
    findInRequest (extractionOf crates network allowlist trustPolicy near).registry assetId =
      some found →
    found.provenance.verified = true →
    ∃ entry domain canonicalPubkey, near.tokenMappings.get assetId = some entry ∧
      SignedByCurator crates network allowlist assetId entry domain canonicalPubkey ∧
      ∀ enrolled : List (TokenMetadataDomain × Bytes),
        (∀ signer ∈ enrolled, signer.2.length < 2 ^ 64) →
        allowlist.keys = enrolled.map (fun signer => scopedSignerKey signer.1 signer.2) →
        (domain, canonicalPubkey) ∈ enrolled
  /-- A strict deployment has no other entries. -/
  strict : ∀ own, trustPolicy = .requireAllowlistedSigner own → ∀ assetId found,
    findInRequest (extractionOf crates network allowlist trustPolicy near).registry assetId =
      some found →
    found.provenance.verified = true
  /-- An entry is in the registry or reported, never both. -/
  partitioned : near.tokenMappings.entries.length ≤ maxTokenMetadataEntries →
    (extractionOf crates network allowlist trustPolicy near).rejected =
        near.tokenMappings.entries.filterMap (fun mapping =>
          rejectionOf crates network allowlist trustPolicy mapping.1 mapping.2) ∧
      (∀ assetId, near.tokenMappings.get assetId = none →
        findInRequest (extractionOf crates network allowlist trustPolicy near).registry assetId =
          none) ∧
      ∀ assetId entry, near.tokenMappings.get assetId = some entry →
        ((findInRequest (extractionOf crates network allowlist trustPolicy near).registry
            assetId).isSome = true ↔
          rejectionOf crates network allowlist trustPolicy assetId entry = none) ∧
        ∀ report, rejectionOf crates network allowlist trustPolicy assetId entry = some report →
          report ∈ (extractionOf crates network allowlist trustPolicy near).rejected ∧
          report.assetId = if maxAssetIdBytes < byteLength assetId
            then String.ofList (assetId.toList.take assetIdPreviewChars) ++ "..." else assetId
  /-- A map over the limit is refused in one report. -/
  refused : maxTokenMetadataEntries < near.tokenMappings.entries.length →
    (extractionOf crates network allowlist trustPolicy near).registry = none ∧
      ∃ reason, (extractionOf crates network allowlist trustPolicy near).rejected =
        [⟨"all assets", reason⟩]
  /-- An amount scaled by an entry no curator signed carries its warning. -/
  warned : ∀ registry label assetId raw found fields,
    resolve crates.isNep141 registry assetId = some found → found.provenance.verified = false →
    tokenAmountField crates.isNep141 registry label assetId raw = .ok fields →
    ∃ amount cause,
      amountField label (formatUnits raw found.decimals) found.symbol = .ok amount ∧
      found.provenance.unverifiedCause = some cause ∧
      fields = [amount, diagnostic "unverified-token-metadata"
        ("symbol/decimals for " ++ charsetSafe assetId ++ ": " ++ cause)]

/-- The token parser knows the ids of the seed table. -/
def KnowsSeeds (crates : TokenCrates) : Prop := ∀ seed ∈ seeds, crates.isNep141 seed.1 = true

/-- The bridged name of a seeded token has the decimals of the seed, as both names
stand for one token. -/
theorem seededDecimals_alias {crates : TokenCrates} (hseeds : KnowsSeeds crates)
    {seed : String × String × UInt8} (hseed : seed ∈ seeds) :
    seededDecimals crates.isNep141 ("nep245:intents.near:" ++ seed.1) = some seed.2.2 := by
  have hnone : ∀ seed ∈ seeds, findSeed ("nep245:intents.near:" ++ seed.1) = none := by
    decide +kernel
  have hfind : ∀ seed ∈ seeds, findSeed seed.1 = some seed := by decide +kernel
  have hinner : mtUnderlyingNep141 crates.isNep141 ("nep245:intents.near:" ++ seed.1) =
      some seed.1 := by
    have htext : "nep245:intents.near:" ++ seed.1 = "nep245:" ++ ("intents.near:" ++ seed.1) := by
      rw [← String.append_assoc]
      rfl
    have hsplit : splitOnce ':' ("intents.near:" ++ seed.1) = some ("intents.near", seed.1) :=
      splitOnce_eq_some (by decide) (String.toList_append ..)
    rw [mtUnderlyingNep141, htext, Text.stripStart_append, Option.bind_some, hsplit,
      Option.bind_some, hseeds seed hseed]
    rfl
  rw [seededDecimals_eq, hnone seed hseed, hinner, Option.map_none, Option.none_or,
    Option.bind_some, seededDecimals_eq, hfind seed hseed]
  rfl

section Trust

variable {crates : TokenCrates} {network : NearNetwork} {allowlist : SignerAllowlist}
  {trustPolicy : MetadataTrustPolicy} {near : Proto.NearMetadata} {assetId : String}
  {found : TokenMeta}

/-- What a request says about a seeded asset was signed by a curator. -/
theorem verified_of_seeded (hseeded : (seededDecimals crates.isNep141 assetId).isSome = true)
    (hfind : findInRequest (extractionOf crates network allowlist trustPolicy near).registry
      assetId = some found) :
    found.provenance.verified = true := by
  obtain ⟨entry, -, haccept⟩ := acceptedMeta_of_find crates network allowlist trustPolicy hfind
  obtain ⟨-, -, hunverified⟩ := acceptEntry_eq_ok haccept
  by_contra hverified
  rw [hunverified (Bool.not_eq_true _ ▸ hverified)] at hseeded
  cases hseeded

/-- Among the curated entries a token is found exactly if it is found at all and its
provenance is verified. -/
theorem findInRequest_curatedOnly (registry : Option NearTokenRegistry) (assetId : String) :
    findInRequest (curatedOnly registry) assetId =
      (findInRequest registry assetId).filter fun found => found.provenance.verified := by
  cases registry with
  | none => rfl
  | some registry => exact BTreeMap.get_filter ..

/-- Entries that are not verified do not change what is resolved for a seeded token. -/
theorem seeded_unchanged_of_extraction
    (hseeded : (seededDecimals crates.isNep141 assetId).isSome = true) :
    resolve crates.isNep141
        (requestLayers (extractionOf crates network allowlist trustPolicy near).registry) assetId =
      resolve crates.isNep141 (requestLayers (curatedOnly
        (extractionOf crates network allowlist trustPolicy near).registry)) assetId := by
  apply resolve_congr _ _ _ hseeded
  intro other hother
  rw [lookup_requestLayers, lookup_requestLayers, findInRequest_curatedOnly]
  cases hfind : findInRequest (extractionOf crates network allowlist trustPolicy near).registry
      other with
  | none => rfl
  | some found => rw [Option.filter_some, if_pos (verified_of_seeded hother hfind)]

/-- Two requests that agree in their curated entries resolve a seeded token alike,
whatever else they bring along. -/
theorem seeded_independent_of_extraction {other : Proto.NearMetadata}
    (hlength : near.tokenMappings.entries.length ≤ maxTokenMetadataEntries)
    (hother : other.tokenMappings.entries.length ≤ maxTokenMetadataEntries)
    (hagree : ∀ assetId entry, IsCurated crates network allowlist trustPolicy assetId entry →
      (near.tokenMappings.get assetId = some entry ↔
        other.tokenMappings.get assetId = some entry))
    (hseeded : (seededDecimals crates.isNep141 assetId).isSome = true) :
    resolve crates.isNep141
        (requestLayers (extractionOf crates network allowlist trustPolicy near).registry) assetId =
      resolve crates.isNep141
        (requestLayers (extractionOf crates network allowlist trustPolicy other).registry)
        assetId := by
  have hfind (metadata : Proto.NearMetadata)
      (hmetadata : metadata.tokenMappings.entries.length ≤ maxTokenMetadataEntries)
      (assetId : String) :
      findInRequest (extractionOf crates network allowlist trustPolicy metadata).registry assetId =
        (metadata.tokenMappings.get assetId).bind
          (acceptedMeta crates network allowlist trustPolicy assetId) :=
    (extractMappings_of_le crates network allowlist trustPolicy hmetadata assetId).1
  apply resolve_congr _ _ _ hseeded
  intro asset hasset
  rw [lookup_requestLayers, lookup_requestLayers]
  -- What either side finds for a seeded asset was signed by a curator, and such
  -- entries are the same on both sides.
  have hverified (metadata : Proto.NearMetadata) (found : TokenMeta)
      (hfound : findInRequest (extractionOf crates network allowlist trustPolicy
        metadata).registry asset = some found) : found.provenance.verified = true :=
    verified_of_seeded hasset hfound
  apply Option.ext
  intro found
  constructor
  · intro hfound
    have hcurated := hverified near found hfound
    rw [hfind near hlength] at hfound
    rw [hfind other hother]
    obtain ⟨entry, hentry, haccepted⟩ := Option.bind_eq_some_iff.1 hfound
    exact Option.bind_eq_some_iff.2
      ⟨entry, (hagree asset entry ⟨found, haccepted, hcurated⟩).1 hentry, haccepted⟩
  · intro hfound
    have hcurated := hverified other found hfound
    rw [hfind other hother] at hfound
    rw [hfind near hlength]
    obtain ⟨entry, hentry, haccepted⟩ := Option.bind_eq_some_iff.1 hfound
    exact Option.bind_eq_some_iff.2
      ⟨entry, (hagree asset entry ⟨found, haccepted, hcurated⟩).2 hentry, haccepted⟩

/-- A verified entry that is found comes from an entry of the request with a valid
signature of a listed signer. -/
theorem curated_of_find (hpoint : ∀ key, (crates.k256.uncompressed key).length = 65)
    (hfind : findInRequest (extractionOf crates network allowlist trustPolicy near).registry
      assetId = some found)
    (hverified : found.provenance.verified = true) :
    ∃ entry domain canonicalPubkey, near.tokenMappings.get assetId = some entry ∧
      SignedByCurator crates network allowlist assetId entry domain canonicalPubkey ∧
      ∀ enrolled : List (TokenMetadataDomain × Bytes),
        (∀ signer ∈ enrolled, signer.2.length < 2 ^ 64) →
        allowlist.keys = enrolled.map (fun signer => scopedSignerKey signer.1 signer.2) →
        (domain, canonicalPubkey) ∈ enrolled := by
  obtain ⟨entry, hentry, haccept⟩ := acceptedMeta_of_find crates network allowlist trustPolicy hfind
  obtain ⟨⟨originChain, horigin, hprovenance⟩, -, -⟩ := acceptEntry_eq_ok haccept
  obtain ⟨-, canonicalPubkey, hsigned⟩ :=
    signedByCurator_of_provenance horigin rfl hverified hprovenance
  refine ⟨entry, _, canonicalPubkey, hentry, hsigned, ?_⟩
  intro enrolled hlengths hkeys
  obtain ⟨-, hmem, signature, -, hverifies⟩ := hsigned
  rw [hkeys] at hmem
  obtain ⟨signer, hsigner, hscoped⟩ := List.mem_map.1 hmem
  have hbound : (2 : ℕ) ^ 64 = 256 ^ 8 := by norm_num
  obtain ⟨hdomain, hkey⟩ := scopedSignerKey_injective (hbound ▸ hlengths signer hsigner)
    (hverifies.length_lt hpoint) hscoped
  rw [← hdomain, ← hkey]
  exact hsigner

/-- Under a policy that requires a listed signer, only verified entries are found. -/
theorem verified_of_find {own : SignerAllowlist}
    (hpolicy : trustPolicy = .requireAllowlistedSigner own)
    (hfind : findInRequest (extractionOf crates network allowlist trustPolicy near).registry
      assetId = some found) :
    found.provenance.verified = true := by
  obtain ⟨entry, -, haccept⟩ := acceptedMeta_of_find crates network allowlist trustPolicy hfind
  obtain ⟨⟨originChain, -, hprovenance⟩, hsigned, -⟩ := acceptEntry_eq_ok haccept
  have hstrict : trustPolicy.acceptsUnsigned = false := by
    rw [hpolicy]
    rfl
  apply verified_of_strict hstrict _ hprovenance
  rcases hsigned with hsigned | haccepts
  · exact hsigned
  · rw [hstrict] at haccepts
    cases haccepts

/-- A report names the asset of the entry that was rejected, shortened to a preview
if the name is too long. -/
theorem assetId_of_rejectionOf {entry : Proto.TokenMetadataEntry}
    {report : RejectedTokenMetadata}
    (hreport : rejectionOf crates network allowlist trustPolicy assetId entry = some report) :
    report.assetId = if maxAssetIdBytes < byteLength assetId
      then String.ofList (assetId.toList.take assetIdPreviewChars) ++ "..." else assetId := by
  rw [rejectionOf, extractEntry] at hreport
  split_ifs at hreport ⊢ with hlength
  · rw [← Option.some.inj hreport]
  · cases haccept : acceptEntry crates network allowlist trustPolicy assetId entry with
    | ok accepted =>
        rw [haccept] at hreport
        cases hreport
    | error reason =>
        rw [haccept] at hreport
        rw [← Option.some.inj hreport]

theorem partitioned_of_extraction
    (hlength : near.tokenMappings.entries.length ≤ maxTokenMetadataEntries) {entry}
    (hentry : near.tokenMappings.get assetId = some entry) :
    ((findInRequest (extractionOf crates network allowlist trustPolicy near).registry
        assetId).isSome = true ↔
      rejectionOf crates network allowlist trustPolicy assetId entry = none) ∧
    ∀ report, rejectionOf crates network allowlist trustPolicy assetId entry = some report →
      report ∈ (extractionOf crates network allowlist trustPolicy near).rejected ∧
      report.assetId = if maxAssetIdBytes < byteLength assetId
        then String.ofList (assetId.toList.take assetIdPreviewChars) ++ "..." else assetId := by
  obtain ⟨hfind, hrejected⟩ :=
    extractMappings_of_le crates network allowlist trustPolicy hlength assetId
  change findInRequest (extractionOf crates network allowlist trustPolicy near).registry _ = _
    at hfind
  change (extractionOf crates network allowlist trustPolicy near).rejected = _ at hrejected
  constructor
  · rw [hfind, hentry]
    exact acceptedMeta_isSome ..
  · intro report hreport
    refine ⟨?_, assetId_of_rejectionOf hreport⟩
    rw [hrejected]
    exact List.mem_filterMap.2 ⟨(assetId, entry), (BTreeMap.mem_entries_iff _).2 hentry, hreport⟩

end Trust

/-- An amount whose token metadata is not verified is followed by a warning with the
cause, so it is never shown as if it were verified. -/
theorem warned_of_unverified {isNep141 : String → Bool}
    {registry : LayeredRegistry NearTokenRegistry} {label assetId : String} {raw : ℕ}
    {found : TokenMeta} {fields : Fields} (hresolve : resolve isNep141 registry assetId = some found)
    (hunverified : found.provenance.verified = false)
    (hfields : tokenAmountField isNep141 registry label assetId raw = .ok fields) :
    ∃ amount cause,
      amountField label (formatUnits raw found.decimals) found.symbol = .ok amount ∧
      found.provenance.unverifiedCause = some cause ∧
      fields = [amount, diagnostic "unverified-token-metadata"
        ("symbol/decimals for " ++ charsetSafe assetId ++ ": " ++ cause)] := by
  have hsome : found.provenance.unverifiedCause.isSome = true := by
    rw [TokenProvenance.unverifiedCause_isSome, hunverified]
    rfl
  obtain ⟨cause, hcause⟩ := Option.isSome_iff_exists.1 hsome
  rw [tokenAmountField, hresolve] at hfields
  obtain ⟨amount, hamount, hfields⟩ := bind_eq_ok.1 hfields
  rw [hcause] at hfields
  exact ⟨amount, cause, hamount, hcause, (pure_eq_ok.1 hfields).symm⟩

/-- The promises hold for every map, network, allowlist and policy. -/
theorem tokenMetadata_trust (crates : TokenCrates) (hseeds : KnowsSeeds crates)
    (hpoint : ∀ key, (crates.k256.uncompressed key).length = 65) (network : NearNetwork)
    (allowlist : SignerAllowlist) (trustPolicy : MetadataTrustPolicy) (near : Proto.NearMetadata) :
    TokenMetadataTrust crates network allowlist trustPolicy near where
  alias_seeded := fun _ hseed => seededDecimals_alias hseeds hseed
  seeded_unchanged := fun _ hseeded => seeded_unchanged_of_extraction hseeded
  seeded_independent := fun _ hlength hother hagree _ hseeded =>
    seeded_independent_of_extraction hlength hother hagree hseeded
  curated := fun _ _ hfind hverified => curated_of_find hpoint hfind hverified
  strict := fun _ hpolicy _ _ hfind => verified_of_find hpolicy hfind
  partitioned := by
    intro hlength
    refine ⟨(extractMappings_of_le crates network allowlist trustPolicy hlength "").2, ?_,
      fun assetId entry hentry => partitioned_of_extraction hlength hentry⟩
    intro assetId hnone
    refine (extractMappings_of_le crates network allowlist trustPolicy hlength assetId).1.trans ?_
    rw [hnone, Option.bind_none]
  refused := by
    intro hlength
    have hrefused := extractMappings_of_lt crates network allowlist trustPolicy hlength
    exact ⟨congrArg TokenMetadataExtraction.registry hrefused, _,
      congrArg TokenMetadataExtraction.rejected hrefused⟩
  warned := fun _ _ _ _ _ _ hresolve hunverified hfields =>
    warned_of_unverified hresolve hunverified hfields

/-! ## An override without a signature -/

/-- Values with exactly the two members, in this order. -/
def readTokenValue (text : String) : Except String TokenMetadataValue :=
  match Json.parseDocument 128 text.toList with
  | some (.object [("symbol", .string symbol), ("decimals", .number decimals)]) =>
      .ok ⟨symbol, UInt8.ofNat (Json.ofDecimal decimals.1)⟩
  | _ => .error "invalid type"

/-- Crates under which no signature is valid. -/
def unsignedCrates : TokenCrates where
  ed25519 :=
    { VerifyingKey := ByteArr 32
      fromBytes := .ok
      toBytes := id
      verifyStrict := fun _ _ _ => .error "signature error" }
  k256 :=
    { Signature := Unit
      Point := Unit
      Key := Unit
      fromDer := fun _ => .error "signature error"
      encodedPoint := fun _ => .error "crypto error"
      verifyingKey := fun _ => .error "signature error"
      verifyPrehash := fun _ _ _ => .error "signature error"
      uncompressed := fun _ => List.replicate 65 4 }
  hexError := fun _ => "Odd number of digits"
  parseValue := readTokenValue
  isNep141 := fun text => (Text.stripStart "nep141:" text).isSome

/-- An asset nobody knows, and a wrong scale for a seeded one. -/
def overridingMetadata : Proto.NearMetadata :=
  ⟨none, (BTreeMap.empty.insert "nep141:gap.near"
      ⟨"\x7b\"symbol\":\"GAP\",\"decimals\":6\x7d", none, none⟩).insert "nep141:wrap.near"
    ⟨"\x7b\"symbol\":\"wNEAR\",\"decimals\":18\x7d", none, none⟩⟩

theorem tokenMetadata_trust_override :
    TokenMetadataTrust unsignedCrates .mainnet ⟨[]⟩ .acceptUnsigned overridingMetadata ∧
      resolve unsignedCrates.isNep141 (requestLayers (extractionOf unsignedCrates .mainnet ⟨[]⟩
        .acceptUnsigned overridingMetadata).registry) "nep245:intents.near:nep141:wrap.near" =
          some ⟨"wNEAR", 24, .seed⟩ ∧
      resolve unsignedCrates.isNep141 (requestLayers (extractionOf unsignedCrates .mainnet ⟨[]⟩
        .acceptUnsigned overridingMetadata).registry) "nep141:gap.near" =
          some ⟨"GAP", 6, .unsigned⟩ ∧
      (extractionOf unsignedCrates .mainnet ⟨[]⟩ .acceptUnsigned overridingMetadata).rejected =
        [⟨"nep141:wrap.near", "unsigned entry would override a curated seed (proposed decimals 18, curated 24)"⟩] := by
  have hseeds : KnowsSeeds unsignedCrates := by
    rw [KnowsSeeds]
    decide +kernel
  refine ⟨tokenMetadata_trust unsignedCrates hseeds (fun _ => rfl) .mainnet ⟨[]⟩ .acceptUnsigned
    overridingMetadata, ?_, ?_, ?_⟩
  · decide +kernel
  · decide +kernel
  · decide +kernel

end VisualSignParser.Near
