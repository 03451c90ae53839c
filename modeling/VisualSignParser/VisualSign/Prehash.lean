import VisualSignParser.Codec.Sha256

/-!
# Domain-separated metadata prehash

A curator signs an ABI, an IDL or a token description together with the chain,
contract, program or asset it describes.  The signed digest is SHA-256 over
four length-prefixed fields, and five typed wrappers choose the chain tag and
build the scope.  The proof removes the fields one after the other: the length
prefixes recover tag, scope and body, the tags tell the wrappers apart, and
each wrapper's scope recovers its own arguments.
-/

namespace VisualSignParser.Prehash

open VisualSignParser.Framing
open VisualSignParser.Sha256

def metadataSigningDomainV1 : Bytes := utf8Bytes "visualsign-metadata-v1"

def chainTagEthereum : String := "ethereum"
def chainTagSolana : String := "solana"
def chainTagNearTokenMetadata : String := "near-token-metadata"
def chainTagEthereumTokenMetadata : String := "ethereum-token-metadata"
def chainTagSolanaTokenMetadata : String := "solana-token-metadata"

/-- The bytes `metadata_signing_prehash_v1` feeds to the hasher. -/
def metadataSigningMessageV1 (chainTag : String) (scope body : Bytes) : Bytes :=
  [metadataSigningDomainV1, utf8Bytes chainTag, scope, body].flatMap (lenPrefixed 8)

def metadataSigningPrehashV1 (chainTag : String) (scope body : Bytes) : ByteArr 32 :=
  sha256 (metadataSigningMessageV1 chainTag scope body)

/-- The big-endian chain id followed by the contract address. -/
def ethereumScope (chainId : UInt64) (address : ByteArr 20) : Bytes :=
  beBytes 8 chainId.toNat ++ address.1

def ethereumMetadataPrehash (chainId : UInt64) (address : ByteArr 20) (abiJson : Bytes) :
    ByteArr 32 :=
  metadataSigningPrehashV1 chainTagEthereum (ethereumScope chainId address) abiJson

def solanaMetadataPrehash (programId : ByteArr 32) (idlJson : Bytes) : ByteArr 32 :=
  metadataSigningPrehashV1 chainTagSolana programId.1 idlJson

/-- Both parts are variable-length text, so each keeps its own length prefix
inside the scope. -/
def nearTokenMetadataScope (networkId assetId : String) : Bytes :=
  [utf8Bytes networkId, utf8Bytes assetId].flatMap (lenPrefixed 8)

def nearTokenMetadataPrehash (networkId assetId : String) (body : Bytes) : ByteArr 32 :=
  metadataSigningPrehashV1 chainTagNearTokenMetadata (nearTokenMetadataScope networkId assetId) body

def ethereumTokenMetadataPrehash (networkId assetId : String) (body : Bytes) : ByteArr 32 :=
  metadataSigningPrehashV1 chainTagEthereumTokenMetadata
    (nearTokenMetadataScope networkId assetId) body

def solanaTokenMetadataPrehash (networkId assetId : String) (body : Bytes) : ByteArr 32 :=
  metadataSigningPrehashV1 chainTagSolanaTokenMetadata
    (nearTokenMetadataScope networkId assetId) body

/-! ## The untyped constructor -/

/-- The arguments of `metadata_signing_prehash_v1`.  A slice of the source has
a length that fits its `u64` prefix. -/
structure SigningFields where
  chainTag : String
  scope : Bytes
  body : Bytes
  chainTag_lt : (utf8Bytes chainTag).length < 2 ^ 64
  scope_lt : scope.length < 2 ^ 64
  body_lt : body.length < 2 ^ 64

def SigningFields.message (fields : SigningFields) : Bytes :=
  metadataSigningMessageV1 fields.chainTag fields.scope fields.body

theorem metadataSigningMessageV1_injective {leftTag rightTag : String}
    {leftScope rightScope leftBody rightBody : Bytes}
    (hleftTag : (utf8Bytes leftTag).length < 2 ^ 64)
    (hrightTag : (utf8Bytes rightTag).length < 2 ^ 64)
    (hleftScope : leftScope.length < 2 ^ 64) (hrightScope : rightScope.length < 2 ^ 64)
    (hleftBody : leftBody.length < 2 ^ 64) (hrightBody : rightBody.length < 2 ^ 64)
    (heq : metadataSigningMessageV1 leftTag leftScope leftBody =
      metadataSigningMessageV1 rightTag rightScope rightBody) :
    leftTag = rightTag ∧ leftScope = rightScope ∧ leftBody = rightBody := by
  have hwidth : (2 : ℕ) ^ 64 = 256 ^ 8 := by norm_num
  rw [hwidth] at hleftTag hrightTag hleftScope hrightScope hleftBody hrightBody
  simp only [metadataSigningMessageV1, List.flatMap_cons, List.flatMap_nil,
    List.append_nil] at heq
  have hfields := List.append_cancel_left heq
  obtain ⟨htag, hfields⟩ := lenPrefixed_append_inj hleftTag hrightTag hfields
  obtain ⟨hscope, hbody⟩ := lenPrefixed_append_inj hleftScope hrightScope hfields
  exact ⟨utf8Bytes_injective htag, hscope, lenPrefixed_injective hleftBody hrightBody hbody⟩

theorem SigningFields.message_injective : Function.Injective SigningFields.message := by
  intro left right heq
  obtain ⟨htag, hscope, hbody⟩ := metadataSigningMessageV1_injective
    left.chainTag_lt right.chainTag_lt left.scope_lt right.scope_lt
    left.body_lt right.body_lt heq
  cases left
  cases right
  simp_all

/-! ## The five typed wrappers -/

/-- Which of the typed wrappers is called. -/
inductive Wrapper where
  | ethereum
  | solana
  | nearToken
  | ethereumToken
  | solanaToken
  deriving DecidableEq

def Wrapper.chainTag : Wrapper → String
  | ethereum => chainTagEthereum
  | solana => chainTagSolana
  | nearToken => chainTagNearTokenMetadata
  | ethereumToken => chainTagEthereumTokenMetadata
  | solanaToken => chainTagSolanaTokenMetadata

theorem Wrapper.chainTag_injective : Function.Injective Wrapper.chainTag := by
  intro left right
  cases left <;> cases right <;> decide

theorem Wrapper.length_chainTag_lt (wrapper : Wrapper) :
    (utf8Bytes wrapper.chainTag).length < 2 ^ 64 := by
  cases wrapper <;> decide

/-- A call of one of the typed wrappers, with its arguments. -/
inductive Artifact where
  | ethereum (chainId : UInt64) (address : ByteArr 20) (abiJson : Bytes)
  | solana (programId : ByteArr 32) (idlJson : Bytes)
  | nearToken (networkId assetId : String) (body : Bytes)
  | ethereumToken (networkId assetId : String) (body : Bytes)
  | solanaToken (networkId assetId : String) (body : Bytes)

namespace Artifact

def prehash : Artifact → ByteArr 32
  | ethereum chainId address abiJson => ethereumMetadataPrehash chainId address abiJson
  | solana programId idlJson => solanaMetadataPrehash programId idlJson
  | nearToken networkId assetId body => nearTokenMetadataPrehash networkId assetId body
  | ethereumToken networkId assetId body => ethereumTokenMetadataPrehash networkId assetId body
  | solanaToken networkId assetId body => solanaTokenMetadataPrehash networkId assetId body

def wrapper : Artifact → Wrapper
  | ethereum .. => .ethereum
  | solana .. => .solana
  | nearToken .. => .nearToken
  | ethereumToken .. => .ethereumToken
  | solanaToken .. => .solanaToken

def scope : Artifact → Bytes
  | ethereum chainId address _ => ethereumScope chainId address
  | solana programId _ => programId.1
  | nearToken networkId assetId _ => nearTokenMetadataScope networkId assetId
  | ethereumToken networkId assetId _ => nearTokenMetadataScope networkId assetId
  | solanaToken networkId assetId _ => nearTokenMetadataScope networkId assetId

def body : Artifact → Bytes
  | ethereum _ _ abiJson => abiJson
  | solana _ idlJson => idlJson
  | nearToken _ _ body => body
  | ethereumToken _ _ body => body
  | solanaToken _ _ body => body

/-- The bytes the wrapper's digest is taken over. -/
def hashedBytes (artifact : Artifact) : Bytes :=
  metadataSigningMessageV1 artifact.wrapper.chainTag artifact.scope artifact.body

theorem prehash_eq_sha256 (artifact : Artifact) :
    artifact.prehash = sha256 artifact.hashedBytes := by
  cases artifact <;> rfl

/-- The scope and the body are byte vectors of the source, so their lengths fit
the `u64` prefix. -/
def Addressable (artifact : Artifact) : Prop :=
  artifact.scope.length < 2 ^ 64 ∧ artifact.body.length < 2 ^ 64

end Artifact

theorem ethereumScope_injective {leftId rightId : UInt64} {leftAddress rightAddress : ByteArr 20}
    (heq : ethereumScope leftId leftAddress = ethereumScope rightId rightAddress) :
    leftId = rightId ∧ leftAddress = rightAddress := by
  obtain ⟨hid, haddress⟩ := List.append_inj heq (by simp)
  have hbound (chainId : UInt64) : chainId.toNat < 256 ^ 8 := by
    simpa using UInt64.toNat_lt chainId
  exact ⟨UInt64.toNat_inj.1 (beBytes_injective (hbound leftId) (hbound rightId) hid),
    Subtype.ext haddress⟩

/-- A part of a token scope is no longer than the scope. -/
theorem length_le_nearTokenMetadataScope (networkId assetId : String) :
    (utf8Bytes networkId).length ≤ (nearTokenMetadataScope networkId assetId).length ∧
      (utf8Bytes assetId).length ≤ (nearTokenMetadataScope networkId assetId).length := by
  simp only [nearTokenMetadataScope, List.flatMap_cons, List.flatMap_nil, List.append_nil,
    lenPrefixed, List.length_append, length_leBytes]
  omega

theorem nearTokenMetadataScope_injective {leftNetwork rightNetwork leftAsset rightAsset : String}
    (hleft : (nearTokenMetadataScope leftNetwork leftAsset).length < 2 ^ 64)
    (hright : (nearTokenMetadataScope rightNetwork rightAsset).length < 2 ^ 64)
    (heq : nearTokenMetadataScope leftNetwork leftAsset =
      nearTokenMetadataScope rightNetwork rightAsset) :
    leftNetwork = rightNetwork ∧ leftAsset = rightAsset := by
  have hwidth : (2 : ℕ) ^ 64 = 256 ^ 8 := by norm_num
  rw [hwidth] at hleft hright
  obtain ⟨hleftNetwork, hleftAsset⟩ := length_le_nearTokenMetadataScope leftNetwork leftAsset
  obtain ⟨hrightNetwork, hrightAsset⟩ := length_le_nearTokenMetadataScope rightNetwork rightAsset
  simp only [nearTokenMetadataScope, List.flatMap_cons, List.flatMap_nil,
    List.append_nil] at heq
  obtain ⟨hnetwork, hasset⟩ := lenPrefixed_append_inj
    (hleftNetwork.trans_lt hleft) (hrightNetwork.trans_lt hright) heq
  have hasset := lenPrefixed_injective
    (hleftAsset.trans_lt hleft) (hrightAsset.trans_lt hright) hasset
  exact ⟨utf8Bytes_injective hnetwork, utf8Bytes_injective hasset⟩

theorem Artifact.hashedBytes_injective {left right : Artifact} (hleft : left.Addressable)
    (hright : right.Addressable) (heq : left.hashedBytes = right.hashedBytes) :
    left = right := by
  obtain ⟨htag, hscope, hbody⟩ := metadataSigningMessageV1_injective
    left.wrapper.length_chainTag_lt right.wrapper.length_chainTag_lt
    hleft.1 hright.1 hleft.2 hright.2 heq
  have hwrapper := Wrapper.chainTag_injective htag
  cases left with
  | ethereum chainId address abiJson =>
      cases right <;> try contradiction
      obtain ⟨hid, haddress⟩ := ethereumScope_injective hscope
      exact congr (congrArg₂ Artifact.ethereum hid haddress) hbody
  | solana programId idlJson =>
      cases right <;> try contradiction
      exact congrArg₂ Artifact.solana (Subtype.ext hscope) hbody
  | nearToken networkId assetId body =>
      cases right <;> try contradiction
      obtain ⟨hnetwork, hasset⟩ := nearTokenMetadataScope_injective hleft.1 hright.1 hscope
      exact congr (congrArg₂ Artifact.nearToken hnetwork hasset) hbody
  | ethereumToken networkId assetId body =>
      cases right <;> try contradiction
      obtain ⟨hnetwork, hasset⟩ := nearTokenMetadataScope_injective hleft.1 hright.1 hscope
      exact congr (congrArg₂ Artifact.ethereumToken hnetwork hasset) hbody
  | solanaToken networkId assetId body =>
      cases right <;> try contradiction
      obtain ⟨hnetwork, hasset⟩ := nearTokenMetadataScope_injective hleft.1 hright.1 hscope
      exact congr (congrArg₂ Artifact.solanaToken hnetwork hasset) hbody

/-- The hashed bytes of the untyped constructor determine its arguments, those
of a typed wrapper determine the wrapper and its arguments, and where the
digest has no collision a signature issued over one artifact, which verifies
for no digest but the signed one, is valid for no other artifact. -/
theorem metadataPrehash_domain_separation :
    Function.Injective SigningFields.message ∧
      Set.InjOn Artifact.hashedBytes {artifact | artifact.Addressable} ∧
      (∀ artifact : Artifact, artifact.prehash = sha256 artifact.hashedBytes) ∧
      ∀ (left right : Artifact) (verifies : ByteArr 32 → Prop), left.Addressable →
        right.Addressable → CollisionFreeOn {left.hashedBytes, right.hashedBytes} →
        (verifies right.prehash → left.prehash = right.prehash) →
        verifies right.prehash → left = right := by
  refine ⟨SigningFields.message_injective, ?_, Artifact.prehash_eq_sha256, ?_⟩
  · intro left hleft right hright heq
    exact Artifact.hashedBytes_injective hleft hright heq
  · intro left right verifies hleft hright hfree hunforgeable hverifies
    have hdigest := hunforgeable hverifies
    rw [left.prehash_eq_sha256, right.prehash_eq_sha256] at hdigest
    exact Artifact.hashedBytes_injective hleft hright
      (hfree.eq (Set.mem_insert ..) (Set.mem_insert_of_mem _ rfl) hdigest)

/-- The same bytes under the same scope, once for a token of NEAR and once for one
of Ethereum. -/
theorem metadataPrehash_domain_separation_token :
    (Artifact.nearToken "MAINNET" "token" [0x5b, 0x5d]).prehash ≠
      (Artifact.ethereumToken "MAINNET" "token" [0x5b, 0x5d]).prehash := by
  intro hsame
  have hnear : (Artifact.nearToken "MAINNET" "token" [0x5b, 0x5d]).Addressable :=
    ⟨by decide, by decide⟩
  have hethereum : (Artifact.ethereumToken "MAINNET" "token" [0x5b, 0x5d]).Addressable :=
    ⟨by decide, by decide⟩
  have hdigests : sha256 (Artifact.nearToken "MAINNET" "token" [0x5b, 0x5d]).hashedBytes ≠
      sha256 (Artifact.ethereumToken "MAINNET" "token" [0x5b, 0x5d]).hashedBytes := by
    decide +kernel
  have hfree : CollisionFreeOn {(Artifact.nearToken "MAINNET" "token" [0x5b, 0x5d]).hashedBytes,
      (Artifact.ethereumToken "MAINNET" "token" [0x5b, 0x5d]).hashedBytes} := by
    intro left hleft right hright heq
    rcases hleft with rfl | rfl <;> rcases hright with rfl | rfl
    · rfl
    · exact absurd heq hdigests
    · exact absurd heq.symm hdigests
    · rfl
  have hvalid := metadataPrehash_domain_separation.2.2.2 _ _
    (· = (Artifact.ethereumToken "MAINNET" "token" [0x5b, 0x5d]).prehash) hnear hethereum hfree
    (fun _ => hsame) rfl
  cases hvalid

end VisualSignParser.Prehash
