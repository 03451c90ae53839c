import VisualSignParser.Near.Networks
import VisualSignParser.Near.Tokens
import VisualSignParser.Solana.IdlSignature

/-!
# Token metadata of a request

An entry names the symbol and the decimals of an asset.  Its signature is checked
under the domain of the chain the asset comes from, and the key has to be
enrolled for that domain.  What is refused is reported.
-/

namespace VisualSignParser.Near

open VisualSignParser.Framing
open VisualSignParser.OrderedMap
open VisualSignParser.Outcome
open VisualSignParser.Prehash
open VisualSignParser.Ethereum (K256 MetadataTrustPolicy SignerAllowlist)
open VisualSignParser.Solana (Ed25519)

/-! ## Domains -/

inductive TokenOriginChain where
  | unspecified
  | near
  | ethereum
  | solana
  deriving DecidableEq

/-- `TokenOriginChain::try_from`. -/
def TokenOriginChain.tryFrom (number : Int32) : Option TokenOriginChain :=
  if number = 0 then some .unspecified
  else if number = 1 then some .near
  else if number = 2 then some .ethereum
  else if number = 3 then some .solana
  else none

inductive TokenMetadataDomain where
  | near
  | ethereum
  | solana
  deriving DecidableEq

namespace TokenMetadataDomain

def fromOriginChain : TokenOriginChain → TokenMetadataDomain
  | .unspecified => near
  | .near => near
  | .ethereum => ethereum
  | .solana => solana

def tag : TokenMetadataDomain → String
  | near => chainTagNearTokenMetadata
  | ethereum => chainTagEthereumTokenMetadata
  | solana => chainTagSolanaTokenMetadata

def algorithm : TokenMetadataDomain → String
  | near => "ed25519"
  | ethereum => "secp256k1"
  | solana => "ed25519"

def prehash (domain : TokenMetadataDomain) (networkId assetId : String) (body : Bytes) :
    ByteArr 32 :=
  match domain with
  | near => nearTokenMetadataPrehash networkId assetId body
  | ethereum => ethereumTokenMetadataPrehash networkId assetId body
  | solana => solanaTokenMetadataPrehash networkId assetId body

end TokenMetadataDomain

/-- A key as it is enrolled: bound to its domain, both halves behind their length. -/
def scopedSignerKey (domain : TokenMetadataDomain) (canonicalPubkey : Bytes) : Bytes :=
  [utf8Bytes domain.tag, canonicalPubkey].flatMap (lenPrefixed 8)

inductive SignerIdentity where
  | recognized
  | unrecognized
  deriving DecidableEq

def SignerIdentity.of (allowlist : SignerAllowlist) (domain : TokenMetadataDomain)
    (canonicalPubkey : Bytes) : SignerIdentity :=
  if scopedSignerKey domain canonicalPubkey ∈ allowlist.keys then .recognized else .unrecognized

/-! ## Signatures -/

structure TokenMetadataValue where
  symbol : String
  decimals : UInt8
  deriving DecidableEq

/-- What is called in other crates: the two curves, the texts of hex errors, the
reader of an entry's value and the parser of token ids. -/
structure TokenCrates where
  ed25519 : Ed25519
  k256 : K256
  hexError : Hex.FromHexError → String
  parseValue : String → Except String TokenMetadataValue
  isNep141 : String → Bool

inductive TokenMetadataSignatureError where
  | validation (message : String)
  deriving DecidableEq

def TokenMetadataSignatureError.display : TokenMetadataSignatureError → String
  | validation message => "token metadata signature validation failed: " ++ message

structure SignatureMetadata where
  value : String
  algorithm : Option String
  publicKey : Option String

def convertProtoSignature (proto : Proto.SignatureMetadata) : SignatureMetadata :=
  let get (key : String) : Option String :=
    (proto.metadata.find? fun entry => entry.key = key).map Proto.Metadata.value
  ⟨proto.value, get "algorithm", get "public_key"⟩

section Validation

variable (crates : TokenCrates)

def decodeHexFixed (size : ℕ) (value what : String) :
    Except TokenMetadataSignatureError (ByteArr size) :=
  (Hex.decodeHexArray size value).mapError fun error =>
    .validation ("Invalid " ++ what ++ " " ++ match error with
      | .hex error => "hex: " ++ crates.hexError error
      | .length expected got =>
          "length: expected " ++ toString expected ++ " bytes, got " ++ toString got)

/-- The first checks of both curves: the algorithm of the domain, and a key. -/
def claimedPublicKey (domain : TokenMetadataDomain) (signature : SignatureMetadata) :
    Except TokenMetadataSignatureError String := do
  let algorithm ← okOr (.validation "Missing algorithm") signature.algorithm
  require (algorithm = domain.algorithm) (.validation ("Unsupported algorithm: " ++ algorithm ++
    ". Only " ++ domain.algorithm ++ " is supported for this origin chain."))
  okOr (.validation "Missing public_key") signature.publicKey

def validateEd25519 (networkId assetId value : String) (domain : TokenMetadataDomain)
    (signature : SignatureMetadata) (allowlist : SignerAllowlist) :
    Except TokenMetadataSignatureError SignerIdentity := do
  let publicKeyHex ← claimedPublicKey domain signature
  let hash := domain.prehash networkId assetId (utf8Bytes value)
  let signatureBytes ← decodeHexFixed crates 64 signature.value "signature"
  let publicKeyBytes ← decodeHexFixed crates 32 publicKeyHex "public key"
  let verifyingKey ← (crates.ed25519.fromBytes publicKeyBytes).mapError fun error =>
    .validation ("Invalid public key: " ++ error)
  (crates.ed25519.verifyStrict verifyingKey hash signatureBytes).mapError fun error =>
    .validation ("Signature verification failed: " ++ error)
  pure (SignerIdentity.of allowlist domain (crates.ed25519.toBytes verifyingKey).val)

def validateSecp256k1 (networkId assetId value : String) (domain : TokenMetadataDomain)
    (signature : SignatureMetadata) (allowlist : SignerAllowlist) :
    Except TokenMetadataSignatureError SignerIdentity := do
  let publicKeyHex ← claimedPublicKey domain signature
  let hash := domain.prehash networkId assetId (utf8Bytes value)
  let signatureBytes ← (Hex.decodeHex signature.value).mapError fun error =>
    .validation ("Invalid signature hex: " ++ crates.hexError error)
  let parsed ← (crates.k256.fromDer signatureBytes).mapError fun error =>
    .validation ("Invalid DER signature: " ++ error)
  let publicKeyBytes ← (Hex.decodeHex publicKeyHex).mapError fun error =>
    .validation ("Invalid public key hex: " ++ crates.hexError error)
  let encodedPoint ← (crates.k256.encodedPoint publicKeyBytes).mapError fun error =>
    .validation ("Invalid public key point: " ++ error)
  let verifyingKey ← (crates.k256.verifyingKey encodedPoint).mapError fun error =>
    .validation ("Invalid verifying key: " ++ error)
  (crates.k256.verifyPrehash verifyingKey hash parsed).mapError fun error =>
    .validation ("Signature verification failed: " ++ error)
  pure (SignerIdentity.of allowlist domain (crates.k256.uncompressed verifyingKey))

def validateTokenMetadataSignature (networkId assetId value : String)
    (domain : TokenMetadataDomain) (signature : SignatureMetadata) (allowlist : SignerAllowlist) :
    Except TokenMetadataSignatureError SignerIdentity :=
  match domain with
  | .near => validateEd25519 crates networkId assetId value domain signature allowlist
  | .solana => validateEd25519 crates networkId assetId value domain signature allowlist
  | .ethereum => validateSecp256k1 crates networkId assetId value domain signature allowlist

end Validation

/-! ## Extraction -/

def maxTokenMetadataValueBytes : ℕ := 1024
def maxTokenMetadataEntries : ℕ := 256
def maxAssetIdBytes : ℕ := 128
def assetIdPreviewChars : ℕ := 32
def maxTokenDecimals : UInt8 := 38
def maxTokenSymbolLen : ℕ := 32

structure RejectedTokenMetadata where
  assetId : String
  reason : String
  deriving DecidableEq

structure TokenMetadataExtraction where
  registry : Option NearTokenRegistry
  rejected : List RejectedTokenMetadata

/-- A space, or a visible ASCII character other than the backslash. -/
def isDisplayChar (char : Char) : Bool :=
  char == ' ' || (Text.isAsciiGraphic char && char != '\\')

/-- The length of a text in bytes. -/
def byteLength (text : String) : ℕ := (utf8Bytes text).length

section Extraction

variable (crates : TokenCrates) (network : NearNetwork) (allowlist : SignerAllowlist)
  (trustPolicy : MetadataTrustPolicy)

/-- Where an entry comes from.  A signature has to verify, and a key that is not
enrolled is worth no more than no signature. -/
def entryProvenance (assetId : String) (entry : Proto.TokenMetadataEntry)
    (domain : TokenMetadataDomain) : Except String TokenProvenance :=
  match entry.signature with
  | none => pure .unsigned
  | some signature => do
      let identity ← (validateTokenMetadataSignature crates network.networkId assetId entry.value
        domain (convertProtoSignature signature) allowlist).mapError
          TokenMetadataSignatureError.display
      match identity with
      | .recognized => pure .recognizedSigner
      | .unrecognized =>
          require trustPolicy.acceptsUnsigned
            "signer is not an authorized curator for this origin chain"
          pure .unrecognizedSigner

/-- The chain of an entry; an omitted one is unspecified. -/
def entryOriginChain (entry : Proto.TokenMetadataEntry) : Except String TokenOriginChain :=
  match entry.originChain with
  | some number => okOr ("unrecognized origin_chain " ++ toString number.toInt)
      (TokenOriginChain.tryFrom number)
  | none => pure .unspecified

/-- One turn of the loop behind the bound on the asset id: the metadata, or why
it is refused. -/
def acceptEntry (assetId : String) (entry : Proto.TokenMetadataEntry) :
    Except String TokenMeta := do
  require (byteLength entry.value ≤ maxTokenMetadataValueBytes)
    ("exceeds size limit (" ++ toString (byteLength entry.value) ++ " bytes > " ++
      toString maxTokenMetadataValueBytes ++ ")")
  let originChain ← entryOriginChain entry
  let domain := TokenMetadataDomain.fromOriginChain originChain
  require (entry.signature.isSome ∨ trustPolicy.acceptsUnsigned)
    "this deployment requires signed entries"
  let parsed ← (crates.parseValue entry.value).mapError fun error =>
    "invalid value JSON: " ++ error
  require (parsed.decimals ≤ maxTokenDecimals)
    ("decimals " ++ toString parsed.decimals.toNat ++ " out of range")
  require (parsed.symbol ≠ "" ∧ byteLength parsed.symbol ≤ maxTokenSymbolLen)
    ("symbol length " ++ toString (byteLength parsed.symbol) ++ " out of range")
  require (parsed.symbol.toList.all isDisplayChar)
    "symbol contains characters outside printable ASCII"
  let provenance ← entryProvenance crates network allowlist trustPolicy assetId entry domain
  match seededDecimals crates.isNep141 assetId with
  | some curated =>
      require provenance.verified (provenance.overrideSubject ++
        " would override a curated seed (proposed decimals " ++ toString parsed.decimals.toNat ++
        ", curated " ++ toString curated.toNat ++ ")")
      pure ⟨parsed.symbol, parsed.decimals, provenance⟩
  | none => pure ⟨parsed.symbol, parsed.decimals, provenance⟩

/-- One turn of the loop.  An asset id that is too long is reported by its start. -/
def extractEntry (assetId : String) (entry : Proto.TokenMetadataEntry) :
    Except RejectedTokenMetadata TokenMeta :=
  if maxAssetIdBytes < byteLength assetId then
    .error ⟨String.ofList (assetId.toList.take assetIdPreviewChars) ++ "...",
      "asset id exceeds size limit (" ++ toString (byteLength assetId) ++ " bytes > " ++
        toString maxAssetIdBytes ++ ")"⟩
  else (acceptEntry crates network allowlist trustPolicy assetId entry).mapError fun reason =>
    ⟨assetId, reason⟩

/-- The loop over the mappings. -/
def extractStep (extracted : BTreeMap String TokenMeta × List RejectedTokenMetadata)
    (mapping : String × Proto.TokenMetadataEntry) :
    BTreeMap String TokenMeta × List RejectedTokenMetadata :=
  match extractEntry crates network allowlist trustPolicy mapping.1 mapping.2 with
  | .ok found => (extracted.1.insert mapping.1 found, extracted.2)
  | .error rejected => (extracted.1, extracted.2 ++ [rejected])

def extractMappings (mappings : BTreeMap String Proto.TokenMetadataEntry) :
    TokenMetadataExtraction :=
  if mappings.entries.isEmpty then ⟨none, []⟩
  else if maxTokenMetadataEntries < mappings.entries.length then
    ⟨none, [⟨"all assets", toString mappings.entries.length ++ " entries exceeds the limit of " ++
      toString maxTokenMetadataEntries⟩]⟩
  else
    let extracted := mappings.entries.foldl
      (extractStep crates network allowlist trustPolicy) (BTreeMap.empty, [])
    if extracted.1.entries.isEmpty then ⟨none, extracted.2⟩
    else ⟨some ⟨extracted.1⟩, extracted.2⟩

def tryExtractFromChainMetadata (metadata : Option Proto.ChainMetadata) :
    TokenMetadataExtraction :=
  match metadata.bind Proto.ChainMetadata.metadata with
  | some (.near near) => extractMappings crates network allowlist trustPolicy near.tokenMappings
  | _ => ⟨none, []⟩

end Extraction

end VisualSignParser.Near
