import VisualSignParser.Ethereum.AbiRegistry
import VisualSignParser.Proto.Messages
import VisualSignParser.VisualSign.Prehash

/-!
# ABIs from chain metadata

An ABI mapping of a request is registered when its address parses, its text is
not too long, and its signature satisfies the policy of the deployment.
-/

namespace VisualSignParser.Ethereum

open VisualSignParser.Framing
open VisualSignParser.Outcome
open VisualSignParser.Prehash

/-! ## The policy -/

/-- The canonical public keys that may sign. -/
structure SignerAllowlist where
  keys : List Bytes

inductive MetadataTrustPolicy where
  | acceptUnsigned
  | requireAllowlistedSigner (allowlist : SignerAllowlist)

namespace MetadataTrustPolicy

def acceptsUnsigned : MetadataTrustPolicy → Bool
  | acceptUnsigned => true
  | requireAllowlistedSigner _ => false

def signerAllowlist : MetadataTrustPolicy → Option SignerAllowlist
  | acceptUnsigned => none
  | requireAllowlistedSigner allowlist => some allowlist

end MetadataTrustPolicy

/-! ## Signatures -/

/-- The operations of the `k256` crate; errors are their texts. -/
structure K256 where
  Signature : Type
  Point : Type
  Key : Type
  fromDer : Bytes → Except String Signature
  encodedPoint : Bytes → Except String Point
  verifyingKey : Point → Except String Key
  verifyPrehash : Key → ByteArr 32 → Signature → Except String Unit
  uncompressed : Key → Bytes

inductive AbiSignatureError where
  | missingAlgorithm
  | unsupportedAlgorithm (algorithm : String)
  | missingPublicKey
  | invalidSignatureHex (error : Hex.FromHexError)
  | invalidDerSignature (error : String)
  | invalidPublicKeyHex (error : Hex.FromHexError)
  | invalidPublicKeyPoint (error : String)
  | invalidVerifyingKey (error : String)
  | verificationFailed (error : String)
  | signerNotInAllowlist

/-- The fields of a signature that its check reads. -/
structure SignatureMetadata where
  value : String
  algorithm : Option String
  publicKey : Option String

def convertProtoSignature (proto : Proto.SignatureMetadata) : SignatureMetadata :=
  let get (key : String) : Option String :=
    (proto.metadata.find? fun entry => entry.key = key).map Proto.Metadata.value
  ⟨proto.value, get "algorithm", get "public_key"⟩

def supportedAlgorithm : String := "secp256k1"

def validateAbiSignature (k256 : K256) (abiJson : String) (address : Address) (chainId : ChainId)
    (signature : SignatureMetadata) (allowlist : Option SignerAllowlist) :
    Except AbiSignatureError Unit := do
  let algorithm ← okOr .missingAlgorithm signature.algorithm
  require (algorithm = supportedAlgorithm) (.unsupportedAlgorithm algorithm)
  let publicKeyHex ← okOr .missingPublicKey signature.publicKey
  let hash := ethereumMetadataPrehash chainId address (utf8Bytes abiJson)
  let signatureBytes ← (Hex.decodeHex signature.value).mapError .invalidSignatureHex
  let parsed ← (k256.fromDer signatureBytes).mapError .invalidDerSignature
  let publicKeyBytes ← (Hex.decodeHex publicKeyHex).mapError .invalidPublicKeyHex
  let point ← (k256.encodedPoint publicKeyBytes).mapError .invalidPublicKeyPoint
  let key ← (k256.verifyingKey point).mapError .invalidVerifyingKey
  (k256.verifyPrehash key hash parsed).mapError .verificationFailed
  match allowlist with
  | some allowlist => require (k256.uncompressed key ∈ allowlist.keys) .signerNotInAllowlist
  | none => pure ()

instance SignerAllowlist.decidableMem (allowlist : SignerAllowlist) (key : Bytes) :
    Decidable (key ∈ allowlist.keys) := inferInstance

/-! ## Extraction -/

def maxAbiJsonBytes : ℕ := 1024 * 1024

/-- The kind an entry declares; only a proxy carries a link. -/
def resolveAbiKind (formats : Formats) (abi : Proto.Abi) : AbiKind × Option Address :=
  if abi.abiType = some 2 then
    (.proxy, abi.implementationAddress.bind formats.parseAddress)
  else (.implementation, none)

/-- A signature that is present has to verify; only the policy decides about one
that is absent. -/
def acceptsEntry (k256 : K256) (policy : MetadataTrustPolicy) (chainId : ChainId)
    (address : Address) (abi : Proto.Abi) : Bool :=
  match abi.signature with
  | some signature =>
      (validateAbiSignature k256 abi.value address chainId (convertProtoSignature signature)
        policy.signerAllowlist).toBool
  | none => policy.acceptsUnsigned

section Extraction

variable (formats : Formats) (dyn : DynAbi) (k256 : K256)

/-- One turn of the loop over the mappings: a refused entry leaves the registry
as it is. -/
def registerMapping (policy : MetadataTrustPolicy) (chainId : ChainId) (registry : AbiRegistry)
    (entry : String × Proto.Abi) : AbiRegistry :=
  match formats.parseAddress entry.1 with
  | none => registry
  | some address =>
      if maxAbiJsonBytes < (utf8Bytes entry.2.value).length then registry
      else if acceptsEntry k256 policy chainId address entry.2 then
        match registry.registerAbi dyn entry.1 entry.2.value with
        | .ok registered =>
            let kind := resolveAbiKind formats entry.2
            registered.mapAddressWithType chainId address entry.1 kind.1 kind.2
        | .error _ => registry
      else registry

def tryExtractFromChainMetadata (metadata : Option Proto.ChainMetadata) (chainId : ChainId)
    (policy : MetadataTrustPolicy) : Option AbiRegistry :=
  match metadata.bind Proto.ChainMetadata.metadata with
  | some (.ethereum ethereum) =>
      let registry := ethereum.abiMappings.entries.foldl
        (registerMapping formats dyn k256 policy chainId) AbiRegistry.new
      if registry.abis.entries.isEmpty then none else some registry
  | _ => none

end Extraction

end VisualSignParser.Ethereum
