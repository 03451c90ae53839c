import VisualSignParser.Codec.Hex
import VisualSignParser.Codec.Outcome
import VisualSignParser.Ethereum.AbiMetadata

/-!
# Signatures over an IDL

A curator signs the IDL together with the program it is for.  The key has to be
one of the authorized ones; a signature that verifies is not enough.
-/

namespace VisualSignParser.Solana

open VisualSignParser.Framing
open VisualSignParser.Outcome
open VisualSignParser.Prehash
open VisualSignParser.Ethereum (SignerAllowlist)

/-- The operations of the `ed25519_dalek` crate; errors are their texts. -/
structure Ed25519 where
  VerifyingKey : Type
  fromBytes : ByteArr 32 → Except String VerifyingKey
  toBytes : VerifyingKey → ByteArr 32
  verifyStrict : VerifyingKey → ByteArr 32 → ByteArr 64 → Except String Unit

inductive IdlSignatureError where
  | missingAlgorithm
  | unsupportedAlgorithm (algorithm : String)
  | missingPublicKey
  | invalidSignature (error : Hex.DecodeHexArrayError)
  | invalidPublicKeyHex (error : Hex.DecodeHexArrayError)
  | invalidPublicKey (error : String)
  | verificationFailed (error : String)
  | signerNotInAllowlist

/-- The fields of a signature that its check reads. -/
structure SignatureMetadata where
  value : String
  algorithm : Option String
  publicKey : Option String

def convertProtoSignature (proto : Proto.SignatureMetadata) : SignatureMetadata :=
  let get (key : String) : Option String :=
    (proto.metadata.find? fun entry => entry.key = key).map Proto.Metadata.value
  ⟨proto.value, get "algorithm", get "public_key"⟩

def supportedAlgorithm : String := "ed25519"

def validateIdlSignature (ed25519 : Ed25519) (idlJson : String) (programId : ByteArr 32)
    (signature : SignatureMetadata) (allowlist : SignerAllowlist) :
    Except IdlSignatureError Unit := do
  let algorithm ← okOr .missingAlgorithm signature.algorithm
  require (algorithm = supportedAlgorithm) (.unsupportedAlgorithm algorithm)
  let publicKeyHex ← okOr .missingPublicKey signature.publicKey
  let hash := solanaMetadataPrehash programId (utf8Bytes idlJson)
  let signatureBytes ← (Hex.decodeHexArray 64 signature.value).mapError .invalidSignature
  let publicKeyBytes ← (Hex.decodeHexArray 32 publicKeyHex).mapError .invalidPublicKeyHex
  let verifyingKey ← (ed25519.fromBytes publicKeyBytes).mapError .invalidPublicKey
  (ed25519.verifyStrict verifyingKey hash signatureBytes).mapError .verificationFailed
  require ((ed25519.toBytes verifyingKey).val ∈ allowlist.keys) .signerNotInAllowlist

/-- An authorized key signed the IDL for this program. -/
def SignedByAllowlisted (ed25519 : Ed25519) (allowlist : SignerAllowlist) (programId : ByteArr 32)
    (idlJson : String) (signature : Proto.SignatureMetadata) : Prop :=
  ∃ (verifyingKey : ed25519.VerifyingKey) (signatureBytes : ByteArr 64),
    (ed25519.toBytes verifyingKey).val ∈ allowlist.keys ∧
    Hex.decodeHex signature.value = .ok signatureBytes.val ∧
    ed25519.verifyStrict verifyingKey
      (solanaMetadataPrehash programId (utf8Bytes idlJson)) signatureBytes = .ok ()

theorem signedByAllowlisted_of_validate {ed25519 : Ed25519} {idlJson : String}
    {programId : ByteArr 32} {signature : Proto.SignatureMetadata} {allowlist : SignerAllowlist}
    (hvalid : validateIdlSignature ed25519 idlJson programId (convertProtoSignature signature)
      allowlist = .ok ()) :
    SignedByAllowlisted ed25519 allowlist programId idlJson signature := by
  obtain ⟨algorithm, -, hvalid⟩ := bind_eq_ok.1 hvalid
  obtain ⟨-, -, hvalid⟩ := bind_eq_ok.1 hvalid
  obtain ⟨publicKeyHex, -, hvalid⟩ := bind_eq_ok.1 hvalid
  obtain ⟨signatureBytes, hsignature, hvalid⟩ := bind_eq_ok.1 hvalid
  obtain ⟨publicKeyBytes, -, hvalid⟩ := bind_eq_ok.1 hvalid
  obtain ⟨verifyingKey, -, hvalid⟩ := bind_eq_ok.1 hvalid
  obtain ⟨⟨⟩, hverified, hallowed⟩ := bind_eq_ok.1 hvalid
  exact ⟨verifyingKey, signatureBytes, require_eq_ok.1 hallowed,
    Hex.decodeHexArray_eq_ok (mapError_eq_ok.1 hsignature), mapError_eq_ok.1 hverified⟩

end VisualSignParser.Solana
