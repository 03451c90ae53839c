import VisualSignParser.App.Parse

/-!
# Response signatures at the gateway

The gateway pins one public key and accepts a response only if that key signed
the payload it is about to forward.  It recomputes the signed bytes itself,
with its own copy of the enclave's encoder.
-/

namespace VisualSignParser.Gateway

open VisualSignParser.Framing
open VisualSignParser.Borsh
open VisualSignParser.Sha256
open VisualSignParser.Outcome
open VisualSignParser.Proto
open VisualSignParser.Host

/-- The errors of verification.  Those of reading the pinned key are left out. -/
inductive AttestationError where
  | unsupportedScheme (name : String)
  | pubkeyMismatch
  | hex (field message : String)
  | verify
  | digestSerialization (message : String)
  deriving DecidableEq

def AttestationError.display : AttestationError → String
  | unsupportedScheme name => "unsupported signature scheme: " ++ name
  | pubkeyMismatch =>
      "public key mismatch: response key does not match pinned TVC verifier key"
  | hex field message => "hex decode error in " ++ field ++ ": " ++ message
  | verify => "signature verification failed"
  | digestSerialization message =>
      "failed to serialize payload for digest recomputation: " ++ message

/-- The gateway's copy of the enclave's encoder. -/
def signingDigestBytes (payload : ParsedTransactionPayload) : Except AttestationError Bytes := do
  let bytes ← okOr (.digestSerialization "invalid data") payload.borshToVec
  if payload.intermediateOutput ≠ [] then
    let intermediate ←
      okOr (.digestSerialization "invalid data") (serialize payload.intermediateOutput)
    return bytes ++ intermediate
  else
    return bytes

/-- The gateway's encoder answers what the enclave's does. -/
theorem signingDigestBytes_eq (payload : ParsedTransactionPayload) :
    signingDigestBytes payload =
      okOr (.digestSerialization "invalid data") (App.signingDigestBytes payload) := by
  unfold signingDigestBytes App.signingDigestBytes
  cases hbytes : payload.borshToVec with
  | none => rfl
  | some bytes =>
      by_cases hempty : payload.intermediateOutput = []
      · simp [hempty, okOr]
      · cases houtput : (serialize payload.intermediateOutput) <;>
          simp [hempty, okOr, bind, Except.bind, pure, Except.pure]

def schemeName (scheme : Int32) : String :=
  if scheme = SignatureScheme.unspecified.toInt32 then SignatureScheme.unspecified.asStrName
  else "UNKNOWN(" ++ toString scheme ++ ")"

section Verify

variable (p256 : P256)

structure AttestationVerifier where
  pinnedPublic : p256.Public

variable {p256}

/-- `AttestationVerifier::verify`: the digest that was authenticated. -/
def AttestationVerifier.verify (verifier : AttestationVerifier p256) (signature : Signature)
    (payload : ParsedTransactionPayload) : Except AttestationError (ByteArr 32) := do
  require (signature.scheme = SignatureScheme.turnkeyP256EphemeralKey.toInt32)
    (.unsupportedScheme (schemeName signature.scheme))
  let responseBytes ←
    (p256.hexDecode signature.publicKey).mapError (.hex "signature.public_key")
  let responsePublic ← (p256.fromBytes responseBytes).mapError fun _ => .pubkeyMismatch
  require (responsePublic = verifier.pinnedPublic) .pubkeyMismatch
  let bytes ← signingDigestBytes payload
  let expectedDigest := sha256 bytes
  let signatureBytes ←
    (p256.hexDecode signature.signature).mapError (.hex "signature.signature")
  require (p256.verify verifier.pinnedPublic expectedDigest.1 signatureBytes = true) .verify
  return expectedDigest

theorem AttestationVerifier.verify_eq_ok_iff {verifier : AttestationVerifier p256}
    {signature : Signature} {payload : ParsedTransactionPayload} {digest : ByteArr 32} :
    verifier.verify signature payload = .ok digest ↔
      signature.scheme = 1 ∧
      (∃ keyBytes, p256.hexDecode signature.publicKey = .ok keyBytes ∧
        p256.fromBytes keyBytes = .ok verifier.pinnedPublic) ∧
      ∃ bytes signatureBytes, signingDigestBytes payload = .ok bytes ∧ digest = sha256 bytes ∧
        p256.hexDecode signature.signature = .ok signatureBytes ∧
        p256.verify verifier.pinnedPublic digest.1 signatureBytes = true := by
  simp only [AttestationVerifier.verify, bind_eq_ok, require_eq_ok, mapError_eq_ok, pure_eq_ok]
  constructor
  · rintro ⟨-, hscheme, keyBytes, hkeyBytes, key, hkey, -, rfl, bytes, hbytes, signatureBytes,
      hsignature, -, hverify, rfl⟩
    exact ⟨hscheme, ⟨keyBytes, hkeyBytes, hkey⟩, bytes, signatureBytes, hbytes, rfl, hsignature,
      hverify⟩
  · rintro ⟨hscheme, ⟨keyBytes, hkeyBytes, hkey⟩, bytes, signatureBytes, hbytes, rfl, hsignature,
      hverify⟩
    exact ⟨(), hscheme, keyBytes, hkeyBytes, _, hkey, (), rfl, bytes, hbytes, signatureBytes,
      hsignature, (), hverify, rfl⟩

end Verify

end VisualSignParser.Gateway
