import VisualSignParser.Codec.Outcome
import VisualSignParser.Host.Keys
import VisualSignParser.Host.PaymentMarker
import VisualSignParser.Proto.Messages

/-!
# Payment enforcement

When the policy requires payment, a request must carry a marker that the pinned
gateway key signed for exactly this request.  The verifier leaves on the first
failed check, so it accepts exactly when all of them succeed; and since the
marker commits to the request through its digest, one marker opens the door to
one request.
-/

namespace VisualSignParser.App

open VisualSignParser.Framing
open VisualSignParser.Borsh
open VisualSignParser.Sha256
open VisualSignParser.Outcome
open VisualSignParser.Proto
open VisualSignParser.Host

structure GrpcError where
  code : Code
  message : String
  deriving DecidableEq

/-- Borsh-encoded metadata, or no bytes if there is none. -/
def chainMetadataBytes : Option ChainMetadata → Option Bytes
  | none => some []
  | some metadata => serialize metadata

theorem chainMetadataBytes_injective {left right : Option ChainMetadata} {bytes : Bytes}
    (hleft : chainMetadataBytes left = some bytes)
    (hright : chainMetadataBytes right = some bytes) : left = right := by
  cases left with
  | none =>
      cases right with
      | none => rfl
      | some metadata =>
          cases hleft
          exact absurd rfl (serialize_chainMetadata_ne_nil hright)
  | some leftMetadata =>
      cases right with
      | none =>
          cases hright
          exact absurd rfl (serialize_chainMetadata_ne_nil hleft)
      | some rightMetadata => exact congrArg some (serialize_injective hleft hright)

inductive PaymentPolicy (p256 : P256Sign) where
  | disabled
  | required (pinned : p256.Public)

inductive PaymentVerifyError where
  | missing
  | decode (message : String)
  | unsupportedVersion (version : UInt32)
  | requestHashMismatch
  | pinnedKeyMismatch
  | badSignature
  | internal (message : String)
  deriving DecidableEq

def PaymentVerifyError.display : PaymentVerifyError → String
  | missing => "payment marker is required for this endpoint"
  | decode message => "payment marker decode error: " ++ message
  | unsupportedVersion version =>
      "payment marker version " ++ toString version ++ " is not supported"
  | requestHashMismatch =>
      "payment marker does not match this request (request_hash mismatch)"
  | pinnedKeyMismatch => "payment marker gateway_pubkey_hex does not match pinned key"
  | badSignature => "payment marker signature verification failed"
  | internal message => "internal error verifying payment marker: " ++ message

/-- Only the errors that another payment could cure are preconditions. -/
def PaymentVerifyError.code : PaymentVerifyError → Code
  | decode _ | unsupportedVersion _ => .invalidArgument
  | missing | requestHashMismatch | pinnedKeyMismatch | badSignature => .failedPrecondition
  | internal _ => .internal

def PaymentVerifyError.toGrpcError (error : PaymentVerifyError) : GrpcError :=
  ⟨error.code, error.display⟩

def maxPaymentMarkerBytes : ℕ := 8 * 1024

section Verify

-- `borshMessage` is the text the Borsh reader reports for bytes it refuses.
variable (p256 : P256Sign) (borshMessage : Bytes → String)

def verify (request : ParseRequest) : PaymentPolicy p256 → Except PaymentVerifyError Unit
  | .disabled => .ok ()
  | .required pinned => do
      require (request.paymentMarker ≠ []) .missing
      require (request.paymentMarker.length ≤ maxPaymentMarkerBytes)
        (.decode ("payment marker is " ++ toString request.paymentMarker.length ++
          " bytes, exceeds " ++ toString maxPaymentMarkerBytes ++ " byte limit"))
      let signed : SignedVerifiedPaymentMarker ←
        okOr (.decode (borshMessage request.paymentMarker)) (tryFromSlice request.paymentMarker)
      let vpm := signed.vpm
      require (vpm.version = vpmVersion) (.unsupportedVersion vpm.version)
      let metadataBytes ← okOr (.internal "chain_metadata borsh encode: Kind(InvalidData)")
        (chainMetadataBytes request.chainMetadata)
      let expected := requestHash request.chain request.unsignedPayload metadataBytes
        request.includeIntermediateOutput
      require (expected = vpm.requestHash) .requestHashMismatch
      let claimed ← (Hex.decodeHex (Text.trim vpm.gatewayPubkeyHex)).mapError fun _ =>
        .decode "gateway_pubkey_hex is not valid hex"
      require (claimed = p256.toBytes pinned) .pinnedKeyMismatch
      let digest ← okOr (.internal "payment marker signing_digest: Kind(InvalidData)")
        vpm.signingDigest
      require (p256.verify pinned digest.1 signed.signature = true) .badSignature

/-- What a request must carry to pass a policy that pins a gateway key. -/
structure Accepted (pinned : p256.Public) (request : ParseRequest)
    (signed : SignedVerifiedPaymentMarker) : Prop where
  nonempty : request.paymentMarker ≠ []
  short : request.paymentMarker.length ≤ 8192
  decodes : tryFromSlice request.paymentMarker = some signed
  version : signed.vpm.version = 1
  bound : ∃ metadataBytes, chainMetadataBytes request.chainMetadata = some metadataBytes ∧
    signed.vpm.requestHash = requestHash request.chain request.unsignedPayload metadataBytes
      request.includeIntermediateOutput
  key : Hex.decodeHex (Text.trim signed.vpm.gatewayPubkeyHex) = .ok (p256.toBytes pinned)
  signature : ∃ digest, signed.vpm.signingDigest = some digest ∧
    p256.verify pinned digest.1 signed.signature = true

theorem verify_eq_ok_iff (pinned : p256.Public) (request : ParseRequest) :
    verify p256 borshMessage request (.required pinned) = .ok () ↔
      ∃ signed, Accepted p256 pinned request signed := by
  simp only [verify, bind_eq_ok, require_eq_ok, okOr_eq_ok, mapError_eq_ok]
  constructor
  · rintro ⟨-, hnonempty, -, hshort, signed, hdecodes, -, hversion, metadataBytes, hmetadata, -,
      hbound, claimed, hclaimed, -, hkey, digest, hdigest, hsignature⟩
    exact ⟨signed, hnonempty, hshort, hdecodes, hversion, ⟨metadataBytes, hmetadata, hbound.symm⟩,
      hclaimed.trans (congrArg Except.ok hkey), ⟨digest, hdigest, hsignature⟩⟩
  · rintro ⟨signed, hnonempty, hshort, hdecodes, hversion, ⟨metadataBytes, hmetadata, hbound⟩,
      hkey, ⟨digest, hdigest, hsignature⟩⟩
    exact ⟨(), hnonempty, (), hshort, signed, hdecodes, (), hversion, metadataBytes, hmetadata, (),
      hbound.symm, _, hkey, (), rfl, digest, hdigest, hsignature⟩

/-- The byte strings hashed for a request: one if its metadata has an encoding. -/
def requestPreimages (request : ParseRequest) : Set Bytes :=
  {preimage | ∃ metadataBytes, chainMetadataBytes request.chainMetadata = some metadataBytes ∧
    preimage = requestPreimage request.chain request.unsignedPayload metadataBytes
      request.includeIntermediateOutput}

/-- Both length-prefixed parts of a request fit their prefixes. -/
def LengthsFit (request : ParseRequest) : Prop :=
  (utf8Bytes request.unsignedPayload).length < 2 ^ 32 ∧
    ∀ metadataBytes, chainMetadataBytes request.chainMetadata = some metadataBytes →
      metadataBytes.length < 2 ^ 32

variable {p256}

theorem Accepted.bound_unique {pinned : p256.Public} {left right : ParseRequest}
    {signed : SignedVerifiedPaymentMarker} (hleft : Accepted p256 pinned left signed)
    (hright : Accepted p256 pinned right signed)
    (hfree : CollisionFreeOn (requestPreimages left ∪ requestPreimages right))
    (hleftFits : LengthsFit left) (hrightFits : LengthsFit right) :
    left.chain = right.chain ∧ left.unsignedPayload = right.unsignedPayload ∧
      left.chainMetadata = right.chainMetadata ∧
      left.includeIntermediateOutput = right.includeIntermediateOutput := by
  obtain ⟨leftBytes, hleftBytes, hleftHash⟩ := hleft.bound
  obtain ⟨rightBytes, hrightBytes, hrightHash⟩ := hright.bound
  have hpreimage := hfree.eq (.inl ⟨leftBytes, hleftBytes, rfl⟩)
    (.inr ⟨rightBytes, hrightBytes, rfl⟩) (hleftHash.symm.trans hrightHash)
  obtain ⟨hchain, hpayload, hmetadata, hflag⟩ := requestPreimage_injective hleftFits.1
    hrightFits.1 (hleftFits.2 _ hleftBytes) (hrightFits.2 _ hrightBytes) hpreimage
  rw [hmetadata] at hleftBytes
  exact ⟨hchain, hpayload, chainMetadataBytes_injective hleftBytes hrightBytes, hflag⟩

/-- A request passes a policy that requires payment exactly when its marker is
accepted, and one marker is accepted for one request only. -/
theorem verify_accepts_and_binds (pinned : p256.Public) :
    (∀ request, verify p256 borshMessage request (.required pinned) = .ok () ↔
      ∃ signed, Accepted p256 pinned request signed) ∧
    ∀ left right : ParseRequest, left.paymentMarker = right.paymentMarker →
      verify p256 borshMessage left (.required pinned) = .ok () →
      verify p256 borshMessage right (.required pinned) = .ok () →
      CollisionFreeOn (requestPreimages left ∪ requestPreimages right) →
      LengthsFit left → LengthsFit right →
      left.chain = right.chain ∧ left.unsignedPayload = right.unsignedPayload ∧
        left.chainMetadata = right.chainMetadata ∧
        left.includeIntermediateOutput = right.includeIntermediateOutput := by
  refine ⟨verify_eq_ok_iff p256 borshMessage pinned, ?_⟩
  intro left right hmarker hleft hright hfree hleftFits hrightFits
  obtain ⟨leftSigned, hleft⟩ := (verify_eq_ok_iff p256 borshMessage pinned left).1 hleft
  obtain ⟨rightSigned, hright⟩ := (verify_eq_ok_iff p256 borshMessage pinned right).1 hright
  have hsigned : leftSigned = rightSigned := by
    have hdecodes := hleft.decodes
    rw [hmarker, hright.decodes] at hdecodes
    exact (Option.some.inj hdecodes).symm
  subst hsigned
  exact hleft.bound_unique hright hfree hleftFits hrightFits

end Verify

/-! ## A signed marker -/

/-- Read a constant written in hexadecimal digits. -/
def hexConstant (text : String) : Bytes := (Hex.decodeHex text).toOption.getD []

def gatewayPubkeyHex : String :=
  "044691897059040ae92f5e7b2fe3edc20334ece00cc295b45c2015913226a553" ++
    "ac2ebd04ab793e3c3d56cf942098c13c33de20b1ca794c87bdb56433f2669b097a"

def markerSignature : Bytes := hexConstant
  ("cd5c4811efb06dd3341aa55dc1e1a15ab049cc7c948d123d6b1aaea5ec97be79" ++
    "3d372834f76e4db4e065192904f99229fb7aeaa9f0a1712120519f0e428604ae")

/-- The pinned key with its one known signature. -/
def gatewayKey : P256Sign where
  Public := Unit
  toBytes _ := hexConstant gatewayPubkeyHex
  fromBytes bytes :=
    if bytes = hexConstant gatewayPubkeyHex then .ok () else .error "FailedToReadPublicKey"
  verify _ message signature :=
    message = hexConstant "b5a91d28f2b2ca9e8efaa0fa7ff4b0427740b4688ca0e981f625d47c0665b80b" ∧
      signature = markerSignature

def signedMarker : SignedVerifiedPaymentMarker where
  vpm :=
    { version := vpmVersion
      requestHash := requestHash 1 "0xdeadbeef" [] false
      details := .x402Direct "txsig" "Pay" "Recv" "1000" "Mint" ⟨List.replicate 32 0, rfl⟩
        "solana:test"
      settledAtMs := 0
      gatewayPubkeyHex := gatewayPubkeyHex }
  signature := markerSignature

def paidRequest : ParseRequest where
  unsignedPayload := "0xdeadbeef"
  chain := 1
  chainMetadata := none
  includeIntermediateOutput := false
  paymentMarker := (serialize signedMarker).getD []

theorem lengthsFit_paidRequest : LengthsFit paidRequest := by
  refine ⟨by decide +kernel, ?_⟩
  intro metadataBytes hmetadata
  cases hmetadata
  decide

theorem collisionFreeOn_paidRequest :
    CollisionFreeOn (requestPreimages paidRequest ∪ requestPreimages paidRequest) := by
  rw [Set.union_self]
  rintro left ⟨leftBytes, hleft, rfl⟩ right ⟨rightBytes, hright, rfl⟩ -
  rw [Option.some.inj (hleft.symm.trans hright)]

/-- The marker is accepted, and for its own request. -/
theorem verify_accepts_and_binds_paidRequest :
    verify gatewayKey (fun _ => "Unexpected length of input") paidRequest (.required ()) =
        .ok () ∧
      (∃ signed, Accepted gatewayKey () paidRequest signed) ∧
      paidRequest.chain = 1 ∧ paidRequest.chain = paidRequest.chain ∧
      paidRequest.unsignedPayload = paidRequest.unsignedPayload ∧
      paidRequest.chainMetadata = paidRequest.chainMetadata ∧
      paidRequest.includeIntermediateOutput = paidRequest.includeIntermediateOutput := by
  have hok : verify gatewayKey (fun _ => "Unexpected length of input") paidRequest
      (.required ()) = .ok () := by decide +kernel
  obtain ⟨haccepts, hbinds⟩ :=
    @verify_accepts_and_binds gatewayKey (fun _ => "Unexpected length of input") ()
  exact ⟨hok, (haccepts paidRequest).1 hok, rfl, hbinds paidRequest paidRequest rfl hok hok
    collisionFreeOn_paidRequest lengthsFit_paidRequest lengthsFit_paidRequest⟩

end VisualSignParser.App
