import VisualSignParser.Codec.Borsh
import VisualSignParser.Codec.Sha256

/-!
# Payment markers

The gateway certifies a settled payment by a signed marker.  The marker names
one request through a digest over everything the enclave's answer depends on:
the chain, the payload, the metadata bytes and the flag for intermediate
output.  Both variable-length parts stand behind their lengths, so the hashed
bytes determine all four.
-/

namespace VisualSignParser.Host

open VisualSignParser.Framing
open VisualSignParser.Borsh
open VisualSignParser.Sha256

inductive PaymentDetails where
  | x402Direct (txid payer payTo amount mint : String) (xPaymentHash : ByteArr 32)
      (network : String)
  deriving DecidableEq

/-- The fields of the only variant, in declaration order. -/
def PaymentDetails.fields : PaymentDetails →
    String × String × String × String × String × ByteArr 32 × String
  | x402Direct txid payer payTo amount mint xPaymentHash network =>
      (txid, payer, payTo, amount, mint, xPaymentHash, network)

def PaymentDetails.ofFields :
    String × String × String × String × String × ByteArr 32 × String → PaymentDetails
  | (txid, payer, payTo, amount, mint, xPaymentHash, network) =>
      x402Direct txid payer payTo amount mint xPaymentHash network

theorem PaymentDetails.ofFields_fields (details : PaymentDetails) :
    ofFields details.fields = details := by
  cases details
  rfl

instance : BorshSerialize PaymentDetails :=
  .ofVariants (fun _ => 0) (fun details => serialize details.fields) <| by
    intro left right _ _ _ _ _ hleft hright heq
    obtain ⟨hfields, hrest⟩ := BorshSerialize.unambiguous hleft hright heq
    refine ⟨?_, hrest⟩
    rw [← left.ofFields_fields, ← right.ofFields_fields, hfields]

/-- An unknown variant index is an error. -/
instance : BorshDeserialize PaymentDetails where
  deserialize
    | 0 :: bytes => (deserialize bytes).map fun read => (PaymentDetails.ofFields read.1, read.2)
    | _ => none
  deserialize_serialize {details} _ hbytes rest := by
    obtain ⟨bytes, hfields, rfl⟩ := Option.map_eq_some_iff.1 hbytes
    simp only [List.cons_append]
    rw [BorshDeserialize.deserialize_serialize hfields rest, Option.map_some,
      details.ofFields_fields]

structure VerifiedPaymentMarker where
  version : UInt32
  requestHash : ByteArr 32
  details : PaymentDetails
  settledAtMs : UInt64
  gatewayPubkeyHex : String
  deriving DecidableEq

def VerifiedPaymentMarker.fields (vpm : VerifiedPaymentMarker) :
    UInt32 × ByteArr 32 × PaymentDetails × UInt64 × String :=
  (vpm.version, vpm.requestHash, vpm.details, vpm.settledAtMs, vpm.gatewayPubkeyHex)

theorem VerifiedPaymentMarker.fields_injective : Function.Injective fields := by
  rintro ⟨⟩ ⟨⟩ ⟨⟩
  rfl

instance : BorshSerialize VerifiedPaymentMarker :=
  .ofFields VerifiedPaymentMarker.fields VerifiedPaymentMarker.fields_injective

instance : BorshDeserialize VerifiedPaymentMarker :=
  .ofFields VerifiedPaymentMarker.fields VerifiedPaymentMarker.fields_injective
    (fun fields => ⟨fields.1, fields.2.1, fields.2.2.1, fields.2.2.2.1, fields.2.2.2.2⟩)
    fun _ => rfl

def vpmVersion : UInt32 := 1

structure SignedVerifiedPaymentMarker where
  vpm : VerifiedPaymentMarker
  signature : Bytes
  deriving DecidableEq

def SignedVerifiedPaymentMarker.fields (signed : SignedVerifiedPaymentMarker) :
    VerifiedPaymentMarker × Bytes :=
  (signed.vpm, signed.signature)

theorem SignedVerifiedPaymentMarker.fields_injective : Function.Injective fields := by
  rintro ⟨⟩ ⟨⟩ ⟨⟩
  rfl

instance : BorshSerialize SignedVerifiedPaymentMarker :=
  .ofFields SignedVerifiedPaymentMarker.fields SignedVerifiedPaymentMarker.fields_injective

instance : BorshDeserialize SignedVerifiedPaymentMarker :=
  .ofFields SignedVerifiedPaymentMarker.fields SignedVerifiedPaymentMarker.fields_injective
    (fun fields => ⟨fields.1, fields.2⟩) fun _ => rfl

/-- The digest the gateway signs.  A marker with a string that has no encoding
has none. -/
def VerifiedPaymentMarker.signingDigest (vpm : VerifiedPaymentMarker) : Option (ByteArr 32) :=
  (serialize vpm).map sha256

/-! ## The request digest -/

/-- The buffer `request_hash` fills and hashes. -/
def requestPreimage (chain : Int32) (unsignedPayload : String) (chainMetadataBytes : Bytes)
    (includeIntermediateOutput : Bool) : Bytes :=
  leBytes 4 chain.toUInt32.toNat ++ (lenPrefixed 4 (utf8Bytes unsignedPayload) ++
    (lenPrefixed 4 chainMetadataBytes ++ [if includeIntermediateOutput then 1 else 0]))

def requestHash (chain : Int32) (unsignedPayload : String) (chainMetadataBytes : Bytes)
    (includeIntermediateOutput : Bool) : ByteArr 32 :=
  sha256 (requestPreimage chain unsignedPayload chainMetadataBytes includeIntermediateOutput)

/-- The parts are removed from the front one after the other; the flag is the
last byte. -/
theorem requestPreimage_injective {leftChain rightChain : Int32}
    {leftPayload rightPayload : String} {leftMetadata rightMetadata : Bytes}
    {leftFlag rightFlag : Bool}
    (hleftPayload : (utf8Bytes leftPayload).length < 2 ^ 32)
    (hrightPayload : (utf8Bytes rightPayload).length < 2 ^ 32)
    (hleftMetadata : leftMetadata.length < 2 ^ 32) (hrightMetadata : rightMetadata.length < 2 ^ 32)
    (heq : requestPreimage leftChain leftPayload leftMetadata leftFlag =
      requestPreimage rightChain rightPayload rightMetadata rightFlag) :
    leftChain = rightChain ∧ leftPayload = rightPayload ∧ leftMetadata = rightMetadata ∧
      leftFlag = rightFlag := by
  have hwidth : (2 : ℕ) ^ 32 = 256 ^ 4 := by norm_num
  rw [hwidth] at hleftPayload hrightPayload hleftMetadata hrightMetadata
  have hbound (chain : Int32) : chain.toUInt32.toNat < 256 ^ 4 := by
    simpa using UInt32.toNat_lt chain.toUInt32
  obtain ⟨hchain, hrest⟩ := List.append_inj heq (by simp)
  obtain ⟨hpayload, hrest⟩ := lenPrefixed_append_inj hleftPayload hrightPayload hrest
  obtain ⟨hmetadata, hflag⟩ := lenPrefixed_append_inj hleftMetadata hrightMetadata hrest
  have hword := UInt32.toNat_inj.1 (leBytes_injective (hbound _) (hbound _) hchain)
  refine ⟨congrArg Int32.ofUInt32 hword, utf8Bytes_injective hpayload, hmetadata, ?_⟩
  cases leftFlag <;> cases rightFlag <;> simp at hflag ⊢

end VisualSignParser.Host
