import VisualSignParser.App.Parse

/-!
# What the ephemeral key signs

The endpoint is run once more with a record of every signature the key makes.
The record shows what a response alone cannot: that a request which fails, at
whichever step, has not made the key sign anything.
-/

namespace VisualSignParser.App

open VisualSignParser.Framing
open VisualSignParser.Borsh
open VisualSignParser.Sha256
open VisualSignParser.Outcome
open VisualSignParser.Proto
open VisualSignParser.Host
open VisualSignParser.VisualSign
open VisualSignParser.Json

/-! ## Covered fields -/

/-- Bytes are signed only over fields that have an encoding. -/
theorem fieldsFit_of_signingDigestBytes {payload : ParsedTransactionPayload} {bytes : Bytes}
    (hbytes : signingDigestBytes payload = some bytes) : FieldsFit payload := by
  simp only [signingDigestBytes, Option.bind_eq_bind, Option.bind_eq_some_iff] at hbytes
  obtain ⟨strings, hstrings, htail⟩ := hbytes
  simp only [ParsedTransactionPayload.borshToVec, serialize_pair_eq_some] at hstrings
  obtain ⟨_, hparsed, _, ⟨_, hinput, _, ⟨_, hmetadata, _, hsignable, -⟩, -⟩, -⟩ := hstrings
  have hintermediate : payload.intermediateOutput.length < 2 ^ 32 := by
    by_cases hempty : payload.intermediateOutput = []
    · rw [hempty]
      exact Nat.two_pow_pos 32
    · rw [if_pos hempty] at htail
      obtain ⟨encoded, hencoded, -⟩ := Option.bind_eq_some_iff.1 htail
      exact length_lt_of_serialize_bytes hencoded
  exact ⟨length_lt_of_serialize_string hparsed, length_lt_of_serialize_string hinput,
    length_lt_of_serialize_string hmetadata, length_lt_of_serialize_string hsignable,
    hintermediate⟩

/-- The signed bytes are the four strings, then the intermediate output, and
belong to no other payload. -/
structure Covers (bytes : Bytes) (payload : ParsedTransactionPayload) : Prop where
  signed : signingDigestBytes payload = some bytes
  parts : ∃ strings, payload.borshToVec = some strings ∧
    bytes = strings ++ intermediateTail payload.intermediateOutput
  unique : ∀ other, signingDigestBytes other = some bytes → other = payload

theorem covers_of_signingDigestBytes {payload : ParsedTransactionPayload} {bytes : Bytes}
    (hbytes : signingDigestBytes payload = some bytes) : Covers bytes payload := by
  have hfits := fieldsFit_of_signingDigestBytes hbytes
  refine ⟨hbytes, ?_, fun other hother => ?_⟩
  · have hparts := (signingDigestBytes_eq hfits).symm.trans hbytes
    obtain ⟨strings, hstrings, hsum⟩ := Option.map_eq_some_iff.1 hparts
    exact ⟨strings, hstrings, hsum.symm⟩
  · exact signingDigestBytes_injective (fieldsFit_of_signingDigestBytes hother) hfits
      (hother.trans hbytes.symm)

/-! ## Recorded runs -/

/-- A message and the signature made over it. -/
abbrev KeyUse := Bytes × Bytes

/-- A computation that can leave early and that records what the key signs. -/
abbrev Recorded := ExceptT Abort (StateM (List KeyUse))

/-- A step that has no access to the key. -/
def unsigned {A : Type} (step : Except Abort A) : Recorded A := ExceptT.mk (pure step)

section Records

variable {A B : Type}

/-- The recorded run ends as the plain one does.  It records what `made` allows
for its value, and nothing if it fails. -/
def Records (made : A → List KeyUse → Prop) (run : Recorded A) (plain : Except Abort A) : Prop :=
  ∀ record, ∃ signatures, run.run record = (plain, signatures ++ record) ∧
    match plain with
    | .ok value => made value signatures
    | .error _ => signatures = []

theorem Records.unsigned_bind {made : B → List KeyUse → Prop} {step : Except Abort A}
    {run : A → Recorded B} {plain : A → Except Abort B}
    (hrest : ∀ value, step = .ok value → Records made (run value) (plain value)) :
    Records made (unsigned step >>= run) (step >>= plain) := by
  cases step with
  | error abort => exact fun record => ⟨[], rfl, rfl⟩
  | ok value => exact hrest value rfl

end Records

section Parse

variable (p256 : P256) (backing : Backing)

/-- `P256Pair::sign`, entered in the record when it succeeds. -/
def signRecorded (key : p256.Pair) (message : Bytes) : Recorded Bytes := do
  let signature ← unsigned ((p256.sign key message).mapError fun error => .grpc ⟨.internal, error⟩)
  modify ((message, signature) :: ·)
  return signature

/-- `parse_with_registry` with a record of the signatures. -/
def parseRecorded (request : ParseRequest) (key : p256.Pair)
    (registry : TransactionConverterRegistry) : Recorded ParseResponse := do
  unsigned (require (request.unsignedPayload ≠ "")
    (.grpc ⟨.invalidArgument, "unsigned transaction is empty"⟩))
  let protoChain ← unsigned (okOr (.grpc ⟨.invalidArgument, "invalid chain"⟩)
    (Proto.Chain.tryFrom request.chain))
  let conversion ← unsigned ((registry.convertTransaction (protoToRegistry protoChain)
    request.unsignedPayload (requestOptions request)).mapError fun error =>
      .grpc ⟨.invalidArgument, error.display⟩)
  unsigned ((conversion.payload.validateCharset backing).mapError charsetError)
  let parsedPayload ← unsigned ((conversion.payload.toSerdeString backing).mapError fun error =>
    .grpc ⟨.internal, "Failed to serialize payload: " ++ error.message⟩)
  let metadataBytes ← unsigned (
    okOr (.grpc ⟨.internal, "chain_metadata borsh encode: Kind(InvalidData)"⟩)
      (chainMetadataBytes request.chainMetadata))
  let payload := parsedTransactionPayload request.unsignedPayload metadataBytes parsedPayload
    conversion.intermediateOutput
  let bytes ← unsigned (okOr .panicked (signingDigestBytes payload))
  let digest := sha256 bytes
  let signature ← signRecorded p256 key digest.1
  return ⟨some ⟨some payload, some (ephemeralSignature p256 key digest signature)⟩⟩

/-- One signature was made, over the digest of the returned payload, and it is
the one that is returned. -/
def SignedOnce (key : p256.Pair) (response : ParseResponse) (signatures : List KeyUse) : Prop :=
  ∃ payload bytes signature, Covers bytes payload ∧
    response =
      ⟨some ⟨some payload, some (ephemeralSignature p256 key (sha256 bytes) signature)⟩⟩ ∧
    signatures = [((sha256 bytes).1, signature)]

theorem records_signRecorded {key : p256.Pair} {payload : ParsedTransactionPayload} {bytes : Bytes}
    (hbytes : signingDigestBytes payload = some bytes) :
    Records (SignedOnce p256 key)
      (do
        let signature ← signRecorded p256 key (sha256 bytes).1
        return ⟨some ⟨some payload, some (ephemeralSignature p256 key (sha256 bytes) signature)⟩⟩)
      (do
        let signature ← (p256.sign key (sha256 bytes).1).mapError fun error =>
          .grpc ⟨.internal, error⟩
        return ⟨some ⟨some payload,
          some (ephemeralSignature p256 key (sha256 bytes) signature)⟩⟩) := by
  rw [signRecorded, bind_assoc]
  apply Records.unsigned_bind
  intro signature _ record
  exact ⟨[((sha256 bytes).1, signature)], rfl, payload, bytes, signature,
    covers_of_signingDigestBytes hbytes, rfl, rfl⟩

/-- The recorded run is the endpoint, with at most one signature. -/
theorem records_parseRecorded (request : ParseRequest) (key : p256.Pair)
    (registry : TransactionConverterRegistry) :
    Records (SignedOnce p256 key) (parseRecorded p256 backing request key registry)
      (parseWithRegistry p256 backing request key registry) := by
  apply Records.unsigned_bind
  intro _ _
  apply Records.unsigned_bind
  intro protoChain _
  apply Records.unsigned_bind
  intro conversion _
  apply Records.unsigned_bind
  intro _ _
  apply Records.unsigned_bind
  intro parsedPayload _
  apply Records.unsigned_bind
  intro metadataBytes _
  apply Records.unsigned_bind
  intro bytes hbytes
  exact records_signRecorded p256 (okOr_eq_ok.1 hbytes)

/-! ## Only validated payloads are signed -/

/-- The response and the new signatures of an answered request, tied to what the
converter returned. -/
structure Vouched (request : ParseRequest) (key : p256.Pair)
    (registry : TransactionConverterRegistry) (response : ParseResponse)
    (signatures : List KeyUse) : Prop where
  exists_conversion : ∃ chain conversion payload bytes signature,
    -- the payload is the converter's own and was checked
    Proto.Chain.tryFrom request.chain = some chain ∧
    registry.convertTransaction (protoToRegistry chain) request.unsignedPayload
      (requestOptions request) = .ok conversion ∧
    conversion.payload.validateCharset backing = .ok () ∧
    conversion.payload.toSerdeString backing = .ok payload.parsedPayload ∧
    payload.signablePayload = payload.parsedPayload ∧
    -- both digests are those of the request
    payload.inputPayloadDigest = Hex.encode (sha256 (utf8Bytes request.unsignedPayload)).1 ∧
    (∃ metadataBytes, chainMetadataBytes request.chainMetadata = some metadataBytes ∧
      payload.metadataDigest = Hex.encode (sha256 metadataBytes).1) ∧
    -- what is returned is what was signed
    payload.intermediateOutput = conversion.intermediateOutput.getD [] ∧
    Covers bytes payload ∧
    response =
      ⟨some ⟨some payload, some (ephemeralSignature p256 key (sha256 bytes) signature)⟩⟩ ∧
    signatures = [((sha256 bytes).1, signature)]

theorem vouched_of_signedOnce {request : ParseRequest} {key : p256.Pair}
    {registry : TransactionConverterRegistry} {response : ParseResponse}
    {signatures : List KeyUse}
    (hresponse : parseWithRegistry p256 backing request key registry = .ok response)
    (hsigned : SignedOnce p256 key response signatures) :
    Vouched p256 backing request key registry response signatures := by
  obtain ⟨payload, signatureField, hanswer, hanswered⟩ :=
    (parseWithRegistry_eq_ok_iff p256 backing).1 hresponse
  obtain ⟨signed, bytes, signature, hcovers, hreturned, hsignatures⟩ := hsigned
  have hpayload : payload = signed := by
    rw [hanswer] at hreturned
    simpa using congrArg (fun response => response.parsedTransaction.bind (·.payload)) hreturned
  rw [← hpayload] at hcovers hreturned
  obtain ⟨metadataBytes, hmetadata, hinput, hdigest, hsame⟩ := hanswered.digests
  obtain ⟨chain, conversion, hchain, hconverted, hcharset, parsedPayload, _, hparsed, -, heq⟩ :=
    hanswered.converted
  refine ⟨chain, conversion, payload, bytes, signature, hchain, hconverted, hcharset, ?_, hsame,
    hinput, ⟨metadataBytes, hmetadata, hdigest⟩, ?_, hcovers, hreturned, hsignatures⟩
  · rw [hparsed, heq]
    rfl
  · rw [heq]
    rfl

end Parse

/-- Whatever the converters return, an answer vouches for one validated payload,
and a request that fails leaves the record of the key as it was. -/
theorem parseRecorded_signs_validated (p256 : P256) (backing : Backing) (request : ParseRequest)
    (key : p256.Pair) (registry : TransactionConverterRegistry) (record : List KeyUse) :
    ∃ signatures, (parseRecorded p256 backing request key registry).run record =
        (parseWithRegistry p256 backing request key registry, signatures ++ record) ∧
      match parseWithRegistry p256 backing request key registry with
      | .ok response => Vouched p256 backing request key registry response signatures
      | .error _ => signatures = [] := by
  obtain ⟨signatures, hrun, hmade⟩ := records_parseRecorded p256 backing request key registry record
  refine ⟨signatures, hrun, ?_⟩
  cases hresponse : parseWithRegistry p256 backing request key registry with
  | error abort =>
      rw [hresponse] at hmade
      exact hmade
  | ok response =>
      rw [hresponse] at hmade
      exact vouched_of_signedOnce p256 backing hresponse hmade

end VisualSignParser.App
