import VisualSignParser.Codec.Base64
import VisualSignParser.Gateway.Attestation
import VisualSignParser.Host.Turnkey

/-!
# The gateway's parse handler

The gateway forwards a request to the enclave and must not pass on a response
that answers a different one.  It compares two digests of the response with the
request it sent and then checks the signature.  The chain of the request is in
neither digest and not in the signed bytes, so two requests that differ in the
chain alone are not told apart.
-/

namespace VisualSignParser.Gateway

open VisualSignParser.Framing
open VisualSignParser.Borsh
open VisualSignParser.Sha256
open VisualSignParser.Outcome
open VisualSignParser.Proto
open VisualSignParser.Host
open VisualSignParser.VisualSign
open VisualSignParser.Json
open VisualSignParser.App

def mockBootProof : TurnkeyBootProof where
  awsAttestationDocB64 := "VFVSTktFWV9HQVRFV0FZX01PQ0tfQk9PVF9QUk9PRg=="
  qosManifestB64 := "VFVSTktFWV9HQVRFV0FZX01PQ0tfUU9TX01BTklGRVNU"
  qosManifestEnvelopeB64 := "VFVSTktFWV9HQVRFV0FZX01PQ0tfUU9TX01BTklGRVNUX0VOVkVMT1BF"
  ephemeralPublicKeyHex := "020000000000000000000000000000000000000000000000000000000000000001"
  enclaveApp := "visualsign-parser"
  deploymentLabel := "local-mock"

/-- The digests of the payload are those of the request. -/
def responseMatchesRequest (payload : ParsedTransactionPayload) (unsignedPayload : String)
    (metadataBytes : Bytes) : Bool :=
  payload.inputPayloadDigest == Hex.encode (sha256 (utf8Bytes unsignedPayload)).1 &&
    payload.metadataDigest == Hex.encode (sha256 metadataBytes).1

/-- How the call to the enclave ends. -/
inductive RpcOutcome where
  | response (response : ParseResponse)
  | status (code : Code) (message : String)
  | timedOut

def rpcResponse : RpcOutcome → Except Failure ParseResponse
  | .response response => .ok response
  | .status .invalidArgument message => .error (.badRequest message)
  | .status .notFound message => .error (.notFound message)
  | .status _ _ => .error (.internalServerError "internal error")
  | .timedOut => .error (.gatewayTimeout "request timed out")

/-- The metadata bytes, by the gateway's own match on the option. -/
def metadataBytes : Option ChainMetadata → Except Failure Bytes
  | some metadata =>
      okOr (.internalServerError "failed to serialize chain metadata: invalid data")
        (serialize metadata)
  | none => .ok []

/-- Anything but the known scheme is reported as unspecified. -/
def wireScheme (scheme : Int32) : SignatureScheme :=
  if scheme = SignatureScheme.turnkeyP256EphemeralKey.toInt32 then .turnkeyP256EphemeralKey
  else .unspecified

section Handler

variable {p256 : P256} (attestation : Option (AttestationVerifier p256))
  (rpc : ParseRequest → RpcOutcome)

/-- The message sent on: the authenticated digest if a key is pinned. -/
def wireMessage (signature : Signature) (payload : ParsedTransactionPayload) :
    Except Failure String :=
  match attestation with
  | none => .ok signature.message
  | some verifier =>
      match verifier.verify signature payload with
      | .ok digest => .ok (Hex.encode digest.1)
      | .error error => .error (.badGateway ("attestation failed: " ++ error.display))

def gatewayRequest (request : TurnkeyRequest) (chain : Proto.Chain) : ParseRequest where
  unsignedPayload := request.unsignedPayload
  chain := chain.toInt32
  chainMetadata := request.chainMetadata.map ChainMetadataInput.toChainMetadata
  includeIntermediateOutput := request.includeIntermediateOutput
  paymentMarker := []

def handleRequest (request : TurnkeyRequest) : Except Failure TurnkeyResponseWrapper := do
  let chain ← okOr (.badRequest ("unknown chain: " ++ request.chain))
    (Proto.Chain.fromStrName request.chain)
  let protoRequest := gatewayRequest request chain
  let metadata ← metadataBytes protoRequest.chainMetadata
  let response ← rpcResponse (rpc protoRequest)
  let parsedTx ← okOr (.internalServerError "missing parsed_transaction in response")
    response.parsedTransaction
  let payload ← okOr (.internalServerError "missing payload in response") parsedTx.payload
  let signature ← okOr (.badGateway "missing signature in response") parsedTx.signature
  require (responseMatchesRequest payload request.unsignedPayload metadata = true)
    (.badGateway "response does not match request")
  let message ← wireMessage attestation signature payload
  return successResponse mockBootProof
    { signablePayload := payload.parsedPayload
      metadataDigest := payload.metadataDigest
      inputPayloadDigest := payload.inputPayloadDigest
      intermediateOutput := Base64.encode payload.intermediateOutput }
    (some
      { message := message
        publicKey := signature.publicKey
        scheme := (wireScheme signature.scheme).asStrName
        signature := signature.signature })

def parseHandler (wrapper : TurnkeyRequestWrapper) : StatusCode × TurnkeyResponseWrapper :=
  match handleRequest attestation rpc wrapper.request with
  | .ok response => (.ok, response)
  | .error failure => (failure.status, errorResponse failure.message mockBootProof)

end Handler

/-! ## What the checks bind -/

section Binding

variable {p256 : P256}

/-- The handler's checks accept a response as the answer to a request. -/
def Accepts (verifier : AttestationVerifier p256) (request : ParseRequest)
    (payload : ParsedTransactionPayload) (signature : Signature) : Prop :=
  ∃ bytes digest, metadataBytes request.chainMetadata = .ok bytes ∧
    responseMatchesRequest payload request.unsignedPayload bytes = true ∧
    verifier.verify signature payload = .ok digest

theorem rpcResponse_eq_ok {outcome : RpcOutcome} {response : ParseResponse} :
    rpcResponse outcome = .ok response ↔ outcome = .response response := by
  cases outcome with
  | response _ => simp [rpcResponse]
  | status code _ => cases code <;> simp [rpcResponse]
  | timedOut => simp [rpcResponse]

theorem wireMessage_eq_ok {verifier : AttestationVerifier p256} {signature : Signature}
    {payload : ParsedTransactionPayload} {message : String} :
    wireMessage (some verifier) signature payload = .ok message ↔
      ∃ digest, verifier.verify signature payload = .ok digest ∧ message = Hex.encode digest.1 := by
  cases hverify : verifier.verify signature payload with
  | error error => simp [wireMessage, hverify]
  | ok digest => simp [wireMessage, hverify, eq_comm]

theorem parseHandler_status {attestation : Option (AttestationVerifier p256)}
    {rpc : ParseRequest → RpcOutcome} {wrapper : TurnkeyRequestWrapper} :
    (parseHandler attestation rpc wrapper).1 = .ok ↔
      ∃ response, handleRequest attestation rpc wrapper.request = .ok response := by
  unfold parseHandler
  cases handleRequest attestation rpc wrapper.request with
  | ok response => simp
  | error failure => simp [failure.isError]

/-- With a pinned key the handler answers with success exactly when its checks
accept the enclave's response as the answer to the request it sent. -/
theorem parseHandler_ok_iff (verifier : AttestationVerifier p256)
    (rpc : ParseRequest → RpcOutcome) (wrapper : TurnkeyRequestWrapper) :
    (parseHandler (some verifier) rpc wrapper).1 = .ok ↔
      ∃ chain payload signature, Proto.Chain.fromStrName wrapper.request.chain = some chain ∧
        rpc (gatewayRequest wrapper.request chain) =
          .response ⟨some ⟨some payload, some signature⟩⟩ ∧
        Accepts verifier (gatewayRequest wrapper.request chain) payload signature := by
  rw [parseHandler_status]
  simp only [handleRequest, bind_eq_ok, okOr_eq_ok, require_eq_ok, pure_eq_ok, rpcResponse_eq_ok,
    wireMessage_eq_ok]
  constructor
  · rintro ⟨_, chain, hchain, bytes, hbytes, ⟨parsedTx⟩, hrpc, ⟨_, _⟩, rfl, payload, rfl, signature,
      rfl, -, hmatches, _, ⟨digest, hverify, -⟩, -⟩
    exact ⟨chain, payload, signature, hchain, hrpc, bytes, digest, hbytes, hmatches, hverify⟩
  · rintro ⟨chain, payload, signature, hchain, hrpc, bytes, digest, hbytes, hmatches, hverify⟩
    exact ⟨_, chain, hchain, bytes, hbytes, _, hrpc, _, rfl, payload, rfl, signature, rfl, (),
      hmatches, _, ⟨digest, hverify, rfl⟩, rfl⟩

theorem metadataBytes_eq_ok {metadata : Option ChainMetadata} {bytes : Bytes} :
    metadataBytes metadata = .ok bytes ↔ chainMetadataBytes metadata = some bytes := by
  cases metadata with
  | none => simp [metadataBytes, chainMetadataBytes]
  | some metadata => exact okOr_eq_ok

/-- The byte strings hashed into the digests of a request. -/
def digestInputs (request : ParseRequest) : Set Bytes :=
  {input | input = utf8Bytes request.unsignedPayload ∨
    chainMetadataBytes request.chainMetadata = some input}

/-- An accepted response was produced for a request with the same payload and
the same metadata. -/
theorem Accepts.same_inputs {backing : Backing} {pair : p256.Pair}
    {registry : TransactionConverterRegistry} {verifier : AttestationVerifier p256}
    {first second : ParseRequest} {payload : ParsedTransactionPayload} {signature : Signature}
    (haccepts : Accepts verifier second payload signature)
    (hanswered : Answered p256 backing first pair registry payload signature)
    (hfree : CollisionFreeOn (digestInputs first ∪ digestInputs second)) :
    first.unsignedPayload = second.unsignedPayload ∧
      first.chainMetadata = second.chainMetadata := by
  obtain ⟨secondBytes, -, hsecondBytes, hmatches, -⟩ := haccepts
  obtain ⟨firstBytes, hfirstBytes, hinput, hmetadata, -⟩ := hanswered.digests
  rw [metadataBytes_eq_ok] at hsecondBytes
  simp only [responseMatchesRequest, Bool.and_eq_true, beq_iff_eq, hinput, hmetadata] at hmatches
  have hdigest {left right : Bytes}
      (hencode : Hex.encode (sha256 left).1 = Hex.encode (sha256 right).1) :
      sha256 left = sha256 right :=
    Subtype.ext (Hex.encode_injective hencode)
  have hpayload := hfree.eq (.inl (.inl rfl)) (.inr (.inl rfl)) (hdigest hmatches.1)
  have hbytes := hfree.eq (.inl (.inr hfirstBytes)) (.inr (.inr hsecondBytes))
    (hdigest hmatches.2)
  rw [hbytes] at hfirstBytes
  exact ⟨utf8Bytes_injective hpayload, chainMetadataBytes_injective hfirstBytes hsecondBytes⟩

/-- A response the enclave signed for a request is accepted for every request
with the same payload and the same metadata. -/
theorem accepts_of_answered (hlawful : p256.Lawful) {backing : Backing} {pair : p256.Pair}
    {registry : TransactionConverterRegistry} {first second : ParseRequest}
    {payload : ParsedTransactionPayload} {signature : Signature}
    (hanswered : Answered p256 backing first pair registry payload signature)
    (hpayload : first.unsignedPayload = second.unsignedPayload)
    (hmetadata : first.chainMetadata = second.chainMetadata) :
    Accepts ⟨p256.publicKey pair⟩ second payload signature := by
  obtain ⟨bytes, hbytes, hinput, hmetadataDigest, -⟩ := hanswered.digests
  obtain ⟨signedBytes, signatureBytes, hsigned, hsign, rfl⟩ := hanswered.signed
  refine ⟨bytes, sha256 signedBytes, ?_, ?_, ?_⟩
  · rw [metadataBytes_eq_ok, ← hmetadata, hbytes]
  · simp [responseMatchesRequest, hinput, hmetadataDigest, hpayload]
  · obtain ⟨expected, hexpected, hverify⟩ := hlawful.sign_verify pair (sha256 signedBytes).1
    obtain rfl : signatureBytes = expected := Except.ok.inj (hsign.symm.trans hexpected)
    rw [AttestationVerifier.verify_eq_ok_iff]
    refine ⟨rfl, ⟨_, hlawful.hexDecode_encode _, hlawful.fromBytes_toBytes _⟩, signedBytes,
      signatureBytes, ?_, rfl, hlawful.hexDecode_encode _, hverify⟩
    rw [signingDigestBytes_eq, hsigned, okOr]

/-- Whenever a response signed for the first request is accepted for the
second, the two requests agree. -/
def Binds (p256 : P256) (backing : Backing) (pair : p256.Pair) (first second : ParseRequest) :
    Prop :=
  ∀ (registry : TransactionConverterRegistry) (verifier : AttestationVerifier p256)
    (payload : ParsedTransactionPayload) (signature : Signature),
    parseWithRegistry p256 backing first pair registry =
      .ok ⟨some ⟨some payload, some signature⟩⟩ →
    Accepts verifier second payload signature →
    first.chain = second.chain ∧ first.unsignedPayload = second.unsignedPayload ∧
      first.chainMetadata = second.chainMetadata

/-- A response for one chain passes as the answer for another. -/
theorem not_binds_of_answerable (hlawful : p256.Lawful) (backing : Backing) (pair : p256.Pair)
    {first second : ParseRequest} (hanswerable : Answerable first)
    (hpayload : first.unsignedPayload = second.unsignedPayload)
    (hmetadata : first.chainMetadata = second.chainMetadata)
    (hchain : first.chain ≠ second.chain) : ¬Binds p256 backing pair first second := by
  intro hbinds
  obtain ⟨registry, payload, signature, hanswered⟩ :=
    hanswerable.exists_answered hlawful backing pair
  have hparse := (parseWithRegistry_eq_ok_iff p256 backing).2 ⟨payload, signature, rfl, hanswered⟩
  have haccepts := accepts_of_answered hlawful hanswered hpayload hmetadata
  exact hchain (hbinds registry _ payload signature hparse haccepts).1

/-- The checks bind the response to the request exactly when the two requests
name the same chain, or already differ in what the digests cover, or the first
is one the enclave never answers. -/
theorem binds_iff (hlawful : p256.Lawful) (backing : Backing) (pair : p256.Pair)
    (first second : ParseRequest)
    (hfree : CollisionFreeOn (digestInputs first ∪ digestInputs second)) :
    Binds p256 backing pair first second ↔
      first.chain = second.chain ∨ first.unsignedPayload ≠ second.unsignedPayload ∨
        first.chainMetadata ≠ second.chainMetadata ∨ ¬Answerable first := by
  constructor
  · intro hbinds
    by_contra hcondition
    simp only [not_or, not_not] at hcondition
    obtain ⟨hchain, hpayload, hmetadata, hanswerable⟩ := hcondition
    exact not_binds_of_answerable hlawful backing pair hanswerable hpayload hmetadata hchain hbinds
  · intro hcondition registry verifier payload signature hparse haccepts
    obtain ⟨_, _, heq, hanswered⟩ := (parseWithRegistry_eq_ok_iff p256 backing).1 hparse
    cases heq
    obtain ⟨hpayload, hmetadata⟩ := haccepts.same_inputs hanswered hfree
    rcases hcondition with hchain | hdiffers | hdiffers | hnever
    · exact ⟨hchain, hpayload, hmetadata⟩
    · exact absurd hpayload hdiffers
    · exact absurd hmetadata hdiffers
    · exact absurd hanswered.answerable hnever

end Binding

/-! ## One transaction on two chains -/

theorem answerable_ethereum : Answerable (transactionRequest 2) :=
  ⟨by decide +kernel, ⟨.ethereum, rfl⟩, ⟨[], rfl⟩⟩

/-- A response for an Ethereum transaction passes as the answer for the same
text on Tron. -/
theorem binds_ethereum_tron_false :
    ¬Binds ephemeralKey .insertion () (transactionRequest 2) (transactionRequest 5) :=
  not_binds_of_answerable ephemeralKey_lawful .insertion () answerable_ethereum rfl rfl (by decide)

/-- The same request for a transaction in another encoding. -/
def rawRequest : ParseRequest := { transactionRequest 2 with unsignedPayload := "02c0" }

theorem collisionFreeOn_rawRequest :
    CollisionFreeOn (digestInputs (transactionRequest 2) ∪ digestInputs rawRequest) := by
  have hinputs (input : Bytes)
      (hinput : input ∈ digestInputs (transactionRequest 2) ∪ digestInputs rawRequest) :
      input ∈ [utf8Bytes unsignedTransaction, utf8Bytes "02c0", []] := by
    rcases hinput with (hpayload | hmetadata) | (hpayload | hmetadata)
    · exact hpayload ▸ by simp
    · exact Option.some.inj hmetadata ▸ by simp
    · exact hpayload ▸ by simp
    · exact Option.some.inj hmetadata ▸ by simp
  have hdistinct : ([utf8Bytes unsignedTransaction, utf8Bytes "02c0", []].map sha256).Nodup := by
    decide +kernel
  intro left hleft right hright heq
  exact List.inj_on_of_nodup_map hdistinct (hinputs left hleft) (hinputs right hright) heq

/-- Two requests for one chain are told apart as they should be. -/
theorem binds_iff_ethereum :
    Answerable (transactionRequest 2) ∧ transactionRequest 2 ≠ rawRequest ∧
      Binds ephemeralKey .insertion () (transactionRequest 2) rawRequest := by
  refine ⟨answerable_ethereum, fun hsame => ?_, ?_⟩
  · exact absurd (congrArg ParseRequest.unsignedPayload hsame) (by decide +kernel)
  · exact (binds_iff ephemeralKey_lawful .insertion () (transactionRequest 2) rawRequest
      collisionFreeOn_rawRequest).2 (.inl rfl)

end VisualSignParser.Gateway
