import VisualSignParser.App.Parse
import VisualSignParser.Codec.Base64
import VisualSignParser.Gateway.Attestation
import VisualSignParser.Host.Turnkey

/-!
# The HTTP server of the enclave

The server answers with four of the five signed fields: the legacy copy of the
payload text is dropped.  The enclave fills both copies with the same text, so a
client can still rebuild the signed bytes.
-/

namespace VisualSignParser.Http

open VisualSignParser.Framing
open VisualSignParser.Sha256
open VisualSignParser.Outcome
open VisualSignParser.Proto
open VisualSignParser.Host
open VisualSignParser.VisualSign
open VisualSignParser.Json
open VisualSignParser.App

/-- Why a body is not answered with a payload. -/
inductive Rejection where
  | response (failure : Failure)
  | panicked

/-- Error texts of the parser are not passed on. -/
def parseRejection : Abort → Rejection
  | .panicked => .panicked
  | .grpc error =>
      if error.code = .invalidArgument then .response (.badRequest "invalid request")
      else .response (.internalServerError "internal error")

def turnkeySignature (signature : Signature) : TurnkeySignature where
  message := signature.message
  publicKey := signature.publicKey
  scheme := ((SignatureScheme.tryFrom signature.scheme).getD .unspecified).asStrName
  signature := signature.signature

def turnkeyPayload (payload : ParsedTransactionPayload) : TurnkeyPayload where
  signablePayload := payload.parsedPayload
  metadataDigest := payload.metadataDigest
  inputPayloadDigest := payload.inputPayloadDigest
  intermediateOutput := Base64.encode payload.intermediateOutput

structure AppState (Trust : Type) (p256 : P256) (p256Sign : P256Sign) where
  ephemeralKey : p256.Pair
  bootProof : TurnkeyBootProof
  config : ParserConfig Trust p256Sign

section Server

-- `fromSlice` is the derived JSON reader of the request envelope.
variable (p256 : P256) (backing : Backing) (borshMessage : Bytes → String) {Trust : Type}
  {p256Sign : P256Sign} (createRegistry : Trust → TransactionConverterRegistry)
  (fromSlice : Bytes → Option TurnkeyRequestWrapper)

def protoRequest (request : TurnkeyRequest) (chain : Proto.Chain) : ParseRequest where
  unsignedPayload := request.unsignedPayload
  chain := chain.toInt32
  chainMetadata := request.chainMetadata.map ChainMetadataInput.toChainMetadata
  includeIntermediateOutput := request.includeIntermediateOutput
  paymentMarker := []

def answerParse (state : AppState Trust p256 p256Sign) (body : Bytes) :
    Except Rejection TurnkeyResponseWrapper := do
  let wrapper ← okOr (.response (.badRequest "invalid request body")) (fromSlice body)
  let chain ← okOr (.response (.badRequest "unknown chain"))
    (Proto.Chain.fromStrName wrapper.request.chain)
  let protoResp ← (parse p256 backing borshMessage createRegistry
    (protoRequest wrapper.request chain) state.ephemeralKey state.config).mapError parseRejection
  let parsedTx ← okOr
    (.response (.internalServerError "parser_app returned no parsed_transaction"))
    protoResp.parsedTransaction
  let payload ← okOr (.response (.internalServerError "parser_app returned no payload"))
    parsedTx.payload
  return successResponse state.bootProof (turnkeyPayload payload)
    (parsedTx.signature.map turnkeySignature)

/-- The status and the body of the response, or a panic. -/
def handleParse (state : AppState Trust p256 p256Sign) (body : Bytes) :
    Option (StatusCode × TurnkeyResponseWrapper) :=
  match answerParse p256 backing borshMessage createRegistry fromSlice state body with
  | .ok response => some (.ok, response)
  | .error (.response failure) =>
      some (failure.status, errorResponse failure.message state.bootProof)
  | .error .panicked => none

variable {p256 backing borshMessage createRegistry fromSlice}

theorem answerParse_of_handleParse {state : AppState Trust p256 p256Sign} {body : Bytes}
    {response : TurnkeyResponseWrapper}
    (hhandle : handleParse p256 backing borshMessage createRegistry fromSlice state body =
      some (.ok, response)) :
    answerParse p256 backing borshMessage createRegistry fromSlice state body = .ok response := by
  unfold handleParse at hhandle
  split at hhandle
  · rename_i answer hanswer
    rw [hanswer]
    simpa using hhandle
  · rename_i failure hanswer
    exact absurd (by simpa using congrArg (Option.map Prod.fst) hhandle) failure.isError
  · cases hhandle

/-- The payload a client rebuilds from the fields of a response. -/
def rebuildPayload (payload : TurnkeyPayload) : Option ParsedTransactionPayload := do
  let intermediateOutput ← Base64.decode payload.intermediateOutput
  return {
    parsedPayload := payload.signablePayload
    inputPayloadDigest := payload.inputPayloadDigest
    metadataDigest := payload.metadataDigest
    signablePayload := payload.signablePayload
    intermediateOutput := intermediateOutput }

theorem rebuildPayload_turnkeyPayload {payload : ParsedTransactionPayload}
    (hcopy : payload.signablePayload = payload.parsedPayload) :
    rebuildPayload (turnkeyPayload payload) = some payload := by
  rw [rebuildPayload, turnkeyPayload, Base64.decode_encode]
  cases payload
  simp_all

/-- A response with a payload carries the digest of the rebuilt payload. -/
theorem handleParse_message {state : AppState Trust p256 p256Sign} {body : Bytes}
    {response : TurnkeyResponseWrapper}
    (hhandle : handleParse p256 backing borshMessage createRegistry fromSlice state body =
      some (.ok, response)) :
    ∃ payload bytes signature,
      rebuildPayload response.response.parsedTransaction.payload = some payload ∧
      signingDigestBytes payload = some bytes ∧
      response.response.parsedTransaction.signature = some signature ∧
      signature.message = Hex.encode (sha256 bytes).1 := by
  have hanswer := answerParse_of_handleParse hhandle
  simp only [answerParse, bind_eq_ok, okOr_eq_ok, mapError_eq_ok, pure_eq_ok] at hanswer
  obtain ⟨wrapper, -, chain, -, protoResp, hparse, parsedTx, hparsedTx, payload, hpayload, rfl⟩ :=
    hanswer
  obtain ⟨answer, signature, rfl, hanswered⟩ := (parseWithRegistry_eq_ok_iff p256 backing).1
    (parse_eq_ok p256 backing borshMessage createRegistry hparse)
  cases hparsedTx
  cases hpayload
  obtain ⟨-, -, -, -, hcopy⟩ := hanswered.digests
  obtain ⟨bytes, signatureBytes, hbytes, -, rfl⟩ := hanswered.signed
  exact ⟨payload, bytes, _, rebuildPayload_turnkeyPayload hcopy, hbytes, rfl, rfl⟩

variable (p256 backing borshMessage createRegistry fromSlice)

/-- The signed digest: on payloads whose fields have encodings the signed bytes
determine all five fields, they are the four-field encoding if there is no
intermediate output, and the gateway computes the same bytes; and whenever the
server answers with a payload, a client rebuilds the signed digest from the
fields of the response. -/
theorem signedDigest_contract :
    (∀ left right, FieldsFit left → FieldsFit right →
      signingDigestBytes left = signingDigestBytes right → left = right) ∧
    (∀ payload, payload.intermediateOutput = [] →
      signingDigestBytes payload = payload.borshToVec) ∧
    (∀ payload, FieldsFit payload → ∃ bytes, signingDigestBytes payload = some bytes ∧
      Gateway.signingDigestBytes payload = .ok bytes) ∧
    ∀ (state : AppState Trust p256 p256Sign) (body : Bytes) (response : TurnkeyResponseWrapper),
      handleParse p256 backing borshMessage createRegistry fromSlice state body =
        some (.ok, response) →
      ∃ payload bytes signature,
        rebuildPayload response.response.parsedTransaction.payload = some payload ∧
        signingDigestBytes payload = some bytes ∧
        response.response.parsedTransaction.signature = some signature ∧
        signature.message = Hex.encode (sha256 bytes).1 := by
  refine ⟨?_, ?_, ?_, ?_⟩
  · intro left right hleft hright heq
    exact signingDigestBytes_injective hleft hright heq
  · intro payload hempty
    rw [App.signingDigestBytes, hempty]
    cases payload.borshToVec <;> rfl
  · intro payload hfits
    have hbytes := signingDigestBytes_eq hfits
    rw [borshToVec_eq hfits, Option.map_some] at hbytes
    exact ⟨_, hbytes, by rw [Gateway.signingDigestBytes_eq, hbytes, okOr]⟩
  · intro state body response hhandle
    exact handleParse_message hhandle

end Server

/-- A server that runs without payment and shows the network of a transaction. -/
def networkState : AppState Unit ephemeralKey gatewayKey where
  ephemeralKey := ()
  bootProof := ⟨"doc", "manifest", "envelope", "02ab", "visualsign-parser", "test"⟩
  config := ⟨(), .disabled⟩

def networkRegistry (_ : Unit) : TransactionConverterRegistry :=
  TransactionConverterRegistry.new.register .ethereum networkConverter

def networkBody : Bytes := utf8Bytes
  ("\x7b\"request\":\x7b\"unsigned_payload\":\"" ++ unsignedTransaction ++
    "\",\"chain\":\"CHAIN_ETHEREUM\"\x7d\x7d")

/-- What the envelope reader makes of the body above. -/
def networkEnvelope (body : Bytes) : Option TurnkeyRequestWrapper :=
  if body = networkBody then some ⟨⟨unsignedTransaction, "CHAIN_ETHEREUM", none, false⟩⟩ else none

def handleNetwork (body : Bytes) : Option (StatusCode × TurnkeyResponseWrapper) :=
  handleParse ephemeralKey .insertion (fun _ => "") networkRegistry networkEnvelope
    networkState body

theorem handleNetwork_ok : ∃ response, handleNetwork networkBody = some (.ok, response) := by
  have hanswerable : Answerable (transactionRequest 2) :=
    ⟨by decide, ⟨.ethereum, rfl⟩, ⟨_, rfl⟩⟩
  obtain ⟨payload, signature, hanswered⟩ := hanswerable.answered ephemeralKey_lawful .insertion ()
    (show Proto.Chain.tryFrom 2 = some .ethereum from rfl)
    (TransactionConverterRegistry.convertTransaction_register .new .ethereum networkConverter _ _)
  have hparse : parseWithRegistry ephemeralKey .insertion (transactionRequest 2) ()
      (networkRegistry ()) = .ok ⟨some ⟨some payload, some signature⟩⟩ :=
    (parseWithRegistry_eq_ok_iff ephemeralKey .insertion).2 ⟨payload, signature, rfl, hanswered⟩
  have hanswer : answerParse ephemeralKey .insertion (fun _ => "") networkRegistry networkEnvelope
      networkState networkBody = .ok (successResponse networkState.bootProof
        (turnkeyPayload payload) (some (turnkeySignature signature))) := by
    simp only [answerParse, bind_eq_ok, okOr_eq_ok, mapError_eq_ok, pure_eq_ok]
    have hrequest : protoRequest ⟨unsignedTransaction, "CHAIN_ETHEREUM", none, false⟩ .ethereum =
        transactionRequest 2 := rfl
    rw [← hrequest] at hparse
    exact ⟨_, if_pos rfl, .ethereum, rfl, _, (parse_disabled _ _ _ _ rfl).trans hparse, _, rfl, _, rfl, rfl⟩
  exact ⟨_, by rw [handleNetwork, handleParse, hanswer]⟩

/-- The server answers, and its answer carries the digest of the rebuilt
payload. -/
theorem signedDigest_contract_network :
    ∃ response, handleNetwork networkBody = some (.ok, response) ∧
      ∃ payload bytes signature,
        rebuildPayload response.response.parsedTransaction.payload = some payload ∧
        signingDigestBytes payload = some bytes ∧
        response.response.parsedTransaction.signature = some signature ∧
        signature.message = Hex.encode (sha256 bytes).1 := by
  obtain ⟨response, hhandle⟩ := handleNetwork_ok
  exact ⟨response, hhandle,
    (signedDigest_contract ephemeralKey .insertion (fun _ => "") networkRegistry
      networkEnvelope).2.2.2 networkState networkBody response hhandle⟩

end VisualSignParser.Http
