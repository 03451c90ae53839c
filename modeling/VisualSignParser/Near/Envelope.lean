import VisualSignParser.Near.Render

/-!
# Envelopes of intents

An envelope is shown before it is signed, alone, or signed and in a batch.  Both
ways go through `renderSingle`, which is where the accounts of the envelope have
to agree with the network.
-/

namespace VisualSignParser.Near

open VisualSignParser.Framing
open VisualSignParser.Outcome
open VisualSignParser.VisualSign
open VisualSignParser.Ethereum (LayeredRegistry)

/-! ## Signatures -/

inductive SignatureCheck where
  | valid (key : RecoveredKey)
  | invalid
  | malformedEncoding (reason : String)

/-- Only the two standards over secp256k1 carry a recovery id. -/
def invalidSecp256k1RecoveryIdReason (payload : MultiPayload) : Option String :=
  if payload.standard = .erc191 ∨ payload.standard = .tip191 then
    if payload.recoveryByte < 4 then none
    else some ("malformed signature encoding: recovery id " ++
      toString payload.recoveryByte.toNat ++ ", expected 0-3" ++
      if payload.recoveryByte = 27 ∨ payload.recoveryByte = 28
        then " (Ethereum v=27/28 must be normalized)" else "")
  else none

def verifyAndExtract (payload : MultiPayload) : SignatureCheck × Except String DefusePayload :=
  (match invalidSecp256k1RecoveryIdReason payload with
    | some reason => .malformedEncoding reason
    | none => match payload.verified with
      | some key => .valid key
      | none => .invalid,
    payload.extracted)

def standardName : SigningStandard → String
  | .nep413 => "nep413"
  | .erc191 => "erc191"
  | .tip191 => "tip191"
  | .rawEd25519 => "raw_ed25519"
  | .webAuthn => "webauthn"
  | .tonConnect => "ton_connect"
  | .sep53 => "sep53"

/-- A nonempty text of hexadecimal digits. -/
def isHexText (text : String) : Bool :=
  !text.toList.isEmpty && text.toList.all Hex.isHexDigit

def looksLikeImplicitAccount (signerId : String) : Bool :=
  (byteLength signerId == 64 && isHexText signerId) ||
    match Hex.splitHexMarker signerId with
    | some rest => byteLength rest == 40 && isHexText rest
    | none => false

/-- `str::to_ascii_lowercase`. -/
def asciiLowercase (text : String) : String :=
  String.ofList (text.toList.map fun char =>
    if 'A' ≤ char ∧ char ≤ 'Z' then Char.ofNat (char.toNat + 32) else char)

def renderSignature (standard : String) (check : SignatureCheck) (signerId : Option String) :
    Fields :=
  textField "Standard" standard :: match check with
    | .valid key =>
        match signerId.filter looksLikeImplicitAccount with
        | some id =>
            if asciiLowercase id = asciiLowercase key.impliedAccountId then
              [textField "Signature" ("valid for key " ++ key.publicKey ++
                " (derives signer_id " ++ id ++ ")")]
            else [textField "Signature" ("valid for key " ++ key.publicKey),
              diagnostic "account-binding" ("the signing key does not derive signer_id " ++ id ++
                " (it derives " ++ key.impliedAccountId ++
                "); the account may still have authorized this key on-chain, which this parser cannot check")]
        | none => [textField "Signature" ("valid for key " ++ key.publicKey ++
            " (key-to-account binding not verified)")]
    | .invalid => [diagnostic "signature" "signature verification failed"]
    | .malformedEncoding reason => [diagnostic "signature" reason]

/-! ## Envelopes -/

/-- What is read of an envelope's deadline: its text, and whether it has passed. -/
structure Clock where
  toRfc3339 : ℤ → String
  hasExpired : ℤ → Bool

section Envelopes

variable (clock : Clock) (isNep141 : String → Bool)
  (registry : LayeredRegistry NearTokenRegistry) (network : NearNetwork)

def renderEnvelope (payload : DefusePayload) : Fields :=
  [textField "Signer" payload.signerId,
    textField "Verifying Contract" payload.verifyingContract,
    textField "Deadline" (clock.toRfc3339 payload.deadline),
    textField "Nonce" ("0x" ++ Hex.encode payload.nonce.val)]

/-- Leave with a validation error when the account contradicts the network. -/
def requireNetwork (role accountId : String) : Except VisualSignError Unit :=
  match networkMismatch role accountId network with
  | some mismatch => .error (.validationError mismatch)
  | none => .ok ()

/-- The fields in front of the intents. -/
def envelopeFields (payload : DefusePayload) : Fields :=
  renderEnvelope clock payload ++
    (if clock.hasExpired payload.deadline then
      [diagnostic "deadline" "deadline has passed; the intents would be rejected"] else []) ++
    if payload.intents.isEmpty then [diagnostic "empty-intents"
      "this envelope carries no intents; signing it moves nothing but spends the nonce"] else []

/-- One turn of the loop over the intents. -/
def renderListedIntent (payload : DefusePayload) (listed : Intent × ℕ) :
    Except VisualSignError Fields := do
  let fields ← renderIntent isNep141 registry listed.1
  pure (intentBoundaryField listed.1 listed.2 payload.intents.length :: fields ++
    selfTransferWarning payload listed.1)

def renderSingle (payload : DefusePayload) : Except VisualSignError Fields := do
  requireNetwork network "signer" payload.signerId
  requireNetwork network "verifying contract" payload.verifyingContract
  let intents ← payload.intents.zipIdx.mapM (renderListedIntent isNep141 registry payload)
  pure (envelopeFields clock payload ++ intents.flatten)

/-- The number of a section counts from one. -/
def signedSection (index total : ℕ) (payload : MultiPayload) : Except VisualSignError Fields := do
  let checked := verifyAndExtract payload
  let signerId := match checked.2 with
    | .ok extracted => some extracted.signerId
    | .error _ => none
  let body ← match checked.2 with
    | .ok extracted => renderSingle clock isNep141 registry network extracted
    | .error error => pure [diagnostic "extraction"
        ("could not extract the envelope/intents: " ++ error)]
  pure (textField "Signed Intent" (toString index ++ " of " ++ toString total) ::
    renderSignature (standardName payload.standard) checked.1 signerId ++ body)

variable {clock isNep141 registry network}

theorem requireNetwork_eq_ok {role accountId : String} {result : Unit} :
    requireNetwork network role accountId = .ok result ↔ network.contradicts accountId = false := by
  rw [requireNetwork, ← @networkMismatch_eq_none role]
  cases networkMismatch role accountId network <;> simp

/-- Neither account of the envelope contradicts the network. -/
def DefusePayload.Agrees (network : NearNetwork) (payload : DefusePayload) : Prop :=
  network.contradicts payload.signerId = false ∧
    network.contradicts payload.verifyingContract = false

theorem renderSingle_isOk_iff {payload : DefusePayload} :
    (∃ fields, renderSingle clock isNep141 registry network payload = .ok fields) ↔
      payload.Agrees network ∧ ∀ listed ∈ payload.intents.zipIdx,
        ∃ fields, renderListedIntent isNep141 registry payload listed = .ok fields := by
  rw [← mapM_isOk_iff]
  simp only [renderSingle, bind_eq_ok, requireNetwork_eq_ok, pure_eq_ok]
  constructor
  · rintro ⟨_, ⟨⟩, hsigner, ⟨⟩, hcontract, intents, hintents, -⟩
    exact ⟨⟨hsigner, hcontract⟩, intents, hintents⟩
  · rintro ⟨⟨hsigner, hcontract⟩, intents, hintents⟩
    exact ⟨_, (), hsigner, (), hcontract, intents, hintents, rfl⟩

/-- No intent of the envelope looks at the metadata of the request. -/
def DefusePayload.Quiet (payload : DefusePayload) : Prop :=
  ∀ intent ∈ payload.intents, intentConsumesTokenRegistry intent = false

variable (isNep141) in
theorem renderListedIntent_of_quiet {payload : DefusePayload} (hquiet : payload.Quiet)
    {listed : Intent × ℕ} (hlisted : listed ∈ payload.intents.zipIdx) :
    ∃ fields, ∀ registry, renderListedIntent isNep141 registry payload listed = .ok fields := by
  obtain ⟨fields, hfields⟩ := renderIntent_of_not_consumes isNep141
    (hquiet listed.1 (List.fst_mem_of_mem_zipIdx hlisted))
  exact ⟨_, fun registry => bind_eq_ok.2 ⟨fields, hfields registry, rfl⟩⟩

theorem renderSingle_of_quiet {payload : DefusePayload} (hquiet : payload.Quiet)
    (left right : LayeredRegistry NearTokenRegistry) :
    renderSingle clock isNep141 left network payload =
      renderSingle clock isNep141 right network payload := by
  have hintents : payload.intents.zipIdx.mapM (renderListedIntent isNep141 left payload) =
      payload.intents.zipIdx.mapM (renderListedIntent isNep141 right payload) := by
    apply mapM_congr
    intro listed hlisted
    obtain ⟨fields, hfields⟩ := renderListedIntent_of_quiet isNep141 hquiet hlisted
    rw [hfields left, hfields right]
  rw [renderSingle, renderSingle, hintents]

/-- A section fails only over the envelope it shows. -/
theorem signedSection_isOk_iff {index total : ℕ} {payload : MultiPayload} :
    (∃ fields, signedSection clock isNep141 registry network index total payload = .ok fields) ↔
      ∀ extracted, payload.extracted = .ok extracted →
        ∃ fields, renderSingle clock isNep141 registry network extracted = .ok fields := by
  rw [signedSection, verifyAndExtract]
  cases hextracted : payload.extracted with
  | error error =>
      constructor
      · intro _ extracted hcases
        cases hcases
      · intro _
        exact ⟨_, rfl⟩
  | ok extracted =>
      simp only [Except.ok.injEq, forall_eq']
      constructor
      · rintro ⟨fields, hfields⟩
        obtain ⟨body, hbody, -⟩ := bind_eq_ok.1 hfields
        exact ⟨body, hbody⟩
      · rintro ⟨body, hbody⟩
        exact ⟨_, bind_eq_ok.2 ⟨body, hbody, rfl⟩⟩

theorem signedSection_of_quiet {index total : ℕ} {payload : MultiPayload}
    (hquiet : ∀ extracted, payload.extracted = .ok extracted → extracted.Quiet)
    (left right : LayeredRegistry NearTokenRegistry) :
    signedSection clock isNep141 left network index total payload =
      signedSection clock isNep141 right network index total payload := by
  rw [signedSection, signedSection, verifyAndExtract]
  dsimp only
  cases hextracted : payload.extracted with
  | error error => rfl
  | ok extracted =>
      dsimp only
      rw [renderSingle_of_quiet (hquiet extracted hextracted) left right]

end Envelopes

/-! ## Batches and single envelopes -/

inductive NearIntentsError where
  | inputNotJson (message : String)
  | render (message : String)
  | networkMismatch (message : String)
  deriving DecidableEq

def NearIntentsError.display : NearIntentsError → String
  | inputNotJson message => "input was not valid JSON: " ++ message
  | render message => "Failed to render intents: " ++ message
  | networkMismatch message => message

def renderError : VisualSignError → NearIntentsError
  | .validationError mismatch => .networkMismatch mismatch
  | other => .render other.display

/-- The protocol's own JSON: a signed batch, and the envelope that is signed. -/
structure IntentsJson where
  signedBatch : Bytes → Except String (List MultiPayload)
  envelope : Bytes → Except String DefusePayload

section Intents

variable (json : IntentsJson) (clock : Clock) (isNep141 : String → Bool)
  (registry : LayeredRegistry NearTokenRegistry) (network : NearNetwork)

def decodeArgs (args : Bytes) : Except NearIntentsError (List MultiPayload) :=
  (json.signedBatch args).mapError .inputNotJson

/-- The loop over the batch. -/
def batchSections (payloads : List MultiPayload) : Except NearIntentsError (List Fields) :=
  payloads.zipIdx.mapM fun listed =>
    (signedSection clock isNep141 registry network (listed.2 + 1) payloads.length
      listed.1).mapError renderError

def tryDecodeExecuteIntents (args : Bytes) : Except NearIntentsError Fields := do
  let payloads ← decodeArgs json args
  let sections ← batchSections clock isNep141 registry network payloads
  pure sections.flatten

def singleIntentConsumesTokenRegistry (payloadJson : Bytes) : Bool :=
  match json.envelope payloadJson with
  | .ok payload => payload.intents.any intentConsumesTokenRegistry
  | .error _ => false

structure RenderedEnvelope where
  title : String
  fields : Fields

def tryRenderSingleIntent (payloadJson : Bytes) : Except NearIntentsError RenderedEnvelope := do
  let payload ← (json.envelope payloadJson).mapError .inputNotJson
  let fields ← (renderSingle clock isNep141 registry network payload).mapError renderError
  pure ⟨titleForIntents payload.intents, fields⟩

/-- The envelopes in a batch: those of its payloads that can be extracted. -/
def batchEnvelopes (args : Bytes) : List DefusePayload :=
  match json.signedBatch args with
  | .ok payloads => payloads.filterMap fun payload => payload.extracted.toOption
  | .error _ => []

variable {json clock isNep141 registry network}

theorem mem_batchEnvelopes {args : Bytes} {payloads : List MultiPayload}
    (hpayloads : json.signedBatch args = .ok payloads) {envelope : DefusePayload} :
    envelope ∈ batchEnvelopes json args ↔ ∃ payload ∈ payloads, payload.extracted = .ok envelope := by
  have hextracted : ∀ payload : MultiPayload,
      payload.extracted.toOption = some envelope ↔ payload.extracted = .ok envelope := by
    intro payload
    cases payload.extracted with
    | error error => simp [Except.toOption]
    | ok found => simp [Except.toOption]
  rw [batchEnvelopes, hpayloads]
  simp only [List.mem_filterMap, hextracted]

theorem batchSections_isOk_iff {payloads : List MultiPayload} :
    (∃ sections, batchSections clock isNep141 registry network payloads = .ok sections) ↔
      ∀ payload ∈ payloads, ∀ extracted, payload.extracted = .ok extracted →
        ∃ fields, renderSingle clock isNep141 registry network extracted = .ok fields := by
  simp only [batchSections, mapM_isOk_iff, mapError_eq_ok, signedSection_isOk_iff]
  constructor
  · intro hlisted payload hpayload
    obtain ⟨index, hindex⟩ := List.mem_iff_getElem?.1 hpayload
    exact hlisted (payload, index) (List.mem_zipIdx_iff_getElem?.2 hindex)
  · intro hpayloads listed hlisted
    exact hpayloads listed.1 (List.fst_mem_of_mem_zipIdx hlisted)

/-- A batch is shown when its arguments decode and every envelope is shown. -/
theorem tryDecodeExecuteIntents_isOk_iff {args : Bytes} :
    (∃ fields, tryDecodeExecuteIntents json clock isNep141 registry network args = .ok fields) ↔
      (∃ payloads, json.signedBatch args = .ok payloads) ∧
        ∀ envelope ∈ batchEnvelopes json args,
          ∃ fields, renderSingle clock isNep141 registry network envelope = .ok fields := by
  constructor
  · rintro ⟨fields, hfields⟩
    obtain ⟨payloads, hpayloads, hfields⟩ := bind_eq_ok.1 hfields
    obtain ⟨sections, hsections, -⟩ := bind_eq_ok.1 hfields
    have hpayloads := mapError_eq_ok.1 hpayloads
    refine ⟨⟨payloads, hpayloads⟩, ?_⟩
    intro envelope henvelope
    obtain ⟨payload, hpayload, hextracted⟩ := (mem_batchEnvelopes hpayloads).1 henvelope
    exact batchSections_isOk_iff.1 ⟨sections, hsections⟩ payload hpayload envelope hextracted
  · rintro ⟨⟨payloads, hpayloads⟩, henvelopes⟩
    have hsections : ∃ sections, batchSections clock isNep141 registry network payloads =
        .ok sections := by
      apply batchSections_isOk_iff.2
      intro payload hpayload envelope hextracted
      exact henvelopes envelope ((mem_batchEnvelopes hpayloads).2 ⟨payload, hpayload, hextracted⟩)
    obtain ⟨sections, hsections⟩ := hsections
    exact ⟨_, bind_eq_ok.2 ⟨payloads, mapError_eq_ok.2 hpayloads,
      bind_eq_ok.2 ⟨sections, hsections, rfl⟩⟩⟩

theorem tryDecodeExecuteIntents_of_quiet {args : Bytes}
    (hquiet : ∀ envelope ∈ batchEnvelopes json args, envelope.Quiet)
    (left right : LayeredRegistry NearTokenRegistry) :
    tryDecodeExecuteIntents json clock isNep141 left network args =
      tryDecodeExecuteIntents json clock isNep141 right network args := by
  rw [tryDecodeExecuteIntents, tryDecodeExecuteIntents]
  apply bind_congr_ok
  intro payloads hread
  have hpayloads := mapError_eq_ok.1 hread
  have hsections : batchSections clock isNep141 left network payloads =
      batchSections clock isNep141 right network payloads := by
    apply mapM_congr
    intro listed hlisted
    rw [signedSection_of_quiet _ left right]
    intro envelope hextracted
    exact hquiet envelope ((mem_batchEnvelopes hpayloads).2
      ⟨listed.1, List.fst_mem_of_mem_zipIdx hlisted, hextracted⟩)
  rw [hsections]

end Intents

end VisualSignParser.Near
