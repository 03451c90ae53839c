import VisualSignParser.Near.Envelope

/-!
# Refused payloads

An envelope whose accounts contradict the network leaves with a validation error, and
that kind of error is taken for the contradiction wherever a payload is shown.  Two kinds
of intents leave with one of their own.
-/

namespace VisualSignParser.Near

open VisualSignParser.Outcome
open VisualSignParser.VisualSign
open VisualSignParser.Ethereum (LayeredRegistry)

/-! ## Validation errors -/

def IsValidationError : VisualSignError → Prop
  | .validationError _ => True
  | _ => False

def IsNetworkMismatch : NearIntentsError → Prop
  | .networkMismatch _ => True
  | _ => False

/-- The one kind becomes the other, and no other kind does. -/
theorem isNetworkMismatch_renderError (error : VisualSignError) :
    IsNetworkMismatch (renderError error) ↔ IsValidationError error := by
  cases error <;> exact Iff.rfl

/-- After the conversion a network mismatch is reported for the validation errors
alone, so the two kinds of failure stand for each other. -/
theorem failsWith_renderError {A : Type} {result : Except VisualSignError A} :
    FailsWith IsNetworkMismatch (result.mapError renderError) ↔
      FailsWith IsValidationError result := by
  rw [failsWith_mapError]
  simp only [isNetworkMismatch_renderError]

/-- A check of the network in front of a step adds one way to fail: an account that
belongs to another network. -/
theorem failsWith_requireNetwork_bind {A : Type} {network : NearNetwork} {role accountId : String}
    {rest : Unit → Except VisualSignError A} :
    FailsWith IsValidationError (requireNetwork network role accountId >>= rest) ↔
      network.contradicts accountId = true ∨ FailsWith IsValidationError (rest ()) := by
  rw [requireNetwork, networkMismatch]
  cases network.contradicts accountId with
  | false => simp [ok_bind]
  | true => exact iff_of_true (failsWith_error.2 trivial) (.inl rfl)

/-! ## Amounts -/

section Amounts

variable {isNep141 : String → Bool} {registry : LayeredRegistry NearTokenRegistry}

variable (isNep141 registry) in
/-- If the metadata of the asset is known it has a symbol. -/
def Named (assetId : String) : Prop :=
  ∀ found, resolve isNep141 registry assetId = some found → found.symbol ≠ ""

theorem amountField_isOk_iff {label abbreviation : String} {units : ℕ} {decimals : UInt8} :
    (∃ field, amountField label (formatUnits units decimals) abbreviation = .ok field) ↔
      abbreviation ≠ "" := by
  constructor
  · rintro ⟨field, hfield⟩ rfl
    obtain ⟨annotated, hannotated, -⟩ := map_eq_ok.1 hfield
    obtain ⟨-, -, hannotated⟩ := bind_eq_ok.1 hannotated
    cases hannotated
  · exact fun hne => ⟨_, amountField_formatUnits label units decimals hne⟩

/-- A missing symbol is an error of another kind. -/
theorem not_failsWith_amountField {label abbreviation : String} {units : ℕ} {decimals : UInt8} :
    ¬FailsWith IsValidationError (amountField label (formatUnits units decimals) abbreviation) := by
  have hnumber : validateNumberString (formatUnits units decimals) = .ok () :=
    validateNumberString_trimmedText units decimals.toNat
  rw [amountField, failsWith_map, createAmountField, hnumber, ok_bind]
  split
  · exact fun hfails => failsWith_error.1 hfails
  · exact not_failsWith_ok _

theorem warned_isOk (assetId : String) (amount : SignablePayloadField) (cause : Option String) :
    ∃ fields : Fields, (match cause with
      | some cause => pure [amount, diagnostic "unverified-token-metadata"
          ("symbol/decimals for " ++ charsetSafe assetId ++ ": " ++ cause)]
      | none => pure [amount] : Except VisualSignError Fields) = .ok fields := by
  cases cause <;> exact ⟨_, rfl⟩

/-- An amount of a token can be shown exactly if the token has a name, since an
amount field refuses an empty abbreviation. -/
theorem tokenAmountField_isOk_iff {label assetId : String} {raw : ℕ} :
    (∃ fields, tokenAmountField isNep141 registry label assetId raw = .ok fields) ↔
      Named isNep141 registry assetId := by
  rw [tokenAmountField, Named]
  cases hfound : resolve isNep141 registry assetId with
  | none => exact iff_of_true ⟨_, rfl⟩ (fun found hcases => nomatch hcases)
  | some found =>
      simp only [Option.some.injEq, forall_eq']
      exact (bind_isOk_iff fun amount => warned_isOk assetId amount _).trans amountField_isOk_iff

/-- An amount of a token that cannot be shown is no validation error, so it is never
taken for a network mismatch. -/
theorem not_failsWith_tokenAmountField {label assetId : String} {raw : ℕ} :
    ¬FailsWith IsValidationError (tokenAmountField isNep141 registry label assetId raw) := by
  rw [tokenAmountField]
  cases hfound : resolve isNep141 registry assetId with
  | none => exact not_failsWith_ok _
  | some found =>
      intro hfails
      exact not_failsWith_amountField
        ((failsWith_bind_of_isOk fun amount => warned_isOk assetId amount _).1 hfails)

end Amounts

/-! ## Malformed intents -/

section Intents

variable (isNep141 : String → Bool) (registry : LayeredRegistry NearTokenRegistry)

/-- The assets whose metadata is looked up for an intent. -/
def Intent.assets : Intent → List String
  | .tokenDiff body => body.diff.entries.map Prod.fst
  | .transfer body => body.tokens.entries.map Prod.fst
  | .ftWithdraw body => ["nep141:" ++ body.token]
  | .mtWithdraw body => (body.tokenIds.zip body.amounts).map fun entry =>
      "nep245:" ++ body.token ++ ":" ++ entry.1
  | _ => []

/-- A token diff without entries, or with a change by zero before any amount that cannot be
shown, and a withdrawal whose tokens and amounts do not pair up. -/
def Intent.Malformed : Intent → Prop
  | .tokenDiff body => body.diff.entries = [] ∨
      Met (fun entry => Near.Named isNep141 registry entry.1) (fun entry => entry.2 = 0)
        body.diff.entries
  | .mtWithdraw body => body.tokenIds.length ≠ body.amounts.length
  | _ => False

/-- Every amount of the intent can be shown. -/
def Intent.Named (intent : Intent) : Prop :=
  ∀ assetId ∈ intent.assets, Near.Named isNep141 registry assetId

variable {isNep141 registry}

/-- The only validation error in an entry of a diff is an amount of zero. -/
theorem failsWith_diffEntryFields {entry : String × ℤ} :
    FailsWith IsValidationError (diffEntryFields isNep141 registry entry) ↔ entry.2 = 0 := by
  rw [diffEntryFields]
  split
  · next hzero => exact iff_of_true (failsWith_error.2 trivial) hzero
  · next hzero => exact iff_of_false not_failsWith_tokenAmountField hzero

/-- An entry of a diff can be shown exactly if its amount is not zero and its token
has a name. -/
theorem diffEntryFields_isOk_iff {entry : String × ℤ} :
    (∃ fields, diffEntryFields isNep141 registry entry = .ok fields) ↔
      ¬entry.2 = 0 ∧ Named isNep141 registry entry.1 := by
  rw [diffEntryFields]
  split
  · next hzero =>
      refine iff_of_false ?_ fun hboth => hboth.1 hzero
      rintro ⟨fields, hfields⟩
      cases hfields
  · next hzero => rw [tokenAmountField_isOk_iff, and_iff_right hzero]

/-- The entries fail with a validation error exactly if a zero is met behind entries
that can be shown, as the first failure ends the run. -/
theorem failsWith_diffEntries {entries : List (String × ℤ)} :
    FailsWith IsValidationError (entries.mapM (diffEntryFields isNep141 registry)) ↔
      Met (fun entry => Named isNep141 registry entry.1) (fun entry => entry.2 = 0) entries := by
  rw [failsWith_mapM]
  simp only [failsWith_diffEntryFields, diffEntryFields_isOk_iff]
  exact met_and_not

/-- A diff fails with a validation error exactly if it is malformed: it is empty, or
a zero is met in it. -/
theorem failsWith_renderTokenDiff {tokenDiff : TokenDiff} :
    FailsWith IsValidationError (renderTokenDiff isNep141 registry tokenDiff) ↔
      (Intent.tokenDiff tokenDiff).Malformed isNep141 registry := by
  rw [renderTokenDiff, failsWith_require_bind trivial, Intent.Malformed]
  refine or_congr (by simp) ?_
  exact failsWith_bind_pure.trans failsWith_diffEntries

/-- A diff can be shown exactly if it is not malformed and all of its tokens have
names. -/
theorem renderTokenDiff_isOk_iff {tokenDiff : TokenDiff} :
    (∃ fields, renderTokenDiff isNep141 registry tokenDiff = .ok fields) ↔
      ¬(Intent.tokenDiff tokenDiff).Malformed isNep141 registry ∧
        (Intent.tokenDiff tokenDiff).Named isNep141 registry := by
  rw [renderTokenDiff, require_bind_isOk_iff, Intent.Malformed, Intent.Named, Intent.assets,
    List.forall_mem_map, not_or, and_assoc]
  refine and_congr (by simp) ?_
  refine bind_pure_isOk_iff.trans ?_
  rw [mapM_isOk_iff]
  simp only [diffEntryFields_isOk_iff]
  constructor
  · intro hentries
    have hnamed : ∀ entry ∈ tokenDiff.diff.entries, Named isNep141 registry entry.1 :=
      fun entry hentry => (hentries entry hentry).2
    refine ⟨fun hmet => ?_, hnamed⟩
    obtain ⟨entry, hentry, hzero⟩ := (met_of_forall hnamed).1 hmet
    exact (hentries entry hentry).1 hzero
  · rintro ⟨hmet, hnamed⟩ entry hentry
    rw [met_of_forall hnamed] at hmet
    exact ⟨fun hzero => hmet ⟨entry, hentry, hzero⟩, hnamed entry hentry⟩

/-! ## Other intents -/

theorem not_failsWith_mapM {A : Type} {step : A → Except VisualSignError Fields} {list : List A}
    (hstep : ∀ value, ¬FailsWith IsValidationError (step value)) :
    ¬FailsWith IsValidationError (list.mapM step) := by
  rw [failsWith_mapM]
  intro hmet
  induction hmet with
  | here hstops => exact hstep _ hstops
  | later hpasses hrest ih => exact ih

theorem not_failsWith_renderTransfer {transfer : Transfer} :
    ¬FailsWith IsValidationError (renderTransfer isNep141 registry transfer) := by
  rw [renderTransfer, failsWith_bind_pure]
  exact not_failsWith_mapM fun entry => not_failsWith_tokenAmountField

theorem renderTransfer_isOk_iff {transfer : Transfer} :
    (∃ fields, renderTransfer isNep141 registry transfer = .ok fields) ↔
      (Intent.transfer transfer).Named isNep141 registry := by
  rw [renderTransfer, Intent.Named, Intent.assets, List.forall_mem_map,
    bind_pure_isOk_iff, mapM_isOk_iff]
  simp only [tokenAmountField_isOk_iff]

theorem withdrawTail_isOk (details : WithdrawDetails) (convert : Fields → Fields) :
    ∃ fields, (withdrawCallDetails details >>= fun shown => pure (convert shown)) = .ok fields := by
  obtain ⟨shown, hshown⟩ := withdrawCallDetails_isOk details
  exact ⟨_, bind_eq_ok.2 ⟨shown, hshown, rfl⟩⟩

theorem not_failsWith_renderFtWithdraw {withdraw : FtWithdraw} :
    ¬FailsWith IsValidationError (renderFtWithdraw isNep141 registry withdraw) := by
  rw [renderFtWithdraw, failsWith_bind_of_isOk fun amount => withdrawTail_isOk withdraw.details _]
  exact not_failsWith_tokenAmountField

theorem renderFtWithdraw_isOk_iff {withdraw : FtWithdraw} :
    (∃ fields, renderFtWithdraw isNep141 registry withdraw = .ok fields) ↔
      (Intent.ftWithdraw withdraw).Named isNep141 registry := by
  rw [renderFtWithdraw, bind_isOk_iff fun amount => withdrawTail_isOk withdraw.details _,
    tokenAmountField_isOk_iff, Intent.Named, Intent.assets, List.forall_mem_singleton]

/-- The amounts of a withdrawal of several tokens never leave with a validation error. -/
theorem failsWith_renderMtWithdraw {withdraw : MtWithdraw} :
    FailsWith IsValidationError (renderMtWithdraw isNep141 registry withdraw) ↔
      (Intent.mtWithdraw withdraw).Malformed isNep141 registry := by
  rw [renderMtWithdraw, failsWith_require_bind trivial, Intent.Malformed, or_iff_left]
  rw [failsWith_bind_of_isOk fun amounts => withdrawTail_isOk withdraw.details _]
  refine not_failsWith_mapM fun entry => ?_
  rw [failsWith_bind_pure]
  exact not_failsWith_tokenAmountField

/-- A withdrawal of several tokens can be shown exactly if it has one amount for
each token and the tokens have names. -/
theorem renderMtWithdraw_isOk_iff {withdraw : MtWithdraw} :
    (∃ fields, renderMtWithdraw isNep141 registry withdraw = .ok fields) ↔
      ¬(Intent.mtWithdraw withdraw).Malformed isNep141 registry ∧
        (Intent.mtWithdraw withdraw).Named isNep141 registry := by
  rw [renderMtWithdraw, require_bind_isOk_iff, Intent.Malformed, Intent.Named, Intent.assets,
    List.forall_mem_map, not_not, bind_isOk_iff fun amounts => withdrawTail_isOk withdraw.details _,
    mapM_isOk_iff]
  refine and_congr_right fun hlengths => ?_
  refine forall₂_congr fun entry hentry => ?_
  rw [bind_pure_isOk_iff, tokenAmountField_isOk_iff]

/-- An intent that looks no token up can always be shown, whatever the registry
holds. -/
theorem renderIntent_isOk_of_not_consumes {intent : Intent}
    (hconsumes : intentConsumesTokenRegistry intent = false) :
    ∃ fields, renderIntent isNep141 registry intent = .ok fields := by
  obtain ⟨fields, hfields⟩ := renderIntent_of_not_consumes isNep141 hconsumes
  exact ⟨fields, hfields registry⟩

/-- An intent leaves with a validation error exactly if it is malformed. -/
theorem failsWith_renderIntent {intent : Intent} :
    FailsWith IsValidationError (renderIntent isNep141 registry intent) ↔
      intent.Malformed isNep141 registry := by
  cases intent with
  | tokenDiff tokenDiff => exact failsWith_bind_pure.trans failsWith_renderTokenDiff
  | mtWithdraw withdraw => exact failsWith_bind_pure.trans failsWith_renderMtWithdraw
  | transfer transfer =>
      exact iff_of_false (mt failsWith_bind_pure.1 not_failsWith_renderTransfer) id
  | ftWithdraw withdraw =>
      exact iff_of_false (mt failsWith_bind_pure.1 not_failsWith_renderFtWithdraw) id
  | _ => exact iff_of_false (not_failsWith_of_isOk (renderIntent_isOk_of_not_consumes rfl)) id

/-- An intent can be shown exactly if it is well formed and the tokens in it have
names; by cases on the kind of the intent. -/
theorem renderIntent_isOk_iff {intent : Intent} :
    (∃ fields, renderIntent isNep141 registry intent = .ok fields) ↔
      ¬intent.Malformed isNep141 registry ∧ intent.Named isNep141 registry := by
  cases intent with
  | tokenDiff tokenDiff => exact bind_pure_isOk_iff.trans renderTokenDiff_isOk_iff
  | mtWithdraw withdraw => exact bind_pure_isOk_iff.trans renderMtWithdraw_isOk_iff
  | transfer transfer =>
      exact (bind_pure_isOk_iff.trans renderTransfer_isOk_iff).trans (and_iff_right id).symm
  | ftWithdraw withdraw =>
      exact (bind_pure_isOk_iff.trans renderFtWithdraw_isOk_iff).trans (and_iff_right id).symm
  | _ =>
      exact iff_of_true (renderIntent_isOk_of_not_consumes rfl) ⟨id, List.forall_mem_nil _⟩

end Intents

/-! ## Payloads -/

section Payloads

variable (clock : Clock) (isNep141 : String → Bool) (registry : LayeredRegistry NearTokenRegistry)
  (network : NearNetwork)

/-- A malformed intent is met before any amount that cannot be shown. -/
def DefusePayload.Malformed (payload : DefusePayload) : Prop :=
  Met (fun intent => intent.Named isNep141 registry) (fun intent =>
    intent.Malformed isNep141 registry) payload.intents

/-- Nothing in the payload is refused. -/
def DefusePayload.Accepted (payload : DefusePayload) : Prop :=
  payload.Agrees network ∧ ∀ intent ∈ payload.intents,
    ¬intent.Malformed isNep141 registry ∧ intent.Named isNep141 registry

variable {clock isNep141 registry network}

/-- The intents of a payload fail with a validation error exactly if a malformed one
is met behind intents that can be shown. -/
theorem failsWith_renderListedIntents {payload : DefusePayload} :
    FailsWith IsValidationError
        (payload.intents.zipIdx.mapM (renderListedIntent isNep141 registry payload)) ↔
      payload.Malformed isNep141 registry := by
  have hlisted (listed : Intent × ℕ) : FailsWith IsValidationError
      (renderListedIntent isNep141 registry payload listed) ↔
        listed.1.Malformed isNep141 registry :=
    failsWith_bind_pure.trans failsWith_renderIntent
  have hpasses (listed : Intent × ℕ) :
      (∃ fields, renderListedIntent isNep141 registry payload listed = .ok fields) ↔
        ¬listed.1.Malformed isNep141 registry ∧ listed.1.Named isNep141 registry :=
    bind_pure_isOk_iff.trans renderIntent_isOk_iff
  rw [failsWith_mapM]
  simp only [hlisted, hpasses]
  rw [met_and_not, DefusePayload.Malformed]
  conv_rhs => rw [← List.zipIdx_map_fst 0 payload.intents]
  exact met_map.symm

/-- A payload leaves with a validation error over its accounts or over an intent. -/
theorem failsWith_renderSingle {payload : DefusePayload} :
    FailsWith IsValidationError (renderSingle clock isNep141 registry network payload) ↔
      ¬payload.Agrees network ∨ payload.Malformed isNep141 registry := by
  rw [renderSingle, failsWith_requireNetwork_bind, failsWith_requireNetwork_bind,
    failsWith_bind_pure, failsWith_renderListedIntents, ← or_assoc, DefusePayload.Agrees,
    not_and_or, Bool.not_eq_false, Bool.not_eq_false]

/-- A payload is rendered exactly if it is accepted: its account belongs to the
network, and each of its intents can be shown. -/
theorem renderSingle_isOk_iff_accepted {payload : DefusePayload} :
    (∃ fields, renderSingle clock isNep141 registry network payload = .ok fields) ↔
      payload.Accepted isNep141 registry network := by
  have hlisted (listed : Intent × ℕ) :
      (∃ fields, renderListedIntent isNep141 registry payload listed = .ok fields) ↔
        ¬listed.1.Malformed isNep141 registry ∧ listed.1.Named isNep141 registry :=
    bind_pure_isOk_iff.trans renderIntent_isOk_iff
  rw [renderSingle_isOk_iff, DefusePayload.Accepted]
  simp only [hlisted]
  conv_rhs => rw [← List.zipIdx_map_fst 0 payload.intents]
  rw [List.forall_mem_map]

/-- A section of a batch leaves over the envelope in it. -/
theorem failsWith_signedSection {index total : ℕ} {signed : MultiPayload} :
    FailsWith IsValidationError
        (signedSection clock isNep141 registry network index total signed) ↔
      ∃ payload, signed.extracted = .ok payload ∧
        (¬payload.Agrees network ∨ payload.Malformed isNep141 registry) := by
  rw [signedSection, verifyAndExtract]
  dsimp only
  cases signed.extracted with
  | error error =>
      refine iff_of_false (not_failsWith_ok _) ?_
      rintro ⟨payload, hpayload, -⟩
      cases hpayload
  | ok payload =>
      simp only [Except.ok.injEq, exists_eq_left']
      exact failsWith_bind_pure.trans failsWith_renderSingle

/-- The accounts of the envelope in the payload contradict the network. -/
def MultiPayload.Contradicts (network : NearNetwork) (signed : MultiPayload) : Prop :=
  ∃ payload, signed.extracted = .ok payload ∧ ¬payload.Agrees network

variable (isNep141 registry) in
/-- The envelope in the payload agrees with the network and is malformed. -/
def MultiPayload.Malformed (network : NearNetwork) (signed : MultiPayload) : Prop :=
  ∃ payload, signed.extracted = .ok payload ∧ payload.Agrees network ∧
    payload.Malformed isNep141 registry

variable (isNep141 registry) in
/-- If there is an envelope in the payload, nothing in it is refused. -/
def MultiPayload.Accepted (network : NearNetwork) (signed : MultiPayload) : Prop :=
  ∀ payload, signed.extracted = .ok payload → payload.Accepted isNep141 registry network

theorem not_malformed_of_accepted {payload : DefusePayload}
    (haccepted : payload.Accepted isNep141 registry network) :
    ¬payload.Malformed isNep141 registry := by
  obtain ⟨-, hintents⟩ := haccepted
  have hnamed : ∀ intent ∈ payload.intents, intent.Named isNep141 registry :=
    fun intent hintent => (hintents intent hintent).2
  rw [DefusePayload.Malformed, met_of_forall hnamed]
  rintro ⟨intent, hintent, hmalformed⟩
  exact (hintents intent hintent).1 hmalformed

/-- A payload of another network is not accepted, and nothing of it is looked at
that could be malformed. -/
theorem not_accepted_of_contradicts {signed : MultiPayload} (hcontradicts : signed.Contradicts network) :
    ¬signed.Accepted isNep141 registry network ∧ ¬signed.Malformed isNep141 registry network := by
  obtain ⟨payload, hpayload, hagrees⟩ := hcontradicts
  refine ⟨fun haccepted => hagrees (haccepted payload hpayload).1, ?_⟩
  rintro ⟨other, hother, hotherAgrees, -⟩
  cases hpayload.symm.trans hother
  exact hagrees hotherAgrees

theorem not_accepted_of_malformed {signed : MultiPayload}
    (hmalformed : signed.Malformed isNep141 registry network) :
    ¬signed.Accepted isNep141 registry network := by
  obtain ⟨payload, hpayload, -, hmalformed⟩ := hmalformed
  exact fun haccepted => not_malformed_of_accepted (haccepted payload hpayload) hmalformed

/-- The section of a signed payload fails with a validation error exactly if the
payload contradicts the network or is malformed. -/
theorem failsWith_signedSection_iff {index total : ℕ} {signed : MultiPayload} :
    FailsWith IsValidationError
        (signedSection clock isNep141 registry network index total signed) ↔
      signed.Contradicts network ∨ signed.Malformed isNep141 registry network := by
  rw [failsWith_signedSection, MultiPayload.Contradicts, MultiPayload.Malformed, ← exists_or]
  refine exists_congr fun payload => ?_
  by_cases hagrees : payload.Agrees network <;> simp [hagrees]

/-- A batch leaves over the first payload that is refused. -/
theorem failsWith_batchSections {payloads : List MultiPayload} :
    FailsWith IsNetworkMismatch (batchSections clock isNep141 registry network payloads) ↔
      Met (fun signed => signed.Accepted isNep141 registry network)
        (fun signed => signed.Contradicts network ∨ signed.Malformed isNep141 registry network)
        payloads := by
  rw [batchSections, failsWith_mapM]
  simp only [failsWith_renderError, failsWith_signedSection_iff, mapError_eq_ok,
    signedSection_isOk_iff, renderSingle_isOk_iff_accepted]
  conv_rhs => rw [← List.zipIdx_map_fst 0 payloads]
  rw [met_map]
  rfl

end Payloads

/-! ## The kind of a refusal -/

/-- A contradiction reported as what it is, and nothing else reported as one: for an
envelope and for a payload of a batch unless it agrees with the network and is malformed,
and for a batch unless the first payload that is refused is such a one. -/
theorem mismatch_reported_iff (json : IntentsJson) (clock : Clock) (isNep141 : String → Bool)
    (registry : LayeredRegistry NearTokenRegistry) (network : NearNetwork) :
    (∀ payloadJson payload, json.envelope payloadJson = .ok payload →
      ((FailsWith IsNetworkMismatch
          (tryRenderSingleIntent json clock isNep141 registry network payloadJson) ↔
            ¬payload.Agrees network) ↔
        (payload.Agrees network → ¬payload.Malformed isNep141 registry))) ∧
    (∀ index total signed,
      ((FailsWith IsNetworkMismatch
          ((signedSection clock isNep141 registry network index total signed).mapError
            renderError) ↔ signed.Contradicts network) ↔
        ¬signed.Malformed isNep141 registry network)) ∧
    ∀ args payloads, json.signedBatch args = .ok payloads →
      ((FailsWith IsNetworkMismatch
          (tryDecodeExecuteIntents json clock isNep141 registry network args) ↔
            Met (fun signed => signed.Accepted isNep141 registry network)
              (fun signed => signed.Contradicts network) payloads) ↔
        ¬Met (fun signed => signed.Accepted isNep141 registry network)
          (fun signed => signed.Malformed isNep141 registry network) payloads) := by
  refine ⟨fun payloadJson payload hpayload => ?_, fun index total signed => ?_,
    fun args payloads hpayloads => ?_⟩
  · have hsingle : FailsWith IsNetworkMismatch
        (tryRenderSingleIntent json clock isNep141 registry network payloadJson) ↔
          ¬payload.Agrees network ∨ payload.Malformed isNep141 registry := by
      rw [tryRenderSingleIntent, hpayload]
      exact failsWith_bind_pure.trans (failsWith_renderError.trans failsWith_renderSingle)
    rw [hsingle]
    by_cases hagrees : payload.Agrees network <;> simp [hagrees]
  · rw [failsWith_renderError, failsWith_signedSection_iff]
    constructor
    · intro hsame hmalformed
      exact (not_accepted_of_contradicts (hsame.1 (.inr hmalformed))).2 hmalformed
    · exact fun hmalformed => or_iff_left hmalformed
  · have hbatch : FailsWith IsNetworkMismatch
        (tryDecodeExecuteIntents json clock isNep141 registry network args) ↔
          FailsWith IsNetworkMismatch (batchSections clock isNep141 registry network payloads) := by
      rw [tryDecodeExecuteIntents, decodeArgs, hpayloads]
      exact failsWith_bind_pure
    rw [hbatch, failsWith_batchSections, met_or]
    constructor
    · intro hsame hmalformed
      exact not_met_of_met (fun signed => not_accepted_of_contradicts)
        (fun signed => not_accepted_of_malformed) (hsame.1 (.inr hmalformed)) hmalformed
    · exact fun hmalformed => or_iff_left hmalformed

/-- An empty diff between accounts of the network is reported as a contradiction. -/
theorem empty_diff_reported :
    DefusePayload.Agrees .mainnet
        ⟨"alice.near", "intents.near", 0, ⟨List.replicate 32 0, rfl⟩,
          [.tokenDiff ⟨⟨[], List.Pairwise.nil⟩, none, none⟩]⟩ ∧
    (renderSingle ⟨fun _ => "2999-01-01T00:00:00+00:00", fun _ => false⟩ (fun _ => true)
        (requestLayers none) .mainnet
        ⟨"alice.near", "intents.near", 0, ⟨List.replicate 32 0, rfl⟩,
          [.tokenDiff ⟨⟨[], List.Pairwise.nil⟩, none, none⟩]⟩).mapError renderError =
      .error (.networkMismatch "token_diff carries no entries") := by
  exact ⟨⟨by decide, by decide⟩, by rfl⟩

end VisualSignParser.Near
