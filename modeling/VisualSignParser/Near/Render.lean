import VisualSignParser.Near.Intents
import VisualSignParser.Near.TokenSignature
import VisualSignParser.VisualSign.FieldBuilders

/-!
# Intents as fields

Every text a sender chooses is filtered before it is shown.  Four kinds of
intents show amounts of tokens, and these are the ones that look at the metadata
of the request.  The default build shows a finding as a text field.
-/

namespace VisualSignParser.Near

open VisualSignParser.Framing
open VisualSignParser.Outcome
open VisualSignParser.VisualSign
open VisualSignParser.Ethereum (LayeredRegistry)

abbrev Fields := List SignablePayloadField

/-- Characters that cannot be shown become question marks. -/
def charsetSafe (text : String) : String :=
  String.ofList (text.toList.map fun char => if isDisplayChar char then char else '?')

/-- A text field alone. -/
def textField (label text : String) : SignablePayloadField :=
  (createTextField label text).signablePayloadField

def diagnostic (rule message : String) : SignablePayloadField :=
  textField "Warning" (rule ++ ": " ++ charsetSafe message)

def rejectedMetadataDiagnostics (rejected : List RejectedTokenMetadata) : Fields :=
  rejected.map fun report => diagnostic "rejected-token-metadata"
    ("token metadata supplied for " ++ report.assetId ++ " was rejected and not used: " ++
      report.reason)

/-- The field of an amount alone. -/
def amountField (label amount abbreviation : String) :
    Except VisualSignError SignablePayloadField :=
  (createAmountField label amount abbreviation).map AnnotatedPayloadField.signablePayloadField

def nearSymbol : String := "NEAR"
def nearDecimals : UInt8 := 24

def nearAmountField (label : String) (yocto : ℕ) : Except VisualSignError SignablePayloadField :=
  amountField label (formatUnits yocto nearDecimals) nearSymbol

/-- The number of an amount is always well formed, so only the symbol can be missing. -/
theorem amountField_formatUnits (label : String) (units : ℕ) (decimals : UInt8)
    {abbreviation : String} (habbreviation : abbreviation ≠ "") :
    amountField label (formatUnits units decimals) abbreviation =
      .ok (.amountV2 ⟨formatUnits units decimals ++ " " ++ abbreviation, label⟩
        ⟨formatUnits units decimals, some abbreviation⟩) := by
  have hnumber : validateNumberString (formatUnits units decimals) = .ok () :=
    validateNumberString_trimmedText units decimals.toNat
  rw [amountField, createAmountField_eq label hnumber habbreviation]
  rfl

theorem nearAmountField_isOk (label : String) (yocto : ℕ) :
    ∃ field, nearAmountField label yocto = .ok field :=
  ⟨_, amountField_formatUnits label yocto nearDecimals (by decide)⟩

def emptyValue : String := "(empty)\\"

def nonemptyFiltered (text : Option String) : Option String :=
  (text.map charsetSafe).filter fun filtered => filtered ≠ ""

def presentValue (text : String) : String :=
  if charsetSafe text = "" then emptyValue else charsetSafe text

/-- The field of a memo that is not empty. -/
def memoFields (memo : Option String) : Fields :=
  match nonemptyFiltered memo with
  | some memo => [textField "Memo" memo]
  | none => []

def stateInitField : SignablePayloadField := textField "State Init" "(not fully decoded)"

/-- The details of a withdrawal: memo, message and storage deposit. -/
def withdrawCallDetails (details : WithdrawDetails) : Except VisualSignError Fields := do
  let deposit ← match details.storageDeposit with
    | some deposit => do
        let field ← nearAmountField "Storage Deposit" deposit
        pure [field]
    | none => pure []
  pure (memoFields details.memo ++
    (match details.msg with
      | some msg => [textField "Message" (presentValue msg)]
      | none => []) ++ deposit)

theorem withdrawCallDetails_isOk (details : WithdrawDetails) :
    ∃ fields, withdrawCallDetails details = .ok fields := by
  rw [withdrawCallDetails]
  cases details.storageDeposit with
  | none => exact ⟨_, rfl⟩
  | some deposit =>
      obtain ⟨field, hfield⟩ := nearAmountField_isOk "Storage Deposit" deposit
      dsimp only
      rw [hfield]
      exact ⟨_, rfl⟩

section Tokens

variable (isNep141 : String → Bool) (registry : LayeredRegistry NearTokenRegistry)

/-- Resolution looks at the id as it came; only what is shown is filtered. -/
def tokenAmountField (label assetId : String) (raw : ℕ) : Except VisualSignError Fields :=
  match resolve isNep141 registry assetId with
  | some found => do
      let amount ← amountField label (formatUnits raw found.decimals) found.symbol
      match found.provenance.unverifiedCause with
      | some cause => pure [amount, diagnostic "unverified-token-metadata"
          ("symbol/decimals for " ++ charsetSafe assetId ++ ": " ++ cause)]
      | none => pure [amount]
  | none => pure [textField label
      (toString raw ++ " (unresolved " ++ charsetSafe assetId ++ ")")]

/-- One entry of a token diff. -/
def diffEntryFields (entry : String × ℤ) : Except VisualSignError Fields :=
  if entry.2 = 0 then
    .error (.validationError ("token_diff entry for " ++ charsetSafe entry.1 ++ " has a zero delta"))
  else tokenAmountField isNep141 registry (if entry.2 < 0 then "Send" else "Receive") entry.1
    entry.2.natAbs

def renderTokenDiff (tokenDiff : TokenDiff) : Except VisualSignError Fields := do
  require (tokenDiff.diff.entries.isEmpty = false)
    (.validationError "token_diff carries no entries")
  let amounts ← tokenDiff.diff.entries.mapM (diffEntryFields isNep141 registry)
  pure (amounts.flatten ++ memoFields tokenDiff.memo ++
    match tokenDiff.referral with
    | some referral => [textField "Referral" referral]
    | none => [])

def renderTransfer (transfer : Transfer) : Except VisualSignError Fields := do
  let amounts ← transfer.tokens.entries.mapM fun entry =>
    tokenAmountField isNep141 registry "Amount" entry.1 entry.2
  pure (textField "To" transfer.receiverId :: amounts.flatten ++ memoFields transfer.memo ++
    match transfer.notification with
    | some notification => textField "Message" (presentValue notification.msg) ::
        if notification.stateInit then [stateInitField] else []
    | none => [])

def renderFtWithdraw (withdraw : FtWithdraw) : Except VisualSignError Fields := do
  let amount ← tokenAmountField isNep141 registry "Amount" ("nep141:" ++ withdraw.token)
    withdraw.amount
  let details ← withdrawCallDetails withdraw.details
  pure (textField "Token" withdraw.token :: textField "To" withdraw.receiverId ::
    (amount ++ details))

def renderNftWithdraw (withdraw : NftWithdraw) : Except VisualSignError Fields := do
  let details ← withdrawCallDetails withdraw.details
  pure (textField "Token" withdraw.token :: textField "To" withdraw.receiverId ::
    textField "NFT Token Id" (charsetSafe withdraw.tokenId) :: details)

def renderMtWithdraw (withdraw : MtWithdraw) : Except VisualSignError Fields := do
  require (withdraw.tokenIds.length = withdraw.amounts.length) (.validationError
    ("mt_withdraw token_ids/amounts length mismatch: " ++ toString withdraw.tokenIds.length ++
      " token_ids vs " ++ toString withdraw.amounts.length ++ " amounts"))
  let amounts ← (withdraw.tokenIds.zip withdraw.amounts).mapM fun entry => do
    let amount ← tokenAmountField isNep141 registry "Amount"
      ("nep245:" ++ withdraw.token ++ ":" ++ entry.1) entry.2
    pure (textField "MT Token" (charsetSafe entry.1) :: amount)
  let details ← withdrawCallDetails withdraw.details
  pure (textField "Token" withdraw.token :: textField "To" withdraw.receiverId ::
    (amounts.flatten ++ details))

def renderNativeWithdraw (withdraw : NativeWithdraw) : Except VisualSignError Fields := do
  let amount ← nearAmountField "Amount" withdraw.amount
  pure [textField "To" withdraw.receiverId, amount]

def renderStorageDeposit (deposit : StorageDeposit) : Except VisualSignError Fields := do
  let amount ← nearAmountField "Amount" deposit.amount
  pure [textField "Contract" deposit.contractId,
    textField "For Account" deposit.depositForAccountId, amount]

def renderAuthCall (call : AuthCall) : Except VisualSignError Fields := do
  let deposit ← nearAmountField "Attached Deposit" call.attachedDeposit
  pure ([textField "Contract" call.contractId, textField "Message" (charsetSafe call.msg),
    deposit] ++ if call.stateInit then [stateInitField] else [])

def renderIntentBody : Intent → Except VisualSignError Fields
  | .tokenDiff diff => renderTokenDiff isNep141 registry diff
  | .transfer transfer => renderTransfer isNep141 registry transfer
  | .ftWithdraw withdraw => renderFtWithdraw isNep141 registry withdraw
  | .nftWithdraw withdraw => renderNftWithdraw withdraw
  | .mtWithdraw withdraw => renderMtWithdraw isNep141 registry withdraw
  | .nativeWithdraw withdraw => renderNativeWithdraw withdraw
  | .addPublicKey publicKey => pure [textField "Add Public Key" publicKey]
  | .removePublicKey publicKey => pure [textField "Remove Public Key" publicKey]
  | .setAuthByPredecessorId enabled =>
      pure [textField "Auth By Predecessor" (if enabled then "enabled" else "disabled")]
  | .storageDeposit deposit => renderStorageDeposit deposit
  | .authCall call => renderAuthCall call

def accountControlWarning : Intent → Fields
  | .addPublicKey _ => [diagnostic "account-control"
      "this key gains permanent authority over the account's entire intents balance, until it is explicitly removed"]
  | .removePublicKey _ => [diagnostic "account-control"
      "removing a key revokes its authority over the account; removing the only remaining key can lock the account out"]
  | .setAuthByPredecessorId _ => [diagnostic "account-control"
      "this changes which callers the account authorizes, independently of its keys"]
  | .authCall _ => [diagnostic "account-control"
      "this calls the named contract with the signer's own authority, and the attached deposit is not refunded on failure"]
  | _ => []

def renderIntent (intent : Intent) : Except VisualSignError Fields := do
  let fields ← renderIntentBody isNep141 registry intent
  pure (fields ++ accountControlWarning intent)

end Tokens

def intentConsumesTokenRegistry : Intent → Bool
  | .tokenDiff _ => true
  | .transfer _ => true
  | .ftWithdraw _ => true
  | .mtWithdraw _ => true
  | .nftWithdraw _ => false
  | .nativeWithdraw _ => false
  | .addPublicKey _ => false
  | .removePublicKey _ => false
  | .setAuthByPredecessorId _ => false
  | .storageDeposit _ => false
  | .authCall _ => false

/-- An intent that does not look at the metadata is always shown, by the same
fields for every registry. -/
theorem renderIntent_of_not_consumes (isNep141 : String → Bool) {intent : Intent}
    (hconsumes : intentConsumesTokenRegistry intent = false) :
    ∃ fields, ∀ registry, renderIntent isNep141 registry intent = .ok fields := by
  have hbody : ∃ fields, ∀ registry, renderIntentBody isNep141 registry intent = .ok fields := by
    cases intent with
    | tokenDiff diff => cases hconsumes
    | transfer transfer => cases hconsumes
    | ftWithdraw withdraw => cases hconsumes
    | mtWithdraw withdraw => cases hconsumes
    | nftWithdraw withdraw =>
        obtain ⟨details, hdetails⟩ := withdrawCallDetails_isOk withdraw.details
        exact ⟨_, fun registry => bind_eq_ok.2 ⟨details, hdetails, rfl⟩⟩
    | nativeWithdraw withdraw =>
        obtain ⟨amount, hamount⟩ := nearAmountField_isOk "Amount" withdraw.amount
        exact ⟨_, fun registry => bind_eq_ok.2 ⟨amount, hamount, rfl⟩⟩
    | storageDeposit deposit =>
        obtain ⟨amount, hamount⟩ := nearAmountField_isOk "Amount" deposit.amount
        exact ⟨_, fun registry => bind_eq_ok.2 ⟨amount, hamount, rfl⟩⟩
    | authCall call =>
        obtain ⟨deposit, hdeposit⟩ := nearAmountField_isOk "Attached Deposit" call.attachedDeposit
        exact ⟨_, fun registry => bind_eq_ok.2 ⟨deposit, hdeposit, rfl⟩⟩
    | addPublicKey publicKey => exact ⟨_, fun registry => rfl⟩
    | removePublicKey publicKey => exact ⟨_, fun registry => rfl⟩
    | setAuthByPredecessorId enabled => exact ⟨_, fun registry => rfl⟩
  obtain ⟨fields, hfields⟩ := hbody
  exact ⟨_, fun registry => bind_eq_ok.2 ⟨fields, hfields registry, rfl⟩⟩

def intentLabel : Intent → String
  | .tokenDiff _ => "Token Diff"
  | .transfer _ => "Transfer"
  | .ftWithdraw _ => "FT Withdraw"
  | .nftWithdraw _ => "NFT Withdraw"
  | .mtWithdraw _ => "MT Withdraw"
  | .nativeWithdraw _ => "Native Withdraw"
  | .addPublicKey _ => "Add Public Key"
  | .removePublicKey _ => "Remove Public Key"
  | .setAuthByPredecessorId _ => "Set Auth By Predecessor Id"
  | .storageDeposit _ => "Storage Deposit"
  | .authCall _ => "Auth Call"

def titleForIntents : List Intent → String
  | [single] => "NEAR Intent: " ++ intentLabel single
  | _ => "NEAR Intent"

def intentBoundaryField (intent : Intent) (index total : ℕ) : SignablePayloadField :=
  textField "Intent" (if total > 1 then
    toString (index + 1) ++ " of " ++ toString total ++ ": " ++ intentLabel intent
  else intentLabel intent)

def selfTransferWarning (payload : DefusePayload) : Intent → Fields
  | .transfer transfer =>
      if transfer.receiverId = payload.signerId then
        [diagnostic "self-transfer"
          "the recipient is the signer's own account; the contract rejects a transfer to self"]
      else []
  | _ => []

end VisualSignParser.Near
