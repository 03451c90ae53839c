import VisualSignParser.Near.Render

/-!
# Actions of a transaction

Every action is shown by fields of its own.  In a transaction of several actions
these stand behind a field that names the action.  Two token methods are shown
with their arguments; every other call shows its arguments as raw data.
-/

namespace VisualSignParser.Near

open VisualSignParser.Framing
open VisualSignParser.Outcome
open VisualSignParser.VisualSign

/-! ## Data -/

structure FunctionCallAction where
  methodName : String
  args : Bytes
  gas : UInt64
  deposit : ℕ

/-- An absent bound widens the permission. -/
structure FunctionCallPermission where
  allowance : Option ℕ
  receiverId : String
  methodNames : List String

structure GasKeyInfo where
  balance : ℕ
  numNonces : ℕ

inductive AccessKeyPermission where
  | functionCall (permission : FunctionCallPermission)
  | fullAccess
  | gasKeyFunctionCall (info : GasKeyInfo) (permission : FunctionCallPermission)
  | gasKeyFullAccess (info : GasKeyInfo)

/-- Actions with the parts of them that are shown. -/
inductive Action where
  | createAccount
  | deployContract
  | functionCall (call : FunctionCallAction)
  | transfer (deposit : ℕ)
  | stake (stake : ℕ) (publicKey : String)
  | addKey (publicKey : String) (permission : AccessKeyPermission)
  | deleteKey (publicKey : String)
  | deleteAccount (beneficiaryId : String)
  | delegate
  | deployGlobalContract
  | useGlobalContract
  | deterministicStateInit (deposit : ℕ)
  | transferToGasKey (publicKey : String) (deposit : ℕ)
  | withdrawFromGasKey (publicKey : String) (amount : ℕ)

def actionLabel : Action → String
  | .createAccount => "Create Account"
  | .deployContract => "Deploy Contract"
  | .functionCall _ => "Function Call"
  | .transfer _ => "Transfer"
  | .stake _ _ => "Stake"
  | .addKey _ _ => "Add Key"
  | .deleteKey _ => "Delete Key"
  | .deleteAccount _ => "Delete Account"
  | .delegate => "Delegate"
  | .deployGlobalContract => "Deploy Global Contract"
  | .useGlobalContract => "Use Global Contract"
  | .deterministicStateInit _ => "Deterministic State Init"
  | .transferToGasKey _ _ => "Transfer To Gas Key"
  | .withdrawFromGasKey _ _ => "Withdraw From Gas Key"

def isPartiallyDecoded : Action → Bool
  | .deployContract => true
  | .deployGlobalContract => true
  | .useGlobalContract => true
  | _ => false

def partiallyDecodedLabel (action : Action) : String := actionLabel action ++ " (not fully decoded)"

/-! ## Arguments of token methods -/

structure FtTransferArgs where
  receiverId : String
  amount : String
  memo : Option String
  msg : Option String

structure FtWithdrawArgs where
  token : String
  receiverId : String
  amount : String
  memo : Option String
  msg : Option String

/-- The strict JSON readers of the two kinds of arguments. -/
structure ArgsReaders where
  ftTransfer : Bytes → Option FtTransferArgs
  ftWithdraw : Bytes → Option FtWithdrawArgs

def addressField (label address : String) : SignablePayloadField :=
  (createAddressField label address none none none none).signablePayloadField

def numberField (label number unit : String) : Except VisualSignError SignablePayloadField :=
  (createNumberField label number unit).map AnnotatedPayloadField.signablePayloadField

/-- A note is dropped when it is empty as it came. -/
def noteFields (label : String) (note : Option String) : Fields :=
  match note.filter fun text => text ≠ "" with
  | some text => [textField label (charsetSafe text)]
  | none => []

def amountAndNotes (amount : String) (memo msg : Option String) :
    Except VisualSignError Fields := do
  let number ← numberField "Amount" amount "raw token units"
  pure (number :: noteFields "Memo" memo ++ noteFields "Message" msg)

section Actions

variable (readers : ArgsReaders)

def decodeKnownMethodArgs (method : String) (args : Bytes) :
    Except VisualSignError (Option Fields) :=
  if method = "ft_transfer" ∨ method = "ft_transfer_call" then
    match readers.ftTransfer args with
    | none => pure none
    | some parsed => do
        let rest ← amountAndNotes parsed.amount parsed.memo parsed.msg
        pure (some (addressField "Recipient" parsed.receiverId :: rest))
  else if method = "ft_withdraw" then
    match readers.ftWithdraw args with
    | none => pure none
    | some parsed => do
        let rest ← amountAndNotes parsed.amount parsed.memo parsed.msg
        pure (some (addressField "Token" parsed.token ::
          addressField "Recipient" parsed.receiverId :: rest))
  else pure none

/-! ## Permissions -/

def functionCallPermissionFields (permission : FunctionCallPermission) :
    Except VisualSignError Fields := do
  let allowance ← match permission.allowance with
    | some allowance => nearAmountField "Allowance" allowance
    | none => pure (textField "Allowance" "Unlimited")
  let methods := if permission.methodNames.isEmpty then "Any method"
    else "\n".intercalate (permission.methodNames.map charsetSafe)
  pure [addressField "Contract" (charsetSafe permission.receiverId),
    textField "Allowed Methods" methods, allowance]

def gasKeyInfoFields (info : GasKeyInfo) : Except VisualSignError Fields := do
  let balance ← nearAmountField "Gas Key Balance" info.balance
  let nonces ← numberField "Gas Key Nonces" (toString info.numNonces) ""
  pure [balance, nonces]

def permissionFields : AccessKeyPermission → Except VisualSignError Fields
  | .fullAccess => pure [textField "Permission" "Full Access"]
  | .functionCall permission => do
      let bounds ← functionCallPermissionFields permission
      pure (textField "Permission" "Function Call" :: bounds)
  | .gasKeyFullAccess info => do
      let gas ← gasKeyInfoFields info
      pure (textField "Permission" "Gas Key (Full Access)" :: gas)
  | .gasKeyFunctionCall info permission => do
      let gas ← gasKeyInfoFields info
      let bounds ← functionCallPermissionFields permission
      pure (textField "Permission" "Gas Key (Function Call)" :: gas ++ bounds)

/-! ## Actions as fields -/

def actionBoundaryField (action : Action) (totalActions : ℕ) : Fields :=
  if 1 < totalActions then [textField "Action" (actionLabel action)] else []

def formatTgas (gas : UInt64) : String := Decimal.trimmedText gas.toNat 12

def functionCallFields (call : FunctionCallAction) : Except VisualSignError Fields := do
  let known ← decodeKnownMethodArgs readers call.methodName call.args
  let args := match known with
    | some fields => fields
    | none => if call.args.isEmpty then []
        else [(createRawDataField call.args none).signablePayloadField]
  let deposit ← if 0 < call.deposit then do
      let field ← nearAmountField "Deposit" call.deposit
      pure [field]
    else pure []
  pure (textField "Method" (charsetSafe call.methodName) :: args ++ deposit ++
    [textField "Gas" (formatTgas call.gas ++ " Tgas")])

/-- A meta-transaction carries actions of its own and is refused. -/
def renderAction (action : Action) (totalActions : ℕ) : Except VisualSignError Fields :=
  let boundary := actionBoundaryField action totalActions
  match action with
  | .transfer deposit => do
      let amount ← nearAmountField "Amount" deposit
      pure (boundary ++ [amount])
  | .functionCall call => do
      let fields ← functionCallFields readers call
      pure (boundary ++ fields)
  | .createAccount => pure [textField "Action" (actionLabel action)]
  | .deleteAccount beneficiaryId =>
      pure (boundary ++ [addressField "Beneficiary" beneficiaryId])
  | .addKey publicKey permission => do
      let fields ← permissionFields permission
      pure (boundary ++ textField "Public Key" publicKey :: fields)
  | .deleteKey publicKey => pure (boundary ++ [textField "Public Key" publicKey])
  | .stake stake publicKey => do
      let amount ← nearAmountField "Stake" stake
      pure (boundary ++ [amount, textField "Validator Public Key" publicKey])
  | .transferToGasKey publicKey deposit => do
      let amount ← nearAmountField "Amount" deposit
      pure (boundary ++ [amount, textField "Gas Key Public Key" publicKey])
  | .withdrawFromGasKey publicKey amount => do
      let amount ← nearAmountField "Amount" amount
      pure (boundary ++ [amount, textField "Gas Key Public Key" publicKey])
  | .deterministicStateInit deposit => do
      let amount ← nearAmountField "Deposit" deposit
      pure (boundary ++ [amount, stateInitField])
  | .delegate => .error (.validationError
      "NEAR Delegate (meta-transaction) actions are not supported for signing display")
  | .deployContract => pure [textField "Action" (partiallyDecodedLabel action)]
  | .deployGlobalContract => pure [textField "Action" (partiallyDecodedLabel action)]
  | .useGlobalContract => pure [textField "Action" (partiallyDecodedLabel action)]

end Actions

def titleFor : List Action → String
  | [single] => if isPartiallyDecoded single then partiallyDecodedLabel single
      else actionLabel single
  | _ => "NEAR Transaction"

end VisualSignParser.Near
