import VisualSignParser.Codec.Abi
import VisualSignParser.Ethereum.Registry

/-!
# Built-in token visualizers

The calls of the three token standards that are decoded without an ABI from the
caller, and the raw field for everything else.
-/

namespace VisualSignParser.Ethereum

open VisualSignParser.Abi
open VisualSignParser.Framing
open VisualSignParser.VisualSign

/-- `FallbackVisualizer::visualize_hex`. -/
def visualizeHex (input : Bytes) : SignablePayloadField := textField "Input Data" (hexText input)

def addressRow (formats : Formats) (label : String) (address : Address) : AnnotatedPayloadField :=
  let text := formats.debugAddress address
  plainField (.addressV2 ⟨text, label⟩ ⟨text, "", none, "", none⟩)

def amountRow (amount : ℕ) : AnnotatedPayloadField :=
  plainField (.amountV2 ⟨toString amount, "Amount"⟩ ⟨toString amount, none⟩)

/-- The field of a call, when its arguments decode. -/
def decoded {Call : Type} (selector : Bytes) (read : Read Call)
    (render : Call → SignablePayloadField) (input : Bytes) : Option SignablePayloadField :=
  (decodeCall selector read input).map render

/-! ## ERC-20 -/

namespace Erc20

structure TransferCall where
  toAddress : Address
  amount : BitVec 256

def TransferCall.selector : Bytes := [0xa9, 0x05, 0x9c, 0xbb]

def TransferCall.read : Read TransferCall := do
  let toAddress ← address
  let amount ← uint 256
  pure ⟨toAddress, amount⟩

structure TransferFromCall where
  fromAddress : Address
  toAddress : Address
  amount : BitVec 256

def TransferFromCall.selector : Bytes := [0x23, 0xb8, 0x72, 0xdd]

def TransferFromCall.read : Read TransferFromCall := do
  let fromAddress ← address
  let toAddress ← address
  let amount ← uint 256
  pure ⟨fromAddress, toAddress, amount⟩

structure ApproveCall where
  spender : Address
  amount : BitVec 256

def ApproveCall.selector : Bytes := [0x09, 0x5e, 0xa7, 0xb3]

def ApproveCall.read : Read ApproveCall := do
  let spender ← address
  let amount ← uint 256
  pure ⟨spender, amount⟩

structure AllowanceCall where
  owner : Address
  spender : Address

def AllowanceCall.selector : Bytes := [0xdd, 0x62, 0xed, 0x3e]

def AllowanceCall.read : Read AllowanceCall := do
  let owner ← address
  let spender ← address
  pure ⟨owner, spender⟩

def balanceOfSelector : Bytes := [0x70, 0xa0, 0x82, 0x31]
def nameSelector : Bytes := [0x06, 0xfd, 0xde, 0x03]
def symbolSelector : Bytes := [0x95, 0xd8, 0x9b, 0x41]
def decimalsSelector : Bytes := [0x31, 0x3c, 0xe5, 0x67]
def totalSupplySelector : Bytes := [0x18, 0x16, 0x0d, 0xdd]

variable (formats : Formats)

def renderTransfer (call : TransferCall) : SignablePayloadField :=
  previewField "ERC20 Transfer"
    ("Transfer " ++ toString call.amount.toNat ++ " tokens to " ++
      formats.debugAddress call.toAddress)
    (some [addressRow formats "Recipient" call.toAddress, amountRow call.amount.toNat])

def renderTransferFrom (call : TransferFromCall) : SignablePayloadField :=
  previewField "ERC20 TransferFrom"
    ("Transfer " ++ toString call.amount.toNat ++ " tokens from " ++
      formats.debugAddress call.fromAddress ++ " to " ++ formats.debugAddress call.toAddress)
    (some [addressRow formats "Sender" call.fromAddress,
      addressRow formats "Recipient" call.toAddress, amountRow call.amount.toNat])

def renderApprove (call : ApproveCall) : SignablePayloadField :=
  previewField "ERC20 Approve"
    ("Approve " ++ formats.debugAddress call.spender ++ " to spend " ++
      toString call.amount.toNat ++ " tokens")
    (some [addressRow formats "Spender" call.spender, amountRow call.amount.toNat])

def renderBalanceOf (account : Address) : SignablePayloadField :=
  previewField "ERC20 BalanceOf" ("Query balance of " ++ formats.debugAddress account)
    (some [addressRow formats "Account" account])

def renderAllowance (call : AllowanceCall) : SignablePayloadField :=
  previewField "ERC20 Allowance"
    ("Query allowance for " ++ formats.debugAddress call.spender ++ " by " ++
      formats.debugAddress call.owner)
    (some [addressRow formats "Owner" call.owner, addressRow formats "Spender" call.spender])

/-- A query without arguments. -/
def renderQuery (label text : String) : SignablePayloadField := previewField label text none

def visualizeTxCommands (input : Bytes) : Option SignablePayloadField :=
  if input.length < 4 then none
  else if input.take 4 = TransferCall.selector then
    decoded TransferCall.selector TransferCall.read (renderTransfer formats) input
  else if input.take 4 = TransferFromCall.selector then
    decoded TransferFromCall.selector TransferFromCall.read (renderTransferFrom formats) input
  else if input.take 4 = ApproveCall.selector then
    decoded ApproveCall.selector ApproveCall.read (renderApprove formats) input
  else if input.take 4 = balanceOfSelector then
    decoded balanceOfSelector address (renderBalanceOf formats) input
  else if input.take 4 = AllowanceCall.selector then
    decoded AllowanceCall.selector AllowanceCall.read (renderAllowance formats) input
  else if input.take 4 = nameSelector then
    decoded nameSelector (pure ()) (fun _ => renderQuery "ERC20 Name" "Query token name") input
  else if input.take 4 = symbolSelector then
    decoded symbolSelector (pure ())
      (fun _ => renderQuery "ERC20 Symbol" "Query token symbol") input
  else if input.take 4 = decimalsSelector then
    decoded decimalsSelector (pure ())
      (fun _ => renderQuery "ERC20 Decimals" "Query token decimals") input
  else if input.take 4 = totalSupplySelector then
    decoded totalSupplySelector (pure ())
      (fun _ => renderQuery "ERC20 TotalSupply" "Query total token supply") input
  else none

end Erc20

/-! ## ERC-721 -/

/-- No ERC-721 call is decoded yet. -/
def Erc721.visualizeTxCommands (_input : Bytes) : Option SignablePayloadField := none

/-! ## ERC-1155 -/

namespace Erc1155

structure SafeTransferFromCall where
  fromAddress : Address
  toAddress : Address
  id : BitVec 256
  value : BitVec 256
  data : Bytes

def SafeTransferFromCall.selector : Bytes := [0xf2, 0x42, 0x43, 0x2a]

def SafeTransferFromCall.read : Read SafeTransferFromCall := do
  let fromAddress ← address
  let toAddress ← address
  let id ← uint 256
  let value ← uint 256
  let data ← bytes
  pure ⟨fromAddress, toAddress, id, value, data⟩

structure SafeBatchTransferFromCall where
  fromAddress : Address
  toAddress : Address
  ids : List (BitVec 256)
  values : List (BitVec 256)
  data : Bytes

def SafeBatchTransferFromCall.selector : Bytes := [0x2e, 0xb2, 0xc2, 0xd6]

def SafeBatchTransferFromCall.read : Read SafeBatchTransferFromCall := do
  let fromAddress ← address
  let toAddress ← address
  let ids ← array (uint 256)
  let values ← array (uint 256)
  let data ← bytes
  pure ⟨fromAddress, toAddress, ids, values, data⟩

variable (formats : Formats)

def renderSafeTransferFrom (call : SafeTransferFromCall) : SignablePayloadField :=
  let id := toString call.id.toNat
  let value := toString call.value.toNat
  previewField "ERC1155 Transfer"
    ("Transfer " ++ value ++ " of token " ++ id ++ " from " ++
      formats.debugAddress call.fromAddress ++ " to " ++ formats.debugAddress call.toAddress)
    (some [addressRow formats "From" call.fromAddress, addressRow formats "To" call.toAddress,
      textRow "Token ID" id, textRow "Amount" value])

/-- The number at a position, or a placeholder where the list is too short. -/
def numberAt (numbers : List (BitVec 256)) (index : ℕ) : String :=
  (numbers[index]?.map fun number => toString number.toNat).getD "(none)"

def renderSafeBatchTransferFrom (call : SafeBatchTransferFromCall) : SignablePayloadField :=
  let pairCount := max call.ids.length call.values.length
  let pairs := (List.range pairCount).map fun index =>
    textRow ("Token " ++ toString index)
      ("id " ++ numberAt call.ids index ++ " -> amount " ++ numberAt call.values index)
  previewField "ERC1155 Batch Transfer"
    ("Batch transfer " ++ toString pairCount ++ " token(s) from " ++
      formats.debugAddress call.fromAddress ++ " to " ++ formats.debugAddress call.toAddress)
    (some ([addressRow formats "From" call.fromAddress, addressRow formats "To" call.toAddress] ++
      pairs))

def visualizeTxCommands (input : Bytes) : Option SignablePayloadField :=
  if input.length < 4 then none
  else if input.take 4 = SafeTransferFromCall.selector then
    decoded SafeTransferFromCall.selector SafeTransferFromCall.read
      (renderSafeTransferFrom formats) input
  else if input.take 4 = SafeBatchTransferFromCall.selector then
    decoded SafeBatchTransferFromCall.selector SafeBatchTransferFromCall.read
      (renderSafeBatchTransferFrom formats) input
  else none

end Erc1155

/-! ## Known tokens -/

/-- The built-in visualizer of a standard, or the raw calldata where it has no
answer. -/
def visualizeToken (formats : Formats) (standard : ErcStandard) (input : Bytes) :
    SignablePayloadField :=
  let answer := match standard with
    | .erc20 => Erc20.visualizeTxCommands formats input
    | .erc721 => Erc721.visualizeTxCommands input
    | .erc1155 => Erc1155.visualizeTxCommands formats input
  answer.getD (visualizeHex input)

/-- Only the compiled-in layer decides whether the destination is a known token,
and only by the transaction's own chain id. -/
def tryKnownTokenDispatch (formats : Formats) (layered : LayeredRegistry ContractRegistry)
    (chainId : Option ChainId) (toAddress : Address) (input : Bytes) :
    Option (List SignablePayloadField) :=
  (layered.global.getTokenErcStandard chainId toAddress).map fun standard =>
    [visualizeToken formats standard input]

end VisualSignParser.Ethereum
