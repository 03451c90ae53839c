import VisualSignParser.Ethereum.Permit2

/-!
# Calls to the Universal Router

`execute` carries a string of command bytes and one input for each of them.
The visualizer shows one entry for each command it knows, decoded from the
input at the position of the command byte.
-/

namespace VisualSignParser.Ethereum.UniversalRouter

open VisualSignParser.Abi
open VisualSignParser.Framing
open VisualSignParser.VisualSign

/-! ## Commands -/

inductive Command where
  | v3SwapExactIn
  | v3SwapExactOut
  | permit2TransferFrom
  | permit2PermitBatch
  | sweep
  | transfer
  | payPortion
  | v2SwapExactIn
  | v2SwapExactOut
  | permit2Permit
  | wrapEth
  | unwrapWeth
  | permit2TransferFromBatch
  | balanceCheckErc20
  | v4Swap
  | v3PositionManagerPermit
  | v3PositionManagerCall
  | v4InitializePool
  | v4PositionManagerCall
  | executeSubPlan
  deriving DecidableEq

namespace Command

def tryFrom (byte : UInt8) : Option Command :=
  match byte.toNat with
  | 0x00 => some v3SwapExactIn
  | 0x01 => some v3SwapExactOut
  | 0x02 => some permit2TransferFrom
  | 0x03 => some permit2PermitBatch
  | 0x04 => some sweep
  | 0x05 => some transfer
  | 0x06 => some payPortion
  | 0x08 => some v2SwapExactIn
  | 0x09 => some v2SwapExactOut
  | 0x0a => some permit2Permit
  | 0x0b => some wrapEth
  | 0x0c => some unwrapWeth
  | 0x0d => some permit2TransferFromBatch
  | 0x0e => some balanceCheckErc20
  | 0x10 => some v4Swap
  | 0x11 => some v3PositionManagerPermit
  | 0x12 => some v3PositionManagerCall
  | 0x13 => some v4InitializePool
  | 0x14 => some v4PositionManagerCall
  | 0x21 => some executeSubPlan
  | _ => none

/-- The `Debug` text. -/
def debug : Command → String
  | v3SwapExactIn => "V3SwapExactIn"
  | v3SwapExactOut => "V3SwapExactOut"
  | permit2TransferFrom => "Permit2TransferFrom"
  | permit2PermitBatch => "Permit2PermitBatch"
  | sweep => "Sweep"
  | transfer => "Transfer"
  | payPortion => "PayPortion"
  | v2SwapExactIn => "V2SwapExactIn"
  | v2SwapExactOut => "V2SwapExactOut"
  | permit2Permit => "Permit2Permit"
  | wrapEth => "WrapEth"
  | unwrapWeth => "UnwrapWeth"
  | permit2TransferFromBatch => "Permit2TransferFromBatch"
  | balanceCheckErc20 => "BalanceCheckErc20"
  | v4Swap => "V4Swap"
  | v3PositionManagerPermit => "V3PositionManagerPermit"
  | v3PositionManagerCall => "V3PositionManagerCall"
  | v4InitializePool => "V4InitializePool"
  | v4PositionManagerCall => "V4PositionManagerCall"
  | executeSubPlan => "ExecuteSubPlan"

end Command

def selectCommand (entry : UInt8 × ℕ) : Option (ℕ × Command) :=
  (Command.tryFrom entry.1).map fun cmd => (entry.2, cmd)

/-- The known commands with the positions of their bytes. -/
def mapCommands (raw : Bytes) : List (ℕ × Command) := raw.zipIdx.filterMap selectCommand

/-! ## Inputs of the commands -/

/-- `UniswapConfig::weth_address`. -/
def wethAddress (chainId : ChainId) : Option Address :=
  match chainId.toNat with
  | 1 => some (addressOf 0xc02aaa39b223fe8d0a0e5c4f27ead9083c756cc2)
  | 10 => some (addressOf 0x4200000000000000000000000000000000000006)
  | 137 => some (addressOf 0x7ceb23fd6bc0add59e62ac25578270cff1b9f619)
  | 8453 => some (addressOf 0x4200000000000000000000000000000000000006)
  | 42161 => some (addressOf 0x82af49447d8a07e3bd95bd0d56f35241523fbab1)
  | _ => none

/-- `(recipient, amount, limit, path, payerIsUser)` of a V3 swap. -/
abbrev V3SwapParams := Address × BitVec 256 × BitVec 256 × Bytes × Bool

def V3SwapParams.read : Read V3SwapParams := do
  let recipient ← address
  let amount ← uint 256
  let limit ← uint 256
  let path ← bytes
  let payerIsUser ← bool
  pure (recipient, amount, limit, path, payerIsUser)

/-- `(recipient, amountIn, amountOutMinimum, path, payer)`. -/
abbrev V2SwapParams := Address × BitVec 256 × BitVec 256 × List Address × Address

def V2SwapParams.read : Read V2SwapParams := do
  let recipient ← address
  let amountIn ← uint 256
  let amountOutMinimum ← uint 256
  let path ← array address
  let payer ← address
  pure (recipient, amountIn, amountOutMinimum, path, payer)

/-- `(amountOut, amountInMaximum, path, recipient)`. -/
abbrev V2SwapOutParams := BitVec 256 × BitVec 256 × List Address × Address

def V2SwapOutParams.read : Read V2SwapOutParams := do
  let amountOut ← uint 256
  let amountInMaximum ← uint 256
  let path ← array address
  let recipient ← address
  pure (amountOut, amountInMaximum, path, recipient)

structure PayPortionParams where
  token : Address
  recipient : Address
  bips : BitVec 256

def PayPortionParams.read : Read PayPortionParams := do
  let token ← address
  let recipient ← address
  let bips ← uint 256
  pure ⟨token, recipient, bips⟩

structure UnwrapWethParams where
  recipient : Address
  amountMinimum : BitVec 256

def UnwrapWethParams.read : Read UnwrapWethParams := do
  let recipient ← address
  let amountMinimum ← uint 256
  pure ⟨recipient, amountMinimum⟩

structure WrapEthParams where
  recipient : Address
  amountMin : BitVec 256

def WrapEthParams.read : Read WrapEthParams := do
  let recipient ← address
  let amountMin ← uint 256
  pure ⟨recipient, amountMin⟩

structure SweepParams where
  token : Address
  recipient : Address
  amountMinimum : BitVec 256

def SweepParams.read : Read SweepParams := do
  let token ← address
  let recipient ← address
  let amountMinimum ← uint 256
  pure ⟨token, recipient, amountMinimum⟩

structure TransferParams where
  fromAddress : Address
  toAddress : Address
  amount : BitVec 160

def TransferParams.read : Read TransferParams := do
  let fromAddress ← address
  let toAddress ← address
  let amount ← uint 160
  pure ⟨fromAddress, toAddress, amount⟩

/-- First token, last token, leading fee, trailing fee and number of hops of a
packed path: twenty bytes for a token, three for the fee between two tokens. -/
def decodeV3Path (path : Bytes) : Option (Address × Address × ℕ × ℕ × ℕ) :=
  if hpath : path.length < 43 ∨ (path.length - 20) % 23 ≠ 0 then none
  else
    some (⟨path.take 20, by rw [List.length_take]; omega⟩,
      ⟨path.drop (path.length - 20), by rw [List.length_drop]; omega⟩,
      ofBeBytes ((path.drop 20).take 3),
      ofBeBytes ((path.drop (path.length - 23)).take 3),
      (path.length - 20) / 23)

/-! ## Fields of the commands -/

/-- The field for an input that the decoder of its command refuses. -/
def undecodedField (label : String) (input : Bytes) : SignablePayloadField :=
  .textV2 ⟨label ++ ": " ++ hexText input, label⟩ ⟨"Failed to decode parameters"⟩

def invalidPathField (label : String) (path : Bytes) : SignablePayloadField :=
  .textV2 ⟨label ++ ": Invalid path", label⟩
    ⟨"Path length: " ++ toString path.length ++ " bytes (expected 20 + N*23)"⟩

def emptyPathField (label : String) : SignablePayloadField :=
  .textV2 ⟨label ++ ": Empty path", label⟩ ⟨"Swap path is empty"⟩

section Rendering

variable (formats : Formats) (chainId : ChainId) (registry : Option ContractRegistry)

/-- How a V3 swap names its route. -/
def v3Route (hops : ℕ) (feePct : String) : String :=
  if hops = 1 then " via V3 (" ++ feePct ++ "% fee)"
  else " via V3 (" ++ toString hops ++ " hops, first fee " ++ feePct ++ "%)"

def decodeV3SwapExactIn (input : Bytes) : SignablePayloadField :=
  let label := "V3 Swap Exact In"
  match decodeSequence V3SwapParams.read input with
  | none => undecodedField label input
  | some (_, amountIn, amountOutMin, path, _) =>
      match decodeV3Path path with
      | none => invalidPathField label path
      | some (tokenIn, tokenOut, fee, _, hops) =>
          let tokenInSymbol := tokenSymbol formats registry chainId tokenIn
          let tokenOutSymbol := tokenSymbol formats registry chainId tokenOut
          let amountInText := tokenAmount formats registry chainId tokenIn amountIn.toNat
          let amountOutMinText :=
            tokenAmount formats registry chainId tokenOut amountOutMin.toNat
          let feePct := formats.quotientText fee 10000 none
          previewField label
            ("Swap " ++ amountInText ++ " " ++ tokenInSymbol ++ " for >=" ++ amountOutMinText ++
              " " ++ tokenOutSymbol ++ v3Route hops feePct)
            (some [textRow "Input Token" tokenInSymbol,
              textRow "Input Amount" amountInText,
              textRow "Output Token" tokenOutSymbol,
              textRow "Minimum Output" (">=" ++ amountOutMinText),
              textRow "Fee Tier" (feePct ++ "%")])

/-- The path of an exact-output swap runs from the output to the input, so its
trailing fee is the one paid first. -/
def decodeV3SwapExactOut (input : Bytes) : SignablePayloadField :=
  let label := "V3 Swap Exact Out"
  match decodeSequence V3SwapParams.read input with
  | none => undecodedField label input
  | some (_, amountOut, amountInMax, path, _) =>
      match decodeV3Path path with
      | none => invalidPathField label path
      | some (tokenOut, tokenIn, _, fee, hops) =>
          let tokenInSymbol := tokenSymbol formats registry chainId tokenIn
          let tokenOutSymbol := tokenSymbol formats registry chainId tokenOut
          let amountOutText := tokenAmount formats registry chainId tokenOut amountOut.toNat
          let amountInMaxText := tokenAmount formats registry chainId tokenIn amountInMax.toNat
          let feePct := formats.quotientText fee 10000 none
          previewField label
            ("Swap <=" ++ amountInMaxText ++ " " ++ tokenInSymbol ++ " for " ++ amountOutText ++
              " " ++ tokenOutSymbol ++ v3Route hops feePct)
            (some [textRow "Input Token" tokenInSymbol,
              textRow "Maximum Input" ("<=" ++ amountInMaxText),
              textRow "Output Token" tokenOutSymbol,
              textRow "Output Amount" amountOutText,
              textRow "Fee Tier" (feePct ++ "%")])

def decodeV2SwapExactIn (input : Bytes) : SignablePayloadField :=
  let label := "V2 Swap Exact In"
  match decodeSequence V2SwapParams.read input with
  | none => undecodedField label input
  | some (_, _, _, [], _) => emptyPathField label
  | some (_, amountIn, amountOutMinimum, tokenIn :: rest, _) =>
      let tokenOut := rest.getLastD tokenIn
      let tokenInSymbol := tokenSymbol formats registry chainId tokenIn
      let tokenOutSymbol := tokenSymbol formats registry chainId tokenOut
      let amountInText := tokenAmount formats registry chainId tokenIn amountIn.toNat
      let amountOutMinText :=
        tokenAmount formats registry chainId tokenOut amountOutMinimum.toNat
      let hops := toString rest.length
      previewField label
        ("Swap " ++ amountInText ++ " " ++ tokenInSymbol ++ " for >=" ++ amountOutMinText ++ " " ++
          tokenOutSymbol ++ " via V2 (" ++ hops ++ " hops)")
        (some [textRow "Input Token" tokenInSymbol,
          textRow "Input Amount" amountInText,
          textRow "Output Token" tokenOutSymbol,
          textRow "Minimum Output" (">=" ++ amountOutMinText),
          textRow "Hops" hops])

def decodeV2SwapExactOut (input : Bytes) : SignablePayloadField :=
  let label := "V2 Swap Exact Out"
  match decodeSequence V2SwapOutParams.read input with
  | none => undecodedField label input
  | some (_, _, [], _) => emptyPathField label
  | some (amountOut, amountInMaximum, tokenIn :: rest, _) =>
      let tokenOut := rest.getLastD tokenIn
      let tokenInSymbol := tokenSymbol formats registry chainId tokenIn
      let tokenOutSymbol := tokenSymbol formats registry chainId tokenOut
      let amountOutText := tokenAmount formats registry chainId tokenOut amountOut.toNat
      let amountInMaxText :=
        tokenAmount formats registry chainId tokenIn amountInMaximum.toNat
      let hops := toString rest.length
      previewField label
        ("Swap <=" ++ amountInMaxText ++ " " ++ tokenInSymbol ++ " for " ++ amountOutText ++ " " ++
          tokenOutSymbol ++ " via V2 (" ++ hops ++ " hops)")
        (some [textRow "Input Token" tokenInSymbol,
          textRow "Maximum Input" ("<=" ++ amountInMaxText),
          textRow "Output Token" tokenOutSymbol,
          textRow "Output Amount" amountOutText,
          textRow "Hops" hops])

/-- Two fractional digits from one percent on, four below. -/
def percentageText (bips : BitVec 256) : String :=
  if bips.toNat < 2 ^ 128 then
    formats.quotientText bips.toNat 100 (some (if 100 ≤ bips.toNat then 2 else 4)) ++ "%"
  else toString bips.toNat ++ " bips (raw)"

def decodePayPortion (input : Bytes) : SignablePayloadField :=
  let label := "Pay Portion"
  match decodeSequence PayPortionParams.read input with
  | none => undecodedField label input
  | some params =>
      let symbol := tokenSymbol formats registry chainId params.token
      let percentage := percentageText formats params.bips
      previewField label
        ("Pay " ++ percentage ++ " of " ++ symbol ++ " to " ++
          formats.displayAddress params.recipient)
        (some [textRow "Token" symbol,
          textRow "Percentage" percentage,
          textRow "Recipient" (formats.debugAddress params.recipient)])

/-- An amount in units of the chain's WETH, when the registry knows it. -/
def wethAmount (amount : ℕ) : Option String :=
  ((wethAddress chainId).bind fun weth => registry.bind fun known =>
    known.formatTokenAmountU256 formats chainId weth amount).map Prod.fst

def decodeUnwrapWeth (input : Bytes) : SignablePayloadField :=
  let label := "Unwrap WETH"
  match decodeSequence UnwrapWethParams.read input with
  | none => undecodedField label input
  | some params =>
      let amountMin := (wethAmount formats chainId registry params.amountMinimum.toNat).getD
        (toString params.amountMinimum.toNat)
      previewField label
        ("Unwrap >=" ++ amountMin ++ " WETH to ETH for " ++
          formats.displayAddress params.recipient)
        (some [plainField (.textV2 ⟨amountMin, "Minimum Amount"⟩ ⟨">=" ++ amountMin ++ " WETH"⟩),
          textRow "Recipient" (formats.debugAddress params.recipient)])

def decodeWrapEth (input : Bytes) : SignablePayloadField :=
  let label := "Wrap ETH"
  match decodeSequence WrapEthParams.read input with
  | none => undecodedField label input
  | some params =>
      let amountMin := (wethAmount formats chainId registry params.amountMin.toNat).getD
        (formats.formatEther params.amountMin.toNat)
      textField label ("Wrap >=" ++ amountMin ++ " ETH to WETH")

def decodeSweep (input : Bytes) : SignablePayloadField :=
  let label := "Sweep"
  match decodeSequence SweepParams.read input with
  | none => undecodedField label input
  | some params =>
      let symbol := tokenSymbol formats registry chainId params.token
      let amountMin :=
        tokenAmount formats registry chainId params.token params.amountMinimum.toNat
      textField label
        ("Sweep >=" ++ amountMin ++ " " ++ symbol ++ " to " ++
          formats.debugAddress params.recipient)

def decodeTransfer (input : Bytes) : SignablePayloadField :=
  let label := "Transfer"
  match decodeSequence TransferParams.read input with
  | none => undecodedField label input
  | some params =>
      textField label
        ("Transfer " ++ toString params.amount.toNat ++ " tokens from " ++
          formats.debugAddress params.fromAddress ++ " to " ++
          formats.debugAddress params.toAddress)

def decodePermit2TransferFrom (input : Bytes) : SignablePayloadField :=
  (Permit2.visualizeTxCommands formats chainId registry input).getD
    (undecodedField "Permit2 Transfer From" input)

/-- The slots of an input that is not a permit. -/
def showDecodeError (input : Bytes) (error : String) : SignablePayloadField :=
  let slots := (input.toChunks 32).zipIdx.map fun slot =>
    textRow ("Slot " ++ toString slot.2) (hexText slot.1)
  .previewLayout ⟨hexText input, "Permit2 Permit"⟩
    ⟨some ⟨"Permit2 Permit (Failed to Decode)"⟩,
      some ⟨"Error: " ++ error ++ ", Length: " ++ toString input.length ++ " bytes"⟩,
      none, some ⟨slots⟩⟩

def decodePermit2Permit (input : Bytes) : SignablePayloadField :=
  (Permit2.visualizeTxCommands formats chainId registry input).getD
    (showDecodeError input "Failed to decode parameters")

/-- The field of a command without a decoder. -/
def hexField (cmd : Command) (input : String) : SignablePayloadField :=
  .textV2 ⟨cmd.debug ++ " input: " ++ input, cmd.debug⟩ ⟨"Input: " ++ input⟩

/-- What is shown of one command and its input. -/
def commandField (cmd : Command) : Option Bytes → SignablePayloadField
  | none => hexField cmd "None"
  | some input => match cmd with
    | .v3SwapExactIn => decodeV3SwapExactIn formats chainId registry input
    | .v3SwapExactOut => decodeV3SwapExactOut formats chainId registry input
    | .v2SwapExactIn => decodeV2SwapExactIn formats chainId registry input
    | .v2SwapExactOut => decodeV2SwapExactOut formats chainId registry input
    | .payPortion => decodePayPortion formats chainId registry input
    | .wrapEth => decodeWrapEth formats chainId registry input
    | .unwrapWeth => decodeUnwrapWeth formats chainId registry input
    | .sweep => decodeSweep formats chainId registry input
    | .transfer => decodeTransfer formats input
    | .permit2TransferFrom => decodePermit2TransferFrom formats chainId registry input
    | .permit2Permit => decodePermit2Permit formats chainId registry input
    | cmd => hexField cmd (hexText input)

/-- Text fields become previews with the number of the entry as their label. -/
def wrapField (number : ℕ) : SignablePayloadField → SignablePayloadField
  | .textV2 common text =>
      .previewLayout ⟨common.fallbackText, "Command " ++ toString number⟩
        ⟨some ⟨common.label⟩, some text, none, none⟩
  | field => field

/-- The entry with the given number. -/
def commandEntry (number : ℕ) (cmd : Command) (input : Option Bytes) : AnnotatedPayloadField :=
  plainField (wrapField number (commandField formats chainId registry cmd input))

/-- The entries of the known commands, each with the input at the position of
its own byte. -/
def commandEntries (commands : Bytes) (inputs : List Bytes) : List AnnotatedPayloadField :=
  (mapCommands commands).zipIdx.map fun entry =>
    commandEntry formats chainId registry (entry.2 + 1) entry.1.2 inputs[entry.1.1]?

def deadlineEntry (deadline : Option String) : List AnnotatedPayloadField :=
  (deadline.map (textRow "Deadline")).toList

def visualizeCommands (commands : Bytes) (inputs : List Bytes) (deadline : Option String) :
    Option SignablePayloadField :=
  let names := (mapCommands commands).map fun entry => entry.2.debug
  let count := toString names.length ++ " commands"
  let ends := (deadline.map (", deadline " ++ ·)).getD ""
  some (.previewLayout
    ⟨"Uniswap Universal Router Execute: " ++ count ++ " ([" ++ ", ".intercalate names ++ "])" ++
      ends, "Universal Router"⟩
    ⟨some ⟨"Uniswap Universal Router Execute"⟩, some ⟨count ++ ends⟩, none,
      some ⟨commandEntries formats chainId registry commands inputs ++ deadlineEntry deadline⟩⟩)

/-! ## The two forms of `execute` -/

/-- `execute` with or without a deadline. -/
structure ExecuteCall where
  commands : Bytes
  inputs : List Bytes
  deadline : Option (BitVec 256)
  deriving DecidableEq

def ExecuteCall.selectorWithDeadline : Bytes := [0x35, 0x93, 0x56, 0x4c]

def ExecuteCall.readWithDeadline : Read ExecuteCall := do
  let commands ← bytes
  let inputs ← array bytes
  let deadline ← uint 256
  pure ⟨commands, inputs, some deadline⟩

def ExecuteCall.selector : Bytes := [0x24, 0x85, 0x6b, 0xc3]

def ExecuteCall.read : Read ExecuteCall := do
  let commands ← bytes
  let inputs ← array bytes
  pure ⟨commands, inputs, none⟩

/-- What the calldata decodes to, the form with a deadline first. -/
def ExecuteCall.abiDecode (input : Bytes) : Option ExecuteCall :=
  (decodeCall ExecuteCall.selectorWithDeadline ExecuteCall.readWithDeadline input).orElse
    fun _ => decodeCall ExecuteCall.selector ExecuteCall.read input

/-- A deadline has to fit a signed 64-bit time. -/
def ExecuteCall.deadlineFits (call : ExecuteCall) : Bool :=
  call.deadline.all fun deadline => deadline.toNat < 2 ^ 63

def ExecuteCall.deadlineText (call : ExecuteCall) : Option String :=
  call.deadline.bind fun deadline =>
    if 0 < deadline.toNat then formats.secondText deadline.toNat else none

def visualizeTxCommands (input : Bytes) : Option SignablePayloadField :=
  if input.length < 4 then none
  else match ExecuteCall.abiDecode input with
    | some call =>
        if call.deadlineFits then
          visualizeCommands formats chainId registry call.commands call.inputs
            (call.deadlineText formats)
        else none
    | none => none

end Rendering

/-! ## Positions of the entries -/

def isKnown (byte : UInt8) : Bool := (Command.tryFrom byte).isSome

/-- The number of known commands in front of a position. -/
def displayIndex (commands : Bytes) (index : ℕ) : ℕ := (commands.take index).countP isKnown

/-- The flag bit that lets a command revert is not masked before the lookup. -/
theorem isKnown_allowRevert (byte : UInt8) : isKnown (byte ||| 0x80) = false := by
  have hall : ∀ value : Fin 256, isKnown (UInt8.ofFin value ||| 0x80) = false := by decide +kernel
  exact hall byte.toFin

theorem getElem?_filterMap_countP {A B : Type} {select : A → Option B} {list : List A} {index : ℕ}
    {value : A} {selected : B} (hvalue : list[index]? = some value)
    (hselected : select value = some selected) :
    (list.filterMap select)[(list.take index).countP fun value => (select value).isSome]? =
      some selected := by
  induction list generalizing index with
  | nil => simp at hvalue
  | cons head tail ih =>
      cases index with
      | zero =>
          have hhead : head = value := by simpa using hvalue
          rw [hhead, List.filterMap_cons_some hselected]
          rfl
      | succ index =>
          have htail := ih (by simpa using hvalue)
          cases hselect : select head with
          | none => simpa [List.filterMap_cons_none hselect, hselect] using htail
          | some first => simpa [List.filterMap_cons_some hselect, hselect] using htail

theorem isSome_selectCommand (entry : UInt8 × ℕ) :
    (selectCommand entry).isSome = isKnown entry.1 :=
  Option.isSome_map ..

theorem length_mapCommands (commands : Bytes) :
    (mapCommands commands).length = commands.countP isKnown := by
  have hbytes : commands.zipIdx.map Prod.fst = commands := List.zipIdx_map_fst 0 commands
  rw [mapCommands, List.length_filterMap_eq_countP]
  simp only [isSome_selectCommand]
  conv_rhs => rw [← hbytes, List.countP_map]
  rfl

/-- A known byte is listed with its index behind the known bytes in front of it. -/
theorem getElem?_mapCommands {commands : Bytes} {index : ℕ} {byte : UInt8} {cmd : Command}
    (hbyte : commands[index]? = some byte) (hcmd : Command.tryFrom byte = some cmd) :
    (mapCommands commands)[displayIndex commands index]? = some (index, cmd) := by
  have hentry : commands.zipIdx[index]? = some (byte, index) := by
    simp [List.getElem?_zipIdx, hbyte]
  have hselected : selectCommand (byte, index) = some (index, cmd) := by
    rw [selectCommand, hcmd, Option.map_some]
  have hbytes : (commands.zipIdx.take index).map Prod.fst = commands.take index := by
    rw [List.map_take, List.zipIdx_map_fst]
  have hcount : displayIndex commands index =
      (commands.zipIdx.take index).countP fun entry => (selectCommand entry).isSome := by
    simp only [isSome_selectCommand]
    rw [displayIndex, ← hbytes, List.countP_map]
    rfl
  rw [hcount, mapCommands]
  exact getElem?_filterMap_countP hentry hselected

/-! ## What is shown of a call -/

/-- The rows of an expanded preview. -/
def expandedFields : SignablePayloadField → List AnnotatedPayloadField
  | .previewLayout _ layout => listedFields layout.expanded
  | _ => []

section Listing

variable (formats : Formats) (chainId : ChainId) (registry : Option ContractRegistry)

/-- One entry for each command byte, at its position. -/
def ShowsEveryCommand (input : Bytes) : Prop :=
  ∀ call, ExecuteCall.abiDecode input = some call →
    ∃ field entries, visualizeTxCommands formats chainId registry input = some field ∧
      expandedFields field = entries ++ deadlineEntry (call.deadlineText formats) ∧
      entries.length = call.commands.length ∧
      ∀ index byte cmd, call.commands[index]? = some byte → Command.tryFrom byte = some cmd →
        entries[index]? = some (commandEntry formats chainId registry (index + 1) cmd
          call.inputs[index]?)

/-- One entry for each known command byte, in their order, each with the input
at the position of its own byte. -/
structure ListsKnownCommands (call : ExecuteCall) (entries : List AnnotatedPayloadField) :
    Prop where
  length_eq : entries.length = call.commands.countP isKnown
  entry : ∀ index byte cmd, call.commands[index]? = some byte → Command.tryFrom byte = some cmd →
    entries[displayIndex call.commands index]? =
      some (commandEntry formats chainId registry (displayIndex call.commands index + 1) cmd
        call.inputs[index]?)

theorem listsKnownCommands_commandEntries (call : ExecuteCall) :
    ListsKnownCommands formats chainId registry call
      (commandEntries formats chainId registry call.commands call.inputs) where
  length_eq := by
    rw [commandEntries, List.length_map, List.length_zipIdx, length_mapCommands]
  entry index byte cmd hbyte hcmd := by
    rw [commandEntries, List.getElem?_map, List.getElem?_zipIdx, getElem?_mapCommands hbyte hcmd,
      Option.map_some, Option.map_some, Nat.zero_add]

theorem four_le_of_abiDecode {input : Bytes} {call : ExecuteCall}
    (hcall : ExecuteCall.abiDecode input = some call) : ¬ input.length < 4 := by
  rw [ExecuteCall.abiDecode] at hcall
  cases hdeadline : decodeCall ExecuteCall.selectorWithDeadline ExecuteCall.readWithDeadline
      input with
  | some call => exact not_lt.2 (selector_of_decodeCall hdeadline).length_le
  | none =>
      rw [hdeadline] at hcall
      exact not_lt.2 (selector_of_decodeCall hcall).length_le

/-- A call that decodes is shown with its commands if the deadline fits into a
timestamp. -/
theorem visualizeTxCommands_of_call {input : Bytes} {call : ExecuteCall}
    (hcall : ExecuteCall.abiDecode input = some call) :
    visualizeTxCommands formats chainId registry input =
      if call.deadlineFits then
        visualizeCommands formats chainId registry call.commands call.inputs
          (call.deadlineText formats)
      else none := by
  rw [visualizeTxCommands, if_neg (four_le_of_abiDecode hcall), hcall]

theorem expandedFields_of_call {input : Bytes} {call : ExecuteCall} {field : SignablePayloadField}
    (hcall : ExecuteCall.abiDecode input = some call)
    (hfield : visualizeTxCommands formats chainId registry input = some field) :
    expandedFields field =
      commandEntries formats chainId registry call.commands call.inputs ++
        deadlineEntry (call.deadlineText formats) := by
  rw [visualizeTxCommands_of_call formats chainId registry hcall] at hfield
  split_ifs at hfield
  rw [visualizeCommands, Option.some.injEq] at hfield
  rw [← hfield]
  rfl

end Listing

/-- A decoded call is shown unless its deadline is out of range, and what is
shown lists the known commands. -/
theorem visualizeTxCommands_lists_known (formats : Formats) (chainId : ChainId)
    (registry : Option ContractRegistry) (input : Bytes) (call : ExecuteCall)
    (hcall : ExecuteCall.abiDecode input = some call) :
    (call.deadlineFits = false → visualizeTxCommands formats chainId registry input = none) ∧
    (call.deadlineFits = true →
      ∃ field entries, visualizeTxCommands formats chainId registry input = some field ∧
        expandedFields field = entries ++ deadlineEntry (call.deadlineText formats) ∧
        ListsKnownCommands formats chainId registry call entries ∧
        (entries.length = call.commands.length ↔ ∀ byte ∈ call.commands, isKnown byte)) ∧
    ∀ byte, isKnown (byte ||| 0x80) = false := by
  have hshown := visualizeTxCommands_of_call formats chainId registry hcall
  refine ⟨fun hdeadline => ?_, fun hdeadline => ?_, isKnown_allowRevert⟩
  · rw [hshown, hdeadline]
    rfl
  · have hlists := listsKnownCommands_commandEntries formats chainId registry call
    rw [hdeadline, if_pos rfl] at hshown
    refine ⟨_, _, hshown, expandedFields_of_call formats chainId registry hcall hshown, hlists, ?_⟩
    rw [hlists.length_eq, List.countP_eq_length]

/-- A swap that may revert, then a transfer of 42 units. -/
def flaggedCalldata : Bytes :=
  ExecuteCall.selectorWithDeadline ++ beBytes 32 0x60 ++ beBytes 32 0xa0 ++ beBytes 32 0 ++
    beBytes 32 2 ++ ([0x80, 0x05] ++ List.replicate 30 0) ++
    beBytes 32 2 ++ beBytes 32 0x40 ++ beBytes 32 0x80 ++
    beBytes 32 4 ++ ([0xde, 0xad, 0xbe, 0xef] ++ List.replicate 28 0) ++
    beBytes 32 96 ++ (List.replicate 12 0 ++ List.replicate 20 0x11) ++
    (List.replicate 12 0 ++ List.replicate 20 0x22) ++ beBytes 32 42

def flaggedCall : ExecuteCall where
  commands := [0x80, 0x05]
  inputs := [[0xde, 0xad, 0xbe, 0xef],
    (List.replicate 12 0 ++ List.replicate 20 0x11) ++
      (List.replicate 12 0 ++ List.replicate 20 0x22) ++ beBytes 32 42]
  deadline := some 0

theorem abiDecode_flaggedCalldata : ExecuteCall.abiDecode flaggedCalldata = some flaggedCall := by
  decide +kernel

theorem visualizeTxCommands_lists_known_flagged :
    ∃ field entries,
      visualizeTxCommands plainFormats 1 none flaggedCalldata = some field ∧
        expandedFields field = entries ++ [] ∧
        ListsKnownCommands plainFormats 1 none flaggedCall entries := by
  obtain ⟨-, hshown, -⟩ := visualizeTxCommands_lists_known plainFormats 1 none flaggedCalldata
    flaggedCall abiDecode_flaggedCalldata
  obtain ⟨field, entries, hfield, hexpanded, hlists, -⟩ := hshown (by decide +kernel)
  exact ⟨field, entries, hfield, hexpanded, hlists⟩

/-- The swap is executed and not shown. -/
theorem showsEveryCommand_flagged_false :
    ¬ ShowsEveryCommand plainFormats 1 none flaggedCalldata := by
  intro hshows
  obtain ⟨field, entries, hfield, hexpanded, hlength, -⟩ :=
    hshows flaggedCall abiDecode_flaggedCalldata
  rw [expandedFields_of_call plainFormats 1 none abiDecode_flaggedCalldata hfield,
    List.append_cancel_right_eq] at hexpanded
  have hknown := (listsKnownCommands_commandEntries plainFormats 1 none flaggedCall).length_eq
  rw [hexpanded, hlength] at hknown
  exact absurd hknown (by decide +kernel)

/-! ## The kind of a Permit2 input -/

section Kinds

open VisualSignParser.Ethereum.Permit2 (IsApprove IsTransferFrom ShowsApproval ShowsPermit
  ShowsTransfer)

variable (formats : Formats) (chainId : ChainId) (registry : Option ContractRegistry)

/-- The input of a `PERMIT2_TRANSFER_FROM` is shown as a transfer or as undecoded. -/
structure TransferKept (input : Bytes) : Prop where
  shown : ShowsTransfer formats chainId registry
      (decodePermit2TransferFrom formats chainId registry input) ∨
    decodePermit2TransferFrom formats chainId registry input =
      undecodedField "Permit2 Transfer From" input
  not_permit : ¬ ShowsPermit formats chainId registry
    (decodePermit2TransferFrom formats chainId registry input)
  not_approval : ¬ ShowsApproval formats chainId registry
    (decodePermit2TransferFrom formats chainId registry input)

/-- The input of a `PERMIT2_PERMIT` is shown as a permit or as undecoded. -/
structure PermitKept (input : Bytes) : Prop where
  shown : ShowsPermit formats chainId registry
      (decodePermit2Permit formats chainId registry input) ∨
    decodePermit2Permit formats chainId registry input =
      showDecodeError input "Failed to decode parameters"
  not_transfer : ¬ ShowsTransfer formats chainId registry
    (decodePermit2Permit formats chainId registry input)
  not_approval : ¬ ShowsApproval formats chainId registry
    (decodePermit2Permit formats chainId registry input)

variable {formats chainId registry}

theorem transferKept_of_label {input : Bytes} {label : String}
    (hlabel : (decodePermit2TransferFrom formats chainId registry input).common.label = label)
    (hpermit : label ≠ "Permit2 Permit") (happrove : label ≠ "Permit2 Approve")
    (hshown : ShowsTransfer formats chainId registry
        (decodePermit2TransferFrom formats chainId registry input) ∨
      decodePermit2TransferFrom formats chainId registry input =
        undecodedField "Permit2 Transfer From" input) :
    TransferKept formats chainId registry input where
  shown := hshown
  not_permit hshows := hpermit (hlabel.symm.trans hshows.label_eq)
  not_approval hshows := happrove (hlabel.symm.trans hshows.label_eq)

theorem permitKept_of_label {input : Bytes}
    (hlabel : (decodePermit2Permit formats chainId registry input).common.label =
      "Permit2 Permit")
    (hshown : ShowsPermit formats chainId registry
        (decodePermit2Permit formats chainId registry input) ∨
      decodePermit2Permit formats chainId registry input =
        showDecodeError input "Failed to decode parameters") :
    PermitKept formats chainId registry input where
  shown := hshown
  not_transfer hshows := absurd (hlabel.symm.trans hshows.label_eq) (by decide)
  not_approval hshows := absurd (hlabel.symm.trans hshows.label_eq) (by decide)

/-- A transfer through the router is shown as one exactly if it is no approval and
too short for the fallback of permits. -/
theorem transferKept_iff (input : Bytes) :
    TransferKept formats chainId registry input ↔ ¬ IsApprove input ∧ input.length < 192 := by
  obtain ⟨happrove, field, hkind, hfield⟩ | ⟨happrove, hlength, field, hkind, hfield⟩ |
      ⟨happrove, hlength, -, field, hkind, hfield⟩ | ⟨happrove, hlength, -, hnone⟩ :=
    Permit2.visualizeTxCommands_kind formats chainId registry input
  · have hshown : decodePermit2TransferFrom formats chainId registry input = field := by
      rw [decodePermit2TransferFrom, hfield, Option.getD_some]
    exact iff_of_false (fun hkept => hkept.not_approval (hshown ▸ hkind))
      fun hshort => hshort.1 happrove
  · have hshown : decodePermit2TransferFrom formats chainId registry input = field := by
      rw [decodePermit2TransferFrom, hfield, Option.getD_some]
    exact iff_of_false (fun hkept => hkept.not_permit (hshown ▸ hkind))
      fun hshort => absurd hshort.2 (not_lt.2 hlength)
  · have hshown : decodePermit2TransferFrom formats chainId registry input = field := by
      rw [decodePermit2TransferFrom, hfield, Option.getD_some]
    refine iff_of_true ?_ ⟨happrove, hlength⟩
    exact transferKept_of_label (hshown ▸ hkind.label_eq) (by decide) (by decide)
      (.inl (hshown ▸ hkind))
  · have hshown : decodePermit2TransferFrom formats chainId registry input =
        undecodedField "Permit2 Transfer From" input := by
      rw [decodePermit2TransferFrom, hnone, Option.getD_none]
    have hlabel : (decodePermit2TransferFrom formats chainId registry input).common.label =
        "Permit2 Transfer From" := by
      rw [hshown]
      rfl
    refine iff_of_true ?_ ⟨happrove, hlength⟩
    exact transferKept_of_label hlabel (by decide) (by decide) (.inr hshown)

/-- A permit through the router is shown as one exactly if it is neither an approval
nor a transfer that is too short for the fallback. -/
theorem permitKept_iff (input : Bytes) :
    PermitKept formats chainId registry input ↔
      ¬ IsApprove input ∧ ¬ (IsTransferFrom input ∧ input.length < 192) := by
  obtain ⟨happrove, field, hkind, hfield⟩ | ⟨happrove, hlength, field, hkind, hfield⟩ |
      ⟨happrove, hlength, htransfer, field, hkind, hfield⟩ |
      ⟨happrove, hlength, htransfer, hnone⟩ :=
    Permit2.visualizeTxCommands_kind formats chainId registry input
  · have hshown : decodePermit2Permit formats chainId registry input = field := by
      rw [decodePermit2Permit, hfield, Option.getD_some]
    exact iff_of_false (fun hkept => hkept.not_approval (hshown ▸ hkind))
      fun hother => hother.1 happrove
  · have hshown : decodePermit2Permit formats chainId registry input = field := by
      rw [decodePermit2Permit, hfield, Option.getD_some]
    refine iff_of_true ?_ ⟨happrove, fun hshort => absurd hshort.2 (not_lt.2 hlength)⟩
    exact permitKept_of_label (hshown ▸ hkind.label_eq) (.inl (hshown ▸ hkind))
  · have hshown : decodePermit2Permit formats chainId registry input = field := by
      rw [decodePermit2Permit, hfield, Option.getD_some]
    exact iff_of_false (fun hkept => hkept.not_transfer (hshown ▸ hkind))
      fun hother => hother.2 ⟨htransfer, hlength⟩
  · have hshown : decodePermit2Permit formats chainId registry input =
        showDecodeError input "Failed to decode parameters" := by
      rw [decodePermit2Permit, hnone, Option.getD_none]
    refine iff_of_true ?_ ⟨happrove, fun hshort => htransfer hshort.1⟩
    exact permitKept_of_label (by rw [hshown]; rfl) (.inr hshown)

end Kinds

/-- The kind shown is that of the command exactly when the bytes do not pass for
another kind. -/
theorem permit2_kind_iff (formats : Formats) (chainId : ChainId)
    (registry : Option ContractRegistry) (input : Bytes) :
    (TransferKept formats chainId registry input ↔
      ¬ Permit2.IsApprove input ∧ input.length < 192) ∧
    (PermitKept formats chainId registry input ↔
      ¬ Permit2.IsApprove input ∧ ¬ (Permit2.IsTransferFrom input ∧ input.length < 192)) :=
  ⟨transferKept_iff input, permitKept_iff input⟩

/-- The three words of a transfer of 1000 units, followed by as many zero words. -/
def paddedTransferInput : Bytes :=
  (List.replicate 12 0 ++ List.replicate 20 0x11) ++
    (List.replicate 12 0 ++ List.replicate 20 0x22) ++ beBytes 32 1000 ++ List.replicate 96 0

/-- The padded input of a transfer is shown as a permit, and the calldata of a
transfer as a transfer under the command of a permit. -/
theorem permit2_kind_lost :
    (decodePermit2TransferFrom plainFormats 1 none paddedTransferInput).common.label =
        "Permit2 Permit" ∧
      ¬ TransferKept plainFormats 1 none paddedTransferInput ∧
      (decodePermit2Permit plainFormats 1 none Permit2.transferCalldata).common.label =
        "Permit2 Transfer" ∧
      ¬ PermitKept plainFormats 1 none Permit2.transferCalldata := by
  refine ⟨by decide +kernel, fun hkept => ?_, by decide +kernel, fun hkept => ?_⟩
  · have hshort := ((transferKept_iff paddedTransferInput).1 hkept).2
    exact absurd hshort (by decide +kernel)
  · have hother := ((permitKept_iff Permit2.transferCalldata).1 hkept).2
    exact hother (by decide +kernel)

end VisualSignParser.Ethereum.UniversalRouter
