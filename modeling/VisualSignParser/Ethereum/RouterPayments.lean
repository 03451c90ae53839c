import VisualSignParser.Codec.Decimal
import VisualSignParser.Ethereum.UniversalRouter

/-!
# Who a router command pays

Eight commands move funds to a recipient.  What is shown of one is compared with
the payment its input asks for: whether two inputs that look alike pay the same
address, and the same amounts.
-/

namespace VisualSignParser.Ethereum.UniversalRouter

open VisualSignParser.Abi
open VisualSignParser.Decimal
open VisualSignParser.Framing
open VisualSignParser.OrderedMap
open VisualSignParser.VisualSign

/-! ## Payments -/

/-- The recipient of a command and the amounts it names, a portion counted as
an amount. -/
structure Payment where
  recipient : Address
  amounts : List (BitVec 256)
  deriving DecidableEq

/-- A V3 swap whose path is well formed. -/
def v3Payment (input : Bytes) : Option Payment :=
  (decodeSequence V3SwapParams.read input).bind fun (recipient, amount, limit, path, _) =>
    (decodeV3Path path).map fun _ => ⟨recipient, [amount, limit]⟩

/-- The payment of an input that the decoder of its command accepts. -/
def payment (cmd : Command) (input : Bytes) : Option Payment :=
  match cmd with
  | .v3SwapExactIn => v3Payment input
  | .v3SwapExactOut => v3Payment input
  | .v2SwapExactIn =>
      (decodeSequence V2SwapParams.read input).bind fun (recipient, amountIn, amountOut, path, _) =>
        path.head?.map fun _ => ⟨recipient, [amountIn, amountOut]⟩
  | .v2SwapExactOut =>
      (decodeSequence V2SwapOutParams.read input).bind fun (amountOut, amountIn, path, recipient) =>
        path.head?.map fun _ => ⟨recipient, [amountOut, amountIn]⟩
  | .payPortion => (decodeSequence PayPortionParams.read input).map fun params =>
      ⟨params.recipient, [params.bips]⟩
  | .wrapEth => (decodeSequence WrapEthParams.read input).map fun params =>
      ⟨params.recipient, [params.amountMin]⟩
  | .unwrapWeth => (decodeSequence UnwrapWethParams.read input).map fun params =>
      ⟨params.recipient, [params.amountMinimum]⟩
  | .sweep => (decodeSequence SweepParams.read input).map fun params =>
      ⟨params.recipient, [params.amountMinimum]⟩
  | _ => none

/-- The commands that pay a recipient. -/
def payingCommands : List Command :=
  [.v3SwapExactIn, .v3SwapExactOut, .v2SwapExactIn, .v2SwapExactOut, .payPortion, .wrapEth,
    .unwrapWeth, .sweep]

section Determined

variable (formats : Formats) (chainId : ChainId) (registry : Option ContractRegistry)

/-- Inputs of the command that are shown alike agree on what is read off their
payments. -/
def Determines {A : Type} (part : Payment → A) (cmd : Command) : Prop :=
  ∀ left right leftPayment rightPayment, payment cmd left = some leftPayment →
    payment cmd right = some rightPayment →
    commandField formats chainId registry cmd (some left) =
      commandField formats chainId registry cmd (some right) →
    part leftPayment = part rightPayment

/-- Whether the recipient is among what is shown of the command. -/
def namesRecipient : Command → Bool
  | .payPortion => true
  | .unwrapWeth => true
  | .sweep => true
  | _ => false

/-- Two tokens of the chain share a symbol, one without decimals and one with a
single decimal. -/
def SymbolClash : Prop :=
  ∃ known, registry = some known ∧ ∃ whole tenths wholeMetadata tenthsMetadata,
    known.tokenMetadata.get ⟨chainId, whole⟩ = some wholeMetadata ∧
    known.tokenMetadata.get ⟨chainId, tenths⟩ = some tenthsMetadata ∧
    wholeMetadata.symbol = tenthsMetadata.symbol ∧
    wholeMetadata.decimals = 0 ∧ tenthsMetadata.decimals = 1

/-- The command shows its recipient and all of its amounts. -/
def NamesPayment : Command → Prop
  | .unwrapWeth => True
  | .sweep => ¬ SymbolClash chainId registry
  | _ => False

/-- What the texts of other crates are relied on for. -/
structure Formats.Lawful : Prop where
  debugAddress_injective : Function.Injective formats.debugAddress
  length_debugAddress : ∀ address, (formats.debugAddress address).toList.length = 42
  /-- A unit has at most 77 decimals. -/
  formatUnits_eq : ∀ amount decimals, formats.formatUnits amount decimals =
    if decimals ≤ 77 then some (unitsText amount decimals) else none
  /-- The larger number is no double: the cast rounds it to the smaller. -/
  quotientText_rounds : formats.quotientText (100 * 2 ^ 54 + 1) 100 (some 2) =
    formats.quotientText (100 * 2 ^ 54) 100 (some 2)

/-! ## Amounts of tokens -/

/-- The decimals by which the amounts of a token are scaled. -/
def tokenScale (token : Address) : Option ℕ :=
  (registry.bind fun known => known.tokenMetadata.get ⟨chainId, token⟩).bind fun metadata =>
    if metadata.decimals.toNat ≤ 77 then some metadata.decimals.toNat else none

/-- A token has a scale only if it is registered for the chain, and then its symbol
is the registered one. -/
theorem tokenScale_eq_some {token : Address} {decimals : ℕ}
    (hscale : tokenScale chainId registry token = some decimals) :
    ∃ known metadata, registry = some known ∧
      known.tokenMetadata.get ⟨chainId, token⟩ = some metadata ∧
      metadata.decimals.toNat = decimals ∧
      tokenSymbol formats registry chainId token = metadata.symbol := by
  obtain ⟨metadata, hmetadata, hdecimals⟩ := Option.bind_eq_some_iff.1 hscale
  obtain ⟨known, rfl, hknown⟩ := Option.bind_eq_some_iff.1 hmetadata
  split_ifs at hdecimals
  use known, metadata, rfl, hknown, Option.some.inj hdecimals
  rw [tokenSymbol, Option.bind_some, ContractRegistry.getTokenSymbol, hknown]
  rfl

variable {formats}

/-- The formatter of the source writes a registered token in its units, which is the
abstract text at the scale of the token. -/
theorem formatTokenAmount_eq (hformats : Formats.Lawful formats) (token : Address) (amount : ℕ) :
    ((registry.bind fun known =>
      known.formatTokenAmountU256 formats chainId token amount).map Prod.fst) =
      (tokenScale chainId registry token).map (unitsText amount) := by
  cases registry with
  | none => rfl
  | some known =>
      rw [tokenScale, Option.bind_some, Option.bind_some, ContractRegistry.formatTokenAmountU256]
      cases known.tokenMetadata.get ⟨chainId, token⟩ with
      | none => rfl
      | some metadata =>
          simp only [Option.bind_eq_bind, Option.bind_some, hformats.formatUnits_eq]
          split_ifs
          · rfl
          · rfl

/-- The amount of a token is written at its scale if it is registered, and as a bare
number otherwise. -/
theorem tokenAmount_eq (hformats : Formats.Lawful formats) (token : Address) (amount : ℕ) :
    tokenAmount formats registry chainId token amount =
      scaledText (tokenScale chainId registry token) amount := by
  rw [tokenAmount, formatTokenAmount_eq chainId registry hformats]
  cases tokenScale chainId registry token with
  | none => rfl
  | some decimals => rfl

/-- The decimals of the chain's WETH, when the registry knows it. -/
def wethScale : Option ℕ := (wethAddress chainId).bind (tokenScale chainId registry)

/-- The amount of wrapped ether is written at the scale that its registration gives,
or as a bare number. -/
theorem wethAmount_eq (hformats : Formats.Lawful formats) (amount : ℕ) :
    (wethAmount formats chainId registry amount).getD (toString amount) =
      scaledText (wethScale chainId registry) amount := by
  rw [wethAmount, wethScale]
  cases wethAddress chainId with
  | none => rfl
  | some weth =>
      rw [Option.bind_some, Option.bind_some, formatTokenAmount_eq chainId registry hformats]
      cases tokenScale chainId registry weth with
      | none => rfl
      | some decimals => rfl

/-! ## Commands that show their recipient -/

/-- If the field of a command is made from parameters that the field determines up
to a part of the payment, the field determines that part. -/
theorem determines_of_map {A B : Type} {cmd : Command} {params : Bytes → Option A}
    {paid : A → Payment} {field : A → SignablePayloadField} {part : Payment → B}
    (hpayment : ∀ input, payment cmd input = (params input).map paid)
    (hfield : ∀ input value, params input = some value →
      commandField formats chainId registry cmd (some input) = field value)
    (hdetermines : ∀ left right, field left = field right →
      part (paid left) = part (paid right)) :
    Determines formats chainId registry part cmd := by
  intro left right leftPayment rightPayment hleft hright heq
  rw [hpayment] at hleft hright
  obtain ⟨leftParams, hleftParams, rfl⟩ := Option.map_eq_some_iff.1 hleft
  obtain ⟨rightParams, hrightParams, rfl⟩ := Option.map_eq_some_iff.1 hright
  rw [hfield left leftParams hleftParams, hfield right rightParams hrightParams] at heq
  exact hdetermines leftParams rightParams heq

theorem textRow_inj {label left right : String} :
    textRow label left = textRow label right ↔ left = right := by
  simp [textRow, plainField, textField_inj]

theorem previewField_inj {label left right : String} {leftRows rightRows} :
    previewField label left (some leftRows) = previewField label right (some rightRows) ↔
      left = right ∧ leftRows = rightRows := by
  simp [previewField]

/-- The recipient of a portion can be read off the field; the other parts of the
payment are not claimed to be. -/
theorem recipient_of_payPortion (hformats : Formats.Lawful formats) :
    Determines formats chainId registry Payment.recipient .payPortion := by
  refine determines_of_map chainId registry (fun _ => rfl) (fun input params hparams => by
    rw [commandField, decodePayPortion, hparams]) fun left right heq => ?_
  obtain ⟨-, hrows⟩ := previewField_inj.1 heq
  simp only [List.cons.injEq, textRow_inj] at hrows
  exact hformats.debugAddress_injective hrows.2.2.1

/-- The field of an unwrapping determines the whole payment: the recipient and the
least amount. -/
theorem payment_of_unwrapWeth (hformats : Formats.Lawful formats) :
    Determines formats chainId registry id .unwrapWeth := by
  refine determines_of_map chainId registry (fun _ => rfl) (fun input params hparams => by
    rw [commandField, decodeUnwrapWeth, hparams]) fun left right heq => ?_
  obtain ⟨-, hrows⟩ := previewField_inj.1 heq
  obtain ⟨hamountRow, hrows⟩ := List.cons.inj hrows
  obtain ⟨hrecipientRow, -⟩ := List.cons.inj hrows
  have hrecipient : left.recipient = right.recipient :=
    hformats.debugAddress_injective (textRow_inj.1 hrecipientRow)
  have hamount : left.amountMinimum = right.amountMinimum := by
    simp only [plainField, AnnotatedPayloadField.mk.injEq, SignablePayloadField.textV2.injEq,
      SignablePayloadFieldCommon.mk.injEq, wethAmount_eq chainId registry hformats] at hamountRow
    exact BitVec.eq_of_toNat_eq (scaledText_injective _ hamountRow.1.1.1)
  rw [id, id, hrecipient, hamount]

/-- The parts of the text of a sweep: the amount ends at the first space, and
the address fills the end. -/
theorem sweepText_inj (hformats : Formats.Lawful formats) {leftScale rightScale : Option ℕ}
    {leftAmount rightAmount : ℕ} {leftSymbol rightSymbol : String}
    {leftRecipient rightRecipient : Address}
    (heq : "Sweep >=" ++ scaledText leftScale leftAmount ++ " " ++ leftSymbol ++ " to " ++
        formats.debugAddress leftRecipient =
      "Sweep >=" ++ scaledText rightScale rightAmount ++ " " ++ rightSymbol ++ " to " ++
        formats.debugAddress rightRecipient) :
    scaledText leftScale leftAmount = scaledText rightScale rightAmount ∧
      leftSymbol = rightSymbol ∧ leftRecipient = rightRecipient := by
  have hlists := congrArg String.toList heq
  have hspace : " ".toList = [' '] := rfl
  simp only [String.toList_append, List.append_assoc, hspace, List.cons_append,
    List.nil_append] at hlists
  have htail := List.append_cancel_left hlists
  obtain ⟨hamount, hrest⟩ := append_cons_inj (space_not_mem_scaledText leftScale leftAmount)
    (space_not_mem_scaledText rightScale rightAmount) htail
  have hlength : (formats.debugAddress leftRecipient).toList.length =
      (formats.debugAddress rightRecipient).toList.length :=
    (hformats.length_debugAddress _).trans (hformats.length_debugAddress _).symm
  rw [← List.append_assoc, ← List.append_assoc] at hrest
  obtain ⟨hsymbol, hrecipient⟩ := List.append_inj' hrest hlength
  exact ⟨String.toList_inj.1 hamount, String.toList_inj.1 (List.append_cancel_right hsymbol),
    hformats.debugAddress_injective (String.toList_inj.1 hrecipient)⟩

/-- Two tokens with one symbol and different scales clash, since one text then
stands for two amounts. -/
theorem symbolClash_of_scales {whole tenths : Address}
    (hwhole : tokenScale chainId registry whole = some 0)
    (htenths : tokenScale chainId registry tenths = some 1)
    (hsymbol : tokenSymbol formats registry chainId whole =
      tokenSymbol formats registry chainId tenths) : SymbolClash chainId registry := by
  obtain ⟨known, wholeMetadata, rfl, hget, hzero, hwholeSymbol⟩ :=
    tokenScale_eq_some formats chainId registry hwhole
  obtain ⟨_, tenthsMetadata, ⟨⟩, htenthsGet, hone, htenthsSymbol⟩ :=
    tokenScale_eq_some formats chainId _ htenths
  exact ⟨known, rfl, whole, tenths, wholeMetadata, tenthsMetadata, hget, htenthsGet,
    by rw [← hwholeSymbol, hsymbol, htenthsSymbol], UInt8.toNat_inj.1 hzero, UInt8.toNat_inj.1 hone⟩

/-- The amount of a sweep is told by its text, unless two tokens clash. -/
theorem amount_of_sweep (hclash : ¬ SymbolClash chainId registry) {left right : Address}
    {leftAmount rightAmount : ℕ}
    (hamount : scaledText (tokenScale chainId registry left) leftAmount =
      scaledText (tokenScale chainId registry right) rightAmount)
    (hsymbol : tokenSymbol formats registry chainId left =
      tokenSymbol formats registry chainId right) : leftAmount = rightAmount := by
  obtain hsame | ⟨hwhole, htenths⟩ | ⟨htenths, hwhole⟩ := scales_of_scaledText_eq hamount
  · rw [hsame] at hamount
    exact scaledText_injective _ hamount
  · exact absurd (symbolClash_of_scales chainId registry hwhole htenths hsymbol) hclash
  · exact absurd (symbolClash_of_scales chainId registry hwhole htenths hsymbol.symm) hclash

/-- From the text of a sweep the amount text, the symbol and the recipient can be
recovered. -/
theorem sweepField_inj (hformats : Formats.Lawful formats) {left right : SweepParams}
    (heq : textField "Sweep" ("Sweep >=" ++
        tokenAmount formats registry chainId left.token left.amountMinimum.toNat ++ " " ++
        tokenSymbol formats registry chainId left.token ++ " to " ++
        formats.debugAddress left.recipient) =
      textField "Sweep" ("Sweep >=" ++
        tokenAmount formats registry chainId right.token right.amountMinimum.toNat ++ " " ++
        tokenSymbol formats registry chainId right.token ++ " to " ++
        formats.debugAddress right.recipient)) :
    left.recipient = right.recipient ∧
      (¬ SymbolClash chainId registry → left.amountMinimum = right.amountMinimum) := by
  replace heq := (textField_inj.1 heq).2
  rw [tokenAmount_eq chainId registry hformats, tokenAmount_eq chainId registry hformats] at heq
  obtain ⟨hamount, hsymbol, hrecipient⟩ := sweepText_inj hformats heq
  apply And.intro hrecipient
  intro hclash
  exact BitVec.eq_of_toNat_eq (amount_of_sweep chainId registry hclash hamount hsymbol)

theorem recipient_of_sweep (hformats : Formats.Lawful formats) :
    Determines formats chainId registry Payment.recipient .sweep :=
  determines_of_map chainId registry (fun _ => rfl) (fun input params hparams => by
    rw [commandField, decodeSweep, hparams]) fun left right heq =>
      (sweepField_inj chainId registry hformats heq).1

/-- The field of a sweep determines the payment if no two tokens of the chain share
a symbol at different scales. -/
theorem payment_of_sweep (hformats : Formats.Lawful formats)
    (hclash : ¬ SymbolClash chainId registry) :
    Determines formats chainId registry id .sweep := by
  refine determines_of_map chainId registry (fun _ => rfl) (fun input params hparams => by
    rw [commandField, decodeSweep, hparams]) fun left right heq => ?_
  obtain ⟨hrecipient, hamount⟩ := sweepField_inj chainId registry hformats heq
  rw [id, id, hrecipient, hamount hclash]

theorem Determines.recipient {cmd : Command} (hpayment : Determines formats chainId registry id cmd) :
    Determines formats chainId registry Payment.recipient cmd := by
  intro left right leftPayment rightPayment hleft hright heq
  exact congrArg Payment.recipient (hpayment left right leftPayment rightPayment hleft hright heq)

/-! ## Commands that hide their recipient -/

/-- Two inputs with one field and different payments show that the field does not
determine the payment. -/
theorem not_determines {A : Type} {part : Payment → A} {cmd : Command} {left right : Bytes}
    {leftPayment rightPayment : Payment} (hleft : payment cmd left = some leftPayment)
    (hright : payment cmd right = some rightPayment)
    (heq : commandField formats chainId registry cmd (some left) =
      commandField formats chainId registry cmd (some right))
    (hne : part leftPayment ≠ part rightPayment) :
    ¬ Determines formats chainId registry part cmd :=
  fun hdetermines => hne (hdetermines left right leftPayment rightPayment hleft hright heq)

/-- A V3 swap of 1000 units for at least 900, paid out to the recipient. -/
def v3SwapInput (recipient : ℕ) : Bytes :=
  beBytes 32 recipient ++ beBytes 32 1000 ++ beBytes 32 900 ++ beBytes 32 0xa0 ++ beBytes 32 1 ++
    beBytes 32 43 ++ (List.replicate 20 0x11 ++ beBytes 3 3000 ++ List.replicate 20 0x22 ++
      List.replicate 21 0)

/-- The same swap on V2. -/
def v2SwapInput (recipient : ℕ) : Bytes :=
  beBytes 32 recipient ++ beBytes 32 1000 ++ beBytes 32 900 ++ beBytes 32 0xa0 ++ beBytes 32 3 ++
    beBytes 32 2 ++ beBytes 32 11 ++ beBytes 32 22

def v2SwapOutInput (recipient : ℕ) : Bytes :=
  beBytes 32 1000 ++ beBytes 32 900 ++ beBytes 32 0x80 ++ beBytes 32 recipient ++
    beBytes 32 2 ++ beBytes 32 11 ++ beBytes 32 22

def wrapEthInput (recipient : ℕ) : Bytes := beBytes 32 recipient ++ beBytes 32 1000

def payPortionInput (bips : ℕ) : Bytes := beBytes 32 3 ++ beBytes 32 1 ++ beBytes 32 bips

set_option maxRecDepth 4000 in
/-- Two swaps with different recipients have the same field, because the field of a
swap names tokens and amounts only. -/
theorem v3SwapInput_alike (formats : Formats) (cmd : Command)
    (hcmd : cmd = .v3SwapExactIn ∨ cmd = .v3SwapExactOut) :
    payment cmd (v3SwapInput 1) = some ⟨addressOf 1, [1000, 900]⟩ ∧
      payment cmd (v3SwapInput 2) = some ⟨addressOf 2, [1000, 900]⟩ ∧
      commandField formats chainId registry cmd (some (v3SwapInput 1)) =
        commandField formats chainId registry cmd (some (v3SwapInput 2)) := by
  have hleft : decodeSequence V3SwapParams.read (v3SwapInput 1) =
      some (addressOf 1, 1000, 900, List.replicate 20 0x11 ++ beBytes 3 3000 ++
        List.replicate 20 0x22, true) := by rfl
  have hright : decodeSequence V3SwapParams.read (v3SwapInput 2) =
      some (addressOf 2, 1000, 900, List.replicate 20 0x11 ++ beBytes 3 3000 ++
        List.replicate 20 0x22, true) := by rfl
  have hpayment (input : Bytes) : payment cmd input = v3Payment input := by
    obtain rfl | rfl := hcmd
    · rfl
    · rfl
  rw [hpayment, hpayment]
  refine ⟨rfl, rfl, ?_⟩
  obtain rfl | rfl := hcmd
  · simp only [commandField, decodeV3SwapExactIn, hleft, hright]
  · simp only [commandField, decodeV3SwapExactOut, hleft, hright]

theorem v3SwapInput_hides (cmd : Command) (hcmd : cmd = .v3SwapExactIn ∨ cmd = .v3SwapExactOut) :
    ¬ Determines formats chainId registry Payment.recipient cmd := by
  obtain ⟨hleft, hright, heq⟩ := v3SwapInput_alike chainId registry formats cmd hcmd
  exact not_determines chainId registry hleft hright heq (by decide)

instance : DecidableEq V2SwapOutParams :=
  @instDecidableEqProd (BitVec 256) (BitVec 256 × List Address × Address) _ _

instance : DecidableEq V2SwapParams := @instDecidableEqProd Address V2SwapOutParams _ _

set_option maxRecDepth 4000 in
theorem v2SwapInput_hides :
    ¬ Determines formats chainId registry Payment.recipient .v2SwapExactIn := by
  have hleft : decodeSequence V2SwapParams.read (v2SwapInput 1) = some (addressOf 1, 1000, 900,
      [addressOf 11, addressOf 22], addressOf 3) := by
    rfl
  have hright : decodeSequence V2SwapParams.read (v2SwapInput 2) = some (addressOf 2, 1000, 900,
      [addressOf 11, addressOf 22], addressOf 3) := by
    rfl
  have hleftPaid : payment .v2SwapExactIn (v2SwapInput 1) = some ⟨addressOf 1, [1000, 900]⟩ := by
    rfl
  have hrightPaid : payment .v2SwapExactIn (v2SwapInput 2) = some ⟨addressOf 2, [1000, 900]⟩ := by
    rfl
  apply not_determines chainId registry hleftPaid hrightPaid _ (by decide)
  simp only [commandField, decodeV2SwapExactIn, hleft, hright]

set_option maxRecDepth 4000 in
theorem v2SwapOutInput_hides :
    ¬ Determines formats chainId registry Payment.recipient .v2SwapExactOut := by
  have hleft : decodeSequence V2SwapOutParams.read (v2SwapOutInput 1) = some (1000, 900,
      [addressOf 11, addressOf 22], addressOf 1) := by
    rfl
  have hright : decodeSequence V2SwapOutParams.read (v2SwapOutInput 2) = some (1000, 900,
      [addressOf 11, addressOf 22], addressOf 2) := by
    rfl
  have hleftPaid : payment .v2SwapExactOut (v2SwapOutInput 1) =
      some ⟨addressOf 1, [1000, 900]⟩ := by rfl
  have hrightPaid : payment .v2SwapExactOut (v2SwapOutInput 2) =
      some ⟨addressOf 2, [1000, 900]⟩ := by rfl
  apply not_determines chainId registry hleftPaid hrightPaid _ (by decide)
  simp only [commandField, decodeV2SwapExactOut, hleft, hright]

theorem wrapEthInput_hides :
    ¬ Determines formats chainId registry Payment.recipient .wrapEth := by
  have hleft : decodeSequence WrapEthParams.read (wrapEthInput 1) = some ⟨addressOf 1, 1000⟩ := by
    rfl
  have hright : decodeSequence WrapEthParams.read (wrapEthInput 2) = some ⟨addressOf 2, 1000⟩ := by
    rfl
  have hleftPaid : payment .wrapEth (wrapEthInput 1) = some ⟨addressOf 1, [1000]⟩ := by
    rw [payment, hleft, Option.map_some]
  have hrightPaid : payment .wrapEth (wrapEthInput 2) = some ⟨addressOf 2, [1000]⟩ := by
    rw [payment, hright, Option.map_some]
  apply not_determines chainId registry hleftPaid hrightPaid _ (by decide)
  simp only [commandField, decodeWrapEth, hleft, hright]

/-- Two portions that are the same double. -/
theorem payPortionInput_hides (hformats : Formats.Lawful formats) :
    ¬ Determines formats chainId registry id .payPortion := by
  have hleft : decodeSequence PayPortionParams.read (payPortionInput (100 * 2 ^ 54)) =
      some ⟨addressOf 3, addressOf 1, BitVec.ofNat 256 (100 * 2 ^ 54)⟩ := by rfl
  have hright : decodeSequence PayPortionParams.read (payPortionInput (100 * 2 ^ 54 + 1)) =
      some ⟨addressOf 3, addressOf 1, BitVec.ofNat 256 (100 * 2 ^ 54 + 1)⟩ := by rfl
  have hleftPaid : payment .payPortion (payPortionInput (100 * 2 ^ 54)) =
      some ⟨addressOf 1, [BitVec.ofNat 256 (100 * 2 ^ 54)]⟩ := by
    rw [payment, hleft, Option.map_some]
  have hrightPaid : payment .payPortion (payPortionInput (100 * 2 ^ 54 + 1)) =
      some ⟨addressOf 1, [BitVec.ofNat 256 (100 * 2 ^ 54 + 1)]⟩ := by
    rw [payment, hright, Option.map_some]
  have hpercentage : percentageText formats (BitVec.ofNat 256 (100 * 2 ^ 54)) =
      percentageText formats (BitVec.ofNat 256 (100 * 2 ^ 54 + 1)) := by
    have hrounds := hformats.quotientText_rounds
    simp only [percentageText, BitVec.toNat_ofNat]
    norm_num at hrounds ⊢
    exact hrounds.symm
  apply not_determines chainId registry hleftPaid hrightPaid _ (by decide)
  simp only [commandField, decodePayPortion, hleft, hright, hpercentage]

def sweepInput (token : Address) (amount : ℕ) : Bytes :=
  beBytes 32 (ofBeBytes token.val) ++ beBytes 32 1 ++ beBytes 32 amount

theorem decodeSequence_sweepParams {input : Bytes} (hinput : 96 ≤ input.length) :
    decodeSequence SweepParams.read input =
      some ⟨⟨beBytes 20 (wordAt input 0).toNat, length_beBytes ..⟩,
        ⟨beBytes 20 (wordAt input 32).toNat, length_beBytes ..⟩, wordAt input 64⟩ := by
  change (((address ⟨input, 0⟩).bind fun token => (address token.2).bind fun recipient =>
    (uint 256 recipient.2).bind fun amount =>
      some (SweepParams.mk token.1 recipient.1 amount.1, amount.2)).map Prod.fst) = _
  rw [address_eq (by omega), Option.bind_some, address_eq (by omega), Option.bind_some,
    uint_eq (by omega), Option.bind_some, Option.map_some, BitVec.setWidth_eq]

/-- The input that is built for a sweep is decoded to the sweep it was built for. -/
theorem decodeSequence_sweepInput (token : Address) {amount : ℕ} (hamount : amount < 2 ^ 256) :
    decodeSequence SweepParams.read (sweepInput token amount) =
      some ⟨token, addressOf 1, BitVec.ofNat 256 amount⟩ := by
  have hvalue : ofBeBytes token.val < 256 ^ 20 := by
    have hlt := ofLeBytes_lt token.val.reverse
    rwa [List.length_reverse, token.2] at hlt
  have htoken : (wordAt (sweepInput token amount) 0).toNat = ofBeBytes token.val := by
    have hword : wordAt (sweepInput token amount) 0 = _ :=
      @wordAt_append [] (beBytes 32 (ofBeBytes token.val)) _ (length_beBytes ..)
    rw [hword, ofBeBytes_beBytes (hvalue.trans (by decide)), BitVec.toNat_ofNat,
      Nat.mod_eq_of_lt (hvalue.trans (by decide))]
  have hrecipient : wordAt (sweepInput token amount) 32 = BitVec.ofNat 256 1 := by
    have hword := @wordAt_append (beBytes 32 (ofBeBytes token.val)) (beBytes 32 1)
      (beBytes 32 amount) (length_beBytes ..)
    rwa [length_beBytes, ofBeBytes_beBytes (by decide)] at hword
  have hlast : wordAt (sweepInput token amount) 64 = BitVec.ofNat 256 amount := by
    have hword := @wordAt_append (beBytes 32 (ofBeBytes token.val) ++ beBytes 32 1)
      (beBytes 32 amount) [] (length_beBytes ..)
    rwa [List.append_nil, List.length_append, length_beBytes, length_beBytes,
      ofBeBytes_beBytes (by norm_num at hamount ⊢; exact hamount)] at hword
  have hlength : 96 ≤ (sweepInput token amount).length := by simp [sweepInput]
  have hbytes : beBytes 20 (ofBeBytes token.val) = token.val := by
    have hreverse := leBytes_ofLeBytes token.val.reverse
    rw [List.length_reverse, token.2] at hreverse
    rw [beBytes, ofBeBytes, hreverse, List.reverse_reverse]
  rw [decodeSequence_sweepParams hlength, hlast, hrecipient]
  simp only [htoken, hbytes]
  rfl

/-- One unit without decimals and ten units with one decimal read alike. -/
theorem sweepInput_hides (hformats : Formats.Lawful formats)
    (hclash : SymbolClash chainId registry) :
    ¬ Determines formats chainId registry id .sweep := by
  obtain ⟨known, rfl, whole, tenths, wholeMetadata, tenthsMetadata, hwhole, htenths, hsymbol,
    hzero, hone⟩ := hclash
  have hleft := decodeSequence_sweepInput whole (show 1 < 2 ^ 256 by decide)
  have hright := decodeSequence_sweepInput tenths (show 10 < 2 ^ 256 by decide)
  have hleftPaid : payment .sweep (sweepInput whole 1) = some ⟨addressOf 1, [1]⟩ := by
    rw [payment, hleft, Option.map_some]
    rfl
  have hrightPaid : payment .sweep (sweepInput tenths 10) = some ⟨addressOf 1, [10]⟩ := by
    rw [payment, hright, Option.map_some]
    rfl
  have hwholeScale : tokenScale chainId (some known) whole = some 0 := by
    simp [tokenScale, hwhole, hzero]
  have htenthsScale : tokenScale chainId (some known) tenths = some 1 := by
    simp [tokenScale, htenths, hone]
  have hamounts : scaledText (some 0) (BitVec.ofNat 256 1).toNat =
      scaledText (some 1) (BitVec.ofNat 256 10).toNat := by rfl
  have hsymbols : tokenSymbol formats (some known) chainId whole =
      tokenSymbol formats (some known) chainId tenths := by
    simp [tokenSymbol, ContractRegistry.getTokenSymbol, hwhole, htenths, hsymbol]
  apply not_determines chainId _ hleftPaid hrightPaid _ (by decide)
  simp only [commandField, decodeSweep, hleft, hright, tokenAmount_eq chainId _ hformats,
    hwholeScale, htenthsScale, hsymbols, hamounts]

end Determined

/-- Only the commands that print their recipient determine it, and only an
unwrap, or a sweep on a chain without clashing symbols, determines the amounts
as well. -/
theorem payment_determined_iff (formats : Formats) (hformats : Formats.Lawful formats)
    (chainId : ChainId) (registry : Option ContractRegistry) (cmd : Command)
    (hcmd : cmd ∈ payingCommands) :
    (Determines formats chainId registry Payment.recipient cmd ↔ namesRecipient cmd = true) ∧
    (Determines formats chainId registry id cmd ↔ NamesPayment chainId registry cmd) := by
  -- a command that hides its recipient has neither property
  have hhidden (hhides : ¬ Determines formats chainId registry Payment.recipient cmd)
      (hnames : namesRecipient cmd = false) (hpayment : ¬ NamesPayment chainId registry cmd) :
      (Determines formats chainId registry Payment.recipient cmd ↔ namesRecipient cmd = true) ∧
      (Determines formats chainId registry id cmd ↔ NamesPayment chainId registry cmd) := by
    constructor
    · rw [hnames]
      exact iff_of_false hhides Bool.false_ne_true
    · exact iff_of_false (fun hboth => hhides (hboth.recipient chainId registry)) hpayment
  simp only [payingCommands, List.mem_cons, List.not_mem_nil, or_false] at hcmd
  obtain rfl | rfl | rfl | rfl | rfl | rfl | rfl | rfl := hcmd
  · exact hhidden (v3SwapInput_hides chainId registry _ (.inl rfl)) rfl id
  · exact hhidden (v3SwapInput_hides chainId registry _ (.inr rfl)) rfl id
  · exact hhidden (v2SwapInput_hides chainId registry) rfl id
  · exact hhidden (v2SwapOutInput_hides chainId registry) rfl id
  · exact ⟨iff_of_true (recipient_of_payPortion chainId registry hformats) rfl,
      iff_of_false (payPortionInput_hides chainId registry hformats) id⟩
  · exact hhidden (wrapEthInput_hides chainId registry) rfl id
  · have hpayment := payment_of_unwrapWeth chainId registry hformats
    exact ⟨iff_of_true (hpayment.recipient chainId registry) rfl, iff_of_true hpayment trivial⟩
  · apply And.intro (iff_of_true (recipient_of_sweep chainId registry hformats) rfl)
    constructor
    · intro hdetermines hclash
      exact sweepInput_hides chainId registry hformats hclash hdetermines
    · exact payment_of_sweep chainId registry hformats

/-- The double nearest to a number, ties to even. -/
def nearestDouble (value : ℕ) : ℕ :=
  let unit := 2 ^ (Nat.log2 value - 52)
  let below := value / unit
  let rest := value % unit
  if unit < 2 * rest ∨ 2 * rest = unit ∧ below % 2 = 1 then (below + 1) * unit else below * unit

/-- Texts whose units are bounded, and quotients that end after four digits. -/
def unitFormats : Formats where
  __ := plainFormats
  formatUnits amount decimals :=
    if decimals ≤ 77 then some (unitsText amount decimals) else none
  quotientText value divisor digits :=
    match digits with
    | some digits => unitsText (nearestDouble value * 10 ^ digits / divisor) digits
    | none => trimTrailingZeros (unitsText (nearestDouble value * 10 ^ 4 / divisor) 4)

theorem lawful_unitFormats : Formats.Lawful unitFormats where
  debugAddress_injective left right heq := by
    have hlists := congrArg String.toList heq
    simp only [unitFormats, plainFormats, String.toList_append] at hlists
    have hencoded := String.toList_inj.1 (List.append_cancel_left hlists)
    exact Subtype.ext (Hex.encode_injective hencoded)
  length_debugAddress address := by
    simp only [unitFormats, plainFormats, String.toList_append, List.length_append,
      Hex.length_toList_encode, address.2]
    rfl
  formatUnits_eq _ _ := rfl
  quotientText_rounds := by decide

theorem payment_determined_iff_sweep :
    Determines unitFormats 1 none id .sweep ∧ ¬ Determines unitFormats 1 none id .wrapEth := by
  have hsweep := payment_determined_iff unitFormats lawful_unitFormats 1 none .sweep (by decide)
  have hwrap := payment_determined_iff unitFormats lawful_unitFormats 1 none .wrapEth (by decide)
  constructor
  · apply hsweep.2.2
    rintro ⟨known, ⟨⟩, -⟩
  · exact hwrap.2.not.2 id

/-- Two swaps that differ in who is paid and look alike. -/
theorem swaps_to_two_recipients_look_alike :
    ∃ left right, payment .v3SwapExactIn (v3SwapInput 1) = some left ∧
      payment .v3SwapExactIn (v3SwapInput 2) = some right ∧
      commandField unitFormats 1 none .v3SwapExactIn (some (v3SwapInput 1)) =
        commandField unitFormats 1 none .v3SwapExactIn (some (v3SwapInput 2)) ∧
      left.recipient ≠ right.recipient := by
  obtain ⟨hleft, hright, heq⟩ :=
    v3SwapInput_alike 1 none unitFormats .v3SwapExactIn (.inl rfl)
  exact ⟨_, _, hleft, hright, heq, by decide +kernel⟩

end VisualSignParser.Ethereum.UniversalRouter
