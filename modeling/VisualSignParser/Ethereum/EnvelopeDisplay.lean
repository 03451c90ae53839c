import VisualSignParser.Codec.Decimal
import VisualSignParser.Ethereum.Decode

/-!
# What the envelope shows

Without metadata and with calldata shown as raw bytes, the fields of a payload
are those of the envelope.  Every number, address and byte string in them can be
read back.  Two things are not in them: the access list, and whether a legacy
transaction names chain one or no chain at all.
-/

namespace VisualSignParser.Ethereum

open VisualSignParser.Framing
open VisualSignParser.VisualSign

/-! ## Amounts -/

theorem dropWhile_zeros_padded (decimals : ℕ) (rest : List Char) :
    ((Decimal.padded decimals 0).reverse ++ '.' :: rest).dropWhile (· == '0') = '.' :: rest := by
  have hzeros : ∀ char ∈ (Decimal.padded decimals 0).reverse, (char == '0') = true := by
    intro char hchar
    rw [List.mem_reverse, Decimal.padded, List.mem_append] at hchar
    rcases hchar with hpad | hdigit
    · rw [List.eq_of_mem_replicate hpad]
      rfl
    · rw [Nat.toDigits_zero, List.mem_singleton] at hdigit
      rw [hdigit]
      rfl
  rw [List.dropWhile_append_of_pos hzeros]
  rfl

theorem dropWhile_point_of_digits {digits rest : List Char} (hdigits : digits ≠ [])
    (hall : ∀ char ∈ digits, char.isDigit = true) :
    (digits ++ rest).dropWhile (· == '.') = digits ++ rest := by
  cases digits with
  | nil => exact absurd rfl hdigits
  | cons first others =>
      have hfirst : ¬ (first == '.') = true := by
        intro hpoint
        have hdigit := hall first List.mem_cons_self
        rw [beq_iff_eq.1 hpoint] at hdigit
        cases hdigit
      rw [List.cons_append, List.dropWhile_cons, if_neg hfirst]

/-- Trimming leaves the exact quotient. -/
theorem trimTrailingZeros_unitsText (amount decimals : ℕ) :
    trimTrailingZeros (Decimal.unitsText amount decimals) = Decimal.trimmedText amount decimals := by
  have hpoint : (Decimal.unitsText amount decimals).toList.contains '.' = true := by
    rw [Decimal.toList_unitsText, List.contains_iff_mem]
    exact List.mem_append_right _ List.mem_cons_self
  have hwhole : (Nat.toDigits 10 (amount / 10 ^ decimals)).reverse ≠ [] := by
    rw [Ne, List.reverse_eq_nil_iff]
    exact List.ne_nil_of_length_pos Nat.length_toDigits_pos
  rw [trimTrailingZeros, if_pos hpoint, Decimal.toList_unitsText, List.reverse_append,
    List.reverse_cons, List.append_assoc, List.singleton_append]
  by_cases hfraction : amount % 10 ^ decimals = 0
  · have hdigits : ∀ char ∈ (Nat.toDigits 10 (amount / 10 ^ decimals)).reverse,
        char.isDigit = true := by
      intro char hchar
      exact Nat.isDigit_of_mem_toDigits (by omega) le_rfl (List.mem_reverse.1 hchar)
    have hkept := @dropWhile_point_of_digits _ [] hwhole hdigits
    rw [List.append_nil] at hkept
    rw [Decimal.trimmedText, if_pos hfraction, hfraction, dropWhile_zeros_padded,
      List.dropWhile_cons, if_pos (beq_self_eq_true '.'), hkept, List.reverse_reverse, ← Decimal.toList_toString,
      String.ofList_toList]
  · have hleft : (Decimal.padded decimals (amount % 10 ^ decimals)).reverse.dropWhile
        (· == '0') = (Decimal.trimZeros
          (Decimal.padded decimals (amount % 10 ^ decimals))).reverse := by
      rw [Decimal.trimZeros, List.reverse_reverse]
      rfl
    have htrimmed : (Decimal.trimZeros
        (Decimal.padded decimals (amount % 10 ^ decimals))).reverse ≠ [] := by
      rw [Ne, List.reverse_eq_nil_iff]
      exact Decimal.trimZeros_padded_ne_nil hfraction
    have hdigits : ∀ char ∈ (Decimal.trimZeros
        (Decimal.padded decimals (amount % 10 ^ decimals))).reverse, char.isDigit = true := by
      intro char hchar
      exact Decimal.isDigit_of_mem_padded (Decimal.mem_of_mem_trimZeros (List.mem_reverse.1 hchar))
    have hisEmpty : ¬ ((Decimal.padded decimals (amount % 10 ^ decimals)).reverse.dropWhile
        (· == '0')).isEmpty = true := by
      rw [hleft, List.isEmpty_iff]
      exact htrimmed
    rw [List.dropWhile_append, if_neg hisEmpty, hleft,
      dropWhile_point_of_digits htrimmed hdigits, List.reverse_append, List.reverse_cons,
      List.reverse_reverse, List.reverse_reverse, List.append_assoc, List.singleton_append,
      ← Decimal.toList_trimmedText_of_fraction hfraction, String.ofList_toList]

/-- What the texts of other crates are relied on for: an address can be read back
from its text, and a unit is written with all its digits. -/
structure Formats.ShowsEnvelope (formats : Formats) : Prop where
  displayAddress_injective : Function.Injective formats.displayAddress
  formatUnits_eq : ∀ amount decimals, decimals ≤ 77 →
    formats.formatUnits amount decimals = some (Decimal.unitsText amount decimals)

section Texts

variable {formats : Formats} (hformats : formats.ShowsEnvelope)

include hformats

/-- Trimming the zeros of the fraction loses no amount, so an amount of ether can be
recovered from its text. -/
theorem formatEther_injective : Function.Injective formats.formatEther := by
  intro left right heq
  apply Decimal.trimmedText_injective 18
  rw [Formats.formatEther, Formats.formatEther, hformats.formatUnits_eq _ _ (by omega),
    hformats.formatUnits_eq _ _ (by omega), Option.getD_some, Option.getD_some,
    trimTrailingZeros_unitsText, trimTrailingZeros_unitsText] at heq
  exact heq

/-- A gas price can be recovered from its text for the same reason, with nine
decimals instead of eighteen. -/
theorem formatGwei_injective : Function.Injective formats.formatGwei := by
  intro left right heq
  apply Decimal.trimmedText_injective 9
  rw [Formats.formatGwei, Formats.formatGwei, hformats.formatUnits_eq _ _ (by omega),
    hformats.formatUnits_eq _ _ (by omega), Option.getD_some, Option.getD_some,
    trimTrailingZeros_unitsText, trimTrailingZeros_unitsText] at heq
  exact heq

end Texts

/-! ## Networks -/

theorem displayNames_nodup : (networks.map Network.displayName).Nodup := by
  decide

/-- The names of the table are told from the text of an unknown chain by their
third letter. -/
theorem displayName_known : ∀ network ∈ networks, network.displayName.toList[2]? ≠ some 'k' := by
  decide

/-- Chains can be told apart by their names: no two networks share one, and the name
of an unknown chain holds its number. -/
theorem getNetworkName_injective : Function.Injective fun chainId => getNetworkName (some chainId) := by
  have hunknown (chainId : ChainId) : ("Unknown Network (Chain ID: " ++
      toString chainId.toNat ++ ")").toList[2]? = some 'k' := by
    rw [String.append_assoc, String.toList_append]
    rfl
  intro left right heq
  simp only [getNetworkName] at heq
  cases hleft : networkOf left with
  | none =>
      cases hright : networkOf right with
      | none =>
          rw [hleft, hright] at heq
          have htext := Decimal.toString_injective
            ((String.append_right_inj _).1 ((String.append_left_inj _).1 heq))
          exact UInt64.toNat_inj.1 htext
      | some network =>
          rw [hleft, hright] at heq
          dsimp only at heq
          have hknown := displayName_known network (List.mem_of_find?_eq_some hright)
          rw [← heq] at hknown
          exact absurd (hunknown left) hknown
  | some network =>
      cases hright : networkOf right with
      | none =>
          rw [hleft, hright] at heq
          dsimp only at heq
          have hknown := displayName_known network (List.mem_of_find?_eq_some hleft)
          rw [heq] at hknown
          exact absurd (hunknown right) hknown
      | some other =>
          rw [hleft, hright] at heq
          have hsame : network = other :=
            List.inj_on_of_nodup_map displayNames_nodup (List.mem_of_find?_eq_some hleft)
              (List.mem_of_find?_eq_some hright) heq
          have hleftId : network.chainId = left := by simpa using List.find?_some hleft
          have hrightId : other.chainId = right := by simpa using List.find?_some hright
          rw [← hleftId, ← hrightId, hsame]

/-! ## The header -/

/-- A part that may be absent is told from what follows it. -/
theorem optional_append_inj {A : Type} {left right : Option A} {leftNext rightNext : A}
    {leftRest rightRest : List A}
    (heq : left.toList ++ leftNext :: leftRest = right.toList ++ rightNext :: rightRest)
    (hleft : ∀ value, left = some value → value ≠ rightNext)
    (hright : ∀ value, right = some value → value ≠ leftNext) :
    left = right ∧ leftNext = rightNext ∧ leftRest = rightRest := by
  cases left with
  | none =>
      cases right with
      | none => exact ⟨rfl, List.cons.inj heq⟩
      | some value => exact absurd (List.cons.inj heq).1.symm (hright value rfl)
  | some value =>
      cases right with
      | none => exact absurd (List.cons.inj heq).1 (hleft value rfl)
      | some other =>
          obtain ⟨hvalue, hrest⟩ := List.cons.inj heq
          exact ⟨congrArg some hvalue, List.cons.inj hrest⟩

/-- The address or the amount a field shows. -/
def fieldContent : SignablePayloadField → String
  | .addressV2 _ addressV2 => addressV2.address
  | .amountV2 _ amountV2 => amountV2.amount
  | _ => ""

/-- What can be read off the envelope of a transaction on a chain. -/
structure EnvelopeAgrees (left right : SupportedTransaction) (leftChain rightChain : ChainId) :
    Prop where
  chainId : leftChain = rightChain
  toAddress : left.toAddress = right.toAddress
  value : left.value = right.value
  gasLimit : left.gasLimit = right.gasLimit
  gasPrice : left.extractGasPrice = right.extractGasPrice
  priorityFee : left.extractPriorityFee = right.extractPriorityFee
  nonce : left.nonce = right.nonce

/-- From the fields in front of the input all parts of the envelope that are shown
can be recovered, whatever follows them. -/
theorem headerFields_append_inj {formats : Formats} (hformats : formats.ShowsEnvelope)
    {left right : SupportedTransaction} {leftChain rightChain : ChainId}
    {leftRest rightRest : List SignablePayloadField}
    (heq : headerFields formats left leftChain none ++ leftRest =
      headerFields formats right rightChain none ++ rightRest) :
    EnvelopeAgrees left right leftChain rightChain ∧ leftRest = rightRest := by
  simp only [headerFields, List.append_assoc, List.cons_append, List.nil_append] at heq
  obtain ⟨hnetwork, heq⟩ := List.cons.inj heq
  obtain ⟨hto, hvalue, heq⟩ := optional_append_inj heq
    (by
      intro field hfield hsame
      obtain ⟨address, -, rfl⟩ := Option.map_eq_some_iff.1 hfield
      cases hsame)
    (by
      intro field hfield hsame
      obtain ⟨address, -, rfl⟩ := Option.map_eq_some_iff.1 hfield
      cases hsame)
  obtain ⟨hgasLimit, heq⟩ := List.cons.inj heq
  obtain ⟨hgasPrice, heq⟩ := List.cons.inj heq
  obtain ⟨hpriority, hnonce, hrest⟩ := optional_append_inj heq
    (by
      intro field hfield hsame
      obtain ⟨fee, -, rfl⟩ := Option.map_eq_some_iff.1 hfield
      exact absurd (textField_inj.1 hsame).1 (by decide))
    (by
      intro field hfield hsame
      obtain ⟨fee, -, rfl⟩ := Option.map_eq_some_iff.1 hfield
      exact absurd (textField_inj.1 hsame).1 (by decide))
  have hchain : leftChain = rightChain := getNetworkName_injective (textField_inj.1 hnetwork).2
  refine ⟨⟨hchain, ?_, ?_, ?_, ?_, ?_, ?_⟩, hrest⟩
  · apply Option.map_injective _ (hchain ▸ hto)
    intro address other hfield
    exact hformats.displayAddress_injective (congrArg fieldContent hfield)
  · exact BitVec.eq_of_toNat_eq (formatEther_injective hformats (congrArg fieldContent hvalue))
  · exact UInt64.toNat_inj.1 (Decimal.toString_injective (textField_inj.1 hgasLimit).2)
  · exact BitVec.eq_of_toNat_eq (formatGwei_injective hformats
      ((String.append_left_inj _).1 (textField_inj.1 hgasPrice).2))
  · apply Option.map_injective _ hpriority
    intro fee other hfield
    exact BitVec.eq_of_toNat_eq (formatGwei_injective hformats
      ((String.append_left_inj _).1 (textField_inj.1 hfield).2))
  · exact UInt64.toNat_inj.1 (Decimal.toString_injective (textField_inj.1 hnonce).2)

/-! ## Whole payloads -/

/-- The transaction as far as it is shown: without the access list, and with the
chain a legacy transaction is shown on. -/
def SupportedTransaction.shown : SupportedTransaction → SupportedTransaction
  | legacy tx => .legacy { tx with chainId := some (tx.chainId.getD 1) }
  | eip1559 tx => .eip1559 { tx with accessList := [] }

/-- The chain a transaction is shown on without metadata. -/
def SupportedTransaction.shownChain : SupportedTransaction → ChainId
  | legacy tx => tx.chainId.getD 1
  | eip1559 tx => tx.chainId

theorem resolveChainId_of_no_metadata (tx : SupportedTransaction) {options : VisualSignOptions}
    (hmetadata : options.metadata = none) : resolveChainId tx options = .ok tx.shownChain := by
  rw [resolveChainId, hmetadata]
  cases tx with
  | eip1559 tx => rfl
  | legacy tx =>
      cases hchain : tx.chainId with
      | none => simp [SupportedTransaction.chainId, SupportedTransaction.shownChain, hchain,
          extractChainIdFromMetadata, SupportedTransaction.isLegacy]
      | some chainId => simp [SupportedTransaction.chainId, SupportedTransaction.shownChain, hchain,
          extractChainIdFromMetadata]

/-- Envelopes that agree in what is shown, with the same input, are the same
transaction apart from the access list. -/
theorem shown_eq_of_agrees {left right : SupportedTransaction}
    (hagrees : EnvelopeAgrees left right left.shownChain right.shownChain)
    (hinput : left.input = right.input) : left.shown = right.shown := by
  have hdestination : left.destination = right.destination := by
    have hto := hagrees.toAddress
    unfold SupportedTransaction.toAddress at hto
    cases hleft : left.destination <;> cases hright : right.destination <;>
      simp_all
  obtain ⟨hchain, -, hvalue, hgasLimit, hgasPrice, hpriority, hnonce⟩ := hagrees
  cases left with
  | legacy left =>
      cases right with
      | legacy right =>
          simp_all [SupportedTransaction.shown, SupportedTransaction.shownChain,
            SupportedTransaction.value, SupportedTransaction.gasLimit,
            SupportedTransaction.extractGasPrice, SupportedTransaction.nonce,
            SupportedTransaction.destination, SupportedTransaction.input]
      | eip1559 right => cases hpriority
  | eip1559 left =>
      cases right with
      | legacy right => cases hpriority
      | eip1559 right =>
          simp_all [SupportedTransaction.shown, SupportedTransaction.shownChain,
            SupportedTransaction.value, SupportedTransaction.gasLimit,
            SupportedTransaction.extractGasPrice, SupportedTransaction.extractPriorityFee,
            SupportedTransaction.nonce, SupportedTransaction.destination,
            SupportedTransaction.input]

section Payloads

variable (formats : Formats) (dyn : DynAbi) (k256 : K256)
  (converter : EthereumVisualSignConverter)

/-- The calldata is empty or ends up as raw bytes. -/
def ShownRaw (tx : SupportedTransaction) (decodeTransfers : Bool) : Prop :=
  calldataFields formats dyn converter.createLayeredRegistry converter.visualizerRegistry none
    decodeTransfers tx.shownChain tx =
      if tx.input.isEmpty then [] else [visualizeHex tx.input]

/-- Without metadata the payload of a transaction is its header and, if there is
any, its input in hex digits. -/
theorem convert_of_no_metadata (tx : SupportedTransaction) {options : VisualSignOptions}
    (hmetadata : options.metadata = none) (hraw : ShownRaw formats dyn converter tx
      options.decodeTransfers) :
    converter.convertTransactionInner formats dyn k256 (.supported tx) options =
      .ok ⟨headerFields formats tx tx.shownChain none ++
          if tx.input.isEmpty then [] else [visualizeHex tx.input],
        "EthereumTx", none, options.transactionName.getD "Ethereum Transaction", "0"⟩ := by
  have habi (chainId : ChainId) :
      converter.extractMetadataAbi formats dyn k256 options chainId = none := by
    rw [EthereumVisualSignConverter.extractMetadataAbi, hmetadata]
    rfl
  simp only [EthereumVisualSignConverter.convertTransactionInner]
  rw [resolveChainId_of_no_metadata tx hmetadata]
  change Except.ok (convertToVisualSignPayload formats dyn _ _ _ _ _ _ _) = _
  rw [habi, convertToVisualSignPayload, hraw]

theorem input_eq_of_raw {left right : Bytes}
    (heq : (if left.isEmpty then [] else [visualizeHex left]) =
      if right.isEmpty then [] else [visualizeHex right]) : left = right := by
  cases left with
  | nil =>
      cases right with
      | nil => rfl
      | cons first rest => simp at heq
  | cons first rest =>
      cases right with
      | nil => simp at heq
      | cons other others =>
          have hfield : visualizeHex (first :: rest) = visualizeHex (other :: others) := by
            simpa using heq
          exact Hex.encode_injective ((String.append_right_inj _).1 (textField_inj.1 hfield).2)

/-- What is not shown changes nothing. -/
theorem headerFields_shown (tx : SupportedTransaction) (chainId : ChainId)
    (abiRegistry : Option AbiRegistry) :
    headerFields formats tx.shown chainId abiRegistry =
      headerFields formats tx chainId abiRegistry := by
  cases tx with
  | legacy tx => rfl
  | eip1559 tx => rfl

theorem shownChain_shown (tx : SupportedTransaction) : tx.shown.shownChain = tx.shownChain := by
  cases tx with
  | legacy tx => rfl
  | eip1559 tx => rfl

theorem input_shown (tx : SupportedTransaction) : tx.shown.input = tx.input := by
  cases tx with
  | legacy tx => rfl
  | eip1559 tx => rfl

/-- The fields of a payload whose calldata is shown as raw bytes. -/
def rawFields (tx : SupportedTransaction) : List SignablePayloadField :=
  headerFields formats tx tx.shownChain none ++
    if tx.input.isEmpty then [] else [visualizeHex tx.input]

theorem rawFields_shown (tx : SupportedTransaction) :
    rawFields formats tx.shown = rawFields formats tx := by
  rw [rawFields, shownChain_shown, headerFields_shown, input_shown, rawFields]

/-- Two transactions have the same fields exactly if they are the same apart from
what is not shown. -/
theorem rawFields_eq_iff (hformats : formats.ShowsEnvelope) (left right : SupportedTransaction) :
    rawFields formats left = rawFields formats right ↔ left.shown = right.shown := by
  constructor
  · intro hfields
    obtain ⟨hagrees, hraw⟩ := headerFields_append_inj hformats hfields
    exact shown_eq_of_agrees hagrees (input_eq_of_raw hraw)
  · intro hshown
    rw [← rawFields_shown formats left, hshown, rawFields_shown]

/-- Two accepted transactions have the same payload, titles apart, exactly when
they agree in everything but the access list and the missing chain of a legacy
transaction, which is shown as chain one. -/
theorem envelope_display_exact (rlp : AlloyRlp) (hformats : formats.ShowsEnvelope)
    {leftBuf rightBuf : Bytes} {left right : TypedTransaction}
    (hleft : decodeUnsignedTransactionBytes rlp leftBuf = .ok left)
    (hright : decodeUnsignedTransactionBytes rlp rightBuf = .ok right) :
    ∃ leftTx rightTx, left = .supported leftTx ∧ right = .supported rightTx ∧
      ∀ leftOptions rightOptions : VisualSignOptions,
        leftOptions.metadata = none → rightOptions.metadata = none →
        ShownRaw formats dyn converter leftTx leftOptions.decodeTransfers →
        ShownRaw formats dyn converter rightTx rightOptions.decodeTransfers →
        ∃ leftPayload rightPayload,
          converter.convertTransactionInner formats dyn k256 left leftOptions =
            .ok leftPayload ∧
          converter.convertTransactionInner formats dyn k256 right rightOptions =
            .ok rightPayload ∧
          (leftPayload = rightPayload ↔ leftTx.shown = rightTx.shown ∧
            leftOptions.transactionName.getD "Ethereum Transaction" =
              rightOptions.transactionName.getD "Ethereum Transaction") := by
  obtain ⟨leftTx, rfl⟩ := supported_of_decodeUnsigned hleft
  obtain ⟨rightTx, rfl⟩ := supported_of_decodeUnsigned hright
  refine ⟨leftTx, rightTx, rfl, rfl, ?_⟩
  intro leftOptions rightOptions hleftMetadata hrightMetadata hleftRaw hrightRaw
  have hleftPayload := convert_of_no_metadata formats dyn k256 converter leftTx hleftMetadata
    hleftRaw
  have hrightPayload := convert_of_no_metadata formats dyn k256 converter rightTx hrightMetadata
    hrightRaw
  refine ⟨_, _, hleftPayload, hrightPayload, ?_⟩
  rw [SignablePayload.mk.injEq, ← rawFields, ← rawFields, rawFields_eq_iff formats hformats]
  tauto

end Payloads

/-! ## What is not shown -/

/-- Writes addresses and units as the display relies on. -/
def envelopeFormats : Formats where
  __ := plainFormats
  formatUnits amount decimals :=
    if decimals ≤ 77 then some (Decimal.unitsText amount decimals) else none

theorem showsEnvelope_envelopeFormats : envelopeFormats.ShowsEnvelope where
  displayAddress_injective left right heq := by
    have hlists := congrArg String.toList heq
    simp only [envelopeFormats, plainFormats, String.toList_append] at hlists
    exact Subtype.ext (Hex.encode_injective (String.toList_inj.1 (List.append_cancel_left hlists)))
  formatUnits_eq amount decimals hdecimals := if_pos hdecimals

/-- The creation of an empty contract on mainnet. -/
def creation (accessList : List (Address × List (ByteArr 32))) : TxEip1559 where
  chainId := 1
  nonce := 0
  gasLimit := 21000
  maxFeePerGas := 2
  maxPriorityFeePerGas := 1
  destination := .create
  value := 0
  accessList := accessList
  input := []

def legacyCreation (chainId : Option ChainId) : TxLegacy where
  chainId := chainId
  nonce := 0
  gasPrice := 1
  gasLimit := 21000
  destination := .create
  value := 0
  input := []

/-- An access list with one address. -/
def oneAccess : List (Address × List (ByteArr 32)) :=
  [(addressOf 0x1111111111111111111111111111111111111111, [])]

/-- The RLP lists of the transactions above. -/
def creationRlp : Bytes := [203, 1, 128, 1, 2, 130, 82, 8, 128, 128, 128, 192]

def accessCreationRlp : Bytes :=
  [226, 1, 128, 1, 2, 130, 82, 8, 128, 128, 128, 215, 214, 148] ++ List.replicate 20 0x11 ++ [192]

def legacyCreationRlp : Bytes := [200, 128, 1, 130, 82, 8, 128, 128, 128]

def mainnetCreationRlp : Bytes := [203, 128, 1, 130, 82, 8, 128, 128, 128, 1, 128, 128]

/-- Reads these lists. -/
def creationsRlp : AlloyRlp where
  decodeLegacy bytes :=
    if bytes = legacyCreationRlp then .ok (legacyCreation none, [])
    else if bytes = mainnetCreationRlp then .ok (legacyCreation (some 1), [])
    else .error "not read"
  decodeEip1559 bytes :=
    if bytes = creationRlp then .ok (creation [], [])
    else if bytes = accessCreationRlp then .ok (creation oneAccess, [])
    else .error "not read"
  decodeEnvelope _ := none
  typeError _ := "not read"
  hexError _ := "not read"
  base64Error _ := "not read"

/-- A request without metadata. -/
def bareOptions : VisualSignOptions where
  decodeTransfers := true
  transactionName := none
  metadata := none
  developerConfig := none
  includeIntermediateOutput := false

theorem decode_creation :
    decodeUnsignedTransactionBytes creationsRlp (2 :: creationRlp) =
        .ok (.supported (.eip1559 (creation []))) ∧
      decodeUnsignedTransactionBytes creationsRlp (2 :: accessCreationRlp) =
        .ok (.supported (.eip1559 (creation oneAccess))) :=
  ⟨rfl, rfl⟩

theorem decode_legacyCreation :
    decodeUnsignedTransactionBytes creationsRlp legacyCreationRlp =
        .ok (.supported (.legacy (legacyCreation none))) ∧
      decodeUnsignedTransactionBytes creationsRlp mainnetCreationRlp =
        .ok (.supported (.legacy (legacyCreation (some 1)))) :=
  ⟨rfl, rfl⟩

/-- The access list, and the chain of a legacy transaction, are lost. -/
theorem envelope_display_lossy :
    (∃ payload left right,
      decodeUnsignedTransactionBytes creationsRlp (2 :: creationRlp) = .ok left ∧
      decodeUnsignedTransactionBytes creationsRlp (2 :: accessCreationRlp) = .ok right ∧
      wethConverter.convertTransactionInner envelopeFormats emptyAbi noSignatures left
        bareOptions = .ok payload ∧
      wethConverter.convertTransactionInner envelopeFormats emptyAbi noSignatures right
        bareOptions = .ok payload ∧ left ≠ right) ∧
    ∃ payload left right,
      decodeUnsignedTransactionBytes creationsRlp legacyCreationRlp = .ok left ∧
      decodeUnsignedTransactionBytes creationsRlp mainnetCreationRlp = .ok right ∧
      wethConverter.convertTransactionInner envelopeFormats emptyAbi noSignatures left
        bareOptions = .ok payload ∧
      wethConverter.convertTransactionInner envelopeFormats emptyAbi noSignatures right
        bareOptions = .ok payload ∧ left ≠ right := by
  constructor
  · refine ⟨_, _, _, decode_creation.1, decode_creation.2,
      convert_of_no_metadata _ _ _ _ _ rfl rfl, convert_of_no_metadata _ _ _ _ _ rfl rfl, ?_⟩
    intro hsame
    cases hsame
  · refine ⟨_, _, _, decode_legacyCreation.1, decode_legacyCreation.2,
      convert_of_no_metadata _ _ _ _ _ rfl rfl, convert_of_no_metadata _ _ _ _ _ rfl rfl, ?_⟩
    intro hsame
    cases hsame

theorem envelope_display_exact_creation :
    ∃ leftTx rightTx leftPayload rightPayload,
      decodeUnsignedTransactionBytes creationsRlp (2 :: creationRlp) = .ok (.supported leftTx) ∧
      decodeUnsignedTransactionBytes creationsRlp mainnetCreationRlp = .ok (.supported rightTx) ∧
      wethConverter.convertTransactionInner envelopeFormats emptyAbi noSignatures
        (.supported leftTx) bareOptions = .ok leftPayload ∧
      wethConverter.convertTransactionInner envelopeFormats emptyAbi noSignatures
        (.supported rightTx) bareOptions = .ok rightPayload ∧ leftPayload ≠ rightPayload := by
  obtain ⟨leftTx, rightTx, hleft, hright, hexact⟩ := envelope_display_exact envelopeFormats emptyAbi
    noSignatures wethConverter creationsRlp showsEnvelope_envelopeFormats decode_creation.1
    decode_legacyCreation.2
  cases hleft
  cases hright
  obtain ⟨leftPayload, rightPayload, hleft, hright, hiff⟩ :=
    hexact bareOptions bareOptions rfl rfl rfl rfl
  refine ⟨_, _, leftPayload, rightPayload, decode_creation.1, decode_legacyCreation.2, hleft,
    hright, ?_⟩
  intro hsame
  cases (hiff.1 hsame).1

end VisualSignParser.Ethereum
