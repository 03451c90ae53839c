import VisualSignParser.Codec.Base58
import VisualSignParser.Codec.DecimalValue
import VisualSignParser.Codec.Delimited
import VisualSignParser.Codec.Sha256
import VisualSignParser.VisualSign.FieldBuilders
import VisualSignParser.VisualSign.Registry
import VisualSignParser.VisualSign.Shape

/-!
# The contracts of a Tron transaction

The contracts of a transaction are shown one behind the other in one list of fields.
The fields of a contract start with its type, and no other field has that label, so
the list can be cut back into contracts and each of them read off its fields.
-/

namespace VisualSignParser.Tron

open VisualSignParser.Framing
open VisualSignParser.Outcome
open VisualSignParser.Sha256
open VisualSignParser.VisualSign

/-! ## Messages -/

@[ext]
structure TransferContract where
  ownerAddress : Bytes
  toAddress : Bytes
  amount : Int64

/-- The resource is the number of its code, known or not. -/
@[ext]
structure FreezeBalanceV2Contract where
  ownerAddress : Bytes
  frozenBalance : Int64
  resource : Int32

@[ext]
structure UnfreezeBalanceV2Contract where
  ownerAddress : Bytes
  unfreezeBalance : Int64
  resource : Int32

@[ext]
structure WithdrawExpireUnfreezeContract where
  ownerAddress : Bytes

@[ext]
structure WithdrawBalanceContract where
  ownerAddress : Bytes

@[ext]
structure DelegateResourceContract where
  ownerAddress : Bytes
  resource : Int32
  balance : Int64
  receiverAddress : Bytes
  lock : Bool
  lockPeriod : Int64

@[ext]
structure UnDelegateResourceContract where
  ownerAddress : Bytes
  resource : Int32
  balance : Int64
  receiverAddress : Bytes

@[ext]
structure Vote where
  voteAddress : Bytes
  voteCount : Int64

@[ext]
structure VoteWitnessContract where
  ownerAddress : Bytes
  votes : List Vote

/-- `parse_from_bytes` of the generated messages, with the text of the error. -/
structure ContractParsers where
  transfer : Bytes → Except String TransferContract
  freezeBalanceV2 : Bytes → Except String FreezeBalanceV2Contract
  unfreezeBalanceV2 : Bytes → Except String UnfreezeBalanceV2Contract
  withdrawExpireUnfreeze : Bytes → Except String WithdrawExpireUnfreezeContract
  withdrawBalance : Bytes → Except String WithdrawBalanceContract
  delegateResource : Bytes → Except String DelegateResourceContract
  unDelegateResource : Bytes → Except String UnDelegateResourceContract
  voteWitness : Bytes → Except String VoteWitnessContract

/-! ## Texts -/

/-- `bs58::encode` with the check sum. -/
def encodeWithCheck (bytes : Bytes) : String :=
  Base58.encode (bytes ++ (sha256 (sha256 bytes).val).val.take 4)

def tronAddressLen : ℕ := 21

def tronMainnetPrefix : UInt8 := 0x41

def addressToBase58 (addressBytes : Bytes) : String :=
  if addressBytes.length ≠ tronAddressLen ∨ addressBytes[0]? ≠ some tronMainnetPrefix then
    "<invalid Tron address: " ++ Hex.encode addressBytes ++ ">"
  else encodeWithCheck addressBytes

def resourceLabel (resource : Int32) : String :=
  if resource = 0 then "BANDWIDTH"
  else if resource = 1 then "ENERGY"
  else if resource = 2 then "TRON_POWER"
  else "UNKNOWN(" ++ toString resource.toInt ++ ")"

/-- The sign and the magnitude, which fits a `u64` for every amount. -/
def signAndMagnitude (sun : Int64) : String × UInt64 :=
  if sun < 0 then ("-", UInt64.ofNat sun.toInt.natAbs) else ("", sun.toUInt64)

def sunToTrxString (sun : Int64) : String :=
  let (sign, magnitude) := signAndMagnitude sun
  let whole := magnitude / 1000000
  let frac := magnitude % 1000000
  if frac = 0 then sign ++ toString whole.toNat
  -- The loop pops the zeros at the end.
  else sign ++ toString whole.toNat ++ "." ++
    String.ofList (Decimal.trimZeros (Decimal.padded 6 frac.toNat))

/-- The sign and the magnitude are those of the number, the least 64-bit number
included, whose magnitude does not fit into the signed type. -/
theorem signAndMagnitude_eq (sun : Int64) :
    (signAndMagnitude sun).1 = (if sun.toInt < 0 then "-" else "") ∧
      (signAndMagnitude sun).2.toNat = sun.toInt.natAbs := by
  have hlower := sun.le_toInt
  have hsign : sun < 0 ↔ sun.toInt < 0 := Int64.lt_iff_toInt_lt
  rw [signAndMagnitude]
  by_cases hneg : sun < 0
  · have hlt := hsign.1 hneg
    rw [if_pos hneg, if_pos hlt]
    have hbound : sun.toInt.natAbs < 2 ^ 64 := by omega
    exact ⟨rfl, UInt64.toNat_ofNat_of_lt' hbound⟩
  · have hpos : 0 ≤ sun := Int64.not_lt.1 hneg
    have hnonneg : ¬ sun.toInt < 0 := fun hlt => hneg (hsign.2 hlt)
    rw [if_neg hneg, if_neg hnonneg]
    apply And.intro rfl
    calc
      sun.toUInt64.toNat = sun.toNatClampNeg := Int64.toNat_toUInt64_of_le hpos
      _ = sun.toInt.toNat := rfl
      _ = sun.toInt.natAbs := by omega

/-- The magnitude of an amount in units, behind its sign. -/
theorem sunToTrxString_eq (sun : Int64) :
    sunToTrxString sun =
      (if sun.toInt < 0 then "-" else "") ++ Decimal.trimmedText sun.toInt.natAbs 6 := by
  obtain ⟨hsign, hmagnitude⟩ := signAndMagnitude_eq sun
  have hwhole : ((signAndMagnitude sun).2 / 1000000).toNat = sun.toInt.natAbs / 10 ^ 6 := by
    rw [UInt64.toNat_div, hmagnitude]
    rfl
  have hfrac : ((signAndMagnitude sun).2 % 1000000).toNat = sun.toInt.natAbs % 10 ^ 6 := by
    rw [UInt64.toNat_mod, hmagnitude]
    rfl
  have hzero : (signAndMagnitude sun).2 % 1000000 = 0 ↔ sun.toInt.natAbs % 10 ^ 6 = 0 := by
    rw [← hfrac, ← UInt64.toNat_inj]
    rfl
  rw [sunToTrxString]
  dsimp only
  rw [hsign, hwhole, hfrac, Decimal.trimmedText]
  by_cases hfraction : sun.toInt.natAbs % 10 ^ 6 = 0
  · rw [if_pos (hzero.2 hfraction), if_pos hfraction]
  · rw [if_neg (fun heq => hfraction (hzero.1 heq)), if_neg hfraction, String.append_assoc,
      String.append_assoc, String.append_assoc]

/-! ## Times -/

section Times

-- `DateTime::from_timestamp_millis` and the text of the time.
variable (formatMillis : Int64 → Option String)

def formatTimestampMs (ms : Int64) : String := (formatMillis ms).getD "invalid timestamp"

/-- A distance in the largest unit that it reaches, and whether it is a rough one. -/
def distanceUnit (absMs : ℕ) : ℕ × String × Bool :=
  if absMs < 60 * 1000 then (absMs / 1000, "second", false)
  else if absMs < 3600 * 1000 then (absMs / (60 * 1000), "minute", false)
  else if absMs < 86400 * 1000 then (absMs / (3600 * 1000), "hour", true)
  else if absMs < 30 * 86400 * 1000 then (absMs / (86400 * 1000), "day", true)
  else (absMs / (30 * 86400 * 1000), "month", true)

def relativeText (diffMs : ℤ) : String :=
  if diffMs.natAbs < 1000 then "just now"
  else
    let (n, unit, approx) := distanceUnit diffMs.natAbs
    let rendered := (if approx then "about " else "") ++ toString n ++ " " ++ unit ++
      (if n = 1 then "" else "s")
    if 0 < diffMs then "in " ++ rendered else rendered ++ " ago"

def formatRelativeMs (ms nowMs : Int64) : Option String :=
  (formatMillis ms).map fun _ => relativeText (ms.toInt - nowMs.toInt)

def renderTimeField (ms nowMs : Int64) : String :=
  match formatRelativeMs formatMillis ms nowMs with
  | some relative =>
      formatTimestampMs formatMillis ms ++ " (" ++ toString ms.toInt ++ " ms, " ++ relative ++ ")"
  | none => formatTimestampMs formatMillis ms ++ " (" ++ toString ms.toInt ++ " ms)"

end Times

/-! ## Fields of a contract -/

def addressField (label : String) (addressBytes : Bytes) : AnnotatedPayloadField :=
  createAddressField label (addressToBase58 addressBytes) none none none none

def trxField (label : String) (sun : Int64) : Except VisualSignError AnnotatedPayloadField :=
  createAmountField label (sunToTrxString sun) "TRX"

def contractTypeField (text : String) : AnnotatedPayloadField := createTextField "Contract Type" text

def resourceField (resource : Int32) : AnnotatedPayloadField :=
  createTextField "Resource" (resourceLabel resource)

def transferFields (transfer : TransferContract) :
    Except VisualSignError (List AnnotatedPayloadField) := do
  let amount ← trxField "Amount" transfer.amount
  return [contractTypeField "TransferContract (TRX Transfer)",
    addressField "From" transfer.ownerAddress, addressField "To" transfer.toAddress, amount]

def freezeBalanceV2Fields (freeze : FreezeBalanceV2Contract) :
    Except VisualSignError (List AnnotatedPayloadField) := do
  let balance ← trxField "Frozen Balance" freeze.frozenBalance
  return [contractTypeField "FreezeBalanceV2 (Stake)", addressField "Owner" freeze.ownerAddress,
    balance, resourceField freeze.resource]

def unfreezeBalanceV2Fields (unfreeze : UnfreezeBalanceV2Contract) :
    Except VisualSignError (List AnnotatedPayloadField) := do
  let balance ← trxField "Unfreeze Balance" unfreeze.unfreezeBalance
  return [contractTypeField "UnfreezeBalanceV2 (Unstake)",
    addressField "Owner" unfreeze.ownerAddress, balance, resourceField unfreeze.resource]

def withdrawExpireUnfreezeFields (withdraw : WithdrawExpireUnfreezeContract) :
    List AnnotatedPayloadField :=
  [contractTypeField "WithdrawExpireUnfreeze (Claim Unfrozen)",
    addressField "Owner" withdraw.ownerAddress]

def withdrawBalanceFields (withdraw : WithdrawBalanceContract) : List AnnotatedPayloadField :=
  [contractTypeField "WithdrawBalance (Claim Rewards)", addressField "Owner" withdraw.ownerAddress]

/-- A period that is the default is left out where nothing is locked. -/
def lockPeriodFields (delegate : DelegateResourceContract) : List AnnotatedPayloadField :=
  if delegate.lock || delegate.lockPeriod != 0 then
    [createTextField "Lock Period" (toString delegate.lockPeriod.toInt)]
  else []

def delegateResourceFields (delegate : DelegateResourceContract) :
    Except VisualSignError (List AnnotatedPayloadField) := do
  let balance ← trxField "Balance" delegate.balance
  return [contractTypeField "DelegateResource", addressField "Owner" delegate.ownerAddress,
    addressField "Receiver" delegate.receiverAddress, resourceField delegate.resource, balance,
    createTextField "Lock" (if delegate.lock then "true" else "false")] ++
    lockPeriodFields delegate

def unDelegateResourceFields (undelegate : UnDelegateResourceContract) :
    Except VisualSignError (List AnnotatedPayloadField) := do
  let balance ← trxField "Balance" undelegate.balance
  return [contractTypeField "UnDelegateResource", addressField "Owner" undelegate.ownerAddress,
    addressField "Receiver" undelegate.receiverAddress, resourceField undelegate.resource, balance]

/-- `i64::saturating_add`. -/
def saturatingAdd (left right : Int64) : Int64 :=
  if Int64.maxValue.toInt < left.toInt + right.toInt then Int64.maxValue
  else if left.toInt + right.toInt < Int64.minValue.toInt then Int64.minValue
  else left + right

/-- The two fields of a vote, with the position of the vote. -/
def voteFields (found : Vote × ℕ) : List AnnotatedPayloadField :=
  let number := toString (found.2 + 1)
  [addressField ("Vote " ++ number ++ " (SR)") found.1.voteAddress,
    createTextField ("Vote " ++ number ++ " (Count)") (toString found.1.voteCount.toInt)]

def votesSubtitle (votes : List Vote) : String :=
  let total := (votes.map Vote.voteCount).foldl saturatingAdd 0
  toString total.toInt ++ " votes across " ++ toString votes.length ++ " SRs"

def voteWitnessFields (vote : VoteWitnessContract) : List AnnotatedPayloadField :=
  let subtitle := votesSubtitle vote.votes
  [contractTypeField "Vote Witness", addressField "Owner" vote.ownerAddress,
    annotateField (.previewLayout ⟨"Vote Witness: " ++ subtitle, "Votes"⟩
      ⟨some ⟨"Vote Witness"⟩, some ⟨subtitle⟩, some ⟨[createTextField "Summary" subtitle]⟩,
        some ⟨vote.votes.zipIdx.flatMap voteFields⟩⟩)]

/-! ## The list of fields -/

section Convert

variable (parsers : ContractParsers)

/-- A message that cannot be read ends the conversion. -/
def decoded {Body : Type} (name : String) (message : Except String Body) :
    Except VisualSignError Body :=
  message.mapError fun error => .conversionError ("decode " ++ name ++ ": " ++ error)

def decodeContract (typeUrl : String) (value : Bytes) :
    Except VisualSignError (List AnnotatedPayloadField) :=
  match typeUrl with
  | "type.googleapis.com/protocol.TransferContract" => do
      transferFields (← decoded "TransferContract" (parsers.transfer value))
  | "type.googleapis.com/protocol.FreezeBalanceV2Contract" => do
      freezeBalanceV2Fields (← decoded "FreezeBalanceV2Contract" (parsers.freezeBalanceV2 value))
  | "type.googleapis.com/protocol.UnfreezeBalanceV2Contract" => do
      unfreezeBalanceV2Fields
        (← decoded "UnfreezeBalanceV2Contract" (parsers.unfreezeBalanceV2 value))
  | "type.googleapis.com/protocol.WithdrawExpireUnfreezeContract" => do
      return withdrawExpireUnfreezeFields
        (← decoded "WithdrawExpireUnfreezeContract" (parsers.withdrawExpireUnfreeze value))
  | "type.googleapis.com/protocol.WithdrawBalanceContract" => do
      return withdrawBalanceFields
        (← decoded "WithdrawBalanceContract" (parsers.withdrawBalance value))
  | "type.googleapis.com/protocol.DelegateResourceContract" => do
      delegateResourceFields
        (← decoded "DelegateResourceContract" (parsers.delegateResource value))
  | "type.googleapis.com/protocol.UnDelegateResourceContract" => do
      unDelegateResourceFields
        (← decoded "UnDelegateResourceContract" (parsers.unDelegateResource value))
  | "type.googleapis.com/protocol.VoteWitnessContract" => do
      return voteWitnessFields (← decoded "VoteWitnessContract" (parsers.voteWitness value))
  | other => .ok [contractTypeField (other ++ " (not fully decoded)")]

/-- `google.protobuf.Any` -/
structure AnyMessage where
  typeUrl : String
  value : Bytes

/-- What is read of a transaction. -/
structure RawData where
  timestamp : Int64
  expiration : Int64
  feeLimit : Int64
  refBlockBytes : Bytes
  refBlockHash : Bytes
  contract : List (Option AnyMessage)

/-- One turn of the loop over the contracts. -/
def contractFields : Option AnyMessage → Except VisualSignError (List AnnotatedPayloadField)
  | some parameter => decodeContract parsers parameter.typeUrl parameter.value
  | none => .ok [contractTypeField "<missing parameter>"]

-- The texts of times, and the time of the conversion.
variable (formatMillis : Int64 → Option String) (nowMs : Int64)

def convertToVisualSignPayload (rawData : RawData) (options : VisualSignOptions) :
    Except VisualSignError SignablePayload := do
  let feeLimit ← trxField "Fee Limit" rawData.feeLimit
  let contracts ← rawData.contract.mapM (contractFields parsers)
  return {
    fields := ([createTextField "Network" "Tron",
      createTextField "Timestamp" (renderTimeField formatMillis rawData.timestamp nowMs),
      createTextField "Expiration" (renderTimeField formatMillis rawData.expiration nowMs), feeLimit,
      createTextField "Ref Block" (Hex.encode rawData.refBlockBytes),
      createTextField "Ref Block Hash" (Hex.encode rawData.refBlockHash)] ++
      contracts.flatten).map AnnotatedPayloadField.signablePayloadField
    payloadType := "TronTx"
    subtitle := none
    title := options.transactionName.getD "Tron Transaction"
    version := "0" }

end Convert

/-! ## Texts are told apart -/

/-- Two encodings with checksums are the same only for the same bytes, provided that
their lengths are the same. -/
theorem encodeWithCheck_inj {left right : Bytes} (hlength : left.length = right.length)
    (heq : encodeWithCheck left = encodeWithCheck right) : left = right :=
  (List.append_inj (Base58.encode_injective heq) hlength).1

/-- The marker starts with a character that no address has. -/
theorem encodeWithCheck_ne_marker (left right : Bytes) :
    encodeWithCheck left ≠ "<invalid Tron address: " ++ Hex.encode right ++ ">" := by
  intro heq
  have hmem : '<' ∈ (encodeWithCheck left).toList := by
    rw [heq, String.toList_append, String.toList_append]
    exact List.mem_append_left _ (List.mem_append_left _ (List.mem_cons_self ..))
  exact absurd (Base58.mem_alphabet_of_mem_encode hmem) (by decide)

/-- Every address has a text of its own: an address of the network in base 58 with a
checksum, and any other in hex digits within a note. -/
theorem addressToBase58_injective : Function.Injective addressToBase58 := by
  intro left right heq
  rw [addressToBase58, addressToBase58] at heq
  split_ifs at heq with hleft hright hright
  · exact Hex.encode_injective ((String.append_right_inj _).1 ((String.append_left_inj _).1 heq))
  · exact absurd heq.symm (encodeWithCheck_ne_marker right left)
  · exact absurd heq (encodeWithCheck_ne_marker left right)
  · rw [not_or, not_not] at hleft hright
    exact encodeWithCheck_inj (hleft.1.trans hright.1.symm) heq

/-- A label of a known code is no label of an unknown one. -/
theorem unknown_ne {label : String} (hlabel : label.toList.head? ≠ some 'U') (text : String) :
    "UNKNOWN(" ++ text ++ ")" ≠ label := by
  rintro rfl
  rw [String.toList_append, String.toList_append] at hlabel
  exact hlabel rfl

/-- Every code of a resource has a label of its own, the codes without a name
included. -/
theorem resourceLabel_injective : Function.Injective resourceLabel := by
  have hunknown (text : String) : "UNKNOWN(" ++ text ++ ")" ≠ "BANDWIDTH" ∧
      "UNKNOWN(" ++ text ++ ")" ≠ "ENERGY" ∧ "UNKNOWN(" ++ text ++ ")" ≠ "TRON_POWER" :=
    ⟨unknown_ne (by decide) text, unknown_ne (by decide) text, unknown_ne (by decide) text⟩
  intro left right heq
  unfold resourceLabel at heq
  split_ifs at heq with hleft hright hright hright hleft hright hright hright hleft hright hright
    hright hright hright hright
  all_goals first
    | (subst_vars; rfl)
    | exact absurd heq (by decide)
    | exact absurd heq (hunknown _).1
    | exact absurd heq (hunknown _).2.1
    | exact absurd heq (hunknown _).2.2
    | exact absurd heq.symm (hunknown _).1
    | exact absurd heq.symm (hunknown _).2.1
    | exact absurd heq.symm (hunknown _).2.2
    | skip
  have htext := (String.append_right_inj _).1 ((String.append_left_inj _).1 heq)
  exact Int32.toInt_inj.1 (Decimal.toString_int_injective htext)

/-- The text denotes the amount in whole units. -/
theorem textValue_sunToTrxString (sun : Int64) :
    Decimal.textValue (sunToTrxString sun) = sun.toInt / 10 ^ 6 := by
  rw [sunToTrxString_eq]
  by_cases hneg : sun.toInt < 0
  · have habs : (sun.toInt.natAbs : ℚ) = -sun.toInt := by
      rw [Nat.cast_natAbs, abs_of_neg hneg, Int.cast_neg]
    rw [if_pos hneg, Decimal.textValue_minus, habs, neg_div, neg_neg]
  · have habs : (sun.toInt.natAbs : ℚ) = sun.toInt := by
      rw [Nat.cast_natAbs, abs_of_nonneg (not_lt.1 hneg)]
    rw [if_neg hneg, String.empty_append, Decimal.textValue_trimmedText, habs]

/-- An amount can be recovered from its text, as the six decimals are always
written. -/
theorem sunToTrxString_injective : Function.Injective sunToTrxString := by
  intro left right heq
  have hvalue := congrArg Decimal.textValue heq
  rw [textValue_sunToTrxString, textValue_sunToTrxString] at hvalue
  have hpow : (10 : ℚ) ^ 6 ≠ 0 := by norm_num
  exact Int64.toInt_inj.1 (Int.cast_injective ((div_left_inj' hpow).1 hvalue))

/-- The text of an amount, negative ones included, passes the check that amount
fields make, so an amount field never fails. -/
theorem validateNumberString_sunToTrxString (sun : Int64) :
    validateNumberString (sunToTrxString sun) = .ok () := by
  rw [sunToTrxString_eq]
  split_ifs with hneg
  · have hproper := isUnsignedProperNumber_trimmedText sun.toInt.natAbs 6
    rw [validateNumberString, String.toList_append]
    exact if_pos hproper
  · rw [String.empty_append]
    exact validateNumberString_trimmedText _ 6

/-! ## Messages behind the fields -/

/-- The supported types. -/
inductive ContractType where
  | transfer
  | freezeBalanceV2
  | unfreezeBalanceV2
  | withdrawExpireUnfreeze
  | withdrawBalance
  | delegateResource
  | unDelegateResource
  | voteWitness

/-- The text of the type, which comes first. -/
def ContractType.text : ContractType → String
  | transfer => "TransferContract (TRX Transfer)"
  | freezeBalanceV2 => "FreezeBalanceV2 (Stake)"
  | unfreezeBalanceV2 => "UnfreezeBalanceV2 (Unstake)"
  | withdrawExpireUnfreeze => "WithdrawExpireUnfreeze (Claim Unfrozen)"
  | withdrawBalance => "WithdrawBalance (Claim Rewards)"
  | delegateResource => "DelegateResource"
  | unDelegateResource => "UnDelegateResource"
  | voteWitness => "Vote Witness"

theorem ContractType.text_injective : Function.Injective ContractType.text := by
  intro left right heq
  cases left <;> cases right <;> first | rfl | exact absurd heq (by decide)

/-- A message of one of the supported types. -/
inductive ContractMessage where
  | transfer (contract : TransferContract)
  | freezeBalanceV2 (contract : FreezeBalanceV2Contract)
  | unfreezeBalanceV2 (contract : UnfreezeBalanceV2Contract)
  | withdrawExpireUnfreeze (contract : WithdrawExpireUnfreezeContract)
  | withdrawBalance (contract : WithdrawBalanceContract)
  | delegateResource (contract : DelegateResourceContract)
  | unDelegateResource (contract : UnDelegateResourceContract)
  | voteWitness (contract : VoteWitnessContract)

/-- The message a parameter holds, if its type is supported and its bytes can be read. -/
def ContractMessage.ofAny (parsers : ContractParsers) (parameter : AnyMessage) :
    Option ContractMessage :=
  match parameter.typeUrl with
  | "type.googleapis.com/protocol.TransferContract" =>
      (parsers.transfer parameter.value).toOption.map transfer
  | "type.googleapis.com/protocol.FreezeBalanceV2Contract" =>
      (parsers.freezeBalanceV2 parameter.value).toOption.map freezeBalanceV2
  | "type.googleapis.com/protocol.UnfreezeBalanceV2Contract" =>
      (parsers.unfreezeBalanceV2 parameter.value).toOption.map unfreezeBalanceV2
  | "type.googleapis.com/protocol.WithdrawExpireUnfreezeContract" =>
      (parsers.withdrawExpireUnfreeze parameter.value).toOption.map withdrawExpireUnfreeze
  | "type.googleapis.com/protocol.WithdrawBalanceContract" =>
      (parsers.withdrawBalance parameter.value).toOption.map withdrawBalance
  | "type.googleapis.com/protocol.DelegateResourceContract" =>
      (parsers.delegateResource parameter.value).toOption.map delegateResource
  | "type.googleapis.com/protocol.UnDelegateResourceContract" =>
      (parsers.unDelegateResource parameter.value).toOption.map unDelegateResource
  | "type.googleapis.com/protocol.VoteWitnessContract" =>
      (parsers.voteWitness parameter.value).toOption.map voteWitness
  | _ => none

namespace ContractMessage

def contractType : ContractMessage → ContractType
  | transfer _ => .transfer
  | freezeBalanceV2 _ => .freezeBalanceV2
  | unfreezeBalanceV2 _ => .unfreezeBalanceV2
  | withdrawExpireUnfreeze _ => .withdrawExpireUnfreeze
  | withdrawBalance _ => .withdrawBalance
  | delegateResource _ => .delegateResource
  | unDelegateResource _ => .unDelegateResource
  | voteWitness _ => .voteWitness

/-- The field of an amount that is not refused. -/
def trxAmount (label : String) (sun : Int64) : AnnotatedPayloadField :=
  annotateField (.amountV2 ⟨sunToTrxString sun ++ " " ++ "TRX", label⟩
    ⟨sunToTrxString sun, some "TRX"⟩)

/-- The fields behind the type. -/
def details : ContractMessage → List AnnotatedPayloadField
  | transfer contract => [addressField "From" contract.ownerAddress,
      addressField "To" contract.toAddress, trxAmount "Amount" contract.amount]
  | freezeBalanceV2 contract => [addressField "Owner" contract.ownerAddress,
      trxAmount "Frozen Balance" contract.frozenBalance, resourceField contract.resource]
  | unfreezeBalanceV2 contract => [addressField "Owner" contract.ownerAddress,
      trxAmount "Unfreeze Balance" contract.unfreezeBalance, resourceField contract.resource]
  | withdrawExpireUnfreeze contract => [addressField "Owner" contract.ownerAddress]
  | withdrawBalance contract => [addressField "Owner" contract.ownerAddress]
  | delegateResource contract => [addressField "Owner" contract.ownerAddress,
      addressField "Receiver" contract.receiverAddress, resourceField contract.resource,
      trxAmount "Balance" contract.balance,
      createTextField "Lock" (if contract.lock then "true" else "false")] ++
      lockPeriodFields contract
  | unDelegateResource contract => [addressField "Owner" contract.ownerAddress,
      addressField "Receiver" contract.receiverAddress, resourceField contract.resource,
      trxAmount "Balance" contract.balance]
  | voteWitness contract => (voteWitnessFields contract).tail

def shown (message : ContractMessage) : List AnnotatedPayloadField :=
  contractTypeField message.contractType.text :: message.details

end ContractMessage

open ContractMessage (trxAmount)

theorem trxField_eq (label : String) (sun : Int64) : trxField label sun = .ok (trxAmount label sun) :=
  createAmountField_eq label (validateNumberString_sunToTrxString sun) (by decide)

theorem decoded_of_toOption {Body : Type} {name : String} {message : Except String Body} {body : Body}
    (hmessage : message.toOption = some body) : decoded name message = .ok body := by
  cases message with
  | error error => cases hmessage
  | ok found => rw [← Option.some.inj hmessage]; rfl

theorem transferFields_eq (contract : TransferContract) :
    transferFields contract = .ok (ContractMessage.transfer contract).shown := by
  rw [transferFields, trxField_eq]
  rfl

theorem freezeBalanceV2Fields_eq (contract : FreezeBalanceV2Contract) :
    freezeBalanceV2Fields contract = .ok (ContractMessage.freezeBalanceV2 contract).shown := by
  rw [freezeBalanceV2Fields, trxField_eq]
  rfl

theorem unfreezeBalanceV2Fields_eq (contract : UnfreezeBalanceV2Contract) :
    unfreezeBalanceV2Fields contract = .ok (ContractMessage.unfreezeBalanceV2 contract).shown := by
  rw [unfreezeBalanceV2Fields, trxField_eq]
  rfl

theorem delegateResourceFields_eq (contract : DelegateResourceContract) :
    delegateResourceFields contract = .ok (ContractMessage.delegateResource contract).shown := by
  rw [delegateResourceFields, trxField_eq]
  rfl

theorem unDelegateResourceFields_eq (contract : UnDelegateResourceContract) :
    unDelegateResourceFields contract = .ok (ContractMessage.unDelegateResource contract).shown := by
  rw [unDelegateResourceFields, trxField_eq]
  rfl

/-- A parameter that holds a message is shown with the fields of the message. -/
theorem decodeContract_of_message {parsers : ContractParsers} {parameter : AnyMessage}
    {message : ContractMessage} (hmessage : ContractMessage.ofAny parsers parameter = some message) :
    decodeContract parsers parameter.typeUrl parameter.value = .ok message.shown := by
  unfold ContractMessage.ofAny at hmessage
  unfold decodeContract
  split at hmessage
  all_goals
    first
    | cases hmessage
    | obtain ⟨contract, hcontract, rfl⟩ := Option.map_eq_some_iff.1 hmessage
      simp only [decoded_of_toOption hcontract, ok_bind]
  · exact transferFields_eq contract
  · exact freezeBalanceV2Fields_eq contract
  · exact unfreezeBalanceV2Fields_eq contract
  · rfl
  · rfl
  · exact delegateResourceFields_eq contract
  · exact unDelegateResourceFields_eq contract
  · rfl

/-! ## Fields of one contract -/

/-- The address can be recovered from its field. -/
theorem addressField_inj {label other : String} {left right : Bytes}
    (heq : addressField label left = addressField other right) : left = right := by
  simp only [addressField, createAddressField, annotateField, AnnotatedPayloadField.mk.injEq,
    SignablePayloadField.addressV2.injEq, SignablePayloadFieldAddressV2.mk.injEq] at heq
  exact addressToBase58_injective heq.1.2.1

theorem trxAmount_inj {label other : String} {left right : Int64}
    (heq : trxAmount label left = trxAmount other right) : left = right := by
  simp only [trxAmount, annotateField, AnnotatedPayloadField.mk.injEq,
    SignablePayloadField.amountV2.injEq, SignablePayloadFieldAmountV2.mk.injEq] at heq
  exact sunToTrxString_injective heq.1.2.1

theorem resourceField_inj {left right : Int32} (heq : resourceField left = resourceField right) :
    left = right :=
  resourceLabel_injective (createTextField_inj heq)

theorem lock_inj {left right : Bool}
    (heq : createTextField "Lock" (if left then "true" else "false") =
      createTextField "Lock" (if right then "true" else "false")) : left = right := by
  have htext := createTextField_inj heq
  cases left <;> cases right <;> first | rfl | exact absurd htext (by decide)

/-- A period that is not shown is the default. -/
theorem lockPeriod_inj {left right : DelegateResourceContract} (hlock : left.lock = right.lock)
    (heq : lockPeriodFields left = lockPeriodFields right) : left.lockPeriod = right.lockPeriod := by
  rw [lockPeriodFields, lockPeriodFields, hlock] at heq
  split_ifs at heq with hleft hright hright
  · have htext := createTextField_inj (List.cons.inj heq).1
    exact Int64.toInt_inj.1 (Decimal.toString_int_injective htext)
  · rw [Bool.not_eq_true, Bool.or_eq_false_iff, bne_eq_false_iff_eq] at hleft hright
    rw [hleft.2, hright.2]

theorem voteFields_inj {left right : List Vote} {start : ℕ}
    (heq : (left.zipIdx start).flatMap voteFields = (right.zipIdx start).flatMap voteFields) :
    left = right := by
  induction left generalizing right start with
  | nil =>
      cases right with
      | nil => rfl
      | cons vote right => cases heq
  | cons vote left ih =>
      cases right with
      | nil => cases heq
      | cons other right =>
          obtain ⟨haddress, hrest⟩ := List.cons.inj heq
          obtain ⟨hcount, hrest⟩ := List.cons.inj hrest
          have hnumber := Decimal.toString_int_injective (createTextField_inj hcount)
          have hvote : vote = other :=
            Vote.ext (addressField_inj haddress) (Int64.toInt_inj.1 hnumber)
          rw [hvote, ih hrest]

/-- The votes can be recovered from their fields, in their order, behind the field
of the owner. -/
theorem votes_inj {left right : VoteWitnessContract}
    (heq : (voteWitnessFields left).tail = (voteWitnessFields right).tail) : left = right := by
  obtain ⟨howner, hrest⟩ := List.cons.inj heq
  obtain ⟨hvotes, -⟩ := List.cons.inj hrest
  simp only [annotateField, AnnotatedPayloadField.mk.injEq, SignablePayloadField.previewLayout.injEq,
    SignablePayloadFieldPreviewLayout.mk.injEq, Option.some.injEq,
    SignablePayloadFieldListLayout.mk.injEq] at hvotes
  exact VoteWitnessContract.ext (addressField_inj howner) (voteFields_inj hvotes.1.2.2.2.2)

/-- The type of a message is read off its first field, and the message off the others. -/
theorem shown_injective : Function.Injective ContractMessage.shown := by
  intro left right heq
  obtain ⟨htype, hdetails⟩ := List.cons.inj heq
  have hkind := ContractType.text_injective (createTextField_inj htype)
  match left, right, hkind with
  | .transfer left, .transfer right, _ =>
      simp only [ContractMessage.details, List.cons.injEq] at hdetails
      obtain ⟨hfrom, hto, hamount, -⟩ := hdetails
      rw [TransferContract.ext (addressField_inj hfrom) (addressField_inj hto)
        (trxAmount_inj hamount)]
  | .freezeBalanceV2 left, .freezeBalanceV2 right, _ =>
      simp only [ContractMessage.details, List.cons.injEq] at hdetails
      obtain ⟨howner, hbalance, hresource, -⟩ := hdetails
      rw [FreezeBalanceV2Contract.ext (addressField_inj howner) (trxAmount_inj hbalance)
        (resourceField_inj hresource)]
  | .unfreezeBalanceV2 left, .unfreezeBalanceV2 right, _ =>
      simp only [ContractMessage.details, List.cons.injEq] at hdetails
      obtain ⟨howner, hbalance, hresource, -⟩ := hdetails
      rw [UnfreezeBalanceV2Contract.ext (addressField_inj howner) (trxAmount_inj hbalance)
        (resourceField_inj hresource)]
  | .withdrawExpireUnfreeze left, .withdrawExpireUnfreeze right, _ =>
      rw [WithdrawExpireUnfreezeContract.ext (addressField_inj (List.cons.inj hdetails).1)]
  | .withdrawBalance left, .withdrawBalance right, _ =>
      rw [WithdrawBalanceContract.ext (addressField_inj (List.cons.inj hdetails).1)]
  | .delegateResource left, .delegateResource right, _ =>
      simp only [ContractMessage.details, List.cons_append, List.nil_append, List.cons.injEq]
        at hdetails
      obtain ⟨howner, hreceiver, hresource, hbalance, hlock, hperiod⟩ := hdetails
      rw [DelegateResourceContract.ext (addressField_inj howner) (resourceField_inj hresource)
        (trxAmount_inj hbalance) (addressField_inj hreceiver) (lock_inj hlock)
        (lockPeriod_inj (lock_inj hlock) hperiod)]
  | .unDelegateResource left, .unDelegateResource right, _ =>
      simp only [ContractMessage.details, List.cons.injEq] at hdetails
      obtain ⟨howner, hreceiver, hresource, hbalance, -⟩ := hdetails
      rw [UnDelegateResourceContract.ext (addressField_inj howner) (resourceField_inj hresource)
        (trxAmount_inj hbalance) (addressField_inj hreceiver)]
  | .voteWitness left, .voteWitness right, _ => rw [votes_inj hdetails]

/-! ## Fields of all contracts -/

def isContractType (field : SignablePayloadField) : Bool := field.common.label = "Contract Type"

/-- The fields of a message in a payload. -/
def ContractMessage.fields (message : ContractMessage) : List SignablePayloadField :=
  message.shown.map AnnotatedPayloadField.signablePayloadField

/-- No field has annotations, so nothing is lost in the payload. -/
theorem annotated_shown (message : ContractMessage) :
    message.fields.map annotateField = message.shown := by
  cases message with
  | delegateResource contract =>
      rw [ContractMessage.fields, ContractMessage.shown, ContractMessage.details, lockPeriodFields]
      split_ifs <;> rfl
  | transfer contract => rfl
  | freezeBalanceV2 contract => rfl
  | unfreezeBalanceV2 contract => rfl
  | withdrawExpireUnfreeze contract => rfl
  | withdrawBalance contract => rfl
  | unDelegateResource contract => rfl
  | voteWitness contract => rfl

theorem fields_injective : Function.Injective ContractMessage.fields := by
  intro left right heq
  apply shown_injective
  rw [← annotated_shown, heq, annotated_shown]

/-- No detail of a contract is labelled as a type. -/
theorem label_details (message : ContractMessage) :
    (message.details.map AnnotatedPayloadField.signablePayloadField).all
      (fun field => !isContractType field) = true := by
  cases message with
  | delegateResource contract =>
      rw [ContractMessage.details, lockPeriodFields]
      split_ifs <;> rfl
  | transfer contract => rfl
  | freezeBalanceV2 contract => rfl
  | unfreezeBalanceV2 contract => rfl
  | withdrawExpireUnfreeze contract => rfl
  | withdrawBalance contract => rfl
  | unDelegateResource contract => rfl
  | voteWitness contract => rfl

/-- The fields of a contract begin with its type, and no other field of it is one,
so that a list of fields can be cut into contracts. -/
theorem headed_fields (message : ContractMessage) :
    Delimited.Headed isContractType message.fields := by
  refine ⟨_, _, rfl, rfl, ?_⟩
  intro other hother
  rw [← Bool.not_eq_true']
  exact List.all_eq_true.1 (label_details message) other hother

section Readable

variable {parsers : ContractParsers} {formatMillis : Int64 → Option String} {nowMs : Int64}

/-- The contracts hold the messages, position by position. -/
def HoldsMessages (parsers : ContractParsers) (rawData : RawData)
    (messages : List ContractMessage) : Prop :=
  List.Forall₂ (fun parameter message => ∃ any, parameter = some any ∧
    ContractMessage.ofAny parsers any = some message) rawData.contract messages

/-- The fields of the contracts stand behind the six of the transaction. -/
def shownContracts (payload : SignablePayload) : List SignablePayloadField := payload.fields.drop 6

/-- The contracts of a transaction are shown one by one, each from its own message. -/
theorem mapM_contractFields {rawData : RawData} {messages : List ContractMessage}
    (hmessages : HoldsMessages parsers rawData messages) :
    rawData.contract.mapM (contractFields parsers) =
      .ok (messages.map ContractMessage.shown) := by
  rw [mapM_eq_ok, List.forall₂_map_right_iff]
  apply List.Forall₂.imp _ hmessages
  rintro parameter message ⟨any, rfl, hmessage⟩
  exact decodeContract_of_message hmessage

variable (formatMillis nowMs) in
/-- Contracts that hold messages are always shown, with the fields of the messages. -/
theorem convert_of_messages {rawData : RawData} {messages : List ContractMessage}
    (hmessages : HoldsMessages parsers rawData messages) (options : VisualSignOptions) :
    ∃ payload, convertToVisualSignPayload parsers formatMillis nowMs rawData options =
        .ok payload ∧
      shownContracts payload = (messages.map ContractMessage.fields).flatten := by
  have hflatten : ((messages.map ContractMessage.shown).flatten.map
      AnnotatedPayloadField.signablePayloadField) =
        (messages.map ContractMessage.fields).flatten := by
    rw [List.map_flatten, List.map_map]
    rfl
  rw [convertToVisualSignPayload, trxField_eq, ok_bind, mapM_contractFields hmessages, ok_bind]
  exact ⟨_, rfl, hflatten⟩

/-- The fields of the contracts are cut in one way only into groups that start with a
type, and no other messages are shown with these fields. -/
theorem contracts_read_back {rawData : RawData} {options : VisualSignOptions}
    {messages : List ContractMessage} {payload : SignablePayload}
    (hmessages : HoldsMessages parsers rawData messages)
    (hpayload : convertToVisualSignPayload parsers formatMillis nowMs rawData options =
      .ok payload) :
    (∀ groups : List (List SignablePayloadField),
      (∀ group ∈ groups, Delimited.Headed isContractType group) →
      groups.flatten = shownContracts payload → groups = messages.map ContractMessage.fields) ∧
    ∀ (other : RawData) (otherNow : Int64) (otherOptions : VisualSignOptions)
      (otherMessages : List ContractMessage) (otherPayload : SignablePayload),
      HoldsMessages parsers other otherMessages →
      convertToVisualSignPayload parsers formatMillis otherNow other otherOptions =
        .ok otherPayload →
      shownContracts otherPayload = shownContracts payload → otherMessages = messages := by
  obtain ⟨shown, hshown, hfields⟩ := convert_of_messages formatMillis nowMs hmessages options
  obtain rfl := Except.ok.inj (hshown.symm.trans hpayload)
  have hheaded (list : List ContractMessage) :
      ∀ group ∈ list.map ContractMessage.fields, Delimited.Headed isContractType group :=
    List.forall_mem_map.2 fun message _ => headed_fields message
  have hcut (groups : List (List SignablePayloadField))
      (hgroups : ∀ group ∈ groups, Delimited.Headed isContractType group)
      (hflatten : groups.flatten = shownContracts shown) :
      groups = messages.map ContractMessage.fields :=
    Delimited.headed_inj hgroups (hheaded messages) (hflatten.trans hfields)
  apply And.intro hcut
  intro other otherNow otherOptions otherMessages otherPayload hother hotherPayload heq
  obtain ⟨otherShown, hotherShown, hotherFields⟩ :=
    convert_of_messages formatMillis otherNow hother otherOptions
  obtain rfl := Except.ok.inj (hotherShown.symm.trans hotherPayload)
  have hgroups := hcut (otherMessages.map ContractMessage.fields) (hheaded otherMessages)
    (hotherFields.symm.trans heq)
  exact List.map_injective_iff.2 fields_injective hgroups

end Readable

/-! ## Claims of an owner -/

/-- The bytes of a claim are the address of its owner; nothing else can be read. -/
def ownerBytes (value : Bytes) : Except String Bytes :=
  if value.take 2 = [0x0A, 0x15] then .ok (value.drop 2) else .error "unexpected EOF"

def ownerParsers : ContractParsers where
  transfer _ := .error "unexpected EOF"
  freezeBalanceV2 _ := .error "unexpected EOF"
  unfreezeBalanceV2 _ := .error "unexpected EOF"
  withdrawExpireUnfreeze value := (ownerBytes value).map .mk
  withdrawBalance value := (ownerBytes value).map .mk
  delegateResource _ := .error "unexpected EOF"
  unDelegateResource _ := .error "unexpected EOF"
  voteWitness _ := .error "unexpected EOF"

def rewardOwner : Bytes := 0x41 :: List.replicate 20 7

/-- The owner claims the rewards and what is no longer frozen. -/
def rewardRaw : RawData where
  timestamp := 0
  expiration := 0
  feeLimit := 0
  refBlockBytes := [0x12, 0x34]
  refBlockHash := []
  contract := [some ⟨"type.googleapis.com/protocol.WithdrawBalanceContract",
      [0x0A, 0x15] ++ rewardOwner⟩,
    some ⟨"type.googleapis.com/protocol.WithdrawExpireUnfreezeContract",
      [0x0A, 0x15] ++ rewardOwner⟩]

def rewardMessages : List ContractMessage :=
  [.withdrawBalance ⟨rewardOwner⟩, .withdrawExpireUnfreeze ⟨rewardOwner⟩]

def rewardOptions : VisualSignOptions := ⟨false, none, none, none, false⟩

theorem contracts_read_back_reward :
    HoldsMessages ownerParsers rewardRaw rewardMessages ∧
      ∃ payload, convertToVisualSignPayload ownerParsers (fun _ => none) 0 rewardRaw rewardOptions =
          .ok payload ∧
        (∀ groups : List (List SignablePayloadField),
          (∀ group ∈ groups, Delimited.Headed isContractType group) →
          groups.flatten = shownContracts payload →
          groups = rewardMessages.map ContractMessage.fields) ∧
        ∀ (other : RawData) (otherNow : Int64) (otherOptions : VisualSignOptions)
          (otherMessages : List ContractMessage) (otherPayload : SignablePayload),
          HoldsMessages ownerParsers other otherMessages →
          convertToVisualSignPayload ownerParsers (fun _ => none) otherNow other otherOptions =
            .ok otherPayload →
          shownContracts otherPayload = shownContracts payload → otherMessages = rewardMessages := by
  have hmessages : HoldsMessages ownerParsers rewardRaw rewardMessages :=
    .cons ⟨_, rfl, rfl⟩ (.cons ⟨_, rfl, rfl⟩ .nil)
  obtain ⟨payload, hpayload, -⟩ :=
    convert_of_messages (fun _ => none) 0 hmessages rewardOptions
  exact ⟨hmessages, payload, hpayload, contracts_read_back hmessages hpayload⟩

end VisualSignParser.Tron
