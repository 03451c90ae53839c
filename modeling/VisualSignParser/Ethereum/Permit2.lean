import VisualSignParser.Codec.Abi
import VisualSignParser.Ethereum.Registry
import VisualSignParser.VisualSign.Shape

/-!
# Calls to Permit2

Four decoders are tried in turn on the same bytes: `approve`, `permit`, the
selector-free layout in which the Universal Router carries a permit, and
`transferFrom`.
-/

namespace VisualSignParser.Ethereum.Permit2

open VisualSignParser.Abi
open VisualSignParser.Framing
open VisualSignParser.VisualSign

/-! ## The calls -/

structure ApproveCall where
  token : Address
  spender : Address
  amount : BitVec 160
  expiration : BitVec 48

def ApproveCall.selector : Bytes := [0x87, 0x51, 0x7c, 0x45]

def ApproveCall.read : Read ApproveCall := do
  let token ← address
  let spender ← address
  let amount ← uint 160
  let expiration ← uint 48
  pure ⟨token, spender, amount, expiration⟩

def ApproveCall.abiDecode (input : Bytes) : Option ApproveCall :=
  decodeCall ApproveCall.selector ApproveCall.read input

structure PermitDetails where
  token : Address
  amount : BitVec 160
  expiration : BitVec 48
  nonce : BitVec 48

def PermitDetails.read : Read PermitDetails := do
  let token ← address
  let amount ← uint 160
  let expiration ← uint 48
  let nonce ← uint 48
  pure ⟨token, amount, expiration, nonce⟩

structure PermitSingle where
  details : PermitDetails
  spender : Address
  sigDeadline : BitVec 256

def PermitSingle.read : Read PermitSingle := do
  let details ← PermitDetails.read
  let spender ← address
  let sigDeadline ← uint 256
  pure ⟨details, spender, sigDeadline⟩

structure PermitCall where
  owner : Address
  permitSingle : PermitSingle
  signature : Bytes

def PermitCall.selector : Bytes := [0x2b, 0x67, 0xb5, 0x70]

def PermitCall.read : Read PermitCall := do
  let owner ← address
  let permitSingle ← PermitSingle.read
  let signature ← bytes
  pure ⟨owner, permitSingle, signature⟩

def PermitCall.abiDecode (input : Bytes) : Option PermitCall :=
  decodeCall PermitCall.selector PermitCall.read input

structure TransferFromCall where
  fromAddress : Address
  toAddress : Address
  amount : BitVec 160
  token : Address

def TransferFromCall.selector : Bytes := [0x36, 0xc7, 0x85, 0x16]

def TransferFromCall.read : Read TransferFromCall := do
  let fromAddress ← address
  let toAddress ← address
  let amount ← uint 160
  let token ← address
  pure ⟨fromAddress, toAddress, amount, token⟩

def TransferFromCall.abiDecode (input : Bytes) : Option TransferFromCall :=
  decodeCall TransferFromCall.selector TransferFromCall.read input

/-- The Universal Router carries a `PermitSingle` as its six words. -/
def decodeCustomPermitParams (input : Bytes) : Option PermitSingle :=
  if input.length < 192 then none else decodeSequence PermitSingle.read (input.take 192)

/-! ## The fields -/

section Rendering

variable (formats : Formats) (chainId : ChainId) (registry : Option ContractRegistry)

def formatUnixTimestampSecondsU64 (value : UInt64) : String :=
  if value.toNat = 2 ^ 64 - 1 then "never"
  else if value.toNat < 2 ^ 63 then
    (formats.minuteText value.toNat).getD ("unix:" ++ toString value.toNat)
  else "unix:" ++ toString value.toNat

def sigDeadlineText (sigDeadline : BitVec 256) : String :=
  if sigDeadline.toNat < 2 ^ 64 then
    formatUnixTimestampSecondsU64 formats (UInt64.ofNat sigDeadline.toNat)
  else "unix:" ++ toString sigDeadline.toNat

def decodeApprove (call : ApproveCall) : SignablePayloadField :=
  let symbol := tokenSymbol formats registry chainId call.token
  let amount := tokenAmount formats registry chainId call.token call.amount.toNat
  let expiration :=
    formatUnixTimestampSecondsU64 formats (UInt64.ofNat call.expiration.toNat)
  textField "Permit2 Approve"
    ("Approve " ++ formats.displayAddress call.spender ++ " " ++ amount ++ " " ++ symbol ++
      " to spend " ++ symbol ++ " (expires: " ++ expiration ++ ")")

def decodePermit (call : PermitCall) : SignablePayloadField :=
  let details := call.permitSingle.details
  let amount := tokenAmount formats registry chainId details.token details.amount.toNat
  let expiration :=
    formatUnixTimestampSecondsU64 formats (UInt64.ofNat details.expiration.toNat)
  let sigDeadline := sigDeadlineText formats call.permitSingle.sigDeadline
  let amountDisplay := if details.amount.toNat = 2 ^ 160 - 1 then "Unlimited Amount" else amount
  let tokenLowercase := (formats.displayAddress details.token).toLower
  let subtitle := "Permit " ++ formats.displayAddress call.permitSingle.spender ++ " to spend " ++
    amountDisplay ++ " of " ++ tokenLowercase
  previewField "Permit2 Permit" subtitle
    (some [textRow "Token" tokenLowercase,
      textRow "Amount" (toString details.amount.toNat),
      textRow "Spender" (formats.displayAddress call.permitSingle.spender).toLower,
      textRow "Expires" expiration,
      textRow "Sig Deadline" sigDeadline])

def decodeTransferFrom (call : TransferFromCall) : SignablePayloadField :=
  let symbol := tokenSymbol formats registry chainId call.token
  let amount := tokenAmount formats registry chainId call.token call.amount.toNat
  textField "Permit2 Transfer"
    ("Transfer " ++ amount ++ " " ++ symbol ++ " from " ++
      formats.displayAddress call.fromAddress ++ " to " ++ formats.displayAddress call.toAddress)

def visualizeTxCommands (input : Bytes) : Option SignablePayloadField :=
  if input.length < 4 then none
  else match ApproveCall.abiDecode input with
    | some call => some (decodeApprove formats chainId registry call)
    | none => match PermitCall.abiDecode input with
      | some call => some (decodePermit formats chainId registry call)
      | none => match decodeCustomPermitParams input with
        | some params =>
            some (decodePermit formats chainId registry ⟨Address.zero, params, []⟩)
        | none => match TransferFromCall.abiDecode input with
          | some call => some (decodeTransferFrom formats chainId registry call)
          | none => none

@[simp]
theorem label_decodeApprove (call : ApproveCall) :
    (decodeApprove formats chainId registry call).common.label = "Permit2 Approve" :=
  rfl

@[simp]
theorem label_decodePermit (call : PermitCall) :
    (decodePermit formats chainId registry call).common.label = "Permit2 Permit" :=
  rfl

@[simp]
theorem label_decodeTransferFrom (call : TransferFromCall) :
    (decodeTransferFrom formats chainId registry call).common.label = "Permit2 Transfer" :=
  rfl

end Rendering

/-! ## What the decoders accept -/

theorem words_approveCall : Words 4 ApproveCall.read :=
  words_address.bind fun _ => words_address.bind fun _ => (words_uint 160).bind fun _ =>
    (words_uint 48).bind fun _ => words_pure _

theorem words_permitDetails : Words 4 PermitDetails.read :=
  words_address.bind fun _ => (words_uint 160).bind fun _ => (words_uint 48).bind fun _ =>
    (words_uint 48).bind fun _ => words_pure _

theorem words_permitSingle : Words 6 PermitSingle.read :=
  words_permitDetails.bind fun _ => words_address.bind fun _ => (words_uint 256).bind fun _ =>
    words_pure _

theorem words_transferFromCall : Words 4 TransferFromCall.read :=
  words_address.bind fun _ => words_address.bind fun _ => (words_uint 160).bind fun _ =>
    words_address.bind fun _ => words_pure _

/-- The argument words of `permit` are there, and the offset of the signature
leads to a length and that many bytes inside the calldata. -/
def CompletePermit (input : Bytes) : Prop :=
  PermitCall.selector <+: input ∧ HoldsBytes (input.drop 4) 224

instance (input : Bytes) : Decidable (CompletePermit input) :=
  inferInstanceAs (Decidable (_ ∧ _))

theorem abiDecode_approve_isSome (input : Bytes) :
    (ApproveCall.abiDecode input).isSome ↔
      ApproveCall.selector <+: input ∧ 132 ≤ input.length :=
  words_approveCall.decodeCall_isSome ApproveCall.selector input

theorem abiDecode_permit_isSome (input : Bytes) :
    (PermitCall.abiDecode input).isSome ↔ CompletePermit input := by
  have hsignature (data : Bytes) (owner : Address) (hwords : 32 ≤ data.length) :
      ((do
        let permitSingle ← PermitSingle.read
        let signature ← bytes
        pure ⟨owner, permitSingle, signature⟩ : Read PermitCall) ⟨data, 32⟩).isSome ↔
        32 + 192 ≤ data.length ∧ HoldsBytes data 224 :=
    words_permitSingle.bind_isSome hwords fun _ single =>
      (bind_pure_isSome bytes (PermitCall.mk owner single) ⟨data, 224⟩).trans (bytes_isSome _)
  have hread (data : Bytes) :
      (decodeSequence PermitCall.read data).isSome ↔ HoldsBytes data 224 := by
    have hhead : (PermitCall.read ⟨data, 0⟩).isSome ↔
        0 + 32 ≤ data.length ∧ 32 + 192 ≤ data.length ∧ HoldsBytes data 224 :=
      words_address.bind_isSome (Nat.zero_le data.length) fun hwords owner =>
        hsignature data owner (by simpa using hwords)
    rw [decodeSequence, Option.isSome_map]
    rw [hhead]
    constructor
    · intro hboth
      exact hboth.2.2
    · intro hbytes
      have hlength : 256 ≤ data.length := hbytes.1
      exact ⟨by omega, by omega, hbytes⟩
  rw [PermitCall.abiDecode, decodeCall, CompletePermit]
  split_ifs with hselector
  · rw [hread]
    exact ⟨fun hbytes => ⟨hselector, hbytes⟩, fun hboth => hboth.2⟩
  · exact iff_of_false Bool.false_ne_true fun hboth => hselector hboth.1

theorem decodeCustomPermitParams_isSome (input : Bytes) :
    (decodeCustomPermitParams input).isSome ↔ 192 ≤ input.length := by
  rw [decodeCustomPermitParams]
  split_ifs with hlength
  · exact iff_of_false Bool.false_ne_true (not_le.2 hlength)
  · rw [words_permitSingle.decodeSequence_isSome, List.length_take]
    omega

/-! ## Which decoder answers -/

section Dispatch

variable (formats : Formats) (chainId : ChainId) (registry : Option ContractRegistry)

theorem visualizeTxCommands_cases {input : Bytes} {field : SignablePayloadField}
    (hfield : visualizeTxCommands formats chainId registry input = some field) :
    (∃ call, ApproveCall.abiDecode input = some call ∧
      field = decodeApprove formats chainId registry call) ∨
    (∃ call, PermitCall.abiDecode input = some call ∧
      field = decodePermit formats chainId registry call) ∨
    (∃ params, ApproveCall.abiDecode input = none ∧ PermitCall.abiDecode input = none ∧
      decodeCustomPermitParams input = some params ∧
      field = decodePermit formats chainId registry ⟨Address.zero, params, []⟩) ∨
    ∃ call, TransferFromCall.abiDecode input = some call ∧
      field = decodeTransferFrom formats chainId registry call := by
  rw [visualizeTxCommands] at hfield
  split_ifs at hfield
  cases happrove : ApproveCall.abiDecode input with
  | some call =>
      rw [happrove] at hfield
      exact .inl ⟨call, rfl, (Option.some.inj hfield).symm⟩
  | none =>
      cases hpermit : PermitCall.abiDecode input with
      | some call =>
          rw [happrove, hpermit] at hfield
          exact .inr (.inl ⟨call, rfl, (Option.some.inj hfield).symm⟩)
      | none =>
          cases hcustom : decodeCustomPermitParams input with
          | some params =>
              rw [happrove, hpermit, hcustom] at hfield
              exact .inr (.inr (.inl ⟨params, rfl, rfl, rfl, (Option.some.inj hfield).symm⟩))
          | none =>
              cases htransfer : TransferFromCall.abiDecode input with
              | some call =>
                  rw [happrove, hpermit, hcustom, htransfer] at hfield
                  exact .inr (.inr (.inr ⟨call, rfl, (Option.some.inj hfield).symm⟩))
              | none =>
                  rw [happrove, hpermit, hcustom, htransfer] at hfield
                  cases hfield

/-- Any input of 192 bytes that the first two decoders refuse is shown as the
permit that its first six words would be. -/
theorem visualizeTxCommands_of_long {input : Bytes} (hlength : 192 ≤ input.length)
    (happrove : ApproveCall.abiDecode input = none)
    (hpermit : PermitCall.abiDecode input = none) :
    ∃ params, decodeCustomPermitParams input = some params ∧
      visualizeTxCommands formats chainId registry input =
        some (decodePermit formats chainId registry ⟨Address.zero, params, []⟩) := by
  obtain ⟨params, hparams⟩ :=
    Option.isSome_iff_exists.1 ((decodeCustomPermitParams_isSome input).2 hlength)
  refine ⟨params, hparams, ?_⟩
  rw [visualizeTxCommands, if_neg (by omega), happrove, hpermit, hparams]

theorem visualizeTxCommands_of_transferFrom {input : Bytes} {call : TransferFromCall}
    (hlength : input.length < 192) (hcall : TransferFromCall.abiDecode input = some call) :
    visualizeTxCommands formats chainId registry input =
      some (decodeTransferFrom formats chainId registry call) := by
  have hselector := selector_of_decodeCall hcall
  have happrove : ApproveCall.abiDecode input = none :=
    decodeCall_of_other hselector rfl (by decide)
  have hpermit : PermitCall.abiDecode input = none :=
    decodeCall_of_other hselector rfl (by decide)
  have hcustom : decodeCustomPermitParams input = none := if_pos hlength
  have hfour : ¬ input.length < 4 := not_lt.2 hselector.length_le
  rw [visualizeTxCommands, if_neg hfour, happrove, hpermit, hcustom, hcall]

/-! ## Kinds of answer -/

/-- The calldata of an `approve`, complete for its four words. -/
def IsApprove (input : Bytes) : Prop := ApproveCall.selector <+: input ∧ 132 ≤ input.length

instance (input : Bytes) : Decidable (IsApprove input) :=
  inferInstanceAs (Decidable (_ ∧ _))

/-- The calldata of a `transferFrom`, complete for its four words. -/
def IsTransferFrom (input : Bytes) : Prop :=
  TransferFromCall.selector <+: input ∧ 132 ≤ input.length

instance (input : Bytes) : Decidable (IsTransferFrom input) :=
  inferInstanceAs (Decidable (_ ∧ _))

def ShowsApproval (field : SignablePayloadField) : Prop :=
  ∃ call, field = decodeApprove formats chainId registry call

def ShowsPermit (field : SignablePayloadField) : Prop :=
  ∃ call, field = decodePermit formats chainId registry call

def ShowsTransfer (field : SignablePayloadField) : Prop :=
  ∃ call, field = decodeTransferFrom formats chainId registry call

section Labels

variable {formats chainId registry} {field : SignablePayloadField}

theorem ShowsApproval.label_eq (hfield : ShowsApproval formats chainId registry field) :
    field.common.label = "Permit2 Approve" := by
  obtain ⟨call, rfl⟩ := hfield
  exact label_decodeApprove formats chainId registry call

theorem ShowsPermit.label_eq (hfield : ShowsPermit formats chainId registry field) :
    field.common.label = "Permit2 Permit" := by
  obtain ⟨call, rfl⟩ := hfield
  exact label_decodePermit formats chainId registry call

theorem ShowsTransfer.label_eq (hfield : ShowsTransfer formats chainId registry field) :
    field.common.label = "Permit2 Transfer" := by
  obtain ⟨call, rfl⟩ := hfield
  exact label_decodeTransferFrom formats chainId registry call

end Labels

theorem abiDecode_transferFrom_isSome (input : Bytes) :
    (TransferFromCall.abiDecode input).isSome ↔ IsTransferFrom input :=
  words_transferFromCall.decodeCall_isSome TransferFromCall.selector input

/-- The kind of the answer is read off the first four bytes and the length.
The decoders of a permit accept every input of 192 bytes that is no approval. -/
theorem visualizeTxCommands_kind (input : Bytes) :
    (IsApprove input ∧ ∃ field, ShowsApproval formats chainId registry field ∧
      visualizeTxCommands formats chainId registry input = some field) ∨
    (¬ IsApprove input ∧ 192 ≤ input.length ∧ ∃ field, ShowsPermit formats chainId registry field ∧
      visualizeTxCommands formats chainId registry input = some field) ∨
    (¬ IsApprove input ∧ input.length < 192 ∧ IsTransferFrom input ∧
      ∃ field, ShowsTransfer formats chainId registry field ∧
        visualizeTxCommands formats chainId registry input = some field) ∨
    (¬ IsApprove input ∧ input.length < 192 ∧ ¬ IsTransferFrom input ∧
      visualizeTxCommands formats chainId registry input = none) := by
  by_cases happrove : IsApprove input
  · obtain ⟨call, hcall⟩ :=
      Option.isSome_iff_exists.1 ((abiDecode_approve_isSome input).2 happrove)
    have hfour : ¬ input.length < 4 := by have := happrove.2; omega
    refine .inl ⟨happrove, _, ⟨call, rfl⟩, ?_⟩
    rw [visualizeTxCommands, if_neg hfour, hcall]
  have hnotApprove : ApproveCall.abiDecode input = none := by
    rw [← Option.not_isSome_iff_eq_none, abiDecode_approve_isSome]
    exact happrove
  by_cases hlength : 192 ≤ input.length
  · refine .inr (.inl ⟨happrove, hlength, ?_⟩)
    cases hpermit : PermitCall.abiDecode input with
    | some call =>
        refine ⟨_, ⟨call, rfl⟩, ?_⟩
        rw [visualizeTxCommands, if_neg (by omega), hnotApprove, hpermit]
    | none =>
        obtain ⟨params, -, hshown⟩ := visualizeTxCommands_of_long formats chainId registry
          hlength hnotApprove hpermit
        exact ⟨_, ⟨_, rfl⟩, hshown⟩
  rw [not_le] at hlength
  by_cases htransfer : IsTransferFrom input
  · obtain ⟨call, hcall⟩ :=
      Option.isSome_iff_exists.1 ((abiDecode_transferFrom_isSome input).2 htransfer)
    exact .inr (.inr (.inl ⟨happrove, hlength, htransfer, _, ⟨call, rfl⟩,
      visualizeTxCommands_of_transferFrom formats chainId registry hlength hcall⟩))
  · refine .inr (.inr (.inr ⟨happrove, hlength, htransfer, ?_⟩))
    rw [Option.eq_none_iff_forall_ne_some]
    intro field hfield
    obtain ⟨call, hcall, -⟩ | ⟨call, hcall, -⟩ | ⟨params, -, -, hcustom, -⟩ | ⟨call, hcall, -⟩ :=
      visualizeTxCommands_cases formats chainId registry hfield
    · exact happrove ((abiDecode_approve_isSome input).1 (by rw [hcall]; rfl))
    · have hcomplete := (abiDecode_permit_isSome input).1 (by rw [hcall]; rfl)
      have hbytes := hcomplete.2.1
      rw [List.length_drop] at hbytes
      omega
    · have hlong := (decodeCustomPermitParams_isSome input).1 (by rw [hcustom]; rfl)
      omega
    · exact htransfer ((abiDecode_transferFrom_isSome input).1 (by rw [hcall]; rfl))

end Dispatch

/-- `transferFrom` of 1000 units between two addresses. -/
def transferCalldata : Bytes :=
  TransferFromCall.selector ++ (List.replicate 12 0 ++ List.replicate 20 0x11) ++
    (List.replicate 12 0 ++ List.replicate 20 0x22) ++ beBytes 32 1000 ++
    (List.replicate 12 0 ++ List.replicate 20 0x33)

end VisualSignParser.Ethereum.Permit2
