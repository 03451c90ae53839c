import VisualSignParser.Codec.Outcome
import VisualSignParser.Solana.CarriedData
import VisualSignParser.Solana.SquadsMultisig

/-!
# Programs without an IDL

The system program, the compute budget, associated token accounts and stake pools
have their own decoders.  Each of their previews is built from the data, and only
the creation of an account looks at accounts.
-/

namespace VisualSignParser.Solana

open VisualSignParser.Framing
open VisualSignParser.OrderedMap
open VisualSignParser.Outcome
open VisualSignParser.Solana.Squads (PreviewFields)
open VisualSignParser.Solana.UnknownProgram (fallbackText resolveAccountStr resolveProgramIdStr)
open VisualSignParser.VisualSign

/-- The frame of a preview, around the fields. -/
def framed (context : VisualizerContext) (fields : PreviewFields) : AnnotatedPayloadField :=
  previewField ("Instruction " ++ toString (context.instructionIndex + 1))
    (fallbackText (resolveProgramIdStr context) context.data) fields.title "" fields.condensed
    fields.expanded

/-! ## The system program -/

/-- `solana_program::system_instruction::SystemInstruction`. -/
inductive SystemInstruction where
  | createAccount (lamports space : UInt64) (owner : Pubkey)
  | assign (owner : Pubkey)
  | transfer (lamports : UInt64)
  | createAccountWithSeed (base : Pubkey) (seed : String) (lamports space : UInt64) (owner : Pubkey)
  | advanceNonceAccount
  | withdrawNonceAccount (lamports : UInt64)
  | initializeNonceAccount (authority : Pubkey)
  | authorizeNonceAccount (authority : Pubkey)
  | allocate (space : UInt64)
  | allocateWithSeed (base : Pubkey) (seed : String) (space : UInt64) (owner : Pubkey)
  | assignWithSeed (base : Pubkey) (seed : String) (owner : Pubkey)
  | transferWithSeed (lamports : UInt64) (fromSeed : String) (fromOwner : Pubkey)
  | upgradeNonceAccount

/-- What is called in other crates: the decoder, whose errors are texts, the debug text of
an instruction, and the text of the floating-point amount in SOL. -/
structure SystemCrates where
  deserialize : Bytes → Except String SystemInstruction
  debug : SystemInstruction → String
  sol : UInt64 → String

def systemInstructionLabel : SystemInstruction → String
  | .createAccount _ _ owner => "Create Account (owner: " ++ owner.text ++ ")"
  | .assign owner => "Assign (owner: " ++ owner.text ++ ")"
  | .transfer lamports => "Transfer " ++ toString lamports.toNat ++ " lamports"
  | .createAccountWithSeed _ _ _ _ owner =>
      "Create Account With Seed (owner: " ++ owner.text ++ ")"
  | .advanceNonceAccount => "Advance Nonce Account"
  | .withdrawNonceAccount lamports =>
      "Withdraw Nonce Account (" ++ toString lamports.toNat ++ " lamports)"
  | .initializeNonceAccount _ => "Initialize Nonce Account"
  | .authorizeNonceAccount _ => "Authorize Nonce Account"
  | .allocate space => "Allocate (space: " ++ toString space.toNat ++ ")"
  | .allocateWithSeed _ _ _ owner => "Allocate With Seed (owner: " ++ owner.text ++ ")"
  | .assignWithSeed base seed owner => "Assign With Seed (base: " ++ base.text ++ ", seed: " ++
      seed ++ ", owner: " ++ owner.text ++ ")"
  | .transferWithSeed _ _ fromOwner =>
      "Transfer With Seed (from_owner: " ++ fromOwner.text ++ ")"
  | .upgradeNonceAccount => "Upgrade Nonce Account"

def systemTransferFields (crates : SystemCrates) (lamports : UInt64) (programId : String)
    (data : Bytes) :
    PreviewFields :=
  let text := "Transfer: " ++ toString lamports.toNat ++ " lamports"
  { title := text
    condensed := [createTextField "Instruction" text]
    expanded := [createTextField "Program ID" programId,
      annotateField (.amountV2 ⟨crates.sol lamports ++ " SOL", "Transfer Amount"⟩
        ⟨toString lamports.toNat, some "lamports"⟩),
      createTextField "Raw Data" (Hex.encode data)] }

def createAccountFields (crates : SystemCrates) (lamports space : UInt64) (owner : Pubkey)
    (payer newAccount : String) : Except VisualSignError PreviewFields := do
  let spaceField ← createNumberField "Space (bytes)" (toString space.toNat) ""
  let rentField ← createNumberField "Rent (lamports)" (toString lamports.toNat) ""
  return {
    title := "Create Account"
    condensed := [createTextField "Action" "Create Account",
      createTextField "Space" (toString space.toNat ++ " bytes"),
      createTextField "Rent" (crates.sol lamports ++ " SOL")]
    expanded := [createTextField "Action" "Create Account",
      createTextField "New Account" newAccount, createTextField "Payer" payer, spaceField,
      rentField, createTextField "Rent (SOL)" (crates.sol lamports),
      createTextField "Owner Program" owner.text, createTextField "Program" "System Program"] }

def otherFields (crates : SystemCrates) (instruction : SystemInstruction) : PreviewFields :=
  let fields := [createTextField "Action" (systemInstructionLabel instruction),
    createTextField "Program" "System Program"]
  { title := systemInstructionLabel instruction
    condensed := fields
    expanded := fields ++ [createTextField "Instruction Data" (crates.debug instruction)] }

/-- `create_system_preview_layout`. -/
def systemFields (crates : SystemCrates) (context : VisualizerContext) :
    SystemInstruction → Except VisualSignError PreviewFields
  | .transfer lamports =>
      .ok (systemTransferFields crates lamports (resolveProgramIdStr context) context.data)
  | .createAccount lamports space owner =>
      createAccountFields crates lamports space owner (resolveAccountStr context 0)
        (resolveAccountStr context 1)
  | instruction => .ok (otherFields crates instruction)

def systemPreview (crates : SystemCrates) (context : VisualizerContext) :
    Except VisualSignError PreviewFields := do
  let instruction ← (crates.deserialize context.data).mapError fun error =>
    .decodeError ("Failed to parse system instruction: " ++ error)
  systemFields crates context instruction

def visualizeSystem (crates : SystemCrates) (context : VisualizerContext) :
    Except VisualSignError AnnotatedPayloadField :=
  (systemPreview crates context).map (framed context)

/-! ## The compute budget -/

/-- `solana_sdk::compute_budget::ComputeBudgetInstruction`. -/
inductive ComputeBudgetInstruction where
  | unused
  | requestHeapFrame (bytes : UInt32)
  | setComputeUnitLimit (units : UInt32)
  | setComputeUnitPrice (microLamports : UInt64)
  | setLoadedAccountsDataSizeLimit (bytes : UInt32)

def formatComputeBudgetInstruction : ComputeBudgetInstruction → String
  | .requestHeapFrame bytes => "Request Heap Frame: " ++ toString bytes.toNat ++ " bytes"
  | .setComputeUnitLimit units => "Set Compute Unit Limit: " ++ toString units.toNat ++ " units"
  | .setComputeUnitPrice microLamports => "Set Compute Unit Price: " ++
      toString microLamports.toNat ++ " micro-lamports per compute unit"
  | .setLoadedAccountsDataSizeLimit bytes =>
      "Set Loaded Accounts Data Size Limit: " ++ toString bytes.toNat ++ " bytes"
  | .unused => "Unused Compute Budget Instruction"

/-- The number of an instruction, if it has one. -/
def computeBudgetNumber : ComputeBudgetInstruction →
    Except VisualSignError (List AnnotatedPayloadField)
  | .requestHeapFrame bytes =>
      (createNumberField "Heap Frame Size" (toString bytes.toNat) "bytes").map ([·])
  | .setComputeUnitLimit units =>
      (createNumberField "Compute Unit Limit" (toString units.toNat) "units").map ([·])
  | .setComputeUnitPrice microLamports =>
      (createNumberField "Price per Compute Unit" (toString microLamports.toNat)
        "micro-lamports").map ([·])
  | .setLoadedAccountsDataSizeLimit bytes =>
      (createNumberField "Data Size Limit" (toString bytes.toNat) "bytes").map ([·])
  | .unused => .ok []

def computeBudgetPreview (tryFromSlice : Bytes → Except String ComputeBudgetInstruction)
    (context : VisualizerContext) : Except VisualSignError PreviewFields := do
  let instruction ← (tryFromSlice context.data).mapError fun error =>
    .decodeError ("Failed to parse compute budget instruction: " ++ error)
  let number ← computeBudgetNumber instruction
  let text := formatComputeBudgetInstruction instruction
  return {
    title := text
    condensed := [createTextField "Instruction" text]
    expanded := [createTextField "Program ID" (resolveProgramIdStr context)] ++ number ++
      [createRawDataField context.data (some (Hex.encode context.data))] }

def visualizeComputeBudget (tryFromSlice : Bytes → Except String ComputeBudgetInstruction)
    (context : VisualizerContext) : Except VisualSignError AnnotatedPayloadField :=
  (computeBudgetPreview tryFromSlice context).map (framed context)

/-! ## Associated token accounts -/

inductive AssociatedTokenAccountInstruction where
  | create
  | createIdempotent
  | recoverNested

/-- Only the first byte is looked at, and no data creates. -/
def parseAtaInstruction : Bytes → Except String AssociatedTokenAccountInstruction
  | [] => .ok .create
  | 0 :: _ => .ok .create
  | 1 :: _ => .ok .createIdempotent
  | 2 :: _ => .ok .recoverNested
  | _ => .error "Unknown ATA instruction"

def formatAtaInstruction : AssociatedTokenAccountInstruction → String
  | .create => "Create Associated Token Account"
  | .createIdempotent => "Create Associated Token Account (Idempotent)"
  | .recoverNested => "Recover Nested Associated Token Account"

def ataPreview (context : VisualizerContext) : Except VisualSignError PreviewFields := do
  let instruction ← (parseAtaInstruction context.data).mapError .decodeError
  let text := formatAtaInstruction instruction
  return {
    title := text
    condensed := [createTextField "Instruction" text]
    expanded := [createTextField "Program ID" (resolveProgramIdStr context),
      createTextField "Instruction" text] }

def visualizeAssociatedTokenAccount (context : VisualizerContext) :
    Except VisualSignError AnnotatedPayloadField :=
  (ataPreview context).map (framed context)

/-! ## Stake pools -/

/-- `spl_stake_pool::instruction::StakePoolInstruction`, without what the instructions hold. -/
inductive StakePoolInstruction where
  | initializePool
  | addValidatorToPool
  | removeValidatorFromPool
  | decreaseValidatorStake
  | increaseValidatorStake
  | setPreferredValidator
  | updateValidatorListBalance
  | updateStakePoolBalance
  | cleanupRemovedValidatorEntries
  | depositStake
  | withdrawStake
  | setManager
  | setFee
  | setStaker
  | depositSol
  | setFundingAuthority
  | withdrawSol
  | increaseAdditionalValidatorStake
  | decreaseAdditionalValidatorStake
  | decreaseValidatorStakeWithReserve
  | createTokenMetadata
  | updateTokenMetadata
  | depositStakeWithSlippage
  | withdrawStakeWithSlippage
  | depositSolWithSlippage
  | withdrawSolWithSlippage
  | redelegate

def getStakePoolInstructionName : StakePoolInstruction → String
  | .initializePool => "Initialize"
  | .addValidatorToPool => "Add Validator to Pool"
  | .removeValidatorFromPool => "Remove Validator from Pool"
  | .decreaseValidatorStake => "Decrease Validator Stake"
  | .increaseValidatorStake => "Increase Validator Stake"
  | .setPreferredValidator => "Set Preferred Validator"
  | .updateValidatorListBalance => "Update Validator List Balance"
  | .updateStakePoolBalance => "Update Stake Pool Balance"
  | .cleanupRemovedValidatorEntries => "Cleanup Removed Validator Entries"
  | .depositStake => "Deposit Stake"
  | .withdrawStake => "Withdraw Stake"
  | .setManager => "Set Manager"
  | .setFee => "Set Fee"
  | .setStaker => "Set Staker"
  | .depositSol => "Deposit SOL"
  | .setFundingAuthority => "Set Funding Authority"
  | .withdrawSol => "Withdraw SOL"
  | .increaseAdditionalValidatorStake => "Increase Additional Validator Stake"
  | .decreaseAdditionalValidatorStake => "Decrease Additional Validator Stake"
  | .decreaseValidatorStakeWithReserve => "Decrease Validator Stake with Reserve"
  | .createTokenMetadata => "Create Token Metadata"
  | .updateTokenMetadata => "Update Token Metadata"
  | .depositStakeWithSlippage => "Deposit Stake with Slippage"
  | .withdrawStakeWithSlippage => "Withdraw Stake with Slippage"
  | .depositSolWithSlippage => "Deposit SOL with Slippage"
  | .withdrawSolWithSlippage => "Withdraw SOL with Slippage"
  | .redelegate => "Redelegate"

def formatStakePoolInstruction (instruction : StakePoolInstruction) : String :=
  "Stake Pool Instruction: " ++ getStakePoolInstructionName instruction

def stakepoolPreview (tryFromSlice : Bytes → Except String StakePoolInstruction)
    (context : VisualizerContext) : Except VisualSignError PreviewFields := do
  let instruction ← (tryFromSlice context.data).mapError fun error =>
    .decodeError ("Failed to parse stakepool instruction: " ++ error)
  let text := formatStakePoolInstruction instruction
  return {
    title := text
    condensed := [createTextField "Instruction" text]
    expanded := [createTextField "Stake Pool Instruction" text] }

def visualizeStakepool (tryFromSlice : Bytes → Except String StakePoolInstruction)
    (context : VisualizerContext) : Except VisualSignError AnnotatedPayloadField :=
  (stakepoolPreview tryFromSlice context).map (framed context)

/-! ## What a preview shows -/

structure NativeCrates where
  system : SystemCrates
  computeBudget : Bytes → Except String ComputeBudgetInstruction
  stakepool : Bytes → Except String StakePoolInstruction

inductive NativeProgram where
  | system
  | computeBudget
  | associatedTokenAccount
  | stakepool
  deriving DecidableEq

def visualizeNative (crates : NativeCrates) :
    NativeProgram → VisualizerContext → Except VisualSignError AnnotatedPayloadField
  | .system => visualizeSystem crates.system
  | .computeBudget => visualizeComputeBudget crates.computeBudget
  | .associatedTokenAccount => visualizeAssociatedTokenAccount
  | .stakepool => visualizeStakepool crates.stakepool

/-- The fields of a preview, before they are framed. -/
def nativeFields (crates : NativeCrates) (context : VisualizerContext) :
    NativeProgram → Except VisualSignError PreviewFields
  | .system => systemPreview crates.system context
  | .computeBudget => computeBudgetPreview crates.computeBudget context
  | .associatedTokenAccount => ataPreview context
  | .stakepool => stakepoolPreview crates.stakepool context

theorem visualizeNative_eq (crates : NativeCrates) (program : NativeProgram)
    (context : VisualizerContext) :
    visualizeNative crates program context =
      (nativeFields crates context program).map (framed context) := by
  cases program <;> rfl

/-- The accounts that a preview shows: the payer and the account it creates. -/
def shownAccounts (crates : NativeCrates) (program : NativeProgram) (context : VisualizerContext) :
    Option (String × String) :=
  match program, crates.system.deserialize context.data with
  | .system, .ok (.createAccount ..) =>
      some (resolveAccountStr context 0, resolveAccountStr context 1)
  | _, _ => none

theorem framed_eq_iff {left right : VisualizerContext} {leftFields rightFields : PreviewFields} :
    framed left leftFields = framed right rightFields ↔
      (left.instructionIndex = right.instructionIndex ∧
        resolveProgramIdStr left = resolveProgramIdStr right ∧ left.data = right.data) ∧
      leftFields = rightFields := by
  obtain ⟨leftTitle, leftCondensed, leftExpanded⟩ := leftFields
  obtain ⟨rightTitle, rightCondensed, rightExpanded⟩ := rightFields
  rw [PreviewFields.mk.injEq]
  exact previewField_eq_iff

/-- The fields are built from the program's text, the data and the shown accounts. -/
theorem nativeFields_congr {crates : NativeCrates} {program : NativeProgram}
    {left right : VisualizerContext}
    (hprogram : resolveProgramIdStr left = resolveProgramIdStr right)
    (hdata : left.data = right.data)
    (hshown : shownAccounts crates program left = shownAccounts crates program right) :
    nativeFields crates left program = nativeFields crates right program := by
  cases program with
  | system =>
      rw [nativeFields, nativeFields, systemPreview, systemPreview, hdata]
      refine bind_congr_ok fun instruction hinstruction => ?_
      have hdecoded := mapError_eq_ok.1 hinstruction
      cases instruction with
      | createAccount lamports space owner =>
          simp only [shownAccounts, hdata, hdecoded, Option.some.injEq, Prod.mk.injEq] at hshown
          rw [systemFields, systemFields, hshown.1, hshown.2]
      | transfer lamports => rw [systemFields, systemFields, hprogram, hdata]
      | _ => rfl
  | computeBudget =>
      rw [nativeFields, nativeFields, computeBudgetPreview, computeBudgetPreview, hprogram, hdata]
  | associatedTokenAccount =>
      rw [nativeFields, nativeFields, ataPreview, ataPreview, hprogram, hdata]
  | stakepool => rw [nativeFields, nativeFields, stakepoolPreview, stakepoolPreview, hdata]

/-- The payer and the new account are among the fields. -/
theorem createAccountFields_accounts {crates : SystemCrates} {lamports space : UInt64}
    {owner : Pubkey} {payer newAccount otherPayer otherAccount : String} {fields : PreviewFields}
    (hleft : createAccountFields crates lamports space owner payer newAccount = .ok fields)
    (hright : createAccountFields crates lamports space owner otherPayer otherAccount =
      .ok fields) :
    payer = otherPayer ∧ newAccount = otherAccount := by
  obtain ⟨_, _, hleft⟩ := bind_eq_ok.1 hleft
  obtain ⟨_, _, hleft⟩ := bind_eq_ok.1 hleft
  obtain ⟨_, _, hright⟩ := bind_eq_ok.1 hright
  obtain ⟨_, _, hright⟩ := bind_eq_ok.1 hright
  have hsame := (pure_eq_ok.1 hleft).trans (pure_eq_ok.1 hright).symm
  simp only [PreviewFields.mk.injEq, List.cons.injEq, createTextField, annotateField,
    AnnotatedPayloadField.mk.injEq, SignablePayloadField.textV2.injEq,
    SignablePayloadFieldCommon.mk.injEq, SignablePayloadFieldTextV2.mk.injEq] at hsame
  grind

theorem shownAccounts_of_fields {crates : NativeCrates} {program : NativeProgram}
    {left right : VisualizerContext} {fields : PreviewFields} (hdata : left.data = right.data)
    (hleft : nativeFields crates left program = .ok fields)
    (hright : nativeFields crates right program = .ok fields) :
    shownAccounts crates program left = shownAccounts crates program right := by
  cases program with
  | system =>
      obtain ⟨instruction, hdecoded, hleft⟩ := bind_eq_ok.1 hleft
      obtain ⟨other, hother, hright⟩ := bind_eq_ok.1 hright
      rw [hdata, hother, Except.ok.injEq] at hdecoded
      subst hdecoded
      have hdecoded := mapError_eq_ok.1 hother
      unfold shownAccounts
      rw [hdata, hdecoded]
      cases other with
      | createAccount lamports space owner =>
          obtain ⟨hpayer, haccount⟩ := createAccountFields_accounts hleft hright
          dsimp only
          rw [hpayer, haccount]
      | _ => rfl
  | _ => rfl

/-- Two displays are alike exactly if place, program, data and shown accounts are: whoever
pays, receives or signs otherwise is not in the display. -/
theorem native_display_eq_iff {crates : NativeCrates} {program : NativeProgram}
    {left right : VisualizerContext} {leftField rightField : AnnotatedPayloadField}
    (hleft : visualizeNative crates program left = .ok leftField)
    (hright : visualizeNative crates program right = .ok rightField) :
    leftField = rightField ↔
      (left.instructionIndex = right.instructionIndex ∧
        resolveProgramIdStr left = resolveProgramIdStr right ∧ left.data = right.data) ∧
      shownAccounts crates program left = shownAccounts crates program right := by
  rw [visualizeNative_eq, map_eq_ok] at hleft hright
  obtain ⟨leftFields, hleftFields, rfl⟩ := hleft
  obtain ⟨rightFields, hrightFields, rfl⟩ := hright
  rw [framed_eq_iff]
  refine and_congr_right fun hcarried => ?_
  constructor
  · intro hsame
    rw [hsame] at hleftFields
    exact shownAccounts_of_fields hcarried.2.2 hleftFields hrightFields
  · intro hshown
    rw [nativeFields_congr hcarried.2.1 hcarried.2.2 hshown, hrightFields] at hleftFields
    exact (Except.ok.inj hleftFields).symm

/-! ## One display, two recipients -/

/-- The decoder on a transfer: the variant in four bytes and the lamports in eight. -/
def transferDecoder : Bytes → Except String SystemInstruction
  | [2, 0, 0, 0, b0, b1, b2, b3, b4, b5, b6, b7] => .ok (.transfer (UInt64.ofNat
      ([b0, b1, b2, b3, b4, b5, b6, b7].foldr (fun byte rest => byte.toNat + 256 * rest) 0)))
  | _ => .error "invalid instruction data"

def transferCrates : NativeCrates where
  system := ⟨transferDecoder, fun _ => "", fun _ => ""⟩
  computeBudget _ := .error ""
  stakepool _ := .error ""

def transferTo (recipient : UInt8) : VisualizerContext where
  sender := ⟨"", true, true⟩
  compiledInstruction := ⟨3, [0, recipient], [2, 0, 0, 0, 5, 0, 0, 0, 0, 0, 0, 0]⟩
  accountKeys := [repeatedByte 1, repeatedByte 2, repeatedByte 3, repeatedByte 0]
  idlRegistry := ⟨BTreeMap.empty, BTreeMap.empty, BTreeMap.empty⟩
  instructionIndex := 0
  callDepth := 0

/-- The same five lamports to the second key and to the third are shown alike. -/
theorem native_display_eq_transfer :
    ∃ field, visualizeNative transferCrates .system (transferTo 1) = .ok field ∧
      visualizeNative transferCrates .system (transferTo 2) = .ok field ∧
      (transferTo 1).account 1 ≠ (transferTo 2).account 1 := by
  have hsame := (@native_display_eq_iff transferCrates .system (transferTo 1) (transferTo 2)
    _ _ rfl rfl).2 ⟨⟨rfl, rfl, rfl⟩, rfl⟩
  exact ⟨_, rfl, congrArg Except.ok hsame.symm, by decide⟩

end VisualSignParser.Solana
