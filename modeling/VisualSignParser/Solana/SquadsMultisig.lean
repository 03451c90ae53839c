import VisualSignParser.Solana.UnknownProgram
import VisualSignParser.Solana.VaultMessage
import VisualSignParser.Sui.Transaction

/-!
# The Squads multisig visualizer

A vault transaction carries a message of its own.  Its instructions are rebuilt
one by one and shown through all visualizers, one level deeper than the vault
transaction itself.  The visualizers of the inner instructions run in a monad,
so that a run can be limited and observed.
-/

namespace VisualSignParser.Solana.Squads

open VisualSignParser.Framing
open VisualSignParser.OrderedMap
open VisualSignParser.VisualSign
open VisualSignParser.Sui (asU64)

def squadsMultisigProgramId : String := "SQDS4ep65T869zMMBKyuUq6aD6EgTu8psMjkvj52pCf"

/-- What is called in other crates: `get_squads_idl`, and the address that is
derived for a vault. -/
structure SquadsCrates where
  idl : Option Idl
  findVaultAddress : Pubkey → UInt8 → Pubkey

/-! ## Inner instructions -/

/-- The flags of an account follow from its position: signers first, the
writable ones in front, then the writable ones of the others. -/
def accountMetaForIndex (vaultMsg : VaultTransactionMessage) (index : ℕ) : Option AccountMeta :=
  vaultMsg.accountKeys[index]?.map fun pubkey =>
    let isSigner : Bool := index < vaultMsg.numSigners.toNat
    ⟨pubkey, isSigner, if isSigner then index < vaultMsg.numWritableSigners.toNat
      else index - vaultMsg.numSigners.toNat < vaultMsg.numWritableNonSigners.toNat⟩

def reconstructInstruction (vaultMsg : VaultTransactionMessage)
    (ci : MultisigCompiledInstruction) : Except String Instruction :=
  match vaultMsg.accountKeys[ci.programIdIndex.toNat]? with
  | none => .error "program_id index out of range (likely an ALT-resolved key)"
  | some programId => do
      let accounts ← ci.accountIndexes.mapM fun index =>
        Outcome.okOr "inner-instruction account index out of range (likely an ALT-resolved key)"
          (accountMetaForIndex vaultMsg index.toNat)
      return ⟨programId, accounts, ci.data⟩

def reconstructInstructions (vaultMsg : VaultTransactionMessage) :
    Except String (List Instruction) :=
  if vaultMsg.numSigners < vaultMsg.numWritableSigners then
    .error "num_writable_signers > num_signers"
  else if vaultMsg.accountKeys.length < vaultMsg.numSigners.toNat then
    .error "num_signers > account_keys.len()"
  else if vaultMsg.accountKeys.length - vaultMsg.numSigners.toNat <
      vaultMsg.numWritableNonSigners.toNat then
    .error "num_writable_non_signers > non-signer slots"
  else vaultMsg.instructions.mapM (reconstructInstruction vaultMsg)

/-- `Pubkey::from_str`. -/
def pubkeyFromStr (text : String) : Option Pubkey :=
  if 44 < (utf8Bytes text).length then none
  else (Base58.decode text).bind fun bytes =>
    if hlength : bytes.length = 32 then some ⟨bytes, hlength⟩ else none

def vaultPdaAccount (crates : SquadsCrates) (namedAccounts : BTreeMap String String)
    (vaultIndex : UInt8) : Option SolanaAccount := do
  let multisig ← (namedAccounts.get "multisig").bind pubkeyFromStr
  return ⟨(crates.findVaultAddress multisig vaultIndex).text, true, false⟩

def truncatedField : AnnotatedPayloadField :=
  createTextField "Inner Instructions"
    "<truncated: maximum nested-instruction visualization depth reached>"

section Nested

variable {m : Type → Type} [Monad m]
  (visualizeAny : VisualizerContext → m (Option (Except VisualSignError VisualizeResult)))
  (unknownProgram : VisualizerContext → m AnnotatedPayloadField)

/-- The context of an inner instruction, one level deeper. -/
def innerContext (context : VisualizerContext) (sender : SolanaAccount)
    (rebuilt : List Pubkey × CompiledInstruction) (index : ℕ) : VisualizerContext :=
  (VisualizerContext.new sender rebuilt.2 rebuilt.1 context.idlRegistry index).withCallDepth
    (saturatingAdd context.callDepth 1)

/-- One turn of the loop.  A visualizer that fails is replaced by the last one. -/
def visualizeInnerInstruction (context : VisualizerContext) (sender : SolanaAccount)
    (found : Instruction × ℕ) : m AnnotatedPayloadField :=
  match rebuildCompiled found.1 with
  | none => pure (createTextField ("Inner Instruction " ++ toString (found.2 + 1))
      "<unrenderable: too many accounts to index>")
  | some rebuilt => do
      let inner := innerContext context sender rebuilt found.2
      match ← visualizeAny inner with
      | some (.ok result) => pure result.field
      | _ => unknownProgram inner

def visualizeInnerInstructions (innerInstructions : List Instruction)
    (context : VisualizerContext) (innerSenderOverride : Option SolanaAccount) :
    m (List AnnotatedPayloadField) :=
  if maxCallDepth ≤ context.callDepth then pure [truncatedField]
  else
    let sender := innerSenderOverride.getD ⟨context.sender.accountKey, false, false⟩
    innerInstructions.zipIdx.mapM
      (visualizeInnerInstruction visualizeAny unknownProgram context sender)

end Nested

/-! ## Vault transactions -/

/-- What is taken from the arguments of a vault transaction. -/
structure VaultTransaction where
  innerInstructions : List Instruction
  vaultIndex : UInt8
  memo : String

/-- A message that is missing, that cannot be read or that refers to keys of a
lookup table is left to the generic display. -/
def readVaultTransaction (parsed : SolanaParsedInstructionData) : Option VaultTransaction := do
  let args ← (parsed.programCallArgs.find? fun member => member.1 = "args").map Prod.snd
  let messageHex ← (getMember "transactionMessage" args).bind asStr
  let messageBytes ← (Hex.decode (utf8Bytes messageHex)).toOption
  let vaultMsg ← (VaultTransactionMessage.deserialize messageBytes).toOption
  let vaultIndex ← (getMember "vaultIndex" args).bind asU64
  if vaultIndex < 2 ^ 8 then
    let innerInstructions ← (reconstructInstructions vaultMsg).toOption
    return ⟨innerInstructions, UInt8.ofNat vaultIndex,
      ((getMember "memo" args).bind asStr).getD "None"⟩
  else none

/-- Title, condensed and expanded fields. -/
structure PreviewFields where
  title : String
  condensed : List AnnotatedPayloadField
  expanded : List AnnotatedPayloadField

def vaultTransactionFields (parsed : SolanaParsedInstructionData)
    (namedAccounts : BTreeMap String String) (programId : String) (vault : VaultTransaction)
    (innerFields : List AnnotatedPayloadField) : PreviewFields :=
  let count := toString vault.innerInstructions.length
  let vaultIndex := createTextField "Vault Index" (toString vault.vaultIndex.toNat)
  { title := "Squads Multisig: Vault Transaction (" ++ count ++ " inner instruction(s))"
    condensed := [createTextField "Program" "Squads Multisig",
      createTextField "Instruction" "vaultTransactionCreate", vaultIndex,
      createTextField "Inner Instructions" (count ++ " instruction(s)")]
    expanded := [createTextField "Program ID" programId,
      createTextField "Instruction" "vaultTransactionCreate",
      createTextField "Discriminator" parsed.discriminator, vaultIndex,
      createTextField "Memo" vault.memo] ++
      (namedAccounts.entries.map fun account => createTextField account.1 account.2) ++
      innerFields }

def formatArgValue : Json.Value → String
  | .string text => text
  | value => String.ofList value.render

def buildGenericFields (parsed : SolanaParsedInstructionData)
    (namedAccounts : BTreeMap String String) (programId : String) : PreviewFields :=
  let args := parsed.programCallArgs.map fun arg => createTextField arg.1 (formatArgValue arg.2)
  { title := "Squads Multisig: " ++ parsed.instructionName
    condensed := [createTextField "Program" "Squads Multisig",
      createTextField "Instruction" parsed.instructionName] ++ args
    expanded := [createTextField "Program ID" programId,
      createTextField "Instruction" parsed.instructionName,
      createTextField "Discriminator" parsed.discriminator] ++
      (namedAccounts.entries.map fun account => createTextField account.1 account.2) ++ args }

def buildFallbackFields (programId : String) : PreviewFields where
  title := "Squads Multisig: Unknown Instruction"
  condensed := [createTextField "Program" "Squads Multisig",
    createTextField "Status" "Unknown instruction type"]
  expanded := [createTextField "Program ID" programId,
    createTextField "Status" "Unknown instruction type"]

/-! ## The visualizer -/

/-- The IDL instruction whose discriminator the data starts with. -/
def isSelected (data : Bytes) (instruction : IdlInstruction) : Bool :=
  match instruction.discriminator with
  | some discriminator => discriminator.isPrefixOf data
  | none => false

def buildNamedAccounts (data : Bytes) (idl : Idl) (accounts : List AccountMeta) :
    BTreeMap String String :=
  match idl.instructions.find? (isSelected data) with
  | some instruction =>
      nameAccounts instruction.accountNames (accounts.map fun account => account.pubkey.text)
  | none => BTreeMap.empty

def parseSquadsInstruction (crates : SquadsCrates) (parser : IdlParser) (data : Bytes)
    (accounts : List AccountMeta) :
    Option (SolanaParsedInstructionData × BTreeMap String String) := do
  if data.length < 8 then none
  else
    let idl ← crates.idl
    let parsed ← parser.parseInstructionWithIdl data squadsMultisigProgramId idl
    return (parsed, buildNamedAccounts data idl accounts)

/-- The vault transaction of an instruction, if it is one that is shown as such. -/
def vaultTransactionOf (parsed : SolanaParsedInstructionData) : Option VaultTransaction :=
  if parsed.instructionName = "vaultTransactionCreate" then readVaultTransaction parsed else none

section Visualizer

variable (crates : SquadsCrates) (parser : IdlParser) {m : Type → Type} [Monad m]
  (visualizeAny : VisualizerContext → m (Option (Except VisualSignError VisualizeResult)))
  (unknownProgram : VisualizerContext → m AnnotatedPayloadField)

def buildParsedFields (parsed : SolanaParsedInstructionData)
    (namedAccounts : BTreeMap String String) (programId : String) (context : VisualizerContext) :
    m PreviewFields :=
  match vaultTransactionOf parsed with
  | some vault => do
      let innerFields ← visualizeInnerInstructions visualizeAny unknownProgram
        vault.innerInstructions context (vaultPdaAccount crates namedAccounts vault.vaultIndex)
      return vaultTransactionFields parsed namedAccounts programId vault innerFields
  | none => pure (buildGenericFields parsed namedAccounts programId)

def buildFields (programId : String) (accounts : List AccountMeta)
    (context : VisualizerContext) : m PreviewFields :=
  match parseSquadsInstruction crates parser context.data accounts with
  | some (parsed, namedAccounts) =>
      buildParsedFields crates visualizeAny unknownProgram parsed namedAccounts programId context
  | none => pure (buildFallbackFields programId)

def instructionField (context : VisualizerContext) (programId : String) (fields : PreviewFields) :
    AnnotatedPayloadField :=
  previewField ("Instruction " ++ toString (context.instructionIndex + 1))
    ("Program ID: " ++ programId ++ "\nData: " ++ Hex.encode context.data) fields.title ""
    fields.condensed
    (fields.expanded ++ [createRawDataField context.data (some (Hex.encode context.data))])

/-- The program and the accounts an instruction is shown with. -/
def resolveAll (context : VisualizerContext) : Except VisualSignError (Pubkey × List AccountMeta) :=
  do
    let programId ← context.resolveProgramId
    let accounts ← context.resolveAccounts
    return (programId, accounts)

/-- `SquadsMultisigVisualizer::visualize_tx_commands`. -/
def visualizeTxCommands (context : VisualizerContext) :
    m (Except VisualSignError AnnotatedPayloadField) :=
  match resolveAll context with
  | .error error => pure (.error error)
  | .ok (programId, accounts) => do
      let fields ← buildFields crates parser visualizeAny unknownProgram programId.text accounts
        context
      return .ok (instructionField context programId.text fields)

def visualizer : InstructionVisualizer m where
  canHandle := handlesPrograms [squadsMultisigProgramId]
  visualizeTxCommands := visualizeTxCommands crates parser visualizeAny unknownProgram
  kind := .payments "SquadsMultisig"

end Visualizer

end VisualSignParser.Solana.Squads
