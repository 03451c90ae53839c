import VisualSignParser.Codec.Base58
import VisualSignParser.Codec.Outcome
import VisualSignParser.Solana.IdlRegistry
import VisualSignParser.VisualSign.FieldBuilders

/-!
# Instructions and their visualizers

A compiled instruction refers to its program and its accounts by position in the
keys of the transaction.  A position without a key stays unresolved: the key may
be in a lookup table, or there may be none.  The first visualizer that accepts
an instruction shows it.
-/

namespace VisualSignParser.Solana

open VisualSignParser.Framing
open VisualSignParser.VisualSign

/-! ## Wire data -/

abbrev Pubkey := ByteArr 32

/-- `Pubkey::to_string`. -/
def Pubkey.text (pubkey : Pubkey) : String := Base58.encode pubkey.1

def repeatedByte (byte : UInt8) : ByteArr 32 := ⟨List.replicate 32 byte, List.length_replicate⟩

structure CompiledInstruction where
  programIdIndex : UInt8
  accounts : List UInt8
  data : Bytes
  deriving DecidableEq

structure AccountMeta where
  pubkey : Pubkey
  isSigner : Bool
  isWritable : Bool
  deriving DecidableEq

structure Instruction where
  programId : Pubkey
  accounts : List AccountMeta
  data : Bytes
  deriving DecidableEq

/-- `solana_parser::solana::structs::SolanaAccount`. -/
structure SolanaAccount where
  accountKey : String
  signer : Bool
  writable : Bool
  deriving DecidableEq

/-! ## Contexts -/

def maxCallDepth : ℕ := 4

/-- `usize::saturating_add`. -/
def saturatingAdd (left right : ℕ) : ℕ := min (left + right) (2 ^ 64 - 1)

inductive VisualizerKind where
  | dex (name : String)
  | lending (name : String)
  | stakingPools (name : String)
  | payments (name : String)
  deriving DecidableEq

inductive ProgramRef where
  | resolved (pubkey : Pubkey)
  | unresolved (rawIndex : UInt8)
  deriving DecidableEq

inductive AccountRef where
  | resolved (pubkey : Pubkey)
  | unresolved (rawIndex : UInt8)
  deriving DecidableEq

structure VisualizerContext where
  sender : SolanaAccount
  compiledInstruction : CompiledInstruction
  accountKeys : List Pubkey
  idlRegistry : IdlRegistry
  instructionIndex : ℕ
  callDepth : ℕ

namespace VisualizerContext

/-- `VisualizerContext::new`: the depth starts at zero. -/
def new (sender : SolanaAccount) (compiledInstruction : CompiledInstruction)
    (accountKeys : List Pubkey) (idlRegistry : IdlRegistry) (instructionIndex : ℕ) :
    VisualizerContext :=
  ⟨sender, compiledInstruction, accountKeys, idlRegistry, instructionIndex, 0⟩

def withCallDepth (context : VisualizerContext) (callDepth : ℕ) : VisualizerContext :=
  { context with callDepth := callDepth }

def programId (context : VisualizerContext) : ProgramRef :=
  match context.accountKeys[context.compiledInstruction.programIdIndex.toNat]? with
  | some pubkey => .resolved pubkey
  | none => .unresolved context.compiledInstruction.programIdIndex

def account (context : VisualizerContext) (position : ℕ) : Option AccountRef :=
  context.compiledInstruction.accounts[position]?.map fun index =>
    match context.accountKeys[index.toNat]? with
    | some pubkey => .resolved pubkey
    | none => .unresolved index

def data (context : VisualizerContext) : Bytes := context.compiledInstruction.data

def numAccounts (context : VisualizerContext) : ℕ := context.compiledInstruction.accounts.length

def resolveProgramId (context : VisualizerContext) : Except VisualSignError Pubkey :=
  match context.programId with
  | .resolved pubkey => .ok pubkey
  | .unresolved rawIndex =>
      .error (.decodeError ("unresolved program at index " ++ toString rawIndex.toNat))

def resolveAccount (context : VisualizerContext) (position : ℕ) :
    Except VisualSignError AccountMeta :=
  match context.account position with
  | some (.resolved pubkey) => .ok ⟨pubkey, false, false⟩
  | some (.unresolved rawIndex) =>
      .error (.decodeError ("unresolved account index " ++ toString rawIndex.toNat ++
        " at position " ++ toString position))
  | none => .error (.decodeError ("missing account at position " ++ toString position))

/-- The first account that does not resolve is an error. -/
def resolveAccounts (context : VisualizerContext) : Except VisualSignError (List AccountMeta) :=
  (List.range context.numAccounts).mapM context.resolveAccount

end VisualizerContext

/-! ## Visualizers -/

/-- A visualizer whose calls are made in the monad. -/
structure InstructionVisualizer (m : Type → Type) where
  canHandle : VisualizerContext → Bool
  visualizeTxCommands : VisualizerContext → m (Except VisualSignError AnnotatedPayloadField)
  kind : VisualizerKind

structure VisualizeResult where
  field : AnnotatedPayloadField
  kind : VisualizerKind

/-- `can_handle` of a visualizer that has a configuration for the given programs. -/
def handlesPrograms (programs : List String) (context : VisualizerContext) : Bool :=
  match context.programId with
  | .resolved pubkey => programs.contains pubkey.text
  | .unresolved _ => false

/-- The first visualizer that accepts the instruction shows it, or fails to. -/
def visualizeWithAny {m : Type → Type} [Monad m] (visualizers : List (InstructionVisualizer m))
    (context : VisualizerContext) : m (Option (Except VisualSignError VisualizeResult)) :=
  match visualizers.find? fun visualizer => visualizer.canHandle context with
  | none => pure none
  | some visualizer => do
      let field ← visualizer.visualizeTxCommands context
      return some (field.map fun field => ⟨field, visualizer.kind⟩)

/-! ## Inner instructions -/

/-- An inner instruction compiled against keys of its own: the program, then the
accounts in order.  More accounts than a byte counts have no positions. -/
def rebuildCompiled (instruction : Instruction) : Option (List Pubkey × CompiledInstruction) :=
  if instruction.accounts.length < 2 ^ 8 then
    some (instruction.programId :: instruction.accounts.map AccountMeta.pubkey,
      ⟨0, (List.range' 1 instruction.accounts.length).map UInt8.ofNat, instruction.data⟩)
  else none

/-- Every position of the instruction has a key. -/
structure VisualizerContext.Resolves (context : VisualizerContext) : Prop where
  program : ∃ pubkey, context.resolveProgramId = .ok pubkey
  accounts : ∃ metas, context.resolveAccounts = .ok metas

/-- The context has the program, the accounts in their order and the data. -/
structure VisualizerContext.StandsFor (context : VisualizerContext) (program : Pubkey)
    (keys : List Pubkey) (data : Bytes) : Prop where
  program : context.resolveProgramId = .ok program
  accounts : context.resolveAccounts = .ok (keys.map fun key => ⟨key, false, false⟩)
  data : context.data = data

theorem standsFor_rebuildCompiled {instruction : Instruction} {accountKeys : List Pubkey}
    {compiled : CompiledInstruction}
    (hrebuild : rebuildCompiled instruction = some (accountKeys, compiled))
    (sender : SolanaAccount) (idlRegistry : IdlRegistry) (instructionIndex callDepth : ℕ) :
    ((VisualizerContext.new sender compiled accountKeys idlRegistry
      instructionIndex).withCallDepth callDepth).StandsFor instruction.programId
        (instruction.accounts.map AccountMeta.pubkey) instruction.data := by
  unfold rebuildCompiled at hrebuild
  split_ifs at hrebuild with hlength
  cases hrebuild
  refine ⟨rfl, ?_, rfl⟩
  apply Outcome.mapM_eq_ok.2
  apply List.forall₂_iff_get.2
  constructor
  · simp [VisualizerContext.numAccounts, VisualizerContext.new, VisualizerContext.withCallDepth]
  · intro position hposition hkeys
    have hbound : position < instruction.accounts.length := by simpa using hkeys
    -- A byte counts the accounts behind the program.
    have hindex : (1 + position) % 256 = position + 1 := by omega
    have haccount : ((VisualizerContext.new sender
          ⟨0, (List.range' 1 instruction.accounts.length).map UInt8.ofNat, instruction.data⟩
          (instruction.programId :: instruction.accounts.map AccountMeta.pubkey) idlRegistry
          instructionIndex).withCallDepth callDepth).account position =
        some (.resolved (instruction.accounts.get ⟨position, hbound⟩).pubkey) := by
      simp [VisualizerContext.account, VisualizerContext.new, VisualizerContext.withCallDepth,
        hbound, hindex]
    rw [List.get_eq_getElem, List.getElem_range, VisualizerContext.resolveAccount, haccount]
    simp

theorem resolves_rebuildCompiled {instruction : Instruction} {accountKeys : List Pubkey}
    {compiled : CompiledInstruction}
    (hrebuild : rebuildCompiled instruction = some (accountKeys, compiled))
    (sender : SolanaAccount) (idlRegistry : IdlRegistry) (instructionIndex callDepth : ℕ) :
    ((VisualizerContext.new sender compiled accountKeys idlRegistry
      instructionIndex).withCallDepth callDepth).Resolves := by
  have hstands := standsFor_rebuildCompiled hrebuild sender idlRegistry instructionIndex callDepth
  exact ⟨⟨_, hstands.program⟩, _, hstands.accounts⟩

end VisualSignParser.Solana
