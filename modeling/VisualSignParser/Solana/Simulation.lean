import VisualSignParser.Codec.Base64
import VisualSignParser.Solana.CanonicalArgs
import VisualSignParser.Solana.Convert
import VisualSignParser.Solana.IdlRecords
import VisualSignParser.Solana.UnknownProgram

/-!
# Simulated instructions

A caller may send the result of a simulation along with a transaction.  Its inner
instructions are decoded and become a part of the intermediate output.  A result that
cannot be read leaves an error there, and the payload does not depend on any of it.
-/

namespace VisualSignParser.Solana.Intermediate

open VisualSignParser.Framing
open VisualSignParser.Borsh
open VisualSignParser.OrderedMap
open VisualSignParser.Outcome
open VisualSignParser.VisualSign
open VisualSignParser.Ethereum (SignerAllowlist)

/-! ## Results of the RPC -/

/-- An instruction that the RPC decoded itself. -/
structure ParsedInstruction where
  program : String
  programId : String
  parsed : Json.Value
  stackHeight : Option UInt32

structure UiPartiallyDecodedInstruction where
  programId : String
  accounts : List String
  data : String
  stackHeight : Option UInt32

inductive UiParsedInstruction where
  | parsed (instruction : ParsedInstruction)
  | partiallyDecoded (instruction : UiPartiallyDecodedInstruction)

inductive UiInstruction where
  | compiled (instruction : CompiledInstruction)
  | parsed (instruction : UiParsedInstruction)

structure UiInnerInstructions where
  index : UInt8
  instructions : List UiInstruction

structure RpcSimulateTransactionResult where
  err : Option String
  innerInstructions : Option (List UiInnerInstructions)

/-! ## The parser crate -/

inductive IdlSource where
  | builtIn (program : ProgramType)
  | preset
  | custom

def idlSourceString : IdlSource → String
  | .builtIn _ => "BuiltIn"
  | .preset => "Preset"
  | .custom => "Custom"

/-- The data of a decoded instruction, with the accounts and the origin of the IDL. -/
structure NamedInstructionData extends SolanaParsedInstructionData where
  namedAccounts : BTreeMap String String
  idlSource : IdlSource
  idlHash : String

/-- `solana_parser::SolanaInstruction`. -/
structure SolanaInstruction where
  programKey : String
  accounts : List SolanaAccount
  instructionDataHex : String
  addressTableLookups : List SolanaSingleAddressTableLookup
  parsedInstruction : Option NamedInstructionData
  idlParseError : Option SolanaIdlParseError

/-- `solana_parser::SolanaMetadata`. -/
structure TransactionMetadata where
  accountKeys : List String
  programKeys : List String
  instructions : List SolanaInstruction
  transfers : List SolTransfer
  splTransfers : List SplTransfer
  recentBlockhash : String
  addressTableLookups : List SolanaAddressTableLookup

/-- What is called in other crates: the reader of simulation results, the map of the
JSON crate, the parser of transactions, the decoder behind an IDL record, and the
encoder of versioned messages. -/
structure SimulationCrates (Record IdlBody IdlEntry : Type) where
  backing : Json.Backing
  readResponse : Bytes → Except String RpcSimulateTransactionResult
  records : RecordCrates Record
  parseTransactionWithIdlRecords : String → Bool → BTreeMap String Record →
    Except String (Option TransactionMetadata)
  resolveIdlForRecord : Record → String → Except String (IdlBody × String × IdlSource)
  findInstructionByDiscriminator : Bytes → IdlBody → Except String IdlEntry
  parseDataIntoArgs : Bytes → IdlEntry → IdlBody → Except String (List (String × Json.Value))
  createAccountsMap : List String → IdlEntry → Except String (BTreeMap String String)
  entryName : IdlEntry → String
  entryDiscriminator : IdlEntry → Option Bytes
  computeIdlHash : String → String
  serializeVersionedMessage : VersionedTransaction → Bytes

section Decode

variable {Record IdlBody IdlEntry : Type} (simulation : SimulationCrates Record IdlBody IdlEntry)

/-- The decoded data and the error; neither of them when there is no record. -/
def parsePartiallyDecodedInstructionIdl (programId dataBase58 : String) (accounts : List String)
    (callerRecords : BTreeMap String Record) :
    Option SolanaParsedInstructionDataIo × Option SolanaIdlParseError :=
  match lookupIdlRecord simulation.records programId callerRecords with
  | none => (none, none)
  | some record =>
      let decoded : Except SolanaIdlParseError SolanaParsedInstructionDataIo := do
        let (idl, idlJson, idlSource) ← Except.mapError .idlResolutionError
          (simulation.resolveIdlForRecord record programId)
        let data ← okOr (.discriminatorNotFound "instruction data is not valid base58")
          (Base58.decode dataBase58)
        let entry ← Except.mapError .discriminatorNotFound
          (simulation.findInstructionByDiscriminator data idl)
        let name := simulation.entryName entry
        let args ← Except.mapError (.dataParseError name)
          (simulation.parseDataIntoArgs data entry idl)
        let namedAccounts ← Except.mapError (.accountsMapError name)
          (simulation.createAccountsMap accounts entry)
        let discriminator ← okOr
          (.discriminatorNotFound "matched instruction has no discriminator")
          (simulation.entryDiscriminator entry)
        return ⟨name, Hex.encode discriminator, namedAccounts,
          canonicalArgsJson simulation.backing args, idlSourceString idlSource,
          simulation.computeIdlHash idlJson⟩
      match decoded with
      | .ok data => (some data, none)
      | .error error => (none, some error)

variable (fromProgramId : String → Option ProgramType) (configs : BTreeMap String CustomIdlConfig)
  (callerRecords : BTreeMap String Record)

/-- The instructions and the error that are returned. -/
abbrev Simulated := List SolanaSimulatedInstruction × Option SolanaSimulationError

/-- The body of the inner loop: the record of an instruction, or an early return. -/
def decodeUiInstruction (outerIndex : UInt32) :
    UiInstruction → Except Simulated SolanaSimulatedInstruction
  | .compiled _ => .error ([], some .compiledInstruction)
  | .parsed (.partiallyDecoded decoded) =>
      match Base58.decode decoded.data with
      | none => .error ([], some .invalidInstructionData)
      | some data =>
          let (parsedInstructionData, idlParseError) := parsePartiallyDecodedInstructionIdl
            simulation decoded.programId decoded.data decoded.accounts callerRecords
          .ok
            { index := outerIndex
              stackHeight := decoded.stackHeight.getD 0
              programKey := decoded.programId
              accounts := decoded.accounts
              instructionDataHex := Hex.encode data
              registeredSource := registeredSource fromProgramId decoded.programId configs
              parsedInstructionData := parsedInstructionData
              solanaRpcParsedData := none
              idlParseError := idlParseError }
  | .parsed (.parsed rpcParsed) =>
      .ok
        { index := outerIndex
          stackHeight := rpcParsed.stackHeight.getD 0
          programKey := rpcParsed.programId
          accounts := []
          instructionDataHex := ""
          registeredSource := registeredSource fromProgramId rpcParsed.programId configs
          parsedInstructionData := none
          solanaRpcParsedData := some ⟨rpcParsed.program,
            String.ofList (canonicalizeValue simulation.backing rpcParsed.parsed).render⟩
          idlParseError := none }

/-- One turn of the inner loop: the record is pushed. -/
def pushInstruction (outerIndex : UInt32) (records : List SolanaSimulatedInstruction)
    (instruction : UiInstruction) : Except Simulated (List SolanaSimulatedInstruction) := do
  let record ← decodeUiInstruction simulation fromProgramId configs callerRecords outerIndex
    instruction
  return records ++ [record]

/-- One turn of the outer loop. -/
def pushEntry (records : List SolanaSimulatedInstruction) (entry : UiInnerInstructions) :
    Except Simulated (List SolanaSimulatedInstruction) :=
  entry.instructions.foldlM
    (pushInstruction simulation fromProgramId configs callerRecords entry.index.toUInt32) records

omit callerRecords in
def decodeInnerInstructions (innerInstructions : List UiInnerInstructions) : Simulated :=
  match callerIdlRecords simulation.records configs with
  | none => ([], some .callerIdlRecordsUnusable)
  | some callerRecords =>
      match innerInstructions.foldlM (pushEntry simulation fromProgramId configs callerRecords)
        [] with
      | .ok records => (records, none)
      | .error early => early

omit callerRecords in
def parseAndDecodeSimulatedInstructions (rawJson : Bytes) : Simulated :=
  match simulation.readResponse rawJson with
  | .error _ => ([], some .invalidJson)
  | .ok response =>
      match response.err with
      | some _ => ([], some .simulationFailed)
      | none =>
          match response.innerInstructions with
          | none => ([], none)
          | some innerInstructions =>
              decodeInnerInstructions simulation fromProgramId configs innerInstructions

omit callerRecords in
def extractRawSimulatedInstructions (metadata : Option Proto.ChainMetadata) : Option Simulated :=
  match metadata.bind Proto.ChainMetadata.metadata with
  | some (.solana solana) => solana.simulatedTransactionResult.map fun rawJsonB64 =>
      match Base64.decode rawJsonB64 with
      | none => ([], some .invalidBase64)
      | some rawJson =>
          parseAndDecodeSimulatedInstructions simulation fromProgramId configs rawJson
  | _ => none

end Decode

/-! ## The intermediate output -/

def solanaIntermediateSchemaVersion : UInt16 := 2

section Output

variable {Record IdlBody IdlEntry : Type} (simulation : SimulationCrates Record IdlBody IdlEntry)
  (fromProgramId : String → Option ProgramType) (configs : BTreeMap String CustomIdlConfig)

/-- `SolanaParsedInstructionDataIo::from`. -/
def NamedInstructionData.toIo (value : NamedInstructionData) : SolanaParsedInstructionDataIo :=
  ⟨value.instructionName, value.discriminator, value.namedAccounts,
    canonicalArgsJson simulation.backing value.programCallArgs, idlSourceString value.idlSource,
    value.idlHash⟩

def buildIntermediateInstruction (value : SolanaInstruction) : SolanaIntermediateInstruction where
  programKey := value.programKey
  accounts := value.accounts
  instructionDataHex := value.instructionDataHex
  addressTableLookups := value.addressTableLookups
  parsedInstructionData := value.parsedInstruction.map (NamedInstructionData.toIo simulation)
  idlParseError := value.idlParseError
  registeredSource := registeredSource fromProgramId value.programKey configs

def buildIntermediateOutput (value : TransactionMetadata) : SolanaIntermediateOutput where
  schemaVersion := solanaIntermediateSchemaVersion
  accountKeys := value.accountKeys
  programKeys := value.programKeys
  instructions :=
    value.instructions.map (buildIntermediateInstruction simulation fromProgramId configs)
  transfers := value.transfers
  splTransfers := value.splTransfers
  recentBlockhash := value.recentBlockhash
  addressTableLookups := value.addressTableLookups
  simulatedInstructions := []
  simulationError := none

def extractSolanaIntermediateOutput (rawMessageHex : String) (fullTransaction : Bool) :
    Except VisualSignError SolanaIntermediateOutput := do
  let callerRecords ← okOr
    (.parseError (.decodeError "Failed to build IDL records from caller-supplied IDLs"))
    (callerIdlRecords simulation.records configs)
  let response ← Except.mapError
    (fun error => .parseError (.decodeError
      ("Failed to parse transaction for intermediate output: " ++ error)))
    (simulation.parseTransactionWithIdlRecords rawMessageHex fullTransaction
      (buildIdlRecordMap simulation.records callerRecords))
  let metadata ← okOr
    (.parseError (.decodeError "solana_parser returned no transaction_metadata")) response
  return buildIntermediateOutput simulation fromProgramId configs metadata

/-- The output with the simulated instructions, if any were sent. -/
def attachSimulated (output : SolanaIntermediateOutput) :
    Option Simulated → SolanaIntermediateOutput
  | some (instructions, simulationError) =>
      { output with
        simulatedInstructions := instructions
        simulationError := simulationError }
  | none => output

/-- An output that cannot be built or written is left out. -/
def buildIntermediateBytes (messageHex : String) (rawSimulatedInstructions : Option Simulated) :
    Option Bytes :=
  match extractSolanaIntermediateOutput simulation fromProgramId configs messageHex false with
  | .ok output => serialize (attachSimulated output rawSimulatedInstructions)
  | .error _ => none

end Output

section Convert

variable {Record IdlBody IdlEntry : Type} (simulation : SimulationCrates Record IdlBody IdlEntry)
  (visualizers : List (InstructionVisualizer Id)) (crates : Crates)
  (allowlist : SignerAllowlist) (parser : SolanaParser) (build : Build)

/-- Building the registry does not fail. -/
def createIdlRegistryFromOptions (options : VisualSignOptions) :
    Except VisualSignError IdlRegistry :=
  .ok (callerRegistry crates options.metadata allowlist)

def messageHex : SolanaTransactionWrapper → String
  | .legacy transaction => Hex.encode (parser.serializeMessage transaction)
  | .versioned transaction => Hex.encode (simulation.serializeVersionedMessage transaction)

/-- `SolanaVisualSignConverter::to_visual_sign_payload`. -/
def toVisualSignPayload (wrapper : SolanaTransactionWrapper) (options : VisualSignOptions) :
    Except VisualSignError ConversionResult := do
  let payload ← convertTransaction visualizers crates allowlist parser build wrapper options
  if options.includeIntermediateOutput then
    let idlRegistry ← createIdlRegistryFromOptions crates allowlist options
    let rawSimulatedInstructions := extractRawSimulatedInstructions simulation
      crates.fromProgramId idlRegistry.configs options.metadata
    return ⟨payload, buildIntermediateBytes simulation crates.fromProgramId idlRegistry.configs
      (messageHex simulation parser wrapper) rawSimulatedInstructions⟩
  else return ⟨payload, none⟩

end Convert

/-! ## All or nothing -/

/-- The record of an inner instruction has the index of its group and the program, and
the accounts and the data where the RPC did not decode them. -/
inductive Recorded : UInt8 × UiInstruction → SolanaSimulatedInstruction → Prop
  | parsed {index : UInt8} {instruction : ParsedInstruction} {record : SolanaSimulatedInstruction} :
      record.index.toNat = index.toNat → record.programKey = instruction.programId →
      Recorded (index, .parsed (.parsed instruction)) record
  | partiallyDecoded {index : UInt8} {instruction : UiPartiallyDecodedInstruction}
      {record : SolanaSimulatedInstruction} {data : Bytes} :
      record.index.toNat = index.toNat → record.programKey = instruction.programId →
      record.accounts = instruction.accounts → Base58.decode instruction.data = some data →
      record.instructionDataHex = Hex.encode data →
      Recorded (index, .parsed (.partiallyDecoded instruction)) record

/-- The inner instructions of a group, with its index. -/
def UiInnerInstructions.indexed (entry : UiInnerInstructions) : List (UInt8 × UiInstruction) :=
  entry.instructions.map fun instruction => (entry.index, instruction)

/-- The inner instructions of a result over all groups, in order. -/
def RpcSimulateTransactionResult.indexed (response : RpcSimulateTransactionResult) :
    List (UInt8 × UiInstruction) :=
  (response.innerInstructions.getD []).flatMap UiInnerInstructions.indexed

/-- No records, and why. -/
def LeftOut (simulated : Simulated) : Prop := ∃ error, simulated = ([], some error)

section Atomic

variable {Record IdlBody IdlEntry : Type} {simulation : SimulationCrates Record IdlBody IdlEntry}
  {fromProgramId : String → Option ProgramType} {configs : BTreeMap String CustomIdlConfig}
  {callerRecords : BTreeMap String Record}

theorem decodeUiInstruction_spec (index : UInt8) (instruction : UiInstruction) :
    Ends (decodeUiInstruction simulation fromProgramId configs callerRecords index.toUInt32
      instruction) (Recorded (index, instruction)) LeftOut := by
  have hindex : index.toUInt32.toNat = index.toNat := UInt8.toNat_toUInt32 index
  cases instruction with
  | compiled instruction => exact ⟨.compiledInstruction, rfl⟩
  | parsed instruction =>
      cases instruction with
      | parsed instruction => exact .parsed hindex rfl
      | partiallyDecoded instruction =>
          rw [decodeUiInstruction]
          cases hdata : Base58.decode instruction.data with
          | none => exact ⟨.invalidInstructionData, rfl⟩
          | some data => exact .partiallyDecoded hindex rfl rfl hdata rfl

theorem forall₂_concat {A B : Type} {R : A → B → Prop} {values : List A} {results : List B}
    {value : A} {result : B} (hall : List.Forall₂ R values results) (hlast : R value result) :
    List.Forall₂ R (values ++ [value]) (results ++ [result]) :=
  List.rel_append hall (.cons hlast .nil)

/-- A group adds the records of its instructions, or leaves nothing. -/
theorem pushEntry_spec (entry : UiInnerInstructions) {before : List (UInt8 × UiInstruction)}
    {records : List SolanaSimulatedInstruction} (hrecords : List.Forall₂ Recorded before records) :
    Ends (pushEntry simulation fromProgramId configs callerRecords records entry)
      (List.Forall₂ Recorded (before ++ entry.indexed)) LeftOut := by
  have hstart : List.Forall₂ Recorded
      (before ++ [].map fun instruction => (entry.index, instruction)) records := by
    rwa [List.map_nil, List.append_nil]
  refine foldlM_ends (fun seen records => List.Forall₂ Recorded
    (before ++ seen.map fun instruction => (entry.index, instruction)) records) ?_ hstart
    entry.instructions
  intro seen records instruction hrecords
  apply (decodeUiInstruction_spec entry.index instruction).bind
  intro record hrecord
  change List.Forall₂ Recorded (before ++ (seen ++ [instruction]).map _) (records ++ [record])
  rw [List.map_append, ← List.append_assoc]
  exact forall₂_concat hrecords hrecord

variable (simulation fromProgramId configs callerRecords) in
/-- The groups add the records of all instructions, or leave nothing. -/
theorem pushEntries_spec (entries : List UiInnerInstructions) :
    Ends (entries.foldlM (pushEntry simulation fromProgramId configs callerRecords) [])
      (List.Forall₂ Recorded (entries.flatMap UiInnerInstructions.indexed)) LeftOut := by
  have hstart : List.Forall₂ Recorded ([].flatMap UiInnerInstructions.indexed) [] := .nil
  refine foldlM_ends (fun seen records => List.Forall₂ Recorded
    (seen.flatMap UiInnerInstructions.indexed) records) ?_ hstart entries
  intro seen records entry hrecords
  rw [List.flatMap_append, List.flatMap_singleton]
  exact pushEntry_spec entry hrecords

theorem decodeInnerInstructions_spec (entries : List UiInnerInstructions) :
    (decodeInnerInstructions simulation fromProgramId configs entries).2 = none ∧
        List.Forall₂ Recorded (entries.flatMap UiInnerInstructions.indexed)
          (decodeInnerInstructions simulation fromProgramId configs entries).1 ∨
      LeftOut (decodeInnerInstructions simulation fromProgramId configs entries) := by
  rw [decodeInnerInstructions]
  cases callerIdlRecords simulation.records configs with
  | none => exact .inr ⟨.callerIdlRecordsUnusable, rfl⟩
  | some callerRecords =>
      have hends := pushEntries_spec simulation fromProgramId configs callerRecords entries
      dsimp only
      cases hloop : entries.foldlM (pushEntry simulation fromProgramId configs callerRecords) []
        with
      | ok records =>
          rw [hloop] at hends
          exact .inl ⟨rfl, hends⟩
      | error early =>
          rw [hloop] at hends
          exact .inr hends

variable (simulation) in
/-- The text holds the result of a simulation that did not fail. -/
def Supplies (rawJsonB64 : String) (response : RpcSimulateTransactionResult) : Prop :=
  ∃ rawJson, Base64.decode rawJsonB64 = some rawJson ∧
    simulation.readResponse rawJson = .ok response ∧ response.err = none

variable (simulation) in
/-- No error and the record of every instruction that was supplied, or an error and no
record. -/
def AllOrNothing (rawJsonB64 : String) (simulated : Simulated) : Prop :=
  simulated.2 = none ∧ (∃ response, Supplies simulation rawJsonB64 response ∧
      List.Forall₂ Recorded response.indexed simulated.1) ∨
    LeftOut simulated

theorem allOrNothing_of_decode {rawJsonB64 : String} {rawJson : Bytes}
    (hbytes : Base64.decode rawJsonB64 = some rawJson) :
    AllOrNothing simulation rawJsonB64
      (parseAndDecodeSimulatedInstructions simulation fromProgramId configs rawJson) := by
  rw [parseAndDecodeSimulatedInstructions]
  cases hresponse : simulation.readResponse rawJson with
  | error error => exact .inr ⟨.invalidJson, rfl⟩
  | ok response =>
      dsimp only
      cases herr : response.err with
      | some err => exact .inr ⟨.simulationFailed, rfl⟩
      | none =>
          have hsupplies : Supplies simulation rawJsonB64 response :=
            ⟨rawJson, hbytes, hresponse, herr⟩
          dsimp only
          cases hinner : response.innerInstructions with
          | none =>
              refine .inl ⟨rfl, response, hsupplies, ?_⟩
              rw [RpcSimulateTransactionResult.indexed, hinner]
              exact .nil
          | some entries =>
              apply (decodeInnerInstructions_spec entries).imp_left
              rintro ⟨hnone, hrecords⟩
              refine ⟨hnone, response, hsupplies, ?_⟩
              rwa [RpcSimulateTransactionResult.indexed, hinner]

end Atomic

/-- A simulation result that is sent is recorded as a whole or not at all, and asking
for the intermediate output changes neither the payload nor whether there is one. -/
theorem simulation_all_or_nothing {Record IdlBody IdlEntry : Type}
    (simulation : SimulationCrates Record IdlBody IdlEntry)
    (visualizers : List (InstructionVisualizer Id)) (crates : Crates)
    (allowlist : SignerAllowlist) (parser : SolanaParser) (build : Build) :
    (∀ (idlRegistry : IdlRegistry) (networkId : Option String) (idl : Option Proto.Idl)
        (idlMappings : BTreeMap String Proto.Idl) (rawJsonB64 : String), ∃ simulated,
      extractRawSimulatedInstructions simulation crates.fromProgramId idlRegistry.configs
          (some ⟨some (.solana ⟨networkId, idl, idlMappings, some rawJsonB64⟩)⟩) =
        some simulated ∧ AllOrNothing simulation rawJsonB64 simulated) ∧
    ∀ wrapper (options : VisualSignOptions),
      (toVisualSignPayload simulation visualizers crates allowlist parser build wrapper
          { options with includeIntermediateOutput := true }).map ConversionResult.payload =
        (toVisualSignPayload simulation visualizers crates allowlist parser build wrapper
          { options with includeIntermediateOutput := false }).map ConversionResult.payload := by
  constructor
  · intro idlRegistry networkId idl idlMappings rawJsonB64
    refine ⟨_, rfl, ?_⟩
    dsimp only
    cases hbytes : Base64.decode rawJsonB64 with
    | none => exact .inr ⟨.invalidBase64, rfl⟩
    | some rawJson => exact allOrNothing_of_decode hbytes
  · intro wrapper options
    have hconvert : convertTransaction visualizers crates allowlist parser build wrapper
          { options with includeIntermediateOutput := true } =
        convertTransaction visualizers crates allowlist parser build wrapper
          { options with includeIntermediateOutput := false } := rfl
    rw [toVisualSignPayload, toVisualSignPayload, hconvert]
    cases convertTransaction visualizers crates allowlist parser build wrapper
        { options with includeIntermediateOutput := false } with
    | error error => rfl
    | ok payload => rfl

end VisualSignParser.Solana.Intermediate
