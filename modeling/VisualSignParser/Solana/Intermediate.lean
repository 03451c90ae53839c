import Mathlib.Data.String.Basic
import VisualSignParser.Codec.BorshLayout

/-!
# Intermediate output

The decoded transaction in the form that policy engines read.  Its Borsh
encoding is returned and signed with the payload, and other parties decode it
with types of their own.
-/

namespace VisualSignParser.Solana.Intermediate

open VisualSignParser.Framing
open VisualSignParser.Borsh
open VisualSignParser.OrderedMap

/-! ## Enums without fields -/

/-- Why a simulation result could not be read.  The discriminants are given, and
start at 1. -/
inductive SolanaSimulationError where
  | invalidBase64
  | invalidJson
  | simulationFailed
  | callerIdlRecordsUnusable
  | compiledInstruction
  | invalidInstructionData
  deriving DecidableEq

def SolanaSimulationError.layout : Layout SolanaSimulationError UInt8 where
  fields
    | .invalidBase64 => 1
    | .invalidJson => 2
    | .simulationFailed => 3
    | .callerIdlRecordsUnusable => 4
    | .compiledInstruction => 5
    | .invalidInstructionData => 6
  build
    | 1 => some .invalidBase64
    | 2 => some .invalidJson
    | 3 => some .simulationFailed
    | 4 => some .callerIdlRecordsUnusable
    | 5 => some .compiledInstruction
    | 6 => some .invalidInstructionData
    | _ => none
  build_fields error := by cases error <;> rfl

instance : BorshSerialize SolanaSimulationError := SolanaSimulationError.layout.serializer
instance : BorshDeserialize SolanaSimulationError := SolanaSimulationError.layout.reader
instance : BorshLengths SolanaSimulationError := SolanaSimulationError.layout.sizes

/-- Where a program was recognized. -/
inductive RegisteredSource where
  | native
  | preset
  | thirdParty
  | callerSupplied
  | unregistered
  deriving DecidableEq

def RegisteredSource.layout : Layout RegisteredSource UInt8 where
  fields
    | .native => 0
    | .preset => 1
    | .thirdParty => 2
    | .callerSupplied => 3
    | .unregistered => 4
  build
    | 0 => some .native
    | 1 => some .preset
    | 2 => some .thirdParty
    | 3 => some .callerSupplied
    | 4 => some .unregistered
    | _ => none
  build_fields source := by cases source <;> rfl

instance : BorshSerialize RegisteredSource := RegisteredSource.layout.serializer
instance : BorshDeserialize RegisteredSource := RegisteredSource.layout.reader
instance : BorshLengths RegisteredSource := RegisteredSource.layout.sizes

/-! ## Why an IDL did not apply -/

inductive SolanaIdlParseError where
  | dataParseError (instructionName error : String)
  | accountsMapError (instructionName error : String)
  | discriminatorNotFound (message : String)
  | idlResolutionError (message : String)
  deriving DecidableEq

namespace SolanaIdlParseError

def index : SolanaIdlParseError → UInt8
  | dataParseError _ _ => 0
  | accountsMapError _ _ => 1
  | discriminatorNotFound _ => 2
  | idlResolutionError _ => 3

def fields : SolanaIdlParseError → Option Bytes
  | dataParseError instructionName error => serialize (instructionName, error)
  | accountsMapError instructionName error => serialize (instructionName, error)
  | discriminatorNotFound message => serialize message
  | idlResolutionError message => serialize message

end SolanaIdlParseError

instance : BorshSerialize SolanaIdlParseError :=
  .ofVariants SolanaIdlParseError.index SolanaIdlParseError.fields <| by
    intro left right _ _ _ _ hindex hleft hright heq
    cases left <;> cases right <;> first | (cases hindex; done) | skip
    -- the two variants that are left in each case hold the same fields
    all_goals
      obtain ⟨hvalue, hrest⟩ := BorshSerialize.unambiguous hleft hright heq
      cases hvalue
      exact ⟨rfl, hrest⟩

instance : BorshDeserialize SolanaIdlParseError where
  deserialize
    | 0 :: bytes => (deserialize bytes : Option ((String × String) × Bytes)).map fun read =>
        (.dataParseError read.1.1 read.1.2, read.2)
    | 1 :: bytes => (deserialize bytes : Option ((String × String) × Bytes)).map fun read =>
        (.accountsMapError read.1.1 read.1.2, read.2)
    | 2 :: bytes => (deserialize bytes : Option (String × Bytes)).map fun read =>
        (.discriminatorNotFound read.1, read.2)
    | 3 :: bytes => (deserialize bytes : Option (String × Bytes)).map fun read =>
        (.idlResolutionError read.1, read.2)
    | _ => none
  deserialize_serialize {error} _ hbytes rest := by
    obtain ⟨bytes, hfields, rfl⟩ := Option.map_eq_some_iff.1 hbytes
    cases error with
    | dataParseError instructionName error =>
        have hread := BorshDeserialize.deserialize_serialize (A := String × String) hfields rest
        exact congrArg (Option.map _) hread
    | accountsMapError instructionName error =>
        have hread := BorshDeserialize.deserialize_serialize (A := String × String) hfields rest
        exact congrArg (Option.map _) hread
    | discriminatorNotFound message =>
        have hread := BorshDeserialize.deserialize_serialize (A := String) hfields rest
        exact congrArg (Option.map _) hread
    | idlResolutionError message =>
        have hread := BorshDeserialize.deserialize_serialize (A := String) hfields rest
        exact congrArg (Option.map _) hread

instance : BorshLengths SolanaIdlParseError where
  lengths
    | .dataParseError instructionName error => lengths (instructionName, error)
    | .accountsMapError instructionName error => lengths (instructionName, error)
    | .discriminatorNotFound message => lengths message
    | .idlResolutionError message => lengths message
  isSome_serialize_iff error := by
    have hfields : (serialize error).isSome = error.fields.isSome := Option.isSome_map ..
    rw [hfields]
    cases error <;> exact BorshLengths.isSome_serialize_iff _

/-! ## Structs -/

structure SolanaAccount where
  accountKey : String
  signer : Bool
  writable : Bool
  deriving DecidableEq

def SolanaAccount.layout : Layout SolanaAccount (String × Bool × Bool) where
  fields account := (account.accountKey, account.signer, account.writable)
  build := fun (accountKey, signer, writable) => some ⟨accountKey, signer, writable⟩
  build_fields _ := rfl

instance : BorshSerialize SolanaAccount := SolanaAccount.layout.serializer
instance : BorshDeserialize SolanaAccount := SolanaAccount.layout.reader
instance : BorshLengths SolanaAccount := SolanaAccount.layout.sizes

structure SolTransfer where
  fromKey : String
  toKey : String
  amount : String
  deriving DecidableEq

def SolTransfer.layout : Layout SolTransfer (String × String × String) where
  fields transfer := (transfer.fromKey, transfer.toKey, transfer.amount)
  build := fun (fromKey, toKey, amount) => some ⟨fromKey, toKey, amount⟩
  build_fields _ := rfl

instance : BorshSerialize SolTransfer := SolTransfer.layout.serializer
instance : BorshDeserialize SolTransfer := SolTransfer.layout.reader
instance : BorshLengths SolTransfer := SolTransfer.layout.sizes

structure SplTransfer where
  fromKey : String
  toKey : String
  amount : String
  owner : String
  signers : List String
  tokenMint : Option String
  decimals : Option String
  fee : Option String
  deriving DecidableEq

def SplTransfer.layout : Layout SplTransfer (String × String × String × String × List String ×
    Option String × Option String × Option String) where
  fields transfer := (transfer.fromKey, transfer.toKey, transfer.amount, transfer.owner,
    transfer.signers, transfer.tokenMint, transfer.decimals, transfer.fee)
  build := fun (fromKey, toKey, amount, owner, signers, tokenMint, decimals, fee) =>
    some ⟨fromKey, toKey, amount, owner, signers, tokenMint, decimals, fee⟩
  build_fields _ := rfl

instance : BorshSerialize SplTransfer := SplTransfer.layout.serializer
instance : BorshDeserialize SplTransfer := SplTransfer.layout.reader
instance : BorshLengths SplTransfer := SplTransfer.layout.sizes

structure SolanaSingleAddressTableLookup where
  addressTableKey : String
  index : Int32
  writable : Bool
  deriving DecidableEq

def SolanaSingleAddressTableLookup.layout :
    Layout SolanaSingleAddressTableLookup (String × Int32 × Bool) where
  fields lookup := (lookup.addressTableKey, lookup.index, lookup.writable)
  build := fun (addressTableKey, index, writable) => some ⟨addressTableKey, index, writable⟩
  build_fields _ := rfl

instance : BorshSerialize SolanaSingleAddressTableLookup :=
  SolanaSingleAddressTableLookup.layout.serializer
instance : BorshDeserialize SolanaSingleAddressTableLookup :=
  SolanaSingleAddressTableLookup.layout.reader
instance : BorshLengths SolanaSingleAddressTableLookup :=
  SolanaSingleAddressTableLookup.layout.sizes

structure SolanaAddressTableLookup where
  addressTableKey : String
  writableIndexes : List Int32
  readonlyIndexes : List Int32
  deriving DecidableEq

def SolanaAddressTableLookup.layout :
    Layout SolanaAddressTableLookup (String × List Int32 × List Int32) where
  fields lookup := (lookup.addressTableKey, lookup.writableIndexes, lookup.readonlyIndexes)
  build := fun (addressTableKey, writableIndexes, readonlyIndexes) =>
    some ⟨addressTableKey, writableIndexes, readonlyIndexes⟩
  build_fields _ := rfl

instance : BorshSerialize SolanaAddressTableLookup := SolanaAddressTableLookup.layout.serializer
instance : BorshDeserialize SolanaAddressTableLookup := SolanaAddressTableLookup.layout.reader
instance : BorshLengths SolanaAddressTableLookup := SolanaAddressTableLookup.layout.sizes

structure SolanaParsedInstructionDataIo where
  instructionName : String
  discriminator : String
  namedAccounts : BTreeMap String String
  programCallArgsJson : String
  idlSource : String
  idlHash : String

def SolanaParsedInstructionDataIo.layout : Layout SolanaParsedInstructionDataIo
    (String × String × BTreeMap String String × String × String × String) where
  fields data := (data.instructionName, data.discriminator, data.namedAccounts,
    data.programCallArgsJson, data.idlSource, data.idlHash)
  build := fun (instructionName, discriminator, namedAccounts, programCallArgsJson, idlSource,
      idlHash) =>
    some ⟨instructionName, discriminator, namedAccounts, programCallArgsJson, idlSource, idlHash⟩
  build_fields _ := rfl

instance : BorshSerialize SolanaParsedInstructionDataIo :=
  SolanaParsedInstructionDataIo.layout.serializer
instance : BorshDeserialize SolanaParsedInstructionDataIo :=
  SolanaParsedInstructionDataIo.layout.reader
instance : BorshLengths SolanaParsedInstructionDataIo := SolanaParsedInstructionDataIo.layout.sizes

structure SolanaRpcParsedInstructionDataIo where
  program : String
  parsedJson : String
  deriving DecidableEq

def SolanaRpcParsedInstructionDataIo.layout :
    Layout SolanaRpcParsedInstructionDataIo (String × String) where
  fields data := (data.program, data.parsedJson)
  build := fun (program, parsedJson) => some ⟨program, parsedJson⟩
  build_fields _ := rfl

instance : BorshSerialize SolanaRpcParsedInstructionDataIo :=
  SolanaRpcParsedInstructionDataIo.layout.serializer
instance : BorshDeserialize SolanaRpcParsedInstructionDataIo :=
  SolanaRpcParsedInstructionDataIo.layout.reader
instance : BorshLengths SolanaRpcParsedInstructionDataIo :=
  SolanaRpcParsedInstructionDataIo.layout.sizes

structure SolanaIntermediateInstruction where
  programKey : String
  accounts : List SolanaAccount
  instructionDataHex : String
  addressTableLookups : List SolanaSingleAddressTableLookup
  parsedInstructionData : Option SolanaParsedInstructionDataIo
  idlParseError : Option SolanaIdlParseError
  registeredSource : RegisteredSource

def SolanaIntermediateInstruction.layout : Layout SolanaIntermediateInstruction
    (String × List SolanaAccount × String × List SolanaSingleAddressTableLookup ×
      Option SolanaParsedInstructionDataIo × Option SolanaIdlParseError × RegisteredSource) where
  fields instruction := (instruction.programKey, instruction.accounts,
    instruction.instructionDataHex, instruction.addressTableLookups,
    instruction.parsedInstructionData, instruction.idlParseError, instruction.registeredSource)
  build := fun (programKey, accounts, instructionDataHex, addressTableLookups,
      parsedInstructionData, idlParseError, registeredSource) =>
    some ⟨programKey, accounts, instructionDataHex, addressTableLookups, parsedInstructionData,
      idlParseError, registeredSource⟩
  build_fields _ := rfl

instance : BorshSerialize SolanaIntermediateInstruction :=
  SolanaIntermediateInstruction.layout.serializer
instance : BorshDeserialize SolanaIntermediateInstruction :=
  SolanaIntermediateInstruction.layout.reader
instance : BorshLengths SolanaIntermediateInstruction := SolanaIntermediateInstruction.layout.sizes

structure SolanaSimulatedInstruction where
  index : UInt32
  stackHeight : UInt32
  programKey : String
  accounts : List String
  instructionDataHex : String
  registeredSource : RegisteredSource
  parsedInstructionData : Option SolanaParsedInstructionDataIo
  solanaRpcParsedData : Option SolanaRpcParsedInstructionDataIo
  idlParseError : Option SolanaIdlParseError

def SolanaSimulatedInstruction.layout : Layout SolanaSimulatedInstruction
    (UInt32 × UInt32 × String × List String × String × RegisteredSource ×
      Option SolanaParsedInstructionDataIo × Option SolanaRpcParsedInstructionDataIo ×
      Option SolanaIdlParseError) where
  fields instruction := (instruction.index, instruction.stackHeight, instruction.programKey,
    instruction.accounts, instruction.instructionDataHex, instruction.registeredSource,
    instruction.parsedInstructionData, instruction.solanaRpcParsedData, instruction.idlParseError)
  build := fun (index, stackHeight, programKey, accounts, instructionDataHex, registeredSource,
      parsedInstructionData, solanaRpcParsedData, idlParseError) =>
    some ⟨index, stackHeight, programKey, accounts, instructionDataHex, registeredSource,
      parsedInstructionData, solanaRpcParsedData, idlParseError⟩
  build_fields _ := rfl

instance : BorshSerialize SolanaSimulatedInstruction := SolanaSimulatedInstruction.layout.serializer
instance : BorshDeserialize SolanaSimulatedInstruction := SolanaSimulatedInstruction.layout.reader
instance : BorshLengths SolanaSimulatedInstruction := SolanaSimulatedInstruction.layout.sizes

structure SolanaIntermediateOutput where
  schemaVersion : UInt16
  accountKeys : List String
  programKeys : List String
  instructions : List SolanaIntermediateInstruction
  transfers : List SolTransfer
  splTransfers : List SplTransfer
  recentBlockhash : String
  addressTableLookups : List SolanaAddressTableLookup
  simulatedInstructions : List SolanaSimulatedInstruction
  simulationError : Option SolanaSimulationError

def SolanaIntermediateOutput.layout : Layout SolanaIntermediateOutput
    (UInt16 × List String × List String × List SolanaIntermediateInstruction × List SolTransfer ×
      List SplTransfer × String × List SolanaAddressTableLookup ×
      List SolanaSimulatedInstruction × Option SolanaSimulationError) where
  fields output := (output.schemaVersion, output.accountKeys, output.programKeys,
    output.instructions, output.transfers, output.splTransfers, output.recentBlockhash,
    output.addressTableLookups, output.simulatedInstructions, output.simulationError)
  build := fun (schemaVersion, accountKeys, programKeys, instructions, transfers, splTransfers,
      recentBlockhash, addressTableLookups, simulatedInstructions, simulationError) =>
    some ⟨schemaVersion, accountKeys, programKeys, instructions, transfers, splTransfers,
      recentBlockhash, addressTableLookups, simulatedInstructions, simulationError⟩
  build_fields _ := rfl

instance : BorshSerialize SolanaIntermediateOutput := SolanaIntermediateOutput.layout.serializer
instance : BorshDeserialize SolanaIntermediateOutput := SolanaIntermediateOutput.layout.reader
instance : BorshLengths SolanaIntermediateOutput := SolanaIntermediateOutput.layout.sizes

/-! ## The codec of the output -/

/-- An output whose sequences fit a `u32` count has an encoding.  The encoding is
read back to the output, uses up its bytes and belongs to no other output. -/
theorem intermediateOutput_roundTrip (output : SolanaIntermediateOutput) :
    (Fits output ↔ ∃ bytes, serialize output = some bytes) ∧
    ∀ bytes, serialize output = some bytes →
      tryFromSlice bytes = some output ∧
      (∀ rest, deserialize (bytes ++ rest) = some (output, rest)) ∧
      ∀ other : SolanaIntermediateOutput, serialize other = some bytes → other = output :=
  codec_lawful output

/-- The version comes first, so that a reader can refuse the rest. -/
theorem version_first {output : SolanaIntermediateOutput} {bytes : Bytes}
    (hbytes : serialize output = some bytes) :
    ∃ rest, bytes = leBytes 2 output.schemaVersion.toNat ++ rest := by
  have hfields : serialize (output.schemaVersion, (SolanaIntermediateOutput.layout.fields output).2)
      = some bytes := hbytes
  obtain ⟨front, hfront, back, -, rfl⟩ := serialize_pair_eq_some.1 hfields
  cases hfront
  exact ⟨back, rfl⟩

end VisualSignParser.Solana.Intermediate
