import VisualSignParser.Solana.Context

/-!
# Programs without a visualizer of their own

The last visualizer accepts every instruction.  It decodes with an IDL when
there is one and shows the raw data otherwise, and it does not fail.
-/

namespace VisualSignParser.Solana

open VisualSignParser.Framing
open VisualSignParser.OrderedMap
open VisualSignParser.VisualSign

/-! ## The IDL crate -/

structure IdlInstruction where
  discriminator : Option Bytes
  accountNames : List String

/-- A decoded IDL: the instructions, and the document they came from. -/
structure Idl where
  document : String
  instructions : List IdlInstruction

/-- What is read of `SolanaParsedInstructionData`. -/
structure SolanaParsedInstructionData where
  instructionName : String
  discriminator : String
  programCallArgs : List (String × Json.Value)

/-- What is called in the crate of the IDL decoder. -/
structure IdlParser where
  decodeIdlData : String → Option Idl
  parseInstructionWithIdl : Bytes → String → Idl → Option SolanaParsedInstructionData

/-- The names of an IDL beside the accounts of the instruction. -/
def nameAccounts (names texts : List String) : BTreeMap String String :=
  (names.zip texts).foldl (fun named entry => named.insert entry.1 entry.2) BTreeMap.empty

/-! ## The visualizer -/

def previewField (label fallbackText title subtitle : String)
    (condensed expanded : List AnnotatedPayloadField) : AnnotatedPayloadField :=
  annotateField (.previewLayout ⟨fallbackText, label⟩
    ⟨some ⟨title⟩, some ⟨subtitle⟩, some ⟨condensed⟩, some ⟨expanded⟩⟩)

namespace UnknownProgram

variable (crates : Crates) (parser : IdlParser)

def hasIdl (idlRegistry : IdlRegistry) (programId : Pubkey) : Bool :=
  (idlRegistry.configs.get programId.text).isSome ||
    (crates.fromProgramId programId.text).isSome

def getIdl (idlRegistry : IdlRegistry) (programId : String) : Option Idl :=
  (idlRegistry.configs.get programId).bind fun config => parser.decodeIdlData config.json

def resolveProgramIdStr (context : VisualizerContext) : String :=
  match context.programId with
  | .resolved pubkey => pubkey.text
  | .unresolved rawIndex => "unresolved(" ++ toString rawIndex.toNat ++ ")"

def resolveAccountStr (context : VisualizerContext) (position : ℕ) : String :=
  match context.account position with
  | some (.resolved pubkey) => pubkey.text
  | some (.unresolved rawIndex) => "unresolved(" ++ toString rawIndex.toNat ++ ")"
  | none => "unknown"

/-- The first eight bytes select the instruction of the IDL. -/
def isSelected (data : Bytes) (instruction : IdlInstruction) : Bool :=
  match instruction.discriminator with
  | some discriminator => 8 ≤ data.length && data.take 8 == discriminator
  | none => false

def tryParseWithIdl (context : VisualizerContext) (programId : Pubkey) :
    Option (SolanaParsedInstructionData × BTreeMap String String) := do
  let idl ← getIdl parser context.idlRegistry programId.text
  let parsed ← parser.parseInstructionWithIdl context.data programId.text idl
  let names := ((idl.instructions.find? (isSelected context.data)).map
    IdlInstruction.accountNames).getD []
  return (parsed, nameAccounts names
    ((List.range context.numAccounts).map (resolveAccountStr context)))

def fallbackText (programId : String) (data : Bytes) : String :=
  "Program ID: " ++ programId ++ "\nData: " ++ Hex.encode data

def tryIdlParsing (context : VisualizerContext) (programId : Pubkey) : AnnotatedPayloadField :=
  let dataHex := Hex.encode context.data
  let program := createTextField "Program" (context.idlRegistry.programDisplay crates programId)
  let raw := [createTextField "Program ID" programId.text,
    createTextField "Instruction Data" dataHex]
  let (condensed, expanded) := match tryParseWithIdl parser context programId with
    | some (parsed, named) =>
        ([program, createTextField "Instruction" parsed.instructionName] ++
            parsed.programCallArgs.map fun arg =>
              createTextField arg.1 (String.ofList arg.2.render),
          raw ++ [createTextField "Instruction" parsed.instructionName,
            createTextField "Discriminator" parsed.discriminator] ++
            named.entries.map fun account => createTextField account.1 account.2)
    | none => ([program],
        raw ++ [createTextField "Status" "IDL parsing failed - showing raw data"])
  previewField ("Instruction " ++ toString (context.instructionIndex + 1))
    (fallbackText programId.text context.data)
    (context.idlRegistry.getProgramName crates programId ++ " (IDL)") "" condensed expanded

def createUnknownProgramPreviewLayout (context : VisualizerContext) : AnnotatedPayloadField :=
  let programId := resolveProgramIdStr context
  previewField ("Instruction " ++ toString (context.instructionIndex + 1))
    (fallbackText programId context.data) programId ""
    [createTextField "Program" programId]
    [createTextField "Program ID" programId,
      createTextField "Instruction Data" (Hex.encode context.data)]

/-- `UnknownProgramVisualizer::visualize_tx_commands`. -/
def visualizeTxCommands (context : VisualizerContext) : AnnotatedPayloadField :=
  match context.programId with
  | .resolved programId =>
      if hasIdl crates context.idlRegistry programId then
        tryIdlParsing crates parser context programId
      else createUnknownProgramPreviewLayout context
  | .unresolved _ => createUnknownProgramPreviewLayout context

end UnknownProgram

end VisualSignParser.Solana
