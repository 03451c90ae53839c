import VisualSignParser.Solana.SplToken
import VisualSignParser.Solana.SquadsMultisig

/-!
# The DFlow aggregator visualizer

An instruction is decoded with the bundled IDL.  The accounts are shown under the names
of the IDL, and the ones behind the last name are counted.
-/

namespace VisualSignParser.Solana.Dflow

open VisualSignParser.Framing
open VisualSignParser.OrderedMap
open VisualSignParser.Solana.SplToken (InstructionView)
open VisualSignParser.Solana.Squads (PreviewFields isSelected)
open VisualSignParser.Sui (asU64)
open VisualSignParser.VisualSign

def dflowAggregatorProgramId : String := "DF1ow4tspfHX9JwWJsAb9epbkA8hmpSEAtxXy1V27QBH"

/-! ## Arguments -/

/-- Characters that the quote-free text cannot have are dropped. -/
def charsetSafe (text : String) : String :=
  String.ofList (text.toList.filter fun char =>
    char == ' ' || (Text.isAsciiGraphic char && char != '"' && char != '\\'))

/-- An array of bytes as one text; an empty one and every other array has none. -/
def bytesAsHex (items : List Json.Value) : Option String :=
  if items.isEmpty then none
  else (items.mapM fun item => (asU64 item).filter fun value => value ≤ 255).map fun bytes =>
    "0x" ++ Hex.encode (bytes.map UInt8.ofNat)

mutual

def formatArgValue : Json.Value → String
  | .string text => charsetSafe text
  | .number number => String.ofList number.1
  | .bool flag => toString flag
  | .null => "null"
  | .array items => (bytesAsHex items).getD ("[" ++ ",".intercalate (formatItems items) ++ "]")
  | .object members => "\x7b" ++ ",".intercalate (formatMembers members) ++ "\x7d"

def formatItems : List Json.Value → List String
  | [] => []
  | item :: items => formatArgValue item :: formatItems items

def formatMembers : List (String × Json.Value) → List String
  | [] => []
  | (key, value) :: members => (charsetSafe key ++ ":" ++ formatArgValue value) ::
      formatMembers members

end

/-! ## Accounts -/

/-- The accounts that have a name, and the ones behind them.  The discriminator of any
length selects the instruction. -/
def buildNamedAccounts (data : Bytes) (idl : Idl) (accounts : List String) :
    BTreeMap String String × List String :=
  match idl.instructions.find? (isSelected data) with
  | some instruction => (nameAccounts instruction.accountNames accounts,
      accounts.drop instruction.accountNames.length)
  | none => (BTreeMap.empty, [])

structure DflowAggregatorParsedInstruction where
  parsed : SolanaParsedInstructionData
  namedAccounts : BTreeMap String String
  extraAccounts : List String

/-- The IDL is bundled; the crate of the IDL decoder may not accept it. -/
def parseDflowAggregatorInstruction (bundled : Option Idl) (parser : IdlParser) (data : Bytes)
    (accounts : List String) : Option DflowAggregatorParsedInstruction := do
  if data.length < 8 then none
  else
    let idl ← bundled
    let parsed ← parser.parseInstructionWithIdl data dflowAggregatorProgramId idl
    let accounts := buildNamedAccounts data idl accounts
    return ⟨parsed, accounts.1, accounts.2⟩

/-! ## Fields -/

/-- Accounts behind the last name, counted from one. -/
def remainingFields (accounts : List String) : List AnnotatedPayloadField :=
  accounts.zipIdx.map fun extra =>
    createTextField ("Remaining Account " ++ toString (extra.2 + 1)) extra.1

def buildParsedFields (instruction : DflowAggregatorParsedInstruction) (programId : String) :
    PreviewFields :=
  let parsed := instruction.parsed
  let args := parsed.programCallArgs.map fun arg => createTextField arg.1 (formatArgValue arg.2)
  { title := "DFlow Aggregator: " ++ parsed.instructionName
    condensed := [createTextField "Program" "DFlow Aggregator",
      createTextField "Instruction" parsed.instructionName] ++ args
    expanded := [createTextField "Program ID" programId,
      createTextField "Instruction" parsed.instructionName,
      createTextField "Discriminator" parsed.discriminator] ++
      (instruction.namedAccounts.entries.map fun account =>
        createTextField account.1 account.2) ++
      remainingFields instruction.extraAccounts ++ args }

def buildFallbackFields (programId : String) : PreviewFields where
  title := "DFlow Aggregator: Unknown Instruction"
  condensed := [createTextField "Program" "DFlow Aggregator",
    createTextField "Status" "Unknown instruction type"]
  expanded := [createTextField "Program ID" programId,
    createTextField "Status" "Unknown instruction type"]

def buildFields (bundled : Option Idl) (parser : IdlParser) (context : VisualizerContext) :
    PreviewFields :=
  let view := InstructionView.fromContext context
  match parseDflowAggregatorInstruction bundled parser context.data view.accounts with
  | some instruction => buildParsedFields instruction view.programId
  | none => buildFallbackFields view.programId

/-- `DflowAggregatorVisualizer::visualize_tx_commands`. -/
def visualizeTxCommands (bundled : Option Idl) (parser : IdlParser) (context : VisualizerContext) :
    AnnotatedPayloadField :=
  let view := InstructionView.fromContext context
  let fields := buildFields bundled parser context
  previewField ("Instruction " ++ toString (context.instructionIndex + 1))
    ("Program ID: " ++ view.programId ++ "\nData: " ++ Hex.encode context.data) fields.title ""
    fields.condensed
    (fields.expanded ++ [createRawDataField context.data (some (Hex.encode context.data))])

end VisualSignParser.Solana.Dflow
