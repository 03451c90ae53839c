import VisualSignParser.Solana.ArgRendering
import VisualSignParser.Solana.NamedAccounts

/-!
# Visualizers of one program and its IDL

Seventeen visualizers decode the instructions of one program with a bundled IDL.
They differ in the lists they show, in how they name the accounts, and in what
they do with an instruction that cannot be decoded: some show its data, the
others fail.
-/

namespace VisualSignParser.Solana

open VisualSignParser.Framing
open VisualSignParser.OrderedMap
open VisualSignParser.Solana.Dflow (remainingFields)
open VisualSignParser.Solana.SplToken (InstructionView)
open VisualSignParser.Solana.Squads (PreviewFields)
open VisualSignParser.VisualSign

/-- The bundled IDL, what is called in the crate of the IDL decoder, and the texts
of its errors. -/
structure IdlCrate where
  bundled : Except String Idl
  parser : IdlParser
  parseError : Bytes → String → Idl → String

/-- What a visualizer does without a decoded instruction: show the fields, or fail
with a text for data that is too short, for an IDL that cannot be read and for
data that it does not decode. -/
inductive Undecoded where
  | shown (fields : String → PreviewFields)
  | refused (tooShort : String) (noIdl unparsed : String → String)

/-- What is shown of a decoded instruction. -/
structure Parsed where
  parsed : SolanaParsedInstructionData
  named : List (String × String)
  remaining : List String

/-- A visualizer of the family.  The expanded list has a head, the accounts and the
arguments. -/
structure IdlPreset where
  programId : String
  displayName : String
  subtitle : String
  minimumLength : ℕ
  selects : Bytes → IdlInstruction → Bool
  condensed : SolanaParsedInstructionData → List AnnotatedPayloadField
  head : String → SolanaParsedInstructionData → List AnnotatedPayloadField
  accounts : Parsed → List AnnotatedPayloadField
  args : Parsed → List AnnotatedPayloadField
  rawText : Bytes → Option String
  undecoded : Undecoded

namespace IdlPreset

/-- The accounts with the names of the IDL, and the ones behind the last name. -/
def buildNamedAccounts (preset : IdlPreset) (data : Bytes) (idl : Idl) (accounts : List String) :
    List (String × String) × List String :=
  match idl.instructions.find? (preset.selects data) with
  | some instruction => (instruction.accountNames.zip accounts,
      accounts.drop instruction.accountNames.length)
  | none => ([], [])

/-- Why an instruction is not decoded. -/
inductive ParseFailure where
  | tooShort
  | noIdl (error : String)
  | unparsed (error : String)

def parseInstruction (preset : IdlPreset) (crate : IdlCrate) (data : Bytes)
    (accounts : List String) : Except ParseFailure Parsed :=
  if data.length < preset.minimumLength then .error .tooShort
  else
    match crate.bundled with
    | .error error => .error (.noIdl error)
    | .ok idl =>
        match crate.parser.parseInstructionWithIdl data preset.programId idl with
        | none => .error (.unparsed (crate.parseError data preset.programId idl))
        | some parsed =>
            let accounts := preset.buildNamedAccounts data idl accounts
            .ok ⟨parsed, accounts.1, accounts.2⟩

def parsedFields (preset : IdlPreset) (programId : String) (instruction : Parsed) : PreviewFields :=
  { title := preset.displayName ++ ": " ++ instruction.parsed.instructionName
    condensed := preset.condensed instruction.parsed
    expanded := preset.head programId instruction.parsed ++ preset.accounts instruction ++
      preset.args instruction }

def undecodedFields (preset : IdlPreset) (programId : String) :
    ParseFailure → Except VisualSignError PreviewFields :=
  match preset.undecoded with
  | .shown fields => fun _ => .ok (fields programId)
  | .refused tooShort noIdl unparsed => fun
      | .tooShort => .error (.decodeError tooShort)
      | .noIdl error => .error (.decodeError (noIdl error))
      | .unparsed error => .error (.decodeError (unparsed error))

def buildFields (preset : IdlPreset) (crate : IdlCrate) (data : Bytes) (view : InstructionView) :
    Except VisualSignError PreviewFields :=
  match preset.parseInstruction crate data view.accounts with
  | .ok instruction => .ok (preset.parsedFields view.programId instruction)
  | .error failure => preset.undecodedFields view.programId failure

/-- The preview of an instruction.  The raw data is the last of the expanded fields. -/
def instructionField (preset : IdlPreset) (context : VisualizerContext) (programId : String)
    (fields : PreviewFields) : AnnotatedPayloadField :=
  previewField ("Instruction " ++ toString (context.instructionIndex + 1))
    ("Program ID: " ++ programId ++ "\nData: " ++ Hex.encode context.data) fields.title
    preset.subtitle fields.condensed
    (fields.expanded ++ [createRawDataField context.data (preset.rawText context.data)])

/-- `visualize_tx_commands`. -/
def visualizeTxCommands (preset : IdlPreset) (crate : IdlCrate) (context : VisualizerContext) :
    Except VisualSignError AnnotatedPayloadField :=
  let view := InstructionView.fromContext context
  (preset.buildFields crate context.data view).map
    (preset.instructionField context view.programId)

end IdlPreset

/-! ## What the lists have in common -/

/-- Strings as they are, everything else as JSON. -/
def argFields (args : List (String × Json.Value)) : List AnnotatedPayloadField :=
  args.map fun arg => createTextField arg.1 (Squads.formatArgValue arg.2)

/-- The accounts by their names: one that comes later takes the place of one of its name. -/
def accountFields (named : List (String × String)) : List AnnotatedPayloadField :=
  (collectSorted named).map namedField

def sortArgs (args : List (String × Json.Value)) : List (String × Json.Value) :=
  args.mergeSort fun left right => decide (left.1 ≤ right.1)

/-- The program, the name of the instruction and its discriminator. -/
def headFields (programId : String) (parsed : SolanaParsedInstructionData) :
    List AnnotatedPayloadField :=
  [createTextField "Program ID" programId, createTextField "Instruction" parsed.instructionName,
    createTextField "Discriminator" parsed.discriminator]

/-! ## Visualizers that show what they cannot decode -/

def unknownInstruction (displayName : String) : Undecoded :=
  .shown fun programId =>
    { title := displayName ++ ": Unknown Instruction"
      condensed := [createTextField "Program" displayName,
        createTextField "Status" "Unknown instruction type"]
      expanded := [createTextField "Program ID" programId,
        createTextField "Status" "Unknown instruction type"] }

/-- The family of the Jupiter programs, of Kamino Borrow and of Exponent. -/
def tolerantPreset (displayName programId : String) (minimumLength : ℕ) : IdlPreset where
  programId := programId
  displayName := displayName
  subtitle := ""
  minimumLength := minimumLength
  selects := Squads.isSelected
  condensed parsed := [createTextField "Program" displayName,
    createTextField "Instruction" parsed.instructionName] ++ argFields parsed.programCallArgs
  head := headFields
  accounts instruction := accountFields instruction.named
  args instruction := argFields instruction.parsed.programCallArgs
  rawText data := some (Hex.encode data)
  undecoded := unknownInstruction displayName

def kaminoBorrow : IdlPreset :=
  tolerantPreset "Kamino Borrow" "KLend2g3cP87fffoy8q1mQqGKjrxjC8boSyAYavgmjD" 8

def jupiterEarn : IdlPreset :=
  tolerantPreset "Jupiter Earn" "jup3YeL8QhtSx1e253b2FDvsMNC87fDrgQZivbrndc9" 8

def jupiterBorrow : IdlPreset :=
  tolerantPreset "Jupiter Borrow" "jupr81YtYssSyPt8jbnGuiWon5f6x9TcDEFxYe3Bdzi" 8

def jupiterPerps : IdlPreset :=
  tolerantPreset "Jupiter Perpetuals" "PERPHjGBqRHArX4DySjwM6UJHiR3sWAatqfdBS2qQJu" 8

/-- The discriminators of Exponent have one byte. -/
def exponentFinance : IdlPreset :=
  tolerantPreset "Exponent Finance" "ExponentnaRg3CQbW6dqQNZKXp7gtZ9DGMp1cwC4HAS7" 1

/-- An account and an argument of one name are told apart. -/
def currentLabel (args : List (String × Json.Value)) (account : String × String) :
    AnnotatedPayloadField :=
  createTextField (if account.1 ∈ args.map Prod.fst then "Current " ++ account.1 else account.1)
    account.2

def newLabel (named : List (String × String)) (arg : String × Json.Value) : AnnotatedPayloadField :=
  createTextField (if arg.1 ∈ named.map Prod.fst then "New " ++ arg.1 else arg.1)
    (Squads.formatArgValue arg.2)

def drift : IdlPreset :=
  { tolerantPreset "Drift" "dRiftyHA39MWEi3m9aunc5MzRF1JYuBsbn6VPcn33UH" 8 with
    accounts := fun instruction =>
      (collectSorted instruction.named).map (currentLabel instruction.parsed.programCallArgs)
    args := fun instruction =>
      instruction.parsed.programCallArgs.map (newLabel instruction.named) }

/-- Drift does not show an instruction that has a position without a key. -/
def visualizeDrift (crate : IdlCrate) (context : VisualizerContext) :
    Except VisualSignError AnnotatedPayloadField := do
  let _ ← context.resolveProgramId
  let _ ← context.resolveAccounts
  drift.visualizeTxCommands crate context

/-- The name of the program in front of its address. -/
def namedHeadFields (displayName programId : String) (parsed : SolanaParsedInstructionData) :
    List AnnotatedPayloadField :=
  createTextField "Program" displayName :: headFields programId parsed

def cleanArgFields (args : List (String × Json.Value)) : List AnnotatedPayloadField :=
  args.map fun arg => createTextField arg.1 (ArgRendering.formatArgValue arg.2)

/-- Marginfi shows the accounts behind the last name, and cleans the arguments. -/
def marginfi : IdlPreset :=
  { tolerantPreset "Marginfi" "MFv2hWf31Z9kbCa1snEPdcgp7X3GK4Y9EtyMkRxBUGA" 8 with
    condensed := fun parsed => [createTextField "Program" "Marginfi",
      createTextField "Instruction" parsed.instructionName] ++
        cleanArgFields parsed.programCallArgs
    head := namedHeadFields "Marginfi"
    accounts := fun instruction =>
      accountFields instruction.named ++ remainingFields instruction.remaining
    args := fun instruction => cleanArgFields instruction.parsed.programCallArgs
    undecoded := .shown fun programId =>
      { title := "Marginfi: Unknown Instruction"
        condensed := [createTextField "Program" "Marginfi",
          createTextField "Status" "Unknown instruction type"]
        expanded := [createTextField "Program" "Marginfi",
          createTextField "Program ID" programId,
          createTextField "Status" "Unknown instruction type"] } }

/-- The other Kamino programs do not show arguments in the condensed list. -/
def kaminoPreset (displayName programId : String) (rawText : Bytes → Option String) : IdlPreset where
  programId := programId
  displayName := displayName
  subtitle := ""
  minimumLength := 8
  selects := UnknownProgram.isSelected
  condensed parsed := [createTextField "Program" displayName,
    createTextField "Instruction" parsed.instructionName]
  head := headFields
  accounts instruction := accountFields instruction.named
  args instruction := argFields (sortArgs instruction.parsed.programCallArgs)
  rawText := rawText
  undecoded := .shown fun programId =>
    { title := displayName ++ ": Unknown Instruction"
      condensed := [createTextField "Program" displayName]
      expanded := [createTextField "Program ID" programId,
        createTextField "Status" "IDL parsing failed - showing raw data"] }

def kaminoVault : IdlPreset :=
  kaminoPreset "Kamino Vault" "KvauGMspG5k6rtzrqqn7WNn3oZdyKqLKwK2XWQ8FLjd" fun _ => none

def kaminoFarms : IdlPreset :=
  kaminoPreset "Kamino Farms" "FarmsPZpWu9i7Kky8tPN37rs2TpmMrAZrC7S7vJa91Hr" fun _ => none

def kaminoLimit : IdlPreset :=
  kaminoPreset "Kamino Limit Orders" "LiMoM9rMhrdYrfzUCxQppvxCSG1FcrUK9G8uLq4A1GF"
    fun data => some (Hex.encode data)

/-! ## Visualizers that fail -/

/-- The title of the preview is the first of the condensed fields. -/
def titledFields (displayName : String) (parsed : SolanaParsedInstructionData) :
    List AnnotatedPayloadField :=
  createTextField "Instruction" (displayName ++ ": " ++ parsed.instructionName) ::
    argFields parsed.programCallArgs

/-- The family of the strict visualizers. -/
def strictPreset (displayName programId subtitle : String)
    (head : String → SolanaParsedInstructionData → List AnnotatedPayloadField)
    (accounts : List (String × String) → List AnnotatedPayloadField)
    (tooShort : String) (noIdl unparsed : String → String) : IdlPreset where
  programId := programId
  displayName := displayName
  subtitle := subtitle
  minimumLength := 8
  selects := UnknownProgram.isSelected
  condensed := titledFields displayName
  head := head
  accounts instruction := accounts instruction.named
  args instruction := argFields instruction.parsed.programCallArgs
  rawText _ := none
  undecoded := .refused tooShort noIdl unparsed

/-- Accounts of one name stay beside each other. -/
def onreApp : IdlPreset :=
  strictPreset "Onre App" "onreuGhHHgVzMWSkj2oQDLDtvvGvoepBPkqyaubFcwe" "Onre App" headFields
    (List.map namedField) "Invalid instruction data length" id id

def meteoraDlmm : IdlPreset :=
  strictPreset "Meteora DLMM" "LBUZKhRxPF3XUpBCjp4YzTKgLccjZhTSDM9YuVaPwxo" "" headFields
    (List.map namedField) "Instruction data shorter than 8-byte discriminator"
    (fun _ => "Meteora DLMM IDL not available") id

def meteoraDammV2 : IdlPreset :=
  strictPreset "Meteora DAMM V2" "cpamdpZCGKUy5JxQXB4dcpGPiikHawvSWAd6mEn1sGG" "" headFields
    accountFields "Instruction data too short for Anchor discriminator" id id

def neutralTrade : IdlPreset :=
  strictPreset "Neutral Trade" "BUNDDh4P5XviMm1f3gCvnq2qKx6TGosAGnoUK12e7cXU" "Neutral Trade"
    (namedHeadFields "Neutral Trade") accountFields
    "Instruction data too short for Anchor discriminator" ("Invalid Neutral Trade IDL: " ++ ·)
    ("Neutral Trade IDL parse failed: " ++ ·)

/-- The programs of MetaDAO show the name of the instruction only in the condensed list. -/
def metadaoPreset (displayName programId : String) : IdlPreset :=
  { strictPreset displayName programId "" (namedHeadFields displayName) accountFields
      "Instruction data too short for Anchor discriminator" ("Failed to decode bundled IDL: " ++ ·)
      ("IDL parse failed: " ++ ·) with
    condensed := fun parsed => [createTextField "Instruction" parsed.instructionName] }

def metadaoFutarchy : IdlPreset :=
  metadaoPreset "MetaDAO Futarchy" "FUTARELBfJfQ8RDGhg1wdhddq1odMAJUePHFuBYfUxKq"

def metadaoConditionalVault : IdlPreset :=
  metadaoPreset "MetaDAO Conditional Vault" "VLTX1ishMBbcX3rdBWGssxawAo1Q2X2qxYFYqiGodVg"

/-! ## Orca -/

/-- The accounts that the crate has named, by name, and all by position if there are none. -/
def orcaNamedAccounts (named : List (String × String)) (accounts : List String) :
    List (String × String) :=
  if named = [] then
    accounts.zipIdx.map fun account => ("Account " ++ toString account.2, account.1)
  else named.mergeSort fun left right => decide (left.1 ≤ right.1)

/-- The labels say what is an account and what an argument. -/
def orcaWhirlpool : IdlPreset :=
  { strictPreset "Orca Whirlpool" "whirLbMiicVdio4qvUfM5KAg6Ct8VwpYzGff3uctyCc" ""
      (fun programId parsed => [createTextField "Program ID" programId,
        createTextField "Instruction Name" parsed.instructionName])
      (List.map fun account => createTextField ("Account: " ++ account.1) account.2)
      "Orca Whirlpool instruction data too short (need 8-byte discriminator)"
      ("Orca Whirlpool IDL invalid: " ++ ·) id with
    condensed := fun parsed =>
      [createTextField "Instruction" ("Orca Whirlpool: " ++ parsed.instructionName)]
    args := fun instruction => (sortArgs instruction.parsed.programCallArgs).map fun arg =>
      createTextField ("Arg: " ++ arg.1) (Squads.formatArgValue arg.2) }

/-- Orca takes the accounts from the crate of the IDL decoder. -/
def visualizeOrca (crate : IdlCrate) (named : Bytes → List (String × String))
    (context : VisualizerContext) : Except VisualSignError AnnotatedPayloadField :=
  let view := InstructionView.fromContext context
  match orcaWhirlpool.parseInstruction crate context.data view.accounts with
  | .ok instruction => .ok (orcaWhirlpool.instructionField context view.programId
      (orcaWhirlpool.parsedFields view.programId
        { instruction with named := orcaNamedAccounts (named context.data) view.accounts }))
  | .error failure => (orcaWhirlpool.undecodedFields view.programId failure).map
      (orcaWhirlpool.instructionField context view.programId)

end VisualSignParser.Solana
