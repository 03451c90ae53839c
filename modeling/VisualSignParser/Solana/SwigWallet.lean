import VisualSignParser.Solana.SwigCompact
import VisualSignParser.Solana.UnknownProgram

/-!
# The Swig wallet visualizer

The instructions a wallet signs are described through all visualizers, one level
deeper than the sign instruction.  The depth is checked on entry, before the
data is read.  Instructions that sign nothing do not nest, and what is shown of
them is left open.
-/

namespace VisualSignParser.Solana.Swig

open VisualSignParser.Framing
open VisualSignParser.Cursor
open VisualSignParser.OrderedMap
open VisualSignParser.VisualSign

/-! ## Summaries -/

inductive SplAuthorityType where
  | accountOwner
  | closeAccount
  | freezeAccount
  | mintTokens

def SplAuthorityType.text : SplAuthorityType → String
  | accountOwner => "AccountOwner"
  | closeAccount => "CloseAccount"
  | freezeAccount => "FreezeAccount"
  | mintTokens => "MintTokens"

/-- The token instructions that have a summary, and all others. -/
inductive TokenInstruction where
  | transfer (amount : UInt64)
  | transferChecked (amount : UInt64) (decimals : UInt8)
  | mintTo (amount : UInt64)
  | mintToChecked (amount : UInt64) (decimals : UInt8)
  | burn (amount : UInt64)
  | burnChecked (amount : UInt64) (decimals : UInt8)
  | approve (amount : UInt64)
  | approveChecked (amount : UInt64) (decimals : UInt8)
  | setAuthority (authorityType : SplAuthorityType) (newAuthority : Option Pubkey)
  | closeAccount
  | syncNative
  | other

/-- What is called in the token and system crates: `TokenInstruction::unpack`,
and the lamports of a system transfer. -/
structure NativeCrates where
  unpackToken : Bytes → Option TokenInstruction
  systemTransfer : Bytes → Option UInt64

def accountLabel (accounts : List InnerAccountMeta) (index : ℕ) (fallback : String) : String :=
  (accounts[index]?.map InnerAccountMeta.display).getD fallback

/-- Labelled values, one on each line. -/
def labelledLines (entries : List (String × String)) : String :=
  "\n".intercalate (entries.map fun entry => entry.1 ++ ": " ++ entry.2)

/-- The lines of the summary of a token instruction; a checked approval has none. -/
def summaryLines (accounts : List InnerAccountMeta) : TokenInstruction → List (String × String)
  | .transfer amount => [("From", accountLabel accounts 0 "Source"),
      ("To", accountLabel accounts 1 "Destination"), ("Owner", accountLabel accounts 2 "Owner"),
      ("Amount", toString amount.toNat)]
  | .transferChecked amount decimals => [("From", accountLabel accounts 0 "Source"),
      ("To", accountLabel accounts 2 "Destination"), ("Owner", accountLabel accounts 3 "Owner"),
      ("Amount", toString amount.toNat), ("Mint", accountLabel accounts 1 "Mint"),
      ("Decimals", toString decimals.toNat)]
  | .mintTo amount => [("Mint", accountLabel accounts 0 "Mint"),
      ("Destination", accountLabel accounts 1 "Destination"),
      ("Authority", accountLabel accounts 2 "Authority"), ("Amount", toString amount.toNat)]
  | .mintToChecked amount decimals => [("Mint", accountLabel accounts 0 "Mint"),
      ("Destination", accountLabel accounts 1 "Destination"),
      ("Authority", accountLabel accounts 2 "Authority"), ("Amount", toString amount.toNat),
      ("Decimals", toString decimals.toNat)]
  | .burn amount => [("Source", accountLabel accounts 0 "Source"),
      ("Mint", accountLabel accounts 1 "Mint"),
      ("Authority", accountLabel accounts 2 "Authority"), ("Amount", toString amount.toNat)]
  | .burnChecked amount decimals => [("Source", accountLabel accounts 0 "Source"),
      ("Mint", accountLabel accounts 1 "Mint"),
      ("Authority", accountLabel accounts 2 "Authority"), ("Amount", toString amount.toNat),
      ("Decimals", toString decimals.toNat)]
  | .approve amount => [("Owner", accountLabel accounts 0 "Owner"),
      ("Delegate", accountLabel accounts 1 "Delegate"), ("Amount", toString amount.toNat)]
  | .setAuthority authorityType newAuthority => [("Account", accountLabel accounts 0 "Account"),
      ("Authority Type", authorityType.text),
      ("New Authority", (newAuthority.map Pubkey.text).getD "None")]
  | .closeAccount => [("Account", accountLabel accounts 0 "Account"),
      ("Destination", accountLabel accounts 1 "Destination"),
      ("Authority", accountLabel accounts 2 "Authority")]
  | .syncNative => [("Account", accountLabel accounts 0 "Account"), ("Action", "Sync Native")]
  | .approveChecked .. => []
  | .other => []

def formatTokenInstructionSummary (accounts : List InnerAccountMeta) :
    TokenInstruction → Option String
  | .approveChecked amount decimals => some ("SPL Token: approve checked for " ++
      toString amount.toNat ++ " (" ++ toString decimals.toNat ++ " decimals)")
  | .other => none
  | tokenInstruction => some (labelledLines (summaryLines accounts tokenInstruction))

def formatNativeSolTransfer (accounts : List InnerAccountMeta) (lamports : UInt64) : String :=
  labelledLines [("From", accountLabel accounts 0 "Source"),
    ("To", accountLabel accounts 1 "Destination"), ("Amount", toString lamports.toNat)]

def splTokenId : String := "TokenkegQfeZyiNwAJbNbGKPFXCWuBvf9Ss623VQ5DA"

def systemProgramId : String := "11111111111111111111111111111111"

def nativeSummary (crates : NativeCrates) (programId : Pubkey) (data : Bytes)
    (accounts : List InnerAccountMeta) : Option String :=
  if programId.text = splTokenId then
    (crates.unpackToken data).bind (formatTokenInstructionSummary accounts)
  else if programId.text = systemProgramId then
    (crates.systemTransfer data).map (formatNativeSolTransfer accounts)
  else none

/-- A text that is not empty, or the fallback text that is not empty. -/
def summaryOr (common : SignablePayloadFieldCommon) (text : String) : Option String :=
  if text.isEmpty then
    if common.fallbackText.isEmpty then none else some common.fallbackText
  else some text

def summarizeVisualizedField (field : AnnotatedPayloadField) : Option String :=
  match field.signablePayloadField with
  | .previewLayout common layout => summaryOr common ((layout.title.map (·.text)).getD "")
  | .text common text => summaryOr common text.text
  | .textV2 common textV2 => summaryOr common textV2.text
  | .number common number => summaryOr common number.number
  | .amount common amount => summaryOr common amount.amount
  | .amountV2 common amountV2 => summaryOr common amountV2.amount
  | .address common address => summaryOr common address.address
  | .addressV2 common addressV2 => summaryOr common addressV2.address
  | .listLayout common _ => summaryOr common ""
  | .divider common _ => summaryOr common ""
  | .unknown common _ => summaryOr common ""
  | .diagnostic common _ => summaryOr common ""

/-! ## Inner instructions -/

/-- An account that is not resolved leaves nothing to build. -/
def buildInnerInstruction (programId : Pubkey) (accounts : List InnerAccountMeta)
    (data : Bytes) : Option Instruction := do
  let metas ← accounts.mapM fun account => account.pubkey.map fun pubkey =>
    (⟨pubkey, account.isSigner, account.isWritable⟩ : AccountMeta)
  return ⟨programId, metas, data⟩

/-- `IdlRegistry::new`. -/
def newIdlRegistry : IdlRegistry := ⟨BTreeMap.empty, BTreeMap.empty, BTreeMap.empty⟩

/-- The context of an inner instruction, one level deeper and without the IDLs of
the caller. -/
def innerContext (rebuilt : List Pubkey × CompiledInstruction) (parentDepth : ℕ) :
    VisualizerContext :=
  let sender := (rebuilt.1[1]?).or rebuilt.1.head?
  (VisualizerContext.new ⟨(sender.map Pubkey.text).getD "", false, false⟩ rebuilt.2 rebuilt.1
    newIdlRegistry 0).withCallDepth (saturatingAdd parentDepth 1)

/-- The catch-all and the token visualizer say less than the summaries above. -/
def keepsSummary (kind : VisualizerKind) : Bool :=
  kind ≠ .payments "UnknownProgram" && kind ≠ .payments "SplToken"

def shownSummary : Option (Except VisualSignError VisualizeResult) → Option String
  | some (.ok result) =>
      if keepsSummary result.kind then summarizeVisualizedField result.field else none
  | _ => none

section Nested

variable {m : Type → Type} [Monad m]
  (visualizeAny : VisualizerContext → m (Option (Except VisualSignError VisualizeResult)))

def visualizeInnerInstruction (instruction : Instruction) (parentDepth : ℕ) :
    m (Option String) :=
  match rebuildCompiled instruction with
  | none => pure none
  | some rebuilt => do
      let result ← visualizeAny (innerContext rebuilt parentDepth)
      return shownSummary result

/-- The summary of the visualizers, if the instruction can be built. -/
def visualizeBuilt (programId : Pubkey) (accounts : List InnerAccountMeta) (data : Bytes)
    (parentDepth : ℕ) : m (Option String) :=
  match buildInnerInstruction programId accounts data with
  | none => pure none
  | some instruction => visualizeInnerInstruction visualizeAny instruction parentDepth

def describeInnerInstruction (crates : NativeCrates) : Describe m :=
  fun programId programDisplay data accounts parentDepth =>
    let fallback := "Program " ++ programDisplay ++ " (" ++ toString data.length ++ " bytes)"
    match programId with
    | none => pure fallback
    | some programId => do
        let shown ← visualizeBuilt visualizeAny programId accounts data parentDepth
        return (shown.or (nativeSummary crates programId data accounts)).getD fallback

end Nested

/-! ## Instructions -/

/-- The three instructions that sign a list of others. -/
inductive SignKind where
  | signV1
  | signV2
  | subAccountSignV1

namespace SignKind

def ofDiscriminator : ℕ → Option SignKind
  | 4 => some signV1
  | 9 => some subAccountSignV1
  | 11 => some signV2
  | _ => none

def headerLen : SignKind → ℕ
  | signV1 => 8
  | signV2 => 8
  | subAccountSignV1 => 16

def name : SignKind → String
  | signV1 => "Sign Transaction (v1)"
  | signV2 => "Sign Transaction (v2)"
  | subAccountSignV1 => "Sub-Account Sign"

def summary (kind : SignKind) (sign : SignInstructionDecoded) : String :=
  let title := match kind with
    | signV1 => "Swig: Sign v1"
    | signV2 => "Swig: Sign v2"
    | subAccountSignV1 => "Swig: Sub-account sign"
  title ++ " (" ++ toString sign.innerInstructions.length ++ " inner instruction(s), role #" ++
    toString sign.roleId ++ ")"

end SignKind

/-- How an instruction is shown: name, summary and the fields of its variant. -/
structure SwigInstructionDecoded where
  name : String
  summary : String
  fields : Except VisualSignError (List AnnotatedPayloadField)

/-- The instructions that do not nest, by discriminator, and the fields of the
signing ones. -/
structure SwigDisplay where
  parseOther : ℕ → Bytes → Except SwigParseError SwigInstructionDecoded
  buildSignFields : SignInstructionDecoded → Except VisualSignError (List AnnotatedPayloadField)

def nestedTooDeeplyField (instructionNumber depth : ℕ) : AnnotatedPayloadField :=
  let summary := "Swig: Nested too deeply (depth " ++ toString depth ++ ", limit " ++
    toString maxCallDepth ++ ")"
  previewField ("Instruction " ++ toString instructionNumber) summary summary
    "Swig wallet instruction" [createTextField "Instruction" summary]
    [createTextField "Instruction Type" "Nested Too Deeply",
      createTextField "Nesting Depth" (toString depth),
      createTextField "Nesting Depth Limit" (toString maxCallDepth)]

def resolveSwigAccount (context : VisualizerContext) (position : ℕ) :
    Except VisualSignError AccountMeta :=
  match context.account position with
  | some (.resolved pubkey) => .ok ⟨pubkey, false, false⟩
  | some (.unresolved rawIndex) =>
      .error (.decodeError ("swig: unresolved account index " ++ toString rawIndex.toNat ++
        " at position " ++ toString position))
  | none => .error (.decodeError ("swig: missing account at position " ++ toString position))

def instructionField (context : VisualizerContext) (decoded : SwigInstructionDecoded)
    (variantFields : List AnnotatedPayloadField) : AnnotatedPayloadField :=
  let programId := UnknownProgram.resolveProgramIdStr context
  previewField ("Instruction " ++ toString (context.instructionIndex + 1))
    ("Program ID: " ++ programId ++ "\nData: " ++ Hex.encode context.data) decoded.summary
    "Swig wallet instruction" [createTextField "Instruction" decoded.summary]
    ([createTextField "Program ID" programId, createTextField "Instruction Type" decoded.name] ++
      variantFields)

section Visualizer

variable (crates : NativeCrates) (display : SwigDisplay) {m : Type → Type} [Monad m]
  (visualizeAny : VisualizerContext → m (Option (Except VisualSignError VisualizeResult)))

def parseSwigInstruction (data : Bytes) (accounts : List AccountMeta) (depth : ℕ) :
    ExceptT (Fault SwigParseError) m SwigInstructionDecoded :=
  if data.length < 2 then
    parsing (.error (.failed (.dataTooShort "missing discriminator")))
  else do
    let discriminator ← parsing ([0, 1].mapM (byteAt data))
    match SignKind.ofDiscriminator (ofLeBytes discriminator) with
    | some kind =>
        let sign ← parseSignInstruction (describeInnerInstruction visualizeAny crates) data
          kind.headerLen accounts depth
        return ⟨kind.name, kind.summary sign, display.buildSignFields sign⟩
    | none =>
        parsing ((display.parseOther (ofLeBytes discriminator) data).mapError .failed)

/-- A panic of the parser ends the run. -/
def showDecoded (panic : m (Except VisualSignError AnnotatedPayloadField))
    (context : VisualizerContext) :
    Except (Fault SwigParseError) SwigInstructionDecoded →
      m (Except VisualSignError AnnotatedPayloadField)
  | .ok decoded => pure (decoded.fields.map (instructionField context decoded))
  | .error (.failed error) => pure (.error (.decodeError error.display))
  | .error .panicked => panic

/-- `SwigWalletVisualizer::visualize_tx_commands`. -/
def visualizeTxCommands (panic : m (Except VisualSignError AnnotatedPayloadField))
    (context : VisualizerContext) : m (Except VisualSignError AnnotatedPayloadField) :=
  if maxCallDepth ≤ context.callDepth then
    pure (.ok (nestedTooDeeplyField (context.instructionIndex + 1) context.callDepth))
  else
    match (List.range context.numAccounts).mapM (resolveSwigAccount context) with
    | .error error => pure (.error error)
    | .ok accounts => do
        let decoded ← (parseSwigInstruction crates display visualizeAny context.data accounts
          context.callDepth).run
        showDecoded panic context decoded

def visualizer (panic : m (Except VisualSignError AnnotatedPayloadField)) :
    InstructionVisualizer m where
  canHandle := handlesPrograms ["swigypWHEksbC64pWKwah1WTeh9JXwx8H1rJHLdbQMB"]
  visualizeTxCommands := visualizeTxCommands crates display visualizeAny panic
  kind := .payments "Swig Wallet"

end Visualizer

end VisualSignParser.Solana.Swig
