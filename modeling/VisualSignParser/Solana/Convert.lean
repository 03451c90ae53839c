import VisualSignParser.Solana.Accounts
import VisualSignParser.Solana.IdlTrust
import VisualSignParser.Solana.Intermediate
import VisualSignParser.VisualSign.Registry

/-!
# From a transaction to a payload

The payload of a transaction has the fields of its transfers, its instructions and
its accounts.  A failing instruction is handled in three ways.  With diagnostics it
is reported behind the fields of the others.  Without them it ends the conversion
of a legacy transaction, and takes the place of all instructions of a v0
transaction.
-/

namespace VisualSignParser.Solana

open VisualSignParser.Framing
open VisualSignParser.OrderedMap
open VisualSignParser.VisualSign
open VisualSignParser.Ethereum (SignerAllowlist)
open VisualSignParser.Solana.Intermediate (SolTransfer SplTransfer)

/-! ## Transactions -/

/-- `solana_sdk::transaction::Transaction`, with the blockhash beside the message. -/
structure SolanaTransaction where
  signatures : List (ByteArr 64)
  recentBlockhash : ByteArr 32
  message : Message

inductive VersionedMessage where
  | legacy (message : Message)
  | v0 (message : V0Message)

structure VersionedTransaction where
  signatures : List (ByteArr 64)
  recentBlockhash : ByteArr 32
  message : VersionedMessage

inductive SolanaTransactionWrapper where
  | legacy (transaction : SolanaTransaction)
  | versioned (transaction : VersionedTransaction)

namespace SolanaTransactionWrapper

def accountKeys : SolanaTransactionWrapper → List Pubkey
  | legacy transaction => transaction.message.accountKeys
  | versioned ⟨_, _, .legacy message⟩ => message.accountKeys
  | versioned ⟨_, _, .v0 message⟩ => message.accountKeys

def instructions : SolanaTransactionWrapper → List CompiledInstruction
  | legacy transaction => transaction.message.instructions
  | versioned ⟨_, _, .legacy message⟩ => message.instructions
  | versioned ⟨_, _, .v0 message⟩ => message.instructions

def isV0 : SolanaTransactionWrapper → Bool
  | legacy _ => false
  | versioned ⟨_, _, .legacy _⟩ => false
  | versioned ⟨_, _, .v0 _⟩ => true

end SolanaTransactionWrapper

/-! ## Transfers -/

structure TransactionTransfers where
  transfers : List SolTransfer
  splTransfers : List SplTransfer

/-- What is called in other crates: the encoders of transactions, the parser of
transfers (which may return no metadata), the text of the bundled Jupiter IDL, and
the `{:?}` text of an optional text. -/
structure SolanaParser where
  serializeMessage : SolanaTransaction → Bytes
  serializeVersioned : VersionedTransaction → Except String Bytes
  parseTransaction : String → Bool → Option (BTreeMap String (String × Bool)) →
    Except String (Option TransactionTransfers)
  jupiterIdlJson : String
  debugOption : Option String → String

def jupiterProgramId : String := "JUP6LkbZbjS1jKKwapdHNy74zcZ3tLUZoi5QNyVTaV4"

def textV2Field (label fallbackText text : String) : SignablePayloadField :=
  .textV2 ⟨fallbackText, label⟩ ⟨text⟩

def transferField (found : SolTransfer × ℕ) : SignablePayloadField :=
  let number := toString (found.2 + 1)
  textV2Field ("Transfer " ++ number)
    ("Transfer " ++ number ++ ": From " ++ found.1.fromKey ++ " To " ++ found.1.toKey ++ " For " ++
      found.1.amount)
    ("From: " ++ found.1.fromKey ++ "\nTo: " ++ found.1.toKey ++ "\nAmount: " ++ found.1.amount)

section Transfers

variable (parser : SolanaParser)

def splTransferField (labelStart : String) (found : SplTransfer × ℕ) : SignablePayloadField :=
  let transfer := found.1
  let number := toString (found.2 + 1)
  textV2Field (labelStart ++ number)
    ("SPL Transfer " ++ number ++ ": From " ++ transfer.fromKey ++ " To " ++ transfer.toKey ++
      " For " ++ transfer.amount)
    ("From: " ++ transfer.fromKey ++ "\nTo: " ++ transfer.toKey ++ "\nOwner: " ++ transfer.owner ++
      "\nAmount: " ++ transfer.amount ++ "\nMint: " ++ parser.debugOption transfer.tokenMint ++
      "\nDecimals: " ++ parser.debugOption transfer.decimals ++ "\nFee: " ++
      parser.debugOption transfer.fee)

/-- The fields of both kinds of transfers. -/
def transferFields (splLabel : String) : Option TransactionTransfers → List SignablePayloadField
  | none => []
  | some parsed => parsed.transfers.zipIdx.map transferField ++
      parsed.splTransfers.zipIdx.map (splTransferField parser splLabel)

def decodeTransfers (transaction : SolanaTransaction) :
    Except VisualSignError (List SignablePayloadField) :=
  match parser.parseTransaction (Hex.encode (parser.serializeMessage transaction)) false none with
  | .error error =>
      .error (.parseError (.decodeError ("Failed to parse transaction: " ++ error)))
  | .ok parsed => .ok (transferFields parser "SPL Transfer " parsed)

/-- The bundled Jupiter IDL stands in for the one of the other crate. -/
def decodeV0Transfers (transaction : VersionedTransaction) :
    Except VisualSignError (List SignablePayloadField) :=
  match parser.serializeVersioned transaction with
  | .error error =>
      .error (.parseError (.decodeError ("Failed to serialize V0 transaction: " ++ error)))
  | .ok bytes =>
      match parser.parseTransaction (Hex.encode bytes) true
        (some (BTreeMap.empty.insert jupiterProgramId (parser.jupiterIdlJson, true))) with
      | .error error =>
          .error (.parseError (.decodeError ("Failed to parse V0 transaction: " ++ error)))
      | .ok parsed => .ok (transferFields parser "V0 SPL Transfer " parsed)

end Transfers

/-! ## Instructions -/

/-- The build of the crate, with the configuration of its rules. -/
inductive Build where
  | diagnosticsOn (lintConfig : LintConfig)
  | diagnosticsOff

/-- What a message adds to the payload: fields in the place of the instructions,
and fields at the end. -/
structure DisplayedInstructions where
  fields : List SignablePayloadField
  appended : List SignablePayloadField

/-- A failure is always reported. -/
def visualizerErrorField (record : ℕ × VisualSignError) : SignablePayloadField :=
  (createDiagnosticField "decode::visualizer_error" "decode" .error
    ("instruction " ++ toString record.1 ++ ": " ++ record.2.display)
    (some (UInt32.ofNat record.1))).signablePayloadField

/-- What `append_diagnostics` adds. -/
def appendedDiagnostics (result : DecodeInstructionsResult) : List SignablePayloadField :=
  result.errors.map visualizerErrorField ++
    result.diagnostics.map AnnotatedPayloadField.signablePayloadField

def displayResult (result : DecodeInstructionsResult) : DisplayedInstructions :=
  ⟨result.fields.map AnnotatedPayloadField.signablePayloadField, appendedDiagnostics result⟩

def displayFields (fields : List AnnotatedPayloadField) : DisplayedInstructions :=
  ⟨fields.map AnnotatedPayloadField.signablePayloadField, []⟩

/-- A note whose fallback is its text. -/
def noteField (label text : String) : SignablePayloadField := textV2Field label text text

def instructionDecodingNote (error : VisualSignError) : SignablePayloadField :=
  noteField "Instruction Decoding Note" ("Instruction decoding failed: " ++ error.display)

section Convert

variable (visualizers : List (InstructionVisualizer Id)) (crates : Crates)
  (allowlist : SignerAllowlist) (parser : SolanaParser) (build : Build)

/-- The instructions of a legacy message; a failure is passed on. -/
def displayInstructions (idlRegistry : IdlRegistry) (message : Message) :
    Except VisualSignError DisplayedInstructions :=
  match build with
  | .diagnosticsOn lintConfig =>
      .ok (displayResult (decodeInstructionsCollecting visualizers idlRegistry message lintConfig))
  | .diagnosticsOff => (decodeInstructions visualizers idlRegistry message).map displayFields

/-- The instructions of a v0 message; a failure becomes a note. -/
def displayV0Instructions (idlRegistry : IdlRegistry) (message : V0Message) :
    DisplayedInstructions :=
  match build with
  | .diagnosticsOn lintConfig =>
      displayResult (decodeV0InstructionsCollecting visualizers idlRegistry message lintConfig)
  | .diagnosticsOff => match decodeV0Instructions visualizers idlRegistry message with
      | .ok fields => displayFields fields
      | .error error => ⟨[instructionDecodingNote error], []⟩

def solanaPayload (title : String) (fields : List SignablePayloadField) : SignablePayload where
  fields := fields
  payloadType := "SolanaTx"
  subtitle := none
  title := title
  version := "0"

def legacyTransferFields (options : VisualSignOptions) (transaction : SolanaTransaction) :
    Except VisualSignError (List SignablePayloadField) :=
  if options.decodeTransfers then decodeTransfers parser transaction else .ok []

def convertToVisualSignPayload (transaction : SolanaTransaction) (options : VisualSignOptions) :
    Except VisualSignError SignablePayload := do
  let transfers ← legacyTransferFields parser options transaction
  let displayed ← displayInstructions visualizers build
    (callerRegistry crates options.metadata allowlist) transaction.message
  pure (solanaPayload (options.transactionName.getD "Solana Transaction")
    ([noteField "Network" "Solana"] ++ transfers ++ displayed.fields ++
      [createAccountsAdvancedPreviewLayout "Accounts" (decodeAccounts transaction.message)] ++
      displayed.appended))

/-- A failure to decode the transfers becomes a note as well. -/
def v0TransferFields (transaction : VersionedTransaction) : List SignablePayloadField :=
  match decodeV0Transfers parser transaction with
  | .ok fields => fields
  | .error error =>
      [noteField "Transfer Decoding Note" ("Transfer decoding failed: " ++ error.display)]

def convertV0ToVisualSignPayload (transaction : VersionedTransaction) (message : V0Message)
    (options : VisualSignOptions) : SignablePayload :=
  let displayed := displayV0Instructions visualizers build
    (callerRegistry crates options.metadata allowlist) message
  solanaPayload (options.transactionName.getD "Solana V0 Transaction")
    ([noteField "Network" "Solana (V0)"] ++
      (if message.addressTableLookups.isEmpty then [] else
        [createAddressLookupTableField message]) ++
      displayed.fields ++
      (if options.decodeTransfers then v0TransferFields parser transaction else []) ++
      [createAccountsAdvancedPreviewLayout "Accounts" (decodeV0Accounts message)] ++
      displayed.appended)

def convertVersionedToVisualSignPayload (transaction : VersionedTransaction)
    (options : VisualSignOptions) : Except VisualSignError SignablePayload :=
  match transaction.message with
  | .legacy message => convertToVisualSignPayload visualizers crates allowlist parser build
      ⟨transaction.signatures, transaction.recentBlockhash, message⟩ options
  | .v0 message => .ok (convertV0ToVisualSignPayload visualizers crates allowlist parser build
      transaction message options)

/-- The payload of `to_visual_sign_payload`. -/
def convertTransaction (wrapper : SolanaTransactionWrapper) (options : VisualSignOptions) :
    Except VisualSignError SignablePayload :=
  match wrapper with
  | .legacy transaction =>
      convertToVisualSignPayload visualizers crates allowlist parser build transaction options
  | .versioned transaction =>
      convertVersionedToVisualSignPayload visualizers crates allowlist parser build transaction
        options

end Convert

/-! ## What a failing instruction does to the payload -/

/-- The entry says that this instruction failed: a diagnostic, or the note. -/
def NamesFailed (index : ℕ) : SignablePayloadField → Prop
  | .diagnostic _ diagnostic => diagnostic.rule = "decode::visualizer_error" ∧
      diagnostic.instructionIndex = some (UInt32.ofNat index) ∧
      NamesInstruction index diagnostic.message
  | .textV2 common textV2 => common.label = "Instruction Decoding Note" ∧
      ∃ message, NamesInstruction index message ∧
        textV2.text = "Instruction decoding failed: " ++
          (VisualSignError.decodeError message).display
  | _ => False

theorem namesFailed_visualizerErrorField (record : ℕ × VisualSignError) :
    NamesFailed record.1 (visualizerErrorField record) :=
  ⟨rfl, rfl, .inl ⟨record.2.display, rfl⟩⟩

theorem namesFailed_instructionDecodingNote {index : ℕ} {message : String}
    (hnames : NamesInstruction index message) :
    NamesFailed index (instructionDecodingNote (.decodeError message)) :=
  ⟨rfl, message, hnames, rfl⟩

section Kept

variable (visualizers : List (InstructionVisualizer Id)) (idlRegistry : IdlRegistry)
  (accountKeys : List Pubkey)

/-- The instruction has no field of its own. -/
def Fails (found : CompiledInstruction × ℕ) : Prop :=
  ∃ error, visualized visualizers idlRegistry accountKeys found = .error error

/-- Every instruction is in the fields: the ones that are shown with their own
fields, in order, and the others with an entry that names them. -/
structure KeepsInstructions (instructions : List CompiledInstruction)
    (fields : List SignablePayloadField) : Prop where
  shown : ((instructions.zipIdx.filterMap (shownField visualizers idlRegistry accountKeys)).map
    AnnotatedPayloadField.signablePayloadField).Sublist fields
  failed : ∀ found ∈ instructions.zipIdx, Fails visualizers idlRegistry accountKeys found →
    ∃ field ∈ fields, NamesFailed found.2 field

variable {visualizers idlRegistry accountKeys}

/-- More fields, in front or behind, take nothing away. -/
theorem KeepsInstructions.of_sublist {instructions : List CompiledInstruction}
    {fields more : List SignablePayloadField}
    (hkeeps : KeepsInstructions visualizers idlRegistry accountKeys instructions fields)
    (hsublist : fields.Sublist more) :
    KeepsInstructions visualizers idlRegistry accountKeys instructions more where
  shown := hkeeps.shown.trans hsublist
  failed found hfound hfails := by
    obtain ⟨field, hfield, hnames⟩ := hkeeps.failed found hfound hfails
    exact ⟨field, hsublist.subset hfield, hnames⟩

theorem recordedError_of_fails {found : CompiledInstruction × ℕ}
    (hfails : Fails visualizers idlRegistry accountKeys found) :
    ∃ error, recordedError visualizers idlRegistry accountKeys found = some (found.2, error) := by
  obtain ⟨error, herror⟩ := hfails
  use error
  rw [recordedError, herror]

/-- With diagnostics nothing is lost. -/
theorem keeps_decodeCollecting (hkeys : accountKeys ≠ []) (emptyMessage : String)
    (instructions : List CompiledInstruction) (lintConfig : LintConfig) :
    KeepsInstructions visualizers idlRegistry accountKeys instructions
      ((displayResult (decodeCollecting visualizers idlRegistry emptyMessage accountKeys
          instructions lintConfig)).fields ++
        (displayResult (decodeCollecting visualizers idlRegistry emptyMessage accountKeys
          instructions lintConfig)).appended) := by
  rw [decodeCollecting_of_keys visualizers idlRegistry accountKeys hkeys]
  constructor
  · exact List.sublist_append_left _ _
  · intro found hfound hfails
    obtain ⟨error, hrecord⟩ := recordedError_of_fails hfails
    refine ⟨_, ?_, namesFailed_visualizerErrorField (found.2, error)⟩
    apply List.mem_append_right
    apply List.mem_append_left
    exact List.mem_map_of_mem (List.mem_filterMap.2 ⟨found, hfound, hrecord⟩)

/-- A failure is among the errors that are collected. -/
theorem mem_errors_of_fails (hkeys : accountKeys ≠ []) (emptyMessage : String)
    {instructions : List CompiledInstruction} (lintConfig : LintConfig)
    {found : CompiledInstruction × ℕ} (hfound : found ∈ instructions.zipIdx)
    (hfails : Fails visualizers idlRegistry accountKeys found) :
    ∃ error, (found.2, error) ∈ (decodeCollecting visualizers idlRegistry emptyMessage accountKeys
      instructions lintConfig).errors := by
  obtain ⟨error, hrecord⟩ := recordedError_of_fails hfails
  use error
  rw [decodeCollecting_of_keys visualizers idlRegistry accountKeys hkeys]
  exact List.mem_filterMap.2 ⟨found, hfound, hrecord⟩

/-- Without diagnostics the decoder succeeds only where nothing fails. -/
theorem keeps_of_decodeStrict (hkeys : accountKeys ≠ []) {emptyMessage : String}
    {instructions : List CompiledInstruction} {fields : List AnnotatedPayloadField}
    (hstrict : decodeStrict visualizers idlRegistry emptyMessage accountKeys instructions =
      .ok fields) :
    KeepsInstructions visualizers idlRegistry accountKeys instructions
      (displayFields fields).fields := by
  have haccounted := accounted_of_keys visualizers idlRegistry accountKeys hkeys emptyMessage
    instructions .standard
  obtain ⟨herrors, hfields⟩ := (haccounted.strict_ok fields).1 hstrict
  constructor
  · rw [hfields, decodeCollecting_of_keys visualizers idlRegistry accountKeys hkeys]
    exact List.Sublist.refl _
  · intro found hfound hfails
    obtain ⟨error, hmem⟩ := mem_errors_of_fails hkeys emptyMessage .standard hfound hfails
    rw [herrors] at hmem
    cases hmem

/-- The instruction fails and none in front of it does. -/
def FirstFailure (visualizers : List (InstructionVisualizer Id)) (idlRegistry : IdlRegistry)
    (accountKeys : List Pubkey) (instructions : List CompiledInstruction)
    (found : CompiledInstruction × ℕ) : Prop :=
  found ∈ instructions.zipIdx ∧ Fails visualizers idlRegistry accountKeys found ∧
    ∀ earlier ∈ instructions.zipIdx, earlier.2 < found.2 →
      ¬ Fails visualizers idlRegistry accountKeys earlier

/-- The error of the decoder names the first failure. -/
theorem firstFailure_of_decodeStrict (hkeys : accountKeys ≠ []) {emptyMessage : String}
    {instructions : List CompiledInstruction} {error : VisualSignError}
    (hstrict : decodeStrict visualizers idlRegistry emptyMessage accountKeys instructions =
      .error error) :
    ∃ found, FirstFailure visualizers idlRegistry accountKeys instructions found ∧
      ∃ message, NamesInstruction found.2 message ∧ error = .decodeError message := by
  have haccounted := accounted_of_keys visualizers idlRegistry accountKeys hkeys emptyMessage
    instructions .standard
  cases herrors : (decodeCollecting visualizers idlRegistry emptyMessage accountKeys instructions
      .standard).errors with
  | nil =>
      have hok := (haccounted.strict_ok _).2 ⟨herrors, rfl⟩
      rw [hstrict] at hok
      cases hok
  | cons record records =>
      have hrecord : record ∈ (decodeCollecting visualizers idlRegistry emptyMessage accountKeys
          instructions .standard).errors := by
        rw [herrors]
        exact List.mem_cons_self
      obtain ⟨ci, hci, hvisualized⟩ := haccounted.partitions.error record hrecord
      obtain ⟨message, hnames, hfailed⟩ := haccounted.strict_error record (by rw [herrors]; rfl)
      have hordered := haccounted.partitions.failed
      rw [herrors, List.map_cons, List.pairwise_cons] at hordered
      refine ⟨(ci, record.1), ⟨List.mem_zipIdx_iff_getElem?.2 hci, ⟨record.2, hvisualized⟩, ?_⟩,
        message, hnames, ?_⟩
      · intro earlier hearlier hlt hfails
        obtain ⟨other, hother⟩ := mem_errors_of_fails hkeys emptyMessage .standard hearlier hfails
        rw [herrors] at hother
        rcases List.mem_cons.1 hother with hsame | hlater
        · exact absurd (congrArg Prod.fst hsame) hlt.ne
        · exact absurd (hordered.1 _ (List.mem_map_of_mem hlater)) hlt.asymm
      · rw [hstrict] at hfailed
        exact Except.error.inj hfailed

/-- The note stands for a single instruction that fails. -/
theorem keeps_note {instructions : List CompiledInstruction} {found : CompiledInstruction × ℕ}
    (hfound : found ∈ instructions.zipIdx) (hfails : Fails visualizers idlRegistry accountKeys found)
    (hsingle : ¬ 2 ≤ instructions.length) {message : String}
    (hnames : NamesInstruction found.2 message) :
    KeepsInstructions visualizers idlRegistry accountKeys instructions
      ([instructionDecodingNote (.decodeError message)] ++ []) := by
  cases instructions with
  | nil => cases hfound
  | cons ci rest =>
      have hrest : rest = [] := by
        rw [List.length_cons] at hsingle
        exact List.length_eq_zero_iff.1 (by omega)
      subst hrest
      have honly : found = (ci, 0) := List.mem_singleton.1 hfound
      subst honly
      constructor
      · obtain ⟨error, herror⟩ := hfails
        have hshown : shownField visualizers idlRegistry accountKeys (ci, 0) = none := by
          rw [shownField, herror]
          rfl
        change ((List.filterMap _ [(ci, 0)]).map _).Sublist _
        rw [List.filterMap_cons_none hshown]
        exact List.nil_sublist _
      · intro other hother _
        have hsame : other = (ci, 0) := List.mem_singleton.1 hother
        subst hsame
        exact ⟨_, List.mem_singleton_self _, namesFailed_instructionDecodingNote hnames⟩

/-! ### Both formats -/

variable {build : Build}

theorem keeps_displayInstructions {message : Message} {displayed : DisplayedInstructions}
    (hkeys : message.accountKeys ≠ [])
    (hdisplayed : displayInstructions visualizers build idlRegistry message = .ok displayed) :
    KeepsInstructions visualizers idlRegistry message.accountKeys message.instructions
      (displayed.fields ++ displayed.appended) := by
  cases build with
  | diagnosticsOn lintConfig =>
      cases hdisplayed
      exact keeps_decodeCollecting hkeys _ _ lintConfig
  | diagnosticsOff =>
      cases hstrict : decodeInstructions visualizers idlRegistry message with
      | error error =>
          rw [displayInstructions, hstrict] at hdisplayed
          cases hdisplayed
      | ok fields =>
          rw [displayInstructions, hstrict] at hdisplayed
          cases hdisplayed
          exact (keeps_of_decodeStrict hkeys hstrict).of_sublist (List.sublist_append_left _ _)

/-- The instructions of a v0 message are replaced by the note only where another
instruction could be lost with the one that fails. -/
theorem keeps_displayV0Instructions {message : V0Message} (hkeys : message.accountKeys ≠ [])
    (hkept : build = .diagnosticsOff → 2 ≤ message.instructions.length →
      ∀ found ∈ message.instructions.zipIdx,
        ¬ Fails visualizers idlRegistry message.accountKeys found) :
    KeepsInstructions visualizers idlRegistry message.accountKeys message.instructions
      ((displayV0Instructions visualizers build idlRegistry message).fields ++
        (displayV0Instructions visualizers build idlRegistry message).appended) := by
  cases build with
  | diagnosticsOn lintConfig => exact keeps_decodeCollecting hkeys _ _ lintConfig
  | diagnosticsOff =>
      cases hstrict : decodeV0Instructions visualizers idlRegistry message with
      | ok fields =>
          rw [displayV0Instructions, hstrict]
          exact (keeps_of_decodeStrict hkeys hstrict).of_sublist (List.sublist_append_left _ _)
      | error error =>
          obtain ⟨found, ⟨hfound, hfails, -⟩, text, hnames, rfl⟩ :=
            firstFailure_of_decodeStrict hkeys hstrict
          rw [displayV0Instructions, hstrict]
          apply keeps_note hfound hfails _ hnames
          intro hmany
          exact hkept rfl hmany found hfound hfails

/-- The note names the first failure. -/
theorem note_mem_displayV0Instructions {message : V0Message} (hkeys : message.accountKeys ≠ [])
    {found : CompiledInstruction × ℕ} (hfound : found ∈ message.instructions.zipIdx)
    (hfails : Fails visualizers idlRegistry message.accountKeys found) :
    ∃ first, FirstFailure visualizers idlRegistry message.accountKeys message.instructions first ∧
      ∃ field ∈ (displayV0Instructions visualizers .diagnosticsOff idlRegistry message).fields,
        NamesFailed first.2 field := by
  cases hstrict : decodeV0Instructions visualizers idlRegistry message with
  | ok fields =>
      obtain ⟨herrors, -⟩ := ((accounted_of_keys visualizers idlRegistry message.accountKeys hkeys _
        message.instructions .standard).strict_ok fields).1 hstrict
      obtain ⟨error, hmem⟩ := mem_errors_of_fails hkeys _ .standard hfound hfails
      rw [herrors] at hmem
      cases hmem
  | error error =>
      obtain ⟨first, hfirst, text, hnames, rfl⟩ := firstFailure_of_decodeStrict hkeys hstrict
      refine ⟨first, hfirst, _, ?_, namesFailed_instructionDecodingNote hnames⟩
      rw [displayV0Instructions, hstrict]
      exact List.mem_singleton_self _

end Kept

/-! ### Whole payloads -/

theorem sublist_around {A : Type} (front first middle last : List A) :
    (first ++ last).Sublist (front ++ first ++ middle ++ last) := by
  apply List.Sublist.append _ (List.Sublist.refl last)
  exact (List.sublist_append_right front first).trans (List.sublist_append_left _ middle)

section Payloads

variable (visualizers : List (InstructionVisualizer Id)) (crates : Crates)
  (allowlist : SignerAllowlist) (parser : SolanaParser) (build : Build)

/-- The note takes the place of other instructions: a v0 transaction without
diagnostics, with several instructions of which one fails. -/
def Replaced (wrapper : SolanaTransactionWrapper) (options : VisualSignOptions) : Prop :=
  build = .diagnosticsOff ∧ wrapper.isV0 = true ∧ 2 ≤ wrapper.instructions.length ∧
    ∃ found ∈ wrapper.instructions.zipIdx,
      Fails visualizers (callerRegistry crates options.metadata allowlist) wrapper.accountKeys found

variable {visualizers crates allowlist parser build}

theorem keeps_convertToVisualSignPayload {transaction : SolanaTransaction}
    {options : VisualSignOptions} {payload : SignablePayload}
    (hkeys : transaction.message.accountKeys ≠ [])
    (hpayload : convertToVisualSignPayload visualizers crates allowlist parser build transaction
      options = .ok payload) :
    KeepsInstructions visualizers (callerRegistry crates options.metadata allowlist)
      transaction.message.accountKeys transaction.message.instructions payload.fields := by
  unfold convertToVisualSignPayload at hpayload
  obtain ⟨transfers, -, hpayload⟩ := Outcome.bind_eq_ok.1 hpayload
  obtain ⟨displayed, hdisplayed, hpayload⟩ := Outcome.bind_eq_ok.1 hpayload
  rw [← Outcome.pure_eq_ok.1 hpayload]
  exact (keeps_displayInstructions hkeys hdisplayed).of_sublist (sublist_around _ _ _ _)

/-- What a v0 message adds is in the payload. -/
theorem displayed_sublist_v0 (transaction : VersionedTransaction) (message : V0Message)
    (options : VisualSignOptions) :
    let displayed := displayV0Instructions visualizers build
      (callerRegistry crates options.metadata allowlist) message
    (displayed.fields ++ displayed.appended).Sublist
      (convertV0ToVisualSignPayload visualizers crates allowlist parser build transaction message
        options).fields := by
  intro displayed
  rw [convertV0ToVisualSignPayload, solanaPayload]
  dsimp only
  rw [List.append_assoc _ (if options.decodeTransfers then v0TransferFields parser transaction
    else [])]
  exact sublist_around _ _ _ _

end Payloads

/-- A payload that is returned has every instruction in it, with its own field or
with an entry that names it as failed.  Only where the note takes the place of
several instructions does it name no more than the first that fails. -/
theorem conversion_keeps_instructions (visualizers : List (InstructionVisualizer Id))
    (crates : Crates) (allowlist : SignerAllowlist) (parser : SolanaParser) (build : Build)
    (wrapper : SolanaTransactionWrapper) (options : VisualSignOptions) (payload : SignablePayload)
    (hkeys : wrapper.accountKeys ≠ [])
    (hpayload : convertTransaction visualizers crates allowlist parser build wrapper options =
      .ok payload) :
    (¬ Replaced visualizers crates allowlist build wrapper options →
      KeepsInstructions visualizers (callerRegistry crates options.metadata allowlist)
        wrapper.accountKeys wrapper.instructions payload.fields) ∧
    (Replaced visualizers crates allowlist build wrapper options →
      ∃ first, FirstFailure visualizers (callerRegistry crates options.metadata allowlist)
        wrapper.accountKeys wrapper.instructions first ∧
        ∃ field ∈ payload.fields, NamesFailed first.2 field) := by
  match wrapper with
  | .legacy transaction =>
      apply And.intro
      · intro _
        exact keeps_convertToVisualSignPayload hkeys hpayload
      · rintro ⟨-, hv0, -⟩
        cases hv0
  | .versioned ⟨signatures, recentBlockhash, .legacy message⟩ =>
      apply And.intro
      · intro _
        exact keeps_convertToVisualSignPayload hkeys hpayload
      · rintro ⟨-, hv0, -⟩
        cases hv0
  | .versioned ⟨signatures, recentBlockhash, .v0 message⟩ =>
      cases hpayload
      have hsublist := @displayed_sublist_v0 visualizers crates allowlist parser build
        ⟨signatures, recentBlockhash, .v0 message⟩ message options
      apply And.intro
      · intro hkept
        refine KeepsInstructions.of_sublist (keeps_displayV0Instructions hkeys ?_) hsublist
        intro hoff hmany found hfound hfails
        exact hkept ⟨hoff, rfl, hmany, found, hfound, hfails⟩
      · rintro ⟨rfl, -, -, found, hfound, hfails⟩
        obtain ⟨first, hfirst, field, hfield, hnames⟩ :=
          note_mem_displayV0Instructions hkeys hfound hfails
        exact ⟨first, hfirst, field, hsublist.subset (List.mem_append_left _ hfield), hnames⟩

/-! ### An account that does not resolve -/

/-- Shows an instruction whose accounts resolve, and fails on the others. -/
def resolvingVisualizer : InstructionVisualizer Id where
  canHandle _ := true
  visualizeTxCommands context := context.resolveAccounts.map fun accounts =>
    createTextField "Accounts Used" (toString accounts.length)
  kind := .payments "Resolving"

def bareParser : SolanaParser where
  serializeMessage _ := []
  serializeVersioned _ := .error "not written"
  parseTransaction _ _ _ := .error "not read"
  jupiterIdlJson := ""
  debugOption _ := "None"

def bareOptions : VisualSignOptions where
  decodeTransfers := false
  transactionName := none
  metadata := none
  developerConfig := none
  includeIntermediateOutput := false

/-- One key, and two instructions; the first uses an account of a lookup table. -/
def lookupMessage : V0Message :=
  ⟨⟨1, 0, 0⟩, [repeatedByte 9], [⟨0, [5], []⟩, ⟨0, [0], []⟩], [⟨repeatedByte 8, [0], []⟩]⟩

def lookupTransaction : SolanaTransactionWrapper :=
  .versioned ⟨[], repeatedByte 0, .v0 lookupMessage⟩

/-- The field of the second instruction. -/
theorem visualized_lookup_second :
    visualized [resolvingVisualizer] (callerRegistry plainCrates bareOptions.metadata ⟨[]⟩)
      lookupTransaction.accountKeys (⟨0, [0], []⟩, 1) =
        .ok (createTextField "Accounts Used" "1") := by
  rfl

/-- The text of the note on that message. -/
def lookupFailure : String := "instruction 0: " ++
  (VisualSignError.decodeError "unresolved account index 5 at position 0").display

theorem convert_lookupTransaction :
    convertTransaction [resolvingVisualizer] plainCrates ⟨[]⟩ bareParser .diagnosticsOff
        lookupTransaction bareOptions =
      .ok (solanaPayload "Solana V0 Transaction" [noteField "Network" "Solana (V0)",
        createAddressLookupTableField lookupMessage,
        instructionDecodingNote (.decodeError lookupFailure),
        createAccountsAdvancedPreviewLayout "Accounts" (decodeV0Accounts lookupMessage)]) := by
  rfl

theorem not_namesInstruction_lookupFailure : ¬ NamesInstruction 1 lookupFailure := by
  have htext : lookupFailure.toList[12]? = some '0' ∧ lookupFailure.toList[0]? = some 'i' := by
    decide
  rintro (⟨error, hmessage⟩ | hmessage)
  · have hchar : lookupFailure.toList[12]? = some '1' := by
      rw [hmessage, String.toList_append]
      rfl
    rw [htext.1] at hchar
    cases hchar
  · rw [hmessage] at htext
    exact absurd htext.2 (by decide)

/-- The second instruction could be shown, and is not in the payload at all. -/
theorem lookup_instruction_lost :
    lookupTransaction.accountKeys ≠ [] ∧
    visualized [resolvingVisualizer] (callerRegistry plainCrates bareOptions.metadata ⟨[]⟩)
      lookupTransaction.accountKeys (⟨0, [0], []⟩, 1) =
        .ok (createTextField "Accounts Used" "1") ∧
    ∃ payload, convertTransaction [resolvingVisualizer] plainCrates ⟨[]⟩ bareParser
        .diagnosticsOff lookupTransaction bareOptions = .ok payload ∧
      (createTextField "Accounts Used" "1").signablePayloadField ∉ payload.fields ∧
      ∀ field ∈ payload.fields, ¬ NamesFailed 1 field := by
  refine ⟨List.cons_ne_nil _ _, visualized_lookup_second, _, convert_lookupTransaction, ?_, ?_⟩
  · simp [solanaPayload, createTextField, annotateField, noteField, textV2Field,
      instructionDecodingNote, createAddressLookupTableField, createAccountsAdvancedPreviewLayout]
  · intro field hfield hnames
    simp only [solanaPayload, List.mem_cons, List.not_mem_nil, or_false] at hfield
    rcases hfield with rfl | rfl | rfl | rfl
    · exact absurd hnames.1 (by decide)
    · exact hnames
    · obtain ⟨-, message, hmessage, htext⟩ := hnames
      have hsame : lookupFailure = message :=
        (String.append_right_inj _).1 ((String.append_right_inj _).1 htext)
      exact not_namesInstruction_lookupFailure (hsame ▸ hmessage)
    · exact hnames

theorem conversion_keeps_instructions_lookup :
    ∃ payload, convertTransaction [resolvingVisualizer] plainCrates ⟨[]⟩ bareParser
        (.diagnosticsOn .standard) lookupTransaction bareOptions = .ok payload ∧
      KeepsInstructions [resolvingVisualizer]
        (callerRegistry plainCrates bareOptions.metadata ⟨[]⟩) lookupTransaction.accountKeys
        lookupTransaction.instructions payload.fields := by
  refine ⟨_, rfl, ?_⟩
  refine (conversion_keeps_instructions [resolvingVisualizer] plainCrates ⟨[]⟩ bareParser
    (.diagnosticsOn .standard) lookupTransaction bareOptions _ (List.cons_ne_nil _ _) rfl).1 ?_
  rintro ⟨hoff, -⟩
  cases hoff

end VisualSignParser.Solana
