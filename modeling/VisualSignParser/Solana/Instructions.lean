import VisualSignParser.Solana.Context
import VisualSignParser.VisualSign.Lint

/-!
# Decoding the instructions of a message

There are two builds of the decoders.  With diagnostics every instruction is
visited, failures are collected, and a separate scan reports the positions that
do not resolve.  Without diagnostics the first failure ends the decoding.  Both
are there for legacy messages and for v0 messages.
-/

namespace VisualSignParser.Solana

open VisualSignParser.Framing
open VisualSignParser.VisualSign

/-! ## Messages -/

structure MessageHeader where
  numRequiredSignatures : UInt8
  numReadonlySignedAccounts : UInt8
  numReadonlyUnsignedAccounts : UInt8

/-- `solana_sdk::message::Message`, without the blockhash. -/
structure Message where
  header : MessageHeader
  accountKeys : List Pubkey
  instructions : List CompiledInstruction

structure MessageAddressTableLookup where
  accountKey : Pubkey
  writableIndexes : List UInt8
  readonlyIndexes : List UInt8

/-- `solana_sdk::message::v0::Message`, without the blockhash. -/
structure V0Message where
  header : MessageHeader
  accountKeys : List Pubkey
  instructions : List CompiledInstruction
  addressTableLookups : List MessageAddressTableLookup

/-! ## The diagnostic scan -/

/-- `{:?}` of a vector of bytes. -/
def debugIndices (indices : List UInt8) : String :=
  "[" ++ ", ".intercalate (indices.map fun index => toString index.toNat) ++ "]"

/-- A rule of the scan: what breaks it, and what is said then and otherwise. -/
structure ScanRule where
  name : String
  violates : List Pubkey → CompiledInstruction → Bool
  violation : List Pubkey → ℕ → CompiledInstruction → String
  clean : ℕ → String

def oobProgramId : ScanRule where
  name := "transaction::oob_program_id"
  violates accountKeys ci := accountKeys.length ≤ ci.programIdIndex.toNat
  violation accountKeys index ci := "instruction " ++ toString index ++ ": program_id_index " ++
    toString ci.programIdIndex.toNat ++ " out of bounds (" ++ toString accountKeys.length ++
    " account keys)"
  clean count := "all " ++ toString count ++ " instructions have valid program_id_index"

def oobAccounts (accountKeys : List Pubkey) (ci : CompiledInstruction) : List UInt8 :=
  ci.accounts.filter fun index => accountKeys.length ≤ index.toNat

def oobAccountIndex : ScanRule where
  name := "transaction::oob_account_index"
  violates accountKeys ci := !(oobAccounts accountKeys ci).isEmpty
  violation accountKeys index ci := "instruction " ++ toString index ++ ": account indices " ++
    debugIndices (oobAccounts accountKeys ci) ++ " out of bounds (" ++
    toString accountKeys.length ++ " account keys)"
  clean count := "all " ++ toString count ++ " instructions have valid account indices"

namespace ScanRule

variable (rule : ScanRule) (lintConfig : LintConfig) (accountKeys : List Pubkey)

def severity : Severity := lintConfig.severityFor rule.name .warn

def entry (found : CompiledInstruction × ℕ) : AnnotatedPayloadField :=
  createDiagnosticField rule.name "transaction" (rule.severity lintConfig)
    (rule.violation accountKeys found.2 found.1) (some (UInt32.ofNat found.2))

def okEntry (count : ℕ) : AnnotatedPayloadField :=
  createDiagnosticField rule.name "transaction" .ok (rule.clean count) none

/-- The check of one instruction: the diagnostics so far and the number of
violations. -/
def visit (state : List AnnotatedPayloadField × ℕ) (found : CompiledInstruction × ℕ) :
    List AnnotatedPayloadField × ℕ :=
  if rule.violates accountKeys found.1 then
    (if rule.severity lintConfig ≠ .allow then state.1 ++ [rule.entry lintConfig accountKeys found]
      else state.1, state.2 + 1)
  else state

def reportClean (violations count : ℕ) : List AnnotatedPayloadField :=
  if violations = 0 && lintConfig.shouldReportOk rule.name then [rule.okEntry count] else []

end ScanRule

structure ScanState where
  diagnostics : List AnnotatedPayloadField
  oobProgramIdCount : ℕ
  oobAccountIndexCount : ℕ

def scanInstruction (lintConfig : LintConfig) (accountKeys : List Pubkey) (state : ScanState)
    (found : CompiledInstruction × ℕ) : ScanState :=
  let programs := oobProgramId.visit lintConfig accountKeys
    (state.diagnostics, state.oobProgramIdCount) found
  let accounts := oobAccountIndex.visit lintConfig accountKeys
    (programs.1, state.oobAccountIndexCount) found
  ⟨accounts.1, programs.2, accounts.2⟩

def scanInstructionDiagnostics (instructions : List CompiledInstruction)
    (accountKeys : List Pubkey) (lintConfig : LintConfig) : List AnnotatedPayloadField :=
  let state := instructions.zipIdx.foldl (scanInstruction lintConfig accountKeys) ⟨[], 0, 0⟩
  state.diagnostics ++
    oobProgramId.reportClean lintConfig state.oobProgramIdCount instructions.length ++
    oobAccountIndex.reportClean lintConfig state.oobAccountIndexCount instructions.length

/-! ## The decoders -/

structure DecodeInstructionsResult where
  fields : List AnnotatedPayloadField
  errors : List (ℕ × VisualSignError)
  diagnostics : List AnnotatedPayloadField

section Decoders

variable (visualizers : List (InstructionVisualizer Id)) (idlRegistry : IdlRegistry)

/-- The first key pays for the transaction.  It is read behind the check that
there are keys. -/
def feePayer (accountKeys : List Pubkey) : SolanaAccount :=
  ⟨(accountKeys.head?.map Pubkey.text).getD "", false, false⟩

def instructionContext (accountKeys : List Pubkey) (found : CompiledInstruction × ℕ) :
    VisualizerContext :=
  VisualizerContext.new (feePayer accountKeys) found.1 accountKeys idlRegistry found.2

def noVisualizer (index : ℕ) : VisualSignError :=
  .decodeError ("No visualizer available for instruction at index " ++ toString index)

/-- One turn of the loop that collects failures. -/
def collectInstruction (accountKeys : List Pubkey)
    (state : List AnnotatedPayloadField × List (ℕ × VisualSignError))
    (found : CompiledInstruction × ℕ) :
    List AnnotatedPayloadField × List (ℕ × VisualSignError) :=
  match (visualizeWithAny visualizers (instructionContext idlRegistry accountKeys found) : Id _) with
  | some (.ok result) => (state.1 ++ [result.field], state.2)
  | some (.error error) => (state.1, state.2 ++ [(found.2, error)])
  | none => (state.1, state.2 ++ [(found.2, noVisualizer found.2)])

/-- A decoder of the build with diagnostics. -/
def decodeCollecting (emptyMessage : String) (accountKeys : List Pubkey)
    (instructions : List CompiledInstruction) (lintConfig : LintConfig) :
    DecodeInstructionsResult :=
  if accountKeys.isEmpty then
    let severity := lintConfig.severityFor "transaction::empty_account_keys" .error
    ⟨[], [], if severity = .allow then [] else
      [createDiagnosticField "transaction::empty_account_keys" "transaction" severity
        emptyMessage none]⟩
  else
    let decoded := instructions.zipIdx.foldl
      (collectInstruction visualizers idlRegistry accountKeys) ([], [])
    ⟨decoded.1, decoded.2, scanInstructionDiagnostics instructions accountKeys lintConfig⟩

/-- One turn of the loop that leaves on the first failure. -/
def pushInstruction (accountKeys : List Pubkey) (fields : List AnnotatedPayloadField)
    (found : CompiledInstruction × ℕ) : Except VisualSignError (List AnnotatedPayloadField) :=
  match (visualizeWithAny visualizers (instructionContext idlRegistry accountKeys found) : Id _) with
  | some (.ok result) => .ok (fields ++ [result.field])
  | some (.error error) =>
      .error (.decodeError ("instruction " ++ toString found.2 ++ ": " ++ error.display))
  | none => .error (noVisualizer found.2)

/-- A decoder of the build without diagnostics. -/
def decodeStrict (emptyMessage : String) (accountKeys : List Pubkey)
    (instructions : List CompiledInstruction) :
    Except VisualSignError (List AnnotatedPayloadField) :=
  if accountKeys.isEmpty then .error (.decodeError emptyMessage)
  else instructions.zipIdx.foldlM (pushInstruction visualizers idlRegistry accountKeys) []

/-- `decode_instructions` of the build with diagnostics. -/
def decodeInstructionsCollecting (message : Message) (lintConfig : LintConfig) :
    DecodeInstructionsResult :=
  decodeCollecting visualizers idlRegistry "legacy transaction has no account keys"
    message.accountKeys message.instructions lintConfig

/-- `decode_instructions` of the build without diagnostics. -/
def decodeInstructions (message : Message) : Except VisualSignError (List AnnotatedPayloadField) :=
  decodeStrict visualizers idlRegistry "legacy transaction has no account keys"
    message.accountKeys message.instructions

/-- `decode_v0_instructions` of the build with diagnostics. -/
def decodeV0InstructionsCollecting (message : V0Message) (lintConfig : LintConfig) :
    DecodeInstructionsResult :=
  decodeCollecting visualizers idlRegistry "v0 transaction has no account keys"
    message.accountKeys message.instructions lintConfig

/-- `decode_v0_instructions` of the build without diagnostics. -/
def decodeV0Instructions (message : V0Message) :
    Except VisualSignError (List AnnotatedPayloadField) :=
  decodeStrict visualizers idlRegistry "v0 transaction has no account keys"
    message.accountKeys message.instructions

end Decoders

/-! ## What the scan reports -/

/-- The rule a diagnostic field belongs to. -/
def diagnosticRule (field : AnnotatedPayloadField) : Option String :=
  match field.signablePayloadField with
  | .diagnostic _ diagnostic => some diagnostic.rule
  | _ => none

/-- The instruction a diagnostic field points to. -/
def diagnosticIndex (field : AnnotatedPayloadField) : Option UInt32 :=
  match field.signablePayloadField with
  | .diagnostic _ diagnostic => diagnostic.instructionIndex
  | _ => none

namespace ScanRule

variable (rule : ScanRule) (lintConfig : LintConfig) (accountKeys : List Pubkey)

/-- What the check of one instruction adds to the diagnostics. -/
def reported (found : CompiledInstruction × ℕ) : List AnnotatedPayloadField :=
  if rule.violates accountKeys found.1 && rule.severity lintConfig ≠ .allow then
    [rule.entry lintConfig accountKeys found]
  else []

/-- One visit appends what the rule reports for the instruction and counts the
instruction if it violates the rule. -/
theorem visit_eq (state : List AnnotatedPayloadField × ℕ) (found : CompiledInstruction × ℕ) :
    rule.visit lintConfig accountKeys state found =
      (state.1 ++ rule.reported lintConfig accountKeys found,
        state.2 + [found].countP fun found => rule.violates accountKeys found.1) := by
  unfold visit reported
  by_cases hviolates : rule.violates accountKeys found.1 = true
  · by_cases hallow : rule.severity lintConfig = .allow <;> simp [hviolates, hallow]
  · simp [hviolates]

/-- Every diagnostic that a rule reports names the rule. -/
theorem rule_of_mem_reported {found : CompiledInstruction × ℕ} {field : AnnotatedPayloadField}
    (hfield : field ∈ rule.reported lintConfig accountKeys found) :
    diagnosticRule field = some rule.name := by
  unfold reported at hfield
  split_ifs at hfield
  · rw [List.mem_singleton] at hfield
    rw [hfield]
    rfl
  · cases hfield

/-- The diagnostic for a scan without violations names the rule as well, so it can
be told from those of the other rule. -/
theorem rule_of_mem_reportClean {violations count : ℕ} {field : AnnotatedPayloadField}
    (hfield : field ∈ rule.reportClean lintConfig violations count) :
    diagnosticRule field = some rule.name := by
  unfold reportClean at hfield
  split_ifs at hfield
  · rw [List.mem_singleton] at hfield
    rw [hfield]
    rfl
  · cases hfield

/-- The entries of the violations, one for each of them. -/
def violationEntries (instructions : List CompiledInstruction) : List AnnotatedPayloadField :=
  if rule.severity lintConfig = .allow then []
  else (instructions.zipIdx.filter fun found => rule.violates accountKeys found.1).map
    (rule.entry lintConfig accountKeys)

/-- Over all instructions a rule reports the entries of those that violate it, in
their order, and nothing at all if it is allowed. -/
theorem flatMap_reported (found : List (CompiledInstruction × ℕ)) :
    found.flatMap (rule.reported lintConfig accountKeys) =
      if rule.severity lintConfig = .allow then []
      else (found.filter fun found => rule.violates accountKeys found.1).map
        (rule.entry lintConfig accountKeys) := by
  by_cases hallow : rule.severity lintConfig = .allow
  · rw [if_pos hallow, List.flatMap_eq_nil_iff]
    intro entry _
    simp [reported, hallow]
  · rw [if_neg hallow]
    induction found with
    | nil => rfl
    | cons first rest ih =>
        rw [List.flatMap_cons, ih, List.filter_cons]
        by_cases hviolates : rule.violates accountKeys first.1 = true
        · simp [reported, hviolates, hallow]
        · simp [reported, hviolates]

end ScanRule

/-- The scan of the source, which threads both rules through one loop, appends for
each instruction what the first rule reports and then the second. -/
theorem foldl_scanInstruction (lintConfig : LintConfig) (accountKeys : List Pubkey)
    (found : List (CompiledInstruction × ℕ)) (state : ScanState) :
    found.foldl (scanInstruction lintConfig accountKeys) state =
      ⟨state.diagnostics ++ found.flatMap fun entry =>
          oobProgramId.reported lintConfig accountKeys entry ++
            oobAccountIndex.reported lintConfig accountKeys entry,
        state.oobProgramIdCount +
          found.countP fun entry => oobProgramId.violates accountKeys entry.1,
        state.oobAccountIndexCount +
          found.countP fun entry => oobAccountIndex.violates accountKeys entry.1⟩ := by
  induction found generalizing state with
  | nil => simp
  | cons first rest ih =>
      rw [List.foldl_cons, ih]
      simp only [scanInstruction, ScanRule.visit_eq, List.flatMap_cons, List.append_assoc]
      simp only [List.countP_cons, List.countP_nil, ScanState.mk.injEq, true_and]
      constructor <;> omega

/-- The diagnostics are the reports for each instruction in turn, and behind them
the clean reports of the rules that have no violation. -/
theorem scanInstructionDiagnostics_eq (instructions : List CompiledInstruction)
    (accountKeys : List Pubkey) (lintConfig : LintConfig) :
    scanInstructionDiagnostics instructions accountKeys lintConfig =
      (instructions.zipIdx.flatMap fun entry =>
        oobProgramId.reported lintConfig accountKeys entry ++
          oobAccountIndex.reported lintConfig accountKeys entry) ++
      (oobProgramId.reportClean lintConfig
          (instructions.zipIdx.countP fun entry => oobProgramId.violates accountKeys entry.1)
          instructions.length ++
        oobAccountIndex.reportClean lintConfig
          (instructions.zipIdx.countP fun entry => oobAccountIndex.violates accountKeys entry.1)
          instructions.length) := by
  simp only [scanInstructionDiagnostics, foldl_scanInstruction, List.nil_append, Nat.zero_add,
    List.append_assoc]

/-- What the scan says about one rule: one entry for each violation, in order,
and the entry without an index exactly when there is none to report. -/
structure ScanReports (rule : ScanRule) (instructions : List CompiledInstruction)
    (accountKeys : List Pubkey) (lintConfig : LintConfig)
    (diagnostics : List AnnotatedPayloadField) : Prop where
  entries : (diagnostics.filter fun field => diagnosticRule field = some rule.name) =
    rule.violationEntries lintConfig accountKeys instructions ++
      rule.reportClean lintConfig
        (instructions.countP fun ci => rule.violates accountKeys ci) instructions.length
  ok_iff : rule.okEntry instructions.length ∈ diagnostics ↔
    (∀ ci ∈ instructions, rule.violates accountKeys ci = false) ∧
      lintConfig.shouldReportOk rule.name = true

/-- The report of a clean scan is none of the reports of violations, since a
violation has the index of its instruction. -/
theorem okEntry_notMem_violationEntries (rule : ScanRule) (instructions : List CompiledInstruction)
    (accountKeys : List Pubkey) (lintConfig : LintConfig) (count : ℕ) :
    rule.okEntry count ∉ rule.violationEntries lintConfig accountKeys instructions := by
  unfold ScanRule.violationEntries
  split_ifs
  · exact List.not_mem_nil
  · intro hmem
    obtain ⟨found, -, hentry⟩ := List.mem_map.1 hmem
    have hindex : some (UInt32.ofNat found.2) = none := congrArg diagnosticIndex hentry
    cases hindex

theorem scanReports_of_entries {rule : ScanRule} {instructions : List CompiledInstruction}
    {accountKeys : List Pubkey} {lintConfig : LintConfig}
    {diagnostics : List AnnotatedPayloadField}
    (hentries : (diagnostics.filter fun field => diagnosticRule field = some rule.name) =
      rule.violationEntries lintConfig accountKeys instructions ++
        rule.reportClean lintConfig
          (instructions.countP fun ci => rule.violates accountKeys ci) instructions.length) :
    ScanReports rule instructions accountKeys lintConfig diagnostics where
  entries := hentries
  ok_iff := by
    have hmem : rule.okEntry instructions.length ∈ diagnostics ↔ rule.okEntry instructions.length ∈
        diagnostics.filter fun field => diagnosticRule field = some rule.name := by
      rw [List.mem_filter]
      exact (and_iff_left (decide_eq_true rfl)).symm
    rw [hmem, hentries, List.mem_append,
      or_iff_right (okEntry_notMem_violationEntries rule instructions accountKeys lintConfig _)]
    unfold ScanRule.reportClean
    simp only [Bool.and_eq_true, decide_eq_true_eq, List.countP_eq_zero, Bool.not_eq_true]
    split_ifs with hclean
    · exact iff_of_true (List.mem_singleton_self _) hclean
    · exact iff_of_false List.not_mem_nil hclean

theorem countP_zipIdx (instructions : List CompiledInstruction)
    (violates : CompiledInstruction → Bool) :
    (instructions.zipIdx.countP fun entry => violates entry.1) = instructions.countP violates := by
  conv_rhs => rw [← List.zipIdx_map_fst 0 instructions, List.countP_map]
  rfl

/-- Keeping one rule of two keeps its part of every list. -/
theorem filter_rule_append {rule : ScanRule} {own other : List AnnotatedPayloadField}
    (hown : ∀ field ∈ own, diagnosticRule field = some rule.name)
    (hother : ∀ field ∈ other, diagnosticRule field ≠ some rule.name) :
    ((own ++ other).filter fun field => diagnosticRule field = some rule.name) = own ∧
      ((other ++ own).filter fun field => diagnosticRule field = some rule.name) = own := by
  have hkept : (own.filter fun field => diagnosticRule field = some rule.name) = own :=
    List.filter_eq_self.2 fun field hfield => decide_eq_true (hown field hfield)
  have hdropped : (other.filter fun field => diagnosticRule field = some rule.name) = [] :=
    List.filter_eq_nil_iff.2 fun field hfield hrule =>
      hother field hfield (of_decide_eq_true hrule)
  constructor
  · rw [List.filter_append, hkept, hdropped, List.append_nil]
  · rw [List.filter_append, hkept, hdropped, List.nil_append]

section Rules

variable {rule other : ScanRule} (hne : some other.name ≠ some rule.name) (lintConfig : LintConfig)

include hne

/-- Of the reports of two rules the name picks out those of one, because every
report names its rule. -/
theorem filter_reported (accountKeys : List Pubkey) (found : CompiledInstruction × ℕ) :
    ((rule.reported lintConfig accountKeys found ++
        other.reported lintConfig accountKeys found).filter
      fun field => diagnosticRule field = some rule.name) =
        rule.reported lintConfig accountKeys found ∧
    ((other.reported lintConfig accountKeys found ++
        rule.reported lintConfig accountKeys found).filter
      fun field => diagnosticRule field = some rule.name) =
        rule.reported lintConfig accountKeys found := by
  apply filter_rule_append
  · intro field hfield
    exact rule.rule_of_mem_reported lintConfig accountKeys hfield
  · intro field hfield
    rw [other.rule_of_mem_reported lintConfig accountKeys hfield]
    exact hne

theorem filter_reportClean (violations otherViolations count : ℕ) :
    ((rule.reportClean lintConfig violations count ++
        other.reportClean lintConfig otherViolations count).filter
      fun field => diagnosticRule field = some rule.name) =
        rule.reportClean lintConfig violations count ∧
    ((other.reportClean lintConfig otherViolations count ++
        rule.reportClean lintConfig violations count).filter
      fun field => diagnosticRule field = some rule.name) =
        rule.reportClean lintConfig violations count := by
  apply filter_rule_append
  · intro field hfield
    exact rule.rule_of_mem_reportClean lintConfig hfield
  · intro field hfield
    rw [other.rule_of_mem_reportClean lintConfig hfield]
    exact hne

end Rules

/-- For the rule about program indexes the scan reports exactly the violations, or a
clean scan. -/
theorem scanReports_oobProgramId (instructions : List CompiledInstruction)
    (accountKeys : List Pubkey) (lintConfig : LintConfig) :
    ScanReports oobProgramId instructions accountKeys lintConfig
      (scanInstructionDiagnostics instructions accountKeys lintConfig) := by
  have hne : some oobAccountIndex.name ≠ some oobProgramId.name := by decide
  apply scanReports_of_entries
  rw [scanInstructionDiagnostics_eq, List.filter_append, List.filter_flatMap]
  congr 1
  · rw [ScanRule.violationEntries, ← ScanRule.flatMap_reported]
    congr 1
    funext found
    exact (filter_reported hne lintConfig accountKeys found).1
  · rw [countP_zipIdx instructions (oobProgramId.violates accountKeys)]
    exact (filter_reportClean hne lintConfig _ _ _).1

/-- For the rule about account indexes the scan reports exactly the violations, or a
clean scan. -/
theorem scanReports_oobAccountIndex (instructions : List CompiledInstruction)
    (accountKeys : List Pubkey) (lintConfig : LintConfig) :
    ScanReports oobAccountIndex instructions accountKeys lintConfig
      (scanInstructionDiagnostics instructions accountKeys lintConfig) := by
  have hne : some oobProgramId.name ≠ some oobAccountIndex.name := by decide
  apply scanReports_of_entries
  rw [scanInstructionDiagnostics_eq, List.filter_append, List.filter_flatMap]
  congr 1
  · rw [ScanRule.violationEntries, ← ScanRule.flatMap_reported]
    congr 1
    funext found
    exact (filter_reported hne lintConfig accountKeys found).2
  · rw [countP_zipIdx instructions (oobAccountIndex.violates accountKeys)]
    exact (filter_reportClean hne lintConfig _ _ _).2

/-! ## Both builds -/

section Builds

variable (visualizers : List (InstructionVisualizer Id)) (idlRegistry : IdlRegistry)
  (accountKeys : List Pubkey)

/-- How one instruction ends: with its field, or with its failure. -/
def visualized (found : CompiledInstruction × ℕ) : Except VisualSignError AnnotatedPayloadField :=
  match (visualizeWithAny visualizers (instructionContext idlRegistry accountKeys found) : Id _) with
  | some result => result.map VisualizeResult.field
  | none => .error (noVisualizer found.2)

def shownField (found : CompiledInstruction × ℕ) : Option AnnotatedPayloadField :=
  (visualized visualizers idlRegistry accountKeys found).toOption

def recordedError (found : CompiledInstruction × ℕ) : Option (ℕ × VisualSignError) :=
  match visualized visualizers idlRegistry accountKeys found with
  | .ok _ => none
  | .error error => some (found.2, error)

/-- One turn of the collecting loop appends the field of the instruction, or its
error, and never both. -/
theorem collectInstruction_eq
    (state : List AnnotatedPayloadField × List (ℕ × VisualSignError))
    (found : CompiledInstruction × ℕ) :
    collectInstruction visualizers idlRegistry accountKeys state found =
      (state.1 ++ (shownField visualizers idlRegistry accountKeys found).toList,
        state.2 ++ (recordedError visualizers idlRegistry accountKeys found).toList) := by
  unfold collectInstruction shownField recordedError visualized
  cases (visualizeWithAny visualizers (instructionContext idlRegistry accountKeys found) : Id _) with
  | none => simp [Except.toOption]
  | some result =>
      cases result with
      | error error => simp [Except.map, Except.toOption]
      | ok result => simp [Except.map, Except.toOption]

/-- The collecting loop gathers the fields that are shown and the errors of the
others, each in the order of the instructions. -/
theorem foldl_collectInstruction (found : List (CompiledInstruction × ℕ))
    (state : List AnnotatedPayloadField × List (ℕ × VisualSignError)) :
    found.foldl (collectInstruction visualizers idlRegistry accountKeys) state =
      (state.1 ++ found.filterMap (shownField visualizers idlRegistry accountKeys),
        state.2 ++ found.filterMap (recordedError visualizers idlRegistry accountKeys)) := by
  induction found generalizing state with
  | nil => simp
  | cons first rest ih =>
      rw [List.foldl_cons, ih, collectInstruction_eq, List.filterMap_cons, List.filterMap_cons]
      cases shownField visualizers idlRegistry accountKeys first <;>
        cases recordedError visualizers idlRegistry accountKeys first <;> simp

/-- A message that says which instruction failed. -/
def NamesInstruction (index : ℕ) (message : String) : Prop :=
  (∃ error, message = "instruction " ++ toString index ++ ": " ++ error) ∨
    message = "No visualizer available for instruction at index " ++ toString index

/-- The strict loop appends the field of an instruction that can be shown, as the
collecting one does. -/
theorem pushInstruction_of_shown {fields : List AnnotatedPayloadField}
    {found : CompiledInstruction × ℕ} {field : AnnotatedPayloadField}
    (hfield : visualized visualizers idlRegistry accountKeys found = .ok field) :
    pushInstruction visualizers idlRegistry accountKeys fields found = .ok (fields ++ [field]) := by
  unfold visualized at hfield
  unfold pushInstruction
  cases hany : (visualizeWithAny visualizers
      (instructionContext idlRegistry accountKeys found) : Id _) with
  | none =>
      rw [hany] at hfield
      cases hfield
  | some result =>
      rw [hany] at hfield
      cases result with
      | error error => cases hfield
      | ok result =>
          cases hfield
          rfl

/-- The strict loop stops at an instruction that cannot be shown, with an error that
names the position of the instruction. -/
theorem pushInstruction_of_failed (fields : List AnnotatedPayloadField)
    {found : CompiledInstruction × ℕ} {error : VisualSignError}
    (herror : visualized visualizers idlRegistry accountKeys found = .error error) :
    ∃ message, NamesInstruction found.2 message ∧
      pushInstruction visualizers idlRegistry accountKeys fields found =
        .error (.decodeError message) := by
  unfold visualized at herror
  unfold pushInstruction
  cases hany : (visualizeWithAny visualizers
      (instructionContext idlRegistry accountKeys found) : Id _) with
  | none => exact ⟨_, .inr rfl, rfl⟩
  | some result =>
      rw [hany] at herror
      cases result with
      | error error => exact ⟨_, .inl ⟨error.display, rfl⟩, rfl⟩
      | ok result => cases herror

/-- The strict loop ends with the collected fields if nothing was recorded, and
otherwise with the first record. -/
theorem foldlM_pushInstruction (found : List (CompiledInstruction × ℕ))
    (fields : List AnnotatedPayloadField) :
    match (found.filterMap (recordedError visualizers idlRegistry accountKeys)).head? with
    | none => found.foldlM (pushInstruction visualizers idlRegistry accountKeys) fields =
        .ok (fields ++ found.filterMap (shownField visualizers idlRegistry accountKeys))
    | some record => ∃ message, NamesInstruction record.1 message ∧
        found.foldlM (pushInstruction visualizers idlRegistry accountKeys) fields =
          .error (.decodeError message) := by
  induction found generalizing fields with
  | nil => simp [pure, Except.pure]
  | cons first rest ih =>
      cases hfirst : visualized visualizers idlRegistry accountKeys first with
      | ok field =>
          have hshown : shownField visualizers idlRegistry accountKeys first = some field := by
            rw [shownField, hfirst]
            rfl
          have hrecorded : recordedError visualizers idlRegistry accountKeys first = none := by
            rw [recordedError, hfirst]
          have hrest := ih (fields ++ [field])
          rw [List.filterMap_cons_none hrecorded, List.filterMap_cons_some hshown,
            List.foldlM_cons, pushInstruction_of_shown visualizers idlRegistry accountKeys hfirst]
          rw [List.append_assoc] at hrest
          exact hrest
      | error error =>
          have hrecorded : recordedError visualizers idlRegistry accountKeys first =
              some (first.2, error) := by
            rw [recordedError, hfirst]
          obtain ⟨message, hnames, hpush⟩ :=
            pushInstruction_of_failed visualizers idlRegistry accountKeys fields hfirst
          rw [List.filterMap_cons_some hrecorded, List.foldlM_cons, hpush]
          exact ⟨message, hnames, rfl⟩

/-- Every position has either its own field or its own error, both in order. -/
structure PartitionsInstructions (instructions : List CompiledInstruction)
    (result : DecodeInstructionsResult) : Prop where
  shown : ∃ shown : List ℕ, shown.Pairwise (· < ·) ∧
    (shown ++ result.errors.map Prod.fst).Perm (List.range instructions.length) ∧
    List.Forall₂ (fun index field => ∃ ci, instructions[index]? = some ci ∧
      visualized visualizers idlRegistry accountKeys (ci, index) = .ok field) shown result.fields
  failed : (result.errors.map Prod.fst).Pairwise (· < ·)
  error : ∀ record ∈ result.errors, ∃ ci, instructions[record.1]? = some ci ∧
    visualized visualizers idlRegistry accountKeys (ci, record.1) = .error record.2

/-- What can be said about the decoders of one message in both builds. -/
structure Accounted (instructions : List CompiledInstruction) (lintConfig : LintConfig)
    (result : DecodeInstructionsResult)
    (strict : Except VisualSignError (List AnnotatedPayloadField)) : Prop where
  partitions : PartitionsInstructions visualizers idlRegistry accountKeys instructions result
  programIds : ScanReports oobProgramId instructions accountKeys lintConfig result.diagnostics
  accountIndices :
    ScanReports oobAccountIndex instructions accountKeys lintConfig result.diagnostics
  strict_ok : ∀ fields, strict = .ok fields ↔ result.errors = [] ∧ fields = result.fields
  strict_error : ∀ record, result.errors.head? = some record →
    ∃ message, NamesInstruction record.1 message ∧ strict = .error (.decodeError message)

/-- The positions that are shown. -/
def shownPositions (found : List (CompiledInstruction × ℕ)) : List ℕ :=
  (found.filter fun entry =>
    (shownField visualizers idlRegistry accountKeys entry).isSome).map Prod.snd

/-- An error is recorded for an instruction exactly if no field is shown for it, so
each instruction is in one of the two lists. -/
theorem isSome_recordedError (found : CompiledInstruction × ℕ) :
    (recordedError visualizers idlRegistry accountKeys found).isSome =
      !(shownField visualizers idlRegistry accountKeys found).isSome := by
  unfold recordedError shownField
  cases visualized visualizers idlRegistry accountKeys found <;> rfl

/-- The recorded errors carry the positions of the instructions that are not shown,
in ascending order. -/
theorem map_fst_recorded (found : List (CompiledInstruction × ℕ)) :
    (found.filterMap (recordedError visualizers idlRegistry accountKeys)).map Prod.fst =
      (found.filter fun entry =>
        !(shownField visualizers idlRegistry accountKeys entry).isSome).map Prod.snd := by
  induction found with
  | nil => rfl
  | cons first rest ih =>
      have hkind := isSome_recordedError visualizers idlRegistry accountKeys first
      cases hrecorded : recordedError visualizers idlRegistry accountKeys first with
      | none =>
          rw [hrecorded] at hkind
          rw [List.filterMap_cons_none hrecorded, List.filter_cons, ← hkind, ih]
          rfl
      | some record =>
          rw [hrecorded] at hkind
          have hindex : record.1 = first.2 := by
            unfold recordedError at hrecorded
            cases hfirst : visualized visualizers idlRegistry accountKeys first with
            | ok field =>
                rw [hfirst] at hrecorded
                cases hrecorded
            | error error =>
                rw [hfirst] at hrecorded
                cases hrecorded
                rfl
          rw [List.filterMap_cons_some hrecorded, List.filter_cons, ← hkind, List.map_cons, ih,
            hindex]
          rfl

theorem pairwise_filter_zipIdx (instructions : List CompiledInstruction)
    (keep : CompiledInstruction × ℕ → Bool) :
    ((instructions.zipIdx.filter keep).map Prod.snd).Pairwise (· < ·) := by
  have hall : (instructions.zipIdx.map Prod.snd).Pairwise (· < ·) := by
    rw [List.zipIdx_map_snd]
    exact List.pairwise_lt_range'
  exact hall.sublist (List.filter_sublist.map Prod.snd)

/-- The fields belong to the shown positions one by one: each of them is what the
visualizer returns for the instruction there. -/
theorem forall₂_shown {instructions : List CompiledInstruction}
    {found : List (CompiledInstruction × ℕ)}
    (hfound : ∀ entry ∈ found, instructions[entry.2]? = some entry.1) :
    List.Forall₂ (fun index field => ∃ ci, instructions[index]? = some ci ∧
        visualized visualizers idlRegistry accountKeys (ci, index) = .ok field)
      (shownPositions visualizers idlRegistry accountKeys found)
      (found.filterMap (shownField visualizers idlRegistry accountKeys)) := by
  induction found with
  | nil => exact .nil
  | cons first rest ih =>
      have hrest := ih fun entry hentry => hfound entry (List.mem_cons_of_mem first hentry)
      cases hshown : shownField visualizers idlRegistry accountKeys first with
      | none =>
          rw [List.filterMap_cons_none hshown, shownPositions,
            List.filter_cons_of_neg (by simp [hshown])]
          exact hrest
      | some field =>
          rw [List.filterMap_cons_some hshown, shownPositions,
            List.filter_cons_of_pos (by simp [hshown])]
          refine .cons ⟨first.1, hfound first List.mem_cons_self, ?_⟩ hrest
          unfold shownField at hshown
          cases hfirst : visualized visualizers idlRegistry accountKeys first with
          | error error =>
              rw [hfirst] at hshown
              cases hshown
          | ok shown =>
              rw [hfirst] at hshown
              cases hshown
              rfl

theorem getElem?_of_mem_zipIdx {instructions : List CompiledInstruction}
    {entry : CompiledInstruction × ℕ} (hentry : entry ∈ instructions.zipIdx) :
    instructions[entry.2]? = some entry.1 :=
  List.mem_zipIdx_iff_getElem?.1 hentry

theorem decodeCollecting_of_keys (hkeys : accountKeys ≠ []) (emptyMessage : String)
    (instructions : List CompiledInstruction) (lintConfig : LintConfig) :
    decodeCollecting visualizers idlRegistry emptyMessage accountKeys instructions lintConfig =
      ⟨instructions.zipIdx.filterMap (shownField visualizers idlRegistry accountKeys),
        instructions.zipIdx.filterMap (recordedError visualizers idlRegistry accountKeys),
        scanInstructionDiagnostics instructions accountKeys lintConfig⟩ := by
  have hempty : ¬ accountKeys.isEmpty = true := by simpa using hkeys
  rw [decodeCollecting, if_neg hempty, foldl_collectInstruction]
  rfl

/-- The positions of the fields and those of the errors ascend, and are together all
positions of the message, each of them once. -/
theorem partitionsInstructions_decodeCollecting (instructions : List CompiledInstruction)
    (diagnostics : List AnnotatedPayloadField) :
    PartitionsInstructions visualizers idlRegistry accountKeys instructions
      ⟨instructions.zipIdx.filterMap (shownField visualizers idlRegistry accountKeys),
        instructions.zipIdx.filterMap (recordedError visualizers idlRegistry accountKeys),
        diagnostics⟩ where
  shown := by
    refine ⟨shownPositions visualizers idlRegistry accountKeys instructions.zipIdx,
      pairwise_filter_zipIdx instructions _, ?_, ?_⟩
    · rw [map_fst_recorded, shownPositions, ← List.map_append, List.range_eq_range',
        ← List.zipIdx_map_snd 0 instructions]
      exact (List.filter_append_perm _ _).map Prod.snd
    · exact forall₂_shown visualizers idlRegistry accountKeys fun _ => getElem?_of_mem_zipIdx
  failed := by
    rw [map_fst_recorded]
    exact pairwise_filter_zipIdx instructions _
  error := by
    intro record hrecord
    obtain ⟨entry, hentry, hrecorded⟩ := List.mem_filterMap.1 hrecord
    unfold recordedError at hrecorded
    cases hvisualized : visualized visualizers idlRegistry accountKeys entry with
    | ok field =>
        rw [hvisualized] at hrecorded
        cases hrecorded
    | error error =>
        rw [hvisualized] at hrecorded
        cases hrecorded
        exact ⟨entry.1, getElem?_of_mem_zipIdx hentry, hvisualized⟩

/-- If a message has keys, each of its instructions is accounted for, in the
collecting decoder and in the strict one alike. -/
theorem accounted_of_keys (hkeys : accountKeys ≠ []) (emptyMessage : String)
    (instructions : List CompiledInstruction) (lintConfig : LintConfig) :
    Accounted visualizers idlRegistry accountKeys instructions lintConfig
      (decodeCollecting visualizers idlRegistry emptyMessage accountKeys instructions lintConfig)
      (decodeStrict visualizers idlRegistry emptyMessage accountKeys instructions) := by
  have hempty : ¬ accountKeys.isEmpty = true := by simpa using hkeys
  have hstrict := foldlM_pushInstruction visualizers idlRegistry accountKeys
    instructions.zipIdx []
  rw [decodeCollecting_of_keys visualizers idlRegistry accountKeys hkeys, decodeStrict,
    if_neg hempty]
  refine ⟨partitionsInstructions_decodeCollecting visualizers idlRegistry accountKeys
    instructions _, scanReports_oobProgramId instructions accountKeys lintConfig,
    scanReports_oobAccountIndex instructions accountKeys lintConfig, ?_, ?_⟩
  · intro fields
    cases hrecords : instructions.zipIdx.filterMap
        (recordedError visualizers idlRegistry accountKeys) with
    | nil =>
        rw [hrecords] at hstrict
        rw [hstrict, Except.ok.injEq]
        exact ⟨fun hfields => ⟨rfl, hfields.symm⟩, fun hboth => hboth.2.symm⟩
    | cons record records =>
        rw [hrecords] at hstrict
        obtain ⟨message, -, hfailed⟩ := hstrict
        rw [hfailed]
        constructor
        · intro hfields
          cases hfields
        · intro hboth
          cases hboth.1
  · intro record hrecord
    rw [hrecord] at hstrict
    exact hstrict

end Builds

/-- On every message with a key the two builds and the scan agree, and so do the
decoders of the two transaction formats. -/
theorem decoders_accounted (visualizers : List (InstructionVisualizer Id))
    (idlRegistry : IdlRegistry) (lintConfig : LintConfig) (message : Message)
    (v0Message : V0Message) (hkeys : message.accountKeys ≠ [])
    (hv0Keys : v0Message.accountKeys ≠ []) :
    Accounted visualizers idlRegistry message.accountKeys message.instructions lintConfig
      (decodeInstructionsCollecting visualizers idlRegistry message lintConfig)
      (decodeInstructions visualizers idlRegistry message) ∧
    Accounted visualizers idlRegistry v0Message.accountKeys v0Message.instructions lintConfig
      (decodeV0InstructionsCollecting visualizers idlRegistry v0Message lintConfig)
      (decodeV0Instructions visualizers idlRegistry v0Message) ∧
    (message.accountKeys = v0Message.accountKeys →
      message.instructions = v0Message.instructions →
      decodeInstructionsCollecting visualizers idlRegistry message lintConfig =
          decodeV0InstructionsCollecting visualizers idlRegistry v0Message lintConfig ∧
        decodeInstructions visualizers idlRegistry message =
          decodeV0Instructions visualizers idlRegistry v0Message) := by
  refine ⟨accounted_of_keys visualizers idlRegistry message.accountKeys hkeys _ _ lintConfig,
    accounted_of_keys visualizers idlRegistry v0Message.accountKeys hv0Keys _ _ lintConfig, ?_⟩
  intro hsameKeys hsameInstructions
  have hempty : ¬ v0Message.accountKeys.isEmpty = true := by simpa using hv0Keys
  constructor
  · rw [decodeInstructionsCollecting, decodeV0InstructionsCollecting,
      decodeCollecting_of_keys visualizers idlRegistry message.accountKeys hkeys,
      decodeCollecting_of_keys visualizers idlRegistry v0Message.accountKeys hv0Keys, hsameKeys,
      hsameInstructions]
  · rw [decodeInstructions, decodeV0Instructions, decodeStrict, decodeStrict, hsameKeys,
      hsameInstructions, if_neg hempty, if_neg hempty]

/-- One instruction, of a program that is not among the keys. -/
def strayInstruction : CompiledInstruction := ⟨7, [0], [1, 2]⟩

def strayMessage : Message :=
  ⟨⟨1, 0, 0⟩, [⟨List.replicate 32 9, List.length_replicate⟩], [strayInstruction]⟩

def strayV0Message : V0Message :=
  ⟨⟨1, 0, 0⟩, [⟨List.replicate 32 9, List.length_replicate⟩], [strayInstruction], []⟩

theorem decoders_accounted_stray :
    (strayMessage.accountKeys ≠ [] ∧ strayV0Message.accountKeys ≠ []) ∧
    Accounted [] ⟨.empty, .empty, .empty⟩ strayMessage.accountKeys strayMessage.instructions
      .standard
      (decodeInstructionsCollecting [] ⟨.empty, .empty, .empty⟩ strayMessage .standard)
      (decodeInstructions [] ⟨.empty, .empty, .empty⟩ strayMessage) ∧
    decodeInstructions [] ⟨.empty, .empty, .empty⟩ strayMessage =
      decodeV0Instructions [] ⟨.empty, .empty, .empty⟩ strayV0Message := by
  have hkeys : strayMessage.accountKeys ≠ [] := List.cons_ne_nil _ _
  have hv0Keys : strayV0Message.accountKeys ≠ [] := List.cons_ne_nil _ _
  obtain ⟨haccounted, -, hagree⟩ := decoders_accounted [] ⟨.empty, .empty, .empty⟩ .standard
    strayMessage strayV0Message hkeys hv0Keys
  exact ⟨⟨hkeys, hv0Keys⟩, haccounted, (hagree rfl rfl).2⟩

end VisualSignParser.Solana
