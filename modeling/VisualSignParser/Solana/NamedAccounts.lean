import VisualSignParser.Solana.DflowAggregator
import VisualSignParser.VisualSign.FieldPaths

/-!
# Accounts under the names of an IDL

Three visualizers show the accounts of an instruction under the names that the IDL gives
their positions.  They find the instruction of the IDL on their own, and collect the
accounts by name.
-/

namespace VisualSignParser.Solana

open VisualSignParser.Framing
open VisualSignParser.OrderedMap
open VisualSignParser.Solana.Dflow (remainingFields)
open VisualSignParser.Solana.SplToken (InstructionView)
open VisualSignParser.VisualSign

/-! ## The decoder -/

/-- The crate of the IDL decoder finds an instruction of the IDL by the data, and takes
its name and the types of its arguments from it. -/
structure IdlDecoder where
  decodeIdlData : String → Option Idl
  findInstruction : Bytes → Idl → Option ℕ
  parseInstruction : Bytes → String → Idl → ℕ → Option SolanaParsedInstructionData

def IdlDecoder.parser (decoder : IdlDecoder) : IdlParser where
  decodeIdlData := decoder.decodeIdlData
  parseInstructionWithIdl data programId idl :=
    (decoder.findInstruction data idl).bind (decoder.parseInstruction data programId idl)

/-- The data is decoded by the instruction at the position. -/
structure IdlDecoder.Parses (decoder : IdlDecoder) (data : Bytes) (programId : String) (idl : Idl)
    (position : ℕ) (instruction : IdlInstruction) (parsed : SolanaParsedInstructionData) :
    Prop where
  found : decoder.findInstruction data idl = some position
  instruction : idl.instructions[position]? = some instruction
  parsed : decoder.parseInstruction data programId idl position = some parsed

theorem IdlDecoder.Parses.parser {decoder : IdlDecoder} {data : Bytes} {programId : String}
    {idl : Idl} {position : ℕ} {instruction : IdlInstruction}
    {parsed : SolanaParsedInstructionData}
    (hparses : decoder.Parses data programId idl position instruction parsed) :
    decoder.parser.parseInstructionWithIdl data programId idl = some parsed := by
  change (decoder.findInstruction data idl).bind _ = some parsed
  rw [hparses.found, Option.bind_some, hparses.parsed]

/-! ## Accounts in fields -/

def namedField (account : String × String) : AnnotatedPayloadField :=
  createTextField account.1 account.2

/-- Every account that the names reach is shown under the name of its position, in any
order, and the accounts behind them are shown as remaining ones, in order. -/
def ShowsAccounts (names accounts : List String) (shown : List AnnotatedPayloadField) : Prop :=
  ∃ named : List AnnotatedPayloadField, named.Perm ((names.zip accounts).map namedField) ∧
    shown = named ++ remainingFields (accounts.drop names.length)

theorem length_remainingFields (accounts : List String) :
    (remainingFields accounts).length = accounts.length := by
  rw [remainingFields, List.length_map, List.length_zipIdx]

/-- No account is hidden. -/
theorem ShowsAccounts.length {names accounts : List String} {shown : List AnnotatedPayloadField}
    (hshown : ShowsAccounts names accounts shown) : shown.length = accounts.length := by
  obtain ⟨named, hperm, rfl⟩ := hshown
  rw [List.length_append, hperm.length_eq, List.length_map, List.length_zip, length_remainingFields,
    List.length_drop]
  omega

/-! ## Names in a map -/

def namedFields (named : BTreeMap String String) : List AnnotatedPayloadField :=
  named.entries.map namedField

theorem entries_nameAccounts (names accounts : List String) :
    (nameAccounts names accounts).entries = collectSorted (names.zip accounts) :=
  BTreeMap.entries_foldl_insert BTreeMap.empty (names.zip accounts)

theorem length_namedFields_le (names accounts : List String) :
    (namedFields (nameAccounts names accounts)).length ≤ (names.zip accounts).length := by
  rw [namedFields, List.length_map, entries_nameAccounts]
  exact length_collectSorted_le _

theorem keys_zip (names accounts : List String) :
    (names.zip accounts).map Prod.fst = names.take accounts.length := by
  induction names generalizing accounts with
  | nil => simp
  | cons name names ih =>
      cases accounts with
      | nil => rfl
      | cons account accounts =>
          rw [List.zip_cons_cons, List.map_cons, ih, List.length_cons, List.take_succ_cons]

/-- Names that are used twice overwrite an account, and no others do. -/
theorem nodup_iff_length_namedFields (names accounts : List String) :
    (names.take accounts.length).Nodup ↔
      (namedFields (nameAccounts names accounts)).length = (names.zip accounts).length := by
  rw [← keys_zip, namedFields, List.length_map, entries_nameAccounts]
  constructor
  · intro hnodup
    exact (collectSorted_perm (List.pairwise_map.1 hnodup)).length_eq
  · exact fun hlength => nodup_keys_of_length_le hlength.ge

/-- If no name occurs twice, every account up to the last name has a field under its
name. -/
theorem namedFields_perm {names accounts : List String}
    (hnodup : (names.take accounts.length).Nodup) :
    (namedFields (nameAccounts names accounts)).Perm ((names.zip accounts).map namedField) := by
  rw [← keys_zip] at hnodup
  rw [namedFields, entries_nameAccounts]
  exact (collectSorted_perm (List.pairwise_map.1 hnodup)).map namedField

/-- The accounts behind the last name are missing in the map. -/
theorem showsAccounts_named_iff (names accounts : List String) :
    ShowsAccounts names accounts (namedFields (nameAccounts names accounts)) ↔
      (names.take accounts.length).Nodup ∧ accounts.length ≤ names.length := by
  constructor
  · intro hshown
    have hlength := hshown.length
    have hbound := length_namedFields_le names accounts
    rw [nodup_iff_length_namedFields]
    rw [List.length_zip] at hbound ⊢
    omega
  · rintro ⟨hnodup, hlength⟩
    refine ⟨_, namedFields_perm hnodup, ?_⟩
    rw [List.drop_eq_nil_of_le hlength]
    exact (List.append_nil _).symm

/-- With the remaining accounts behind the map only names decide. -/
theorem showsAccounts_remaining_iff (names accounts : List String) :
    ShowsAccounts names accounts (namedFields (nameAccounts names accounts) ++
        remainingFields (accounts.drop names.length)) ↔
      (names.take accounts.length).Nodup := by
  constructor
  · intro hshown
    have hlength := hshown.length
    rw [List.length_append, length_remainingFields, List.length_drop] at hlength
    rw [nodup_iff_length_namedFields, List.length_zip]
    omega
  · exact fun hnodup => ⟨_, namedFields_perm hnodup, rfl⟩

theorem showsAccounts_nil_iff (names accounts : List String) :
    ShowsAccounts names accounts [] ↔ accounts = [] := by
  constructor
  · exact fun hshown => List.length_eq_zero_iff.1 hshown.length.symm
  · rintro rfl
    exact ⟨[], by simp, by simp [remainingFields]⟩

/-! ## The instruction of the IDL -/

/-- The instruction that a visualizer takes the names from, if it finds one, is the one
that is shown, and no account is hidden. -/
structure HidesNoAccount (idl : Idl) (selects : IdlInstruction → Bool) (position : ℕ)
    (names accounts : List String) (shown : List AnnotatedPayloadField) : Prop where
  sameInstruction : ∀ other, idl.instructions.findIdx? selects = some other → other = position
  shows : ShowsAccounts names accounts shown

/-- The visualizer finds the instruction that the data is decoded by, or there is nothing
to name, and the names of the accounts are distinct. -/
structure NamesApart (idl : Idl) (selects : IdlInstruction → Bool) (position : ℕ)
    (names accounts : List String) : Prop where
  sameInstruction : ∀ other, idl.instructions.findIdx? selects = some other → other = position
  finds : accounts ≠ [] → (idl.instructions.findIdx? selects).isSome = true
  distinct : (names.take accounts.length).Nodup

section Selection

variable {idl : Idl} {selects : IdlInstruction → Bool} {position : ℕ} {instruction : IdlInstruction}
  {accounts : List String} {Fits : Prop}

/-- What is shown for the instruction that is found decides, and without one nothing is
shown. -/
theorem hidesNoAccount_iff (shown : Option IdlInstruction → List AnnotatedPayloadField)
    (hinstruction : idl.instructions[position]? = some instruction)
    (hnone : shown none = [])
    (hsome : ShowsAccounts instruction.accountNames accounts (shown (some instruction)) ↔
      (instruction.accountNames.take accounts.length).Nodup ∧ Fits)
    (hfits : accounts = [] → Fits) :
    HidesNoAccount idl selects position instruction.accountNames accounts
        (shown (idl.instructions.find? selects)) ↔
      NamesApart idl selects position instruction.accountNames accounts ∧ Fits := by
  rw [List.find?_eq_bind_findIdx?_getElem?]
  cases hfound : idl.instructions.findIdx? selects with
  | none =>
      rw [Option.bind_none, hnone]
      constructor
      · rintro ⟨-, hshows⟩
        obtain rfl := (showsAccounts_nil_iff _ _).1 hshows
        refine ⟨⟨fun other hother => ?_, fun hne => absurd rfl hne, List.nodup_nil⟩, hfits rfl⟩
        rw [hfound] at hother
        cases hother
      · rintro ⟨⟨hsame, hfinds, -⟩, -⟩
        refine ⟨hsame, (showsAccounts_nil_iff _ _).2 ?_⟩
        by_contra hne
        have hsome := hfinds hne
        rw [hfound] at hsome
        cases hsome
  | some other =>
      rw [Option.bind_some]
      constructor
      · rintro ⟨hsame, hshows⟩
        rw [hsame other hfound, hinstruction, hsome] at hshows
        exact ⟨⟨hsame, fun _ => by rw [hfound]; rfl, hshows.1⟩, hshows.2⟩
      · rintro ⟨⟨hsame, -, hdistinct⟩, hfitting⟩
        refine ⟨hsame, ?_⟩
        rw [hsame other hfound, hinstruction, hsome]
        exact ⟨hdistinct, hfitting⟩

end Selection

/-! ## The visualizers -/

/-- The fields of a preview when it is opened. -/
def expandedView (annotated : AnnotatedPayloadField) : List AnnotatedPayloadField :=
  annotated.signablePayloadField.children .expanded

section Visualizers

variable {idl : Idl} {position : ℕ} {instruction : IdlInstruction}

/-- The view of an unknown program hides no account exactly if its names come from
the instruction that is shown, are distinct, and are enough for the accounts. -/
theorem unknown_accounts_iff (data : Bytes) (accounts : List String)
    (hinstruction : idl.instructions[position]? = some instruction) :
    HidesNoAccount idl (UnknownProgram.isSelected data) position instruction.accountNames accounts
        (namedFields (nameAccounts (((idl.instructions.find? (UnknownProgram.isSelected data)).map
          IdlInstruction.accountNames).getD []) accounts)) ↔
      NamesApart idl (UnknownProgram.isSelected data) position instruction.accountNames accounts ∧
        accounts.length ≤ instruction.accountNames.length := by
  apply hidesNoAccount_iff (fun selected => namedFields (nameAccounts
    ((selected.map IdlInstruction.accountNames).getD []) accounts)) hinstruction
  · rfl
  · exact showsAccounts_named_iff _ _
  · rintro rfl
    exact Nat.zero_le _

theorem buildNamedAccounts_squads (data : Bytes) (idl : Idl) (accounts : List AccountMeta) :
    Squads.buildNamedAccounts data idl accounts =
      (idl.instructions.find? (Squads.isSelected data)).elim BTreeMap.empty fun instruction =>
        nameAccounts instruction.accountNames (accounts.map fun account => account.pubkey.text) := by
  rw [Squads.buildNamedAccounts]
  cases idl.instructions.find? (Squads.isSelected data) <;> rfl

theorem buildNamedAccounts_dflow (data : Bytes) (idl : Idl) (accounts : List String) :
    Dflow.buildNamedAccounts data idl accounts =
      (idl.instructions.find? (Squads.isSelected data)).elim (BTreeMap.empty, [])
        fun instruction => (nameAccounts instruction.accountNames accounts,
          accounts.drop instruction.accountNames.length) := by
  rw [Dflow.buildNamedAccounts]
  cases idl.instructions.find? (Squads.isSelected data) <;> rfl

/-- The view of Squads hides no account under the same condition, where the
discriminator selects the instruction that the names come from. -/
theorem squads_accounts_iff (data : Bytes) (accounts : List AccountMeta)
    (hinstruction : idl.instructions[position]? = some instruction) :
    HidesNoAccount idl (Squads.isSelected data) position instruction.accountNames
        (accounts.map fun account => account.pubkey.text)
        (namedFields (Squads.buildNamedAccounts data idl accounts)) ↔
      NamesApart idl (Squads.isSelected data) position instruction.accountNames
          (accounts.map fun account => account.pubkey.text) ∧
        accounts.length ≤ instruction.accountNames.length := by
  rw [buildNamedAccounts_squads]
  apply hidesNoAccount_iff (fun selected => namedFields (selected.elim BTreeMap.empty
    fun instruction => nameAccounts instruction.accountNames
      (accounts.map fun account => account.pubkey.text))) hinstruction
  · rfl
  · rw [← List.length_map (fun account : AccountMeta => account.pubkey.text)]
    exact showsAccounts_named_iff _ _
  · intro hnil
    rw [List.map_eq_nil_iff.1 hnil]
    exact Nat.zero_le _

/-- Accounts under a name, and the remaining ones. -/
def dflowAccountFields (named : BTreeMap String String × List String) :
    List AnnotatedPayloadField :=
  namedFields named.1 ++ remainingFields named.2

/-- The view of dflow lists the accounts behind the last name too, so it is enough
that the names come from the instruction that is shown and are distinct. -/
theorem dflow_accounts_iff (data : Bytes) (accounts : List String)
    (hinstruction : idl.instructions[position]? = some instruction) :
    HidesNoAccount idl (Squads.isSelected data) position instruction.accountNames accounts
        (dflowAccountFields (Dflow.buildNamedAccounts data idl accounts)) ↔
      NamesApart idl (Squads.isSelected data) position instruction.accountNames accounts := by
  have hiff : HidesNoAccount idl (Squads.isSelected data) position instruction.accountNames accounts
      (dflowAccountFields (Dflow.buildNamedAccounts data idl accounts)) ↔
      NamesApart idl (Squads.isSelected data) position instruction.accountNames accounts ∧ True := by
    rw [buildNamedAccounts_dflow]
    apply hidesNoAccount_iff (fun selected => dflowAccountFields (selected.elim (BTreeMap.empty, [])
      fun instruction => (nameAccounts instruction.accountNames accounts,
        accounts.drop instruction.accountNames.length))) hinstruction
    · rfl
    · rw [and_true]
      exact showsAccounts_remaining_iff _ _
    · exact fun _ => trivial
  rwa [and_true] at hiff

/-! ## Views -/

variable {decoder : IdlDecoder} {parsed : SolanaParsedInstructionData}

theorem tryParseWithIdl_of_parses {context : VisualizerContext} {programId : Pubkey}
    (hidl : UnknownProgram.getIdl decoder.parser context.idlRegistry programId.text = some idl)
    (hparses : decoder.Parses context.data programId.text idl position instruction parsed) :
    UnknownProgram.tryParseWithIdl decoder.parser context programId =
      some (parsed, nameAccounts
        (((idl.instructions.find? (UnknownProgram.isSelected context.data)).map
          IdlInstruction.accountNames).getD [])
        ((List.range context.numAccounts).map (UnknownProgram.resolveAccountStr context))) := by
  rw [UnknownProgram.tryParseWithIdl, hidl]
  change (decoder.parser.parseInstructionWithIdl context.data programId.text idl).bind _ = _
  rw [hparses.parser]
  rfl

/-- A program that has an IDL is shown with it. -/
theorem visualizeTxCommands_of_getIdl {crates : Crates} {parser : IdlParser}
    {context : VisualizerContext} {programId : Pubkey} (hprogram : context.programId = .resolved programId)
    (hidl : UnknownProgram.getIdl parser context.idlRegistry programId.text = some idl) :
    UnknownProgram.visualizeTxCommands crates parser context =
      UnknownProgram.tryIdlParsing crates parser context programId := by
  obtain ⟨config, hconfig, -⟩ := Option.bind_eq_some_iff.1 hidl
  have hhas : UnknownProgram.hasIdl crates context.idlRegistry programId = true := by
    rw [UnknownProgram.hasIdl, hconfig]
    rfl
  rw [UnknownProgram.visualizeTxCommands, hprogram]
  exact if_pos hhas

theorem parseSquadsInstruction_of_parses {crates : Squads.SquadsCrates} {data : Bytes}
    (accounts : List AccountMeta) (hlength : 8 ≤ data.length) (hidl : crates.idl = some idl)
    (hparses : decoder.Parses data Squads.squadsMultisigProgramId idl position instruction parsed) :
    Squads.parseSquadsInstruction crates decoder.parser data accounts =
      some (parsed, Squads.buildNamedAccounts data idl accounts) := by
  rw [Squads.parseSquadsInstruction, if_neg (not_lt.2 hlength), hidl]
  change (decoder.parser.parseInstructionWithIdl data Squads.squadsMultisigProgramId idl).bind _ = _
  rw [hparses.parser]
  rfl

theorem parseDflow_of_parses {data : Bytes} (accounts : List String) (hlength : 8 ≤ data.length)
    (hparses : decoder.Parses data Dflow.dflowAggregatorProgramId idl position instruction parsed) :
    Dflow.parseDflowAggregatorInstruction (some idl) decoder.parser data accounts =
      some ⟨parsed, (Dflow.buildNamedAccounts data idl accounts).1,
        (Dflow.buildNamedAccounts data idl accounts).2⟩ := by
  rw [Dflow.parseDflowAggregatorInstruction, if_neg (not_lt.2 hlength)]
  change (decoder.parser.parseInstructionWithIdl data Dflow.dflowAggregatorProgramId idl).bind _ = _
  rw [hparses.parser]
  rfl

/-- The expanded view of dflow lists the program, the instruction, the
discriminator, the named accounts and those that remain. -/
theorem expanded_buildParsedFields (shown : Dflow.DflowAggregatorParsedInstruction)
    (programId : String) :
    (Dflow.buildParsedFields shown programId).expanded =
      [createTextField "Program ID" programId,
        createTextField "Instruction" shown.parsed.instructionName,
        createTextField "Discriminator" shown.parsed.discriminator] ++
        dflowAccountFields (shown.namedAccounts, shown.extraAccounts) ++
        shown.parsed.programCallArgs.map fun arg =>
          createTextField arg.1 (Dflow.formatArgValue arg.2) := by
  rw [dflowAccountFields, ← List.append_assoc]
  rfl

end Visualizers

/-! ## Every account of an instruction -/

/-- An instruction that is decoded with an IDL shows every account of it exactly if the
names come from the instruction that is shown and are distinct, and, but for the
visualizer that counts the remaining accounts, if there is a name for every account. -/
theorem idl_accounts_shown_iff (decoder : IdlDecoder) :
    (∀ crates context programId idl position instruction parsed,
      context.programId = .resolved programId →
      UnknownProgram.getIdl decoder.parser context.idlRegistry programId.text = some idl →
      decoder.Parses context.data programId.text idl position instruction parsed →
      ∃ shown, expandedView (UnknownProgram.visualizeTxCommands crates decoder.parser context) =
            [createTextField "Program ID" programId.text,
              createTextField "Instruction Data" (Hex.encode context.data),
              createTextField "Instruction" parsed.instructionName,
              createTextField "Discriminator" parsed.discriminator] ++ shown ∧
        (HidesNoAccount idl (UnknownProgram.isSelected context.data) position
            instruction.accountNames ((List.range context.numAccounts).map
              (UnknownProgram.resolveAccountStr context)) shown ↔
          NamesApart idl (UnknownProgram.isSelected context.data) position
              instruction.accountNames ((List.range context.numAccounts).map
                (UnknownProgram.resolveAccountStr context)) ∧
            context.numAccounts ≤ instruction.accountNames.length)) ∧
    (∀ (crates : Squads.SquadsCrates) data accounts idl position instruction parsed,
      8 ≤ data.length → crates.idl = some idl →
      decoder.Parses data Squads.squadsMultisigProgramId idl position instruction parsed →
      ∃ named, Squads.parseSquadsInstruction crates decoder.parser data accounts =
          some (parsed, named) ∧
        (∀ programId, (Squads.buildGenericFields parsed named programId).expanded =
          [createTextField "Program ID" programId,
            createTextField "Instruction" parsed.instructionName,
            createTextField "Discriminator" parsed.discriminator] ++ namedFields named ++
            parsed.programCallArgs.map fun arg =>
              createTextField arg.1 (Squads.formatArgValue arg.2)) ∧
        (∀ programId vault innerFields,
          (Squads.vaultTransactionFields parsed named programId vault innerFields).expanded =
            [createTextField "Program ID" programId,
              createTextField "Instruction" "vaultTransactionCreate",
              createTextField "Discriminator" parsed.discriminator,
              createTextField "Vault Index" (toString vault.vaultIndex.toNat),
              createTextField "Memo" vault.memo] ++ namedFields named ++ innerFields) ∧
        (HidesNoAccount idl (Squads.isSelected data) position instruction.accountNames
            (accounts.map fun account => account.pubkey.text) (namedFields named) ↔
          NamesApart idl (Squads.isSelected data) position instruction.accountNames
              (accounts.map fun account => account.pubkey.text) ∧
            accounts.length ≤ instruction.accountNames.length)) ∧
    ∀ context idl position instruction parsed, 8 ≤ context.data.length →
      decoder.Parses context.data Dflow.dflowAggregatorProgramId idl position instruction parsed →
      ∃ shown, expandedView (Dflow.visualizeTxCommands (some idl) decoder.parser context) =
          [createTextField "Program ID" (InstructionView.fromContext context).programId,
            createTextField "Instruction" parsed.instructionName,
            createTextField "Discriminator" parsed.discriminator] ++ shown ++
            (parsed.programCallArgs.map fun arg =>
              createTextField arg.1 (Dflow.formatArgValue arg.2)) ++
            [createRawDataField context.data (some (Hex.encode context.data))] ∧
        (HidesNoAccount idl (Squads.isSelected context.data) position instruction.accountNames
            (InstructionView.fromContext context).accounts shown ↔
          NamesApart idl (Squads.isSelected context.data) position instruction.accountNames
            (InstructionView.fromContext context).accounts) := by
  refine ⟨?_, ?_, ?_⟩
  · intro crates context programId idl position instruction parsed hprogram hidl hparses
    have hiff := unknown_accounts_iff context.data ((List.range context.numAccounts).map
      (UnknownProgram.resolveAccountStr context)) hparses.instruction
    rw [List.length_map, List.length_range] at hiff
    refine ⟨_, ?_, hiff⟩
    rw [visualizeTxCommands_of_getIdl hprogram hidl, UnknownProgram.tryIdlParsing,
      tryParseWithIdl_of_parses hidl hparses]
    rfl
  · intro crates data accounts idl position instruction parsed hlength hidl hparses
    refine ⟨_, parseSquadsInstruction_of_parses accounts hlength hidl hparses, fun programId => rfl,
      fun programId vault innerFields => rfl, ?_⟩
    exact squads_accounts_iff data accounts hparses.instruction
  · intro context idl position instruction parsed hlength hparses
    refine ⟨dflowAccountFields (Dflow.buildNamedAccounts context.data idl
      (InstructionView.fromContext context).accounts), ?_, ?_⟩
    · rw [Dflow.visualizeTxCommands, Dflow.buildFields, parseDflow_of_parses _ hlength hparses]
      exact congrArg (· ++ [createRawDataField context.data (some (Hex.encode context.data))])
        (expanded_buildParsedFields _ _)
    · exact dflow_accounts_iff context.data _ hparses.instruction

def executeIdl : Idl :=
  ⟨"", [⟨some [194, 8, 161, 87, 153, 164, 25, 171],
    ["multisig", "proposal", "transaction", "member"]⟩]⟩

def executeDecoder : IdlDecoder where
  decodeIdlData _ := some executeIdl
  findInstruction data idl := idl.instructions.findIdx? (UnknownProgram.isSelected data)
  parseInstruction _ _ _ _ := some ⟨"vaultTransactionExecute", "c208a15799a419ab", []⟩

/-- Four accounts have the four names, and a fifth has none. -/
theorem idl_accounts_shown_iff_execute :
    ∃ named, Squads.parseSquadsInstruction ⟨some executeIdl, fun multisig _ => multisig⟩
        executeDecoder.parser [194, 8, 161, 87, 153, 164, 25, 171]
        (List.replicate 5 ⟨repeatedByte 7, false, true⟩) =
          some (⟨"vaultTransactionExecute", "c208a15799a419ab", []⟩, named) ∧
      ¬HidesNoAccount executeIdl (Squads.isSelected [194, 8, 161, 87, 153, 164, 25, 171]) 0
        ["multisig", "proposal", "transaction", "member"]
        (List.replicate 5 (Pubkey.text (repeatedByte 7))) (namedFields named) := by
  obtain ⟨named, hparsed, -, -, hiff⟩ := (idl_accounts_shown_iff executeDecoder).2.1
    ⟨some executeIdl, fun multisig _ => multisig⟩ [194, 8, 161, 87, 153, 164, 25, 171]
    (List.replicate 5 ⟨repeatedByte 7, false, true⟩) executeIdl 0
    ⟨some [194, 8, 161, 87, 153, 164, 25, 171], ["multisig", "proposal", "transaction", "member"]⟩
    ⟨"vaultTransactionExecute", "c208a15799a419ab", []⟩ (by decide) rfl ⟨rfl, rfl, rfl⟩
  exact ⟨named, hparsed, fun hhides => absurd (hiff.1 hhides).2 (by decide)⟩

/-- A vault transaction is executed over accounts that the IDL has no names for, and the
first of them is not shown. -/
theorem executed_account_hidden :
    (Squads.parseSquadsInstruction
      ⟨some ⟨"", [⟨some [194, 8, 161, 87, 153, 164, 25, 171],
        ["multisig", "proposal", "transaction", "member"]⟩]⟩, fun multisig _ => multisig⟩
      (IdlDecoder.parser ⟨fun _ => none,
        fun data idl => idl.instructions.findIdx? (UnknownProgram.isSelected data),
        fun _ _ _ _ => some ⟨"vaultTransactionExecute", "c208a15799a419ab", []⟩⟩)
      [194, 8, 161, 87, 153, 164, 25, 171]
      (List.replicate 5 ⟨⟨List.replicate 32 7, rfl⟩, false, true⟩)).map
        (fun found => (namedFields found.2).length) = some 4 ∧
    ¬∃ shown : List AnnotatedPayloadField, shown.length = 4 ∧
      HidesNoAccount ⟨"", [⟨some [194, 8, 161, 87, 153, 164, 25, 171],
          ["multisig", "proposal", "transaction", "member"]⟩]⟩
        (Squads.isSelected [194, 8, 161, 87, 153, 164, 25, 171]) 0
        ["multisig", "proposal", "transaction", "member"]
        (List.replicate 5 (Pubkey.text ⟨List.replicate 32 7, rfl⟩)) shown := by
  refine ⟨by rfl, ?_⟩
  rintro ⟨shown, hlength, -, hshows⟩
  rw [hshows.length, List.length_replicate] at hlength
  cases hlength

end VisualSignParser.Solana
