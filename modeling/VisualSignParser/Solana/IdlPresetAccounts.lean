import VisualSignParser.Solana.IdlPresets
import VisualSignParser.VisualSign.Shape

/-!
# Accounts in the visualizers of one program

A visualizer of the family shows every account exactly if it takes the names from
the instruction that is decoded, if there is a name for every account and, where
the accounts are collected by name, if the names are distinct.
-/

namespace VisualSignParser.Solana

open VisualSignParser.Framing
open VisualSignParser.OrderedMap
open VisualSignParser.Solana.Dflow (remainingFields)
open VisualSignParser.Solana.SplToken (InstructionView)
open VisualSignParser.VisualSign

/-! ## Lists of accounts -/

/-- The visualizer finds the instruction that the data is decoded by, or there is nothing
to name. -/
structure FindsInstruction (idl : Idl) (selects : IdlInstruction → Bool) (position : ℕ)
    (accounts : List String) : Prop where
  sameInstruction : ∀ other, idl.instructions.findIdx? selects = some other → other = position
  finds : accounts ≠ [] → (idl.instructions.findIdx? selects).isSome = true

/-- A list of accounts shows all of them exactly if they fit the names. -/
structure Complete (list : List (String × String) → List String → List AnnotatedPayloadField)
    (Fits : List String → List String → Prop) : Prop where
  shows_iff : ∀ names accounts, ShowsAccounts names accounts
    (list (names.zip accounts) (accounts.drop names.length)) ↔ Fits names accounts
  empty : list [] [] = []
  fits_nil : ∀ names, Fits names []

theorem accountFields_zip (names accounts : List String) :
    accountFields (names.zip accounts) = namedFields (nameAccounts names accounts) := by
  rw [namedFields, entries_nameAccounts, accountFields]

theorem complete_accountFields :
    Complete (fun named _ => accountFields named) fun names accounts =>
      (names.take accounts.length).Nodup ∧ accounts.length ≤ names.length where
  shows_iff names accounts := by
    rw [accountFields_zip, showsAccounts_named_iff]
  empty := rfl
  fits_nil _ := ⟨List.nodup_nil, Nat.zero_le _⟩

theorem complete_remaining :
    Complete (fun named remaining => accountFields named ++ remainingFields remaining)
      fun names accounts => (names.take accounts.length).Nodup where
  shows_iff names accounts := by
    rw [accountFields_zip, showsAccounts_remaining_iff]
  empty := rfl
  fits_nil _ := List.nodup_nil

theorem complete_inOrder :
    Complete (fun named _ => named.map namedField) fun names accounts =>
      accounts.length ≤ names.length where
  shows_iff names accounts := by
    constructor
    · intro hshown
      have hsame := hshown.length
      rw [List.length_map, List.length_zip] at hsame
      omega
    · intro hlength
      refine ⟨_, List.Perm.refl _, ?_⟩
      rw [List.drop_eq_nil_of_le hlength]
      exact (List.append_nil _).symm
  empty := rfl
  fits_nil _ := Nat.zero_le _

/-- How a visualizer lists the accounts: by name, in the order of the instruction, or by
name with the ones behind the last name. -/
inductive AccountStyle where
  | byName
  | inOrder
  | withRemaining
  deriving DecidableEq

namespace AccountStyle

def fields : AccountStyle → List (String × String) → List String → List AnnotatedPayloadField
  | byName => fun named _ => accountFields named
  | inOrder => fun named _ => named.map namedField
  | withRemaining => fun named remaining => accountFields named ++ remainingFields remaining

def Fits : AccountStyle → List String → List String → Prop
  | byName => fun names accounts =>
      (names.take accounts.length).Nodup ∧ accounts.length ≤ names.length
  | inOrder => fun names accounts => accounts.length ≤ names.length
  | withRemaining => fun names accounts => (names.take accounts.length).Nodup

theorem complete : (style : AccountStyle) → Complete style.fields style.Fits
  | byName => complete_accountFields
  | inOrder => complete_inOrder
  | withRemaining => complete_remaining

end AccountStyle

/-- A complete list hides no account exactly if the visualizer finds the instruction. -/
theorem Complete.hidesNoAccount_iff
    {list : List (String × String) → List String → List AnnotatedPayloadField}
    {Fits : List String → List String → Prop} (hcomplete : Complete list Fits)
    (preset : IdlPreset) {data : Bytes} {idl : Idl} {position : ℕ} {instruction : IdlInstruction}
    {accounts : List String} (hinstruction : idl.instructions[position]? = some instruction) :
    HidesNoAccount idl (preset.selects data) position instruction.accountNames accounts
        (list (preset.buildNamedAccounts data idl accounts).1
          (preset.buildNamedAccounts data idl accounts).2) ↔
      FindsInstruction idl (preset.selects data) position accounts ∧
        Fits instruction.accountNames accounts := by
  rw [IdlPreset.buildNamedAccounts, List.find?_eq_bind_findIdx?_getElem?]
  cases hfound : idl.instructions.findIdx? (preset.selects data) with
  | none =>
      simp only [Option.bind_none, hcomplete.empty]
      constructor
      · rintro ⟨hsame, hshows⟩
        obtain rfl := (showsAccounts_nil_iff _ _).1 hshows
        exact ⟨⟨hsame, fun hne => absurd rfl hne⟩, hcomplete.fits_nil _⟩
      · rintro ⟨⟨hsame, hfinds⟩, -⟩
        refine ⟨hsame, (showsAccounts_nil_iff _ _).2 ?_⟩
        by_contra hne
        have hsome := hfinds hne
        rw [hfound] at hsome
        cases hsome
  | some other =>
      simp only [Option.bind_some]
      constructor
      · rintro ⟨hsame, hshows⟩
        obtain rfl := hsame other hfound
        rw [hinstruction] at hshows
        exact ⟨⟨hsame, fun _ => by rw [hfound]; rfl⟩, (hcomplete.shows_iff _ _).1 hshows⟩
      · rintro ⟨⟨hsame, -⟩, hfits⟩
        obtain rfl := hsame other hfound
        refine ⟨hsame, ?_⟩
        rw [hinstruction]
        exact (hcomplete.shows_iff _ _).2 hfits

/-! ## The visualizers -/

/-- The visualizers that label every account with its name. -/
def idlPresets : List (IdlPreset × AccountStyle) :=
  [(kaminoBorrow, .byName), (jupiterEarn, .byName), (jupiterBorrow, .byName),
    (jupiterPerps, .byName), (exponentFinance, .byName), (kaminoVault, .byName),
    (kaminoFarms, .byName), (kaminoLimit, .byName), (meteoraDammV2, .byName),
    (neutralTrade, .byName), (metadaoFutarchy, .byName), (metadaoConditionalVault, .byName),
    (onreApp, .inOrder), (meteoraDlmm, .inOrder), (marginfi, .withRemaining)]

theorem accounts_of_mem : ∀ entry ∈ idlPresets, ∀ instruction : Parsed,
    entry.1.accounts instruction = entry.2.fields instruction.named instruction.remaining := by
  simp only [idlPresets, List.forall_mem_cons, List.not_mem_nil, false_imp_iff, implies_true,
    and_true]
  exact ⟨fun _ => rfl, fun _ => rfl, fun _ => rfl, fun _ => rfl, fun _ => rfl, fun _ => rfl,
    fun _ => rfl, fun _ => rfl, fun _ => rfl, fun _ => rfl, fun _ => rfl, fun _ => rfl,
    fun _ => rfl, fun _ => rfl, fun _ => rfl⟩

namespace IdlPreset

/-- A decoded instruction with its accounts. -/
def instructionOf (preset : IdlPreset) (data : Bytes) (idl : Idl) (accounts : List String)
    (parsed : SolanaParsedInstructionData) : Parsed :=
  ⟨parsed, (preset.buildNamedAccounts data idl accounts).1,
    (preset.buildNamedAccounts data idl accounts).2⟩

variable {preset : IdlPreset} {crate : IdlCrate} {decoder : IdlDecoder} {idl : Idl} {position : ℕ}
  {instruction : IdlInstruction} {parsed : SolanaParsedInstructionData}

theorem parseInstruction_of_parses {data : Bytes} (accounts : List String)
    (hidl : crate.bundled = .ok idl) (hparser : crate.parser = decoder.parser)
    (hlength : preset.minimumLength ≤ data.length)
    (hparses : decoder.Parses data preset.programId idl position instruction parsed) :
    preset.parseInstruction crate data accounts =
      .ok (preset.instructionOf data idl accounts parsed) := by
  rw [parseInstruction, if_neg (not_lt.2 hlength), hidl, hparser]
  dsimp only
  rw [hparses.parser]
  rfl

/-- A decoded instruction is shown with a head, its accounts, its arguments and its data. -/
theorem visualizeTxCommands_of_parses {context : VisualizerContext}
    (hidl : crate.bundled = .ok idl) (hparser : crate.parser = decoder.parser)
    (hlength : preset.minimumLength ≤ context.data.length)
    (hparses : decoder.Parses context.data preset.programId idl position instruction parsed) :
    ∃ field, preset.visualizeTxCommands crate context = .ok field ∧
      expandedView field =
        preset.head (InstructionView.fromContext context).programId parsed ++
          preset.accounts (preset.instructionOf context.data idl
            (InstructionView.fromContext context).accounts parsed) ++
          preset.args (preset.instructionOf context.data idl
            (InstructionView.fromContext context).accounts parsed) ++
          [createRawDataField context.data (preset.rawText context.data)] := by
  let view := InstructionView.fromContext context
  refine ⟨preset.instructionField context view.programId (preset.parsedFields view.programId
    (preset.instructionOf context.data idl view.accounts parsed)), ?_, rfl⟩
  rw [visualizeTxCommands, buildFields, parseInstruction_of_parses _ hidl hparser hlength hparses]
  rfl

end IdlPreset

/-- A visualizer that decodes an instruction with its IDL shows every account of it
exactly if it takes the names from the instruction that is decoded and the accounts fit
the names: there is one for every account, or the accounts behind the last name are
shown too, and the names are distinct, or the accounts are not collected by name. -/
theorem preset_accounts_shown_iff (decoder : IdlDecoder) (crate : IdlCrate)
    (entry : IdlPreset × AccountStyle) (context : VisualizerContext) (idl : Idl) (position : ℕ)
    (instruction : IdlInstruction) (parsed : SolanaParsedInstructionData)
    (hpreset : entry ∈ idlPresets) (hidl : crate.bundled = .ok idl)
    (hparser : crate.parser = decoder.parser)
    (hlength : entry.1.minimumLength ≤ context.data.length)
    (hparses : decoder.Parses context.data entry.1.programId idl position instruction parsed) :
    ∃ field shown, entry.1.visualizeTxCommands crate context = .ok field ∧
      expandedView field =
        entry.1.head (InstructionView.fromContext context).programId parsed ++ shown ++
          entry.1.args (entry.1.instructionOf context.data idl
            (InstructionView.fromContext context).accounts parsed) ++
          [createRawDataField context.data (entry.1.rawText context.data)] ∧
      (HidesNoAccount idl (entry.1.selects context.data) position instruction.accountNames
          (InstructionView.fromContext context).accounts shown ↔
        FindsInstruction idl (entry.1.selects context.data) position
            (InstructionView.fromContext context).accounts ∧
          entry.2.Fits instruction.accountNames (InstructionView.fromContext context).accounts) := by
  obtain ⟨field, hfield, hview⟩ :=
    IdlPreset.visualizeTxCommands_of_parses hidl hparser hlength hparses
  rw [accounts_of_mem entry hpreset] at hview
  exact ⟨field, _, hfield, hview,
    entry.2.complete.hidesNoAccount_iff entry.1 hparses.instruction⟩

/-! ## Labels -/

def fieldLabel (field : AnnotatedPayloadField) : String := field.signablePayloadField.common.label

/-- The labels of the accounts and of the arguments. -/
def IdlPreset.labels (preset : IdlPreset) (instruction : Parsed) : List String :=
  (preset.accounts instruction ++ preset.args instruction).map fieldLabel

/-- A name, marked if it is used on the other side as well. -/
def markedName (mark : String) (others : List String) (name : String) : String :=
  if name ∈ others then mark ++ name else name

/-- A name without a blank is not one that was marked. -/
theorem ne_mark_append {mark name : String} (hblank : ' ' ∈ mark.toList) (hname : ' ' ∉ name.toList)
    (other : String) : name ≠ mark ++ other := by
  rintro rfl
  rw [String.toList_append] at hname
  exact hname (List.mem_append_left _ hblank)

theorem eq_of_markedName {mark left right : String} {others : List String}
    (hblank : ' ' ∈ mark.toList) (hleft : ' ' ∉ left.toList) (hright : ' ' ∉ right.toList)
    (hsame : markedName mark others left = markedName mark others right) : left = right := by
  unfold markedName at hsame
  split_ifs at hsame
  · exact (String.append_right_inj mark).1 hsame
  · exact absurd hsame.symm (ne_mark_append hblank hright left)
  · exact absurd hsame (ne_mark_append hblank hleft right)
  · exact hsame

/-- The marks keep an account and an argument of one name apart. -/
theorem markedName_ne (names : List String) {args : List String} {account arg : String}
    (harg : arg ∈ args) (hfirst : ' ' ∉ account.toList) (hsecond : ' ' ∉ arg.toList) :
    markedName "Current " args account ≠ markedName "New " names arg := by
  unfold markedName
  split_ifs with hshared hboth hboth
  · intro hsame
    have hhead := congrArg (fun text => text.toList.head?) hsame
    simp at hhead
  · exact (ne_mark_append (by decide) hsecond account).symm
  · exact ne_mark_append (by decide) hfirst arg
  · rintro rfl
    exact hshared harg

theorem drift_labels (instruction : Parsed) :
    drift.labels instruction =
      ((collectSorted instruction.named).map Prod.fst).map
          (markedName "Current " (instruction.parsed.programCallArgs.map Prod.fst)) ++
        (instruction.parsed.programCallArgs.map Prod.fst).map
          (markedName "New " (instruction.named.map Prod.fst)) := by
  simp only [IdlPreset.labels, drift, List.map_append, List.map_map]
  rfl

/-- Every list of arguments is labelled with their names, in some order. -/
theorem args_labels_perm : ∀ entry ∈ idlPresets, ∀ instruction : Parsed,
    ((entry.1.args instruction).map fieldLabel).Perm
      (instruction.parsed.programCallArgs.map Prod.fst) := by
  have hplain (instruction : Parsed) :
      ((argFields instruction.parsed.programCallArgs).map fieldLabel).Perm
        (instruction.parsed.programCallArgs.map Prod.fst) := by
    rw [argFields, List.map_map]
    exact List.Perm.refl _
  have hclean (instruction : Parsed) :
      ((cleanArgFields instruction.parsed.programCallArgs).map fieldLabel).Perm
        (instruction.parsed.programCallArgs.map Prod.fst) := by
    rw [cleanArgFields, List.map_map]
    exact List.Perm.refl _
  have hsorted (instruction : Parsed) :
      ((argFields (sortArgs instruction.parsed.programCallArgs)).map fieldLabel).Perm
        (instruction.parsed.programCallArgs.map Prod.fst) := by
    rw [argFields, List.map_map]
    exact (List.mergeSort_perm _ _).map Prod.fst
  simp only [idlPresets, List.forall_mem_cons, List.not_mem_nil, false_imp_iff, implies_true,
    and_true]
  exact ⟨hplain, hplain, hplain, hplain, hplain, hsorted, hsorted, hsorted, hplain, hplain, hplain,
    hplain, hplain, hplain, hclean⟩

/-- The labels of the accounts, when none stands behind the last name. -/
theorem account_labels {entry : IdlPreset × AccountStyle} (hentry : entry ∈ idlPresets)
    {instruction : Parsed}
    (hremaining : entry.2 = .withRemaining → instruction.remaining = []) :
    (entry.1.accounts instruction).map fieldLabel =
      if entry.2 = .inOrder then instruction.named.map Prod.fst
      else (collectSorted instruction.named).map Prod.fst := by
  have hsorted : (accountFields instruction.named).map fieldLabel =
      (collectSorted instruction.named).map Prod.fst := by
    rw [accountFields, List.map_map]
    rfl
  rw [accounts_of_mem entry hentry]
  cases hstyle : entry.2 with
  | byName => exact hsorted
  | inOrder =>
      rw [if_pos rfl, AccountStyle.fields, List.map_map]
      rfl
  | withRemaining =>
      rw [AccountStyle.fields, hremaining hstyle, List.map_append, hsorted]
      exact List.append_nil _

/-- Drift never gives one label to two accounts or arguments, when no name has a
blank.  Each of the other visualizers does so exactly if an account and an argument
have one name, or if it lists the accounts in order and two of them do. -/
theorem drift_labels_apart (instruction : Parsed)
    (hargs : (instruction.parsed.programCallArgs.map Prod.fst).Nodup) :
    ((∀ name ∈ instruction.named.map Prod.fst ++ instruction.parsed.programCallArgs.map Prod.fst,
        ' ' ∉ name.toList) → (drift.labels instruction).Nodup) ∧
      ∀ entry ∈ idlPresets, (entry.2 = .withRemaining → instruction.remaining = []) →
        ((entry.1.labels instruction).Nodup ↔
          (entry.2 = .inOrder → (instruction.named.map Prod.fst).Nodup) ∧
            (instruction.named.map Prod.fst).Disjoint
              (instruction.parsed.programCallArgs.map Prod.fst)) := by
  have hdistinct := nodup_keys_collectSorted instruction.named
  constructor
  · intro hblank
    rw [drift_labels]
    have hnames : ∀ name ∈ (collectSorted instruction.named).map Prod.fst, ' ' ∉ name.toList :=
      fun name hname => hblank name (List.mem_append_left _ (mem_keys_collectSorted.1 hname))
    have hargNames : ∀ name ∈ instruction.parsed.programCallArgs.map Prod.fst,
        ' ' ∉ name.toList :=
      fun name hname => hblank name (List.mem_append_right _ hname)
    refine List.nodup_append.2 ⟨?_, ?_, ?_⟩
    · exact hdistinct.map_on fun left hleft right hright hsame =>
        eq_of_markedName (by decide) (hnames left hleft) (hnames right hright) hsame
    · exact hargs.map_on fun left hleft right hright hsame =>
        eq_of_markedName (by decide) (hargNames left hleft) (hargNames right hright) hsame
    · intro label hlabel other hother
      obtain ⟨account, haccount, rfl⟩ := List.mem_map.1 hlabel
      obtain ⟨arg, harg, rfl⟩ := List.mem_map.1 hother
      exact markedName_ne _ harg (hnames account haccount) (hargNames arg harg)
  · intro entry hentry hremaining
    have hlabels := (args_labels_perm entry hentry instruction).append_left
      ((entry.1.accounts instruction).map fieldLabel)
    rw [IdlPreset.labels, List.map_append, hlabels.nodup_iff, List.nodup_append',
      account_labels hentry hremaining]
    split_ifs with hstyle
    · simp [hstyle, hargs]
    · have hkeys (other : List String) :
          ((collectSorted instruction.named).map Prod.fst).Disjoint other ↔
            (instruction.named.map Prod.fst).Disjoint other := by
        simp only [List.Disjoint, mem_keys_collectSorted]
      simp [hstyle, hargs, hdistinct, hkeys]

/-- An account and an argument are both called `authority`. -/
def authorityInstruction : Parsed where
  parsed := ⟨"updateAuthority", "", [("authority", .string "B")]⟩
  named := [("state", "S"), ("authority", "A")]
  remaining := []

theorem drift_labels_apart_authority :
    (drift.labels authorityInstruction).Nodup ∧
      ∀ entry ∈ idlPresets, ¬(entry.1.labels authorityInstruction).Nodup := by
  have hlabels := drift_labels_apart authorityInstruction (by decide)
  refine ⟨hlabels.1 (by decide), fun entry hentry hnodup => ?_⟩
  have hdisjoint := ((hlabels.2 entry hentry fun _ => rfl).1 hnodup).2
  exact hdisjoint (a := "authority") (by decide) (by decide)

/-! ## Three accounts and two names -/

def reserveIdl : Idl := ⟨"", [⟨some [1, 2, 3, 4, 5, 6, 7, 8], ["owner", "reserve"]⟩]⟩

def reserveDecoder : IdlDecoder where
  decodeIdlData _ := some reserveIdl
  findInstruction data idl := idl.instructions.findIdx? (UnknownProgram.isSelected data)
  parseInstruction _ _ _ _ := some ⟨"refreshReserve", "0102030405060708", []⟩

def reserveContext : VisualizerContext where
  sender := ⟨"", true, true⟩
  compiledInstruction := ⟨0, [0, 1, 0], [1, 2, 3, 4, 5, 6, 7, 8]⟩
  accountKeys := [repeatedByte 1, repeatedByte 2]
  idlRegistry := ⟨BTreeMap.empty, BTreeMap.empty, BTreeMap.empty⟩
  instructionIndex := 0
  callDepth := 0

/-- The third account of a call to Kamino is not shown. -/
theorem reserve_account_hidden :
    ∃ field shown, kaminoBorrow.visualizeTxCommands
        ⟨.ok reserveIdl, reserveDecoder.parser, fun _ _ _ => ""⟩ reserveContext = .ok field ∧
      expandedView field = kaminoBorrow.head
          (InstructionView.fromContext reserveContext).programId
          ⟨"refreshReserve", "0102030405060708", []⟩ ++ shown ++ [] ++
          [createRawDataField reserveContext.data (some (Hex.encode reserveContext.data))] ∧
      ¬HidesNoAccount reserveIdl (kaminoBorrow.selects reserveContext.data) 0 ["owner", "reserve"]
        (InstructionView.fromContext reserveContext).accounts shown := by
  obtain ⟨field, shown, hfield, hview, hiff⟩ := preset_accounts_shown_iff reserveDecoder
    ⟨.ok reserveIdl, reserveDecoder.parser, fun _ _ _ => ""⟩ (kaminoBorrow, .byName) reserveContext
    reserveIdl 0 ⟨some [1, 2, 3, 4, 5, 6, 7, 8], ["owner", "reserve"]⟩
    ⟨"refreshReserve", "0102030405060708", []⟩ (List.mem_cons_self ..) rfl rfl (by decide)
    ⟨rfl, rfl, rfl⟩
  refine ⟨field, shown, hfield, hview, fun hhides => ?_⟩
  have hfits := (hiff.1 hhides).2.2
  exact absurd hfits (by decide)

end VisualSignParser.Solana
