import VisualSignParser.Codec.Pointwise
import VisualSignParser.Solana.Dispatch
import VisualSignParser.Solana.IdlPresets
import VisualSignParser.Solana.Instructions
import VisualSignParser.Solana.Token2022

/-!
# What the fields of a transaction determine

Each visualizer puts the place, the program and the data of its instruction into the
field: nearly all of them into the frame, the extended token program into its last
rows.  So the fields of a transaction determine its instructions up to their
accounts, whatever IDLs came with the requests.
-/

namespace VisualSignParser.Solana

open VisualSignParser.Framing
open VisualSignParser.Outcome
open VisualSignParser.Solana.SplToken (InstructionView)
open VisualSignParser.Solana.UnknownProgram (fallbackText resolveProgramIdStr)
open VisualSignParser.VisualSign

/-! ## One field -/

/-- The rows of the extended token program end with the program and the data. -/
def EndsWith (index : ℕ) (programId : String) (data : Bytes) (field : AnnotatedPayloadField) :
    Prop :=
  ∃ title condensed rows, field = previewField ("Instruction " ++ toString (index + 1))
    ("Token 2022: " ++ title ++ "\nProgram ID: " ++ programId) title "" condensed
    (rows ++ [createTextField "Program ID" programId, createRawDataField data none])

/-- What a field says about its instruction: the place, the program and the data. -/
abbrev Shown := ℕ × String × Bytes

def shownOf (context : VisualizerContext) : Shown :=
  (context.instructionIndex, resolveProgramIdStr context, context.data)

/-- A text of a program has no line break, so that it can be read back. -/
def Shows (shown : Shown) (field : AnnotatedPayloadField) : Prop :=
  '\n' ∉ shown.2.1.toList ∧
    (Carries shown.1 shown.2.1 shown.2.2 field ∨ EndsWith shown.1 shown.2.1 shown.2.2 field)

/-- The end of a field determines the place, the program and the data of the
instruction it shows. -/
theorem EndsWith.unique {index otherIndex : ℕ} {programId otherProgram : String}
    {data otherData : Bytes} {field : AnnotatedPayloadField}
    (hleft : EndsWith index programId data field)
    (hright : EndsWith otherIndex otherProgram otherData field) :
    index = otherIndex ∧ programId = otherProgram ∧ data = otherData := by
  obtain ⟨_, _, _, rfl⟩ := hleft
  obtain ⟨_, _, _, hsame⟩ := hright
  simp only [previewField, annotateField, AnnotatedPayloadField.mk.injEq,
    SignablePayloadField.previewLayout.injEq, SignablePayloadFieldPreviewLayout.mk.injEq,
    SignablePayloadFieldCommon.mk.injEq, Option.some.injEq,
    SignablePayloadFieldListLayout.mk.injEq] at hsame
  obtain ⟨⟨⟨-, hlabel⟩, -, -, -, hexpanded⟩, -, -⟩ := hsame
  have hlast := (List.append_inj' hexpanded rfl).2
  simp only [List.cons.injEq, createRawDataField, createTextField, annotateField,
    AnnotatedPayloadField.mk.injEq, SignablePayloadField.textV2.injEq,
    SignablePayloadFieldTextV2.mk.injEq, Option.getD_none] at hlast
  have hindex := Decimal.toString_injective ((String.append_right_inj _).1 hlabel)
  exact ⟨Nat.succ_injective hindex, hlast.1.1.2, Hex.encode_injective hlast.2.1.1.2⟩

/-- The two kinds of fallback texts begin differently. -/
theorem Carries.not_endsWith {index otherIndex : ℕ} {programId otherProgram : String}
    {data otherData : Bytes} {field : AnnotatedPayloadField}
    (hleft : Carries index programId data field) :
    ¬EndsWith otherIndex otherProgram otherData field := by
  obtain ⟨_, _, _, _, rfl⟩ := hleft
  rintro ⟨_, _, _, hsame⟩
  simp only [previewField, annotateField, AnnotatedPayloadField.mk.injEq,
    SignablePayloadField.previewLayout.injEq, SignablePayloadFieldCommon.mk.injEq] at hsame
  have hfirst := congrArg (fun text => text.toList.head?) hsame.1.1.1
  simp [fallbackText] at hfirst

/-- A field shows one instruction only, whichever visualizer made it, so displays
can be compared with instructions. -/
theorem Shows.unique (left right : Shown) (field : AnnotatedPayloadField)
    (hleft : Shows left field) (hright : Shows right field) : left = right := by
  obtain ⟨hleftProgram, hleft⟩ := hleft
  obtain ⟨hrightProgram, hright⟩ := hright
  have hparts : left.1 = right.1 ∧ left.2.1 = right.2.1 ∧ left.2.2 = right.2.2 := by
    rcases hleft with hleft | hleft <;> rcases hright with hright | hright
    · exact hleft.unique hleftProgram hrightProgram hright
    · exact absurd hright hleft.not_endsWith
    · exact absurd hleft hright.not_endsWith
    · exact hleft.unique hright
  exact Prod.ext hparts.1 (Prod.ext hparts.2.1 hparts.2.2)

/-! ## Every visualizer -/

/-- What a visualizer returns shows the instruction that it was called for.  The limit
of the nesting is the one place where a field says nothing about the data. -/
def Identifies (visualize : VisualizerContext → Except VisualSignError AnnotatedPayloadField) :
    Prop :=
  ∀ context field, context.callDepth < maxCallDepth → visualize context = .ok field →
    Shows (shownOf context) field

theorem shows_of_carries {context : VisualizerContext} {field : AnnotatedPayloadField}
    (hcarries : Carries context.instructionIndex (resolveProgramIdStr context) context.data field) :
    Shows (shownOf context) field :=
  ⟨newline_notMem_resolveProgramIdStr context, .inl hcarries⟩

theorem resolveProgramIdStr_of_resolveProgramId {context : VisualizerContext} {program : Pubkey}
    (hprogram : context.resolveProgramId = .ok program) :
    resolveProgramIdStr context = program.text := by
  rw [VisualizerContext.resolveProgramId] at hprogram
  rw [resolveProgramIdStr]
  cases hid : context.programId with
  | resolved pubkey =>
      rw [hid] at hprogram
      rw [Except.ok.inj hprogram]
  | unresolved rawIndex =>
      rw [hid] at hprogram
      cases hprogram

/-- The visualizer of a program with a bundled IDL shows place, program and data of
every instruction, decoded or not. -/
theorem identifies_idlPreset (preset : IdlPreset) (crate : IdlCrate) :
    Identifies (preset.visualizeTxCommands crate) := by
  intro context field _ hfield
  obtain ⟨fields, -, rfl⟩ := map_eq_ok.1 hfield
  exact shows_of_carries ⟨_, _, _, _, rfl⟩

theorem identifies_drift (crate : IdlCrate) : Identifies (visualizeDrift crate) := by
  intro context field hdepth hfield
  obtain ⟨_, _, hfield⟩ := bind_eq_ok.1 hfield
  obtain ⟨_, _, hfield⟩ := bind_eq_ok.1 hfield
  exact identifies_idlPreset drift crate context field hdepth hfield

theorem identifies_orca (crate : IdlCrate) (named : Bytes → List (String × String)) :
    Identifies (visualizeOrca crate named) := by
  intro context field _ hfield
  unfold visualizeOrca at hfield
  dsimp only at hfield
  cases hparsed : orcaWhirlpool.parseInstruction crate context.data
      (InstructionView.fromContext context).accounts with
  | ok instruction =>
      rw [hparsed] at hfield
      rw [← Except.ok.inj hfield]
      exact shows_of_carries ⟨_, _, _, _, rfl⟩
  | error failure =>
      rw [hparsed] at hfield
      obtain ⟨fields, -, rfl⟩ := map_eq_ok.1 hfield
      exact shows_of_carries ⟨_, _, _, _, rfl⟩

/-- The visualizers of the native programs show place, program and data of every
instruction they accept. -/
theorem identifies_native (crates : NativeCrates) (program : NativeProgram) :
    Identifies (visualizeNative crates program) := by
  intro context field _ hfield
  rw [visualizeNative_eq] at hfield
  obtain ⟨fields, -, rfl⟩ := map_eq_ok.1 hfield
  exact shows_of_carries ⟨_, _, _, _, rfl⟩

theorem identifies_token2022 (unpack : Bytes → Option Token2022.TokenInstruction) :
    Identifies (Token2022.visualizeTxCommands unpack) := by
  intro context field _ hfield
  obtain ⟨_, _, _, _, _, _, hfield⟩ := Token2022.visualizeTxCommands_eq_ok.1 hfield
  rw [Token2022.createPreviewLayout_eq] at hfield
  rw [← Except.ok.inj hfield]
  exact ⟨newline_notMem_resolveProgramIdStr context, .inr ⟨_, _, _, rfl⟩⟩

theorem identifies_splToken (unpack : Bytes → Option SplToken.TokenInstruction) :
    Identifies fun context => .ok (SplToken.visualizeTxCommands unpack context) := by
  intro context field _ hfield
  rw [← Except.ok.inj hfield, SplToken.visualizeTxCommands]
  cases unpack context.data with
  | none => exact shows_of_carries ⟨_, _, _, _, rfl⟩
  | some instruction =>
      dsimp only
      rw [SplToken.createTokenPreviewLayout]
      cases SplToken.tokenLayout instruction <;> exact shows_of_carries ⟨_, _, _, _, rfl⟩

theorem identifies_dflow (bundled : Option Idl) (parser : IdlParser) :
    Identifies fun context => .ok (Dflow.visualizeTxCommands bundled parser context) := by
  intro context field _ hfield
  rw [← Except.ok.inj hfield]
  exact shows_of_carries ⟨_, _, _, _, rfl⟩

theorem identifies_jupiterSwap (parser : IdlParser) (jupiterIdlJson : String) :
    Identifies (Jupiter.visualizeTxCommands parser jupiterIdlJson) := by
  intro context field _ hfield
  obtain ⟨instruction, -, hfield⟩ := bind_eq_ok.1 hfield
  obtain ⟨expanded, -, hfield⟩ := bind_eq_ok.1 hfield
  rw [← pure_eq_ok.1 hfield]
  exact shows_of_carries ⟨_, _, _, _, rfl⟩

/-- The visualizer of last resort shows place, program and data, with an IDL of the
caller or without one. -/
theorem identifies_unknownProgram (crates : Crates) (parser : IdlParser) :
    Identifies fun context => .ok (UnknownProgram.visualizeTxCommands crates parser context) := by
  intro context field _ hfield
  rw [← Except.ok.inj hfield, UnknownProgram.visualizeTxCommands]
  cases hid : context.programId with
  | unresolved rawIndex => exact shows_of_carries ⟨_, _, _, _, rfl⟩
  | resolved programId =>
      dsimp only
      by_cases hidl : UnknownProgram.hasIdl crates context.idlRegistry programId
      · have htext : resolveProgramIdStr context = programId.text := by
          rw [resolveProgramIdStr, hid]
        rw [if_pos hidl]
        refine shows_of_carries ?_
        rw [htext]
        exact ⟨_, _, _, _, rfl⟩
      · rw [if_neg hidl]
        exact shows_of_carries ⟨_, _, _, _, rfl⟩

section Wrappers

variable (visualizeAny : VisualizerContext → Option (Except VisualSignError VisualizeResult))
  (unknownProgram : VisualizerContext → AnnotatedPayloadField)

/-- The visualizer of Squads shows place, program and data, whatever it shows of the
instructions inside. -/
theorem identifies_squads (crates : Squads.SquadsCrates) (parser : IdlParser) :
    Identifies (Squads.visualizeTxCommands (m := Id) crates parser visualizeAny unknownProgram) := by
  intro context field _ hfield
  unfold Squads.visualizeTxCommands at hfield
  cases hresolved : Squads.resolveAll context with
  | error error =>
      rw [hresolved] at hfield
      cases hfield
  | ok resolved =>
      obtain ⟨program, accounts⟩ := resolved
      obtain ⟨_, hprogram, hrest⟩ := bind_eq_ok.1 hresolved
      obtain ⟨_, _, hpair⟩ := bind_eq_ok.1 hrest
      rw [(Prod.mk.inj (pure_eq_ok.1 hpair)).1] at hprogram
      rw [hresolved] at hfield
      rw [← Except.ok.inj hfield]
      refine shows_of_carries ?_
      rw [resolveProgramIdStr_of_resolveProgramId hprogram]
      exact ⟨_, _, _, _, rfl⟩

/-- A panic ends the run with nothing shown. -/
theorem identifies_swig (crates : Swig.NativeCrates) (display : Swig.SwigDisplay)
    (panicked : VisualSignError) :
    Identifies (Swig.visualizeTxCommands (m := Id) crates display visualizeAny
      (.error panicked)) := by
  intro context field hdepth hfield
  unfold Swig.visualizeTxCommands at hfield
  rw [if_neg (Nat.not_le.2 hdepth)] at hfield
  cases hresolved : (List.range context.numAccounts).mapM (Swig.resolveSwigAccount context) with
  | error error =>
      rw [hresolved] at hfield
      cases hfield
  | ok accounts =>
      rw [hresolved] at hfield
      change Swig.showDecoded (m := Id) (.error panicked) context
        (Swig.parseSwigInstruction (m := Id) crates display visualizeAny context.data accounts
          context.callDepth).run = .ok field at hfield
      cases hdecoded : (Swig.parseSwigInstruction (m := Id) crates display visualizeAny context.data
          accounts context.callDepth).run with
      | ok decoded =>
          rw [hdecoded] at hfield
          obtain ⟨fields, -, rfl⟩ := map_eq_ok.1 hfield
          exact shows_of_carries ⟨_, _, _, _, rfl⟩
      | error fault =>
          rw [hdecoded] at hfield
          cases fault <;> cases hfield

end Wrappers

/-! ## The visualizers of the build -/

/-- What the visualizers call in other crates, and what shows the wrapped instructions. -/
structure VisualizerCrates where
  idl : String → IdlCrate
  orcaNamed : Bytes → List (String × String)
  native : NativeCrates
  token : Bytes → Option SplToken.TokenInstruction
  token2022 : Bytes → Option Token2022.TokenInstruction
  registry : Crates
  parser : IdlParser
  jupiterIdlJson : String
  dflow : Option Idl
  squads : Squads.SquadsCrates
  swigNative : Swig.NativeCrates
  swig : Swig.SwigDisplay
  visualizeAny : VisualizerContext → Option (Except VisualSignError VisualizeResult)
  panicked : VisualSignError

namespace VisualizerCrates

variable (crates : VisualizerCrates)

def unknownProgram : Behaviour Id where
  visualizeTxCommands context :=
    .ok (UnknownProgram.visualizeTxCommands crates.registry crates.parser context)
  kind := .payments "UnknownProgram"

/-- The presets that only differ in their values, by directory. -/
def idlPresets : List (String × IdlPreset × VisualizerKind) :=
  [("exponent_finance", exponentFinance, .dex "Exponent Finance"),
    ("jupiter_borrow", jupiterBorrow, .lending "Jupiter Borrow"),
    ("jupiter_earn", jupiterEarn, .lending "Jupiter Earn"),
    ("jupiter_perps", jupiterPerps, .dex "Jupiter Perpetuals"),
    ("kamino_borrow", kaminoBorrow, .lending "Kamino Borrow"),
    ("kamino_farms", kaminoFarms, .lending "Kamino Farms"),
    ("kamino_limit", kaminoLimit, .dex "Kamino Limit Orders"),
    ("kamino_vault", kaminoVault, .lending "Kamino Vault"),
    ("marginfi", marginfi, .lending "Marginfi"),
    ("metadao_conditional_vault", metadaoConditionalVault, .dex "MetaDAO Conditional Vault"),
    ("metadao_futarchy", metadaoFutarchy, .dex "MetaDAO Futarchy"),
    ("meteora_damm_v2", meteoraDammV2, .dex "Meteora DAMM V2"),
    ("meteora_dlmm", meteoraDlmm, .dex "Meteora DLMM"),
    ("neutral_trade", neutralTrade, .lending "Neutral Trade"),
    ("onre_app", onreApp, .dex "Onre App")]

def ofPreset (entry : String × IdlPreset × VisualizerKind) : String × Behaviour Id :=
  (entry.1, ⟨entry.2.1.visualizeTxCommands (crates.idl entry.1), entry.2.2⟩)

def otherBehaviours : List (String × Behaviour Id) :=
  [("associated_token_account",
      ⟨visualizeNative crates.native .associatedTokenAccount, .payments "AssociatedTokenAccount"⟩),
    ("compute_budget", ⟨visualizeNative crates.native .computeBudget, .payments "ComputeBudget"⟩),
    ("stakepool", ⟨visualizeNative crates.native .stakepool, .stakingPools "StakePool"⟩),
    ("system", ⟨visualizeNative crates.native .system, .payments "System"⟩),
    ("dflow_aggregator",
      ⟨fun context => .ok (Dflow.visualizeTxCommands crates.dflow crates.parser context),
        .dex "DFlow Aggregator"⟩),
    ("drift", ⟨visualizeDrift (crates.idl "drift"), .dex "Drift"⟩),
    ("jupiter_swap",
      ⟨Jupiter.visualizeTxCommands crates.parser crates.jupiterIdlJson, .dex "Jupiter"⟩),
    ("orca_whirlpool",
      ⟨visualizeOrca (crates.idl "orca_whirlpool") crates.orcaNamed, .dex "Orca Whirlpool"⟩),
    ("spl_token",
      ⟨fun context => .ok (SplToken.visualizeTxCommands crates.token context),
        .payments "SplToken"⟩),
    ("token_2022", ⟨Token2022.visualizeTxCommands crates.token2022, .payments "Token2022"⟩),
    ("squads_multisig",
      ⟨Squads.visualizeTxCommands (m := Id) crates.squads crates.parser crates.visualizeAny
        (UnknownProgram.visualizeTxCommands crates.registry crates.parser),
        .payments "SquadsMultisig"⟩),
    ("swig_wallet",
      ⟨Swig.visualizeTxCommands (m := Id) crates.swigNative crates.swig crates.visualizeAny
        (.error crates.panicked), .payments "Swig Wallet"⟩)]

/-- What the visualizer of a directory does. -/
def behaviour (directory : String) : Behaviour Id :=
  (((idlPresets.map crates.ofPreset) ++ crates.otherBehaviours).lookup directory).getD
    crates.unknownProgram

/-- Every visualizer that is registered shows place, program and data; by cases on
the folder it comes from. -/
theorem identifies_behaviour (directory : String) :
    Identifies (crates.behaviour directory).visualizeTxCommands := by
  have hlisted : ∀ entry ∈ (idlPresets.map crates.ofPreset) ++ crates.otherBehaviours,
      Identifies entry.2.visualizeTxCommands := by
    intro entry hentry
    rcases List.mem_append.1 hentry with hpreset | hother
    · obtain ⟨preset, -, rfl⟩ := List.mem_map.1 hpreset
      exact identifies_idlPreset _ _
    · have hall : (crates.otherBehaviours.map Prod.snd).Forall fun shown =>
          Identifies shown.visualizeTxCommands :=
        ⟨identifies_native crates.native .associatedTokenAccount,
          identifies_native crates.native .computeBudget,
          identifies_native crates.native .stakepool, identifies_native crates.native .system,
          identifies_dflow _ _, identifies_drift _,
          identifies_jupiterSwap _ _, identifies_orca _ _, identifies_splToken _,
          identifies_token2022 _, identifies_squads _ _ _ _, identifies_swig _ _ _ _⟩
      exact List.forall_iff_forall_mem.1 hall entry.2 (List.mem_map_of_mem hother)
  rw [behaviour]
  cases hlookup : List.lookup directory _ with
  | none => exact identifies_unknownProgram _ _
  | some found =>
      obtain ⟨before, after, hsplit, -⟩ := List.lookup_eq_some_iff.1 hlookup
      exact hlisted (directory, found) (hsplit ▸ List.mem_append_cons_self)

end VisualizerCrates

/-- No directory of the build is left to the catch-all. -/
theorem VisualizerCrates.behaviour_covers (crates : VisualizerCrates) :
    presetDirectories ⊆ idlPresets.map Prod.fst ++ crates.otherBehaviours.map Prod.fst := by
  intro directory hdirectory
  simp only [presetDirectories, List.mem_cons, List.not_mem_nil, or_false] at hdirectory
  simp only [idlPresets, otherBehaviours, List.map_cons, List.map_nil, List.cons_append,
    List.nil_append, List.mem_cons]
  tauto

/-! ## Whole transactions -/

/-- What the decoders are given. -/
structure Decoding where
  idlRegistry : IdlRegistry
  accountKeys : List Pubkey
  instructions : List CompiledInstruction
  nonempty : accountKeys ≠ []

namespace Decoding

variable (crates : VisualizerCrates) (listing : List String) (decoding : Decoding)

def context (found : CompiledInstruction × ℕ) : VisualizerContext :=
  instructionContext decoding.idlRegistry decoding.accountKeys found

/-- The instructions, up to their accounts. -/
def shown : List Shown :=
  decoding.instructions.zipIdx.map fun found => shownOf (decoding.context found)

def field (found : CompiledInstruction × ℕ) : Option AnnotatedPayloadField :=
  shownField (generatedVisualizers crates.behaviour listing) decoding.idlRegistry
    decoding.accountKeys found

/-- The instructions that have a field. -/
def displayed : List Shown :=
  (decoding.instructions.zipIdx.filter fun found =>
    (decoding.field crates listing found).isSome).map fun found => shownOf (decoding.context found)

def collecting (emptyMessage : String) (lintConfig : LintConfig) : DecodeInstructionsResult :=
  decodeCollecting (generatedVisualizers crates.behaviour listing) decoding.idlRegistry emptyMessage
    decoding.accountKeys decoding.instructions lintConfig

def strict (emptyMessage : String) : Except VisualSignError (List AnnotatedPayloadField) :=
  decodeStrict (generatedVisualizers crates.behaviour listing) decoding.idlRegistry emptyMessage
    decoding.accountKeys decoding.instructions

variable {listing}

/-- The field of an instruction shows that instruction, in whatever order the
folders are listed. -/
theorem shows_of_field (hlisting : listing.Perm (unknownProgramDirectory :: presetDirectories))
    {found : CompiledInstruction × ℕ} {field : AnnotatedPayloadField}
    (hfield : decoding.field crates listing found = some field) :
    Shows (shownOf (decoding.context found)) field := by
  unfold Decoding.field shownField visualized visualizeWithAny at hfield
  rw [find?_generatedVisualizers crates.behaviour hlisting] at hfield
  change (Except.map VisualizeResult.field (Except.map _ ((crates.behaviour _).visualizeTxCommands
    (decoding.context found)))).toOption = some field at hfield
  obtain ⟨result, hresult, rfl⟩ := map_eq_ok.1 (toOption_eq_some.1 hfield)
  obtain ⟨shown, hshown, rfl⟩ := map_eq_ok.1 hresult
  exact crates.identifies_behaviour _ _ _ (Nat.zero_lt_succ 3) hshown

/-- The displayed instructions, each beside its field. -/
def pairs (listing : List String) : List (Shown × AnnotatedPayloadField) :=
  decoding.instructions.zipIdx.filterMap fun found =>
    (decoding.field crates listing found).map fun field => (shownOf (decoding.context found), field)

theorem map_fst_pairs : (decoding.pairs crates listing).map Prod.fst =
    decoding.displayed crates listing := by
  rw [pairs, displayed]
  induction decoding.instructions.zipIdx with
  | nil => rfl
  | cons first rest ih =>
      cases hfield : decoding.field crates listing first with
      | none => simpa [hfield] using ih
      | some field => simpa [hfield] using ih

theorem map_snd_pairs : (decoding.pairs crates listing).map Prod.snd =
    decoding.instructions.zipIdx.filterMap (decoding.field crates listing) := by
  rw [pairs, List.map_filterMap]
  refine List.filterMap_congr fun found _ => ?_
  cases decoding.field crates listing found <;> rfl

/-- Equal fields are fields of the same instructions. -/
theorem displayed_eq_of_fields
    (hlisting : listing.Perm (unknownProgramDirectory :: presetDirectories)) {left right : Decoding}
    (hsame : left.instructions.zipIdx.filterMap (left.field crates listing) =
      right.instructions.zipIdx.filterMap (right.field crates listing)) :
    left.displayed crates listing = right.displayed crates listing := by
  have hshows : ∀ decoding : Decoding, ∀ pair ∈ decoding.pairs crates listing,
      Shows pair.1 pair.2 := by
    intro decoding pair hpair
    obtain ⟨found, -, hpair⟩ := List.mem_filterMap.1 hpair
    obtain ⟨field, hfield, rfl⟩ := Option.map_eq_some_iff.1 hpair
    exact decoding.shows_of_field crates hlisting hfield
  rw [← map_snd_pairs, ← map_snd_pairs] at hsame
  rw [← map_fst_pairs, ← map_fst_pairs, Pointwise.eq_of_values_eq Shows.unique (hshows left)
    (hshows right) hsame]

/-- Without a failure every instruction is displayed. -/
theorem displayed_of_strict {emptyMessage : String} {fields : List AnnotatedPayloadField}
    (hstrict : decoding.strict crates listing emptyMessage = .ok fields) :
    decoding.displayed crates listing = decoding.shown ∧
      decoding.instructions.zipIdx.filterMap (decoding.field crates listing) = fields := by
  have hloop := foldlM_pushInstruction (generatedVisualizers crates.behaviour listing)
    decoding.idlRegistry decoding.accountKeys decoding.instructions.zipIdx []
  rw [strict, decodeStrict, if_neg (by simpa using decoding.nonempty)] at hstrict
  rw [hstrict] at hloop
  cases herrors : (decoding.instructions.zipIdx.filterMap (recordedError
      (generatedVisualizers crates.behaviour listing) decoding.idlRegistry
      decoding.accountKeys)).head? with
  | some record =>
      rw [herrors] at hloop
      obtain ⟨_, _, hfailed⟩ := hloop
      cases hfailed
  | none =>
      rw [herrors] at hloop
      refine ⟨?_, (Except.ok.inj hloop).symm⟩
      rw [displayed, shown, List.filter_eq_self.2]
      intro found hfound
      have hnone := List.filterMap_eq_nil_iff.1 (List.head?_eq_none_iff.1 herrors) found hfound
      have hkind := isSome_recordedError (generatedVisualizers crates.behaviour listing)
        decoding.idlRegistry decoding.accountKeys found
      rw [hnone, Option.isSome_none, eq_comm, Bool.not_eq_false'] at hkind
      exact hkind

end Decoding

/-- Two transactions with the same fields have the same displayed instructions: the same
programs with the same data at the same places, whatever IDLs came with the requests.
Where the first failure ends the decoding, these are all of the instructions. -/
theorem display_determines_instructions (crates : VisualizerCrates) {listing : List String}
    (hlisting : listing.Perm (unknownProgramDirectory :: presetDirectories))
    (left right : Decoding) (leftMessage rightMessage : String) :
    (∀ leftConfig rightConfig,
      (left.collecting crates listing leftMessage leftConfig).fields =
          (right.collecting crates listing rightMessage rightConfig).fields →
        left.displayed crates listing = right.displayed crates listing) ∧
    ∀ fields, left.strict crates listing leftMessage = .ok fields →
      right.strict crates listing rightMessage = .ok fields → left.shown = right.shown := by
  have hfields : ∀ (decoding : Decoding) emptyMessage lintConfig,
      (decoding.collecting crates listing emptyMessage lintConfig).fields =
        decoding.instructions.zipIdx.filterMap (decoding.field crates listing) := by
    intro decoding emptyMessage lintConfig
    rw [Decoding.collecting, decodeCollecting, if_neg (by simpa using decoding.nonempty)]
    dsimp only
    rw [foldl_collectInstruction]
    rfl
  constructor
  · intro leftConfig rightConfig hsame
    rw [hfields, hfields] at hsame
    exact Decoding.displayed_eq_of_fields crates hlisting hsame
  · intro fields hleft hright
    obtain ⟨hleftShown, hleftFields⟩ := left.displayed_of_strict crates hleft
    obtain ⟨hrightShown, hrightFields⟩ := right.displayed_of_strict crates hright
    rw [← hleftShown, ← hrightShown]
    exact Decoding.displayed_eq_of_fields crates hlisting (hleftFields.trans hrightFields.symm)

/-! ## Two transactions that differ in an account -/

def computeBudgetKey : Pubkey :=
  ⟨[3, 6, 70, 111, 229, 33, 23, 50, 255, 236, 173, 186, 114, 195, 155, 231, 188, 140, 229, 187, 197,
    247, 18, 107, 44, 67, 155, 58, 64, 0, 0, 0], rfl⟩

/-- No IDLs, and crates that decode nothing but a limit of compute units. -/
def limitCrates : VisualizerCrates where
  idl _ := ⟨.error "no IDL", ⟨fun _ => none, fun _ _ _ => none⟩, fun _ _ _ => ""⟩
  orcaNamed _ := []
  native := ⟨⟨fun _ => .error "invalid instruction data", fun _ => "", fun _ => ""⟩,
    fun data => if data.take 1 = [2] then
      .ok (.setComputeUnitLimit (UInt32.ofNat (ofLeBytes (data.drop 1)))) else .error "",
    fun _ => .error ""⟩
  token _ := none
  token2022 _ := none
  registry :=
    { pubkeys := ⟨Squads.pubkeyFromStr, Pubkey.text⟩
      ed25519 := ⟨ByteArr 32, .ok, id, fun _ _ _ => .error "signature error"⟩
      fromProgramId := fun _ => none
      readJson := fun _ => none }
  parser := ⟨fun _ => none, fun _ _ _ => none⟩
  jupiterIdlJson := ""
  dflow := none
  squads := ⟨none, fun multisig _ => multisig⟩
  swigNative := ⟨fun _ => none, fun _ => none⟩
  swig := ⟨fun _ _ => .ok ⟨"", "", .ok []⟩, fun _ => .ok []⟩
  visualizeAny _ := none
  panicked := .decodeError ""

/-- A limit, and a call of a program from a lookup table, with one account. -/
def lookupCall (account : UInt8) : Decoding where
  idlRegistry := Swig.newIdlRegistry
  accountKeys := [repeatedByte 9, computeBudgetKey]
  instructions := [⟨1, [], [2, 0x40, 0x0d, 3, 0]⟩, ⟨7, [account], [1, 2]⟩]
  nonempty := List.cons_ne_nil _ _

theorem display_determines_instructions_lookup :
    ∃ fields, (lookupCall 0).strict limitCrates (presetDirectories ++ ["unknown_program"]) "" =
        .ok fields ∧
      (lookupCall 1).strict limitCrates (presetDirectories ++ ["unknown_program"]) "" =
        .ok fields ∧
      (lookupCall 0).shown = (lookupCall 1).shown := by
  have hfields : (lookupCall 1).strict limitCrates (presetDirectories ++ ["unknown_program"]) "" =
      (lookupCall 0).strict limitCrates (presetDirectories ++ ["unknown_program"]) "" := by
    rfl
  have hok : ∃ fields, (lookupCall 0).strict limitCrates
      (presetDirectories ++ ["unknown_program"]) "" = .ok fields := ⟨_, rfl⟩
  obtain ⟨fields, hleft⟩ := hok
  have hright := hfields.trans hleft
  exact ⟨fields, hleft, hright, (display_determines_instructions limitCrates
    (List.perm_append_singleton _ _) (lookupCall 0) (lookupCall 1) "" "").2 fields hleft hright⟩

end VisualSignParser.Solana
