import VisualSignParser.Codec.OrderedMap
import VisualSignParser.Solana.BuiltinPrograms
import VisualSignParser.Solana.Context
import VisualSignParser.Solana.IdlTrust

/-!
# Which visualizer shows an instruction

The build lists the directories of the visualizers in whatever order the file
system has them, and puts the catch-all behind the others.  The first visualizer
that accepts an instruction shows it.
-/

namespace VisualSignParser.Solana

open VisualSignParser.OrderedMap
open VisualSignParser.VisualSign

/-! ## The build -/

def unknownProgramDirectory : String := "unknown_program"

/-- The directories of the visualizers for certain programs. -/
def presetDirectories : List String :=
  ["associated_token_account", "compute_budget", "dflow_aggregator", "drift", "exponent_finance",
    "jupiter_borrow", "jupiter_earn", "jupiter_perps", "jupiter_swap", "kamino_borrow",
    "kamino_farms", "kamino_limit", "kamino_vault", "marginfi", "metadao_conditional_vault",
    "metadao_futarchy", "meteora_damm_v2", "meteora_dlmm", "neutral_trade", "onre_app",
    "orca_whirlpool", "spl_token", "squads_multisig", "stakepool", "swig_wallet", "system",
    "token_2022"]

/-- `collect_visualizers`: the listing of the directories, the catch-all last. -/
def collectVisualizers (listing : List String) : List String :=
  let (unknown, specific) := listing.partition (· == unknownProgramDirectory)
  specific ++ unknown

/-- The program of each configuration, and its directory. -/
def presetTable : List (String × String) := presetProgramIds.zip presetDirectories

/-- The programs in the configuration of a directory. -/
def programsOf (directory : String) : List String :=
  (presetTable.filter fun entry => entry.2 == directory).map Prod.fst

variable {m : Type → Type}

/-- What a visualizer does when it is called, and its kind. -/
structure Behaviour (m : Type → Type) where
  visualizeTxCommands : VisualizerContext → m (Except VisualSignError AnnotatedPayloadField)
  kind : VisualizerKind

/-- The visualizer of a directory.  The catch-all accepts everything. -/
def visualizerOf (behaviour : String → Behaviour m) (directory : String) :
    InstructionVisualizer m where
  canHandle := if directory = unknownProgramDirectory then fun _ => true
    else handlesPrograms (programsOf directory)
  visualizeTxCommands := (behaviour directory).visualizeTxCommands
  kind := (behaviour directory).kind

/-- The generated `available_visualizers`. -/
def generatedVisualizers (behaviour : String → Behaviour m) (listing : List String) :
    List (InstructionVisualizer m) :=
  (collectVisualizers listing).map (visualizerOf behaviour)

/-! ## The directory of an instruction -/

/-- The directory whose configuration has the program, and the catch-all for all others. -/
def directoryFor (context : VisualizerContext) : String :=
  match context.programId with
  | .resolved pubkey => (lookup pubkey.text presetTable).getD unknownProgramDirectory
  | .unresolved _ => unknownProgramDirectory

theorem nodup_presetProgramIds : presetProgramIds.Nodup := by
  simp [presetProgramIds]

theorem unknownProgramDirectory_notMem : unknownProgramDirectory ∉ presetDirectories := by
  simp [presetDirectories, unknownProgramDirectory]

/-- No program has two directories. -/
theorem distinctKeys_presetTable : DistinctKeys presetTable := by
  apply List.pairwise_map.1
  rw [presetTable, List.map_fst_zip (by decide)]
  exact nodup_presetProgramIds

theorem mem_programsOf {directory program : String} :
    program ∈ programsOf directory ↔ lookup program presetTable = some directory := by
  rw [← mem_iff_lookup distinctKeys_presetTable]
  simp only [programsOf, List.mem_map, List.mem_filter, beq_iff_eq]
  constructor
  · rintro ⟨⟨_, found⟩, ⟨hentry, rfl⟩, rfl⟩
    exact hentry
  · exact fun hentry => ⟨_, ⟨hentry, rfl⟩, rfl⟩

/-- The directory of an instruction is one of a configuration, or the catch-all. -/
theorem directoryFor_mem (context : VisualizerContext) :
    directoryFor context ∈ unknownProgramDirectory :: presetDirectories := by
  rw [directoryFor]
  cases context.programId with
  | unresolved rawIndex => exact List.mem_cons_self ..
  | resolved pubkey =>
      dsimp only
      cases hlookup : lookup pubkey.text presetTable with
      | none => exact List.mem_cons_self ..
      | some directory =>
          have hentry := (mem_iff_lookup distinctKeys_presetTable).2 hlookup
          exact List.mem_cons_of_mem _ (List.of_mem_zip hentry).2

/-- A visualizer for certain programs accepts exactly the instructions of its directory. -/
theorem canHandle_iff (behaviour : String → Behaviour m) {directory : String}
    (hspecific : directory ≠ unknownProgramDirectory) (context : VisualizerContext) :
    (visualizerOf behaviour directory).canHandle context = true ↔
      directoryFor context = directory := by
  rw [visualizerOf]
  simp only [if_neg hspecific, handlesPrograms, directoryFor]
  cases context.programId with
  | unresolved rawIndex => exact iff_of_false Bool.false_ne_true fun hsame => hspecific hsame.symm
  | resolved pubkey =>
      dsimp only
      rw [List.contains_iff_mem, mem_programsOf]
      cases lookup pubkey.text presetTable with
      | none => exact iff_of_false (Option.some_ne_none _).symm fun hsame => hspecific hsame.symm
      | some found => exact Option.some_inj

/-- The only element that is accepted is found, wherever it stands. -/
theorem find?_eq_some_of_unique {A : Type} {list : List A} {accepts : A → Bool} {item : A}
    (hitem : item ∈ list) (haccepts : accepts item = true)
    (hunique : ∀ other ∈ list, accepts other = true → other = item) :
    list.find? accepts = some item := by
  cases hfind : list.find? accepts with
  | none => exact absurd haccepts (List.find?_eq_none.1 hfind item hitem)
  | some found =>
      rw [hunique found (List.mem_of_find?_eq_some hfind) (List.find?_some hfind)]

/-- The first visualizer that accepts an instruction is the one of its directory. -/
theorem find?_generatedVisualizers (behaviour : String → Behaviour m) {listing : List String}
    (hlisting : listing.Perm (unknownProgramDirectory :: presetDirectories))
    (context : VisualizerContext) :
    (generatedVisualizers behaviour listing).find? (fun visualizer => visualizer.canHandle context) =
      some (visualizerOf behaviour (directoryFor context)) := by
  let accepts := fun directory => (visualizerOf behaviour directory).canHandle context
  let specific := listing.filter fun name => !(name == unknownProgramDirectory)
  let unknown := listing.filter fun name => name == unknownProgramDirectory
  have hspecific : ∀ directory ∈ specific,
      (accepts directory = true ↔ directoryFor context = directory) := by
    intro directory hdirectory
    apply canHandle_iff behaviour
    simpa using (List.mem_filter.1 hdirectory).2
  have hlisted := hlisting.mem_iff.2 (directoryFor_mem context)
  have hfound : (specific ++ unknown).find? accepts = some (directoryFor context) := by
    rw [List.find?_append]
    by_cases hdirectory : directoryFor context = unknownProgramDirectory
    · have hnone : specific.find? accepts = none := by
        apply List.find?_eq_none.2
        intro directory hmem haccepts
        have hother : directory ≠ unknownProgramDirectory := by
          simpa using (List.mem_filter.1 hmem).2
        exact hother (((hspecific directory hmem).1 haccepts).symm.trans hdirectory)
      rw [hnone, Option.none_or, hdirectory]
      have hmem : unknownProgramDirectory ∈ unknown :=
        List.mem_filter.2 ⟨hdirectory ▸ hlisted, beq_self_eq_true _⟩
      refine find?_eq_some_of_unique hmem ?_ fun other hother _ => ?_
      · change (visualizerOf behaviour unknownProgramDirectory).canHandle context = true
        rw [visualizerOf, if_pos rfl]
      · exact beq_iff_eq.1 (List.mem_filter.1 hother).2
    · have hmem : directoryFor context ∈ specific :=
        List.mem_filter.2 ⟨hlisted, by simpa using hdirectory⟩
      rw [find?_eq_some_of_unique hmem ((hspecific _ hmem).2 rfl) fun other hother haccepts =>
        ((hspecific other hother).1 haccepts).symm, Option.some_or]
  rw [generatedVisualizers, collectVisualizers, List.partition_eq_filter_filter, List.find?_map]
  exact congrArg (Option.map (visualizerOf behaviour)) hfound

/-- In whatever order the file system lists the directories, an instruction is shown by
the visualizer whose configuration has its program, and by the catch-all if there is
none or its program does not resolve.  For a program that has a visualizer of its own
the registry of a request holds no IDL, whatever mappings the caller sends. -/
theorem dispatch_by_program [Monad m] (behaviour : String → Behaviour m) (listing : List String)
    (hlisting : listing.Perm (unknownProgramDirectory :: presetDirectories))
    (context : VisualizerContext) :
    (visualizeWithAny (generatedVisualizers behaviour listing) context = do
      let field ← (behaviour (directoryFor context)).visualizeTxCommands context
      return some (field.map fun field => ⟨field, (behaviour (directoryFor context)).kind⟩)) ∧
    ∀ pubkey, context.programId = .resolved pubkey →
      (directoryFor context ≠ unknownProgramDirectory ↔ pubkey.text ∈ presetProgramIds) ∧
      (directoryFor context ≠ unknownProgramDirectory → ∀ crates allowlist solana,
        (registryOf crates allowlist solana).configs.get pubkey.text = none) := by
  constructor
  · rw [visualizeWithAny, find?_generatedVisualizers behaviour hlisting]
    rfl
  · intro pubkey hprogram
    have hiff : directoryFor context ≠ unknownProgramDirectory ↔ pubkey.text ∈ presetProgramIds := by
      have hkeys : presetTable.map Prod.fst = presetProgramIds := by
        rw [presetTable, List.map_fst_zip (by decide)]
      rw [directoryFor, hprogram]
      dsimp only
      cases hlookup : lookup pubkey.text presetTable with
      | none =>
          rw [← hkeys]
          exact iff_of_false (fun hne => hne rfl) (lookup_eq_none.1 hlookup)
      | some directory =>
          have hentry := (mem_iff_lookup distinctKeys_presetTable).2 hlookup
          refine iff_of_true ?_ (List.of_mem_zip hentry).1
          rintro rfl
          exact unknownProgramDirectory_notMem (List.of_mem_zip hentry).2
    refine ⟨hiff, fun hspecific crates allowlist solana => configs_of_trusted ?_⟩
    rw [isTrustedProgram, List.contains_iff_mem.2 (hiff.1 hspecific), Bool.or_true]

/-- A visualizer that shows the name of its directory. -/
def namedBehaviour (directory : String) : Behaviour Id where
  visualizeTxCommands _ := .ok ⟨.text ⟨directory, "Directory"⟩ ⟨directory⟩, none, none⟩
  kind := .payments directory

/-- An instruction of the program whose key is all zeros. -/
def systemContext : VisualizerContext where
  sender := ⟨"", true, true⟩
  compiledInstruction := ⟨0, [], []⟩
  accountKeys := [repeatedByte 0]
  idlRegistry := ⟨BTreeMap.empty, BTreeMap.empty, BTreeMap.empty⟩
  instructionIndex := 0
  callDepth := 0

theorem dispatch_by_program_system :
    visualizeWithAny (generatedVisualizers namedBehaviour ("unknown_program" :: presetDirectories))
        systemContext =
      some (.ok ⟨⟨.text ⟨"system", "Directory"⟩ ⟨"system"⟩, none, none⟩, .payments "system"⟩) ∧
    ∀ crates allowlist solana,
      (registryOf crates allowlist solana).configs.get (Pubkey.text (repeatedByte 0)) = none := by
  have hdirectory : directoryFor systemContext = "system" := rfl
  obtain ⟨hshown, htrusted⟩ := dispatch_by_program namedBehaviour
    ("unknown_program" :: presetDirectories) (List.Perm.refl _) systemContext
  rw [hdirectory] at hshown
  refine ⟨hshown, (htrusted (repeatedByte 0) rfl).2 ?_⟩
  rw [hdirectory]
  decide

end VisualSignParser.Solana
