import VisualSignParser.Cli.Mappings
import VisualSignParser.Solana.IdlTrust

/-!
# IDLs given on the command line

An IDL file is given for a program, under a name.  Nothing is signed: the parser takes
IDLs without a signature, but none of a program that it knows, none that is too long,
and none with a reserved name.
-/

namespace VisualSignParser.Cli

open VisualSignParser.Ethereum (SignerAllowlist)
open VisualSignParser.Framing
open VisualSignParser.OrderedMap
open VisualSignParser.Outcome
open VisualSignParser.Solana

section Idls

variable (base58Error : String → String) (files : Files)

def idlMappingFormat : MappingFormat where
  kind := "IDL"
  identifierLabel := "ProgramId"
  formatHint := "Name:/path/to/file.json:ProgramId"
  sample := "JupiterSwap:path/to/jupiter.json:JUP6LkbZbjS1jKKwapdHNy74zcZ3tLUZoi5QNyVTaV4"

/-- `base58Error` is the text of the error of `bs58`. -/
def validateProgramId (id : String) : Except String Unit := do
  let bytes ← okOr ("invalid base58: " ++ base58Error id) (Base58.decode id)
  require (bytes.length = 32)
    ("expected 32-byte pubkey, got " ++ toString bytes.length ++ " bytes")

/-- The IDL of a file, of type `SolanaIdlType::Anchor`. -/
def namedIdl (json name : String) : Proto.Idl := ⟨json, some 1, none, none, some name⟩

def idlMappingKind : MappingKind Proto.Idl where
  format := idlMappingFormat
  parse := parseMapping
  validateIdentifier := validateProgramId base58Error
  buildValue components json := .ok (namedIdl json components.name)

def buildIdlMappingsFromFiles (idlJsonMappings : List String) : Loaded Proto.Idl :=
  loadMappings files (idlMappingKind base58Error) idlJsonMappings

def loadGivenIdls (idlJsonMappings : List String) : BTreeMap String Proto.Idl × List String :=
  if idlJsonMappings = [] then (BTreeMap.empty, []) else
    let built := buildIdlMappingsFromFiles base58Error files idlJsonMappings
    (built.map, ["Loading custom IDLs:"] ++ built.log ++ ["Successfully loaded " ++
      toString built.validCount ++ "/" ++ toString idlJsonMappings.length ++ " IDL mappings\n"])

/-- The metadata, if there is any, and the lines of the log. -/
def createSolanaChainMetadata (idlJsonMappings : List String) (simulatedTxResult : Option String) :
    Option Proto.ChainMetadata × List String :=
  if idlJsonMappings = [] ∧ simulatedTxResult = none then (none, []) else
    let loaded := loadGivenIdls base58Error files idlJsonMappings
    (some ⟨some (.solana ⟨none, none, loaded.1, simulatedTxResult⟩)⟩, loaded.2)

theorem loadGivenIdls_fst (idlJsonMappings : List String) :
    (loadGivenIdls base58Error files idlJsonMappings).1 =
      (buildIdlMappingsFromFiles base58Error files idlJsonMappings).map := by
  unfold loadGivenIdls
  split_ifs with hempty
  · rw [hempty]
    rfl
  · rfl

/-! ## What the parser makes of them -/

variable (crates : Crates) (allowlist : SignerAllowlist)

/-- `Pubkey::from_str` reads thirty-two bytes in base 58. -/
def ReadsKeys (pubkeys : PubkeyText) : Prop :=
  ∀ text key, pubkeys.fromStr text = some key ↔ Base58.decode text = some key.val

theorem exists_key_of_valid (hkeys : ReadsKeys crates.pubkeys) {programId : String}
    (hvalid : validateProgramId base58Error programId = .ok ()) :
    ∃ key, crates.pubkeys.fromStr programId = some key := by
  simp only [validateProgramId, bind_eq_ok, okOr_eq_ok, require_eq_ok] at hvalid
  obtain ⟨bytes, hbytes, hlength⟩ := hvalid
  exact ⟨⟨bytes, hlength⟩, (hkeys programId ⟨bytes, hlength⟩).2 hbytes⟩

/-- An IDL of a file is kept unless the program is known, the text is too long, or the
name is reserved. -/
theorem kept_iff (hkeys : ReadsKeys crates.pubkeys) (idlJsonMappings : List String)
    (simulatedTxResult : Option String) (programId : String) (idl : Proto.Idl) :
    Kept crates allowlist
        ⟨none, none, (loadGivenIdls base58Error files idlJsonMappings).1, simulatedTxResult⟩
        programId idl ↔
      ∃ json name, namedIdl json name = idl ∧
        Chosen files (idlMappingKind base58Error) idlJsonMappings programId idl ∧
        isTrustedProgram crates.fromProgramId programId = false ∧
        (utf8Bytes json).length ≤ maxIdlJsonBytes ∧ isReservedCanonicalName name = false := by
  unfold Kept
  dsimp only
  rw [loadGivenIdls_fst, buildIdlMappingsFromFiles, get_loadMappings]
  constructor
  · rintro ⟨hchosen, ⟨key, -, hknown, hsize, -⟩, hname⟩
    obtain ⟨-, mapping, -, -, ⟨components, json, -, -, -, -, -, hvalue, -⟩, -⟩ := id hchosen
    obtain rfl := Except.ok.inj hvalue
    exact ⟨json, components.name, rfl, hchosen, hknown, hsize, hname⟩
  · rintro ⟨json, name, rfl, hchosen, hknown, hsize, hname⟩
    obtain ⟨-, mapping, -, -, ⟨components, content, -, hvalid, -, -, -, -, rfl⟩, -⟩ := id hchosen
    obtain ⟨key, hkey⟩ := exists_key_of_valid base58Error crates hkeys hvalid
    exact ⟨hchosen, ⟨key, hkey, hknown, hsize, rfl⟩, hname⟩

/-- The parser decodes the instructions of a program with a file and under a name exactly
if they were given in the last usable mapping of the program, and nothing speaks against
them. -/
theorem cli_idls_used (hkeys : ReadsKeys crates.pubkeys) (idlJsonMappings : List String)
    (simulatedTxResult : Option String) (programId json name : String) :
    (callerRegistry crates (createSolanaChainMetadata base58Error files idlJsonMappings
          simulatedTxResult).1 allowlist).configs.get programId = some ⟨json, true⟩ ∧
        (callerRegistry crates (createSolanaChainMetadata base58Error files idlJsonMappings
          simulatedTxResult).1 allowlist).names.get programId = some name ↔
      Chosen files (idlMappingKind base58Error) idlJsonMappings programId (namedIdl json name) ∧
        isTrustedProgram crates.fromProgramId programId = false ∧
        (utf8Bytes json).length ≤ maxIdlJsonBytes ∧ isReservedCanonicalName name = false := by
  unfold createSolanaChainMetadata
  split_ifs with hnothing
  · obtain ⟨rfl, rfl⟩ := hnothing
    constructor
    · rintro ⟨hnone, -⟩
      cases hnone
    · rintro ⟨⟨before, mapping, after, hmappings, -⟩, -⟩
      exact absurd hmappings.symm (List.append_ne_nil_of_right_ne_nil _ (List.cons_ne_nil _ _))
  · change (registryOf crates allowlist _).configs.get programId = _ ∧
      (registryOf crates allowlist _).names.get programId = _ ↔ _
    rw [registryOf_configs, registryOf_names]
    simp only [kept_iff base58Error files crates allowlist hkeys]
    constructor
    · rintro ⟨⟨_, ⟨text, given, rfl, hchosen, hknown, hsize, -⟩, hjson⟩,
        _, ⟨content, shown, rfl, hother, -, -, hname⟩, hshown⟩
      obtain rfl : text = json := congrArg CustomIdlConfig.json hjson
      obtain rfl : shown = name := hshown
      -- the text and the name come from one entry, as a program has only one
      have hsame : namedIdl text given = namedIdl content shown :=
        Option.some.inj ((get_loadMappings.2 hchosen).symm.trans (get_loadMappings.2 hother))
      obtain rfl : given = shown := Option.some.inj (congrArg Proto.Idl.programName hsame)
      exact ⟨hchosen, hknown, hsize, hname⟩
    · rintro ⟨hchosen, hknown, hsize, hname⟩
      exact ⟨⟨namedIdl json name, ⟨json, name, rfl, hchosen, hknown, hsize, hname⟩, rfl⟩,
        namedIdl json name, ⟨json, name, rfl, hchosen, hknown, hsize, hname⟩, rfl⟩

end Idls

theorem readsKeys_plain : ReadsKeys plainCrates.pubkeys := by
  intro text key
  change (Base58.decode text).bind _ = some key ↔ _
  rw [Option.bind_eq_some_iff]
  constructor
  · rintro ⟨bytes, hbytes, hkey⟩
    split_ifs at hkey with hlength
    rw [hbytes, ← Option.some.inj hkey]
  · intro hbytes
    exact ⟨key.val, hbytes, dif_pos key.property⟩

def idlFiles : Files where
  openFile path := if path = "idl.json" then .ok (utf8Bytes "[]") else .error "not found"
  checkJson _ := .ok ()

def programText : String := "9xQeWvG816bUx9EPjHmaT23yvVM2ZWbrrpZb9PusVFin"

theorem chosen_program : Chosen idlFiles (idlMappingKind id)
    ["Mine:idl.json:9xQeWvG816bUx9EPjHmaT23yvVM2ZWbrrpZb9PusVFin"] programText
    (namedIdl "[]" "Mine") := by
  refine ⟨[], _, [], rfl, ⟨⟨"Mine", "idl.json", programText⟩, "[]", ?_, ?_, rfl, ?_, rfl, rfl, rfl⟩,
    fun _ hnone => absurd hnone List.not_mem_nil⟩
  · decide +kernel
  · have hdecoded : ((Base58.decode programText).map List.length) = some 32 := by decide +kernel
    obtain ⟨bytes, hbytes, hlength⟩ := Option.map_eq_some_iff.1 hdecoded
    simp only [idlMappingKind, validateProgramId, bind_eq_ok, okOr_eq_ok, require_eq_ok]
    exact ⟨bytes, hbytes, hlength⟩
  · decide

/-- A program that is not known gets the IDL of its file. -/
theorem cli_idls_used_program :
    (callerRegistry plainCrates (createSolanaChainMetadata id idlFiles
          ["Mine:idl.json:9xQeWvG816bUx9EPjHmaT23yvVM2ZWbrrpZb9PusVFin"] none).1 ⟨[]⟩).configs.get
        programText = some ⟨"[]", true⟩ ∧
      (callerRegistry plainCrates (createSolanaChainMetadata id idlFiles
          ["Mine:idl.json:9xQeWvG816bUx9EPjHmaT23yvVM2ZWbrrpZb9PusVFin"] none).1 ⟨[]⟩).names.get
        programText = some "Mine" :=
  (cli_idls_used id idlFiles plainCrates ⟨[]⟩ readsKeys_plain _ none programText "[]" "Mine").2
    ⟨chosen_program, by decide +kernel, by decide, by decide +kernel⟩

end VisualSignParser.Cli
