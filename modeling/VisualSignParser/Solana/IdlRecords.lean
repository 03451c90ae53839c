import VisualSignParser.Solana.IdlTrust
import VisualSignParser.Solana.Intermediate

/-!
# Records of IDLs

Instructions are decoded with the record of their program.  The instructions of the
message are decoded over one map that holds the records of all sources, and the
simulated ones by a lookup in the three sources.  The output names the source a
program was found in, by a check of its own.
-/

namespace VisualSignParser.Solana

open VisualSignParser.OrderedMap
open VisualSignParser.Solana.Intermediate (RegisteredSource)

section Records

variable {Record : Type}

/-- What is called in the parser crate: the records of its own IDLs, the ones of the
presets, and the records of custom IDLs. -/
structure RecordCrates (Record : Type) where
  presetIdlRecords : BTreeMap String Record
  builtinIdlRecords : BTreeMap String Record
  constructIdlRecordsMap : BTreeMap String CustomIdlConfig → Except String (BTreeMap String Record)

/-- The map of custom IDLs holds the record of each of them. -/
def RecordCrates.KeepsRecords (crates : RecordCrates Record)
    (recordOf : String → CustomIdlConfig → Record) : Prop :=
  ∀ configs records, crates.constructIdlRecordsMap configs = .ok records →
    ∀ programId config, configs.get programId = some config →
      records.get programId = some (recordOf programId config)

variable (crates : RecordCrates Record)

def lookupIdlRecord (programId : String) (callerRecords : BTreeMap String Record) : Option Record :=
  match callerRecords.get programId with
  | some record => some record
  | none =>
      match crates.presetIdlRecords.get programId with
      | some record => some record
      | none => crates.builtinIdlRecords.get programId

/-- The records of the caller's IDLs; none when one of them cannot be read. -/
def callerIdlRecords (configs : BTreeMap String CustomIdlConfig) :
    Option (BTreeMap String Record) :=
  if configs.entries.isEmpty then some BTreeMap.empty
  else match crates.constructIdlRecordsMap configs with
    | .ok records => some (records.filterKeys fun programId => (configs.get programId).isSome)
    | .error _ => none

def buildIdlRecordMap (callerRecords : BTreeMap String Record) : BTreeMap String Record :=
  (crates.builtinIdlRecords.extend crates.presetIdlRecords).extend callerRecords

end Records

/-- Where a program is registered. -/
def registeredSource (fromProgramId : String → Option ProgramType) (programId : String)
    (callerIdlProgramIds : BTreeMap String CustomIdlConfig) : RegisteredSource :=
  if nativeProgramNames.any fun entry => entry.1 = programId then .native
  else if presetProgramIds.contains programId then .preset
  else if (fromProgramId programId).isSome then .thirdParty
  else if (callerIdlProgramIds.get programId).isSome then .callerSupplied
  else .unregistered

/-! ## The lookup and the map -/

section Lookup

variable {Record : Type} {crates : RecordCrates Record}

theorem get_buildIdlRecordMap (callerRecords : BTreeMap String Record) (programId : String) :
    (buildIdlRecordMap crates callerRecords).get programId =
      lookupIdlRecord crates programId callerRecords := by
  rw [buildIdlRecordMap, BTreeMap.get_extend, BTreeMap.get_extend, lookupIdlRecord]
  cases callerRecords.get programId with
  | some record => rfl
  | none =>
      cases crates.presetIdlRecords.get programId with
      | some record => rfl
      | none => rfl

variable {recordOf : String → CustomIdlConfig → Record}

/-- The caller's records are the ones of the configured programs, and no others. -/
theorem get_callerIdlRecords (hkeeps : crates.KeepsRecords recordOf)
    {configs : BTreeMap String CustomIdlConfig} {callerRecords : BTreeMap String Record}
    (hcaller : callerIdlRecords crates configs = some callerRecords) (programId : String) :
    callerRecords.get programId = (configs.get programId).map (recordOf programId) := by
  rw [callerIdlRecords] at hcaller
  split_ifs at hcaller with hempty
  · rw [← Option.some.inj hcaller, BTreeMap.get_empty, BTreeMap.get, List.isEmpty_iff.1 hempty]
    rfl
  · cases hconstruct : crates.constructIdlRecordsMap configs with
    | error error =>
        rw [hconstruct] at hcaller
        cases hcaller
    | ok records =>
        rw [hconstruct] at hcaller
        rw [← Option.some.inj hcaller]
        cases hconfig : configs.get programId with
        | none => exact BTreeMap.get_filterKeys_of_not _ (by rw [hconfig]; rfl)
        | some config =>
            rw [BTreeMap.get_filterKeys _ (by rw [hconfig]; rfl)]
            exact hkeeps configs records hconstruct programId config hconfig

end Lookup

/-! ## The source that is named -/

section Source

variable {fromProgramId : String → Option ProgramType}

/-- A trusted program is never reported as the caller's. -/
theorem registeredSource_of_not_trusted {programId : String}
    (htrusted : isTrustedProgram fromProgramId programId = false)
    (configs : BTreeMap String CustomIdlConfig) :
    registeredSource fromProgramId programId configs =
      if (configs.get programId).isSome then .callerSupplied else .unregistered := by
  rw [isTrustedProgram, Bool.or_eq_false_iff] at htrusted
  obtain ⟨hcanonical, hpreset⟩ := htrusted
  rw [canonicalName] at hcanonical
  cases hnative : nativeProgramNames.find? fun entry => entry.1 = programId with
  | some entry =>
      rw [hnative] at hcanonical
      cases hcanonical
  | none =>
      rw [hnative] at hcanonical
      have hany : (nativeProgramNames.any fun entry => entry.1 = programId) = false := by
        rw [List.any_eq_false]
        exact List.find?_eq_none.1 hnative
      have hbuiltin : (fromProgramId programId).isSome = false := by
        rwa [Option.isSome_map] at hcanonical
      rw [registeredSource, hany, hpreset, hbuiltin]
      rfl

theorem registeredSource_ne_of_trusted {programId : String}
    (htrusted : isTrustedProgram fromProgramId programId = true)
    (configs : BTreeMap String CustomIdlConfig) :
    registeredSource fromProgramId programId configs ≠ .callerSupplied := by
  rw [registeredSource]
  split_ifs with hnative hpreset hbuiltin hconfig
  · decide
  · decide
  · decide
  · exfalso
    rw [isTrustedProgram, Bool.eq_false_of_not_eq_true hpreset, Bool.or_false, canonicalName]
      at htrusted
    cases hfind : nativeProgramNames.find? fun entry => entry.1 = programId with
    | some entry =>
        apply hnative
        rw [List.any_eq_true]
        exact ⟨entry, List.mem_of_find?_eq_some hfind, decide_eq_true (key_of_find? hfind)⟩
    | none =>
        rw [hfind] at htrusted
        rw [Option.isSome_map] at htrusted
        exact hbuiltin htrusted
  · decide

end Source

/-- The registry never holds an IDL for a trusted program. -/
theorem configs_fromIdlMappings (crates : Crates) (mappings : BTreeMap String (String × String))
    (programId : String) :
    (IdlRegistry.fromIdlMappings crates mappings).configs.get programId =
      (mappings.get programId).bind fun kept =>
        if isTrustedProgram crates.fromProgramId programId then none else some ⟨kept.1, true⟩ := by
  rw [IdlRegistry.fromIdlMappings, foldl_addMapping]
  exact BTreeMap.get_foldl_insertChosen_empty _ mappings programId

theorem registeredSource_eq_callerSupplied (crates : Crates)
    (mappings : BTreeMap String (String × String)) (programId : String) :
    registeredSource crates.fromProgramId programId
        (IdlRegistry.fromIdlMappings crates mappings).configs = .callerSupplied ↔
      ((IdlRegistry.fromIdlMappings crates mappings).configs.get programId).isSome := by
  cases htrusted : isTrustedProgram crates.fromProgramId programId with
  | true =>
      rw [configs_fromIdlMappings, htrusted]
      constructor
      · intro hsource
        exact absurd hsource (registeredSource_ne_of_trusted htrusted _)
      · intro hconfig
        cases hkept : mappings.get programId with
        | none =>
            rw [hkept] at hconfig
            cases hconfig
        | some kept =>
            rw [hkept] at hconfig
            cases hconfig
  | false =>
      rw [registeredSource_of_not_trusted htrusted]
      split_ifs with hconfig
      · exact iff_of_true rfl hconfig
      · exact iff_of_false nofun hconfig

/-- The lookup and the map hold the same record for each program, and the record is
the one of the caller's IDL exactly if the program is reported as the caller's. -/
theorem idl_source_unique {Record : Type} (crates : Crates) (records : RecordCrates Record) :
    (∀ callerRecords programId,
      lookupIdlRecord records programId callerRecords =
        (buildIdlRecordMap records callerRecords).get programId) ∧
    ∀ recordOf, records.KeepsRecords recordOf → ∀ mappings callerRecords,
      callerIdlRecords records (IdlRegistry.fromIdlMappings crates mappings).configs =
        some callerRecords →
      ∀ programId,
        registeredSource crates.fromProgramId programId
            (IdlRegistry.fromIdlMappings crates mappings).configs = .callerSupplied ↔
          ∃ config,
            (IdlRegistry.fromIdlMappings crates mappings).configs.get programId = some config ∧
            callerRecords.get programId = some (recordOf programId config) ∧
            lookupIdlRecord records programId callerRecords = some (recordOf programId config) := by
  apply And.intro fun callerRecords programId => (get_buildIdlRecordMap callerRecords programId).symm
  intro recordOf hkeeps mappings callerRecords hcaller programId
  rw [registeredSource_eq_callerSupplied]
  constructor
  · intro hconfig
    obtain ⟨config, hconfig⟩ := Option.isSome_iff_exists.1 hconfig
    have hrecord : callerRecords.get programId = some (recordOf programId config) := by
      rw [get_callerIdlRecords hkeeps hcaller, hconfig]
      rfl
    refine ⟨config, hconfig, hrecord, ?_⟩
    rw [lookupIdlRecord, hrecord]
  · rintro ⟨config, hconfig, -⟩
    rw [hconfig]
    rfl

/-! ## Records that are texts -/

/-- The record of an IDL is its text, the one of another program is its id. -/
def textRecords : RecordCrates String where
  presetIdlRecords := BTreeMap.empty.insert "swigypWHEksbC64pWKwah1WTeh9JXwx8H1rJHLdbQMB" "preset"
  builtinIdlRecords := BTreeMap.empty.insert "9xQeWvG816bUx9EPjHmaT23yvVM2ZWbrrpZb9PusVFin" "builtin"
  constructIdlRecordsMap configs :=
    .ok (configs.entries.foldl
      (BTreeMap.insertChosen fun _ config => some config.json) BTreeMap.empty)

theorem keepsRecords_textRecords : textRecords.KeepsRecords fun _ config => config.json := by
  intro configs records hrecords programId config hconfig
  rw [← Except.ok.inj hrecords, BTreeMap.get_foldl_insertChosen_empty, hconfig]
  rfl

theorem idl_source_unique_text :
    textRecords.KeepsRecords (fun _ config => config.json) ∧
      registeredSource plainCrates.fromProgramId "9xQeWvG816bUx9EPjHmaT23yvVM2ZWbrrpZb9PusVFin"
        (IdlRegistry.fromIdlMappings plainCrates (BTreeMap.empty.insert
          "9xQeWvG816bUx9EPjHmaT23yvVM2ZWbrrpZb9PusVFin" (plainIdl, "My Custom Program"))).configs =
        .callerSupplied := by
  apply And.intro keepsRecords_textRecords
  obtain ⟨-, hsource⟩ := idl_source_unique plainCrates textRecords
  apply (hsource _ keepsRecords_textRecords _ _ rfl _).2
  rw [configs_fromIdlMappings, BTreeMap.get_insert_self]
  refine ⟨⟨plainIdl, true⟩, by decide +kernel, ?_, ?_⟩
  · decide +kernel
  · decide +kernel

end VisualSignParser.Solana
