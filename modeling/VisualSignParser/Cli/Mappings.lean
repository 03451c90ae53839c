import VisualSignParser.Codec.Framing
import VisualSignParser.Codec.LastWins
import VisualSignParser.Codec.Outcome
import VisualSignParser.Codec.Splits
import Mathlib.Data.String.Basic

/-!
# Mappings on the command line

A mapping has a name, the path of a JSON file and what the file is for.  Every
mapping that cannot be used is skipped with a line in the log.  The separator is a
colon, and an at sign where the identifier itself has colons.
-/

namespace VisualSignParser.Cli

open VisualSignParser.Framing
open VisualSignParser.OrderedMap
open VisualSignParser.Outcome
open VisualSignParser.Splits

structure MappingComponents where
  name : String
  path : String
  identifier : String
  deriving DecidableEq

def MappingComponents.isComplete (components : MappingComponents) : Bool :=
  components.name != "" && components.path != "" && components.identifier != ""

def isColon (char : Char) : Bool := char == ':'

/-- The last colon is in front of the identifier, the first one behind the name. -/
def parseMapping (mappingStr : String) : Except String MappingComponents := do
  let invalid := "Invalid mapping format (expected name:path:identifier): " ++ mappingStr
  let (nameAndPath, identifier) ← okOr invalid (splitLast isColon mappingStr.toList)
  let (name, path) ← okOr invalid (splitFirst isColon nameAndPath)
  let components := MappingComponents.mk (String.ofList name) (String.ofList path)
    (String.ofList identifier)
  require (components.isComplete = true) ("Mapping components cannot be empty: " ++ mappingStr)
  return components

/-- The mappings of NEAR have three parts between at signs. -/
def parseNearMapping (mappingStr : String) : Except String MappingComponents :=
  let parts := mappingStr.toList.splitOn '@'
  match parts with
  | [name, path, assetId] =>
      let components := MappingComponents.mk (String.ofList name) (String.ofList path)
        (String.ofList assetId)
      (require (components.isComplete = true)
        ("Mapping components cannot be empty: " ++ mappingStr)).map fun _ => components
  | _ =>
      if 3 < parts.length then
        .error ("Invalid mapping format: found " ++ toString parts.length ++
          " '@'-separated components, expected 3 (Name@FilePath@AssetId). " ++
          "A file path containing '@' cannot be used here: " ++ mappingStr)
      else .error ("Invalid mapping format (expected Name@FilePath@AssetId): " ++ mappingStr)

theorem isColon_eq_false_iff {chars : List Char} :
    (∀ char ∈ chars, isColon char = false) ↔ ':' ∉ chars := by
  constructor
  · intro hchars hcolon
    exact Bool.false_ne_true (hchars ':' hcolon).symm
  · intro hfree char hchar
    apply beq_eq_false_iff_ne.2
    rintro rfl
    exact hfree hchar

theorem parseMapping_parts {text : String} {components : MappingComponents} :
    parseMapping text = .ok components ↔ components.isComplete = true ∧
      ∃ before, splitLast isColon text.toList = some (before, components.identifier.toList) ∧
        splitFirst isColon before = some (components.name.toList, components.path.toList) := by
  simp only [parseMapping, bind_eq_ok, okOr_eq_ok, require_eq_ok, pure_eq_ok, Prod.exists]
  constructor
  · rintro ⟨before, identifier, hlast, name, path, hfirst, ⟨⟩, hcomplete, rfl⟩
    simp only [String.toList_ofList]
    exact ⟨hcomplete, before, hlast, hfirst⟩
  · rintro ⟨hcomplete, before, hlast, hfirst⟩
    refine ⟨before, _, hlast, _, _, hfirst, (), ?_, ?_⟩
    · simpa only [String.ofList_toList] using hcomplete
    · simp only [String.ofList_toList]

/-- A path may hold colons, a name and an identifier may not. -/
theorem parseMapping_eq_ok_iff {text : String} {components : MappingComponents} :
    parseMapping text = .ok components ↔ components.isComplete = true ∧
      text = components.name ++ ":" ++ components.path ++ ":" ++ components.identifier ∧
      ':' ∉ components.name.toList ∧ ':' ∉ components.identifier.toList := by
  rw [parseMapping_parts]
  apply and_congr_right
  intro _
  simp only [splitLast_eq_some_iff, splitFirst_eq_some_iff, isColon_eq_false_iff]
  constructor
  · rintro ⟨before, ⟨last, htext, hlast, hidentifier⟩, first, rfl, hfirst, hname⟩
    obtain rfl : last = ':' := beq_iff_eq.1 hlast
    obtain rfl : first = ':' := beq_iff_eq.1 hfirst
    refine ⟨String.toList_inj.1 ?_, hname, hidentifier⟩
    simp only [htext, String.toList_append, List.append_assoc]
    rfl
  · rintro ⟨htext, hname, hidentifier⟩
    refine ⟨components.name.toList ++ ':' :: components.path.toList, ⟨':', ?_, rfl, hidentifier⟩,
      ':', rfl, rfl, hname⟩
    simp only [htext, String.toList_append, List.append_assoc]
    rfl

/-- Neither part of a mapping of NEAR may hold an at sign. -/
theorem parseNearMapping_eq_ok_iff {text : String} {components : MappingComponents} :
    parseNearMapping text = .ok components ↔ components.isComplete = true ∧
      text = components.name ++ "@" ++ components.path ++ "@" ++ components.identifier ∧
      ∀ part ∈ [components.name, components.path, components.identifier], '@' ∉ part.toList := by
  have hparts : parseNearMapping text = .ok components ↔ components.isComplete = true ∧
      text.toList.splitOn '@' =
        [components.name.toList, components.path.toList, components.identifier.toList] := by
    unfold parseNearMapping
    dsimp only
    split
    · rename_i name path assetId hsplit
      rw [map_eq_ok]
      constructor
      · rintro ⟨⟨⟩, hcomplete, rfl⟩
        exact ⟨require_eq_ok.1 hcomplete, by simpa only [String.toList_ofList] using hsplit⟩
      · rintro ⟨hcomplete, hsame⟩
        rw [hsplit] at hsame
        simp only [List.cons.injEq, and_true] at hsame
        obtain ⟨rfl, rfl, rfl⟩ := hsame
        simp only [String.ofList_toList]
        exact ⟨(), require_eq_ok.2 hcomplete, trivial⟩
    · rename_i hother
      constructor
      · intro hok
        split_ifs at hok
      · rintro ⟨-, hsame⟩
        exact absurd hsame (hother _ _ _)
  rw [hparts, splitOn_eq_iff (List.cons_ne_nil _ _)]
  apply and_congr_right
  intro _
  have hjoined : (['@'].intercalate
      [components.name.toList, components.path.toList, components.identifier.toList]) =
      (components.name ++ "@" ++ components.path ++ "@" ++ components.identifier).toList := by
    simp only [String.toList_append, List.append_assoc]
    simp
  rw [hjoined, String.toList_inj]
  simp

/-- A mapping is a name, a path and an identifier, none of them empty, between the
separators of the chain: colons of which the path may hold more, or at signs. -/
theorem mapping_formats (text : String) (components : MappingComponents) :
    (parseMapping text = .ok components ↔ components.isComplete = true ∧
      text = components.name ++ ":" ++ components.path ++ ":" ++ components.identifier ∧
      ':' ∉ components.name.toList ∧ ':' ∉ components.identifier.toList) ∧
    (parseNearMapping text = .ok components ↔ components.isComplete = true ∧
      text = components.name ++ "@" ++ components.path ++ "@" ++ components.identifier ∧
      ∀ part ∈ [components.name, components.path, components.identifier], '@' ∉ part.toList) :=
  ⟨parseMapping_eq_ok_iff, parseNearMapping_eq_ok_iff⟩

/-! ## Files -/

def maxJsonFileSize : ℕ := 10 * 1024 * 1024

/-- What is called to read a file and to check that it is JSON.  A file of any length
is read up to one byte more than is allowed. -/
structure Files where
  openFile : String → Except String Bytes
  checkJson : String → Except String Unit

def loadJsonFile (files : Files) (path : String) : Except String String := do
  let bytes ← (files.openFile path).mapError fun error =>
    "Failed to read file at " ++ path ++ ": " ++ error
  let bounded := bytes.take (maxJsonFileSize + 1)
  let jsonContent ← okOr
    ("Failed to read file at " ++ path ++ ": stream did not contain valid UTF-8")
    (ofUtf8Bytes bounded)
  require (bounded.length ≤ maxJsonFileSize) ("File " ++ path ++ " exceeds maximum size (> " ++
    toString maxJsonFileSize ++ " bytes)")
  (files.checkJson jsonContent).mapError fun error =>
    "Invalid JSON in file " ++ path ++ ": " ++ error
  return jsonContent

/-- What is read up to one byte more than is allowed, and is not too long, is all there is. -/
theorem read_whole_iff {bytes : Bytes} {limit : ℕ} {text : String} :
    ofUtf8Bytes (bytes.take (limit + 1)) = some text ∧ (bytes.take (limit + 1)).length ≤ limit ↔
      bytes = utf8Bytes text ∧ (utf8Bytes text).length ≤ limit := by
  constructor
  · rintro ⟨htext, hsize⟩
    have hshort : bytes.length ≤ limit := by
      rw [List.length_take] at hsize
      omega
    rw [List.take_of_length_le (by omega)] at htext
    rw [utf8Bytes_of_ofUtf8Bytes htext]
    exact ⟨rfl, hshort⟩
  · rintro ⟨rfl, hsize⟩
    have hwhole : (utf8Bytes text).take (limit + 1) = utf8Bytes text :=
      List.take_of_length_le (by omega)
    rw [hwhole, ofUtf8Bytes_utf8Bytes]
    exact ⟨rfl, hsize⟩

/-- A file that is loaded is read whole. -/
theorem loadJsonFile_eq_ok_iff {files : Files} {path json : String} :
    loadJsonFile files path = .ok json ↔ files.openFile path = .ok (utf8Bytes json) ∧
      (utf8Bytes json).length ≤ maxJsonFileSize ∧ files.checkJson json = .ok () := by
  simp only [loadJsonFile, bind_eq_ok, mapError_eq_ok, okOr_eq_ok, require_eq_ok, pure_eq_ok]
  constructor
  · rintro ⟨bytes, hopen, content, hcontent, ⟨⟩, hsize, ⟨⟩, hjson, rfl⟩
    obtain ⟨rfl, hshort⟩ := read_whole_iff.1 ⟨hcontent, hsize⟩
    exact ⟨hopen, hshort, hjson⟩
  · rintro ⟨hopen, hsize, hjson⟩
    obtain ⟨hcontent, hbounded⟩ := read_whole_iff.2 ⟨rfl, hsize⟩
    exact ⟨_, hopen, json, hcontent, (), hbounded, (), hjson, rfl⟩

/-! ## Loading -/

structure MappingFormat where
  kind : String
  identifierLabel : String
  formatHint : String
  sample : String

/-- The map, the number of keys that were new, and the lines of the log. -/
structure Loaded (V : Type) where
  map : BTreeMap String V
  validCount : ℕ
  log : List String

namespace Loaded

variable {V : Type}

def logged (loaded : Loaded V) (lines : List String) : Loaded V :=
  { loaded with log := loaded.log ++ lines }

/-- `BTreeMap::insert`, which tells whether the key was there. -/
def inserted (format : MappingFormat) (components : MappingComponents) (loaded : Loaded V)
    (value : V) : Loaded V :=
  let map := loaded.map.insert components.identifier value
  if (loaded.map.get components.identifier).isSome = true then
    ⟨map, loaded.validCount, loaded.log ++ ["  Warning: Duplicate " ++ format.identifierLabel ++
      " '" ++ components.identifier ++ "' for " ++ format.kind ++ " '" ++ components.name ++
      "'; overwriting previous entry"]⟩
  else
    ⟨map, loaded.validCount + 1, loaded.log ++ ["  Loaded " ++ format.kind ++ " '" ++
      components.name ++ "' from " ++ components.path ++ " and mapped to " ++
      components.identifier]⟩

end Loaded

/-- How the mappings of a chain are read. -/
structure MappingKind (V : Type) where
  format : MappingFormat
  parse : String → Except String MappingComponents
  validateIdentifier : String → Except String Unit
  buildValue : MappingComponents → String → Except String V

section Loading

variable {V : Type} (files : Files) (kind : MappingKind V)

/-- One turn of the loop. -/
def loadMapping (loaded : Loaded V) (mapping : String) : Loaded V :=
  let format := kind.format
  match kind.parse mapping with
  | .error error => loaded.logged ["Error parsing " ++ format.kind ++ " mapping: " ++ error,
      "Expected format: " ++ format.formatHint, "Example: " ++ format.sample]
  | .ok components =>
      match kind.validateIdentifier components.identifier with
      | .error error => loaded.logged ["  Warning: Skipping " ++ format.kind ++ " '" ++
          components.name ++ "': invalid " ++ format.identifierLabel ++ " '" ++
          components.identifier ++ "': " ++ error]
      | .ok _ =>
          match loadJsonFile files components.path with
          | .error error => loaded.logged ["  Warning: Failed to load " ++ format.kind ++ " '" ++
              components.name ++ "' from '" ++ components.path ++ "': " ++ error]
          | .ok json =>
              match kind.buildValue components json with
              | .error error => loaded.logged ["  Warning: Skipping " ++ format.kind ++ " '" ++
                  components.name ++ "' (" ++ format.identifierLabel ++ " '" ++
                  components.identifier ++ "') from '" ++ components.path ++ "': " ++ error]
              | .ok value => loaded.inserted format components value

def loadMappings (mappings : List String) : Loaded V :=
  mappings.foldl (loadMapping files kind) ⟨BTreeMap.empty, 0, []⟩

/-- The mapping stands for the value under the identifier. -/
def Accepts (mapping identifier : String) (value : V) : Prop :=
  ∃ components json, kind.parse mapping = .ok components ∧
    kind.validateIdentifier components.identifier = .ok () ∧
    files.openFile components.path = .ok (utf8Bytes json) ∧
    (utf8Bytes json).length ≤ maxJsonFileSize ∧ files.checkJson json = .ok () ∧
    kind.buildValue components json = .ok value ∧ components.identifier = identifier

/-- The entry that a mapping makes. -/
def acceptedEntry (mapping : String) : Option (String × V) :=
  (do
    let components ← kind.parse mapping
    kind.validateIdentifier components.identifier
    let json ← loadJsonFile files components.path
    let value ← kind.buildValue components json
    return (components.identifier, value) : Except String (String × V)).toOption

variable {files kind}

theorem acceptedEntry_eq_some_iff {mapping identifier : String} {value : V} :
    acceptedEntry files kind mapping = some (identifier, value) ↔
      Accepts files kind mapping identifier value := by
  rw [acceptedEntry, toOption_eq_some]
  simp only [bind_eq_ok, pure_eq_ok, Prod.mk.injEq, loadJsonFile_eq_ok_iff, Accepts]
  constructor
  · rintro ⟨components, hparse, ⟨⟩, hvalid, json, ⟨hopen, hsize, hjson⟩, value, hvalue, hkey, rfl⟩
    exact ⟨components, json, hparse, hvalid, hopen, hsize, hjson, hvalue, hkey⟩
  · rintro ⟨components, json, hparse, hvalid, hopen, hsize, hjson, hvalue, hkey⟩
    exact ⟨components, hparse, (), hvalid, json, ⟨hopen, hsize, hjson⟩, value, hvalue, hkey, rfl⟩

/-- The entries of the map are counted as they come in. -/
structure Loaded.Holds (loaded : Loaded V) (entries : List (String × V)) : Prop where
  map : loaded.map = BTreeMap.empty.insertAll entries
  validCount : loaded.validCount = loaded.map.entries.length

theorem loadMapping_holds {loaded : Loaded V} {entries : List (String × V)}
    (hloaded : loaded.Holds entries) (mapping : String) :
    (loadMapping files kind loaded mapping).Holds
        (entries ++ (acceptedEntry files kind mapping).toList) ∧
      ∃ line lines, (loadMapping files kind loaded mapping).log = loaded.log ++ line :: lines := by
  have hskipped (line : String) (lines : List String) :
      (loaded.logged (line :: lines)).Holds (entries ++ []) ∧
        ∃ first rest, (loaded.logged (line :: lines)).log = loaded.log ++ first :: rest := by
    rw [List.append_nil]
    exact ⟨⟨hloaded.map, hloaded.validCount⟩, line, lines, rfl⟩
  unfold loadMapping acceptedEntry
  cases hparse : kind.parse mapping with
  | error error => exact hskipped _ _
  | ok components =>
      rw [ok_bind]
      dsimp only
      cases hvalid : kind.validateIdentifier components.identifier with
      | error error => exact hskipped _ _
      | ok _ =>
          rw [ok_bind]
          dsimp only
          cases hjson : loadJsonFile files components.path with
          | error error => exact hskipped _ _
          | ok json =>
              rw [ok_bind]
              dsimp only
              cases hvalue : kind.buildValue components json with
              | error error => exact hskipped _ _
              | ok value =>
                  have hmap : loaded.map.insert components.identifier value =
                      BTreeMap.empty.insertAll (entries ++ [(components.identifier, value)]) := by
                    rw [BTreeMap.insertAll_append, hloaded.map]
                  have hcount := BTreeMap.length_insert loaded.map components.identifier value
                  dsimp only [ok_bind]
                  unfold Loaded.inserted
                  dsimp only
                  split_ifs with hknown
                  · rw [if_pos hknown] at hcount
                    exact ⟨⟨hmap, hloaded.validCount.trans hcount.symm⟩, _, [], rfl⟩
                  · rw [if_neg hknown, ← hloaded.validCount] at hcount
                    exact ⟨⟨hmap, hcount.symm⟩, _, [], rfl⟩

theorem loadMappings_concat (mappings : List String) (mapping : String) :
    loadMappings files kind (mappings ++ [mapping]) =
      loadMapping files kind (loadMappings files kind mappings) mapping := by
  rw [loadMappings, List.foldl_append]
  rfl

theorem loadMappings_holds (mappings : List String) :
    (loadMappings files kind mappings).Holds (mappings.filterMap (acceptedEntry files kind)) := by
  induction mappings using List.reverseRecOn with
  | nil => exact ⟨rfl, rfl⟩
  | append_singleton mappings mapping ih =>
      have hentries : (mappings ++ [mapping]).filterMap (acceptedEntry files kind) =
          mappings.filterMap (acceptedEntry files kind) ++
            (acceptedEntry files kind mapping).toList := by
        rw [List.filterMap_append]
        cases hentry : acceptedEntry files kind mapping <;> simp [hentry]
      rw [loadMappings_concat, hentries]
      exact (loadMapping_holds ih mapping).1

/-- The log of the first mappings stays in front of what the others add. -/
theorem log_loadMappings_prefix (mappings others : List String) :
    (loadMappings files kind mappings).log <+:
      (loadMappings files kind (mappings ++ others)).log := by
  induction others using List.reverseRecOn with
  | nil => rw [List.append_nil]
  | append_singleton others mapping ih =>
      have hholds : (loadMappings files kind (mappings ++ others)).Holds _ := loadMappings_holds _
      obtain ⟨-, line, lines, hlog⟩ := loadMapping_holds hholds mapping
      rw [← List.append_assoc, loadMappings_concat, hlog]
      exact ih.trans (List.prefix_append _ _)

variable (files kind) in
/-- What the last mapping of the identifier that can be used stands for. -/
def Chosen (mappings : List String) (identifier : String) (value : V) : Prop :=
  ∃ before mapping after, mappings = before ++ mapping :: after ∧
    Accepts files kind mapping identifier value ∧
    ∀ later ∈ after, ∀ other, ¬Accepts files kind later identifier other

theorem get_loadMappings {mappings : List String} {identifier : String} {value : V} :
    (loadMappings files kind mappings).map.get identifier = some value ↔
      Chosen files kind mappings identifier value := by
  rw [(loadMappings_holds mappings).map, BTreeMap.get_insertAll, BTreeMap.get_empty,
    Option.or_none, lastOf_filterMap_eq_some_iff]
  simp only [ne_eq, acceptedEntry_eq_some_iff]
  rfl

variable (files kind)

/-- The last mapping of an identifier that can be used is the one in the map, the
count is the number of its entries, and every mapping adds a line of its own to the
log, which the mappings behind it leave there. -/
theorem last_mapping_wins (mappings : List String) :
    (∀ identifier value,
      (loadMappings files kind mappings).map.get identifier = some value ↔
        ∃ before mapping after, mappings = before ++ mapping :: after ∧
          Accepts files kind mapping identifier value ∧
          ∀ later ∈ after, ∀ other, ¬Accepts files kind later identifier other) ∧
    (loadMappings files kind mappings).validCount =
      (loadMappings files kind mappings).map.entries.length ∧
    ∀ before mapping after, mappings = before ++ mapping :: after →
      ∃ line lines, (loadMappings files kind (before ++ [mapping])).log =
          (loadMappings files kind before).log ++ line :: lines ∧
        (loadMappings files kind (before ++ [mapping])).log <+:
          (loadMappings files kind mappings).log := by
  refine ⟨fun _ _ => get_loadMappings, (loadMappings_holds mappings).validCount, ?_⟩
  rintro before mapping after rfl
  have hholds : (loadMappings files kind before).Holds _ := loadMappings_holds before
  obtain ⟨-, line, lines, hlog⟩ := loadMapping_holds hholds mapping
  rw [List.append_cons before mapping after]
  exact ⟨line, lines, (congrArg Loaded.log (loadMappings_concat before mapping)).trans hlog,
    log_loadMappings_prefix _ _⟩

end Loading

end VisualSignParser.Cli
