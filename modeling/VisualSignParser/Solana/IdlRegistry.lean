import VisualSignParser.Codec.Base58
import VisualSignParser.Json.Parser
import VisualSignParser.Solana.BuiltinPrograms
import VisualSignParser.Solana.IdlSignature

/-!
# IDLs of the caller

A request carries an IDL for each of some programs.  Extraction drops the ones
that are refused and settles a name for each of the others, and the registry
keeps the body, that name and the name inside of the IDL.  Both names end up in
the label of the program.
-/

namespace VisualSignParser.Solana

open VisualSignParser.Framing
open VisualSignParser.OrderedMap
open VisualSignParser.Ethereum (SignerAllowlist)

/-! ## Names inside of an IDL -/

/-- `Value::get` with a key: the value of a member, none for what is no object. -/
def getMember (key : String) : Json.Value → Option Json.Value
  | .object members => (members.find? fun member => member.1 = key).map Prod.snd
  | _ => none

def asStr : Json.Value → Option String
  | .string text => some text
  | _ => none

/-- The text under `metadata.name`. -/
def metadataName (value : Json.Value) : Option String :=
  (getMember "metadata" value).bind fun metadata => (getMember "name" metadata).bind asStr

/-- `Pubkey::from_str` and the text of a key. -/
structure PubkeyText where
  fromStr : String → Option (ByteArr 32)
  toText : ByteArr 32 → String

/-- A text that names a key is the text of the key. -/
def PubkeyText.Canonical (pubkeys : PubkeyText) : Prop :=
  ∀ text key, pubkeys.fromStr text = some key → pubkeys.toText key = text

/-- What is called in other crates: the text of a key, signatures, the programs
with an IDL, and `serde_json::from_str` into a value. -/
structure Crates where
  pubkeys : PubkeyText
  ed25519 : Ed25519
  fromProgramId : String → Option ProgramType
  readJson : String → Option Json.Value

section Registry

variable (crates : Crates)

def extractNameFromIdlJson (idlJson : String) : Option String :=
  (crates.readJson idlJson).bind fun value =>
    match metadataName value with
    | some name => some name
    | none => (getMember "name" value).bind asStr

/-! ## Extraction -/

def maxIdlJsonBytes : ℕ := 1024 * 1024

/-- The text of a key is ASCII, so the slice of eight bytes is one of eight
characters. -/
def fallbackName (programId : String) : String :=
  "Program " ++ String.ofList (programId.toList.take 8)

/-- An absent signature is accepted. -/
def acceptsSignature (allowlist : SignerAllowlist) (pubkey : ByteArr 32) (idl : Proto.Idl) : Bool :=
  match idl.signature with
  | some signature => (validateIdlSignature crates.ed25519 idl.value pubkey
      (convertProtoSignature signature) allowlist).toBool
  | none => true

def resolvedName (programId : String) (idl : Proto.Idl) : String :=
  match idl.programName with
  | some name => name
  | none => (extractNameFromIdlJson crates idl.value).getD (fallbackName programId)

/-- One turn of the loop over the mappings: what is inserted for the entry. -/
def extractMapping (allowlist : SignerAllowlist) (programId : String) (idl : Proto.Idl) :
    Option (String × String) :=
  match crates.pubkeys.fromStr programId with
  | none => none
  | some pubkey =>
      if isTrustedProgram crates.fromProgramId programId then none
      else if maxIdlJsonBytes < (utf8Bytes idl.value).length then none
      else if acceptsSignature crates allowlist pubkey idl then
        if isReservedCanonicalName (resolvedName crates programId idl) then none
        else some (idl.value, resolvedName crates programId idl)
      else none

def extractIdlMappingsWithSigners (metadata : Option Proto.ChainMetadata)
    (allowlist : SignerAllowlist) : BTreeMap String (String × String) :=
  match metadata.bind Proto.ChainMetadata.metadata with
  | some (.solana solana) => solana.idlMappings.entries.foldl
      (BTreeMap.insertChosen (extractMapping crates allowlist)) BTreeMap.empty
  | _ => BTreeMap.empty

/-! ## The registry -/

/-- `CustomIdlConfig::from_json`. -/
structure CustomIdlConfig where
  json : String
  overrideBuiltin : Bool
  deriving DecidableEq

structure IdlRegistry where
  configs : BTreeMap String CustomIdlConfig
  names : BTreeMap String String
  idlNames : BTreeMap String String

/-- One turn of the loop: a trusted program is passed over. -/
def addMapping (registry : IdlRegistry) (entry : String × String × String) : IdlRegistry :=
  if isTrustedProgram crates.fromProgramId entry.1 then registry
  else
    { configs := registry.configs.insert entry.1 ⟨entry.2.1, true⟩
      names := registry.names.insert entry.1 entry.2.2
      idlNames := match (crates.readJson entry.2.1).bind metadataName with
        | some name => registry.idlNames.insert entry.1 name
        | none => registry.idlNames }

def IdlRegistry.fromIdlMappings (mappings : BTreeMap String (String × String)) : IdlRegistry :=
  mappings.entries.foldl (addMapping crates) ⟨BTreeMap.empty, BTreeMap.empty, BTreeMap.empty⟩

def IdlRegistry.getProgramName (registry : IdlRegistry) (programId : ByteArr 32) : String :=
  match canonicalName crates.fromProgramId (crates.pubkeys.toText programId) with
  | some name => name
  | none =>
      match registry.names.get (crates.pubkeys.toText programId) with
      | some name => name
      | none => fallbackName (crates.pubkeys.toText programId)

def IdlRegistry.getIdlName (registry : IdlRegistry) (programId : ByteArr 32) : Option String :=
  if (canonicalName crates.fromProgramId (crates.pubkeys.toText programId)).isSome then none
  else registry.idlNames.get (crates.pubkeys.toText programId)

/-- The program as `try_idl_parsing` shows it. -/
def IdlRegistry.programDisplay (registry : IdlRegistry) (programId : ByteArr 32) : String :=
  match registry.getIdlName crates programId with
  | some idlName => registry.getProgramName crates programId ++ " (name: " ++ idlName ++ ")"
  | none => registry.getProgramName crates programId

/-- The registry a request leads to. -/
def callerRegistry (metadata : Option Proto.ChainMetadata) (allowlist : SignerAllowlist) :
    IdlRegistry :=
  IdlRegistry.fromIdlMappings crates (extractIdlMappingsWithSigners crates metadata allowlist)

end Registry

end VisualSignParser.Solana
