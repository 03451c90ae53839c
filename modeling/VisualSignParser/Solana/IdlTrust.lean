import VisualSignParser.Solana.IdlRegistry

/-!
# What the caller's IDLs can claim

A trusted program has no IDL in the registry, and a signed IDL was signed by an
authorized key.  The name in the label of a program is checked against the
reserved names; the name inside of the IDL is checked only where it is the name
in the label.
-/

namespace VisualSignParser.Solana

open VisualSignParser.Framing
open VisualSignParser.OrderedMap
open VisualSignParser.Ethereum (SignerAllowlist)

variable {crates : Crates} {allowlist : SignerAllowlist}

/-! ## One mapping -/

/-- The checks before a name is settled: the program id is a key, it is not one
of a trusted program, the text is not too long, and a signature is valid. -/
def AcceptedBody (crates : Crates) (allowlist : SignerAllowlist) (programId : String)
    (idl : Proto.Idl) : Prop :=
  ∃ pubkey, crates.pubkeys.fromStr programId = some pubkey ∧
    isTrustedProgram crates.fromProgramId programId = false ∧
    (utf8Bytes idl.value).length ≤ maxIdlJsonBytes ∧
    acceptsSignature crates allowlist pubkey idl = true

theorem extractMapping_eq_some {programId : String} {idl : Proto.Idl} {kept : String × String} :
    extractMapping crates allowlist programId idl = some kept ↔
      AcceptedBody crates allowlist programId idl ∧
        isReservedCanonicalName (resolvedName crates programId idl) = false ∧
        kept = (idl.value, resolvedName crates programId idl) := by
  rw [extractMapping, AcceptedBody]
  cases crates.pubkeys.fromStr programId with
  | none => simp
  | some pubkey =>
      dsimp only
      split_ifs with htrusted hlength hsignature hreserved
      · simp [htrusted]
      · simp [Nat.not_le.2 hlength]
      · simp [hreserved]
      · constructor
        · intro hkept
          exact ⟨⟨pubkey, rfl, Bool.not_eq_true _ ▸ htrusted, Nat.not_lt.1 hlength, hsignature⟩,
            Bool.not_eq_true _ ▸ hreserved, (Option.some.inj hkept).symm⟩
        · rintro ⟨-, -, rfl⟩
          rfl
      · simp [hsignature]

theorem signedByAllowlisted_of_acceptsSignature {pubkey : ByteArr 32} {idl : Proto.Idl}
    {signature : Proto.SignatureMetadata} (hsignature : idl.signature = some signature)
    (haccepts : acceptsSignature crates allowlist pubkey idl = true) :
    SignedByAllowlisted crates.ed25519 allowlist pubkey idl.value signature := by
  rw [acceptsSignature, hsignature] at haccepts
  dsimp only at haccepts
  apply signedByAllowlisted_of_validate
  cases hvalid : validateIdlSignature crates.ed25519 idl.value pubkey
      (convertProtoSignature signature) allowlist with
  | ok value => rfl
  | error error =>
      rw [hvalid] at haccepts
      cases haccepts

/-! ## The registry of a request -/

/-- A trusted program is passed over, so each map of the registry is filled by a
loop of its own. -/
theorem foldl_addMapping (entries : List (String × String × String)) (registry : IdlRegistry) :
    entries.foldl (addMapping crates) registry =
      ⟨entries.foldl (BTreeMap.insertChosen fun programId kept =>
          if isTrustedProgram crates.fromProgramId programId then none
          else some ⟨kept.1, true⟩) registry.configs,
        entries.foldl (BTreeMap.insertChosen fun programId kept =>
          if isTrustedProgram crates.fromProgramId programId then none
          else some kept.2) registry.names,
        entries.foldl (BTreeMap.insertChosen fun programId kept =>
          if isTrustedProgram crates.fromProgramId programId then none
          else (crates.readJson kept.1).bind metadataName) registry.idlNames⟩ := by
  induction entries generalizing registry with
  | nil => rfl
  | cons entry entries ih =>
      rw [List.foldl_cons, ih, List.foldl_cons, List.foldl_cons, List.foldl_cons]
      by_cases htrusted : isTrustedProgram crates.fromProgramId entry.1 = true
      · simp only [addMapping, BTreeMap.insertChosen, htrusted, if_true]
      · simp only [addMapping, BTreeMap.insertChosen, if_neg htrusted]
        cases (crates.readJson entry.2.1).bind metadataName <;> rfl

/-- The registry of a request with these mappings. -/
def registryOf (crates : Crates) (allowlist : SignerAllowlist) (solana : Proto.SolanaMetadata) :
    IdlRegistry :=
  callerRegistry crates (some ⟨some (.solana solana)⟩) allowlist

/-- The IDL of a program that passes every check. -/
def Kept (crates : Crates) (allowlist : SignerAllowlist) (solana : Proto.SolanaMetadata)
    (programId : String) (idl : Proto.Idl) : Prop :=
  solana.idlMappings.get programId = some idl ∧ AcceptedBody crates allowlist programId idl ∧
    isReservedCanonicalName (resolvedName crates programId idl) = false

variable {solana : Proto.SolanaMetadata}

theorem get_extractIdlMappings (programId : String) :
    (extractIdlMappingsWithSigners crates (some ⟨some (.solana solana)⟩) allowlist).get programId =
      (solana.idlMappings.get programId).bind (extractMapping crates allowlist programId) :=
  BTreeMap.get_foldl_insertChosen_empty _ solana.idlMappings programId

/-- Each map of the registry holds what is chosen for the kept IDLs. -/
theorem get_of_kept {W : Type} (choose : String × String → Option W) {programId : String}
    {value : W} :
    ((extractIdlMappingsWithSigners crates (some ⟨some (.solana solana)⟩)
        allowlist).entries.foldl (BTreeMap.insertChosen fun programId kept =>
          if isTrustedProgram crates.fromProgramId programId then none else choose kept)
        BTreeMap.empty).get programId = some value ↔
      ∃ idl, Kept crates allowlist solana programId idl ∧
        choose (idl.value, resolvedName crates programId idl) = some value := by
  rw [BTreeMap.get_foldl_insertChosen_empty, get_extractIdlMappings, Option.bind_eq_some_iff]
  constructor
  · rintro ⟨kept, hkept, hchoose⟩
    obtain ⟨idl, hidl, hkept⟩ := Option.bind_eq_some_iff.1 hkept
    obtain ⟨hbody, hname, rfl⟩ := extractMapping_eq_some.1 hkept
    split_ifs at hchoose with htrusted
    exact ⟨idl, ⟨hidl, hbody, hname⟩, hchoose⟩
  · rintro ⟨idl, ⟨hidl, hbody, hname⟩, hchoose⟩
    obtain ⟨pubkey, -, htrusted, -⟩ := id hbody
    refine ⟨(idl.value, resolvedName crates programId idl), ?_, ?_⟩
    · rw [hidl, Option.bind_some]
      exact extractMapping_eq_some.2 ⟨hbody, hname, rfl⟩
    · rw [htrusted]
      exact hchoose

theorem registryOf_configs {programId : String} {config : CustomIdlConfig} :
    (registryOf crates allowlist solana).configs.get programId = some config ↔
      ∃ idl, Kept crates allowlist solana programId idl ∧ ⟨idl.value, true⟩ = config := by
  rw [registryOf, callerRegistry, IdlRegistry.fromIdlMappings, foldl_addMapping]
  exact (get_of_kept fun kept => some (CustomIdlConfig.mk kept.1 true)).trans
    (by simp only [Option.some.injEq])

theorem registryOf_names {programId name : String} :
    (registryOf crates allowlist solana).names.get programId = some name ↔
      ∃ idl, Kept crates allowlist solana programId idl ∧
        resolvedName crates programId idl = name := by
  rw [registryOf, callerRegistry, IdlRegistry.fromIdlMappings, foldl_addMapping]
  exact (get_of_kept fun kept => some kept.2).trans (by simp only [Option.some.injEq])

theorem registryOf_idlNames {programId name : String} :
    (registryOf crates allowlist solana).idlNames.get programId = some name ↔
      ∃ idl, Kept crates allowlist solana programId idl ∧
        (crates.readJson idl.value).bind metadataName = some name := by
  rw [registryOf, callerRegistry, IdlRegistry.fromIdlMappings, foldl_addMapping]
  exact get_of_kept fun kept => (crates.readJson kept.1).bind metadataName

/-! ## Trust -/

/-- What the registry of a request promises.  A program owns the name
`canonicalName` gives it. -/
structure CallerIdlTrust (crates : Crates) (allowlist : SignerAllowlist)
    (solana : Proto.SolanaMetadata) : Prop where
  trusted_absent : ∀ programId, isTrustedProgram crates.fromProgramId programId = true →
    (registryOf crates allowlist solana).configs.get programId = none
  trusted_ignored : ∀ other : Proto.SolanaMetadata,
    (∀ programId, isTrustedProgram crates.fromProgramId programId = false →
      solana.idlMappings.get programId = other.idlMappings.get programId) →
    registryOf crates allowlist solana = registryOf crates allowlist other
  signed : ∀ programId config,
    (registryOf crates allowlist solana).configs.get programId = some config →
    ∃ idl pubkey, solana.idlMappings.get programId = some idl ∧ config.json = idl.value ∧
      crates.pubkeys.fromStr programId = some pubkey ∧
      ∀ signature, idl.signature = some signature →
        SignedByAllowlisted crates.ed25519 allowlist pubkey idl.value signature
  program_name : ∀ pubkey,
    isReservedCanonicalName ((registryOf crates allowlist solana).getProgramName crates pubkey) =
      true →
    canonicalName crates.fromProgramId (crates.pubkeys.toText pubkey) =
      some ((registryOf crates allowlist solana).getProgramName crates pubkey)
  idl_name : ∀ pubkey name,
    (registryOf crates allowlist solana).getIdlName crates pubkey = some name →
    isReservedCanonicalName name = true →
    canonicalName crates.fromProgramId (crates.pubkeys.toText pubkey) = some name

theorem configs_of_trusted {programId : String}
    (htrusted : isTrustedProgram crates.fromProgramId programId = true) :
    (registryOf crates allowlist solana).configs.get programId = none := by
  apply Option.eq_none_iff_forall_ne_some.2
  intro config hconfig
  obtain ⟨idl, ⟨-, ⟨pubkey, -, huntrusted, -⟩, -⟩, -⟩ := registryOf_configs.1 hconfig
  rw [htrusted] at huntrusted
  cases huntrusted

/-- Extraction does not look at the mappings of trusted programs. -/
theorem registryOf_eq_of_untrusted {other : Proto.SolanaMetadata}
    (hagree : ∀ programId, isTrustedProgram crates.fromProgramId programId = false →
      solana.idlMappings.get programId = other.idlMappings.get programId) :
    registryOf crates allowlist solana = registryOf crates allowlist other := by
  have hdrop {programId : String} (idl : Proto.Idl)
      (htrusted : isTrustedProgram crates.fromProgramId programId = true) :
      extractMapping crates allowlist programId idl = none := by
    apply Option.eq_none_iff_forall_ne_some.2
    intro kept hkept
    obtain ⟨⟨pubkey, -, huntrusted, -⟩, -⟩ := extractMapping_eq_some.1 hkept
    rw [htrusted] at huntrusted
    cases huntrusted
  have hextract : extractIdlMappingsWithSigners crates (some ⟨some (.solana solana)⟩) allowlist =
      extractIdlMappingsWithSigners crates (some ⟨some (.solana other)⟩) allowlist := by
    apply BTreeMap.ext_get
    intro programId
    rw [get_extractIdlMappings, get_extractIdlMappings]
    cases htrusted : isTrustedProgram crates.fromProgramId programId with
    | false => rw [hagree programId htrusted]
    | true =>
        calc
          (solana.idlMappings.get programId).bind (extractMapping crates allowlist programId)
            = none := Option.bind_eq_none_iff.2 fun idl _ => hdrop idl htrusted
          _ = (other.idlMappings.get programId).bind (extractMapping crates allowlist programId) :=
            (Option.bind_eq_none_iff.2 fun idl _ => hdrop idl htrusted).symm
  rw [registryOf, registryOf, callerRegistry, callerRegistry, hextract]

theorem signed_of_configs {programId : String} {config : CustomIdlConfig}
    (hconfig : (registryOf crates allowlist solana).configs.get programId = some config) :
    ∃ idl pubkey, solana.idlMappings.get programId = some idl ∧ config.json = idl.value ∧
      crates.pubkeys.fromStr programId = some pubkey ∧
      ∀ signature, idl.signature = some signature →
        SignedByAllowlisted crates.ed25519 allowlist pubkey idl.value signature := by
  obtain ⟨idl, ⟨hidl, ⟨pubkey, hpubkey, -, -, haccepts⟩, -⟩, rfl⟩ := registryOf_configs.1 hconfig
  refine ⟨idl, pubkey, hidl, rfl, hpubkey, ?_⟩
  intro signature hsignature
  exact signedByAllowlisted_of_acceptsSignature hsignature haccepts

/-- A program without a name of its own is never shown under a reserved one. -/
theorem getProgramName_owned (pubkey : ByteArr 32)
    (hreserved : isReservedCanonicalName
      ((registryOf crates allowlist solana).getProgramName crates pubkey) = true) :
    canonicalName crates.fromProgramId (crates.pubkeys.toText pubkey) =
      some ((registryOf crates allowlist solana).getProgramName crates pubkey) := by
  rw [IdlRegistry.getProgramName] at hreserved ⊢
  cases hcanonical : canonicalName crates.fromProgramId (crates.pubkeys.toText pubkey) with
  | some name => rfl
  | none =>
      rw [hcanonical] at hreserved
      dsimp only at hreserved
      cases hname : (registryOf crates allowlist solana).names.get
          (crates.pubkeys.toText pubkey) with
      | none =>
          rw [hname] at hreserved
          dsimp only at hreserved
          rw [fallbackName, isReservedCanonicalName_program] at hreserved
          cases hreserved
      | some name =>
          obtain ⟨idl, ⟨-, -, hfree⟩, rfl⟩ := registryOf_names.1 hname
          rw [hname] at hreserved
          dsimp only at hreserved
          rw [hfree] at hreserved
          cases hreserved

/-- Without a name in the mapping, the name inside of the IDL is the one that is checked. -/
theorem resolvedName_of_metadataName {programId name : String} {idl : Proto.Idl}
    (hprogramName : idl.programName = none)
    (hname : (crates.readJson idl.value).bind metadataName = some name) :
    resolvedName crates programId idl = name := by
  obtain ⟨value, hvalue, hname⟩ := Option.bind_eq_some_iff.1 hname
  rw [resolvedName, hprogramName]
  dsimp only
  rw [extractNameFromIdlJson, hvalue, Option.bind_some, hname]
  rfl

/-- The registry keeps its promises exactly when no IDL that is accepted under a
name of the mapping has a reserved name inside. -/
theorem callerIdl_trust_iff (crates : Crates) (allowlist : SignerAllowlist)
    (solana : Proto.SolanaMetadata) (hcanonical : crates.pubkeys.Canonical) :
    CallerIdlTrust crates allowlist solana ↔
      ∀ programId idl programName name, solana.idlMappings.get programId = some idl →
        AcceptedBody crates allowlist programId idl → idl.programName = some programName →
        isReservedCanonicalName programName = false →
        (crates.readJson idl.value).bind metadataName = some name →
        isReservedCanonicalName name = false := by
  constructor
  · intro htrust programId idl programName name hidl hbody hprogramName hfree hname
    obtain ⟨pubkey, hpubkey, htrusted, -⟩ := id hbody
    have hnone := canonicalName_of_not_trusted htrusted
    have htext := hcanonical programId pubkey hpubkey
    have hresolved : resolvedName crates programId idl = programName := by
      rw [resolvedName, hprogramName]
    have hkept : Kept crates allowlist solana programId idl := by
      refine ⟨hidl, hbody, ?_⟩
      rw [hresolved]
      exact hfree
    have hget : (registryOf crates allowlist solana).getIdlName crates pubkey = some name := by
      rw [IdlRegistry.getIdlName, htext, hnone]
      exact registryOf_idlNames.2 ⟨idl, hkept, hname⟩
    by_contra hreserved
    have howned := htrust.idl_name pubkey name hget (Bool.not_eq_false _ ▸ hreserved)
    rw [htext, hnone] at howned
    cases howned
  · intro hnames
    refine ⟨fun _ => configs_of_trusted, fun _ => registryOf_eq_of_untrusted,
      fun _ _ => signed_of_configs, getProgramName_owned, ?_⟩
    intro pubkey name hget hreserved
    rw [IdlRegistry.getIdlName] at hget
    split_ifs at hget with hsome
    obtain ⟨idl, ⟨hidl, hbody, hfree⟩, hname⟩ := registryOf_idlNames.1 hget
    cases hprogramName : idl.programName with
    | none =>
        rw [resolvedName_of_metadataName hprogramName hname, hreserved] at hfree
        cases hfree
    | some programName =>
        rw [resolvedName, hprogramName] at hfree
        rw [hnames _ idl programName name hidl hbody hprogramName hfree hname] at hreserved
        cases hreserved

/-! ## A reserved name inside of an IDL -/

/-- Keys in base 58, no program with an IDL, and JSON with the nesting the
reader allows.  No signature is valid. -/
def plainCrates : Crates where
  pubkeys :=
    { fromStr := fun text => (Base58.decode text).bind fun bytes =>
        if hlength : bytes.length = 32 then some ⟨bytes, hlength⟩ else none
      toText := fun key => Base58.encode key.val }
  ed25519 :=
    { VerifyingKey := ByteArr 32
      fromBytes := .ok
      toBytes := id
      verifyStrict := fun _ _ _ => .error "signature error" }
  fromProgramId := fun _ => none
  readJson := fun text => Json.parseDocument 128 text.toList

theorem plainCrates_canonical : plainCrates.pubkeys.Canonical := by
  intro text key hkey
  obtain ⟨bytes, hbytes, hkey⟩ := Option.bind_eq_some_iff.1 hkey
  split_ifs at hkey with hlength
  rw [← Option.some.inj hkey]
  exact Base58.encode_of_decode hbytes

/-- One unsigned mapping, with a name of its own and a name inside of the IDL. -/
def namedMetadata (programName idlJson : String) : Proto.SolanaMetadata :=
  ⟨none, none, BTreeMap.empty.insert "9xQeWvG816bUx9EPjHmaT23yvVM2ZWbrrpZb9PusVFin"
    ⟨idlJson, none, none, none, some programName⟩, none⟩

def plainIdl : String := "\x7b\"metadata\":\x7b\"name\":\"My Custom Program\"\x7d\x7d"

def impostorIdl : String := "\x7b\"metadata\":\x7b\"name\":\"System Program\"\x7d\x7d"

/-- The key in the mapping. -/
def callerKey : ByteArr 32 :=
  ⟨[133, 15, 45, 110, 2, 164, 122, 248, 36, 208, 154, 182, 157, 196, 45, 112, 203, 40, 203, 250,
    36, 159, 183, 238, 87, 185, 210, 86, 193, 39, 98, 239], rfl⟩

theorem callerIdl_trust_plain :
    CallerIdlTrust plainCrates ⟨[]⟩ (namedMetadata "My Custom Program" plainIdl) ∧
      (registryOf plainCrates ⟨[]⟩ (namedMetadata "My Custom Program" plainIdl)).programDisplay
        plainCrates callerKey = "My Custom Program (name: My Custom Program)" := by
  constructor
  · apply (callerIdl_trust_iff plainCrates ⟨[]⟩ _ plainCrates_canonical).2
    intro programId idl programName name hidl _ _ _ hname
    have hvalue : idl.value = plainIdl := by
      rw [namedMetadata, BTreeMap.get_insert] at hidl
      split_ifs at hidl with hkey
      · rw [← Option.some.inj hidl]
      · cases hidl
    have hread : (plainCrates.readJson plainIdl).bind metadataName = some "My Custom Program" := by
      decide +kernel
    rw [hvalue, hread] at hname
    rw [← Option.some.inj hname]
    decide
  · decide +kernel

/-- A program nobody knows is shown with the name of the system program. -/
theorem reserved_name_inside_idl :
    (registryOf plainCrates ⟨[]⟩ (namedMetadata "My Custom Program" impostorIdl)).programDisplay
        plainCrates callerKey = "My Custom Program (name: System Program)" ∧
      ¬CallerIdlTrust plainCrates ⟨[]⟩ (namedMetadata "My Custom Program" impostorIdl) := by
  apply And.intro (by decide +kernel)
  intro htrust
  have hget : (registryOf plainCrates ⟨[]⟩ (namedMetadata "My Custom Program"
      impostorIdl)).getIdlName plainCrates callerKey = some "System Program" := by decide +kernel
  have hnone : canonicalName plainCrates.fromProgramId (plainCrates.pubkeys.toText callerKey) =
      none := by decide +kernel
  have howned := htrust.idl_name callerKey "System Program" hget (by decide)
  rw [hnone] at howned
  cases howned

end VisualSignParser.Solana
