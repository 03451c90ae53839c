import VisualSignParser.Cli.AbiMappings
import VisualSignParser.Ethereum.AbiCoverage
import VisualSignParser.Ethereum.Convert

/-!
# What the tool signs, its parser accepts

The command line tool parses under the policy that asks for its own key.  Every ABI
that it puts into the metadata is signed for its address and its chain, so that only
the size and the text can still keep it out.
-/

namespace VisualSignParser.Cli

open VisualSignParser.Deploy
open VisualSignParser.Ethereum
open VisualSignParser.Framing
open VisualSignParser.OrderedMap
open VisualSignParser.Outcome

/-- Addresses are read as hexadecimal texts, and every address is read from its text. -/
structure ReadsAddresses (formats : Formats) : Prop where
  reads : ∀ text address, formats.parseAddress text = some address →
    Hex.decodeHex text = .ok address.val
  complete : ∀ address : Address, formats.parseAddress (hexText address.val) = some address

section Posture

variable {formats : Formats} {k256 : K256} {signing : K256Signing k256}
  {parseError : String → String} {files : Files} {chainId : ChainId}

/-! ## Every entry is signed -/

variable (signing chainId) in
/-- The key is the text of the address for which the ABI is signed. -/
structure SignedEntry (key : String) (abi : Proto.Abi) (address : Address) : Prop where
  spelled : key = hexText address.val
  signed : ∃ signature, abi.signature = some signature ∧
    signAbiForCli signing abi.value address chainId = .ok signature

theorem signedEntry_fileAbi (haddresses : ReadsAddresses formats)
    {components : MappingComponents} {json : String} {abi : Proto.Abi}
    (hvalid : validateEthAddress components.identifier = .ok ())
    (habi : fileAbi formats signing parseError chainId components json = .ok abi) :
    ∃ address, SignedEntry signing chainId (normalizeEthAddress components.identifier) abi
      address := by
  obtain ⟨address, hdecoded, hnormal⟩ := normalizeEthAddress_of_valid hvalid
  simp only [fileAbi, bind_eq_ok, okOr_eq_ok, mapError_eq_ok, pure_eq_ok] at habi
  obtain ⟨parsed, hparsed, signature, hsigned, rfl⟩ := habi
  have hsame : parsed = address :=
    Subtype.ext (Except.ok.inj ((haddresses.reads _ _ hparsed).symm.trans hdecoded))
  rw [hsame] at hsigned
  exact ⟨address, hnormal, signature, rfl, hsigned⟩

theorem signedEntry_emptyProxyAbi (haddresses : ReadsAddresses formats) {address : Address}
    {abi : Proto.Abi}
    (habi : emptyProxyAbi formats signing parseError chainId (hexText address.val) = .ok abi) :
    SignedEntry signing chainId (hexText address.val) abi address := by
  simp only [emptyProxyAbi, haddresses.complete, bind_eq_ok, okOr_eq_ok, mapError_eq_ok,
    pure_eq_ok] at habi
  obtain ⟨parsed, ⟨⟩, signature, hsigned, rfl⟩ := habi
  exact ⟨rfl, signature, rfl, hsigned⟩

theorem SignedEntry.linkTo {key : String} {abi : Proto.Abi} {address : Address}
    (hsigned : SignedEntry signing chainId key abi address) (implKey : String) :
    SignedEntry signing chainId key (linkTo implKey abi) address :=
  ⟨hsigned.spelled, hsigned.signed⟩

/-- A link is kept under the text of its proxy. -/
theorem spelled_of_proxyLinks {proxyMappings : List String} {key implKey : String}
    (hlink : lastOf key (proxyLinks proxyMappings) = some implKey) :
    ∃ address : Address, key = hexText address.val := by
  obtain ⟨-, mapping, -, -, hmapping, -⟩ := lastOf_filterMap_eq_some_iff.1 hlink
  rw [toOption_eq_some] at hmapping
  simp only [proxyLink, bind_eq_ok, okOr_eq_ok, mapError_eq_ok, pure_eq_ok] at hmapping
  obtain ⟨⟨proxy, implementation⟩, -, ⟨⟩, hproxy, ⟨⟩, -, hpair⟩ := hmapping
  obtain ⟨address, -, hnormal⟩ := normalizeEthAddress_of_valid hproxy
  exact ⟨address, (Prod.mk.inj hpair).1.symm.trans hnormal⟩

theorem signedEntry_created (haddresses : ReadsAddresses formats)
    {abiJsonMappings abiProxyMappings : List String} {key : String} {abi : Proto.Abi}
    (hget : (createdMappings formats signing parseError files chainId abiJsonMappings
      abiProxyMappings).get key = some abi) :
    ∃ address, SignedEntry signing chainId key abi address := by
  have hfile {own : Proto.Abi} (hown : (buildAbiMappingsFromFiles formats signing parseError files
      chainId abiJsonMappings).map.get key = some own) :
      ∃ address, SignedEntry signing chainId key own address := by
    obtain ⟨identifier, rfl, ⟨-, mapping, -, -, haccepts, -⟩, -⟩ :=
      (get_buildAbiMappingsFromFiles formats signing parseError files chainId abiJsonMappings).1
        hown
    obtain ⟨components, json, -, hvalid, -, -, -, hvalue, rfl⟩ := haccepts
    exact signedEntry_fileAbi haddresses hvalid hvalue
  rw [createdMappings, get_applyProxyMappings] at hget
  cases hlink : lastOf key (proxyLinks abiProxyMappings) with
  | none =>
      rw [hlink] at hget
      exact hfile hget
  | some implKey =>
      rw [hlink, linkedAbi, Option.map_eq_some_iff] at hget
      obtain ⟨own, hown, rfl⟩ := hget
      rcases Option.or_eq_some_iff.1 hown with hloaded | ⟨-, hempty⟩
      · obtain ⟨address, hsigned⟩ := hfile hloaded
        exact ⟨address, hsigned.linkTo implKey⟩
      · obtain ⟨address, rfl⟩ := spelled_of_proxyLinks hlink
        exact ⟨address,
          (signedEntry_emptyProxyAbi haddresses (toOption_eq_some.1 hempty)).linkTo implKey⟩

/-! ## The policy of the tool -/

theorem mem_authorizedAbiSigners {signingKey : signing.SigningKey}
    (hkey : signing.fromBytes cliDevSigningKeySeed = .ok signingKey)
    (signersVar : Option String) :
    k256.uncompressed (signing.verifyingKey signingKey) ∈
      (authorizedAbiSigners signing signersVar).keys := by
  unfold authorizedAbiSigners
  rw [hkey]
  dsimp only
  refine List.foldlRecOn (motive := fun allow : SignerAllowlist =>
    k256.uncompressed (signing.verifyingKey signingKey) ∈ allow.keys) _ _ ?_ ?_
  · rw [insertSigner, List.mem_insert_iff]
    exact .inl rfl
  · intro allow hmem entry _
    cases canonicalPubkeyFromHex k256 entry with
    | none => exact hmem
    | some bytes => exact List.mem_insert_of_mem hmem

/-- What is signed for an address is accepted for it. -/
theorem acceptedUnder_cliPolicy (hsound : signing.Sound) {key : String} {abi : Proto.Abi}
    {address : Address} (hsigned : SignedEntry signing chainId key abi address)
    (signersVar : Option String) :
    AcceptedUnder k256 chainId address abi (cliPolicy signing signersVar) := by
  obtain ⟨-, signature, hsignature, hmade⟩ := hsigned
  simp only [signAbiForCli, signAbi, bind_eq_ok, mapError_eq_ok, pure_eq_ok] at hmade
  obtain ⟨signingKey, hkey, raw, hraw, rfl⟩ := hmade
  obtain ⟨point, hpoint, hverifying⟩ := hsound.point (signing.verifyingKey signingKey)
  refine ⟨_, signing.verifyingKey signingKey, hsignature, ⟨rfl, ?_, ?_⟩,
    mem_authorizedAbiSigners hkey signersVar⟩
  · exact ⟨_, _, point, rfl, Hex.decodeHex_encode _, hpoint, hverifying⟩
  · exact ⟨_, raw, Hex.decodeHex_encode _, hsound.fromDer raw, hsound.verifies _ _ _ hraw⟩

theorem oneSpelling_created (haddresses : ReadsAddresses formats)
    (abiJsonMappings abiProxyMappings : List String) :
    OneSpelling formats (createdMappings formats signing parseError files chainId abiJsonMappings
      abiProxyMappings).entries := by
  have hspelled {key : String} {abi : Proto.Abi} (hentry : (key, abi) ∈ (createdMappings formats
      signing parseError files chainId abiJsonMappings abiProxyMappings).entries)
      {address : Address} (hparse : formats.parseAddress key = some address) :
      key = hexText address.val := by
    obtain ⟨own, hsigned⟩ := signedEntry_created haddresses ((BTreeMap.mem_entries_iff _).1 hentry)
    rw [hsigned.spelled, haddresses.complete] at hparse
    rw [hsigned.spelled, Option.some.inj hparse]
  apply List.Pairwise.imp_of_mem _ (BTreeMap.ascending _)
  rintro ⟨left, leftAbi⟩ ⟨right, rightAbi⟩ hleft hright hless
  refine ⟨hless.ne, fun address hfirst hsecond => hless.ne ?_⟩
  rw [hspelled hleft hfirst, hspelled hright hsecond]

variable (formats signing parseError files)

/-- The tool's own parser has an ABI for an address exactly if there is one under the
text of the address that is not too long and that can be read. -/
theorem cli_abis_accepted (dyn : DynAbi) (haddresses : ReadsAddresses formats)
    (hsound : signing.Sound) (signersVar selection : Option String)
    (abiJsonMappings abiProxyMappings : List String) (created : Created)
    (hcreated : createChainMetadata formats signing parseError files selection abiJsonMappings
      abiProxyMappings = .ok created) :
    ∃ network ∈ networks, ∃ abiMappings : BTreeMap String Proto.Abi,
      created.metadata = some ⟨some (.ethereum ⟨some network.networkId, abiMappings⟩)⟩ ∧
      ∀ address abi, abiOfRequest formats dyn k256 (cliPolicy signing signersVar) network.chainId
          created.metadata address = some abi ↔
        ∃ entry, abiMappings.get (hexText address.val) = some entry ∧
          (utf8Bytes entry.value).length ≤ maxAbiJsonBytes ∧
          dyn.fromStr entry.value = .ok abi := by
  obtain ⟨network, hknown, hmetadata⟩ := createChainMetadata_eq_ok hcreated
  refine ⟨network, hknown, _, hmetadata, fun address abi => ?_⟩
  rw [hmetadata, abiOfRequest_eq_some_iff]
  · constructor
    · rintro ⟨⟨key, entry⟩, hentry, haccepted⟩
      have hget := (BTreeMap.mem_entries_iff _).1 hentry
      obtain ⟨own, hsigned⟩ := signedEntry_created haddresses hget
      have hsame : some own = some address := by
        rw [← haddresses.complete own, ← hsigned.spelled]
        exact haccepted.parses
      rw [hsigned.spelled, Option.some.inj hsame] at hget
      exact ⟨entry, hget, haccepted.size, haccepted.parsed⟩
    · rintro ⟨entry, hget, hsize, hparsed⟩
      obtain ⟨own, hsigned⟩ := signedEntry_created haddresses hget
      have hsame : own = address := Subtype.ext (hexText_injective hsigned.spelled.symm)
      rw [hsame] at hsigned
      exact ⟨(hexText address.val, entry), (BTreeMap.mem_entries_iff _).2 hget,
        ⟨haddresses.complete address, hsize, acceptedUnder_cliPolicy hsound hsigned signersVar,
          hparsed⟩⟩
  · exact oneSpelling_created haddresses abiJsonMappings abiProxyMappings

end Posture

theorem readsAddresses_plain : ReadsAddresses plainFormats where
  reads text address hparse := by
    unfold plainFormats at hparse
    dsimp only at hparse
    split at hparse
    · rename_i bytes hbytes
      split_ifs at hparse with hlength
      rw [hbytes, ← Option.some.inj hparse]
    · cases hparse
  complete address := by
    have hbytes : Hex.decodeHex (hexText address.val) = .ok address.val := by
      rw [Hex.decodeHex, hexText, Hex.stripHexMarker_append, Hex.decode_encode]
    unfold plainFormats
    dsimp only
    rw [hbytes]
    exact dif_pos address.property

theorem sound_echoSigning : echoSigning.Sound where
  fromDer _ := rfl
  point key := ⟨key, rfl, rfl⟩
  verifies _ _ _ _ := rfl

theorem cli_abis_accepted_token : ∃ created,
    createChainMetadata plainFormats echoSigning id tokenFiles none tokenMappings tokenLinks =
      .ok created ∧
    ∃ network ∈ networks, ∃ abiMappings : BTreeMap String Proto.Abi,
      created.metadata = some ⟨some (.ethereum ⟨some network.networkId, abiMappings⟩)⟩ ∧
      ∀ address abi, abiOfRequest plainFormats emptyAbi uncheckedK256 (cliPolicy echoSigning none)
          network.chainId created.metadata address = some abi ↔
        ∃ entry, abiMappings.get (hexText address.val) = some entry ∧
          (utf8Bytes entry.value).length ≤ maxAbiJsonBytes ∧
          emptyAbi.fromStr entry.value = .ok abi := by
  obtain ⟨created, hcreated⟩ := created_token
  exact ⟨created, hcreated, cli_abis_accepted plainFormats echoSigning id tokenFiles emptyAbi
    readsAddresses_plain sound_echoSigning none none tokenMappings tokenLinks created hcreated⟩

end VisualSignParser.Cli
