import VisualSignParser.Cli.Mappings
import VisualSignParser.Codec.Radix
import VisualSignParser.Deploy.Posture
import VisualSignParser.Ethereum.AbiTexts

/-!
# ABIs given on the command line

The command line tool signs each ABI it loads with its own key, for the chain and
the contract it was given for, and links proxies to their implementations.  The
addresses are the keys of the metadata, in one spelling.
-/

namespace VisualSignParser.Cli

open VisualSignParser.Deploy
open VisualSignParser.Ethereum
open VisualSignParser.Framing
open VisualSignParser.OrderedMap
open VisualSignParser.Outcome
open VisualSignParser.Prehash
open VisualSignParser.Splits

/-! ## Addresses -/

def validateEthAddress (addr : String) : Except String Unit := do
  let hex ← okOr "must start with 0x" (Hex.splitHexMarker addr)
  let length := (utf8Bytes hex).length
  require (length = 40) ("expected 0x + 40 hex chars, got " ++ toString length ++ " hex chars")
  require (hex.toList.all Hex.isHexDigit = true) "contains non-hex characters"

def normalizeEthAddress (addr : String) : String :=
  "0x" ++ String.ofList ((Hex.stripHexMarker addr).toList.map Char.toLower)

/-- The normal form of a valid address is the lower-case text of its bytes. -/
theorem normalizeEthAddress_of_valid {addr : String} (hvalid : validateEthAddress addr = .ok ()) :
    ∃ address : Address, Hex.decodeHex addr = .ok address.val ∧
      normalizeEthAddress addr = hexText address.val := by
  simp only [validateEthAddress, bind_eq_ok, okOr_eq_ok, require_eq_ok, List.all_eq_true] at hvalid
  obtain ⟨digits, hsplit, ⟨⟩, hlength, hdigits⟩ := hvalid
  have hascii : ∀ char ∈ digits.toList, char.toNat < 128 := by
    intro char hchar
    have hcode := Hex.toNat_of_isHexDigit (hdigits char hchar)
    omega
  rw [length_utf8Bytes_ascii hascii] at hlength
  obtain ⟨bytes, hbytes, hsize, hencode⟩ := Hex.encode_of_digits hdigits (by omega)
  rw [String.ofList_toList] at hbytes
  have hstrip := Hex.stripHexMarker_of_split hsplit
  refine ⟨⟨bytes, by omega⟩, by rw [Hex.decodeHex, hstrip, hbytes], ?_⟩
  rw [normalizeEthAddress, hstrip, hexText, hencode]

/-! ## Signing -/

/-- The operations of the `k256` crate that sign. -/
structure K256Signing (k256 : K256) where
  SigningKey : Type
  fromBytes : ByteArr 32 → Except String SigningKey
  verifyingKey : SigningKey → k256.Key
  signPrehash : SigningKey → ByteArr 32 → Except String k256.Signature
  toDer : k256.Signature → Bytes

/-- What is relied on: both encodings are read back, and a signature verifies under
the key that belongs to its signing key. -/
structure K256Signing.Sound {k256 : K256} (signing : K256Signing k256) : Prop where
  fromDer : ∀ signature, k256.fromDer (signing.toDer signature) = .ok signature
  point : ∀ key, ∃ point, k256.encodedPoint (k256.uncompressed key) = .ok point ∧
    k256.verifyingKey point = .ok key
  verifies : ∀ signingKey hash signature, signing.signPrehash signingKey hash = .ok signature →
    k256.verifyPrehash (signing.verifyingKey signingKey) hash signature = .ok ()

section Signing

variable {k256 : K256} (signing : K256Signing k256)

def cliDevSigningKeySeed : ByteArr 32 := ⟨List.replicate 32 0x42, List.length_replicate⟩

def signAbi (abiJson : String) (address : Address) (chainId : ChainId)
    (signingKeySeed : ByteArr 32) : Except String Proto.SignatureMetadata := do
  let signingKey ← (signing.fromBytes signingKeySeed).mapError fun error =>
    "invalid secp256k1 signing key seed: " ++ error
  let hash := ethereumMetadataPrehash chainId address (utf8Bytes abiJson)
  let signature ← (signing.signPrehash signingKey hash).mapError fun error =>
    "failed to sign ABI hash: " ++ error
  return ⟨Hex.encode (signing.toDer signature), [⟨"algorithm", supportedAlgorithm⟩,
    ⟨"public_key", Hex.encode (k256.uncompressed (signing.verifyingKey signingKey))⟩]⟩

/-- With the feature `dev-signing`, which the tool is built with. -/
def signAbiForCli (abiJson : String) (address : Address) (chainId : ChainId) :
    Except String Proto.SignatureMetadata :=
  signAbi signing abiJson address chainId cliDevSigningKeySeed

/-- The key of the tool, and the keys of the variable `VISUALSIGN_ETH_ABI_SIGNERS`;
one that cannot be read is left out. -/
def authorizedAbiSigners (signersVar : Option String) : SignerAllowlist :=
  let allow := match signing.fromBytes cliDevSigningKeySeed with
    | .ok signingKey =>
        insertSigner ⟨[]⟩ (k256.uncompressed (signing.verifyingKey signingKey))
    | .error _ => ⟨[]⟩
  let entries := match signersVar with
    | some list => ((list.toList.splitOn ',').map fun entry =>
        Text.trim (String.ofList entry)).filter (· != "")
    | none => []
  entries.foldl (fun allow entry => match canonicalPubkeyFromHex k256 entry with
    | some bytes => insertSigner allow bytes
    | none => allow) allow

/-- The policy the tool registers its converter with. -/
def cliPolicy (signersVar : Option String) : MetadataTrustPolicy :=
  .requireAllowlistedSigner (authorizedAbiSigners signing signersVar)

end Signing

/-! ## Networks -/

def chainIdToNetworkId (chainId : ChainId) : Option String :=
  (networkOf chainId).map Network.networkId

def parseNetwork (input : String) : Option String :=
  match Radix.fromStrRadix 64 10 input.toList with
  | .ok chainId => chainIdToNetworkId (UInt64.ofNat chainId)
  | .error _ => (networkIdToChainId input).bind chainIdToNetworkId

/-! ## Files -/

section Build

variable (formats : Formats) {k256 : K256} (signing : K256Signing k256)
  (parseError : String → String) (files : Files) (chainId : ChainId)

def abiMappingFormat : MappingFormat where
  kind := "ABI"
  identifierLabel := "ContractAddress"
  formatHint := "Name:/path/to/file.json:ContractAddress"
  sample := "UniswapV2:path/to/uniswap.json:0x5C69bEe701ef814a2B6a3EDD4B1652CB9cc5aA6f"

/-- An ABI file, signed for its contract. -/
def fileAbi (components : MappingComponents) (json : String) : Except String Proto.Abi := do
  let addr ← okOr ("invalid contract address: " ++ parseError components.identifier)
    (formats.parseAddress components.identifier)
  let signature ← (signAbiForCli signing json addr chainId).mapError fun error =>
    "failed to sign ABI: " ++ error
  return ⟨json, some signature, none, none⟩

def abiMappingKind : MappingKind Proto.Abi where
  format := abiMappingFormat
  parse := parseMapping
  validateIdentifier := validateEthAddress
  buildValue := fileAbi formats signing parseError chainId

def loadAbis (abiJsonMappings : List String) : Loaded Proto.Abi :=
  loadMappings files (abiMappingKind formats signing parseError chainId) abiJsonMappings

/-- Every key in its normal form. -/
def buildAbiMappingsFromFiles (abiJsonMappings : List String) : Loaded Proto.Abi :=
  let raw := loadAbis formats signing parseError files chainId abiJsonMappings
  { raw with
    map := BTreeMap.empty.insertAll
      (raw.map.entries.map fun entry => (normalizeEthAddress entry.1, entry.2)) }

/-! ## Proxies -/

/-- The mappings so far, and the lines of the log. -/
structure Linked where
  abiMappings : BTreeMap String Proto.Abi
  log : List String

def Linked.logged (linked : Linked) (lines : List String) : Linked :=
  { linked with log := linked.log ++ lines }

/-- The two addresses of a link, in their normal form. -/
def proxyLink (mapping : String) : Except String (String × String) := do
  let (proxy, implementation) ← okOr "expected format 0xProxy:0xImpl"
    (splitFirst isColon mapping.toList)
  (validateEthAddress (String.ofList proxy)).mapError fun error =>
    "invalid proxy address: " ++ error
  (validateEthAddress (String.ofList implementation)).mapError fun error =>
    "invalid implementation address: " ++ error
  return (normalizeEthAddress (String.ofList proxy),
    normalizeEthAddress (String.ofList implementation))

/-- The empty ABI of a proxy that has no file. -/
def emptyProxyAbi (proxyKey : String) : Except String Proto.Abi := do
  let proxyAddr ← okOr ("invalid proxy address for signing: " ++ parseError proxyKey)
    (formats.parseAddress proxyKey)
  let signature ← (signAbiForCli signing "[]" proxyAddr chainId).mapError fun error =>
    "failed to sign synthesized proxy ABI: " ++ error
  return ⟨"[]", some signature, none, none⟩

def linkTo (implKey : String) (abi : Proto.Abi) : Proto.Abi :=
  { abi with abiType := some 2, implementationAddress := some implKey }

def Linked.stamp (linked : Linked) (proxyKey implKey : String) (abi : Proto.Abi) : Linked :=
  ⟨linked.abiMappings.insert proxyKey (linkTo implKey abi), linked.log ++
    ["  Linked proxy '" ++ proxyKey ++ "' to implementation '" ++ implKey ++ "'"]⟩

/-- One turn of the loop. -/
def applyProxyMapping (attempted : List String) (linked : Linked) (mapping : String) : Linked :=
  let skipping := "  Warning: Skipping proxy mapping '" ++ mapping ++ "': "
  match proxyLink mapping with
  | .error error => linked.logged [skipping ++ error]
  | .ok (proxyKey, implKey) =>
      match linked.abiMappings.get proxyKey with
      | some abi => linked.stamp proxyKey implKey abi
      | none =>
          let noted := linked.logged [if proxyKey ∈ attempted then
              "  Warning: proxy '" ++ proxyKey ++ "' ABI file was specified but failed to load; " ++
                "synthesizing an empty proxy ABI"
            else "  Note: proxy '" ++ proxyKey ++
              "' has no ABI file; synthesizing an empty proxy ABI"]
          match emptyProxyAbi formats signing parseError chainId proxyKey with
          | .error error => noted.logged [skipping ++ error]
          | .ok abi => noted.stamp proxyKey implKey abi

/-- The addresses for which a file was given, whether or not it was loaded. -/
def attemptedAbiAddresses (abiJsonMappings : List String) : List String :=
  let parsed := abiJsonMappings.filterMap fun mapping => (parseMapping mapping).toOption
  (parsed.filter fun components => (validateEthAddress components.identifier).toBool).map
    fun components => normalizeEthAddress components.identifier

def applyProxyMappings (abiMappings : BTreeMap String Proto.Abi)
    (proxyMappings abiJsonMappings : List String) : Linked :=
  proxyMappings.foldl
    (applyProxyMapping formats signing parseError chainId (attemptedAbiAddresses abiJsonMappings))
    ⟨abiMappings, []⟩

end Build

/-! ## The metadata -/

structure Created where
  metadata : Option Proto.ChainMetadata
  log : List String

def invalidNetwork (network : String) : String :=
  "Invalid network '" ++ network ++ "'. Supported formats:\n" ++
    "- Chain ID (numeric): 1 (Ethereum), 137 (Polygon), 42161 (Arbitrum)\n" ++
    "- Canonical name: ETHEREUM_MAINNET, POLYGON_MAINNET, ARBITRUM_MAINNET\n\n" ++
    "Run with --help for full list of supported networks."

/-- The network and what is said of it; the name of mainnet is known. -/
def selectNetwork : Option String → Except String (String × List String)
  | some network => (okOr (invalidNetwork network) (parseNetwork network)).map fun id => (id, [])
  | none => (okOr "ETHEREUM_MAINNET should always be valid" (parseNetwork "ETHEREUM_MAINNET")).map
      fun id => (id,
        ["Warning: No network specified, defaulting to ETHEREUM_MAINNET (chain_id: 1)"])

section Create

variable (formats : Formats) {k256 : K256} (signing : K256Signing k256)
  (parseError : String → String) (files : Files)

def loadGivenAbis (networkId : String) (abiJsonMappings : List String) : Except String Linked :=
  if abiJsonMappings = [] then .ok ⟨BTreeMap.empty, []⟩ else do
    let chainId ← okOr ("cannot sign ABI mappings for network '" ++ networkId ++
      "': unknown network ID") (networkIdToChainId networkId)
    let built := buildAbiMappingsFromFiles formats signing parseError files chainId abiJsonMappings
    return ⟨built.map, ["Loading custom ABIs:"] ++ built.log ++ ["Successfully loaded " ++
      toString built.validCount ++ "/" ++ toString abiJsonMappings.length ++ " ABI mappings\n"]⟩

def linkGivenProxies (networkId : String) (abiJsonMappings abiProxyMappings : List String)
    (loaded : Linked) : Except String Linked :=
  if abiProxyMappings = [] then .ok loaded else do
    let chainId ← okOr ("cannot sign proxy ABI mappings for network '" ++ networkId ++
      "': unknown network ID") (networkIdToChainId networkId)
    let applied := applyProxyMappings formats signing parseError chainId loaded.abiMappings
      abiProxyMappings abiJsonMappings
    return ⟨applied.abiMappings, loaded.log ++ ["Applying proxy mappings:"] ++ applied.log ++ [""]⟩

/-- The chain id is looked up where there is something to sign. -/
def createChainMetadata (network : Option String)
    (abiJsonMappings abiProxyMappings : List String) : Except String Created := do
  let selected ← selectNetwork network
  let loaded ← loadGivenAbis formats signing parseError files selected.1 abiJsonMappings
  let linked ← linkGivenProxies formats signing parseError selected.1 abiJsonMappings
    abiProxyMappings loaded
  return ⟨some ⟨some (.ethereum ⟨some selected.1, linked.abiMappings⟩)⟩, selected.2 ++ linked.log⟩

end Create

/-! ## What stands under a key -/

section Keys

variable (formats : Formats) {k256 : K256} (signing : K256Signing k256)
  (parseError : String → String) (files : Files) (chainId : ChainId)
  (abiJsonMappings : List String)

/-- Of the spellings of an address, the greatest one is used. -/
structure FromFile (key : String) (abi : Proto.Abi) (identifier : String) : Prop where
  spells : normalizeEthAddress identifier = key
  chosen : Chosen files (abiMappingKind formats signing parseError chainId) abiJsonMappings
    identifier abi
  greatest : ∀ other otherAbi, normalizeEthAddress other = key →
    Chosen files (abiMappingKind formats signing parseError chainId) abiJsonMappings other
      otherAbi → other ≤ identifier

theorem get_buildAbiMappingsFromFiles {key : String} {abi : Proto.Abi} :
    (buildAbiMappingsFromFiles formats signing parseError files chainId
        abiJsonMappings).map.get key = some abi ↔
      ∃ identifier, FromFile formats signing parseError files chainId abiJsonMappings key abi
        identifier := by
  have hget {identifier : String} {found : Proto.Abi} :
      (loadAbis formats signing parseError files chainId abiJsonMappings).map.get identifier =
        some found ↔
      Chosen files (abiMappingKind formats signing parseError chainId) abiJsonMappings identifier
        found :=
    get_loadMappings
  unfold buildAbiMappingsFromFiles
  dsimp only
  rw [BTreeMap.get_insertAll_renamed]
  simp only [hget]
  constructor
  · rintro ⟨identifier, hspells, hchosen, hgreatest⟩
    exact ⟨identifier, hspells, hchosen, hgreatest⟩
  · rintro ⟨identifier, hspells, hchosen, hgreatest⟩
    exact ⟨identifier, hspells, hchosen, hgreatest⟩

/-- The links that can be used, each a proxy and its implementation. -/
def proxyLinks (proxyMappings : List String) : List (String × String) :=
  proxyMappings.filterMap fun mapping => (proxyLink mapping).toOption

/-- The ABI under a key once the links are applied. -/
def linkedAbi (own : Option Proto.Abi) (key : String) : Option String → Option Proto.Abi
  | none => own
  | some implKey =>
      (own.or (emptyProxyAbi formats signing parseError chainId key).toOption).map (linkTo implKey)

/-- A link takes the place of an earlier one of the same proxy. -/
theorem linkedAbi_linkedAbi (own : Option Proto.Abi) (key implKey : String)
    (earlier : Option String) :
    linkedAbi formats signing parseError chainId
        (linkedAbi formats signing parseError chainId own key earlier) key (some implKey) =
      linkedAbi formats signing parseError chainId own key (some implKey) := by
  cases earlier with
  | none => rfl
  | some known =>
      unfold linkedAbi
      cases own with
      | some abi => rfl
      | none =>
          rw [Option.none_or]
          cases (emptyProxyAbi formats signing parseError chainId key).toOption <;> rfl

theorem get_applyProxyMapping (attempted : List String) (linked : Linked) (mapping key : String) :
    (applyProxyMapping formats signing parseError chainId attempted linked mapping).abiMappings.get
        key =
      linkedAbi formats signing parseError chainId (linked.abiMappings.get key) key
        (lastOf key (proxyLinks [mapping])) := by
  unfold applyProxyMapping proxyLinks
  rw [List.filterMap_cons, List.filterMap_nil]
  cases hlink : proxyLink mapping with
  | error error => rfl
  | ok link =>
      obtain ⟨proxyKey, implKey⟩ := link
      have hlast : lastOf key [(proxyKey, implKey)] =
          if proxyKey = key then some implKey else none := lastOf_append key [] _
      simp only [Except.toOption, hlast]
      by_cases hkey : proxyKey = key
      · subst hkey
        rw [if_pos rfl]
        cases hget : linked.abiMappings.get proxyKey with
        | some abi => exact BTreeMap.get_insert_self ..
        | none =>
            rw [linkedAbi, Option.none_or]
            cases hempty : emptyProxyAbi formats signing parseError chainId proxyKey with
            | error error => exact hget
            | ok abi => exact BTreeMap.get_insert_self ..
      · rw [if_neg hkey, linkedAbi]
        cases hget : linked.abiMappings.get proxyKey with
        | some abi => exact BTreeMap.get_insert_of_ne _ _ hkey
        | none =>
            cases emptyProxyAbi formats signing parseError chainId proxyKey with
            | error error => rfl
            | ok abi => exact BTreeMap.get_insert_of_ne _ _ hkey

theorem get_applyProxyMappings (abiMappings : BTreeMap String Proto.Abi)
    (proxyMappings : List String) (key : String) :
    (applyProxyMappings formats signing parseError chainId abiMappings proxyMappings
        abiJsonMappings).abiMappings.get key =
      linkedAbi formats signing parseError chainId (abiMappings.get key) key
        (lastOf key (proxyLinks proxyMappings)) := by
  induction proxyMappings using List.reverseRecOn with
  | nil => rfl
  | append_singleton mappings mapping ih =>
      have hstep : applyProxyMappings formats signing parseError chainId abiMappings
          (mappings ++ [mapping]) abiJsonMappings =
          applyProxyMapping formats signing parseError chainId
            (attemptedAbiAddresses abiJsonMappings)
            (applyProxyMappings formats signing parseError chainId abiMappings mappings
              abiJsonMappings) mapping := by
        rw [applyProxyMappings, List.foldl_append]
        rfl
      have hlast : lastOf key (proxyLinks (mappings ++ [mapping])) =
          (lastOf key (proxyLinks [mapping])).or (lastOf key (proxyLinks mappings)) := by
        rw [proxyLinks, List.filterMap_append, lastOf_append_list]
        rfl
      rw [hstep, get_applyProxyMapping, ih, hlast]
      cases lastOf key (proxyLinks [mapping]) with
      | none => rfl
      | some implKey => exact linkedAbi_linkedAbi formats signing parseError chainId _ key implKey _

end Keys

/-! ## The metadata that is created -/

theorem networkIdToChainId_known :
    ∀ network ∈ networks, networkIdToChainId network.networkId = some network.chainId := by
  decide +kernel

theorem chainIdToNetworkId_known {chainId : ChainId} {networkId : String}
    (hknown : chainIdToNetworkId chainId = some networkId) :
    ∃ network ∈ networks, network.networkId = networkId := by
  obtain ⟨network, hfound, hsame⟩ := Option.map_eq_some_iff.1 hknown
  exact ⟨network, List.mem_of_find?_eq_some hfound, hsame⟩

theorem parseNetwork_known {input networkId : String}
    (hparse : parseNetwork input = some networkId) :
    ∃ network ∈ networks, network.networkId = networkId := by
  unfold parseNetwork at hparse
  split at hparse
  · exact chainIdToNetworkId_known hparse
  · obtain ⟨chainId, -, hknown⟩ := Option.bind_eq_some_iff.1 hparse
    exact chainIdToNetworkId_known hknown

theorem selectNetwork_known {selection : Option String} {selected : String × List String}
    (hselected : selectNetwork selection = .ok selected) :
    ∃ network ∈ networks, network.networkId = selected.1 := by
  unfold selectNetwork at hselected
  split at hselected
  · obtain ⟨found, hfound, rfl⟩ := map_eq_ok.1 hselected
    exact parseNetwork_known (okOr_eq_ok.1 hfound)
  · obtain ⟨found, hfound, rfl⟩ := map_eq_ok.1 hselected
    exact parseNetwork_known (okOr_eq_ok.1 hfound)

section Created

variable (formats : Formats) {k256 : K256} (signing : K256Signing k256)
  (parseError : String → String) (files : Files)

/-- The mappings of the metadata, links included. -/
def createdMappings (chainId : ChainId) (abiJsonMappings abiProxyMappings : List String) :
    BTreeMap String Proto.Abi :=
  (applyProxyMappings formats signing parseError chainId
    (buildAbiMappingsFromFiles formats signing parseError files chainId abiJsonMappings).map
    abiProxyMappings abiJsonMappings).abiMappings

variable {formats signing parseError files}

theorem loadGivenAbis_known {network : Network} (hknown : network ∈ networks)
    (abiJsonMappings : List String) :
    ∃ log, loadGivenAbis formats signing parseError files network.networkId abiJsonMappings =
      .ok ⟨(buildAbiMappingsFromFiles formats signing parseError files network.chainId
        abiJsonMappings).map, log⟩ := by
  rw [loadGivenAbis, networkIdToChainId_known network hknown]
  split_ifs with hempty
  · rw [hempty]
    exact ⟨_, rfl⟩
  · exact ⟨_, rfl⟩

theorem linkGivenProxies_known {network : Network} (hknown : network ∈ networks)
    (abiJsonMappings abiProxyMappings : List String) (loaded : Linked) :
    ∃ log, linkGivenProxies formats signing parseError network.networkId abiJsonMappings
      abiProxyMappings loaded = .ok ⟨(applyProxyMappings formats signing parseError
        network.chainId loaded.abiMappings abiProxyMappings abiJsonMappings).abiMappings, log⟩ := by
  rw [linkGivenProxies, networkIdToChainId_known network hknown]
  split_ifs with hempty
  · rw [hempty]
    exact ⟨_, rfl⟩
  · exact ⟨_, rfl⟩

/-- Once the network is selected nothing fails, and all is signed for its chain. -/
theorem createChainMetadata_selected {selection : Option String}
    {selected : String × List String} (hselected : selectNetwork selection = .ok selected)
    (abiJsonMappings abiProxyMappings : List String) :
    ∃ network ∈ networks, ∃ log, createChainMetadata formats signing parseError files selection
      abiJsonMappings abiProxyMappings = .ok ⟨some ⟨some (.ethereum ⟨some network.networkId,
        createdMappings formats signing parseError files network.chainId abiJsonMappings
          abiProxyMappings⟩)⟩, log⟩ := by
  obtain ⟨networkId, said⟩ := selected
  obtain ⟨network, hknown, rfl⟩ := selectNetwork_known hselected
  obtain ⟨loadedLog, hloaded⟩ := @loadGivenAbis_known formats k256 signing parseError files _
    hknown abiJsonMappings
  obtain ⟨linkedLog, hlinked⟩ := @linkGivenProxies_known formats k256 signing parseError _ hknown
    abiJsonMappings abiProxyMappings ⟨(buildAbiMappingsFromFiles formats signing parseError files
      network.chainId abiJsonMappings).map, loadedLog⟩
  refine ⟨network, hknown, said ++ linkedLog, ?_⟩
  rw [createChainMetadata, hselected, ok_bind, hloaded, ok_bind, hlinked, ok_bind]
  rfl

/-- The metadata names a known network, and is signed for its chain. -/
theorem createChainMetadata_eq_ok {selection : Option String}
    {abiJsonMappings abiProxyMappings : List String} {created : Created}
    (hcreated : createChainMetadata formats signing parseError files selection abiJsonMappings
      abiProxyMappings = .ok created) :
    ∃ network ∈ networks, created.metadata = some ⟨some (.ethereum ⟨some network.networkId,
      createdMappings formats signing parseError files network.chainId abiJsonMappings
        abiProxyMappings⟩)⟩ := by
  obtain ⟨selected, hselected, -⟩ := bind_eq_ok.1 hcreated
  obtain ⟨network, hknown, log, hmade⟩ := @createChainMetadata_selected formats k256 signing
    parseError files selection selected hselected abiJsonMappings abiProxyMappings
  rw [hmade] at hcreated
  exact ⟨network, hknown, by rw [← Except.ok.inj hcreated]⟩

variable (formats signing parseError files)

/-- The ABI that a key has before it is linked: that of a file, or an empty one. -/
def OwnAbi (chainId : ChainId) (abiJsonMappings : List String) (key : String)
    (abi : Proto.Abi) : Prop :=
  (∃ identifier, FromFile formats signing parseError files chainId abiJsonMappings key abi
    identifier) ∨
  (∀ other identifier, ¬FromFile formats signing parseError files chainId abiJsonMappings key other
    identifier) ∧ emptyProxyAbi formats signing parseError chainId key = .ok abi

/-- Under an address stands the ABI of its last mapping in the greatest of its
spellings, or an empty one if it is a proxy without a file; the last link of a proxy is
the one that is kept. -/
theorem abi_under_key (selection : Option String) (abiJsonMappings abiProxyMappings : List String)
    (created : Created)
    (hcreated : createChainMetadata formats signing parseError files selection abiJsonMappings
      abiProxyMappings = .ok created) :
    ∃ network ∈ networks, ∃ abiMappings : BTreeMap String Proto.Abi,
      created.metadata = some ⟨some (.ethereum ⟨some network.networkId, abiMappings⟩)⟩ ∧
      ∀ key abi, abiMappings.get key = some abi ↔
        match lastOf key (proxyLinks abiProxyMappings) with
        | none => ∃ identifier, FromFile formats signing parseError files network.chainId
            abiJsonMappings key abi identifier
        | some implKey => ∃ own, OwnAbi formats signing parseError files network.chainId
            abiJsonMappings key own ∧ linkTo implKey own = abi := by
  obtain ⟨network, hknown, hmetadata⟩ := createChainMetadata_eq_ok hcreated
  refine ⟨network, hknown, _, hmetadata, fun key abi => ?_⟩
  rw [createdMappings, get_applyProxyMappings]
  have hfile := @get_buildAbiMappingsFromFiles formats k256 signing parseError files
    network.chainId abiJsonMappings key
  generalize (buildAbiMappingsFromFiles formats signing parseError files network.chainId
    abiJsonMappings).map.get key = own at hfile
  cases lastOf key (proxyLinks abiProxyMappings) with
  | none => exact hfile
  | some implKey =>
      dsimp only
      rw [linkedAbi, Option.map_eq_some_iff]
      apply exists_congr
      intro found
      apply and_congr_left
      intro _
      rw [Option.or_eq_some_iff, hfile, toOption_eq_some, OwnAbi]
      apply or_congr_right
      apply and_congr_left
      intro _
      rw [Option.eq_none_iff_forall_ne_some]
      exact forall_congr' fun other => not_iff_not.2 hfile |>.trans not_exists

end Created

/-- A signature is the message itself. -/
def echoSigning : K256Signing uncheckedK256 where
  SigningKey := ByteArr 32
  fromBytes := .ok
  verifyingKey key := key.val
  signPrehash _ hash := .ok hash.val
  toDer := id

def tokenFiles : Files where
  openFile path :=
    if path = "token.json" then .ok (utf8Bytes "[]")
    else if path = "second.json" then .ok (utf8Bytes "[ ]")
    else .error "not found"
  checkJson _ := .ok ()

/-- A token that is given twice. -/
def tokenMappings : List String :=
  ["Token:token.json:0x1111111111111111111111111111111111111111",
    "Token:second.json:0x1111111111111111111111111111111111111111"]

/-- A proxy of the token, without a file of its own. -/
def tokenLinks : List String :=
  ["0x3333333333333333333333333333333333333333:0x1111111111111111111111111111111111111111"]

theorem created_token : ∃ created,
    createChainMetadata plainFormats echoSigning id tokenFiles none tokenMappings tokenLinks =
      .ok created := by
  obtain ⟨said, hselected⟩ : ∃ said, selectNetwork none = .ok ("ETHEREUM_MAINNET", said) :=
    ⟨_, rfl⟩
  obtain ⟨network, -, log, hmade⟩ :=
    createChainMetadata_selected hselected tokenMappings tokenLinks
  exact ⟨_, hmade⟩

/-- The second ABI of a token, and a link to it. -/
theorem abi_under_key_token : ∃ created,
    createChainMetadata plainFormats echoSigning id tokenFiles none tokenMappings tokenLinks =
      .ok created ∧
    ∃ network ∈ networks, ∃ abiMappings : BTreeMap String Proto.Abi,
      created.metadata = some ⟨some (.ethereum ⟨some network.networkId, abiMappings⟩)⟩ ∧
      ∀ key abi, abiMappings.get key = some abi ↔
        match lastOf key (proxyLinks tokenLinks) with
        | none => ∃ identifier, FromFile plainFormats echoSigning id tokenFiles network.chainId
            tokenMappings key abi identifier
        | some implKey => ∃ own, OwnAbi plainFormats echoSigning id tokenFiles network.chainId
            tokenMappings key own ∧ linkTo implKey own = abi := by
  obtain ⟨created, hcreated⟩ := created_token
  exact ⟨created, hcreated, abi_under_key plainFormats echoSigning id tokenFiles none
    tokenMappings tokenLinks created hcreated⟩

end VisualSignParser.Cli
