import VisualSignParser.Ethereum.Address

/-!
# Contract and token registries

The compiled-in registry says of which type a contract is and which tokens are
known on which chain.  A layered registry puts the data of one request in front
of it.
-/

namespace VisualSignParser.Ethereum

open VisualSignParser.OrderedMap

inductive ErcStandard where
  | erc20
  | erc721
  | erc1155
  deriving DecidableEq

structure TokenMetadata where
  symbol : String
  name : String
  ercStandard : ErcStandard
  contractAddress : String
  decimals : UInt8

/-- A contract type on one chain. -/
structure ChainType where
  chainId : ChainId
  contractType : String

def ChainType.rank (key : ChainType) : ℕ ×ₗ String := toLex (key.chainId.toNat, key.contractType)

theorem ChainType.rank_injective : Function.Injective ChainType.rank := by
  rintro ⟨leftId, leftType⟩ ⟨rightId, rightType⟩ heq
  obtain ⟨hid, htype⟩ := Prod.mk.inj (toLex_inj.1 heq)
  have hchain : leftId = rightId := UInt64.toNat_inj.1 hid
  have hname : leftType = rightType := htype
  rw [hchain, hname]

instance : LinearOrder ChainType := LinearOrder.lift' ChainType.rank ChainType.rank_injective

structure ContractRegistry where
  addressToType : BTreeMap ChainAddress String
  typeToAddresses : BTreeMap ChainType (List Address)
  tokenMetadata : BTreeMap ChainAddress TokenMetadata

namespace ContractRegistry

def new : ContractRegistry := ⟨BTreeMap.empty, BTreeMap.empty, BTreeMap.empty⟩

def registerContract (registry : ContractRegistry) (chainId : ChainId) (contractType : String)
    (addresses : List Address) : ContractRegistry where
  addressToType := addresses.foldl
    (fun types address => types.insert ⟨chainId, address⟩ contractType) registry.addressToType
  typeToAddresses := registry.typeToAddresses.insert ⟨chainId, contractType⟩ addresses
  tokenMetadata := registry.tokenMetadata

def registerToken (formats : Formats) (registry : ContractRegistry) (chainId : ChainId)
    (metadata : TokenMetadata) : Except String ContractRegistry :=
  match formats.parseAddress metadata.contractAddress with
  | some address =>
      .ok { registry with tokenMetadata := registry.tokenMetadata.insert ⟨chainId, address⟩ metadata }
  | none => .error ("Invalid contract address: " ++ metadata.contractAddress)

def getContractType (registry : ContractRegistry) (chainId : ChainId) (address : Address) :
    Option String :=
  registry.addressToType.get ⟨chainId, address⟩

def getTokenSymbol (registry : ContractRegistry) (chainId : ChainId) (token : Address) :
    Option String :=
  (registry.tokenMetadata.get ⟨chainId, token⟩).map TokenMetadata.symbol

/-- The first token with that address on any chain. -/
def tokenOnAnyChain (registry : ContractRegistry) (token : Address) : Option TokenMetadata :=
  (registry.tokenMetadata.entries.find? fun entry => entry.1.address = token).map Prod.snd

/-- Without a chain id of its own, a transaction is looked up on every chain. -/
def getTokenErcStandard (registry : ContractRegistry) (chainId : Option ChainId)
    (token : Address) : Option ErcStandard :=
  let metadata := match chainId with
    | some chainId => registry.tokenMetadata.get ⟨chainId, token⟩
    | none => registry.tokenOnAnyChain token
  metadata.map TokenMetadata.ercStandard

/-- The address is a known token on the given chain, or on any chain when none is
given. -/
def Registers (registry : ContractRegistry) (chainId : Option ChainId) (token : Address) : Prop :=
  ∃ entry ∈ registry.tokenMetadata.entries, entry.1.address = token ∧
    ∀ own, chainId = some own → entry.1.chainId = own

theorem getTokenErcStandard_isSome (registry : ContractRegistry) (chainId : Option ChainId)
    (token : Address) :
    (registry.getTokenErcStandard chainId token).isSome ↔ registry.Registers chainId token := by
  rw [Registers]
  cases chainId with
  | none =>
      simp only [getTokenErcStandard, tokenOnAnyChain, Option.isSome_map, List.find?_isSome,
        decide_eq_true_eq]
      constructor
      · rintro ⟨entry, hentry, haddress⟩
        exact ⟨entry, hentry, haddress, fun own hown => absurd hown.symm (Option.some_ne_none own)⟩
      · rintro ⟨entry, hentry, haddress, -⟩
        exact ⟨entry, hentry, haddress⟩
  | some own =>
      simp only [getTokenErcStandard, Option.isSome_map, BTreeMap.get_isSome]
      constructor
      · rintro ⟨entry, hentry, hkey⟩
        refine ⟨entry, hentry, by rw [hkey], fun chain hchain => ?_⟩
        rw [hkey]
        exact Option.some.inj hchain
      · rintro ⟨entry, hentry, rfl, hchain⟩
        refine ⟨entry, hentry, ?_⟩
        rw [← hchain own rfl]

def formatTokenAmountU256 (formats : Formats) (registry : ContractRegistry) (chainId : ChainId)
    (token : Address) (rawAmount : ℕ) : Option (String × String) := do
  let metadata ← registry.tokenMetadata.get ⟨chainId, token⟩
  let formatted ← formats.formatUnits rawAmount metadata.decimals.toNat
  pure (formatted, metadata.symbol)

end ContractRegistry

/-! ## What a visualizer shows of a token -/

/-- The symbol of a token, or its address when the registry does not know it. -/
def tokenSymbol (formats : Formats) (registry : Option ContractRegistry) (chainId : ChainId)
    (token : Address) : String :=
  (registry.bind fun known => known.getTokenSymbol chainId token).getD
    (formats.debugAddress token)

/-- An amount in units of the token, or the raw number. -/
def tokenAmount (formats : Formats) (registry : Option ContractRegistry) (chainId : ChainId)
    (token : Address) (amount : ℕ) : String :=
  ((registry.bind fun known => known.formatTokenAmountU256 formats chainId token amount).map
    Prod.fst).getD (toString amount)

/-! ## Layers -/

structure LayeredRegistry (R : Type) where
  request : Option R
  global : R

namespace LayeredRegistry

variable {R T : Type}

/-- A layered registry without data of the request. -/
def new (global : R) : LayeredRegistry R := ⟨none, global⟩

def lookup (layered : LayeredRegistry R) (find : R → Option T) : Option T :=
  (layered.request.bind find).orElse fun _ => find layered.global

@[simp]
theorem lookup_new (global : R) (find : R → Option T) : (new global).lookup find = find global :=
  rfl

end LayeredRegistry

end VisualSignParser.Ethereum
