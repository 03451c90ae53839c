import VisualSignParser.Ethereum.AbiTrust

/-!
# Every accepted ABI is handed out

The registry of a request keeps the ABIs by the spelling of their keys and leads to
them by address.  Where no two keys spell one address, nothing that is accepted is
lost on the way.
-/

namespace VisualSignParser.Ethereum

open VisualSignParser.Framing
open VisualSignParser.OrderedMap

section Coverage

variable (formats : Formats) (dyn : DynAbi) (k256 : K256) (policy : MetadataTrustPolicy)
  (chainId : ChainId)

/-- What one turn of the loop does for a mapping that is accepted. -/
theorem registerMapping_of_accepted {registry : AbiRegistry} {entry : String × Proto.Abi}
    {address : Address} {abi : JsonAbi}
    (haccepted : AcceptedMapping formats dyn k256 policy chainId entry address abi) :
    registerMapping formats dyn k256 policy chainId registry entry =
      ⟨registry.abis.insert entry.1 abi, registry.addressMappings.insert ⟨chainId, address⟩
        ⟨entry.1, (resolveAbiKind formats entry.2).1, (resolveAbiKind formats entry.2).2⟩⟩ := by
  unfold registerMapping
  rw [haccepted.parses]
  dsimp only
  rw [if_neg (not_lt.2 haccepted.size), if_pos (acceptsEntry_iff.2 haccepted.accepted)]
  simp [AbiRegistry.registerAbi, AbiRegistry.mapAddressWithType, haccepted.parsed, bind,
    Except.bind, pure, Except.pure]

/-- Every accepted mapping is found by its address. -/
def Handed (entries : List (String × Proto.Abi)) (registry : AbiRegistry) : Prop :=
  ∀ entry ∈ entries, ∀ address abi,
    AcceptedMapping formats dyn k256 policy chainId entry address abi →
      ∃ mapping, registry.addressMappings.get ⟨chainId, address⟩ = some mapping ∧
        mapping.abiName = entry.1 ∧ registry.abis.get entry.1 = some abi

/-- No two keys spell one address. -/
def OneSpelling (entries : List (String × Proto.Abi)) : Prop :=
  entries.Pairwise fun left right => left.1 ≠ right.1 ∧
    ∀ address, formats.parseAddress left.1 = some address →
      formats.parseAddress right.1 ≠ some address

theorem handed_registerMapping {entries : List (String × Proto.Abi)} {registry : AbiRegistry}
    {entry : String × Proto.Abi}
    (hhanded : Handed formats dyn k256 policy chainId entries registry)
    (hfresh : ∀ earlier ∈ entries, earlier.1 ≠ entry.1 ∧
      ∀ address, formats.parseAddress earlier.1 = some address →
        formats.parseAddress entry.1 ≠ some address) :
    Handed formats dyn k256 policy chainId (entries ++ [entry])
      (registerMapping formats dyn k256 policy chainId registry entry) := by
  intro known hknown address abi haccepted
  rcases List.mem_append.1 hknown with hearlier | hnew
  · obtain ⟨mapping, hmapping, hname, habi⟩ := hhanded known hearlier address abi haccepted
    obtain ⟨hkey, haddress⟩ := hfresh known hearlier
    obtain hsame | ⟨other, added, hadded, hregistered⟩ :=
      registerMapping_cases formats dyn k256 policy chainId registry entry
    · rw [hsame]
      exact ⟨mapping, hmapping, hname, habi⟩
    · have hother : (⟨chainId, other⟩ : ChainAddress) ≠ ⟨chainId, address⟩ := by
        intro heq
        rw [ChainAddress.mk.injEq] at heq
        exact haddress address haccepted.parses (heq.2 ▸ hadded.parses)
      rw [hregistered]
      exact ⟨mapping, (BTreeMap.get_insert_of_ne _ _ hother).trans hmapping, hname,
        (BTreeMap.get_insert_of_ne _ _ hkey.symm).trans habi⟩
  · obtain rfl := List.mem_singleton.1 hnew
    rw [registerMapping_of_accepted formats dyn k256 policy chainId haccepted]
    exact ⟨_, BTreeMap.get_insert_self .., rfl, BTreeMap.get_insert_self ..⟩

theorem handed_foldl {earlier entries : List (String × Proto.Abi)} {registry : AbiRegistry}
    (hhanded : Handed formats dyn k256 policy chainId earlier registry)
    (hspelling : OneSpelling formats (earlier ++ entries)) :
    Handed formats dyn k256 policy chainId (earlier ++ entries)
      (entries.foldl (registerMapping formats dyn k256 policy chainId) registry) := by
  induction entries generalizing earlier registry with
  | nil => rwa [List.append_nil]
  | cons entry entries ih =>
      have hstep := handed_registerMapping formats dyn k256 policy chainId hhanded
        fun known hknown => (List.pairwise_append.1 hspelling).2.2 known hknown entry
          List.mem_cons_self
      rw [List.append_cons] at hspelling ⊢
      exact ih hstep hspelling

/-- The ABI that a request has for an address. -/
def abiOfRequest (metadata : Option Proto.ChainMetadata) (address : Address) : Option JsonAbi :=
  (tryExtractFromChainMetadata formats dyn k256 metadata chainId policy).bind fun registry =>
    registry.getAbiForAddress chainId address

theorem abiOfRequest_eq_some_iff {ethereum : Proto.EthereumMetadata} {address : Address}
    {abi : JsonAbi} (hspelling : OneSpelling formats ethereum.abiMappings.entries) :
    abiOfRequest formats dyn k256 policy chainId (some ⟨some (.ethereum ethereum)⟩) address =
        some abi ↔
      ∃ entry ∈ ethereum.abiMappings.entries,
        AcceptedMapping formats dyn k256 policy chainId entry address abi := by
  constructor
  · intro habi
    obtain ⟨registry, hregistry, hget⟩ := Option.bind_eq_some_iff.1 habi
    obtain ⟨found, hfound, hentry⟩ :=
      acceptedAbi_of_extracted formats dyn k256 policy chainId hregistry hget
    cases hfound
    exact hentry
  · rintro ⟨entry, hentry, haccepted⟩
    have hhanded := @handed_foldl formats dyn k256 policy chainId []
      ethereum.abiMappings.entries AbiRegistry.new (fun _ hnone => nomatch hnone) hspelling
    obtain ⟨mapping, hmapping, hname, habi⟩ := hhanded entry hentry address abi haccepted
    unfold abiOfRequest tryExtractFromChainMetadata
    dsimp only [Option.bind_some]
    rw [if_neg]
    · rw [Option.bind_some, AbiRegistry.getAbiForAddress, hmapping]
      exact (congrArg _ hname).trans habi
    · intro hempty
      have hsome := Option.isSome_of_eq_some habi
      obtain ⟨known, hknown, -⟩ := (BTreeMap.get_isSome _ _).1 hsome
      rw [List.isEmpty_iff.1 hempty] at hknown
      exact absurd hknown List.not_mem_nil

end Coverage

end VisualSignParser.Ethereum
