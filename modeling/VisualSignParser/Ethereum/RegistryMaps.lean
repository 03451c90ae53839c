import VisualSignParser.Ethereum.Registry

/-!
# Contract types and their addresses

The registry keeps the type of each address and the addresses of each type.  A
registration adds to the first map and replaces an entry of the second, so the
maps stay inverse to each other as long as a registration lists every address
its type has so far and takes none from another type.
-/

namespace VisualSignParser.Ethereum

open VisualSignParser.OrderedMap

/-! ## Registrations -/

/-- What follows the last separator of a path, if there is one. -/
def lastSegment (found : List Char) : List Char → List Char
  | [] => found
  | char :: rest => lastSegment (if [':', ':'] <+: char :: rest then rest.tail else found) rest

/-- `ContractType::short_type_id`: the type's name without its path. -/
def shortTypeId (typeId : String) : String := String.ofList (lastSegment typeId.toList typeId.toList)

example : shortTypeId "visualsign_ethereum::protocols::uniswap::UniswapUniversalRouter" =
    "UniswapUniversalRouter" := by decide +kernel

def ContractRegistry.registerContractTyped (registry : ContractRegistry) (chainId : ChainId)
    (typeId : String) (addresses : List Address) : ContractRegistry where
  addressToType := addresses.foldl
    (fun types address => types.insert ⟨chainId, address⟩ (shortTypeId typeId))
    registry.addressToType
  typeToAddresses := registry.typeToAddresses.insert ⟨chainId, shortTypeId typeId⟩ addresses
  tokenMetadata := registry.tokenMetadata

inductive Registration where
  | untyped (chainId : ChainId) (contractType : String) (addresses : List Address)
  | typed (chainId : ChainId) (typeId : String) (addresses : List Address)

namespace Registration

def chainId : Registration → ChainId
  | untyped chainId _ _ => chainId
  | typed chainId _ _ => chainId

def contractType : Registration → String
  | untyped _ contractType _ => contractType
  | typed _ typeId _ => shortTypeId typeId

def addresses : Registration → List Address
  | untyped _ _ addresses => addresses
  | typed _ _ addresses => addresses

def apply (registry : ContractRegistry) : Registration → ContractRegistry
  | untyped chainId contractType addresses =>
      registry.registerContract chainId contractType addresses
  | typed chainId typeId addresses => registry.registerContractTyped chainId typeId addresses

end Registration

/-- The registry after a sequence of registrations. -/
def registerAll (registry : ContractRegistry) (registrations : List Registration) :
    ContractRegistry :=
  registrations.foldl Registration.apply registry

/-! ## The maps -/

namespace ContractRegistry

variable (registry : ContractRegistry)

/-- The addresses listed under a type. -/
def addressesOf (chainId : ChainId) (contractType : String) : List Address :=
  (registry.typeToAddresses.get ⟨chainId, contractType⟩).getD []

def MapsInverse : Prop :=
  ∀ chainId contractType address, address ∈ registry.addressesOf chainId contractType ↔
    registry.getContractType chainId address = some contractType

/-- The registration lists every address its type has on the chain, and no address
that another type has there. -/
structure Admits (registration : Registration) : Prop where
  keeps : ∀ address,
    registry.getContractType registration.chainId address = some registration.contractType →
      address ∈ registration.addresses
  takesNone : ∀ address ∈ registration.addresses, ∀ other,
    registry.getContractType registration.chainId address = some other →
      other = registration.contractType

/-- Each registration of the sequence, in the state it is made in. -/
def AdmitsAll : ContractRegistry → List Registration → Prop
  | _, [] => True
  | registry, registration :: registrations =>
      registry.Admits registration ∧ AdmitsAll (registration.apply registry) registrations

theorem mapsInverse_new : new.MapsInverse := by
  intro chainId contractType address
  exact iff_of_false nofun nofun

variable {registry}

theorem getContractType_apply (registration : Registration) (chainId : ChainId)
    (address : Address) :
    (registration.apply registry).getContractType chainId address =
      if chainId = registration.chainId ∧ address ∈ registration.addresses then
        some registration.contractType
      else registry.getContractType chainId address := by
  have hget (own : ChainId) (contractType : String) (addresses : List Address) :
      (addresses.foldl (fun types address => types.insert ⟨own, address⟩ contractType)
        registry.addressToType).get ⟨chainId, address⟩ =
        if chainId = own ∧ address ∈ addresses then some contractType
        else registry.getContractType chainId address := by
    have hkeys := BTreeMap.get_foldl_insert registry.addressToType
      (addresses.map (ChainAddress.mk own)) contractType ⟨chainId, address⟩
    rw [List.foldl_map] at hkeys
    have hmem : ChainAddress.mk chainId address ∈ addresses.map (ChainAddress.mk own) ↔
        chainId = own ∧ address ∈ addresses := by
      simp only [List.mem_map, ChainAddress.mk.injEq]
      constructor
      · rintro ⟨listed, hlisted, rfl, rfl⟩
        exact ⟨rfl, hlisted⟩
      · rintro ⟨rfl, hlisted⟩
        exact ⟨address, hlisted, rfl, rfl⟩
    rw [hkeys]
    simp only [hmem, getContractType]
  cases registration with
  | untyped own contractType addresses => exact hget own contractType addresses
  | typed own typeId addresses => exact hget own (shortTypeId typeId) addresses

theorem addressesOf_apply (registration : Registration) (chainId : ChainId)
    (contractType : String) :
    (registration.apply registry).addressesOf chainId contractType =
      if chainId = registration.chainId ∧ contractType = registration.contractType then
        registration.addresses
      else registry.addressesOf chainId contractType := by
  have hget (own : ChainId) (ownType : String) (addresses : List Address) :
      ((registry.typeToAddresses.insert ⟨own, ownType⟩ addresses).get
        ⟨chainId, contractType⟩).getD [] =
        if chainId = own ∧ contractType = ownType then addresses
        else registry.addressesOf chainId contractType := by
    rw [BTreeMap.get_insert, addressesOf]
    simp only [ChainType.mk.injEq, eq_comm (a := own), eq_comm (a := ownType)]
    split_ifs <;> rfl
  cases registration with
  | untyped own ownType addresses => exact hget own ownType addresses
  | typed own typeId addresses => exact hget own (shortTypeId typeId) addresses

/-- One registration keeps the maps inverse exactly when the registry admits it. -/
theorem mapsInverse_apply_iff (hinverse : registry.MapsInverse) (registration : Registration) :
    (registration.apply registry).MapsInverse ↔ registry.Admits registration := by
  constructor
  · intro hafter
    constructor
    · intro address htype
      -- the type is kept by an address that is no longer listed
      have hlisted := (hafter registration.chainId registration.contractType address).2 (by
        rw [getContractType_apply]
        split_ifs
        · rfl
        · exact htype)
      rwa [addressesOf_apply, if_pos ⟨rfl, rfl⟩] at hlisted
    · intro address haddress other htype
      by_contra hother
      have hlisted := (hinverse registration.chainId other address).2 htype
      have hmoved := (hafter registration.chainId other address).1 (by
        rwa [addressesOf_apply, if_neg (fun hboth => hother hboth.2)])
      rw [getContractType_apply, if_pos ⟨rfl, haddress⟩] at hmoved
      exact hother (Option.some.inj hmoved).symm
  · rintro ⟨hkeeps, htakesNone⟩ chainId contractType address
    rw [addressesOf_apply, getContractType_apply]
    by_cases hchain : chainId = registration.chainId
    · subst hchain
      simp only [true_and]
      by_cases haddress : address ∈ registration.addresses
      · rw [if_pos haddress, Option.some.injEq]
        split_ifs with htype
        · exact iff_of_true haddress htype.symm
        · rw [hinverse]
          refine iff_of_false (fun hother => htype ?_) (Ne.symm htype)
          exact htakesNone address haddress _ hother
      · rw [if_neg haddress]
        split_ifs with htype
        · subst htype
          exact iff_of_false haddress (fun hown => haddress (hkeeps address hown))
        · exact hinverse _ _ _
    · rw [if_neg (fun hboth => hchain hboth.1), if_neg (fun hboth => hchain hboth.1)]
      exact hinverse _ _ _

theorem mapsInverse_registerAll_iff (hinverse : registry.MapsInverse)
    (registrations : List Registration) :
    (∀ done left, registrations = done ++ left → (registerAll registry done).MapsInverse) ↔
      AdmitsAll registry registrations := by
  induction registrations generalizing registry with
  | nil =>
      refine iff_of_true (fun done left hsplit => ?_) trivial
      rw [(List.append_eq_nil_iff.1 hsplit.symm).1]
      exact hinverse
  | cons registration registrations ih =>
      constructor
      · intro hall
        have hfirst := (mapsInverse_apply_iff hinverse registration).1
          (hall [registration] registrations rfl)
        refine ⟨hfirst, (ih ((mapsInverse_apply_iff hinverse registration).2 hfirst)).1 ?_⟩
        intro done left hsplit
        exact hall (registration :: done) left (by rw [hsplit, List.cons_append])
      · rintro ⟨hfirst, hrest⟩ done left hsplit
        cases done with
        | nil => exact hinverse
        | cons first done =>
            rw [List.cons_append, List.cons.injEq] at hsplit
            obtain ⟨rfl, hsplit⟩ := hsplit
            exact (ih ((mapsInverse_apply_iff hinverse registration).2 hfirst)).2 hrest done left
              hsplit

end ContractRegistry

/-- The maps are inverse in every state of a run exactly when each registration is
admitted where it is made. -/
theorem maps_inverse_iff (registrations : List Registration) :
    (∀ done left, registrations = done ++ left →
      (registerAll ContractRegistry.new done).MapsInverse) ↔
      ContractRegistry.AdmitsAll ContractRegistry.new registrations :=
  ContractRegistry.mapsInverse_registerAll_iff ContractRegistry.mapsInverse_new registrations

/-- A second registration of a type hides its first address. -/
theorem second_registration_hides_address :
    let registry := registerAll ContractRegistry.new
      [.untyped 1 "Router" [addressOf 1], .untyped 1 "Router" [addressOf 2]]
    registry.getContractType 1 (addressOf 1) = some "Router" ∧
      addressOf 1 ∉ registry.addressesOf 1 "Router" := by
  decide +kernel

end VisualSignParser.Ethereum
