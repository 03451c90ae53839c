import VisualSignParser.Codec.Pointwise
import VisualSignParser.Gateway.X402Config

/-!
# What the payment layer charges

A configured price becomes a whole number of the smallest unit, rounded half to
even and never nothing.  A configuration that was loaded passes every check
that building the layer repeats, so that building fails on a price, on a
recipient or on the facilitator alone.
-/

namespace VisualSignParser.Gateway

open VisualSignParser.HalfEven
open VisualSignParser.Outcome
open VisualSignParser.Pointwise

variable {crates : X402Crates}

/-- What the code relies on of the decimals: a shift of the point by six places
is exact or out of range, and rounding and conversion are those documented. -/
structure X402Crates.LawfulDecimal (crates : X402Crates) (value : crates.Decimal → ℚ) : Prop where
  nonneg_of_sign : ∀ decimal, crates.isSignNegative decimal = false → 0 ≤ value decimal
  value_million : ∀ decimal product,
    crates.checkedMul decimal (crates.decimalFromU64 1000000) = some product →
      value product = value decimal * 1000000
  million_overflow : ∀ decimal,
    crates.checkedMul decimal (crates.decimalFromU64 1000000) = none →
      2 ^ 64 < |value decimal * 1000000|
  value_round : ∀ decimal, value (crates.round decimal) = halfEven (value decimal)
  toU64_integer : ∀ decimal (integer : ℤ) count, value decimal = integer →
    (crates.toU64 decimal = some count ↔ (count : ℤ) = integer ∧ count < 2 ^ 64)

/-- The recipient and the network fit together, and the recipient is an address. -/
inductive Pays : PayToAddress → String → ℕ → PriceTag crates → Prop where
  | baseSepolia {text : String} {address : crates.EvmAddress} {atomic : ℕ}
      (haddress : crates.evmFromStr text = .ok address) :
      Pays (.evm text) "base-sepolia" atomic (.eip155 address .baseSepolia atomic)
  | base {text : String} {address : crates.EvmAddress} {atomic : ℕ}
      (haddress : crates.evmFromStr text = .ok address) :
      Pays (.evm text) "base" atomic (.eip155 address .base atomic)
  | solana {text : String} {address : crates.SolanaAddress} {atomic : ℕ}
      (haddress : crates.solanaFromStr text = .ok address) :
      Pays (.solana text) "solana" atomic (.solana address .solana atomic)
  | solanaDevnet {text : String} {address : crates.SolanaAddress} {atomic : ℕ}
      (haddress : crates.solanaFromStr text = .ok address) :
      Pays (.solana text) "solana-devnet" atomic (.solana address .solanaDevnet atomic)

/-- The tag charges the configured price, to the nearest unit, to the
configured recipient. -/
def Charges (value : crates.Decimal → ℚ) (tag : PriceTagConfig crates)
    (priceTag : PriceTag crates) : Prop :=
  crates.isSignNegative tag.priceUsd = false ∧
    ∃ atomic : ℕ, (atomic : ℤ) = halfEven (value tag.priceUsd * 1000000) ∧ 0 < atomic ∧
      atomic < 2 ^ 64 ∧ Pays tag.payTo tag.network atomic priceTag

theorem destination_eq_ok {payTo : PayToAddress} {network : String} {atomic : ℕ}
    {priceTag : PriceTag crates} :
    destination payTo network atomic = .ok priceTag ↔ Pays payTo network atomic priceTag := by
  constructor
  · intro hdestination
    unfold destination at hdestination
    split at hdestination
    all_goals
      try simp only [parsePaytoAddr, bind_eq_ok, mapError_eq_ok, pure_eq_ok] at hdestination
    · obtain ⟨address, haddress, rfl⟩ := hdestination
      exact .baseSepolia haddress
    · obtain ⟨address, haddress, rfl⟩ := hdestination
      exact .base haddress
    · obtain ⟨address, haddress, rfl⟩ := hdestination
      exact .solana haddress
    · obtain ⟨address, haddress, rfl⟩ := hdestination
      exact .solanaDevnet haddress
    · cases hdestination
    · cases hdestination
  · intro hpays
    cases hpays with
    | baseSepolia haddress | base haddress | solana haddress | solanaDevnet haddress =>
        simp [destination, parsePaytoAddr, haddress, Except.mapError, bind, Except.bind, pure,
          Except.pure]

section Prices

variable {value : crates.Decimal → ℚ}

/-- A price that is not negative is multiplied exactly, and rounded once. -/
theorem atomicUnits_eq_some (hlawful : crates.LawfulDecimal value) {price : crates.Decimal}
    (hsign : crates.isSignNegative price = false) {atomic : ℕ} :
    atomicUnits price = some atomic ↔
      (atomic : ℤ) = halfEven (value price * 1000000) ∧ atomic < 2 ^ 64 := by
  rw [atomicUnits]
  cases hproduct : crates.checkedMul price (crates.decimalFromU64 1000000) with
  | none =>
      refine iff_of_false nofun fun hatomic => ?_
      have hover := hlawful.million_overflow price hproduct
      have hnonneg : 0 ≤ value price * 1000000 :=
        mul_nonneg (hlawful.nonneg_of_sign price hsign) (by norm_num)
      rw [abs_of_nonneg hnonneg] at hover
      have hnear := (isNearest_halfEven (value price * 1000000)).1
      rw [← hatomic.1, abs_le] at hnear
      have hbound : (atomic : ℚ) + 1 ≤ 2 ^ 64 := by exact_mod_cast hatomic.2
      push_cast at hnear
      linarith [hnear.2]
  | some product =>
      rw [Option.bind_some, hlawful.toU64_integer _ _ _ (hlawful.value_round product),
        hlawful.value_million price product hproduct]

/-- A tag is built exactly for a price that is worth a unit, a recipient that is
an address, and a network of the recipient's chain. -/
theorem buildPriceTag_eq_ok (hlawful : crates.LawfulDecimal value)
    {tag : PriceTagConfig crates} {priceTag : PriceTag crates} :
    buildPriceTag tag = .ok priceTag ↔ tag.asset = "USDC" ∧ Charges value tag priceTag := by
  simp only [buildPriceTag, bind_eq_ok, require_eq_ok, okOr_eq_ok, destination_eq_ok]
  constructor
  · rintro ⟨-, hasset, -, -, -, hsign, atomic, hatomic, -, hfree, hpays⟩
    obtain ⟨hround, hfits⟩ := (atomicUnits_eq_some hlawful hsign).1 hatomic
    exact ⟨hasset, hsign, atomic, hround, Nat.pos_of_ne_zero hfree, hfits, hpays⟩
  · rintro ⟨hasset, hsign, atomic, hround, hpositive, hfits, hpays⟩
    exact ⟨(), hasset, (), trivial, (), hsign, atomic,
      (atomicUnits_eq_some hlawful hsign).2 ⟨hround, hfits⟩, (), hpositive.ne', hpays⟩

end Prices

/-! ## Loading and building -/

/-- The checks that loading and building both make. -/
structure X402Config.Checked (config : X402Config crates) : Prop where
  version : validateVersion config.protocolVersion = .ok ()
  url : validateFacilitatorUrl config.facilitatorUrl config.profile = .ok ()
  timeout : validateTimeout config.facilitatorTimeout = .ok ()
  tags : config.priceTags ≠ []
  asset : ∀ tag ∈ config.priceTags, tag.asset = "USDC"

/-- The value the environment gives a variable. -/
def Supplies (env : Environment) (key : String) (value : Option String) : Prop :=
  env.var key = value.elim .notPresent .present

/-- Loading from the environment is loading from the values it supplies. -/
theorem X402Config.fromEnv_eq_ok {env : Environment} {config : X402Config crates}
    (hconfig : fromEnv env = .ok config) :
    ∃ get, (∀ key ∈ x402EnvKeys, Supplies env key (get key)) ∧ fromLookup get = .ok config := by
  simp only [fromEnv, bind_eq_ok] at hconfig
  obtain ⟨resolved, hresolve, hlookup⟩ := hconfig
  refine ⟨_, fun key hkey => ?_, hlookup⟩
  simp only [resolve, mapM_eq_ok, bind_eq_ok, pure_eq_ok, checkedEnvVar_eq_ok] at hresolve
  have hpairs : List.Forall₂ (fun key pair => pair.1 = key ∧ Supplies env key pair.2)
      x402EnvKeys resolved := by
    refine hresolve.imp ?_
    rintro key _ ⟨value, hvalue, rfl⟩
    exact ⟨rfl, hvalue⟩
  obtain ⟨value, hvalue, hsupplies⟩ := lookup_of_forall₂ hpairs hkey
  simpa only [hvalue, Option.join_some] using hsupplies

section Load

variable {get : String → Option String} {profile : X402Profile} {config : X402Config crates}

theorem X402Config.fromLookup_eq_ok :
    fromLookup get = .ok config ↔
      X402Profile.fromStr ((get "X402_PROFILE").getD "local") = .ok config.profile ∧
      loadFacilitatorUrl get config.profile = .ok config.facilitatorUrl ∧
      loadTimeout get = .ok config.facilitatorTimeout ∧
      config.protocolVersion = (get "X402_PROTOCOL_VERSION").getD "v2" ∧
      validateVersion config.protocolVersion = .ok () ∧
      loadTags get config.profile = .ok config.priceTags ∧ config.priceTags ≠ [] := by
  obtain ⟨profile, url, timeout, version, tags⟩ := config
  simp only [fromLookup, bind_eq_ok, pure_eq_ok, require_eq_ok, X402Config.mk.injEq]
  constructor
  · rintro ⟨_, hprofile, _, hurl, _, htimeout, ⟨⟩, hversion, _, htags, -, hnonempty, rfl, rfl, rfl,
      rfl, rfl⟩
    exact ⟨hprofile, hurl, htimeout, rfl, hversion, htags, hnonempty⟩
  · rintro ⟨hprofile, hurl, htimeout, rfl, hversion, htags, hnonempty⟩
    exact ⟨_, hprofile, _, hurl, _, htimeout, (), hversion, _, htags, (), hnonempty, rfl, rfl, rfl,
      rfl, rfl⟩

theorem X402Config.tagFromWire_eq_ok {wire : PriceTagWire} {tag : PriceTagConfig crates} :
    tagFromWire wire = .ok tag ↔
      wire.asset = "USDC" ∧ crates.decimalFromStr wire.priceUsd = .ok tag.priceUsd ∧
        wire.payTo.intoPayTo = .ok tag.payTo ∧ PriceScheme.fromStr wire.scheme = .ok tag.scheme ∧
        tag.network = wire.network ∧ tag.asset = wire.asset := by
  obtain ⟨network, asset, priceUsd, payTo, scheme⟩ := tag
  simp only [tagFromWire, bind_eq_ok, pure_eq_ok, require_eq_ok, mapError_eq_ok,
    PriceTagConfig.mk.injEq]
  constructor
  · rintro ⟨-, hasset, _, hprice, _, hpayTo, ⟨⟩, hscheme, rfl, rfl, rfl, rfl, -⟩
    exact ⟨hasset, hprice, hpayTo, hscheme, rfl, rfl⟩
  · rintro ⟨hasset, hprice, hpayTo, hscheme, rfl, rfl⟩
    exact ⟨(), hasset, _, hprice, _, hpayTo, _, hscheme, rfl, rfl, rfl, rfl, trivial⟩

theorem X402Config.seededTag_eq_ok {tag : PriceTagConfig crates} :
    seededTag get profile = .ok tag ↔
      ∃ priceText defaultPayto, seed get profile = .ok (tag.network, priceText, defaultPayto) ∧
        crates.decimalFromStr priceText = .ok tag.priceUsd ∧
        seededPayTo get defaultPayto = .ok tag.payTo ∧ tag.asset = "USDC" := by
  obtain ⟨network, asset, priceUsd, payTo, ⟨⟩⟩ := tag
  simp only [seededTag, bind_eq_ok, mapError_eq_ok, pure_eq_ok, PriceTagConfig.mk.injEq]
  constructor
  · rintro ⟨⟨_, priceText, defaultPayto⟩, hseed, _, hprice, _, hpayTo, rfl, rfl, rfl, rfl, -⟩
    exact ⟨priceText, defaultPayto, hseed, hprice, hpayTo, rfl⟩
  · rintro ⟨priceText, defaultPayto, hseed, hprice, hpayTo, rfl⟩
    exact ⟨(network, priceText, defaultPayto), hseed, priceUsd, hprice, payTo, hpayTo, rfl, rfl, rfl,
      rfl, trivial⟩

/-- The second tag of the local profile, which pays no one. -/
def IsBurnTag (tag : PriceTagConfig crates) : Prop :=
  tag.network = "solana-devnet" ∧ tag.payTo = .solana solanaBurnPayto ∧ tag.asset = "USDC"

theorem X402Config.mem_seededTags {tags : List (PriceTagConfig crates)}
    (htags : seededTags get profile = .ok tags) {tag : PriceTagConfig crates} (htag : tag ∈ tags) :
    seededTag get profile = .ok tag ∨
      profile = .local ∧ get "X402_NETWORK" = none ∧ IsBurnTag tag := by
  simp only [seededTags, bind_eq_ok] at htags
  obtain ⟨first, hfirst, hrest⟩ := htags
  split_ifs at hrest with hlocal
  · simp only [bind_eq_ok, pure_eq_ok] at hrest
    obtain ⟨price, -, rfl⟩ := hrest
    rcases List.mem_cons.1 htag with rfl | hburn
    · exact .inl hfirst
    · rw [List.mem_singleton] at hburn
      exact .inr ⟨hlocal.1, hlocal.2, by rw [hburn]; exact ⟨rfl, rfl, rfl⟩⟩
  · rw [pure_eq_ok] at hrest
    rw [← hrest, List.mem_singleton] at htag
    exact .inl (htag ▸ hfirst)

theorem X402Config.asset_of_loadTags {tags : List (PriceTagConfig crates)}
    (htags : loadTags get profile = .ok tags) {tag : PriceTagConfig crates} (htag : tag ∈ tags) :
    tag.asset = "USDC" := by
  unfold loadTags at htags
  cases hjson : get "X402_PRICE_TAGS_JSON" with
  | none =>
      rw [hjson] at htags
      rcases mem_seededTags htags htag with hseeded | ⟨-, -, hburn⟩
      · obtain ⟨_, _, -, -, -, hasset⟩ := seededTag_eq_ok.1 hseeded
        exact hasset
      · exact hburn.2.2
  | some json =>
      rw [hjson] at htags
      simp only [parseTagsJson, bind_eq_ok, mapM_eq_ok] at htags
      obtain ⟨wires, -, hwires⟩ := htags
      obtain ⟨wire, -, hwire⟩ := exists_left_of_mem hwires htag
      obtain ⟨hasset, -, -, -, -, hsame⟩ := tagFromWire_eq_ok.1 hwire
      exact hsame.trans hasset

theorem X402Config.checked_of_fromLookup (hconfig : fromLookup get = .ok config) :
    config.Checked := by
  obtain ⟨-, hurl, htimeout, -, hversion, htags, hnonempty⟩ := fromLookup_eq_ok.1 hconfig
  refine ⟨hversion, ?_, ?_, hnonempty, fun tag htag => asset_of_loadTags htags htag⟩
  · simp only [loadFacilitatorUrl, bind_eq_ok, pure_eq_ok] at hurl
    obtain ⟨-, -, url, -, ⟨⟩, hvalid, rfl⟩ := hurl
    exact hvalid
  · unfold loadTimeout at htimeout
    cases htext : get "X402_FACILITATOR_TIMEOUT_SECS" with
    | none =>
        rw [htext] at htimeout
        rw [← Except.ok.inj htimeout]
        rfl
    | some text =>
        rw [htext] at htimeout
        simp only [bind_eq_ok, pure_eq_ok] at htimeout
        obtain ⟨seconds, -, ⟨⟩, hvalid, rfl⟩ := htimeout
        exact hvalid

end Load

/-! ## Where the money goes -/

/-- The operator named the recipient, in the list of tags or on its own. -/
inductive FromOperator (env : Environment) (tag : PriceTagConfig crates) : Prop where
  | listed {json : String} {wires : List PriceTagWire} {wire : PriceTagWire}
      (hjson : env.var "X402_PRICE_TAGS_JSON" = .present json)
      (hwires : crates.wireFromStr json = .ok wires) (hwire : wire ∈ wires)
      (hnetwork : tag.network = wire.network)
      (hprice : crates.decimalFromStr wire.priceUsd = .ok tag.priceUsd)
      (hpayTo : wire.payTo.intoPayTo = .ok tag.payTo)
  | single {text : String} (hjson : env.var "X402_PRICE_TAGS_JSON" = .notPresent)
      (htext : env.var "X402_PAYTO" = .present text)
      (hpayTo : X402Config.classifyPayto text = .ok tag.payTo)

/-- A tag of the local profile that pays an address no one holds the key of. -/
def BurnsLocally (config : X402Config crates) (tag : PriceTagConfig crates) : Prop :=
  config.profile = .local ∧
    (tag.network = "base-sepolia" ∧
        tag.payTo = .evm "0x000000000000000000000000000000000000dEaD" ∨
      tag.network = "solana-devnet" ∧ tag.payTo = .solana solanaBurnPayto)

theorem X402Config.seed_default {get : String → Option String} {profile : X402Profile}
    {network priceText : String} {payTo : PayToAddress}
    (hseed : seed get profile = .ok (network, priceText, some payTo)) :
    profile = .local ∧ network = "base-sepolia" ∧
      payTo = .evm "0x000000000000000000000000000000000000dEaD" := by
  unfold seed at hseed
  split at hseed
  all_goals cases hseed
  exact ⟨rfl, rfl, rfl⟩

/-- A tag pays whom the operator named, or it is one of the two of the local profile. -/
theorem X402Config.recipient_of_fromEnv {env : Environment} {config : X402Config crates}
    (hconfig : fromEnv env = .ok config) {tag : PriceTagConfig crates}
    (htag : tag ∈ config.priceTags) : FromOperator env tag ∨ BurnsLocally config tag := by
  obtain ⟨get, hsupplies, hlookup⟩ := fromEnv_eq_ok hconfig
  obtain ⟨-, -, -, -, -, htags, -⟩ := fromLookup_eq_ok.1 hlookup
  have hjson := hsupplies "X402_PRICE_TAGS_JSON" (by decide)
  have htext := hsupplies "X402_PAYTO" (by decide)
  unfold loadTags at htags
  cases hlisted : get "X402_PRICE_TAGS_JSON" with
  | some json =>
      rw [hlisted] at htags hjson
      simp only [parseTagsJson, bind_eq_ok, mapError_eq_ok, mapM_eq_ok] at htags
      obtain ⟨wires, hwires, hall⟩ := htags
      obtain ⟨wire, hwire, hread⟩ := exists_left_of_mem hall htag
      obtain ⟨-, hprice, hpayTo, -, hnetwork, -⟩ := tagFromWire_eq_ok.1 hread
      exact .inl (.listed hjson hwires hwire hnetwork hprice hpayTo)
  | none =>
      rw [hlisted] at htags hjson
      rcases mem_seededTags htags htag with hseeded | ⟨hlocal, -, hburn⟩
      · obtain ⟨priceText, defaultPayto, hseed, -, hpayTo, -⟩ := seededTag_eq_ok.1 hseeded
        cases hoverride : get "X402_PAYTO" with
        | some text =>
            rw [hoverride] at htext
            simp only [seededPayTo, hoverride] at hpayTo
            exact .inl (.single hjson htext hpayTo)
        | none =>
            cases defaultPayto with
            | none =>
                simp only [seededPayTo, hoverride] at hpayTo
                cases hpayTo
            | some payTo =>
                simp only [seededPayTo, hoverride] at hpayTo
                obtain ⟨hlocal, hnetwork, rfl⟩ := seed_default hseed
                exact .inr ⟨hlocal, .inl ⟨hnetwork, (Except.ok.inj hpayTo).symm⟩⟩
      · exact .inr ⟨hlocal, .inr ⟨hburn.1, hburn.2.1⟩⟩

/-- Of a configuration that passes the repeated checks, the layer is built when
the facilitator is reached by its client and every price can be charged. -/
theorem buildMiddleware_of_checked {value : crates.Decimal → ℚ}
    (hlawful : crates.LawfulDecimal value) {config : X402Config crates} (hchecked : config.Checked)
    {first : PriceTag crates} {rest : List (PriceTag crates)} :
    config.buildMiddleware = .ok (first, rest) ↔
      crates.facilitatorTryNew config.facilitatorUrl = .ok () ∧
        List.Forall₂ (Charges value) config.priceTags (first :: rest) := by
  have hbuilt (tags : List (PriceTag crates)) :
      config.priceTags.mapM buildPriceTag = .ok tags ↔
        List.Forall₂ (Charges value) config.priceTags tags := by
    rw [mapM_eq_ok, List.forall₂_iff_get, List.forall₂_iff_get]
    refine and_congr_right fun _ => forall₃_congr fun index hindex _ => ?_
    rw [buildPriceTag_eq_ok hlawful, and_iff_right (hchecked.asset _ (List.get_mem _ _))]
  simp only [X402Config.buildMiddleware, hchecked.version, hchecked.url, hchecked.timeout, ok_bind,
    bind_eq_ok, mapError_eq_ok, hbuilt]
  constructor
  · rintro ⟨⟨⟩, hclient, tags, htags, hresult⟩
    cases tags with
    | nil => cases hresult
    | cons head tail =>
        cases hresult
        exact ⟨hclient, htags⟩
  · rintro ⟨hclient, htags⟩
    exact ⟨(), hclient, first :: rest, htags, rfl⟩

/-- A configuration that was loaded fails to build on the facilitator's client or
on a price tag, and on none of the checks that building repeats. -/
theorem buildMiddleware_eq_ok_iff {value : crates.Decimal → ℚ}
    (hlawful : crates.LawfulDecimal value) {env : Environment} {config : X402Config crates}
    (hconfig : X402Config.fromEnv env = .ok config) (first : PriceTag crates)
    (rest : List (PriceTag crates)) :
    config.buildMiddleware = .ok (first, rest) ↔
      crates.facilitatorTryNew config.facilitatorUrl = .ok () ∧
        List.Forall₂ (Charges value) config.priceTags (first :: rest) := by
  obtain ⟨get, -, hlookup⟩ := X402Config.fromEnv_eq_ok hconfig
  exact buildMiddleware_of_checked hlawful (X402Config.checked_of_fromLookup hlookup)

/-- Every tag the layer charges is worth at least one unit, to the nearest unit
what the configuration asks, and goes to the recipient the operator named, or to
no one on the local profile's test networks. -/
theorem charges_operator {value : crates.Decimal → ℚ} (hlawful : crates.LawfulDecimal value)
    {env : Environment} {config : X402Config crates}
    (hconfig : X402Config.fromEnv env = .ok config) {first : PriceTag crates}
    {rest : List (PriceTag crates)} (hbuilt : config.buildMiddleware = .ok (first, rest))
    {priceTag : PriceTag crates} (hmounted : priceTag ∈ first :: rest) :
    ∃ tag ∈ config.priceTags, Charges value tag priceTag ∧
      (FromOperator env tag ∨ BurnsLocally config tag) := by
  obtain ⟨get, -, hlookup⟩ := X402Config.fromEnv_eq_ok hconfig
  obtain ⟨-, hall⟩ := (buildMiddleware_of_checked hlawful
    (X402Config.checked_of_fromLookup hlookup)).1 hbuilt
  obtain ⟨tag, htag, hcharges⟩ := exists_left_of_mem hall hmounted
  exact ⟨tag, htag, hcharges, X402Config.recipient_of_fromEnv hconfig htag⟩

/-! ## The local profile without any setting -/

/-- Numbers of arbitrary precision, within the range of the decimals, and the
texts the local profile reads. -/
def plainCrates : X402Crates where
  Url := String
  urlParse := .ok
  urlScheme url := String.ofList (url.toList.takeWhile (· ≠ ':'))
  hostStr url := some (String.ofList ((url.toList.drop 7).takeWhile (· ≠ ':')))
  username _ := ""
  password _ := none
  Decimal := ℚ
  decimalFromStr text :=
    if text = "0.0001" then .ok (1 / 10000) else .error "Invalid decimal: unknown character"
  decimalDisplay _ := "0.0001"
  decimalFromU64 count := count
  isSignNegative decimal := decide (decimal < 0)
  checkedMul left right := if |left * right| < 2 ^ 96 then some (left * right) else none
  round decimal := halfEven decimal
  toU64 decimal :=
    if decimal = (decimal.num.toNat : ℚ) ∧ decimal.num.toNat < 2 ^ 64 then some decimal.num.toNat
    else none
  wireFromStr _ := .error "EOF while parsing a value at line 1 column 0"
  facilitatorTryNew _ := .ok ()
  EvmAddress := String
  evmFromStr := .ok
  SolanaAddress := String
  solanaFromStr := .ok
  quoted text := "\"" ++ text ++ "\""

def plainValue (decimal : plainCrates.Decimal) : ℚ := decimal

theorem plainCrates_lawful : plainCrates.LawfulDecimal plainValue where
  nonneg_of_sign (decimal : ℚ) hsign := by
    have hnot : ¬decimal < 0 := of_decide_eq_false hsign
    exact not_lt.1 hnot
  value_million (decimal product : ℚ) hproduct := by
    change (if |decimal * ((1000000 : ℕ) : ℚ)| < 2 ^ 96 then some (decimal * ((1000000 : ℕ) : ℚ))
      else none) = some product at hproduct
    split_ifs at hproduct
    rw [← Option.some.inj hproduct]
    push_cast
    rfl
  million_overflow (decimal : ℚ) hproduct := by
    change (if |decimal * ((1000000 : ℕ) : ℚ)| < 2 ^ 96 then some (decimal * ((1000000 : ℕ) : ℚ))
      else none) = none at hproduct
    split_ifs at hproduct with hrange
    push_cast at hrange
    exact lt_of_lt_of_le (by norm_num) (not_lt.1 hrange)
  value_round _ := rfl
  toU64_integer (decimal : ℚ) integer count hinteger := by
    have hnum : decimal.num = integer := by
      rw [show decimal = integer from hinteger]
      rfl
    change (if decimal = (decimal.num.toNat : ℚ) ∧ decimal.num.toNat < 2 ^ 64 then
      some decimal.num.toNat else none) = some count ↔ _
    rw [hnum, show decimal = integer from hinteger]
    have hcast : ((integer : ℚ) = (integer.toNat : ℚ)) ↔ integer = integer.toNat := by
      exact_mod_cast Iff.rfl
    simp only [hcast]
    constructor
    · intro hcount
      split_ifs at hcount with hfits
      obtain rfl := Option.some.inj hcount
      exact ⟨hfits.1.symm, hfits.2⟩
    · rintro ⟨rfl, hfits⟩
      rw [Int.toNat_natCast, if_pos ⟨rfl, hfits⟩]

def emptyEnvironment : Environment where
  var _ := .notPresent
  file _ := .notOpened "No such file or directory (os error 2)"

def seedTag (network : String) (payTo : PayToAddress) : PriceTagConfig plainCrates where
  network := network
  asset := "USDC"
  priceUsd := (1 / 10000 : ℚ)
  payTo := payTo
  scheme := .exact

def localConfig : X402Config plainCrates where
  profile := .local
  facilitatorUrl := "http://127.0.0.1:8090"
  facilitatorTimeout := 5
  protocolVersion := "v2"
  priceTags := [seedTag "base-sepolia" (.evm "0x000000000000000000000000000000000000dEaD"),
    seedTag "solana-devnet" (.solana solanaBurnPayto)]

def burnEvm : PriceTag plainCrates :=
  .eip155 "0x000000000000000000000000000000000000dEaD" .baseSepolia 100

def burnSolana : PriceTag plainCrates := .solana solanaBurnPayto .solanaDevnet 100

theorem localConfig_loaded : X402Config.fromEnv emptyEnvironment = .ok localConfig := rfl

/-- A hundredth of a cent is a hundred units. -/
theorem seedTag_charges {network : String} {payTo : PayToAddress} {priceTag : PriceTag plainCrates}
    (hpays : Pays payTo network 100 priceTag) :
    Charges plainValue (seedTag network payTo) priceTag := by
  have hsign : decide ((1 / 10000 : ℚ) < 0) = false := decide_eq_false (by norm_num)
  have hprice : (1 / 10000 : ℚ) * 1000000 = ((100 : ℤ) : ℚ) := by norm_num
  have hround : ((100 : ℕ) : ℤ) = halfEven ((1 / 10000 : ℚ) * 1000000) := by
    rw [hprice, halfEven_intCast]
    rfl
  exact ⟨hsign, 100, hround, by norm_num, by norm_num, hpays⟩

theorem localConfig_charges :
    List.Forall₂ (Charges plainValue) localConfig.priceTags [burnEvm, burnSolana] :=
  .cons (seedTag_charges (.baseSepolia rfl)) (.cons (seedTag_charges (.solanaDevnet rfl)) .nil)

theorem localConfig_built : localConfig.buildMiddleware = .ok (burnEvm, [burnSolana]) :=
  (buildMiddleware_of_checked plainCrates_lawful
    (@X402Config.checked_of_fromLookup _ (fun _ => none) _ rfl)).2 ⟨rfl, localConfig_charges⟩

theorem buildMiddleware_local : localConfig.buildMiddleware = .ok (burnEvm, [burnSolana]) :=
  (buildMiddleware_eq_ok_iff plainCrates_lawful localConfig_loaded burnEvm [burnSolana]).2
    ⟨rfl, localConfig_charges⟩

/-- The operator names a network and who is paid. -/
def operatorEnvironment : Environment where
  var key :=
    if key = "X402_NETWORK" then .present "base-sepolia"
    else if key = "X402_PAYTO" then .present "0x209693bc6afc0c5328ba36faf03c514ef312287c"
    else .notPresent
  file _ := .notOpened "No such file or directory (os error 2)"

def operatorConfig : X402Config plainCrates :=
  { localConfig with
    priceTags := [seedTag "base-sepolia" (.evm "0x209693bc6afc0c5328ba36faf03c514ef312287c")] }

def operatorEvm : PriceTag plainCrates :=
  .eip155 "0x209693bc6afc0c5328ba36faf03c514ef312287c" .baseSepolia 100

theorem operatorConfig_loaded : X402Config.fromEnv operatorEnvironment = .ok operatorConfig := rfl

theorem operatorConfig_built : operatorConfig.buildMiddleware = .ok (operatorEvm, []) :=
  (buildMiddleware_eq_ok_iff plainCrates_lawful operatorConfig_loaded operatorEvm []).2
    ⟨rfl, .cons (seedTag_charges (.baseSepolia rfl)) .nil⟩

theorem charges_operator_local :
    (∃ tag ∈ operatorConfig.priceTags, Charges plainValue tag operatorEvm ∧
      (FromOperator operatorEnvironment tag ∨ BurnsLocally operatorConfig tag)) ∧
    ∃ tag ∈ localConfig.priceTags, Charges plainValue tag burnSolana ∧
      (FromOperator emptyEnvironment tag ∨ BurnsLocally localConfig tag) :=
  ⟨charges_operator plainCrates_lawful operatorConfig_loaded operatorConfig_built
      (List.mem_singleton_self _),
    charges_operator plainCrates_lawful localConfig_loaded localConfig_built
      (List.mem_cons_of_mem _ (List.mem_singleton_self _))⟩

end VisualSignParser.Gateway
