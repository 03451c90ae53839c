import VisualSignParser.Codec.HalfEven
import VisualSignParser.Codec.Hex
import VisualSignParser.Codec.Radix
import VisualSignParser.Gateway.Environment

/-!
# The payment configuration

Prices are configured in dollars and charged in the smallest unit of a
stablecoin.  The configuration is read from the environment, with defaults by
profile, and is checked a second time when the payment layer is built from it.
The libraries it rests on are parameters.
-/

namespace VisualSignParser.Gateway

open VisualSignParser.Framing
open VisualSignParser.HalfEven
open VisualSignParser.Outcome
open VisualSignParser.Radix

inductive X402Profile where
  | local
  | payAi
  | custom
  deriving DecidableEq

inductive PayToAddress where
  | evm (address : String)
  | solana (address : String)
  deriving DecidableEq

inductive PriceScheme where
  | exact
  deriving DecidableEq

inductive ConfigError where
  | unknownProfile (text : String)
  | missingVar (var : String)
  | invalid (var message : String)
  | jsonParse (message : String)
  deriving DecidableEq

def ConfigError.display : ConfigError → String
  | unknownProfile text => "unknown X402_PROFILE: " ++ text
  | missingVar var => "missing required env var: " ++ var
  | invalid var message => "invalid env var " ++ var ++ ": " ++ message
  | jsonParse message => "X402_PRICE_TAGS_JSON parse error: " ++ message

structure PayToWire where
  evm : Option String
  solana : Option String
  deriving DecidableEq

/-- A price tag as the reader of JSON delivers it, with its default scheme filled in. -/
structure PriceTagWire where
  network : String
  asset : String
  priceUsd : String
  payTo : PayToWire
  scheme : String
  deriving DecidableEq

/-- The operations of the libraries behind the configuration: `url`,
`rust_decimal`, `serde_json`, the x402 crates, and the quoting of `{:?}`.  Errors
are their display texts. -/
structure X402Crates where
  Url : Type
  urlParse : String → Except String Url
  urlScheme : Url → String
  hostStr : Url → Option String
  username : Url → String
  password : Url → Option String
  Decimal : Type
  decimalFromStr : String → Except String Decimal
  decimalDisplay : Decimal → String
  decimalFromU64 : ℕ → Decimal
  isSignNegative : Decimal → Bool
  checkedMul : Decimal → Decimal → Option Decimal
  round : Decimal → Decimal
  toU64 : Decimal → Option ℕ
  wireFromStr : String → Except String (List PriceTagWire)
  facilitatorTryNew : Url → Except String Unit
  EvmAddress : Type
  evmFromStr : String → Except String EvmAddress
  SolanaAddress : Type
  solanaFromStr : String → Except String SolanaAddress
  quoted : String → String

variable {crates : X402Crates}

structure PriceTagConfig (crates : X402Crates) where
  network : String
  asset : String
  priceUsd : crates.Decimal
  payTo : PayToAddress
  scheme : PriceScheme

/-- The timeout is in seconds. -/
structure X402Config (crates : X402Crates) where
  profile : X402Profile
  facilitatorUrl : crates.Url
  facilitatorTimeout : ℕ
  protocolVersion : String
  priceTags : List (PriceTagConfig crates)

def solanaBurnPayto : String := "11111111111111111111111111111111"

def X402Profile.fromStr : String → Except ConfigError X402Profile
  | "local" => .ok .local
  | "payai" => .ok .payAi
  | "custom" => .ok .custom
  | other => .error (.unknownProfile other)

def PriceScheme.fromStr : String → Except ConfigError PriceScheme
  | "exact" => .ok .exact
  | other => .error (.invalid "X402_PRICE_TAGS_JSON"
      ("unsupported scheme '" ++ other ++ "'; only 'exact' is supported"))

/-- A marker in either case is rewritten in lower case. -/
def PayToWire.intoPayTo (wire : PayToWire) : Except ConfigError PayToAddress :=
  match wire.evm, wire.solana with
  | some text, none =>
      .ok (.evm ((Hex.splitHexMarker text).elim text fun hexBody => "0x" ++ hexBody))
  | none, some text => .ok (.solana text)
  | _, _ => .error (.invalid "X402_PRICE_TAGS_JSON"
      "payTo must specify exactly one of evm or solana")

namespace X402Config

/-- The names for the host itself. -/
def isLoopback : Option String → Bool
  | some "127.0.0.1" => true
  | some "localhost" => true
  | some "::1" => true
  | some "[::1]" => true
  | _ => false

/-- Only encrypted traffic, but for the host itself in the local profile, and
no credentials in the address. -/
def validateFacilitatorUrl (url : crates.Url) (profile : X402Profile) : Except ConfigError Unit := do
  require (crates.urlScheme url = "https" ∨ profile = .local ∧ crates.urlScheme url = "http" ∧
      isLoopback (crates.hostStr url) = true)
    (.invalid "X402_FACILITATOR_URL" ("scheme '" ++ crates.urlScheme url ++
      "' not allowed; use https (or http against a loopback host under X402_PROFILE=local)"))
  require (crates.username url = "" ∧ crates.password url = none)
    (.invalid "X402_FACILITATOR_URL" "must not contain userinfo (user:pass@host)")

def facilitatorText (get : String → Option String) (profile : X402Profile) :
    Except ConfigError String :=
  match get "X402_FACILITATOR_URL", profile with
  | some text, _ => .ok text
  | none, .local => .ok "http://127.0.0.1:8090"
  | none, .payAi => .ok "https://facilitator.payai.network"
  | none, .custom => .error (.missingVar "X402_FACILITATOR_URL")

def loadFacilitatorUrl (get : String → Option String) (profile : X402Profile) :
    Except ConfigError crates.Url := do
  let text ← facilitatorText get profile
  let url ← (crates.urlParse text).mapError (.invalid "X402_FACILITATOR_URL")
  validateFacilitatorUrl url profile
  return url

def validateTimeout (seconds : ℕ) : Except ConfigError Unit :=
  require (seconds ≠ 0) (.invalid "X402_FACILITATOR_TIMEOUT_SECS" "must be greater than 0")

def loadTimeout (get : String → Option String) : Except ConfigError ℕ :=
  match get "X402_FACILITATOR_TIMEOUT_SECS" with
  | some text => do
      let seconds ← (fromStrRadix 64 10 text.toList).mapError fun kind =>
        .invalid "X402_FACILITATOR_TIMEOUT_SECS" kind.display
      validateTimeout seconds
      return seconds
  | none => .ok 5

/-- A marked text is an address of forty digits or nothing. -/
def classifyPayto (text : String) : Except ConfigError PayToAddress :=
  match Hex.splitHexMarker text with
  | some hexBody =>
      if (utf8Bytes hexBody).length = 40 then .ok (.evm ("0x" ++ hexBody))
      else .error (.invalid "X402_PAYTO" "not a recognizable EVM or Solana address")
  | none =>
      if text ≠ "" then .ok (.solana text)
      else .error (.invalid "X402_PAYTO" "not a recognizable EVM or Solana address")

/-- Network, price and default recipient of the tag that is not configured in full. -/
def seed (get : String → Option String) (profile : X402Profile) :
    Except ConfigError (String × String × Option PayToAddress) :=
  match get "X402_NETWORK", profile with
  | some "base-sepolia", _ => .ok ("base-sepolia", "0.0001", none)
  | some "base", _ => .ok ("base", "0.001", none)
  | some "solana", _ => .ok ("solana", "0.001", none)
  | some "solana-devnet", _ => .ok ("solana-devnet", "0.001", none)
  | some other, _ => .error (.invalid "X402_NETWORK" ("unsupported network '" ++ other ++
      "'; expected one of base-sepolia, base, solana, solana-devnet"))
  | none, .local => .ok ("base-sepolia", "0.0001",
      some (.evm "0x000000000000000000000000000000000000dEaD"))
  | none, .payAi => .ok ("base", "0.001", none)
  | none, .custom => .error (.missingVar "X402_PRICE_TAGS_JSON")

def seededPayTo (get : String → Option String) (defaultPayto : Option PayToAddress) :
    Except ConfigError PayToAddress :=
  match get "X402_PAYTO", defaultPayto with
  | some text, _ => classifyPayto text
  | none, some payTo => .ok payTo
  | none, none => .error (.missingVar "X402_PAYTO")

def seededTag (get : String → Option String) (profile : X402Profile) :
    Except ConfigError (PriceTagConfig crates) := do
  let (network, priceText, defaultPayto) ← seed get profile
  let priceUsd ← (crates.decimalFromStr priceText).mapError (.invalid "(internal seed price)")
  let payTo ← seededPayTo get defaultPayto
  return ⟨network, "USDC", priceUsd, payTo, .exact⟩

def tagFromWire (wire : PriceTagWire) : Except ConfigError (PriceTagConfig crates) := do
  require (wire.asset = "USDC") (.invalid "X402_PRICE_TAGS_JSON"
    ("unsupported asset '" ++ wire.asset ++ "'; only 'USDC' is supported"))
  let priceUsd ← (crates.decimalFromStr wire.priceUsd).mapError fun message =>
    .invalid "X402_PRICE_TAGS_JSON" ("priceUsd: " ++ message)
  let payTo ← wire.payTo.intoPayTo
  let scheme ← PriceScheme.fromStr wire.scheme
  return ⟨wire.network, wire.asset, priceUsd, payTo, scheme⟩

def parseTagsJson (json : String) : Except ConfigError (List (PriceTagConfig crates)) := do
  let wire ← (crates.wireFromStr json).mapError .jsonParse
  wire.mapM tagFromWire

/-- The local profile also offers a tag on the other chain. -/
def seededTags (get : String → Option String) (profile : X402Profile) :
    Except ConfigError (List (PriceTagConfig crates)) := do
  let tag ← seededTag get profile
  if profile = .local ∧ get "X402_NETWORK" = none then
    let priceUsd ← (crates.decimalFromStr "0.0001").mapError (.invalid "(internal seed price)")
    return [tag, ⟨"solana-devnet", "USDC", priceUsd, .solana solanaBurnPayto, .exact⟩]
  else return [tag]

def loadTags (get : String → Option String) (profile : X402Profile) :
    Except ConfigError (List (PriceTagConfig crates)) :=
  match get "X402_PRICE_TAGS_JSON" with
  | some json => parseTagsJson json
  | none => seededTags get profile

def validateVersion (version : String) : Except ConfigError Unit :=
  require (version = "v2") (.invalid "X402_PROTOCOL_VERSION"
    ("unsupported value '" ++ version ++ "'; only 'v2' is supported"))

def fromLookup (get : String → Option String) : Except ConfigError (X402Config crates) := do
  let profile ← X402Profile.fromStr ((get "X402_PROFILE").getD "local")
  let facilitatorUrl ← loadFacilitatorUrl get profile
  let facilitatorTimeout ← loadTimeout get
  let protocolVersion := (get "X402_PROTOCOL_VERSION").getD "v2"
  validateVersion protocolVersion
  let priceTags ← loadTags get profile
  require (priceTags ≠ []) (.invalid "X402_PRICE_TAGS_JSON" "must contain at least one tag")
  return ⟨profile, facilitatorUrl, facilitatorTimeout, protocolVersion, priceTags⟩

def x402EnvKeys : List String :=
  ["X402_PROFILE", "X402_FACILITATOR_URL", "X402_FACILITATOR_TIMEOUT_SECS",
    "X402_PROTOCOL_VERSION", "X402_PRICE_TAGS_JSON", "X402_NETWORK", "X402_PAYTO"]

/-- Every variable is read before the first is used. -/
def resolve (env : Environment) : Except ConfigError (List (String × Option String)) :=
  x402EnvKeys.mapM fun key => do
    let value ← checkedEnvVar env key fun var =>
      .invalid var "contains invalid (non-UTF-8) bytes"
    return (key, value)

def fromEnv (env : Environment) : Except ConfigError (X402Config crates) := do
  let resolved ← resolve env
  fromLookup fun key => (resolved.lookup key).join

end X402Config

/-! ## The payment layer -/

/-- The networks on which the stablecoin is deployed. -/
inductive Deployment where
  | baseSepolia
  | base
  | solana
  | solanaDevnet
  deriving DecidableEq

/-- `v2::PriceTag`: who is paid how much, in the smallest unit. -/
inductive PriceTag (crates : X402Crates) where
  | eip155 (payTo : crates.EvmAddress) (usdc : Deployment) (amount : ℕ)
  | solana (payTo : crates.SolanaAddress) (usdc : Deployment) (amount : ℕ)

/-- The two parameters name the recipient in the error. -/
def parsePaytoAddr {T : Type} (fromStr : String → Except String T) (text kind field : String) :
    Except ConfigError T :=
  (fromStr text).mapError fun message =>
    .invalid field ("invalid " ++ kind ++ " address '" ++ text ++ "': " ++ message)

/-- The tag for a recipient and a network, where they fit together. -/
def destination (payTo : PayToAddress) (network : String) (atomic : ℕ) :
    Except ConfigError (PriceTag crates) :=
  match payTo, network with
  | .evm text, "base-sepolia" => do
      let address ← parsePaytoAddr crates.evmFromStr text "EVM" "payTo.evm"
      return .eip155 address .baseSepolia atomic
  | .evm text, "base" => do
      let address ← parsePaytoAddr crates.evmFromStr text "EVM" "payTo.evm"
      return .eip155 address .base atomic
  | .solana text, "solana" => do
      let address ← parsePaytoAddr crates.solanaFromStr text "Solana" "payTo.solana"
      return .solana address .solana atomic
  | .solana text, "solana-devnet" => do
      let address ← parsePaytoAddr crates.solanaFromStr text "Solana" "payTo.solana"
      return .solana address .solanaDevnet atomic
  | .evm _, network => .error (.invalid "X402_PRICE_TAGS_JSON"
      ("unsupported (payTo, network) combination: (\"evm\", " ++ crates.quoted network ++ ")"))
  | .solana _, network => .error (.invalid "X402_PRICE_TAGS_JSON"
      ("unsupported (payTo, network) combination: (\"solana\", " ++ crates.quoted network ++ ")"))

def atomicUnits (price : crates.Decimal) : Option ℕ :=
  (crates.checkedMul price (crates.decimalFromU64 1000000)).bind fun product =>
    crates.toU64 (crates.round product)

def buildPriceTag (tag : PriceTagConfig crates) : Except ConfigError (PriceTag crates) := do
  require (tag.asset = "USDC") (.invalid "priceUsd"
    ("unsupported asset '" ++ tag.asset ++ "'; only 'USDC' is supported"))
  require (tag.scheme = .exact) (.invalid "X402_PRICE_TAGS_JSON"
    "unsupported scheme; only 'exact' is supported")
  require (crates.isSignNegative tag.priceUsd = false) (.invalid "priceUsd"
    ("price " ++ crates.decimalDisplay tag.priceUsd ++ " must not be negative"))
  let atomic ← okOr (.invalid "priceUsd" ("price " ++ crates.decimalDisplay tag.priceUsd ++
    " overflows USDC atomic units (u64)")) (atomicUnits tag.priceUsd)
  require (atomic ≠ 0) (.invalid "priceUsd" ("price " ++ crates.decimalDisplay tag.priceUsd ++
    " rounds to 0 USDC atomic units; the route would be free"))
  destination tag.payTo tag.network atomic

/-- The tags of the layer in their order, the first apart from the others. -/
def X402Config.buildMiddleware (config : X402Config crates) :
    Except ConfigError (PriceTag crates × List (PriceTag crates)) := do
  validateVersion config.protocolVersion
  validateFacilitatorUrl config.facilitatorUrl config.profile
  validateTimeout config.facilitatorTimeout
  (crates.facilitatorTryNew config.facilitatorUrl).mapError (.invalid "X402_FACILITATOR_URL")
  let tags ← config.priceTags.mapM buildPriceTag
  match tags with
  | first :: rest => return (first, rest)
  | [] => .error (.invalid "X402_PRICE_TAGS_JSON" "must contain at least one tag")

end VisualSignParser.Gateway
