import VisualSignParser.Gateway.BearerAuth
import VisualSignParser.Gateway.ParseHandler
import VisualSignParser.Gateway.X402Prices

/-!
# Starting the gateway

The gateway refuses to start without a pinned key when its payment settings can
move real money.  A payment layer that cannot be set up is left out instead, and
the free route keeps working.
-/

namespace VisualSignParser.Gateway

open VisualSignParser.App
open VisualSignParser.Framing
open VisualSignParser.Outcome
open VisualSignParser.Host
open VisualSignParser.Proto
open VisualSignParser.Sha256
open VisualSignParser.Text

/-! ## The pinned key -/

/-- The errors of reading the pinned key. -/
inductive PinnedKeyError where
  | hex (field message : String)
  | invalidPinnedKey (message : String)
  | pubkeyFile (path message : String)
  | pubkeyFileTooLarge (path : String) (max : ℕ)
  | bothSet
  | notUnicode (var : String)
  deriving DecidableEq

def PinnedKeyError.display : PinnedKeyError → String
  | hex field message => "hex decode error in " ++ field ++ ": " ++ message
  | invalidPinnedKey message => "invalid pinned TVC public key: " ++ message
  | pubkeyFile path message => "failed to read TVC pubkey file " ++ path ++ ": " ++ message
  | pubkeyFileTooLarge path max =>
      "TVC pubkey file " ++ path ++ " exceeds maximum size (" ++ toString max ++ " bytes)"
  | bothSet =>
      "both TVC_DEMO_PINNED_PUBKEY_HEX and TVC_DEMO_PINNED_PUBKEY_FILE are set; choose one"
  | notUnicode var => var ++ " contains invalid (non-UTF-8) bytes"

def maxPubkeyFileSize : ℕ := 4096

section PinnedKey

-- `hexDebug` is the debug text of a hexadecimal error.
variable {p256 : P256} (hexDebug : Hex.FromHexError → String)

def AttestationVerifier.fromHexWithSource (hexValue source : String) :
    Except PinnedKeyError (AttestationVerifier p256) := do
  let pinnedBytes ← (Hex.decodeHex (trim hexValue)).mapError fun error =>
    .hex source (hexDebug error)
  let pinnedPublic ← (p256.fromBytes pinnedBytes).mapError .invalidPinnedKey
  return ⟨pinnedPublic⟩

def AttestationVerifier.fromLookup (env : Environment) (hexValue filePath : Option String) :
    Except PinnedKeyError (Option (AttestationVerifier p256)) :=
  match hexValue, filePath with
  | some _, some _ => .error .bothSet
  | some text, none => do
      let verifier ← fromHexWithSource hexDebug text "TVC_DEMO_PINNED_PUBKEY_HEX"
      return some verifier
  | none, some path => do
      let contents ← readBoundedFile env path maxPubkeyFileSize .pubkeyFile .pubkeyFileTooLarge
      let verifier ← fromHexWithSource hexDebug (trim contents) "TVC_DEMO_PINNED_PUBKEY_FILE"
      return some verifier
  | none, none => .ok none

def AttestationVerifier.fromEnv (env : Environment) :
    Except PinnedKeyError (Option (AttestationVerifier p256)) := do
  let hexValue ← checkedEnvVar env "TVC_DEMO_PINNED_PUBKEY_HEX" .notUnicode
  let filePath ← checkedEnvVar env "TVC_DEMO_PINNED_PUBKEY_FILE" .notUnicode
  fromLookup hexDebug env hexValue filePath

end PinnedKey

/-! ## The start -/

variable {crates : X402Crates} {p256 : P256}

/-- A remote facilitator, or a tag on a network with real money. -/
def x402TargetsRealSettlement (config : X402Config crates) : Bool :=
  !X402Config.isLoopback (crates.hostStr config.facilitatorUrl) ||
    config.priceTags.any fun tag => tag.network == "base" || tag.network == "solana"

/-- How a start ends without serving. -/
inductive StartError where
  | grpcAddress (message : String)
  | profileNotUnicode
  | pinnedKeyRequired (profile : String)
  | pinnedKey (error : PinnedKeyError)
  | bearerToken (error : AuthError)
  | bind (message : String)

def StartError.display : StartError → String
  | grpcAddress message => "invalid gRPC address " ++ message
  | profileNotUnicode => "FATAL: X402_PROFILE contains invalid (non-UTF-8) bytes"
  | pinnedKeyRequired profile =>
      "FATAL: TVC_DEMO_PINNED_PUBKEY_HEX (or _FILE) is required for X402_PROFILE=" ++ profile ++
        (if profile = "local" then
          " because the resolved facilitator/network can settle real payments"
        else "")
  | pinnedKey error => "FATAL: invalid TVC verifier pubkey configuration: " ++ error.display
  | bearerToken error =>
      "FATAL: invalid gateway-auth bearer-token configuration: " ++ error.display
  | bind message => "failed to bind " ++ message

/-- What a start meets outside of the environment: whether the address of the
parser is one, whether the facilitator answers, and whether the port is free. -/
structure Surroundings (crates : X402Crates) where
  endpointFromShared : String → Except String Unit
  probeFacilitator : crates.Url → ℕ → Except String Unit
  bind : ℕ → Except String Unit
  hexDebug : Hex.FromHexError → String

/-- The running gateway.  Without price tags the paid route is not there. -/
structure Running (crates : X402Crates) (p256 : P256) where
  port : ℕ
  grpcAddr : String
  attestation : Option (AttestationVerifier p256)
  priceTags : Option (PriceTag crates × List (PriceTag crates))
  bearerToken : Option BearerToken

/-- An unreadable port falls back to the default one. -/
def gatewayPort (env : Environment) : ℕ :=
  match env.var "GATEWAY_PORT" with
  | .present text =>
      match Radix.fromStrRadix 16 10 text.toList with
      | .ok port => port
      | .error _ => 8080
  | _ => 8080

def grpcAddr (env : Environment) : String :=
  match env.var "GRPC_ADDR" with
  | .present text => text
  | _ => "http://127.0.0.1:44020"

def profileText (env : Environment) : Except StartError String :=
  match env.var "X402_PROFILE" with
  | .present text => .ok text
  | .notPresent => .ok "local"
  | .notUnicode => .error .profileNotUnicode

/-- The configuration is one that could be mounted and move real money. -/
def canSettleForReal (config : Except ConfigError (X402Config crates)) : Bool :=
  match config with
  | .ok config => config.buildMiddleware.isOk && x402TargetsRealSettlement config
  | .error _ => false

def requiredAttestation (profile : String) (canSettle : Bool) :
    Except PinnedKeyError (Option (AttestationVerifier p256)) →
      Except StartError (Option (AttestationVerifier p256))
  | .ok (some verifier) => .ok (some verifier)
  | .ok none =>
      if profile = "local" ∧ canSettle = false then .ok none
      else .error (.pinnedKeyRequired profile)
  | .error error => .error (.pinnedKey error)

/-- The tags of the paid route, if it can be set up. -/
def mountedTags (outside : Surroundings crates) (config : Except ConfigError (X402Config crates)) :
    Option (PriceTag crates × List (PriceTag crates)) :=
  match config with
  | .error _ => none
  | .ok config =>
      match config.buildMiddleware with
      | .error _ => none
      | .ok tags =>
          match outside.probeFacilitator config.facilitatorUrl config.facilitatorTimeout with
          | .error _ => none
          | .ok () => some tags

def start (env : Environment) (outside : Surroundings crates) :
    Except StartError (Running crates p256) := do
  (outside.endpointFromShared (grpcAddr env)).mapError fun message =>
    .grpcAddress (grpcAddr env ++ ": " ++ message)
  let profile ← profileText env
  let config := X402Config.fromEnv env
  let attestation ← requiredAttestation profile (canSettleForReal config)
    (AttestationVerifier.fromEnv outside.hexDebug env)
  let priceTags := mountedTags outside config
  let bearerToken ← (BearerToken.fromEnv env).mapError .bearerToken
  (outside.bind (gatewayPort env)).mapError fun message =>
    .bind ("0.0.0.0:" ++ toString (gatewayPort env) ++ ": " ++ message)
  return ⟨gatewayPort env, grpcAddr env, attestation, priceTags, bearerToken⟩

/-! ## Serving -/

inductive Method where
  | get
  | head
  | post
  | other
  deriving DecidableEq

/-- A request as far as the routes read it.  The body is as the JSON reader
delivers it. -/
structure Incoming extends GatedRequest where
  method : Method
  payment : Option Bytes
  wrapper : Option TurnkeyRequestWrapper

inductive Answer where
  | unauthorized
  | notFound
  | methodNotAllowed
  | health (serving : Bool)
  | unreadableBody
  | paymentRequired
  | parsed (status : StatusCode) (response : TurnkeyResponseWrapper)
  deriving DecidableEq

/-- An answer, and whether money was moved for it. -/
structure Served where
  answer : Answer
  settled : Bool
  deriving DecidableEq

/-- The parser behind the gateway, its health, and the payment layer around a
route: what becomes of the answer of the route it guards. -/
structure Backend (crates : X402Crates) where
  rpc : ParseRequest → RpcOutcome
  serving : Bool
  paygate : PriceTag crates × List (PriceTag crates) → Option Bytes → Answer → Served

def healthPath : String := "/health"

def freePath : String := "/visualsign/api/v1/parse"

def paidPath : String := "/visualsign/api/v2/parse"

def parseAnswer (attestation : Option (AttestationVerifier p256))
    (rpc : ParseRequest → RpcOutcome) (wrapper : Option TurnkeyRequestWrapper) : Answer :=
  match wrapper with
  | none => .unreadableBody
  | some wrapper =>
      let (status, response) := parseHandler attestation rpc wrapper
      .parsed status response

def route (running : Running crates p256) (backend : Backend crates) (request : Incoming) :
    Served :=
  if request.path = healthPath then
    -- a route for GET answers HEAD as well, without the body
    ⟨if request.method = .get ∨ request.method = .head then .health backend.serving
      else .methodNotAllowed, false⟩
  else if request.path = freePath then
    ⟨if request.method = .post then parseAnswer running.attestation backend.rpc request.wrapper
      else .methodNotAllowed, false⟩
  else
    match running.priceTags with
    | some tags =>
        if request.path = paidPath then
          -- the layer is around the fallback for other methods as well
          backend.paygate tags request.payment
            (if request.method = .post then
              parseAnswer running.attestation backend.rpc request.wrapper
            else .methodNotAllowed)
        else ⟨.notFound, false⟩
    | none => ⟨.notFound, false⟩

/-- The gate stands in front of every route. -/
def serve (running : Running crates p256) (backend : Backend crates) (request : Incoming) :
    Served :=
  match running.bearerToken with
  | none => route running backend request
  | some token =>
      match requireBearerToken token request.toGatedRequest with
      | .allow => route running backend request
      | .deny => ⟨.unauthorized, false⟩

/-! ## What a start guarantees -/

section Guarantees

variable {env : Environment} {outside : Surroundings crates} {running : Running crates p256}

/-- An environment in which the gateway may run without a pinned key. -/
def LocalOnly (crates : X402Crates) (env : Environment) : Prop :=
  profileText env = .ok "local" ∧
    canSettleForReal (X402Config.fromEnv env : Except ConfigError (X402Config crates)) = false

/-- The gateway starts without a pinned key in the local profile alone, and never if
it can settle payments. -/
theorem requiredAttestation_eq_ok {profile : String} {canSettle : Bool}
    {loaded : Except PinnedKeyError (Option (AttestationVerifier p256))}
    {attestation : Option (AttestationVerifier p256)} :
    requiredAttestation profile canSettle loaded = .ok attestation ↔
      loaded = .ok attestation ∧ (attestation = none → profile = "local" ∧ canSettle = false) := by
  cases loaded with
  | error error => simp [requiredAttestation]
  | ok verifier =>
      cases verifier with
      | some verifier =>
          simp only [requiredAttestation, Except.ok.injEq]
          constructor
          · rintro rfl
            exact ⟨rfl, nofun⟩
          · exact fun hboth => hboth.1
      | none =>
          rw [requiredAttestation]
          split_ifs with hlocal
          · simp only [Except.ok.injEq]
            constructor
            · rintro rfl
              exact ⟨rfl, fun _ => hlocal⟩
            · exact fun hboth => hboth.1
          · refine iff_of_false nofun fun hboth => hlocal (hboth.2 ?_)
            exact (Except.ok.inj hboth.1).symm

/-- What the gateway runs with, and what it started from. -/
theorem start_eq_ok_iff (env : Environment) (outside : Surroundings crates)
    (running : Running crates p256) :
    start env outside = .ok running ↔
      (outside.endpointFromShared (grpcAddr env) = .ok () ∧ env.var "X402_PROFILE" ≠ .notUnicode ∧
        outside.bind (gatewayPort env) = .ok ()) ∧
      AttestationVerifier.fromEnv outside.hexDebug env = .ok running.attestation ∧
      (running.attestation = none → LocalOnly crates env) ∧
      running.priceTags = mountedTags outside (X402Config.fromEnv env) ∧
      Gated env running.bearerToken ∧
      running.port = gatewayPort env ∧ running.grpcAddr = grpcAddr env := by
  obtain ⟨port, addr, attestation, priceTags, bearerToken⟩ := running
  have hprofile : env.var "X402_PROFILE" ≠ .notUnicode ↔ ∃ text, profileText env = .ok text := by
    unfold profileText
    cases env.var "X402_PROFILE" <;> simp
  simp only [start, bind_eq_ok, mapError_eq_ok, pure_eq_ok, requiredAttestation_eq_ok,
    Running.mk.injEq, fromEnv_gated_iff, LocalOnly, hprofile]
  constructor
  · rintro ⟨⟨⟩, hendpoint, profile, htext, _, ⟨hloaded, hlocal⟩, _, hgated, ⟨⟩, hbind, rfl, rfl, rfl,
      rfl, rfl⟩
    refine ⟨⟨hendpoint, ⟨profile, htext⟩, hbind⟩, hloaded, fun hnone => ?_, rfl, hgated, rfl, rfl⟩
    obtain ⟨rfl, hsettle⟩ := hlocal hnone
    exact ⟨htext, hsettle⟩
  · rintro ⟨⟨hendpoint, ⟨profile, htext⟩, hbind⟩, hloaded, hlocal, rfl, hgated, rfl, rfl⟩
    refine ⟨(), hendpoint, profile, htext, _, ⟨hloaded, fun hnone => ?_⟩, _, hgated, (), hbind, rfl,
      rfl, rfl, rfl, rfl⟩
    obtain ⟨hprofile, hsettle⟩ := hlocal hnone
    rw [htext, Except.ok.injEq] at hprofile
    exact ⟨hprofile, hsettle⟩

/-- The payment middleware is mounted if the configuration loads, the prices can be
built and the facilitator answers. -/
theorem mountedTags_eq_some {config : Except ConfigError (X402Config crates)}
    {tags : PriceTag crates × List (PriceTag crates)} :
    mountedTags outside config = some tags ↔
      ∃ loaded, config = .ok loaded ∧ loaded.buildMiddleware = .ok tags ∧
        outside.probeFacilitator loaded.facilitatorUrl loaded.facilitatorTimeout = .ok () := by
  unfold mountedTags
  cases config with
  | error error => simp
  | ok loaded =>
      cases hbuilt : loaded.buildMiddleware with
      | error error => simp [hbuilt]
      | ok built =>
          cases hprobe : outside.probeFacilitator loaded.facilitatorUrl
              loaded.facilitatorTimeout with
          | error message => simp [hbuilt, hprobe]
          | ok _ => simp [hbuilt, hprobe]

def PriceTag.usdc : PriceTag crates → Deployment
  | eip155 _ usdc _ => usdc
  | solana _ usdc _ => usdc

/-- Networks on which the stablecoin has no value. -/
def Deployment.IsTest (usdc : Deployment) : Prop := usdc = .baseSepolia ∨ usdc = .solanaDevnet

/-- A price tag that is built names the recipient, the network and the amount of the
configured one. -/
theorem pays_of_buildPriceTag {tag : PriceTagConfig crates} {priceTag : PriceTag crates}
    (hbuilt : buildPriceTag tag = .ok priceTag) :
    ∃ atomic, Pays tag.payTo tag.network atomic priceTag := by
  simp only [buildPriceTag, bind_eq_ok, destination_eq_ok] at hbuilt
  obtain ⟨-, -, -, -, -, -, atomic, -, -, -, hpays⟩ := hbuilt
  exact ⟨atomic, hpays⟩

/-- A configuration that cannot move real money charges on test networks, and
through a facilitator on the host itself. -/
theorem testMoney_of_not_canSettle {config : X402Config crates}
    {tags : PriceTag crates × List (PriceTag crates)} (hbuilt : config.buildMiddleware = .ok tags)
    (hsettle : canSettleForReal (.ok config) = false) :
    X402Config.isLoopback (crates.hostStr config.facilitatorUrl) = true ∧
      ∀ priceTag ∈ tags.1 :: tags.2, priceTag.usdc.IsTest := by
  obtain ⟨hloopback, hnetworks⟩ :
      X402Config.isLoopback (crates.hostStr config.facilitatorUrl) = true ∧
        ∀ tag ∈ config.priceTags, tag.network ≠ "base" ∧ tag.network ≠ "solana" := by
    simpa [canSettleForReal, hbuilt, x402TargetsRealSettlement, Except.isOk, Except.toBool]
      using hsettle
  refine ⟨hloopback, fun priceTag hmem => ?_⟩
  simp only [X402Config.buildMiddleware, bind_eq_ok, mapM_eq_ok] at hbuilt
  obtain ⟨-, -, -, -, -, -, -, -, built, hall, hresult⟩ := hbuilt
  cases built with
  | nil => cases hresult
  | cons first rest =>
      cases hresult
      obtain ⟨tag, htag, hpriced⟩ := Pointwise.exists_left_of_mem hall hmem
      obtain ⟨hbase, hsolana⟩ := hnetworks tag htag
      obtain ⟨atomic, hpays⟩ := pays_of_buildPriceTag hpriced
      generalize tag.payTo = payTo at hpays
      generalize tag.network = network at hpays hbase hsolana
      cases hpays with
      | baseSepolia => exact .inl rfl
      | base => exact absurd rfl hbase
      | solana => exact absurd rfl hsolana
      | solanaDevnet => exact .inr rfl

end Guarantees

/-! ## Settled payments -/

def Answer.isSuccess : Answer → Bool
  | parsed .ok _ => true
  | health true => true
  | _ => false

/-- The payment layer moves money only for a success of the route it guards,
which it then passes on. -/
def SettlesOnSuccess
    (paygate : PriceTag crates × List (PriceTag crates) → Option Bytes → Answer → Served) : Prop :=
  ∀ tags payment inner, (paygate tags payment inner).settled = true →
    inner.isSuccess = true ∧ (paygate tags payment inner).answer = inner

/-- The enclave's answer passed the checks of the pinned key. -/
def Attested (running : Running crates p256) (backend : Backend crates) (request : Incoming) :
    Prop :=
  ∃ verifier wrapper chain payload signature, running.attestation = some verifier ∧
    request.wrapper = some wrapper ∧ Proto.Chain.fromStrName wrapper.request.chain = some chain ∧
    backend.rpc (gatewayRequest wrapper.request chain) =
      .response ⟨some ⟨some payload, some signature⟩⟩ ∧
    Accepts verifier (gatewayRequest wrapper.request chain) payload signature

/-- No real money can be moved: the local profile, a facilitator on the host, and
tags on test networks alone. -/
def TestMoney (env : Environment) (running : Running crates p256) : Prop :=
  profileText env = .ok "local" ∧
    ∃ config : X402Config crates, X402Config.fromEnv env = .ok config ∧
      X402Config.isLoopback (crates.hostStr config.facilitatorUrl) = true ∧
      ∀ tags ∈ running.priceTags, ∀ priceTag ∈ tags.1 :: tags.2, priceTag.usdc.IsTest

section Settled

variable {env : Environment} {outside : Surroundings crates} {running : Running crates p256}
  {backend : Backend crates} {request : Incoming}

/-- Money moves on the paid path alone, and for a success of the parse route. -/
theorem route_settled (hpaygate : SettlesOnSuccess backend.paygate)
    (hsettled : (route running backend request).settled = true) :
    ∃ tags, running.priceTags = some tags ∧ request.path = paidPath ∧
      (parseAnswer running.attestation backend.rpc request.wrapper).isSuccess = true := by
  unfold route at hsettled
  cases htags : running.priceTags with
  | none =>
      rw [htags] at hsettled
      split_ifs at hsettled
  | some tags =>
      rw [htags] at hsettled
      dsimp only at hsettled
      split_ifs at hsettled with hhealth hfree hpaid hmethod
      · exact ⟨tags, rfl, hpaid, (hpaygate _ _ _ hsettled).1⟩
      · exact absurd (hpaygate _ _ _ hsettled).1 (by decide)

/-- With a pinned key, an answer that counts as a success carries a signature that
verifies for the payload of this request. -/
theorem attested_of_success {verifier : AttestationVerifier p256}
    (hattestation : running.attestation = some verifier)
    (hsuccess : (parseAnswer running.attestation backend.rpc request.wrapper).isSuccess = true) :
    Attested running backend request := by
  cases hwrapper : request.wrapper with
  | none =>
      rw [hwrapper] at hsuccess
      exact absurd hsuccess (by simp [parseAnswer, Answer.isSuccess])
  | some wrapper =>
      rw [hwrapper, hattestation] at hsuccess
      have hstatus : (parseHandler (some verifier) backend.rpc wrapper).1 = .ok := by
        unfold parseAnswer at hsuccess
        revert hsuccess
        cases hstatus : (parseHandler (some verifier) backend.rpc wrapper).1 <;>
          simp [Answer.isSuccess, hstatus]
      obtain ⟨chain, payload, signature, hchain, hrpc, haccepts⟩ :=
        (parseHandler_ok_iff verifier backend.rpc wrapper).1 hstatus
      exact ⟨verifier, wrapper, chain, payload, signature, hattestation, hwrapper, hchain, hrpc,
        haccepts⟩

/-- A request that moved money passed the gate. -/
theorem passed_of_settled (hsettled : (serve running backend request).settled = true) :
    (route running backend request).settled = true ∧
      ∀ token ∈ running.bearerToken, requireBearerToken token request.toGatedRequest = .allow := by
  rw [serve] at hsettled
  generalize running.bearerToken = bearerToken at hsettled ⊢
  cases bearerToken with
  | none => exact ⟨hsettled, fun token htoken => absurd htoken (Option.not_mem_none token)⟩
  | some token =>
      dsimp only at hsettled
      cases hallow : requireBearerToken token request.toGatedRequest with
      | deny =>
          rw [hallow] at hsettled
          cases hsettled
      | allow =>
          rw [hallow] at hsettled
          refine ⟨hsettled, fun other hother => ?_⟩
          rwa [← Option.some.inj hother]

/-- In every gateway that started, money moves only for a request that carries
the credentials, where a token is configured, and only for an answer that the
pinned key signed for this request, or where no real money can be moved. -/
theorem settled_attested (hstart : start env outside = .ok running)
    (hpaygate : SettlesOnSuccess backend.paygate)
    (hsettled : (serve running backend request).settled = true) :
    (∀ token ∈ running.bearerToken,
      ∃ value ∈ request.authorization.head?, token.Credentials value) ∧
      (Attested running backend request ∨ TestMoney env running) := by
  obtain ⟨-, -, hlocal, htags, -⟩ := (start_eq_ok_iff env outside running).1 hstart
  have hroute := passed_of_settled hsettled
  obtain ⟨tags, hmounted, hpath, hsuccess⟩ := route_settled hpaygate hroute.1
  constructor
  · intro token htoken
    rcases (requireBearerToken_eq_allow_iff token _).1 (hroute.2 token htoken) with hhealth | hvalue
    · rw [hpath] at hhealth
      exact absurd hhealth (by simp [paidPath])
    · exact hvalue
  · cases hattestation : running.attestation with
    | some verifier => exact .inl (attested_of_success hattestation hsuccess)
    | none =>
        obtain ⟨hprofile, hsettle⟩ := hlocal hattestation
        obtain ⟨config, hconfig, hbuilt, -⟩ := mountedTags_eq_some.1 (htags.symm.trans hmounted)
        rw [hconfig] at hsettle
        obtain ⟨hloopback, htest⟩ := testMoney_of_not_canSettle hbuilt hsettle
        refine .inr ⟨hprofile, config, hconfig, hloopback, fun others hothers => ?_⟩
        rwa [← Option.some.inj (hmounted.symm.trans hothers)]

end Settled

/-! ## What payment settings cannot reach -/

/-- Two environments that differ in payment settings alone, with a readable
profile in both. -/
structure SameButPayments (first second : Environment) : Prop where
  var : ∀ key, key ∉ X402Config.x402EnvKeys → first.var key = second.var key
  file : first.file = second.file
  profile : second.var "X402_PROFILE" ≠ .notUnicode

section Contained

variable {env other : Environment} {outside : Surroundings crates} {running : Running crates p256}

theorem checkedEnvVar_congr {E : Type} {key : String} {notUnicode : String → E}
    (hsame : env.var key = other.var key) :
    checkedEnvVar env key notUnicode = checkedEnvVar other key notUnicode := by
  rw [checkedEnvVar, checkedEnvVar, hsame]

theorem readBoundedFile_congr {E : Type} (hsame : env.file = other.file) {path : String}
    {maxSize : ℕ} {readErr : String → String → E} {tooLargeErr : String → ℕ → E} :
    readBoundedFile env path maxSize readErr tooLargeErr =
      readBoundedFile other path maxSize readErr tooLargeErr := by
  rw [readBoundedFile, readBoundedFile, hsame]

namespace SameButPayments

variable (hsame : SameButPayments env other)

include hsame

theorem bearerToken : BearerToken.fromEnv env = BearerToken.fromEnv other := by
  have hread : BearerToken.readBearerFile env = BearerToken.readBearerFile other :=
    funext fun _ => readBoundedFile_congr hsame.file
  simp only [BearerToken.fromEnv, hread,
    checkedEnvVar_congr (hsame.var "GATEWAY_AUTH_BEARER_TOKEN" (by decide)),
    checkedEnvVar_congr (hsame.var "GATEWAY_AUTH_BEARER_FILE" (by decide))]

theorem attestation (hexDebug : Hex.FromHexError → String) :
    (AttestationVerifier.fromEnv hexDebug env :
      Except PinnedKeyError (Option (AttestationVerifier p256))) =
      AttestationVerifier.fromEnv hexDebug other := by
  have hlookup (hexValue filePath : Option String) :
      (AttestationVerifier.fromLookup hexDebug env hexValue filePath :
        Except PinnedKeyError (Option (AttestationVerifier p256))) =
        AttestationVerifier.fromLookup hexDebug other hexValue filePath := by
    unfold AttestationVerifier.fromLookup
    simp only [readBoundedFile_congr hsame.file]
  simp only [AttestationVerifier.fromEnv, hlookup,
    checkedEnvVar_congr (hsame.var "TVC_DEMO_PINNED_PUBKEY_HEX" (by decide)),
    checkedEnvVar_congr (hsame.var "TVC_DEMO_PINNED_PUBKEY_FILE" (by decide))]

theorem gatewayPort : gatewayPort env = gatewayPort other := by
  rw [Gateway.gatewayPort, Gateway.gatewayPort, hsame.var "GATEWAY_PORT" (by decide)]

theorem grpcAddr : grpcAddr env = grpcAddr other := by
  rw [Gateway.grpcAddr, Gateway.grpcAddr, hsame.var "GRPC_ADDR" (by decide)]

end SameButPayments

/-- Price tags are read on the paid path alone. -/
theorem serve_of_not_paid (backend : Backend crates) {request : Incoming}
    (hpath : request.path ≠ paidPath)
    (priceTags : Option (PriceTag crates × List (PriceTag crates))) :
    serve { running with priceTags := priceTags } backend request = serve running backend request := by
  have hroute : route { running with priceTags := priceTags } backend request =
      route running backend request := by
    unfold route
    cases priceTags <;> cases running.priceTags <;> simp [hpath]
  rw [serve, serve, hroute]

/-- A gateway with a pinned key starts under any other payment settings as well,
and every path but the paid one answers as before. -/
theorem payment_settings_contained (hstart : start env outside = .ok running)
    (hpinned : running.attestation ≠ none) (hsame : SameButPayments env other) :
    ∃ restarted : Running crates p256, start other outside = .ok restarted ∧
      ∀ (backend : Backend crates) (request : Incoming), request.path ≠ paidPath →
        serve restarted backend request = serve running backend request := by
  obtain ⟨⟨hendpoint, -, hbind⟩, hloaded, -, -, hgated, hport, haddr⟩ :=
    (start_eq_ok_iff env outside running).1 hstart
  refine ⟨{ running with priceTags := mountedTags outside (X402Config.fromEnv other) },
    (start_eq_ok_iff other outside _).2 ⟨⟨?_, hsame.profile, ?_⟩, ?_, fun hnone =>
      absurd hnone hpinned, rfl, ?_, ?_, ?_⟩, fun backend request hpath =>
        serve_of_not_paid backend hpath _⟩
  · rw [← hsame.grpcAddr]
    exact hendpoint
  · rw [← hsame.gatewayPort]
    exact hbind
  · rw [← hsame.attestation]
    exact hloaded
  · rw [← fromEnv_gated_iff, ← hsame.bearerToken]
    exact (fromEnv_gated_iff env _).2 hgated
  · rw [← hsame.gatewayPort]
    exact hport
  · rw [← hsame.grpcAddr]
    exact haddr

end Contained

/-! ## A local start -/

/-- The facilitator answers, and the port is free. -/
def reachable : Surroundings plainCrates where
  endpointFromShared _ := .ok ()
  probeFacilitator _ _ := .ok ()
  bind _ := .ok ()
  hexDebug _ := "OddLength"

def localRunning (attestation : Option (AttestationVerifier ephemeralKey)) :
    Running plainCrates ephemeralKey where
  port := 8080
  grpcAddr := "http://127.0.0.1:44020"
  attestation := attestation
  priceTags := some (burnEvm, [burnSolana])
  bearerToken := none

theorem localConfig_mounted {env : Environment}
    (hconfig : X402Config.fromEnv env = .ok localConfig) :
    some (burnEvm, [burnSolana]) = mountedTags reachable (X402Config.fromEnv env) :=
  (mountedTags_eq_some.2 ⟨localConfig, hconfig, localConfig_built, rfl⟩).symm

theorem trim_encode (bytes : Bytes) : trim (Hex.encode bytes) = Hex.encode bytes := by
  have hdigit : ∀ char ∈ (Hex.encode bytes).toList, isWhitespace char = false := by
    intro char hchar
    obtain ⟨value, hvalue, rfl⟩ := Hex.exists_digit_of_mem_encode hchar
    have hvisible : ∀ value < 16, isWhitespace (Hex.digit value) = false := by decide
    exact hvisible value hvalue
  apply String.toList_inj.1
  have htrim : (trim (Hex.encode bytes)).toList =
      Splits.trimBoth isWhitespace (Hex.encode bytes).toList := String.toList_ofList
  rw [htrim, Splits.trimBoth_eq_self]
  exact ⟨fun char hchar => hdigit char (List.mem_of_mem_head? hchar),
    fun char hchar => hdigit char (List.mem_of_mem_getLast? hchar)⟩

/-- A key is pinned by its digits. -/
theorem AttestationVerifier.fromHexWithSource_encode {hexDebug : Hex.FromHexError → String}
    {bytes : Bytes} {key : p256.Public} (hkey : p256.fromBytes bytes = .ok key) (source : String) :
    AttestationVerifier.fromHexWithSource hexDebug (Hex.encode bytes) source = .ok ⟨key⟩ := by
  rw [fromHexWithSource, trim_encode, Hex.decodeHex_encode]
  exact bind_eq_ok.2 ⟨bytes, rfl, bind_eq_ok.2 ⟨key, mapError_eq_ok.2 hkey, rfl⟩⟩

/-- The key is pinned, and the profile as given. -/
def pinnedEnvironment (hexValue : String) (profile : EnvVar) : Environment where
  var key :=
    if key = "TVC_DEMO_PINNED_PUBKEY_HEX" then .present hexValue
    else if key = "X402_PROFILE" then profile
    else .notPresent
  file _ := .notOpened "No such file or directory (os error 2)"

theorem pinnedEnvironment_loaded (hexValue : String) (profile : EnvVar) :
    (AttestationVerifier.fromEnv reachable.hexDebug (pinnedEnvironment hexValue profile) :
      Except PinnedKeyError (Option (AttestationVerifier p256))) =
      (AttestationVerifier.fromHexWithSource reachable.hexDebug hexValue
        "TVC_DEMO_PINNED_PUBKEY_HEX" >>= fun verifier => pure (some verifier)) := by
  simp only [AttestationVerifier.fromEnv, checkedEnvVar, pinnedEnvironment, if_true, ok_bind,
    if_neg (show "TVC_DEMO_PINNED_PUBKEY_FILE" ≠ "TVC_DEMO_PINNED_PUBKEY_HEX" by decide),
    if_neg (show "TVC_DEMO_PINNED_PUBKEY_FILE" ≠ "X402_PROFILE" by decide),
    AttestationVerifier.fromLookup]

/-- The payment configuration is read from its own variables, so two environments
that agree there load the same one. -/
theorem X402Config.fromEnv_congr {env other : Environment}
    (hsame : ∀ key ∈ x402EnvKeys, env.var key = other.var key) :
    (X402Config.fromEnv env : Except ConfigError (X402Config crates)) = X402Config.fromEnv other := by
  have hresolve : resolve env = resolve other :=
    mapM_congr fun key hkey => by rw [checkedEnvVar_congr (hsame key hkey)]
  rw [fromEnv, fromEnv, hresolve]

theorem pinnedEnvironment_config (hexValue : String) :
    X402Config.fromEnv (pinnedEnvironment hexValue .notPresent) = .ok localConfig := by
  have hsame : ∀ key ∈ X402Config.x402EnvKeys,
      (pinnedEnvironment hexValue .notPresent).var key = emptyEnvironment.var key := by
    intro key hkey
    have hother : key ≠ "TVC_DEMO_PINNED_PUBKEY_HEX" := by
      rintro rfl
      exact absurd hkey (by decide)
    simp only [pinnedEnvironment, if_neg hother, ite_self, emptyEnvironment]
  rw [X402Config.fromEnv_congr hsame, localConfig_loaded]

def publicKeyHex : String := Hex.encode (ephemeralKey.toBytes ())

theorem pinned_started :
    start (pinnedEnvironment publicKeyHex .notPresent) reachable =
      .ok (localRunning (some ⟨()⟩)) := by
  have hkey := @AttestationVerifier.fromHexWithSource_encode _ reachable.hexDebug _ _
    (ephemeralKey_lawful.fromBytes_toBytes ()) "TVC_DEMO_PINNED_PUBKEY_HEX"
  refine (start_eq_ok_iff _ _ _).2 ⟨⟨rfl, nofun, rfl⟩, ?_, nofun, localConfig_mounted
    (pinnedEnvironment_config _), ⟨rfl, rfl⟩, rfl, rfl⟩
  rw [pinnedEnvironment_loaded, publicKeyHex, hkey]
  rfl

/-- The key is pinned and the token is set. -/
def securedEnvironment (hexValue : String) : Environment where
  var key :=
    if key = "GATEWAY_AUTH_BEARER_TOKEN" then .present " local-dev-secret-token\n"
    else (pinnedEnvironment hexValue .notPresent).var key
  file _ := .notOpened "No such file or directory (os error 2)"

def securedRunning : Running plainCrates ephemeralKey :=
  { localRunning (some ⟨()⟩) with bearerToken := some devToken }

theorem secured_started :
    start (securedEnvironment publicKeyHex) reachable = .ok securedRunning := by
  obtain ⟨⟨hendpoint, hprofile, hbind⟩, hloaded, -, htags, -, hport, haddr⟩ :=
    (start_eq_ok_iff _ _ _).1 pinned_started
  have hconfig : (X402Config.fromEnv (securedEnvironment publicKeyHex) :
      Except ConfigError (X402Config plainCrates)) =
        X402Config.fromEnv (pinnedEnvironment publicKeyHex .notPresent) := by
    apply X402Config.fromEnv_congr
    intro key hkey
    have hother : key ≠ "GATEWAY_AUTH_BEARER_TOKEN" := by
      rintro rfl
      exact absurd hkey (by decide)
    simp only [securedEnvironment, if_neg hother]
  refine (start_eq_ok_iff _ _ _).2 ⟨⟨hendpoint, hprofile, hbind⟩, hloaded, nofun, ?_, ?_, hport,
    haddr⟩
  · rw [hconfig]
    exact htags
  · exact (fromEnv_gated_iff _ _).1 devToken_started

/-- A parser that has signed one answer, and a payment layer that charges for every
success. -/
def signing (payload : ParsedTransactionPayload) (signature : Signature) : Backend plainCrates where
  rpc _ := .response ⟨some ⟨some payload, some signature⟩⟩
  serving := true
  paygate _ _ inner := ⟨inner, inner.isSuccess⟩

def ethereumWrapper : TurnkeyRequestWrapper := ⟨unsignedTransaction, "CHAIN_ETHEREUM", none, false⟩

def paidRequest : Incoming where
  path := paidPath
  authorization := [utf8Bytes ("Bearer" ++ " " ++ trim " local-dev-secret-token\n")]
  method := .post
  payment := some [0x7b, 0x7d]
  wrapper := some ethereumWrapper

/-- What the parser signed for a transaction is what the request is answered with. -/
theorem paidRequest_settled : ∃ payload signature,
    (serve securedRunning (signing payload signature) paidRequest).settled = true := by
  obtain ⟨registry, payload, signature, hanswered⟩ :=
    answerable_ethereum.exists_answered ephemeralKey_lawful .insertion ()
  have hrequest : gatewayRequest ethereumWrapper.request .ethereum = transactionRequest 2 := rfl
  have haccepts : Accepts (⟨()⟩ : AttestationVerifier ephemeralKey)
      (gatewayRequest ethereumWrapper.request .ethereum) payload signature := by
    rw [hrequest]
    exact accepts_of_answered ephemeralKey_lawful hanswered rfl rfl
  have hstatus : (parseHandler (some ⟨()⟩ : Option (AttestationVerifier ephemeralKey))
      (signing payload signature).rpc ethereumWrapper).1 = .ok := by
    rw [parseHandler_ok_iff]
    exact ⟨.ethereum, payload, signature, rfl, rfl, haccepts⟩
  generalize hparsed : parseHandler (some ⟨()⟩ : Option (AttestationVerifier ephemeralKey))
    (signing payload signature).rpc ethereumWrapper = outcome at hstatus
  obtain ⟨status, response⟩ := outcome
  obtain rfl : status = .ok := hstatus
  have hgate : requireBearerToken devToken paidRequest.toGatedRequest = .allow :=
    (gate_of_environment devToken_started _).2 (.inr ⟨_, "Bearer", " ", .inl ⟨rfl, rfl⟩, rfl,
      by decide, by decide, by simp [IsBlank]⟩)
  have hanswer : parseAnswer securedRunning.attestation (signing payload signature).rpc
      paidRequest.wrapper = .parsed .ok response := by
    simp only [parseAnswer, paidRequest, securedRunning, localRunning, hparsed]
  refine ⟨payload, signature, ?_⟩
  have hserve : serve securedRunning (signing payload signature) paidRequest =
      route securedRunning (signing payload signature) paidRequest := by
    simp only [serve, securedRunning, hgate]
  have hhealth : paidRequest.path ≠ healthPath := by simp [paidRequest, paidPath, healthPath]
  have hfree : paidRequest.path ≠ freePath := by simp [paidRequest, paidPath, freePath]
  have hroute : route securedRunning (signing payload signature) paidRequest =
      ⟨.parsed .ok response, true⟩ := by
    rw [route, if_neg hhealth, if_neg hfree]
    simp only [securedRunning, localRunning, paidRequest, if_true] at hanswer ⊢
    rw [hanswer]
    rfl
  rw [hserve, hroute]

theorem settled_attested_secured : ∃ payload signature,
    (∀ token ∈ securedRunning.bearerToken,
      ∃ value ∈ paidRequest.authorization.head?, token.Credentials value) ∧
      (Attested securedRunning (signing payload signature) paidRequest ∨
        TestMoney (securedEnvironment publicKeyHex) securedRunning) := by
  obtain ⟨payload, signature, hsettled⟩ := paidRequest_settled
  exact ⟨payload, signature,
    settled_attested secured_started (fun _ _ _ hsettles => ⟨hsettles, rfl⟩) hsettled⟩

theorem payment_settings_contained_payai :
    ∃ restarted : Running plainCrates ephemeralKey,
      start (pinnedEnvironment publicKeyHex (.present "payai")) reachable = .ok restarted ∧
        ∀ (backend : Backend plainCrates) (request : Incoming), request.path ≠ paidPath →
          serve restarted backend request = serve (localRunning (some ⟨()⟩)) backend request := by
  refine payment_settings_contained pinned_started nofun ⟨fun key hkey => ?_, rfl, nofun⟩
  have hother : key ≠ "X402_PROFILE" := by
    rintro rfl
    exact hkey (by decide)
  rw [pinnedEnvironment, pinnedEnvironment]
  simp only [if_neg hother]

end VisualSignParser.Gateway
