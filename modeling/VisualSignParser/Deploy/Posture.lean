import VisualSignParser.Codec.Decimal
import VisualSignParser.Deploy.Release
import VisualSignParser.Ethereum.AbiTrust

/-!
# The trust posture of a deployment

Whether a deployment takes unsigned ABIs, and whose signatures it takes, is fixed
when it is created: the tool checks the keys and writes them into the command line
of the parser, and the parser reads them back when it starts.
-/

namespace VisualSignParser.Deploy

open VisualSignParser.Ethereum
open VisualSignParser.Framing
open VisualSignParser.Outcome
open VisualSignParser.Text

/-! ## The options of the tool -/

/-- The group `abi_trust`: exactly one of the two options. -/
inductive AbiTrustArgs where
  | acceptUnsignedAbis
  | acceptSignaturesFromPubkey (first : String) (more : List String)

def AbiTrustArgs.signerPubkeys : AbiTrustArgs → List String
  | acceptUnsignedAbis => []
  | acceptSignaturesFromPubkey first more => first :: more

def truncateForError (debug : String → String) (value : String) : String :=
  if value.toList.length ≤ 64 then debug value
  else debug (String.ofList (value.toList.take 64)) ++ " (truncated, " ++
    toString value.toList.length ++ " chars total)"

/-- The SEC1 encoding that length and tag announce. -/
def sec1Tag (stripped : String) : Option String :=
  match (utf8Bytes stripped).length, stripped.toList.take 2 with
  | 66, ['0', '2'] => some "02 (compressed)"
  | 66, ['0', '3'] => some "03 (compressed)"
  | 66, ['0', '5'] => some "05 (compact)"
  | 130, ['0', '4'] => some "04 (uncompressed)"
  | _, _ => none

/-- `fromSec1Bytes` tells whether the bytes are a point of the curve.  The digits have
been checked, so that `decode_hex_bytes` reads what `hex::decode` reads. -/
def validateSignerPubkey (debug : String → String) (fromSec1Bytes : Bytes → Bool)
    (hexStr : String) : Except String Unit := do
  let stripped := Hex.stripHexMarker hexStr
  let shown := truncateForError debug hexStr
  let malformed := "--accept-signatures-from-pubkey must be a 33-byte (02/03/05-prefixed) or " ++
    "65-byte (04-prefixed) hex secp256k1 public key, got " ++ shown
  let tag ← okOr malformed (sec1Tag stripped)
  require (stripped.toList.all Hex.isHexDigit = true) malformed
  let bytes ← (Hex.decode (utf8Bytes stripped)).mapError fun _ => "invalid hex byte"
  require (fromSec1Bytes bytes = true) ("--accept-signatures-from-pubkey is well-formed hex (SEC1 " ++
    tag ++ ", " ++ toString bytes.length ++
    " bytes) but does not decode to a point on the secp256k1 curve, got " ++ shown)

/-- What goes into the command line of the parser. -/
structure PivotSettings where
  hostIp : String
  hostPort : UInt16
  abiTrust : AbiTrustArgs

def pivotArgs (settings : PivotSettings) : List String :=
  ["--host-ip", settings.hostIp, "--host-port", toString settings.hostPort.toNat] ++
    match settings.abiTrust with
    | .acceptUnsignedAbis => ["--accept-unsigned-abis"]
    | .acceptSignaturesFromPubkey first more =>
        (first :: more).flatMap fun key => ["--accept-signatures-from-pubkey", key]

/-! ## The options of the parser -/

section Parser

variable (k256 : K256)

def canonicalPubkeyFromHex (hexStr : String) : Option Bytes := do
  let bytes ← (Hex.decodeHex hexStr).toOption
  let point ← (k256.encodedPoint bytes).toOption
  let key ← (k256.verifyingKey point).toOption
  return k256.uncompressed key

/-- The allowlist is a set. -/
def insertSigner (allowlist : SignerAllowlist) (key : Bytes) : SignerAllowlist :=
  ⟨allowlist.keys.insert key⟩

def signerAllowlistFromHex (entries : List String) : Except String SignerAllowlist :=
  if entries = [] then .error "no authorized ABI signer public keys were provided"
  else entries.foldlM (fun allowlist entry => do
    let key ← okOr ("invalid secp256k1 public key: '" ++ entry ++ "'")
      (canonicalPubkeyFromHex k256 (trim entry))
    return insertSigner allowlist key) ⟨[]⟩

def abiTrustFromOptions (acceptUnsigned : Bool) (signerPubkeys : List String) :
    Except String MetadataTrustPolicy :=
  match acceptUnsigned, signerPubkeys.isEmpty with
  | true, true => .ok .acceptUnsigned
  | false, false => (signerAllowlistFromHex k256 signerPubkeys).map .requireAllowlistedSigner
  | true, false => .error ("--accept-unsigned-abis and --accept-signatures-from-pubkey are " ++
      "mutually exclusive: pick the one posture this deployment runs")
  | false, true => .error ("one of --accept-unsigned-abis or --accept-signatures-from-pubkey " ++
      "<hex> is required: the ABI trust posture must be chosen at deploy time so a signer can " ++
      "verify it")

/-- What `qos_core::parser::Parser` makes of a command line. -/
structure Parsed where
  single : String → Option String
  flag : String → Option Bool
  multiple : String → Option (List String)

/-- `ParserOpts::abi_trust`. -/
def abiTrust (parsed : Parsed) : Except String MetadataTrustPolicy :=
  abiTrustFromOptions k256 ((parsed.flag "accept-unsigned-abis").getD false)
    ((parsed.multiple "accept-signatures-from-pubkey").getD [])

end Parser

/-! ## The keys of the tool and the keys of the parser -/

theorem not_whitespace_of_hexDigit {char : Char} (hdigit : Hex.isHexDigit char = true) :
    isWhitespace char = false := by
  have hcode := Hex.toNat_of_isHexDigit hdigit
  simp only [isWhitespace, Bool.or_eq_false_iff, Bool.and_eq_false_iff, decide_eq_false_iff_not,
    beq_eq_false_iff_ne]
  omega

theorem trim_eq_self {text : String} (htext : ∀ char ∈ text.toList, isWhitespace char = false) :
    trim text = text := by
  have hkeep : ∀ chars : List Char, (∀ char ∈ chars, isWhitespace char = false) →
      chars.dropWhile isWhitespace = chars := by
    intro chars hchars
    cases chars with
    | nil => rfl
    | cons first rest => rw [List.dropWhile_cons_of_neg (by simp [hchars first])]
  rw [trim, hkeep _ htext, hkeep _ (by simpa using htext), List.reverse_reverse,
    String.ofList_toList]

/-- The two libraries agree on what is a point of the curve. -/
def SamePoints (k256 : K256) (fromSec1Bytes : Bytes → Bool) : Prop :=
  ∀ bytes, fromSec1Bytes bytes = true ↔
    ∃ point key, k256.encodedPoint bytes = .ok point ∧ k256.verifyingKey point = .ok key

/-- What the tool demands of a key. -/
theorem validateSignerPubkey_eq_ok {debug : String → String} {fromSec1Bytes : Bytes → Bool}
    {hexStr : String} :
    validateSignerPubkey debug fromSec1Bytes hexStr = .ok () ↔
      (sec1Tag (Hex.stripHexMarker hexStr)).isSome = true ∧
        (∀ char ∈ (Hex.stripHexMarker hexStr).toList, Hex.isHexDigit char = true) ∧
        ∃ bytes, Hex.decodeHex hexStr = .ok bytes ∧ fromSec1Bytes bytes = true := by
  simp only [validateSignerPubkey, bind_eq_ok, okOr_eq_ok, require_eq_ok, mapError_eq_ok,
    List.all_eq_true, Option.isSome_iff_exists, Hex.decodeHex]
  constructor
  · rintro ⟨tag, htag, _, hdigits, bytes, hbytes, hpoint⟩
    exact ⟨⟨tag, htag⟩, hdigits, bytes, hbytes, hpoint⟩
  · rintro ⟨⟨tag, htag⟩, hdigits, bytes, hbytes, hpoint⟩
    exact ⟨tag, htag, (), hdigits, bytes, hbytes, hpoint⟩

variable {k256 : K256} {fromSec1Bytes : Bytes → Bool} {debug : String → String}

/-- A key that the tool takes is a key for the parser, with nothing to trim. -/
theorem canonical_of_validated (hsame : SamePoints k256 fromSec1Bytes) {hexStr : String}
    (hvalid : validateSignerPubkey debug fromSec1Bytes hexStr = .ok ()) :
    trim hexStr = hexStr ∧ ∃ key, canonicalPubkeyFromHex k256 hexStr = some key := by
  obtain ⟨-, hdigits, bytes, hbytes, hpoint⟩ := validateSignerPubkey_eq_ok.1 hvalid
  obtain ⟨point, key, hencoded, hkey⟩ := (hsame bytes).1 hpoint
  constructor
  · apply trim_eq_self
    intro char hchar
    cases Hex.mem_stripHexMarker hchar with
    | inl hdigit => exact not_whitespace_of_hexDigit (hdigits char hdigit)
    | inr hmarker =>
        have hmarkers : ['0', 'x', 'X'].any isWhitespace = false := by decide
        exact Bool.eq_false_iff.2 (List.any_eq_false.1 hmarkers char hmarker)
  · refine ⟨k256.uncompressed key, ?_⟩
    rw [canonicalPubkeyFromHex, hbytes]
    change ((k256.encodedPoint bytes).toOption >>= _) = _
    rw [hencoded]
    change ((k256.verifyingKey point).toOption >>= _) = _
    rw [hkey]
    rfl

/-- The allowlist has the canonical keys of the entries, and no others. -/
theorem foldlM_insertSigner {entries : List String} {earlier : SignerAllowlist}
    (hkeys : ∀ entry ∈ entries, ∃ key, canonicalPubkeyFromHex k256 (trim entry) = some key) :
    ∃ allowlist, entries.foldlM (fun allowlist entry => do
        let key ← okOr ("invalid secp256k1 public key: '" ++ entry ++ "'")
          (canonicalPubkeyFromHex k256 (trim entry))
        return insertSigner allowlist key) earlier = .ok allowlist ∧
      ∀ key, key ∈ allowlist.keys ↔ key ∈ earlier.keys ∨
        ∃ entry ∈ entries, canonicalPubkeyFromHex k256 (trim entry) = some key := by
  induction entries generalizing earlier with
  | nil => exact ⟨earlier, rfl, by simp⟩
  | cons first rest ih =>
      obtain ⟨hfirst, hrest⟩ := List.forall_mem_cons.1 hkeys
      obtain ⟨key, hkey⟩ := hfirst
      obtain ⟨allowlist, hallowlist, hmem⟩ := @ih (insertSigner earlier key) hrest
      refine ⟨allowlist, ?_, fun other => ?_⟩
      · rw [List.foldlM_cons, hkey]
        exact hallowlist
      · rw [hmem, insertSigner, List.mem_insert_iff, List.exists_mem_cons_iff, hkey,
          Option.some.injEq, eq_comm, or_assoc, or_left_comm]

/-! ## The command line -/

/-- One setting of a command line. -/
inductive Setting where
  | flag (name : String)
  | value (name text : String)
  deriving DecidableEq

def Setting.render : Setting → List String
  | flag name => ["--" ++ name]
  | value name text => ["--" ++ name, text]

def Setting.valueOf (name : String) : Setting → Option String
  | value other text => if other = name then some text else none
  | flag _ => none

/-- The settings of the parser: addresses once, and one posture at most. -/
structure Permitted (settings : List Setting) : Prop where
  flags : ∀ name, .flag name ∈ settings → name = "accept-unsigned-abis"
  values : ∀ name text, .value name text ∈ settings →
    name ∈ ["host-ip", "host-port", "accept-signatures-from-pubkey"] ∧
      ¬"--".toList <+: text.toList
  hostIp : ∃ text, settings.filterMap (Setting.valueOf "host-ip") = [text]
  hostPort : ∃ text, settings.filterMap (Setting.valueOf "host-port") = [text]
  posture : .flag "accept-unsigned-abis" ∈ settings →
    settings.filterMap (Setting.valueOf "accept-signatures-from-pubkey") = []

/-- The parser of the command line gives back the settings. -/
def ReadsSettings (parse : List String → Except String Parsed) : Prop :=
  ∀ program settings, Permitted settings →
    ∃ parsed, parse (program :: settings.flatMap Setting.render) = .ok parsed ∧
      ((parsed.flag "accept-unsigned-abis").getD false = true ↔
        .flag "accept-unsigned-abis" ∈ settings) ∧
      (parsed.multiple "accept-signatures-from-pubkey").getD [] =
        settings.filterMap (Setting.valueOf "accept-signatures-from-pubkey")

/-- The settings behind the arguments of a deployment. -/
def PivotSettings.settings (pivot : PivotSettings) : List Setting :=
  [.value "host-ip" pivot.hostIp, .value "host-port" (toString pivot.hostPort.toNat)] ++
    match pivot.abiTrust with
    | .acceptUnsignedAbis => [.flag "accept-unsigned-abis"]
    | .acceptSignaturesFromPubkey first more =>
        (first :: more).map (.value "accept-signatures-from-pubkey")

theorem render_settings (pivot : PivotSettings) :
    pivot.settings.flatMap Setting.render = pivotArgs pivot := by
  obtain ⟨hostIp, hostPort, abiTrust⟩ := pivot
  cases abiTrust with
  | acceptUnsignedAbis => rfl
  | acceptSignaturesFromPubkey first more =>
      rw [PivotSettings.settings, pivotArgs, List.flatMap_append, List.flatMap_map]
      rfl

theorem filterMap_valueOf (name : String) (texts : List String) :
    (texts.map (Setting.value name)).filterMap (Setting.valueOf name) = texts := by
  rw [List.filterMap_map]
  refine (List.filterMap_congr fun text _ => ?_).trans (List.filterMap_some ..)
  exact if_pos rfl

theorem filterMap_valueOf_other {name other : String} (hother : other ≠ name)
    (texts : List String) :
    (texts.map (Setting.value other)).filterMap (Setting.valueOf name) = [] := by
  rw [List.filterMap_map, List.filterMap_eq_nil_iff]
  exact fun text _ => if_neg hother

/-- No value of a deployment is mistaken for an option. -/
theorem permitted_settings {pivot : PivotSettings} (hip : ¬"--".toList <+: pivot.hostIp.toList)
    (hkeys : ∀ key ∈ pivot.abiTrust.signerPubkeys, ¬"--".toList <+: key.toList) :
    Permitted pivot.settings := by
  obtain ⟨hostIp, hostPort, abiTrust⟩ := pivot
  have hport : ¬"--".toList <+: (toString hostPort.toNat).toList := by
    intro hstart
    rw [Decimal.toList_toString] at hstart
    exact Decimal.not_mem_toDigits (by decide : '-'.isDigit = false) _
      (hstart.subset (List.mem_cons_self ..))
  cases abiTrust with
  | acceptUnsignedAbis =>
      refine ⟨?_, ?_, ⟨hostIp, rfl⟩, ⟨_, rfl⟩, fun _ => rfl⟩
      · simp [PivotSettings.settings]
      · simp only [PivotSettings.settings, List.mem_append, List.mem_cons, List.not_mem_nil,
          or_false, reduceCtorEq, Setting.value.injEq]
        rintro name text (⟨rfl, rfl⟩ | ⟨rfl, rfl⟩)
        · exact ⟨by simp, hip⟩
        · exact ⟨by simp, hport⟩
  | acceptSignaturesFromPubkey first more =>
      have hnoFlag : ∀ name, Setting.flag name ∉ (PivotSettings.mk hostIp hostPort
          (.acceptSignaturesFromPubkey first more)).settings := by
        simp [PivotSettings.settings]
      have hother : ∀ name, "accept-signatures-from-pubkey" ≠ name →
          ((first :: more).map (Setting.value "accept-signatures-from-pubkey")).filterMap
            (Setting.valueOf name) = [] := fun name hname => filterMap_valueOf_other hname _
      refine ⟨fun name hname => absurd hname (hnoFlag name), ?_, ⟨hostIp, ?_⟩,
        ⟨toString hostPort.toNat, ?_⟩,
        fun hflag => absurd hflag (hnoFlag _)⟩
      · intro name text hmem
        rcases List.mem_append.1 hmem with haddress | hkey
        · simp only [List.mem_cons, List.not_mem_nil, or_false, Setting.value.injEq] at haddress
          rcases haddress with ⟨rfl, rfl⟩ | ⟨rfl, rfl⟩
          · exact ⟨by simp, hip⟩
          · exact ⟨by simp, hport⟩
        · obtain ⟨key, hlisted, hsame⟩ := List.mem_map.1 hkey
          obtain ⟨rfl, rfl⟩ := Setting.value.inj hsame
          exact ⟨by simp, hkeys key hlisted⟩
      · rw [PivotSettings.settings, List.filterMap_append, hother "host-ip" (by simp)]
        rfl
      · rw [PivotSettings.settings, List.filterMap_append, hother "host-port" (by simp)]
        rfl

/-! ## The deployed posture -/

theorem answered_ok_bind {A B : Type} (value : A) (rest : A → Script B) :
    (answered (.ok value) >>= rest) = rest value := pure_bind value rest

theorem answered_error_bind {A B : Type} (error : String) (rest : A → Script B) :
    (answered (.error error) >>= rest) = answered (.error error) := rfl

theorem forM_answered (validate : String → Except String Unit) (keys : List String) :
    (keys.forM fun key => answered (validate key)) = answered (keys.forM validate) := by
  induction keys with
  | nil => rfl
  | cons first rest ih =>
      change (answered (validate first) >>= fun _ => rest.forM fun key =>
        answered (validate key)) = answered (validate first >>= fun _ => rest.forM validate)
      cases validate first with
      | error error => rfl
      | ok value => rw [answered_ok_bind, ih, ok_bind]

theorem forM_eq_ok {validate : String → Except String Unit} {keys : List String}
    (hkeys : keys.forM validate = .ok ()) : ∀ key ∈ keys, validate key = .ok () := by
  induction keys with
  | nil => exact fun _ hmem => absurd hmem List.not_mem_nil
  | cons first rest ih =>
      obtain ⟨_, hfirst, hrest⟩ := bind_eq_ok.1
        (show (validate first >>= fun _ => rest.forM validate) = .ok () from hkeys)
      exact List.forall_mem_cons.2 ⟨hfirst, ih hrest⟩

/-- Nothing happens before all keys are checked. -/
theorem deploy_refuses {validate : String → Except String Unit} {args : DeployArgs}
    {world : World} {result : Except String String} {history : List Event}
    (hrun : (deploy debug validate args world).run.outcome = some (result, history))
    (hhistory : history ≠ []) : ∀ key ∈ args.acceptSignaturesFromPubkey, validate key = .ok () := by
  have hsilent : ∀ error, (answered (.error error) : Script String).run.outcome ≠
      some (result, history) := by
    intro error hsame
    exact hhistory (Prod.mk.inj (Option.some.inj hsame)).2.symm
  apply forM_eq_ok
  rw [deploy, validateDigest, ensure, forM_answered] at hrun
  cases hdigest : decide (isDigest args.expectedDigest = true) with
  | false =>
      rw [if_neg (of_decide_eq_false hdigest), answered_error_bind] at hrun
      exact absurd hrun (hsilent _)
  | true =>
      rw [if_pos (of_decide_eq_true hdigest), answered_ok_bind] at hrun
      cases hkeys : args.acceptSignaturesFromPubkey.forM validate with
      | ok value => rfl
      | error error =>
          rw [hkeys, answered_error_bind] at hrun
          exact absurd hrun (hsilent _)

/-- What the posture demands of an ABI that came with a request. -/
def AbiTrustArgs.Demands (k256 : K256) (chainId : ChainId) (address : Address) (abi : Proto.Abi) :
    AbiTrustArgs → Prop
  | acceptUnsignedAbis => ∀ signature, abi.signature = some signature →
      ∃ key, Verified k256 chainId address abi.value (convertProtoSignature signature) key
  | acceptSignaturesFromPubkey first more => ∃ signature key, abi.signature = some signature ∧
      Verified k256 chainId address abi.value (convertProtoSignature signature) key ∧
      ∃ entry ∈ first :: more, canonicalPubkeyFromHex k256 entry = some (k256.uncompressed key)

/-- A key that the tool takes does not look like an option. -/
theorem not_option_of_validated {hexStr : String}
    (hvalid : validateSignerPubkey debug fromSec1Bytes hexStr = .ok ()) :
    ¬"--".toList <+: hexStr.toList := by
  intro hstart
  have hmem : '-' ∈ hexStr.toList := hstart.subset (List.mem_cons_self ..)
  cases Hex.mem_stripHexMarker hmem with
  | inl hdigit =>
      have hhex := (validateSignerPubkey_eq_ok.1 hvalid).2.1 '-' hdigit
      exact absurd hhex (by decide)
  | inr hmarker => exact absurd hmarker (by decide)

theorem abiTrustFromOptions_signers (first : String) (more : List String) :
    abiTrustFromOptions k256 false (first :: more) =
      (signerAllowlistFromHex k256 (first :: more)).map .requireAllowlistedSigner := rfl

/-- The parser starts with the posture that the tool was given. -/
theorem abiTrust_of_settings (hsame : SamePoints k256 fromSec1Bytes) {pivot : PivotSettings}
    {parsed : Parsed}
    (hvalid : ∀ key ∈ pivot.abiTrust.signerPubkeys,
      validateSignerPubkey debug fromSec1Bytes key = .ok ())
    (hflag : (parsed.flag "accept-unsigned-abis").getD false = true ↔
      .flag "accept-unsigned-abis" ∈ pivot.settings)
    (hmultiple : (parsed.multiple "accept-signatures-from-pubkey").getD [] =
      pivot.settings.filterMap (Setting.valueOf "accept-signatures-from-pubkey")) :
    ∃ policy, abiTrust k256 parsed = .ok policy ∧ ∀ chainId address abi,
      acceptsEntry k256 policy chainId address abi = true ↔
        pivot.abiTrust.Demands k256 chainId address abi := by
  obtain ⟨hostIp, hostPort, trust⟩ := pivot
  cases trust with
  | acceptUnsignedAbis =>
      have htrue := hflag.2 (by simp [PivotSettings.settings])
      have hnone : (parsed.multiple "accept-signatures-from-pubkey").getD [] = [] := hmultiple
      refine ⟨.acceptUnsigned, ?_, fun chainId address abi => acceptsEntry_iff⟩
      rw [abiTrust, htrue, hnone]
      rfl
  | acceptSignaturesFromPubkey first more =>
      have hfalse : (parsed.flag "accept-unsigned-abis").getD false = false := by
        rw [Bool.eq_false_iff]
        exact fun htrue => absurd (hflag.1 htrue) (by simp [PivotSettings.settings])
      have hlisted : (parsed.multiple "accept-signatures-from-pubkey").getD [] =
          first :: more := by
        rw [hmultiple, PivotSettings.settings, List.filterMap_append, filterMap_valueOf]
        simp [Setting.valueOf]
      have htrimmed : ∀ entry ∈ first :: more, trim entry = entry := fun entry hentry =>
        (canonical_of_validated hsame (hvalid entry hentry)).1
      obtain ⟨allowlist, hallowlist, hmem⟩ := @foldlM_insertSigner k256 (first :: more)
        ⟨[]⟩ fun entry hentry => by
          rw [htrimmed entry hentry]
          exact (canonical_of_validated hsame (hvalid entry hentry)).2
      refine ⟨.requireAllowlistedSigner allowlist, ?_, fun chainId address abi => ?_⟩
      · rw [abiTrust, hfalse, hlisted]
        rw [abiTrustFromOptions_signers, signerAllowlistFromHex, if_neg (List.cons_ne_nil _ _),
          hallowlist]
        rfl
      · rw [acceptsEntry_iff]
        refine exists_congr fun signature => exists_congr fun key => and_congr_right fun _ =>
          and_congr_right fun _ => ?_
        rw [hmem]
        simp only [List.not_mem_nil, false_or]
        exact exists_congr fun entry => and_congr_right fun hentry => by rw [htrimmed entry hentry]

/-- A deployment that is created starts with the posture its operator asked for: without
signatures, or with those of the given keys and no others. -/
theorem deployed_posture {parse : List String → Except String Parsed}
    (hsame : SamePoints k256 fromSec1Bytes) (hparse : ReadsSettings parse) (program : String)
    (pivot : PivotSettings) (hip : ¬"--".toList <+: pivot.hostIp.toList) {args : DeployArgs}
    (hkeys : args.acceptSignaturesFromPubkey = pivot.abiTrust.signerPubkeys) {world : World}
    {result : Except String String} {history : List Event}
    (hrun : (deploy debug (validateSignerPubkey debug fromSec1Bytes) args world).run.outcome =
      some (result, history)) (hsubmitted : .submitted ∈ history) :
    ∃ parsed policy, parse (program :: pivotArgs pivot) = .ok parsed ∧
      abiTrust k256 parsed = .ok policy ∧ ∀ chainId address abi,
        acceptsEntry k256 policy chainId address abi = true ↔
          pivot.abiTrust.Demands k256 chainId address abi := by
  have hvalid := deploy_refuses hrun (List.ne_nil_of_mem hsubmitted)
  rw [hkeys] at hvalid
  have hpermitted := permitted_settings hip fun key hkey => not_option_of_validated (hvalid key hkey)
  obtain ⟨parsed, hparsed, hflag, hmultiple⟩ := hparse program pivot.settings hpermitted
  rw [render_settings] at hparsed
  obtain ⟨policy, hpolicy, haccepts⟩ := abiTrust_of_settings hsame hvalid hflag hmultiple
  exact ⟨parsed, policy, hparsed, hpolicy, haccepts⟩

/-! ## A deployment with one key -/

def collectSettings : List String → List Setting
  | name :: text :: rest =>
      if name = "--accept-unsigned-abis" then
        .flag "accept-unsigned-abis" :: collectSettings (text :: rest)
      else .value (String.ofList (name.toList.drop 2)) text :: collectSettings rest
  | [name] => if name = "--accept-unsigned-abis" then [.flag "accept-unsigned-abis"] else []
  | [] => []

def parseSettings (line : List String) : Except String Parsed :=
  let settings := collectSettings line.tail
  .ok {
    single := fun name => (settings.filterMap (Setting.valueOf name)).head?
    flag := fun name => some (settings.contains (.flag name))
    multiple := fun name => some (settings.filterMap (Setting.valueOf name)) }

theorem collectSettings_render {settings : List Setting}
    (hflags : ∀ name, .flag name ∈ settings → name = "accept-unsigned-abis")
    (hvalues : ∀ name text, .value name text ∈ settings → name ≠ "accept-unsigned-abis") :
    collectSettings (settings.flatMap Setting.render) = settings := by
  induction settings with
  | nil => rfl
  | cons first rest ih =>
      have hrest := ih (fun name hname => hflags name (List.mem_cons_of_mem _ hname))
        fun name text hname => hvalues name text (List.mem_cons_of_mem _ hname)
      cases first with
      | flag name =>
          obtain rfl := hflags name (List.mem_cons_self ..)
          change collectSettings ("--accept-unsigned-abis" :: rest.flatMap Setting.render) = _
          cases hline : rest.flatMap Setting.render with
          | nil =>
              rw [hline] at hrest
              rw [← hrest]
              rfl
          | cons text others =>
              rw [hline] at hrest
              rw [collectSettings, if_pos rfl, hrest]
      | value name text =>
          have hname := hvalues name text (List.mem_cons_self ..)
          have hother : "--" ++ name ≠ "--accept-unsigned-abis" := by
            intro hsame
            exact hname ((String.append_right_inj "--").1 (hsame.trans (by rfl :
              "--accept-unsigned-abis" = "--" ++ "accept-unsigned-abis")))
          change collectSettings (("--" ++ name) :: text :: rest.flatMap Setting.render) = _
          rw [collectSettings, if_neg hother, hrest]
          simp

theorem readsSettings_parseSettings : ReadsSettings parseSettings := by
  intro program settings hpermitted
  have hcollected : collectSettings (settings.flatMap Setting.render) = settings := by
    refine collectSettings_render hpermitted.flags fun name text hmem hname => ?_
    have hlisted := (hpermitted.values name text hmem).1
    rw [hname] at hlisted
    simp at hlisted
  refine ⟨_, rfl, ?_, ?_⟩
  · dsimp only [List.tail_cons, Option.getD_some]
    rw [hcollected, List.contains_iff_mem]
  · dsimp only [List.tail_cons, Option.getD_some]
    rw [hcollected]

/-- Curve points are not checked, and no signature is. -/
def uncheckedK256 : K256 where
  Signature := Bytes
  Point := Bytes
  Key := Bytes
  fromDer := .ok
  encodedPoint := .ok
  verifyingKey := .ok
  verifyPrehash _ _ _ := .ok ()
  uncompressed := id

/-- The public key of the seed of forty-two bytes. -/
def operatorKey : String := "0424653eac434488002cc06bbfb7f10fe18991e35f9fe4302dbea6d2353dc0ab1c" ++
  "119fc5009a032aa9fe47f5e149bb8442f71f884ccb516590686d8ff6ab91c613"

def signedArgs : DeployArgs := { sampleArgs with acceptSignaturesFromPubkey := [operatorKey] }

/-- The deployment is submitted and not created. -/
def refusingWorld : World := { slowWorld with deployCreate := .error "tvc deploy create" }

def signedRun : Traced Event (Except String String) :=
  (deploy id (validateSignerPubkey id fun _ => true) signedArgs refusingWorld).run

theorem submitted_signedRun :
    ∃ result history, signedRun.outcome = some (result, history) ∧ .submitted ∈ history := by
  have hsubmitted : (signedRun.outcome.map fun step => decide (Event.submitted ∈ step.2)) =
      some true := by
    decide +kernel
  obtain ⟨⟨result, history⟩, hrun, hmem⟩ := Option.map_eq_some_iff.1 hsubmitted
  exact ⟨result, history, hrun, of_decide_eq_true hmem⟩

theorem deployed_posture_signed :
    ∃ parsed policy, parseSettings ("/parser_app" :: pivotArgs
        ⟨"0.0.0.0", 3000, .acceptSignaturesFromPubkey operatorKey []⟩) = .ok parsed ∧
      abiTrust uncheckedK256 parsed = .ok policy ∧ ∀ chainId address abi,
        acceptsEntry uncheckedK256 policy chainId address abi = true ↔
          (AbiTrustArgs.acceptSignaturesFromPubkey operatorKey []).Demands uncheckedK256 chainId
            address abi := by
  obtain ⟨result, history, hrun, hsubmitted⟩ := submitted_signedRun
  exact @deployed_posture uncheckedK256 (fun _ => true) id parseSettings
    (fun bytes => iff_of_true rfl ⟨bytes, bytes, rfl, rfl⟩) readsSettings_parseSettings
    "/parser_app" ⟨"0.0.0.0", 3000, .acceptSignaturesFromPubkey operatorKey []⟩ (by simp)
    signedArgs rfl _ _ _ hrun hsubmitted

end VisualSignParser.Deploy
