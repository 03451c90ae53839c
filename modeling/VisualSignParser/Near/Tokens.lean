import VisualSignParser.Codec.Decimal
import VisualSignParser.Codec.OrderedMap
import VisualSignParser.Codec.Text
import VisualSignParser.Ethereum.Registry

/-!
# Tokens and their amounts

The seed table says of some assets how they are called and scaled.  A request
can bring metadata of its own, which is looked up first.  The verifier contract
represents a fungible token it holds as a multi-token, and that form of the
asset borrows the metadata of the token.
-/

namespace VisualSignParser.Near

open VisualSignParser.OrderedMap
open VisualSignParser.Ethereum (LayeredRegistry)

inductive TokenProvenance where
  | seed
  | recognizedSigner
  | unrecognizedSigner
  | unsigned
  deriving DecidableEq

namespace TokenProvenance

def verified : TokenProvenance → Bool
  | seed => true
  | recognizedSigner => true
  | unrecognizedSigner => false
  | unsigned => false

def unverifiedCause : TokenProvenance → Option String
  | seed => none
  | recognizedSigner => none
  | unrecognizedSigner => some "unrecognized signer (signature verified, key not enrolled)"
  | unsigned => some "unsigned request entry"

def overrideSubject : TokenProvenance → String
  | unrecognizedSigner => "unrecognized signer"
  | unsigned => "unsigned entry"
  | seed => "compiled-in seed"
  | recognizedSigner => "recognized signer"

theorem unverifiedCause_isSome (provenance : TokenProvenance) :
    provenance.unverifiedCause.isSome = !provenance.verified := by
  cases provenance <;> rfl

end TokenProvenance

structure TokenMeta where
  symbol : String
  decimals : UInt8
  provenance : TokenProvenance
  deriving DecidableEq

structure NearTokenRegistry where
  byAssetId : BTreeMap String TokenMeta

def NearTokenRegistry.default : NearTokenRegistry := ⟨BTreeMap.empty⟩

/-- The layers of a request.  The global one is empty. -/
def requestLayers (request : Option NearTokenRegistry) : LayeredRegistry NearTokenRegistry :=
  ⟨request, NearTokenRegistry.default⟩

/-- What a request says about an asset. -/
def findInRequest (request : Option NearTokenRegistry) (assetId : String) : Option TokenMeta :=
  request.bind fun registry => registry.byAssetId.get assetId

theorem lookup_requestLayers (request : Option NearTokenRegistry) (assetId : String) :
    ((requestLayers request).lookup fun layer => layer.byAssetId.get assetId) =
      findInRequest request assetId := by
  change ((findInRequest request assetId).orElse fun _ => none) = _
  cases findInRequest request assetId <;> rfl

def seeds : List (String × String × UInt8) :=
  [("nep141:wrap.near", "wNEAR", 24),
    ("nep141:a0b86991c6218b36c1d19d4a2e9eb0ce3606eb48.factory.bridge.near", "USDC.e", 6),
    ("nep141:dac17f958d2ee523a2206206994597c13d831ec7.factory.bridge.near", "USDT.e", 6),
    ("nep141:eth.bridge.near", "ETH.e", 18),
    ("nep141:eth.omft.near", "ETH", 18),
    ("nep141:sol.omft.near", "SOL", 9),
    ("nep141:btc.omft.near", "BTC", 8),
    ("nep141:nbtc.bridge.near", "NBTC", 8),
    ("nep141:pol.omft.near", "POL", 18),
    ("nep141:base.omft.near", "ETH.base", 18),
    ("nep141:arb.omft.near", "ETH.arb", 18),
    ("nep141:eth-0xa0b86991c6218b36c1d19d4a2e9eb0ce3606eb48.omft.near", "USDC", 6),
    ("nep141:sol-5ce3bf3a31af18be40ba30f721101b4341690186.omft.near", "USDC.sol", 6),
    ("nep141:sol-c800a4bd850783ccb82c2b2c7e84175443606352.omft.near", "USDT.sol", 6),
    ("nep141:eth-0xdac17f958d2ee523a2206206994597c13d831ec7.omft.near", "USDT", 6)]

def findSeed (assetId : String) : Option (String × String × UInt8) :=
  seeds.find? fun seed => seed.1 = assetId

/-- Every seeded asset has a symbol of its own. -/
theorem seeds_symbol_injective : ∀ left ∈ seeds, ∀ right ∈ seeds,
    left.2.1 = right.2.1 → left = right := by decide

def maxDecimals : UInt8 := 38

/-- The power of ten fits 128 bits. -/
def usable (found : TokenMeta) : Option TokenMeta :=
  if found.decimals ≤ maxDecimals then some found else none

def intentsReceiver : String := "intents.near"

/-- `str::split_once` at a character. -/
def splitOnce (separator : Char) (text : String) : Option (String × String) :=
  match text.toList.dropWhile (· ≠ separator) with
  | [] => none
  | _ :: rest =>
      some (String.ofList (text.toList.takeWhile (· ≠ separator)), String.ofList rest)

theorem splitOnce_eq_some {separator : Char} {text head rest : String}
    (hhead : separator ∉ head.toList)
    (htext : text.toList = head.toList ++ separator :: rest.toList) :
    splitOnce separator text = some (head, rest) := by
  have hother : ∀ char ∈ head.toList, decide (char ≠ separator) = true := by
    intro char hchar
    rw [decide_eq_true_eq]
    exact ne_of_mem_of_not_mem hchar hhead
  rw [splitOnce, htext, List.dropWhile_append_of_pos hother, List.takeWhile_append_of_pos hother]
  simp

section Resolution

-- Whether a text parses as a `TokenId` of the fungible kind.
variable (isNep141 : String → Bool)

def mtUnderlyingNep141 (assetId : String) : Option String :=
  (Text.stripStart "nep245:" assetId).bind fun rest =>
    (splitOnce ':' rest).bind fun parts =>
      if parts.1 = intentsReceiver && isNep141 parts.2 then some parts.2 else none

theorem length_splitOnce {separator : Char} {text : String} {parts : String × String}
    (hparts : splitOnce separator text = some parts) :
    parts.2.toList.length < text.toList.length := by
  rw [splitOnce] at hparts
  cases hrest : text.toList.dropWhile (· ≠ separator) with
  | nil =>
      rw [hrest] at hparts
      cases hparts
  | cons char rest =>
      have hle := (List.dropWhile_sublist (l := text.toList) (· ≠ separator)).length_le
      rw [hrest] at hparts hle
      rw [← Option.some.inj hparts, String.toList_ofList]
      exact hle

variable {isNep141} in
/-- The asset behind a multi-token has a shorter id. -/
theorem length_mtUnderlyingNep141 {assetId inner : String}
    (hinner : mtUnderlyingNep141 isNep141 assetId = some inner) :
    inner.toList.length < assetId.toList.length := by
  obtain ⟨rest, hrest, hinner⟩ := Option.bind_eq_some_iff.1 hinner
  obtain ⟨parts, hparts, hinner⟩ := Option.bind_eq_some_iff.1 hinner
  split_ifs at hinner
  have hle : rest.toList.length ≤ assetId.toList.length := by
    rw [Text.stripStart] at hrest
    split_ifs at hrest
    rw [← Option.some.inj hrest, String.toList_ofList, List.length_drop]
    exact Nat.sub_le ..
  rw [← Option.some.inj hinner]
  exact (length_splitOnce hparts).trans_le hle

/-- What passes from the asset behind a multi-token to the multi-token holds of
every asset. -/
theorem underlying_induction {property : String → Prop}
    (hstep : ∀ assetId, (∀ inner, mtUnderlyingNep141 isNep141 assetId = some inner →
      property inner) → property assetId) (assetId : String) : property assetId := by
  induction hlength : assetId.toList.length using Nat.strong_induction_on generalizing assetId with
  | _ length ih =>
      apply hstep
      intro inner hinner
      have hlt := length_mtUnderlyingNep141 hinner
      exact ih inner.toList.length (hlength ▸ hlt) inner rfl

def seededDecimals (assetId : String) : Option UInt8 :=
  match findSeed assetId with
  | some seed => some seed.2.2
  | none =>
      match _hinner : mtUnderlyingNep141 isNep141 assetId with
      | some inner => seededDecimals inner
      | none => none
termination_by assetId.toList.length
decreasing_by exact length_mtUnderlyingNep141 _hinner

/-- The metadata of a seed. -/
def seedMeta (assetId : String) : Option TokenMeta :=
  (findSeed assetId).bind fun seed => usable ⟨seed.2.1, seed.2.2, .seed⟩

def resolve (registry : LayeredRegistry NearTokenRegistry) (assetId : String) :
    Option TokenMeta :=
  match registry.lookup fun layer => layer.byAssetId.get assetId with
  | some found => usable found
  | none =>
      match seedMeta assetId with
      | some found => some found
      | none =>
          match _hinner : mtUnderlyingNep141 isNep141 assetId with
          | some inner => resolve registry inner
          | none => none
termination_by assetId.toList.length
decreasing_by exact length_mtUnderlyingNep141 _hinner

theorem seededDecimals_eq (assetId : String) :
    seededDecimals isNep141 assetId =
      ((findSeed assetId).map fun seed => seed.2.2).or
        ((mtUnderlyingNep141 isNep141 assetId).bind (seededDecimals isNep141)) := by
  rw [seededDecimals]
  cases findSeed assetId with
  | some seed => rfl
  | none =>
      dsimp only
      split
      · next inner hinner => rw [hinner]; rfl
      · next hinner => rw [hinner]; rfl

theorem resolve_eq (registry : LayeredRegistry NearTokenRegistry) (assetId : String) :
    resolve isNep141 registry assetId =
      match registry.lookup fun layer => layer.byAssetId.get assetId with
      | some found => usable found
      | none => (seedMeta assetId).or
          ((mtUnderlyingNep141 isNep141 assetId).bind (resolve isNep141 registry)) := by
  rw [resolve]
  cases registry.lookup fun layer => layer.byAssetId.get assetId with
  | some found => rfl
  | none =>
      dsimp only
      cases seedMeta assetId with
      | some found => rfl
      | none =>
          dsimp only
          split
          · next inner hinner => rw [hinner]; rfl
          · next hinner => rw [hinner]; rfl

/-- Every seed can be scaled. -/
theorem findSeed_of_seedMeta {assetId : String} (hseed : seedMeta assetId = none) :
    findSeed assetId = none := by
  have husable : ∀ seed ∈ seeds, (usable ⟨seed.2.1, seed.2.2, .seed⟩).isSome = true := by decide
  cases hfind : findSeed assetId with
  | none => rfl
  | some seed =>
      have hsome := husable seed (List.mem_of_find?_eq_some hfind)
      rw [seedMeta, hfind, Option.bind_some] at hseed
      rw [hseed] at hsome
      cases hsome

/-- The assets with seeded decimals are closed under the multi-token form. -/
theorem seededDecimals_inner {assetId inner : String}
    (hseeded : (seededDecimals isNep141 assetId).isSome = true)
    (hfind : findSeed assetId = none) (hinner : mtUnderlyingNep141 isNep141 assetId = some inner) :
    (seededDecimals isNep141 inner).isSome = true := by
  rw [seededDecimals_eq, hfind, hinner] at hseeded
  exact hseeded

/-- Registries that agree on the seeded assets resolve these alike. -/
theorem resolve_congr {left right : LayeredRegistry NearTokenRegistry}
    (hlookup : ∀ assetId, (seededDecimals isNep141 assetId).isSome = true →
      (left.lookup fun layer => layer.byAssetId.get assetId) =
        right.lookup fun layer => layer.byAssetId.get assetId)
    (assetId : String) (hseeded : (seededDecimals isNep141 assetId).isSome = true) :
    resolve isNep141 left assetId = resolve isNep141 right assetId := by
  induction assetId using (underlying_induction isNep141) with
  | hstep assetId ih =>
      rw [resolve_eq, resolve_eq, hlookup assetId hseeded]
      cases right.lookup fun layer => layer.byAssetId.get assetId with
      | some found => rfl
      | none =>
          dsimp only
          cases hseed : seedMeta assetId with
          | some found => rfl
          | none =>
              cases hinner : mtUnderlyingNep141 isNep141 assetId with
              | none => rfl
              | some inner =>
                  have hnext := seededDecimals_inner isNep141 hseeded
                    (findSeed_of_seedMeta hseed) hinner
                  rw [Option.none_or, Option.none_or, Option.bind_some, Option.bind_some]
                  exact ih inner hinner hnext

end Resolution

def formatUnits (units : ℕ) (decimals : UInt8) : String :=
  Decimal.trimmedText units decimals.toNat

end VisualSignParser.Near
