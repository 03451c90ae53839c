import VisualSignParser.Ethereum.RouterInputs

/-!
# Paths of V3 swaps

A packed path alternates tokens and the fees of the pools between them.  Only its
ends are read: the outer tokens, the outer fees and the number of hops.  An
exact-output swap has its path reversed, and its ends are read in reverse too, so
both kinds of swap show the same route.
-/

namespace VisualSignParser.Ethereum.UniversalRouter

open VisualSignParser.Framing
open VisualSignParser.Abi
open VisualSignParser.VisualSign

/-! ## Packed paths -/

/-- Tokens with the fees between them. -/
def packRoute : List Address → List (BitVec 24) → Bytes
  | [], _ => []
  | token :: _, [] => token.val
  | token :: tokens, fee :: fees => token.val ++ (beBytes 3 fee.toNat ++ packRoute tokens fees)

/-- One token more than fees, and at least one fee. -/
structure V3Path where
  tokens : List Address
  fees : List (BitVec 24)
  length_tokens : tokens.length = fees.length + 1
  fees_ne_nil : fees ≠ []

namespace V3Path

variable (path : V3Path)

theorem tokens_ne_nil : path.tokens ≠ [] := by
  intro hnil
  have hlength := path.length_tokens
  rw [hnil] at hlength
  exact absurd hlength (Nat.zero_ne_add_one _)

def first : Address := path.tokens.head path.tokens_ne_nil

def last : Address := path.tokens.getLast path.tokens_ne_nil

def firstFee : BitVec 24 := path.fees.head path.fees_ne_nil

def lastFee : BitVec 24 := path.fees.getLast path.fees_ne_nil

def hops : ℕ := path.fees.length

def pack : Bytes := packRoute path.tokens path.fees

/-- The same pools in the other direction. -/
def reverse : V3Path where
  tokens := path.tokens.reverse
  fees := path.fees.reverse
  length_tokens := by
    rw [List.length_reverse, List.length_reverse, path.length_tokens]
  fees_ne_nil := List.reverse_ne_nil_iff.2 path.fees_ne_nil

@[simp]
theorem first_reverse : path.reverse.first = path.last :=
  List.head_reverse _

@[simp]
theorem last_reverse : path.reverse.last = path.first :=
  List.getLast_reverse _

@[simp]
theorem lastFee_reverse : path.reverse.lastFee = path.firstFee :=
  List.getLast_reverse _

@[simp]
theorem hops_reverse : path.reverse.hops = path.hops :=
  List.length_reverse

end V3Path

/-- A packed route has twenty bytes for its first token and twenty-three for each
hop behind it. -/
theorem length_packRoute {tokens : List Address} {fees : List (BitVec 24)}
    (hlength : tokens.length = fees.length + 1) :
    (packRoute tokens fees).length = 20 + 23 * fees.length := by
  induction fees generalizing tokens with
  | nil =>
      obtain ⟨token, rfl⟩ := List.length_eq_one_iff.1 hlength
      exact token.2
  | cons fee fees ih =>
      cases tokens with
      | nil => cases hlength
      | cons token tokens =>
          have hrest := @ih tokens (Nat.succ.inj hlength)
          rw [packRoute, List.length_append, List.length_append, hrest, token.2, length_beBytes,
            List.length_cons]
          omega

theorem packRoute_concat {tokens : List Address} {fees : List (BitVec 24)}
    (hlength : tokens.length = fees.length + 1) (token : Address) (fee : BitVec 24) :
    packRoute (tokens ++ [token]) (fees ++ [fee]) =
      packRoute tokens fees ++ (beBytes 3 fee.toNat ++ token.val) := by
  induction fees generalizing tokens with
  | nil =>
      obtain ⟨first, rfl⟩ := List.length_eq_one_iff.1 hlength
      rfl
  | cons firstFee fees ih =>
      cases tokens with
      | nil => cases hlength
      | cons first tokens =>
          have hrest := @ih tokens (Nat.succ.inj hlength)
          rw [List.cons_append, List.cons_append, packRoute, hrest, packRoute]
          simp only [List.append_assoc]

theorem ofBeBytes_fee (fee : BitVec 24) : ofBeBytes (beBytes 3 fee.toNat) = fee.toNat :=
  ofBeBytes_beBytes fee.isLt

/-- The front of a packed path. -/
theorem front_pack (path : V3Path) :
    path.pack.take 20 = path.first.val ∧
      (path.pack.drop 20).take 3 = beBytes 3 path.firstFee.toNat := by
  obtain ⟨tokens, fees, hlength, hfees⟩ := path
  cases fees with
  | nil => exact absurd rfl hfees
  | cons fee fees =>
      cases tokens with
      | nil => cases hlength
      | cons token tokens =>
          change (token.val ++ (beBytes 3 fee.toNat ++ packRoute tokens fees)).take 20 = token.val ∧
            ((token.val ++ (beBytes 3 fee.toNat ++ packRoute tokens fees)).drop 20).take 3 =
              beBytes 3 fee.toNat
          rw [List.take_left' token.2, List.drop_left' token.2,
            List.take_left' (length_beBytes 3 _)]
          exact ⟨rfl, rfl⟩

/-- The back of a packed path. -/
theorem back_pack (path : V3Path) :
    path.pack.drop (path.pack.length - 20) = path.last.val ∧
      (path.pack.drop (path.pack.length - 23)).take 3 = beBytes 3 path.lastFee.toNat := by
  obtain ⟨tokens, fees, hlength, hfees⟩ := path
  rcases List.eq_nil_or_concat' fees with rfl | ⟨frontFees, fee, rfl⟩
  · exact absurd rfl hfees
  rcases List.eq_nil_or_concat' tokens with rfl | ⟨frontTokens, token, rfl⟩
  · cases hlength
  have hfront : frontTokens.length = frontFees.length + 1 := by
    simpa using hlength
  have hpack : packRoute (frontTokens ++ [token]) (frontFees ++ [fee]) =
      packRoute frontTokens frontFees ++ (beBytes 3 fee.toNat ++ token.val) :=
    packRoute_concat hfront token fee
  have htotal : (packRoute frontTokens frontFees ++ (beBytes 3 fee.toNat ++ token.val)).length =
      (packRoute frontTokens frontFees).length + 23 := by
    rw [List.length_append, List.length_append, length_beBytes, token.2]
  simp only [V3Path.pack, V3Path.last, V3Path.lastFee, List.getLast_concat]
  rw [hpack, htotal, Nat.add_sub_cancel, List.drop_left]
  constructor
  · rw [← List.append_assoc, List.drop_left']
    rw [List.length_append, length_beBytes]
    omega
  · rw [List.take_left' (length_beBytes 3 _)]

theorem length_pack (path : V3Path) : path.pack.length = 20 + 23 * path.hops :=
  length_packRoute path.length_tokens

theorem hops_pos (path : V3Path) : 1 ≤ path.hops :=
  List.length_pos_iff.2 path.fees_ne_nil

/-- A packed path is decoded to its ends, its outer fees and its number of hops; the
tokens in between are not kept. -/
theorem decodeV3Path_pack (path : V3Path) :
    decodeV3Path path.pack = some (path.first, path.last, path.firstFee.toNat,
      path.lastFee.toNat, path.hops) := by
  have hlength := length_pack path
  have hpos := hops_pos path
  obtain ⟨hfirst, hfirstFee⟩ := front_pack path
  obtain ⟨hlast, hlastFee⟩ := back_pack path
  have hhops : (path.pack.length - 20) / 23 = path.hops := by omega
  rw [decodeV3Path, dif_neg (by omega), Option.some.injEq]
  simp only [hfirst, hlast, hfirstFee, hlastFee, ofBeBytes_fee, hhops]

/-- A path is refused exactly if its length is not that of a route with at least one
hop. -/
theorem decodeV3Path_eq_none_iff (path : Bytes) :
    decodeV3Path path = none ↔ ¬ ∃ hops, 1 ≤ hops ∧ path.length = 20 + 23 * hops := by
  rw [decodeV3Path]
  split_ifs with hpath
  · refine iff_of_true rfl ?_
    rintro ⟨hops, hpos, hlength⟩
    omega
  · refine iff_of_false nofun (not_not.2 ⟨(path.length - 20) / 23, ?_⟩)
    omega

/-! ## What the swaps show -/

/-- The texts of the rows with a label. -/
def rowTexts (label : String) (field : SignablePayloadField) : List String :=
  ((expandedFields field).filter fun row =>
    row.signablePayloadField.common.label = label).map fun row =>
      row.signablePayloadField.common.fallbackText

/-- The field of a swap from one token to the other over so many hops, of which the
first has the given fee. -/
structure ShowsRoute (field : SignablePayloadField) (inputToken outputToken firstFee : String)
    (hops : ℕ) : Prop where
  inputToken : rowTexts "Input Token" field = [inputToken]
  outputToken : rowTexts "Output Token" field = [outputToken]
  fee : rowTexts "Fee Tier" field = [firstFee ++ "%"]
  route : ∃ amounts, field.common.fallbackText = amounts ++ v3Route hops firstFee

section Swaps

variable (formats : Formats) (chainId : ChainId) (registry : Option ContractRegistry)

theorem showsRoute_exactIn (path : V3Path) {input : Bytes} {recipient : Address}
    {amountIn amountOutMin : BitVec 256} {payer : Bool}
    (hread : decodeSequence V3SwapParams.read input =
      some (recipient, amountIn, amountOutMin, path.pack, payer)) :
    ShowsRoute (decodeV3SwapExactIn formats chainId registry input)
      (tokenSymbol formats registry chainId path.first)
      (tokenSymbol formats registry chainId path.last)
      (formats.quotientText path.firstFee.toNat 10000 none) path.hops := by
  simp only [decodeV3SwapExactIn, hread, decodeV3Path_pack]
  exact ⟨rfl, rfl, rfl, _, rfl⟩

theorem showsRoute_exactOut (path : V3Path) {input : Bytes} {recipient : Address}
    {amountOut amountInMax : BitVec 256} {payer : Bool}
    (hread : decodeSequence V3SwapParams.read input =
      some (recipient, amountOut, amountInMax, path.pack, payer)) :
    ShowsRoute (decodeV3SwapExactOut formats chainId registry input)
      (tokenSymbol formats registry chainId path.last)
      (tokenSymbol formats registry chainId path.first)
      (formats.quotientText path.lastFee.toNat 10000 none) path.hops := by
  simp only [decodeV3SwapExactOut, hread, decodeV3Path_pack]
  exact ⟨rfl, rfl, rfl, _, rfl⟩

/-- Inputs of an exact-input swap over a path and of an exact-output swap over the
reversed path show the same route. -/
def SwapsAlike (path : V3Path) : Prop :=
  ∀ exactIn exactOut recipientIn recipientOut (amountsIn amountsOut : BitVec 256 × BitVec 256)
    payerIn payerOut,
    decodeSequence V3SwapParams.read exactIn =
      some (recipientIn, amountsIn.1, amountsIn.2, path.pack, payerIn) →
    decodeSequence V3SwapParams.read exactOut =
      some (recipientOut, amountsOut.1, amountsOut.2, path.reverse.pack, payerOut) →
    ∃ inputToken outputToken firstFee,
      ShowsRoute (decodeV3SwapExactIn formats chainId registry exactIn) inputToken outputToken
        firstFee path.hops ∧
      ShowsRoute (decodeV3SwapExactOut formats chainId registry exactOut) inputToken outputToken
        firstFee path.hops

end Swaps

/-- The ends of a packed path are read, every other byte string is refused by its
length, and both kinds of swap show the same route. -/
theorem v3Path_decoded (formats : Formats) (chainId : ChainId)
    (registry : Option ContractRegistry) :
    (∀ path : V3Path, decodeV3Path path.pack = some (path.first, path.last,
      path.firstFee.toNat, path.lastFee.toNat, path.hops)) ∧
    (∀ path : Bytes, decodeV3Path path = none ↔
      ¬ ∃ hops, 1 ≤ hops ∧ path.length = 20 + 23 * hops) ∧
    ∀ path, SwapsAlike formats chainId registry path := by
  refine ⟨decodeV3Path_pack, decodeV3Path_eq_none_iff, fun path => ?_⟩
  intro exactIn exactOut _ _ _ _ _ _ hexactIn hexactOut
  have hreversed := showsRoute_exactOut formats chainId registry path.reverse hexactOut
  rw [V3Path.last_reverse, V3Path.first_reverse, V3Path.lastFee_reverse, V3Path.hops_reverse]
    at hreversed
  exact ⟨_, _, _, showsRoute_exactIn formats chainId registry path hexactIn, hreversed⟩

/-- Calldata words in front of a path of two hops. -/
def twoHopInput (path : V3Path) : Bytes :=
  beBytes 32 1 ++ beBytes 32 1000 ++ beBytes 32 900 ++ beBytes 32 0xa0 ++ beBytes 32 1 ++
    beBytes 32 66 ++ (path.pack ++ List.replicate 30 0)

/-- From token 1 over token 2 to token 3. -/
def twoHopPath : V3Path := ⟨[addressOf 1, addressOf 2, addressOf 3], [500, 3000], rfl, nofun⟩

example : ∃ inputToken outputToken firstFee,
    ShowsRoute (decodeV3SwapExactIn plainFormats 1 none (twoHopInput twoHopPath)) inputToken
      outputToken firstFee 2 := by
  have hread : decodeSequence V3SwapParams.read (twoHopInput twoHopPath) =
      some (addressOf 1, 1000, 900, twoHopPath.pack, true) := by decide +kernel
  exact ⟨_, _, _, showsRoute_exactIn plainFormats 1 none twoHopPath hread⟩

end VisualSignParser.Ethereum.UniversalRouter
