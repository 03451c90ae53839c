import VisualSignParser.Codec.Decimal
import VisualSignParser.Sui.Coins

/-!
# Swaps

The swaps of two exchanges are shown from their decoded arguments and from the coins of
their type arguments.  Two calls of a function that are shown alike need not be the same
trade: what a handler leaves out is not on the display.
-/

namespace VisualSignParser.Sui

open VisualSignParser.Outcome
open VisualSignParser.VisualSign

/-! ## Positions of arguments -/

/-- The positions of the arguments of a pool's swap. -/
structure SwapIndexes where
  byAmountIn : ℕ
  amount : ℕ
  amountLimit : ℕ
  sqrtPriceLimit : ℕ

def poolScriptSwapA2BIndexes : SwapIndexes := ⟨3, 4, 5, 6⟩

def poolScriptSwapB2AIndexes : SwapIndexes := ⟨3, 4, 5, 6⟩

def poolScriptSwapA2BWithPartnerIndexes : SwapIndexes := ⟨4, 5, 6, 7⟩

def poolScriptSwapB2AWithPartnerIndexes : SwapIndexes := ⟨4, 5, 6, 7⟩

def swapA2BIndexes : SwapIndexes := ⟨4, 5, 6, 7⟩

def swapB2AIndexes : SwapIndexes := ⟨4, 5, 6, 7⟩

def swapA2BWithPartnerIndexes : SwapIndexes := ⟨5, 6, 7, 8⟩

def swapB2AWithPartnerIndexes : SwapIndexes := ⟨5, 6, 7, 8⟩

/-! ## Rows -/

structure SwapLabels where
  primaryLabel : String
  primarySymbol : String
  limitLabel : String
  limitSymbol : String

def determineInputOutputCoins (isA2b : Bool) (call : SuiProgrammableMoveCall) :
    SuiCoin × SuiCoin :=
  if isA2b then (coinArg call.typeArguments 0, coinArg call.typeArguments 1)
  else (coinArg call.typeArguments 1, coinArg call.typeArguments 0)

def determinePrimaryLimitLabels (inputCoin outputCoin : SuiCoin) (byAmountIn : Bool) :
    SwapLabels :=
  if byAmountIn then
    ⟨"Amount In", inputCoin.baseUnitSymbol, "Min Out", outputCoin.baseUnitSymbol⟩
  else ⟨"Amount Out", outputCoin.baseUnitSymbol, "Max In", inputCoin.baseUnitSymbol⟩

def priceLimitText (sqrtPriceLimit : BitVec 128) : String :=
  if sqrtPriceLimit = 0 then "None" else toString sqrtPriceLimit.toNat

def userField (context : VisualizerContext) : AnnotatedPayloadField :=
  createAddressField "User Address" (SuiAddress.display context.sender) none none none none

def poolField (pool : ObjectID) : AnnotatedPayloadField :=
  createAddressField "Pool Address" pool.display none none none none

def fromSubtitle (context : VisualizerContext) : String :=
  "From " ++ truncateAddress (SuiAddress.display context.sender)

/-- The rows of the amounts, of the coins and of the price limit. -/
def swapRows (inputCoin outputCoin : SuiCoin) (byAmountIn : Bool) (amount amountLimit : BitVec 64)
    (sqrtPriceLimit : BitVec 128) : Except VisualSignError (List AnnotatedPayloadField) := do
  let labels := determinePrimaryLimitLabels inputCoin outputCoin byAmountIn
  let amountField ← createAmountField labels.primaryLabel (toString amount.toNat)
    labels.primarySymbol
  let limitField ← createAmountField labels.limitLabel (toString amountLimit.toNat)
    labels.limitSymbol
  pure [amountField, createTextField "Input Coin" inputCoin.display, limitField,
    createTextField "Output Coin" outputCoin.display,
    createTextField "Sqrt Price Limit" (priceLimitText sqrtPriceLimit)]

def swapTitle (amount : BitVec 64) (inputCoin outputCoin : SuiCoin) : String :=
  "CetusAMM Swap: " ++ toString amount.toNat ++ " From " ++ inputCoin.baseUnitSymbol ++ " To " ++
    outputCoin.baseUnitSymbol

/-- The summary up to the limit. -/
def swapSummary (inputCoin outputCoin : SuiCoin) (byAmountIn : Bool) (amountLimit : BitVec 64) :
    String :=
  "Swap " ++ inputCoin.baseUnitSymbol ++ " to " ++ outputCoin.baseUnitSymbol ++ " (" ++
    (determinePrimaryLimitLabels inputCoin outputCoin byAmountIn).limitLabel ++ ": " ++
    toString amountLimit.toNat ++ " " ++
    (if byAmountIn then outputCoin.baseUnitSymbol else inputCoin.baseUnitSymbol)

/-! ## Handlers -/

section Handlers

variable (toMoveValue : Json.Value → NumberType → Except String MoveValue)
variable (context : VisualizerContext) (call : SuiProgrammableMoveCall)

def renderSwapFields (byAmountIn : Bool) (amount amountLimit : BitVec 64) (isA2b : Bool)
    (sqrtPriceLimit : BitVec 128) : Except VisualSignError (List AnnotatedPayloadField) := do
  let (inputCoin, outputCoin) := determineInputOutputCoins isA2b call
  let pool ← getObjectValue call.arguments context.inputs 1
  let rows ← swapRows inputCoin outputCoin byAmountIn amount amountLimit sqrtPriceLimit
  pure [titledPreview "CetusAMM Swap Command" (swapTitle amount inputCoin outputCoin)
    (fromSubtitle context)
    [createTextField "Summary" (swapSummary inputCoin outputCoin byAmountIn amountLimit ++ ")")]
    (poolField pool :: userField context :: rows)]

/-- A getter at the arguments of the call. -/
def getParam (param : String) (type : NumberType) (position : ℕ) :
    Except VisualSignError type.Value :=
  getArgument toMoveValue param type position context.inputs call.arguments

/-- The arguments at the positions, rendered. -/
def handleSwap (indexes : SwapIndexes) (isA2b : Bool) :
    Except VisualSignError (List AnnotatedPayloadField) := do
  let byAmountIn ← getParam toMoveValue context call "by_amount_in" .bool indexes.byAmountIn
  let amount ← getParam toMoveValue context call "amount" .u64 indexes.amount
  let amountLimit ← getParam toMoveValue context call "amount_limit" .u64 indexes.amountLimit
  let sqrtPriceLimit ← getParam toMoveValue context call "sqrt_price_limit" .u128
    indexes.sqrtPriceLimit
  renderSwapFields context call byAmountIn amount amountLimit isA2b sqrtPriceLimit

def handleSwapV2 (isA2b : Bool) : Except VisualSignError (List AnnotatedPayloadField) :=
  handleSwap toMoveValue context call (if isA2b then swapA2BIndexes else swapB2AIndexes) isA2b

def handleSwapV2WithPartner (isA2b : Bool) :
    Except VisualSignError (List AnnotatedPayloadField) :=
  handleSwap toMoveValue context call
    (if isA2b then swapA2BWithPartnerIndexes else swapB2AWithPartnerIndexes) isA2b

def handleSwapPoolScript (isA2b : Bool) : Except VisualSignError (List AnnotatedPayloadField) :=
  handleSwap toMoveValue context call
    (if isA2b then poolScriptSwapA2BIndexes else poolScriptSwapB2AIndexes) isA2b

def handleSwapPoolScriptWithPartner (isA2b : Bool) :
    Except VisualSignError (List AnnotatedPayloadField) :=
  handleSwap toMoveValue context call
    (if isA2b then poolScriptSwapA2BWithPartnerIndexes else poolScriptSwapB2AWithPartnerIndexes)
    isA2b

/-- The router takes no limit of the amount; a zero is shown in its place. -/
def handleRouterSwap : Except VisualSignError (List AnnotatedPayloadField) := do
  let isA2b ← getParam toMoveValue context call "is_a2b" .bool 4
  let byAmountIn ← getParam toMoveValue context call "by_amount_in" .bool 5
  let amount ← getParam toMoveValue context call "amount" .u64 6
  let amountLimit : BitVec 64 := 0
  let sqrtPriceLimit ← getParam toMoveValue context call "sqrt_price_limit" .u128 7
  let useAllCoin ← getParam toMoveValue context call "use_all_coin" .bool 8
  let (inputCoin, outputCoin) := determineInputOutputCoins isA2b call
  let rows ← swapRows inputCoin outputCoin byAmountIn amount amountLimit sqrtPriceLimit
  let priceHint := if sqrtPriceLimit = 0 then "none" else "set"
  pure [titledPreview "CetusAMM Swap Command" (swapTitle amount inputCoin outputCoin)
    (fromSubtitle context)
    [createTextField "Summary" (swapSummary inputCoin outputCoin byAmountIn amountLimit ++
      ", Price Limit: " ++ priceHint ++ ")")]
    (userField context :: rows ++ [createTextField "Use All Coin" (toString useAllCoin)])]

/-- Of the four numbers that the configuration lists, only the last one is read. -/
def handleTradeFlashSwap : Except VisualSignError (List AnnotatedPayloadField) := do
  let coin1 := coinArg call.typeArguments 0
  let coin2 := coinArg call.typeArguments 1
  let pool ← getObjectValue call.arguments context.inputs 0
  let sqrtPriceLimit ← getParam toMoveValue context call "sqrt_price_limit" .u128 4
  pure [titledPreview "Momentum Flash Swap Command" "Momentum Flash Swap" (fromSubtitle context)
    [createTextField "Summary" ("Flash swap in pool " ++ coin1.symbol ++ "/" ++ coin2.symbol)]
    [poolField pool, userField context, createTextField "Pool Coin A" coin1.display,
      createTextField "Pool Coin B" coin2.display,
      createTextField "Sqrt Price Limit" (priceLimitText sqrtPriceLimit)]]

/-! ## Dispatch -/

/-- `CetusVisualizer`, up to the handlers of the functions that are no swaps. -/
def cetusVisualize
    (others : SuiProgrammableMoveCall → Except VisualSignError (List AnnotatedPayloadField)) :
    Except VisualSignError (List AnnotatedPayloadField) :=
  match context.commands[context.commandIndex]? with
  | some (.moveCall call) => match call.module, call.function with
    | "pool_script", "swap_a2b" => handleSwapPoolScript toMoveValue context call true
    | "pool_script", "swap_b2a" => handleSwapPoolScript toMoveValue context call false
    | "pool_script", "swap_a2b_with_partner" =>
        handleSwapPoolScriptWithPartner toMoveValue context call true
    | "pool_script", "swap_b2a_with_partner" =>
        handleSwapPoolScriptWithPartner toMoveValue context call false
    | "pool_script_v2", "swap_b2a" => handleSwapV2 toMoveValue context call false
    | "pool_script_v2", "swap_a2b" => handleSwapV2 toMoveValue context call true
    | "pool_script_v2", "swap_a2b_with_partner" =>
        handleSwapV2WithPartner toMoveValue context call true
    | "pool_script_v2", "swap_b2a_with_partner" =>
        handleSwapV2WithPartner toMoveValue context call false
    | "router", "swap" => handleRouterSwap toMoveValue context call
    | _, _ => others call
  | _ => .error (.missingData "Expected a `MoveCall` for Cetus parsing")

/-- `MomentumVisualizer`, up to the handlers of the functions that are no swaps. -/
def momentumVisualize
    (others : SuiProgrammableMoveCall → Except VisualSignError (List AnnotatedPayloadField)) :
    Except VisualSignError (List AnnotatedPayloadField) :=
  match context.commands[context.commandIndex]? with
  | some (.moveCall call) => match call.module, call.function with
    | "trade", "flash_swap" => handleTradeFlashSwap toMoveValue context call
    | _, _ => others call
  | _ => .error (.missingData "Expected a `MoveCall` for Momentum parsing")

end Handlers

/-! ## Rows that are shown -/

/-- A number with a symbol. -/
def amountRow (label : String) (amount : ℕ) (symbol : String) : AnnotatedPayloadField :=
  annotateField (.amountV2 ⟨toString amount ++ " " ++ symbol, label⟩
    ⟨toString amount, some symbol⟩)

def shownRows (inputCoin outputCoin : SuiCoin) (byAmountIn : Bool) (amount amountLimit : BitVec 64)
    (sqrtPriceLimit : BitVec 128) : List AnnotatedPayloadField :=
  let labels := determinePrimaryLimitLabels inputCoin outputCoin byAmountIn
  [amountRow labels.primaryLabel amount.toNat labels.primarySymbol,
    createTextField "Input Coin" inputCoin.display,
    amountRow labels.limitLabel amountLimit.toNat labels.limitSymbol,
    createTextField "Output Coin" outputCoin.display,
    createTextField "Sqrt Price Limit" (priceLimitText sqrtPriceLimit)]

theorem createAmountField_eq_ok {label symbol : String} {amount : ℕ}
    {field : AnnotatedPayloadField} :
    createAmountField label (toString amount) symbol = .ok field ↔
      symbol ≠ "" ∧ amountRow label amount symbol = field := by
  by_cases hsymbol : symbol = ""
  · rw [createAmountField, validateNumberString_toString, hsymbol]
    simp [bind, Except.bind]
  · rw [createAmountField_eq label (validateNumberString_toString amount) hsymbol]
    simp [hsymbol, amountRow]

variable {inputCoin outputCoin otherInput otherOutput : SuiCoin} {byAmountIn otherExact : Bool}
variable {amount amountLimit otherAmount otherLimit : BitVec 64}
variable {sqrtPriceLimit otherPrice : BitVec 128} {rows : List AnnotatedPayloadField}

theorem symbols_ne_empty (byAmountIn : Bool) :
    ((determinePrimaryLimitLabels inputCoin outputCoin byAmountIn).primarySymbol ≠ "" ∧
      (determinePrimaryLimitLabels inputCoin outputCoin byAmountIn).limitSymbol ≠ "") ↔
        inputCoin.symbol ≠ "" ∧ outputCoin.symbol ≠ "" := by
  rw [← SuiCoin.baseUnitSymbol_ne_empty, ← SuiCoin.baseUnitSymbol_ne_empty]
  cases byAmountIn with
  | false => exact and_comm
  | true => rfl

/-- The rows are shown if both coins have a symbol. -/
theorem swapRows_eq_ok :
    swapRows inputCoin outputCoin byAmountIn amount amountLimit sqrtPriceLimit = .ok rows ↔
      (inputCoin.symbol ≠ "" ∧ outputCoin.symbol ≠ "") ∧
        shownRows inputCoin outputCoin byAmountIn amount amountLimit sqrtPriceLimit = rows := by
  rw [← symbols_ne_empty byAmountIn]
  simp only [swapRows, bind_eq_ok, createAmountField_eq_ok, pure_eq_ok]
  constructor
  · rintro ⟨_, ⟨hprimary, rfl⟩, _, ⟨hlimit, rfl⟩, rfl⟩
    exact ⟨⟨hprimary, hlimit⟩, rfl⟩
  · rintro ⟨⟨hprimary, hlimit⟩, rfl⟩
    exact ⟨_, ⟨hprimary, rfl⟩, _, ⟨hlimit, rfl⟩, rfl⟩

/-! ## Rows are read back -/

theorem priceLimitText_injective : Function.Injective priceLimitText := by
  have hnone (price : BitVec 128) : toString price.toNat ≠ "None" := by
    intro heq
    have hmem : 'N' ∈ Nat.toDigits 10 price.toNat := by
      rw [← Decimal.toList_toString, heq]
      decide
    exact Decimal.not_mem_toDigits (by decide) _ hmem
  intro left right heq
  simp only [priceLimitText] at heq
  split_ifs at heq with hleft hright hright
  · rw [hleft, hright]
  · exact absurd heq.symm (hnone right)
  · exact absurd heq (hnone left)
  · exact BitVec.eq_of_toNat_eq (Decimal.toString_injective heq)

theorem amountRow_inj {label other symbol another : String} {amount otherAmount : ℕ}
    (heq : amountRow label amount symbol = amountRow other otherAmount another) :
    label = other ∧ amount = otherAmount := by
  simp only [amountRow, annotateField, AnnotatedPayloadField.mk.injEq,
    SignablePayloadField.amountV2.injEq, SignablePayloadFieldCommon.mk.injEq,
    SignablePayloadFieldAmountV2.mk.injEq] at heq
  exact ⟨heq.1.1.2, Decimal.toString_injective heq.1.2.1⟩

theorem primaryLabel_inj
    (heq : (determinePrimaryLimitLabels inputCoin outputCoin byAmountIn).primaryLabel =
      (determinePrimaryLimitLabels otherInput otherOutput otherExact).primaryLabel) :
    byAmountIn = otherExact := by
  cases byAmountIn <;> cases otherExact
  · rfl
  · exact absurd heq (show "Amount Out" ≠ "Amount In" by decide)
  · exact absurd heq (show "Amount In" ≠ "Amount Out" by decide)
  · rfl

/-- Rows that are equal show the same coins, numbers and choice. -/
theorem shownRows_inj
    (heq : shownRows inputCoin outputCoin byAmountIn amount amountLimit sqrtPriceLimit =
      shownRows otherInput otherOutput otherExact otherAmount otherLimit otherPrice) :
    (inputCoin.display = otherInput.display ∧ outputCoin.display = otherOutput.display) ∧
      byAmountIn = otherExact ∧ amount = otherAmount ∧ amountLimit = otherLimit ∧
        sqrtPriceLimit = otherPrice := by
  simp only [shownRows, List.cons.injEq, and_true] at heq
  obtain ⟨hamount, hinput, hlimit, houtput, hprice⟩ := heq
  exact ⟨⟨createTextField_inj hinput, createTextField_inj houtput⟩,
    primaryLabel_inj (amountRow_inj hamount).1, BitVec.eq_of_toNat_eq (amountRow_inj hamount).2,
    BitVec.eq_of_toNat_eq (amountRow_inj hlimit).2,
    priceLimitText_injective (createTextField_inj hprice)⟩

theorem titledPreview_inj {label title subtitle other another others : String}
    {condensed expanded otherCondensed otherExpanded : List AnnotatedPayloadField}
    (heq : titledPreview label title subtitle condensed expanded =
      titledPreview other another others otherCondensed otherExpanded) :
    expanded = otherExpanded := by
  simp only [titledPreview, annotateField, AnnotatedPayloadField.mk.injEq,
    SignablePayloadField.previewLayout.injEq, SignablePayloadFieldPreviewLayout.mk.injEq,
    Option.some.injEq, SignablePayloadFieldListLayout.mk.injEq] at heq
  exact heq.1.2.2.2.2

/-! ## Displays -/

section Previews

variable {toMoveValue : Json.Value → NumberType → Except String MoveValue}
variable {context other : VisualizerContext} {call : SuiProgrammableMoveCall}
variable {fields : List AnnotatedPayloadField}

/-- The display of a pool's swap. -/
def swapPreview (context : VisualizerContext) (pool : ObjectID) (coins : SuiCoin × SuiCoin)
    (byAmountIn : Bool) (amount amountLimit : BitVec 64) (sqrtPriceLimit : BitVec 128) :
    AnnotatedPayloadField :=
  titledPreview "CetusAMM Swap Command" (swapTitle amount coins.1 coins.2) (fromSubtitle context)
    [createTextField "Summary" (swapSummary coins.1 coins.2 byAmountIn amountLimit ++ ")")]
    (poolField pool :: userField context ::
      shownRows coins.1 coins.2 byAmountIn amount amountLimit sqrtPriceLimit)

/-- The display of the router's swap. -/
def routerPreview (context : VisualizerContext) (coins : SuiCoin × SuiCoin) (byAmountIn : Bool)
    (amount : BitVec 64) (sqrtPriceLimit : BitVec 128) (useAllCoin : Bool) :
    AnnotatedPayloadField :=
  titledPreview "CetusAMM Swap Command" (swapTitle amount coins.1 coins.2) (fromSubtitle context)
    [createTextField "Summary" (swapSummary coins.1 coins.2 byAmountIn 0 ++ ", Price Limit: " ++
      (if sqrtPriceLimit = 0 then "none" else "set") ++ ")")]
    (userField context :: shownRows coins.1 coins.2 byAmountIn amount 0 sqrtPriceLimit ++
      [createTextField "Use All Coin" (toString useAllCoin)])

/-- The display of a flash swap. -/
def flashPreview (context : VisualizerContext) (pool : ObjectID) (coins : SuiCoin × SuiCoin)
    (sqrtPriceLimit : BitVec 128) : AnnotatedPayloadField :=
  titledPreview "Momentum Flash Swap Command" "Momentum Flash Swap" (fromSubtitle context)
    [createTextField "Summary"
      ("Flash swap in pool " ++ coins.1.symbol ++ "/" ++ coins.2.symbol)]
    [poolField pool, userField context, createTextField "Pool Coin A" coins.1.display,
      createTextField "Pool Coin B" coins.2.display,
      createTextField "Sqrt Price Limit" (priceLimitText sqrtPriceLimit)]

theorem renderSwapFields_eq_ok {isA2b : Bool} :
    renderSwapFields context call byAmountIn amount amountLimit isA2b sqrtPriceLimit = .ok fields ↔
      ∃ pool, getObjectValue call.arguments context.inputs 1 = .ok pool ∧
        ((determineInputOutputCoins isA2b call).1.symbol ≠ "" ∧
          (determineInputOutputCoins isA2b call).2.symbol ≠ "") ∧
        [swapPreview context pool (determineInputOutputCoins isA2b call) byAmountIn amount
          amountLimit sqrtPriceLimit] = fields := by
  simp only [renderSwapFields, bind_eq_ok, swapRows_eq_ok, pure_eq_ok]
  apply exists_congr
  intro pool
  apply and_congr_right
  intro _
  constructor
  · rintro ⟨rows, ⟨hsymbols, rfl⟩, rfl⟩
    exact ⟨hsymbols, rfl⟩
  · rintro ⟨hsymbols, rfl⟩
    exact ⟨_, ⟨hsymbols, rfl⟩, rfl⟩

theorem handleSwap_eq_ok {indexes : SwapIndexes} {isA2b : Bool} :
    handleSwap toMoveValue context call indexes isA2b = .ok fields ↔
      ∃ byAmountIn amount amountLimit sqrtPriceLimit,
        getParam toMoveValue context call "by_amount_in" .bool indexes.byAmountIn =
          .ok byAmountIn ∧
        getParam toMoveValue context call "amount" .u64 indexes.amount = .ok amount ∧
        getParam toMoveValue context call "amount_limit" .u64 indexes.amountLimit =
          .ok amountLimit ∧
        getParam toMoveValue context call "sqrt_price_limit" .u128 indexes.sqrtPriceLimit =
          .ok sqrtPriceLimit ∧
        renderSwapFields context call byAmountIn amount amountLimit isA2b sqrtPriceLimit =
          .ok fields := by
  simp only [handleSwap, bind_eq_ok, exists_and_left]

theorem handleRouterSwap_eq_ok :
    handleRouterSwap toMoveValue context call = .ok fields ↔
      ∃ isA2b byAmountIn amount sqrtPriceLimit useAllCoin,
        getParam toMoveValue context call "is_a2b" .bool 4 = .ok isA2b ∧
        getParam toMoveValue context call "by_amount_in" .bool 5 = .ok byAmountIn ∧
        getParam toMoveValue context call "amount" .u64 6 = .ok amount ∧
        getParam toMoveValue context call "sqrt_price_limit" .u128 7 = .ok sqrtPriceLimit ∧
        getParam toMoveValue context call "use_all_coin" .bool 8 = .ok useAllCoin ∧
        ((determineInputOutputCoins isA2b call).1.symbol ≠ "" ∧
          (determineInputOutputCoins isA2b call).2.symbol ≠ "") ∧
        [routerPreview context (determineInputOutputCoins isA2b call) byAmountIn amount
          sqrtPriceLimit useAllCoin] = fields := by
  simp only [handleRouterSwap, bind_eq_ok, swapRows_eq_ok, pure_eq_ok]
  constructor
  · rintro ⟨isA2b, hisA2b, byAmountIn, hexact, amount, hamount, sqrtPriceLimit, hprice,
      useAllCoin, hall, rows, ⟨hsymbols, rfl⟩, rfl⟩
    exact ⟨isA2b, byAmountIn, amount, sqrtPriceLimit, useAllCoin, hisA2b, hexact, hamount, hprice,
      hall, hsymbols, rfl⟩
  · rintro ⟨isA2b, byAmountIn, amount, sqrtPriceLimit, useAllCoin, hisA2b, hexact, hamount,
      hprice, hall, hsymbols, rfl⟩
    exact ⟨isA2b, hisA2b, byAmountIn, hexact, amount, hamount, sqrtPriceLimit, hprice,
      useAllCoin, hall, _, ⟨hsymbols, rfl⟩, rfl⟩

theorem handleTradeFlashSwap_eq_ok :
    handleTradeFlashSwap toMoveValue context call = .ok fields ↔
      ∃ pool sqrtPriceLimit, getObjectValue call.arguments context.inputs 0 = .ok pool ∧
        getParam toMoveValue context call "sqrt_price_limit" .u128 4 = .ok sqrtPriceLimit ∧
        [flashPreview context pool (coinArg call.typeArguments 0, coinArg call.typeArguments 1)
          sqrtPriceLimit] = fields := by
  simp only [handleTradeFlashSwap, bind_eq_ok, pure_eq_ok, exists_and_left]
  rfl

variable {pool otherPool : ObjectID} {coins otherCoins : SuiCoin × SuiCoin}

theorem swapPreview_inj
    (heq : swapPreview context pool coins byAmountIn amount amountLimit sqrtPriceLimit =
      swapPreview other otherPool otherCoins otherExact otherAmount otherLimit otherPrice) :
    (coins.1.display = otherCoins.1.display ∧ coins.2.display = otherCoins.2.display) ∧
      byAmountIn = otherExact ∧ amount = otherAmount ∧ amountLimit = otherLimit ∧
        sqrtPriceLimit = otherPrice := by
  have hrows := titledPreview_inj heq
  simp only [List.cons.injEq] at hrows
  exact shownRows_inj hrows.2.2

theorem routerPreview_inj {useAllCoin otherAll : Bool}
    (heq : routerPreview context coins byAmountIn amount sqrtPriceLimit useAllCoin =
      routerPreview other otherCoins otherExact otherAmount otherPrice otherAll) :
    (coins.1.display = otherCoins.1.display ∧ coins.2.display = otherCoins.2.display) ∧
      byAmountIn = otherExact ∧ amount = otherAmount ∧ sqrtPriceLimit = otherPrice := by
  have hrows := titledPreview_inj heq
  simp only [List.cons_append, List.cons.injEq] at hrows
  obtain ⟨hcoins, hexact, hamount, -, hprice⟩ := shownRows_inj (List.append_inj_left' hrows.2 rfl)
  exact ⟨hcoins, hexact, hamount, hprice⟩

theorem flashPreview_inj
    (heq : flashPreview context pool coins sqrtPriceLimit =
      flashPreview other otherPool otherCoins otherPrice) :
    coins.1.display = otherCoins.1.display ∧ coins.2.display = otherCoins.2.display := by
  have hrows := titledPreview_inj heq
  simp only [List.cons.injEq] at hrows
  exact ⟨createTextField_inj hrows.2.2.1, createTextField_inj hrows.2.2.2.1⟩

end Previews

end VisualSignParser.Sui
