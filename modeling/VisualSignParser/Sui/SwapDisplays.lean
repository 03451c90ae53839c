import VisualSignParser.Sui.Swaps

/-!
# What the display of a swap determines

A trade is the coins, the direction, the choice of the exact side and the numbers that a
call names.  Two calls of a function by the same sender are compared: when their displays
agree, the trades are to agree.  Which of the functions keep this, and for which type
arguments, is found by cases on the function.
-/

namespace VisualSignParser.Sui

open VisualSignParser.Framing
open VisualSignParser.Outcome
open VisualSignParser.VisualSign

/-! ## Functions and their calls -/

inductive SwapFunction where
  | poolScript (isA2b withPartner : Bool)
  | poolScriptV2 (isA2b withPartner : Bool)
  | routerSwap
  | flashSwap

namespace SwapFunction

def poolFunction (isA2b withPartner : Bool) : String :=
  (if isA2b then "swap_a2b" else "swap_b2a") ++ if withPartner then "_with_partner" else ""

def moduleName : SwapFunction → String
  | .poolScript _ _ => "pool_script"
  | .poolScriptV2 _ _ => "pool_script_v2"
  | .routerSwap => "router"
  | .flashSwap => "trade"

def functionName : SwapFunction → String
  | .poolScript isA2b withPartner => poolFunction isA2b withPartner
  | .poolScriptV2 isA2b withPartner => poolFunction isA2b withPartner
  | .routerSwap => "swap"
  | .flashSwap => "flash_swap"

end SwapFunction

/-- A command that calls the function. -/
structure SwapCall (function : SwapFunction) where
  context : VisualizerContext
  call : SuiProgrammableMoveCall
  command : context.commands[context.commandIndex]? = some (.moveCall call)
  moduleName : call.module = function.moduleName
  functionName : call.function = function.functionName

/-- Where the arguments of a trade stand.  A direction may be part of the function, and a
function may take no limit of the amount. -/
structure TradePositions where
  isA2b : Bool ⊕ ℕ
  byAmountIn : ℕ
  amount : ℕ
  amountLimit : Option ℕ
  sqrtPriceLimit : ℕ

def poolPositions (isA2b : Bool) (first : ℕ) : TradePositions :=
  ⟨.inl isA2b, first, first + 1, some (first + 2), first + 3⟩

def SwapFunction.positions : SwapFunction → TradePositions
  | .poolScript isA2b withPartner => poolPositions isA2b (if withPartner then 4 else 3)
  | .poolScriptV2 isA2b withPartner => poolPositions isA2b (if withPartner then 5 else 4)
  | .routerSwap => ⟨.inr 4, 5, 6, none, 7⟩
  | .flashSwap => ⟨.inr 1, 2, 3, none, 4⟩

@[ext]
structure Trade where
  inputCoin : Option String
  outputCoin : Option String
  isA2b : Option Bool
  byAmountIn : Option Bool
  amount : Option (BitVec 64)
  amountLimit : Option (BitVec 64)
  sqrtPriceLimit : Option (BitVec 128)

section Displays

variable (toMoveValue : Json.Value → NumberType → Except String MoveValue)
variable (others : SuiProgrammableMoveCall → Except VisualSignError (List AnnotatedPayloadField))

/-- The number that an argument holds. -/
def readParam (context : VisualizerContext) (call : SuiProgrammableMoveCall) (type : NumberType)
    (position : ℕ) : Option type.Value :=
  (getArgument toMoveValue "" type position context.inputs call.arguments).toOption

/-- The trade that a call names by arguments at the positions. -/
def TradePositions.trade (positions : TradePositions) (context : VisualizerContext)
    (call : SuiProgrammableMoveCall) : Trade :=
  let isA2b := positions.isA2b.elim some (readParam toMoveValue context call .bool)
  { inputCoin := isA2b.bind fun isA2b => call.typeArguments[if isA2b then 0 else 1]?
    outputCoin := isA2b.bind fun isA2b => call.typeArguments[if isA2b then 1 else 0]?
    isA2b := isA2b
    byAmountIn := readParam toMoveValue context call .bool positions.byAmountIn
    amount := readParam toMoveValue context call .u64 positions.amount
    amountLimit := positions.amountLimit.bind (readParam toMoveValue context call .u64)
    sqrtPriceLimit := readParam toMoveValue context call .u128 positions.sqrtPriceLimit }

variable {function : SwapFunction}

def SwapCall.trade (swap : SwapCall function) : Trade :=
  function.positions.trade toMoveValue swap.context swap.call

/-- What the visualizer of the function's exchange shows. -/
def SwapCall.render (swap : SwapCall function) :
    Except VisualSignError (List AnnotatedPayloadField) :=
  match function with
  | .flashSwap => momentumVisualize toMoveValue swap.context others
  | _ => cetusVisualize toMoveValue swap.context others

/-- Calls with these type arguments that are shown alike to their sender are the same
trade. -/
def DeterminesTrade (function : SwapFunction) (leftTypes rightTypes : List String) : Prop :=
  ∀ (left right : SwapCall function) (fields : List AnnotatedPayloadField),
    left.call.typeArguments = leftTypes → right.call.typeArguments = rightTypes →
    left.context.sender = right.context.sender →
    left.render toMoveValue others = .ok fields → right.render toMoveValue others = .ok fields →
    left.trade toMoveValue = right.trade toMoveValue

end Displays

/-! ## Type arguments -/

section Types

variable (leftTypes rightTypes : List String)

/-- The coins have symbols, without which no amount is shown. -/
def Named : Prop := (coinArg leftTypes 0).symbol ≠ "" ∧ (coinArg leftTypes 1).symbol ≠ ""

/-- The first coins are shown alike, and so are the second ones. -/
def ShownAlike : Prop :=
  coinArg leftTypes 0 = coinArg rightTypes 0 ∧ coinArg leftTypes 1 = coinArg rightTypes 1

/-- Each first coin is shown as the other call's second one. -/
def ShownCrossed : Prop :=
  coinArg leftTypes 0 = coinArg rightTypes 1 ∧ coinArg leftTypes 1 = coinArg rightTypes 0

def SameTypes : Prop := leftTypes[0]? = rightTypes[0]? ∧ leftTypes[1]? = rightTypes[1]?

/-- When the displays of a function tell trades with these type arguments apart. -/
def TellsApart : SwapFunction → Prop
  | .flashSwap => ¬ShownAlike leftTypes rightTypes
  | .routerSwap => Named leftTypes →
      (ShownAlike leftTypes rightTypes → SameTypes leftTypes rightTypes) ∧
        ¬ShownCrossed leftTypes rightTypes
  | _ => Named leftTypes → ShownAlike leftTypes rightTypes → SameTypes leftTypes rightTypes

end Types

/-! ## Which handler renders a call -/

section Rendering

variable {toMoveValue : Json.Value → NumberType → Except String MoveValue}
variable {others : SuiProgrammableMoveCall → Except VisualSignError (List AnnotatedPayloadField)}
variable {context : VisualizerContext} {call : SuiProgrammableMoveCall}

def poolIndexes (first : ℕ) : SwapIndexes := ⟨first, first + 1, first + 2, first + 3⟩

theorem render_poolScript {isA2b withPartner : Bool}
    (swap : SwapCall (.poolScript isA2b withPartner)) :
    swap.render toMoveValue others = handleSwap toMoveValue swap.context swap.call
      (poolIndexes (if withPartner then 4 else 3)) isA2b := by
  obtain ⟨context, call, hcommand, hmodule, hfunction⟩ := swap
  cases isA2b <;> cases withPartner <;>
    (dsimp only [SwapCall.render]
     rw [cetusVisualize, hcommand]
     dsimp only
     rw [hmodule, hfunction]
     rfl)

theorem render_poolScriptV2 {isA2b withPartner : Bool}
    (swap : SwapCall (.poolScriptV2 isA2b withPartner)) :
    swap.render toMoveValue others = handleSwap toMoveValue swap.context swap.call
      (poolIndexes (if withPartner then 5 else 4)) isA2b := by
  obtain ⟨context, call, hcommand, hmodule, hfunction⟩ := swap
  cases isA2b <;> cases withPartner <;>
    (dsimp only [SwapCall.render]
     rw [cetusVisualize, hcommand]
     dsimp only
     rw [hmodule, hfunction]
     rfl)

theorem render_routerSwap (swap : SwapCall .routerSwap) :
    swap.render toMoveValue others = handleRouterSwap toMoveValue swap.context swap.call := by
  obtain ⟨context, call, hcommand, hmodule, hfunction⟩ := swap
  dsimp only [SwapCall.render]
  rw [cetusVisualize, hcommand]
  dsimp only
  rw [hmodule, hfunction]
  rfl

theorem render_flashSwap (swap : SwapCall .flashSwap) :
    swap.render toMoveValue others = handleTradeFlashSwap toMoveValue swap.context swap.call := by
  obtain ⟨context, call, hcommand, hmodule, hfunction⟩ := swap
  dsimp only [SwapCall.render]
  rw [momentumVisualize, hcommand]
  dsimp only
  rw [hmodule, hfunction]
  rfl

/-! ## Equal displays -/

/-- A parameter that the handler reads is the one the abstract trade has at that
position. -/
theorem readParam_of_getParam {param : String} {type : NumberType} {position : ℕ}
    {value : type.Value}
    (hvalue : getParam toMoveValue context call param type position = .ok value) :
    readParam toMoveValue context call type position = some value := by
  have hread : getArgument toMoveValue "" type position context.inputs call.arguments =
      .ok value := getArgument_eq_ok.2 (getArgument_eq_ok.1 hvalue)
  rw [readParam, hread]
  rfl

/-- Two calls that show the same coins have the same coins, whichever way each of
them swaps, as a coin can be recovered from its display. -/
theorem coins_of_display {isA2b otherA2b : Bool} {other : SuiProgrammableMoveCall}
    (hdisplay : (determineInputOutputCoins isA2b call).1.display =
        (determineInputOutputCoins otherA2b other).1.display ∧
      (determineInputOutputCoins isA2b call).2.display =
        (determineInputOutputCoins otherA2b other).2.display) :
    determineInputOutputCoins isA2b call = determineInputOutputCoins otherA2b other := by
  cases isA2b <;> cases otherA2b <;>
    exact Prod.ext (coinArg_of_display hdisplay.1) (coinArg_of_display hdisplay.2)

/-- Two calls in one direction that have the same coins have type arguments that are
shown alike. -/
theorem shownAlike_of_coins_eq {isA2b : Bool} {other : SuiProgrammableMoveCall}
    (hcoins : determineInputOutputCoins isA2b call = determineInputOutputCoins isA2b other) :
    ShownAlike call.typeArguments other.typeArguments := by
  cases isA2b with
  | false => exact (Prod.mk.inj hcoins).symm
  | true => exact Prod.mk.inj hcoins

/-- Two calls in opposite directions that have the same coins have type arguments
that are shown alike crosswise. -/
theorem shownCrossed_of_coins_eq {isA2b otherA2b : Bool} {other : SuiProgrammableMoveCall}
    (hne : isA2b ≠ otherA2b)
    (hcoins : determineInputOutputCoins isA2b call = determineInputOutputCoins otherA2b other) :
    ShownCrossed call.typeArguments other.typeArguments := by
  cases isA2b <;> cases otherA2b
  · exact absurd rfl hne
  · exact (Prod.mk.inj hcoins).symm
  · exact Prod.mk.inj hcoins
  · exact absurd rfl hne

/-- Both coins have a symbol exactly if both type arguments name a coin, in
whichever direction the call swaps them. -/
theorem symbols_iff_named (isA2b : Bool) (call : SuiProgrammableMoveCall) :
    ((determineInputOutputCoins isA2b call).1.symbol ≠ "" ∧
      (determineInputOutputCoins isA2b call).2.symbol ≠ "") ↔ Named call.typeArguments := by
  cases isA2b with
  | false => exact and_comm
  | true => rfl

theorem SameTypes.getElem_eq {leftTypes rightTypes : List String}
    (hsame : SameTypes leftTypes rightTypes) (isA2b : Bool) :
    leftTypes[if isA2b then 0 else 1]? = rightTypes[if isA2b then 0 else 1]? ∧
      leftTypes[if isA2b then 1 else 0]? = rightTypes[if isA2b then 1 else 0]? := by
  cases isA2b with
  | false => exact hsame.symm
  | true => exact hsame

/-- The function renders by its pool positions. -/
structure RendersPool (toMoveValue : Json.Value → NumberType → Except String MoveValue)
    (others : SuiProgrammableMoveCall → Except VisualSignError (List AnnotatedPayloadField))
    (function : SwapFunction) (isA2b : Bool) (first : ℕ) : Prop where
  positions : function.positions = poolPositions isA2b first
  render : ∀ swap : SwapCall function, swap.render toMoveValue others =
    handleSwap toMoveValue swap.context swap.call (poolIndexes first) isA2b

/-- Two swaps of one pool function with the same display are the same trade, if type
arguments that are shown alike are the same. -/
theorem RendersPool.trade_eq {function : SwapFunction} {isA2b : Bool} {first : ℕ}
    (hpool : RendersPool toMoveValue others function isA2b first) {left right : SwapCall function}
    (htypes : Named left.call.typeArguments →
      ShownAlike left.call.typeArguments right.call.typeArguments →
        SameTypes left.call.typeArguments right.call.typeArguments)
    {fields : List AnnotatedPayloadField} (hleft : left.render toMoveValue others = .ok fields)
    (hright : right.render toMoveValue others = .ok fields) :
    left.trade toMoveValue = right.trade toMoveValue := by
  rw [hpool.render, handleSwap_eq_ok] at hleft hright
  obtain ⟨exactIn, amount, limit, price, hexact, hamount, hlimit, hprice, hfields⟩ := hleft
  obtain ⟨otherExact, otherAmount, otherLimit, otherPrice, hotherExact, hotherAmount, hotherLimit,
    hotherPrice, hotherFields⟩ := hright
  obtain ⟨pool, -, hsymbols, rfl⟩ := renderSwapFields_eq_ok.1 hfields
  obtain ⟨otherPool, -, -, heq⟩ := renderSwapFields_eq_ok.1 hotherFields
  obtain ⟨hcoins, rfl, rfl, rfl, rfl⟩ := swapPreview_inj (List.singleton_inj.1 heq)
  have halike := shownAlike_of_coins_eq (coins_of_display hcoins).symm
  obtain ⟨hinput, houtput⟩ := (htypes ((symbols_iff_named _ _).1 hsymbols) halike).getElem_eq isA2b
  rw [SwapCall.trade, SwapCall.trade, hpool.positions]
  apply Trade.ext
  · exact hinput
  · exact houtput
  · rfl
  · exact (readParam_of_getParam hexact).trans (readParam_of_getParam hotherExact).symm
  · exact (readParam_of_getParam hamount).trans (readParam_of_getParam hotherAmount).symm
  · exact (readParam_of_getParam hlimit).trans (readParam_of_getParam hotherLimit).symm
  · exact (readParam_of_getParam hprice).trans (readParam_of_getParam hotherPrice).symm

/-- Two router swaps with the same display are the same trade; since the direction
is an argument, crosswise coincidence has to be excluded as well. -/
theorem trade_eq_of_routerSwap {left right : SwapCall .routerSwap}
    (htypes : Named left.call.typeArguments →
      (ShownAlike left.call.typeArguments right.call.typeArguments →
        SameTypes left.call.typeArguments right.call.typeArguments) ∧
      ¬ShownCrossed left.call.typeArguments right.call.typeArguments)
    {fields : List AnnotatedPayloadField} (hleft : left.render toMoveValue others = .ok fields)
    (hright : right.render toMoveValue others = .ok fields) :
    left.trade toMoveValue = right.trade toMoveValue := by
  rw [render_routerSwap, handleRouterSwap_eq_ok] at hleft hright
  obtain ⟨isA2b, exactIn, amount, price, useAll, hisA2b, hexact, hamount, hprice, -, hsymbols,
    rfl⟩ := hleft
  obtain ⟨otherA2b, otherExact, otherAmount, otherPrice, otherAll, hotherA2b, hotherExact,
    hotherAmount, hotherPrice, -, -, heq⟩ := hright
  obtain ⟨hdisplay, rfl, rfl, rfl⟩ := routerPreview_inj (List.singleton_inj.1 heq)
  have hcoins := (coins_of_display hdisplay).symm
  obtain ⟨halike, hcrossed⟩ := htypes ((symbols_iff_named _ _).1 hsymbols)
  have hdirection : isA2b = otherA2b := by
    by_contra hne
    exact hcrossed (shownCrossed_of_coins_eq hne hcoins)
  subst hdirection
  obtain ⟨hinput, houtput⟩ := (halike (shownAlike_of_coins_eq hcoins)).getElem_eq isA2b
  have hdirections : readParam toMoveValue left.context left.call .bool 4 =
      readParam toMoveValue right.context right.call .bool 4 :=
    (readParam_of_getParam hisA2b).trans (readParam_of_getParam hotherA2b).symm
  apply Trade.ext
  · change (readParam toMoveValue left.context left.call .bool 4).bind _ =
      (readParam toMoveValue right.context right.call .bool 4).bind _
    rw [readParam_of_getParam hisA2b, readParam_of_getParam hotherA2b]
    exact hinput
  · change (readParam toMoveValue left.context left.call .bool 4).bind _ =
      (readParam toMoveValue right.context right.call .bool 4).bind _
    rw [readParam_of_getParam hisA2b, readParam_of_getParam hotherA2b]
    exact houtput
  · exact hdirections
  · exact (readParam_of_getParam hexact).trans (readParam_of_getParam hotherExact).symm
  · exact (readParam_of_getParam hamount).trans (readParam_of_getParam hotherAmount).symm
  · rfl
  · exact (readParam_of_getParam hprice).trans (readParam_of_getParam hotherPrice).symm

/-- The coins of a flash swap are on its display. -/
theorem shownAlike_of_flashSwap {left right : SwapCall .flashSwap}
    {fields : List AnnotatedPayloadField} (hleft : left.render toMoveValue others = .ok fields)
    (hright : right.render toMoveValue others = .ok fields) :
    ShownAlike left.call.typeArguments right.call.typeArguments := by
  rw [render_flashSwap, handleTradeFlashSwap_eq_ok] at hleft hright
  obtain ⟨pool, price, -, -, rfl⟩ := hleft
  obtain ⟨otherPool, otherPrice, -, -, heq⟩ := hright
  obtain ⟨hfirst, hsecond⟩ := flashPreview_inj (List.singleton_inj.1 heq)
  exact ⟨(coinArg_of_display hfirst).symm, (coinArg_of_display hsecond).symm⟩

/-! ## Calls with given type arguments -/

/-- A pure input of unknown type. -/
def untyped (type : NumberType) (value : type.Value) : SuiCallArg :=
  .pure ⟨none, .array ((type.bcs value).map byteNumber)⟩

/-- An object, the two truth values, and a number for amounts and one for prices. -/
def sampleInputs : List SuiCallArg :=
  [.object (.immOrOwnedObject zeroAddress), untyped .bool true, untyped .bool false,
    untyped .u64 1, untyped .u128 1]

def truthInput (value : Bool) : SuiArgument := if value then .input 1 else .input 2

def sampleCall (function : SwapFunction) (typeArguments : List String)
    (arguments : List SuiArgument) : SwapCall function :=
  let call : SuiProgrammableMoveCall :=
    ⟨zeroAddress, function.moduleName, function.functionName, typeArguments, arguments⟩
  ⟨⟨zeroAddress, 0, [.moveCall call], sampleInputs⟩, call, rfl, rfl, rfl⟩

/-- A number in an untyped input is read back from its little-endian bytes. -/
theorem getParam_of_untyped {param : String} {type : NumberType} {position : ℕ} {index : UInt16}
    {value : type.Value} (harg : call.arguments[position]? = some (.input index))
    (hinput : context.inputs[index.toNat]? = some (untyped type value)) :
    getParam toMoveValue context call param type position = .ok value := by
  have hbytes : IsByteArray (.array ((type.bcs value).map byteNumber)) (type.bcs value) :=
    jsonArrayToBytes_eq_ok.1 (jsonArrayToBytes_map _)
  exact getArgument_eq_ok.2
    ⟨_, ⟨index, harg, hinput⟩, decodeNumberAs_eq_ok.2 (.inl (.inl ⟨rfl, hbytes⟩))⟩

theorem getParam_truthInput {function : SwapFunction} {typeArguments : List String}
    {arguments : List SuiArgument} {param : String} {position : ℕ} {value : Bool}
    (harg : arguments[position]? = some (truthInput value)) :
    getParam toMoveValue (sampleCall function typeArguments arguments).context
      (sampleCall function typeArguments arguments).call param .bool position = .ok value := by
  cases value with
  | false => exact getParam_of_untyped harg rfl
  | true => exact getParam_of_untyped harg rfl

def plainContext : VisualizerContext := ⟨zeroAddress, 0, [], []⟩

def poolArguments (first : ℕ) : List SuiArgument :=
  List.replicate first (.input 0) ++ [truthInput true, .input 3, .input 3, .input 4]

def routerArguments (isA2b : Bool) : List SuiArgument :=
  List.replicate 4 (.input 0) ++
    [truthInput isA2b, truthInput true, .input 3, .input 4, truthInput true]

def flashArguments (isXToY : Bool) : List SuiArgument :=
  [.input 0, truthInput isXToY, truthInput true, .input 3, .input 4]

theorem poolArguments_getElem (first offset : ℕ) :
    (poolArguments first)[first + offset]? =
      [truthInput true, SuiArgument.input 3, .input 3, .input 4][offset]? := by
  rw [poolArguments, List.getElem?_append_right (by simp), List.length_replicate,
    Nat.add_sub_cancel_left]

variable {function : SwapFunction} {typeArguments : List String}

/-- The sample of a pool function renders with the coins its type arguments name, so
displays can be compared by the coins alone. -/
theorem render_poolSample {isA2b : Bool} {first : ℕ}
    (hpool : RendersPool toMoveValue others function isA2b first) (hfirst : 2 ≤ first)
    (hnamed : Named typeArguments) {coins : SuiCoin × SuiCoin}
    (hcoins : determineInputOutputCoins isA2b
      (sampleCall function typeArguments (poolArguments first)).call = coins) :
    (sampleCall function typeArguments (poolArguments first)).render toMoveValue others =
      .ok [swapPreview plainContext zeroAddress coins true 1 1 1] := by
  subst hcoins
  have hpoolArg : (poolArguments first)[1]? = some (.input 0) := by
    rw [poolArguments, List.getElem?_append_left (by rw [List.length_replicate]; exact hfirst),
      List.getElem?_replicate_of_lt (by omega)]
  rw [hpool.render, handleSwap_eq_ok]
  refine ⟨true, 1, 1, 1, getParam_truthInput (poolArguments_getElem first 0),
    getParam_of_untyped (poolArguments_getElem first 1) rfl,
    getParam_of_untyped (poolArguments_getElem first 2) rfl,
    getParam_of_untyped (poolArguments_getElem first 3) rfl, ?_⟩
  exact renderSwapFields_eq_ok.2
    ⟨zeroAddress, getObjectValue_eq_ok.2 ⟨0, _, hpoolArg, rfl, rfl⟩,
      (symbols_iff_named _ _).2 hnamed, rfl⟩

/-- The sample of the router renders with its coins in the direction that its
argument gives. -/
theorem render_routerSample {isA2b : Bool} (hnamed : Named typeArguments)
    {coins : SuiCoin × SuiCoin}
    (hcoins : determineInputOutputCoins isA2b
      (sampleCall .routerSwap typeArguments (routerArguments isA2b)).call = coins) :
    (sampleCall .routerSwap typeArguments (routerArguments isA2b)).render toMoveValue others =
      .ok [routerPreview plainContext coins true 1 1 true] := by
  subst hcoins
  rw [render_routerSwap, handleRouterSwap_eq_ok]
  exact ⟨isA2b, true, 1, 1, true, getParam_truthInput rfl, getParam_truthInput rfl,
    getParam_of_untyped rfl rfl, getParam_of_untyped rfl rfl, getParam_truthInput rfl,
    (symbols_iff_named _ _).2 hnamed, rfl⟩

theorem render_flashSample {isXToY : Bool} {coins : SuiCoin × SuiCoin}
    (hcoins : (coinArg typeArguments 0, coinArg typeArguments 1) = coins) :
    (sampleCall .flashSwap typeArguments (flashArguments isXToY)).render toMoveValue others =
      .ok [flashPreview plainContext zeroAddress coins 1] := by
  subst hcoins
  rw [render_flashSwap, handleTradeFlashSwap_eq_ok]
  exact ⟨zeroAddress, 1, getObjectValue_eq_ok.2 ⟨0, _, rfl, rfl, rfl⟩,
    getParam_of_untyped rfl rfl, rfl⟩

/-! ## When displays tell trades apart -/

variable {leftTypes rightTypes : List String}

/-- Where displays determine trades, two samples with one display are one trade;
this is how the conditions on the types are shown to be needed. -/
theorem DeterminesTrade.sample_trade_eq
    (hdetermines : DeterminesTrade toMoveValue others function leftTypes rightTypes)
    {leftArguments rightArguments : List SuiArgument} {fields : List AnnotatedPayloadField}
    (hleft : (sampleCall function leftTypes leftArguments).render toMoveValue others = .ok fields)
    (hright : (sampleCall function rightTypes rightArguments).render toMoveValue others =
      .ok fields) :
    (sampleCall function leftTypes leftArguments).trade toMoveValue =
      (sampleCall function rightTypes rightArguments).trade toMoveValue :=
  hdetermines _ _ fields rfl rfl rfl hleft hright

theorem ShownAlike.named (halike : ShownAlike leftTypes rightTypes) (hnamed : Named leftTypes) :
    Named rightTypes := by
  rwa [Named, ← halike.1, ← halike.2]

/-- The display of a pool function determines the trade exactly if type arguments
with names that are shown alike are the same. -/
theorem determinesTrade_pool_iff {isA2b : Bool} {first : ℕ}
    (hpool : RendersPool toMoveValue others function isA2b first) (hfirst : 2 ≤ first) :
    DeterminesTrade toMoveValue others function leftTypes rightTypes ↔
      (Named leftTypes → ShownAlike leftTypes rightTypes → SameTypes leftTypes rightTypes) := by
  constructor
  · intro hdetermines hnamed halike
    have hcoins : determineInputOutputCoins isA2b
          (sampleCall function rightTypes (poolArguments first)).call =
        determineInputOutputCoins isA2b
          (sampleCall function leftTypes (poolArguments first)).call := by
      cases isA2b with
      | false => exact Prod.ext halike.2.symm halike.1.symm
      | true => exact Prod.ext halike.1.symm halike.2.symm
    have htrade := hdetermines.sample_trade_eq (render_poolSample hpool hfirst hnamed rfl)
      (render_poolSample hpool hfirst (halike.named hnamed) hcoins)
    rw [SwapCall.trade, SwapCall.trade, hpool.positions] at htrade
    have hinput := congrArg Trade.inputCoin htrade
    have houtput := congrArg Trade.outputCoin htrade
    cases isA2b with
    | false => exact ⟨houtput, hinput⟩
    | true => exact ⟨hinput, houtput⟩
  · rintro htypes left right fields rfl rfl - hleft hright
    exact hpool.trade_eq htypes hleft hright

theorem readParam_truthInput (toMoveValue : Json.Value → NumberType → Except String MoveValue)
    (function : SwapFunction) (typeArguments : List String) {arguments : List SuiArgument}
    {position : ℕ} {value : Bool} (harg : arguments[position]? = some (truthInput value)) :
    readParam toMoveValue (sampleCall function typeArguments arguments).context
      (sampleCall function typeArguments arguments).call .bool position = some value := by
  have hvalue : getParam toMoveValue (sampleCall function typeArguments arguments).context
      (sampleCall function typeArguments arguments).call "" .bool position = .ok value :=
    getParam_truthInput harg
  exact readParam_of_getParam hvalue

/-- The direction of a sample is the one that it was made for. -/
theorem trade_routerSample (toMoveValue : Json.Value → NumberType → Except String MoveValue)
    (typeArguments : List String) (isA2b : Bool) :
    ((sampleCall .routerSwap typeArguments (routerArguments isA2b)).trade toMoveValue).isA2b =
        some isA2b ∧
      ((sampleCall .routerSwap typeArguments (routerArguments isA2b)).trade toMoveValue).inputCoin =
        typeArguments[if isA2b then 0 else 1]? ∧
      ((sampleCall .routerSwap typeArguments (routerArguments isA2b)).trade
        toMoveValue).outputCoin = typeArguments[if isA2b then 1 else 0]? := by
  have hisA2b : readParam toMoveValue
      (sampleCall .routerSwap typeArguments (routerArguments isA2b)).context
      (sampleCall .routerSwap typeArguments (routerArguments isA2b)).call .bool 4 = some isA2b :=
    readParam_truthInput toMoveValue .routerSwap typeArguments rfl
  exact ⟨hisA2b, congrArg (Option.bind · _) hisA2b, congrArg (Option.bind · _) hisA2b⟩

theorem trade_flashSample (toMoveValue : Json.Value → NumberType → Except String MoveValue)
    (typeArguments : List String) (isXToY : Bool) :
    ((sampleCall .flashSwap typeArguments (flashArguments isXToY)).trade toMoveValue).isA2b =
      some isXToY :=
  readParam_truthInput toMoveValue .flashSwap typeArguments rfl

/-- The display of the router determines the trade exactly if, in addition, no type
arguments are shown alike crosswise. -/
theorem determinesTrade_routerSwap_iff :
    DeterminesTrade toMoveValue others .routerSwap leftTypes rightTypes ↔
      (Named leftTypes → (ShownAlike leftTypes rightTypes → SameTypes leftTypes rightTypes) ∧
        ¬ShownCrossed leftTypes rightTypes) := by
  constructor
  · intro hdetermines hnamed
    obtain ⟨hleftA2b, hleftInput, hleftOutput⟩ := trade_routerSample toMoveValue leftTypes true
    constructor
    · intro halike
      obtain ⟨-, hinput, houtput⟩ := trade_routerSample toMoveValue rightTypes true
      have hcoins : determineInputOutputCoins true
            (sampleCall .routerSwap rightTypes (routerArguments true)).call =
          determineInputOutputCoins true
            (sampleCall .routerSwap leftTypes (routerArguments true)).call :=
        Prod.ext halike.1.symm halike.2.symm
      have htrade := hdetermines.sample_trade_eq (render_routerSample hnamed rfl)
        (render_routerSample (halike.named hnamed) hcoins)
      rw [htrade] at hleftInput hleftOutput
      exact ⟨hleftInput.symm.trans hinput, hleftOutput.symm.trans houtput⟩
    · intro hcrossed
      have hright : Named rightTypes := by
        rw [Named, ← hcrossed.1, ← hcrossed.2]
        exact hnamed.symm
      have hcoins : determineInputOutputCoins false
            (sampleCall .routerSwap rightTypes (routerArguments false)).call =
          determineInputOutputCoins true
            (sampleCall .routerSwap leftTypes (routerArguments true)).call :=
        Prod.ext hcrossed.1.symm hcrossed.2.symm
      have htrade := hdetermines.sample_trade_eq (render_routerSample hnamed rfl)
        (render_routerSample hright hcoins)
      rw [htrade, (trade_routerSample toMoveValue rightTypes false).1] at hleftA2b
      cases hleftA2b
  · rintro htypes left right fields rfl rfl - hleft hright
    exact trade_eq_of_routerSwap htypes hleft hright

/-- Neither the direction nor the amount of a flash swap is on its display. -/
theorem not_determinesTrade_flashSwap (halike : ShownAlike leftTypes rightTypes) :
    ¬DeterminesTrade toMoveValue others .flashSwap leftTypes rightTypes := by
  intro hdetermines
  have hcoins : (coinArg rightTypes 0, coinArg rightTypes 1) =
      (coinArg leftTypes 0, coinArg leftTypes 1) := Prod.ext halike.1.symm halike.2.symm
  have hleft : (sampleCall .flashSwap leftTypes (flashArguments true)).render toMoveValue others =
      _ := render_flashSample rfl
  have hright : (sampleCall .flashSwap rightTypes (flashArguments false)).render toMoveValue
      others = _ := render_flashSample hcoins
  have hdirection := congrArg Trade.isA2b (hdetermines.sample_trade_eq hleft hright)
  rw [trade_flashSample, trade_flashSample] at hdirection
  cases hdirection

theorem rendersPool_poolScript (isA2b withPartner : Bool) :
    RendersPool toMoveValue others (.poolScript isA2b withPartner) isA2b
      (if withPartner then 4 else 3) := ⟨rfl, render_poolScript⟩

theorem rendersPool_poolScriptV2 (isA2b withPartner : Bool) :
    RendersPool toMoveValue others (.poolScriptV2 isA2b withPartner) isA2b
      (if withPartner then 5 else 4) := ⟨rfl, render_poolScriptV2⟩

end Rendering

/-- The displays of a function tell the trades with two lists of type arguments apart
exactly if the function is a swap of a pool or of the router, no two coins that are shown
alike have different type arguments, and at the router they are not each other's reverse. -/
theorem determinesTrade_iff (toMoveValue : Json.Value → NumberType → Except String MoveValue)
    (others : SuiProgrammableMoveCall → Except VisualSignError (List AnnotatedPayloadField))
    (function : SwapFunction) (leftTypes rightTypes : List String) :
    DeterminesTrade toMoveValue others function leftTypes rightTypes ↔
      TellsApart leftTypes rightTypes function := by
  cases function with
  | poolScript isA2b withPartner =>
      exact determinesTrade_pool_iff (rendersPool_poolScript isA2b withPartner)
        (by split <;> omega)
  | poolScriptV2 isA2b withPartner =>
      exact determinesTrade_pool_iff (rendersPool_poolScriptV2 isA2b withPartner)
        (by split <;> omega)
  | routerSwap => exact determinesTrade_routerSwap_iff
  | flashSwap =>
      constructor
      · exact fun hdetermines halike => not_determinesTrade_flashSwap halike hdetermines
      · rintro hdiffer left right fields rfl rfl - hleft hright
        exact absurd (shownAlike_of_flashSwap hleft hright) hdiffer

/-- Flash swaps in opposite directions are shown alike. -/
theorem opposite_flashSwaps_shown_alike :
    ¬∀ (toMoveValue : Json.Value → NumberType → Except String MoveValue)
      (others : SuiProgrammableMoveCall → Except VisualSignError (List AnnotatedPayloadField))
      (function : SwapFunction) (leftTypes rightTypes : List String),
      DeterminesTrade toMoveValue others function leftTypes rightTypes := by
  intro hdetermines
  have halike : ShownAlike ["0x2::sui::SUI", "0x5::usdc::USDC"]
      ["0x2::sui::SUI", "0x5::usdc::USDC"] := ⟨rfl, rfl⟩
  exact not_determinesTrade_flashSwap halike
    (hdetermines (fun _ _ => .error "not typed") (fun _ => .ok []) .flashSwap _ _)

end VisualSignParser.Sui
