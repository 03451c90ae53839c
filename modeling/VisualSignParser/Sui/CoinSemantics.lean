import VisualSignParser.Sui.CoinTransfer

/-!
# What the coins of a transaction hold

Commands run in order over a store that holds coins, pure values and other
objects.  A split debits its source and creates coins, a merge moves balances
into its destination, and a call may do anything with what it is given and with
nothing else.  A shown amount is compared with the balance in the store at the
command that spends the coin.
-/

namespace VisualSignParser.Sui

open VisualSignParser.Framing
open VisualSignParser.Outcome
open VisualSignParser.VisualSign

/-! ## The store -/

inductive Location where
  | gas
  | input (index : ℕ)
  | result (command index : ℕ)
  deriving DecidableEq

inductive Holding where
  | coin (balance : ℕ)
  | pure (bytes : Bytes)
  | object
  deriving DecidableEq

abbrev Store := Location → Option Holding

/-- A command with one result may be named without the index of the result. -/
def SuiArgument.location : SuiArgument → Location
  | .gasCoin => .gas
  | .input index => .input index.toNat
  | .result command => .result command.toNat 0
  | .nestedResult command index => .result command.toNat index.toNat

/-- The arguments that a command borrows mutably or takes.  Amounts and
recipients are copied. -/
def SuiCommand.touched : SuiCommand → List SuiArgument
  | .moveCall call => call.arguments
  | .transferObjects objects _ => objects
  | .splitCoins coin _ => [coin]
  | .mergeCoins coin sources => coin :: sources
  | .publish _ => []
  | .upgrade _ _ ticket => [ticket]
  | .makeMoveVec _ elements => elements

/-- Coins move by the rules of the command, not by code that it calls. -/
def SuiCommand.movesCoins : SuiCommand → Bool
  | .transferObjects _ _ => true
  | .splitCoins _ _ => true
  | .mergeCoins _ _ => true
  | _ => false

/-- The argument holds the little-endian bytes of a 64-bit number. -/
def HoldsAmount (store : Store) (argument : SuiArgument) (amount : ℕ) : Prop :=
  amount < 2 ^ 64 ∧ store argument.location = some (.pure (leBytes 8 amount))

def HoldsCoin (store : Store) (argument : SuiArgument) (balance : ℕ) : Prop :=
  store argument.location = some (.coin balance)

/-- One command at its position in the transaction. -/
inductive Step (index : ℕ) : SuiCommand → Store → Store → Prop where
  | split {coin : SuiArgument} {amounts : List SuiArgument} {balance : ℕ} {values : List ℕ}
      {store after : Store} (hcoin : HoldsCoin store coin balance)
      (hamounts : List.Forall₂ (HoldsAmount store) amounts values)
      (hcovered : values.sum ≤ balance)
      (hsource : after coin.location = some (.coin (balance - values.sum)))
      (hresults : ∀ position, after (.result index position) = values[position]?.map .coin)
      (hframe : ∀ location, location ≠ coin.location →
        (∀ position, location ≠ .result index position) → after location = store location) :
      Step index (.splitCoins coin amounts) store after
  | merge {coin : SuiArgument} {sources : List SuiArgument} {balance : ℕ} {values : List ℕ}
      {store after : Store} (hcoin : HoldsCoin store coin balance)
      (hsources : List.Forall₂ (HoldsCoin store) sources values)
      (hdistinct : (coin :: sources).map SuiArgument.location |>.Nodup)
      (htarget : after coin.location = some (.coin (balance + values.sum)))
      (htaken : ∀ source ∈ sources, after source.location = none)
      (hframe : ∀ location, location ∉ (coin :: sources).map SuiArgument.location →
        after location = store location) :
      Step index (.mergeCoins coin sources) store after
  | transfer {objects : List SuiArgument} {recipient : SuiArgument} {store after : Store}
      (hheld : ∀ object ∈ objects, (store object.location).isSome)
      (htaken : ∀ object ∈ objects, after object.location = none)
      (hframe : ∀ location, location ∉ objects.map SuiArgument.location →
        after location = store location) :
      Step index (.transferObjects objects recipient) store after
  | call {command : SuiCommand} {store after : Store} (hcommand : command.movesCoins = false)
      (hheld : ∀ argument ∈ command.touched, (store argument.location).isSome)
      (hframe : ∀ location, location ∉ command.touched.map SuiArgument.location →
        (∀ position, location ≠ .result index position) → after location = store location) :
      Step index command store after

/-- The first commands of the transaction have run. -/
inductive Run (commands : List SuiCommand) (start : Store) : ℕ → Store → Prop where
  | start : Run commands start 0 start
  | step {index : ℕ} {command : SuiCommand} {store after : Store}
      (hrun : Run commands start index store) (hcommand : commands[index]? = some command)
      (hstep : Step index command store after) : Run commands start (index + 1) after

/-! ## What a step leaves alone -/

variable {index : ℕ} {command : SuiCommand} {store after : Store}

theorem Step.frame (hstep : Step index command store after) {location : Location}
    (huntouched : location ∉ command.touched.map SuiArgument.location)
    (hresult : ∀ position, location ≠ .result index position) :
    after location = store location := by
  cases hstep with
  | split hcoin hamounts hcovered hsource hresults hframe =>
      exact hframe location (by simpa [SuiCommand.touched] using huntouched) hresult
  | merge hcoin hsources hdistinct htarget htaken hframe => exact hframe location huntouched
  | transfer hheld htaken hframe => exact hframe location huntouched
  | call hcommand hheld hframe => exact hframe location huntouched hresult

theorem holdsCoin_of_mem {sources : List SuiArgument} {values : List ℕ}
    (hsources : List.Forall₂ (HoldsCoin store) sources values) {source : SuiArgument}
    (hsource : source ∈ sources) : ∃ balance, HoldsCoin store source balance := by
  induction hsources with
  | nil => exact absurd hsource List.not_mem_nil
  | cons hfirst hrest ih =>
      obtain rfl | hsource := List.mem_cons.1 hsource
      · exact ⟨_, hfirst⟩
      · exact ih hsource

/-- A command that moves coins finds a coin or takes the object away. -/
theorem Step.touched_cases (hstep : Step index command store after) {argument : SuiArgument}
    (htouched : argument ∈ command.touched) :
    (∃ balance, HoldsCoin store argument balance) ∨
      (store argument.location).isSome ∧ (after argument.location = none ∨
        command.movesCoins = false) := by
  cases hstep with
  | split hcoin hamounts hcovered hsource hresults hframe =>
      rw [List.mem_singleton.1 htouched]
      exact .inl ⟨_, hcoin⟩
  | merge hcoin hsources hdistinct htarget htaken hframe =>
      obtain rfl | hsource := List.mem_cons.1 htouched
      · exact .inl ⟨_, hcoin⟩
      · exact .inl (holdsCoin_of_mem hsources hsource)
  | transfer hheld htaken hframe =>
      exact .inr ⟨hheld argument htouched, .inl (htaken argument htouched)⟩
  | call hcommand hheld hframe => exact .inr ⟨hheld argument htouched, .inr hcommand⟩

theorem Step.held (hstep : Step index command store after) {argument : SuiArgument}
    (htouched : argument ∈ command.touched) : (store argument.location).isSome := by
  obtain ⟨balance, hcoin⟩ | ⟨hheld, -⟩ := hstep.touched_cases htouched
  · rw [hcoin]
    rfl
  · exact hheld

/-! ## Inputs -/

def byteNumber (byte : UInt8) : Json.Value := .number (Json.Number.ofNat byte.toNat)

/-- How the Sui crates show the bytes of a pure input: as an array when its type
is not known, and so that a typed number reads back. -/
structure Represents (json : SuiJson) (pure : SuiPureValue) (bytes : Bytes) : Prop where
  untyped : pure.valueType = none → pure.value = .array (bytes.map byteNumber)
  typed : pure.valueType = some .u64 → ∀ number, json.toMoveU64 pure.value = .ok (some number) →
    bytes = leBytes 8 number.toNat

/-- A store before the first command: no results, and the bytes of pure inputs. -/
structure Initial (json : SuiJson) (inputs : List SuiCallArg) (store : Store) : Prop where
  results : ∀ command position, store (.result command position) = none
  pures : ∀ index pure, inputs[index]? = some (.pure pure) →
    ∃ bytes, store (.input index) = some (.pure bytes) ∧ Represents json pure bytes

theorem asU64_byteNumber (byte : UInt8) : asU64 (byteNumber byte) = some byte.toNat := by
  have hdigits : (Json.decimal byte.toNat).all Char.isDigit = true :=
    List.all_eq_true.2 fun char hchar => (Json.decimal_all_isDigit byte.toNat char hchar).1
  have hbyte : byte.toNat < 2 ^ 64 := (UInt8.toNat_lt byte).trans (by norm_num)
  change (if (Json.decimal byte.toNat).all Char.isDigit &&
    decide (Json.ofDecimal (Json.decimal byte.toNat) < 2 ^ 64) then
      some (Json.ofDecimal (Json.decimal byte.toNat)) else none) = _
  rw [hdigits, Json.ofDecimal_decimal, Bool.true_and, if_pos (decide_eq_true hbyte)]

theorem jsonByte_byteNumber (byte : UInt8) (position : ℕ) :
    jsonByte (byteNumber byte, position) = .ok byte := by
  have hbyte := UInt8.toNat_lt byte
  rw [jsonByte, asU64_byteNumber]
  change (if byte.toNat < 256 then pure (UInt8.ofNat byte.toNat) else _) = _
  rw [if_pos hbyte, UInt8.ofNat_toNat]
  rfl

theorem jsonArrayToBytes_map (bytes : Bytes) :
    jsonArrayToBytes (.array (bytes.map byteNumber)) = .ok bytes := by
  have hitems (position : ℕ) :
      ((bytes.map byteNumber).zipIdx position).mapM jsonByte = .ok bytes := by
    induction bytes generalizing position with
    | nil => rfl
    | cons byte bytes ih =>
        rw [List.map_cons, List.zipIdx_cons, List.mapM_cons, jsonByte_byteNumber, ih]
        rfl
  exact hitems 0

/-- The number that is read off an input is the one in its bytes. -/
theorem Represents.bytes_eq {json : SuiJson} {pure : SuiPureValue} {bytes : Bytes}
    (hbytes : Represents json pure bytes) {number : UInt64}
    (hnumber : decodeNumber json (.pure pure) = .ok number) : bytes = leBytes 8 number.toNat := by
  rw [decodeNumber] at hnumber
  cases htype : pure.valueType with
  | none =>
      rw [htype, hbytes.untyped htype, jsonArrayToBytes_map] at hnumber
      simp only [bind_eq_ok, mapError_eq_ok, u64FromLeBytes] at hnumber
      obtain ⟨_, ⟨⟩, hnumber⟩ := hnumber
      split_ifs at hnumber with hlength
      · have hlt := ofLeBytes_lt bytes
        rw [hlength] at hlt
        rw [← Except.ok.inj hnumber, UInt64.toNat_ofNat',
          Nat.mod_eq_of_lt (hlt.trans_eq (by norm_num)), ← hlength]
        exact (leBytes_ofLeBytes bytes).symm
  | some type =>
      rw [htype] at hnumber
      dsimp only [u64FromMoveValue] at hnumber
      split_ifs at hnumber with hu64
      split at hnumber
      · cases hnumber
      · rename_i value hvalue
        rw [← Except.ok.inj hnumber]
        exact hbytes.typed (by rw [htype, not_not.1 hu64]) value hvalue
      · cases hnumber

/-! ## Runs -/

section Runs

variable {commands : List SuiCommand} {start : Store} {json : SuiJson} {inputs : List SuiCallArg}

theorem Run.length_le {index : ℕ} {store : Store} (hrun : Run commands start index store) :
    index ≤ commands.length := by
  cases hrun with
  | start => exact Nat.zero_le _
  | step hrun hcommand hstep => exact (List.getElem?_eq_some_iff.1 hcommand).1

/-- Results of commands that have not run do not exist. -/
theorem Run.results_eq_none (hinitial : Initial json inputs start)
    (hrun : Run commands start index store) {later position : ℕ} (hlater : index ≤ later) :
    store (.result later position) = none := by
  induction hrun with
  | start => exact hinitial.results later position
  | step hrun hcommand hstep ih =>
      have hbefore := ih (by omega)
      rw [← hbefore]
      apply hstep.frame
      · intro htouched
        obtain ⟨argument, hargument, hlocation⟩ := List.mem_map.1 htouched
        have hheld := hstep.held hargument
        rw [hlocation, hbefore] at hheld
        cases hheld
      · intro other heq
        injection heq
        omega

/-- No call in front of the split takes the input that holds its amount. -/
def AmountUntouched (commands : List SuiCommand) (split input : ℕ) : Prop :=
  ∀ index command, index < split → commands[index]? = some command →
    command.movesCoins = false → .input input ∉ command.touched.map SuiArgument.location

/-- No command between the split and the use takes or borrows the new coin. -/
def CoinUntouched (commands : List SuiCommand) (split use : ℕ) : Prop :=
  ∀ index command, split < index → index < use → commands[index]? = some command →
    .result split 0 ∉ command.touched.map SuiArgument.location

/-- A pure input keeps its bytes until a call takes it. -/
theorem Step.keeps_input (hstep : Step index command store after) {input : ℕ} {bytes : Bytes}
    (hbefore : store (.input input) = none ∨ store (.input input) = some (.pure bytes))
    (huntouched : command.movesCoins = false →
      .input input ∉ command.touched.map SuiArgument.location) :
    after (.input input) = none ∨ after (.input input) = some (.pure bytes) := by
  by_cases htouched : .input input ∈ command.touched.map SuiArgument.location
  · obtain ⟨argument, hargument, hlocation⟩ := List.mem_map.1 htouched
    obtain ⟨balance, hcoin⟩ | ⟨-, htaken | hcalled⟩ := hstep.touched_cases hargument
    · rw [HoldsCoin, hlocation] at hcoin
      rw [hcoin] at hbefore
      simp at hbefore
    · rw [hlocation] at htaken
      exact .inl htaken
    · exact absurd htouched (huntouched hcalled)
  · rw [hstep.frame htouched (by simp)]
    exact hbefore

theorem Run.keeps_input (hrun : Run commands start index store) {split input : ℕ} {bytes : Bytes}
    (hstart : start (.input input) = some (.pure bytes))
    (huntouched : AmountUntouched commands split input) (hindex : index ≤ split) :
    store (.input input) = none ∨ store (.input input) = some (.pure bytes) := by
  induction hrun with
  | start => exact .inr hstart
  | step hrun hcommand hstep ih =>
      exact hstep.keeps_input (ih (by omega)) (huntouched _ _ (by omega) hcommand)

/-- A split with one amount creates a coin of the amount in the bytes. -/
theorem Step.split_creates {coin : SuiArgument} {input : UInt16} {bytes : Bytes} {amount : ℕ}
    (hstep : Step index (.splitCoins coin [.input input]) store after)
    (hbefore : store (.input input.toNat) = none ∨ store (.input input.toNat) = some (.pure bytes))
    (hamount : amount < 2 ^ 64) (hbytes : bytes = leBytes 8 amount) :
    after (.result index 0) = some (.coin amount) := by
  cases hstep with
  | split hcoin hamounts hcovered hsource hresults hframe =>
      cases hamounts with
      | cons hfirst hrest =>
          obtain ⟨hvalue, hheld⟩ := hfirst
          rw [SuiArgument.location] at hheld
          rw [hheld] at hbefore
          simp only [reduceCtorEq, Option.some.injEq, Holding.pure.injEq, false_or] at hbefore
          rw [hbytes] at hbefore
          have hequal := leBytes_injective (by simpa using hvalue) (by simpa using hamount) hbefore
          rw [hresults 0, hequal]
          rfl
  | call hcommand hheld hframe => cases hcommand

/-- The new coin keeps its balance until a command touches it. -/
theorem Run.keeps_coin (hrun : Run commands start index store)
    {split : ℕ} {coin : SuiArgument} {input : UInt16} {bytes : Bytes} {amount : ℕ}
    (hsplit : commands[split]? = some (.splitCoins coin [.input input]))
    (hinput : start (.input input.toNat) = some (.pure bytes)) (hamount : amount < 2 ^ 64)
    (hbytes : bytes = leBytes 8 amount) (hamounts : AmountUntouched commands split input.toNat)
    {use : ℕ} (hcoins : CoinUntouched commands split use) (hafter : split < index)
    (huse : index ≤ use) : store (.result split 0) = some (.coin amount) := by
  induction hrun with
  | start => omega
  | @step position command before after hrun hcommand hstep ih =>
      obtain rfl | hlater : split = position ∨ split < position := by omega
      · obtain rfl := Option.some.inj (hsplit.symm.trans hcommand)
        exact hstep.split_creates (hrun.keeps_input hinput hamounts le_rfl) hamount hbytes
      · rw [hstep.frame (hcoins position command hlater (by omega) hcommand)]
        · exact ih hlater (by omega)
        · intro other heq
          injection heq
          omega

end Runs

/-! ## Shown amounts -/

section Shown

variable (json : SuiJson) (commands : List SuiCommand) (inputs : List SuiCallArg)

/-- A number that is shown for an argument of a command is the balance of the
coin in every run that reaches the command and executes it. -/
def ShowsBalance (use : ℕ) (command : SuiCommand) (argument : SuiArgument)
    (shown : Except VisualSignError (Option UInt64)) : Prop :=
  ∀ amount, shown = .ok (some amount) → ∀ start store after, Initial json inputs start →
    Run commands start use store → Step use command store after →
    store argument.location = some (.coin amount.toNat)

/-- The coin is spent as it was split off: nothing between touches it, and no
call in front of the split takes the amount. -/
def SpentAsSplit (use : ℕ) (argument : SuiArgument) : Prop :=
  ∀ split coin input, argument = .result split →
    commands[split.toNat]? = some (.splitCoins coin [.input input]) →
    AmountUntouched commands split.toNat input.toNat ∧ CoinUntouched commands split.toNat use

variable {json commands inputs}

theorem splitAmount_eq_some {command : SuiCommand} {amount : UInt64}
    (hshown : splitAmount json inputs command = .ok (some amount)) :
    ∃ coin input pure, command = .splitCoins coin [.input input] ∧
      inputs[input.toNat]? = some (.pure pure) ∧ decodeNumber json (.pure pure) = .ok amount := by
  unfold splitAmount at hshown
  split at hshown
  · rename_i coin argument
    simp only [bind_eq_ok, okOr_eq_ok, Functor.map] at hshown
    obtain ⟨index, hindex, arg, harg, hshown⟩ := hshown
    cases argument with
    | input input =>
        obtain rfl := Except.ok.inj hindex
        cases arg with
        | object object => cases hshown
        | pure pure =>
            use coin, input, pure, rfl, harg
            cases hnumber : decodeNumber json (.pure pure) with
            | error error =>
                rw [hnumber] at hshown
                cases hshown
            | ok number =>
                rw [hnumber] at hshown
                cases hshown
                rfl
    | gasCoin => cases hindex
    | result command => cases hindex
    | nestedResult command position => cases hindex
  · cases hshown

theorem showsBalance_of_split {use : ℕ} {command : SuiCommand} {split : UInt16}
    {producer : SuiCommand} {amount : UInt64} (hspent : SpentAsSplit commands use (.result split))
    (hproducer : commands[split.toNat]? = some producer)
    (hshown : splitAmount json inputs producer = .ok (some amount))
    (htouched : .result split ∈ command.touched) {start store after : Store}
    (hinitial : Initial json inputs start) (hrun : Run commands start use store)
    (hstep : Step use command store after) :
    store (SuiArgument.result split).location = some (.coin amount.toNat) := by
  obtain ⟨coin, input, pure, rfl, hinput, hnumber⟩ := splitAmount_eq_some hshown
  obtain ⟨bytes, hstart, hrepresents⟩ := hinitial.pures _ _ hinput
  obtain ⟨hamounts, hcoins⟩ := hspent split coin input rfl hproducer
  have hafter : split.toNat < use := by
    by_contra hlater
    have hheld := hstep.held htouched
    rw [SuiArgument.location, hrun.results_eq_none hinitial (not_lt.1 hlater)] at hheld
    cases hheld
  exact hrun.keeps_coin hproducer hstart (UInt64.toNat_lt amount) (hrepresents.bytes_eq hnumber)
    hamounts hcoins hafter le_rfl

end Shown

/-- Every number that is shown for a transferred object or for a stake is the
balance of that coin in every run that executes the command, if the coin is spent
as it was split off; nothing is asked of the other arguments. -/
theorem shownAmount_is_balance (json : SuiJson) (commands : List SuiCommand)
    (inputs : List SuiCallArg) (use : ℕ) (command : SuiCommand) :
    (∀ objects recipient object, command = .transferObjects objects recipient → object ∈ objects →
      SpentAsSplit commands use object → ShowsBalance json commands inputs use command object
        (resolveAmount json commands inputs object)) ∧
    (∀ call stake, command = .moveCall call → call.arguments[1]? = some stake →
      SpentAsSplit commands use stake → ShowsBalance json commands inputs use command stake
        (getStakeAmount json commands inputs call.arguments)) := by
  constructor
  · rintro objects recipient object rfl hobject hspent amount hshown start store after hinitial
      hrun hstep
    cases object with
    | result split =>
        simp only [resolveAmount, parseResultCommandIndex, bind_eq_ok, okOr_eq_ok] at hshown
        obtain ⟨_, ⟨⟩, producer, hproducer, hshown⟩ := hshown
        have htouched : .result split ∈ (SuiCommand.transferObjects objects recipient).touched :=
          hobject
        exact showsBalance_of_split hspent hproducer hshown htouched hinitial hrun hstep
    | gasCoin => cases hshown
    | input index => cases hshown
    | nestedResult split position => cases hshown
  · rintro call stake rfl hstake hspent amount hshown start store after hinitial hrun hstep
    have htouched : stake ∈ (SuiCommand.moveCall call).touched := List.mem_of_getElem? hstake
    simp only [getStakeAmount, hstake, bind_eq_ok, okOr_eq_ok] at hshown
    obtain ⟨_, ⟨⟩, index, hindex, producer, hproducer, hshown⟩ := hshown
    cases stake with
    | result split =>
        obtain rfl := Except.ok.inj hindex
        exact showsBalance_of_split hspent hproducer hshown htouched hinitial hrun hstep
    | gasCoin => cases hindex
    | input index => cases hindex
    | nestedResult split position => cases hindex

/-! ## A transaction -/

/-- Addresses are the bytes of untyped values; typed numbers are decimal texts. -/
def plainJson : SuiJson where
  toSuiAddress pure := match jsonArrayToBytes pure.value with
    | .ok bytes => if hlength : bytes.length = 32 then .ok ⟨bytes, hlength⟩ else .error "length"
    | .error message => .error message
  toMoveU64
    | .string text =>
        if !text.toList.isEmpty && text.toList.all Char.isDigit &&
            Json.ofDecimal text.toList < 2 ^ 64 then
          .ok (some (UInt64.ofNat (Json.ofDecimal text.toList)))
        else .error "not a number"
    | _ => .error "not a number"

/-- 1000 units, a recipient and an object. -/
def transferInputs : List SuiCallArg :=
  [.pure ⟨none, .array ((leBytes 8 1000).map byteNumber)⟩,
    .pure ⟨none, .array ((List.replicate 32 7).map byteNumber)⟩,
    .object (.immOrOwnedObject ⟨List.replicate 32 9, rfl⟩)]

/-- Split 1000 units off the gas coin and send them. -/
def transferCommands : List SuiCommand :=
  [.splitCoins .gasCoin [.input 0], .transferObjects [.result 0] (.input 1)]

theorem shownAmount_is_balance_transfer :
    resolveAmount plainJson transferCommands transferInputs (.result 0) = .ok (some 1000) ∧
      ShowsBalance plainJson transferCommands transferInputs 1
        (.transferObjects [.result 0] (.input 1)) (.result 0)
        (resolveAmount plainJson transferCommands transferInputs (.result 0)) := by
  apply And.intro (by decide +kernel)
  apply (shownAmount_is_balance plainJson transferCommands transferInputs 1 _).1 _ _ _ rfl
    (List.mem_singleton_self _)
  rintro split coin input ⟨⟩ hsplit
  constructor
  · intro index command hindex
    exact absurd hindex (Nat.not_lt_zero index)
  · intro index command hafter hbefore
    have hindex : 0 < index := hafter
    omega

/-- The same with another coin merged in before the transfer. -/
def mergedCommands : List SuiCommand :=
  [.splitCoins .gasCoin [.input 0], .mergeCoins (.result 0) [.input 2],
    .transferObjects [.result 0] (.input 1)]

def mergedStart : Store
  | .gas => some (.coin 1000000)
  | .input 0 => some (.pure (leBytes 8 1000))
  | .input 1 => some (.pure (List.replicate 32 7))
  | .input 2 => some (.coin 500)
  | _ => none

def mergedSplit : Store :=
  Function.update (Function.update mergedStart .gas (some (.coin 999000))) (.result 0 0)
    (some (.coin 1000))

def mergedMerge : Store :=
  Function.update (Function.update mergedSplit (.result 0 0) (some (.coin 1500))) (.input 2) none

theorem initial_mergedStart : Initial plainJson transferInputs mergedStart where
  results _ _ := rfl
  pures index pure hpure := by
    match index with
    | 0 =>
        cases hpure
        exact ⟨_, rfl, ⟨fun _ => rfl, nofun⟩⟩
    | 1 =>
        cases hpure
        exact ⟨_, rfl, ⟨fun _ => rfl, nofun⟩⟩
    | 2 => cases hpure
    | index + 3 => cases hpure

theorem run_mergedMerge : Run mergedCommands mergedStart 2 mergedMerge := by
  have hsplit : Step 0 (.splitCoins .gasCoin [.input 0]) mergedStart mergedSplit := by
    have hcoin : HoldsCoin mergedStart .gasCoin 1000000 := rfl
    have hamounts : List.Forall₂ (HoldsAmount mergedStart) [.input 0] [1000] :=
      .cons ⟨by norm_num, rfl⟩ .nil
    apply Step.split hcoin hamounts (by simp) rfl
    · rintro (_ | position)
      · rfl
      · rfl
    · intro location hgas hresult
      rw [mergedSplit, Function.update_of_ne (hresult 0)]
      exact Function.update_of_ne hgas ..
  have hmerge : Step 1 (.mergeCoins (.result 0) [.input 2]) mergedSplit mergedMerge := by
    have hcoin : HoldsCoin mergedSplit (.result 0) 1000 := rfl
    have hsources : List.Forall₂ (HoldsCoin mergedSplit) [.input 2] [500] := .cons rfl .nil
    apply Step.merge hcoin hsources (by decide) rfl
    · intro source hsource
      rw [List.mem_singleton.1 hsource]
      rfl
    · intro location hlocation
      obtain ⟨htarget, hsource⟩ := not_or.1 (fun hmem => hlocation (by
        simpa only [List.map_cons, List.map_nil, List.mem_cons, List.not_mem_nil,
          or_false] using hmem))
      calc
        mergedMerge location =
            Function.update mergedSplit (.result 0 0) (some (.coin 1500)) location :=
          Function.update_of_ne hsource ..
        _ = mergedSplit location := Function.update_of_ne htarget ..
  exact .step (.step .start rfl hsplit) rfl hmerge

/-- 1500 units are sent and 1000 are shown. -/
theorem mergedTransfer_shows_split_amount :
    ¬ ShowsBalance plainJson mergedCommands transferInputs 2
      (.transferObjects [.result 0] (.input 1)) (.result 0)
      (resolveAmount plainJson mergedCommands transferInputs (.result 0)) := by
  intro hshows
  have hshown : resolveAmount plainJson mergedCommands transferInputs (.result 0) =
      .ok (some 1000) := by decide +kernel
  have hstep : Step 2 (.transferObjects [.result 0] (.input 1)) mergedMerge
      (Function.update mergedMerge (.result 0 0) none) := by
    apply Step.transfer
    · intro object hobject
      rw [List.mem_singleton.1 hobject]
      rfl
    · intro object hobject
      rw [List.mem_singleton.1 hobject]
      rfl
    · intro location hlocation
      exact Function.update_of_ne (fun heq => hlocation (List.mem_singleton.2 heq)) ..
  have hbalance := hshows 1000 hshown mergedStart mergedMerge _ initial_mergedStart
    run_mergedMerge hstep
  exact absurd hbalance (by decide)

end VisualSignParser.Sui
