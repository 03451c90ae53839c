import VisualSignParser.Sui.CoinSemantics

/-!
# Repayments

A repayment is made with a coin that a split of the same transaction creates.  The
amount of that coin is found through the argument of the call, the command of the
split and the inputs, and each of the three has positions of its own.
-/

namespace VisualSignParser.Sui

open VisualSignParser.Framing
open VisualSignParser.Outcome
open VisualSignParser.VisualSign

/-- A number of a nested result: the command at position 0, the result at position 1. -/
def getNestedResultValue (args : List SuiArgument) (argIndex nestedIndex : ℕ) :
    Except VisualSignError UInt16 := do
  let arg ← okOr (.missingData "Index out of bounds for nested result") args[argIndex]?
  match arg with
  | .nestedResult first second =>
      okOr (.missingData "Nested index out of bounds") [first, second][nestedIndex]?
  | _ => .error (.decodeError "Expected `NestedResult`")

section Repay

variable (json : SuiJson) (commands : List SuiCommand) (inputs : List SuiCallArg)

/-- The first amount of the split behind the coin. -/
def getRepayAmount (transferArgs : List SuiArgument) : Except VisualSignError (Option UInt64) := do
  let commandIndex ← getNestedResultValue transferArgs 4 0
  let command ← okOr (.missingData "Command not found") commands[commandIndex.toNat]?
  match command with
  | .splitCoins _ amounts => do
      let index ← getIndex amounts (some 0)
      let input ← okOr (.missingData "Amount argument not found") inputs[index.toNat]?
      some <$> decodeNumber json input
  | _ => .ok none

/-- The argument is a pure input that holds the number. -/
def DenotesAmount (argument : SuiArgument) (amount : UInt64) : Prop :=
  ∃ index input, argument = .input index ∧ inputs[index.toNat]? = some input ∧
    decodeNumber json input = .ok amount

/-- The coin of a repayment is the given result of the given split. -/
def RepaysWith (transferArgs amounts : List SuiArgument) (index : UInt16) : Prop :=
  ∃ command source, transferArgs[4]? = some (.nestedResult command index) ∧
    commands[command.toNat]? = some (.splitCoins source amounts)

variable {json commands inputs}

theorem getNestedResultValue_nestedResult {args : List SuiArgument} {argIndex : ℕ}
    {command index : UInt16} (harg : args[argIndex]? = some (.nestedResult command index)) :
    getNestedResultValue args argIndex 0 = .ok command := by
  rw [getNestedResultValue, harg]
  rfl

theorem getIndex_some_eq_ok {args : List SuiArgument} {position : ℕ} {index : UInt16} :
    getIndex args (some position) = .ok index ↔ args[position]? = some (.input index) := by
  simp only [getIndex, bind_eq_ok, okOr_eq_ok]
  constructor
  · rintro ⟨argument, hargument, hindex⟩
    cases argument with
    | input found =>
        rw [hargument, Except.ok.inj hindex]
    | gasCoin => cases hindex
    | result command => cases hindex
    | nestedResult command found => cases hindex
  · intro hargument
    exact ⟨.input index, hargument, rfl⟩

/-- The amount that is returned is the one of the first coin of the split. -/
theorem getRepayAmount_eq_some {transferArgs amounts : List SuiArgument} {index : UInt16}
    (hrepays : RepaysWith commands transferArgs amounts index) {amount : UInt64} :
    getRepayAmount json commands inputs transferArgs = .ok (some amount) ↔
      ∃ first, amounts[0]? = some first ∧ DenotesAmount json inputs first amount := by
  obtain ⟨command, source, harg, hcommand⟩ := hrepays
  rw [getRepayAmount, getNestedResultValue_nestedResult harg, ok_bind, hcommand]
  change (getIndex amounts (some 0) >>= _) = _ ↔ _
  simp only [bind_eq_ok, okOr_eq_ok, getIndex_some_eq_ok]
  constructor
  · rintro ⟨position, hfirst, input, hinput, hamount⟩
    obtain ⟨number, hnumber, heq⟩ := map_eq_ok.1 hamount
    rw [Option.some.inj heq] at hnumber
    exact ⟨_, hfirst, position, input, rfl, hinput, hnumber⟩
  · rintro ⟨first, hfirst, position, input, rfl, hinput, hnumber⟩
    exact ⟨position, hfirst, input, hinput, map_eq_ok.2 ⟨amount, hnumber, rfl⟩⟩

/-- The amount of the coin is returned exactly if the coin is the first one of the
split, or if the first one has the same amount. -/
theorem getRepayAmount_eq_iff {transferArgs amounts : List SuiArgument} {index : UInt16}
    (hrepays : RepaysWith commands transferArgs amounts index) {argument : SuiArgument}
    (hargument : amounts[index.toNat]? = some argument) {amount : UInt64}
    (hamount : DenotesAmount json inputs argument amount) :
    getRepayAmount json commands inputs transferArgs = .ok (some amount) ↔
      index = 0 ∨ ∃ first, amounts[0]? = some first ∧ DenotesAmount json inputs first amount := by
  rw [getRepayAmount_eq_some hrepays]
  constructor
  · exact Or.inr
  · rintro (rfl | hfirst)
    · exact ⟨argument, hargument, hamount⟩
    · exact hfirst

end Repay

/-! ## A split into two coins -/

/-- Untyped inputs of eight bytes each. -/
def twoAmounts : List SuiCallArg :=
  [.pure ⟨none, .array ((leBytes 8 5).map byteNumber)⟩,
    .pure ⟨none, .array ((leBytes 8 1000000).map byteNumber)⟩]

def repayCommands : List SuiCommand := [.splitCoins .gasCoin [.input 0, .input 1]]

/-- The arguments of a repayment with a coin of the split. -/
def repayArgs (index : UInt16) : List SuiArgument :=
  [.input 2, .input 3, .input 4, .input 5, .nestedResult 0 index]

theorem repaysWith_repayArgs (index : UInt16) :
    RepaysWith repayCommands (repayArgs index) [.input 0, .input 1] index :=
  ⟨0, .gasCoin, rfl, rfl⟩

theorem first_coin_repaid :
    RepaysWith repayCommands (repayArgs 0) [.input 0, .input 1] 0 ∧
      DenotesAmount noJson twoAmounts (.input 0) 5 ∧
      getRepayAmount noJson repayCommands twoAmounts (repayArgs 0) = .ok (some 5) := by
  have hamount : DenotesAmount noJson twoAmounts (.input 0) 5 := ⟨0, _, rfl, rfl, by decide⟩
  exact ⟨repaysWith_repayArgs 0, hamount,
    (getRepayAmount_eq_iff (repaysWith_repayArgs 0) rfl hamount).2 (.inl rfl)⟩

/-- The second coin is shown with the amount of the first. -/
theorem second_coin_repaid_as_first :
    RepaysWith repayCommands (repayArgs 1) [.input 0, .input 1] 1 ∧
      DenotesAmount noJson twoAmounts (.input 1) 1000000 ∧
      getRepayAmount noJson repayCommands twoAmounts (repayArgs 1) = .ok (some 5) :=
  ⟨repaysWith_repayArgs 1, ⟨1, _, rfl, rfl, by decide⟩, by decide⟩

end VisualSignParser.Sui
