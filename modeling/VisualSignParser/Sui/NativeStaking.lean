import VisualSignParser.Sui.CoinTransfer

/-!
# The validator of a stake

A stake names its validator in the last argument.  A lookup that fails is replaced
by the default address, and the position of the last argument is computed from the
number of arguments, which may be none.
-/

namespace VisualSignParser.Sui

open VisualSignParser.Outcome
open VisualSignParser.VisualSign

/-- `left - right` of `usize`: with overflow checks an underflow panics. -/
def usizeSub (left right : ℕ) : Option ℕ := if right ≤ left then some (left - right) else none

/-- `left - right` of `usize` without overflow checks. -/
def wrappingSub (left right : ℕ) : ℕ := (left + 2 ^ 64 - right) % 2 ^ 64

/-- The addresses under a label, among the expanded fields of previews. -/
def expandedAddresses (label : String) (fields : List AnnotatedPayloadField) : List String :=
  fields.flatMap fun field => match field.signablePayloadField with
    | .previewLayout _ preview => (preview.expanded.elim [] fun list => list.fields).filterMap
        fun shown => match shown.signablePayloadField with
          | .addressV2 common address => if common.label = label then some address.address else none
          | _ => none
    | _ => []

section Stakes

variable (json : SuiJson) (context : VisualizerContext) (call : SuiProgrammableMoveCall)

/-- The last argument is a pure input that holds the address. -/
def DenotesValidator (address : SuiAddress) : Prop :=
  ∃ index pure, call.arguments.getLast? = some (.input index) ∧
    context.inputs[index.toNat]? = some (.pure pure) ∧ json.toSuiAddress pure = .ok address

/-- A validator that is shown is the one that the call names, and the position of the
argument is computed without an underflow. -/
structure NoFabrication : Prop where
  shown : ∀ fields, handleAddStake json context call = .ok fields →
    ∀ address, SuiAddress.display address ∈ expandedAddresses "Validator" fields →
      DenotesValidator json context call address
  index : (usizeSub call.arguments.length 1).isSome

variable {json context call}

theorem pureAddress_eq_ok {input : SuiCallArg} {address : SuiAddress} :
    pureAddress json input = .ok address ↔
      ∃ pure, input = .pure pure ∧ json.toSuiAddress pure = .ok address := by
  simp only [pureAddress, bind_eq_ok, okOr_eq_ok, mapError_eq_ok]
  cases input with
  | object arg => simp [SuiCallArg.pure?]
  | pure value => simp [SuiCallArg.pure?]

/-- The index that wraps finds no argument. -/
theorem getStakeReceiver_eq (inputs : List SuiCallArg) {args : List SuiArgument}
    (hlength : args.length < 2 ^ 64) :
    getStakeReceiver json inputs args = (do
      let index ← getIndex args (some (wrappingSub args.length 1))
      let input ← okOr (.missingData "Command not found") inputs[index.toNat]?
      pureAddress json input) := by
  have hindex : args[args.length - 1]? = args[wrappingSub args.length 1]? := by
    cases args with
    | nil => rfl
    | cons first rest =>
        rw [List.length_cons] at hlength
        have hwrap : wrappingSub (rest.length + 1) 1 = rest.length + 1 - 1 := by
          rw [wrappingSub]
          omega
        rw [List.length_cons, hwrap]
  rw [getStakeReceiver, getIndex, getIndex, hindex]

theorem getStakeReceiver_eq_ok {address : SuiAddress} :
    getStakeReceiver json context.inputs call.arguments = .ok address ↔
      DenotesValidator json context call address := by
  have hlast : call.arguments[call.arguments.length - 1]? = call.arguments.getLast? :=
    List.getLast?_eq_getElem?.symm
  simp only [getStakeReceiver, bind_eq_ok, okOr_eq_ok, pureAddress_eq_ok, getIndex, hlast,
    DenotesValidator]
  constructor
  · rintro ⟨index, ⟨argument, hargument, hindex⟩, input, hinput, pure, rfl, haddress⟩
    cases argument with
    | input found =>
        rw [Except.ok.inj hindex] at hargument
        exact ⟨index, pure, hargument, hinput, haddress⟩
    | gasCoin => cases hindex
    | result command => cases hindex
    | nestedResult command found => cases hindex
  · rintro ⟨index, pure, hargument, hinput, haddress⟩
    exact ⟨index, ⟨.input index, hargument, rfl⟩, .pure pure, hinput, pure, rfl, haddress⟩

theorem display_injective : Function.Injective SuiAddress.display := by
  intro left right heq
  exact Subtype.ext (Hex.encode_injective ((String.append_right_inj _).1 heq))

variable (json context call) in
/-- A stake is always shown, with the default address when there is no other. -/
theorem handleAddStake_isOk :
    ∃ fields, handleAddStake json context call = .ok fields ∧
      expandedAddresses "Validator" fields =
        [SuiAddress.display
          ((getStakeReceiver json context.inputs call.arguments).toOption.getD zeroAddress)] := by
  rw [handleAddStake]
  cases (getStakeAmount json context.commands context.inputs call.arguments).toOption.join with
  | none => exact ⟨_, rfl, rfl⟩
  | some amount =>
      dsimp only
      rw [createAmountField_eq "Amount" (validateNumberString_toString _) (by decide)]
      exact ⟨_, rfl, rfl⟩

/-- The validator is never made up exactly if the last argument names one. -/
theorem noFabrication_iff :
    NoFabrication json context call ↔ ∃ address, DenotesValidator json context call address := by
  obtain ⟨fields, hfields, hvalidators⟩ := handleAddStake_isOk json context call
  constructor
  · intro hhonest
    use (getStakeReceiver json context.inputs call.arguments).toOption.getD zeroAddress
    apply hhonest.shown fields hfields
    rw [hvalidators]
    exact List.mem_singleton_self _
  · rintro ⟨address, haddress⟩
    constructor
    · intro other hother shown hshown
      rw [Except.ok.inj (hother.symm.trans hfields), hvalidators,
        getStakeReceiver_eq_ok.2 haddress, List.mem_singleton] at hshown
      rwa [display_injective hshown]
    · obtain ⟨index, pure, hlast, -⟩ := haddress
      have hpos : 1 ≤ call.arguments.length :=
        List.length_pos_of_ne_nil (List.ne_nil_of_mem (List.mem_of_getLast? hlast))
      rw [usizeSub, if_pos hpos]
      rfl

end Stakes

/-! ## A validator that is the result of a command -/

def stakeCall : SuiProgrammableMoveCall where
  package := ⟨List.replicate 32 3, rfl⟩
  module := "sui_system"
  function := "request_add_stake"
  typeArguments := []
  arguments := [.input 0, .result 0, .result 1]

def stakeContext : VisualizerContext :=
  ⟨zeroAddress, 2, [.splitCoins .gasCoin [.input 1], .publish [], .moveCall stakeCall], []⟩

/-- The default address is shown as the validator. -/
theorem default_validator_shown : ¬ NoFabrication noJson stakeContext stakeCall := by
  intro hhonest
  obtain ⟨fields, hfields, hvalidators⟩ := handleAddStake_isOk noJson stakeContext stakeCall
  obtain ⟨index, pure, hlast, -⟩ := hhonest.shown fields hfields zeroAddress (by
    rw [hvalidators]
    exact List.mem_singleton_self _)
  cases hlast

end VisualSignParser.Sui
