import VisualSignParser.Codec.Chain
import VisualSignParser.Sui.CoinTransfer

/-!
# Coins behind references

A coin is named by a reference to the command that made it, and a split or a merge
names the coin it works on in the same way.  References form chains that the sender
chooses, cycles among them, and the walk along a chain has a budget of hops.  What it
finds is compared with the chain itself, which has no budget.
-/

namespace VisualSignParser.Sui

open VisualSignParser.Chain
open VisualSignParser.VisualSign

/-- The command whose result the argument is. -/
def SuiArgument.producer? : SuiArgument → Option UInt16
  | .result command => some command
  | .nestedResult command _ => some command
  | _ => none

/-- The coin that a split or a merge works on. -/
def SuiCommand.source? : SuiCommand → Option SuiArgument
  | .splitCoins coin _ => some coin
  | .mergeCoins coin _ => some coin
  | _ => none

section Walk

variable (commands : List SuiCommand) (inputs : List SuiCallArg)

/-- One hop, from the result of a split or a merge to its coin. -/
def hop (argument : SuiArgument) : Option SuiArgument := do
  let command ← argument.producer?
  let command ← commands[command.toNat]?
  command.source?

/-- The coin that the argument comes from, and how many references lead there. -/
inductive Origin : SuiArgument → ℕ → CoinObject → Prop where
  | gasCoin : Origin .gasCoin 0 .sui
  | object {index : UInt16} {arg : SuiObjectArg}
      (hinput : inputs[index.toNat]? = some (.object arg)) :
      Origin (.input index) 0 (.unknownObject (ObjectID.toHex arg.objectId))
  | moveCall {argument : SuiArgument} {command : UInt16} {call : SuiProgrammableMoveCall}
      (hproducer : argument.producer? = some command)
      (hcommand : commands[command.toNat]? = some (.moveCall call)) :
      Origin argument 1 (.unknownObject "Unknown")
  | hop {argument coin : SuiArgument} {hops : ℕ} {origin : CoinObject}
      (hhop : hop commands argument = some coin) (horigin : Origin coin hops origin) :
      Origin argument (hops + 1) origin

/-- After the given number of hops the chain goes on with another reference. -/
def LongerThan (hops : ℕ) (argument : SuiArgument) : Prop :=
  ∃ last, after (hop commands) hops argument = some last ∧ last.producer?.isSome

def chainTooLong : VisualSignError :=
  .validationError ("Sui coin reference chain exceeded max depth of " ++
    toString maxResolveObjectDepth ++ " hops (possible cycle)")

def resolveInput (index : UInt16) : Except VisualSignError CoinObject :=
  match inputs[index.toNat]? with
  | none => .error (.missingData "Input not found")
  | some (.object arg) => .ok (.unknownObject (ObjectID.toHex arg.objectId))
  | some (.pure _) => .error (.parseError (.unsupportedVersion
      "Parsing Sui native transfer input expected `Object`"))

def stepReference (command : UInt16) :
    ℕ → (SuiArgument × ℕ) ⊕ Except VisualSignError CoinObject
  | 0 => .inr (.error chainTooLong)
  | hopsRemaining + 1 => match commands[command.toNat]? with
    | none => .inr (.error (.missingData "Result command not found"))
    | some (.splitCoins coin _) => .inl (coin, hopsRemaining)
    | some (.mergeCoins coin _) => .inl (coin, hopsRemaining)
    | some (.moveCall _) => .inr (.ok (.unknownObject "Unknown"))
    | some _ => .inr (.error (.parseError (.unsupportedVersion
        "Parsing Sui native transfer expected `SplitCoins` or `MergeCoins`")))

/-- The body of the loop: the current argument and the hops that remain. -/
def resolveStep : SuiArgument × ℕ → (SuiArgument × ℕ) ⊕ Except VisualSignError CoinObject
  | (.gasCoin, _) => .inr (.ok .sui)
  | (.input index, _) => .inr (resolveInput inputs index)
  | (.result command, hopsRemaining) => stepReference commands command hopsRemaining
  | (.nestedResult command _, hopsRemaining) => stepReference commands command hopsRemaining

end Walk

variable {commands : List SuiCommand} {inputs : List SuiCallArg}
variable {argument coin : SuiArgument} {command : UInt16} {budget hops : ℕ} {origin : CoinObject}

/-! ## One hop -/

/-- A reference leads to the coin that the command of the reference takes, if that
command exists and takes one. -/
theorem hop_eq_some_iff : hop commands argument = some coin ↔
    ∃ command producer, argument.producer? = some command ∧
      commands[command.toNat]? = some producer ∧ producer.source? = some coin := by
  simp only [hop, bind, Option.bind_eq_some_iff]
  constructor
  · rintro ⟨command, hproducer, producer, hcommand, hsource⟩
    exact ⟨command, producer, hproducer, hcommand, hsource⟩
  · rintro ⟨command, producer, hproducer, hcommand, hsource⟩
    exact ⟨command, hproducer, producer, hcommand, hsource⟩

theorem resolveObjectWithin_gasCoin :
    resolveObjectWithin commands inputs budget .gasCoin = .ok .sui := by
  cases budget <;> rfl

theorem resolveObjectWithin_input (index : UInt16) :
    resolveObjectWithin commands inputs budget (.input index) = resolveInput inputs index := by
  cases budget <;> rfl

/-- Without a budget, a reference to a result is too long a chain, whatever the
command does. -/
theorem resolveObjectWithin_zero (hproducer : argument.producer? = some command) :
    resolveObjectWithin commands inputs 0 argument = .error chainTooLong := by
  cases argument with
  | gasCoin => cases hproducer
  | input index => cases hproducer
  | result command => rfl
  | nestedResult command index => rfl

/-- With a budget, a reference to a result is resolved through the command that
produces it, at one less. -/
theorem resolveObjectWithin_succ (hproducer : argument.producer? = some command) :
    resolveObjectWithin commands inputs (budget + 1) argument =
      followProducer (resolveObjectWithin commands inputs budget) commands[command.toNat]? := by
  cases argument with
  | gasCoin => cases hproducer
  | input index => cases hproducer
  | result producer => rw [← Option.some.inj hproducer, resolveObjectWithin]
  | nestedResult producer index => rw [← Option.some.inj hproducer, resolveObjectWithin]

theorem followProducer_source {next : SuiArgument → Except VisualSignError CoinObject}
    {producer : SuiCommand} (hsource : producer.source? = some coin) :
    followProducer next (some producer) = next coin := by
  cases producer with
  | splitCoins source amounts => rw [followProducer, Option.some.inj hsource]
  | mergeCoins source sources => rw [followProducer, Option.some.inj hsource]
  | moveCall call => cases hsource
  | transferObjects objects recipient => cases hsource
  | publish dependencies => cases hsource
  | upgrade dependencies package ticket => cases hsource
  | makeMoveVec type elements => cases hsource

theorem resolveObjectWithin_hop (hhop : hop commands argument = some coin) :
    resolveObjectWithin commands inputs (budget + 1) argument =
      resolveObjectWithin commands inputs budget coin := by
  obtain ⟨command, producer, hproducer, hcommand, hsource⟩ := hop_eq_some_iff.1 hhop
  rw [resolveObjectWithin_succ hproducer, hcommand, followProducer_source hsource]

/-! ## What the walk finds -/

/-- A coin that is reached in a number of hops is found with every budget of at
least that many. -/
theorem Origin.resolves (horigin : Origin commands inputs argument hops origin)
    (hbudget : hops ≤ budget) :
    resolveObjectWithin commands inputs budget argument = .ok origin := by
  induction horigin generalizing budget with
  | gasCoin => exact resolveObjectWithin_gasCoin
  | object hinput => rw [resolveObjectWithin_input, resolveInput, hinput]
  | moveCall hproducer hcommand =>
      obtain ⟨rest, rfl⟩ := Nat.exists_eq_add_of_le' hbudget
      rw [resolveObjectWithin_succ hproducer, hcommand, followProducer]
  | hop hhop horigin ih =>
      obtain ⟨rest, rfl⟩ := Nat.exists_eq_add_of_le' hbudget
      rw [← Nat.add_assoc, resolveObjectWithin_hop hhop]
      exact ih (by omega)

/-- What the command leads to is a coin to go on with or an origin. -/
theorem followProducer_eq_ok {next : SuiArgument → Except VisualSignError CoinObject}
    {producer : Option SuiCommand} (hok : followProducer next producer = .ok origin) :
    (∃ coin, producer.bind SuiCommand.source? = some coin ∧ next coin = .ok origin) ∨
      ∃ call, producer = some (.moveCall call) ∧ origin = .unknownObject "Unknown" := by
  cases producer with
  | none => cases hok
  | some producer =>
      cases producer with
      | splitCoins coin amounts => exact .inl ⟨coin, rfl, hok⟩
      | mergeCoins coin sources => exact .inl ⟨coin, rfl, hok⟩
      | moveCall call => exact .inr ⟨call, rfl, (Except.ok.inj hok).symm⟩
      | transferObjects objects recipient => cases hok
      | publish dependencies => cases hok
      | upgrade dependencies package ticket => cases hok
      | makeMoveVec type elements => cases hok

theorem hop_of_producer (hproducer : argument.producer? = some command) :
    hop commands argument = commands[command.toNat]?.bind SuiCommand.source? := by
  simp only [hop, hproducer, bind, Option.bind_some]

theorem origin_of_resolveInput {index : UInt16} (hok : resolveInput inputs index = .ok origin) :
    Origin commands inputs (.input index) 0 origin := by
  rw [resolveInput] at hok
  cases hinput : inputs[index.toNat]? with
  | none => rw [hinput] at hok; cases hok
  | some input =>
      rw [hinput] at hok
      cases input with
      | object arg =>
          rw [← Except.ok.inj hok]
          exact .object hinput
      | pure value => cases hok

theorem origin_of_direct (hproducer : argument.producer? = none)
    (hok : resolveObjectWithin commands inputs budget argument = .ok origin) :
    Origin commands inputs argument 0 origin := by
  cases argument with
  | gasCoin =>
      rw [resolveObjectWithin_gasCoin] at hok
      rw [← Except.ok.inj hok]
      exact .gasCoin
  | input index =>
      rw [resolveObjectWithin_input] at hok
      exact origin_of_resolveInput hok
  | result command => cases hproducer
  | nestedResult command index => cases hproducer

/-- What is found with a budget is reached in at most that many hops, by induction
on the budget. -/
theorem origin_of_resolves (budget : ℕ) (argument : SuiArgument)
    (hok : resolveObjectWithin commands inputs budget argument = .ok origin) :
    ∃ hops ≤ budget, Origin commands inputs argument hops origin := by
  induction budget generalizing argument with
  | zero =>
      cases hproducer : argument.producer? with
      | none => exact ⟨0, le_rfl, origin_of_direct hproducer hok⟩
      | some command =>
          rw [resolveObjectWithin_zero hproducer] at hok
          cases hok
  | succ budget ih =>
      cases hproducer : argument.producer? with
      | none => exact ⟨0, Nat.zero_le _, origin_of_direct hproducer hok⟩
      | some command =>
          rw [resolveObjectWithin_succ hproducer] at hok
          rcases followProducer_eq_ok hok with ⟨coin, hsource, hcoin⟩ | ⟨call, hcall, rfl⟩
          · obtain ⟨hops, hle, horigin⟩ := ih coin hcoin
            have hhop : hop commands argument = some coin :=
              (hop_of_producer hproducer).trans hsource
            exact ⟨hops + 1, Nat.succ_le_succ hle, .hop hhop horigin⟩
          · exact ⟨1, Nat.le_add_left 1 budget, .moveCall hproducer hcall⟩

/-- The walk finds a coin exactly if it is the origin within the budget. -/
theorem resolveObjectWithin_eq_ok_iff :
    resolveObjectWithin commands inputs budget argument = .ok origin ↔
      ∃ hops ≤ budget, Origin commands inputs argument hops origin := by
  constructor
  · exact origin_of_resolves budget argument
  · rintro ⟨hops, hle, horigin⟩
    exact horigin.resolves hle

/-! ## Chains that are too long -/

/-- Following a producer reports too long a chain only if the coin it takes is
reported so. -/
theorem followProducer_eq_chainTooLong
    {next : SuiArgument → Except VisualSignError CoinObject} {producer : Option SuiCommand} :
    followProducer next producer = .error chainTooLong ↔
      ∃ coin, producer.bind SuiCommand.source? = some coin ∧ next coin = .error chainTooLong := by
  cases producer with
  | none => simp [followProducer, chainTooLong]
  | some producer =>
      cases producer <;> simp [followProducer, SuiCommand.source?, chainTooLong]

theorem resolveInput_ne_chainTooLong (index : UInt16) :
    resolveInput inputs index ≠ .error chainTooLong := by
  rw [resolveInput]
  split <;> simp [chainTooLong]

theorem resolveObjectWithin_ne_chainTooLong (hproducer : argument.producer? = none) :
    resolveObjectWithin commands inputs budget argument ≠ .error chainTooLong := by
  cases argument with
  | gasCoin =>
      rw [resolveObjectWithin_gasCoin]
      exact fun heq => by cases heq
  | input index =>
      rw [resolveObjectWithin_input]
      exact resolveInput_ne_chainTooLong index
  | result command => cases hproducer
  | nestedResult command index => cases hproducer

theorem longerThan_zero_iff : LongerThan commands 0 argument ↔ argument.producer?.isSome := by
  simp [LongerThan, after]

/-- A chain is longer than a number of hops and one more if it leads on to a chain
that is longer than the number. -/
theorem longerThan_succ_iff : LongerThan commands (budget + 1) argument ↔
    ∃ coin, hop commands argument = some coin ∧ LongerThan commands budget coin := by
  simp only [LongerThan, after, Option.bind_eq_some_iff]
  constructor
  · rintro ⟨last, ⟨coin, hhop, hlast⟩, hproducer⟩
    exact ⟨coin, hhop, last, hlast, hproducer⟩
  · rintro ⟨coin, hhop, last, hlast, hproducer⟩
    exact ⟨last, ⟨coin, hhop, hlast⟩, hproducer⟩

theorem isSome_producer_of_hop (hhop : hop commands argument = some coin) :
    argument.producer?.isSome := by
  obtain ⟨command, producer, hproducer, hcommand, hsource⟩ := hop_eq_some_iff.1 hhop
  rw [hproducer, Option.isSome_some]

/-- The walk gives up exactly if the chain goes on after the budget. -/
theorem resolveObjectWithin_eq_chainTooLong_iff (budget : ℕ) (argument : SuiArgument) :
    resolveObjectWithin commands inputs budget argument = .error chainTooLong ↔
      LongerThan commands budget argument := by
  induction budget generalizing argument with
  | zero =>
      rw [longerThan_zero_iff]
      cases hproducer : argument.producer? with
      | none => exact iff_of_false (resolveObjectWithin_ne_chainTooLong hproducer) (by simp)
      | some command => exact iff_of_true (resolveObjectWithin_zero hproducer) rfl
  | succ budget ih =>
      rw [longerThan_succ_iff]
      cases hproducer : argument.producer? with
      | none =>
          apply iff_of_false (resolveObjectWithin_ne_chainTooLong hproducer)
          rintro ⟨coin, hhop, _⟩
          have hsome := isSome_producer_of_hop hhop
          rw [hproducer] at hsome
          cases hsome
      | some command =>
          rw [resolveObjectWithin_succ hproducer, followProducer_eq_chainTooLong,
            hop_of_producer hproducer]
          exact exists_congr fun coin => and_congr_right fun _ => ih coin

/-- A chain that comes back to a reference is longer than any budget. -/
theorem longerThan_of_revisits (hrevisits : Revisits (hop commands) argument) (budget : ℕ) :
    LongerThan commands budget argument := by
  obtain ⟨last, hlast⟩ := Option.isSome_iff_exists.1 (hrevisits.isSome_after budget)
  obtain ⟨coin, hcoin⟩ := Option.isSome_iff_exists.1
    (isSome_next_of_after hlast (hrevisits.isSome_after (budget + 1)))
  exact ⟨last, hlast, isSome_producer_of_hop hcoin⟩

/-- A coin that is reached in more hops than the budget has too long a chain for it. -/
theorem Origin.longerThan (horigin : Origin commands inputs argument hops origin)
    (hbudget : budget < hops) : LongerThan commands budget argument := by
  induction horigin generalizing budget with
  | gasCoin => omega
  | object hinput => omega
  | moveCall hproducer hcommand =>
      rw [Nat.lt_one_iff.1 hbudget, longerThan_zero_iff, hproducer, Option.isSome_some]
  | hop hhop horigin ih =>
      cases budget with
      | zero => exact longerThan_zero_iff.2 (isSome_producer_of_hop hhop)
      | succ budget =>
          exact longerThan_succ_iff.2 ⟨_, hhop, ih (Nat.lt_of_succ_lt_succ hbudget)⟩

/-! ## The loop -/

theorem resolveStep_reference (hproducer : argument.producer? = some command) :
    resolveStep commands inputs (argument, hops) = stepReference commands command hops := by
  cases argument with
  | gasCoin => cases hproducer
  | input index => cases hproducer
  | result producer => rw [← Option.some.inj hproducer, resolveStep]
  | nestedResult producer index => rw [← Option.some.inj hproducer, resolveStep]

/-- A round with a reference returns, or it goes on with one hop less. -/
theorem stepReference_cases (commands : List SuiCommand) (command : UInt16) (hops : ℕ) :
    (∃ coin, commands[command.toNat]?.bind SuiCommand.source? = some coin ∧
      stepReference commands command (hops + 1) = .inl (coin, hops)) ∨
    (∀ next, stepReference commands command (hops + 1) =
      .inr (followProducer next commands[command.toNat]?)) := by
  rw [stepReference]
  cases commands[command.toNat]? with
  | none => exact .inr fun next => rfl
  | some producer =>
      cases producer with
      | splitCoins coin amounts => exact .inl ⟨coin, rfl, rfl⟩
      | mergeCoins coin sources => exact .inl ⟨coin, rfl, rfl⟩
      | moveCall call => exact .inr fun next => rfl
      | transferObjects objects recipient => exact .inr fun next => rfl
      | publish dependencies => exact .inr fun next => rfl
      | upgrade dependencies package ticket => exact .inr fun next => rfl
      | makeMoveVec type elements => exact .inr fun next => rfl

theorem returns_of_direct (hproducer : argument.producer? = none) :
    Returns (resolveStep commands inputs) (argument, hops) 1
      (resolveObjectWithin commands inputs hops argument) := by
  cases argument with
  | gasCoin =>
      rw [resolveObjectWithin_gasCoin]
      exact .done rfl
  | input index =>
      rw [resolveObjectWithin_input]
      exact .done rfl
  | result command => cases hproducer
  | nestedResult command index => cases hproducer

/-- The loop ends, one round later than the last hop of its budget if not before. -/
theorem returns_resolveObjectWithin (commands : List SuiCommand) (inputs : List SuiCallArg)
    (hops : ℕ) (argument : SuiArgument) :
    ∃ rounds ≤ hops + 1, Returns (resolveStep commands inputs) (argument, hops) rounds
      (resolveObjectWithin commands inputs hops argument) := by
  induction hops generalizing argument with
  | zero =>
      cases hproducer : argument.producer? with
      | none => exact ⟨1, le_rfl, returns_of_direct hproducer⟩
      | some command =>
          rw [resolveObjectWithin_zero hproducer]
          exact ⟨1, le_rfl, .done (resolveStep_reference hproducer)⟩
  | succ hops ih =>
      cases hproducer : argument.producer? with
      | none => exact ⟨1, by omega, returns_of_direct hproducer⟩
      | some command =>
          rcases stepReference_cases commands command hops with ⟨coin, hsource, hstep⟩ | hstep
          · obtain ⟨rounds, hrounds, hreturns⟩ := ih coin
            rw [resolveObjectWithin_hop ((hop_of_producer hproducer).trans hsource)]
            exact ⟨rounds + 1, Nat.succ_le_succ hrounds,
              .again ((resolveStep_reference hproducer).trans hstep) hreturns⟩
          · rw [resolveObjectWithin_succ hproducer]
            exact ⟨1, by omega, .done ((resolveStep_reference hproducer).trans (hstep _))⟩

/-! ## Coin references are resolved -/

/-- The loop ends within 33 rounds.  It returns the origin of a coin that is at most 32
references away, and an error of its own for a chain that goes on or comes back. -/
theorem resolveObject_correct (commands : List SuiCommand) (inputs : List SuiCallArg)
    (object : SuiArgument) :
    (∃ rounds ≤ maxResolveObjectDepth + 1, ∀ count result,
      Returns (resolveStep commands inputs) (object, maxResolveObjectDepth) count result ↔
        rounds = count ∧ resolveObject commands inputs object = result) ∧
    (∀ coin, resolveObject commands inputs object = .ok coin ↔
      ∃ hops ≤ maxResolveObjectDepth, Origin commands inputs object hops coin) ∧
    (resolveObject commands inputs object = .error chainTooLong ↔
      LongerThan commands maxResolveObjectDepth object) ∧
    (∀ hops coin, Origin commands inputs object hops coin → maxResolveObjectDepth < hops →
      LongerThan commands maxResolveObjectDepth object) ∧
    (Revisits (hop commands) object → LongerThan commands maxResolveObjectDepth object) := by
  refine ⟨?_, fun coin => resolveObjectWithin_eq_ok_iff,
    resolveObjectWithin_eq_chainTooLong_iff _ object, fun hops coin horigin hlonger =>
      horigin.longerThan hlonger, fun hrevisits => longerThan_of_revisits hrevisits _⟩
  obtain ⟨rounds, hrounds, hreturns⟩ :=
    returns_resolveObjectWithin commands inputs maxResolveObjectDepth object
  refine ⟨rounds, hrounds, fun count result => ⟨hreturns.unique, ?_⟩⟩
  rintro ⟨rfl, rfl⟩
  exact hreturns

end VisualSignParser.Sui
