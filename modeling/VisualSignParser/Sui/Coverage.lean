import VisualSignParser.Sui.CoinSemantics
import VisualSignParser.Sui.Convert

/-!
# Which commands are shown

The fields of a payload are grouped by the commands they come from.  Transfers
have a field for each object, calls that an integration lists have one field,
and every other command has none.
-/

namespace VisualSignParser.Sui

open VisualSignParser.Outcome
open VisualSignParser.VisualSign

/-! ## Groups of a pass -/

theorem getElem?_of_forall₂_range {A : Type} {relation : ℕ → A → Prop} {count : ℕ} {groups : List A}
    (hgroups : List.Forall₂ relation (List.range count) groups) {index : ℕ} {group : A}
    (hgroup : groups[index]? = some group) : relation index group := by
  obtain ⟨hindex, rfl⟩ := List.getElem?_eq_some_iff.1 hgroup
  have hcount : index < (List.range count).length := by rwa [hgroups.length_eq]
  have hget := hgroups.get hcount hindex
  rwa [List.get_eq_getElem, List.getElem_range] at hget

theorem decodeWith_groups {visualizers : List CommandVisualizer} {block : SuiTransactionBlockData}
    {commands : List SuiCommand} {inputs : List SuiCallArg} {fields : List AnnotatedPayloadField}
    (hkind : block.transaction = .programmableTransaction commands inputs)
    (hfields : decodeWith visualizers block = .ok fields) :
    ∃ groups : List (List AnnotatedPayloadField), fields = groups.flatten ∧
      groups.length = commands.length ∧
      ∀ index group, groups[index]? = some group →
        visualizeWithAny visualizers ⟨block.sender, index, commands, inputs⟩ = none ∧ group = [] ∨
        ∃ result, visualizeWithAny visualizers ⟨block.sender, index, commands, inputs⟩ =
          some (.ok result) ∧ result.field = group := by
  rw [decodeWith, hkind] at hfields
  simp only [bind_eq_ok, pure_eq_ok] at hfields
  obtain ⟨nested, hnested, rfl⟩ := hfields
  obtain ⟨groups, hflatten, hgroups⟩ := groups_of_mapM_filterMap hnested
  use groups, hflatten, by rw [← hgroups.length_eq, List.length_range]
  intro index group hgroup
  obtain hnone | ⟨outcome, houtcome, hok⟩ := getElem?_of_forall₂_range hgroups hgroup
  · exact .inl hnone
  · obtain ⟨result, hresult, hfield⟩ := map_eq_ok.1 hok
    exact .inr ⟨result, by rw [houtcome, hresult], hfield⟩

theorem visualizeWithAny_eq_none {visualizers : List CommandVisualizer}
    {context : VisualizerContext} :
    visualizeWithAny visualizers context = none ↔
      ∀ visualizer ∈ visualizers, visualizer.canHandle context = false := by
  rw [visualizeWithAny, List.findSome?_eq_none_iff]
  apply forall₂_congr
  intro visualizer _
  cases visualizer.canHandle context with
  | false => simp
  | true => simp

theorem visualizeWithAny_eq_some {visualizers : List CommandVisualizer}
    {context : VisualizerContext} {result : VisualizeResult}
    (hresult : visualizeWithAny visualizers context = some (.ok result)) :
    ∃ visualizer ∈ visualizers, visualizer.canHandle context = true ∧
      visualizer.visualizeTxCommands context = .ok result.field := by
  obtain ⟨visualizer, hvisualizer, hfound⟩ := List.exists_of_findSome?_eq_some hresult
  split_ifs at hfound with hhandles
  obtain ⟨field, hfield, rfl⟩ := map_eq_ok.1 (Option.some.inj hfound)
  exact ⟨visualizer, hvisualizer, hhandles, hfield⟩

/-! ## Listed calls -/

def listedConfigs : List SuiIntegrationConfigData :=
  [cetusConfig, momentumConfig, nativeStakingConfig, suilendConfig]

/-- An integration lists the function of the call. -/
def Listed (call : SuiProgrammableMoveCall) : Prop :=
  ∃ config ∈ listedConfigs,
    config.canHandle (ObjectID.toHexLiteral call.package) call.module call.function = true

instance (call : SuiProgrammableMoveCall) : Decidable (Listed call) :=
  inferInstanceAs (Decidable (∃ config ∈ listedConfigs, _))

section Calls

variable {json : SuiJson} {handlers : Handlers} {context : VisualizerContext}

theorem canHandle_availableVisualizers :
    (∃ visualizer ∈ availableVisualizers json handlers, visualizer.canHandle context = true) ↔
      ∃ call, context.commands[context.commandIndex]? = some (.moveCall call) ∧ Listed call := by
  have hconfigs : (∃ visualizer ∈ availableVisualizers json handlers,
      visualizer.canHandle context = true) ↔
      ∃ config ∈ listedConfigs, configCanHandle config context = true := by
    simp [availableVisualizers, listedConfigs, integration, suiNativeStakingVisualizer]
  rw [hconfigs]
  unfold configCanHandle Listed
  constructor
  · rintro ⟨config, hconfig, hhandles⟩
    split at hhandles
    · rename_i call hcall
      exact ⟨call, hcall, config, hconfig, hhandles⟩
    · cases hhandles
  · rintro ⟨call, hcall, config, hconfig, hhandles⟩
    use config, hconfig
    rw [hcall]
    exact hhandles

theorem length_handleAddStake {call : SuiProgrammableMoveCall}
    {fields : List AnnotatedPayloadField}
    (hfields : handleAddStake json context call = .ok fields) : fields.length = 1 := by
  simp only [handleAddStake] at hfields
  split at hfields
  · simp only [bind_eq_ok, pure_eq_ok] at hfields
    obtain ⟨field, -, shown, -, rfl⟩ := hfields
    rfl
  · simp only [bind_eq_ok, pure_eq_ok] at hfields
    obtain ⟨shown, -, rfl⟩ := hfields
    rfl

/-- Every visualizer shows one field of a call. -/
theorem length_of_availableVisualizers {visualizer : CommandVisualizer}
    (hvisualizer : visualizer ∈ availableVisualizers json handlers)
    {fields : List AnnotatedPayloadField}
    (hfields : visualizer.visualizeTxCommands context = .ok fields) : fields.length = 1 := by
  simp only [availableVisualizers, List.mem_cons, List.not_mem_nil, or_false] at hvisualizer
  obtain rfl | rfl | rfl | rfl := hvisualizer
  · obtain ⟨field, -, rfl⟩ := map_eq_ok.1 hfields
    rfl
  · obtain ⟨field, -, rfl⟩ := map_eq_ok.1 hfields
    rfl
  · simp only [suiNativeStakingVisualizer] at hfields
    split at hfields
    · split at hfields
      · exact length_handleAddStake hfields
      · rw [← Except.ok.inj hfields]
        rfl
      · cases hfields
    · cases hfields
  · obtain ⟨field, -, rfl⟩ := map_eq_ok.1 hfields
    rfl

end Calls

/-! ## Transfers -/

/-- One field for each object, in their order. -/
def TransferFields (json : SuiJson) (context : VisualizerContext) (objects : List SuiArgument)
    (fields : List AnnotatedPayloadField) : Prop :=
  ∃ receiver, List.Forall₂ (fun object field => ∃ sent,
    resolveObject context.commands context.inputs object = .ok sent ∧
    visualizeTransferCommand json context receiver sent object = .ok field) objects fields

theorem transferFields_of_visualize {json : SuiJson} {context : VisualizerContext}
    {objects : List SuiArgument} {recipient : SuiArgument} {fields : List AnnotatedPayloadField}
    (hcommand : context.commands[context.commandIndex]? =
      some (.transferObjects objects recipient))
    (hfields : (coinTransferVisualizer json).visualizeTxCommands context = .ok fields) :
    TransferFields json context objects fields := by
  simp only [coinTransferVisualizer, hcommand, bind_eq_ok, mapM_eq_ok] at hfields
  obtain ⟨receiver, -, sent, hsent, hfields⟩ := hfields
  use receiver
  clear hcommand
  induction hsent generalizing fields with
  | nil =>
      cases hfields
      exact .nil
  | cons hfirst hrest ih =>
      cases hfields with
      | cons hfield hfields => exact .cons ⟨_, hfirst, hfield⟩ (ih hfields)

theorem coinTransfer_canHandle {json : SuiJson} {context : VisualizerContext} :
    (coinTransferVisualizer json).canHandle context = true ↔
      ∃ objects recipient, context.commands[context.commandIndex]? =
        some (.transferObjects objects recipient) := by
  simp only [coinTransferVisualizer]
  constructor
  · intro hhandles
    split at hhandles
    · rename_i objects recipient hcommand
      exact ⟨objects, recipient, hcommand⟩
    · cases hhandles
  · rintro ⟨objects, recipient, hcommand⟩
    rw [hcommand]

/-! ## Coverage -/

/-- The fields of a payload between the network and the details, grouped by the
commands of the two passes. -/
structure Grouped (commands : List SuiCommand) (fields : List SignablePayloadField)
    (transfers calls : List (List AnnotatedPayloadField)) : Prop where
  fields_eq : ∃ network details, fields = network ::
    ((transfers.flatten ++ calls.flatten).map AnnotatedPayloadField.signablePayloadField ++
      [details])
  length_transfers : transfers.length = commands.length
  length_calls : calls.length = commands.length

/-- The command calls code, moves objects or changes packages. -/
def SuiCommand.acts : SuiCommand → Bool
  | .moveCall _ => true
  | .transferObjects _ _ => true
  | .publish _ => true
  | .upgrade _ _ _ => true
  | _ => false

/-- Every command that acts has a field of its own, a transfer one for each of
its objects. -/
def NoHiddenCommand (commands : List SuiCommand) (fields : List SignablePayloadField) : Prop :=
  ∃ transfers calls, Grouped commands fields transfers calls ∧
    ∀ (index : ℕ) command transfer call, commands[index]? = some command →
      transfers[index]? = some transfer → calls[index]? = some call →
      (command.acts = true → transfer ≠ [] ∨ call ≠ []) ∧
      ∀ objects recipient, command = .transferObjects objects recipient →
        transfer.length = objects.length

/-- What the two passes show of one command. -/
structure ShowsCommand (json : SuiJson) (context : VisualizerContext) (command : SuiCommand)
    (transfer call : List AnnotatedPayloadField) : Prop where
  transferred : ∀ objects recipient, command = .transferObjects objects recipient →
    TransferFields json context objects transfer ∧ transfer.length = objects.length
  not_transferred : (∀ objects recipient, command ≠ .transferObjects objects recipient) →
    transfer = []
  listed : ∀ called, command = .moveCall called → Listed called → call.length = 1
  not_listed : (∀ called, command = .moveCall called → ¬ Listed called) → call = []

section Passes

variable (context : VisualizerContext) {json : SuiJson} {handlers : Handlers}
  {visualizers : List CommandVisualizer} {command : SuiCommand}

theorem transfers_of_pass {group : List AnnotatedPayloadField}
    (hcommand : context.commands[context.commandIndex]? = some command)
    (hgroup : visualizeWithAny [coinTransferVisualizer json] context = none ∧ group = [] ∨
      ∃ result, visualizeWithAny [coinTransferVisualizer json] context = some (.ok result) ∧
        result.field = group) :
    (∀ objects recipient, command = .transferObjects objects recipient →
      TransferFields json context objects group ∧ group.length = objects.length) ∧
    ((∀ objects recipient, command ≠ .transferObjects objects recipient) → group = []) := by
  obtain ⟨hnone, rfl⟩ | ⟨result, hresult, rfl⟩ := hgroup
  · have hhandles := visualizeWithAny_eq_none.1 hnone _ (List.mem_singleton_self _)
    apply And.intro _ fun _ => rfl
    rintro objects recipient rfl
    rw [coinTransfer_canHandle.2 ⟨objects, recipient, hcommand⟩] at hhandles
    cases hhandles
  · obtain ⟨visualizer, hvisualizer, hhandles, hfields⟩ := visualizeWithAny_eq_some hresult
    rw [List.mem_singleton.1 hvisualizer] at hhandles hfields
    obtain ⟨objects, recipient, hobjects⟩ := coinTransfer_canHandle.1 hhandles
    obtain rfl := Option.some.inj (hcommand.symm.trans hobjects)
    have htransfers := transferFields_of_visualize hobjects hfields
    constructor
    · rintro _ _ ⟨⟩
      obtain ⟨receiver, hall⟩ := htransfers
      exact ⟨⟨receiver, hall⟩, hall.length_eq.symm⟩
    · intro hother
      exact absurd rfl (hother objects recipient)

theorem calls_of_pass {group : List AnnotatedPayloadField}
    (hvisualizers : visualizers.Perm (availableVisualizers json handlers))
    (hcommand : context.commands[context.commandIndex]? = some command)
    (hgroup : visualizeWithAny visualizers context = none ∧ group = [] ∨
      ∃ result, visualizeWithAny visualizers context = some (.ok result) ∧
        result.field = group) :
    (∀ called, command = .moveCall called → Listed called → group.length = 1) ∧
    ((∀ called, command = .moveCall called → ¬ Listed called) → group = []) := by
  obtain ⟨hnone, rfl⟩ | ⟨result, hresult, rfl⟩ := hgroup
  · apply And.intro _ fun _ => rfl
    rintro called rfl hlisted
    obtain ⟨visualizer, hvisualizer, hhandles⟩ :=
      canHandle_availableVisualizers.2 ⟨called, hcommand, hlisted⟩
    have hrefuses := visualizeWithAny_eq_none.1 hnone visualizer (hvisualizers.mem_iff.2 hvisualizer)
    rw [hhandles] at hrefuses
    cases hrefuses
  · obtain ⟨visualizer, hvisualizer, hhandles, hfields⟩ := visualizeWithAny_eq_some hresult
    have hmem := hvisualizers.mem_iff.1 hvisualizer
    obtain ⟨called, hcalled, hlisted⟩ := canHandle_availableVisualizers.1 ⟨visualizer, hmem, hhandles⟩
    obtain rfl := Option.some.inj (hcommand.symm.trans hcalled)
    apply And.intro fun _ _ _ => length_of_availableVisualizers hmem hfields
    intro hunlisted
    exact absurd hlisted (hunlisted called rfl)

end Passes

/-- A payload shows the commands of its transaction in two groups of fields: the
transfers with a field for each object, and the listed calls with one field.
Other commands have no field. -/
theorem payload_shows_listed_commands {Transaction : Type} (sdk : SuiSdk Transaction)
    (handlers : Handlers) (visualizers : List CommandVisualizer)
    (hvisualizers : visualizers.Perm (availableVisualizers sdk.json handlers))
    (transaction : Transaction) (title : Option String) (payload : SignablePayload)
    (hpayload : convertToVisualSignPayload sdk visualizers transaction true title = .ok payload)
    (block : SuiTransactionBlockData) (hblock : sdk.blockData transaction = .ok block)
    (commands : List SuiCommand) (inputs : List SuiCallArg)
    (hkind : block.transaction = .programmableTransaction commands inputs) :
    ∃ transfers calls, Grouped commands payload.fields transfers calls ∧
      ∀ (index : ℕ) command transfer call, commands[index]? = some command →
        transfers[index]? = some transfer → calls[index]? = some call →
        ShowsCommand sdk.json ⟨block.sender, index, commands, inputs⟩ command transfer call := by
  simp only [convertToVisualSignPayload, bind_eq_ok, mapError_eq_ok, pure_eq_ok,
    if_true] at hpayload
  obtain ⟨_, hother, shownTransfers, htransfers, shownCalls, hcalls, details, -, rfl⟩ := hpayload
  obtain rfl := Except.ok.inj (hblock.symm.trans hother)
  obtain ⟨transfers, rfl, hlengthTransfers, htransferGroups⟩ := decodeWith_groups hkind htransfers
  obtain ⟨calls, rfl, hlengthCalls, hcallGroups⟩ := decodeWith_groups hkind hcalls
  use transfers, calls, ⟨⟨_, _, rfl⟩, hlengthTransfers, hlengthCalls⟩
  intro index command transfer call hcommand htransfer hcall
  obtain ⟨htransferred, hnotTransferred⟩ := transfers_of_pass ⟨block.sender, index, commands, inputs⟩
    hcommand (htransferGroups index transfer htransfer)
  obtain ⟨hlisted, hnotListed⟩ := calls_of_pass ⟨block.sender, index, commands, inputs⟩ hvisualizers
    hcommand (hcallGroups index call hcall)
  exact ⟨htransferred, hnotTransferred, hlisted, hnotListed⟩

/-! ## Two transactions -/

/-- Blocks that are taken as they are. -/
def plainSdk : SuiSdk SuiTransactionBlockData where
  json := plainJson
  blockData := .ok
  encoded _ := none

/-- Handlers for calls that do not occur below. -/
def refusingHandlers : Handlers where
  cetus _ := .error (.missingData "Expected a `MoveCall` for Cetus parsing")
  momentum _ := .error (.missingData "Expected a `MoveCall` for Momentum parsing")
  suilend _ := .error (.missingData "Expected a `MoveCall` for Suilend parsing")

def plainVisualizers : List CommandVisualizer := availableVisualizers plainJson refusingHandlers

def blockOf (commands : List SuiCommand) : SuiTransactionBlockData where
  transaction := .programmableTransaction commands transferInputs
  sender := ⟨List.replicate 32 1, rfl⟩
  gasData := ⟨⟨List.replicate 32 1, rfl⟩, 1000, 2000000⟩

theorem payload_shows_listed_commands_transfer :
    ∃ payload transfers calls,
      convertToVisualSignPayload plainSdk plainVisualizers (blockOf transferCommands) true none =
        .ok payload ∧
      Grouped transferCommands payload.fields transfers calls ∧
      ∃ transfer, transfers[1]? = some transfer ∧ transfer.length = 1 := by
  have hcount : (convertToVisualSignPayload plainSdk plainVisualizers (blockOf transferCommands)
      true none).map (fun payload => payload.fields.length) = .ok 3 := by decide +kernel
  obtain ⟨payload, hpayload, -⟩ := map_eq_ok.1 hcount
  obtain ⟨transfers, calls, hgrouped, hshows⟩ := payload_shows_listed_commands plainSdk
    refusingHandlers plainVisualizers (List.Perm.refl _) (blockOf transferCommands) none payload
    hpayload (blockOf transferCommands) rfl transferCommands transferInputs rfl
  have htransfers : 1 < transfers.length := by
    rw [hgrouped.length_transfers]
    decide
  have hcalls : 1 < calls.length := by
    rw [hgrouped.length_calls]
    decide
  have hshown := hshows 1 _ _ _ rfl (List.getElem?_eq_getElem htransfers)
    (List.getElem?_eq_getElem hcalls)
  exact ⟨payload, transfers, calls, hpayload, hgrouped, _, List.getElem?_eq_getElem htransfers,
    (hshown.transferred _ _ rfl).2⟩

/-- A call that no integration lists. -/
def drainCommands : List SuiCommand :=
  [.moveCall ⟨⟨List.replicate 32 5, rfl⟩, "vault", "drain", [], [.input 2]⟩]

theorem drainCommands_hidden :
    ∃ payload, convertToVisualSignPayload plainSdk plainVisualizers (blockOf drainCommands) true
        none = .ok payload ∧ ¬ NoHiddenCommand drainCommands payload.fields := by
  have hcount : (convertToVisualSignPayload plainSdk plainVisualizers (blockOf drainCommands)
      true none).map (fun payload => payload.fields.length) = .ok 2 := by decide +kernel
  obtain ⟨payload, hpayload, hlength⟩ := map_eq_ok.1 hcount
  use payload, hpayload
  rintro ⟨transfers, calls, hgrouped, hshown⟩
  obtain ⟨network, details, hfields⟩ := hgrouped.fields_eq
  have hempty : (transfers.flatten ++ calls.flatten).length = 0 := by
    rw [hfields, List.length_cons, List.length_append, List.length_map,
      List.length_singleton] at hlength
    omega
  have hgroups := List.append_eq_nil_iff.1 (List.length_eq_zero_iff.1 hempty)
  have htransfers : 0 < transfers.length := by
    rw [hgrouped.length_transfers]
    decide
  have hcalls : 0 < calls.length := by
    rw [hgrouped.length_calls]
    decide
  have hvisible := (hshown 0 _ _ _ rfl (List.getElem?_eq_getElem htransfers)
    (List.getElem?_eq_getElem hcalls)).1 rfl
  obtain htransfer | hcall := hvisible
  · exact htransfer (List.flatten_eq_nil_iff.1 hgroups.1 _ (List.getElem_mem htransfers))
  · exact hcall (List.flatten_eq_nil_iff.1 hgroups.2 _ (List.getElem_mem hcalls))

end VisualSignParser.Sui
