import VisualSignParser.Codec.Pointwise
import VisualSignParser.Codec.Traced
import VisualSignParser.Solana.InnerInstructions

/-!
# Nested instructions

Two visualizers open other instructions and hand them to all visualizers again,
themselves included.  Runs are therefore made with fuel, and every call of a
visualizer is recorded.  The depth grows with every level, and at the limit
nothing is opened any more: a run from depth zero ends, no call is deeper than
the limit, and a wrapper at the limit still has a field.
-/

namespace VisualSignParser.Solana

open VisualSignParser.Framing
open VisualSignParser.Cursor
open VisualSignParser.VisualSign

/-! ## Runs -/

inductive Wrapper where
  | squads
  | swig
  deriving DecidableEq

/-- A call of a visualizer: its depth, the wrapper that was called, and whether
there is a field. -/
structure Invocation where
  depth : ℕ
  wrapper : Option Wrapper
  shown : Bool

abbrev Run := Traced Invocation

/-- How an instruction may end in `visualize_with_any`. -/
abbrev Visualized := Option (Except VisualSignError VisualizeResult)

/-- Every call of the visualizer is recorded when it returns. -/
def recorded (wrapper : Option Wrapper) (visualizer : InstructionVisualizer Run) :
    InstructionVisualizer Run where
  canHandle := visualizer.canHandle
  visualizeTxCommands context := do
    let result ← visualizer.visualizeTxCommands context
    Traced.emit ⟨context.callDepth, wrapper, result.toBool⟩
    return result
  kind := visualizer.kind

/-- What is called in other crates, and what is left open of the wrappers. -/
structure PresetCrates where
  registry : Crates
  parser : IdlParser
  squads : Squads.SquadsCrates
  native : Swig.NativeCrates
  swig : Swig.SwigDisplay

/-- A visualizer in front of the last one: a wrapper, or any that does not nest. -/
inductive Preset where
  | squads
  | swig
  | plain (visualizer : InstructionVisualizer Id)

section Runs

variable (crates : PresetCrates)

/-- The last visualizer as it is called from a list. -/
def unknownVisualizer : InstructionVisualizer Run where
  canHandle _ := true
  visualizeTxCommands context :=
    pure (.ok (UnknownProgram.visualizeTxCommands crates.registry crates.parser context))
  kind := .payments "UnknownProgram"

/-- The last visualizer as it is called in place of one that failed. -/
def unknownProgram (context : VisualizerContext) : Run AnnotatedPayloadField := do
  Traced.emit ⟨context.callDepth, none, true⟩
  return UnknownProgram.visualizeTxCommands crates.registry crates.parser context

def Preset.visualizer (inner : VisualizerContext → Run Visualized) :
    Preset → InstructionVisualizer Run
  | squads => recorded (some .squads)
      (Squads.visualizer crates.squads crates.parser inner (unknownProgram crates))
  | swig => recorded (some .swig) (Swig.visualizer crates.native crates.swig inner Traced.stuck)
  | plain visualizer => recorded none
      ⟨visualizer.canHandle, fun context => pure (visualizer.visualizeTxCommands context).run,
        visualizer.kind⟩

variable (presets : List Preset)

/-- The visualizers in the order of the build, the catch-all last. -/
def availableVisualizers (inner : VisualizerContext → Run Visualized) :
    List (InstructionVisualizer Run) :=
  presets.map (Preset.visualizer crates inner) ++ [recorded none (unknownVisualizer crates)]

/-- `visualize_with_any` over the available visualizers, with fuel for the levels. -/
def visualizeNested : (fuel : ℕ) → VisualizerContext → Run Visualized
  | 0, _ => Traced.stuck
  | fuel + 1, context =>
      visualizeWithAny (availableVisualizers crates presets (visualizeNested fuel)) context

end Runs

/-! ## What a call may do -/

/-- No call is deeper than the limit, and a wrapper at the limit has a field. -/
def Invocation.Allowed (call : Invocation) : Prop :=
  call.depth ≤ maxCallDepth ∧
    (call.depth = maxCallDepth → call.wrapper.isSome = true → call.shown = true)

/-- The inner calls of a context: one level deeper, with all positions resolved. -/
def InnerMeets (inner : VisualizerContext → Run Visualized) (callDepth : ℕ) : Prop :=
  callDepth < maxCallDepth → ∀ context : VisualizerContext,
    context.callDepth = saturatingAdd callDepth 1 → context.Resolves →
    (inner context).Meets Invocation.Allowed fun _ => True

theorem saturatingAdd_of_lt {callDepth : ℕ} (hdepth : callDepth < maxCallDepth) :
    saturatingAdd callDepth 1 = callDepth + 1 := by
  unfold maxCallDepth at hdepth
  unfold saturatingAdd
  omega

/-- An instruction that is recorded behind its display keeps the rule of the trace:
its call depth is within the limit, and a wrapper at the limit is shown. -/
theorem meets_recorded {wrapper : Option Wrapper} {visualizer : InstructionVisualizer Run}
    {context : VisualizerContext} {Required : Except VisualSignError AnnotatedPayloadField → Prop}
    (hdepth : context.callDepth ≤ maxCallDepth)
    (hvisualizer : (visualizer.visualizeTxCommands context).Meets Invocation.Allowed Required)
    (hshown : context.callDepth = maxCallDepth → wrapper.isSome = true →
      ∀ result, Required result → result.toBool = true) :
    ((recorded wrapper visualizer).visualizeTxCommands context).Meets Invocation.Allowed
      Required := by
  apply hvisualizer.bind
  intro result hresult
  have hcall : Invocation.Allowed ⟨context.callDepth, wrapper, result.toBool⟩ :=
    ⟨hdepth, fun hlimit hwrapper => hshown hlimit hwrapper result hresult⟩
  apply (Traced.meets_emit hcall).bind
  intro _ _
  exact Traced.meets_pure hresult

/-- The visualizer of last resort records one invocation and calls no other
visualizer, so it can stand at the limit as well. -/
theorem meets_unknownProgram (crates : PresetCrates) {context : VisualizerContext}
    (hdepth : context.callDepth ≤ maxCallDepth) :
    (unknownProgram crates context).Meets Invocation.Allowed fun field =>
      field = UnknownProgram.visualizeTxCommands crates.registry crates.parser context := by
  apply (Traced.meets_emit ⟨hdepth, fun _ hwrapper => absurd hwrapper Bool.false_ne_true⟩).bind
  intro _ _
  exact Traced.meets_pure rfl

/-! ## Squads -/

/-- The field an inner instruction of a vault transaction is shown with. -/
def InnerShown (crates : PresetCrates) (inner : VisualizerContext → Run Visualized)
    (context : VisualizerContext) (sender : SolanaAccount) (found : Instruction × ℕ)
    (field : AnnotatedPayloadField) : Prop :=
  match rebuildCompiled found.1 with
  | none => field = createTextField ("Inner Instruction " ++ toString (found.2 + 1))
      "<unrenderable: too many accounts to index>"
  | some rebuilt => ∃ outcome events,
      (inner (Squads.innerContext context sender rebuilt found.2)).outcome =
        some (outcome, events) ∧
      field = match outcome with
        | some (.ok result) => result.field
        | _ => UnknownProgram.visualizeTxCommands crates.registry crates.parser
            (Squads.innerContext context sender rebuilt found.2)

/-- The parsed instruction creates a vault transaction: its arguments hold the
encoded message, as hex digits, and the index of a vault. -/
structure CreatesTransaction (parsed : SolanaParsedInstructionData) (args : Json.Value)
    (wire : WireMessage) (vaultIndex : UInt8) : Prop where
  name : parsed.instructionName = "vaultTransactionCreate"
  arguments : (parsed.programCallArgs.find? fun member => member.1 = "args") = some ("args", args)
  message : ∃ messageHex, getMember "transactionMessage" args = some (.string messageHex) ∧
    Hex.decode (utf8Bytes messageHex) = .ok wire.encode
  index : (getMember "vaultIndex" args).bind Sui.asU64 = some vaultIndex.toNat

/-- The instruction of the context, which the IDL of the program decodes, carries
the message. -/
structure CarriesMessage (crates : PresetCrates) (context : VisualizerContext)
    (parsed : SolanaParsedInstructionData) (wire : WireMessage) : Prop where
  resolves : context.Resolves
  length : 8 ≤ context.data.length
  decoded : ∃ idl, crates.squads.idl = some idl ∧
    crates.parser.parseInstructionWithIdl context.data Squads.squadsMultisigProgramId idl =
      some parsed
  carries : ∃ args vaultIndex, CreatesTransaction parsed args wire vaultIndex

/-- What can be opened without lookup tables: the counts of the header fit the
keys, and every position has a key in the message itself. -/
structure SelfContained (message : VaultTransactionMessage) : Prop where
  header : Squads.HeaderConsistent message
  inRange : ∀ ci ∈ message.instructions, Squads.InRange message ci

/-- The field for one instruction of a message: all visualizers are asked for it,
one level deeper, and if they fail the last one shows it. -/
def WrappedShown (crates : PresetCrates) (inner : VisualizerContext → Run Visualized)
    (context : VisualizerContext) (message : VaultTransactionMessage)
    (ci : MultisigCompiledInstruction) (field : AnnotatedPayloadField) : Prop :=
  ∃ program keys nested outcome events, Squads.Names message ci program keys ∧
    nested.StandsFor program keys ci.data ∧ nested.callDepth = context.callDepth + 1 ∧
    (inner nested).outcome = some (outcome, events) ∧
    field = match outcome with
      | some (.ok result) => result.field
      | _ => UnknownProgram.visualizeTxCommands crates.registry crates.parser nested

/-- The wrapper is shown as a vault transaction: behind its own fields there is
one field for each instruction of the message, in order. -/
def OpenedAs (crates : PresetCrates) (inner : VisualizerContext → Run Visualized)
    (context : VisualizerContext) (parsed : SolanaParsedInstructionData)
    (message : VaultTransactionMessage)
    (result : Except VisualSignError AnnotatedPayloadField) : Prop :=
  ∃ programId namedAccounts vault innerFields,
    result = .ok (Squads.instructionField context programId
      (Squads.vaultTransactionFields parsed namedAccounts programId vault innerFields)) ∧
    List.Forall₂ (Squads.Assigns message) message.instructions vault.innerInstructions ∧
    List.Forall₂ (WrappedShown crates inner context message) message.instructions innerFields

/-- The wrapper is shown by its arguments, with the message as it was written. -/
def LeftClosed (context : VisualizerContext) (parsed : SolanaParsedInstructionData)
    (result : Except VisualSignError AnnotatedPayloadField) : Prop :=
  ∃ programId namedAccounts, result = .ok (Squads.instructionField context programId
    (Squads.buildGenericFields parsed namedAccounts programId))

/-! ### Messages and their instructions -/

section Messages

variable {parsed : SolanaParsedInstructionData} {args : Json.Value} {wire : WireMessage}
  {vaultIndex : UInt8}

/-- The vault transaction of an instruction that carries a message. -/
theorem vaultTransactionOf_of_creates (hcarries : CreatesTransaction parsed args wire vaultIndex) :
    Squads.vaultTransactionOf parsed =
      (Squads.reconstructInstructions wire.message).toOption.map fun innerInstructions =>
        ⟨innerInstructions, vaultIndex, ((getMember "memo" args).bind asStr).getD "None"⟩ := by
  obtain ⟨messageHex, hmember, hhex⟩ := hcarries.message
  have hmessage : VaultTransactionMessage.deserialize wire.encode = .ok wire.message :=
    VaultTransactionMessage.deserialize_eq_ok_iff.2 ⟨wire, rfl, rfl⟩
  obtain ⟨index, hindex, hvalue⟩ := Option.bind_eq_some_iff.1 hcarries.index
  rw [Squads.vaultTransactionOf, if_pos hcarries.name]
  simp only [Squads.readVaultTransaction, hcarries.arguments, hmember, hindex, hhex, hmessage, hvalue,
    asStr, Option.map_some, Option.bind_eq_bind, Option.bind_some, Except.toOption,
    UInt8.toNat_lt, if_true, UInt8.ofNat_toNat]
  cases Squads.reconstructInstructions wire.message <;> rfl

/-- A vault message is complete in itself exactly if the source rebuilds its
instructions, which needs every position to have a key. -/
theorem selfContained_iff {message : VaultTransactionMessage} :
    SelfContained message ↔
      ∃ instructions, Squads.reconstructInstructions message = .ok instructions := by
  rw [Squads.exists_reconstructInstructions_iff]
  exact ⟨fun hself => ⟨hself.header, hself.inRange⟩, fun hself => ⟨hself.1, hself.2⟩⟩

end Messages

section Squads

variable (crates : PresetCrates) {inner : VisualizerContext → Run Visualized}
  {context : VisualizerContext}

/-- What is shown for a rebuilt instruction is shown for what the message names. -/
theorem wrappedShown_of_innerShown (hdepth : context.callDepth < maxCallDepth)
    {message : VaultTransactionMessage} {ci : MultisigCompiledInstruction} (hfits : ci.Fits)
    {instruction : Instruction} (hassigns : Squads.Assigns message ci instruction)
    {sender : SolanaAccount} {index : ℕ} {field : AnnotatedPayloadField}
    (hshown : InnerShown crates inner context sender (instruction, index) field) :
    WrappedShown crates inner context message ci field := by
  have hlength : instruction.accounts.length < 2 ^ 8 :=
    hassigns.accounts.length_eq ▸ hfits.accountIndexes
  obtain ⟨rebuilt, hrebuilt⟩ : ∃ rebuilt, rebuildCompiled instruction = some rebuilt :=
    ⟨_, if_pos hlength⟩
  simp only [InnerShown, hrebuilt] at hshown
  obtain ⟨outcome, events, houtcome, hfield⟩ := hshown
  have hkeys : Squads.Names message ci instruction.programId
      (instruction.accounts.map AccountMeta.pubkey) := by
    refine ⟨hassigns.program, ?_⟩
    rw [List.forall₂_map_right_iff]
    exact hassigns.accounts.imp fun _ _ hrole => hrole.key
  refine ⟨_, _, Squads.innerContext context sender rebuilt index, outcome, events, hkeys, ?_,
    saturatingAdd_of_lt hdepth, houtcome, hfield⟩
  rw [← hassigns.data]
  exact standsFor_rebuildCompiled hrebuilt sender context.idlRegistry index _

/-- Below the limit, an instruction of a vault is shown by the given visualizer in a
context that is one call deeper. -/
theorem meets_visualizeInnerInstruction (hdepth : context.callDepth < maxCallDepth)
    (hinner : InnerMeets inner context.callDepth) (sender : SolanaAccount)
    (found : Instruction × ℕ) :
    (Squads.visualizeInnerInstruction inner (unknownProgram crates) context sender found).Meets
      Invocation.Allowed (InnerShown crates inner context sender found) := by
  unfold Squads.visualizeInnerInstruction InnerShown
  cases hrebuild : rebuildCompiled found.1 with
  | none => exact Traced.meets_pure rfl
  | some rebuilt =>
      have hresolves : (Squads.innerContext context sender rebuilt found.2).Resolves :=
        resolves_rebuildCompiled hrebuild sender context.idlRegistry found.2 _
      have hlimit : (Squads.innerContext context sender rebuilt found.2).callDepth ≤
          maxCallDepth := by
        change saturatingAdd context.callDepth 1 ≤ maxCallDepth
        rw [saturatingAdd_of_lt hdepth]
        exact hdepth
      obtain ⟨outcome, events, houtcome, hevents, -⟩ := hinner hdepth _ rfl hresolves
      have hrun : (inner (Squads.innerContext context sender rebuilt found.2)).Meets
          Invocation.Allowed fun value => value = outcome :=
        ⟨outcome, events, houtcome, hevents, rfl⟩
      apply hrun.bind
      intro value hvalue
      rw [hvalue]
      cases outcome with
      | none =>
          apply (meets_unknownProgram crates hlimit).mono
          rintro _ rfl
          exact ⟨none, events, houtcome, rfl⟩
      | some result =>
          cases result with
          | ok result => exact Traced.meets_pure ⟨_, events, houtcome, rfl⟩
          | error error =>
              apply (meets_unknownProgram crates hlimit).mono
              rintro _ rfl
              exact ⟨_, events, houtcome, rfl⟩

/-- Below the limit there is one field for each instruction, in order. -/
theorem meets_visualizeInnerInstructions (hdepth : context.callDepth < maxCallDepth)
    (hinner : InnerMeets inner context.callDepth) (innerInstructions : List Instruction)
    (innerSenderOverride : Option SolanaAccount) :
    (Squads.visualizeInnerInstructions inner (unknownProgram crates) innerInstructions context
      innerSenderOverride).Meets Invocation.Allowed fun fields =>
        List.Forall₂ (InnerShown crates inner context (innerSenderOverride.getD
          ⟨context.sender.accountKey, false, false⟩)) innerInstructions.zipIdx fields := by
  rw [Squads.visualizeInnerInstructions, if_neg (not_le.2 hdepth)]
  apply Traced.meets_mapM
  intro found _
  exact meets_visualizeInnerInstruction crates hdepth hinner _ found

/-- Below the limit there is one field for each instruction of a message. -/
theorem meets_wrapped (hdepth : context.callDepth < maxCallDepth)
    (hinner : InnerMeets inner context.callDepth) (wire : WireMessage)
    {innerInstructions : List Instruction}
    (hassigns : List.Forall₂ (Squads.Assigns wire.message) wire.message.instructions
      innerInstructions) (innerSenderOverride : Option SolanaAccount) :
    (Squads.visualizeInnerInstructions inner (unknownProgram crates) innerInstructions context
      innerSenderOverride).Meets Invocation.Allowed fun fields =>
        List.Forall₂ (WrappedShown crates inner context wire.message) wire.message.instructions
          fields := by
  apply (meets_visualizeInnerInstructions crates hdepth hinner innerInstructions
    innerSenderOverride).mono
  intro fields hshown
  have hfields : List.Forall₂ (fun instruction field => ∃ index, InnerShown crates inner context
      (innerSenderOverride.getD ⟨context.sender.accountKey, false, false⟩) (instruction, index)
        field) innerInstructions fields := by
    rw [← List.zipIdx_map_fst 0 innerInstructions, List.forall₂_map_left_iff]
    exact hshown.imp fun found field hfound => ⟨found.2, hfound⟩
  have hfitting := (List.forall₂_and_left _ _).2 ⟨wire.instructions_fit, hassigns⟩
  exact Pointwise.forall₂_trans hfitting hfields fun ci instruction field hci hfield =>
    wrappedShown_of_innerShown crates hdepth hci.1 hci.2 hfield.choose_spec

/-- The fields of a Squads instruction keep the rule of the trace if the visualizer
of the inner instructions does one call deeper. -/
theorem meets_squadsFields (hinner : InnerMeets inner context.callDepth) (programId : String)
    (accounts : List AccountMeta) :
    (Squads.buildFields crates.squads crates.parser inner (unknownProgram crates) programId accounts
      context).Meets Invocation.Allowed fun _ => True := by
  unfold Squads.buildFields
  cases Squads.parseSquadsInstruction crates.squads crates.parser context.data accounts with
  | none => exact Traced.meets_pure trivial
  | some found =>
      simp only [Squads.buildParsedFields]
      cases Squads.vaultTransactionOf found.1 with
      | none => exact Traced.meets_pure trivial
      | some vault =>
          have hfields : (Squads.visualizeInnerInstructions inner (unknownProgram crates)
              vault.innerInstructions context
              (Squads.vaultPdaAccount crates.squads found.2 vault.vaultIndex)).Meets
              Invocation.Allowed fun _ => True := by
            by_cases hdepth : context.callDepth < maxCallDepth
            · apply (meets_visualizeInnerInstructions crates hdepth hinner _ _).mono
              intro _ _
              trivial
            · rw [Squads.visualizeInnerInstructions, if_pos (not_lt.1 hdepth)]
              exact Traced.meets_pure trivial
          apply hfields.bind
          intro innerFields _
          exact Traced.meets_pure trivial

/-- With every position resolved the visualizer has a field at every depth. -/
theorem meets_squads (hinner : InnerMeets inner context.callDepth) :
    (Squads.visualizeTxCommands crates.squads crates.parser inner (unknownProgram crates)
      context).Meets Invocation.Allowed fun result =>
        context.Resolves → result.toBool = true := by
  unfold Squads.visualizeTxCommands
  cases hresolved : Squads.resolveAll context with
  | error error =>
      apply Traced.meets_pure
      intro hresolves
      obtain ⟨programId, hprogram⟩ := hresolves.program
      obtain ⟨accounts, haccounts⟩ := hresolves.accounts
      rw [Squads.resolveAll, hprogram, haccounts] at hresolved
      cases hresolved
  | ok resolved =>
      apply (meets_squadsFields crates hinner resolved.1.text resolved.2).bind
      intro fields _
      exact Traced.meets_pure fun _ => rfl

end Squads

/-! ## Swig -/

section Swig

variable (crates : PresetCrates) {inner : VisualizerContext → Run Visualized}

/-- An instruction that a wallet signs for is visualized one call deeper, and keeps
the rule of the trace there. -/
theorem meets_visualizeBuilt {parentDepth : ℕ} (hdepth : parentDepth < maxCallDepth)
    (hinner : InnerMeets inner parentDepth) (programId : Pubkey)
    (accounts : List Swig.InnerAccountMeta) (data : Bytes) :
    (Swig.visualizeBuilt inner programId accounts data parentDepth).Meets Invocation.Allowed
      fun _ => True := by
  unfold Swig.visualizeBuilt
  cases Swig.buildInnerInstruction programId accounts data with
  | none => exact Traced.meets_pure trivial
  | some instruction =>
      simp only [Swig.visualizeInnerInstruction]
      cases hrebuild : rebuildCompiled instruction with
      | none => exact Traced.meets_pure trivial
      | some rebuilt =>
          have hresolves : (Swig.innerContext rebuilt parentDepth).Resolves :=
            resolves_rebuildCompiled hrebuild _ Swig.newIdlRegistry 0 _
          apply (hinner hdepth (Swig.innerContext rebuilt parentDepth) rfl hresolves).bind
          intro result _
          exact Traced.meets_pure trivial

theorem meets_describeInnerInstruction {parentDepth : ℕ} (hdepth : parentDepth < maxCallDepth)
    (hinner : InnerMeets inner parentDepth) (programId : Option Pubkey) (programDisplay : String)
    (data : Bytes) (accounts : List Swig.InnerAccountMeta) :
    (Swig.describeInnerInstruction inner crates.native programId programDisplay data accounts
      parentDepth).Meets Invocation.Allowed fun _ => True := by
  cases programId with
  | none => exact Traced.meets_pure trivial
  | some programId =>
      apply (meets_visualizeBuilt hdepth hinner programId accounts data).bind
      intro shown _
      exact Traced.meets_pure trivial

/-- A parser that did not leave the data. -/
def NotPanicked {A : Type} (result : Except (Fault Swig.SwigParseError) A) : Prop :=
  result ≠ .error .panicked

theorem notPanicked_error {A B : Type} {fault : Fault Swig.SwigParseError}
    (hfault : NotPanicked (.error fault : Except _ A)) :
    NotPanicked (.error fault : Except _ B) := by
  intro hpanicked
  apply hfault
  cases hpanicked
  rfl

/-- The instructions of a payload are described one after the other; the run keeps
the rule of the trace and does not panic, by induction on how many remain. -/
theorem meets_decodeInstructionsFrom {parentDepth : ℕ} (hdepth : parentDepth < maxCallDepth)
    (hinner : InnerMeets inner parentDepth) (payload : Bytes) (accounts : List AccountMeta)
    (remaining : ℕ) {cursor : ℕ} (hcursor : cursor ≤ payload.length) :
    (Swig.decodeInstructionsFrom (Swig.describeInnerInstruction inner crates.native) payload
      accounts parentDepth remaining cursor).run.Meets Invocation.Allowed NotPanicked := by
  induction remaining generalizing cursor with
  | zero =>
      apply Traced.meets_pure
      intro hpanicked
      cases hpanicked
  | succ remaining ih =>
      obtain ⟨hread, hstop⟩ := Swig.reads_readCompactInstruction.inBounds hcursor
      have hparsed : (Swig.parsing (Swig.readCompactInstruction payload cursor) :
          ExceptT _ Run _).run.Meets Invocation.Allowed fun result =>
            result = Swig.readCompactInstruction payload cursor :=
        Traced.meets_pure rfl
      apply hparsed.run_bind
      · intro first hfirst
        have hdescribed : (Swig.decodedInstruction
            (Swig.describeInnerInstruction inner crates.native) accounts parentDepth
            first.1).Meets Invocation.Allowed fun _ => True := by
          apply (meets_describeInnerInstruction crates hdepth hinner _ _ _ _).bind
          intro description _
          exact Traced.meets_pure trivial
        apply hdescribed.run_lift.run_bind
        · intro instruction _
          apply (ih (hstop first.1 first.2 hfirst.symm)).run_bind
          · intro instructions _
            apply Traced.meets_pure
            intro hpanicked
            cases hpanicked
          · intro fault hfault
            exact notPanicked_error hfault
        · intro fault hfault
          obtain ⟨_, hok, -⟩ := hfault
          cases hok
      · intro fault hfault hpanicked
        apply hread
        rw [← hfault]
        cases hpanicked
        rfl

theorem meets_decodeCompactInstructions {parentDepth : ℕ} (hdepth : parentDepth < maxCallDepth)
    (hinner : InnerMeets inner parentDepth) (payload : Bytes) (accounts : List AccountMeta) :
    (Swig.decodeCompactInstructions (Swig.describeInnerInstruction inner crates.native) payload
      accounts parentDepth).run.Meets Invocation.Allowed NotPanicked := by
  cases payload with
  | nil =>
      apply Traced.meets_pure
      intro hpanicked
      cases hpanicked
  | cons first rest =>
      have hcount : (Swig.parsing (byteAt (first :: rest) 0) :
          ExceptT _ Run _).run.Meets Invocation.Allowed fun result => result = .ok first :=
        Traced.meets_pure rfl
      apply hcount.run_bind
      · intro total _
        apply meets_decodeInstructionsFrom crates hdepth hinner
        exact Nat.le_add_left 1 rest.length
      · intro fault hfault
        cases hfault

theorem headerLen_ge (kind : Swig.SignKind) : 8 ≤ kind.headerLen := by
  cases kind <;> decide

/-- An instruction that the wallet signs is read within its header and its payload,
without a panic, whatever bytes it has. -/
theorem meets_parseSignInstruction {parentDepth : ℕ} (hdepth : parentDepth < maxCallDepth)
    (hinner : InnerMeets inner parentDepth) (data : Bytes) (kind : Swig.SignKind)
    (accounts : List AccountMeta) :
    (Swig.parseSignInstruction (Swig.describeInnerInstruction inner crates.native) data
      kind.headerLen accounts parentDepth).run.Meets Invocation.Allowed NotPanicked := by
  have hheader : (Swig.parsing (Swig.readSignHeader data kind.headerLen) :
      ExceptT _ Run _).run.Meets Invocation.Allowed NotPanicked :=
    Traced.meets_pure (Swig.meets_readSignHeader data (headerLen_ge kind)).1
  apply hheader.run_bind
  · intro header _
    apply (meets_decodeCompactInstructions crates hdepth hinner _ accounts).run_bind
    · intro innerInstructions _
      apply Traced.meets_pure
      intro hpanicked
      cases hpanicked
    · intro fault hfault
      exact notPanicked_error hfault
  · intro fault hfault
    exact notPanicked_error hfault

/-- Any data of the wallet is parsed without a panic, and what is called on the way
is within the limit. -/
theorem meets_parseSwigInstruction {parentDepth : ℕ} (hdepth : parentDepth < maxCallDepth)
    (hinner : InnerMeets inner parentDepth) (data : Bytes) (accounts : List AccountMeta) :
    (Swig.parseSwigInstruction crates.native crates.swig inner data accounts
      parentDepth).run.Meets Invocation.Allowed NotPanicked := by
  unfold Swig.parseSwigInstruction
  split_ifs with hlength
  · apply Traced.meets_pure
    intro hpanicked
    cases hpanicked
  · obtain ⟨code, hcode⟩ := Cursor.mapM_byteAt (E := Swig.SwigParseError) data [0, 1] (by simp; omega)
    have hdiscriminator : (Swig.parsing ([0, 1].mapM (byteAt data)) :
        ExceptT _ Run _).run.Meets Invocation.Allowed fun result => result = .ok code :=
      Traced.meets_pure hcode
    apply hdiscriminator.run_bind
    · intro discriminator _
      cases Swig.SignKind.ofDiscriminator (ofLeBytes discriminator) with
      | some kind =>
          apply (meets_parseSignInstruction crates hdepth hinner data kind accounts).run_bind
          · intro sign _
            apply Traced.meets_pure
            intro hpanicked
            cases hpanicked
          · intro fault hfault
            exact notPanicked_error hfault
      | none =>
          apply Traced.meets_pure
          intro hpanicked
          cases hother : crates.swig.parseOther (ofLeBytes discriminator) data with
          | ok decoded =>
              rw [hother] at hpanicked
              cases hpanicked
          | error error =>
              rw [hother] at hpanicked
              cases hpanicked
    · intro fault hfault
      cases hfault

/-- At the limit there is always a field. -/
theorem meets_swig {context : VisualizerContext} (hinner : InnerMeets inner context.callDepth) :
    (Swig.visualizeTxCommands crates.native crates.swig inner Traced.stuck context).Meets
      Invocation.Allowed fun result =>
        context.callDepth = maxCallDepth → result.toBool = true := by
  unfold Swig.visualizeTxCommands
  split_ifs with hlimit
  · exact Traced.meets_pure fun _ => rfl
  · cases (List.range context.numAccounts).mapM (Swig.resolveSwigAccount context) with
    | error error => exact Traced.meets_pure fun heq => absurd heq.ge hlimit
    | ok accounts =>
        apply (meets_parseSwigInstruction crates (not_le.1 hlimit) hinner context.data
          accounts).bind
        intro decoded hdecoded
        cases decoded with
        | ok decoded => exact Traced.meets_pure fun heq => absurd heq.ge hlimit
        | error fault =>
            cases fault with
            | failed error => exact Traced.meets_pure fun heq => absurd heq.ge hlimit
            | panicked => exact absurd rfl hdecoded

end Swig

/-! ## Whole runs -/

section WholeRuns

variable (crates : PresetCrates) (presets : List Preset)

/-- Every preset keeps the rule of the trace, if the visualizer that it calls for
inner instructions does; only two of them call it. -/
theorem meets_preset {inner : VisualizerContext → Run Visualized} {context : VisualizerContext}
    (hdepth : context.callDepth ≤ maxCallDepth)
    (hresolves : context.callDepth = maxCallDepth → context.Resolves)
    (hinner : InnerMeets inner context.callDepth) (preset : Preset) :
    ((preset.visualizer crates inner).visualizeTxCommands context).Meets Invocation.Allowed
      fun _ => True := by
  cases preset with
  | squads =>
      apply (meets_recorded hdepth (meets_squads crates hinner) _).mono
      · intro _ _
        trivial
      · intro hlimit _ result hresult
        exact hresult (hresolves hlimit)
  | swig =>
      apply (meets_recorded hdepth (meets_swig crates hinner) _).mono
      · intro _ _
        trivial
      · intro hlimit _ result hresult
        exact hresult hlimit
  | plain visualizer =>
      apply meets_recorded hdepth (Traced.meets_pure trivial)
      intro _ hwrapper
      cases hwrapper

/-- One level: the visualizer that accepts the instruction is called, and there
is one. -/
theorem meets_availableVisualizers {inner : VisualizerContext → Run Visualized}
    {context : VisualizerContext} (hdepth : context.callDepth ≤ maxCallDepth)
    (hresolves : context.callDepth = maxCallDepth → context.Resolves)
    (hinner : InnerMeets inner context.callDepth) :
    (visualizeWithAny (availableVisualizers crates presets inner) context).Meets
      Invocation.Allowed fun result => result.isSome = true := by
  have hcall : ∀ visualizer ∈ availableVisualizers crates presets inner,
      (visualizer.visualizeTxCommands context).Meets Invocation.Allowed fun _ => True := by
    intro visualizer hvisualizer
    rcases List.mem_append.1 hvisualizer with hpreset | hunknown
    · obtain ⟨preset, -, rfl⟩ := List.mem_map.1 hpreset
      exact meets_preset crates hdepth hresolves hinner preset
    · rw [List.mem_singleton.1 hunknown]
      apply meets_recorded hdepth (Traced.meets_pure trivial)
      intro _ hwrapper
      cases hwrapper
  unfold visualizeWithAny
  cases hfind : (availableVisualizers crates presets inner).find?
      fun visualizer => visualizer.canHandle context with
  | none =>
      have hlast : recorded none (unknownVisualizer crates) ∈
          availableVisualizers crates presets inner :=
        List.mem_append_right _ (List.mem_singleton_self _)
      exact absurd rfl (List.find?_eq_none.1 hfind _ hlast)
  | some visualizer =>
      apply (hcall visualizer (List.mem_of_find?_eq_some hfind)).bind
      intro field _
      exact Traced.meets_pure rfl

/-- Fuel for the levels below the limit is enough, from every context a run can
reach. -/
theorem meets_visualizeNested (fuel : ℕ) {context : VisualizerContext}
    (hfuel : maxCallDepth < context.callDepth + fuel)
    (hdepth : context.callDepth ≤ maxCallDepth)
    (hresolves : context.callDepth = maxCallDepth → context.Resolves) :
    (visualizeNested crates presets fuel context).Meets Invocation.Allowed fun result =>
      result.isSome = true := by
  induction fuel generalizing context with
  | zero => exact absurd hdepth (not_le.2 hfuel)
  | succ fuel ih =>
      apply meets_availableVisualizers crates presets hdepth hresolves
      intro hlimit inner hinner hinnerResolves
      rw [saturatingAdd_of_lt hlimit] at hinner
      apply (ih _ _ fun _ => hinnerResolves).mono
      · intro _ _
        trivial
      · rw [hinner]
        omega
      · rw [hinner]
        exact hlimit

end WholeRuns

/-! ## More fuel changes nothing -/

/-- Two continuations that agree on the inner calls of a context. -/
def InnerAgree (left right : VisualizerContext → Run Visualized) (callDepth : ℕ) : Prop :=
  callDepth < maxCallDepth → ∀ context : VisualizerContext,
    context.callDepth = saturatingAdd callDepth 1 → left context = right context

section Agreement

variable (crates : PresetCrates) {left right : VisualizerContext → Run Visualized}

/-- What a Squads instruction shows depends on the inner visualizer only through the
contexts that are one call deeper. -/
theorem squads_congr {context : VisualizerContext}
    (hagree : InnerAgree left right context.callDepth) :
    Squads.visualizeTxCommands crates.squads crates.parser left (unknownProgram crates) context =
      Squads.visualizeTxCommands crates.squads crates.parser right (unknownProgram crates)
        context := by
  have hinner (instructions : List Instruction) (sender : Option SolanaAccount) :
      Squads.visualizeInnerInstructions left (unknownProgram crates) instructions context sender =
        Squads.visualizeInnerInstructions right (unknownProgram crates) instructions context
          sender := by
    unfold Squads.visualizeInnerInstructions
    split_ifs with hlimit
    · rfl
    · dsimp only
      congr 1
      funext found
      unfold Squads.visualizeInnerInstruction
      cases rebuildCompiled found.1 with
      | none => rfl
      | some rebuilt =>
          simp only
          rw [hagree (not_le.1 hlimit) _ rfl]
  unfold Squads.visualizeTxCommands Squads.buildFields Squads.buildParsedFields
  simp only [hinner]

/-- Below the limit, what is said of an instruction in a wallet depends on the inner
visualizer only one call deeper. -/
theorem describeInnerInstruction_congr {parentDepth : ℕ} (hdepth : parentDepth < maxCallDepth)
    (hagree : InnerAgree left right parentDepth) (programId : Option Pubkey)
    (programDisplay : String) (data : Bytes) (accounts : List Swig.InnerAccountMeta) :
    Swig.describeInnerInstruction left crates.native programId programDisplay data accounts
        parentDepth =
      Swig.describeInnerInstruction right crates.native programId programDisplay data accounts
        parentDepth := by
  have hbuilt (programId : Pubkey) :
      Swig.visualizeBuilt left programId accounts data parentDepth =
        Swig.visualizeBuilt right programId accounts data parentDepth := by
    unfold Swig.visualizeBuilt Swig.visualizeInnerInstruction
    cases Swig.buildInnerInstruction programId accounts data with
    | none => rfl
    | some instruction =>
        simp only
        cases rebuildCompiled instruction with
        | none => rfl
        | some rebuilt =>
            simp only
            rw [hagree hdepth _ rfl]
  unfold Swig.describeInnerInstruction
  simp only [hbuilt]

theorem decodeInstructionsFrom_congr {parentDepth : ℕ} (hdepth : parentDepth < maxCallDepth)
    (hagree : InnerAgree left right parentDepth) (payload : Bytes) (accounts : List AccountMeta)
    (remaining cursor : ℕ) :
    Swig.decodeInstructionsFrom (Swig.describeInnerInstruction left crates.native) payload
        accounts parentDepth remaining cursor =
      Swig.decodeInstructionsFrom (Swig.describeInnerInstruction right crates.native) payload
        accounts parentDepth remaining cursor := by
  induction remaining generalizing cursor with
  | zero => rfl
  | succ remaining ih =>
      simp only [Swig.decodeInstructionsFrom, Swig.decodedInstruction,
        describeInnerInstruction_congr crates hdepth hagree, ih]

theorem swig_congr {context : VisualizerContext}
    (hagree : InnerAgree left right context.callDepth) :
    Swig.visualizeTxCommands crates.native crates.swig left Traced.stuck context =
      Swig.visualizeTxCommands crates.native crates.swig right Traced.stuck context := by
  unfold Swig.visualizeTxCommands
  split_ifs with hlimit
  · rfl
  · have hdepth := not_le.1 hlimit
    simp only [Swig.parseSwigInstruction, Swig.parseSignInstruction,
      Swig.decodeCompactInstructions, decodeInstructionsFrom_congr crates hdepth hagree]

/-- Two inner visualizers that agree one call deeper give every preset the same
display. -/
theorem preset_congr {context : VisualizerContext}
    (hagree : InnerAgree left right context.callDepth) (preset : Preset) :
    (preset.visualizer crates left).visualizeTxCommands context =
      (preset.visualizer crates right).visualizeTxCommands context := by
  cases preset with
  | squads => exact congrArg (· >>= _) (squads_congr crates hagree)
  | swig => exact congrArg (· >>= _) (swig_congr crates hagree)
  | plain visualizer => rfl

/-- Two inner visualizers that agree one call deeper give the same display of an
instruction, whichever preset takes it. -/
theorem availableVisualizers_congr (presets : List Preset) {context : VisualizerContext}
    (hagree : InnerAgree left right context.callDepth) :
    visualizeWithAny (availableVisualizers crates presets left) context =
      visualizeWithAny (availableVisualizers crates presets right) context := by
  have haccepts : ((fun visualizer : InstructionVisualizer Run => visualizer.canHandle context) ∘
        Preset.visualizer crates left) =
      (fun visualizer : InstructionVisualizer Run => visualizer.canHandle context) ∘
        Preset.visualizer crates right := by
    funext preset
    cases preset <;> simp only [Function.comp, Preset.visualizer, recorded, Squads.visualizer,
      Swig.visualizer]
  have hkind (preset : Preset) :
      (preset.visualizer crates left).kind = (preset.visualizer crates right).kind := by
    cases preset <;> simp only [Preset.visualizer, recorded, Squads.visualizer, Swig.visualizer]
  simp only [visualizeWithAny, availableVisualizers, List.find?_append, List.find?_map, haccepts]
  cases List.find? _ presets with
  | none => simp only [Option.map_none, Option.none_or]
  | some preset =>
      simp only [Option.map_some, Option.some_or, preset_congr crates hagree preset, hkind]

end Agreement

/-- Whatever fuel there is, as long as it is enough. -/
theorem visualizeNested_fuel (crates : PresetCrates) (presets : List Preset) (fuel more : ℕ)
    {context : VisualizerContext} (hfuel : maxCallDepth < context.callDepth + fuel)
    (hdepth : context.callDepth ≤ maxCallDepth) :
    visualizeNested crates presets (fuel + more) context =
      visualizeNested crates presets fuel context := by
  induction fuel generalizing context with
  | zero => exact absurd hdepth (not_le.2 hfuel)
  | succ fuel ih =>
      rw [Nat.succ_add]
      apply availableVisualizers_congr
      intro hlimit inner hinner
      rw [saturatingAdd_of_lt hlimit] at hinner
      apply ih
      · rw [hinner]
        omega
      · rw [hinner]
        exact hlimit

/-! ## The nesting of wrappers -/

/-- An instruction that carries a message is shown with what its fields show. -/
theorem visualizeTxCommands_of_carriesMessage {crates : PresetCrates}
    (inner : VisualizerContext → Run Visualized) {context : VisualizerContext}
    {parsed : SolanaParsedInstructionData} {wire : WireMessage}
    (hcarries : CarriesMessage crates context parsed wire) :
    ∃ programId namedAccounts, Squads.visualizeTxCommands crates.squads crates.parser inner
      (unknownProgram crates) context = (do
        let fields ← Squads.buildParsedFields crates.squads inner (unknownProgram crates) parsed
          namedAccounts programId context
        return .ok (Squads.instructionField context programId fields)) := by
  obtain ⟨program, hprogram⟩ := hcarries.resolves.program
  obtain ⟨accounts, haccounts⟩ := hcarries.resolves.accounts
  obtain ⟨idl, hidl, hparsed⟩ := hcarries.decoded
  have hresolved : Squads.resolveAll context = .ok (program, accounts) := by
    rw [Squads.resolveAll, hprogram, haccounts]
    rfl
  have hfound : Squads.parseSquadsInstruction crates.squads crates.parser context.data accounts =
      some (parsed, Squads.buildNamedAccounts context.data idl accounts) := by
    rw [Squads.parseSquadsInstruction, if_neg (not_lt.2 hcarries.length), hidl]
    simp only [Option.bind_eq_bind, Option.bind_some, hparsed]
    rfl
  refine ⟨program.text, Squads.buildNamedAccounts context.data idl accounts, ?_⟩
  simp only [Squads.visualizeTxCommands, hresolved, Squads.buildFields, hfound]

/-- A message with a position that has no key in it is not opened. -/
theorem meets_leftClosed {crates : PresetCrates} (inner : VisualizerContext → Run Visualized)
    {context : VisualizerContext} {parsed : SolanaParsedInstructionData} {wire : WireMessage}
    (hmessage : CarriesMessage crates context parsed wire) (hself : ¬SelfContained wire.message) :
    (Squads.visualizeTxCommands crates.squads crates.parser inner (unknownProgram crates)
      context).Meets Invocation.Allowed (LeftClosed context parsed) := by
  obtain ⟨args, vaultIndex, hcarries⟩ := hmessage.carries
  have hnone : (Squads.reconstructInstructions wire.message).toOption = none := by
    cases hinstructions : Squads.reconstructInstructions wire.message with
    | error error => rfl
    | ok instructions => exact absurd (selfContained_iff.2 ⟨instructions, hinstructions⟩) hself
  obtain ⟨programId, namedAccounts, hrun⟩ := visualizeTxCommands_of_carriesMessage inner hmessage
  rw [hrun]
  simp only [Squads.buildParsedFields, vaultTransactionOf_of_creates hcarries, hnone,
    Option.map_none, pure_bind]
  exact Traced.meets_pure ⟨programId, namedAccounts, rfl⟩

/-- What holds of every run with enough fuel.  From depth zero it ends, with
allowed calls only and independently of the fuel.  Below the limit a vault
message that refers to keys of its own is opened, and one that does not is left
closed, at every depth. -/
structure NestingHolds (crates : PresetCrates) (presets : List Preset) (fuel : ℕ) : Prop where
  ends : ∀ (sender : SolanaAccount) (compiled : CompiledInstruction) (accountKeys : List Pubkey)
    (idlRegistry : IdlRegistry) (index : ℕ),
    (visualizeNested crates presets fuel
      (.new sender compiled accountKeys idlRegistry index)).Meets Invocation.Allowed
        fun result => result.isSome = true
  settled : ∀ (sender : SolanaAccount) (compiled : CompiledInstruction)
    (accountKeys : List Pubkey) (idlRegistry : IdlRegistry) (index : ℕ),
    visualizeNested crates presets fuel (.new sender compiled accountKeys idlRegistry index) =
      visualizeNested crates presets (maxCallDepth + 1)
        (.new sender compiled accountKeys idlRegistry index)
  opened : ∀ context parsed wire, context.callDepth < maxCallDepth →
    CarriesMessage crates context parsed wire → SelfContained wire.message →
    (Squads.visualizeTxCommands crates.squads crates.parser (visualizeNested crates presets fuel)
      (unknownProgram crates) context).Meets Invocation.Allowed
        (OpenedAs crates (visualizeNested crates presets fuel) context parsed wire.message)
  closed : ∀ context parsed wire, CarriesMessage crates context parsed wire →
    ¬SelfContained wire.message →
    (Squads.visualizeTxCommands crates.squads crates.parser (visualizeNested crates presets fuel)
      (unknownProgram crates) context).Meets Invocation.Allowed (LeftClosed context parsed)

/-- Vault transactions and compact instructions may nest in one another in any
order: every run from depth zero ends with no call beyond the limit and a field
for every wrapper at it, and below the limit a vault message that names all of
its keys shows one field for each of its instructions. -/
theorem nesting_holds (crates : PresetCrates) (presets : List Preset) {fuel : ℕ}
    (hfuel : maxCallDepth < fuel) : NestingHolds crates presets fuel where
  ends sender compiled accountKeys idlRegistry index := by
    apply meets_visualizeNested
    · exact lt_of_lt_of_le hfuel (Nat.le_add_left _ _)
    · exact Nat.zero_le _
    · intro hlimit
      cases hlimit
  settled sender compiled accountKeys idlRegistry index := by
    obtain ⟨more, rfl⟩ := Nat.exists_eq_add_of_le (Nat.succ_le_of_lt hfuel)
    apply visualizeNested_fuel
    · exact Nat.lt_add_left _ (Nat.lt_succ_self _)
    · exact Nat.zero_le _
  opened := by
    intro context parsed wire hdepth hmessage hself
    have hinner : InnerMeets (visualizeNested crates presets fuel) context.callDepth := by
      intro _ inner hinnerDepth hinnerResolves
      rw [saturatingAdd_of_lt hdepth] at hinnerDepth
      apply (meets_visualizeNested crates presets fuel _ _ fun _ => hinnerResolves).mono
      · intro _ _
        trivial
      · exact lt_of_lt_of_le hfuel (Nat.le_add_left _ _)
      · rw [hinnerDepth]
        exact hdepth
    obtain ⟨args, vaultIndex, hcarries⟩ := hmessage.carries
    obtain ⟨innerInstructions, hinstructions⟩ := selfContained_iff.1 hself
    have hassigns := (Squads.reconstructInstructions_eq_ok.1 hinstructions).2
    obtain ⟨programId, namedAccounts, hrun⟩ := visualizeTxCommands_of_carriesMessage
      (visualizeNested crates presets fuel) hmessage
    rw [hrun]
    simp only [Squads.buildParsedFields, vaultTransactionOf_of_creates hcarries, hinstructions,
      Except.toOption, Option.map_some, bind_assoc, pure_bind]
    apply (meets_wrapped crates hdepth hinner wire hassigns _).bind
    intro innerFields hinnerFields
    exact Traced.meets_pure ⟨programId, namedAccounts, _, innerFields, rfl, hassigns, hinnerFields⟩
  closed _ _ _ hmessage hself := meets_leftClosed _ hmessage hself

/-! ## Wrappers in one another -/

def squadsKey : Pubkey :=
  ⟨[6, 129, 196, 206, 71, 226, 35, 104, 184, 177, 85, 94, 200, 135, 175, 9, 46, 252, 126, 251, 182,
    108, 163, 245, 47, 191, 104, 212, 172, 156, 183, 168], rfl⟩

def swigKey : Pubkey :=
  ⟨[13, 12, 233, 66, 225, 231, 197, 6, 226, 24, 223, 13, 125, 241, 197, 47, 175, 220, 53, 41, 228,
    141, 103, 77, 29, 178, 76, 117, 181, 76, 204, 190], rfl⟩

/-- The first bytes of `vaultTransactionCreate`. -/
def createDiscriminator : Bytes := [48, 250, 78, 168, 208, 226, 218, 211]

/-- A message for vault 3, without ephemeral signers and without a memo. -/
def createData (message : Bytes) : Bytes :=
  createDiscriminator ++ ([3, 0] ++ (lenPrefixed 4 message ++ [0]))

def createdInstruction (vaultIndex ephemeralSigners : UInt8) (message : Bytes) :
    SolanaParsedInstructionData :=
  ⟨"vaultTransactionCreate", Hex.encode createDiscriminator, [("args", .object
    [("vaultIndex", .number (.ofNat vaultIndex.toNat)),
      ("ephemeralSigners", .number (.ofNat ephemeralSigners.toNat)),
      ("transactionMessage", .string (Hex.encode message)), ("memo", .null)])]⟩

/-- Crates that know this one instruction, no other IDL, and no token or system
instruction. -/
def vaultCrates : PresetCrates where
  registry :=
    { pubkeys := ⟨Squads.pubkeyFromStr, Pubkey.text⟩
      ed25519 := ⟨ByteArr 32, .ok, id, fun _ _ _ => .error "signature error"⟩
      fromProgramId := fun _ => none
      readJson := fun _ => none }
  parser := ⟨fun _ => none, fun data _ _ =>
    if createDiscriminator <+: data then
      some (createdInstruction (data.getD 8 0) (data.getD 9 0)
        ((data.drop 14).take (ofLeBytes ((data.drop 10).take 4))))
    else none⟩
  squads := ⟨some ⟨"", [⟨some createDiscriminator,
    ["multisig", "transaction", "creator", "rentPayer", "systemProgram"]⟩]⟩,
      fun multisig _ => multisig⟩
  native := ⟨fun _ => none, fun _ => none⟩
  swig := ⟨fun code data => .ok ⟨"Unknown", "Swig: Unknown instruction (" ++ toString code ++ ")",
      .ok [createTextField "Discriminator" (toString code),
        createTextField "Raw Data (hex)" (Hex.encode data)]⟩, fun _ => .ok []⟩

/-- A message of one instruction, without signers. -/
def singleWire (accountKeys : List Pubkey) (ci : MultisigCompiledInstruction)
    (lookups : List VaultAddressTableLookup) (hkeys : accountKeys.length < 2 ^ 8) (hci : ci.Fits)
    (hcount : lookups.length < 2 ^ 8) (hlookups : ∀ lookup ∈ lookups, lookup.Fits) :
    WireMessage where
  message := ⟨0, 0, 0, accountKeys, [ci]⟩
  lookups := lookups
  length_accountKeys := hkeys
  length_instructions := by
    change 1 < 2 ^ 8
    decide
  instructions_fit instruction hinstruction := by
    rw [List.mem_singleton.1 hinstruction]
    exact hci
  length_lookups := hcount
  lookups_fit := hlookups

def emptyVaultWire : WireMessage :=
  singleWire [squadsKey] ⟨0, [], []⟩ [] (by decide) ⟨by decide, by decide⟩ (by decide)
    (by simp)

/-- A wallet that signs the creation of a vault transaction. -/
def walletData : Bytes :=
  let payload := 1 :: Swig.CompactInstruction.encode ⟨0, [], createData emptyVaultWire.encode⟩
  [4, 0] ++ (leBytes 2 payload.length ++ ([0, 0, 0, 0] ++ payload))

/-- A vault that calls the wallet. -/
def walletWire : WireMessage :=
  singleWire [swigKey, squadsKey] ⟨0, [1], walletData⟩ [] (by decide)
    ⟨by decide, by decide +kernel⟩ (by decide) (by simp)

/-- A vault that calls a program from a lookup table. -/
def lookupWire : WireMessage :=
  singleWire [squadsKey] ⟨1, [], []⟩ [⟨List.replicate 32 9, [], [0]⟩] (by decide)
    ⟨by decide, by decide⟩ (by decide) (by
      intro lookup hlookup
      rw [List.mem_singleton.1 hlookup]
      exact ⟨by decide, by decide, by decide⟩)

def squadsContext (wire : WireMessage) : VisualizerContext :=
  .new ⟨"payer", false, false⟩ ⟨0, [], createData wire.encode⟩ [squadsKey] Swig.newIdlRegistry 0

/-- The data of a creation, as the IDL of the vault lays it out, carries the message
it was made from. -/
theorem carriesMessage_createData {context : VisualizerContext} (hresolves : context.Resolves)
    {wire : WireMessage} (hlength : wire.encode.length < 256 ^ 4)
    (hdata : context.data = createData wire.encode) :
    CarriesMessage vaultCrates context (createdInstruction 3 0 wire.encode) wire := by
  refine ⟨hresolves, by rw [hdata]; exact Nat.le_add_left 8 _, ⟨_, rfl, ?_⟩, ?_⟩
  · have hmessage : (lenPrefixed 4 wire.encode ++ [0]).take 4 = leBytes 4 wire.encode.length :=
      rfl
    have hrest : ((context.data.drop 14).take (ofLeBytes ((context.data.drop 10).take 4))) =
        wire.encode := by
      rw [hdata]
      change (wire.encode ++ [0]).take (ofLeBytes ((lenPrefixed 4 wire.encode ++ [0]).take 4)) = _
      rw [hmessage, ofLeBytes_leBytes hlength, List.take_left' rfl]
    have hstarts : createDiscriminator <+: context.data := by
      rw [hdata]
      exact List.prefix_append _ _
    change (if createDiscriminator <+: context.data then _ else _) = _
    rw [if_pos hstarts, hrest, hdata]
    rfl
  · refine ⟨_, 3, rfl, rfl, ⟨Hex.encode wire.encode, rfl, Hex.decode_encode _⟩, ?_⟩
    change Sui.asU64 (.number (.ofNat 3)) = some 3
    decide +kernel

theorem carriesMessage_squadsContext {wire : WireMessage}
    (hlength : wire.encode.length < 256 ^ 4) (callDepth : ℕ) :
    CarriesMessage vaultCrates ((squadsContext wire).withCallDepth callDepth)
      (createdInstruction 3 0 wire.encode) wire :=
  carriesMessage_createData ⟨⟨_, rfl⟩, ⟨_, rfl⟩⟩ hlength rfl

theorem selfContained_walletWire : SelfContained walletWire.message := by
  refine ⟨⟨by decide, by decide⟩, ?_⟩
  intro ci hci
  rw [List.mem_singleton.1 hci]
  refine ⟨by decide, fun index hindex => ?_⟩
  rw [List.mem_singleton.1 hindex]
  decide

theorem not_selfContained_lookupWire : ¬SelfContained lookupWire.message := by
  intro hself
  exact absurd (hself.inRange _ (List.mem_singleton_self _)).program (by decide)

/-- A vault, a wallet in it and a vault in that one: the last one is called at the
limit and shown. -/
theorem nesting_holds_alternating :
    maxCallDepth < 5 ∧
    (visualizeNested vaultCrates [.squads, .swig] 5 (squadsContext walletWire)).Meets
      Invocation.Allowed (fun result => result.isSome = true) ∧
    (Squads.visualizeTxCommands vaultCrates.squads vaultCrates.parser
      (visualizeNested vaultCrates [.squads, .swig] 5) (unknownProgram vaultCrates)
      ((squadsContext walletWire).withCallDepth 2)).Meets Invocation.Allowed
        (OpenedAs vaultCrates (visualizeNested vaultCrates [.squads, .swig] 5)
          ((squadsContext walletWire).withCallDepth 2)
          (createdInstruction 3 0 walletWire.encode) walletWire.message) ∧
    (Squads.visualizeTxCommands vaultCrates.squads vaultCrates.parser
      (visualizeNested vaultCrates [.squads, .swig] 5) (unknownProgram vaultCrates)
      (squadsContext lookupWire)).Meets Invocation.Allowed
        (LeftClosed (squadsContext lookupWire) (createdInstruction 3 0 lookupWire.encode)) ∧
    ((visualizeNested vaultCrates [.squads, .swig] 5
      ((squadsContext walletWire).withCallDepth 2)).outcome.map fun run =>
        run.2.map fun call => (call.depth, call.wrapper, call.shown)) =
      some [(4, some .squads, true), (3, some .swig, true), (2, some .squads, true)] := by
  have hholds : NestingHolds vaultCrates [.squads, .swig] 5 := nesting_holds _ _ (by decide)
  refine ⟨by decide, hholds.ends _ _ _ _ _, ?_, ?_, by decide +kernel⟩
  · exact hholds.opened _ _ _ (by decide) (carriesMessage_squadsContext (by decide +kernel) 2)
      selfContained_walletWire
  · exact hholds.closed _ _ _ (carriesMessage_squadsContext (by decide +kernel) 0)
      not_selfContained_lookupWire

theorem title_of_instructionField {context : VisualizerContext} {programId otherId : String}
    {fields others : Squads.PreviewFields}
    (hsame : Squads.instructionField context programId fields =
      Squads.instructionField context otherId others) : fields.title = others.title := by
  unfold Squads.instructionField previewField annotateField at hsame
  injection hsame with hfield
  injection hfield with _ hlayout
  injection hlayout with htitle
  injection htitle with htext
  injection htext

/-- A message that calls a program from a lookup table has an instruction, and the
wrapper is shown without a field for it. -/
theorem lookup_message_not_opened :
    ¬∀ (crates : PresetCrates) (presets : List Preset) (fuel : ℕ) (context : VisualizerContext)
      (parsed : SolanaParsedInstructionData) (wire : WireMessage), maxCallDepth < fuel →
      context.callDepth < maxCallDepth → CarriesMessage crates context parsed wire →
      (Squads.visualizeTxCommands crates.squads crates.parser
        (visualizeNested crates presets fuel) (unknownProgram crates) context).Meets
          Invocation.Allowed fun result =>
            ∃ programId namedAccounts vault innerFields, result = .ok (Squads.instructionField
                context programId (Squads.vaultTransactionFields parsed namedAccounts programId
                  vault innerFields)) ∧
              innerFields.length = wire.message.instructions.length := by
  intro hall
  have hcarries : CarriesMessage vaultCrates (squadsContext lookupWire)
      (createdInstruction 3 0 lookupWire.encode) lookupWire :=
    carriesMessage_squadsContext (by decide +kernel) 0
  obtain ⟨result, events, hrun, -, programId, namedAccounts, vault, innerFields, hopened, -⟩ :=
    hall vaultCrates [] 5 _ _ lookupWire (by decide) (by decide) hcarries
  obtain ⟨closed, _, hclosedRun, -, otherId, otherAccounts, hclosed⟩ :=
    meets_leftClosed (visualizeNested vaultCrates [] 5) hcarries not_selfContained_lookupWire
  rw [hclosedRun] at hrun
  obtain ⟨hsame, -⟩ := Prod.mk.inj (Option.some.inj hrun)
  rw [hclosed, hopened] at hsame
  have htitle : "Squads Multisig: " ++ "vaultTransactionCreate" =
      "Squads Multisig: Vault Transaction (" ++ toString vault.innerInstructions.length ++
        " inner instruction(s))" :=
    title_of_instructionField (Except.ok.inj hsame)
  have hstarts : "Squads Multisig: Vault Transaction (".toList <+:
      ("Squads Multisig: " ++ "vaultTransactionCreate").toList := by
    rw [htitle, String.toList_append, String.toList_append, List.append_assoc]
    exact List.prefix_append _ _
  exact absurd hstarts (by decide)

end VisualSignParser.Solana
