import VisualSignParser.Codec.AsciiBytes
import VisualSignParser.Codec.Hex
import VisualSignParser.Codec.History
import VisualSignParser.Codec.Outcome
import VisualSignParser.Codec.Splits
import VisualSignParser.Deploy.Status

/-!
# Releasing a deployment

The tool compares the binary in an image with the expected digest, creates and
approves a deployment, waits until it is healthy and makes it live.  Every
command it runs and every temporary file it writes is an event.
-/

namespace VisualSignParser.Deploy

open VisualSignParser.Framing
open VisualSignParser.Splits
open VisualSignParser.Text

/-- The temporary files of a run. -/
inductive TempFile where
  | binary
  | seed
  | config
  deriving DecidableEq

/-- What a run does, with what it was told.  The tool discards whether a file could
be removed, and a removed file is taken to be gone. -/
inductive Event where
  | queriedPending
  | createdContainer
  | copiedBinary
  | hashed (digest : String)
  | removedContainer
  | wrote (file : TempFile)
  | removed (file : TempFile)
  | submitted
  | created (deployId : String)
  | approved (deployId : String)
  | polled (deployId : String) (ratio : Option String)
  | attempted (deployId : String)
  | live (deployId : String)
  deriving DecidableEq

structure DeployArgs where
  appId : String
  imageUrl : String
  expectedDigest : String
  operatorId : String
  operatorSeed : Option String
  acceptSignaturesFromPubkey : List String
  force : Bool

/-- The answers of the programs the tool runs.  The answers to repeated commands
are numbered, with the seconds since the first of them.  What `set-live` says is in
lower case. -/
structure World where
  pendingDeployments : Except String (List String)
  dockerCreate : Except String String
  dockerCopy : Except String Unit
  sha256sum : Except String String
  seedVariable : Option String
  writeSeed : Except String Unit
  writeConfig : Except String Unit
  deployCreate : Except String String
  deployApprove : Except String Unit
  status : ℕ → Except String String
  statusElapsed : ℕ → ℕ
  setLive : ℕ → Except String (Bool × String)
  setLiveElapsed : ℕ → ℕ

def pollTimeout : ℕ := 900

def pollInterval : ℕ := 15

def setliveTimeout : ℕ := 300

/-- A run with events, which may fail. -/
abbrev Script (A : Type) := ExceptT String (Traced Event) A

def emit (event : Event) : Script Unit := ExceptT.lift (Traced.emit event)

/-- An answer of a program. -/
def answered {A : Type} (answer : Except String A) : Script A := ExceptT.mk (pure answer)

/-- Leave with the message unless the condition holds. -/
def ensure (condition : Prop) [Decidable condition] (message : String) : Script Unit :=
  answered (if condition then .ok () else .error message)

/-! ## The digest gate -/

def isDigest (digest : String) : Bool :=
  (utf8Bytes digest).length == 64 && digest.toList.all Hex.isHexDigit

/-- `debug` is the debug text of a string. -/
def validateDigest (debug : String → String) (digest : String) : Script Unit :=
  ensure (isDigest digest = true)
    ("--expected-digest must be 64 hex chars (sha256), got " ++ debug digest)

/-- The first word of a text. -/
def firstWord (text : String) : String :=
  (((text.toList.splitOnP isWhitespace).find? (· ≠ [])).map String.ofList).getD ""

/-- The closure of `verify_image_digest`: its result is looked at after the cleanup. -/
def hashBinary (world : World) : Script String := do
  emit (.wrote .binary)
  answered world.dockerCopy
  emit .copiedBinary
  let sha ← answered world.sha256sum
  emit (.hashed (firstWord sha))
  return firstWord sha

/-- A closure whose failure is kept for later. -/
def kept {A : Type} (script : Script A) : Script (Except String A) := ExceptT.lift script.run

def verifyImageDigest (world : World) (expected : String) : Script Unit := do
  let _ ← answered world.dockerCreate
  emit .createdContainer
  let hashed ← kept (hashBinary world)
  emit .removedContainer
  emit (.removed .binary)
  let actual ← answered hashed
  ensure (eqIgnoreAsciiCase actual expected = true)
    ("DIGEST GATE FAILED: image /parser_app sha256 " ++ actual ++ " != expected " ++ expected ++
      "; refusing to deploy")

/-! ## Waiting -/

/-- Both numbers of the ratio are the same, and not zero. -/
def isHealthy (ratio : String) : Bool :=
  match splitFirst (· == '/') ratio.toList with
  | some (healthy, desired) => healthy == desired && healthy != ['0']
  | none => false

def timeoutMessage (deployId last : String) : String :=
  "timed out after " ++ toString pollTimeout ++ "s waiting for " ++ deployId ++
    " to be healthy (last: " ++ (if last = "" then "unknown" else last) ++ ")"

/-- The loop from its `turn`-th pass on.  The last ratio is kept for the message. -/
def pollFrom (world : World) (deployId : String) : (fuel turn : ℕ) → (last : String) → Script Unit
  | 0, _, _ => ExceptT.lift Traced.stuck
  | fuel + 1, turn, last => do
      let ratio :=
        match world.status turn with
        | .ok out => deploymentHealth out deployId
        | .error _ => none
      emit (.polled deployId ratio)
      if ratio.any isHealthy then return ()
      else if pollTimeout ≤ world.statusElapsed turn then
        answered (.error (timeoutMessage deployId (ratio.getD last)))
      else pollFrom world deployId fuel (turn + 1) (ratio.getD last)

/-- The clock runs on by the interval with every pass, so that this many are enough. -/
def pollHealth (world : World) (deployId : String) : Script Unit :=
  pollFrom world deployId (pollTimeout / pollInterval + 1) 0 ""

def saysAlreadyLive (message : String) : Bool :=
  contains message.toList "already" && contains message.toList "live"

def isTransient (message : String) : Bool :=
  contains message.toList "not yet available" || contains message.toList "try again" ||
    contains message.toList "not found" || contains message.toList "zero healthy replicas"

def setLiveFrom (world : World) (deployId : String) : (fuel turn : ℕ) → Script Unit
  | 0, _ => ExceptT.lift Traced.stuck
  | fuel + 1, turn => do
      emit (.attempted deployId)
      let (success, message) ← answered (world.setLive turn)
      if success || saysAlreadyLive message then emit (.live deployId)
      else if isTransient message ∧ world.setLiveElapsed turn < setliveTimeout then
        setLiveFrom world deployId fuel (turn + 1)
      else answered (.error ("set-live failed: " ++ trim message))

def setLive (world : World) (deployId : String) : Script Unit :=
  setLiveFrom world deployId (setliveTimeout / pollInterval + 1) 0

/-! ## The whole run -/

/-- Whether a seed is handed on, and whether the run has written it itself. -/
def resolveSeedFile (args : DeployArgs) (world : World) : Script (Option Bool) :=
  match args.operatorSeed, world.seedVariable with
  | some _, _ => pure (some false)
  | none, some _ => do
      emit (.wrote .seed)
      answered world.writeSeed
      return some true
  | none, none => pure none

/-- The closure of `deploy`. -/
def createAndRelease (world : World) : Script String := do
  emit (.wrote .config)
  answered world.writeConfig
  emit .submitted
  let output ← answered world.deployCreate
  let deployId ← answered (match parseAfter output "Deployment ID:" with
    | some deployId => .ok deployId
    | none => .error ("no deployment id in create output:\n" ++ output))
  emit (.created deployId)
  answered world.deployApprove
  emit (.approved deployId)
  pollHealth world deployId
  setLive world deployId
  return deployId

/-- The seed is removed if the run has written it. -/
def removeTempFiles (seed : Option Bool) : Script Unit :=
  if seed = some true then do
    emit (.removed .seed)
    emit (.removed .config)
  else emit (.removed .config)

def checkPending (args : DeployArgs) (world : World) : Script Unit :=
  if args.force then pure ()
  else do
    emit .queriedPending
    let pending ← answered world.pendingDeployments
    ensure (pending = []) ("app " ++ args.appId ++ " already has " ++ toString pending.length ++
      " deployment activity(ies) awaiting consensus: " ++ ", ".intercalate pending ++
      "\napprove or reject the existing one first (tvc-deploy approve-activity / " ++
      "reject-activity --activity-id <id>), or pass --force to submit anyway")

/-- `validate` is the check of the signer keys. -/
def deploy (debug : String → String) (validate : String → Except String Unit) (args : DeployArgs)
    (world : World) : Script String := do
  validateDigest debug args.expectedDigest
  args.acceptSignaturesFromPubkey.forM fun key => answered (validate key)
  checkPending args world
  verifyImageDigest world args.expectedDigest
  let seed ← resolveSeedFile args world
  let outcome ← kept (createAndRelease world)
  removeTempFiles seed
  answered outcome

/-! ## What a run has done -/

/-- Whether the file is there, and whether it is after the event. -/
def diskStep (file : TempFile) (present : Bool) : Event → Bool
  | .wrote other => decide (other = file) || present
  | .removed other => present && !decide (other = file)
  | _ => present

def onDisk (file : TempFile) (history : List Event) : Bool := history.foldl (diskStep file) false

@[simp]
theorem onDisk_nil (file : TempFile) : onDisk file [] = false := rfl

@[simp]
theorem onDisk_append (file : TempFile) (history : List Event) (event : Event) :
    onDisk file (history ++ [event]) = diskStep file (onDisk file history) event := by
  rw [onDisk, List.foldl_append]
  rfl

/-- No temporary file is on the disk but these. -/
def OnlyOnDisk (files : TempFile → Prop) (history : List Event) : Prop :=
  ∀ file, onDisk file history = true → files file

section Disk

variable {files more : TempFile → Prop} {history : List Event} {event : Event} {file : TempFile}

theorem OnlyOnDisk.mono (honly : OnlyOnDisk files history) (hmore : ∀ file, files file → more file) :
    OnlyOnDisk more history :=
  fun file hfile => hmore file (honly file hfile)

/-- Most events leave the disk alone. -/
theorem OnlyOnDisk.quiet (honly : OnlyOnDisk files history)
    (hquiet : ∀ file present, diskStep file present event = present) :
    OnlyOnDisk files (history ++ [event]) := by
  intro file hfile
  rw [onDisk_append, hquiet] at hfile
  exact honly file hfile

theorem OnlyOnDisk.wrote (honly : OnlyOnDisk files history) (hallowed : files file) :
    OnlyOnDisk files (history ++ [.wrote file]) := by
  intro other hother
  simp only [onDisk_append, diskStep, Bool.or_eq_true, decide_eq_true_eq] at hother
  cases hother with
  | inl hsame => exact hsame ▸ hallowed
  | inr hbefore => exact honly other hbefore

theorem OnlyOnDisk.removed (honly : OnlyOnDisk files history)
    (hrest : ∀ other, files other → other ≠ file → more other) :
    OnlyOnDisk more (history ++ [.removed file]) := by
  intro other hother
  simp only [onDisk_append, diskStep, Bool.and_eq_true, Bool.not_eq_true',
    decide_eq_false_iff_not] at hother
  exact hrest other (honly other hother.1) (Ne.symm hother.2)

end Disk

/-- The binary of the image has the expected digest. -/
def GatePassed (expected : String) (history : List Event) : Prop :=
  ∃ digest, .hashed digest ∈ history ∧ eqIgnoreAsciiCase digest expected = true

def SeenHealthy (deployId : String) (history : List Event) : Prop :=
  ∃ ratio, .polled deployId (some ratio) ∈ history ∧ isHealthy ratio = true

/-- What must have happened before an event. -/
def Allowed (expected : String) (history : List Event) : Event → Prop
  | .submitted => .submitted ∉ history ∧ GatePassed expected history ∧
      onDisk .config history = true
  | .created _ => .submitted ∈ history
  | .approved deployId => .created deployId ∈ history
  | .polled deployId _ => .approved deployId ∈ history
  | .attempted deployId => .approved deployId ∈ history ∧ SeenHealthy deployId history
  | .live deployId => .attempted deployId ∈ history
  | _ => True

/-- The clock runs at least as fast as the passes. -/
def Ticks (elapsed : ℕ → ℕ) : Prop := ∀ turn, pollInterval * turn ≤ elapsed turn

section Waiting

variable {expected : String} {world : World} {deployId : String} {Before : List Event → Prop}
  {Fails : List Event → Prop}

/-- Polling ends, and where it ends well a healthy status was seen. -/
theorem leads_pollFrom (hclock : Ticks world.statusElapsed)
    (happroved : ∀ history, Before history → .approved deployId ∈ history)
    (hstays : ∀ history ratio, Before history → Before (history ++ [.polled deployId ratio]))
    (hfails : ∀ history, Before history → Fails history) {fuel turn : ℕ} (last : String)
    (hturn : pollInterval * turn ≤ pollTimeout)
    (hfuel : pollTimeout < pollInterval * (turn + fuel)) :
    Traced.Leads (Allowed expected) Before (pollFrom world deployId fuel turn last).run
      (Traced.Ending (fun _ history => Before history ∧ SeenHealthy deployId history) Fails) := by
  induction fuel generalizing turn last with
  | zero => exact absurd hturn (not_le.2 hfuel)
  | succ fuel ih =>
      rw [pollFrom]
      generalize (match world.status turn with
        | .ok out => deploymentHealth out deployId
        | .error _ => none) = ratio
      refine Traced.leads_through (fun _ history => Before history ∧
        .polled deployId ratio ∈ history) (Traced.leads_event fun history hbefore =>
          ⟨happroved history hbefore, hstays history ratio hbefore, by simp⟩) fun _ => ?_
      split_ifs with hhealthy htimeout
      · obtain ⟨shown, rfl, hshown⟩ := (Option.any_eq_true _ _).1 hhealthy
        exact Traced.leads_value fun history hboth => ⟨hboth.1, shown, hboth.2, hshown⟩
      · exact Traced.leads_result nofun fun _ history _ hboth => hfails history hboth.1
      · have hnext : pollInterval * (turn + 1) ≤ pollTimeout := by
          have hticks := hclock turn
          simp only [pollInterval, pollTimeout] at hticks htimeout ⊢
          omega
        refine (ih _ hnext (by rwa [Nat.add_right_comm, Nat.add_assoc])).mono ?_ fun _ _ h => h
        exact fun history hboth => hboth.1

/-- Making live ends, and where it ends well the deployment is live. -/
theorem leads_setLiveFrom (hclock : Ticks world.setLiveElapsed)
    (hready : ∀ history, Before history →
      .approved deployId ∈ history ∧ SeenHealthy deployId history)
    (hstays : ∀ history, Before history → Before (history ++ [.attempted deployId]) ∧
      Before (history ++ [.live deployId]))
    (hfails : ∀ history, Before history → Fails history) {fuel turn : ℕ}
    (hturn : pollInterval * turn ≤ setliveTimeout)
    (hfuel : setliveTimeout < pollInterval * (turn + fuel)) :
    Traced.Leads (Allowed expected) Before (setLiveFrom world deployId fuel turn).run
      (Traced.Ending (fun _ history => Before history ∧ .live deployId ∈ history) Fails) := by
  induction fuel generalizing turn with
  | zero => exact absurd hturn (not_le.2 hfuel)
  | succ fuel ih =>
      rw [setLiveFrom]
      refine Traced.leads_through (fun _ history => Before history ∧
        .attempted deployId ∈ history) (Traced.leads_event fun history hbefore =>
          ⟨hready history hbefore, (hstays history hbefore).1, by simp⟩) fun _ => ?_
      refine Traced.leads_through (fun _ history => Before history ∧
        .attempted deployId ∈ history) (Traced.leads_result (fun _ _ _ hboth => hboth)
          fun _ history _ hboth => hfails history hboth.1) fun answer => ?_
      obtain ⟨success, message⟩ := answer
      dsimp only
      split_ifs with hlive hagain
      · exact Traced.leads_event fun history hboth =>
          ⟨hboth.2, (hstays history hboth.1).2, by simp⟩
      · have hnext : pollInterval * (turn + 1) ≤ setliveTimeout := by
          have hticks := hclock turn
          have hbelow := hagain.2
          simp only [pollInterval, setliveTimeout] at hticks hbelow ⊢
          omega
        refine (ih hnext (by rwa [Nat.add_right_comm, Nat.add_assoc])).mono ?_ fun _ _ h => h
        exact fun history hboth => hboth.1
      · exact Traced.leads_result nofun fun _ history _ hboth => hfails history hboth.1

end Waiting

section Parts

variable {expected : String} {args : DeployArgs} {world : World} {seed : Option Bool}
  {Before Fails : List Event → Prop}

/-- A condition that is looked at leaves no event. -/
theorem leads_ensure {condition : Prop} [Decidable condition] {message : String}
    (hfails : ∀ history, Before history → Fails history) :
    Traced.Leads (Allowed expected) Before (ensure condition message).run
      (Traced.Ending (fun _ history => condition ∧ Before history) Fails) := by
  refine Traced.leads_result (fun _ history hresult hbefore => ⟨?_, hbefore⟩)
    fun _ history _ hbefore => hfails history hbefore
  split_ifs at hresult with hcondition
  exact hcondition

/-- An answer leaves no event. -/
theorem leads_answered {A : Type} {answer : Except String A}
    (hfails : ∀ history, Before history → Fails history) :
    Traced.Leads (Allowed expected) Before (answered answer).run
      (Traced.Ending (fun value history => answer = .ok value ∧ Before history) Fails) :=
  Traced.leads_result (fun _ _ hanswer hbefore => ⟨hanswer, hbefore⟩)
    fun _ history _ hbefore => hfails history hbefore

/-- What holds of a run until it submits. -/
def Unsubmitted (files : TempFile → Prop) (history : List Event) : Prop :=
  OnlyOnDisk files history ∧ .submitted ∉ history

/-- What holds of a run that has submitted. -/
def Submitted (seed : Option Bool) (event : Event) (history : List Event) : Prop :=
  OnlyOnDisk (fun file => file = .config ∨ file = .seed ∧ seed = some true) history ∧
    event ∈ history

theorem Unsubmitted.quiet {files : TempFile → Prop} {history : List Event} {event : Event}
    (hunsubmitted : Unsubmitted files history)
    (hquiet : ∀ file present, diskStep file present event = present)
    (hevent : event ≠ .submitted) : Unsubmitted files (history ++ [event]) :=
  ⟨hunsubmitted.1.quiet hquiet, by simpa [hunsubmitted.2] using Ne.symm hevent⟩

theorem Submitted.quiet {history : List Event} {event next : Event}
    (hsubmitted : Submitted seed event history)
    (hquiet : ∀ file present, diskStep file present next = present) :
    Submitted seed event (history ++ [next]) :=
  ⟨hsubmitted.1.quiet hquiet, List.mem_append_left _ hsubmitted.2⟩

/-- The binary is copied and hashed, and nothing else is written. -/
theorem leads_hashBinary :
    Traced.Leads (Allowed expected) (Unsubmitted fun _ => False) (hashBinary world).run
      (Traced.Ending (fun digest history =>
          Unsubmitted (· = .binary) history ∧ .hashed digest ∈ history)
        (Unsubmitted (· = .binary))) := by
  unfold hashBinary
  refine Traced.leads_through (fun _ => Unsubmitted (· = .binary))
    (Traced.leads_event fun history hbefore => ⟨trivial, ?_, by simpa using hbefore.2⟩) fun _ => ?_
  · exact (hbefore.1.mono fun _ => False.elim).wrote rfl
  refine (leads_answered fun _ hbefore => hbefore).ending_bind fun _ => ?_
  refine Traced.leads_through (fun _ => Unsubmitted (· = .binary))
    (Traced.leads_event fun history hbefore =>
      ⟨trivial, hbefore.2.quiet (fun _ _ => rfl) nofun⟩) fun _ => ?_
  refine (leads_answered fun _ hbefore => hbefore).ending_bind fun sha => ?_
  refine Traced.leads_through (fun _ history => Unsubmitted (· = .binary) history ∧
      .hashed (firstWord sha) ∈ history)
    (Traced.leads_event fun history hbefore =>
      ⟨trivial, hbefore.2.quiet (fun _ _ => rfl) nofun, by simp⟩) fun _ => ?_
  exact Traced.leads_value fun _ hafter => hafter

/-- The binary and the container are gone behind the gate, and a run that passes it has
seen the expected digest. -/
theorem leads_verifyImageDigest :
    Traced.Leads (Allowed expected) (Unsubmitted fun _ => False)
      (verifyImageDigest world expected).run
      (Traced.Ending (fun _ history => Unsubmitted (fun _ => False) history ∧
          GatePassed expected history) (OnlyOnDisk fun _ => False)) := by
  unfold verifyImageDigest
  refine (leads_answered fun _ hbefore => hbefore.1).ending_bind fun _ => ?_
  refine Traced.leads_through (fun _ => Unsubmitted fun _ => False)
    (Traced.leads_event fun history hbefore =>
      ⟨trivial, hbefore.2.quiet (fun _ _ => rfl) nofun⟩) fun _ => ?_
  refine (Traced.leads_kept leads_hashBinary).ending_bind fun hashed => ?_
  have hleft : ∀ history, Traced.Ending (fun digest history =>
      Unsubmitted (· = .binary) history ∧ .hashed digest ∈ history)
      (Unsubmitted (· = .binary)) hashed history → Unsubmitted (· = .binary) history := by
    intro history hhashed
    cases hashed with
    | ok digest => exact hhashed.1
    | error message => exact hhashed
  have hseen : ∀ history digest, Traced.Ending (fun digest history =>
      Unsubmitted (· = .binary) history ∧ .hashed digest ∈ history)
      (Unsubmitted (· = .binary)) hashed history → hashed = .ok digest →
      .hashed digest ∈ history := by
    rintro history digest hhashed rfl
    exact hhashed.2
  refine Traced.leads_through (fun _ history => Unsubmitted (· = .binary) history ∧
      ∀ digest, hashed = .ok digest → .hashed digest ∈ history)
    (Traced.leads_event fun history hbefore =>
      ⟨trivial, (hleft history hbefore).quiet (fun _ _ => rfl) nofun, fun digest hdigest =>
        List.mem_append_left _ (hseen history digest hbefore hdigest)⟩) fun _ => ?_
  refine Traced.leads_through (fun _ history => Unsubmitted (fun _ => False) history ∧
      ∀ digest, hashed = .ok digest → .hashed digest ∈ history)
    (Traced.leads_event fun history hbefore => ⟨trivial, ⟨?_, ?_⟩, fun digest hdigest =>
        List.mem_append_left _ (hbefore.2 digest hdigest)⟩) fun _ => ?_
  · exact hbefore.1.1.removed fun _ hbinary hother => hother hbinary
  · simpa using hbefore.1.2
  refine (leads_answered fun _ hbefore => hbefore.1.1).ending_bind fun actual => ?_
  refine (leads_ensure fun _ hbefore => hbefore.2.1.1).ending_mono (fun _ history hpassed => ?_)
    fun _ hfailed => hfailed
  obtain ⟨hsame, hactual, hclean, hhashed⟩ := hpassed
  exact ⟨hclean, actual, hhashed actual hactual, hsame⟩

/-- One deployment is submitted, and behind that all goes by its id. -/
theorem leads_createAndRelease (hstatus : Ticks world.statusElapsed)
    (hsetLive : Ticks world.setLiveElapsed) :
    Traced.Leads (Allowed expected) (fun history =>
        Unsubmitted (fun file => file = .seed ∧ seed = some true) history ∧
          GatePassed expected history) (createAndRelease world).run
      (Traced.Ending (fun deployId => Submitted seed (.live deployId))
        (OnlyOnDisk fun file => file = .config ∨ file = .seed ∧ seed = some true)) := by
  unfold createAndRelease
  refine Traced.leads_through (fun _ history =>
      Unsubmitted (fun file => file = .config ∨ file = .seed ∧ seed = some true) history ∧
        GatePassed expected history ∧ onDisk .config history = true)
    (Traced.leads_event fun history hbefore => ⟨trivial, ⟨?_, ?_⟩, ?_, ?_⟩) fun _ => ?_
  · exact (hbefore.1.1.mono fun _ => Or.inr).wrote (Or.inl rfl)
  · simpa using hbefore.1.2
  · obtain ⟨digest, hhashed, hsame⟩ := hbefore.2
    exact ⟨digest, List.mem_append_left _ hhashed, hsame⟩
  · simp [diskStep]
  refine (leads_answered fun _ hbefore => hbefore.1.1).ending_bind fun _ => ?_
  refine Traced.leads_through (fun _ => Submitted seed .submitted)
    (Traced.leads_event fun history hbefore =>
      ⟨⟨hbefore.2.1.2, hbefore.2.2⟩, hbefore.2.1.1.quiet fun _ _ => rfl, by simp⟩) fun _ => ?_
  refine (leads_answered fun _ hbefore => hbefore.1).ending_bind fun output => ?_
  refine (leads_answered fun _ hbefore => hbefore.2.1).ending_bind fun deployId => ?_
  refine Traced.leads_through (fun _ => Submitted seed (.created deployId))
    (Traced.leads_event fun history hbefore =>
      ⟨hbefore.2.2.2, hbefore.2.2.1.quiet fun _ _ => rfl, by simp⟩) fun _ => ?_
  refine (leads_answered fun _ hbefore => hbefore.1).ending_bind fun _ => ?_
  refine Traced.leads_through (fun _ => Submitted seed (.approved deployId))
    (Traced.leads_event fun history hbefore =>
      ⟨hbefore.2.2, hbefore.2.1.quiet fun _ _ => rfl, by simp⟩) fun _ => ?_
  refine Traced.Leads.ending_bind (leads_pollFrom hstatus (fun _ hbefore => hbefore.2)
    (fun _ _ hbefore => hbefore.quiet fun _ _ => rfl) (fun _ hbefore => hbefore.1) ""
    (by decide) (by decide)) fun _ => ?_
  refine Traced.Leads.ending_bind (leads_setLiveFrom hsetLive
    (fun _ hbefore => ⟨hbefore.1.2, hbefore.2⟩) (fun history hbefore => ?_)
    (fun _ hbefore => hbefore.1.1) (by decide) (by decide)) fun _ => ?_
  · have hstays : ∀ event, (∀ file present, diskStep file present event = present) →
        Submitted seed (.approved deployId) (history ++ [event]) ∧
          SeenHealthy deployId (history ++ [event]) := by
      intro event hquiet
      obtain ⟨hsubmitted, ratio, hratio, hhealthy⟩ := hbefore
      exact ⟨hsubmitted.quiet hquiet, ratio, List.mem_append_left _ hratio, hhealthy⟩
    exact ⟨hstays _ fun _ _ => rfl, hstays _ fun _ _ => rfl⟩
  exact Traced.leads_value fun _ hafter => ⟨hafter.1.1.1, hafter.2⟩

end Parts

/-- The operator seed could not be written to its file. -/
def SeedUnwritten (args : DeployArgs) (world : World) : Prop :=
  args.operatorSeed = none ∧ world.seedVariable ≠ none ∧ world.writeSeed ≠ .ok ()

/-- The temporary files that a run may leave. -/
def Residue (args : DeployArgs) (world : World) (file : TempFile) : Prop :=
  file = .seed ∧ SeedUnwritten args world

theorem leads_resolveSeedFile {expected : String} {args : DeployArgs} {world : World} :
    Traced.Leads (Allowed expected) (fun history => Unsubmitted (fun _ => False) history ∧
        GatePassed expected history) (resolveSeedFile args world).run
      (Traced.Ending (fun seed history =>
          Unsubmitted (fun file => file = .seed ∧ seed = some true) history ∧
            GatePassed expected history) (OnlyOnDisk (Residue args world))) := by
  have hclean : ∀ seed : Option Bool, ∀ history, Unsubmitted (fun _ => False) history →
      Unsubmitted (fun file => file = .seed ∧ seed = some true) history :=
    fun _ _ hunsubmitted => ⟨hunsubmitted.1.mono fun _ => False.elim, hunsubmitted.2⟩
  unfold resolveSeedFile
  split
  · exact Traced.leads_value fun history hbefore => ⟨hclean _ history hbefore.1, hbefore.2⟩
  · next contents hargs hvariable =>
    refine Traced.leads_through (fun _ history =>
        Unsubmitted (fun file => file = .seed) history ∧ GatePassed expected history)
      (Traced.leads_event fun history hbefore => ⟨trivial, ⟨?_, ?_⟩, ?_⟩) fun _ => ?_
    · exact (hbefore.1.1.mono fun _ => False.elim).wrote rfl
    · simpa using hbefore.1.2
    · obtain ⟨digest, hhashed, hsame⟩ := hbefore.2
      exact ⟨digest, List.mem_append_left _ hhashed, hsame⟩
    refine Traced.leads_through (fun _ history =>
        Unsubmitted (fun file => file = .seed) history ∧ GatePassed expected history)
      (Traced.leads_result (fun _ _ _ hbefore => hbefore)
        fun message history herror hbefore => ?_) fun _ => ?_
    · refine hbefore.1.1.mono fun file hfile => ⟨hfile, hargs, ?_, ?_⟩
      · rw [hvariable]
        exact Option.some_ne_none contents
      · rw [herror]
        exact nofun
    exact Traced.leads_value fun history hbefore =>
      ⟨⟨hbefore.1.1.mono fun _ hfile => ⟨hfile, rfl⟩, hbefore.1.2⟩, hbefore.2⟩
  · exact Traced.leads_value fun history hbefore => ⟨hclean _ history hbefore.1, hbefore.2⟩

/-- Whatever a run has written before it ends is removed, and what it has reached stays. -/
theorem leads_removeTempFiles {expected : String} (seed : Option Bool)
    (outcome : Except String String) {Fails : List Event → Prop} :
    Traced.Leads (Allowed expected) (fun history =>
        OnlyOnDisk (fun file => file = .config ∨ file = .seed ∧ seed = some true) history ∧
          ∀ deployId, outcome = .ok deployId → .live deployId ∈ history)
      (removeTempFiles seed).run
      (Traced.Ending (fun _ history => OnlyOnDisk (fun _ => False) history ∧
        ∀ deployId, outcome = .ok deployId → .live deployId ∈ history) Fails) := by
  have hconfig : Traced.Leads (Allowed expected) (fun history => OnlyOnDisk (· = .config) history ∧
        ∀ deployId, outcome = .ok deployId → .live deployId ∈ history)
      (emit (.removed .config)).run (Traced.Ending (fun _ history =>
        OnlyOnDisk (fun _ => False) history ∧
          ∀ deployId, outcome = .ok deployId → .live deployId ∈ history) Fails) :=
    Traced.leads_event fun history hbefore =>
      ⟨trivial, hbefore.1.removed fun _ hfile hother => hother hfile, fun deployId houtcome =>
        List.mem_append_left _ (hbefore.2 deployId houtcome)⟩
  unfold removeTempFiles
  split_ifs with hwritten
  · refine Traced.Leads.ending_bind (Traced.leads_event fun history hbefore =>
      ⟨trivial, hbefore.1.removed ?_, fun deployId houtcome =>
        List.mem_append_left _ (hbefore.2 deployId houtcome)⟩) fun _ => hconfig
    exact fun file hfile hother => hfile.resolve_right fun hseed => hother hseed.1
  · refine hconfig.mono (fun history hbefore => ⟨hbefore.1.mono fun file hfile => ?_, hbefore.2⟩)
      fun _ _ hafter => hafter
    exact hfile.resolve_right fun hseed => hwritten hseed.2

theorem leads_checkPending {expected : String} {args : DeployArgs} {world : World} :
    Traced.Leads (Allowed expected) (Unsubmitted fun _ => False) (checkPending args world).run
      (Traced.Ending (fun _ => Unsubmitted fun _ => False) (OnlyOnDisk (Residue args world))) := by
  have hfails : ∀ history, Unsubmitted (fun _ => False) history →
      OnlyOnDisk (Residue args world) history :=
    fun _ hunsubmitted => hunsubmitted.1.mono fun _ => False.elim
  unfold checkPending
  split_ifs
  · exact Traced.leads_value fun _ hbefore => hbefore
  · refine Traced.leads_through (fun _ => Unsubmitted fun _ => False)
      (Traced.leads_event fun history hbefore =>
        ⟨trivial, hbefore.quiet (fun _ _ => rfl) nofun⟩) fun _ => ?_
    refine (leads_answered hfails).ending_bind fun pending => ?_
    exact (leads_ensure fun history hbefore => hfails history hbefore.2).ending_mono
      (fun _ _ hpassed => hpassed.2.2) fun _ hfailed => hfailed

theorem leads_deploy (debug : String → String) (validate : String → Except String Unit)
    {args : DeployArgs} {world : World} (hstatus : Ticks world.statusElapsed)
    (hsetLive : Ticks world.setLiveElapsed) :
    Traced.Leads (Allowed args.expectedDigest) (Unsubmitted fun _ => False)
      (deploy debug validate args world).run
      (Traced.Ending (fun deployId history => OnlyOnDisk (Residue args world) history ∧
        .live deployId ∈ history) (OnlyOnDisk (Residue args world))) := by
  have hfails : ∀ history, Unsubmitted (fun _ => False) history →
      OnlyOnDisk (Residue args world) history :=
    fun _ hunsubmitted => hunsubmitted.1.mono fun _ => False.elim
  unfold deploy validateDigest
  refine (leads_ensure hfails).ending_bind fun _ => ?_
  refine Traced.leads_through (fun _ => Unsubmitted fun _ => False)
    ((Traced.leads_forM (fun key => ?_) _).mono (fun _ hbefore => hbefore.2) fun _ _ h => h)
    fun _ => ?_
  · exact Traced.leads_result (fun _ _ _ hbefore => hbefore)
      fun _ history _ hbefore => hfails history hbefore
  refine leads_checkPending.ending_bind fun _ => ?_
  refine (leads_verifyImageDigest.ending_mono (fun _ _ hpassed => hpassed)
    fun history hclean => hclean.mono fun _ => False.elim).ending_bind fun _ => ?_
  refine leads_resolveSeedFile.ending_bind fun seed => ?_
  refine (Traced.leads_kept (leads_createAndRelease hstatus hsetLive)).ending_bind fun outcome => ?_
  refine ((leads_removeTempFiles seed outcome).mono
    (fun history houtcome => ?_) fun _ _ hafter => hafter).ending_bind fun _ => ?_
  · cases outcome with
    | ok deployId => exact ⟨houtcome.1, fun other hother => Except.ok.inj hother ▸ houtcome.2⟩
    | error message => exact ⟨houtcome, nofun⟩
  refine (leads_answered fun history hbefore => hbefore.1.mono fun _ => False.elim).ending_mono
    (fun deployId history hafter => ?_) fun _ hfailed => hfailed
  exact ⟨hafter.2.1.mono fun _ => False.elim, hafter.2.2 deployId hafter.1⟩

/-- What is behind a deployment that goes live. -/
theorem released_of_permitted {expected deployId : String} {events : List Event}
    (hevents : Traced.Permitted (Allowed expected) [] events) (hlive : .live deployId ∈ events) :
    SeenHealthy deployId events ∧ GatePassed expected events := by
  obtain ⟨toLive, hlives, hattempted⟩ := hevents.exists_before hlive
  obtain ⟨toAttempt, hattempts, happroved, ratio, hratio, hhealthy⟩ :=
    hevents.exists_before (hlives hattempted)
  obtain ⟨toApproval, happroves, hcreated⟩ := hevents.exists_before (hattempts happroved)
  obtain ⟨toCreation, hcreates, hsubmitted⟩ := hevents.exists_before (happroves hcreated)
  obtain ⟨toSubmission, hsubmits, -, ⟨digest, hdigest, hsame⟩, -⟩ :=
    hevents.exists_before (hcreates hsubmitted)
  exact ⟨⟨ratio, hattempts hratio, hhealthy⟩, digest, hsubmits hdigest, hsame⟩

/-- Whatever the programs a run calls answer, the run ends, each of its events is
allowed by those in front of it, and it leaves no temporary file but an operator
seed that could not be written.  A deployment that goes live is healthy, and its
image has the expected digest. -/
theorem deploy_gated {debug : String → String} {validate : String → Except String Unit}
    {args : DeployArgs} {world : World} (hstatus : Ticks world.statusElapsed)
    (hsetLive : Ticks world.setLiveElapsed) :
    ∃ outcome events, (deploy debug validate args world).run.outcome = some (outcome, events) ∧
      (∀ before event after, events = before ++ event :: after →
        Allowed args.expectedDigest before event) ∧
      (∀ deployId, .live deployId ∈ events →
        SeenHealthy deployId events ∧ GatePassed args.expectedDigest events) ∧
      (∀ file, onDisk file events = true → Residue args world file) ∧
      ∀ deployId, outcome = .ok deployId → .live deployId ∈ events := by
  obtain ⟨outcome, events, hrun, hevents, hending⟩ := leads_deploy debug validate
    hstatus hsetLive [] ⟨nofun, List.not_mem_nil⟩
  rw [List.nil_append] at hending
  refine ⟨outcome, events, hrun, ?_, fun _ hlive => released_of_permitted hevents hlive, ?_, ?_⟩
  · rintro before event after rfl
    exact hevents.allowed
  · cases outcome with
    | ok deployId => exact hending.1
    | error message => exact hending
  · rintro deployId rfl
    exact hending.2

/-! ## A deployment that takes a minute -/

def sampleArgs : DeployArgs where
  appId := "parser"
  imageUrl := "registry/parser_app"
  expectedDigest := String.ofList (List.replicate 64 'a')
  operatorId := "operator"
  operatorSeed := none
  acceptSignaturesFromPubkey := []
  force := false

def slowWorld : World where
  pendingDeployments := .ok []
  dockerCreate := .ok "container\n"
  dockerCopy := .ok ()
  sha256sum := .ok (String.ofList (List.replicate 64 'A') ++ "  /tmp/parser_app.bin")
  seedVariable := some "seed"
  writeSeed := .ok ()
  writeConfig := .ok ()
  deployCreate := .ok "Deployment ID: dep-a\n"
  deployApprove := .ok ()
  status turn := if turn < 4 then .error "not registered"
    else .ok "Deployment: dep-a\n  Healthy / Desired Replicas: 3/3\n"
  statusElapsed turn := pollInterval * turn
  setLive turn := .ok (decide (turn = 1), "try again")
  setLiveElapsed turn := (pollInterval + 1) * turn

theorem deploy_gated_slow :
    ∃ outcome events,
      (deploy id (fun _ => .ok ()) sampleArgs slowWorld).run.outcome = some (outcome, events) ∧
        ∀ deployId, .live deployId ∈ events →
          SeenHealthy deployId events ∧ GatePassed sampleArgs.expectedDigest events := by
  obtain ⟨outcome, events, hrun, -, hlive, -⟩ := @deploy_gated id (fun _ => .ok ()) sampleArgs
    slowWorld (fun _ => le_rfl) fun turn => Nat.mul_le_mul_right turn (Nat.le_succ pollInterval)
  exact ⟨outcome, events, hrun, hlive⟩

end VisualSignParser.Deploy
