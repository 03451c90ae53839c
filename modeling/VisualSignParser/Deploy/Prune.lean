import Mathlib.Data.Prod.Lex
import Mathlib.Data.String.Basic
import VisualSignParser.Codec.Outcome
import VisualSignParser.Codec.Retention
import VisualSignParser.Deploy.Status

/-!
# Pruning deployments

Old deployments are deleted, the live one and the newest others are kept.  A
deployment that cannot be dated is not deleted either.
-/

namespace VisualSignParser.Deploy

open VisualSignParser.Outcome
open VisualSignParser.Radix
open VisualSignParser.Retention
open VisualSignParser.Text

/-! ## Dates -/

/-- `str::parse::<i64>`. -/
def parseI64 (text : String) : Option ℤ :=
  match text.toList with
  | [] => none
  | '-' :: rest =>
      if rest = [] then none
      else (digitsValue 10 0 rest).bind fun value =>
        if value ≤ 2 ^ 63 then some (-value) else none
  | '+' :: rest =>
      if rest = [] then none
      else (digitsValue 10 0 rest).bind fun value => if value < 2 ^ 63 then some value else none
  | rest => (digitsValue 10 0 rest).bind fun value => if value < 2 ^ 63 then some value else none

/-- An activity of the organisation: the app its intent creates a deployment
for, the deployment of its result, and its seconds as text. -/
structure Activity where
  createsFor : Option String
  deploymentId : Option String
  seconds : Option String
  deriving DecidableEq

def timestampSeconds (seconds : Option String) : ℤ := (seconds.bind parseI64).getD 0

/-- `fetch_activities`: newest first. -/
def fetchActivities (response : List Activity) : List Activity :=
  response.mergeSort fun left right =>
    decide (timestampSeconds right.seconds ≤ timestampSeconds left.seconds)

/-- One activity of the pass: the last date of a deployment stays. -/
def insertCreated (appId : String) (created : String → Option ℤ) (activity : Activity) :
    String → Option ℤ :=
  if activity.createsFor = some appId then
    match activity.deploymentId, activity.seconds.bind parseI64 with
    | some id, some createdAt => Function.update created id (some createdAt)
    | _, _ => created
  else created

def deploymentCreatedAtMap (appId : String) (response : List Activity) : String → Option ℤ :=
  (fetchActivities response).foldl (insertCreated appId) fun _ => none

/-! ## The plan -/

structure DatedDeployment where
  id : String
  createdAt : ℤ
  deriving DecidableEq

/-- By date, and by id among those of one date. -/
def DatedDeployment.key (deployment : DatedDeployment) : ℤ ×ₗ String :=
  toLex (deployment.createdAt, deployment.id)

def sortNewestFirst (deployments : List DatedDeployment) : List DatedDeployment :=
  deployments.mergeSort (newestFirst DatedDeployment.key)

/-- The pass of `select_for_deletion`, with the number of non-live deployments so far. -/
def selectFrom (liveId : Option String) (keep : ℕ) : ℕ → List DatedDeployment → List String
  | _, [] => []
  | nonLiveRank, deployment :: rest =>
      if liveId = some deployment.id then selectFrom liveId keep nonLiveRank rest
      else if keep ≤ nonLiveRank then
        deployment.id :: selectFrom liveId keep (nonLiveRank + 1) rest
      else selectFrom liveId keep (nonLiveRank + 1) rest

def selectForDeletion (deployments : List DatedDeployment) (liveId : Option String) (keep : ℕ) :
    List String :=
  selectFrom liveId keep 0 deployments

/-- The deployments that can be dated. -/
def datedDeployments (parsed : List ParsedDeployment) (created : String → Option ℤ) :
    List DatedDeployment :=
  parsed.filterMap fun deployment => (created deployment.id).map fun createdAt =>
    ⟨deployment.id, createdAt⟩

def liveId (parsed : List ParsedDeployment) : Option String :=
  (parsed.find? ParsedDeployment.isLive).map ParsedDeployment.id

def deletionPlan (parsed : List ParsedDeployment) (created : String → Option ℤ) (keep : ℕ) :
    List String :=
  selectForDeletion (sortNewestFirst (datedDeployments parsed created)) (liveId parsed) keep

/-! ## The run -/

structure PruneArgs where
  appId : String
  keep : ℕ
  dryRun : Bool
  yes : Bool

/-- What a run meets: whether the report and the deletions are for one
organisation, the report, the activities, the line typed at the prompt, and what
becomes of each deletion. -/
structure PruneWorld where
  sameOrg : Except String Unit
  status : Except String String
  activities : Except String (List Activity)
  input : Except String String
  submit : String → Except String Unit

inductive PruneEnd where
  | noDeployments
  | nothingToPrune
  | dryRun (count : ℕ)
  | aborted
  | done
  deriving DecidableEq

/-- The deletions that were submitted, and how the run ended. -/
structure Pruned where
  submitted : List String
  outcome : Except String PruneEnd

def confirm (input : String) : Bool :=
  let answer := (trim input).map Char.toLower
  answer == "y" || answer == "yes"

def deleteAll (liveId : Option String) (submit : String → Except String Unit) :
    List String → Pruned
  | [] => ⟨[], .ok .done⟩
  | id :: rest =>
      if liveId = some id then ⟨[], .error ("refusing to delete live deployment " ++ id)⟩
      else
        match submit id with
        | .error message => ⟨[id], .error message⟩
        | .ok () =>
            let later := deleteAll liveId submit rest
            ⟨id :: later.submitted, later.outcome⟩

/-- The part of a run behind the plan. -/
def carryOut (args : PruneArgs) (world : PruneWorld) (liveId : Option String)
    (toDelete : List String) : Pruned :=
  if toDelete = [] then ⟨[], .ok .nothingToPrune⟩
  else if args.dryRun then ⟨[], .ok (.dryRun toDelete.length)⟩
  else if args.yes then deleteAll liveId world.submit toDelete
  else
    match world.input with
    | .error message => ⟨[], .error message⟩
    | .ok input =>
        if confirm input then deleteAll liveId world.submit toDelete else ⟨[], .ok .aborted⟩

/-- The steps up to the plan: the deployments of the report and their dates. -/
def survey (args : PruneArgs) (world : PruneWorld) : Except String (List ParsedDeployment) := do
  require (1 ≤ args.keep) "--keep must be >= 1 (refusing to delete every deployment)"
  world.sameOrg
  let status ← world.status.mapError ("tvc app status: " ++ ·)
  return parseDeployments status

def prune (args : PruneArgs) (world : PruneWorld) : Pruned :=
  match survey args world with
  | .error message => ⟨[], .error message⟩
  | .ok [] => ⟨[], .ok .noDeployments⟩
  | .ok parsed =>
      match world.activities with
      | .error message => ⟨[], .error message⟩
      | .ok activities =>
          carryOut args world (liveId parsed)
            (deletionPlan parsed (deploymentCreatedAtMap args.appId activities) args.keep)

/-! ## What is given up -/

/-- Not the live deployment. -/
def isNonLive (live : Option String) (deployment : DatedDeployment) : Bool :=
  decide (live ≠ some deployment.id)

theorem selectFrom_eq (live : Option String) (keep rank : ℕ) (deployments : List DatedDeployment) :
    selectFrom live keep rank deployments =
      ((deployments.filter (isNonLive live)).drop (keep - rank)).map DatedDeployment.id := by
  induction deployments generalizing rank with
  | nil => rw [selectFrom, List.filter_nil, List.drop_nil, List.map_nil]
  | cons deployment rest ih =>
      rw [selectFrom]
      by_cases hlive : live = some deployment.id
      · have hskipped : ¬isNonLive live deployment = true := by simp [isNonLive, hlive]
        rw [if_pos hlive, ih, List.filter_cons_of_neg hskipped]
      · have hcounted : isNonLive live deployment = true := decide_eq_true hlive
        rw [if_neg hlive, List.filter_cons_of_pos hcounted]
        by_cases hkeep : keep ≤ rank
        · rw [if_pos hkeep, ih, Nat.sub_eq_zero_of_le hkeep, Nat.sub_eq_zero_of_le (by omega)]
          rfl
        · rw [if_neg hkeep, ih, show keep - rank = (keep - (rank + 1)) + 1 by omega,
            List.drop_succ_cons]

/-- The deployment is listed, is not the live one and can be dated, and at least
so many of those that share these properties are newer. -/
def Expendable (status : String) (created : String → Option ℤ) (keep : ℕ) (id : String) : Prop :=
  id ∈ listed status ∧ liveTarget status ≠ some id ∧ ∃ createdAt, created id = some createdAt ∧
    keep ≤ (listed status).countP fun other =>
      decide (liveTarget status ≠ some other) &&
        (created other).any fun otherAt =>
          decide (DatedDeployment.key ⟨id, createdAt⟩ < DatedDeployment.key ⟨other, otherAt⟩)

section Plan

variable {status : String} {created : String → Option ℤ} {keep : ℕ}

theorem mem_datedDeployments {deployment : DatedDeployment} :
    deployment ∈ datedDeployments (parseDeployments status) created ↔
      deployment.id ∈ listed status ∧ created deployment.id = some deployment.createdAt := by
  obtain ⟨id, createdAt⟩ := deployment
  rw [datedDeployments, parseDeployments_eq, List.filterMap_map, List.mem_filterMap]
  constructor
  · rintro ⟨other, hother, hdated⟩
    obtain ⟨otherAt, hcreated, heq⟩ := Option.map_eq_some_iff.1 hdated
    cases heq
    exact ⟨hother, hcreated⟩
  · rintro ⟨hid, hcreated⟩
    refine ⟨id, hid, ?_⟩
    simp only [Function.comp_apply, hcreated, Option.map_some]

theorem datedDeployments_eq :
    datedDeployments (parseDeployments status) created =
      (listed status).filterMap fun id => (created id).map fun createdAt => ⟨id, createdAt⟩ := by
  rw [datedDeployments, parseDeployments_eq, List.filterMap_map]
  rfl

theorem nodup_keys (hdistinct : (listed status).Nodup) :
    ((datedDeployments (parseDeployments status) created).map DatedDeployment.key).Nodup := by
  rw [datedDeployments_eq]
  generalize listed status = ids at hdistinct
  rw [List.map_filterMap]
  refine hdistinct.filterMap fun first second key hfirst hsecond => ?_
  simp only [Option.map_map, Option.mem_def, Option.map_eq_some_iff] at hfirst hsecond
  obtain ⟨_, -, rfl⟩ := hfirst
  obtain ⟨_, -, hkey⟩ := hsecond
  exact (congrArg Prod.snd (toLex_inj.1 hkey)).symm

/-- The pass over the report finds the live deployment if it is listed. -/
theorem liveId_iff {id : String} (hid : id ∈ listed status) :
    liveId (parseDeployments status) = some id ↔ liveTarget status = some id := by
  rw [liveId, parseDeployments_eq, List.find?_map, Option.map_map]
  change Option.map (fun other => other)
    ((listed status).find? fun other => liveTarget status == some other) = some id ↔ _
  rw [Option.map_id']
  cases hfound : (listed status).find? fun other => liveTarget status == some other with
  | none =>
      refine iff_of_false nofun fun hlive => ?_
      exact absurd (beq_iff_eq.2 hlive) (List.find?_eq_none.1 hfound id hid)
  | some other =>
      have hlive := List.find?_some hfound
      rw [beq_iff_eq] at hlive
      rw [hlive]

theorem isNonLive_iff {id : String} {createdAt : ℤ} (hid : id ∈ listed status) :
    isNonLive (liveId (parseDeployments status)) ⟨id, createdAt⟩ =
      decide (liveTarget status ≠ some id) := by
  rw [isNonLive, decide_eq_decide, ne_eq, ne_eq, liveId_iff hid]

/-- Newer deployments are counted on the report. -/
theorem newer_eq_countP {id : String} {createdAt : ℤ} :
    newer DatedDeployment.key ⟨id, createdAt⟩
        ((datedDeployments (parseDeployments status) created).filter
          (isNonLive (liveId (parseDeployments status)))) =
      (listed status).countP fun other =>
        decide (liveTarget status ≠ some other) &&
          (created other).any fun otherAt =>
            decide (DatedDeployment.key ⟨id, createdAt⟩ < DatedDeployment.key ⟨other, otherAt⟩) := by
  rw [newer, List.countP_filter, datedDeployments_eq, List.countP_filterMap]
  refine List.countP_congr fun other hother => ?_
  cases hcreated : created other with
  | none => simp
  | some otherAt =>
      simp only [Option.map_some, Option.getD_some, Option.any_some, isNonLive_iff hother]
      rw [Bool.and_comm]

/-- The plan is what can be given up, whatever the order of the report. -/
theorem mem_deletionPlan (hdistinct : (listed status).Nodup) {id : String} :
    id ∈ deletionPlan (parseDeployments status) created keep ↔
      Expendable status created keep id := by
  rw [deletionPlan, selectForDeletion, selectFrom_eq, Nat.sub_zero, sortNewestFirst,
    List.mem_map]
  simp only [mem_drop_filter_mergeSort (nodup_keys hdistinct), List.mem_filter,
    mem_datedDeployments]
  constructor
  · rintro ⟨⟨id, createdAt⟩, ⟨⟨⟨hid, hcreated⟩, hlive⟩, hkeep⟩, rfl⟩
    rw [isNonLive_iff hid, decide_eq_true_eq] at hlive
    rw [newer_eq_countP] at hkeep
    exact ⟨hid, hlive, createdAt, hcreated, hkeep⟩
  · rintro ⟨hid, hlive, createdAt, hcreated, hkeep⟩
    refine ⟨⟨id, createdAt⟩, ⟨⟨⟨hid, hcreated⟩, ?_⟩, ?_⟩, rfl⟩
    · rwa [isNonLive_iff hid, decide_eq_true_eq]
    · rwa [newer_eq_countP]

end Plan

/-! ## What a run deletes -/

/-- A run submits the plan from its start on, only after a confirmation, and all
of it where it gets to its end. -/
structure Orderly (args : PruneArgs) (world : PruneWorld) (plan : List String) (run : Pruned) :
    Prop where
  submitted : run.submitted <+: plan
  confirmed : run.submitted ≠ [] → args.dryRun = false ∧
    (args.yes = true ∨ ∃ input, world.input = .ok input ∧ confirm input = true)
  complete : run.outcome = .ok .done → run.submitted = plan

section Run

variable {args : PruneArgs} {world : PruneWorld} {plan : List String} {live : Option String}

/-- A run that submits nothing. -/
theorem orderly_empty {outcome : Except String PruneEnd} (houtcome : outcome ≠ .ok .done) :
    Orderly args world plan ⟨[], outcome⟩ where
  submitted := List.nil_prefix
  confirmed hne := absurd rfl hne
  complete hdone := absurd hdone houtcome

/-- The guard in the loop is never met. -/
theorem deleteAll_submitted (submit : String → Except String Unit)
    (hguard : ∀ id ∈ plan, live ≠ some id) :
    (deleteAll live submit plan).submitted <+: plan ∧
      ((deleteAll live submit plan).outcome = .ok .done →
        (deleteAll live submit plan).submitted = plan) := by
  induction plan with
  | nil => exact ⟨List.prefix_rfl, fun _ => rfl⟩
  | cons id rest ih =>
      obtain ⟨hid, hrest⟩ := List.forall_mem_cons.1 hguard
      obtain ⟨hstart, hdone⟩ := ih hrest
      rw [deleteAll, if_neg hid]
      cases submit id with
      | error message => exact ⟨List.prefix_append [id] rest, nofun⟩
      | ok _ =>
          exact ⟨(List.prefix_cons_inj id).2 hstart, fun hend => congrArg (id :: ·) (hdone hend)⟩

theorem orderly_carryOut (hguard : ∀ id ∈ plan, live ≠ some id) :
    Orderly args world plan (carryOut args world live plan) := by
  obtain ⟨hstart, hdone⟩ := deleteAll_submitted world.submit hguard
  unfold carryOut
  split_ifs with hempty hdry hyes
  · exact orderly_empty nofun
  · exact orderly_empty nofun
  · exact ⟨hstart, fun _ => ⟨Bool.eq_false_iff.2 hdry, .inl hyes⟩, hdone⟩
  · cases hinput : world.input with
    | error message => exact orderly_empty nofun
    | ok input =>
        dsimp only
        split_ifs with hconfirm
        · exact ⟨hstart, fun _ => ⟨Bool.eq_false_iff.2 hdry, .inr ⟨input, hinput, hconfirm⟩⟩, hdone⟩
        · exact orderly_empty nofun

theorem survey_eq_ok {parsed : List ParsedDeployment} :
    survey args world = .ok parsed ↔ 1 ≤ args.keep ∧ world.sameOrg = .ok () ∧
      ∃ status, world.status = .ok status ∧ parseDeployments status = parsed := by
  simp only [survey, bind_eq_ok, require_eq_ok, mapError_eq_ok, pure_eq_ok]
  constructor
  · rintro ⟨-, hkeep, ⟨⟩, horg, status, hstatus, hparsed⟩
    exact ⟨hkeep, horg, status, hstatus, hparsed⟩
  · rintro ⟨hkeep, horg, status, hstatus, hparsed⟩
    exact ⟨(), hkeep, (), horg, status, hstatus, hparsed⟩

theorem prune_eq_of_survey {parsed : List ParsedDeployment} {activities : List Activity}
    (hsurvey : survey args world = .ok parsed) (hactivities : world.activities = .ok activities) :
    prune args world = if parsed = [] then ⟨[], .ok .noDeployments⟩ else
      carryOut args world (liveId parsed)
        (deletionPlan parsed (deploymentCreatedAtMap args.appId activities) args.keep) := by
  unfold prune
  rw [hsurvey, hactivities]
  cases parsed with
  | nil => rfl
  | cons first rest => rw [if_neg (List.cons_ne_nil first rest)]

/-- Of the deployments of a report, a run submits only those that can be given
up, and only after a confirmation; where it gets to its end, it has submitted
them all. -/
theorem prune_submits_expendable {status : String} {activities : List Activity}
    (hstatus : world.status = .ok status) (hactivities : world.activities = .ok activities)
    (hdistinct : (listed status).Nodup) :
    (∀ id ∈ (prune args world).submitted,
      Expendable status (deploymentCreatedAtMap args.appId activities) args.keep id) ∧
      ((prune args world).submitted ≠ [] → 1 ≤ args.keep ∧ args.dryRun = false ∧
        (args.yes = true ∨ ∃ input, world.input = .ok input ∧ confirm input = true)) ∧
      ((prune args world).outcome = .ok .done →
        ∀ id, Expendable status (deploymentCreatedAtMap args.appId activities) args.keep id →
          id ∈ (prune args world).submitted) := by
  cases hsurvey : survey args world with
  | error message =>
      have hprune : prune args world = ⟨[], .error message⟩ := by rw [prune, hsurvey]
      rw [hprune]
      exact ⟨fun _ hid => absurd hid List.not_mem_nil, fun hne => absurd rfl hne, nofun⟩
  | ok parsed =>
      obtain ⟨hkeep, -, other, hother, rfl⟩ := survey_eq_ok.1 hsurvey
      obtain rfl : other = status := Except.ok.inj (hother.symm.trans hstatus)
      have hguard : ∀ id ∈ deletionPlan (parseDeployments other)
          (deploymentCreatedAtMap args.appId activities) args.keep,
          liveId (parseDeployments other) ≠ some id := by
        intro id hid
        obtain ⟨hlisted, hlive, -⟩ := (mem_deletionPlan hdistinct).1 hid
        rwa [ne_eq, liveId_iff hlisted]
      have horderly : Orderly args world (deletionPlan (parseDeployments other)
          (deploymentCreatedAtMap args.appId activities) args.keep) (prune args world) := by
        rw [prune_eq_of_survey hsurvey hactivities]
        split_ifs
        · exact orderly_empty nofun
        · exact orderly_carryOut hguard
      refine ⟨fun id hid => (mem_deletionPlan hdistinct).1 (horderly.submitted.subset hid),
        fun hne => ⟨hkeep, horderly.confirmed hne⟩, fun hdone id hexpendable => ?_⟩
      rw [horderly.complete hdone]
      exact (mem_deletionPlan hdistinct).2 hexpendable

end Run

/-! ## A report with four deployments -/

def sampleStatus : String :=
  "App: parser\nTargeted Deployment: dep-b\n\nDeployment: dep-a\n  Healthy / Desired Replicas: 0/0\n" ++
    "Deployment: dep-b\nDeployment: dep-c\nDeployment: dep-d\n"

def sampleActivities : List Activity :=
  [⟨some "parser", some "dep-a", some "100"⟩, ⟨some "parser", some "dep-b", some "50"⟩,
    ⟨some "parser", some "dep-c", some "300"⟩, ⟨some "other", some "dep-d", some "400"⟩]

def sampleWorld : PruneWorld where
  sameOrg := .ok ()
  status := .ok sampleStatus
  activities := .ok sampleActivities
  input := .ok "YES\n"
  submit _ := .ok ()

theorem listed_sampleStatus : listed sampleStatus = ["dep-a", "dep-b", "dep-c", "dep-d"] := by
  decide +kernel

/-- The live deployment and the one of another app stay, with the newest other. -/
theorem prune_submits_expendable_sample :
    (listed sampleStatus).Nodup ∧
      ∀ id ∈ (prune ⟨"parser", 1, false, false⟩ sampleWorld).submitted,
        Expendable sampleStatus (deploymentCreatedAtMap "parser" sampleActivities) 1 id := by
  have hdistinct : (listed sampleStatus).Nodup := by
    rw [listed_sampleStatus]
    decide
  exact ⟨hdistinct, (@prune_submits_expendable ⟨"parser", 1, false, false⟩ sampleWorld sampleStatus
    sampleActivities rfl rfl hdistinct).1⟩

end VisualSignParser.Deploy
