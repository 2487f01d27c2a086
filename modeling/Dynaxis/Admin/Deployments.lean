import Dynaxis.Admin.Rollout

namespace Dynaxis.Admin

open Shared List Option ExtDeploymentStatus Table

structure ExtArtifactInventoryItem where
 stage : Text
 hookScope : List Text
 exclusiveGroup : Text
 allowedDecisions : List Text := []
 issues : List Text := []

structure ExtCommandSpec where
 commandId : Text
 artifactId : Text
 runAtUtc : Option Nat := none
 rollout : ExtRolloutStrategy := {}

structure ExtDeploymentRecord where
 artifactId : Text
 status : ExtDeploymentStatus := .pending
 statusReason : String := ""
 runAtUtc : Option Nat
 rollout : ExtRolloutStrategy
 hookScope : List Text
 stage : Text
 exclusiveGroup : Text
 targetCount : Nat
 appliedTargets : Nat := 0
 issues : List ExtPrecheckIssue := []

namespace ExtDeploymentStatus

def ended : ExtDeploymentStatus -> Bool
 | .completed | .failed | .cancelled => true
 | .pending | .precheckPassed | .executing => false

def waits (status : ExtDeploymentStatus) : Bool := status = .pending || status = .precheckPassed

def active (status : ExtDeploymentStatus) : Bool := status ≠ .failed && status ≠ .cancelled

theorem of_waits {status : ExtDeploymentStatus} (waits : status.waits = true) :
  status.active = true /\ status.ended = false := by
 revert waits
 cases status <;> decide

end ExtDeploymentStatus

abbrev Deployments := Table Text ExtDeploymentRecord

def validStages : List Text :=
 ["pre_validate".toList, "mutate".toList, "authorize".toList, "side_effect".toList, "observe".toList]

def ExtDeploymentRecord.conflicts (deployment : ExtDeploymentRecord) (artifactId : Text)
  (artifact : ExtArtifactInventoryItem) : Bool :=
 deployment.status.active && deployment.artifactId ≠ artifactId && deployment.stage = artifact.stage &&
  deployment.exclusiveGroup = artifact.exclusiveGroup && artifact.hookScope.any deployment.hookScope.contains

def runExtPrecheck (deployments : Deployments) (inventory : Table Text ExtArtifactInventoryItem)
  (command : ExtCommandSpec) (targetCount : Nat) : List ExtPrecheckIssue :=
 match inventory.lookup command.artifactId with
 | none => [⟨"artifact_not_found", "artifact_id not found in inventory"⟩]
 | some artifact =>
  (if artifact.issues ≠ [] then [⟨"artifact_manifest_invalid", "artifact manifest has validation issues"⟩] else []) ++
  (if !validStages.contains artifact.stage then
    [⟨"stage_invalid", "stage must be one of pre_validate|mutate|authorize|side_effect|observe"⟩] else []) ++
  (if artifact.hookScope = [] then [⟨"hook_scope_missing", "artifact hook_scope is required"⟩] else []) ++
  (if artifact.exclusiveGroup = [] then [⟨"exclusive_group_missing", "artifact exclusive_group is required"⟩] else []) ++
  (if artifact.stage = "observe".toList /\
     artifact.allowedDecisions.any fun raw => Text.toLower (Text.trim raw) ≠ "pass".toList then
    [⟨"observe_stage_decision_forbidden", "observe stage artifacts must only allow pass"⟩] else []) ++
  (deployments.entries.filter fun entry =>
    entry.1 ≠ command.commandId && entry.2.conflicts command.artifactId artifact).map (fun entry =>
     ⟨"exclusive_group_conflict",
       "hook_scope/stage/exclusive_group conflict with command_id=" ++ String.ofList entry.1⟩) ++
  (if targetCount = 0 then [⟨"target_empty", "selector does not match any live server instance"⟩] else [])

inductive Scheduler
 | idle
 | queued (now : Nat) (due : List Text)
 | resolving (commandId : Text) (deployment : ExtDeploymentRecord) (now : Nat) (due : List Text)
 | rolling (commandId : Text) (deployment : ExtDeploymentRecord) (targets : List Text)
  (rollout : Rollout) (now : Nat) (due : List Text)
 | saving (commandId : Text) (begun : Option ExtDeploymentRecord) (now : Nat) (due : List Text)

instance (scheduler : Scheduler) : Decidable (scheduler = .idle) :=
 match scheduler with
 | .idle => isTrue rfl
 | .queued .. | .resolving .. | .rolling .. | .saving .. => isFalse nofun

structure AdminApp where
 deployments : Deployments := ∅
 inventory : Table Text ExtArtifactInventoryItem := ∅
 scheduler : Scheduler := .idle

/-- The process, if there is one, and the file. `accepted` and `published` record what was answered
and sent. -/
structure Site where
 app : Option AdminApp := none
 file : Deployments := ∅
 accepted : List Text := []
 published : List (Text × WaveMessage) := []

inductive SiteAction
 | start
 | crash
 | submit (command : ExtCommandSpec) (scheduled : Bool) (now targetCount : Nat)
 | refreshExtInventoryCache (inventory : Table Text ExtArtifactInventoryItem)
 | poll (now : Nat)
 -- the next section or publish of the poll thread, with the instances it finds and what Redis answers
 | proceed (live : List Text) (published : Bool)

namespace Site

variable (maxClockSkewMs forceFailWaveIndex : Nat) (site : Site) (app : AdminApp) (commandId : Text)

def handleExtDeploymentSubmit (command : ExtCommandSpec) (scheduled : Bool)
  (now targetCount : Nat) : Option Site :=
 let runAtUtc := if scheduled then command.runAtUtc else some now
 if command.runAtUtc.isSome ≠ scheduled \/ (app.deployments.lookup command.commandId).isSome \/
  runExtPrecheck app.deployments app.inventory command targetCount ≠ [] then none
 else
  (app.inventory.lookup command.artifactId).map fun artifact =>
    let deployments := app.deployments.insert command.commandId
     { artifactId := command.artifactId, runAtUtc, rollout := command.rollout, hookScope := artifact.hookScope
       stage := artifact.stage, exclusiveGroup := artifact.exclusiveGroup, targetCount }
    { site with
      app := some { app with deployments }, file := deployments, accepted := command.commandId :: site.accepted }

def dueCommands (deployments : Deployments) (now : Nat) : List Text :=
 (deployments.entries.filter fun entry => entry.2.status.waits && entry.2.runAtUtc.all (· ≤ now)).map (·.1)

def change (update : ExtDeploymentRecord -> ExtDeploymentRecord)
  (begun : Option ExtDeploymentRecord) (now : Nat) (due : List Text) : Site :=
 { site with
   app := some { app with
    deployments := app.deployments.modify commandId update, scheduler := .saving commandId begun now due } }

def beginExtDeployment (now : Nat) (due : List Text) : Site :=
 match app.deployments.lookup commandId with
 | none => { site with app := some { app with scheduler := .queued now due } }
 | some deployment =>
  if !deployment.status.waits then { site with app := some { app with scheduler := .queued now due } }
  else if deployment.runAtUtc.any fun runAt => (runAt + maxClockSkewMs) % 2 ^ 64 < now then
   site.change app commandId (fun deployment =>
    { deployment with
      status := .failed, statusReason := "clock_skew"
      issues := deployment.issues ++ [⟨"clock_skew", "run_at_utc exceeded max_clock_skew_ms"⟩] }) none now due
  else
   site.change app commandId ({ · with status := .executing })
    (some { deployment with status := .executing }) now due

def finishExtDeployment (deployment : ExtDeploymentRecord)
  (targets : List Text) (rollout : Rollout) (published : Bool) (now : Nat) (due : List Text) : Site :=
 let site := site.change app commandId (fun deployment =>
  { deployment with
    targetCount := targets.length, appliedTargets := rollout.appliedCount, status := rollout.status
    statusReason := (rollout.failure.map (·.code)).getD "", issues := deployment.issues ++ rollout.failure.toList })
  none now due
 { site with
   published := site.published ++
    (rollout.rollbackMessages deployment.rollout.rollbackOnFailure published).map (commandId, ·) }

def proceed (live : List Text) (published : Bool) : Option Site :=
 match app.scheduler with
 | .idle => none
 | .queued _ [] => some { site with app := some { app with scheduler := .idle } }
 | .queued now (commandId :: due) => some (site.beginExtDeployment maxClockSkewMs app commandId now due)
 | .resolving commandId deployment now due =>
  if live = [] then
   some (site.change app commandId (fun deployment =>
    { deployment with
      status := .failed, statusReason := "target_empty"
      issues := deployment.issues ++ [⟨"target_empty", "selector does not match any live server instance"⟩] })
    none now due)
  else
   some { site with app := some { app with scheduler := .rolling commandId deployment (sortTargets live) {} now due } }
 | .rolling commandId deployment targets rollout now due =>
  match rollout.failure, deployment.rollout.waves[rollout.waveIndex]? with
  | none, some percent =>
   let next := rollout.rollWave forceFailWaveIndex targets percent published
   some { site with
    app := some { app with scheduler := .rolling commandId deployment targets next now due }
    published := site.published ++ (next.messages.drop rollout.messages.length).map (commandId, ·) }
  | _, _ => some (site.finishExtDeployment app commandId deployment targets rollout published now due)
 | .saving commandId begun now due =>
  let scheduler := begun.elim (.queued now due) (.resolving commandId · now due)
  some { site with app := some { app with scheduler }, file := app.deployments }

def step : SiteAction -> Option Site
 | .start => if site.app.isSome then none else some { site with app := some { deployments := site.file } }
 | .crash => some { site with app := none }
 | .submit command scheduled now targetCount =>
  site.app.bind fun app =>
   -- the poll thread keeps the lock until it has saved
   match app.scheduler with
   | .saving .. => none
   | _ => site.handleExtDeploymentSubmit app command scheduled now targetCount
 | .refreshExtInventoryCache inventory => site.app.map fun app => { site with app := some { app with inventory } }
 | .poll now =>
  site.app.bind fun app =>
   match app.scheduler with
   | .idle => some { site with app := some { app with scheduler := .queued now (dueCommands app.deployments now) } }
   | _ => none
 | .proceed live published =>
  site.app.bind fun app => site.proceed maxClockSkewMs forceFailWaveIndex app live published

def machine : Machine Site SiteAction := ⟨step maxClockSkewMs forceFailWaveIndex⟩

end Site

namespace Scheduler

def current : Scheduler -> Option Text
 | .idle | .queued .. => none
 | .resolving commandId .. | .rolling commandId .. => some commandId
 | .saving commandId begun _ _ => begun.map fun _ => commandId

def due : Scheduler -> List Text
 | .idle => []
 | .queued _ due | .resolving _ _ _ due | .rolling _ _ _ _ _ due | .saving _ _ _ due => due

def busy : Scheduler -> Option Text
 | .idle | .queued .. => none
 | .resolving commandId .. | .rolling commandId .. | .saving commandId .. => some commandId

end Scheduler

def Deployments.Admits (deployments : Deployments) (record : ExtDeploymentRecord) : Prop :=
 ∀ other deployment, deployments.lookup other = some deployment -> deployment.status.active = true ->
  deployment.artifactId ≠ record.artifactId -> deployment.stage = record.stage ->
  deployment.exclusiveGroup = record.exclusiveGroup -> ∀ hook ∈ record.hookScope, hook ∉ deployment.hookScope

def KeepsPlace (update : ExtDeploymentRecord -> ExtDeploymentRecord) : Prop :=
 ∀ deployment, (update deployment).artifactId = deployment.artifactId /\
  (update deployment).stage = deployment.stage /\
  (update deployment).exclusiveGroup = deployment.exclusiveGroup /\
  (update deployment).hookScope = deployment.hookScope /\ (update deployment).runAtUtc = deployment.runAtUtc

inductive SiteChange (site next : Site) (before after : AdminApp) : Prop
 | quiet (deployments : after.deployments = before.deployments) (file : next.file = site.file)
  (accepted : next.accepted = site.accepted) (current : after.scheduler.current = before.scheduler.current)
  (busy : after.scheduler.busy = before.scheduler.busy)
  (due : ∀ commandId deployment, before.deployments.lookup commandId = some deployment ->
    deployment.status.waits = true -> commandId ∈ before.scheduler.due -> commandId ∈ after.scheduler.due)
 | submitted (commandId : Text) (record : ExtDeploymentRecord) (fresh : before.deployments.lookup commandId = none)
  (deployments : after.deployments = before.deployments.insert commandId record)
  (file : next.file = after.deployments) (accepted : next.accepted = commandId :: site.accepted)
  (scheduler : after.scheduler = before.scheduler) (pending : record.status = .pending)
  (admits : before.deployments.Admits record)
 | begun (commandId : Text) (deployment copy : ExtDeploymentRecord) (now : Nat) (due : List Text)
  (found : before.deployments.lookup commandId = some deployment) (waits : deployment.status.waits = true)
  (deployments : after.deployments = before.deployments.modify commandId ({ · with status := .executing }))
  (file : next.file = site.file) (accepted : next.accepted = site.accepted)
  (queued : before.scheduler = .queued now (commandId :: due))
  (scheduler : after.scheduler = .saving commandId (some copy) now due)
 | ended (commandId : Text) (update : ExtDeploymentRecord -> ExtDeploymentRecord) (now : Nat)
  (due : List Text) (deployments : after.deployments = before.deployments.modify commandId update)
  (ends : ∀ deployment, (update deployment).status.ended = true) (place : KeepsPlace update)
  (file : next.file = site.file) (accepted : next.accepted = site.accepted)
  (scheduler : after.scheduler = .saving commandId none now due)
  (origin : (before.scheduler.current = some commandId /\ before.scheduler.due = due) \/
    (before.scheduler = .queued now (commandId :: due) /\
      ∃ deployment, before.deployments.lookup commandId = some deployment /\ deployment.status.waits = true))
 | saved (deployments : after.deployments = before.deployments) (file : next.file = before.deployments)
  (accepted : next.accepted = site.accepted) (current : after.scheduler.current = before.scheduler.current)
  (busy : after.scheduler.busy = before.scheduler.current) (due : after.scheduler.due = before.scheduler.due)

namespace Site

variable {maxClockSkewMs forceFailWaveIndex : Nat} {site next : Site} {app : AdminApp}
 {command : ExtCommandSpec} {targetCount now : Nat} {commandId : Text} {due : List Text}

theorem no_conflict {artifact : ExtArtifactInventoryItem}
  (passed : runExtPrecheck app.deployments app.inventory command targetCount = [])
  (found : app.inventory.lookup command.artifactId = some artifact) {other : Text}
   {deployment : ExtDeploymentRecord}
  (stored : app.deployments.lookup other = some deployment) (different : other ≠ command.commandId) :
  deployment.conflicts command.artifactId artifact = false := by
 simp only [runExtPrecheck, found, append_eq_nil_iff, map_eq_nil_iff, filter_eq_nil_iff] at passed
 have member : (⟨other, deployment⟩ : Sigma fun _ => ExtDeploymentRecord) ∈ app.deployments.entries :=
  AList.mem_lookup_iff.mp stored
 simpa [different] using passed.1.2 _ member

theorem submit_change {scheduled : Bool}
  (taken : site.handleExtDeploymentSubmit app command scheduled now targetCount = some next) :
  ∃ after, next.app = some after /\ SiteChange site next app after := by
 unfold handleExtDeploymentSubmit at taken
 dsimp only at taken
 split at taken
 · cases taken
 next admitted =>
  obtain ⟨artifact, found, rfl⟩ := map_eq_some_iff.mp taken
  simp only [not_or, Decidable.not_not, Bool.not_eq_true, isSome_eq_false_iff, isNone_iff_eq_none] at admitted
  refine ⟨_, rfl, .submitted command.commandId _ admitted.2.1 rfl rfl rfl rfl rfl ?_⟩
  intro other deployment stored active artifactId stage group hook member inside
  have different : other ≠ command.commandId := by
   rintro rfl
   cases stored.symm.trans admitted.2.1
  have clear := no_conflict admitted.2.2 found stored different
  simp_all [ExtDeploymentRecord.conflicts]

theorem ended_change {update : ExtDeploymentRecord -> ExtDeploymentRecord}
  (ups : next.app = (site.change app commandId update none now due).app) (file : next.file = site.file)
  (accepted : next.accepted = site.accepted)
  (ends : ∀ deployment, (update deployment).status.ended = true) (place : KeepsPlace update)
  (origin : (app.scheduler.current = some commandId /\ app.scheduler.due = due) \/
    (app.scheduler = .queued now (commandId :: due) /\
      ∃ deployment, app.deployments.lookup commandId = some deployment /\ deployment.status.waits = true)) :
  ∃ after, next.app = some after /\ SiteChange site next app after :=
 ⟨_, ups, .ended commandId update now due rfl ends place file accepted rfl origin⟩

theorem begin_change (queued : app.scheduler = .queued now (commandId :: due)) :
  ∃ after, (site.beginExtDeployment maxClockSkewMs app commandId now due).app = some after /\
   SiteChange site (site.beginExtDeployment maxClockSkewMs app commandId now due) app after := by
 have skip (idle : ∀ deployment, app.deployments.lookup commandId = some deployment -> deployment.status.waits = false) :
   SiteChange site { site with app := some { app with scheduler := .queued now due } } app
    { app with scheduler := .queued now due } := by
  refine .quiet rfl rfl rfl (by rw [queued]; rfl)
   (by rw [queued]; rfl) fun other deployment stored waits member => ?_
  rw [queued] at member
  refine (mem_cons.mp member).resolve_left ?_
  rintro rfl
  cases (idle deployment stored).symm.trans waits
 unfold beginExtDeployment
 split
 next missing => exact ⟨_, rfl, skip (by simp [missing])⟩
 next deployment found =>
  split
  next other => exact ⟨_, rfl, skip (by simpa [found] using other)⟩
  next waits =>
   have waits : deployment.status.waits = true := by simpa using waits
   split
   · refine ended_change rfl rfl rfl (fun _ => rfl) ?_ (.inr ⟨queued, deployment, found, waits⟩)
     exact fun _ => ⟨rfl, rfl, rfl, rfl, rfl⟩
   · exact ⟨_, rfl, .begun commandId deployment _ now due found waits rfl rfl rfl queued rfl⟩

theorem status_ended (rollout : Rollout) : rollout.status.ended = true := by
 unfold Rollout.status
 split <;> rfl

theorem proceed_change {live : List Text} {published : Bool}
  (taken : site.proceed maxClockSkewMs forceFailWaveIndex app live published = some next) :
  ∃ after, next.app = some after /\ SiteChange site next app after := by
 unfold proceed at taken
 split at taken
 · cases taken
 next now queued =>
  cases taken
  exact ⟨_, rfl, .quiet rfl rfl rfl (by rw [queued]; rfl) (by rw [queued]; rfl) (by simp [queued, Scheduler.due])⟩
 next now commandId due queued =>
  cases taken
  exact begin_change queued
 next commandId deployment now due resolving =>
  split at taken
  · cases taken
    refine ended_change rfl rfl rfl (fun _ => rfl) ?_ (.inl ⟨by rw [resolving]; rfl, by rw [resolving]; rfl⟩)
    exact fun _ => ⟨rfl, rfl, rfl, rfl, rfl⟩
  · cases taken
    refine ⟨_, rfl, .quiet rfl rfl rfl (by rw [resolving]; rfl) (by rw [resolving]; rfl) ?_⟩
    exact fun _ _ _ _ member => by rwa [resolving] at member
 next commandId deployment targets rollout now due rolling =>
  split at taken
  · cases taken
    refine ⟨_, rfl, .quiet rfl rfl rfl (by rw [rolling]; rfl) (by rw [rolling]; rfl) ?_⟩
    exact fun _ _ _ _ member => by rwa [rolling] at member
  · cases taken
    refine ended_change rfl rfl rfl (fun _ => status_ended rollout) ?_
     (.inl ⟨by rw [rolling]; rfl, by rw [rolling]; rfl⟩)
    exact fun _ => ⟨rfl, rfl, rfl, rfl, rfl⟩
 next commandId begun now due saving =>
  cases taken
  cases begun <;> exact ⟨_, rfl, .saved rfl rfl rfl (by rw [saving]; rfl) (by rw [saving]; rfl) (by rw [saving]; rfl)⟩

theorem step_cases {action : SiteAction}
  (taken : (machine maxClockSkewMs forceFailWaveIndex).step site action = some next) :
  (site.app = none /\ next = { site with app := some { deployments := site.file } }) \/
    (action = .crash /\ next = { site with app := none }) \/
    ∃ before after, site.app = some before /\ next.app = some after /\ SiteChange site next before after := by
 cases action with
 | start =>
  obtain ⟨down, ⟨⟩⟩ := ite_none_left_eq_some.mp taken
  exact .inl ⟨by simpa using down, rfl⟩
 | crash =>
  cases taken
  exact .inr (.inl ⟨rfl, rfl⟩)
 | submit command scheduled now targetCount =>
  obtain ⟨app, up, stepped⟩ := bind_eq_some_iff.mp taken
  split at stepped
  · cases stepped
  · obtain ⟨after, ups, changed⟩ := submit_change stepped
    exact .inr (.inr ⟨app, after, up, ups, changed⟩)
 | refreshExtInventoryCache inventory =>
  obtain ⟨app, up, rfl⟩ := map_eq_some_iff.mp taken
  exact .inr (.inr ⟨app, _, up, rfl, .quiet rfl rfl rfl rfl rfl fun _ _ _ _ member => member⟩)
 | poll now =>
  obtain ⟨app, up, stepped⟩ := bind_eq_some_iff.mp taken
  split at stepped
  next idle =>
   cases stepped
   exact .inr (.inr ⟨app, _, up, rfl, .quiet rfl rfl rfl (by rw [idle]; rfl) (by rw [idle]; rfl)
    (by simp [idle, Scheduler.due])⟩)
  · cases stepped
 | proceed live published =>
  obtain ⟨app, up, stepped⟩ := bind_eq_some_iff.mp taken
  obtain ⟨after, ups, changed⟩ := proceed_change stepped
  exact .inr (.inr ⟨app, after, up, ups, changed⟩)

end Site

def Deployments.Exclusive (deployments : Deployments) : Prop :=
 ∀ first second left right, deployments.lookup first = some left -> deployments.lookup second = some right ->
  left.artifactId ≠ right.artifactId -> left.status.active = true -> right.status.active = true ->
  left.stage = right.stage -> left.exclusiveGroup = right.exclusiveGroup ->
  ∀ hook ∈ left.hookScope, hook ∉ right.hookScope

variable {deployments : Deployments} {commandId : Text}

theorem Deployments.Exclusive.modify (exclusive : Exclusive deployments)
  {update : ExtDeploymentRecord -> ExtDeploymentRecord} (place : KeepsPlace update)
  (active : ∀ deployment, deployments.lookup commandId = some deployment -> deployment.status.active = true) :
  Exclusive (Table.modify deployments commandId update) := by
 have before : ∀ other record, (Table.modify deployments commandId update).lookup other = some record ->
   record.status.active = true -> ∃ old, deployments.lookup other = some old /\ old.status.active = true /\
    old.artifactId = record.artifactId /\ old.stage = record.stage /\ old.exclusiveGroup = record.exclusiveGroup /\
    old.hookScope = record.hookScope := by
  intro other record stored live
  rw [lookup_modify] at stored
  split at stored
  next own =>
   obtain ⟨old, found, rfl⟩ := map_eq_some_iff.mp stored
   obtain ⟨artifactId, stage, group, scope, -⟩ := place old
   exact ⟨old, found, active old (own ▸ found), artifactId.symm, stage.symm, group.symm, scope.symm⟩
  · exact ⟨record, stored, live, rfl, rfl, rfl, rfl⟩
 intro first second left right isLeft isRight different leftActive rightActive stage group
 obtain ⟨_, oldLeft, wasLeft, leftId, leftStage, leftGroup, leftScope⟩ := before first left isLeft leftActive
 obtain ⟨_, oldRight, wasRight, rightId, rightStage, rightGroup, rightScope⟩ := before second right isRight rightActive
 have apart := exclusive first second _ _ oldLeft oldRight (by rwa [leftId, rightId]) wasLeft wasRight
  (by rwa [leftStage, rightStage]) (by rwa [leftGroup, rightGroup])
 rwa [leftScope, rightScope] at apart

theorem Deployments.Exclusive.insert (exclusive : Exclusive deployments) {record : ExtDeploymentRecord}
  (admits : deployments.Admits record) : Exclusive (AList.insert commandId record deployments) := by
 intro first second left right isLeft isRight different leftActive rightActive stage group hook member
 rw [lookup_insert_ite] at isLeft isRight
 split at isLeft <;> split at isRight
 · simp_all
 · cases isLeft
   exact admits second right isRight rightActive (Ne.symm different) stage.symm group.symm hook member
 · cases isRight
   exact fun inside => admits first left isLeft leftActive different stage group hook inside member
 · exact exclusive first second left right isLeft isRight different leftActive rightActive stage group hook member

namespace Site

variable {maxClockSkewMs forceFailWaveIndex : Nat} {site next : Site} {app : AdminApp}

structure Sound (site : Site) : Prop where
 file : site.file.Exclusive
 table : ∀ app, site.app = some app -> app.deployments.Exclusive
 marked : ∀ app, site.app = some app -> ∀ commandId, app.scheduler.current = some commandId ->
  ∃ deployment, app.deployments.lookup commandId = some deployment /\ deployment.status = .executing

variable {before after : AdminApp} {action : SiteAction} {deployment : ExtDeploymentRecord}
 {n first now : Nat}

theorem Sound.change (sound : Sound site) (up : site.app = some before)
  (ups : next.app = some after) (change : SiteChange site next before after) : Sound next := by
 have table := sound.table before up
 have marked := sound.marked before up
 have lift (file : next.file.Exclusive) (exclusive : after.deployments.Exclusive)
   (still : ∀ commandId, after.scheduler.current = some commandId ->
     ∃ deployment, after.deployments.lookup commandId = some deployment /\ deployment.status = .executing) :
   Sound next := by
  refine ⟨file, fun app same => ?_, fun app same => ?_⟩ <;> cases ups.symm.trans same
  · exact exclusive
  · exact still
 cases change with
 | quiet deployments file _ current =>
  exact lift (file ▸ sound.file) (deployments ▸ table) (by rwa [deployments, current])
 | submitted commandId record fresh deployments file _ scheduler _ admits =>
  have exclusive := deployments ▸ table.insert admits
  refine lift (file ▸ exclusive) exclusive fun other current => ?_
  obtain ⟨deployment, found, executing⟩ := marked other (scheduler ▸ current)
  refine ⟨deployment, ?_, executing⟩
  rw [deployments, lookup_insert_ite, if_neg, found]
  rintro rfl
  cases fresh.symm.trans found
 | begun commandId deployment copy now due found waits deployments file _ _ scheduler =>
  refine lift (file ▸ sound.file) ?_ fun other current => ?_
  · rw [deployments]
    refine table.modify (fun _ => ⟨rfl, rfl, rfl, rfl, rfl⟩) fun other same => ?_
    cases found.symm.trans same
    exact (of_waits waits).1
  · rw [scheduler] at current
    cases current
    exact ⟨_, by rw [deployments, lookup_modify, if_pos rfl, found]; rfl, rfl⟩
 | ended commandId update now due deployments _ place file _ scheduler origin =>
  refine lift (file ▸ sound.file) ?_ (by simp [scheduler, Scheduler.current])
  rw [deployments]
  refine table.modify place fun deployment found => ?_
  obtain ⟨current, -⟩ | ⟨-, other, same, waits⟩ := origin
  · obtain ⟨other, same, executing⟩ := marked commandId current
    cases found.symm.trans same
    simp [executing, active]
  · cases found.symm.trans same
    exact (of_waits waits).1
 | saved deployments file _ current =>
  exact lift (file ▸ table) (deployments ▸ table) (by rwa [deployments, current])

theorem Sound.step (sound : Sound site)
  (taken : (machine maxClockSkewMs forceFailWaveIndex).step site action = some next) : Sound next := by
 obtain ⟨-, rfl⟩ | ⟨-, rfl⟩ | ⟨before, after, up, ups, change⟩ := step_cases taken
 · refine ⟨sound.file, fun app same => ?_, fun app same => ?_⟩ <;> cases same
   · exact sound.file
   · exact fun _ current => by cases current
 · refine ⟨sound.file, fun _ up => ?_, fun _ up => ?_⟩ <;> cases up
 · exact sound.change up ups change

/-- No two deployments of different artifacts that have neither failed nor been cancelled share a
stage, an exclusive group and a hook, whatever happens to the inventory and to the process. -/
theorem deployments_stay_exclusive (maxClockSkewMs forceFailWaveIndex : Nat)
  (trace : List SiteAction) (final : Site)
  (app : AdminApp) (ran : (machine maxClockSkewMs forceFailWaveIndex).run {} trace = some final)
  (up : final.app = some app) : app.deployments.Exclusive := by
 have initial : Sound {} := by refine ⟨by simp [Deployments.Exclusive], fun _ up => ?_, fun _ up => ?_⟩ <;> cases up
 exact ((machine maxClockSkewMs forceFailWaveIndex).run_keeps (fun _ _ _ sound taken => Sound.step sound taken) initial
  ran).table app up

def moveArtifact : ExtArtifactInventoryItem := { stage := "mutate".toList, hookScope := [['m']], exclusiveGroup := ['g'] }

def inventory : Table Text ExtArtifactInventoryItem :=
 ((∅ : Table Text ExtArtifactInventoryItem).insert ['a'] moveArtifact).insert ['b']
   { moveArtifact with hookScope := [['c']] }

def twoSubmissions : List SiteAction :=
 [.start, .refreshExtInventoryCache inventory, .submit { commandId := ['1'], artifactId := ['a'] } false 5 1,
   .submit { commandId := ['2'], artifactId := ['b'] } false 6 1]

theorem two_artifacts_of_a_group_are_deployed :
  ∃ final app, (machine 1000 0).run {} twoSubmissions = some final /\ final.app = some app /\
   app.deployments.keys = [['2'], ['1']] /\ app.deployments.Exclusive := by
 obtain ⟨final, ran, app, up, keys⟩ : ∃ final ∈ (machine 1000 0).run {} twoSubmissions,
  ∃ app ∈ final.app, app.deployments.keys = [['2'], ['1']] := by decide +kernel
 exact ⟨final, app, ran, up, keys, deployments_stay_exclusive 1000 0 twoSubmissions final app ran up⟩

def Unbroken (site : Site) : SiteAction -> Prop
 | .crash => ∀ app, site.app = some app -> app.scheduler.busy = none
 | _ => True

instance (site : Site) : (action : SiteAction) -> Decidable (site.Unbroken action)
 | .crash =>
  match up : site.app with
  | none => isTrue (by simp [Unbroken, up])
  | some app => decidable_of_iff (app.scheduler.busy = none) (by simp [Unbroken, up])
 | .start | .submit .. | .refreshExtInventoryCache _ | .poll _ | .proceed .. => isTrue trivial

structure Settled (site : Site) : Prop where
 table : ∀ app, site.app = some app -> ∀ commandId deployment, app.deployments.lookup commandId = some deployment ->
  deployment.status = .executing -> app.scheduler.current = some commandId
 file : ∀ commandId deployment, site.file.lookup commandId = some deployment -> deployment.status = .executing ->
  ∃ app, site.app = some app /\ app.scheduler.busy = some commandId
 accepted : ∀ commandId ∈ site.accepted, (site.file.lookup commandId).isSome = true
 known : ∀ app, site.app = some app -> ∀ commandId, (site.file.lookup commandId).isSome = true ->
  (app.deployments.lookup commandId).isSome = true

theorem busy_of_current {scheduler : Scheduler} (current : scheduler.current = some commandId) :
  scheduler.busy = some commandId := by
 cases scheduler with
 | idle | queued => cases current
 | resolving | rolling => exact current
 | saving _ begun => cases begun <;> cases current; rfl

theorem Settled.change (settled : Settled site) (up : site.app = some before)
  (ups : next.app = some after) (change : SiteChange site next before after) : Settled next := by
 obtain ⟨table, file, accepted, known⟩ := settled
 replace table := table before up
 replace known := known before up
 replace file : ∀ commandId deployment, site.file.lookup commandId = some deployment ->
   deployment.status = .executing -> before.scheduler.busy = some commandId := by
  intro commandId deployment stored executing
  obtain ⟨app, same, busy⟩ := file commandId deployment stored executing
  cases up.symm.trans same
  exact busy
 have lift (table : ∀ commandId deployment, after.deployments.lookup commandId = some deployment ->
    deployment.status = .executing -> after.scheduler.current = some commandId)
   (file : ∀ commandId deployment, next.file.lookup commandId = some deployment -> deployment.status = .executing ->
     after.scheduler.busy = some commandId)
   (accepted : ∀ commandId ∈ next.accepted, (next.file.lookup commandId).isSome = true)
   (known : ∀ commandId, (next.file.lookup commandId).isSome = true -> (after.deployments.lookup commandId).isSome = true) :
   Settled next := by
  refine ⟨fun app same => ?_, fun commandId deployment stored executing =>
   ⟨after, ups, file commandId deployment stored executing⟩, accepted, fun app same => ?_⟩ <;> cases ups.symm.trans same
  · exact table
  · exact known
 cases change with
 | quiet deployments filed accepts current busies =>
  apply lift <;> simp only [deployments, filed, accepts, current, busies] <;> assumption
 | submitted commandId record fresh deployments filed accepts scheduler pending _ =>
  have marked : ∀ other deployment, (AList.insert commandId record before.deployments).lookup other = some deployment ->
    deployment.status = .executing -> before.scheduler.current = some other := by
   intro other deployment stored executing
   rw [lookup_insert_ite] at stored
   split at stored
   · cases stored
     cases pending.symm.trans executing
   · exact table other deployment stored executing
  apply lift <;> simp only [deployments, filed, accepts, scheduler]
  · exact marked
  · exact fun other deployment stored executing => busy_of_current (marked other deployment stored executing)
  · intro other member
    rw [lookup_insert_ite]
    split
    · rfl
    · exact known other (accepted other ((mem_cons.mp member).resolve_left (by assumption)))
  · exact fun _ stored => stored
 | begun commandId deployment copy now due found waits deployments filed accepts queued scheduler =>
  apply lift <;> simp only [deployments, filed, accepts, scheduler, lookup_modify]
  · grind [Scheduler.current]
  · grind [Scheduler.busy]
  · exact accepted
  · grind
 | ended commandId update now due deployments ends _ filed accepts scheduler origin =>
  have only : ∀ other, before.scheduler.busy = some other -> commandId = other := by
   intro other busy
   obtain ⟨current, -⟩ | ⟨queued, -⟩ := origin
   · exact some.inj ((busy_of_current current).symm.trans busy)
   · rw [queued] at busy
     cases busy
  apply lift <;> simp only [deployments, filed, accepts, scheduler, lookup_modify]
  · intro other deployment stored executing
    split at stored
    · obtain ⟨old, -, rfl⟩ := map_eq_some_iff.mp stored
      have closed := ends old
      rw [executing] at closed
      cases closed
    next different => exact absurd (only other (busy_of_current (table other deployment stored executing))) (Ne.symm different)
  · exact fun other deployment stored executing => congrArg some (only other (file other deployment stored executing))
  · exact accepted
  · grind
 | saved deployments filed accepts current busies =>
  apply lift <;> simp only [deployments, filed, accepts, current, busies]
  · exact table
  · exact table
  · exact fun other member => known other (accepted other member)
  · exact fun _ stored => stored

theorem Settled.step (settled : Settled site) (allowed : site.Unbroken action)
  (taken : (machine maxClockSkewMs forceFailWaveIndex).step site action = some next) : Settled next := by
 obtain ⟨down, rfl⟩ | ⟨rfl, rfl⟩ | ⟨before, after, up, ups, change⟩ := step_cases taken
 · have stopped : ∀ commandId deployment, site.file.lookup commandId = some deployment ->
     deployment.status ≠ .executing := by
    intro commandId deployment stored executing
    obtain ⟨app, up, -⟩ := settled.file commandId deployment stored executing
    cases down.symm.trans up
   refine ⟨fun app same commandId deployment stored executing => ?_, fun commandId deployment stored executing =>
    absurd executing (stopped commandId deployment stored), settled.accepted, fun app same => ?_⟩ <;> cases same
   · exact absurd executing (stopped commandId deployment stored)
   · exact fun _ stored => stored
 · refine ⟨fun _ up => ?_, fun commandId deployment stored executing => ?_, settled.accepted, fun _ up => ?_⟩
   · cases up
   · obtain ⟨app, up, busy⟩ := settled.file commandId deployment stored executing
     cases (allowed app up).symm.trans busy
   · cases up
 · exact settled.change up ups change

def Handled (scheduler : Scheduler) (commandId : Text) (status : ExtDeploymentStatus) : Prop :=
 status.ended = true \/ (status.waits = true /\ commandId ∈ scheduler.due) \/ scheduler.current = some commandId

theorem change_follows (change : SiteChange site next before after)
  (found : before.deployments.lookup commandId = some deployment) :
  ∃ later, after.deployments.lookup commandId = some later /\ later.runAtUtc = deployment.runAtUtc /\
   (deployment.status.ended = true -> later.status.ended = true) /\
   (Handled before.scheduler commandId deployment.status -> Handled after.scheduler commandId later.status) := by
 cases change with
 | quiet deployments _ _ current _ due =>
  refine ⟨deployment, deployments ▸ found, rfl, id, ?_⟩
  rw [Handled, Handled, current]
  exact Or.imp_right (Or.imp_left fun ⟨waits, member⟩ => ⟨waits, due commandId deployment found waits member⟩)
 | submitted other record fresh deployments _ _ scheduler =>
  refine ⟨deployment, ?_, rfl, id, scheduler ▸ id⟩
  rw [deployments, lookup_insert_ite, if_neg, found]
  rintro rfl
  cases fresh.symm.trans found
 | begun other waiting copy now due stored waits deployments _ _ queued scheduler =>
  rw [deployments, lookup_modify, queued, scheduler]
  split
  next own =>
   cases own
   cases stored.symm.trans found
   refine ⟨{ deployment with status := .executing }, by rw [found]; rfl, rfl, ?_, fun _ => .inr (.inr rfl)⟩
   simp [(of_waits waits).2]
  next different =>
   refine ⟨deployment, found, rfl, id, ?_⟩
   simp [Handled, Scheduler.due, Scheduler.current, different]
   tauto
 | ended other update now due deployments ends place _ _ scheduler origin =>
  rw [deployments, lookup_modify, scheduler]
  split
  · exact ⟨_, by rw [found]; rfl, (place deployment).2.2.2.2, fun _ => ends deployment, fun _ => .inl (ends deployment)⟩
  next different =>
   refine ⟨deployment, found, rfl, id, ?_⟩
   obtain ⟨current, rfl⟩ | ⟨queued, -⟩ := origin
   · simp [Handled, current, Ne.symm different]
     exact Or.imp_right .inl
   · simp [Handled, Scheduler.due, Scheduler.current, queued, different]
 | saved deployments _ _ current _ due =>
  exact ⟨deployment, deployments ▸ found, rfl, id, by rw [Handled, Handled, current, due]; exact id⟩

structure Execution (maxClockSkewMs forceFailWaveIndex : Nat) (states : Nat -> Site) (actions : Nat -> SiteAction) :
  Prop extends (machine maxClockSkewMs forceFailWaveIndex).Endless {} states actions where
 polls : ∀ now n, ∃ later ≥ n, ∃ time ≥ now, actions later = .poll time

variable {states : Nat -> Site} {actions : Nat -> SiteAction}
 (run : Execution maxClockSkewMs forceFailWaveIndex states actions)
include run

theorem Execution.settled (unbroken : ∀ n, (states n).Unbroken (actions n)) (n : Nat) : Settled (states n) := by
 induction n with
 | zero =>
  rw [run.starts]
  refine ⟨fun _ up => ?_, fun _ _ stored => ?_, fun _ member => ?_, fun _ up => ?_⟩ <;> contradiction
 | succ n ih => exact ih.step (unbroken n) (run.steps n)

theorem Execution.change (up : (states n).app.isSome = true) (stays : (states (n + 1)).app.isSome = true) :
  ∃ before after, (states n).app = some before /\ (states (n + 1)).app = some after /\
   SiteChange (states n) (states (n + 1)) before after := by
 obtain ⟨down, -⟩ | ⟨-, crashed⟩ | change := step_cases (run.steps n)
 · simp [down] at up
 · simp [crashed] at stays
 · exact change

theorem Execution.accepted (le : first ≤ n)
  (accepted : commandId ∈ (states first).accepted) : commandId ∈ (states n).accepted := by
 induction n, le using Nat.le_induction with
 | base => exact accepted
 | succ n _ ih =>
  obtain ⟨-, same⟩ | ⟨-, same⟩ | ⟨_, _, _, _, change⟩ := step_cases (run.steps n)
  · rwa [same]
  · rwa [same]
  · cases change with
    | submitted _ _ _ _ _ accepts => exact accepts ▸ mem_cons_of_mem _ ih
    | quiet _ _ accepts | begun _ _ _ _ _ _ _ _ _ accepts | ended _ _ _ _ _ _ _ _ accepts | saved _ _ accepts =>
     rwa [accepts]

theorem Execution.follows (stays : ∀ n ≥ first, (states n).app.isSome = true) (le : first ≤ n)
  (property : Scheduler -> ExtDeploymentRecord -> Prop)
  (kept : ∀ before after deployment later, property before deployment -> later.runAtUtc = deployment.runAtUtc ->
    (deployment.status.ended = true -> later.status.ended = true) ->
    (Handled before commandId deployment.status -> Handled after commandId later.status) -> property after later)
  (holds : ∃ app deployment, (states first).app = some app /\ app.deployments.lookup commandId = some deployment /\
    property app.scheduler deployment) :
  ∃ app deployment, (states n).app = some app /\ app.deployments.lookup commandId = some deployment /\
   property app.scheduler deployment := by
 induction n, le using Nat.le_induction with
 | base => exact holds
 | succ n le ih =>
  obtain ⟨app, deployment, up, found, holds⟩ := ih
  obtain ⟨before, after, same, ups, change⟩ := run.change (stays n le) (stays (n + 1) (Nat.le_succ_of_le le))
  cases up.symm.trans same
  obtain ⟨later, isLater, runAt, closed, handled⟩ := change_follows change found
  exact ⟨after, later, ups, isLater, kept _ _ deployment later holds runAt closed handled⟩

omit run

theorem poll_step (taken : (machine maxClockSkewMs forceFailWaveIndex).step site (.poll now) = some next)
  (up : site.app = some app) :
  app.scheduler = .idle /\
   next.app = some { app with scheduler := .queued now (dueCommands app.deployments now) } := by
 obtain ⟨_, same, stepped⟩ := bind_eq_some_iff.mp taken
 cases up.symm.trans same
 split at stepped
 next idle =>
  cases stepped
  exact ⟨idle, rfl⟩
 · cases stepped

theorem poll_handles (settled : Settled site) (up : site.app = some app) (idle : app.scheduler = .idle)
  (found : app.deployments.lookup commandId = some deployment) (due : deployment.runAtUtc.all (· ≤ now) = true) :
  Handled (.queued now (dueCommands app.deployments now)) commandId deployment.status := by
 have member : (⟨commandId, deployment⟩ : Sigma fun _ => ExtDeploymentRecord) ∈ app.deployments.entries :=
  AList.mem_lookup_iff.mp found
 have listed : deployment.status.waits = true -> commandId ∈ dueCommands app.deployments now := fun waits =>
  mem_map.mpr ⟨_, mem_filter.mpr ⟨member, by simp [waits, due]⟩, rfl⟩
 cases status : deployment.status with
 | pending | precheckPassed => exact .inr (.inl ⟨rfl, listed (by rw [status]; rfl)⟩)
 | executing =>
  have current := settled.table app up commandId deployment found status
  rw [idle] at current
  cases current
 | completed | failed | cancelled => exact .inl rfl

/-- As long as the process is only gone while no deployment is being executed or saved, and stays up
in the end, every accepted deployment is completed, failed or cancelled from some point on. -/
theorem deployments_come_to_an_end (maxClockSkewMs forceFailWaveIndex : Nat) (states : Nat -> Site)
  (actions : Nat -> SiteAction) (run : Execution maxClockSkewMs forceFailWaveIndex states actions)
  (unbroken : ∀ n, (states n).Unbroken (actions n)) (up : ∃ first, ∀ n ≥ first, (states n).app.isSome = true)
  (commandId : Text) (n : Nat) (accepted : commandId ∈ (states n).accepted) :
  ∃ last, ∀ n ≥ last, ∃ app deployment, (states n).app = some app /\
   app.deployments.lookup commandId = some deployment /\ deployment.status.ended = true := by
 obtain ⟨up, stays⟩ := up
 -- from here on the deployment is known, with the time it is to run at
 obtain ⟨first, isUp, isAccepted⟩ : ∃ first ≥ up, n ≤ first := ⟨max up n, Nat.le_max_left .., Nat.le_max_right ..⟩
 have settled := run.settled unbroken
 obtain ⟨app, isApp⟩ := isSome_iff_exists.mp (stays first isUp)
 obtain ⟨deployment, found⟩ := isSome_iff_exists.mp ((settled first).known app isApp commandId
  ((settled first).accepted commandId (run.accepted isAccepted accepted)))
 replace stays : ∀ {start}, start ≥ first -> ∀ n ≥ start, (states n).app.isSome = true :=
  fun after n le => stays n (Nat.le_trans isUp (Nat.le_trans after le))
 -- the first poll from then on that finds it due, and the one after it
 obtain ⟨handling, late, now, isNow, polls⟩ := run.polls (deployment.runAtUtc.getD 0) first
 obtain ⟨ending, later, _, -, pollsAgain⟩ := run.polls 0 (handling + 1)
 obtain ⟨app, waiting, isApp, found, same⟩ := run.follows (stays (Nat.le_refl _)) late
  (fun _ other => other.runAtUtc = deployment.runAtUtc)
  (fun _ _ _ _ holds same _ _ => same.trans holds) ⟨app, deployment, isApp, found, rfl⟩
 have due : waiting.runAtUtc.all (· ≤ now) = true := by
  rw [same]
  cases runAt : deployment.runAtUtc <;> simp_all
 obtain ⟨idle, next⟩ := poll_step (polls ▸ run.steps handling) isApp
 have handled := poll_handles (settled handling) isApp idle found due
 have goesOn : handling + 1 ≥ first := Nat.le_succ_of_le late
 obtain ⟨app, ended, isApp, found, handled⟩ := run.follows (stays goesOn) later
  (fun scheduler deployment => Handled scheduler commandId deployment.status)
  (fun _ _ _ _ holds _ _ keeps => keeps holds) ⟨_, waiting, next, found, handled⟩
 obtain ⟨idle, -⟩ := poll_step (pollsAgain ▸ run.steps ending) isApp
 have closed : ended.status.ended = true := by simpa [Handled, idle, Scheduler.due, Scheduler.current] using handled
 exact ⟨ending, fun n le => run.follows (stays (Nat.le_trans goesOn later)) le
  (fun _ deployment => deployment.status.ended = true) (fun _ _ _ _ holds _ keeps _ => keeps holds)
  ⟨app, ended, isApp, found, closed⟩⟩

theorem execution_of_run {trace : List SiteAction}
  (ran : (machine maxClockSkewMs forceFailWaveIndex).run {} trace = some site) (up : site.app = some app)
  (idle : app.scheduler = .idle) (closed : ∀ entry ∈ app.deployments.entries, entry.2.status.waits = false) :
  ∃ states actions, Execution maxClockSkewMs forceFailWaveIndex states actions /\
   (∀ n, actions n = .crash -> .crash ∈ trace) /\ ∃ first, ∀ n ≥ first, ∃ later,
     states n = { site with app := some later } /\ later.deployments = app.deployments := by
 have nothing (now : Nat) : dueCommands app.deployments now = [] := by
  simp only [dueCommands, map_eq_nil_iff, filter_eq_nil_iff]
  intro entry member
  simp [closed entry member]
 let states (n : Nat) : Site :=
  { site with app := some { app with scheduler := if n % 2 = 0 then .idle else .queued (n - 1) [] } }
 let actions (n : Nat) : SiteAction := if n % 2 = 0 then .poll n else .proceed [] false
 have forever : (machine maxClockSkewMs forceFailWaveIndex).Endless site states actions := by
  refine ⟨?_, fun n => ?_⟩
  · cases site
    cases app
    simp_all [states]
  · by_cases even : n % 2 = 0
    · have odd : ¬ (n + 1) % 2 = 0 := by omega
      simp [machine, step, states, actions, even, odd, nothing]
    · have even' : (n + 1) % 2 = 0 := by omega
      simp [machine, step, proceed, states, actions, even, even']
 obtain ⟨before, taken, run, same, member⟩ := Machine.Endless.append ran forever
 refine ⟨before, taken, ⟨run, fun now n => ?_⟩, fun n crash => ?_, trace.length, fun n le => ?_⟩
 · refine ⟨2 * (now + n) + trace.length, by omega, 2 * (now + n), by omega, ?_⟩
   rw [(same _).2]
   simp [actions]
 · refine (member n).elim (crash ▸ id) fun ⟨m, isTail⟩ => ?_
   rw [crash] at isTail
   simp only [actions] at isTail
   split at isTail <;> cases isTail
 · obtain ⟨m, rfl⟩ := Nat.exists_eq_add_of_le' le
   exact ⟨_, (same m).1, rfl⟩

def firstWave : List SiteAction :=
 [.start, .refreshExtInventoryCache inventory,
   .submit { commandId := ['1'], artifactId := ['a'], rollout := ⟨"canary_wave".toList, [50, 100], false⟩ } false 5 2,
   .poll 5, .proceed [] true, .proceed [] true, .proceed [['x'], ['y']] true, .proceed [] true]

theorem deployment_in_two_waves_completes :
  ∃ states actions, Execution 1000 0 states actions /\ ∃ last, ∀ n ≥ last, ∃ app deployment,
   (states n).app = some app /\
   app.deployments.lookup ['1'] = some deployment /\ deployment.status.ended = true := by
 obtain ⟨site, ran, app, up, idle, closed, accepted⟩ :
  ∃ site ∈ (machine 1000 0).run {} (firstWave ++ replicate 4 (.proceed [] true)), ∃ app ∈ site.app,
   app.scheduler = .idle /\ (∀ entry ∈ app.deployments.entries, entry.2.status.waits = false) /\
   ['1'] ∈ site.accepted := by decide +kernel
 obtain ⟨states, actions, run, whole, first, stays⟩ := execution_of_run ran up idle closed
 have accepted : ['1'] ∈ (states first).accepted := by
  obtain ⟨later, isLater, -⟩ := stays _ (Nat.le_refl _)
  rwa [isLater]
 refine ⟨states, actions, run, deployments_come_to_an_end 1000 0 states actions run (fun n => ?_) ⟨first, fun n le => ?_⟩
  ['1'] first accepted⟩
 · cases same : actions n with
   | crash => exact absurd (whole n same) (by simp [firstWave])
   | _ => trivial
 · obtain ⟨later, isLater, -⟩ := stays n le
   rw [isLater]
   rfl

/-- The process is gone after the first of two waves. The one after it stays up, but a deployment that
is loaded as executing is not taken up again. -/
theorem crash_between_waves_strands_deployment :
  ∃ states actions, Execution 1000 0 states actions /\ ∃ first, ['1'] ∈ (states first).accepted /\
   ∀ n ≥ first, (∃ app deployment, (states n).app = some app /\ app.deployments.lookup ['1'] = some deployment /\
    deployment.status = .executing) /\ (states n).published.map (·.2.serverIds) = [[['x']]] := by
 obtain ⟨site, ran, app, up, idle, closed, ⟨deployment, found, executing⟩, accepted, published⟩ :
   ∃ site ∈ (machine 1000 0).run {} (firstWave ++ [.crash, .start]), ∃ app ∈ site.app,
    app.scheduler = .idle /\ (∀ entry ∈ app.deployments.entries, entry.2.status.waits = false) /\
    (∃ deployment ∈ app.deployments.lookup ['1'], deployment.status = .executing) /\ ['1'] ∈ site.accepted /\
    site.published.map (·.2.serverIds) = [[['x']]] := by
  decide +kernel
 obtain ⟨states, actions, run, -, first, stays⟩ := execution_of_run ran up idle closed
 refine ⟨states, actions, run, first, ?_, fun n le => ?_⟩
 · obtain ⟨later, isLater, -⟩ := stays _ (Nat.le_refl _)
   rwa [isLater]
 · obtain ⟨later, isLater, same⟩ := stays n le
   rw [isLater]
   exact ⟨⟨later, deployment, rfl, same ▸ found, executing⟩, published⟩

end Site

end Dynaxis.Admin
