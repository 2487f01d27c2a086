import Dynaxis.Shared.Machine
import Dynaxis.Shared.Text

namespace Dynaxis.Worlds

open Shared List Option Nat

structure ObservedWorldTransferInstance where
 instanceId : Text
 ready : Bool := false

structure ObservedWorldTransferState where
 worldId : Text := []
 ownerInstanceId : Text := []
 draining : Bool := false
 replacementOwnerInstanceId : Text := []
 instances : List ObservedWorldTransferInstance := []

inductive WorldTransferPhase
 | idle
 | targetMissing
 | targetNotReady
 | ownerMissing
 | awaitingOwnerHandoff
 | ownerHandoffCommitted
 deriving DecidableEq

structure WorldTransferSummary where
 transferDeclared : Bool := false
 draining : Bool := false
 ownerPresent : Bool := false
 targetPresent : Bool := false
 targetReady : Bool := false
 ownerMatchesTarget : Bool := false
 instancesTotal : Nat := 0
 readyInstances : Nat := 0

structure WorldTransferStatus where
 worldId : Text
 ownerInstanceId : Text
 targetOwnerInstanceId : Text
 phase : WorldTransferPhase
 summary : WorldTransferSummary

def WorldTransferSummary.add (target : Text) (summary : WorldTransferSummary)
  (observed : ObservedWorldTransferInstance) : WorldTransferSummary :=
 { summary with
   readyInstances := if observed.ready then u32 (summary.readyInstances + 1) else summary.readyInstances
   targetPresent := if observed.instanceId = target then true else summary.targetPresent
   targetReady := if observed.instanceId = target then observed.ready else summary.targetReady }

variable (state : ObservedWorldTransferState)

def ObservedWorldTransferState.summarize : WorldTransferSummary :=
 state.instances.foldl (WorldTransferSummary.add state.replacementOwnerInstanceId)
  { transferDeclared := state.draining && state.replacementOwnerInstanceId ≠ []
    draining := state.draining
    ownerPresent := state.ownerInstanceId ≠ []
    instancesTotal := u32 state.instances.length }

def WorldTransferSummary.phase (summary : WorldTransferSummary) : WorldTransferPhase :=
 if !summary.transferDeclared then .idle
 else if !summary.targetPresent then .targetMissing
 else if !summary.targetReady then .targetNotReady
 else if !summary.ownerPresent then .ownerMissing
 else if summary.ownerMatchesTarget then .ownerHandoffCommitted
 else .awaitingOwnerHandoff

def evaluateWorldTransfer : WorldTransferStatus :=
 let summary :=
  { state.summarize with
    ownerMatchesTarget := state.summarize.ownerPresent && state.replacementOwnerInstanceId ≠ [] &&
     state.ownerInstanceId = state.replacementOwnerInstanceId }
 { worldId := state.worldId
   ownerInstanceId := state.ownerInstanceId
   targetOwnerInstanceId := state.replacementOwnerInstanceId
   phase := summary.phase
   summary }

structure WorldMigrationEnvelope where
 targetWorldId : Text
 targetOwnerInstanceId : Text
 preserveRoom : Bool := false
 payloadKind : Text := []
 payloadRef : Text := []
 updatedAtMs : Nat := 0

structure ObservedWorldMigrationInstance where
 instanceId : Text
 ready : Bool := false

structure ObservedWorldMigrationWorld where
 worldId : Text := []
 currentOwnerInstanceId : Text := []
 draining : Bool := false
 instances : List ObservedWorldMigrationInstance := []

inductive WorldMigrationPhase
 | idle
 | targetWorldMissing
 | targetOwnerMissing
 | targetOwnerNotReady
 | awaitingSourceDrain
 | readyToResume
 deriving DecidableEq

structure WorldMigrationSummary where
 envelopePresent : Bool := false
 sourceDraining : Bool := false
 targetWorldPresent : Bool := false
 targetOwnerPresent : Bool := false
 targetOwnerReady : Bool := false
 targetOwnerMatchesTargetWorldOwner : Bool := false
 preserveRoom : Bool := false

structure WorldMigrationStatus where
 sourceWorldId : Text := []
 targetWorldId : Text := []
 targetOwnerInstanceId : Text := []
 payloadKind : Text := []
 payloadRef : Text := []
 phase : WorldMigrationPhase := .idle
 summary : WorldMigrationSummary := {}

def evaluateWorldMigration (sourceWorld : ObservedWorldMigrationWorld) (envelope : Option WorldMigrationEnvelope)
  (targetWorld : Option ObservedWorldMigrationWorld) : WorldMigrationStatus :=
 let out : WorldMigrationStatus :=
  { sourceWorldId := sourceWorld.worldId, summary := { sourceDraining := sourceWorld.draining } }
 match envelope with
 | none => out
 | some envelope =>
  let out :=
   { out with
     targetWorldId := envelope.targetWorldId
     targetOwnerInstanceId := envelope.targetOwnerInstanceId
     payloadKind := envelope.payloadKind
     payloadRef := envelope.payloadRef
     summary := { out.summary with envelopePresent := true, preserveRoom := envelope.preserveRoom } }
  match targetWorld.filter (·.worldId ≠ []) with
  | none => { out with phase := .targetWorldMissing }
  | some target =>
   -- the loop stops at the first instance with the owner's name
   let owner := target.instances.find? (·.instanceId = envelope.targetOwnerInstanceId)
   let summary :=
    { out.summary with
      targetWorldPresent := true
      targetOwnerMatchesTargetWorldOwner := target.currentOwnerInstanceId ≠ [] &&
       target.currentOwnerInstanceId = envelope.targetOwnerInstanceId
      targetOwnerPresent := owner.isSome
      targetOwnerReady := owner.any (·.ready) }
   let phase : WorldMigrationPhase :=
    if !summary.targetOwnerPresent then .targetOwnerMissing
    else if !summary.targetOwnerReady then .targetOwnerNotReady
    else if !sourceWorld.draining then .awaitingSourceDrain
    else .readyToResume
   { out with summary, phase }

structure ObservedWorldDrainInstance where
 instanceId : Text
 ready : Bool := false
 activeSessions : Nat := 0

structure ObservedWorldDrainState where
 worldId : Text := []
 ownerInstanceId : Text := []
 draining : Bool := false
 replacementOwnerInstanceId : Text := []
 instances : List ObservedWorldDrainInstance := []

inductive WorldDrainPhase
 | idle
 | replacementTargetMissing
 | replacementTargetNotReady
 | drainingSessions
 | drained
 deriving DecidableEq

structure WorldDrainSummary where
 drainDeclared : Bool := false
 replacementDeclared : Bool := false
 ownerPresent : Bool := false
 replacementPresent : Bool := false
 replacementReady : Bool := false
 instancesTotal : Nat := 0
 readyInstances : Nat := 0
 activeSessionsTotal : Nat := 0
 ownerActiveSessions : Nat := 0
 replacementActiveSessions : Nat := 0

structure WorldDrainStatus where
 worldId : Text
 ownerInstanceId : Text
 replacementOwnerInstanceId : Text
 phase : WorldDrainPhase
 summary : WorldDrainSummary

def WorldDrainSummary.add (owner replacement : Text) (summary : WorldDrainSummary)
  (observed : ObservedWorldDrainInstance) : WorldDrainSummary :=
 let isOwner := owner ≠ [] /\ observed.instanceId = owner
 let isReplacement := replacement ≠ [] /\ observed.instanceId = replacement
 { summary with
   activeSessionsTotal := u32 (summary.activeSessionsTotal + observed.activeSessions)
   readyInstances := if observed.ready then u32 (summary.readyInstances + 1) else summary.readyInstances
   ownerActiveSessions := if isOwner then observed.activeSessions else summary.ownerActiveSessions
   replacementPresent := if isReplacement then true else summary.replacementPresent
   replacementReady := if isReplacement then observed.ready else summary.replacementReady
   replacementActiveSessions :=
    if isReplacement then observed.activeSessions else summary.replacementActiveSessions }

def ObservedWorldDrainState.summarize (state : ObservedWorldDrainState) : WorldDrainSummary :=
 state.instances.foldl (WorldDrainSummary.add state.ownerInstanceId state.replacementOwnerInstanceId)
  { drainDeclared := state.draining
    replacementDeclared := state.replacementOwnerInstanceId ≠ []
    ownerPresent := state.ownerInstanceId ≠ []
    instancesTotal := u32 state.instances.length }

def WorldDrainSummary.phase (draining : Bool) (summary : WorldDrainSummary) : WorldDrainPhase :=
 if !draining then .idle
 else if summary.replacementDeclared && !summary.replacementPresent then .replacementTargetMissing
 else if summary.replacementDeclared && !summary.replacementReady then .replacementTargetNotReady
 else if 0 < summary.activeSessionsTotal then .drainingSessions
 else .drained

def evaluateWorldDrain (state : ObservedWorldDrainState) : WorldDrainStatus :=
 { worldId := state.worldId
   ownerInstanceId := state.ownerInstanceId
   replacementOwnerInstanceId := state.replacementOwnerInstanceId
   phase := state.summarize.phase state.draining
   summary := state.summarize }

inductive WorldDrainOrchestrationPhase
 | idle
 | blockedByReplacementTarget
 | draining
 | awaitingOwnerTransfer
 | awaitingMigration
 | readyToClear
 deriving DecidableEq

inductive WorldDrainNextAction
 | none
 | waitForDrain
 | stabilizeReplacementTarget
 | commitOwnerTransfer
 | awaitMigration
 | clearPolicy

structure WorldDrainOrchestrationSummary where
 drainDeclared : Bool := false
 drained : Bool := false
 transferDeclared : Bool := false
 transferCommitted : Bool := false
 migrationDeclared : Bool := false
 migrationReady : Bool := false
 clearAllowed : Bool := false

structure WorldDrainOrchestrationStatus where
 worldId : Text := []
 drainPhase : WorldDrainPhase := .idle
 phase : WorldDrainOrchestrationPhase := .idle
 nextAction : WorldDrainNextAction := .none
 targetOwnerInstanceId : Text := []
 targetWorldId : Text := []
 summary : WorldDrainOrchestrationSummary := {}

variable (out : WorldDrainOrchestrationStatus)

def WorldDrainOrchestrationStatus.overlayTransfer (transfer : WorldTransferStatus) : WorldDrainOrchestrationStatus :=
 { out with
   targetOwnerInstanceId := transfer.targetOwnerInstanceId
   summary := { out.summary with
    transferDeclared := true
    transferCommitted := transfer.phase = .ownerHandoffCommitted } }

def WorldDrainOrchestrationStatus.overlayMigration (migration : WorldMigrationStatus) :
  WorldDrainOrchestrationStatus :=
 { out with
   targetWorldId := migration.targetWorldId
   targetOwnerInstanceId := migration.targetOwnerInstanceId
   summary := { out.summary with
    migrationDeclared := true
    migrationReady := migration.phase = .readyToResume } }

section

variable (drain : WorldDrainStatus) (transfer : Option WorldTransferStatus)
 (migration : Option WorldMigrationStatus)

def WorldDrainOrchestrationStatus.handOver : WorldDrainOrchestrationStatus :=
 let out := (transfer.filter (·.summary.transferDeclared)).elim out out.overlayTransfer
 if out.summary.transferDeclared && !out.summary.transferCommitted then
  { out with phase := .awaitingOwnerTransfer, nextAction := .commitOwnerTransfer }
 else
  let out := (migration.filter (·.summary.envelopePresent)).elim out out.overlayMigration
  if out.summary.migrationDeclared && !out.summary.migrationReady then
   { out with phase := .awaitingMigration, nextAction := .awaitMigration }
  else
   { out with
     phase := .readyToClear
     nextAction := .clearPolicy
     summary := { out.summary with clearAllowed := true } }

def evaluateWorldDrainOrchestration : WorldDrainOrchestrationStatus :=
 let out : WorldDrainOrchestrationStatus :=
  { worldId := drain.worldId
    drainPhase := drain.phase
    summary := { drainDeclared := drain.summary.drainDeclared, drained := drain.phase = .drained } }
 if !drain.summary.drainDeclared || drain.phase = .idle then { out with phase := .idle, nextAction := .none }
 else if drain.phase = .replacementTargetMissing \/ drain.phase = .replacementTargetNotReady then
  { out with
    phase := .blockedByReplacementTarget
    nextAction := .stabilizeReplacementTarget
    targetOwnerInstanceId := drain.replacementOwnerInstanceId }
 else if drain.phase = .drainingSessions then
  { out with
    phase := .draining
    nextAction := .waitForDrain
    targetOwnerInstanceId := drain.replacementOwnerInstanceId }
 else out.handOver transfer migration

end

section

variable {Entry State : Type} (step : State -> Entry -> State)

theorem foldl_last_report {Report : Type} (reported : State -> Report) (matching : Entry -> Bool)
  (report : Entry -> Report)
  (taken : ∀ state entry, reported (step state entry) = if matching entry then report entry else reported state)
  (entries : List Entry) (state : State) :
  reported (entries.foldl step state) = (((entries.filter matching).getLast?).map report).getD (reported state) := by
 induction entries generalizing state with
 | nil => rfl
 | cons entry rest ih =>
  rw [foldl_cons, ih, taken]
  cases matched : matching entry with
  | false => simp [matched]
  | true => simp [matched, getLast?_cons, Option.getD_map]

theorem last_report_ready {last : Option Entry} {ready : Entry -> Bool} {present flag : Bool}
  (reported : (present, flag) = (last.map fun entry => (true, ready entry)).getD (false, false)) :
  (present = true /\ flag = true) ↔ ∃ entry, last = some entry /\ ready entry = true := by
 cases last <;> simp_all

end

namespace ObservedWorldTransferState

variable (state : ObservedWorldTransferState)

def targetReport : Option ObservedWorldTransferInstance :=
 (state.instances.filter (·.instanceId = state.replacementOwnerInstanceId)).getLast?

def Declared : Prop := state.draining = true /\ state.replacementOwnerInstanceId ≠ []

def Committed : Prop :=
 state.ownerInstanceId = state.replacementOwnerInstanceId /\
  ∃ target, state.targetReport = some target /\ target.ready = true

@[simp] theorem summarize_transferDeclared :
   state.summarize.transferDeclared = (state.draining && decide (state.replacementOwnerInstanceId ≠ [])) :=
  foldl_keeps (WorldTransferSummary.add _) WorldTransferSummary.transferDeclared (fun _ _ => rfl) state.instances _

@[simp] theorem summarize_ownerPresent : state.summarize.ownerPresent = decide (state.ownerInstanceId ≠ []) :=
  foldl_keeps (WorldTransferSummary.add _) WorldTransferSummary.ownerPresent (fun _ _ => rfl) state.instances _

theorem summarize_target : (state.summarize.targetPresent = true /\ state.summarize.targetReady = true) ↔
    ∃ target, state.targetReport = some target /\ target.ready = true :=
 last_report_ready (foldl_last_report (WorldTransferSummary.add state.replacementOwnerInstanceId)
  (fun summary => (summary.targetPresent, summary.targetReady))
  (·.instanceId = state.replacementOwnerInstanceId) (fun observed => (true, observed.ready))
  (fun summary observed => by
    simp only [WorldTransferSummary.add, decide_eq_true_eq]
    split <;> rfl) state.instances _)

end ObservedWorldTransferState

theorem WorldTransferSummary.phase_committed (summary : WorldTransferSummary) :
  summary.phase = .ownerHandoffCommitted ↔ summary.transferDeclared = true /\
   (summary.targetPresent = true /\ summary.targetReady = true) /\ summary.ownerPresent = true /\
   summary.ownerMatchesTarget = true := by
 rw [phase]
 split_ifs <;> simp_all

theorem evaluateWorldTransfer_declared (state : ObservedWorldTransferState) :
  (evaluateWorldTransfer state).summary.transferDeclared = true ↔ state.Declared := by
 simp [evaluateWorldTransfer, ObservedWorldTransferState.Declared]

theorem evaluateWorldTransfer_committed (state : ObservedWorldTransferState) :
  (evaluateWorldTransfer state).phase = .ownerHandoffCommitted ↔ state.Declared /\ state.Committed := by
 simp only [evaluateWorldTransfer, WorldTransferSummary.phase_committed, state.summarize_target,
  state.summarize_transferDeclared, state.summarize_ownerPresent, ObservedWorldTransferState.Declared,
  ObservedWorldTransferState.Committed, Bool.and_eq_true, decide_eq_true_eq]
 constructor
 · rintro ⟨declared, ready, _, _, same⟩
   exact ⟨declared, same, ready⟩
 · rintro ⟨declared, same, ready⟩
   have present : state.ownerInstanceId ≠ [] := same ▸ declared.2
   exact ⟨declared, ready, present, ⟨present, declared.2⟩, same⟩

structure WorldMigrationInput where
 sourceWorld : ObservedWorldMigrationWorld
 envelope : Option WorldMigrationEnvelope := none
 targetWorld : Option ObservedWorldMigrationWorld := none

namespace WorldMigrationInput

variable (input : WorldMigrationInput) (envelope : WorldMigrationEnvelope)

def evaluate : WorldMigrationStatus :=
 evaluateWorldMigration input.sourceWorld input.envelope input.targetWorld

def ownerReport : Option ObservedWorldMigrationInstance :=
 (input.targetWorld.filter (·.worldId ≠ [])).bind fun target =>
   target.instances.find? (·.instanceId = envelope.targetOwnerInstanceId)

def Ready : Prop :=
 input.sourceWorld.draining = true /\ ∃ owner, input.ownerReport envelope = some owner /\ owner.ready = true

theorem evaluate_declared : input.evaluate.summary.envelopePresent = input.envelope.isSome := by
 rw [evaluate, evaluateWorldMigration.eq_def]
 cases input.envelope with
 | none => rfl
 | some envelope =>
  dsimp only
  split <;> rfl

theorem evaluate_ready : input.evaluate.phase = .readyToResume ↔ ∃ envelope ∈ input.envelope,
  input.Ready envelope := by
 rw [evaluate, evaluateWorldMigration.eq_def]
 cases input.envelope with
 | none => simp
 | some envelope =>
  simp only [mem_def, some.injEq, exists_eq_left', Ready, ownerReport]
  cases input.targetWorld.filter (·.worldId ≠ []) with
  | none => simp
  | some target =>
   dsimp only [bind_some]
   cases target.instances.find? (·.instanceId = envelope.targetOwnerInstanceId) with
   | none => simp
   | some owner => split_ifs <;> simp_all

end WorldMigrationInput

namespace ObservedWorldDrainState

variable (state : ObservedWorldDrainState)

def replacementReport : Option ObservedWorldDrainInstance :=
 (state.instances.filter fun observed =>
   state.replacementOwnerInstanceId ≠ [] /\ observed.instanceId = state.replacementOwnerInstanceId).getLast?

def sessions : Nat := (state.instances.map (·.activeSessions)).foldr (· + ·) 0

@[simp] theorem summarize_drainDeclared : state.summarize.drainDeclared = state.draining :=
  foldl_keeps (WorldDrainSummary.add _ _) WorldDrainSummary.drainDeclared (fun _ _ => rfl) state.instances _

@[simp] theorem summarize_replacementDeclared :
   state.summarize.replacementDeclared = decide (state.replacementOwnerInstanceId ≠ []) :=
  foldl_keeps (WorldDrainSummary.add _ _) WorldDrainSummary.replacementDeclared (fun _ _ => rfl) state.instances _

theorem summarize_replacement : (state.summarize.replacementPresent = true /\ state.summarize.replacementReady = true) ↔
    ∃ replacement, state.replacementReport = some replacement /\ replacement.ready = true :=
 last_report_ready (foldl_last_report (WorldDrainSummary.add state.ownerInstanceId state.replacementOwnerInstanceId)
  (fun summary => (summary.replacementPresent, summary.replacementReady))
  (fun observed => state.replacementOwnerInstanceId ≠ [] /\
    observed.instanceId = state.replacementOwnerInstanceId) (fun observed => (true, observed.ready))
  (fun summary observed => by
    simp only [WorldDrainSummary.add, decide_eq_true_eq]
    split <;> rfl) state.instances _)

theorem summarize_activeSessionsTotal : state.summarize.activeSessionsTotal = u32 state.sessions := by
 have total : ∀ (instances : List ObservedWorldDrainInstance) (summary : WorldDrainSummary)
   (sum : Nat), summary.activeSessionsTotal = u32 sum ->
   (instances.foldl (.add state.ownerInstanceId state.replacementOwnerInstanceId)
     summary).activeSessionsTotal = u32 (sum + (instances.map (·.activeSessions)).foldr (· + ·) 0) := by
  intro instances
  induction instances with
  | nil => exact fun summary sum same => same
  | cons observed rest ih =>
   intro summary sum same
   rw [foldl_cons, ih _ (sum + observed.activeSessions), map_cons, foldr_cons, add_assoc]
   simp only [WorldDrainSummary.add, same, u32, mod_add_mod]
 rw [summarize, total _ _ 0 rfl, zero_add, sessions]

end ObservedWorldDrainState

section

variable (draining : Bool) (summary : WorldDrainSummary)

theorem WorldDrainSummary.phase_drained :
  summary.phase draining = .drained ↔ draining = true /\
   (summary.replacementDeclared = true -> summary.replacementPresent = true /\ summary.replacementReady = true) /\
   summary.activeSessionsTotal = 0 := by
 rw [phase]
 split_ifs <;> simp_all [pos_iff_ne_zero]

theorem WorldDrainSummary.phase_idle : summary.phase draining = .idle ↔ draining = false := by
 rw [phase]
 split_ifs <;> simp_all

end

theorem evaluateWorldDrain_drained (state : ObservedWorldDrainState) :
  (evaluateWorldDrain state).phase = .drained ↔ state.draining = true /\ (state.replacementOwnerInstanceId ≠ [] ->
      ∃ replacement, state.replacementReport = some replacement /\ replacement.ready = true) /\
    u32 state.sessions = 0 := by
 simp only [evaluateWorldDrain, WorldDrainSummary.phase_drained, state.summarize_replacement,
  state.summarize_replacementDeclared, state.summarize_activeSessionsTotal, decide_eq_true_eq]

theorem WorldDrainOrchestrationStatus.handOver_ne_idle (out : WorldDrainOrchestrationStatus)
  (transfer : Option WorldTransferStatus) (migration : Option WorldMigrationStatus) :
  (out.handOver transfer migration).phase ≠ .idle := by
 rw [handOver]
 dsimp only
 split
 · exact nofun
 · split <;> exact nofun

theorem WorldDrainOrchestrationStatus.handOver_readyToClear {out : WorldDrainOrchestrationStatus}
  (noTransfer : out.summary.transferDeclared = false) (noMigration : out.summary.migrationDeclared = false)
  (transfer : Option WorldTransferStatus) (migration : Option WorldMigrationStatus) :
  (out.handOver transfer migration).phase = .readyToClear ↔
    (∀ status ∈ transfer, status.summary.transferDeclared = true -> status.phase = .ownerHandoffCommitted) /\
    ∀ status ∈ migration, status.summary.envelopePresent = true -> status.phase = .readyToResume := by
 have declaredOnly {Status : Type} (status : Option Status) (declared : Status -> Bool) (closed : Status -> Prop) :
   (∀ value ∈ status, declared value = true -> closed value) ↔ ∀ value ∈ status.filter declared, closed value := by
  simp only [mem_filter_iff, and_imp]
 rw [handOver, declaredOnly, declaredOnly]
 cases transfer.filter (·.summary.transferDeclared) <;>
  cases migration.filter (·.summary.envelopePresent) <;>
  simp [overlayTransfer, overlayMigration, noTransfer, noMigration]
 all_goals split_ifs <;> simp_all

variable (drain : WorldDrainStatus) (transfer : Option WorldTransferStatus)
 (migration : Option WorldMigrationStatus)

theorem evaluateWorldDrainOrchestration_idle :
  (evaluateWorldDrainOrchestration drain transfer migration).phase = .idle ↔
    drain.summary.drainDeclared = false \/ drain.phase = .idle := by
 rw [evaluateWorldDrainOrchestration]
 split_ifs <;> simp_all [WorldDrainOrchestrationStatus.handOver_ne_idle]

theorem idle_iff_not_draining (state : ObservedWorldDrainState)
  (transfer : Option WorldTransferStatus) (migration : Option WorldMigrationStatus) :
  (evaluateWorldDrainOrchestration (evaluateWorldDrain state) transfer migration).phase = .idle ↔
    state.draining = false := by
 simp [evaluateWorldDrainOrchestration_idle, evaluateWorldDrain, WorldDrainSummary.phase_idle]

theorem evaluateWorldDrainOrchestration_readyToClear :
  (evaluateWorldDrainOrchestration drain transfer migration).phase = .readyToClear ↔
    drain.summary.drainDeclared = true /\ drain.phase = .drained /\
    (∀ status ∈ transfer, status.summary.transferDeclared = true -> status.phase = .ownerHandoffCommitted) /\
    ∀ status ∈ migration, status.summary.envelopePresent = true -> status.phase = .readyToResume := by
 rw [evaluateWorldDrainOrchestration]
 cases phase : drain.phase with
 | idle | replacementTargetMissing | replacementTargetNotReady | drainingSessions => split_ifs <;> simp_all
 | drained =>
  cases drain.summary.drainDeclared with
  | false => simp
  | true => simp [WorldDrainOrchestrationStatus.handOver_readyToClear]

end Dynaxis.Worlds
