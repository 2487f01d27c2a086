import Dynaxis.Shared.Machine
import Dynaxis.Shared.Table
import Dynaxis.Shared.Text

namespace Dynaxis.Worlds

open Shared

structure DesiredTopologyPool where
 worldId : Text := []
 shard : Text := []
 replicas : Nat := 0
 capacityClass : Text := []
 placementTags : List Text := []
 deriving DecidableEq

structure DesiredTopologyDocument where
 topologyId : Text := []
 revision : Nat := 0
 updatedAtMs : Nat := 0
 pools : List DesiredTopologyPool := []
 deriving DecidableEq

structure ObservedTopologyInstance where
 instanceId : Text := []
 role : Text := []
 worldId : Text := []
 shard : Text := []
 ready : Bool := false

structure ObservedTopologyPool where
 worldId : Text := []
 shard : Text := []
 instances : Nat := 0
 readyInstances : Nat := 0

inductive TopologyPoolStatus
 | aligned
 | missingObservedPool
 | underReplicated
 | overReplicated
 | noReadyInstances
 | undeclaredObservedPool
 deriving DecidableEq

structure ReconciledTopologyPool where
 worldId : Text := []
 shard : Text := []
 desiredReplicas : Nat := 0
 observedInstances : Nat := 0
 readyInstances : Nat := 0
 status : TopologyPoolStatus := .aligned

structure TopologyReconciliationSummary where
 desiredPresent : Bool := false
 desiredPools : Nat := 0
 observedPools : Nat := 0
 alignedPools : Nat := 0
 missingPools : Nat := 0
 underReplicatedPools : Nat := 0
 overReplicatedPools : Nat := 0
 undeclaredPools : Nat := 0
 noReadyPools : Nat := 0

structure TopologyReconciliation where
 summary : TopologyReconciliationSummary := {}
 pools : List ReconciledTopologyPool := []

inductive TopologyActuationActionKind
 | scaleOutPool
 | scaleInPool
 | restorePoolReadiness
 | observeUndeclaredPool
 deriving DecidableEq

def TopologyActuationActionKind.name : TopologyActuationActionKind -> Text
 | .scaleOutPool => "scale_out_pool".toList
 | .scaleInPool => "scale_in_pool".toList
 | .restorePoolReadiness => "restore_pool_readiness".toList
 | .observeUndeclaredPool => "observe_undeclared_pool".toList

structure TopologyActuationAction where
 worldId : Text := []
 shard : Text := []
 status : TopologyPoolStatus := .aligned
 action : TopologyActuationActionKind := .observeUndeclaredPool
 desiredReplicas : Nat := 0
 observedInstances : Nat := 0
 readyInstances : Nat := 0
 replicaDelta : Int := 0
 actionable : Bool := false

structure TopologyActuationPlanSummary where
 desiredPresent : Bool := false
 actionsTotal : Nat := 0
 actionableActions : Nat := 0
 scaleOutActions : Nat := 0
 scaleInActions : Nat := 0
 readinessRecoveryActions : Nat := 0
 observeOnlyActions : Nat := 0

structure TopologyActuationPlan where
 summary : TopologyActuationPlanSummary := {}
 actions : List TopologyActuationAction := []

structure TopologyActuationRequestAction where
 worldId : Text := []
 shard : Text := []
 action : TopologyActuationActionKind := .observeUndeclaredPool
 replicaDelta : Int := 0
 deriving DecidableEq

structure TopologyActuationRequestDocument where
 requestId : Text := []
 revision : Nat := 0
 requestedAtMs : Nat := 0
 basisTopologyRevision : Nat := 0
 actions : List TopologyActuationRequestAction := []
 deriving DecidableEq

inductive TopologyActuationRequestActionState
 | pending
 | satisfied
 | superseded
 deriving DecidableEq

structure TopologyActuationRequestActionStatus where
 worldId : Text := []
 shard : Text := []
 requestedAction : TopologyActuationActionKind := .observeUndeclaredPool
 requestedReplicaDelta : Int := 0
 state : TopologyActuationRequestActionState := .pending
 currentStatus : Option TopologyPoolStatus := none
 currentAction : Option TopologyActuationActionKind := none
 currentReplicaDelta : Int := 0

structure TopologyActuationRequestStatusSummary where
 requestPresent : Bool := false
 desiredPresent : Bool := false
 basisTopologyRevisionMatchesCurrent : Bool := false
 basisTopologyRevision : Nat := 0
 currentTopologyRevision : Nat := 0
 actionsTotal : Nat := 0
 pendingActions : Nat := 0
 satisfiedActions : Nat := 0
 supersededActions : Nat := 0

structure TopologyActuationRequestStatus where
 summary : TopologyActuationRequestStatusSummary := {}
 actions : List TopologyActuationRequestActionStatus := []

structure TopologyActuationExecutionAction where
 worldId : Text := []
 shard : Text := []
 action : TopologyActuationActionKind := .observeUndeclaredPool
 replicaDelta : Int := 0
 deriving DecidableEq

inductive TopologyActuationExecutionActionState
 | claimed
 | completed
 | failed
 deriving DecidableEq

structure TopologyActuationExecutionItem where
 action : TopologyActuationExecutionAction := {}
 observedInstancesBefore : Nat := 0
 readyInstancesBefore : Nat := 0
 state : TopologyActuationExecutionActionState := .claimed
 deriving DecidableEq

structure TopologyActuationExecutionDocument where
 executorId : Text := []
 revision : Nat := 0
 updatedAtMs : Nat := 0
 requestRevision : Nat := 0
 actions : List TopologyActuationExecutionItem := []
 deriving DecidableEq

inductive TopologyActuationExecutionStatusState
 | available
 | claimed
 | completed
 | failed
 | stale
 deriving DecidableEq

structure TopologyActuationExecutionActionStatus where
 worldId : Text := []
 shard : Text := []
 requestedAction : TopologyActuationActionKind := .observeUndeclaredPool
 requestedReplicaDelta : Int := 0
 state : TopologyActuationExecutionStatusState := .available
 requestState : Option TopologyActuationRequestActionState := none
 executionState : Option TopologyActuationExecutionActionState := none

structure TopologyActuationExecutionStatusSummary where
 requestPresent : Bool := false
 executionPresent : Bool := false
 executionRevisionMatchesCurrentRequest : Bool := false
 executionRequestRevision : Nat := 0
 currentRequestRevision : Nat := 0
 actionsTotal : Nat := 0
 availableActions : Nat := 0
 claimedActions : Nat := 0
 completedActions : Nat := 0
 failedActions : Nat := 0
 staleActions : Nat := 0

structure TopologyActuationExecutionStatus where
 summary : TopologyActuationExecutionStatusSummary := {}
 actions : List TopologyActuationExecutionActionStatus := []

structure TopologyActuationAdapterLeaseAction where
 worldId : Text := []
 shard : Text := []
 action : TopologyActuationActionKind := .observeUndeclaredPool
 replicaDelta : Int := 0
 deriving DecidableEq

def makePoolKey (worldId shard : Text) : Text := worldId ++ '\n' :: shard

def indexByPool {Entry : Type} (worldId shard : Entry -> Text) (entries : List Entry) : Table Text Entry :=
 Table.emplaceAll ∅ (entries.map fun entry => (makePoolKey (worldId entry) (shard entry), entry))

def ObservedTopologyPool.add (ready : Bool) (pool : ObservedTopologyPool) : ObservedTopologyPool :=
 { pool with
   instances := u32 (pool.instances + 1)
   readyInstances := if ready then u32 (pool.readyInstances + 1) else pool.readyInstances }

def collectObservedPools (instances : List ObservedTopologyInstance) : List ObservedTopologyPool :=
 let poolIndex : Table Text ObservedTopologyPool :=
  instances.foldl
   (fun index entry =>
     if entry.role ≠ "server".toList then index
     else if entry.worldId = [] \/ entry.shard = [] then index
     else
      let key := makePoolKey entry.worldId entry.shard
      (index.emplace key { worldId := entry.worldId, shard := entry.shard }).modify key
        (ObservedTopologyPool.add entry.ready))
   ∅
 poolIndex.entries.map fun entry => entry.2

def poolStatus (replicas : Nat) : Option ObservedTopologyPool -> TopologyPoolStatus
 | none => .missingObservedPool
 | some pool =>
  if pool.instances = 0 then .missingObservedPool
  else if pool.readyInstances = 0 then .noReadyInstances
  else if pool.instances < replicas then .underReplicated
  else if replicas < pool.instances then .overReplicated
  else .aligned

def TopologyReconciliationSummary.count (summary : TopologyReconciliationSummary) :
  TopologyPoolStatus -> TopologyReconciliationSummary
 | .aligned => { summary with alignedPools := u32 (summary.alignedPools + 1) }
 | .missingObservedPool => { summary with missingPools := u32 (summary.missingPools + 1) }
 | .underReplicated => { summary with underReplicatedPools := u32 (summary.underReplicatedPools + 1) }
 | .overReplicated => { summary with overReplicatedPools := u32 (summary.overReplicatedPools + 1) }
 | .noReadyInstances => { summary with noReadyPools := u32 (summary.noReadyPools + 1) }
 | .undeclaredObservedPool => { summary with undeclaredPools := u32 (summary.undeclaredPools + 1) }

def TopologyReconciliation.push (out : TopologyReconciliation) (pool : ReconciledTopologyPool) :
  TopologyReconciliation :=
 { summary := out.summary.count pool.status, pools := out.pools ++ [pool] }

def reconcileDesiredPool (observed : Option ObservedTopologyPool) (desired : DesiredTopologyPool) :
  ReconciledTopologyPool where
 worldId := desired.worldId
 shard := desired.shard
 desiredReplicas := desired.replicas
 observedInstances := (observed.map (·.instances)).getD 0
 readyInstances := (observed.map (·.readyInstances)).getD 0
 status := poolStatus desired.replicas observed

def reconcileUndeclaredPool (observed : ObservedTopologyPool) : ReconciledTopologyPool where
 worldId := observed.worldId
 shard := observed.shard
 observedInstances := observed.instances
 readyInstances := observed.readyInstances
 status := .undeclaredObservedPool

variable (executionDocument : Option TopologyActuationExecutionDocument) (requestDocument : Option TopologyActuationRequestDocument) (desiredTopology : Option DesiredTopologyDocument) (observedPools : List ObservedTopologyPool)

def reconcileTopology : TopologyReconciliation :=
 let pools := (desiredTopology.map (·.pools)).getD []
 let start : TopologyReconciliation :=
  { summary :=
     { desiredPresent := desiredTopology.isSome
       desiredPools := u32 pools.length
       observedPools := u32 observedPools.length } }
 -- A declared pool leaves the index, so what is left in the end is undeclared.
 let (left, out) :=
  pools.foldl
   (fun (index, out) desired =>
     let key := makePoolKey desired.worldId desired.shard
     (index.erase key, TopologyReconciliation.push out (reconcileDesiredPool (index.lookup key) desired)))
   (indexByPool (·.worldId) (·.shard) observedPools, start)
 left.entries.foldl (fun out entry => out.push (reconcileUndeclaredPool entry.2)) out

/-- The entry of the plan for a pool that is not aligned. The counts are unsigned words that
the code casts to signed ones before it subtracts. -/
def planPool (pool : ReconciledTopologyPool) : Option TopologyActuationAction :=
 let action : TopologyActuationAction :=
  { worldId := pool.worldId, shard := pool.shard, status := pool.status
    desiredReplicas := pool.desiredReplicas
    observedInstances := pool.observedInstances
    readyInstances := pool.readyInstances }
 match pool.status with
 | .aligned => none
 | .missingObservedPool | .underReplicated =>
  some { action with
   action := .scaleOutPool
   replicaDelta := i32 (i32 pool.desiredReplicas - i32 pool.observedInstances)
   actionable := true }
 | .overReplicated =>
  some { action with
   action := .scaleInPool
   replicaDelta := i32 (i32 pool.observedInstances - i32 pool.desiredReplicas)
   actionable := true }
 | .noReadyInstances => some { action with action := .restorePoolReadiness, actionable := true }
 | .undeclaredObservedPool =>
  some { action with action := .observeUndeclaredPool, replicaDelta := i32 pool.observedInstances }

def TopologyActuationPlanSummary.count (summary : TopologyActuationPlanSummary)
  (action : TopologyActuationAction) : TopologyActuationPlanSummary :=
 let summary :=
  if action.actionable then { summary with actionableActions := u32 (summary.actionableActions + 1) }
  else summary
 match action.action with
 | .scaleOutPool => { summary with scaleOutActions := u32 (summary.scaleOutActions + 1) }
 | .scaleInPool => { summary with scaleInActions := u32 (summary.scaleInActions + 1) }
 | .restorePoolReadiness => { summary with readinessRecoveryActions := u32 (summary.readinessRecoveryActions + 1) }
 | .observeUndeclaredPool => { summary with observeOnlyActions := u32 (summary.observeOnlyActions + 1) }

def planTopologyActuation : TopologyActuationPlan :=
 let reconciliation := reconcileTopology desiredTopology observedPools
 let actions := reconciliation.pools.filterMap planPool
 let summary := actions.foldl TopologyActuationPlanSummary.count
  { desiredPresent := reconciliation.summary.desiredPresent }
 { summary := { summary with actionsTotal := u32 actions.length }, actions }

def requestActionStatus (planned : Option TopologyActuationAction)
  (requested : TopologyActuationRequestAction) : TopologyActuationRequestActionStatus :=
 let status : TopologyActuationRequestActionStatus :=
  { worldId := requested.worldId, shard := requested.shard
    requestedAction := requested.action
    requestedReplicaDelta := requested.replicaDelta }
 match planned with
 | none => { status with state := .satisfied }
 | some planned =>
  { status with
    currentStatus := planned.status
    currentAction := planned.action
    currentReplicaDelta := planned.replicaDelta
    state :=
     if planned.actionable /\ planned.action = requested.action /\
      planned.replicaDelta = requested.replicaDelta then .pending
     else .superseded }

def TopologyActuationRequestStatusSummary.count (summary : TopologyActuationRequestStatusSummary) :
  TopologyActuationRequestActionState -> TopologyActuationRequestStatusSummary
 | .pending => { summary with pendingActions := u32 (summary.pendingActions + 1) }
 | .satisfied => { summary with satisfiedActions := u32 (summary.satisfiedActions + 1) }
 | .superseded => { summary with supersededActions := u32 (summary.supersededActions + 1) }

def evaluateTopologyActuationRequestStatus : TopologyActuationRequestStatus :=
 let summary : TopologyActuationRequestStatusSummary :=
  { requestPresent := requestDocument.isSome
    desiredPresent := desiredTopology.isSome
    currentTopologyRevision := (desiredTopology.map (·.revision)).getD 0 }
 match requestDocument with
 | none => { summary }
 | some document =>
  let plan := planTopologyActuation desiredTopology observedPools
  let planIndex := indexByPool (·.worldId) (·.shard) plan.actions
  let actions := document.actions.map fun requested =>
   requestActionStatus (planIndex.lookup (makePoolKey requested.worldId requested.shard)) requested
  let summary :=
   { summary with
     basisTopologyRevision := document.basisTopologyRevision
     basisTopologyRevisionMatchesCurrent :=
      desiredTopology.any (·.revision == document.basisTopologyRevision) }
  let counted := (actions.map (·.state)).foldl TopologyActuationRequestStatusSummary.count summary
  { summary := { counted with actionsTotal := u32 actions.length }, actions }

def executionStatusState (revisionMatches : Bool) (item : Option TopologyActuationExecutionItem)
  (requested : TopologyActuationRequestActionStatus) : TopologyActuationExecutionStatusState :=
 let itemMatches (item : TopologyActuationExecutionItem) : Bool :=
  item.action.action = requested.requestedAction /\ item.action.replicaDelta = requested.requestedReplicaDelta
 match requested.state, item with
 | .pending, none => .available
 | .pending, some item =>
  if !revisionMatches || !itemMatches item then .stale
  else if item.state = .claimed then .claimed
  else if item.state = .failed then .failed
  else .stale
 | .satisfied, some item =>
  if revisionMatches && itemMatches item && item.state = .completed then .completed else .stale
 | .satisfied, none => .stale
 | .superseded, _ => .stale

def TopologyActuationExecutionStatusSummary.count (summary : TopologyActuationExecutionStatusSummary) :
  TopologyActuationExecutionStatusState -> TopologyActuationExecutionStatusSummary
 | .available => { summary with availableActions := u32 (summary.availableActions + 1) }
 | .claimed => { summary with claimedActions := u32 (summary.claimedActions + 1) }
 | .completed => { summary with completedActions := u32 (summary.completedActions + 1) }
 | .failed => { summary with failedActions := u32 (summary.failedActions + 1) }
 | .stale => { summary with staleActions := u32 (summary.staleActions + 1) }

def executionRevisionMatches : Bool :=
 executionDocument.any fun execution =>
  requestDocument.any fun request => execution.requestRevision == request.revision

def evaluateTopologyActuationExecutionStatus : TopologyActuationExecutionStatus :=
 let revisionMatches := executionRevisionMatches executionDocument requestDocument
 let requestStatus := evaluateTopologyActuationRequestStatus requestDocument desiredTopology observedPools
 let executionIndex := indexByPool (·.action.worldId) (·.action.shard)
  ((executionDocument.map (·.actions)).getD [])
 let actions : List TopologyActuationExecutionActionStatus := requestStatus.actions.map fun requested =>
  let item := executionIndex.lookup (makePoolKey requested.worldId requested.shard)
  { worldId := requested.worldId
    shard := requested.shard
    requestedAction := requested.requestedAction
    requestedReplicaDelta := requested.requestedReplicaDelta
    requestState := requested.state
    executionState := item.map (·.state)
    state := executionStatusState revisionMatches item requested }
 let summary : TopologyActuationExecutionStatusSummary :=
  { requestPresent := requestDocument.isSome
    executionPresent := executionDocument.isSome
    executionRequestRevision := (executionDocument.map (·.requestRevision)).getD 0
    currentRequestRevision := (requestDocument.map (·.revision)).getD 0
    executionRevisionMatchesCurrentRequest := revisionMatches }
 let counted := (actions.map (·.state)).foldl TopologyActuationExecutionStatusSummary.count summary
 { summary := { counted with actionsTotal := u32 actions.length }, actions }

variable (execution : Option TopologyActuationExecutionDocument)
 (request : Option TopologyActuationRequestDocument) (desired : Option DesiredTopologyDocument)
 (observed : List ObservedTopologyPool)

theorem evaluateTopologyActuationRequestStatus_basis :
  (evaluateTopologyActuationRequestStatus request desired observed).summary.basisTopologyRevisionMatchesCurrent = true ↔
  ∃ document, request = some document /\
   ∃ topology, desired = some topology /\ topology.revision = document.basisTopologyRevision := by
 have kept := foldl_keeps TopologyActuationRequestStatusSummary.count
  (·.basisTopologyRevisionMatchesCurrent) (fun _ state => by cases state <;> rfl)
 cases request with
 | none => simp [evaluateTopologyActuationRequestStatus]
 | some document => cases desired <;> simp [evaluateTopologyActuationRequestStatus, kept]

theorem evaluateTopologyActuationExecutionStatus_matches :
  (evaluateTopologyActuationExecutionStatus execution request desired
    observed).summary.executionRevisionMatchesCurrentRequest = true ↔
  ∃ progress, execution = some progress /\
   ∃ document, request = some document /\ progress.requestRevision = document.revision := by
 have kept := foldl_keeps TopologyActuationExecutionStatusSummary.count
  (·.executionRevisionMatchesCurrentRequest) (fun _ state => by cases state <;> rfl)
 cases execution <;> cases request <;>
  simp [evaluateTopologyActuationExecutionStatus, executionRevisionMatches, kept]

end Dynaxis.Worlds
