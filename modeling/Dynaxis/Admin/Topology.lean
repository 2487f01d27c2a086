import Dynaxis.Admin.Console
import Dynaxis.Worlds.Topology

/-! Three keys of Redis hold the desired topology, the actuation request an operator has approved against it, and
the progress an executor reports on that request. -/

namespace Dynaxis.Admin

open Shared Dynaxis.Worlds Text

structure TopologyStore where
 desired : Option DesiredTopologyDocument := none
 request : Option TopologyActuationRequestDocument := none
 execution : Option TopologyActuationExecutionDocument := none

structure DesiredTopologyWriteRequest where
 topology : DesiredTopologyDocument
 expectedRevision : Option Nat := none

structure TopologyActuationRequestWriteRequest where
 requestDocument : TopologyActuationRequestDocument
 expectedRevision : Option Nat := none

structure TopologyActuationExecutionWriteRequest where
 executionDocument : TopologyActuationExecutionDocument
 expectedRevision : Option Nat := none

inductive Method (Write : Type)
 | get
 | delete
 | put (parsed : Except ApiError Write)

structure TopologyCall (Write : Type) where
 method : Method Write
 now : Nat := 0
 available : Bool := true
 taken : Bool := true
 instances : List ObservedTopologyInstance := []

inductive Change (Document : Type)
 | keep
 | store (document : Document)
 | clear

def conflict (code message : String) (details : List (String × Text) := []) : ApiError :=
 { status := "409 Conflict", code, message := message.toList, details }

def upstreamWriteFailed (message : String) : ApiError :=
 { status := "503 Service Unavailable", code := "UPSTREAM_WRITE_FAILED", message := message.toList }

def checkExpectedRevision (document : String) (expected : Option Nat) (actual : Nat) :
  Except ApiError Unit :=
 match expected with
 | none => .ok ()
 | some expected =>
  if expected ≠ actual then
   .error (conflict "REVISION_MISMATCH" ("expected_revision does not match current " ++ document ++ " revision")
    [("expected_revision", decimal expected), ("actual_revision", decimal actual)])
  else .ok ()

def handleDocument {Write Document : Type} (document : String) (call : TopologyCall Write)
  (prepare : Except ApiError Write -> Except ApiError Document) : Except ApiError (Change Document) :=
 if !call.available then .error (upstreamUnavailable "redis registry unavailable".toList)
 else
  match call.method with
  | .get => .ok .keep
  | .delete => if call.taken then .ok .clear else .error (upstreamWriteFailed ("failed to clear " ++ document))
  | .put parsed =>
   match prepare parsed with
   | .error refusal => .error refusal
   | .ok next =>
    if call.taken then .ok (.store next)
    else .error (upstreamWriteFailed ("failed to persist " ++ document))

section

variable (now : Nat) (instances : List ObservedTopologyInstance) (store : TopologyStore)

def prepareDesiredTopology (current : Option DesiredTopologyDocument)
  (write : DesiredTopologyWriteRequest) : Except ApiError DesiredTopologyDocument := do
 let currentRevision := (current.map (·.revision)).getD 0
 checkExpectedRevision "desired topology" write.expectedRevision currentRevision
 pure { write.topology with revision := u64 (currentRevision + 1), updatedAtMs := now }

def handleDesiredTopology (call : TopologyCall DesiredTopologyWriteRequest) :
  Except ApiError (Change DesiredTopologyDocument) :=
 handleDocument "desired topology" call fun parsed => do
  let write <- parsed
  prepareDesiredTopology call.now store.desired write

def admitRequestAction (planIndex : Table Text TopologyActuationAction)
  (action : TopologyActuationRequestAction) : Except ApiError Unit :=
 if action.action = .observeUndeclaredPool then
  .error (badRequest "observe-only topology actions cannot be stored as actuation requests".toList
   [("action", "observe_undeclared_pool".toList)])
 else
  match planIndex.lookup (makePoolKey action.worldId action.shard) with
  | none =>
   .error (conflict "PLAN_MISMATCH" "requested actuation action is no longer present in the current plan"
    [("world_id", action.worldId)])
  | some planned =>
   if !planned.actionable || planned.action ≠ action.action || planned.replicaDelta ≠ action.replicaDelta then
    .error (conflict "PLAN_MISMATCH" "requested actuation action does not match the current actionable plan"
     [("world_id", action.worldId), ("shard", action.shard), ("requested_action", action.action.name),
       ("requested_replica_delta", (toString action.replicaDelta).toList),
       ("current_action", planned.action.name),
       ("current_replica_delta", (toString planned.replicaDelta).toList)])
   else .ok ()

def prepareTopologyActuationRequest (parsed : Except ApiError TopologyActuationRequestWriteRequest) :
  Except ApiError TopologyActuationRequestDocument :=
 match store.desired with
 | none => .error (conflict "NO_DESIRED_TOPOLOGY" "desired topology must exist before writing an actuation request")
 | some desiredTopology => do
  let write <- parsed
  if write.requestDocument.basisTopologyRevision ≠ desiredTopology.revision then
   .error (conflict "TOPOLOGY_REVISION_MISMATCH"
    "basis_topology_revision does not match current desired topology revision"
    [("basis_topology_revision", decimal write.requestDocument.basisTopologyRevision),
      ("current_topology_revision", decimal desiredTopology.revision)])
  else
   let currentRevision := (store.request.map (·.revision)).getD 0
   checkExpectedRevision "topology actuation request" write.expectedRevision currentRevision
   let plan := planTopologyActuation desiredTopology (collectObservedPools instances)
   write.requestDocument.actions.forM (admitRequestAction (indexByPool (·.worldId) (·.shard) plan.actions))
   pure { write.requestDocument with revision := u64 (currentRevision + 1), requestedAtMs := now }

def handleTopologyActuationRequest (call : TopologyCall TopologyActuationRequestWriteRequest) :
  Except ApiError (Change TopologyActuationRequestDocument) :=
 handleDocument "topology actuation request" call
  (prepareTopologyActuationRequest call.now call.instances store)

def admitExecutionItem (requestIndex : Table Text TopologyActuationRequestAction)
  (observedPoolIndex : Table Text ObservedTopologyPool)
  (currentExecutionIndex : Table Text TopologyActuationExecutionItem)
  (item : TopologyActuationExecutionItem) : Except ApiError Unit :=
 let key := makePoolKey item.action.worldId item.action.shard
 if item.action.action = .observeUndeclaredPool then
  .error (badRequest "observe-only topology actions cannot be stored as executor progress".toList
   [("action", "observe_undeclared_pool".toList)])
 else if (requestIndex.lookup key).all fun requested =>
   requested.action ≠ item.action.action || requested.replicaDelta ≠ item.action.replicaDelta then
  .error (conflict "REQUEST_MISMATCH" "executor progress item does not match the current topology actuation request"
   [("world_id", item.action.worldId)])
 else
  match currentExecutionIndex.lookup key with
  | some current =>
   if item.observedInstancesBefore ≠ current.observedInstancesBefore \/
     item.readyInstancesBefore ≠ current.readyInstancesBefore then
    .error (conflict "BASELINE_MISMATCH" "execution baseline must remain stable across revisions for the same pool"
     [("world_id", item.action.worldId)])
   else .ok ()
  | none =>
   let observed := observedPoolIndex.lookup key
   let currentObservedInstances := (observed.map (·.instances)).getD 0
   let currentReadyInstances := (observed.map (·.readyInstances)).getD 0
   if item.observedInstancesBefore ≠ currentObservedInstances \/
     item.readyInstancesBefore ≠ currentReadyInstances then
    .error (conflict "BASELINE_MISMATCH" "execution baseline must match the current observed pool on first claim"
     [("world_id", item.action.worldId), ("shard", item.action.shard),
       ("observed_instances_before", decimal item.observedInstancesBefore),
       ("ready_instances_before", decimal item.readyInstancesBefore),
       ("current_observed_instances", decimal currentObservedInstances),
       ("current_ready_instances", decimal currentReadyInstances)])
   else .ok ()

def prepareTopologyActuationExecution (parsed : Except ApiError TopologyActuationExecutionWriteRequest) :
  Except ApiError TopologyActuationExecutionDocument :=
 match store.request with
 | none =>
  .error (conflict "NO_ACTUATION_REQUEST" "topology actuation request must exist before writing executor progress")
 | some requestDocument => do
  let write <- parsed
  if write.executionDocument.requestRevision ≠ requestDocument.revision then
   .error (conflict "REQUEST_REVISION_MISMATCH"
    "request_revision does not match current topology actuation request revision"
    [("request_revision", decimal write.executionDocument.requestRevision),
      ("current_request_revision", decimal requestDocument.revision)])
  else
   let currentRevision := (store.execution.map (·.revision)).getD 0
   checkExpectedRevision "topology actuation execution" write.expectedRevision currentRevision
   let requestIndex := indexByPool (·.worldId) (·.shard) requestDocument.actions
   let observedPoolIndex := indexByPool (·.worldId) (·.shard) (collectObservedPools instances)
   let currentExecutionIndex := indexByPool (·.action.worldId) (·.action.shard)
    ((store.execution.map (·.actions)).getD [])
   write.executionDocument.actions.forM
    (admitExecutionItem requestIndex observedPoolIndex currentExecutionIndex)
   pure { write.executionDocument with revision := u64 (currentRevision + 1), updatedAtMs := now }

def handleTopologyActuationExecution (call : TopologyCall TopologyActuationExecutionWriteRequest) :
  Except ApiError (Change TopologyActuationExecutionDocument) :=
 handleDocument "topology actuation execution progress" call
  (prepareTopologyActuationExecution call.now call.instances store)

end

section

variable {Write Document : Type} {document : String} {call : TopologyCall Write}
 {prepare : Except ApiError Write -> Except ApiError Document}

theorem handleDocument_store {next : Document} (done : handleDocument document call prepare = .ok (.store next)) :
  ∃ parsed, call.method = .put parsed /\ prepare parsed = .ok next := by
 unfold handleDocument at done
 split at done
 next => cases done
 next =>
  split at done
  next => cases done
  next => split at done <;> cases done
  next parsed put =>
   split at done
   next => cases done
   next prepared =>
    split at done <;> cases done
    exact ⟨parsed, put, prepared⟩

theorem handleDocument_clear (done : handleDocument document call prepare = .ok .clear) :
  call.method = .delete := by
 unfold handleDocument at done
 split at done
 next => cases done
 next =>
  split at done
  next => cases done
  next deleted => exact deleted
  next =>
   split at done
   next => cases done
   next => split at done <;> cases done

end

variable {now : Nat} {instances : List ObservedTopologyInstance} {store : TopologyStore}

theorem prepareDesiredTopology_ok {current : Option DesiredTopologyDocument}
  {write : DesiredTopologyWriteRequest} {next : DesiredTopologyDocument}
  (done : prepareDesiredTopology now current write = .ok next) :
  next.revision = u64 ((current.map (·.revision)).getD 0 + 1) := by
 obtain ⟨_, _, stored⟩ := except_bind_ok done
 cases stored
 rfl

theorem prepareTopologyActuationRequest_ok {parsed : Except ApiError TopologyActuationRequestWriteRequest}
  {next : TopologyActuationRequestDocument}
  (done : prepareTopologyActuationRequest now instances store parsed = .ok next) :
  (∃ desired, store.desired = some desired /\ next.basisTopologyRevision = desired.revision) /\
    next.revision = u64 ((store.request.map (·.revision)).getD 0 + 1) := by
 unfold prepareTopologyActuationRequest at done
 split at done
 next => cases done
 next desired present =>
  obtain ⟨write, _, checked⟩ := except_bind_ok done
  split at checked
  next => cases checked
  next same =>
   obtain ⟨_, _, planned⟩ := except_bind_ok checked
   obtain ⟨_, _, stored⟩ := except_bind_ok planned
   cases stored
   exact ⟨⟨desired, present, not_not.mp same⟩, rfl⟩

theorem prepareTopologyActuationExecution_ok {parsed : Except ApiError TopologyActuationExecutionWriteRequest}
  {next : TopologyActuationExecutionDocument}
  (done : prepareTopologyActuationExecution now instances store parsed = .ok next) :
  ∃ request, store.request = some request /\ next.requestRevision = request.revision := by
 unfold prepareTopologyActuationExecution at done
 split at done
 next => cases done
 next request present =>
  obtain ⟨write, _, checked⟩ := except_bind_ok done
  split at checked
  next => cases checked
  next same =>
   obtain ⟨_, _, itemized⟩ := except_bind_ok checked
   obtain ⟨_, _, stored⟩ := except_bind_ok itemized
   cases stored
   exact ⟨request, present, not_not.mp same⟩

end Dynaxis.Admin
