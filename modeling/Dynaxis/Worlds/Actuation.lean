import Dynaxis.Worlds.Topology

namespace Dynaxis.Worlds

open Shared List Option

inductive TopologyActuationRealizationState
 | available
 | claimed
 | awaitingObservation
 | realized
 | failed
 | stale
 deriving DecidableEq

structure TopologyActuationRealizationActionStatus where
 worldId : Text := []
 shard : Text := []
 requestedAction : TopologyActuationActionKind := .observeUndeclaredPool
 requestedReplicaDelta : Int := 0
 state : TopologyActuationRealizationState := .available
 requestState : Option TopologyActuationRequestActionState := none
 executionState : Option TopologyActuationExecutionActionState := none
 observedInstancesBefore : Nat := 0
 readyInstancesBefore : Nat := 0
 currentObservedInstances : Nat := 0
 currentReadyInstances : Nat := 0

structure TopologyActuationRealizationStatusSummary where
 requestPresent : Bool := false
 executionPresent : Bool := false
 executionRevisionMatchesCurrentRequest : Bool := false
 executionRequestRevision : Nat := 0
 currentRequestRevision : Nat := 0
 actionsTotal : Nat := 0
 availableActions : Nat := 0
 claimedActions : Nat := 0
 awaitingObservationActions : Nat := 0
 realizedActions : Nat := 0
 failedActions : Nat := 0
 staleActions : Nat := 0

structure TopologyActuationRealizationStatus where
 summary : TopologyActuationRealizationStatusSummary := {}
 actions : List TopologyActuationRealizationActionStatus := []

def isRealized (action : TopologyActuationActionKind) (replicaDelta : Int)
  (observedBefore readyBefore observedNow readyNow : Nat) : Bool :=
 match action with
 | .scaleOutPool => u32 (observedBefore + replicaDelta.toNat) ≤ observedNow
 | .scaleInPool => u32 (observedNow + replicaDelta.toNat) ≤ observedBefore
 | .restorePoolReadiness => readyBefore = 0 && 0 < readyNow
 | .observeUndeclaredPool => false

def realizationState (realized : Bool) :
  TopologyActuationExecutionStatusState -> TopologyActuationRealizationState
 | .available => .available
 | .claimed => .claimed
 | .failed => .failed
 | .stale => .stale
 | .completed => if realized then .realized else .awaitingObservation

def realizationActionStatus (item : Option TopologyActuationExecutionItem) (pool : Option ObservedTopologyPool)
  (action : TopologyActuationExecutionActionStatus) : TopologyActuationRealizationActionStatus :=
 let observedBefore := (item.map (·.observedInstancesBefore)).getD 0
 let readyBefore := (item.map (·.readyInstancesBefore)).getD 0
 let observedNow := (pool.map (·.instances)).getD 0
 let readyNow := (pool.map (·.readyInstances)).getD 0
 { worldId := action.worldId
   shard := action.shard
   requestedAction := action.requestedAction
   requestedReplicaDelta := action.requestedReplicaDelta
   requestState := action.requestState
   executionState := action.executionState
   observedInstancesBefore := observedBefore
   readyInstancesBefore := readyBefore
   currentObservedInstances := observedNow
   currentReadyInstances := readyNow
   state := realizationState
    (isRealized action.requestedAction action.requestedReplicaDelta observedBefore readyBefore observedNow readyNow)
    action.state }

def TopologyActuationRealizationStatusSummary.count (summary : TopologyActuationRealizationStatusSummary) :
  TopologyActuationRealizationState -> TopologyActuationRealizationStatusSummary
 | .available => { summary with availableActions := u32 (summary.availableActions + 1) }
 | .claimed => { summary with claimedActions := u32 (summary.claimedActions + 1) }
 | .awaitingObservation => { summary with awaitingObservationActions := u32 (summary.awaitingObservationActions + 1) }
 | .realized => { summary with realizedActions := u32 (summary.realizedActions + 1) }
 | .failed => { summary with failedActions := u32 (summary.failedActions + 1) }
 | .stale => { summary with staleActions := u32 (summary.staleActions + 1) }

def evaluateTopologyActuationRealizationStatus (executionDocument : Option TopologyActuationExecutionDocument)
  (requestDocument : Option TopologyActuationRequestDocument)
  (desiredTopology : Option DesiredTopologyDocument) (observedPools : List ObservedTopologyPool) :
  TopologyActuationRealizationStatus :=
 let executionStatus :=
  evaluateTopologyActuationExecutionStatus executionDocument requestDocument desiredTopology observedPools
 let executionIndex := indexByPool (·.action.worldId) (·.action.shard)
  ((executionDocument.map (·.actions)).getD [])
 let observedIndex := indexByPool (·.worldId) (·.shard) observedPools
 let actions := executionStatus.actions.map fun action =>
  let key := makePoolKey action.worldId action.shard
  realizationActionStatus (executionIndex.lookup key) (observedIndex.lookup key) action
 let summary : TopologyActuationRealizationStatusSummary :=
  { requestPresent := executionStatus.summary.requestPresent
    executionPresent := executionStatus.summary.executionPresent
    executionRevisionMatchesCurrentRequest := executionStatus.summary.executionRevisionMatchesCurrentRequest
    executionRequestRevision := executionStatus.summary.executionRequestRevision
    currentRequestRevision := executionStatus.summary.currentRequestRevision }
 let counted := (actions.map (·.state)).foldl TopologyActuationRealizationStatusSummary.count summary
 { summary := { counted with actionsTotal := u32 actions.length }, actions }

structure TopologyActuationAdapterLeaseDocument where
 adapterId : Text := []
 revision : Nat := 0
 leasedAtMs : Nat := 0
 executionRevision : Nat := 0
 actions : List TopologyActuationAdapterLeaseAction := []

inductive TopologyActuationAdapterStatusState
 | available
 | leased
 | awaitingRealization
 | realized
 | failed
 | stale
 deriving DecidableEq

structure TopologyActuationAdapterStatusAction where
 worldId : Text := []
 shard : Text := []
 requestedAction : TopologyActuationActionKind := .observeUndeclaredPool
 requestedReplicaDelta : Int := 0
 state : TopologyActuationAdapterStatusState := .available
 executionState : Option TopologyActuationExecutionStatusState := none
 realizationState : Option TopologyActuationRealizationState := none

structure TopologyActuationAdapterStatusSummary where
 executionPresent : Bool := false
 leasePresent : Bool := false
 leaseRevisionMatchesCurrentExecution : Bool := false
 leaseExecutionRevision : Nat := 0
 currentExecutionRevision : Nat := 0
 actionsTotal : Nat := 0
 availableActions : Nat := 0
 leasedActions : Nat := 0
 awaitingRealizationActions : Nat := 0
 realizedActions : Nat := 0
 failedActions : Nat := 0
 staleActions : Nat := 0

structure TopologyActuationAdapterStatus where
 summary : TopologyActuationAdapterStatusSummary := {}
 actions : List TopologyActuationAdapterStatusAction := []

section

variable (revisionMatches : Bool) (lease : Option TopologyActuationAdapterLeaseAction)
 (realization : Option TopologyActuationRealizationState) (action : TopologyActuationExecutionActionStatus)

def leaseMatchesAction (lease : TopologyActuationAdapterLeaseAction) : Bool :=
 lease.action = action.requestedAction /\ lease.replicaDelta = action.requestedReplicaDelta

def adapterStatusState : TopologyActuationAdapterStatusState :=
 if action.state = .stale \/ lease.any fun lease => !revisionMatches || !leaseMatchesAction action lease then .stale
 else if realization = some .realized then .realized
 else if realization = some .awaitingObservation then
  if lease.isSome then .awaitingRealization else .available
 else if action.state = .failed then
  if lease.isSome then .failed else .available
 else if lease.any (leaseMatchesAction action) then .leased
 else .available

def adapterActionStatus : TopologyActuationAdapterStatusAction where
 worldId := action.worldId
 shard := action.shard
 requestedAction := action.requestedAction
 requestedReplicaDelta := action.requestedReplicaDelta
 executionState := action.state
 realizationState := realization
 state := adapterStatusState revisionMatches lease realization action

end

def TopologyActuationAdapterStatusSummary.count (summary : TopologyActuationAdapterStatusSummary) :
  TopologyActuationAdapterStatusState -> TopologyActuationAdapterStatusSummary
 | .available => { summary with availableActions := u32 (summary.availableActions + 1) }
 | .leased => { summary with leasedActions := u32 (summary.leasedActions + 1) }
 | .awaitingRealization => { summary with awaitingRealizationActions := u32 (summary.awaitingRealizationActions + 1) }
 | .realized => { summary with realizedActions := u32 (summary.realizedActions + 1) }
 | .failed => { summary with failedActions := u32 (summary.failedActions + 1) }
 | .stale => { summary with staleActions := u32 (summary.staleActions + 1) }

section

variable (leaseDocument : Option TopologyActuationAdapterLeaseDocument)
 (executionDocument : Option TopologyActuationExecutionDocument)

def leaseRevisionMatches : Bool :=
 leaseDocument.any fun lease => executionDocument.any fun execution => lease.executionRevision == execution.revision

def evaluateTopologyActuationAdapterStatus (requestDocument : Option TopologyActuationRequestDocument)
  (desiredTopology : Option DesiredTopologyDocument) (observedPools : List ObservedTopologyPool) :
  TopologyActuationAdapterStatus :=
 let revisionMatches := leaseRevisionMatches leaseDocument executionDocument
 let executionStatus :=
  evaluateTopologyActuationExecutionStatus executionDocument requestDocument desiredTopology observedPools
 let realizationStatus :=
  evaluateTopologyActuationRealizationStatus executionDocument requestDocument desiredTopology observedPools
 let leaseIndex := indexByPool (·.worldId) (·.shard) ((leaseDocument.map (·.actions)).getD [])
 let realizationIndex := indexByPool (·.worldId) (·.shard) realizationStatus.actions
 let actions := executionStatus.actions.map fun action =>
  let key := makePoolKey action.worldId action.shard
  adapterActionStatus revisionMatches (leaseIndex.lookup key)
   ((realizationIndex.lookup key).map (·.state)) action
 let summary : TopologyActuationAdapterStatusSummary :=
  { executionPresent := executionDocument.isSome
    leasePresent := leaseDocument.isSome
    leaseExecutionRevision := (leaseDocument.map (·.executionRevision)).getD 0
    currentExecutionRevision := (executionDocument.map (·.revision)).getD 0
    leaseRevisionMatchesCurrentExecution := revisionMatches }
 let counted := (actions.map (·.state)).foldl TopologyActuationAdapterStatusSummary.count summary
 { summary := { counted with actionsTotal := u32 actions.length }, actions }

end

abbrev ActionLabel := Text × Text × TopologyActuationActionKind × Int

def TopologyActuationRequestAction.label (action : TopologyActuationRequestAction) : ActionLabel :=
 (action.worldId, action.shard, action.action, action.replicaDelta)

def TopologyActuationRequestActionStatus.label (action : TopologyActuationRequestActionStatus) : ActionLabel :=
 (action.worldId, action.shard, action.requestedAction, action.requestedReplicaDelta)

def TopologyActuationExecutionActionStatus.label (action : TopologyActuationExecutionActionStatus) : ActionLabel :=
 (action.worldId, action.shard, action.requestedAction, action.requestedReplicaDelta)

def TopologyActuationRealizationActionStatus.label (action : TopologyActuationRealizationActionStatus) :
  ActionLabel :=
 (action.worldId, action.shard, action.requestedAction, action.requestedReplicaDelta)

def TopologyActuationAdapterStatusAction.label (action : TopologyActuationAdapterStatusAction) : ActionLabel :=
 (action.worldId, action.shard, action.requestedAction, action.requestedReplicaDelta)

def requestedActions (request : Option TopologyActuationRequestDocument) : List TopologyActuationRequestAction :=
 (request.map (·.actions)).getD []

section

variable (desired : Option DesiredTopologyDocument) (observed : List ObservedTopologyPool) (key : Text)

def plannedAction : Option TopologyActuationAction :=
 (indexByPool (·.worldId) (·.shard) (planTopologyActuation desired observed).actions).lookup key

def executionItem (execution : Option TopologyActuationExecutionDocument) (key : Text) :
  Option TopologyActuationExecutionItem :=
 (indexByPool (·.action.worldId) (·.action.shard) ((execution.map (·.actions)).getD [])).lookup key

def observedPool : Option ObservedTopologyPool :=
 (indexByPool (·.worldId) (·.shard) observed).lookup key

end

def leaseAction (lease : Option TopologyActuationAdapterLeaseDocument) (key : Text) :
  Option TopologyActuationAdapterLeaseAction :=
 (indexByPool (·.worldId) (·.shard) ((lease.map (·.actions)).getD [])).lookup key

def executionActionStatus (revisionMatches : Bool) (item : Option TopologyActuationExecutionItem)
  (requested : TopologyActuationRequestActionStatus) : TopologyActuationExecutionActionStatus where
 worldId := requested.worldId
 shard := requested.shard
 requestedAction := requested.requestedAction
 requestedReplicaDelta := requested.requestedReplicaDelta
 requestState := requested.state
 executionState := item.map (·.state)
 state := executionStatusState revisionMatches item requested

section

variable (lease : Option TopologyActuationAdapterLeaseDocument)
 (execution : Option TopologyActuationExecutionDocument) (request : Option TopologyActuationRequestDocument)
 (desired : Option DesiredTopologyDocument) (observed : List ObservedTopologyPool)

theorem requestStatus_actions : (evaluateTopologyActuationRequestStatus request desired observed).actions =
    (requestedActions request).map fun requested =>
      requestActionStatus (plannedAction desired observed (makePoolKey requested.worldId requested.shard))
       requested := by
 cases request <;> rfl

theorem executionStatus_actions :
  (evaluateTopologyActuationExecutionStatus execution request desired observed).actions =
    (evaluateTopologyActuationRequestStatus request desired observed).actions.map fun requested =>
      executionActionStatus (executionRevisionMatches execution request)
       (executionItem execution (makePoolKey requested.worldId requested.shard)) requested :=
 rfl

theorem realizationStatus_actions :
  (evaluateTopologyActuationRealizationStatus execution request desired observed).actions =
    (evaluateTopologyActuationExecutionStatus execution request desired observed).actions.map fun action =>
      realizationActionStatus (executionItem execution (makePoolKey action.worldId action.shard))
       (observedPool observed (makePoolKey action.worldId action.shard)) action :=
 rfl

def realizationFound (key : Text) : Option TopologyActuationRealizationState :=
 ((indexByPool (·.worldId) (·.shard)
   (evaluateTopologyActuationRealizationStatus execution request desired observed).actions).lookup key).map
     (·.state)

theorem adapterStatus_actions :
  (evaluateTopologyActuationAdapterStatus lease execution request desired observed).actions =
    (evaluateTopologyActuationExecutionStatus execution request desired observed).actions.map fun action =>
      let key := makePoolKey action.worldId action.shard
      adapterActionStatus (leaseRevisionMatches lease execution) (leaseAction lease key)
       (realizationFound execution request desired observed key) action :=
 rfl

section

variable (planned : Option TopologyActuationAction) (requested : TopologyActuationRequestAction)

theorem requestActionStatus_label : (requestActionStatus planned requested).label = requested.label := by
 cases planned <;> rfl

theorem requestStatus_labels : (evaluateTopologyActuationRequestStatus request desired observed).actions.map (·.label) =
    (requestedActions request).map (·.label) := by
 rw [requestStatus_actions, List.map_map]
 exact map_congr_left fun requested _ => requestActionStatus_label _ requested

theorem executionStatus_labels :
  (evaluateTopologyActuationExecutionStatus execution request desired observed).actions.map (·.label) =
    (requestedActions request).map (·.label) := by
 rw [executionStatus_actions, List.map_map, <- requestStatus_labels request desired observed]
 rfl

theorem realizationStatus_labels :
  (evaluateTopologyActuationRealizationStatus execution request desired observed).actions.map (·.label) =
    (requestedActions request).map (·.label) := by
 rw [realizationStatus_actions, List.map_map, <- executionStatus_labels execution request desired observed]
 rfl

theorem adapterStatus_labels :
  (evaluateTopologyActuationAdapterStatus lease execution request desired observed).actions.map (·.label) =
    (requestedActions request).map (·.label) := by
 rw [adapterStatus_actions, List.map_map, <- executionStatus_labels execution request desired observed]
 rfl

-- What the execution status says of one action of the request.
def actionView : TopologyActuationExecutionActionStatus :=
 let key := makePoolKey requested.worldId requested.shard
 executionActionStatus (executionRevisionMatches execution request) (executionItem execution key)
  (requestActionStatus (plannedAction desired observed key) requested)

theorem executionStatus_eq_views :
  (evaluateTopologyActuationExecutionStatus execution request desired observed).actions =
    (requestedActions request).map (actionView execution request desired observed) := by
 rw [executionStatus_actions, requestStatus_actions, List.map_map]
 refine map_congr_left fun requested _ => ?_
 cases planned : plannedAction desired observed (makePoolKey requested.worldId requested.shard) <;>
  simp [actionView, requestActionStatus, planned]

theorem requestActionStatus_fields :
  (requestActionStatus planned requested).worldId = requested.worldId /\
   (requestActionStatus planned requested).shard = requested.shard /\
   (requestActionStatus planned requested).requestedAction = requested.action /\
   (requestActionStatus planned requested).requestedReplicaDelta = requested.replicaDelta := by
 cases planned <;> exact ⟨rfl, rfl, rfl, rfl⟩

def realizationView : TopologyActuationRealizationActionStatus :=
 let key := makePoolKey requested.worldId requested.shard
 realizationActionStatus (executionItem execution key) (observedPool observed key)
  (actionView execution request desired observed requested)

end

theorem realizationStatus_eq_views :
  (evaluateTopologyActuationRealizationStatus execution request desired observed).actions =
    (requestedActions request).map (realizationView execution request desired observed) := by
 rw [realizationStatus_actions, executionStatus_eq_views, List.map_map]
 refine map_congr_left fun requested _ => ?_
 obtain ⟨world, shard, -, -⟩ := requestActionStatus_fields
  (plannedAction desired observed (makePoolKey requested.worldId requested.shard)) requested
 simp only [Function.comp, realizationView, actionView, executionActionStatus, world, shard]

theorem realizationStatus_requestStates :
  (evaluateTopologyActuationRealizationStatus execution request desired observed).actions.map (·.requestState) =
    (evaluateTopologyActuationRequestStatus request desired observed).actions.map fun action =>
      some action.state := by
 rw [realizationStatus_actions, executionStatus_actions, List.map_map, List.map_map]
 rfl

end

def TopologyActuationRequestStatusSummary.counted (summary : TopologyActuationRequestStatusSummary) : Nat :=
 summary.pendingActions + summary.satisfiedActions + summary.supersededActions

def TopologyActuationExecutionStatusSummary.counted (summary : TopologyActuationExecutionStatusSummary) : Nat :=
 summary.availableActions + summary.claimedActions + summary.completedActions + summary.failedActions +
  summary.staleActions

def TopologyActuationRealizationStatusSummary.counted (summary : TopologyActuationRealizationStatusSummary) :
  Nat :=
 summary.availableActions + summary.claimedActions + summary.awaitingObservationActions +
  summary.realizedActions + summary.failedActions + summary.staleActions

def TopologyActuationAdapterStatusSummary.counted (summary : TopologyActuationAdapterStatusSummary) : Nat :=
 summary.availableActions + summary.leasedActions + summary.awaitingRealizationActions +
  summary.realizedActions + summary.failedActions + summary.staleActions

def SumsTo (counted actionsTotal actions : Nat) : Prop :=
 u32 counted = actionsTotal /\ (actions < 4294967296 -> counted = actionsTotal)

def CountsOne {Summary State : Type} (count : Summary -> State -> Summary) (counted : Summary -> Nat) : Prop :=
 ∀ summary state, counted (count summary state) ≤ counted summary + 1 /\
  u32 (counted (count summary state)) = u32 (counted summary + 1)

theorem sumsTo_foldl {Summary State Action : Type} {count : Summary -> State -> Summary} {counted : Summary -> Nat}
  (counts : CountsOne count counted) (stateOf : Action -> State) (actions : List Action)
   (start : Summary) (zero : counted start = 0) :
  SumsTo (counted ((actions.map stateOf).foldl count start)) (u32 actions.length) actions.length := by
 have whole := foldl_counts count counted counts (actions.map stateOf) start
 rw [zero, length_map] at whole
 simp only [SumsTo, u32] at *
 omega

section

variable (lease : Option TopologyActuationAdapterLeaseDocument)
 (execution : Option TopologyActuationExecutionDocument) (request : Option TopologyActuationRequestDocument)
 (desired : Option DesiredTopologyDocument) (observed : List ObservedTopologyPool)

theorem requestStatus_counts :
  let status := evaluateTopologyActuationRequestStatus request desired observed
  SumsTo status.summary.counted status.summary.actionsTotal status.actions.length := by
 intro status
 cases request with
 | none => exact ⟨rfl, fun _ => rfl⟩
 | some document =>
  have counts : CountsOne TopologyActuationRequestStatusSummary.count (·.counted) := by
   intro summary state
   cases state <;> simp only [TopologyActuationRequestStatusSummary.count,
    TopologyActuationRequestStatusSummary.counted, u32] <;> omega
  have sums := sumsTo_foldl counts (·.state) status.actions
  exact sums _ rfl

theorem executionStatus_counts :
  let status := evaluateTopologyActuationExecutionStatus execution request desired observed
  SumsTo status.summary.counted status.summary.actionsTotal status.actions.length := by
 intro status
 have counts : CountsOne TopologyActuationExecutionStatusSummary.count (·.counted) := by
  intro summary state
  cases state <;> simp only [TopologyActuationExecutionStatusSummary.count,
   TopologyActuationExecutionStatusSummary.counted, u32] <;> omega
 have sums := sumsTo_foldl counts (·.state) status.actions
 exact sums _ rfl

theorem realizationStatus_counts :
  let status := evaluateTopologyActuationRealizationStatus execution request desired observed
  SumsTo status.summary.counted status.summary.actionsTotal status.actions.length := by
 intro status
 have counts : CountsOne TopologyActuationRealizationStatusSummary.count (·.counted) := by
  intro summary state
  cases state <;> simp only [TopologyActuationRealizationStatusSummary.count,
   TopologyActuationRealizationStatusSummary.counted, u32] <;> omega
 have sums := sumsTo_foldl counts (·.state) status.actions
 exact sums _ rfl

theorem adapterStatus_counts :
  let status := evaluateTopologyActuationAdapterStatus lease execution request desired observed
  SumsTo status.summary.counted status.summary.actionsTotal status.actions.length := by
 intro status
 have counts : CountsOne TopologyActuationAdapterStatusSummary.count (·.counted) := by
  intro summary state
  cases state <;> simp only [TopologyActuationAdapterStatusSummary.count,
   TopologyActuationAdapterStatusSummary.counted, u32] <;> omega
 have sums := sumsTo_foldl counts (·.state) status.actions
 exact sums _ rfl

end

-- A completed item for the action, recorded for the current revision of the request.
structure CompletedItem (execution : TopologyActuationExecutionDocument) (request : TopologyActuationRequestDocument)
  (requested : TopologyActuationRequestAction) (item : TopologyActuationExecutionItem) : Prop where
 listed : requested ∈ request.actions
 current : execution.requestRevision = request.revision
 found : executionItem (some execution) (makePoolKey requested.worldId requested.shard) = some item
 sameAction : item.action.action = requested.action
 sameDelta : item.action.replicaDelta = requested.replicaDelta
 completed : item.state = .completed

def WrapsPast (start reached : Nat) (delta : Int) : Prop :=
 u32 (start + delta.toNat) ≤ reached /\ (reached : Int) < start + delta

section

variable (execution : Option TopologyActuationExecutionDocument)
 (request : Option TopologyActuationRequestDocument) (desired : Option DesiredTopologyDocument)
 (observed : List ObservedTopologyPool)

-- The sums of the realization test that are computed do not wrap past the count they are compared with.
def SumsFit : Prop :=
 ∀ progress ∈ execution, ∀ document ∈ request, ∀ requested item, CompletedItem progress document requested item ->
  plannedAction desired observed (makePoolKey requested.worldId requested.shard) = none ->
  let now := ((observedPool observed (makePoolKey requested.worldId requested.shard)).map (·.instances)).getD 0
  (requested.action = .scaleOutPool -> ¬ WrapsPast item.observedInstancesBefore now requested.replicaDelta) /\
  (requested.action = .scaleInPool -> ¬ WrapsPast now item.observedInstancesBefore requested.replicaDelta)

structure CompletedBy (action : TopologyActuationRealizationActionStatus)
  (item : TopologyActuationExecutionItem) : Prop where
 current : ∃ progress ∈ execution, item ∈ progress.actions /\
  ∃ document ∈ request, progress.requestRevision = document.revision
 pool : makePoolKey item.action.worldId item.action.shard = makePoolKey action.worldId action.shard
 sameAction : item.action.action = action.requestedAction
 sameDelta : item.action.replicaDelta = action.requestedReplicaDelta
 completed : item.state = .completed

structure RealizedBy (action : TopologyActuationRealizationActionStatus)
  (item : TopologyActuationExecutionItem) : Prop where
 recorded : action.observedInstancesBefore = item.observedInstancesBefore
 present : action.currentObservedInstances =
  ((observedPool observed (makePoolKey action.worldId action.shard)).map (·.instances)).getD 0
 scaledOut : action.requestedAction = .scaleOutPool ->
  (item.observedInstancesBefore : Int) + action.requestedReplicaDelta ≤ action.currentObservedInstances
 scaledIn : action.requestedAction = .scaleInPool ->
  (action.currentObservedInstances : Int) + action.requestedReplicaDelta ≤ item.observedInstancesBefore

end

section

variable {lease : Option TopologyActuationAdapterLeaseDocument}
 {execution : Option TopologyActuationExecutionDocument} {request : Option TopologyActuationRequestDocument}
 {desired : Option DesiredTopologyDocument} {observed : List ObservedTopologyPool}
 {Entry : Type} {worldId shard : Entry -> Text} {entries : List Entry} {key : Text} {entry : Entry}
 {delta : Int} {observedBefore readyBefore observedNow readyNow : Nat}

theorem mem_of_indexByPool (found : (indexByPool worldId shard entries).lookup key = some entry) :
  entry ∈ entries /\ makePoolKey (worldId entry) (shard entry) = key := by
 obtain listed | empty := Table.mem_of_lookup_emplaceAll found
 · obtain ⟨other, member, same⟩ := mem_map.mp listed
   cases same
   exact ⟨member, rfl⟩
 · cases empty

theorem indexByPool_ne_none (member : entry ∈ entries) (samePool : makePoolKey (worldId entry) (shard entry) = key) :
  (indexByPool worldId shard entries).lookup key ≠ none := by
 refine Table.lookup_emplaceAll_ne_none (mem_map.mpr ⟨(key, entry), ?_, rfl⟩)
 exact mem_map.mpr ⟨entry, member, by rw [samePool]⟩

theorem executionRevisionMatches_iff : executionRevisionMatches execution request = true ↔
   ∃ progress ∈ execution, ∃ document ∈ request, progress.requestRevision = document.revision := by
 cases execution <;> cases request <;> simp [executionRevisionMatches]

theorem executionStatusState_completed {revisionMatches : Bool} {item : Option TopologyActuationExecutionItem}
  {requested : TopologyActuationRequestActionStatus} :
  executionStatusState revisionMatches item requested = .completed ↔
   requested.state = .satisfied /\ revisionMatches = true /\ ∃ found, item = some found /\
    found.action.action = requested.requestedAction /\
    found.action.replicaDelta = requested.requestedReplicaDelta /\ found.state = .completed := by
 cases state : requested.state with
 | pending =>
  cases item with
  | none => simp [executionStatusState, state]
  | some item =>
   simp only [executionStatusState, state]
   split_ifs <;> simp
 | satisfied =>
  cases item <;> simp [executionStatusState, state, and_assoc]
 | superseded => simp [executionStatusState, state]

theorem requestActionStatus_satisfied {planned : Option TopologyActuationAction}
  {requested : TopologyActuationRequestAction} :
  (requestActionStatus planned requested).state = .satisfied ↔ planned = none := by
 cases planned with
 | none => simp [requestActionStatus]
 | some planned =>
  simp only [requestActionStatus]
  split_ifs <;> simp

section

variable {requested : TopologyActuationRequestAction}

theorem actionView_completed (asked : requested ∈ requestedActions request) :
  (actionView execution request desired observed requested).state = .completed ↔
   plannedAction desired observed (makePoolKey requested.worldId requested.shard) = none /\
    ∃ progress ∈ execution, ∃ document ∈ request, ∃ item, CompletedItem progress document requested item := by
 obtain ⟨-, -, kind, delta⟩ := requestActionStatus_fields
  (plannedAction desired observed (makePoolKey requested.worldId requested.shard)) requested
 simp only [actionView, executionActionStatus]
 rw [executionStatusState_completed, requestActionStatus_satisfied, executionRevisionMatches_iff, kind, delta]
 constructor
 · rintro ⟨settled, ⟨progress, rfl, document, rfl, current⟩, item, found, sameAction, sameDelta, completed⟩
   exact ⟨settled, progress, rfl, document, rfl, item, asked, current, found, sameAction, sameDelta, completed⟩
 · rintro ⟨settled, progress, rfl, document, rfl, item, -, current, found, sameAction, sameDelta, completed⟩
   exact ⟨settled, ⟨progress, rfl, document, rfl, current⟩, item, found, sameAction, sameDelta, completed⟩

end

theorem realizationState_realized {realized : Bool} {state : TopologyActuationExecutionStatusState} :
  realizationState realized state = .realized ↔ state = .completed /\ realized = true := by
 cases state <;> cases realized <;> simp [realizationState]

theorem realized_sound (fits : SumsFit execution request desired observed)
  {action : TopologyActuationRealizationActionStatus}
  (listed : action ∈ (evaluateTopologyActuationRealizationStatus execution request desired observed).actions)
  (realized : action.state = .realized) :
  action.requestState = some .satisfied /\
   ∃ item, CompletedBy execution request action item /\ RealizedBy observed action item := by
 rw [realizationStatus_eq_views] at listed
 obtain ⟨requested, asked, rfl⟩ := mem_map.mp listed
 obtain ⟨completed, shown⟩ := realizationState_realized.mp realized
 obtain ⟨settled, progress, rfl, document, rfl, item, done⟩ := (actionView_completed asked).mp completed
 obtain ⟨member, samePool⟩ := mem_of_indexByPool done.found
 have unwrapped := fits progress rfl document rfl requested item done settled
 simp only [done.found, map_some, getD_some, actionView, executionActionStatus, settled,
  requestActionStatus] at shown
 refine ⟨?_, item, ⟨⟨progress, rfl, member, document, rfl, done.current⟩, ?_, ?_, ?_, done.completed⟩,
  ⟨?_, ?_, fun kind => ?_, fun kind => ?_⟩⟩
 all_goals simp only [realizationView, actionView, executionActionStatus, realizationActionStatus, settled,
  requestActionStatus, done.found, map_some, getD_some] at *
 · exact samePool
 · exact done.sameAction
 · exact done.sameDelta
 · rw [kind] at shown
   exact not_lt.mp fun short => unwrapped.1 kind ⟨of_decide_eq_true shown, short⟩
 · rw [kind] at shown
   exact not_lt.mp fun short => unwrapped.2 kind ⟨of_decide_eq_true shown, short⟩

theorem sumsFit_of_sound (sound : ∀ action ∈
   (evaluateTopologyActuationRealizationStatus execution request desired observed).actions,
   action.state = .realized -> ∃ item, RealizedBy observed action item) :
  SumsFit execution request desired observed := by
 rintro progress rfl document rfl requested item done settled now
 have completed : (actionView (some progress) (some document) desired observed requested).state = .completed :=
  (actionView_completed done.listed).mpr ⟨settled, progress, rfl, document, rfl, item, done⟩
 have listed : realizationView (some progress) (some document) desired observed requested ∈
   (evaluateTopologyActuationRealizationStatus (some progress) (some document) desired observed).actions := by
  rw [realizationStatus_eq_views]
  exact mem_map_of_mem done.listed
 have shown := sound _ listed
 simp only [realizationView, realizationActionStatus, realizationState_realized, completed, true_and, done.found,
  map_some, getD_some] at shown
 simp only [actionView, executionActionStatus, settled, requestActionStatus] at shown
 constructor
 · rintro scaleOut ⟨reached, short⟩
   obtain ⟨other, recorded, -, whole, -⟩ := shown (by rw [scaleOut]; exact decide_eq_true reached)
   replace recorded : item.observedInstancesBefore = _ := recorded
   exact absurd (recorded ▸ short) (not_lt.mpr (whole scaleOut))
 · rintro scaleIn ⟨reached, short⟩
   obtain ⟨other, recorded, -, -, whole⟩ := shown (by rw [scaleIn]; exact decide_eq_true reached)
   replace recorded : item.observedInstancesBefore = _ := recorded
   exact absurd (recorded ▸ short) (not_lt.mpr (whole scaleIn))

theorem adapter_stale_of_other_revision {document : TopologyActuationAdapterLeaseDocument}
  (other : ∀ progress ∈ execution, document.executionRevision ≠ progress.revision)
  {action : TopologyActuationAdapterStatusAction}
  (listed : action ∈ (evaluateTopologyActuationAdapterStatus (some document) execution request desired
    observed).actions)
  (leased : ∃ entry ∈ document.actions,
    makePoolKey entry.worldId entry.shard = makePoolKey action.worldId action.shard) : action.state = .stale := by
 rw [adapterStatus_actions] at listed
 obtain ⟨reported, -, rfl⟩ := mem_map.mp listed
 have mismatch : leaseRevisionMatches (some document) execution = false := by
  cases execution with
  | none => rfl
  | some progress => exact beq_eq_false_iff_ne.mpr (other progress rfl)
 obtain ⟨entry, member, samePool⟩ := leased
 have present : leaseAction (some document) (makePoolKey reported.worldId reported.shard) ≠ none :=
  indexByPool_ne_none member samePool
 obtain ⟨first, found⟩ := ne_none_iff_exists'.mp present
 simp [adapterActionStatus, adapterStatusState, mismatch, found]

end

/-- Every view has the actions of the request in order, with counters that sum to the total, and what is
reported as realized shows in the counts: just when no sum of the realization test wraps past its count. -/
theorem actuation_views_agree (lease : Option TopologyActuationAdapterLeaseDocument)
  (execution : Option TopologyActuationExecutionDocument) (request : Option TopologyActuationRequestDocument)
  (desired : Option DesiredTopologyDocument) (observed : List ObservedTopologyPool) :
  let requestStatus := evaluateTopologyActuationRequestStatus request desired observed
  let executionStatus := evaluateTopologyActuationExecutionStatus execution request desired observed
  let realizationStatus := evaluateTopologyActuationRealizationStatus execution request desired observed
  let adapterStatus := evaluateTopologyActuationAdapterStatus lease execution request desired observed
  ((requestStatus.actions.map (·.label) = (requestedActions request).map (·.label) /\
    executionStatus.actions.map (·.label) = (requestedActions request).map (·.label) /\
    realizationStatus.actions.map (·.label) = (requestedActions request).map (·.label) /\
    adapterStatus.actions.map (·.label) = (requestedActions request).map (·.label)) /\
  (SumsTo requestStatus.summary.counted requestStatus.summary.actionsTotal requestStatus.actions.length /\
    SumsTo executionStatus.summary.counted executionStatus.summary.actionsTotal executionStatus.actions.length /\
    SumsTo realizationStatus.summary.counted realizationStatus.summary.actionsTotal
     realizationStatus.actions.length /\
    SumsTo adapterStatus.summary.counted adapterStatus.summary.actionsTotal adapterStatus.actions.length) /\
  (realizationStatus.actions.map (·.requestState) = requestStatus.actions.map fun action => some action.state) /\
  (∀ action ∈ realizationStatus.actions, action.state = .realized -> action.requestState = some .satisfied /\
     ∃ item, CompletedBy execution request action item /\ RealizedBy observed action item) /\
  (∀ document, lease = some document -> (∀ progress ∈ execution, document.executionRevision ≠ progress.revision) ->
    ∀ action ∈ adapterStatus.actions,
     (∃ entry ∈ document.actions, makePoolKey entry.worldId entry.shard = makePoolKey action.worldId action.shard) ->
     action.state = .stale)) ↔ SumsFit execution request desired observed := by
 intro requestStatus executionStatus realizationStatus adapterStatus
 constructor
 · rintro ⟨-, -, -, sound, -⟩
   exact sumsFit_of_sound fun action listed realized => (sound action listed realized).2.imp fun _ both => both.2
 intro fits
 refine ⟨⟨?_, ?_, ?_, ?_⟩, ⟨?_, ?_, ?_, ?_⟩, ?_, ?_, ?_⟩
 · exact requestStatus_labels request desired observed
 · exact executionStatus_labels execution request desired observed
 · exact realizationStatus_labels execution request desired observed
 · exact adapterStatus_labels lease execution request desired observed
 · exact requestStatus_counts request desired observed
 · exact executionStatus_counts execution request desired observed
 · exact realizationStatus_counts execution request desired observed
 · exact adapterStatus_counts lease execution request desired observed
 · exact realizationStatus_requestStates execution request desired observed
 · intro action listed realized
   exact realized_sound fits listed realized
 · intro document present other action listed leased
   cases present
   exact adapter_stale_of_other_revision other listed leased

def sampleWorld : Text := "w1".toList

def sampleShard : Text := "s1".toList

def sampleDesired (replicas : Nat) : DesiredTopologyDocument :=
 { revision := 3, pools := [{ worldId := sampleWorld, shard := sampleShard, replicas }] }

def sampleObserved (instances : Nat) : List ObservedTopologyPool :=
 [{ worldId := sampleWorld, shard := sampleShard, instances, readyInstances := 1 }]

def sampleRequest (replicaDelta : Int) : TopologyActuationRequestDocument :=
 { revision := 5, basisTopologyRevision := 3
   actions := [{ worldId := sampleWorld, shard := sampleShard, action := .scaleOutPool, replicaDelta }] }

def sampleExecution (replicaDelta : Int) (observedInstancesBefore : Nat) : TopologyActuationExecutionDocument :=
 { revision := 7, requestRevision := 5
   actions :=
    [{ action := { worldId := sampleWorld, shard := sampleShard, action := .scaleOutPool, replicaDelta }
       observedInstancesBefore, readyInstancesBefore := 1, state := .completed }] }

def sampleLease (replicaDelta : Int) : TopologyActuationAdapterLeaseDocument :=
 { executionRevision := 7
   actions := [{ worldId := sampleWorld, shard := sampleShard, action := .scaleOutPool, replicaDelta }] }

theorem wrapped_sum_is_realized :
  ∃ action ∈ (evaluateTopologyActuationRealizationStatus (some (sampleExecution 1 4294967295))
   (some (sampleRequest 1)) (some (sampleDesired 1)) (sampleObserved 1)).actions,
   action.state = .realized /\ action.requestedAction = .scaleOutPool /\
    ¬ (action.observedInstancesBefore : Int) + action.requestedReplicaDelta ≤ action.currentObservedInstances := by
 decide +kernel

theorem TopologyActuationRequestAction.label_injective :
  Function.Injective TopologyActuationRequestAction.label := by
 rintro ⟨world, shard, action, delta⟩ ⟨world', shard', action', delta'⟩ same
 cases same
 rfl

theorem CompletedItem.stale {execution : TopologyActuationExecutionDocument}
  {request : TopologyActuationRequestDocument} {desired : Option DesiredTopologyDocument}
  {observed : List ObservedTopologyPool} {requested : TopologyActuationRequestAction}
  {item : TopologyActuationExecutionItem} (done : CompletedItem execution request requested item)
  (pending : (requestActionStatus (plannedAction desired observed (makePoolKey requested.worldId requested.shard))
    requested).state = .pending) :
  (actionView (some execution) (some request) desired observed requested).state = .stale := by
 simp [actionView, executionActionStatus, executionStatusState, done.found, done.sameAction, done.sameDelta,
  done.completed, pending]

/-- A completed action that is still pending, its effect not observed yet, is stale in both views. -/
theorem pending_completion_is_stale (lease : Option TopologyActuationAdapterLeaseDocument)
  (execution : TopologyActuationExecutionDocument) (request : TopologyActuationRequestDocument)
  (desired : Option DesiredTopologyDocument) (observed : List ObservedTopologyPool)
  (requested : TopologyActuationRequestAction) (item : TopologyActuationExecutionItem)
  (done : CompletedItem execution request requested item)
  (pending : (requestActionStatus (plannedAction desired observed (makePoolKey requested.worldId requested.shard))
    requested).state = .pending) :
  let realizationStatus := evaluateTopologyActuationRealizationStatus (some execution)
   (some request) desired observed
  let adapterStatus :=
   evaluateTopologyActuationAdapterStatus lease (some execution) (some request) desired observed
  (∃ action ∈ realizationStatus.actions, action.label = requested.label) /\
  (∀ action ∈ realizationStatus.actions, action.label = requested.label -> action.state = .stale) /\
  (∃ action ∈ adapterStatus.actions, action.label = requested.label) /\
  ∀ action ∈ adapterStatus.actions, action.label = requested.label -> action.state = .stale := by
 intro realizationStatus adapterStatus
 have asked := mem_map_of_mem (f := (·.label)) done.listed
 refine ⟨mem_map.mp ?_, fun action listed label => ?_, mem_map.mp ?_, fun action listed label => ?_⟩
 · rw [realizationStatus_labels]
   exact asked
 · rw [realizationStatus_eq_views] at listed
   obtain ⟨other, -, rfl⟩ := mem_map.mp listed
   obtain rfl := TopologyActuationRequestAction.label_injective ((requestActionStatus_label _ other).symm.trans label)
   simp [realizationView, realizationActionStatus, done.stale pending, realizationState]
 · rw [adapterStatus_labels]
   exact asked
 · rw [adapterStatus_actions, executionStatus_eq_views, List.map_map] at listed
   obtain ⟨other, -, rfl⟩ := mem_map.mp listed
   obtain rfl := TopologyActuationRequestAction.label_injective ((requestActionStatus_label _ other).symm.trans label)
   simp [adapterActionStatus, adapterStatusState, done.stale pending]

theorem completed_scale_out_is_stale :
  ∃ action ∈ (evaluateTopologyActuationRealizationStatus (some (sampleExecution 2 1)) (some (sampleRequest 2))
   (some (sampleDesired 3)) (sampleObserved 1)).actions,
   action.label = (sampleWorld, sampleShard, .scaleOutPool, 2) /\ action.state = .stale := by
 have done : CompletedItem (sampleExecution 2 1) (sampleRequest 2) _ _ := ⟨mem_cons_self, rfl, rfl, rfl, rfl, rfl⟩
 obtain ⟨⟨action, listed, label⟩, stale, -⟩ := pending_completion_is_stale (some (sampleLease 2))
  (sampleExecution 2 1)
  (sampleRequest 2) (some (sampleDesired 3)) (sampleObserved 1) _ _ done (by decide +kernel)
 exact ⟨action, listed, label, stale action listed label⟩

theorem completed_scale_out_is_stale_while_planned :
  (∃ action ∈ (evaluateTopologyActuationRealizationStatus (some (sampleExecution 2 1)) (some (sampleRequest 2))
    (some (sampleDesired 3)) (sampleObserved 1)).actions,
    action.requestState = some .pending /\ action.executionState = some .completed /\
     action.currentObservedInstances = action.observedInstancesBefore /\
     action.currentReadyInstances = action.readyInstancesBefore /\ action.state = .stale) /\
  ∃ action ∈ (evaluateTopologyActuationAdapterStatus (some (sampleLease 2)) (some (sampleExecution 2 1))
   (some (sampleRequest 2)) (some (sampleDesired 3)) (sampleObserved 1)).actions, action.state = .stale := by
 decide +kernel

end Dynaxis.Worlds
