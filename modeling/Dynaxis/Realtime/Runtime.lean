import Dynaxis.Shared.Table
import Dynaxis.Shared.Word

/-! `WorldRuntime` stages inputs per session, advances all actors on a tick and computes one replication
update per viewer. The counters that only `snapshot()` reports and the phase observer are left out: nothing
below reads them. -/

namespace Dynaxis.Realtime

open Shared

structure RuntimeConfig where
 tickRateHz : Nat := 30
 snapshotRefreshTicks : Nat := 30
 interestCellSizeMm : Int := 10000
 interestRadiusCells : Int := 1
 maxInterestRecipientsPerTick : Nat := 64
 maxDeltaActorsPerTick : Nat := 32
 historyTicks : Nat := 64

structure InputCommand where
 inputSeq : Nat := 0
 moveXMm : Int := 0
 moveYMm : Int := 0
 yawMdeg : Int := 0

structure ActorTransformSample where
 actorId : Nat := 0
 xMm : Int := 0
 yMm : Int := 0
 yawMdeg : Int := 0
 lastAppliedInputSeq : Nat := 0
 serverTick : Nat := 0

inductive StageInputDisposition
 | accepted
 | rejectedStale

structure StageInputResult where
 disposition : StageInputDisposition := .accepted
 targetServerTick : Nat := 0
 actorId : Option Nat := none

inductive ReplicationKind
 | snapshot
 | delta
deriving DecidableEq

structure ReplicationUpdate where
 sessionId : Nat := 0
 kind : ReplicationKind := .snapshot
 serverTick : Nat := 0
 selfActorId : Nat := 0
 actors : List ActorTransformSample := []
 removedActorIds : List Nat := []

structure RewindQuery where
 actorId : Nat := 0
 serverTick : Nat := 0

structure RewindResult where
 sample : ActorTransformSample := {}
 exactTick : Bool := false

structure StagedInput where
 input : InputCommand := {}
 present : Bool := false

structure ActorState where
 actorId : Nat := 0
 sessionId : Nat := 0
 xMm : Int := 0
 yMm : Int := 0
 yawMdeg : Int := 0
 lastAppliedInputSeq : Nat := 0
 cellX : Int := 0
 cellY : Int := 0
 dirty : Bool := false
 history : List ActorTransformSample := []

structure ViewerState where
 actorId : Option Nat := none
 visibleActorIds : OrderedSet Nat := .empty
 snapshotPending : Bool := false
 lastSnapshotTick : Nat := 0

structure WorldRuntime where
 config : RuntimeConfig
 nextActorId : Nat := 1
 serverTick : Nat := 0
 stagedInputs : Table Nat StagedInput := ∅
 sessionToActor : Table Nat Nat := ∅
 actors : Table Nat ActorState := ∅
 viewers : Table Nat ViewerState := ∅
 removedActorIds : OrderedSet Nat := .empty

def clampI32 (value : Int) : Int :=
 if value < -2147483648 then -2147483648
 else if 2147483647 < value then 2147483647
 else value

def cellCoord (valueMm cellSizeMm : Int) : Int :=
 if cellSizeMm ≤ 0 then 0
 else if 0 ≤ valueMm then i32 (valueMm.tdiv cellSizeMm)
 else i32 (-(i32 ((i32 (i32 (i32 (-valueMm) + cellSizeMm) - 1)).tdiv cellSizeMm)))

variable (config : RuntimeConfig)

def sanitizeConfig : RuntimeConfig :=
 { tickRateHz := if config.tickRateHz = 0 then 30 else config.tickRateHz
   snapshotRefreshTicks := if config.snapshotRefreshTicks = 0 then 30 else config.snapshotRefreshTicks
   interestCellSizeMm := if config.interestCellSizeMm ≤ 0 then 10000 else config.interestCellSizeMm
   interestRadiusCells := if config.interestRadiusCells < 0 then 0 else config.interestRadiusCells
   maxInterestRecipientsPerTick :=
    if config.maxInterestRecipientsPerTick = 0 then 64 else config.maxInterestRecipientsPerTick
   maxDeltaActorsPerTick :=
    if config.maxDeltaActorsPerTick = 0 then 32 else config.maxDeltaActorsPerTick
   historyTicks := if config.historyTicks = 0 then 64 else config.historyTicks }

def WorldRuntime.create : WorldRuntime :=
 { config := sanitizeConfig config }

def updateActorCells (actor : ActorState) : ActorState :=
 { actor with
   cellX := cellCoord actor.xMm config.interestCellSizeMm
   cellY := cellCoord actor.yMm config.interestCellSizeMm }

def ActorState.sample (actor : ActorState) (serverTick : Nat) : ActorTransformSample :=
 { actorId := actor.actorId
   xMm := actor.xMm
   yMm := actor.yMm
   yawMdeg := actor.yawMdeg
   lastAppliedInputSeq := actor.lastAppliedInputSeq
   serverTick := serverTick }

namespace WorldRuntime

variable (runtime : WorldRuntime) (config : RuntimeConfig) (sessionId : Nat) (viewer : ViewerState)
  (viewerActor : ActorState)

def newActor (actorId sessionId : Nat) : ActorState :=
 { updateActorCells config { actorId := actorId, sessionId := sessionId } with dirty := true }

def ensureActorForSession : WorldRuntime × Nat :=
 match runtime.sessionToActor.lookup sessionId with
 | some actorId => (runtime, actorId)
 | none =>
  let actorId := runtime.nextActorId
  let viewer := (runtime.viewers.lookup sessionId).getD {}
  ({ runtime with
     nextActorId := u32 (actorId + 1)
     sessionToActor := AList.insert sessionId actorId runtime.sessionToActor
     actors := runtime.actors.emplace actorId (newActor runtime.config actorId sessionId)
     viewers := AList.insert sessionId { viewer with actorId := some actorId, snapshotPending := true }
      runtime.viewers },
   actorId)

def stageInput (input : InputCommand) : WorldRuntime × StageInputResult :=
 let (runtime, actorId) := runtime.ensureActorForSession sessionId
 let staged := (runtime.stagedInputs.lookup sessionId).getD {}
 -- `staged_inputs_[session_id]` creates the slot even when the input is then refused.
 if staged.present /\ input.inputSeq < staged.input.inputSeq then
  ({ runtime with stagedInputs := AList.insert sessionId staged runtime.stagedInputs },
   { disposition := .rejectedStale
     targetServerTick := u32 (runtime.serverTick + 1)
     actorId := some actorId })
 else
  ({ runtime with
     stagedInputs := AList.insert sessionId { input := input, present := true } runtime.stagedInputs },
   { disposition := .accepted
     targetServerTick := u32 (runtime.serverTick + 1)
     actorId := some actorId })

def removeSession : WorldRuntime :=
 let runtime :=
  { runtime with
    stagedInputs := runtime.stagedInputs.erase sessionId
    viewers := runtime.viewers.erase sessionId }
 match runtime.sessionToActor.lookup sessionId with
 | none => runtime
 | some actorId =>
  { runtime with
    removedActorIds := runtime.removedActorIds.insert actorId
    actors := runtime.actors.erase actorId
    sessionToActor := runtime.sessionToActor.erase sessionId }

def applyInput (staged : Option StagedInput) (actor : ActorState) : ActorState :=
 updateActorCells config <|
  match staged with
  | none => actor
  | some staged =>
   if staged.present /\ actor.lastAppliedInputSeq < staged.input.inputSeq then
    { actor with
      xMm := clampI32 (actor.xMm + staged.input.moveXMm)
      yMm := clampI32 (actor.yMm + staged.input.moveYMm)
      yawMdeg := staged.input.yawMdeg
      lastAppliedInputSeq := staged.input.inputSeq
      dirty := true }
   else actor

def applyInputs : WorldRuntime :=
 { runtime with
   actors := runtime.sessionToActor.entries.foldl
    (fun actors entry => actors.modify entry.2 (applyInput runtime.config (runtime.stagedInputs.lookup entry.1)))
    runtime.actors }

def pushHistory (serverTick : Nat) (actor : ActorState) : ActorState :=
 let history := actor.history ++ [actor.sample serverTick]
 { actor with history := history.drop (history.length - config.historyTicks) }

def recordHistory : WorldRuntime :=
 { runtime with
   actors := runtime.actors.mapValues fun _ => pushHistory runtime.config runtime.serverTick }

def inRange (viewerActor actor : ActorState) : Bool :=
 i32 (i32 (actor.cellX - viewerActor.cellX)).natAbs ≤ config.interestRadiusCells &&
  i32 (i32 (actor.cellY - viewerActor.cellY)).natAbs ≤ config.interestRadiusCells

def interestCandidates : OrderedSet Nat :=
 runtime.actors.entries.foldl
  (fun desired entry =>
    if entry.1 = viewerActor.actorId then desired
    else if inRange runtime.config viewerActor entry.2 then desired.insert entry.1
    else desired)
  (OrderedSet.empty.insert viewerActor.actorId)

def limitInterest (limit self : Nat) (candidates : OrderedSet Nat) : OrderedSet Nat :=
 candidates.toList.foldl
  (fun limited actorId => if limit ≤ limited.size then limited else limited.insert actorId)
  (OrderedSet.empty.insert self)

def desiredVisible : OrderedSet Nat :=
 let candidates := runtime.interestCandidates viewerActor
 if runtime.config.maxInterestRecipientsPerTick < candidates.size then
  limitInterest runtime.config.maxInterestRecipientsPerTick viewerActor.actorId candidates
 else candidates

section

variable (visible desired : OrderedSet Nat)

def removedForViewer : List Nat :=
 runtime.removedActorIds.toList.foldl
  (fun removed actorId => if actorId ∈ visible /\ actorId ∉ removed then removed ++ [actorId] else removed)
  (visible.toList.filter fun actorId => actorId ∉ desired)

def samples (selected : ActorState -> Bool) : List ActorTransformSample :=
 desired.toList.filterMap fun actorId =>
  ((runtime.actors.lookup actorId).filter selected).map fun actor => actor.sample runtime.serverTick

def snapshotDue : Bool :=
 viewer.snapshotPending
  || desired ≠ viewer.visibleActorIds
  || viewer.lastSnapshotTick = 0
  || runtime.config.snapshotRefreshTicks ≤ u32Sub runtime.serverTick viewer.lastSnapshotTick
  || runtime.config.maxDeltaActorsPerTick < (runtime.samples desired fun actor => actor.dirty).length

end

def replicateVisible : ViewerState × Option ReplicationUpdate :=
 let desired := runtime.desiredVisible viewerActor
 let removed := runtime.removedForViewer viewer.visibleActorIds desired
 let dirtySamples := runtime.samples desired fun actor => actor.dirty
 if runtime.snapshotDue viewer desired then
  ({ viewer with
     snapshotPending := false
     lastSnapshotTick := runtime.serverTick
     visibleActorIds := desired },
   some
    { sessionId := sessionId
      kind := .snapshot
      serverTick := runtime.serverTick
      selfActorId := viewerActor.actorId
      actors := runtime.samples desired fun _ => true
      removedActorIds := removed })
 else
  ({ viewer with visibleActorIds := desired },
   if dirtySamples ≠ [] \/ removed ≠ [] then
    some
     { sessionId := sessionId
       kind := .delta
       serverTick := runtime.serverTick
       selfActorId := viewerActor.actorId
       actors := dirtySamples
       removedActorIds := removed }
   else none)

def replicateViewer : ViewerState × Option ReplicationUpdate :=
 match viewer.actorId with
 | none => (viewer, none)
 | some actorId =>
  match runtime.actors.lookup actorId with
  | none => (viewer, none)
  | some viewerActor => runtime.replicateVisible sessionId viewer viewerActor

def replicate : WorldRuntime × List ReplicationUpdate :=
 ({ runtime with
    viewers := runtime.viewers.mapValues fun sessionId viewer => (runtime.replicateViewer sessionId viewer).1 },
  runtime.viewers.entries.filterMap fun entry => (runtime.replicateViewer entry.1 entry.2).2)

def finishTick : WorldRuntime :=
 { runtime with
   actors := runtime.actors.mapValues fun _ actor => { actor with dirty := false }
   removedActorIds := .empty }

def advance : WorldRuntime :=
 { runtime with serverTick := u32 (runtime.serverTick + 1) }.applyInputs.recordHistory

def tick : WorldRuntime × List ReplicationUpdate :=
 let (replicated, outbound) := runtime.advance.replicate
 (replicated.finishTick, outbound)

def rewindAtOrBefore (query : RewindQuery) : Option RewindResult :=
 (runtime.actors.lookup query.actorId).bind fun actor =>
   (actor.history.reverse.find? fun sample => sample.serverTick ≤ query.serverTick).map fun sample =>
     { sample, exactTick := sample.serverTick = query.serverTick }

end WorldRuntime

end Dynaxis.Realtime
