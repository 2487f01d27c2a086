import Dynaxis.Admin.Topology
import Dynaxis.Shared.Revision

namespace Dynaxis.Admin

open Shared Shared.Revision Dynaxis.Worlds Option Register

structure DesiredPut where
 write : DesiredTopologyWriteRequest
 now : Nat := 0

abbrev DesiredRegister := Register DesiredPut DesiredTopologyDocument

def desiredMachine : Machine DesiredRegister (Operation DesiredPut) :=
 machine fun current put => (prepareDesiredTopology put.now current put.write).toOption

def Replaceable (document : DesiredTopologyDocument) : Prop :=
 document.revision + 1 < 18446744073709551616

instance : DecidablePred Replaceable := fun document =>
 inferInstanceAs (Decidable (document.revision + 1 < 18446744073709551616))

/-- The `PUT` named `revision` as the one it expects, and its `GET` found that revision when
the register had taken `version` writes and deletions. -/
def readsExpected (revision version : Nat) (writer : Pending DesiredPut DesiredTopologyDocument) : Bool :=
 writer.request.write.expectedRevision = some revision /\
  (writer.seen.map (·.revision)).getD 0 = revision /\ writer.version = version

theorem prepareDesiredTopology_higher {document next : DesiredTopologyDocument} {put : DesiredPut}
  (replaceable : Replaceable document)
  (done : (prepareDesiredTopology put.now (some document) put.write).toOption = some next) :
  document.revision < next.revision := by
 cases prepared : prepareDesiredTopology put.now (some document) put.write with
 | error refusal => rw [prepared] at done; cases done
 | ok result =>
  rw [prepared] at done
  cases done
  rw [prepareDesiredTopology_ok prepared, map_some, getD_some, u64_of_lt replaceable]
  exact Nat.lt_succ_self _

theorem handleDesiredTopology_put (register : DesiredRegister) (put : DesiredPut) (store : TopologyStore)
  (same : store.desired = register.stored) (next : DesiredTopologyDocument) :
  handleDesiredTopology store { method := .put (.ok put.write), now := put.now } = .ok (.store next) ↔
   ∃ final, desiredMachine.run register [.get put, .set register.pending.length] = some final /\
    final.stored = some next := by
 cases prepared : prepareDesiredTopology put.now register.stored put.write with
 | error refusal =>
  simp [handleDesiredTopology, handleDocument, same, Machine.run, desiredMachine, machine,
   Register.get, Except.toOption, prepared, Except.bind, bind]
 | ok result =>
  simp [handleDesiredTopology, handleDocument, same, Machine.run, desiredMachine, machine,
   Register.get, Register.set, Except.toOption, prepared, Except.bind, bind]

/-- Optimistic concurrency: of the writers that expect one revision and have read it from one
document at most one succeeds, and a revision stands for one content until a deletion. -/
theorem expected_revision_admits_one_put (initial : Option DesiredTopologyDocument)
  (trace : List (Operation DesiredPut)) (final : DesiredRegister)
  (unraced : desiredMachine.Guarded (Register.Unraced Replaceable) (start initial) trace)
  (ran : desiredMachine.run (start initial) trace = some final) :
  (∀ revision version, (final.accepted.filter (readsExpected revision version)).length ≤ 1) /\
    ∀ epoch first second, (epoch, first) ∈ final.written -> (epoch, second) ∈ final.written ->
     first.revision = second.revision -> first = second := by
 have sound := run_sound
  (fun _ _ _ replaceable done => prepareDesiredTopology_higher replaceable done)
  (start_sound initial) unraced ran
 constructor
 · intro revision version
   refine sound.accepted_once _ version fun writer fits => ?_
   exact (of_decide_eq_true fits).2.2
 · intro epoch first second left right same
   exact sound.unambiguous (epoch, first) left (epoch, second) right rfl same

def onePool (topology : String) (replicas : Nat) : DesiredTopologyDocument where
 topologyId := topology.toList
 pools := [{ worldId := "w".toList, shard := "s".toList, replicas }]

def putTopology (topology : String) (replicas : Nat) (expectedRevision : Option Nat) : DesiredPut where
 write := { topology := onePool topology replicas, expectedRevision }

def putsInTurn : List (Operation DesiredPut) :=
 [.get (putTopology "a" 1 none), .set 0, .get (putTopology "b" 2 (some 1)), .set 0,
   -- The third caller expects a revision that is gone and gets no further than its check.
   .get (putTopology "c" 3 (some 1)), .del, .get (putTopology "d" 4 (some 0)), .set 0]

theorem puts_in_turn_admit_one :
  ∃ final, desiredMachine.run (start none) putsInTurn = some final /\
   final.written.map (fun entry => (entry.1, entry.2.revision)) = [(1, 1), (0, 2), (0, 1)] /\
   (∀ revision version, (final.accepted.filter (readsExpected revision version)).length ≤ 1) /\
   ∀ epoch first second, (epoch, first) ∈ final.written -> (epoch, second) ∈ final.written ->
    first.revision = second.revision -> first = second := by
 have stored : ∃ final ∈ desiredMachine.run (start none) putsInTurn,
   final.written.map (fun entry => (entry.1, entry.2.revision)) = [(1, 1), (0, 2), (0, 1)] := by
  decide +kernel
 obtain ⟨final, ran, stored⟩ := desiredMachine.exists_final stored
 exact ⟨final, ran, stored, expected_revision_admits_one_put none putsInTurn final (by decide +kernel) ran⟩

def racingPuts : List (Operation DesiredPut) :=
 [.get (putTopology "a" 1 none), .set 0,
   -- Both callers read revision 1 before either of them writes.
   .get (putTopology "b" 2 (some 1)), .get (putTopology "c" 3 (some 1)), .set 0, .set 0]

theorem racing_puts_both_succeed :
  ∃ final, desiredMachine.run (start none) racingPuts = some final /\
   (final.accepted.filter fun writer => readsExpected 1 1 writer /\ writer.seen.isSome).length = 2 /\
   ∃ first ∈ final.written, ∃ second ∈ final.written,
    first.1 = second.1 /\ first.2.revision = second.2.revision /\ first.2.pools ≠ second.2.pools := by
 exact desiredMachine.exists_final (by decide +kernel)

structure Stored (Document : Type) where
 document : Document
 put : Nat
 deriving DecidableEq

section

variable {Document Basis : Type}

def Change.record (clock : Nat) (stored : Option (Stored Document)) : Change Document -> Option (Stored Document)
 | .keep => stored
 | .store document => some { document, put := clock }
 | .clear => none

def Change.recordBasis (now before : Option Basis) : Change Document -> Option Basis
 | .store _ => now
 | .keep | .clear => before

def changeOf (answer : Except ApiError (Change Document)) : Change Document :=
 match answer with
 | .ok change => change
 | .error _ => .keep

end

structure TopologyHistory where
 clock : Nat := 0
 desired : Option (Stored DesiredTopologyDocument) := none
 request : Option (Stored TopologyActuationRequestDocument) := none
 requestBasis : Option (Stored DesiredTopologyDocument) := none
 execution : Option (Stored TopologyActuationExecutionDocument) := none
 executionBasis : Option (Stored TopologyActuationRequestDocument) := none

inductive TopologyRequest
 | desired (call : TopologyCall DesiredTopologyWriteRequest)
 | request (call : TopologyCall TopologyActuationRequestWriteRequest)
 | execution (call : TopologyCall TopologyActuationExecutionWriteRequest)

namespace TopologyHistory

def store (history : TopologyHistory) : TopologyStore where
 desired := history.desired.map (·.document)
 request := history.request.map (·.document)
 execution := history.execution.map (·.document)

def serve (history : TopologyHistory) : TopologyRequest -> TopologyHistory
 | .desired call =>
  let change := changeOf (handleDesiredTopology history.store call)
  { history with
    clock := history.clock + 1
    desired := change.record history.clock history.desired }
 | .request call =>
  let change := changeOf (handleTopologyActuationRequest history.store call)
  { history with
    clock := history.clock + 1
    request := change.record history.clock history.request
    requestBasis := change.recordBasis history.desired history.requestBasis }
 | .execution call =>
  let change := changeOf (handleTopologyActuationExecution history.store call)
  { history with
    clock := history.clock + 1
    execution := change.record history.clock history.execution
    executionBasis := change.recordBasis history.request history.executionBasis }

def machine : Machine TopologyHistory TopologyRequest where
 step history request := some (history.serve request)

def MayChange {Write Document Dependent : Type} (revision : Document -> Nat)
  (stored : Option (Stored Document)) (dependent : Option (Stored Dependent)) : Method Write -> Prop
 | .get => True
 | .delete => dependent = none
 | .put _ => ∀ current ∈ stored, revision current.document + 1 < 18446744073709551616

def Orderly (history : TopologyHistory) : TopologyRequest -> Prop
 | .desired call => MayChange (·.revision) history.desired history.request call.method
 | .request call => MayChange (·.revision) history.request history.execution call.method
 | .execution _ => True

instance {Write Document Dependent : Type} [DecidableEq Dependent] (revision : Document -> Nat)
  (stored : Option (Stored Document)) (dependent : Option (Stored Dependent)) :
  (method : Method Write) -> Decidable (MayChange revision stored dependent method)
 | .get => isTrue trivial
 | .delete => inferInstanceAs (Decidable (dependent = none))
 | .put _ => inferInstanceAs (Decidable (∀ current ∈ stored, revision current.document + 1 < 18446744073709551616))

instance (history : TopologyHistory) (request : TopologyRequest) : Decidable (history.Orderly request) := by
 cases request <;> dsimp only [Orderly] <;> infer_instance

structure Anchored (history : TopologyHistory) : Prop where
 request : ∀ stored, history.request = some stored ->
  Linked (·.document.revision) stored.document.basisTopologyRevision history.requestBasis history.desired
 execution : ∀ stored, history.execution = some stored ->
  Linked (·.document.revision) stored.document.requestRevision history.executionBasis history.request

variable {Document : Type} {answer : Except ApiError (Change Document)}

theorem changeOf_store {next : Document} (stores : changeOf answer = .store next) : answer = .ok (.store next) := by
 cases answer with
 | error refusal => cases stores
 | ok change => exact congrArg Except.ok stores

theorem changeOf_clear (clears : changeOf answer = .clear) : answer = .ok .clear := by
 cases answer with
 | error refusal => cases clears
 | ok change => exact congrArg Except.ok clears

section

variable {Write Document Base : Type} {revision : Document -> Nat} {stored : Option (Stored Document)} {clock : Nat}

theorem linked_after_request {dependent : Option (Stored Base)} {document : String}
  {call : TopologyCall Write} {prepare : Except ApiError Write -> Except ApiError Document}
  (allowed : MayChange revision stored dependent call.method)
  (counts : ∀ parsed next, prepare parsed = .ok next ->
    revision next = u64 ((stored.map fun current => revision current.document).getD 0 + 1))
  {reference : Nat} {basis : Option (Stored Document)} {present : Stored Base} (depends : dependent = some present)
  (link : Linked (fun current => revision current.document) reference basis stored) :
  Linked (fun current => revision current.document) reference basis
   ((changeOf (handleDocument document call prepare)).record clock stored) := by
 cases change : changeOf (handleDocument document call prepare) with
 | keep => exact link
 | clear =>
  -- The guard keeps a deletion away from a document in use.
  rw [handleDocument_clear (changeOf_clear change)] at allowed
  rw [allowed] at depends
  cases depends
 | store next =>
  obtain ⟨parsed, put, prepared⟩ := handleDocument_store (changeOf_store change)
  rw [put] at allowed
  refine link.replaced fun current present => ?_
  have above := counts parsed next prepared
  rw [present, map_some, getD_some, u64_of_lt (allowed current present)] at above
  exact above ▸ Nat.lt_succ_self _

theorem linked_after_acceptance {base : Base -> Nat} {reference : Document -> Nat}
  {current before : Option (Stored Base)} {change : Change Document} (link : ∀ old, stored = some old ->
    Linked (fun basis => base basis.document) (reference old.document) before current)
  (accepted : ∀ next, change = .store next -> ∃ basis, current = some basis /\ reference next = base basis.document)
  {now : Stored Document} (present : change.record clock stored = some now) :
  Linked (fun basis => base basis.document) (reference now.document)
   (change.recordBasis current before) current := by
 cases change with
 | keep => exact link now present
 | clear => cases present
 | store next =>
  cases present
  obtain ⟨basis, found, named⟩ := accepted next rfl
  exact .accepted found named

end

variable {history : TopologyHistory}

theorem request_accepted {call : TopologyCall TopologyActuationRequestWriteRequest}
  {next : TopologyActuationRequestDocument}
  (stores : changeOf (handleTopologyActuationRequest history.store call) = .store next) :
  ∃ basis, history.desired = some basis /\ next.basisTopologyRevision = basis.document.revision := by
 obtain ⟨parsed, -, prepared⟩ := handleDocument_store (changeOf_store stores)
 obtain ⟨⟨desired, present, named⟩, -⟩ := prepareTopologyActuationRequest_ok prepared
 obtain ⟨basis, found, rfl⟩ := map_eq_some_iff.mp present
 exact ⟨basis, found, named⟩

theorem execution_accepted {call : TopologyCall TopologyActuationExecutionWriteRequest}
  {next : TopologyActuationExecutionDocument}
  (stores : changeOf (handleTopologyActuationExecution history.store call) = .store next) :
  ∃ basis, history.request = some basis /\ next.requestRevision = basis.document.revision := by
 obtain ⟨parsed, -, prepared⟩ := handleDocument_store (changeOf_store stores)
 obtain ⟨request, present, named⟩ := prepareTopologyActuationExecution_ok prepared
 obtain ⟨basis, found, rfl⟩ := map_eq_some_iff.mp present
 exact ⟨basis, found, named⟩

theorem serve_anchored (anchored : history.Anchored) {request : TopologyRequest}
  (orderly : history.Orderly request) : (history.serve request).Anchored := by
 cases request with
 | desired call =>
  -- only the request refers to the desired topology
  refine ⟨fun stored present => ?_, anchored.execution⟩
  refine linked_after_request orderly (fun parsed next prepared => ?_) present (anchored.request stored present)
  obtain ⟨write, -, done⟩ := except_bind_ok prepared
  rw [prepareDesiredTopology_ok done, store, map_map]
  rfl
 | request call =>
  -- the request is anchored anew, and the execution in the request that is now stored
  refine ⟨fun stored present => ?_, fun stored present => ?_⟩
  · exact linked_after_acceptance anchored.request (fun _ => request_accepted) present
  · refine linked_after_request orderly (fun parsed next prepared => ?_) present (anchored.execution stored present)
    rw [(prepareTopologyActuationRequest_ok prepared).2, store, map_map]
    rfl
 | execution call =>
  refine ⟨anchored.request, fun stored present => ?_⟩
  exact linked_after_acceptance anchored.execution (fun _ => execution_accepted) present

theorem run_anchored {trace : List TopologyRequest} {final : TopologyHistory} (anchored : history.Anchored)
  (orderly : machine.Guarded Orderly history trace) (ran : machine.run history trace = some final) :
  final.Anchored :=
 machine.run_invariant
  (fun _ _ _ held allowed taken => some.inj taken ▸ serve_anchored held allowed) anchored orderly ran

theorem start_anchored : Anchored {} where
 request _ impossible := nomatch impossible
 execution _ impossible := nomatch impossible

end TopologyHistory

/-- Revision identity: a status that reports a match compares a document with the one it was
accepted against. -/
theorem matching_revisions_are_one_put (trace : List TopologyRequest) (final : TopologyHistory)
  (orderly : TopologyHistory.machine.Guarded TopologyHistory.Orderly {} trace)
  (ran : TopologyHistory.machine.run {} trace = some final) (observed : List ObservedTopologyPool) :
  ((evaluateTopologyActuationExecutionStatus final.store.execution final.store.request final.store.desired
     observed).summary.executionRevisionMatchesCurrentRequest = true ->
    final.request.isSome /\ final.executionBasis = final.request) /\
  ((evaluateTopologyActuationRequestStatus final.store.request final.store.desired
     observed).summary.basisTopologyRevisionMatchesCurrent = true ->
    final.desired.isSome /\ final.requestBasis = final.desired) := by
 have anchored := TopologyHistory.run_anchored TopologyHistory.start_anchored orderly ran
 rw [evaluateTopologyActuationExecutionStatus_matches, evaluateTopologyActuationRequestStatus_basis]
 constructor
 · rintro ⟨progress, executed, document, requested, same⟩
   obtain ⟨execution, present, rfl⟩ := map_eq_some_iff.mp executed
   obtain ⟨request, stored, rfl⟩ := map_eq_some_iff.mp requested
   refine ⟨isSome_of_eq_some stored, (anchored.execution execution present).eq_of_match fun newer found => ?_⟩
   obtain rfl := some.inj (stored.symm.trans found)
   exact same.symm
 · rintro ⟨document, requested, topology, desired, same⟩
   obtain ⟨request, present, rfl⟩ := map_eq_some_iff.mp requested
   obtain ⟨basis, stored, rfl⟩ := map_eq_some_iff.mp desired
   refine ⟨isSome_of_eq_some stored, (anchored.request request present).eq_of_match fun newer found => ?_⟩
   obtain rfl := some.inj (stored.symm.trans found)
   exact same

namespace TopologyRequest

def declare (topology : String) (replicas : Nat) : TopologyRequest :=
 .desired { method := .put (.ok { topology := onePool topology replicas }) }

def approve (id : String) (basis : Nat) (replicas : Int) : TopologyRequest :=
 .request
  { method := .put (.ok
     { requestDocument :=
        { requestId := id.toList
          basisTopologyRevision := basis
          actions := [{ worldId := "w".toList, shard := "s".toList, action := .scaleOutPool
                        replicaDelta := replicas }] } }) }

def claim (request : Nat) (replicas : Int) : TopologyRequest :=
 .execution
  { method := .put (.ok
     { executionDocument :=
        { executorId := "x".toList
          requestRevision := request
          actions := [{ action := { worldId := "w".toList, shard := "s".toList, action := .scaleOutPool
                                    replicaDelta := replicas } }] } }) }

def deleteDesired : TopologyRequest := .desired { method := .delete }

def deleteRequest : TopologyRequest := .request { method := .delete }

def deleteExecution : TopologyRequest := .execution { method := .delete }

end TopologyRequest

open TopologyRequest

def deletedInOrder : List TopologyRequest :=
 [declare "a" 2, approve "r" 1 2, claim 1 2, deleteExecution, deleteRequest, deleteDesired,
   declare "b" 3, approve "q" 1 3, claim 1 3]

theorem documents_deleted_in_order_match :
  ∃ final, TopologyHistory.machine.run {} deletedInOrder = some final /\
   final.requestBasis = some { document := { onePool "b" 3 with revision := 1 }, put := 6 } /\
   ((evaluateTopologyActuationExecutionStatus final.store.execution final.store.request final.store.desired
      []).summary.executionRevisionMatchesCurrentRequest = true ->
     final.request.isSome /\ final.executionBasis = final.request) /\
   ((evaluateTopologyActuationRequestStatus final.store.request final.store.desired
      []).summary.basisTopologyRevisionMatchesCurrent = true ->
     final.desired.isSome /\ final.requestBasis = final.desired) := by
 have basis : ∃ final ∈ TopologyHistory.machine.run {} deletedInOrder,
   final.requestBasis = some { document := { onePool "b" 3 with revision := 1 }, put := 6 } := by
  decide +kernel
 obtain ⟨final, ran, basis⟩ := TopologyHistory.machine.exists_final basis
 exact ⟨final, ran, basis, matching_revisions_are_one_put deletedInOrder final (by decide +kernel) ran []⟩

def deletedInUse : List TopologyRequest :=
 [declare "a" 2, approve "r" 1 2, claim 1 2, deleteRequest, approve "q" 1 2, deleteDesired, declare "b" 3]

/-- A request and a desired topology are deleted while others refer to them; the next ones
under the keys count from one again, and both statuses report a match. -/
theorem documents_deleted_in_use_match :
  ∃ final, TopologyHistory.machine.run {} deletedInUse = some final /\
   ((evaluateTopologyActuationExecutionStatus final.store.execution final.store.request final.store.desired
      []).summary.executionRevisionMatchesCurrentRequest = true /\
     final.executionBasis.map (·.document.requestId) = some "r".toList /\
     final.request.map (·.document.requestId) = some "q".toList) /\
   ((evaluateTopologyActuationRequestStatus final.store.request final.store.desired
      []).summary.basisTopologyRevisionMatchesCurrent = true /\
     final.requestBasis.map (·.document.topologyId) = some "a".toList /\
     final.desired.map (·.document.topologyId) = some "b".toList) := by
 exact TopologyHistory.machine.exists_final (by decide +kernel)

end Dynaxis.Admin
