import Dynaxis.Chat.Continuity
import Dynaxis.Worlds.Drain

namespace Dynaxis.Chat

open Shared ContinuityStore List Bool

inductive WorldRestore
 | stored
 | migrated
 | fallback

def WorldRestore.metric : WorldRestore -> ContinuityMetric
 | .stored => .worldRestore
 | .migrated => .worldMigrationRestore
 | .fallback => .worldRestoreFallback

def worldMetrics : List ContinuityMetric := [.worldRestore, .worldMigrationRestore, .worldRestoreFallback]

def roomMetrics : List ContinuityMetric :=
 [.worldMigrationPayloadRoomHandoff, .stateRestore, .stateRestoreFallback]

namespace ContinuityStore

variable (runtime : Runtime) (store : ContinuityStore)

def storedWorld (sessionId : String) : Option String := (load runtime store.worlds sessionId).filter (· ≠ "")

def Restorable (world : String) : Prop :=
 store.owner runtime world = some runtime.currentOwnerId /\
  (store.draining runtime world = false \/ store.replacementOwnerMatchesCurrent runtime world = true)

structure MovedHere (world : String) (migration : WorldMigrationEnvelope) : Prop where
 envelope : load runtime store.migrations world = some migration
 draining : store.draining runtime world = true
 targetOwner : migration.targetOwnerInstanceId = runtime.currentOwnerId
 target : runtime.defaultWorldId = migration.targetWorldId \/
  store.owner runtime migration.targetWorldId = some runtime.currentOwnerId

inductive RestoresWorld (sessionId : String) : WorldRestore -> String -> Prop
 | stored {world : String} (found : store.storedWorld runtime sessionId = some world)
  (restorable : store.Restorable runtime world) : RestoresWorld sessionId .stored world
 | migrated {world : String} {migration : WorldMigrationEnvelope}
  (found : store.storedWorld runtime sessionId = some world) (notRestorable : ¬ store.Restorable runtime world)
  (moved : store.MovedHere runtime world migration) :
  RestoresWorld sessionId .migrated migration.targetWorldId
 | fallback
  (neither : ∀ world, store.storedWorld runtime sessionId = some world ->
    ¬ store.Restorable runtime world /\ ∀ migration, ¬ store.MovedHere runtime world migration) :
  RestoresWorld sessionId .fallback runtime.defaultWorldId

variable {runtime store} {world : String}

theorem ownerMatchesCurrent_iff :
  store.ownerMatchesCurrent runtime world = true ↔ store.owner runtime world = some runtime.currentOwnerId := by
 unfold ownerMatchesCurrent
 cases store.owner runtime world <;> simp

theorem restorable_iff : (store.ownerMatchesCurrent runtime world &&
    (!store.draining runtime world || store.replacementOwnerMatchesCurrent runtime world)) = true ↔
    store.Restorable runtime world := by
 rw [and_eq_true, or_eq_true, not_eq_true', ownerMatchesCurrent_iff, Restorable]

structure Counts (restore : WorldRestore) (counted : List ContinuityMetric) : Prop where
 world : counted.filter (· ∈ worldMetrics) = [restore.metric]
 room : counted.filter (· ∈ roomMetrics) = []

theorem counts_fallbackMetrics (runtime : Runtime) (store : ContinuityStore) (world : String) :
  Counts .fallback (store.fallbackMetrics runtime world) := by
 unfold fallbackMetrics
 split_ifs <;> exact ⟨rfl, rfl⟩

theorem counts_refused {reason : ContinuityMetric} (other : reason ∉ worldMetrics /\ reason ∉ roomMetrics)
  (world : String) :
  Counts .fallback (.worldMigrationRestoreFallback :: reason :: store.fallbackMetrics runtime world) := by
 obtain ⟨counts, none⟩ := counts_fallbackMetrics runtime store world
 constructor
 · rw [filter_cons_of_neg (by decide), filter_cons_of_neg (by simpa using other.1), counts]
 · rw [filter_cons_of_neg (by decide), filter_cons_of_neg (by simpa using other.2), none]

theorem counts_handoff (migration : WorldMigrationEnvelope) :
  Counts .migrated (handoffMetrics migration ++ [.worldMigrationRestore]) := by
 unfold handoffMetrics
 split_ifs <;> exact ⟨rfl, rfl⟩

variable (runtime : Runtime) (store : ContinuityStore) (restored : RestoredWorld) (sessionId : String)

theorem restoreWorldCounted_spec :
  ∃ restore, store.RestoresWorld runtime sessionId restore (store.restoreWorldCounted runtime sessionId).1.worldId /\
   Counts restore (store.restoreWorldCounted runtime sessionId).2 /\
   (restore = .fallback -> (store.restoreWorldCounted runtime sessionId).1.worldRestoreOk = false) := by
 -- a session has at most one stored world, so refusing that one is enough for the fallback
 have refuse {world : String} (found : store.storedWorld runtime sessionId = some world)
   (notRestorable : ¬ store.Restorable runtime world)
   (notMoved : ∀ migration, ¬ store.MovedHere runtime world migration) :
   store.RestoresWorld runtime sessionId .fallback runtime.defaultWorldId := by
  refine .fallback fun other present => ?_
  cases found.symm.trans present
  exact ⟨notRestorable, notMoved⟩
 unfold restoreWorldCounted
 split
 next none =>
  refine ⟨.fallback, .fallback fun world present => ?_, ⟨rfl, rfl⟩, fun _ => rfl⟩
  cases none.symm.trans present
 next world found =>
  split
  next restorable =>
   exact ⟨.stored, .stored found (restorable_iff.mp restorable), ⟨rfl, rfl⟩, fun same => nomatch same⟩
  next notRestorable =>
   have kept : ¬ store.Restorable runtime world := fun restorable => notRestorable (restorable_iff.mpr restorable)
   split
   next absent =>
    refine ⟨.fallback, refuse found kept fun migration moved => ?_,
     counts_fallbackMetrics runtime store world, fun _ => rfl⟩
    cases absent.symm.trans moved.envelope
   next migration present =>
    dsimp only
    -- the three refusals of an envelope, then the move
    split_ifs with notDraining otherOwner elsewhere
    · refine ⟨.fallback, refuse found kept fun other moved => ?_, counts_refused (by decide) world, fun _ => rfl⟩
      rw [moved.draining] at notDraining
      cases notDraining
    · refine ⟨.fallback, refuse found kept fun other moved => ?_, counts_refused (by decide) world, fun _ => rfl⟩
      cases present.symm.trans moved.envelope
      exact otherOwner moved.targetOwner
    · refine ⟨.fallback, refuse found kept fun other moved => ?_, counts_refused (by decide) world, fun _ => rfl⟩
      cases present.symm.trans moved.envelope
      obtain hosted | owned := moved.target
      · exact elsewhere.1 hosted
      · rw [ownerMatchesCurrent_iff.mpr owned] at elsewhere
        cases elsewhere.2
    · refine ⟨.migrated, .migrated found kept ⟨present, ?_, not_not.mp otherOwner, ?_⟩, counts_handoff migration,
       fun same => nomatch same⟩
      · simpa using notDraining
      · by_cases hosted : runtime.defaultWorldId = migration.targetWorldId
        · exact .inl hosted
        · refine .inr (ownerMatchesCurrent_iff.mp (eq_true_of_not_eq_false fun other => ?_))
          exact elsewhere ⟨hosted, other⟩

theorem restoreRoomCounted_spec :
  (store.restoreRoomCounted runtime restored sessionId).2 ∈ roomMetrics /\
    (store.restoreRoomCounted runtime restored sessionId).2 ∉ worldMetrics /\
    ((store.restoreRoomCounted runtime restored sessionId).1 ≠ "lobby" -> restored.worldRestoreOk = true) := by
 unfold restoreRoomCounted
 cases restored.worldRestoreOk with
 | false =>
  dsimp only
  exact ⟨by decide, by decide, fun other => absurd rfl other⟩
 | true =>
  refine ⟨?_, ?_, fun _ => rfl⟩
  all_goals
   dsimp only
   repeat' split
   all_goals
    dsimp only
    decide

end ContinuityStore

def WorldMigrationEnvelope.observed (migration : WorldMigrationEnvelope) : Worlds.WorldMigrationEnvelope where
 targetWorldId := migration.targetWorldId.toList
 targetOwnerInstanceId := migration.targetOwnerInstanceId.toList
 preserveRoom := migration.preserveRoom
 payloadKind := migration.payloadKind.toList
 payloadRef := migration.payloadRef.toList

theorem draining_of_readyToResume {source : Worlds.ObservedWorldMigrationWorld}
  {envelope : Option Worlds.WorldMigrationEnvelope} {target : Option Worlds.ObservedWorldMigrationWorld}
  (ready : (Worlds.evaluateWorldMigration source envelope target).phase = .readyToResume) :
  source.draining = true := by
 have evaluated := (Worlds.WorldMigrationInput.evaluate_ready { sourceWorld := source, envelope, targetWorld := target }).mp
  ready
 obtain ⟨_, _, draining, _⟩ := evaluated
 exact draining

theorem tryResumeContinuityLeaseCounted_some {runtime : Runtime} {store : ContinuityStore} {now : Nat}
  {databaseFails : Bool} {token : String} {lease : ContinuityLease} {counted : List ContinuityMetric}
  (resumed : tryResumeContinuityLeaseCounted runtime store now databaseFails token = (some lease, counted)) :
  let world := store.restoreWorldCounted runtime lease.logicalSessionId
  let room := store.restoreRoomCounted runtime world.1 lease.logicalSessionId
  lease.worldId = world.1.worldId /\ lease.room = room.1 /\ counted = world.2 ++ [room.2, .leaseResume] := by
 unfold tryResumeContinuityLeaseCounted at resumed
 split at resumed
 · cases resumed
 · split at resumed
   · cases resumed
   · dsimp only at resumed
     split at resumed
     · cases resumed
     · split at resumed
       · cases resumed
       · split at resumed
         · cases resumed
         · split at resumed
           · cases resumed
           · split at resumed
             · cases resumed
             · cases resumed
               exact ⟨rfl, rfl, rfl⟩

/-- A resume returns the stored world, the one it was moved to or the default world, each in its case, and
increments one counter for the world and one for the room. -/
theorem resume_restores_the_right_world (runtime : Runtime) (store : ContinuityStore) (now : Nat)
  (databaseFails : Bool) (token : String) (lease : ContinuityLease) (counted : List ContinuityMetric)
  (resumed : tryResumeContinuityLeaseCounted runtime store now databaseFails token = (some lease, counted)) :
  (∃ restore, store.RestoresWorld runtime lease.logicalSessionId restore lease.worldId /\
    (lease.room ≠ "lobby" -> restore ≠ .fallback) /\
    counted.filter (· ∈ worldMetrics) = [restore.metric]) /\
  (∃ metric, counted.filter (· ∈ roomMetrics) = [metric]) /\
  ∀ world migration source target, store.storedWorld runtime lease.logicalSessionId = some world ->
   ¬ store.Restorable runtime world ->
   load runtime store.migrations world = some migration ->
   source.draining = store.draining runtime world ->
   (Worlds.evaluateWorldMigration source (some migration.observed) target).phase = .readyToResume ->
   migration.targetOwnerInstanceId = runtime.currentOwnerId ->
   migration.targetWorldId = runtime.defaultWorldId -> lease.worldId = migration.targetWorldId := by
 obtain ⟨world, room, metrics⟩ := tryResumeContinuityLeaseCounted_some resumed
 obtain ⟨restore, restores, counts, fallback⟩ :=
  restoreWorldCounted_spec runtime store lease.logicalSessionId
 obtain ⟨roomMetric, otherMetric, restored⟩ := restoreRoomCounted_spec runtime store
  (store.restoreWorldCounted runtime lease.logicalSessionId).1 lease.logicalSessionId
 rw [<- world] at restores
 refine ⟨⟨restore, restores, ?_, ?_⟩, ?_, ?_⟩
 · intro notLobby same
   rw [room] at notLobby
   exact Bool.noConfusion ((fallback same).symm.trans (restored notLobby))
 · rw [metrics, filter_append, counts.world, filter_cons_of_neg (by simpa using otherMetric)]
   rfl
 · rw [metrics, filter_append, counts.room, filter_cons_of_pos (by simpa using roomMetric)]
   exact ⟨_, rfl⟩
 · intro stored migration source target found notRestorable envelope sameDraining ready owner hosts
   have moved : store.MovedHere runtime stored migration :=
    ⟨envelope, sameDraining.symm.trans (draining_of_readyToResume ready), owner, .inl hosts.symm⟩
   generalize lease.worldId = restoredWorld at restores
   cases restores with
   | stored other restorable =>
    cases found.symm.trans other
    exact absurd restorable notRestorable
   | migrated other _ otherMoved =>
    cases found.symm.trans other
    cases envelope.symm.trans otherMoved.envelope
    rfl
   | fallback neither => exact absurd moved ((neither stored found).2 migration)

def movedStore : ContinuityStore :=
 { empty with
   sessions := [{ id := "s1", userId := "id:alice", tokenHash := Runtime.connected.sha256Hex "token", expiresAtMs := 2000, revoked := false }]
   worlds := (∅ : Table String String).insert "s1" "w1"
   worldOwners := (∅ : Table String String).insert "w1" "server-2"
   rooms := (∅ : Table String String).insert "s1" "den"
   policies := (∅ : Table String WorldLifecyclePolicy).insert "w1"
    { draining := true, replacementOwnerInstanceId := "server-2" }
   migrations := (∅ : Table String WorldMigrationEnvelope).insert "w1"
    { targetWorldId := "default", targetOwnerInstanceId := "server-1", preserveRoom := true
      payloadKind := "", payloadRef := "" } }

theorem moved_session_keeps_its_room :
  ∃ lease counted, tryResumeContinuityLeaseCounted Runtime.connected movedStore 1000 false "resume:token" =
   (some lease, counted) /\ lease.room = "den" /\
   ∃ restore, movedStore.RestoresWorld Runtime.connected lease.logicalSessionId restore lease.worldId /\
    restore ≠ .fallback := by
 obtain ⟨lease, found, room⟩ :
   ∃ lease ∈ (tryResumeContinuityLeaseCounted Runtime.connected movedStore 1000 false "resume:token").1,
    lease.room = "den" := by
  decide +kernel
 refine ⟨lease, _, Prod.ext found rfl, room, ?_⟩
 obtain ⟨⟨restore, restores, notFallback, -⟩, -⟩ := resume_restores_the_right_world Runtime.connected movedStore 1000
  false "resume:token" lease _ (Prod.ext found rfl)
 refine ⟨restore, restores, notFallback ?_⟩
 rw [room]
 decide

end Dynaxis.Chat
