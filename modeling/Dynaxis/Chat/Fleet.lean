import Dynaxis.Chat.Resume
import Dynaxis.Shared.ExpiringStore

namespace Dynaxis.Chat

open Shared List ContinuityStore Nat

structure LeaseStore where
 sessions : List SessionRow := []
 worlds : ExpiringStore String String := ∅
 worldOwners : ExpiringStore String String := ∅
 rooms : ExpiringStore String String := ∅
 policies : Table String WorldLifecyclePolicy := ∅
 migrations : Table String WorldMigrationEnvelope := ∅

namespace LeaseStore

def live (store : LeaseStore) (now : Nat) : ContinuityStore where
 sessions := store.sessions
 worlds := store.worlds.live now
 worldOwners := store.worldOwners.live now
 rooms := store.rooms.live now
 policies := store.policies
 migrations := store.migrations

-- A lease lasts for an `unsigned int` of seconds at most, so the cast of the quotient is exact.
def ttlSec (expiresUnixMs now : Nat) : Nat := max 1 ((expiresUnixMs - now + 999) / 1000)

def persist (runtime : Runtime) (now : Nat) (table : ExpiringStore String String)
  (id value : String) (expiresUnixMs : Nat) : ExpiringStore String String :=
 if runtime.redis = false \/ id = "" \/ value = "" \/ expiresUnixMs = 0 then table
 else if expiresUnixMs ≤ now then table.erase id
 else table.setEx now id value (1000 * ttlSec expiresUnixMs now)

end LeaseStore

inductive LeaseWrite
 | insertRow (row : SessionRow)
 | persistWorld (logicalSessionId worldId : String) (expiresUnixMs : Nat)
 | persistWorldOwner (worldId ownerId : String) (expiresUnixMs : Nat)
 | persistRoom (logicalSessionId room : String) (expiresUnixMs : Nat)

section

variable (store : LeaseStore) (runtime : Runtime) (now : Nat)

def LeaseStore.write : LeaseWrite -> Option LeaseStore
 | .insertRow row =>
  if store.sessions.any fun other => other.id = row.id \/ other.tokenHash = row.tokenHash then none
  else some { store with sessions := row :: store.sessions }
 | .persistWorld logicalSessionId worldId expiresUnixMs =>
  some { store with worlds := persist runtime now store.worlds logicalSessionId worldId expiresUnixMs }
 | .persistWorldOwner worldId ownerId expiresUnixMs =>
  some { store with worldOwners := persist runtime now store.worldOwners worldId ownerId expiresUnixMs }
 | .persistRoom logicalSessionId room expiresUnixMs =>
  some { store with rooms := persist runtime now store.rooms logicalSessionId room expiresUnixMs }

def persistWrites (logicalSessionId worldId room : String) (expiresUnixMs : Nat) :
  List LeaseWrite :=
 [.persistWorld logicalSessionId worldId expiresUnixMs, .persistWorldOwner worldId runtime.currentOwnerId expiresUnixMs,
   .persistRoom logicalSessionId room expiresUnixMs]

def loginWrites (rowId rawToken userId effectiveUser : String) : List LeaseWrite :=
 let tokenHash := runtime.sha256Hex rawToken
 if runtime.continuityOn = false \/ userId = "" \/ effectiveUser = "" \/ tokenHash = "" then []
 else
  let expiresAtMs := now + runtime.leaseTtlSec * 1000
  let persisted := persistWrites runtime rowId runtime.defaultWorldId "lobby" expiresAtMs
  .insertRow { id := rowId, userId, tokenHash, expiresAtMs, revoked := false } :: persisted ++ persisted

def resumeWrites (store : LeaseStore) (now : Nat) (token : String) : List LeaseWrite :=
 match tryResumeContinuityLease runtime (store.live now) now false token with
 | none => []
 | some lease =>
  let worldId := if lease.worldId = "" then runtime.defaultWorldId else lease.worldId
  let room := if lease.room = "" then "lobby" else lease.room
  let persisted := persistWrites runtime lease.logicalSessionId worldId room lease.expiresUnixMs
  persisted ++ persisted

end

structure Fleet (Server : Type) where
 now : Nat := 0
 store : LeaseStore := {}
 running : List (Server × List LeaseWrite) := []

inductive FleetEvent (Server : Type)
 | pass (milliseconds : Nat)
 | login (server : Server) (rowId rawToken userId effectiveUser : String)
 | resume (server : Server) (token : String)
 | moveTo (server : Server) (logicalSessionId room : String) (expiresUnixMs : Nat)
 | proceed (handler : Nat)

namespace Fleet

variable {Server : Type} (runtimes : Server -> Runtime)

def pending (fleet : Fleet Server) : FleetEvent Server -> Option (Server × LeaseWrite)
 | .proceed handler =>
  (fleet.running[handler]?).bind fun running => running.2.head?.map fun write => (running.1, write)
 | _ => none

def step (fleet : Fleet Server) : FleetEvent Server -> Option (Fleet Server)
 | .pass milliseconds => some { fleet with now := fleet.now + milliseconds }
 | .login server rowId rawToken userId effectiveUser =>
  some { fleet with
   running := fleet.running ++
    [(server, loginWrites (runtimes server) fleet.now rowId rawToken userId effectiveUser)] }
 | .resume server token =>
  some { fleet with
   running := fleet.running ++ [(server, resumeWrites (runtimes server) fleet.store fleet.now token)] }
 | .moveTo server logicalSessionId room expiresUnixMs =>
  some { fleet with
   running := fleet.running ++ [(server, [.persistRoom logicalSessionId room expiresUnixMs])] }
 | .proceed handler =>
  match fleet.running[handler]? with
  | some (server, write :: rest) =>
   match fleet.store.write (runtimes server) fleet.now write with
   -- the exception ends the issue of the lease, and nothing is persisted
   | none => some { fleet with running := fleet.running.set handler (server, []) }
   | some store => some { fleet with store, running := fleet.running.set handler (server, rest) }
  | _ => none

def machine : Machine (Fleet Server) (FleetEvent Server) := { step := step runtimes }

end Fleet

@[mk_iff]
structure Leased (runtime : Runtime) (token : String) (row : SessionRow) (world room : String)
  (store : LeaseStore) : Prop where
 enabled : runtime.continuityOn = true /\ runtime.redis = true
 hashed : ∃ rawToken ∈ extractResumeToken token, runtime.sha256Hex rawToken = row.tokenHash
 known : ∃ name ∈ runtime.users.findById row.userId, name ≠ ""
 named : row.tokenHash ≠ "" /\ row.id ≠ "" /\ world ≠ "" /\ room ≠ "" /\ runtime.currentOwnerId ≠ ""
 found : store.sessions.find? (fun other => other.tokenHash = row.tokenHash) = some row
 valid : row.revoked = false
 worldKey : store.worlds.LastsUntil row.id world row.expiresAtMs
 roomKey : store.rooms.LastsUntil row.id room row.expiresAtMs

instance (runtime : Runtime) (token : String) (row : SessionRow) (world room : String) (store : LeaseStore) :
  Decidable (Leased runtime token row world room store) :=
 decidable_of_iff _ (leased_iff ..).symm

def LeaseWrite.leavesAlone (logicalSessionId : String) : LeaseWrite -> Bool
 | .persistWorld other _ _ | .persistRoom other _ _ => other ≠ logicalSessionId
 | .insertRow _ | .persistWorldOwner _ _ _ => true

section

variable {Server : Type} (world ownerId : String) (time : Nat)

def LeaseWrite.keepsOwner : LeaseWrite -> Bool
 | .persistWorldOwner other newOwnerId expiresUnixMs => other ≠ world || (newOwnerId = ownerId && time ≤ expiresUnixMs)
 | .insertRow _ | .persistWorld _ _ _ | .persistRoom _ _ _ => true

abbrev Untouched (logicalSessionId : String) (fleet : Fleet Server) (event : FleetEvent Server) : Prop :=
 ∀ pending ∈ fleet.pending event, pending.2.leavesAlone logicalSessionId = true

abbrev OwnerKept (fleet : Fleet Server) (event : FleetEvent Server) : Prop :=
 ∀ pending ∈ fleet.pending event, pending.2.keepsOwner world ownerId time = true

end

structure Resumable (row : SessionRow) (world room ownerId : String) (store : LeaseStore) : Prop where
 found : store.sessions.find? (fun other => other.tokenHash = row.tokenHash) = some row
 worldKey : store.worlds.LastsUntil row.id world row.expiresAtMs
 roomKey : store.rooms.LastsUntil row.id room row.expiresAtMs
 ownerKey : store.worldOwners.LastsUntil world ownerId row.expiresAtMs
 noPolicy : store.policies.lookup world = none

section

variable {runtime : Runtime} {now time : Nat} {table : ExpiringStore String String} {id key value : String}
 {row : SessionRow} {world room ownerId : String} {store after : LeaseStore} {write : LeaseWrite}
  {expiresUnixMs : Nat}

theorem le_ttlSec : expiresUnixMs ≤ now + 1000 * LeaseStore.ttlSec expiresUnixMs now := by
 unfold LeaseStore.ttlSec
 omega

theorem lastsUntil_persist_other {written : String} (lasts : table.LastsUntil id value time)
  (other : id ≠ key) : (LeaseStore.persist runtime now table key written expiresUnixMs).LastsUntil id value time := by
 refine lasts.of_lookup ?_
 unfold LeaseStore.persist
 split_ifs
 · rfl
 · rw [Table.lookup_erase_ite, if_neg other]
 · rw [ExpiringStore.setEx, Table.lookup_insert_ite, if_neg other]

theorem lastsUntil_persist_same (lasts : table.LastsUntil id value time)
  (longer : time ≤ expiresUnixMs) (early : now < time) :
  (LeaseStore.persist runtime now table id value expiresUnixMs).LastsUntil id value time := by
 unfold LeaseStore.persist
 split_ifs with skipped past
 · exact lasts
 · omega
 · exact .setEx (longer.trans le_ttlSec)

theorem Resumable.of_write (resumable : Resumable row world room ownerId store) (early : now < row.expiresAtMs)
  (alone : write.leavesAlone row.id = true) (owner : write.keepsOwner world ownerId row.expiresAtMs = true)
  (written : store.write runtime now write = some after) : Resumable row world room ownerId after := by
 cases write with
 | insertRow added =>
  simp only [LeaseStore.write] at written
  split at written
  · cases written
  next fresh =>
   cases written
   refine { resumable with found := ?_ }
   have member := mem_of_find?_eq_some resumable.found
   have other : added.tokenHash ≠ row.tokenHash := by
    intro same
    exact fresh (any_eq_true.mpr ⟨row, member, decide_eq_true (.inr same.symm)⟩)
   rw [find?_cons_of_neg (by simpa using other)]
   exact resumable.found
 | persistWorld logicalSessionId worldId expiresUnixMs =>
  cases written
  have other : row.id ≠ logicalSessionId := Ne.symm (of_decide_eq_true alone)
  exact { resumable with worldKey := lastsUntil_persist_other resumable.worldKey other }
 | persistRoom logicalSessionId joined expiresUnixMs =>
  cases written
  have other : row.id ≠ logicalSessionId := Ne.symm (of_decide_eq_true alone)
  exact { resumable with roomKey := lastsUntil_persist_other resumable.roomKey other }
 | persistWorldOwner worldId newOwnerId expiresUnixMs =>
  cases written
  by_cases same : worldId = world
  · simp only [LeaseWrite.keepsOwner, same, ne_eq, not_true_eq_false, decide_false, Bool.false_or,
     Bool.and_eq_true, decide_eq_true_eq] at owner
    obtain ⟨rfl, longer⟩ := owner
    subst same
    exact { resumable with ownerKey := lastsUntil_persist_same resumable.ownerKey longer early }
  · exact { resumable with ownerKey := lastsUntil_persist_other resumable.ownerKey (Ne.symm same) }

end

section

variable {Server : Type} {runtimes : Server -> Runtime} {fleet next : Fleet Server}
 {event : FleetEvent Server} {row : SessionRow} {world room ownerId : String}

theorem fleet_step_cases (taken : fleet.step runtimes event = some next) :
  (fleet.now ≤ next.now /\ next.store = fleet.store) \/
    ∃ server write, fleet.pending event = some (server, write) /\ next.now = fleet.now /\
     fleet.store.write (runtimes server) fleet.now write = some next.store := by
 cases event with
 | pass milliseconds =>
  cases taken
  exact .inl ⟨le_add_right _ _, rfl⟩
 | login server rowId rawToken userId effectiveUser | resume server token
 | moveTo server logicalSessionId room expiresUnixMs =>
  cases taken
  exact .inl ⟨le_refl _, rfl⟩
 | proceed handler =>
  simp only [Fleet.step] at taken
  split at taken
  next server write rest found =>
   split at taken
   · cases taken
     exact .inl ⟨le_refl _, rfl⟩
   next store written =>
    cases taken
    refine .inr ⟨server, write, ?_, rfl, written⟩
    simp [Fleet.pending, found]
  · cases taken

theorem resumable_step (resumable : fleet.now < row.expiresAtMs -> Resumable row world room ownerId fleet.store)
  (untouched : Untouched row.id fleet event) (ownerKept : OwnerKept world ownerId row.expiresAtMs fleet event)
  (taken : fleet.step runtimes event = some next) :
  next.now < row.expiresAtMs -> Resumable row world room ownerId next.store := by
 intro early
 obtain ⟨later, same⟩ | ⟨server, write, pending, sameTime, written⟩ := fleet_step_cases taken
 · rw [same]
   exact resumable (lt_of_le_of_lt later early)
 · rw [sameTime] at early
   exact (resumable early).of_write early (untouched _ pending) (ownerKept _ pending) written

end

section

variable {runtime : Runtime} {token : String} {row : SessionRow} {world room : String}
 {store after : LeaseStore} {now : Nat}

theorem load_live {table : ExpiringStore String String} {id value : String} {time : Nat}
  (redis : runtime.redis = true) (named : id ≠ "") (lasts : table.LastsUntil id value time) (early : now < time) :
  load runtime (table.live now) id = some value := by
 simp [load, redis, named, ExpiringStore.lookup_live, lasts.get early]

theorem Resumable.restoreWorld (resumable : Resumable row world room runtime.currentOwnerId store)
  (leased : Leased runtime token row world room after) (early : now < row.expiresAtMs) :
  (store.live now).restoreWorld runtime row.id =
    { worldId := world, worldRestoreOk := true, preserveRoomOnRestore := true, migrationPayloadRoom := none } := by
 obtain ⟨-, idNamed, worldNamed, -, ownerNamed⟩ := leased.named
 have redis := leased.enabled.2
 have stored : load runtime (store.live now).worlds row.id = some world :=
  load_live redis idNamed resumable.worldKey early
 have owned : load runtime (store.live now).worldOwners world = some runtime.currentOwnerId :=
  load_live redis worldNamed resumable.ownerKey early
 have policy : load runtime (store.live now).policies world = none := by
  simp [load, LeaseStore.live, resumable.noPolicy]
 simp [ContinuityStore.restoreWorld, restoreWorldCounted, Option.filter, ownerMatchesCurrent, owner,
  draining, stored,
  owned, policy, worldNamed, ownerNamed]

theorem Resumable.resumes (resumable : Resumable row world room runtime.currentOwnerId store)
  (leased : Leased runtime token row world room after) (early : now < row.expiresAtMs) :
  ∃ lease, tryResumeContinuityLease runtime (store.live now) now false token = some lease /\
   lease.logicalSessionId = row.id /\ lease.worldId = world /\ lease.room = room := by
 obtain ⟨rawToken, extracted, hashed⟩ := leased.hashed
 obtain ⟨name, known, nonempty⟩ := leased.known
 obtain ⟨hashNamed, idNamed, -, roomNamed, -⟩ := leased.named
 have found : (store.live now).findByTokenHash row.tokenHash = some row := resumable.found
 have stored : load runtime (store.live now).rooms row.id = some room :=
  load_live leased.enabled.2 idNamed resumable.roomKey early
 have restored := resumable.restoreWorld leased early
 have restoredRoom : (store.live now).restoreRoom runtime ((store.live now).restoreWorld runtime row.id) row.id =
   room := by
  simp [restored, restoreRoom, restoreRoomCounted, Option.filter, stored, roomNamed]
 let lease : ContinuityLease :=
  { logicalSessionId := row.id, resumeToken := rawToken, userId := row.userId, effectiveUser := name
    worldId := world, room, expiresUnixMs := row.expiresAtMs, resumed := true }
 refine ⟨lease, ?_, rfl, rfl, rfl⟩
 unfold tryResumeContinuityLease tryResumeContinuityLeaseCounted
 rw [if_neg (by simp [leased.enabled.1]), (extracted : extractResumeToken token = some rawToken)]
 dsimp only
 rw [hashed, if_neg (by simp [hashNamed]), found]
 dsimp only
 rw [if_neg (by simp [leased.valid, early]), (known : runtime.users.findById row.userId = some name)]
 dsimp only
 rw [if_neg nonempty]
 rw [ContinuityStore.restoreWorld] at restored restoredRoom
 rw [restoreRoom] at restoredRoom
 simp only [restoredRoom]
 rw [restored]

end

/-- A lease in order, then any steps on all servers that leave its own keys alone and keep the owner key of
its world: a resume in time restores the world and the room. -/
theorem lease_survives_other_logins {Server : Type} (runtimes : Server -> Runtime) (server : Server)
  (token : String)
  (row : SessionRow) (world room : String) (start final : Fleet Server) (events : List (FleetEvent Server))
  (leased : Leased (runtimes server) token row world room start.store)
  (noPolicy : start.store.policies.lookup world = none)
  (owned : start.store.worldOwners.LastsUntil world (runtimes server).currentOwnerId row.expiresAtMs)
  (untouched : (Fleet.machine runtimes).Guarded (Untouched row.id) start events)
  (ownerKept : (Fleet.machine runtimes).Guarded
    (OwnerKept world (runtimes server).currentOwnerId row.expiresAtMs) start events)
  (ran : (Fleet.machine runtimes).run start events = some final) (early : final.now < row.expiresAtMs) :
  ∃ lease, tryResumeContinuityLease (runtimes server) (final.store.live final.now) final.now false token =
   some lease /\ lease.logicalSessionId = row.id /\ lease.worldId = world /\ lease.room = room := by
 have resumable : Resumable row world room (runtimes server).currentOwnerId final.store :=
  (Fleet.machine runtimes).run_invariant
    (fun _ _ _ holds allowed taken => resumable_step holds allowed.1 allowed.2 taken)
    (fun _ => ⟨leased.found, leased.worldKey, leased.roomKey, owned, noPolicy⟩)
    ((Fleet.machine runtimes).guarded_and untouched ownerKept) ran early
 exact resumable.resumes leased early

def twoServers (second : Bool) : Runtime :=
 { Runtime.connected with currentOwnerId := if second then "server-2" else "server-1" }

def aliceRow : SessionRow :=
 { id := "s1", userId := "id:alice", tokenHash := Runtime.connected.sha256Hex "token"
   expiresAtMs := 900000, revoked := false }

def aliceArrives : List (FleetEvent Bool) :=
 .login false "s1" "token" "id:alice" "alice" :: replicate 7 (.proceed 0) ++
  [.moveTo false "s1" "den" 900000, .proceed 1]

def bobArrives (server : Bool) : List (FleetEvent Bool) :=
 .pass 1000 :: .login server "s2" "other token" "id:bob" "bob" :: replicate 7 (.proceed 2)

theorem lease_survives_a_login_on_the_same_server :
  ∃ start, (Fleet.machine twoServers).run {} aliceArrives = some start /\
   ∃ final, (Fleet.machine twoServers).run start (bobArrives false) = some final /\
    ∃ lease, tryResumeContinuityLease (twoServers false) (final.store.live final.now) final.now false
     "resume:token" = some lease /\ lease.room = "den" := by
 obtain ⟨start, reached, leased, noPolicy, owned, untouched, ownerKept, runs⟩ :
   ∃ start, (Fleet.machine twoServers).run {} aliceArrives = some start /\
    Leased (twoServers false) "resume:token" aliceRow "default" "den" start.store /\
    start.store.policies.lookup "default" = none /\
    start.store.worldOwners.LastsUntil "default" "server-1" aliceRow.expiresAtMs /\
    (Fleet.machine twoServers).Guarded (Untouched aliceRow.id) start (bobArrives false) /\
    (Fleet.machine twoServers).Guarded (OwnerKept "default" "server-1" aliceRow.expiresAtMs) start
      (bobArrives false) /\
    ∃ final ∈ (Fleet.machine twoServers).run start (bobArrives false), final.now < aliceRow.expiresAtMs :=
  (Fleet.machine twoServers).exists_final (by decide +kernel)
 obtain ⟨final, ran, early⟩ := runs
 obtain ⟨lease, resumed, -, -, room⟩ := lease_survives_other_logins twoServers false "resume:token" aliceRow "default"
  "den" start final (bobArrives false) leased noPolicy owned untouched ownerKept ran early
 exact ⟨start, reached, final, ran, lease, resumed, room⟩

theorem lease_is_lost_to_a_login_on_another_server :
  ∃ start, (Fleet.machine twoServers).run {} aliceArrives = some start /\
   Leased (twoServers false) "resume:token" aliceRow "default" "den" start.store /\
   (start.store.policies.lookup "default" = none /\ start.store.migrations.lookup "default" = none) /\
   (Fleet.machine twoServers).Guarded (Untouched aliceRow.id) start (bobArrives true) /\
   ∃ final ∈ (Fleet.machine twoServers).run start (bobArrives true), final.now < aliceRow.expiresAtMs /\
    ∃ lease ∈ tryResumeContinuityLease (twoServers false) (final.store.live final.now) final.now false
     "resume:token", lease.room = "lobby" :=
 (Fleet.machine twoServers).exists_final (by decide +kernel)

end Dynaxis.Chat
