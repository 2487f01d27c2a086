import Dynaxis.Chat.State

/-! The sessions table and the Redis keys under the continuity prefix, `SETEX` and `GET` as map operations. -/

namespace Dynaxis.Chat

open Shared

structure ContinuityLease where
 logicalSessionId : String
 resumeToken : String
 userId : String
 effectiveUser : String
 worldId : String
 room : String
 expiresUnixMs : Nat
 resumed : Bool

structure SessionRow where
 id : String
 userId : String
 tokenHash : String
 expiresAtMs : Nat
 revoked : Bool
 deriving DecidableEq

structure WorldLifecyclePolicy where
 draining : Bool
 replacementOwnerInstanceId : String

structure WorldMigrationEnvelope where
 targetWorldId : String
 targetOwnerInstanceId : String
 preserveRoom : Bool
 payloadKind : String
 payloadRef : String

inductive ContinuityMetric
 | leaseResume
 | leaseResumeFail
 | worldRestore
 | worldOwnerRestore
 | worldOwnerRestoreFallback
 | worldMigrationRestore
 | worldMigrationRestoreFallback
 | worldMigrationRestoreFallbackSourceNotDraining
 | worldMigrationRestoreFallbackTargetOwnerMismatch
 | worldMigrationRestoreFallbackTargetWorldMissing
 | worldMigrationPayloadRoomHandoff
 | worldMigrationPayloadRoomHandoffFallback
 | worldRestoreFallback
 | worldRestoreFallbackDrainingReplacementUnhonored
 | worldRestoreFallbackMissingOwner
 | worldRestoreFallbackOwnerMismatch
 | worldRestoreFallbackMissingWorld
 | stateRestore
 | stateRestoreFallback
 deriving DecidableEq

structure ContinuityStore where
 sessions : List SessionRow
 worlds : Table String String
 worldOwners : Table String String
 rooms : Table String String
 policies : Table String WorldLifecyclePolicy
 migrations : Table String WorldMigrationEnvelope

namespace ContinuityStore

def empty : ContinuityStore where
 sessions := []
 worlds := ∅
 worldOwners := ∅
 rooms := ∅
 policies := ∅
 migrations := ∅

variable (runtime : Runtime) (store : ContinuityStore)

def load {Value : Type} (table : Table String Value) (id : String) : Option Value :=
 if runtime.redis = false \/ id = "" then none else table.lookup id

def findByTokenHash (tokenHash : String) : Option SessionRow :=
 store.sessions.find? fun row => row.tokenHash = tokenHash

section

variable (now : Nat) (logicalSessionId worldId room : String) (expiresUnixMs : Nat)

def persist (table : Table String String) (id value : String) (expiresUnixMs : Nat) :
  Table String String :=
 if runtime.redis = false \/ id = "" \/ value = "" \/ expiresUnixMs = 0 then table
 else if expiresUnixMs ≤ now then table.erase id
 else table.insert id value

def persistContinuityRoom : ContinuityStore :=
 { store with rooms := persist runtime now store.rooms logicalSessionId room expiresUnixMs }

def persistContinuityWorld : ContinuityStore :=
 { store with worlds := persist runtime now store.worlds logicalSessionId worldId expiresUnixMs }

def persistContinuityWorldOwner (ownerId : String) (expiresUnixMs : Nat) : ContinuityStore :=
 { store with worldOwners := persist runtime now store.worldOwners worldId ownerId expiresUnixMs }

end

def persistContinuity (now : Nat) (logicalSessionId worldId room : String) (expiresUnixMs : Nat) :
  ContinuityStore :=
 let withWorld := store.persistContinuityWorld runtime now logicalSessionId worldId expiresUnixMs
 let withOwner :=
  withWorld.persistContinuityWorldOwner runtime now worldId runtime.currentOwnerId expiresUnixMs
 withOwner.persistContinuityRoom runtime now logicalSessionId room expiresUnixMs

structure RestoredWorld where
 worldId : String
 worldRestoreOk : Bool
 preserveRoomOnRestore : Bool
 migrationPayloadRoom : Option String

def fallbackWorld : RestoredWorld where
 worldId := runtime.defaultWorldId
 worldRestoreOk := false
 preserveRoomOnRestore := false
 migrationPayloadRoom := none

def resolveAppWorldMigrationRoomHandoff (migration : WorldMigrationEnvelope) : Option String :=
 if migration.payloadKind = "chat-room-v1" /\ migration.payloadRef ≠ "" then some migration.payloadRef
 else none

section

variable (world : String)

def owner : Option String := (load runtime store.worldOwners world).filter (· ≠ "")

def draining (world : String) : Bool := (load runtime store.policies world).any (·.draining)

def replacementOwnerMatchesCurrent : Bool :=
 (load runtime store.policies world).any (·.replacementOwnerInstanceId = runtime.currentOwnerId)

def ownerMatchesCurrent : Bool :=
 (store.owner runtime world).any (· = runtime.currentOwnerId)

def fallbackMetrics : List ContinuityMetric :=
 .worldRestoreFallback ::
  if store.draining runtime world && !store.replacementOwnerMatchesCurrent runtime world then
   [.worldRestoreFallbackDrainingReplacementUnhonored]
  else if (store.owner runtime world).isNone then
   [.worldRestoreFallbackMissingOwner, .worldOwnerRestoreFallback]
  else if !store.ownerMatchesCurrent runtime world then
   [.worldRestoreFallbackOwnerMismatch, .worldOwnerRestoreFallback]
  else []

end

def handoffMetrics (migration : WorldMigrationEnvelope) : List ContinuityMetric :=
 if migration.payloadKind = "chat-room-v1" /\ migration.payloadRef = "" then
  [.worldMigrationPayloadRoomHandoffFallback]
 else []

def restoreWorldCounted (sessionId : String) : RestoredWorld × List ContinuityMetric :=
 match (load runtime store.worlds sessionId).filter (· ≠ "") with
 | none => (fallbackWorld runtime, [.worldRestoreFallback, .worldRestoreFallbackMissingWorld])
 | some world =>
  if store.ownerMatchesCurrent runtime world &&
     (!store.draining runtime world || store.replacementOwnerMatchesCurrent runtime world) then
   ({ worldId := world
      worldRestoreOk := true
      preserveRoomOnRestore := true
      migrationPayloadRoom := none },
    [.worldRestore, .worldOwnerRestore])
  else
   match load runtime store.migrations world with
   | none => (fallbackWorld runtime, store.fallbackMetrics runtime world)
   | some migration =>
    let refused (reason : ContinuityMetric) : RestoredWorld × List ContinuityMetric :=
     (fallbackWorld runtime,
       .worldMigrationRestoreFallback :: reason :: store.fallbackMetrics runtime world)
    if !store.draining runtime world then refused .worldMigrationRestoreFallbackSourceNotDraining
    else if migration.targetOwnerInstanceId ≠ runtime.currentOwnerId then
     refused .worldMigrationRestoreFallbackTargetOwnerMismatch
    else if runtime.defaultWorldId ≠ migration.targetWorldId /\
      store.ownerMatchesCurrent runtime migration.targetWorldId = false then
     refused .worldMigrationRestoreFallbackTargetWorldMissing
    else
     ({ worldId := migration.targetWorldId
        worldRestoreOk := true
        preserveRoomOnRestore := migration.preserveRoom
        migrationPayloadRoom := resolveAppWorldMigrationRoomHandoff migration },
      handoffMetrics migration ++ [.worldMigrationRestore])

def restoreWorld (sessionId : String) : RestoredWorld := (store.restoreWorldCounted runtime sessionId).1

def restoreRoomCounted (restored : RestoredWorld) (sessionId : String) : String × ContinuityMetric :=
 let continuityRoom := (load runtime store.rooms sessionId).filter (· ≠ "")
 match restored.worldRestoreOk, restored.migrationPayloadRoom with
 | true, some room => (room, .worldMigrationPayloadRoomHandoff)
 | true, none =>
  match restored.preserveRoomOnRestore, continuityRoom with
  | true, some room => (room, .stateRestore)
  | _, _ => ("lobby", .stateRestoreFallback)
 | false, _ => ("lobby", .stateRestoreFallback)

def restoreRoom (restored : RestoredWorld) (sessionId : String) : String :=
 (store.restoreRoomCounted runtime restored sessionId).1

end ContinuityStore

def extractResumeToken (token : String) : Option String :=
 if token.startsWith "resume:" then
  let raw := (token.drop 7).toString
  if raw = "" then none else some raw
 else none

namespace Runtime

def continuityOn (runtime : Runtime) : Bool := runtime.continuityEnabled && runtime.dbPool

end Runtime

section

variable (runtime : Runtime) (store : ContinuityStore) (now : Nat) (databaseFails : Bool)

def tryResumeContinuityLeaseCounted (token : String) : Option ContinuityLease × List ContinuityMetric :=
 if runtime.continuityOn = false then (none, [])
 else
  match extractResumeToken token with
  | none => (none, [])
  | some rawToken =>
   let tokenHash := runtime.sha256Hex rawToken
   if tokenHash = "" \/ databaseFails = true then (none, [.leaseResumeFail])
   else
    match store.findByTokenHash tokenHash with
    | none => (none, [.leaseResumeFail])
    | some row =>
     if row.revoked = true \/ row.expiresAtMs ≤ now then (none, [.leaseResumeFail])
     else
      match runtime.users.findById row.userId with
      | none => (none, [.leaseResumeFail])
      | some name =>
       if name = "" then (none, [.leaseResumeFail])
       else
        let (restored, worldMetrics) := store.restoreWorldCounted runtime row.id
        let (room, roomMetric) := store.restoreRoomCounted runtime restored row.id
        (some
          { logicalSessionId := row.id
            resumeToken := rawToken
            userId := row.userId
            effectiveUser := name
            worldId := restored.worldId
            room
            expiresUnixMs := row.expiresAtMs
            resumed := true },
         worldMetrics ++ [roomMetric, .leaseResume])

def tryResumeContinuityLease (runtime : Runtime) (store : ContinuityStore) (now : Nat)
  (databaseFails : Bool) (token : String) : Option ContinuityLease :=
 (tryResumeContinuityLeaseCounted runtime store now databaseFails token).1

def issueContinuityLease (rowId rawToken userId effectiveUser worldId room : String) :
  Option (ContinuityStore × ContinuityLease) :=
 if runtime.continuityOn = false \/ userId = "" \/ effectiveUser = "" then none
 else
  let tokenHash := runtime.sha256Hex rawToken
  if tokenHash = "" \/ databaseFails = true then none
  else
   let expiresAtMs := now + runtime.leaseTtlSec * 1000
   let row := { id := rowId, userId, tokenHash, expiresAtMs, revoked := false : SessionRow }
   let lease :=
    { logicalSessionId := rowId
      resumeToken := rawToken
      userId
      effectiveUser
      worldId := if worldId = "" then runtime.defaultWorldId else worldId
      room := if room = "" then "lobby" else room
      expiresUnixMs := expiresAtMs
      resumed := false : ContinuityLease }
   let created := { store with sessions := row :: store.sessions }
   some (created.persistContinuity runtime now rowId lease.worldId lease.room expiresAtMs, lease)

end

variable {runtime : Runtime} {store : ContinuityStore} {now : Nat} {databaseFails : Bool} {lease : ContinuityLease}

theorem tryResumeContinuityLease_spec {token : String}
  (found : tryResumeContinuityLease runtime store now databaseFails token = some lease) :
  (extractResumeToken token).isSome /\ databaseFails = false /\ ∃ row ∈ store.sessions, lease.userId = row.userId /\
     runtime.users.findById row.userId = some lease.effectiveUser /\ lease.effectiveUser ≠ "" := by
 unfold tryResumeContinuityLease tryResumeContinuityLeaseCounted at found
 split at found
 · cases found
 · split at found
   · cases found
   next rawToken extracted =>
    dsimp only at found
    split at found
    · cases found
    next answers =>
     split at found
     · cases found
     next row stored =>
      split at found
      · cases found
      · split at found
        · cases found
        next name known =>
         split at found
         · cases found
         next nonempty =>
          cases found
          have answered : databaseFails = false := by simpa using (not_or.mp answers).2
          exact ⟨by simp [extracted], answered, row, List.mem_of_find?_eq_some stored, rfl, known, nonempty⟩

theorem issueContinuityLease_spec {store' : ContinuityStore}
  {rowId rawToken userId effectiveUser worldId room : String}
  (issued : issueContinuityLease runtime store now databaseFails rowId rawToken userId
    effectiveUser worldId room = some (store', lease)) :
  lease.userId = userId /\ userId ≠ "" /\ ∃ row, store'.sessions = row :: store.sessions /\
   row.userId = userId := by
 unfold issueContinuityLease at issued
 split at issued
 · cases issued
 next given =>
  dsimp only at issued
  split at issued
  · cases issued
  · obtain ⟨rfl, rfl⟩ := Prod.mk.inj (Option.some.inj issued)
    exact ⟨rfl, fun empty => given (Or.inr (Or.inl empty)), _, rfl, rfl⟩

end Dynaxis.Chat
