import Mathlib.Data.Finset.Basic
import Dynaxis.Shared.Table

/-! Maps keyed by `Session*` are keyed by the address alone, so they cannot tell a session from a later one at
the same address. Sets of `weak_ptr<Session>` compare control blocks and can. -/

namespace Dynaxis.Chat

open Shared

abbrev Pointer := Nat

structure Session where
 pointer : Pointer
 -- Address of the control block; no two sessions of a run share it.
 block : Nat
 sessionId : Nat
 remoteIp : String
 deriving DecidableEq

abbrev ChatRoomSet := List Session

namespace ChatRoomSet

def insert (set : ChatRoomSet) (session : Session) : ChatRoomSet :=
 if session ∈ set then set
 else List.orderedInsert (fun first second => first.block ≤ second.block) session set

def erase (set : ChatRoomSet) (session : Session) : ChatRoomSet :=
 set.filter (· ≠ session)

def collectRoomSessions (live : List Session) (set : ChatRoomSet) : ChatRoomSet :=
 set.filter (· ∈ live)

variable {set : ChatRoomSet} {session other : Session}

@[simp] theorem mem_insert : other ∈ set.insert session ↔ other = session \/ other ∈ set := by
  unfold insert
  split
  next present =>
   constructor
   · exact Or.inr
   · rintro (rfl | member)
     · exact present
     · exact member
  next => simp [List.mem_orderedInsert]

@[simp] theorem mem_erase : other ∈ set.erase session ↔ other ∈ set /\ other ≠ session := by simp [erase]

@[simp] theorem mem_collectRoomSessions {live : List Session} :
   session ∈ collectRoomSessions live set ↔ session ∈ set /\ session ∈ live := by
  simp [collectRoomSessions]

end ChatRoomSet

structure TimedPenalty where
 expiresAt : Nat
 reason : String

structure ChatServiceState where
 rooms : Table String ChatRoomSet
 roomPasswords : Table String String
 roomOwners : Table String String
 roomInvites : Table String (Finset String)
 user : Table Pointer String
 userUuid : Table Pointer String
 sessionUuid : Table Pointer String
 logicalSessionId : Table Pointer String
 logicalSessionExpiresUnixMs : Table Pointer Nat
 curWorld : Table Pointer String
 curRoom : Table Pointer String
 sessionIp : Table Pointer String
 sessionHwidHash : Table Pointer String
 userLastIp : Table String String
 userLastHwidHash : Table String String
 authed : Finset Pointer
 guest : Finset Pointer
 byUser : Table String ChatRoomSet
 bySessionId : Table Nat Session
 mutedUsers : Table String TimedPenalty
 bannedUsers : Table String TimedPenalty
 bannedIps : Table String Nat
 bannedHwidHashes : Table String Nat
 spamEvents : Table String (List Nat)
 spamViolations : Table String Nat
 userBlacklists : Table String (Finset String)

namespace ChatServiceState

def empty : ChatServiceState where
 rooms := ∅
 roomPasswords := ∅
 roomOwners := ∅
 roomInvites := ∅
 user := ∅
 userUuid := ∅
 sessionUuid := ∅
 logicalSessionId := ∅
 logicalSessionExpiresUnixMs := ∅
 curWorld := ∅
 curRoom := ∅
 sessionIp := ∅
 sessionHwidHash := ∅
 userLastIp := ∅
 userLastHwidHash := ∅
 authed := ∅
 guest := ∅
 byUser := ∅
 bySessionId := ∅
 mutedUsers := ∅
 bannedUsers := ∅
 bannedIps := ∅
 bannedHwidHashes := ∅
 spamEvents := ∅
 spamViolations := ∅
 userBlacklists := ∅

def members (state : ChatServiceState) (room : String) : ChatRoomSet :=
 (state.rooms.lookup room).getD []

def sessionsOf (state : ChatServiceState) (name : String) : ChatRoomSet :=
 (state.byUser.lookup name).getD []

end ChatServiceState

inductive ErrorCode where
 | nameTaken
 | unauthorized
 | noRoom
 | roomMismatch
 | forbidden
 | internalError
 deriving DecidableEq

structure SessionError where
 code : ErrorCode
 text : String

inductive Verdict (Local : Type) where
 | proceed (value : Local)
 | refuse (error : SessionError)
 | handled

/-- Names and ids are resolved by the users repository: `find_by_name_ci`, else
`create_guest`, for the id of a name, and `find_by_id` for the name of an id. -/
structure UsersRepository where
 idOf : String -> String
 findById : String -> Option String
 idOf_findById : ∀ id name, findById id = some name -> idOf name = id

structure Runtime where
 adminUsers : Finset String
 dbPool : Bool
 redis : Bool
 continuityEnabled : Bool
 leaseTtlSec : Nat
 defaultWorldId : String
 currentOwnerId : String
 users : UsersRepository
 sha256Hex : String -> String
 legacyHashRoomPassword : String -> String
 spamMessageThreshold : Nat
 spamWindowSec : Nat
 spamMuteSec : Nat
 spamBanSec : Nat
 spamBanViolationThreshold : Nat

def UsersRepository.spelledOut : UsersRepository where
 idOf name := "id:" ++ name
 findById id := if "id:" ++ (id.drop 3).toString = id then some (id.drop 3).toString else none
 idOf_findById := by
  intro id name found
  split at found
  next same =>
   cases found
   exact same
  next => cases found

namespace Runtime

def standalone : Runtime where
 adminUsers := {"root"}
 dbPool := false
 redis := false
 continuityEnabled := false
 leaseTtlSec := 900
 defaultWorldId := "default"
 currentOwnerId := "server-1"
 users := UsersRepository.spelledOut
 sha256Hex input := "digest of " ++ input
 legacyHashRoomPassword input := "hash of " ++ input
 spamMessageThreshold := 6
 spamWindowSec := 5
 spamMuteSec := 30
 spamBanSec := 600
 spamBanViolationThreshold := 3

def connected : Runtime :=
 { standalone with
   dbPool := true
   redis := true
   continuityEnabled := true }

end Runtime

end Dynaxis.Chat
