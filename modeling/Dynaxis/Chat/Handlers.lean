import Dynaxis.Chat.RoomState
import Dynaxis.Chat.Continuity

/-! One definition per critical section of login, join, leave and close. What a handler reads outside the lock
(generated names and ids, the password kept in Redis, whether a hook handled the request) is an argument. -/

namespace Dynaxis.Chat

open Shared Option

namespace ChatServiceState

variable (state : ChatServiceState)

def getOrCreateSessionUuid (session : Session) (generated : String) : ChatServiceState × String :=
 let created := { state with sessionUuid := state.sessionUuid.insert session.pointer generated }
 match state.sessionUuid.lookup session.pointer with
 | none => (created, generated)
 | some id => if id = "" then (created, generated) else (state, id)

def registerSessionId (session : Session) : ChatServiceState :=
 { state with bySessionId := state.bySessionId.insert session.sessionId session }

def chooseTempName (generated : Nat -> String) : String :=
 match ((List.range 4).map generated).find? fun candidate => state.sessionsOf candidate = [] with
 | some candidate => candidate
 | none => generated 4

def ensureUniqueOrError (live : List Session) (state : ChatServiceState) (desired : String)
  (generated : Nat -> String) : ChatServiceState × Verdict String :=
 if desired ≠ "" /\ desired ≠ "guest" then
  match state.byUser.lookup desired with
  | none => (state, .proceed desired)
  | some set =>
   -- Dead entries in front of the first live one are erased.
   let remaining := set.dropWhile (· ∉ live)
   let next := { state with byUser := state.byUser.insert desired remaining }
   if remaining = [] then (next, .proceed desired)
   else (next, .refuse ⟨.nameTaken, "name taken"⟩)
 else (state, .proceed (state.chooseTempName generated))

def checkBannedUser (name : String) (now : Nat) : ChatServiceState × String :=
 match state.bannedUsers.lookup name with
 | none => (state, "")
 | some penalty =>
  if penalty.expiresAt ≤ now then ({ state with bannedUsers := state.bannedUsers.erase name }, "")
  else (state, if penalty.reason = "" then "temporarily banned" else penalty.reason)

variable (newUser loginIp hwidHash : String) (now : Nat)

def checkBannedIp : ChatServiceState × String :=
 match state.bannedIps.lookup loginIp with
 | none => (state, "")
 | some expiresAt =>
  if expiresAt ≤ now then ({ state with bannedIps := state.bannedIps.erase loginIp }, "")
  else (state, "temporarily banned (ip)")

def checkBannedHwidHash : ChatServiceState × String :=
 match state.bannedHwidHashes.lookup hwidHash with
 | none => (state, "")
 | some expiresAt =>
  if expiresAt ≤ now then
   ({ state with bannedHwidHashes := state.bannedHwidHashes.erase hwidHash }, "")
  else (state, "temporarily banned (device)")

def checkBans : ChatServiceState × String :=
 let (byName, denyName) := state.checkBannedUser newUser now
 let (byIp, denyIp) :=
  if denyName = "" /\ loginIp ≠ "" then byName.checkBannedIp loginIp now else (byName, denyName)
 if denyIp = "" /\ hwidHash ≠ "" then byIp.checkBannedHwidHash hwidHash now else (byIp, denyIp)

end ChatServiceState

structure Login where
 newUser : String
 guestMode : Bool
 hwidHash : String
 trackedUserUuid : String
 continuitySessionId : String
 continuityResumeToken : String
 continuityExpiresUnixMs : Nat
 currentWorld : String
 currentRoom : String
 resumedLogin : Bool

namespace Login

def room (login : Login) : String :=
 if login.currentRoom = "" then "lobby" else login.currentRoom

end Login

namespace ChatServiceState

variable (state : ChatServiceState) (session : Session)

def releaseName (name : String) : Table String ChatRoomSet :=
 match state.byUser.lookup name with
 | none => state.byUser
 | some set => state.byUser.insert name (ChatRoomSet.erase set session)

def recordLogin (login : Login) : ChatServiceState :=
 let pointer := session.pointer
 let byUser :=
  match state.user.lookup pointer with
  | none => state.byUser
  | some oldName => state.releaseName session oldName
 { state with
   user := state.user.insert pointer login.newUser
   byUser :=
    byUser.insert login.newUser (ChatRoomSet.insert ((byUser.lookup login.newUser).getD []) session)
   authed := insert pointer state.authed
   guest := if login.guestMode then insert pointer state.guest else state.guest.erase pointer
   sessionIp := state.sessionIp.insert pointer session.remoteIp
   sessionHwidHash := state.sessionHwidHash.insert pointer login.hwidHash
   userLastIp :=
    if session.remoteIp = "" then state.userLastIp
    else state.userLastIp.insert login.newUser session.remoteIp
   userLastHwidHash :=
    if login.hwidHash = "" then state.userLastHwidHash
    else state.userLastHwidHash.insert login.newUser login.hwidHash
   userUuid :=
    if login.trackedUserUuid = "" then state.userUuid
    else state.userUuid.insert pointer login.trackedUserUuid
   logicalSessionId :=
    if login.continuitySessionId = "" then state.logicalSessionId
    else state.logicalSessionId.insert pointer login.continuitySessionId
   logicalSessionExpiresUnixMs :=
    if login.continuitySessionId = "" then state.logicalSessionExpiresUnixMs
    else state.logicalSessionExpiresUnixMs.insert pointer login.continuityExpiresUnixMs
   curWorld := state.curWorld.insert pointer login.currentWorld }

def publishLogin (login : Login) : ChatServiceState :=
 -- The session is not taken out of the room it is in.
 (state.recordLogin session login).placeSessionInRoom session login.room login.newUser false
   (!login.resumedLogin)

def storeUserUuid (uid : String) : ChatServiceState :=
 { state with userUuid := state.userUuid.insert session.pointer uid }

def keepLease (logicalSessionId : String)
  (expiresUnixMs : Nat) (worldId : String) : ChatServiceState :=
 { state with
   logicalSessionId := state.logicalSessionId.insert session.pointer logicalSessionId
   logicalSessionExpiresUnixMs := state.logicalSessionExpiresUnixMs.insert session.pointer expiresUnixMs
   curWorld := state.curWorld.insert session.pointer worldId }

end ChatServiceState

namespace Runtime

variable (runtime : Runtime) (password storedHash : String)

def hashRoomPassword : String :=
 let digest := runtime.sha256Hex password
 if digest = "" then "" else "sha256:" ++ digest

def isModernRoomPasswordHash : Bool := storedHash.startsWith "sha256:"

def verifyRoomPassword : Bool :=
 if storedHash = "" then false
 else if isModernRoomPasswordHash storedHash then runtime.hashRoomPassword password = storedHash
 else runtime.legacyHashRoomPassword password = storedHash

def hashHwidToken (token : String) : String :=
 if token = "" then ""
 else
  let digest := runtime.sha256Hex token
  if digest = "" then "" else "hwid:" ++ digest

end Runtime

namespace ChatServiceState

def actorName (state : ChatServiceState) (session : Session) : String :=
 (state.user.lookup session.pointer).getD "guest"

end ChatServiceState

structure JoinGate where
 isAdminUser : Bool
 isRoomOwner : Bool
 hasRoomInvite : Bool
 hasPassword : Bool
 passwordOk : Bool
 roomExists : Bool

namespace JoinGate

def entitled (gate : JoinGate) : Bool :=
 gate.isAdminUser || gate.isRoomOwner || gate.hasRoomInvite || gate.passwordOk

def refuses (gate : JoinGate) (room : String) : Bool :=
 room ≠ "lobby" && gate.roomExists && !gate.entitled

end JoinGate

structure JoinRequest where
 session : Session
 room : String
 password : String

namespace JoinRequest

def roomToJoin (request : JoinRequest) : String :=
 if request.room = "" then "lobby" else request.room

end JoinRequest

structure Joined where
 sender : String
 previousRoom : String
 logicalSessionId : String
 logicalSessionExpiresUnixMs : Nat

namespace ChatServiceState

variable (runtime : Runtime) (state : ChatServiceState)

section

variable (room : String) (redisPassword : Option String)

def adoptRedisPassword : ChatServiceState :=
 match redisPassword with
 | none => state
 | some value => { state with roomPasswords := state.roomPasswords.insert room value }

def expectedPassword : String :=
 let found := redisPassword.getD ""
 if found = "" then (state.roomPasswords.lookup room).getD "" else found

end

def joinGate (sender room providedPassword expectedPassword : String) : JoinGate :=
 let hasPassword : Bool := expectedPassword ≠ ""
 { isAdminUser := decide (sender ∈ runtime.adminUsers)
   isRoomOwner := decide (room ≠ "lobby" /\ state.roomOwners.lookup room = some sender)
   hasRoomInvite :=
    decide (room ≠ "lobby") && (state.roomInvites.lookup room).any fun invited => decide (sender ∈ invited)
   hasPassword
   passwordOk :=
    hasPassword && decide (providedPassword ≠ "") &&
     runtime.verifyRoomPassword providedPassword expectedPassword
   roomExists :=
    (state.rooms.lookup room).isSome || (state.roomOwners.lookup room).isSome ||
      (state.roomPasswords.lookup room).isSome || hasPassword }

def gateFor (request : JoinRequest) (redisPassword : Option String) : JoinGate :=
 let adopted := state.adoptRedisPassword request.roomToJoin redisPassword
 adopted.joinGate runtime (state.actorName request.session) request.roomToJoin request.password
  (adopted.expectedPassword request.roomToJoin redisPassword)

def updateRoomPassword (gate : JoinGate)
  (room providedPassword expectedPassword : String) : Option ChatServiceState :=
 let newHashedPassword := runtime.hashRoomPassword providedPassword
 let stored :=
  { state with roomPasswords := state.roomPasswords.insert room newHashedPassword }
 if gate.hasPassword && gate.passwordOk then
  if Runtime.isModernRoomPasswordHash expectedPassword = false /\ newHashedPassword ≠ "" then some stored
  else some state
 else if gate.hasPassword = false /\ providedPassword ≠ "" /\ room ≠ "lobby" then
  if newHashedPassword = "" then none else some stored
 else some state

section

variable (live : List Session) (state : ChatServiceState)

def moveToRoom (session : Session)
  (room sender : String) (consumeInvite : Bool) : ChatServiceState :=
 let departed :=
  match state.curRoom.lookup session.pointer with
  | none => state
  | some current =>
   if current = room then state
   else (state.removeSessionFromRoom live session current sender).1
 departed.placeSessionInRoom session room sender consumeInvite true

def joinRoom (request : JoinRequest) (redisPassword : Option String) (hookHandled : Bool) :
  ChatServiceState × Verdict Joined :=
 let session := request.session
 let room := request.roomToJoin
 if session.pointer ∉ state.authed then (state, .refuse ⟨.unauthorized, "unauthorized"⟩)
 else
  let sender := state.actorName session
  if hookHandled then (state, .handled)
  else
   let adopted := state.adoptRedisPassword room redisPassword
   let expected := adopted.expectedPassword room redisPassword
   let gate := adopted.joinGate runtime sender room request.password expected
   if gate.refuses room then
    (adopted, .refuse ⟨.forbidden, if gate.hasPassword then "room locked" else "invite required"⟩)
   else
    match adopted.updateRoomPassword runtime gate room request.password expected with
    | none => (adopted, .refuse ⟨.internalError, "password hash failed"⟩)
    | some secured =>
     let joined :=
      { sender
        previousRoom := (secured.curRoom.lookup session.pointer).getD ""
        logicalSessionId := (secured.logicalSessionId.lookup session.pointer).getD ""
        logicalSessionExpiresUnixMs :=
         (secured.logicalSessionExpiresUnixMs.lookup session.pointer).getD 0 : Joined }
     let moved := secured.moveToRoom live session room sender gate.hasRoomInvite
     ((moved.collectRoomTargets live room sender).1, .proceed joined)

end

def forgetRoomOwnership (room : String) : ChatServiceState :=
 { state with
   roomOwners := state.roomOwners.erase room
   roomInvites := state.roomInvites.erase room }

end ChatServiceState

structure LeaveRequest where
 session : Session
 room : String

structure Left where
 roomToLeave : String
 senderName : String
 logicalSessionId : String
 logicalSessionExpiresUnixMs : Nat

structure Closed where
 name : String
 roomLeft : String

namespace ChatServiceState

variable (live : List Session) (state : ChatServiceState)

def leaveRoom (request : LeaveRequest) (hookHandled : Bool) : ChatServiceState × Verdict Left :=
 let session := request.session
 if session.pointer ∉ state.authed then (state, .refuse ⟨.unauthorized, "unauthorized"⟩)
 else
  match state.curRoom.lookup session.pointer with
  | none => (state, .refuse ⟨.noRoom, "no current room"⟩)
  | some roomToLeave =>
   if request.room ≠ "" /\ roomToLeave ≠ request.room then
    (state, .refuse ⟨.roomMismatch, "room mismatch"⟩)
   else if state.roomExists roomToLeave then
    let senderName := state.actorName session
    if hookHandled then (state, .handled)
    else
     let left :=
      { roomToLeave
        senderName
        logicalSessionId := (state.logicalSessionId.lookup session.pointer).getD ""
        logicalSessionExpiresUnixMs :=
         (state.logicalSessionExpiresUnixMs.lookup session.pointer).getD 0 : Left }
     let departed := (state.removeSessionFromRoom live session roomToLeave senderName).1
     (departed.placeSessionInRoom session "lobby" senderName false true, .proceed left)
   else
    -- The room is gone: nothing is read about the session before it goes to the lobby.
    let left :=
     { roomToLeave, senderName := "", logicalSessionId := "", logicalSessionExpiresUnixMs := 0 : Left }
    (state.placeSessionInRoom session "lobby" "" false true, .proceed left)

def closeSession (session : Session) : ChatServiceState × Closed :=
 let pointer := session.pointer
 let name := state.actorName session
 let byUser := if name = "" then state.byUser else state.releaseName session name
 let forgotten :=
  { state with
    bySessionId := state.bySessionId.erase session.sessionId
    authed := state.authed.erase pointer
    guest := state.guest.erase pointer
    byUser
    user := state.user.erase pointer
    sessionUuid := state.sessionUuid.erase pointer
    logicalSessionId := state.logicalSessionId.erase pointer
    logicalSessionExpiresUnixMs := state.logicalSessionExpiresUnixMs.erase pointer
    curWorld := state.curWorld.erase pointer
    sessionIp := state.sessionIp.erase pointer
    sessionHwidHash := state.sessionHwidHash.erase pointer }
 match state.curRoom.lookup pointer with
 | none => (forgotten, { name, roomLeft := "" })
 | some roomLeft =>
  let departed :=
   if forgotten.roomExists roomLeft then
    (forgotten.removeSessionFromRoom live session roomLeft name).1
   else forgotten
  ({ departed with curRoom := departed.curRoom.erase pointer }, { name, roomLeft })

theorem getOrCreateSessionUuid_eq (session : Session) (generated : String) :
  ∃ sessionUuid, (state.getOrCreateSessionUuid session generated).1 = { state with sessionUuid } /\
   ∀ pointer, pointer ≠ session.pointer -> sessionUuid.lookup pointer = state.sessionUuid.lookup pointer := by
 have created (pointer : Pointer) (different : pointer ≠ session.pointer) :
   (state.sessionUuid.insert session.pointer generated).lookup pointer = state.sessionUuid.lookup pointer := by
  rw [Table.lookup_insert_ite, if_neg different]
 unfold getOrCreateSessionUuid
 dsimp only
 split
 · exact ⟨_, rfl, created⟩
 · split
   · exact ⟨_, rfl, created⟩
   · exact ⟨_, rfl, fun _ _ => rfl⟩

structure PrunesNames (live : List Session) (state next : ChatServiceState) : Prop where
 onlyNames : ∃ byUser, next = { state with byUser }
 sessionsOf_back : ∀ name session, session ∈ next.sessionsOf name -> session ∈ state.sessionsOf name
 sessionsOf_kept : ∀ name, ∀ session ∈ live,
  session ∈ state.sessionsOf name -> session ∈ next.sessionsOf name

theorem PrunesNames.refl : state.PrunesNames live state where
 onlyNames := ⟨_, rfl⟩
 sessionsOf_back := fun _ _ => id
 sessionsOf_kept := fun _ _ _ => id

theorem sessionsOf_insert (name other : String) (set : ChatRoomSet) :
  ({ state with byUser := state.byUser.insert name set } : ChatServiceState).sessionsOf other =
    if other = name then set else state.sessionsOf other := by
 simp only [sessionsOf, Table.lookup_insert_ite]
 split <;> rfl

variable {name : String}

theorem prunesNames_insert {set part : ChatRoomSet} (found : state.byUser.lookup name = some set)
  (back : ∀ session ∈ part, session ∈ set) (kept : ∀ session ∈ live, session ∈ set -> session ∈ part) :
  state.PrunesNames live { state with byUser := state.byUser.insert name part } := by
 have stored : state.sessionsOf name = set := by simp [sessionsOf, found]
 constructor
 case onlyNames => exact ⟨_, rfl⟩
 case sessionsOf_back =>
  intro other session member
  rw [sessionsOf_insert] at member
  split at member
  next same =>
   subst same
   rw [stored]
   exact back session member
  next => exact member
 case sessionsOf_kept =>
  intro other session living member
  rw [sessionsOf_insert]
  split
  next same =>
   subst same
   rw [stored] at member
   exact kept session living member
  next => exact member

theorem mem_dropWhile_dead (set : ChatRoomSet) (session : Session) (living : session ∈ live)
  (member : session ∈ set) :
  session ∈ set.dropWhile (fun other => decide (other ∉ live)) := by
 induction set with
 | nil => exact member
 | cons other rest ih =>
  rw [List.dropWhile_cons]
  split
  next dead =>
   cases List.mem_cons.mp member with
   | inl same =>
    subst same
    exact absurd living (of_decide_eq_true dead)
   | inr later => exact ih later
  next => exact member

theorem ensureUniqueOrError_prunes (desired : String) (generated : Nat -> String) :
  state.PrunesNames live (state.ensureUniqueOrError live desired generated).1 := by
 unfold ensureUniqueOrError
 split
 · split
   · exact .refl live state
   next set found =>
    have pruned := prunesNames_insert live state found (fun session member => (List.dropWhile_sublist _).mem member)
     (fun session living member => mem_dropWhile_dead live set session living member)
    dsimp only
    split <;> exact pruned
 · exact .refl live state

theorem ensureUniqueOrError_proceed {live : List Session} {state : ChatServiceState} {desired : String}
  {generated : Nat -> String} (free : (state.ensureUniqueOrError live desired generated).2 = .proceed name) :
  ((desired ≠ "" /\ desired ≠ "guest") /\ name = desired /\ ∀ session ∈ live, session ∉ state.sessionsOf name) \/
    (¬ (desired ≠ "" /\ desired ≠ "guest") /\ name = state.chooseTempName generated) := by
 unfold ensureUniqueOrError at free
 split at free
 next asked =>
  left
  split at free
  next absent =>
   cases free
   exact ⟨asked, rfl, fun session _ => by simp [sessionsOf, absent]⟩
  next set found =>
   dsimp only at free
   split at free
   next empty =>
    cases free
    refine ⟨asked, rfl, fun session living member => ?_⟩
    rw [show state.sessionsOf name = set by simp [sessionsOf, found]] at member
    have kept := mem_dropWhile_dead live set session living member
    rw [empty] at kept
    exact List.not_mem_nil kept
   next => cases free
 next other =>
  right
  cases free
  exact ⟨other, rfl⟩

theorem checkBans_eq (newUser loginIp hwidHash : String) (now : Nat) : ∃ bannedUsers bannedIps bannedHwidHashes,
   (state.checkBans newUser loginIp hwidHash now).1 = { state with bannedUsers, bannedIps, bannedHwidHashes } := by
 have users : ∃ bannedUsers, (state.checkBannedUser newUser now).1 = { state with bannedUsers } := by
  unfold checkBannedUser
  split
  · exact ⟨_, rfl⟩
  · split <;> exact ⟨_, rfl⟩
 have ips (current : ChatServiceState) :
   ∃ bannedIps, (current.checkBannedIp loginIp now).1 = { current with bannedIps } := by
  unfold checkBannedIp
  split
  · exact ⟨_, rfl⟩
  · split <;> exact ⟨_, rfl⟩
 have devices (current : ChatServiceState) : ∃ bannedHwidHashes,
    (current.checkBannedHwidHash hwidHash now).1 = { current with bannedHwidHashes } := by
  unfold checkBannedHwidHash
  split
  · exact ⟨_, rfl⟩
  · split <;> exact ⟨_, rfl⟩
 obtain ⟨bannedUsers, byName⟩ := users
 simp only [checkBans]
 split
 · obtain ⟨bannedIps, byIp⟩ := ips (state.checkBannedUser newUser now).1
   split
   · obtain ⟨bannedHwidHashes, byDevice⟩ :=
      devices ((state.checkBannedUser newUser now).1.checkBannedIp loginIp now).1
     exact ⟨_, _, _, by rw [byDevice, byIp, byName]⟩
   · exact ⟨_, _, _, by rw [byIp, byName]⟩
 · split
   · obtain ⟨bannedHwidHashes, byDevice⟩ := devices (state.checkBannedUser newUser now).1
     exact ⟨_, _, _, by rw [byDevice, byName]⟩
   · exact ⟨_, _, _, byName⟩

theorem mem_releaseName (session other : Session) (name key : String) :
  other ∈ ((state.releaseName session name).lookup key).getD [] ↔
   other ∈ state.sessionsOf key /\ (key = name -> other ≠ session) := by
 unfold releaseName
 split
 next absent =>
  show other ∈ state.sessionsOf key ↔ _
  constructor
  · intro member
    refine ⟨member, ?_⟩
    rintro rfl
    simp [sessionsOf, absent] at member
  · exact And.left
 next set found =>
  rw [Table.lookup_insert_ite]
  split
  next same =>
   subst same
   simp [sessionsOf, found]
  next different =>
   show other ∈ state.sessionsOf key ↔ _
   simp [different]

section

variable (state : ChatServiceState) (session : Session) (login : Login)

theorem publishLogin_onlyRooms : ({ state.recordLogin session login with
      curRoom := state.curRoom.insert session.pointer login.room } : ChatServiceState).OnlyRooms
    (state.publishLogin session login) :=
 placeSessionInRoom_onlyRooms (state.recordLogin session login) session login.room login.newUser false
  (!login.resumedLogin)

theorem mem_members_publishLogin (other : Session) (key : String) :
  other ∈ (state.publishLogin session login).members key ↔
   other ∈ state.members key \/ (key = login.room /\ other = session) :=
 mem_members_placeSessionInRoom (state.recordLogin session login) session login.room login.newUser false
  (!login.resumedLogin) other key

theorem mem_sessionsOf_publishLogin (other : Session) (name : String) :
  other ∈ (state.publishLogin session login).sessionsOf name ↔ (name = login.newUser /\ other = session) \/
     (other ∈ state.sessionsOf name /\ (state.user.lookup session.pointer = some name -> other ≠ session)) := by
 rw [<- (publishLogin_onlyRooms state session login).sessionsOf_eq]
 show other ∈ (((state.recordLogin session login).byUser.lookup name).getD []) ↔ _
 unfold recordLogin
 dsimp only
 generalize released : (match state.user.lookup session.pointer with
  | none => state.byUser
  | some oldName => state.releaseName session oldName) = byUser
 have mem_released (key : String) : other ∈ (byUser.lookup key).getD [] ↔ other ∈ state.sessionsOf key /\
     (state.user.lookup session.pointer = some key -> other ≠ session) := by
  rw [<- released]
  split
  next unnamed =>
   show other ∈ state.sessionsOf key ↔ _
   simp [unnamed]
  next oldName named =>
   rw [mem_releaseName, named]
   simp only [some.injEq, eq_comm]
 rw [Table.lookup_insert_ite]
 split
 next same =>
  subst same
  rw [getD_some, ChatRoomSet.mem_insert, mem_released]
  simp
 next different =>
  rw [mem_released]
  simp [different]

end

section

variable (live : List Session) (state : ChatServiceState) (session : Session)

section

variable (source target sender placedAs : String) (consumeInvite assignOwner : Bool)

theorem relocate_onlyRooms :
  ({ state with curRoom := state.curRoom.insert session.pointer target } : ChatServiceState).OnlyRooms
    ((state.removeSessionFromRoom live session source sender).1.placeSessionInRoom session target
      placedAs consumeInvite assignOwner) := by
 have placed := placeSessionInRoom_onlyRooms (state.removeSessionFromRoom live session source sender).1
  session target placedAs consumeInvite assignOwner
 obtain ⟨_, _, _, _, departed⟩ := (removeSessionFromRoom_spec live state session source sender).1
 refine .trans ?_ placed
 rw [departed]
 exact ⟨_, _, _, _, rfl⟩

theorem mem_members_relocate (other : Session) (key : String) :
  other ∈ ((state.removeSessionFromRoom live session source sender).1.placeSessionInRoom session target
   placedAs consumeInvite assignOwner).members key ↔
   (other ∈ state.members key /\ (key = source -> other ≠ session /\ other ∈ live)) \/
     (key = target /\ other = session) := by
 rw [mem_members_placeSessionInRoom, mem_members_removeSessionFromRoom]

end

variable (room sender : String) (consumeInvite : Bool)

theorem moveToRoom_onlyRooms :
  ({ state with curRoom := state.curRoom.insert session.pointer room } : ChatServiceState).OnlyRooms
    (state.moveToRoom live session room sender consumeInvite) := by
 unfold moveToRoom
 dsimp only
 split
 · exact placeSessionInRoom_onlyRooms state session room sender consumeInvite true
 next current found =>
  split
  · exact placeSessionInRoom_onlyRooms state session room sender consumeInvite true
  · exact relocate_onlyRooms live state session current room sender sender consumeInvite true

theorem mem_members_moveToRoom (other : Session) (key : String) :
  other ∈ (state.moveToRoom live session room sender consumeInvite).members key ↔
   (other ∈ state.members key /\ (state.curRoom.lookup session.pointer = some key -> key ≠ room ->
       other ≠ session /\ other ∈ live)) \/ (key = room /\ other = session) := by
 unfold moveToRoom
 dsimp only
 split
 next absent =>
  rw [mem_members_placeSessionInRoom, absent]
  simp
 next current found =>
  rw [found]
  split
  next same =>
   subst same
   rw [mem_members_placeSessionInRoom]
   refine or_congr_left ⟨fun member => ⟨member, fun here elsewhere => ?_⟩, And.left⟩
   exact absurd (some.inj here).symm elsewhere
  next different =>
   rw [mem_members_relocate]
   refine or_congr_left (and_congr_right fun _ => ⟨fun gone here _ => ?_, fun gone here => ?_⟩)
   · exact gone (some.inj here).symm
   · exact gone (congrArg some here.symm) (here ▸ different)

end

section

variable (runtime : Runtime) (live : List Session) (state : ChatServiceState)

theorem joinRoom_cases (request : JoinRequest) (redisPassword : Option String) (hookHandled : Bool) :
  (∃ roomPasswords, (state.joinRoom runtime live request redisPassword hookHandled).1 = { state with roomPasswords } /\
      ∀ joined, (state.joinRoom runtime live request redisPassword hookHandled).2 ≠ .proceed joined) \/
    ∃ roomPasswords joined,
     let adopted := state.adoptRedisPassword request.roomToJoin redisPassword
     let gate := adopted.joinGate runtime (state.actorName request.session) request.roomToJoin
      request.password (adopted.expectedPassword request.roomToJoin redisPassword)
     let moved := ({ state with roomPasswords } : ChatServiceState).moveToRoom live request.session
      request.roomToJoin (state.actorName request.session) gate.hasRoomInvite
     request.session.pointer ∈ state.authed /\ gate.refuses request.roomToJoin = false /\
      joined.previousRoom = (state.curRoom.lookup request.session.pointer).getD "" /\
      joined.logicalSessionId = (state.logicalSessionId.lookup request.session.pointer).getD "" /\
      joined.logicalSessionExpiresUnixMs = (state.logicalSessionExpiresUnixMs.lookup request.session.pointer).getD 0 /\
      state.joinRoom runtime live request redisPassword hookHandled =
       ((moved.collectRoomTargets live request.roomToJoin (state.actorName request.session)).1, .proceed joined) := by
 have adopts : ∃ roomPasswords, state.adoptRedisPassword request.roomToJoin redisPassword =
   { state with roomPasswords } := by
  unfold adoptRedisPassword
  split <;> exact ⟨_, rfl⟩
 have updates (adopted secured : ChatServiceState) (gate : JoinGate) (room provided expected : String)
   (updated : adopted.updateRoomPassword runtime gate room provided expected = some secured) :
   ∃ roomPasswords, secured = { adopted with roomPasswords } := by
  unfold updateRoomPassword at updated
  dsimp only at updated
  split at updated
  · split at updated <;> exact ⟨_, (some.inj updated).symm⟩
  · split at updated
    · split at updated
      · cases updated
      · exact ⟨_, (some.inj updated).symm⟩
    · exact ⟨_, (some.inj updated).symm⟩
 obtain ⟨adoptedPasswords, adopted⟩ := adopts
 unfold joinRoom
 dsimp only
 split
 · exact .inl ⟨_, rfl, fun _ impossible => nomatch impossible⟩
 next authorized =>
  split
  · exact .inl ⟨_, rfl, fun _ impossible => nomatch impossible⟩
  · split
    · exact .inl ⟨_, adopted, fun _ impossible => nomatch impossible⟩
    next passes =>
     split
     · exact .inl ⟨_, adopted, fun _ impossible => nomatch impossible⟩
     next secured updated =>
      obtain ⟨roomPasswords, stored⟩ := updates _ _ _ _ _ _ updated
      rw [adopted] at stored
      rw [stored]
      exact .inr ⟨roomPasswords, _, Decidable.not_not.mp authorized, Bool.eq_false_iff.mpr passes,
       rfl, rfl, rfl, rfl⟩

theorem leaveRoom_cases (request : LeaveRequest) (hookHandled : Bool) :
  ((state.leaveRoom live request hookHandled).1 = state /\
     ∀ left, (state.leaveRoom live request hookHandled).2 ≠ .proceed left) \/
    ∃ left, (state.leaveRoom live request hookHandled).2 = .proceed left /\
     request.session.pointer ∈ state.authed /\
     state.curRoom.lookup request.session.pointer = some left.roomToLeave /\
     (left.logicalSessionId = "" \/
       left.logicalSessionId = (state.logicalSessionId.lookup request.session.pointer).getD "") /\
     ({ state with curRoom := state.curRoom.insert request.session.pointer "lobby" } :
         ChatServiceState).OnlyRooms (state.leaveRoom live request hookHandled).1 /\
     ∀ other key, other ∈ (state.leaveRoom live request hookHandled).1.members key ↔
      (other ∈ state.members key /\ (key = left.roomToLeave -> other ≠ request.session /\ other ∈ live)) \/
        (key = "lobby" /\ other = request.session) := by
 unfold leaveRoom
 dsimp only
 split
 · exact .inl ⟨rfl, fun _ impossible => nomatch impossible⟩
 next authorized =>
  split
  · exact .inl ⟨rfl, fun _ impossible => nomatch impossible⟩
  next roomToLeave found =>
   split
   · exact .inl ⟨rfl, fun _ impossible => nomatch impossible⟩
   · split
     · split
       · exact .inl ⟨rfl, fun _ impossible => nomatch impossible⟩
       · exact .inr ⟨_, rfl, Decidable.not_not.mp authorized, found, .inr rfl,
          relocate_onlyRooms live state request.session roomToLeave "lobby"
           (state.actorName request.session) (state.actorName request.session) false true,
          mem_members_relocate live state request.session roomToLeave "lobby"
           (state.actorName request.session) (state.actorName request.session) false true⟩
     next missing =>
      have absent : state.members roomToLeave = [] := by
       simp only [roomExists, Bool.not_eq_true, isSome_eq_false_iff, isNone_iff_eq_none] at missing
       simp [members, missing]
      refine .inr ⟨_, rfl, Decidable.not_not.mp authorized, found, .inl rfl,
       placeSessionInRoom_onlyRooms state request.session "lobby" "" false true,
       fun other key => ?_⟩
      rw [mem_members_placeSessionInRoom]
      refine or_congr_left ⟨fun member => ⟨member, ?_⟩, And.left⟩
      rintro rfl
      rw [absent] at member
      exact absurd member List.not_mem_nil

end

variable (live : List Session) (state : ChatServiceState) (session : Session)

def forgetSession : ChatServiceState :=
 { state with
   bySessionId := state.bySessionId.erase session.sessionId
   authed := state.authed.erase session.pointer
   guest := state.guest.erase session.pointer
   byUser :=
    if state.actorName session = "" then state.byUser
    else state.releaseName session (state.actorName session)
   user := state.user.erase session.pointer
   sessionUuid := state.sessionUuid.erase session.pointer
   logicalSessionId := state.logicalSessionId.erase session.pointer
   logicalSessionExpiresUnixMs := state.logicalSessionExpiresUnixMs.erase session.pointer
   curWorld := state.curWorld.erase session.pointer
   sessionIp := state.sessionIp.erase session.pointer
   sessionHwidHash := state.sessionHwidHash.erase session.pointer }

theorem closeSession_departs : (state.closeSession live session).1 =
    match state.curRoom.lookup session.pointer with
    | none => state.forgetSession session
    | some roomLeft =>
     let departed :=
      if (state.forgetSession session).roomExists roomLeft then
       ((state.forgetSession session).removeSessionFromRoom live session roomLeft (state.actorName session)).1
      else state.forgetSession session
     { departed with curRoom := departed.curRoom.erase session.pointer } := by
 simp only [closeSession]
 split <;> rfl

theorem closeSession_eq : ∃ curRoom rooms roomPasswords roomOwners roomInvites,
     (state.closeSession live session).1 = { state with
       bySessionId := state.bySessionId.erase session.sessionId
       authed := state.authed.erase session.pointer
       guest := state.guest.erase session.pointer
       byUser :=
        if state.actorName session = "" then state.byUser
        else state.releaseName session (state.actorName session)
       user := state.user.erase session.pointer
       sessionUuid := state.sessionUuid.erase session.pointer
       logicalSessionId := state.logicalSessionId.erase session.pointer
       logicalSessionExpiresUnixMs := state.logicalSessionExpiresUnixMs.erase session.pointer
       curWorld := state.curWorld.erase session.pointer
       sessionIp := state.sessionIp.erase session.pointer
       sessionHwidHash := state.sessionHwidHash.erase session.pointer
       curRoom, rooms, roomPasswords, roomOwners, roomInvites } /\
   (∀ pointer, curRoom.lookup pointer = if pointer = session.pointer then none else state.curRoom.lookup pointer) /\
   ∀ other key, other ∈ (rooms.lookup key).getD [] ↔ other ∈ state.members key /\
     (state.curRoom.lookup session.pointer = some key -> other ≠ session /\ other ∈ live) := by
 rw [closeSession_departs]
 have sameMembers (key : String) : (state.forgetSession session).members key = state.members key := rfl
 cases found : state.curRoom.lookup session.pointer with
 | none =>
  refine ⟨_, _, _, _, _, rfl, fun pointer => ?_, fun other key => ⟨fun member => ⟨member, nofun⟩, And.left⟩⟩
  split
  next same =>
   subst same
   exact found
  next => rfl
 | some roomLeft =>
  dsimp only
  split
  next exists_ =>
   obtain ⟨only, -⟩ := removeSessionFromRoom_spec live (state.forgetSession session) session roomLeft
    (state.actorName session)
   have listed := mem_members_removeSessionFromRoom live (state.forgetSession session) session roomLeft
    (state.actorName session)
   obtain ⟨rooms, roomPasswords, roomOwners, roomInvites, departed⟩ := only
   rw [departed] at listed ⊢
   refine ⟨_, _, _, _, _, rfl, fun pointer => Table.lookup_erase_ite _ _ _, fun other key => ?_⟩
   refine (listed other key).trans (and_congr_right fun _ => ?_)
   rw [some.injEq, eq_comm]
  next missing =>
   have emptyRoom : state.members roomLeft = [] := by
    rw [<- sameMembers]
    simp only [roomExists, Bool.not_eq_true, isSome_eq_false_iff, isNone_iff_eq_none] at missing
    simp [members, missing]
   refine ⟨_, _, _, _, _, rfl, fun pointer => Table.lookup_erase_ite _ _ _, fun other key => ?_⟩
   refine ⟨fun member => ⟨member, fun here => ?_⟩, And.left⟩
   cases here
   have inside : other ∈ state.members roomLeft := member
   rw [emptyRoom] at inside
   exact absurd inside List.not_mem_nil

end ChatServiceState

end Dynaxis.Chat
