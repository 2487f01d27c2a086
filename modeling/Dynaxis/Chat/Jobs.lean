import Dynaxis.Chat.Commands

/-! A job is the point it has reached and what it has read so far. One step runs one critical section, or one
access to the repositories or to Redis between two of them, so that other jobs can run in between. -/

namespace Dynaxis.Chat

open Shared

structure Choices where
 generatedUuid : String := "c0ffee00-0000-4000-8000-000000000000"
 temporaryNames : Nat -> String := fun _ => "00000000"
 hookHandled : Bool := false
 databaseFails : Bool := false
 leaseRowId : String := "lease"
 leaseToken : String := "token"
 redisPassword : Option String := none
 -- Redis counts no user left in a room, and the room was closed in the database.
 roomEmptied : Bool := false
 -- A whisper was published to the other servers.
 whisperRouted : Bool := false

structure LoginRequest where
 session : Session
 user : String
 token : String

inductive LoginPoint where
 | start
 | register
 | resume
 | unique (lease : Option ContinuityLease)
 | hook (login : Login) (checkedAt : Nat)
 | bans (login : Login) (checkedAt now : Nat)
 | publish (login : Login) (checkedAt : Nat)
 | readUid (login : Login)
 | storeUid (login : Login) (uid : String)
 | lease (login : Login)
 | keepLease (login : Login)
 | presence (login : Login)

inductive JoinPoint where
 | start
 | enter
 | persist (joined : Joined)
 | settle (joined : Joined)

inductive LeavePoint where
 | start
 | exit
 | persist (left : Left)
 | settle (left : Left)

structure SendRequest where
 session : Session
 room : String
 text : String

structure BlacklistEntry where
 actor : String
 targetUser : String
 named : targetUser ≠ ""
 others : targetUser ≠ actor

inductive SendPoint where
 | check
 | command (currentRoom : String)
 | who (room : String)
 | block (entry : BlacklistEntry)
 | unblock (entry : BlacklistEntry)
 | moderate (currentRoom : String)
 | dispatch (currentRoom sender : String)
 | deliver (currentRoom sender : String) (targets : List Session)
 | stop (sessions : List Session)

structure WhisperRequest where
 session : Session
 targetUser : String
 text : String

inductive WhisperPoint where
 | authorize
 | identify
 | collect (sender : String)
 | deliver (sender : String) (targets : List Session)

inductive ClosePoint where
 | start
 | hook
 | main
 | presence (closed : Closed)

inductive ModerationPoint where
 | start
 | apply (now : Nat)
 | stop (sessions : List Session)

inductive Chore where
 | summaries
 | targets (room sender : String)
 | names (room : String)

inductive Job where
 | login (request : LoginRequest) (point : LoginPoint)
 | join (request : JoinRequest) (point : JoinPoint)
 | leave (request : LeaveRequest) (point : LeavePoint)
 | send (request : SendRequest) (point : SendPoint)
 | whisper (request : WhisperRequest) (point : WhisperPoint)
 | close (session : Session) (point : ClosePoint)
 | moderate (request : ModerationRequest) (point : ModerationPoint)
 | chores (session : Session) (work : List Chore)

namespace Job

def holds : Job -> List Session
 | .login request _ => [request.session]
 | .join request _ => [request.session]
 | .leave request _ => [request.session]
 | .send request (.stop sessions) => request.session :: sessions
 | .send request (.deliver _ _ targets) => request.session :: targets
 | .send request _ => [request.session]
 | .whisper request (.deliver _ targets) => request.session :: targets
 | .whisper request _ => [request.session]
 | .close session _ => [session]
 | .moderate _ (.stop sessions) => sessions
 | .moderate _ _ => []
 | .chores session _ => [session]

end Job

structure BanRecord where
 targets : List String
 expiresAt : Nat
 publishedBefore : Nat
 affected : List Session

structure Admission where
 user : String
 room : String
 gate : JoinGate

structure Expulsion where
 user : String
 room : String
 admittedBefore : Nat

/-- `accepted`, `closed` and everything from `published` on record what has happened and are
never read by the code. -/
structure World where
 state : ChatServiceState
 store : ContinuityStore
 live : List Session
 accepted : List Session
 clock : Nat
 queue : List Job
 stopped : List Session
 closed : List Session
 published : List (Session × String)
 issued : List (Session × String × ContinuityLease)
 bans : List BanRecord
 admissions : List Admission
 expulsions : List Expulsion

namespace World

def empty : World where
 state := ChatServiceState.empty
 store := ContinuityStore.empty
 live := []
 accepted := []
 clock := 0
 queue := []
 stopped := []
 closed := []
 published := []
 issued := []
 bans := []
 admissions := []
 expulsions := []

def setState (world : World) (state : ChatServiceState) : World := { world with state }

def stop (world : World) (session : Session) : World :=
 if session ∈ world.stopped then world
 else
  { world with
    stopped := session :: world.stopped
    queue := world.queue ++ [.close session .start] }

def stopAll (world : World) (sessions : List Session) : World :=
 sessions.foldl stop world

def createSessionUuid (choices : Choices) (world : World) (session : Session) : World :=
 world.setState (world.state.getOrCreateSessionUuid session choices.generatedUuid).1

end World

variable (runtime : Runtime) (choices : Choices) (world : World)
 (request : LoginRequest) (session : Session) (lease : Option ContinuityLease) (room : String)

def LoginRequest.settle (newUser : String) : Login :=
 match lease with
 | none =>
  { newUser
    guestMode := request.user = "" \/ request.user = "guest"
    hwidHash := runtime.hashHwidToken request.token
    trackedUserUuid := ""
    continuitySessionId := ""
    continuityResumeToken := ""
    continuityExpiresUnixMs := 0
    currentWorld := runtime.defaultWorldId
    currentRoom := "lobby"
    resumedLogin := false }
 | some lease =>
  { newUser
    guestMode := false
    hwidHash := runtime.hashHwidToken ""
    trackedUserUuid := lease.userId
    continuitySessionId := lease.logicalSessionId
    continuityResumeToken := lease.resumeToken
    continuityExpiresUnixMs := lease.expiresUnixMs
    currentWorld := if lease.worldId = "" then runtime.defaultWorldId else lease.worldId
    currentRoom := if lease.room = "" then "lobby" else lease.room
    resumedLogin := true }

def LoginRequest.requestedUser : String :=
 match lease with
 | none => request.user
 | some lease => lease.effectiveUser

def persistLogin (login : Login) : ContinuityStore :=
 if login.continuitySessionId = "" then world.store
 else
  world.store.persistContinuity runtime world.clock login.continuitySessionId login.currentWorld
   login.currentRoom login.continuityExpiresUnixMs

def stepLogin : LoginPoint -> World × Option Job
 | .start => (world.createSessionUuid choices request.session, some (.login request .register))
 | .register => (world.setState (world.state.registerSessionId request.session), some (.login request .resume))
 | .resume =>
  let lease :=
   tryResumeContinuityLease runtime world.store world.clock choices.databaseFails request.token
  if (extractResumeToken request.token).isSome /\ lease = none then (world, none)
  else (world, some (.login request (.unique lease)))
 | .unique lease =>
  let (state, verdict) :=
   world.state.ensureUniqueOrError world.live (request.requestedUser lease) choices.temporaryNames
  match verdict with
  | .proceed newUser =>
   if newUser = "" then (world.setState state, none)
   else
    (world.setState state, some (.login request (.hook (request.settle runtime lease newUser) world.published.length)))
  | _ => (world.setState state, none)
 | .hook login checkedAt =>
  if choices.hookHandled then (world, none)
  else (world, some (.login request (.bans login checkedAt world.clock)))
 | .bans login checkedAt now =>
  let (state, denyReason) :=
   world.state.checkBans login.newUser request.session.remoteIp login.hwidHash now
  if denyReason = "" then (world.setState state, some (.login request (.publish login checkedAt)))
  else (world.setState state, none)
 | .publish login _ =>
  let next :=
   { world with
     state := world.state.publishLogin request.session login
     published := (request.session, login.newUser) :: world.published }
  let settled := { login with currentRoom := login.room }
  (next, some (.login request (if runtime.dbPool then .readUid settled else .lease settled)))
 | .readUid login =>
  let uid := (world.state.userUuid.lookup request.session.pointer).getD ""
  (world, some (.login request (.storeUid login uid)))
 | .storeUid login uid =>
  if uid = "" then
   let resolved := if choices.databaseFails then "" else runtime.users.idOf login.newUser
   if resolved = "" then (world, some (.login request (.lease login)))
   else
    (world.setState (world.state.storeUserUuid request.session resolved),
      some (.login request (.lease { login with trackedUserUuid := resolved })))
  else (world, some (.login request (.lease { login with trackedUserUuid := uid })))
 | .lease login =>
  if login.continuitySessionId = "" /\ login.trackedUserUuid ≠ "" then
   match issueContinuityLease runtime world.store world.clock choices.databaseFails choices.leaseRowId
    choices.leaseToken login.trackedUserUuid login.newUser login.currentWorld login.currentRoom with
   | none => (world, some (.login request (.presence login)))
   | some (store, lease) =>
    let leased :=
     { login with
       continuitySessionId := lease.logicalSessionId
       continuityResumeToken := lease.resumeToken
       continuityExpiresUnixMs := lease.expiresUnixMs
       currentWorld := lease.worldId
       currentRoom := lease.room }
    ({ world with store, issued := (request.session, login.newUser, lease) :: world.issued },
      some (.login request (.keepLease leased)))
  else
   ({ world with store := persistLogin runtime world login }, some (.login request (.presence login)))
 | .keepLease login =>
  (world.setState (world.state.keepLease request.session login.continuitySessionId
     login.continuityExpiresUnixMs login.currentWorld),
    some (.login request (.presence login)))
 | .presence login =>
  if runtime.redis then
   ({ world with store := persistLogin runtime world login },
     some (.chores request.session [.targets login.currentRoom ""]))
  else (world, none)

def forgetsRoom : Bool :=
 runtime.redis && runtime.dbPool && choices.roomEmptied && room ≠ "" && room ≠ "lobby"

def snapshot : List Chore :=
 if runtime.redis then [.summaries] else [.summaries, .names room]

def refresh (rooms : List String) : List Chore :=
 rooms.map fun room => .targets room ""

def stepJoin (request : JoinRequest) : JoinPoint -> World × Option Job
 | .start => (world.createSessionUuid choices request.session, some (.join request .enter))
 | .enter =>
  let redisPassword := if runtime.redis then choices.redisPassword else none
  let (state, verdict) :=
   world.state.joinRoom runtime world.live request redisPassword choices.hookHandled
  match verdict with
  | .proceed joined =>
   let admission :=
    { user := joined.sender
      room := request.roomToJoin
      gate := world.state.gateFor runtime request redisPassword : Admission }
   ({ world with state, admissions := admission :: world.admissions },
     some (.join request (.persist joined)))
  | _ => (world.setState state, none)
 | .persist joined =>
  let store :=
   if joined.logicalSessionId = "" then world.store
   else
    world.store.persistContinuityRoom runtime world.clock joined.logicalSessionId request.roomToJoin
     joined.logicalSessionExpiresUnixMs
  ({ world with store }, some (.join request (.settle joined)))
 | .settle joined =>
  let room := request.roomToJoin
  let moved : Bool := joined.previousRoom ≠ "" /\ joined.previousRoom ≠ room
  let state :=
   if moved && forgetsRoom runtime choices joined.previousRoom then
    world.state.forgetRoomOwnership joined.previousRoom
   else world.state
  let refreshed := (if room = "lobby" then [] else [room]) ++
   if moved /\ joined.previousRoom ≠ "lobby" then [joined.previousRoom] else []
  (world.setState state, some (.chores request.session (snapshot runtime room ++ refresh ("lobby" :: refreshed))))

def stepLeave (request : LeaveRequest) : LeavePoint -> World × Option Job
 | .start => (world.createSessionUuid choices request.session, some (.leave request .exit))
 | .exit =>
  let (state, verdict) := world.state.leaveRoom world.live request choices.hookHandled
  match verdict with
  | .proceed left => (world.setState state, some (.leave request (.persist left)))
  | _ => (world.setState state, none)
 | .persist left =>
  let store :=
   if left.logicalSessionId = "" then world.store
   else
    world.store.persistContinuityRoom runtime world.clock left.logicalSessionId "lobby"
     left.logicalSessionExpiresUnixMs
  ({ world with store }, some (.leave request (.settle left)))
 | .settle left =>
  let state :=
   if forgetsRoom runtime choices left.roomToLeave then
    world.state.forgetRoomOwnership left.roomToLeave
   else world.state
  let refreshed := if left.roomToLeave = "lobby" then [] else [left.roomToLeave]
  (world.setState state, some (.chores request.session
     (.targets "lobby" left.senderName :: refresh ("lobby" :: refreshed) ++ snapshot runtime "lobby")))

section

variable (request : SendRequest) (act : ChatServiceState -> ChatServiceState × List Session)

def manageRoom (chores : List Session -> List Chore) : World × Option Job :=
 if world.state.actorCanManageRoom runtime session room then
  let (state, moved) := act world.state
  let expelled := moved.map fun other =>
   { user := world.state.actorName other
     room
     admittedBefore := world.admissions.length : Expulsion }
  ({ world with state, expulsions := expelled ++ world.expulsions },
    some (.chores session (chores moved)))
 else (world, none)

def administer : World × Option Job :=
 if world.state.actorIsAdmin runtime request.session then
  let (state, affected) := act world.state
  (world.setState state, some (.send request (.stop affected)))
 else (world, none)

def blacklist (targetUser : String) (point : BlacklistEntry -> SendPoint) : World × Option Job :=
 let actor := world.state.actorName request.session
 if actor = "" \/ actor = "guest" then (world, none)
 else if named : targetUser = "" then (world, none)
 else if others : targetUser = actor then (world, none)
 else (world, some (.send request (point { actor, targetUser, named, others })))

def runCommand (currentRoom : String) : SlashCommand -> World × Option Job
 | .notACommand => (world, some (.send request (.moderate currentRoom)))
 | .usage => (world, none)
 | .refresh => (world, some (.chores request.session (snapshot runtime currentRoom)))
 | .rooms => (world, some (.chores request.session [.summaries]))
 | .who room => (world, some (.send request (.who room)))
 | .whisper user text => (world, some (.whisper ⟨request.session, user, text⟩ .authorize))
 | .invite user room =>
  manageRoom runtime world request.session room (fun state => (state.inviteToRoom user room, []))
   fun _ => []
 | .kick user room =>
  manageRoom runtime world request.session room (fun state => state.kickFromRoom world.live user room)
   fun kicked =>
    if kicked = [] then []
    else kicked.flatMap (fun _ => snapshot runtime "lobby") ++ refresh [room, "lobby"]
 | .removeRoom room =>
  manageRoom runtime world request.session room (fun state => state.removeRoom world.live room)
   fun moved => moved.flatMap (fun _ => snapshot runtime "lobby") ++ refresh [room, "lobby"]
 | .mute user seconds =>
  administer runtime world request fun state =>
   (state.imposeMute user (world.clock + seconds * 1000) "muted by admin", [])
 | .unmute user =>
  administer runtime world request fun state => ({ state with mutedUsers := state.mutedUsers.erase user }, [])
 | .ban user seconds =>
  administer runtime world request fun state =>
   (state.imposeBan user (world.clock + seconds * 1000) "banned by admin").collectUserSessions
     world.live user
 | .unban user => administer runtime world request fun state => (state.liftBan user, [])
 | .gkick user => administer runtime world request fun state => state.collectUserSessions world.live user
 | .blacklistList => (world, none)
 | .blacklistAdd user => blacklist world request user .block
 | .blacklistRemove user => blacklist world request user .unblock

def stepSend : SendPoint -> World × Option Job
 | .check =>
  if request.text = "/refresh" then
   let current := (world.state.curRoom.lookup request.session.pointer).getD "lobby"
   (world, some (.chores request.session (snapshot runtime current)))
  else if request.session.pointer ∉ world.state.authed then (world, none)
  else
   match world.state.curRoom.lookup request.session.pointer with
   | none => (world, none)
   | some authoritativeRoom =>
    if request.room ≠ "" /\ request.room ≠ authoritativeRoom then (world, none)
    else (world, some (.send request (.command authoritativeRoom)))
 | .command currentRoom =>
  runCommand runtime world request currentRoom (SlashCommand.parse runtime currentRoom request.text)
 | .who room =>
  let (state, isMember) := world.state.roomContainsSession world.live room request.session
  let isLocked := (state.roomPasswords.lookup room).isSome
  (world.setState state, if (isLocked && !isMember) || runtime.redis then none
    else some (.chores request.session [.names room]))
 | .block entry => (world.setState (world.state.addBlacklistEntry entry.actor entry.targetUser), none)
 | .unblock entry => (world.setState (world.state.removeBlacklistEntry entry.actor entry.targetUser), none)
 | .moderate currentRoom =>
  let (state, moderation) :=
   world.state.evaluateChatSendModeration runtime world.live request.session world.clock
  let next := world.setState state
  if moderation.sender = "guest" then (next, none)
  else if moderation.senderIsBanned then (next, some (.send request (.stop [request.session])))
  else if moderation.senderIsMuted then (next, none)
  else if moderation.spamEscalated then
   if moderation.spamEscalatedToBan then
    (next, some (.send request (.stop moderation.penalizedSessions)))
   else (next, none)
  else if choices.hookHandled then (next, none)
  else (next, some (.send request (.dispatch currentRoom moderation.sender)))
 | .dispatch currentRoom sender =>
  let (state, targets) := world.state.collectChatBroadcastTargets world.live currentRoom sender
  (world.setState state, some (.send request (.deliver currentRoom sender targets)))
 | .deliver _ _ _ => (world, none)
 | .stop sessions => (world.stopAll sessions, none)

end

def stepWhisper (request : WhisperRequest) : WhisperPoint -> World × Option Job
 | .authorize =>
  if request.targetUser = "" \/ request.text = "" then (world, none)
  else if request.session.pointer ∉ world.state.authed then (world, none)
  else (world, some (.whisper request .identify))
 | .identify =>
  let sender := world.state.actorName request.session
  if sender = "guest" \/ request.session.pointer ∈ world.state.guest then (world, none)
  else if request.targetUser = sender then (world, none)
  else (world, some (.whisper request (.collect sender)))
 | .collect sender =>
  let (state, targets, ineligibleFound) :=
   world.state.collectWhisperTargets world.live request.session sender request.targetUser
  -- Without a receiver here the whisper is published; the sender gets a copy in both cases.
  let delivers : Bool := targets ≠ [] \/ !ineligibleFound /\ runtime.redis /\ choices.whisperRouted
  (world.setState state, if delivers then some (.whisper request (.deliver sender targets)) else none)
 | .deliver _ _ => (world, none)

def stepClose : ClosePoint -> World × Option Job
 | .start => (world.createSessionUuid choices session, some (.close session .hook))
 | .hook => (world, some (.close session .main))
 | .main =>
  let (state, closed) := world.state.closeSession world.live session
  ({ world with state, closed := session :: world.closed }, some (.close session (.presence closed)))
 | .presence closed =>
  if closed.roomLeft = "" then (world, none)
  else (world, some (.chores session [.targets closed.roomLeft ""]))

def stepModeration (request : ModerationRequest) : ModerationPoint -> World × Option Job
 | .start => (world, some (.moderate request (.apply world.clock)))
 | .apply now =>
  let (state, affected) := world.state.applyUserModeration runtime world.live request now
  let record :=
   { targets := request.targets
     expiresAt := request.banExpiresAt runtime now
     publishedBefore := world.published.length
     affected : BanRecord }
  let bans := if request.op = .ban then record :: world.bans else world.bans
  let stops : Bool := request.op = .ban \/ request.op = .kick
  ({ world with state, bans }, if stops then some (.moderate request (.stop affected)) else none)
 | .stop sessions => (world.stopAll sessions, none)

def doChore : Chore -> ChatServiceState
 | .summaries => (world.state.collectLocalRoomSummaries world.live).1
 | .targets room sender => (world.state.collectRoomTargets world.live room sender).1
 | .names room => (world.state.collectRoomUserNames world.live room).1

def stepChores : List Chore -> World × Option Job
 | [] => (world, none)
 | chore :: rest => (world.setState (doChore world chore), some (.chores session rest))

def Job.step : Job -> World × Option Job
 | .login request point => stepLogin runtime choices world request point
 | .join request point => stepJoin runtime choices world request point
 | .leave request point => stepLeave runtime choices world request point
 | .send request point => stepSend runtime choices world request point
 | .whisper request point => stepWhisper runtime choices world request point
 | .close session point => stepClose choices world session point
 | .moderate request point => stepModeration runtime world request point
 | .chores session work => stepChores world session work

end Dynaxis.Chat
