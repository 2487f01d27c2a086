import Dynaxis.Chat.Effects

namespace Dynaxis.Chat

open Shared ChatServiceState

structure UserRecords where
 bannedUsers : Table String TimedPenalty
 bannedIps : Table String Nat
 bannedHwidHashes : Table String Nat
 userBlacklists : Table String (Finset String)

def ChatServiceState.userRecords (state : ChatServiceState) : UserRecords where
 bannedUsers := state.bannedUsers
 bannedIps := state.bannedIps
 bannedHwidHashes := state.bannedHwidHashes
 userBlacklists := state.userBlacklists

inductive RecordAction where
 | checkBans (newUser loginIp hwidHash : String) (now : Nat)
 | moderateSend (session : Session) (now : Nat)
 | ban (user : String) (expiresAt : Nat)
 | unban (user : String)
 | block (entry : BlacklistEntry)
 | unblock (entry : BlacklistEntry)
 | moderate (request : ModerationRequest) (now : Nat)

def RecordAction.applyTo (runtime : Runtime) (live : List Session) (state : ChatServiceState) :
  RecordAction -> ChatServiceState
 | .checkBans newUser loginIp hwidHash now => (state.checkBans newUser loginIp hwidHash now).1
 | .moderateSend session now => (state.evaluateChatSendModeration runtime live session now).1
 | .ban user expiresAt => state.imposeBan user expiresAt "banned by admin"
 | .unban user => state.liftBan user
 | .block entry => state.addBlacklistEntry entry.actor entry.targetUser
 | .unblock entry => state.removeBlacklistEntry entry.actor entry.targetUser
 | .moderate request now => (state.applyUserModeration runtime live request now).1

def SlashCommand.recordAction (isAdmin : Bool) (now : Nat) : SlashCommand -> Option RecordAction
 | .ban user seconds => if isAdmin then some (.ban user (now + seconds * 1000)) else none
 | .unban user => if isAdmin then some (.unban user) else none
 | _ => none

def Job.recordAction (runtime : Runtime) (world : World) : Job -> Option RecordAction
 | .login request (.bans details _ now) =>
  some (.checkBans details.newUser request.session.remoteIp details.hwidHash now)
 | .send request (.command currentRoom) =>
  (SlashCommand.parse runtime currentRoom request.text).recordAction
    (world.state.actorIsAdmin runtime request.session) world.clock
 | .send _ (.block entry) => some (.block entry)
 | .send _ (.unblock entry) => some (.unblock entry)
 | .send request (.moderate _) => some (.moderateSend request.session world.clock)
 | .moderate request (.apply now) => some (.moderate request now)
 | _ => none

def World.recorded (runtime : Runtime) (world : World) : Option RecordAction -> ChatServiceState
 | none => world.state
 | some action => action.applyTo runtime world.live world.state

namespace ChatServiceState

variable {state next : ChatServiceState}

theorem userRecords_of_onlyRooms {curRoom : Table Pointer String}
  (only : ({ state with curRoom } : ChatServiceState).OnlyRooms next) : next.userRecords = state.userRecords := by
 obtain ⟨_, _, _, _, rfl⟩ := only
 rfl

variable {live : List Session}

theorem userRecords_of_prunesRooms (pruned : state.PrunesRooms live next) :
  next.userRecords = state.userRecords := by
 obtain ⟨_, _, _, _, rfl⟩ := pruned.onlyRooms
 rfl

theorem userRecords_of_prunesNames (pruned : state.PrunesNames live next) :
  next.userRecords = state.userRecords := by
 obtain ⟨_, rfl⟩ := pruned.onlyNames
 rfl

variable (live : List Session)

variable (state : ChatServiceState) (session : Session)

theorem userRecords_kickFromRoom (targetUser targetRoom : String) :
  (state.kickFromRoom live targetUser targetRoom).1.userRecords = state.userRecords := by
 refine kickFromRoom_induction (motive := fun current => current.userRecords = state.userRecords) ?_ ?_
 · exact userRecords_of_prunesNames (collectUserSessions_prunes live state targetUser)
 · intro current same candidate _ _ _
   exact (userRecords_of_onlyRooms (relocate_onlyRooms live current candidate targetRoom "lobby" _ _ _ _)).trans same

theorem userRecords_removeRoom (targetRoom : String) :
  (state.removeRoom live targetRoom).1.userRecords = state.userRecords := by
 obtain ⟨_, only, -⟩ := removeRoom_spec live state targetRoom
 exact userRecords_of_onlyRooms only

theorem userRecords_joinRoom (runtime : Runtime) (live : List Session) (state : ChatServiceState)
  (request : JoinRequest) (redisPassword : Option String) (hookHandled : Bool) :
  (state.joinRoom runtime live request redisPassword hookHandled).1.userRecords = state.userRecords := by
 obtain ⟨_, refused, -⟩ | ⟨roomPasswords, joined, -, -, -, -, -, entered⟩ :=
  joinRoom_cases runtime live state request redisPassword hookHandled
 · rw [refused]
   rfl
 · rw [entered]
   dsimp only
   rw [userRecords_of_prunesRooms (collectRoomTargets_prunes live _ request.roomToJoin _)]
   obtain ⟨_, _, _, _, moved⟩ := moveToRoom_onlyRooms live { state with roomPasswords } request.session
    request.roomToJoin (state.actorName request.session) _
   rw [moved]
   rfl

theorem userRecords_leaveRoom (request : LeaveRequest)
  (hookHandled : Bool) : (state.leaveRoom live request hookHandled).1.userRecords = state.userRecords := by
 obtain ⟨refused, -⟩ | ⟨_, -, -, -, -, only, -⟩ := leaveRoom_cases live state request hookHandled
 · rw [refused]
 · exact userRecords_of_onlyRooms only

theorem userRecords_closeSession :
  (state.closeSession live session).1.userRecords = state.userRecords := by
 obtain ⟨_, _, _, _, _, closed, -⟩ := state.closeSession_eq live session
 rw [closed]
 rfl

theorem userRecords_publishLogin (login : Login) :
  (state.publishLogin session login).userRecords = state.userRecords := by
 obtain ⟨_, _, _, _, published⟩ := state.publishLogin_onlyRooms session login
 rw [published]
 rfl

theorem userRecords_getOrCreateSessionUuid (generated : String) :
  (state.getOrCreateSessionUuid session generated).1.userRecords = state.userRecords := by
 obtain ⟨_, same, -⟩ := state.getOrCreateSessionUuid_eq session generated
 rw [same]
 rfl

end ChatServiceState

variable (runtime : Runtime) (choices : Choices) (world : World)

theorem runCommand_records (request : SendRequest) (currentRoom : String) (command : SlashCommand) :
  (runCommand runtime world request currentRoom command).1.state.userRecords =
    (world.recorded runtime (command.recordAction
      (world.state.actorIsAdmin runtime request.session) world.clock)).userRecords := by
 have managed (room : String) (act : ChatServiceState -> ChatServiceState × List Session)
   (chores : List Session -> List Chore) (same : (act world.state).1.userRecords = world.state.userRecords) :
   (manageRoom runtime world request.session room act chores).1.state.userRecords = world.state.userRecords := by
  unfold manageRoom
  split
  · exact same
  · rfl
 have looked (act : ChatServiceState -> ChatServiceState × List Session)
   (same : (act world.state).1.userRecords = world.state.userRecords) :
   (administer runtime world request act).1.state.userRecords = world.state.userRecords := by
  unfold administer
  split
  · exact same
  · rfl
 -- whether the actor is an admin decides on both sides
 have acted (act : ChatServiceState -> ChatServiceState × List Session) (action : RecordAction)
   (same : (act world.state).1.userRecords = (action.applyTo runtime world.live world.state).userRecords) :
   (administer runtime world request act).1.state.userRecords = (world.recorded runtime
       (if world.state.actorIsAdmin runtime request.session then some action else none)).userRecords := by
  unfold administer
  split
  · exact same
  · rfl
 cases command with
 | notACommand | usage | refresh | rooms | who room | whisper user text | blacklistList => rfl
 | blacklistAdd user | blacklistRemove user =>
  simp only [runCommand, blacklist]
  repeat' split
  all_goals rfl
 | invite user room => exact managed room _ _ rfl
 | kick user room => exact managed room _ _ (userRecords_kickFromRoom ..)
 | removeRoom room => exact managed room _ _ (userRecords_removeRoom ..)
 | mute user seconds | unmute user => exact looked _ rfl
 | ban user seconds =>
  exact acted _ (.ban user _) (userRecords_of_prunesNames (collectUserSessions_prunes ..))
 | unban user => exact acted _ (.unban user) rfl
 | gkick user => exact looked _ (userRecords_of_prunesNames (collectUserSessions_prunes ..))

theorem stepLogin_records (request : LoginRequest) (point : LoginPoint) :
  (stepLogin runtime choices world request point).1.state.userRecords =
    (world.recorded runtime ((Job.login request point).recordAction runtime world)).userRecords := by
 cases point with
 | start => exact userRecords_getOrCreateSessionUuid ..
 | register | readUid login | keepLease login => rfl
 | resume | hook login checkedAt | bans login checkedAt now | presence login =>
  simp only [stepLogin]
  split <;> rfl
 | unique lease =>
  have pruned := userRecords_of_prunesNames (world.state.ensureUniqueOrError_prunes world.live
   (request.requestedUser lease) choices.temporaryNames)
  simp only [stepLogin]
  split
  · split <;> exact pruned
  · exact pruned
 | publish login checkedAt => exact userRecords_publishLogin ..
 | storeUid login uid | lease login =>
  simp only [stepLogin]
  repeat' split
  all_goals rfl

theorem stepSend_records (request : SendRequest) (point : SendPoint) :
  (stepSend runtime choices world request point).1.state.userRecords =
    (world.recorded runtime ((Job.send request point).recordAction runtime world)).userRecords := by
 cases point with
 | check | moderate currentRoom =>
  simp only [stepSend]
  repeat' split
  all_goals rfl
 | command currentRoom => exact runCommand_records runtime world request currentRoom _
 | who room => exact userRecords_of_prunesRooms (roomContainsSession_prunes ..)
 | dispatch currentRoom sender => exact userRecords_of_prunesRooms (collectChatBroadcastTargets_prunes ..)
 | block entry | unblock entry | deliver currentRoom sender targets => rfl
 | stop sessions =>
  obtain ⟨_, stopped, -, -⟩ := world.stopAll_spec sessions
  simp only [stepSend, stopped]
  rfl

theorem Job.step_records (job : Job) : (job.step runtime choices world).1.state.userRecords =
    (world.recorded runtime (job.recordAction runtime world)).userRecords := by
 cases job with
 | login request point => exact stepLogin_records runtime choices world request point
 | join request point =>
  cases point with
  | start => exact userRecords_getOrCreateSessionUuid ..
  | enter =>
   simp only [step, stepJoin]
   split <;> exact userRecords_joinRoom ..
  | persist joined => rfl
  | settle joined =>
   simp only [step, stepJoin, World.setState]
   split <;> rfl
 | leave request point =>
  cases point with
  | start => exact userRecords_getOrCreateSessionUuid ..
  | exit =>
   simp only [step, stepLeave]
   split <;> exact userRecords_leaveRoom ..
  | persist left => rfl
  | settle left =>
   simp only [step, stepLeave, World.setState]
   split <;> rfl
 | send request point => exact stepSend_records runtime choices world request point
 | whisper request point =>
  cases point with
  | authorize | identify =>
   simp only [step, stepWhisper]
   repeat' split
   all_goals rfl
  | collect sender => exact userRecords_of_prunesNames (collectUserSessions_prunes ..)
  | deliver sender targets => rfl
 | close session point =>
  cases point with
  | start => exact userRecords_getOrCreateSessionUuid ..
  | hook => rfl
  | main => exact userRecords_closeSession ..
  | presence closed =>
   simp only [step, stepClose]
   split <;> rfl
 | moderate request point =>
  cases point with
  | start | apply now => rfl
  | stop sessions =>
   obtain ⟨_, stopped, -, -⟩ := world.stopAll_spec sessions
   simp only [step, stepModeration, stopped]
   rfl
 | chores session work =>
  cases work with
  | nil => rfl
  | cons chore rest => exact userRecords_of_prunesRooms (doChore_prunes world chore)

end Dynaxis.Chat
