import Dynaxis.Chat.Server

/-! Most steps only look at the tables of the sessions. `StateChange` lists the others, so that an invariant
is checked once for each of them and not once for every point of every job. -/

namespace Dynaxis.Chat

open Shared ChatServiceState List

structure SessionMaps where
 user : Table Pointer String
 userUuid : Table Pointer String
 sessionUuid : Table Pointer String
 logicalSessionId : Table Pointer String
 logicalSessionExpiresUnixMs : Table Pointer Nat
 curWorld : Table Pointer String
 curRoom : Table Pointer String
 sessionIp : Table Pointer String
 sessionHwidHash : Table Pointer String
 authed : Finset Pointer
 guest : Finset Pointer
 bySessionId : Table Nat Session

def ChatServiceState.sessionMaps (state : ChatServiceState) : SessionMaps where
 user := state.user
 userUuid := state.userUuid
 sessionUuid := state.sessionUuid
 logicalSessionId := state.logicalSessionId
 logicalSessionExpiresUnixMs := state.logicalSessionExpiresUnixMs
 curWorld := state.curWorld
 curRoom := state.curRoom
 sessionIp := state.sessionIp
 sessionHwidHash := state.sessionHwidHash
 authed := state.authed
 guest := state.guest
 bySessionId := state.bySessionId

structure Quiet (live : List Session) (state next : ChatServiceState) : Prop where
 sameMaps : next.sessionMaps = state.sessionMaps
 members_back : ∀ room session, session ∈ next.members room -> session ∈ state.members room
 members_kept : ∀ room, ∀ session ∈ live, session ∈ state.members room -> session ∈ next.members room
 sessionsOf_back : ∀ name session, session ∈ next.sessionsOf name -> session ∈ state.sessionsOf name
 sessionsOf_kept : ∀ name, ∀ session ∈ live,
  session ∈ state.sessionsOf name -> session ∈ next.sessionsOf name
 owners : state.KeepsOwners live next

namespace Quiet

variable {live : List Session} {state next : ChatServiceState}

theorem of_eq (sameMaps : next.sessionMaps = state.sessionMaps) (sameRooms : next.rooms = state.rooms)
  (sameNames : next.byUser = state.byUser) (sameOwners : next.roomOwners = state.roomOwners) :
  Quiet live state next := by
 have members (room : String) : next.members room = state.members room := by simp [members, sameRooms]
 have sessionsOf (name : String) : next.sessionsOf name = state.sessionsOf name := by simp [sessionsOf, sameNames]
 constructor
 · exact sameMaps
 · exact fun room session member => members room ▸ member
 · exact fun room session _ member => (members room).symm ▸ member
 · exact fun name session member => sessionsOf name ▸ member
 · exact fun name session _ member => (sessionsOf name).symm ▸ member
 · exact ChatServiceState.KeepsOwners.of_eq sameOwners

theorem refl (live : List Session) (state : ChatServiceState) : Quiet live state state :=
 of_eq rfl rfl rfl rfl

theorem trans {middle : ChatServiceState} (left : Quiet live state middle) (right : Quiet live middle next) :
  Quiet live state next where
 sameMaps := right.sameMaps.trans left.sameMaps
 members_back := fun room session member => left.members_back room session (right.members_back room session member)
 members_kept := fun room session living member =>
  right.members_kept room session living (left.members_kept room session living member)
 sessionsOf_back := fun name session member =>
  left.sessionsOf_back name session (right.sessionsOf_back name session member)
 sessionsOf_kept := fun name session living member =>
  right.sessionsOf_kept name session living (left.sessionsOf_kept name session living member)
 owners := left.owners.trans right.owners left.members_kept

theorem of_prunesRooms (pruned : state.PrunesRooms live next) : Quiet live state next := by
 have names := pruned.onlyRooms.sessionsOf_eq
 constructor
 · obtain ⟨_, _, _, _, rfl⟩ := pruned.onlyRooms
   rfl
 · exact pruned.members_back
 · exact pruned.members_kept
 · exact fun name session member => names ▸ member
 · exact fun name session _ member => names ▸ member
 · exact pruned.owners

theorem of_prunesNames (pruned : state.PrunesNames live next) : Quiet live state next := by
 have rooms (room : String) : next.members room = state.members room := by
  obtain ⟨_, rfl⟩ := pruned.onlyNames
  rfl
 constructor
 · obtain ⟨_, rfl⟩ := pruned.onlyNames
   rfl
 · exact fun room session member => rooms room ▸ member
 · exact fun room session _ member => (rooms room).symm ▸ member
 · exact pruned.sessionsOf_back
 · exact pruned.sessionsOf_kept
 · obtain ⟨_, rfl⟩ := pruned.onlyNames
   exact ChatServiceState.KeepsOwners.of_eq rfl

end Quiet

namespace ChatServiceState

variable (runtime : Runtime) (live : List Session) (state : ChatServiceState)

variable (request : ModerationRequest) (now : Nat) (progress : ChatServiceState × List Session)
 (name : String)

theorem collectUserSessions_quiet : Quiet live state (state.collectUserSessions live name).1 :=
 Quiet.of_prunesNames (collectUserSessions_prunes live state name)

theorem imposeBan_quiet (expiresAt : Nat) (reason : String) :
  Quiet live state (state.imposeBan name expiresAt reason) :=
 Quiet.of_eq rfl rfl rfl rfl

theorem removeBlacklistEntry_quiet (actor targetUser : String) :
  Quiet live state (state.removeBlacklistEntry actor targetUser) := by
 unfold removeBlacklistEntry
 split
 · exact .refl live state
 · dsimp only
   split <;> exact .of_eq rfl rfl rfl rfl

theorem evaluateChatSendModeration_quiet (session : Session) (now : Nat) :
  Quiet live state (state.evaluateChatSendModeration runtime live session now).1 := by
 have muted (current : ChatServiceState) (result : ChatSendModerationResult) :
   Quiet live current (current.checkMuted result now).1 := by
  unfold checkMuted
  split
  · exact .refl live current
  · split <;> exact .of_eq rfl rfl rfl rfl
 have banned (current : ChatServiceState) (result : ChatSendModerationResult) :
   Quiet live current (current.checkBannedSender result now).1 := by
  unfold checkBannedSender
  split
  · exact .refl live current
  · split <;> exact .of_eq rfl rfl rfl rfl
 have escalated (current : ChatServiceState) (result : ChatSendModerationResult) :
   Quiet live current (current.escalateSpam runtime live result now).1 := by
  unfold escalateSpam
  dsimp only
  split
  · refine .trans ?_ (collectUserSessions_quiet live _ _)
    exact .of_eq rfl rfl rfl rfl
  · exact .of_eq rfl rfl rfl rfl
 unfold evaluateChatSendModeration
 dsimp only
 split
 · exact .refl live state
 · have checked (first second : ChatSendModerationResult) :=
    (muted state first).trans (banned (state.checkMuted first now).1 second)
   split
   · exact checked _ _
   · split
     · exact (checked _ _).trans (.of_eq rfl rfl rfl rfl)
     · refine .trans ?_ (escalated _ _)
       exact (checked _ _).trans (.of_eq rfl rfl rfl rfl)

theorem moderateUser_quiet :
  Quiet live progress.1 (moderateUser runtime live request now progress name).1 := by
 obtain ⟨current, affected⟩ := progress
 unfold moderateUser
 dsimp only
 split
 · exact .of_eq rfl rfl rfl rfl
 · exact .of_eq rfl rfl rfl rfl
 · exact (imposeBan_quiet live current _ _ _).trans (collectUserSessions_quiet live _ name)
 · exact .of_eq rfl rfl rfl rfl
 · exact collectUserSessions_quiet live current name

theorem applyUserModeration_quiet :
  Quiet live state (state.applyUserModeration runtime live request now).1 := by
 unfold applyUserModeration
 refine foldlRecOn (motive := fun progress : ChatServiceState × List Session =>
  Quiet live state progress.1) _ _ (.refl live state) ?_
 intro progress quiet name _
 exact quiet.trans (moderateUser_quiet runtime live request now progress name)

end ChatServiceState

structure Moves (live : List Session) (state next : ChatServiceState) : Prop where
 sameMaps : ∃ curRoom, next.sessionMaps = { state.sessionMaps with curRoom }
 sessionsOf_back : ∀ name session, session ∈ next.sessionsOf name -> session ∈ state.sessionsOf name
 sessionsOf_kept : ∀ name, ∀ session ∈ live,
  session ∈ state.sessionsOf name -> session ∈ next.sessionsOf name

namespace Moves

variable {live : List Session} {state next : ChatServiceState}

theorem of_quiet (quiet : Quiet live state next) : Moves live state next where
 sameMaps := ⟨_, quiet.sameMaps⟩
 sessionsOf_back := quiet.sessionsOf_back
 sessionsOf_kept := quiet.sessionsOf_kept

theorem of_onlyRooms {curRoom : Table Pointer String}
  (only : ({ state with curRoom } : ChatServiceState).OnlyRooms next) : Moves live state next := by
 have names : state.sessionsOf = next.sessionsOf := only.sessionsOf_eq
 obtain ⟨_, _, _, _, rfl⟩ := only
 exact ⟨⟨_, rfl⟩, fun _ _ member => names ▸ member, fun _ _ _ member => names ▸ member⟩

theorem trans {middle : ChatServiceState} (left : Moves live state middle) (right : Moves live middle next) :
  Moves live state next where
 sameMaps := by
  obtain ⟨_, first⟩ := left.sameMaps
  obtain ⟨_, second⟩ := right.sameMaps
  exact ⟨_, by rw [second, first]⟩
 sessionsOf_back := fun name session member =>
  left.sessionsOf_back name session (right.sessionsOf_back name session member)
 sessionsOf_kept := fun name session living member =>
  right.sessionsOf_kept name session living (left.sessionsOf_kept name session living member)

theorem joinRoom (runtime : Runtime) (live : List Session) (state : ChatServiceState)
  (request : JoinRequest) (redisPassword : Option String) (hookHandled : Bool) :
  Moves live state (state.joinRoom runtime live request redisPassword hookHandled).1 := by
 obtain ⟨_, refused, -⟩ | ⟨roomPasswords, joined, -, -, -, -, -, entered⟩ :=
  joinRoom_cases runtime live state request redisPassword hookHandled
 · rw [refused]
   exact of_quiet (.of_eq rfl rfl rfl rfl)
 · rw [entered]
   have secured : Quiet live state { state with roomPasswords } := Quiet.of_eq rfl rfl rfl rfl
   have moved := moveToRoom_onlyRooms live { state with roomPasswords } request.session
    request.roomToJoin (state.actorName request.session)
   exact (of_quiet secured).trans ((of_onlyRooms (moved _)).trans (of_quiet (.of_prunesRooms
    (collectRoomTargets_prunes live _ request.roomToJoin _))))

theorem leaveRoom (live : List Session) (state : ChatServiceState) (request : LeaveRequest)
  (hookHandled : Bool) : Moves live state (state.leaveRoom live request hookHandled).1 := by
 obtain ⟨refused, -⟩ | ⟨_, -, -, -, -, only, -⟩ :=
  leaveRoom_cases live state request hookHandled
 · rw [refused]
   exact of_quiet (.refl live state)
 · exact of_onlyRooms only

theorem kickFromRoom (live : List Session) (state : ChatServiceState) (targetUser targetRoom : String) :
  Moves live state (state.kickFromRoom live targetUser targetRoom).1 := by
 apply kickFromRoom_induction
 case start => exact of_quiet (.of_prunesNames (collectUserSessions_prunes live state targetUser))
 case evict =>
  intro current reached candidate _ _ _
  exact reached.trans (of_onlyRooms (relocate_onlyRooms live current candidate targetRoom "lobby" _ _ _ _))

theorem removeRoom (live : List Session) (state : ChatServiceState) (targetRoom : String) :
  Moves live state (state.removeRoom live targetRoom).1 := by
 obtain ⟨_, only, -⟩ := removeRoom_spec live state targetRoom
 exact of_onlyRooms only

end Moves

def Job.forgets (runtime : Runtime) (choices : Choices) : Job -> Option String
 | .join request (.settle joined) =>
  let moved : Bool := joined.previousRoom ≠ "" /\ joined.previousRoom ≠ request.roomToJoin
  if moved && forgetsRoom runtime choices joined.previousRoom then some joined.previousRoom else none
 | .leave _ (.settle left) => if forgetsRoom runtime choices left.roomToLeave then some left.roomToLeave else none
 | _ => none

inductive StateChange (runtime : Runtime) (choices : Choices) (live : List Session)
  (state : ChatServiceState) :
  Job -> ChatServiceState -> Prop where
 | quiet {job : Job} {next : ChatServiceState} (quiet : Quiet live state next) :
  StateChange runtime choices live state job next
 | loginUuid (request : LoginRequest) (generated : String) :
  StateChange runtime choices live state (.login request .start)
   (state.getOrCreateSessionUuid request.session generated).1
 | joinUuid (request : JoinRequest) (generated : String) :
  StateChange runtime choices live state (.join request .start)
   (state.getOrCreateSessionUuid request.session generated).1
 | leaveUuid (request : LeaveRequest) (generated : String) :
  StateChange runtime choices live state (.leave request .start)
   (state.getOrCreateSessionUuid request.session generated).1
 | closeUuid (session : Session) (generated : String) :
  StateChange runtime choices live state (.close session .start)
   (state.getOrCreateSessionUuid session generated).1
 | register (request : LoginRequest) :
  StateChange runtime choices live state (.login request .register) (state.registerSessionId request.session)
 | publish (request : LoginRequest) (login : Login) (checkedAt : Nat) :
  StateChange runtime choices live state (.login request (.publish login checkedAt))
   (state.publishLogin request.session login)
 | storeUid (request : LoginRequest) (login : Login) (answers : choices.databaseFails = false)
  (known : runtime.users.idOf login.newUser ≠ "") :
  StateChange runtime choices live state (.login request (.storeUid login ""))
   (state.storeUserUuid request.session (runtime.users.idOf login.newUser))
 | keepLease (request : LoginRequest) (login : Login) :
  StateChange runtime choices live state (.login request (.keepLease login))
   (state.keepLease request.session login.continuitySessionId login.continuityExpiresUnixMs login.currentWorld)
 | join (request : JoinRequest) (redisPassword : Option String) (hookHandled : Bool) :
  StateChange runtime choices live state (.join request .enter)
   (state.joinRoom runtime live request redisPassword hookHandled).1
 | leave (request : LeaveRequest) (hookHandled : Bool) :
  StateChange runtime choices live state (.leave request .exit) (state.leaveRoom live request hookHandled).1
 | forget {job : Job} (room : String) (forgets : job.forgets runtime choices = some room) :
  StateChange runtime choices live state job (state.forgetRoomOwnership room)
 | kick (request : SendRequest) (currentRoom targetUser targetRoom : String)
  (notLobby : targetRoom ≠ "lobby")
  (allowed : state.actorCanManageRoom runtime request.session targetRoom = true) :
  StateChange runtime choices live state (.send request (.command currentRoom))
   (state.kickFromRoom live targetUser targetRoom).1
 | removeRoom (request : SendRequest) (currentRoom targetRoom : String) (notLobby : targetRoom ≠ "lobby")
  (allowed : state.actorCanManageRoom runtime request.session targetRoom = true) :
  StateChange runtime choices live state (.send request (.command currentRoom))
   (state.removeRoom live targetRoom).1
 | close (session : Session) :
  StateChange runtime choices live state (.close session .main) (state.closeSession live session).1

namespace SlashCommand

inductive Parsed : SlashCommand -> Prop where
 | notACommand : Parsed .notACommand
 | usage : Parsed .usage
 | refresh : Parsed .refresh
 | rooms : Parsed .rooms
 | who (room : String) : Parsed (.who room)
 | whisper {user text : String} (named : user ≠ "") (said : text ≠ "") : Parsed (.whisper user text)
 | invite {user room : String} (named : user ≠ "") (notLobby : room ≠ "lobby") : Parsed (.invite user room)
 | kick {user room : String} (named : user ≠ "") (notLobby : room ≠ "lobby") : Parsed (.kick user room)
 | removeRoom {room : String} (notLobby : room ≠ "lobby") : Parsed (.removeRoom room)
 | mute {user : String} (named : user ≠ "") (seconds : Nat) : Parsed (.mute user seconds)
 | unmute {user : String} (named : user ≠ "") : Parsed (.unmute user)
 | ban {user : String} (named : user ≠ "") (seconds : Nat) : Parsed (.ban user seconds)
 | unban {user : String} (named : user ≠ "") : Parsed (.unban user)
 | gkick {user : String} (named : user ≠ "") : Parsed (.gkick user)
 | blacklistList : Parsed .blacklistList
 | blacklistAdd (user : String) : Parsed (.blacklistAdd user)
 | blacklistRemove (user : String) : Parsed (.blacklistRemove user)

theorem parseUserAndRoom_parsed (currentRoom rest : String) {make : String -> String -> SlashCommand}
  (makes : ∀ {user room}, user ≠ "" -> room ≠ "lobby" -> (make user room).Parsed) :
  (parseUserAndRoom currentRoom rest make).Parsed := by
 unfold parseUserAndRoom
 dsimp only
 generalize (if (words rest).getD 1 "" = "" then currentRoom else (words rest).getD 1 "") = targetRoom
 split
 · exact .usage
 next given => exact makes (fun unnamed => given (.inl unnamed)) fun lobby => given (.inr (.inr lobby))

variable {make : String -> SlashCommand}

theorem parseUser_parsed (rest : String) (makes : ∀ {user}, user ≠ "" -> (make user).Parsed) :
  (parseUser rest make).Parsed := by
 unfold parseUser
 dsimp only
 split
 · exact .usage
 next named => exact makes named

variable (runtime : Runtime) (currentRoom text : String)

theorem parseRoomRemove_parsed (rest : String) : (parseRoomRemove currentRoom rest).Parsed := by
 unfold parseRoomRemove
 dsimp only
 generalize (if (words rest).getD 0 "" = "" then currentRoom else (words rest).getD 0 "") = targetRoom
 split
 · exact .usage
 next given => exact .removeRoom fun lobby => given (.inr lobby)

theorem parseWhisper_parsed (rest : String) : (parseWhisper rest).Parsed := by
 have spelled {letters : List Char} (some : letters ≠ []) : String.ofList letters ≠ "" := by
  intro empty
  exact some (by simpa using congrArg String.toList empty)
 unfold parseWhisper
 dsimp only
 generalize (if all _ _ = true then _ else _ : List Char) = text
 split
 · exact .usage
 next given =>
  exact .whisper (spelled fun unnamed => given (.inl unnamed))
   (spelled fun unsaid => given (.inr unsaid))

theorem parseBlacklist_parsed (rest : String) : (parseBlacklist rest).Parsed := by
 unfold parseBlacklist
 dsimp only
 split_ifs
 · exact .blacklistList
 · exact .blacklistAdd _
 · exact .blacklistRemove _
 · exact .usage

theorem keywords_parsed :
  ∀ entry ∈ keywords runtime currentRoom, ∀ rest, (entry.2 rest).Parsed := by
 simp only [keywords, forall_mem_cons]
 refine ⟨fun _ => .who _, parseWhisper_parsed, parseWhisper_parsed,
  fun rest => parseUserAndRoom_parsed currentRoom rest .invite,
  fun rest => parseUserAndRoom_parsed currentRoom rest .kick, parseRoomRemove_parsed currentRoom,
  ?_, ?_, ?_, ?_, ?_, ?_, ?_, parseBlacklist_parsed, fun _ member => absurd member not_mem_nil⟩
 · exact fun rest => parseUser_parsed rest fun named => .mute named _
 · exact fun rest => parseUser_parsed rest .unmute
 · exact fun rest => parseUser_parsed rest fun named => .ban named _
 · exact fun rest => parseUser_parsed rest .unban
 · exact fun rest => parseUser_parsed rest .gkick
 · exact fun rest => .blacklistAdd _
 · exact fun rest => .blacklistRemove _

theorem parse_parsed : (parse runtime currentRoom text).Parsed := by
 unfold parse
 split
 · exact .notACommand
 · split
   · exact .refresh
   · split
     · exact .rooms
     · generalize found : findSome? _ _ = result
       cases result with
       | none => exact .notACommand
       | some command =>
        obtain ⟨⟨keyword, make⟩, member, made⟩ := exists_of_findSome?_eq_some found
        obtain ⟨rest, -, rfl⟩ := Option.map_eq_some_iff.mp made
        exact keywords_parsed runtime currentRoom (keyword, make) member rest

end SlashCommand

variable (runtime : Runtime) (choices : Choices) (world : World)

theorem World.stopAll_spec (world : World) (sessions : List Session) : ∃ stops : List Session,
    world.stopAll sessions = { world with
      stopped := stops.reverse ++ world.stopped
      queue := world.queue ++ stops.map (.close · .start) } /\
   stops.Nodup /\ ∀ session ∈ stops, session ∈ sessions /\ session ∉ world.stopped := by
 induction sessions generalizing world with
 | nil => exact ⟨[], by simp [stopAll], nodup_nil, nofun⟩
 | cons session rest ih =>
  obtain ⟨stops, stopped, distinct, each⟩ := ih (world.stop session)
  have unfolded : world.stopAll (session :: rest) = (world.stop session).stopAll rest := rfl
  rw [unfolded, stopped]
  by_cases already : session ∈ world.stopped
  · have same : world.stop session = world := if_pos already
    rw [same] at each ⊢
    exact ⟨stops, rfl, distinct, fun other member => ⟨mem_cons_of_mem _ (each other member).1, (each other member).2⟩⟩
  · have added : world.stop session = { world with
       stopped := session :: world.stopped
       queue := world.queue ++ [.close session .start] } := if_neg already
    rw [added] at each ⊢
    refine ⟨session :: stops, by simp, ?_, ?_⟩
    · rw [nodup_cons]
      exact ⟨fun again => (each session again).2 mem_cons_self, distinct⟩
    · intro other member
      cases mem_cons.mp member with
      | inl same =>
       subst same
       exact ⟨mem_cons_self, already⟩
      | inr later =>
       obtain ⟨among, running⟩ := each other later
       exact ⟨mem_cons_of_mem _ among, fun old => running (mem_cons_of_mem _ old)⟩

theorem stepLogin_change (request : LoginRequest) (point : LoginPoint) :
  StateChange runtime choices world.live world.state (.login request point)
   (stepLogin runtime choices world request point).1.state := by
 have same : StateChange runtime choices world.live world.state (.login request point) world.state :=
  .quiet (.refl _ _)
 cases point with
 | start => exact .loginUuid request choices.generatedUuid
 | register => exact .register request
 | resume | hook login checkedAt | presence login =>
  simp only [stepLogin]
  split <;> exact same
 | unique lease =>
  have pruned := ensureUniqueOrError_prunes world.live world.state (request.requestedUser lease) choices.temporaryNames
  simp only [stepLogin]
  split
  · split <;> exact .quiet (.of_prunesNames pruned)
  · exact .quiet (.of_prunesNames pruned)
 | bans login checkedAt now =>
  obtain ⟨_, _, _, checked⟩ := checkBans_eq world.state login.newUser request.session.remoteIp login.hwidHash now
  have quiet : Quiet world.live world.state
    (world.state.checkBans login.newUser request.session.remoteIp login.hwidHash now).1 := by
   rw [checked]
   exact .of_eq rfl rfl rfl rfl
  simp only [stepLogin]
  split <;> exact .quiet quiet
 | publish login checkedAt => exact .publish request login checkedAt
 | readUid login => exact same
 | storeUid login uid =>
  simp only [stepLogin]
  split
  next absent =>
   subst absent
   cases fails : choices.databaseFails with
   | true => exact same
   | false =>
    simp only [Bool.false_eq_true, if_false]
    split
    · exact same
    next known => exact .storeUid request login fails known
  next => exact same
 | lease login =>
  simp only [stepLogin]
  split
  · split <;> exact same
  · exact same
 | keepLease login => exact .keepLease request login

theorem stepJoin_change (request : JoinRequest) (point : JoinPoint) :
  StateChange runtime choices world.live world.state (.join request point)
   (stepJoin runtime choices world request point).1.state := by
 cases point with
 | start => exact .joinUuid request choices.generatedUuid
 | enter =>
  simp only [stepJoin]
  split <;> exact .join request _ choices.hookHandled
 | persist joined => exact .quiet (.refl _ _)
 | settle joined =>
  simp only [stepJoin, World.setState]
  split
  next forgotten => exact .forget joined.previousRoom (if_pos forgotten)
  next => exact .quiet (.refl _ _)

theorem stepLeave_change (request : LeaveRequest) (point : LeavePoint) :
  StateChange runtime choices world.live world.state (.leave request point)
   (stepLeave runtime choices world request point).1.state := by
 cases point with
 | start => exact .leaveUuid request choices.generatedUuid
 | exit =>
  simp only [stepLeave]
  split <;> exact .leave request choices.hookHandled
 | persist left => exact .quiet (.refl _ _)
 | settle left =>
  simp only [stepLeave, World.setState]
  split
  next forgotten => exact .forget left.roomToLeave (if_pos forgotten)
  next => exact .quiet (.refl _ _)

def World.expel (room : String) (state : ChatServiceState) (moved : List Session) : World :=
 let expelled := moved.map fun other =>
  { user := world.state.actorName other
    room
    admittedBefore := world.admissions.length : Expulsion }
 { world with state, expulsions := expelled ++ world.expulsions }

section

variable (request : SendRequest) (currentRoom : String)

theorem runCommand_cases (command : SlashCommand) :
  (Quiet world.live world.state (runCommand runtime world request currentRoom command).1.state /\
    (runCommand runtime world request currentRoom command).1.expulsions = world.expulsions) \/
    (∃ user room, command = .kick user room /\ world.state.actorCanManageRoom runtime request.session room = true /\
      (runCommand runtime world request currentRoom command).1 =
        world.expel room (world.state.kickFromRoom world.live user room).1
         (world.state.kickFromRoom world.live user room).2) \/
    ∃ room, command = .removeRoom room /\ world.state.actorCanManageRoom runtime request.session room = true /\
     (runCommand runtime world request currentRoom command).1 =
       world.expel room (world.state.removeRoom world.live room).1 (world.state.removeRoom world.live room).2 := by
 have same := Quiet.refl world.live world.state
 have administered {act : ChatServiceState -> ChatServiceState × List Session}
   (quiet : Quiet world.live world.state (act world.state).1) :
   Quiet world.live world.state (administer runtime world request act).1.state /\
    (administer runtime world request act).1.expulsions = world.expulsions := by
  unfold administer
  split
  · exact ⟨quiet, rfl⟩
  · exact ⟨same, rfl⟩
 cases command with
 | notACommand | usage | refresh | rooms | who room | whisper user text | blacklistList => exact .inl ⟨same, rfl⟩
 | invite user room =>
  simp only [runCommand, manageRoom]
  split
  · exact .inl ⟨.of_eq rfl rfl rfl rfl, rfl⟩
  · exact .inl ⟨same, rfl⟩
 | kick user room =>
  simp only [runCommand, manageRoom]
  split
  next allowed => exact .inr (.inl ⟨user, room, rfl, allowed, rfl⟩)
  next => exact .inl ⟨same, rfl⟩
 | removeRoom room =>
  simp only [runCommand, manageRoom]
  split
  next allowed => exact .inr (.inr ⟨room, rfl, allowed, rfl⟩)
  next => exact .inl ⟨same, rfl⟩
 | mute user seconds | unmute user | unban user => exact .inl (administered (.of_eq rfl rfl rfl rfl))
 | ban user seconds =>
  refine .inl (administered ?_)
  exact (imposeBan_quiet world.live world.state _ _ _).trans (collectUserSessions_quiet world.live _ user)
 | gkick user => exact .inl (administered (collectUserSessions_quiet world.live world.state user))
 | blacklistAdd user | blacklistRemove user =>
  simp only [runCommand, blacklist]
  repeat' split
  all_goals exact .inl ⟨same, rfl⟩

theorem runCommand_change {command : SlashCommand} (parsed : command.Parsed) :
  StateChange runtime choices world.live world.state (.send request (.command currentRoom))
   (runCommand runtime world request currentRoom command).1.state := by
 obtain ⟨quiet, -⟩ | ⟨user, room, isKick, allowed, expelled⟩ | ⟨room, isRemove, allowed, expelled⟩ :=
  runCommand_cases runtime world request currentRoom command
 · exact .quiet quiet
 · subst isKick
   rw [expelled]
   cases parsed with
   | kick named notLobby => exact .kick request currentRoom user room notLobby allowed
 · subst isRemove
   rw [expelled]
   cases parsed with
   | removeRoom notLobby => exact .removeRoom request currentRoom room notLobby allowed

theorem stepSend_change (point : SendPoint) :
  StateChange runtime choices world.live world.state (.send request point)
   (stepSend runtime choices world request point).1.state := by
 have same : StateChange runtime choices world.live world.state (.send request point) world.state :=
  .quiet (Quiet.refl _ _)
 cases point with
 | check =>
  simp only [stepSend]
  split
  · exact same
  · split
    · exact same
    · split
      · exact same
      · split <;> exact same
 | command currentRoom =>
  exact runCommand_change runtime choices world request currentRoom
   (SlashCommand.parse_parsed runtime currentRoom request.text)
 | who room =>
  exact .quiet (Quiet.of_prunesRooms (roomContainsSession_prunes world.live world.state room request.session))
 | block entry => exact .quiet (.of_eq rfl rfl rfl rfl)
 | unblock entry => exact .quiet (removeBlacklistEntry_quiet world.live world.state _ _)
 | moderate currentRoom =>
  have quiet := evaluateChatSendModeration_quiet runtime world.live world.state request.session world.clock
  apply StateChange.quiet
  simp only [stepSend]
  repeat' split
  all_goals exact quiet
 | dispatch currentRoom sender =>
  exact .quiet (Quiet.of_prunesRooms (collectChatBroadcastTargets_prunes world.live world.state currentRoom sender))
 | deliver currentRoom sender targets => exact same
 | stop sessions =>
  obtain ⟨_, stopped, -, -⟩ := world.stopAll_spec sessions
  simp only [stepSend, stopped]
  exact same

end

theorem stepWhisper_change (request : WhisperRequest) (point : WhisperPoint) :
  StateChange runtime choices world.live world.state (.whisper request point)
   (stepWhisper runtime choices world request point).1.state := by
 have same : StateChange runtime choices world.live world.state (.whisper request point) world.state :=
  .quiet (.refl _ _)
 cases point with
 | authorize | identify =>
  simp only [stepWhisper]
  split
  · exact same
  · split <;> exact same
 | collect sender => exact .quiet (collectUserSessions_quiet world.live world.state request.targetUser)
 | deliver sender targets => exact same

theorem stepClose_change (session : Session) (point : ClosePoint) :
  StateChange runtime choices world.live world.state (.close session point)
   (stepClose choices world session point).1.state := by
 cases point with
 | start => exact .closeUuid session choices.generatedUuid
 | hook => exact .quiet (.refl _ _)
 | main => exact .close session
 | presence closed =>
  simp only [stepClose]
  split <;> exact .quiet (.refl _ _)

theorem stepModeration_change (request : ModerationRequest) (point : ModerationPoint) :
  StateChange runtime choices world.live world.state (.moderate request point)
   (stepModeration runtime world request point).1.state := by
 cases point with
 | start => exact .quiet (.refl _ _)
 | apply now => exact .quiet (applyUserModeration_quiet runtime world.live world.state request now)
 | stop sessions =>
  obtain ⟨_, stopped, -, -⟩ := world.stopAll_spec sessions
  simp only [stepModeration, stopped]
  exact .quiet (.refl _ _)

theorem doChore_prunes (chore : Chore) : world.state.PrunesRooms world.live (doChore world chore) := by
 cases chore with
 | summaries => exact collectLocalRoomSummaries_prunes world.live world.state
 | targets room sender => exact collectRoomTargets_prunes world.live world.state room sender
 | names room => exact collectRoomUserNames_prunes world.live world.state room

theorem Job.step_change (job : Job) :
  StateChange runtime choices world.live world.state job (job.step runtime choices world).1.state := by
 cases job with
 | login request point => exact stepLogin_change runtime choices world request point
 | join request point => exact stepJoin_change runtime choices world request point
 | leave request point => exact stepLeave_change runtime choices world request point
 | send request point => exact stepSend_change runtime choices world request point
 | whisper request point => exact stepWhisper_change runtime choices world request point
 | close session point => exact stepClose_change runtime choices world session point
 | moderate request point => exact stepModeration_change runtime choices world request point
 | chores session work =>
  cases work with
  | nil => exact .quiet (.refl _ _)
  | cons chore rest => exact .quiet (.of_prunesRooms (doChore_prunes world chore))

end Dynaxis.Chat
