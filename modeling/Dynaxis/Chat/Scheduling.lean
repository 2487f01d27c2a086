import Dynaxis.Shared.ReverseIndex
import Dynaxis.Chat.Effects

namespace Dynaxis.Chat

open Shared List ChatServiceState

def SeparateSessions (live : List Session) : Prop :=
 ReverseIndex.Separate (· ∈ live) Session.pointer

variable {world : World} {session : Session}

theorem World.Fresh.notAccepted (fresh : world.Fresh session) : session ∉ world.accepted :=
 fun again => (fresh.2 session again).1 rfl

theorem SeparateSessions.accept (separate : SeparateSessions world.live) (fresh : world.Fresh session) :
  SeparateSessions (world.accept session).live := by
 intro first second livingFirst livingSecond shared
 cases mem_cons.mp livingFirst with
 | inl isFirst =>
  cases mem_cons.mp livingSecond with
  | inl isSecond => rw [isFirst, isSecond]
  | inr older =>
   rw [isFirst] at shared
   exact absurd shared.symm (fresh.1 second older)
 | inr older =>
  cases mem_cons.mp livingSecond with
  | inl isSecond =>
   rw [isSecond] at shared
   exact absurd shared (fresh.1 first older)
  | inr olderSecond => exact separate first second older olderSecond shared

theorem World.mem_destroy {other : Session} :
  other ∈ (world.destroy session).live ↔ other ∈ world.live /\ other ≠ session := by
 simp [destroy]

theorem SeparateSessions.destroy (separate : SeparateSessions world.live)
  (session : Session) : SeparateSessions (world.destroy session).live :=
 fun first second livingFirst livingSecond =>
  separate first second (World.mem_destroy.mp livingFirst).1 (World.mem_destroy.mp livingSecond).1

namespace Job

def publishes : Job -> Option (Session × String)
 | .login request (.publish details _) => some (request.session, details.newUser)
 | _ => none

def closes : Job -> Option Session
 | .close session .main => some session
 | _ => none

def closing : Job -> Option Session
 | .close session .start => some session
 | .close session .hook => some session
 | .close session .main => some session
 | _ => none

def moderating : Job -> Option ModerationRequest
 | .moderate request (.apply _) => some request
 | _ => none

def leasing : Job -> Option Session
 | .login request (.lease _) => some request.session
 | _ => none

def entering : Job -> Option JoinRequest
 | .join request .enter => some request
 | _ => none

def commanding : Job -> Option SendRequest
 | .send request (.command _) => some request
 | _ => none

def origin : Job -> Option Request
 | .login request _ => some (.login request)
 | .join request _ => some (.join request)
 | .leave request _ => some (.leave request)
 | .send request _ => some (.send request)
 | .moderate request _ => some (.moderate request)
 -- also the end of a `/whisper`
 | .whisper _ _ => none
 | .close _ _ => none
 | .chores _ _ => none

def client : Job -> Option Session
 | .login request _ => some request.session
 | .join request _ => some request.session
 | .leave request _ => some request.session
 | .send request _ => some request.session
 | .whisper request _ => some request.session
 | .close session _ => some session
 | .moderate _ _ => none
 | .chores session _ => some session

end Job

structure Frame (job : Job) (world next : World) : Prop where
 live : next.live = world.live
 accepted : next.accepted = world.accepted
 clock : next.clock = world.clock
 published : next.published = job.publishes.toList ++ world.published
 closed : next.closed = job.closes.toList ++ world.closed
 bans : job.moderating = none -> next.bans = world.bans
 issued : job.leasing = none -> next.issued = world.issued
 sessions : job.leasing = none -> next.store.sessions = world.store.sessions
 admissions : job.entering = none -> next.admissions = world.admissions
 expulsions : job.commanding = none -> next.expulsions = world.expulsions
 stops : ∃ stops : List Session,
  next.stopped = stops.reverse ++ world.stopped /\
  next.queue = world.queue ++ stops.map (.close · .start) /\
  stops.Nodup /\ ∀ session ∈ stops, session ∈ job.holds /\ session ∉ world.stopped

namespace Frame

variable {job : Job} {world : World}

theorem of_changes (noPublish : job.publishes = none) (noClose : job.closes = none) (state : ChatServiceState)
  (store : ContinuityStore) (issued : List (Session × String × ContinuityLease))
  (admissions : List Admission) (expulsions : List Expulsion)
  (sessions : job.leasing = none -> store.sessions = world.store.sessions)
  (sameIssued : job.leasing = none -> issued = world.issued)
  (sameAdmissions : job.entering = none -> admissions = world.admissions)
  (sameExpulsions : job.commanding = none -> expulsions = world.expulsions) :
  Frame job world { world with state, store, issued, admissions, expulsions } where
 live := rfl
 accepted := rfl
 clock := rfl
 published := by rw [noPublish]; rfl
 closed := by rw [noClose]; rfl
 bans := fun _ => rfl
 issued := sameIssued
 sessions := sessions
 admissions := sameAdmissions
 expulsions := sameExpulsions
 stops := ⟨[], rfl, by simp, nodup_nil, nofun⟩

theorem recorded (state : ChatServiceState) (bans : List BanRecord)
  (same : job.moderating = none -> bans = world.bans) :
  Frame job world { world with
   state, bans
   published := job.publishes.toList ++ world.published
   closed := job.closes.toList ++ world.closed } where
 live := rfl
 accepted := rfl
 clock := rfl
 published := rfl
 closed := rfl
 bans := same
 issued := fun _ => rfl
 sessions := fun _ => rfl
 admissions := fun _ => rfl
 expulsions := fun _ => rfl
 stops := ⟨[], rfl, (append_nil _).symm, nodup_nil, nofun⟩

theorem plain (noPublish : job.publishes = none) (noClose : job.closes = none) (state : ChatServiceState)
  (store : ContinuityStore) (sessions : store.sessions = world.store.sessions) :
  Frame job world { world with state, store } :=
 of_changes noPublish noClose state store _ _ _ (fun _ => sessions) (fun _ => rfl) (fun _ => rfl) fun _ => rfl

theorem leases {request : LoginRequest} {login : Login} (store : ContinuityStore)
  (issued : List (Session × String × ContinuityLease)) :
  Frame (.login request (.lease login)) world { world with store, issued } :=
 of_changes rfl rfl _ store issued _ _ nofun nofun (fun _ => rfl) fun _ => rfl

theorem enters {request : JoinRequest} (state : ChatServiceState) (admissions : List Admission) :
  Frame (.join request .enter) world { world with state, admissions } :=
 of_changes rfl rfl state _ _ admissions _ (fun _ => rfl) (fun _ => rfl) nofun fun _ => rfl

theorem commands {request : SendRequest} {room : String} (state : ChatServiceState) (expulsions : List Expulsion) :
  Frame (.send request (.command room)) world { world with state, expulsions } :=
 of_changes rfl rfl state _ _ _ expulsions (fun _ => rfl) (fun _ => rfl) (fun _ => rfl) nofun

theorem stopAll (noPublish : job.publishes = none) (noClose : job.closes = none) {sessions : List Session}
  (held : ∀ session ∈ sessions, session ∈ job.holds) : Frame job world (world.stopAll sessions) := by
 obtain ⟨stops, stopped, distinct, each⟩ := world.stopAll_spec sessions
 rw [stopped]
 exact {
  live := rfl
  accepted := rfl
  clock := rfl
  published := by rw [noPublish]; rfl
  closed := by rw [noClose]; rfl
  bans := fun _ => rfl
  issued := fun _ => rfl
  sessions := fun _ => rfl
  admissions := fun _ => rfl
  expulsions := fun _ => rfl
  stops := ⟨stops, rfl, rfl, distinct, fun session member =>
   ⟨held session (each session member).1, (each session member).2⟩⟩ }

end Frame

theorem persistLogin_sessions (runtime : Runtime) (world : World) (login : Login) :
  (persistLogin runtime world login).sessions = world.store.sessions := by
 unfold persistLogin
 split <;> rfl

section

variable (runtime : Runtime) (choices : Choices) (world : World)

theorem stepLogin_frame (request : LoginRequest) (point : LoginPoint) :
  Frame (.login request point) world (stepLogin runtime choices world request point).1 := by
 cases point with
 | publish login checkedAt => exact .recorded _ _ fun _ => rfl
 | start | register | readUid login | keepLease login => exact .plain rfl rfl _ _ rfl
 | resume | unique lease | hook login checkedAt | bans login checkedAt now | storeUid login uid =>
  simp only [stepLogin]
  repeat' split
  all_goals exact .plain rfl rfl _ _ rfl
 | lease login =>
  simp only [stepLogin]
  repeat' split
  all_goals exact .leases _ _
 | presence login =>
  simp only [stepLogin]
  split
  · exact .plain rfl rfl _ _ (persistLogin_sessions runtime world login)
  · exact .plain rfl rfl _ _ rfl

theorem stepJoin_frame (request : JoinRequest) (point : JoinPoint) :
  Frame (.join request point) world (stepJoin runtime choices world request point).1 := by
 cases point with
 | enter =>
  simp only [stepJoin]
  split <;> exact .enters _ _
 | start | settle joined => exact .plain rfl rfl _ _ rfl
 | persist joined =>
  refine .plain rfl rfl _ _ ?_
  split <;> rfl

theorem stepLeave_frame (request : LeaveRequest) (point : LeavePoint) :
  Frame (.leave request point) world (stepLeave runtime choices world request point).1 := by
 cases point with
 | exit =>
  simp only [stepLeave]
  split <;> exact .plain rfl rfl _ _ rfl
 | start | settle left => exact .plain rfl rfl _ _ rfl
 | persist left =>
  refine .plain rfl rfl _ _ ?_
  split <;> rfl

theorem runCommand_frame (request : SendRequest) (currentRoom : String) (command : SlashCommand) :
  Frame (.send request (.command currentRoom)) world (runCommand runtime world request currentRoom command).1 := by
 have managed (room : String) (act : ChatServiceState -> ChatServiceState × List Session)
   (chores : List Session -> List Chore) :
   Frame (.send request (.command currentRoom)) world (manageRoom runtime world request.session room act chores).1 := by
  unfold manageRoom
  split <;> exact .commands _ _
 have administered (act : ChatServiceState -> ChatServiceState × List Session) :
   Frame (.send request (.command currentRoom)) world (administer runtime world request act).1 := by
  unfold administer
  split <;> exact .plain rfl rfl _ _ rfl
 cases command with
 | invite user room | kick user room | removeRoom room => exact managed room _ _
 | mute user seconds | unmute user | ban user seconds | unban user | gkick user => exact administered _
 | blacklistAdd user | blacklistRemove user =>
  simp only [runCommand, blacklist]
  repeat' split
  all_goals exact .plain rfl rfl _ _ rfl
 | _ => exact .plain rfl rfl _ _ rfl

theorem stepSend_frame (request : SendRequest) (point : SendPoint) :
  Frame (.send request point) world (stepSend runtime choices world request point).1 := by
 cases point with
 | check | moderate currentRoom =>
  simp only [stepSend]
  repeat' split
  all_goals exact .plain rfl rfl _ _ rfl
 | command currentRoom => exact runCommand_frame runtime world request currentRoom _
 | who room | block entry | unblock entry | dispatch currentRoom sender | deliver currentRoom sender targets =>
  exact .plain rfl rfl _ _ rfl
 | stop sessions => exact .stopAll rfl rfl fun session member => mem_cons_of_mem _ member

theorem stepWhisper_frame (request : WhisperRequest) (point : WhisperPoint) :
  Frame (.whisper request point) world (stepWhisper runtime choices world request point).1 := by
 cases point with
 | authorize | identify =>
  simp only [stepWhisper]
  repeat' split
  all_goals exact .plain rfl rfl _ _ rfl
 | collect sender | deliver sender targets => exact .plain rfl rfl _ _ rfl

theorem stepClose_frame (session : Session) (point : ClosePoint) :
  Frame (.close session point) world (stepClose choices world session point).1 := by
 cases point with
 | main => exact .recorded _ _ fun _ => rfl
 | start | hook => exact .plain rfl rfl _ _ rfl
 | presence closed =>
  simp only [stepClose]
  split <;> exact .plain rfl rfl _ _ rfl

theorem stepModeration_frame (request : ModerationRequest) (point : ModerationPoint) :
  Frame (.moderate request point) world (stepModeration runtime world request point).1 := by
 cases point with
 | start => exact .plain rfl rfl _ _ rfl
 | apply now =>
  refine .recorded _ _ ?_
  rintro ⟨⟩
 | stop sessions => exact .stopAll rfl rfl fun session member => member

theorem Job.step_frame (job : Job) : Frame job world (job.step runtime choices world).1 := by
 cases job with
 | login request point => exact stepLogin_frame runtime choices world request point
 | join request point => exact stepJoin_frame runtime choices world request point
 | leave request point => exact stepLeave_frame runtime choices world request point
 | send request point => exact stepSend_frame runtime choices world request point
 | whisper request point => exact stepWhisper_frame runtime choices world request point
 | close session point => exact stepClose_frame choices world session point
 | moderate request point => exact stepModeration_frame runtime world request point
 | chores session work =>
  cases work with
  | nil | cons chore rest => exact .plain rfl rfl _ _ rfl

end

structure Continues (live : List Session) (job : Job) (continued : Option Job) : Prop where
 holds : ∀ next ∈ continued, ∀ session ∈ next.holds, session ∈ job.holds \/ session ∈ live
 closing : (continued.bind Job.closing).toList ++ job.closes.toList = job.closing.toList
 origin : ∀ next ∈ continued, ∀ request ∈ next.origin, job.origin = some request
 client : ∀ next ∈ continued, next.client = job.client

namespace Continues

variable {live : List Session} {job : Job}

theorem ends (closing : job.closes.toList = job.closing.toList) : Continues live job none where
 holds := fun _ absent => absurd absent (Option.not_mem_none _)
 closing := closing
 origin := fun _ absent => absurd absent (Option.not_mem_none _)
 client := fun _ absent => absurd absent (Option.not_mem_none _)

variable {next : Job}

theorem same (holds : next.holds = job.holds)
  (closing : next.closing.toList ++ job.closes.toList = job.closing.toList)
  (origin : next.origin = none \/ next.origin = job.origin) (client : next.client = job.client) :
  Continues live job (some next) where
 holds := by
  rintro _ ⟨⟩ session member
  exact .inl (holds ▸ member)
 closing := closing
 origin := by
  rintro _ ⟨⟩ request serves
  cases origin with
  | inl other => cases other.symm.trans serves
  | inr kept => exact kept.symm.trans serves
 client := by
  rintro _ ⟨⟩
  exact client

theorem stops {sessions : List Session} (holds : ∀ session ∈ next.holds, session ∈ job.holds \/ session ∈ sessions)
  (alive : ∀ session ∈ sessions, session ∈ live)
  (closing : next.closing.toList ++ job.closes.toList = job.closing.toList)
  (origin : next.origin = job.origin) (client : next.client = job.client) :
  Continues live job (some next) where
 holds := by
  rintro _ ⟨⟩ session member
  exact (holds session member).imp_right (alive session)
 closing := closing
 origin := by
  rintro _ ⟨⟩ request serves
  exact origin.symm.trans serves
 client := by
  rintro _ ⟨⟩
  exact client

end Continues

namespace ChatServiceState

variable (runtime : Runtime) (live : List Session) (state : ChatServiceState)

theorem collectUserSessions_live (name : String) :
  ∀ session ∈ (state.collectUserSessions live name).2, session ∈ live :=
 fun session member => ((mem_collectUserSessions live state name session).mp member).2

theorem collectWhisperTargets_live (session : Session) (sender targetUser : String) :
  ∀ other ∈ (state.collectWhisperTargets live session sender targetUser).2.1, other ∈ live := by
 intro other member
 simp only [collectWhisperTargets] at member
 split at member
 · cases member
 · exact collectUserSessions_live live state targetUser other (mem_filter.mp (mem_filter.mp member).1).1

theorem penalizedSessions_live (session : Session) (now : Nat) :
  ∀ other ∈ (state.evaluateChatSendModeration runtime live session now).2.penalizedSessions, other ∈ live := by
 have muted (current : ChatServiceState) (result : ChatSendModerationResult) :
   (current.checkMuted result now).2.penalizedSessions = result.penalizedSessions := by
  unfold checkMuted
  split
  · rfl
  · split <;> rfl
 have banned (current : ChatServiceState) (result : ChatSendModerationResult) :
   (current.checkBannedSender result now).2.penalizedSessions = result.penalizedSessions := by
  unfold checkBannedSender
  split
  · rfl
  · split <;> rfl
 unfold evaluateChatSendModeration
 dsimp only
 generalize started : ChatSendModerationResult.accepted (state.actorName session) = start
 have nobody : start.penalizedSessions = [] := by rw [<- started]; rfl
 split
 · rw [nobody]
   exact nofun
 · have checked (current : ChatServiceState) :
     (current.checkBannedSender (state.checkMuted start now).2 now).2.penalizedSessions = [] := by
    rw [banned, muted, nobody]
   split
   · rw [checked]
     exact nofun
   · split
     · rw [checked]
       exact nofun
     · unfold escalateSpam
       dsimp only
       split
       · exact collectUserSessions_live live _ _
       · rw [checked]
         exact nofun

theorem applyUserModeration_live (request : ModerationRequest) (now : Nat) :
  ∀ session ∈ (state.applyUserModeration runtime live request now).2, session ∈ live := by
 unfold applyUserModeration
 refine foldlRecOn (motive := fun progress : ChatServiceState × List Session =>
  ∀ session ∈ progress.2, session ∈ live) _ _ (fun _ member => absurd member not_mem_nil) ?_
 rintro ⟨current, affected⟩ alive name _
 have added (from' : ChatServiceState) : ∀ session ∈ (from'.addUserSessions live affected name).2,
  session ∈ live := by
  intro session member
  cases mem_append.mp member with
  | inl old => exact alive session old
  | inr new => exact collectUserSessions_live live from' name session (mem_filter.mp new).1
 unfold moderateUser
 dsimp only
 split
 · exact alive
 · exact alive
 · exact added _
 · exact alive
 · exact added _

end ChatServiceState

section

variable (runtime : Runtime) (choices : Choices) (world : World)

theorem stepLogin_continues (request : LoginRequest) (point : LoginPoint) :
  Continues world.live (.login request point) (stepLogin runtime choices world request point).2 := by
 cases point with
 | start | register | publish login checkedAt | readUid login | keepLease login => exact .same rfl rfl (.inr rfl) rfl
 | resume | hook login checkedAt =>
  simp only [stepLogin]
  split
  · exact .ends rfl
  · exact .same rfl rfl (.inr rfl) rfl
 | unique lease =>
  simp only [stepLogin]
  split
  · split
    · exact .ends rfl
    · exact .same rfl rfl (.inr rfl) rfl
  · exact .ends rfl
 | bans login checkedAt now =>
  simp only [stepLogin]
  split
  · exact .same rfl rfl (.inr rfl) rfl
  · exact .ends rfl
 | storeUid login uid | lease login =>
  simp only [stepLogin]
  repeat' split
  all_goals exact .same rfl rfl (.inr rfl) rfl
 | presence login =>
  simp only [stepLogin]
  split
  · exact .same rfl rfl (.inl rfl) rfl
  · exact .ends rfl

theorem stepJoin_continues (request : JoinRequest) (point : JoinPoint) :
  Continues world.live (.join request point) (stepJoin runtime choices world request point).2 := by
 cases point with
 | start | persist joined => exact .same rfl rfl (.inr rfl) rfl
 | enter =>
  simp only [stepJoin]
  split
  · exact .same rfl rfl (.inr rfl) rfl
  · exact .ends rfl
 | settle joined => exact .same rfl rfl (.inl rfl) rfl

theorem stepLeave_continues (request : LeaveRequest) (point : LeavePoint) :
  Continues world.live (.leave request point) (stepLeave runtime choices world request point).2 := by
 cases point with
 | start | persist left => exact .same rfl rfl (.inr rfl) rfl
 | exit =>
  simp only [stepLeave]
  split
  · exact .same rfl rfl (.inr rfl) rfl
  · exact .ends rfl
 | settle left => exact .same rfl rfl (.inl rfl) rfl

theorem runCommand_continues (request : SendRequest) (currentRoom : String) (command : SlashCommand) :
  Continues world.live (.send request (.command currentRoom))
   (runCommand runtime world request currentRoom command).2 := by
 have managed (room : String) (act : ChatServiceState -> ChatServiceState × List Session)
   (chores : List Session -> List Chore) :
   Continues world.live (.send request (.command currentRoom))
    (manageRoom runtime world request.session room act chores).2 := by
  unfold manageRoom
  split
  · exact .same rfl rfl (.inl rfl) rfl
  · exact .ends rfl
 have administered (act : ChatServiceState -> ChatServiceState × List Session)
   (alive : ∀ session ∈ (act world.state).2, session ∈ world.live) :
   Continues world.live (.send request (.command currentRoom)) (administer runtime world request act).2 := by
  unfold administer
  split
  · refine .stops (fun session member => ?_) alive rfl rfl rfl
    exact (mem_cons.mp member).imp_left mem_singleton.mpr
  · exact .ends rfl
 have nobody : ∀ session ∈ ([] : List Session), session ∈ world.live := nofun
 cases command with
 | notACommand | who room => exact .same rfl rfl (.inr rfl) rfl
 | usage | blacklistList => exact .ends rfl
 | blacklistAdd user | blacklistRemove user =>
  simp only [runCommand, blacklist]
  repeat' split
  all_goals first | exact .ends rfl | exact .same rfl rfl (.inr rfl) rfl
 | refresh | rooms | whisper user text => exact .same rfl rfl (.inl rfl) rfl
 | invite user room | kick user room | removeRoom room => exact managed room _ _
 | mute user seconds | unmute user | unban user => exact administered _ nobody
 | ban user seconds | gkick user => exact administered _ (collectUserSessions_live world.live _ user)

theorem stepSend_continues (request : SendRequest) (point : SendPoint) :
  Continues world.live (.send request point) (stepSend runtime choices world request point).2 := by
 cases point with
 | check =>
  simp only [stepSend]
  split
  · exact .same rfl rfl (.inl rfl) rfl
  · split
    · exact .ends rfl
    · split
      · exact .ends rfl
      · split
        · exact .ends rfl
        · exact .same rfl rfl (.inr rfl) rfl
 | command currentRoom => exact runCommand_continues runtime world request currentRoom _
 | who room =>
  simp only [stepSend]
  split
  · exact .ends rfl
  · exact .same rfl rfl (.inl rfl) rfl
 | moderate currentRoom =>
  have penalized := penalizedSessions_live runtime world.live world.state request.session world.clock
  simp only [stepSend]
  split
  · exact .ends rfl
  · split
    · refine .stops (fun session member => .inl ?_) (fun session none => absurd none not_mem_nil) rfl rfl rfl
      simpa [Job.holds] using member
    · split
      · exact .ends rfl
      · split
        · split
          · refine .stops (fun session member => ?_) penalized rfl rfl rfl
            exact (mem_cons.mp member).imp_left mem_singleton.mpr
          · exact .ends rfl
        · split
          · exact .ends rfl
          · exact .same rfl rfl (.inr rfl) rfl
 | dispatch currentRoom sender =>
  have alive : ∀ session ∈ (world.state.collectChatBroadcastTargets world.live currentRoom sender).2,
    session ∈ world.live := fun session member =>
   (mem_collectChatBroadcastTargets world.live world.state member).1
  refine .stops (fun session member => ?_) alive rfl rfl rfl
  exact (mem_cons.mp member).imp_left mem_singleton.mpr
 | block entry | unblock entry | deliver currentRoom sender targets | stop sessions => exact .ends rfl

theorem stepWhisper_continues (request : WhisperRequest) (point : WhisperPoint) :
  Continues world.live (.whisper request point) (stepWhisper runtime choices world request point).2 := by
 cases point with
 | authorize | identify =>
  simp only [stepWhisper]
  split
  · exact .ends rfl
  · split
    · exact .ends rfl
    · exact .same rfl rfl (.inr rfl) rfl
 | collect sender =>
  have alive := collectWhisperTargets_live world.live world.state request.session sender request.targetUser
  simp only [stepWhisper]
  split
  · refine .stops (fun session member => ?_) alive rfl rfl rfl
    exact (mem_cons.mp member).imp_left mem_singleton.mpr
  · exact .ends rfl
 | deliver sender targets => exact .ends rfl

theorem stepClose_continues (session : Session) (point : ClosePoint) :
  Continues world.live (.close session point) (stepClose choices world session point).2 := by
 cases point with
 | start | hook | main => exact .same rfl rfl (.inr rfl) rfl
 | presence closed =>
  simp only [stepClose]
  split
  · exact .ends rfl
  · exact .same rfl rfl (.inr rfl) rfl

theorem stepModeration_continues (request : ModerationRequest) (point : ModerationPoint) :
  Continues world.live (.moderate request point) (stepModeration runtime world request point).2 := by
 cases point with
 | start => exact .same rfl rfl (.inr rfl) rfl
 | apply now =>
  have affected := applyUserModeration_live runtime world.live world.state request now
  simp only [stepModeration]
  split
  · exact .stops (fun session member => .inr member) affected rfl rfl rfl
  · exact .ends rfl
 | stop sessions => exact .ends rfl

theorem Job.step_continues (job : Job) : Continues world.live job (job.step runtime choices world).2 := by
 cases job with
 | login request point => exact stepLogin_continues runtime choices world request point
 | join request point => exact stepJoin_continues runtime choices world request point
 | leave request point => exact stepLeave_continues runtime choices world request point
 | send request point => exact stepSend_continues runtime choices world request point
 | whisper request point => exact stepWhisper_continues runtime choices world request point
 | close session point => exact stepClose_continues choices world session point
 | moderate request point => exact stepModeration_continues runtime world request point
 | chores session work =>
  cases work with
  | nil => exact .ends rfl
  | cons chore rest => exact .same rfl rfl (.inr rfl) rfl

end

namespace Server

variable {runtime : Runtime} {server next : Server}

def jobs (server : Server) : List Job := server.world.queue ++ server.running

variable {index : Nat} {job : Job} {choices : Choices} {event : Event}

theorem replaceJob_split {running : List Job} (found : running[index]? = some job) (continued : Option Job) :
  ∃ before after, running = before ++ job :: after /\
   replaceJob running index continued = before ++ continued.toList ++ after := by
 obtain ⟨inside, rfl⟩ := List.getElem?_eq_some_iff.mp found
 refine ⟨running.take index, running.drop (index + 1), by simp, ?_⟩
 cases continued with
 | none => simp [replaceJob, eraseIdx_eq_take_drop_succ]
 | some job => simp [replaceJob, set_eq_take_append_cons_drop, inside]

theorem advance_split (taken : step runtime server (.advance index choices) = some next) :
  ∃ job before after, server.running[index]? = some job /\ server.running = before ++ job :: after /\
   next =
    { world := (job.step runtime choices server.world).1
      running := before ++ (job.step runtime choices server.world).2.toList ++ after } := by
 simp only [step] at taken
 split at taken
 · cases taken
 next job found =>
  obtain ⟨before, after, split, replaced⟩ :=
   replaceJob_split found (job.step runtime choices server.world).2
  cases taken
  exact ⟨job, before, after, found, split, by rw [replaced]⟩

def Begins (event : Event) (job : Job) : Prop :=
 (∃ request, event = .receive request /\ job = request.job) \/ ∃ session, job = .close session .start

structure Idle (server : Server) (event : Event) (next : Server) : Prop where
 state : next.world.state = server.world.state
 published : next.world.published = server.world.published
 closed : next.world.closed = server.world.closed
 bans : next.world.bans = server.world.bans
 clock : server.world.clock ≤ next.world.clock
 live : ∀ session ∈ next.world.live, session ∈ server.world.live \/ event = .accept session
 kept : ∀ session ∈ server.world.live, session ∈ next.world.live \/ event = .destroy session
 accepted : ∀ session ∈ server.world.accepted, session ∈ next.world.accepted
 jobs : ∀ job ∈ next.jobs, job ∈ server.jobs \/ Begins event job

theorem step_cases (taken : step runtime server event = some next) : Idle server event next \/
   ∃ index choices job before after, event = .advance index choices /\
    server.running[index]? = some job /\ server.running = before ++ job :: after /\
    next =
     { world := (job.step runtime choices server.world).1
       running := before ++ (job.step runtime choices server.world).2.toList ++ after } := by
 cases event with
 | accept session =>
  obtain ⟨-, ⟨⟩⟩ := Option.ite_none_right_eq_some.mp taken
  refine .inl ⟨rfl, rfl, rfl, rfl, le_refl _, fun other living => ?_,
   fun other old => .inl (mem_cons_of_mem _ old), fun other old => mem_cons_of_mem _ old,
   fun job member => .inl member⟩
  exact (mem_cons.mp living).elim (fun isNew => .inr (isNew ▸ rfl)) .inl
 | receive request =>
  obtain ⟨-, ⟨⟩⟩ := Option.ite_none_right_eq_some.mp taken
  refine .inl ⟨rfl, rfl, rfl, rfl, le_refl _, fun _ => .inl, fun _ => .inl, fun _ => id, fun job member => ?_⟩
  simp only [jobs, setWorld, mem_append, mem_singleton] at member ⊢
  rcases member with (queued | rfl) | running
  · exact .inl (.inl queued)
  · exact .inr (.inl ⟨request, rfl, rfl⟩)
  · exact .inl (.inr running)
 | disconnect session =>
  obtain ⟨-, ⟨⟩⟩ := Option.ite_none_right_eq_some.mp taken
  obtain ⟨stops, stopped, -, -⟩ := server.world.stopAll_spec [session]
  have unfolded : server.world.stop session = server.world.stopAll [session] := rfl
  rw [unfolded, stopped]
  refine .inl ⟨rfl, rfl, rfl, rfl, le_refl _, fun _ => .inl, fun _ => .inl, fun _ => id, fun job member => ?_⟩
  simp only [jobs, setWorld, mem_append, mem_map] at member ⊢
  rcases member with (queued | ⟨again, -, rfl⟩) | running
  · exact .inl (.inl queued)
  · exact .inr (.inr ⟨again, rfl⟩)
  · exact .inl (.inr running)
 | take =>
  simp only [step] at taken
  split at taken
  · cases taken
  next job rest queued =>
   cases taken
   refine .inl ⟨rfl, rfl, rfl, rfl, le_refl _, fun _ => .inl, fun _ => .inl, fun _ => id, fun other member => ?_⟩
   simp only [jobs, mem_append, mem_singleton] at member
   simp only [jobs, queued, mem_append, mem_cons]
   tauto
 | advance index choices =>
  obtain ⟨job, before, after, found, split, rfl⟩ := advance_split taken
  exact .inr ⟨index, choices, job, before, after, rfl, found, split, rfl⟩
 | destroy session =>
  obtain ⟨-, ⟨⟩⟩ := Option.ite_none_right_eq_some.mp taken
  refine .inl ⟨rfl, rfl, rfl, rfl, le_refl _, fun other living => .inl (World.mem_destroy.mp living).1,
   fun other old => ?_, fun _ => id, fun _ => .inl⟩
  by_cases gone : other = session
  · exact .inr (gone ▸ rfl)
  · exact .inl (World.mem_destroy.mpr ⟨old, gone⟩)
 | elapse milliseconds =>
  cases taken
  exact .inl ⟨rfl, rfl, rfl, rfl, Nat.le_add_right _ _, fun _ => .inl, fun _ => .inl, fun _ => id, fun _ => .inl⟩

theorem mem_jobs_advance {other : Job} {before after : List Job}
  (split : server.running = before ++ job :: after) (member : other ∈ jobs
    { world := (job.step runtime choices server.world).1
      running := before ++ (job.step runtime choices server.world).2.toList ++ after }) :
  other ∈ server.jobs \/ (job.step runtime choices server.world).2 = some other \/
   ∃ session ∈ job.holds, other = .close session .start := by
 obtain ⟨stops, -, queued, -, each⟩ := (job.step_frame runtime choices server.world).stops
 simp only [jobs, queued, mem_append, mem_map, Option.mem_toList] at member
 simp only [jobs, split, mem_append, mem_cons]
 rcases member with (old | ⟨session, stopped, rfl⟩) | (earlier | continued) | later
 · exact .inl (.inl old)
 · exact .inr (.inr ⟨session, (each session stopped).1, rfl⟩)
 · exact .inl (.inr (.inl earlier))
 · exact .inr (.inl continued)
 · exact .inl (.inr (.inr (.inr later)))

structure Sound (server : Server) : Prop where
 separate : SeparateSessions server.world.live
 known : ∀ session ∈ server.world.live, session ∈ server.world.accepted
 distinct : ∀ first ∈ server.world.accepted, ∀ second ∈ server.world.accepted,
  first.sessionId = second.sessionId -> first = second
 held : ∀ job ∈ server.jobs, ∀ session ∈ job.holds, session ∈ server.world.live

theorem empty_sound : empty.Sound where
 separate := fun _ _ living => absurd living not_mem_nil
 known := fun _ living => absurd living not_mem_nil
 distinct := fun _ accepted => absurd accepted not_mem_nil
 held := fun _ waiting => absurd waiting not_mem_nil

namespace Sound

variable (sound : server.Sound)
include sound

theorem accept {session : Session} (taken : Server.step runtime server (.accept session) = some next) : next.Sound := by
 obtain ⟨fresh, ⟨⟩⟩ := Option.ite_none_right_eq_some.mp taken
 constructor
 · exact sound.separate.accept fresh
 · intro other living
   cases mem_cons.mp living with
   | inl isNew => exact isNew ▸ mem_cons_self
   | inr older => exact mem_cons_of_mem _ (sound.known other older)
 · intro first isFirst second isSecond shared
   cases mem_cons.mp isFirst with
   | inl newFirst =>
    cases mem_cons.mp isSecond with
    | inl newSecond => rw [newFirst, newSecond]
    | inr older => exact absurd (newFirst ▸ shared.symm) (fresh.2 second older).2
   | inr older =>
    cases mem_cons.mp isSecond with
    | inl newSecond => exact absurd (newSecond ▸ shared) (fresh.2 first older).2
    | inr olderSecond => exact sound.distinct first older second olderSecond shared
 · exact fun job member other holds => mem_cons_of_mem _ (sound.held job member other holds)

theorem receive {request : Request} (taken : Server.step runtime server (.receive request) = some next) : next.Sound := by
 obtain ⟨admitted, ⟨⟩⟩ := Option.ite_none_right_eq_some.mp taken
 refine ⟨sound.separate, sound.known, sound.distinct, fun job member other holds => ?_⟩
 simp only [jobs, setWorld, mem_append, mem_singleton] at member
 rcases member with (queued | rfl) | running
 · exact sound.held job (mem_append_left _ queued) other holds
 · have owner : request.session = some other := by
    cases request with
    | login request | join request | leave request | send request | whisper request =>
     exact congrArg some (mem_singleton.mp holds).symm
    | moderate request => cases holds
   exact (admitted other owner).1
 · exact sound.held job (mem_append_right _ running) other holds

theorem disconnect {session : Session} (taken : Server.step runtime server (.disconnect session) = some next) : next.Sound := by
 obtain ⟨living, ⟨⟩⟩ := Option.ite_none_right_eq_some.mp taken
 obtain ⟨stops, stopped, -, each⟩ := server.world.stopAll_spec [session]
 have unfolded : server.world.stop session = server.world.stopAll [session] := rfl
 rw [unfolded, stopped]
 refine ⟨sound.separate, sound.known, sound.distinct, fun job member other holds => ?_⟩
 simp only [jobs, setWorld, mem_append, mem_map] at member
 rcases member with (queued | ⟨again, among, rfl⟩) | running
 · exact sound.held job (mem_append_left _ queued) other holds
 · obtain rfl := mem_singleton.mp holds
   obtain rfl := mem_singleton.mp (each other among).1
   exact living
 · exact sound.held job (mem_append_right _ running) other holds

theorem take (taken : Server.step runtime server .take = some next) : next.Sound := by
 simp only [step] at taken
 split at taken
 · cases taken
 next job rest queued =>
  cases taken
  refine ⟨sound.separate, sound.known, sound.distinct, fun other member => ?_⟩
  apply sound.held other
  simp only [jobs, mem_append, mem_singleton] at member
  simp only [jobs, queued, mem_append, mem_cons]
  tauto

theorem advance {index : Nat} {choices : Choices}
  (taken : Server.step runtime server (.advance index choices) = some next) : next.Sound := by
 obtain ⟨job, before, after, -, split, rfl⟩ := advance_split taken
 have frame := job.step_frame runtime choices server.world
 have own : ∀ session ∈ job.holds, session ∈ server.world.live :=
  sound.held job (by simp [jobs, split])
 constructor
 · rw [frame.live]
   exact sound.separate
 · rw [frame.live, frame.accepted]
   exact sound.known
 · rw [frame.accepted]
   exact sound.distinct
 · rw [frame.live]
   intro other member session holds
   rcases mem_jobs_advance split member with old | continued | ⟨stopped, held, rfl⟩
   · exact sound.held other old session holds
   · exact ((job.step_continues runtime choices server.world).holds other continued session holds).elim
      (own session) id
   · obtain rfl := mem_singleton.mp holds
     exact own _ held

theorem destroy {session : Session} (taken : Server.step runtime server (.destroy session) = some next) : next.Sound := by
 obtain ⟨⟨-, -, released⟩, ⟨⟩⟩ := Option.ite_none_right_eq_some.mp taken
 constructor
 · exact sound.separate.destroy session
 · exact fun other living => sound.known other (World.mem_destroy.mp living).1
 · exact sound.distinct
 · intro job member other holds
   refine World.mem_destroy.mpr ⟨sound.held job member other holds, ?_⟩
   rintro rfl
   exact released ⟨job, member, holds⟩

theorem step (taken : Server.step runtime server event = some next) : next.Sound := by
 cases event with
 | accept session => exact sound.accept taken
 | receive request => exact sound.receive taken
 | disconnect session => exact sound.disconnect taken
 | take => exact sound.take taken
 | advance index choices => exact sound.advance taken
 | destroy session => exact sound.destroy taken
 | elapse milliseconds =>
  cases taken
  exact ⟨sound.separate, sound.known, sound.distinct, sound.held⟩

end Sound

theorem run_keepsState {property : ChatServiceState -> Prop}
  (kept : ∀ {choices : Choices} {live : List Session} {state next : ChatServiceState} {job : Job},
    StateChange runtime choices live state job next -> property state -> property next)
  (initial : property ChatServiceState.empty) {trace : List Event} {final : Server}
  (ran : (machine runtime).run empty trace = some final) : property final.world.state := by
 have step : ∀ server event next, property server.world.state ->
   (machine runtime).step server event = some next -> property next.world.state := by
  intro server event next held taken
  obtain idle | ⟨_, choices, job, _, _, -, -, -, rfl⟩ := step_cases taken
  · rw [idle.state]
    exact held
  · exact kept (job.step_change runtime choices server.world) held
 exact (machine runtime).run_keeps step initial ran

end Server

theorem World.runJob_rule {runtime : Runtime} (reached : World -> Job -> Prop) (result : World -> Prop)
  (step : ∀ world job choices, reached world job -> (∀ continued, (job.step runtime choices world).2 = some continued ->
      reached (job.step runtime choices world).1 continued) /\
    ((job.step runtime choices world).2 = none -> result (job.step runtime choices world).1))
  {world final : World} {job : Job} {choices : List Choices} (start : reached world job)
  (ran : world.runJob runtime job choices = some final) : result final := by
 induction choices generalizing world job with
 | nil => cases ran
 | cons choice rest ih =>
  obtain ⟨continues, ends⟩ := step world job choice start
  unfold runJob at ran
  split at ran
  next next stepped =>
   cases ran
   rw [stepped] at ends
   exact ends rfl
  · cases ran
  next next continued stepped =>
   rw [stepped] at continues
   exact ih (continues continued rfl) ran

end Dynaxis.Chat
