import Dynaxis.Chat.Records
import Dynaxis.Chat.Ownership
import Dynaxis.Chat.History

namespace Dynaxis.Chat

open Shared List ChatServiceState Chat.Runtime Bool

structure ChatFrame where
 receiver : Session
 author : String
 text : String
 deriving DecidableEq

def sendLocalChatBroadcast (senderSession : Session) (targets : List Session) : List Session :=
 if targets = [] then [senderSession] else targets

def Job.frames : Job -> List ChatFrame
 | .send request (.deliver _ sender targets) =>
  (sendLocalChatBroadcast request.session targets).map (⟨·, sender, request.text⟩)
 | .whisper request (.deliver sender targets) =>
  -- the sender gets a copy
  (targets ++ [request.session]).map (⟨·, sender, request.text⟩)
 | _ => []

structure WhisperNotice where
 sender : String
 recipient : String
 text : String

namespace ChatServiceState

def deliverRemoteWhisper (live : List Session) (state : ChatServiceState) (notice : WhisperNotice) :
  ChatServiceState × List Session :=
 if notice.sender = "" \/ notice.recipient = "" \/ notice.text = "" then (state, [])
 else if state.blacklists notice.recipient notice.sender then (state, [])
 else
  let (pruned, sessions) := state.collectUserSessions live notice.recipient
  (pruned, sessions.filter state.mayReceiveWhisper)

end ChatServiceState

inductive Delivery where
 | roomMessage (request : SendRequest) (currentRoom sender : String)
 | broadcastRoom (room sender text : String)
 | whisper (request : WhisperRequest) (addressed : request.targetUser ≠ "") (sender : String) (choices : Choices)
 | remoteWhisper (notice : WhisperNotice)
 | snapshot (session : Session) (config : History.HistoryConfig) (now : Nat)
  (redis : Option History.RecentCache) (db : Option History.MessageTable) (lastSeen : Option Nat)

namespace Delivery

def frames (runtime : Runtime) (world : World) : Delivery -> List ChatFrame
 | .roomMessage request currentRoom sender =>
  ((Job.send request (.dispatch currentRoom sender)).step runtime {} world).2.toList.flatMap Job.frames
 | .broadcastRoom room sender text => (world.state.collectRoomTargets world.live room sender).2.map (⟨·, sender, text⟩)
 | .whisper request _ sender choices =>
  ((Job.whisper request (.collect sender)).step runtime choices world).2.toList.flatMap Job.frames
 | .remoteWhisper notice =>
  (world.state.deliverRemoteWhisper world.live notice).2.map (⟨·, notice.sender, notice.text⟩)
 | .snapshot session config now redis db lastSeen =>
  (History.sendSnapshot config now redis db lastSeen).1.map fun message => ⟨session, message.sender, message.text⟩

end Delivery

variable (session : Session)

namespace ChatServiceState

variable (state : ChatServiceState) (runtime : Runtime) (live : List Session)
  (actor target user sender : String) (result : ChatSendModerationResult)

def BlacklistsSound : Prop :=
 ∀ user, state.blacklists user user = false /\ state.blacklists user "" = false

theorem blacklists_congr {state next : ChatServiceState} (same : next.userBlacklists = state.userBlacklists)
  (user sender : String) : next.blacklists user sender = state.blacklists user sender := by
 simp only [blacklists, same]

theorem blacklists_addBlacklistEntry : (state.addBlacklistEntry actor target).blacklists user sender =
    (state.blacklists user sender || decide (user = actor /\ sender = target)) := by
 simp only [blacklists, addBlacklistEntry, Table.lookup_insert_ite]
 by_cases same : user = actor
 · subst same
   cases found : state.userBlacklists.lookup user with
   | none => simp
   | some blocked => by_cases here : sender = target <;> simp [here]
 · simp [same]

theorem blacklists_removeBlacklistEntry (blocked : (state.removeBlacklistEntry actor target).blacklists user sender = true) :
  state.blacklists user sender = true := by
 revert blocked
 unfold removeBlacklistEntry
 split
 · exact id
 next entries found =>
  dsimp only
  split
  · simp only [blacklists, Table.lookup_erase_ite]
    by_cases same : user = actor <;> simp [same]
  · simp only [blacklists, Table.lookup_insert_ite]
    by_cases same : user = actor
    · subst same
      simp +contextual [found]
    · simp [same]

theorem userBlacklists_checkMuted (now : Nat) :
  (state.checkMuted result now).1.userBlacklists = state.userBlacklists := by
 unfold checkMuted
 split
 · rfl
 · split <;> rfl

theorem userBlacklists_checkBannedSender (now : Nat) :
  (state.checkBannedSender result now).1.userBlacklists = state.userBlacklists := by
 unfold checkBannedSender
 split
 · rfl
 · split <;> rfl

variable (state : ChatServiceState)

theorem userBlacklists_collectUserSessions (name : String) :
  (state.collectUserSessions live name).1.userBlacklists = state.userBlacklists := by
 obtain ⟨_, pruned⟩ := (collectUserSessions_prunes live state name).onlyNames
 rw [pruned]

theorem userBlacklists_escalateSpam (result : ChatSendModerationResult) (now : Nat) :
  (state.escalateSpam runtime live result now).1.userBlacklists = state.userBlacklists := by
 unfold escalateSpam
 dsimp only
 split
 · exact userBlacklists_collectUserSessions ..
 · rfl

theorem userBlacklists_evaluateChatSendModeration (now : Nat) :
  (state.evaluateChatSendModeration runtime live session now).1.userBlacklists = state.userBlacklists := by
 unfold evaluateChatSendModeration
 dsimp only
 split
 · rfl
 · split
   · rw [userBlacklists_checkBannedSender, userBlacklists_checkMuted]
   · split
     · exact (userBlacklists_checkBannedSender ..).trans (userBlacklists_checkMuted ..)
     · rw [userBlacklists_escalateSpam]
       exact (userBlacklists_checkBannedSender ..).trans (userBlacklists_checkMuted ..)

theorem userBlacklists_applyUserModeration (request : ModerationRequest) (now : Nat) :
  (state.applyUserModeration runtime live request now).1.userBlacklists = state.userBlacklists := by
 refine foldl_keeps (moderateUser runtime live request now) (fun progress => progress.1.userBlacklists)
  (fun progress name => ?_) request.targets (state, [])
 unfold moderateUser
 dsimp only
 split
 · rfl
 · rfl
 · exact userBlacklists_collectUserSessions ..
 · rfl
 · exact userBlacklists_collectUserSessions ..

end ChatServiceState

namespace ChatServiceState.BlacklistsSound

variable {state next : ChatServiceState} (sound : state.BlacklistsSound)
include sound

theorem of_fewer (fewer : ∀ user sender, next.blacklists user sender = true -> state.blacklists user sender = true) :
  next.BlacklistsSound := by
 intro user
 constructor
 · exact eq_false_iff.mpr fun blocked => eq_false_iff.mp (sound user).1 (fewer user user blocked)
 · exact eq_false_iff.mpr fun blocked => eq_false_iff.mp (sound user).2 (fewer user "" blocked)

theorem of_same (same : next.userBlacklists = state.userBlacklists) : next.BlacklistsSound :=
 sound.of_fewer fun user sender blocked => blacklists_congr same user sender ▸ blocked

theorem block (entry : BlacklistEntry) :
  (state.addBlacklistEntry entry.actor entry.targetUser).BlacklistsSound := by
 intro other
 rw [blacklists_addBlacklistEntry, blacklists_addBlacklistEntry, (sound other).1, (sound other).2]
 simp only [Bool.false_or, decide_eq_false_iff_not]
 constructor
 · rintro ⟨rfl, isActor⟩
   exact entry.others isActor.symm
 · rintro ⟨-, unnamed⟩
   exact entry.named unnamed.symm

omit sound

end ChatServiceState.BlacklistsSound

theorem Job.step_blacklistsSound (runtime : Runtime) (choices : Choices) {world : World}
  (sound : world.state.BlacklistsSound) (job : Job) : (job.step runtime choices world).1.state.BlacklistsSound := by
 have recorded : (job.step runtime choices world).1.state.userBlacklists =
   (world.recorded runtime (job.recordAction runtime world)).userBlacklists :=
  congrArg UserRecords.userBlacklists (job.step_records runtime choices world)
 refine ChatServiceState.BlacklistsSound.of_same ?_ recorded
 cases job.recordAction runtime world with
 | none => exact sound
 | some action =>
  cases action with
  | checkBans newUser loginIp hwidHash now =>
   obtain ⟨_, _, _, checked⟩ := world.state.checkBans_eq newUser loginIp hwidHash now
   exact sound.of_same (by simp only [World.recorded, RecordAction.applyTo, checked])
  | moderateSend session now => exact sound.of_same (userBlacklists_evaluateChatSendModeration ..)
  | ban user expiresAt | unban user => exact sound.of_same rfl
  | block entry => exact sound.block entry
  | unblock entry => exact sound.of_fewer (blacklists_removeBlacklistEntry world.state _ _)
  | moderate request now => exact sound.of_same (userBlacklists_applyUserModeration ..)

structure World.Lists (world : World) : Prop where
 accepted : ∀ name, ∀ session ∈ world.state.sessionsOf name, session ∈ world.accepted
 named : ∀ name ≠ "", ∀ session ∈ world.live, session ∈ world.state.sessionsOf name ->
  world.state.user.lookup session.pointer = some name

namespace World.Lists

variable {world : World}

theorem step (runtime : Runtime) (choices : Choices) {job : Job} (lists : world.Lists)
  (separate : SeparateSessions world.live) (known : ∀ session ∈ world.live, session ∈ world.accepted)
  (held : ∀ session ∈ job.holds, session ∈ world.live) : (job.step runtime choices world).1.Lists := by
 have frame := job.step_frame runtime choices world
 obtain same | ⟨request, login, checkedAt, rfl, published⟩ | ⟨session, rfl, closed⟩ :=
  (job.step_change runtime choices world).names
 · constructor
   · intro name session listed
     rw [frame.accepted]
     exact lists.accepted name session (same.sessionsOf_back name session listed)
   · intro name spelled session living listed
     rw [same.user]
     rw [frame.live] at living
     exact lists.named name spelled session living (same.sessionsOf_back name session listed)
 · have living := held request.session mem_cons_self
   constructor
   · intro name session listed
     rw [frame.accepted]
     rw [published, mem_sessionsOf_publishLogin] at listed
     obtain ⟨-, rfl⟩ | ⟨before, -⟩ := listed
     · exact known _ living
     · exact lists.accepted name session before
   · intro name spelled session alive listed
     rw [frame.live] at alive
     rw [published, mem_sessionsOf_publishLogin] at listed
     rw [published, user_publishLogin, Table.lookup_insert_ite]
     obtain ⟨rfl, rfl⟩ | ⟨before, released⟩ := listed
     · exact if_pos rfl
     · have had := lists.named name spelled session alive before
       rw [if_neg, had]
       -- the session that is published gave up the name under which it was listed
       intro here
       have isSame := separate session request.session alive living here
       exact released (here ▸ had) isSame
 · have living := held session mem_cons_self
   obtain ⟨_, _, _, _, _, closing, -⟩ := world.state.closeSession_eq world.live session
   have before {name : String} {other : Session}
     (listed : other ∈ ((Job.close session .main).step runtime choices world).1.state.sessionsOf name) :
     other ∈ world.state.sessionsOf name /\
      (world.state.actorName session ≠ "" -> name = world.state.actorName session -> other ≠ session) := by
    rw [closed, closing] at listed
    by_cases spelled : world.state.actorName session = ""
    · rw [if_pos spelled] at listed
      exact ⟨listed, fun named => absurd spelled named⟩
    · rw [if_neg spelled] at listed
      have released := (mem_releaseName world.state session other _ name).mp listed
      exact ⟨released.1, fun _ => released.2⟩
   constructor
   · intro name other listed
     rw [frame.accepted]
     exact lists.accepted name other (before listed).1
   · intro name spelled other alive listed
     rw [frame.live] at alive
     obtain ⟨listed, released⟩ := before listed
     have had := lists.named name spelled other alive listed
     rw [closed, user_closeSession, Table.lookup_erase_ite, if_neg, had]
     intro here
     obtain rfl := separate other session alive living here
     have isActor : world.state.actorName other = name := by rw [actorName, had]; rfl
     exact released (isActor ▸ spelled) isActor.symm rfl

end World.Lists

namespace Server

variable {runtime : Runtime} {server next : Server}

structure Addressed (server : Server) : Prop where
 sound : server.Sound
 blacklists : server.world.state.BlacklistsSound
 lists : server.world.Lists

theorem empty_addressed : empty.Addressed where
 sound := empty_sound
 blacklists := fun _ => ⟨rfl, rfl⟩
 lists := ⟨fun _ _ => nofun, fun _ _ _ => nofun⟩

theorem Addressed.step (addressed : server.Addressed) {event : Event}
  (taken : step runtime server event = some next) : next.Addressed := by
 refine ⟨addressed.sound.step taken, ?_, ?_⟩
 · obtain idle | ⟨_, choices, job, _, _, -, -, -, rfl⟩ := step_cases taken
   · rw [idle.state]
     exact addressed.blacklists
   · exact job.step_blacklistsSound runtime choices addressed.blacklists
 · obtain idle | ⟨_, choices, job, _, _, -, -, split, rfl⟩ := step_cases taken
   · constructor
     · intro name session listed
       rw [idle.state] at listed
       exact idle.accepted session (addressed.lists.accepted name session listed)
     · intro name spelled session living listed
       rw [idle.state] at listed ⊢
       obtain older | rfl := idle.live session living
       · exact addressed.lists.named name spelled session older listed
       · -- a session that is new is not listed yet
         obtain ⟨fresh, -⟩ := Option.ite_none_right_eq_some.mp taken
         exact absurd (addressed.lists.accepted name session listed) fresh.notAccepted
   · exact addressed.lists.step runtime choices addressed.sound.separate addressed.sound.known
      (addressed.sound.held job (by simp [jobs, split]))

end Server

namespace ChatServiceState

variable {live : List Session} {state : ChatServiceState} {sender : String} {target : Session}

theorem blacklists_of_hears {user : String} (heard : state.hears sender target = true)
  (named : state.user.lookup target.pointer = some user) : state.blacklists user sender = false := by
 unfold hears at heard
 rw [named] at heard
 simpa using heard

theorem hears_of_mem_collectRoomTargets {room : String} (spelled : sender ≠ "")
  (member : target ∈ (state.collectRoomTargets live room sender).2) : state.hears sender target = true := by
 unfold collectRoomTargets at member
 split at member
 · cases member
 · dsimp only at member
   rw [if_neg spelled] at member
   exact (mem_filter.mp member).2

theorem mem_collectWhisperTargets {session : Session} {targetUser : String}
  (member : target ∈ (state.collectWhisperTargets live session sender targetUser).2.1) :
  target ∈ state.sessionsOf targetUser /\ target ∈ live /\ state.blacklists targetUser sender = false := by
 simp only [collectWhisperTargets] at member
 split at member
 · cases member
 next free =>
  obtain ⟨listed, living⟩ := (mem_collectUserSessions live state targetUser target).mp
   (mem_filter.mp (mem_filter.mp member).1).1
  rw [not_eq_true, or_eq_false_iff] at free
  exact ⟨listed, living, free.2⟩

theorem mem_deliverRemoteWhisper {notice : WhisperNotice}
  (member : target ∈ (state.deliverRemoteWhisper live notice).2) :
  notice.recipient ≠ "" /\ target ∈ state.sessionsOf notice.recipient /\ target ∈ live /\
   state.blacklists notice.recipient notice.sender = false := by
 unfold deliverRemoteWhisper at member
 split at member
 · cases member
 next given =>
  split at member
  · cases member
  next free =>
   obtain ⟨listed, living⟩ := (mem_collectUserSessions live state notice.recipient target).mp (mem_filter.mp member).1
   exact ⟨fun unnamed => given (.inr (.inl unnamed)), listed, living, eq_false_iff.mpr free⟩

end ChatServiceState

/-- What a delivery needs apart from its own checks: the copy for the sender goes to a session that
still is the sender's, and a snapshot has nothing to show that the viewer does not want. -/
def Delivery.Spares (world : World) : Delivery -> Prop
 | .roomMessage request _ sender => world.state.actorName request.session = sender
 | .whisper request _ sender _ => world.state.actorName request.session = sender
 | .snapshot session _ now redis db _ => ∀ viewer, world.state.user.lookup session.pointer = some viewer ->
  (∀ cache ∈ redis, ∀ id ∈ cache.recent, ∀ message ∈ cache.payloads.get now id,
    world.state.blacklists viewer message.sender = false) /\
  ∀ table ∈ db, ∀ row ∈ table.rows, world.state.blacklists viewer (History.snapshotMessage row).sender = false
 | _ => True

def ChatServiceState.Wanted (state : ChatServiceState) (frame : ChatFrame) : Prop :=
 ∀ user, state.user.lookup frame.receiver.pointer = some user -> state.blacklists user frame.author = false

namespace Server.Addressed

variable {runtime : Runtime} {server : Server} {sender text : String}

theorem copy_wanted (addressed : server.Addressed) {session : Session}
  (own : server.world.state.actorName session = sender) : server.world.state.Wanted ⟨session, sender, text⟩ := by
 intro user named
 have isSender : sender = user := by
  rw [<- own, actorName, named]
  rfl
 rw [isSender]
 exact (addressed.blacklists user).1

theorem listed_wanted (addressed : server.Addressed) {target : Session} {receiver : String}
  (spelled : receiver ≠ "") (living : target ∈ server.world.live)
  (listed : target ∈ server.world.state.sessionsOf receiver)
  (free : server.world.state.blacklists receiver sender = false) :
  server.world.state.Wanted ⟨target, sender, text⟩ := by
 intro user named
 have had := addressed.lists.named receiver spelled target living listed
 obtain rfl : user = receiver := Option.some.inj (named.symm.trans had)
 exact free

end Server.Addressed

theorem Server.blacklisted_authors_stay_unread (runtime : Runtime) (trace : List Event)
  (final : Server) (ran : (machine runtime).run empty trace = some final) (delivery : Delivery)
  (spares : delivery.Spares final.world) :
  ∀ frame ∈ delivery.frames runtime final.world, ∀ user,
   final.world.state.user.lookup frame.receiver.pointer = some user ->
   final.world.state.blacklists user frame.author = false := by
 have addressed : final.Addressed :=
  (machine runtime).run_keeps (fun _ _ _ addressed taken => addressed.step taken) empty_addressed ran
 intro frame sent
 show final.world.state.Wanted frame
 cases delivery with
 | roomMessage request currentRoom sender =>
  simp only [Delivery.frames, Job.step, stepSend, Option.toList_some, flatMap_cons, flatMap_nil,
   append_nil, Job.frames, mem_map] at sent
  obtain ⟨target, among, rfl⟩ := sent
  unfold sendLocalChatBroadcast at among
  split at among
  · obtain rfl := mem_singleton.mp among
    exact addressed.copy_wanted spares
  · intro user
    exact blacklists_of_hears (mem_collectChatBroadcastTargets _ _ among).2
 | broadcastRoom room sender text =>
  obtain ⟨target, among, rfl⟩ := mem_map.mp sent
  intro user named
  by_cases spelled : sender = ""
  · subst spelled
    exact (addressed.blacklists user).2
  · exact blacklists_of_hears
     (hears_of_mem_collectRoomTargets spelled among) named
 | whisper request spelled sender choices =>
  simp only [Delivery.frames, Job.step, stepWhisper] at sent
  split at sent
  · simp only [Option.toList_some, flatMap_cons, flatMap_nil, append_nil, Job.frames, mem_map,
     mem_append, mem_singleton] at sent
    obtain ⟨target, among | rfl, rfl⟩ := sent
    · obtain ⟨listed, living, free⟩ := mem_collectWhisperTargets among
      exact addressed.listed_wanted spelled living listed free
    · exact addressed.copy_wanted spares
  · cases sent
 | remoteWhisper notice =>
  obtain ⟨target, among, rfl⟩ := mem_map.mp sent
  obtain ⟨spelled, listed, living, free⟩ := mem_deliverRemoteWhisper among
  exact addressed.listed_wanted spelled living listed free
 | snapshot session config now redis db lastSeen =>
  obtain ⟨message, shown, rfl⟩ := mem_map.mp sent
  intro viewer named
  obtain ⟨inRedis, inTable⟩ := spares viewer named
  obtain ⟨cache, present, id, listed, found⟩ | ⟨table, present, row, stored, rfl⟩ := History.mem_sendSnapshot shown
  · exact inRedis cache present id listed message found
  · exact inTable table present row stored

namespace Server

def bobIsBlocked : List Event :=
 [.accept firstClient, .accept secondClient] ++ serve (.login ⟨firstClient, "alice", ""⟩) 9 ++
   serve (.login ⟨secondClient, "bob", ""⟩) 9 ++ serve (.send ⟨firstClient, "lobby", "/block bob"⟩) 3

theorem alice_does_not_read_bob :
  ∃ final, (machine standalone).run empty bobIsBlocked = some final /\
   final.world.state.user.lookup firstClient.pointer = some "alice" /\
   final.world.state.blacklists "alice" "bob" = true /\
   let frames := (Delivery.roomMessage ⟨secondClient, "lobby", "hello"⟩ "lobby" "bob").frames standalone final.world
   frames = [⟨secondClient, "bob", "hello"⟩] /\
    ∀ frame ∈ frames, ∀ user, final.world.state.user.lookup frame.receiver.pointer = some user ->
     final.world.state.blacklists user frame.author = false := by
 obtain ⟨final, ran, named, blocked, acts, sent⟩ := (machine standalone).exists_final
  (show ∃ final ∈ (machine standalone).run empty bobIsBlocked,
    final.world.state.user.lookup firstClient.pointer = some "alice" /\
    final.world.state.blacklists "alice" "bob" = true /\ final.world.state.actorName secondClient = "bob" /\
    (Delivery.roomMessage ⟨secondClient, "lobby", "hello"⟩ "lobby" "bob").frames standalone final.world =
      [⟨secondClient, "bob", "hello"⟩] by decide +kernel)
 refine ⟨final, ran, named, blocked, sent, ?_⟩
 exact blacklisted_authors_stay_unread standalone bobIsBlocked final ran _ acts

theorem snapshot_shows_blacklisted_authors :
  ¬ ∀ (runtime : Runtime) (trace : List Event) (final : Server), (machine runtime).run empty trace = some final ->
   ∀ delivery : Delivery, ∀ frame ∈ delivery.frames runtime final.world, ∀ user,
    final.world.state.user.lookup frame.receiver.pointer = some user ->
    final.world.state.blacklists user frame.author = false := by
 intro claim
 let table : History.MessageTable := ⟨[⟨1, some "bob", "hello", 0⟩], by decide⟩
 let delivery : Delivery := .snapshot firstClient {} 0 none (some table) none
 obtain ⟨final, ran, named, blocked⟩ := (machine standalone).exists_final
  (show ∃ final ∈ (machine standalone).run empty bobIsBlocked,
    final.world.state.user.lookup firstClient.pointer = some "alice" /\
    final.world.state.blacklists "alice" "bob" = true by decide +kernel)
 have shown : ⟨firstClient, "bob", "hello"⟩ ∈ delivery.frames standalone final.world := by
  -- the state plays no part
  change _ ∈ delivery.frames standalone Server.empty.world
  decide +kernel
 have unread := claim standalone bobIsBlocked final ran delivery _ shown "alice" named
 exact absurd (unread.symm.trans blocked) (by decide)

end Server

end Dynaxis.Chat
