import Dynaxis.Chat.Names
import Dynaxis.Chat.Records

namespace Dynaxis.Chat

open Shared ChatServiceState Table Option

inductive BanKey where
 | user (name : String)
 | ip (address : String)
 | hwidHash (hash : String)
 deriving DecidableEq

inductive BanOperation where
 | ban (user : String) (expiresAt : Nat)
 | unban (user : String)

namespace BanOperation

@[simp] def user : BanOperation -> String
 | .ban user _ => user
 | .unban user => user

@[simp] def expiresAt : BanOperation -> Option Nat
 | .ban _ expiresAt => some expiresAt
 | .unban _ => none

def applyTo (keysOf : String -> List BanKey) (bans : BanKey -> Option Nat) (operation : BanOperation) :
  BanKey -> Option Nat :=
 fun key => if key ∈ keysOf operation.user then operation.expiresAt else bans key

end BanOperation

namespace ChatServiceState

variable (state : ChatServiceState)

def bannedUntil (name : String) : Option Nat :=
 (state.bannedUsers.lookup name).map TimedPenalty.expiresAt

def banEnds : BanKey -> Option Nat
 | .user name => state.bannedUntil name
 | .ip address => state.bannedIps.lookup address
 | .hwidHash hash => state.bannedHwidHashes.lookup hash

def banKeys (user : String) : List BanKey :=
 let ip := (state.userLastIp.lookup user).getD ""
 let hwidHash := (state.userLastHwidHash.lookup user).getD ""
 .user user :: (if ip = "" then [] else [.ip ip]) ++ if hwidHash = "" then [] else [.hwidHash hwidHash]

end ChatServiceState

def ModerationRequest.banOperations (request : ModerationRequest) (runtime : Runtime) (now : Nat) (name : String) :
  List BanOperation :=
 match request.op with
 | .ban => [.ban name (request.banExpiresAt runtime now)]
 | .unban => [.unban name]
 | _ => []

def RecordAction.banOperations (runtime : Runtime) (live : List Session) (state : ChatServiceState) :
  RecordAction -> List BanOperation
 | .ban user expiresAt => [.ban user expiresAt]
 | .unban user => [.unban user]
 | .moderateSend session now =>
  let (_, moderation) := state.evaluateChatSendModeration runtime live session now
  if moderation.spamEscalatedToBan then [.ban moderation.sender (now + runtime.spamBanSec * 1000)] else []
 | .moderate request now => request.targets.flatMap (request.banOperations runtime now)
 | _ => []

def Job.banOperations (runtime : Runtime) (world : World) (job : Job) : List BanOperation :=
 match job.recordAction runtime world with
 | none => []
 | some action => action.banOperations runtime world.live world.state

def Lapses (now : Nat) (before after : BanKey -> Option Nat) : Prop :=
 ∀ key, after key = before key \/ after key = none /\ ∃ expiresAt ∈ before key, expiresAt ≤ now

namespace Lapses

variable {now : Nat} {before middle after : BanKey -> Option Nat}

theorem refl (now : Nat) (bans : BanKey -> Option Nat) : Lapses now bans bans :=
 fun _ => .inl rfl

theorem trans (first : Lapses now before middle) (second : Lapses now middle after) : Lapses now before after := by
 intro key
 obtain same | ⟨gone, expiresAt, ended, past⟩ := second key
 · obtain before | ⟨gone, ended⟩ := first key
   · exact .inl (same.trans before)
   · exact .inr ⟨same.trans gone, ended⟩
 · obtain before | ⟨earlier, -⟩ := first key
   · exact .inr ⟨gone, expiresAt, before ▸ ended, past⟩
   · rw [earlier] at ended
     cases ended

theorem mono {later : Nat} (lapses : Lapses now before after) (passed : now ≤ later) :
  Lapses later before after := by
 intro key
 refine (lapses key).imp_right (And.imp_right ?_)
 rintro ⟨expiresAt, ended, past⟩
 exact ⟨expiresAt, ended, past.trans passed⟩

theorem unexpired (lapses : Lapses now before after) {key : BanKey} {expiresAt : Nat}
  (banned : before key = some expiresAt) (lasts : now < expiresAt) : after key = some expiresAt := by
 obtain same | ⟨-, ended, found, past⟩ := lapses key
 · exact same.trans banned
 · obtain rfl := some.inj (banned.symm.trans found)
   exact absurd past (Nat.not_le.mpr lasts)

end Lapses

namespace ChatServiceState

variable {state next : ChatServiceState} {name user : String} {now : Nat}

@[simp] theorem user_mem_banKeys : BanKey.user name ∈ state.banKeys user ↔ name = user := by
  unfold banKeys
  dsimp only
  split <;> split <;> simp

@[simp] theorem ip_mem_banKeys {address : String} :
   BanKey.ip address ∈ state.banKeys user ↔
    (state.userLastIp.lookup user).getD "" ≠ "" /\ address = (state.userLastIp.lookup user).getD "" := by
  unfold banKeys
  dsimp only
  split <;> split <;> simp [*]

@[simp] theorem hwidHash_mem_banKeys {hash : String} :
   BanKey.hwidHash hash ∈ state.banKeys user ↔
    (state.userLastHwidHash.lookup user).getD "" ≠ "" /\ hash = (state.userLastHwidHash.lookup user).getD "" := by
  unfold banKeys
  dsimp only
  split <;> split <;> simp [*]

theorem banEnds_imposeBan (state : ChatServiceState) (name : String) (expiresAt : Nat) (reason : String) :
  (state.imposeBan name expiresAt reason).banEnds =
    BanOperation.applyTo state.banKeys state.banEnds (.ban name expiresAt) := by
 funext key
 unfold BanOperation.applyTo
 cases key with
 | user other =>
  by_cases same : other = name <;>
   simp [banEnds, bannedUntil, imposeBan, lookup_insert_ite, same]
 | ip address =>
  by_cases unknown : (state.userLastIp.lookup name).getD "" = "" <;>
   simp [banEnds, imposeBan, lookup_insert_ite, unknown]
 | hwidHash hash =>
  by_cases unknown : (state.userLastHwidHash.lookup name).getD "" = "" <;>
   simp [banEnds, imposeBan, lookup_insert_ite, unknown]

theorem banEnds_liftBan (state : ChatServiceState) (name : String) :
  (state.liftBan name).banEnds = BanOperation.applyTo state.banKeys state.banEnds (.unban name) := by
 funext key
 unfold BanOperation.applyTo
 cases key with
 | user other =>
  by_cases same : other = name <;>
   simp [banEnds, bannedUntil, liftBan, lookup_erase_ite, same]
 | ip address =>
  by_cases unknown : (state.userLastIp.lookup name).getD "" = "" <;>
   simp [banEnds, liftBan, lookup_erase_ite, unknown]
 | hwidHash hash =>
  by_cases unknown : (state.userLastHwidHash.lookup name).getD "" = "" <;>
   simp [banEnds, liftBan, lookup_erase_ite, unknown]

theorem lapses_of_erase (key : BanKey) {expiresAt : Nat} (found : state.banEnds key = some expiresAt)
  (ended : expiresAt ≤ now)
  (erased : ∀ other, next.banEnds other = if other = key then none else state.banEnds other) :
  Lapses now state.banEnds next.banEnds := by
 intro other
 rw [erased other]
 split
 next same => exact .inr ⟨rfl, expiresAt, same ▸ found, ended⟩
 next => exact .inl rfl

theorem lapses_eraseUser {penalty : TimedPenalty} (found : state.bannedUsers.lookup name = some penalty)
  (ended : penalty.expiresAt ≤ now) :
  Lapses now state.banEnds { state with bannedUsers := state.bannedUsers.erase name }.banEnds := by
 refine lapses_of_erase (.user name) (by simp [banEnds, bannedUntil, found]) ended fun other => ?_
 cases other with
 | user other => by_cases same : other = name <;> simp [banEnds, bannedUntil, lookup_erase_ite, same]
 | ip address | hwidHash hash => simp [banEnds]

variable (state)

theorem lapses_checkBannedUser (name : String) (now : Nat) :
  Lapses now state.banEnds (state.checkBannedUser name now).1.banEnds := by
 unfold checkBannedUser
 split
 · exact .refl _ _
 next found =>
  split
  next ended => exact lapses_eraseUser found ended
  next => exact .refl _ _

section

variable (newUser loginIp hwidHash : String) (now : Nat)

theorem lapses_checkBannedIp :
  Lapses now state.banEnds (state.checkBannedIp loginIp now).1.banEnds := by
 unfold checkBannedIp
 split
 · exact .refl _ _
 next found =>
  split
  next ended =>
   refine lapses_of_erase (.ip loginIp) found ended fun other => ?_
   cases other <;> simp [banEnds, bannedUntil, lookup_erase_ite]
  next => exact .refl _ _

theorem lapses_checkBannedHwidHash :
  Lapses now state.banEnds (state.checkBannedHwidHash hwidHash now).1.banEnds := by
 unfold checkBannedHwidHash
 split
 · exact .refl _ _
 next found =>
  split
  next ended =>
   refine lapses_of_erase (.hwidHash hwidHash) found ended fun other => ?_
   cases other <;> simp [banEnds, bannedUntil, lookup_erase_ite]
  next => exact .refl _ _

theorem lapses_checkBans :
  Lapses now state.banEnds (state.checkBans newUser loginIp hwidHash now).1.banEnds := by
 have users := state.lapses_checkBannedUser newUser now
 simp only [checkBans]
 split
 · have ips := users.trans (lapses_checkBannedIp _ loginIp now)
   split
   · exact ips.trans (lapses_checkBannedHwidHash _ hwidHash now)
   · exact ips
 · split
   · exact users.trans (lapses_checkBannedHwidHash _ hwidHash now)
   · exact users

end

theorem lapses_checkBannedSender (result : ChatSendModerationResult) (now : Nat) :
  Lapses now state.banEnds (state.checkBannedSender result now).1.banEnds := by
 unfold checkBannedSender
 split
 · exact .refl _ _
 next found =>
  split
  next ended => exact lapses_eraseUser found ended
  next => exact .refl _ _

end ChatServiceState

def ChatServiceState.BansChange (state : ChatServiceState) (now : Nat)
  (operations : List BanOperation) (next : ChatServiceState) : Prop :=
 ∃ bans, Lapses now state.banEnds bans /\ next.banEnds = operations.foldl (BanOperation.applyTo state.banKeys) bans

namespace ChatServiceState

variable {state next : ChatServiceState} {now : Nat}

theorem BansChange.of_lapses (lapses : Lapses now state.banEnds next.banEnds) : state.BansChange now [] next :=
 ⟨_, lapses, rfl⟩

theorem BansChange.of_eq (same : next.banEnds = state.banEnds) : state.BansChange now [] next :=
 of_lapses (same ▸ Lapses.refl now _)

variable {operations : List BanOperation}

theorem BansChange.mono {later : Nat} (change : state.BansChange now operations next)
  (passed : now ≤ later) : state.BansChange later operations next := by
 obtain ⟨bans, lapses, applied⟩ := change
 exact ⟨bans, lapses.mono passed, applied⟩

theorem banEnds_congr (same : next.userRecords = state.userRecords) : next.banEnds = state.banEnds := by
 have users : next.bannedUsers = state.bannedUsers := congrArg UserRecords.bannedUsers same
 have ips : next.bannedIps = state.bannedIps := congrArg UserRecords.bannedIps same
 have hashes : next.bannedHwidHashes = state.bannedHwidHashes := congrArg UserRecords.bannedHwidHashes same
 funext key
 cases key <;> simp only [banEnds, bannedUntil, users, ips, hashes]

theorem BansChange.after_lapse {middle : ChatServiceState} (change : middle.BansChange now operations next)
  (lapses : Lapses now state.banEnds middle.banEnds)
  (sameKeys : middle.banKeys = state.banKeys) : state.BansChange now operations next := by
 obtain ⟨bans, later, applied⟩ := change
 exact ⟨bans, lapses.trans later, sameKeys ▸ applied⟩

variable (state)

section

variable (result : ChatSendModerationResult) (now : Nat)

theorem checkMuted_bans :
  (state.checkMuted result now).1.banEnds = state.banEnds /\
   (state.checkMuted result now).1.banKeys = state.banKeys /\
    (state.checkMuted result now).2.spamEscalatedToBan = result.spamEscalatedToBan := by
 unfold checkMuted
 split
 · exact ⟨rfl, rfl, rfl⟩
 · split <;> exact ⟨rfl, rfl, rfl⟩

theorem checkBannedSender_bans :
  (state.checkBannedSender result now).1.banKeys = state.banKeys /\
    (state.checkBannedSender result now).2.spamEscalatedToBan = result.spamEscalatedToBan := by
 unfold checkBannedSender
 split
 · exact ⟨rfl, rfl⟩
 · split <;> exact ⟨rfl, rfl⟩

end

variable (runtime : Runtime) (live : List Session)

theorem escalateSpam_sender (result : ChatSendModerationResult) (now : Nat) :
  (state.escalateSpam runtime live result now).2.sender = result.sender := by
 unfold escalateSpam
 dsimp only
 split <;> rfl

theorem escalateSpam_bansChange
  {result : ChatSendModerationResult} (fresh : result.spamEscalatedToBan = false) (now : Nat) :
  state.BansChange now (if (state.escalateSpam runtime live result now).2.spamEscalatedToBan then
     [.ban result.sender (now + runtime.spamBanSec * 1000)] else [])
   (state.escalateSpam runtime live result now).1 := by
 unfold escalateSpam
 dsimp only
 split
 next banned =>
  refine ⟨state.banEnds, .refl _ _, ?_⟩
  rw [if_pos rfl]
  obtain ⟨_, collected⟩ := (collectUserSessions_prunes live _ result.sender).onlyNames
  rw [collected]
  exact banEnds_imposeBan _ _ _ _
 next =>
  rw [if_neg (by simp [fresh])]
  exact .of_eq rfl

theorem evaluateChatSendModeration_bansChange (session : Session) (now : Nat) : state.BansChange now
   (if (state.evaluateChatSendModeration runtime live session now).2.spamEscalatedToBan then
     [.ban (state.evaluateChatSendModeration runtime live session now).2.sender (now + runtime.spamBanSec * 1000)]
     else [])
   (state.evaluateChatSendModeration runtime live session now).1 := by
 let start := ChatSendModerationResult.accepted (state.actorName session)
 obtain ⟨mutedEnds, mutedKeys, mutedFresh⟩ := state.checkMuted_bans start now
 obtain ⟨senderKeys, senderFresh⟩ :=
  (state.checkMuted start now).1.checkBannedSender_bans (state.checkMuted start now).2 now
 have lapses := (state.checkMuted start now).1.lapses_checkBannedSender (state.checkMuted start now).2 now
 rw [mutedEnds] at lapses
 have keys := senderKeys.trans mutedKeys
 have fresh := (senderFresh.trans mutedFresh).trans (show start.spamEscalatedToBan = false from rfl)
 unfold evaluateChatSendModeration
 dsimp only
 split
 · exact .of_eq rfl
 · split
   · rw [if_neg (Bool.eq_false_iff.mp fresh)]
     exact .of_lapses lapses
   · split
     · rw [if_neg (Bool.eq_false_iff.mp fresh)]
       exact .of_lapses lapses
     · rw [escalateSpam_sender]
       exact (escalateSpam_bansChange _ runtime live fresh now).after_lapse lapses keys

variable {state}

variable (state : ChatServiceState) (request : ModerationRequest) (readAt now : Nat)

theorem moderateUser_bansChange (progress : ChatServiceState × List Session) (name : String) :
  (moderateUser runtime live request now progress name).1.banKeys = progress.1.banKeys /\
    (moderateUser runtime live request now progress name).1.banEnds =
      (request.banOperations runtime now name).foldl (BanOperation.applyTo progress.1.banKeys) progress.1.banEnds := by
 obtain ⟨current, affected⟩ := progress
 unfold moderateUser ModerationRequest.banOperations
 dsimp only
 have collected (other : ChatServiceState) : (other.addUserSessions live affected name).1.banKeys = other.banKeys /\
     (other.addUserSessions live affected name).1.banEnds = other.banEnds := by
  obtain ⟨_, pruned⟩ := (collectUserSessions_prunes live other name).onlyNames
  simp only [addUserSessions, pruned]
  exact ⟨rfl, rfl⟩
 cases request.op with
 | mute | unmute => exact ⟨rfl, rfl⟩
 | ban =>
  obtain ⟨keys, ends⟩ := collected (current.imposeBan name (request.banExpiresAt runtime now) request.banReason)
  exact ⟨keys, ends.trans (banEnds_imposeBan _ _ _ _)⟩
 | unban => exact ⟨rfl, banEnds_liftBan _ _⟩
 | kick => exact collected current

theorem applyUserModeration_bansChange :
  state.BansChange now (request.targets.flatMap (request.banOperations runtime readAt))
   (state.applyUserModeration runtime live request readAt).1 := by
 have loop (names : List String) (progress : ChatServiceState × List Session) :
   (names.foldl (moderateUser runtime live request readAt) progress).1.banEnds =
     (names.flatMap (request.banOperations runtime readAt)).foldl (BanOperation.applyTo progress.1.banKeys)
       progress.1.banEnds := by
  induction names generalizing progress with
  | nil => rfl
  | cons name rest ih =>
   obtain ⟨keys, ends⟩ := moderateUser_bansChange runtime live request readAt progress name
   rw [List.foldl_cons, ih, List.flatMap_cons, List.foldl_append, keys, ends]
 exact ⟨state.banEnds, Lapses.refl _ _, loop request.targets (state, [])⟩

end ChatServiceState

def RecordAction.checksAt : RecordAction -> Nat
 | .checkBans _ _ _ now => now
 | .moderateSend _ now => now
 | _ => 0

theorem RecordAction.bansChange (runtime : Runtime) (live : List Session) (state : ChatServiceState)
  (action : RecordAction) :
  state.BansChange action.checksAt (action.banOperations runtime live state)
   (action.applyTo runtime live state) := by
 cases action with
 | checkBans newUser loginIp hwidHash now => exact .of_lapses (state.lapses_checkBans newUser loginIp hwidHash now)
 | moderateSend session now => exact state.evaluateChatSendModeration_bansChange runtime live session now
 | ban user expiresAt => exact ⟨_, .refl _ _, state.banEnds_imposeBan user expiresAt _⟩
 | unban user => exact ⟨_, .refl _ _, state.banEnds_liftBan user⟩
 | block entry => exact .of_eq rfl
 | unblock entry =>
  simp only [applyTo, removeBlacklistEntry]
  repeat' split
  all_goals exact .of_eq rfl
 | moderate request now => exact state.applyUserModeration_bansChange runtime live request now 0

variable {action : RecordAction}

theorem SlashCommand.recordAction_checksAt {isAdmin : Bool} {now : Nat} {command : SlashCommand}
  (acts : command.recordAction isAdmin now = some action) : action.checksAt = 0 := by
 unfold recordAction at acts
 split at acts
 · obtain ⟨-, ⟨⟩⟩ := ite_none_right_eq_some.mp acts
   rfl
 · obtain ⟨-, ⟨⟩⟩ := ite_none_right_eq_some.mp acts
   rfl
 · cases acts

theorem Job.recordAction_checksAt {runtime : Runtime} {world : World} {job : Job}
  (acts : job.recordAction runtime world = some action) (past : ∀ now ∈ job.banClock, now ≤ world.clock) :
  action.checksAt ≤ world.clock := by
 unfold recordAction at acts
 split at acts
 · cases acts
   exact past _ rfl
 · rw [SlashCommand.recordAction_checksAt acts]
   exact Nat.zero_le _
 · cases acts
   exact Nat.zero_le _
 · cases acts
   exact Nat.zero_le _
 · cases acts
   exact Nat.le_refl _
 · cases acts
   exact Nat.zero_le _
 · cases acts

theorem Job.step_bansChange (runtime : Runtime) (choices : Choices) (world : World) (job : Job)
  (past : ∀ now ∈ job.banClock, now ≤ world.clock) :
  world.state.BansChange world.clock (job.banOperations runtime world)
   (job.step runtime choices world).1.state := by
 have same := banEnds_congr (job.step_records runtime choices world)
 unfold banOperations
 cases acts : job.recordAction runtime world with
 | none =>
  rw [acts] at same
  exact .of_eq same
 | some action =>
  rw [acts] at same
  obtain ⟨bans, lapses, applied⟩ :=
   (action.bansChange runtime world.live world.state).mono (recordAction_checksAt acts past)
  exact ⟨bans, lapses, same.trans applied⟩

end Dynaxis.Chat
