import Dynaxis.Chat.Handlers

/-! Parsing of the text of a chat message, and the critical sections of the commands, of the spam limiter and
of the control-plane moderation. Times are milliseconds of one clock. -/

namespace Dynaxis.Chat

open Shared ChatRoomSet

inductive SlashCommand where
 | notACommand
 | usage
 | refresh
 | rooms
 | who (room : String)
 | whisper (targetUser text : String)
 | invite (targetUser targetRoom : String)
 | kick (targetUser targetRoom : String)
 | removeRoom (targetRoom : String)
 | mute (targetUser : String) (durationSec : Nat)
 | unmute (targetUser : String)
 | ban (targetUser : String) (durationSec : Nat)
 | unban (targetUser : String)
 | gkick (targetUser : String)
 | blacklistList
 | blacklistAdd (targetUser : String)
 | blacklistRemove (targetUser : String)

namespace SlashCommand

def isSpace (c : Char) : Bool :=
 c = ' ' || (9 ≤ c.toNat && c.toNat ≤ 13)

def words (text : String) : List String :=
 ((text.toList.splitOnP isSpace).filter (· ≠ [])).map String.ofList

def after (keyword text : String) : Option String :=
 if text.startsWith keyword then some (text.drop keyword.length).toString else none

def trimCopy (text : String) : String :=
 String.ofList ((((text.toList.dropWhile (· = ' ')).reverse).dropWhile (· = ' ')).reverse)

def stoul (raw : String) : Option Nat :=
 let (negative, digits) :=
  match raw.toList with
  | '-' :: rest => (true, rest.takeWhile Char.isDigit)
  | '+' :: rest => (false, rest.takeWhile Char.isDigit)
  | all => (false, all.takeWhile Char.isDigit)
 let value := digits.foldl (fun total digit => total * 10 + (digit.toNat - 48)) 0
 if digits = [] \/ 18446744073709551616 ≤ value then none
 else if negative then some ((18446744073709551616 - value) % 18446744073709551616)
 else some value

def parseDurationSec (raw : String) (fallback minValue maxValue : Nat) : Nat :=
 if raw = "" then fallback
 else
  match stoul raw with
  | none => fallback
  | some parsed => if parsed < minValue \/ maxValue < parsed then fallback else parsed

variable (currentRoom rest : String)

def parseUserAndRoom (make : String -> String -> SlashCommand) : SlashCommand :=
 let targetUser := (words rest).getD 0 ""
 let given := (words rest).getD 1 ""
 let targetRoom := if given = "" then currentRoom else given
 if targetUser = "" \/ targetRoom = "" \/ targetRoom = "lobby" then usage else make targetUser targetRoom

def parseUser (rest : String) (make : String -> SlashCommand) : SlashCommand :=
 let targetUser := (words rest).getD 0 ""
 if targetUser = "" then usage else make targetUser

def parseRoomRemove : SlashCommand :=
 let given := (words rest).getD 0 ""
 let targetRoom := if given = "" then currentRoom else given
 if targetRoom = "" \/ targetRoom = "lobby" then usage else removeRoom targetRoom

def parseWhisper (rest : String) : SlashCommand :=
 let args := rest.toList.dropWhile (· = ' ')
 let targetUser := args.takeWhile (· ≠ ' ')
 let rest := (args.dropWhile (· ≠ ' ')).drop 1
 -- a text of blanks only is kept as it is
 let text := if rest.all (· = ' ') then rest else rest.dropWhile (· = ' ')
 if targetUser = [] \/ text = [] then usage else whisper (String.ofList targetUser) (String.ofList text)

def parseBlacklist (rest : String) : SlashCommand :=
 let args := trimCopy rest
 if args = "" \/ args = "list" then blacklistList
 else
  let op := (((words args).getD 0 "").toList.map Char.toLower)
  let line := ((args.toList.dropWhile isSpace).dropWhile (!isSpace ·)).takeWhile (· ≠ '\n')
  let targetUser := trimCopy (String.ofList line)
  if op = "add".toList then blacklistAdd targetUser
  else if op = "remove".toList then blacklistRemove targetUser
  else usage

def parseWho : SlashCommand :=
 let target := rest.toList.dropWhile (· = ' ')
 who (if target = [] then currentRoom else String.ofList target)

def keywords (runtime : Runtime) (currentRoom : String) : List (String × (String -> SlashCommand)) :=
 [("/who", parseWho currentRoom), ("/whisper ", parseWhisper), ("/w ", parseWhisper),
   ("/invite ", fun rest => parseUserAndRoom currentRoom rest invite),
   ("/kick ", fun rest => parseUserAndRoom currentRoom rest kick),
   ("/room remove", parseRoomRemove currentRoom),
   ("/mute ", fun rest => parseUser rest fun user =>
     mute user (parseDurationSec ((words rest).getD 1 "") runtime.spamMuteSec 5 86400)),
   ("/unmute ", fun rest => parseUser rest unmute),
   ("/ban ", fun rest => parseUser rest fun user =>
     ban user (parseDurationSec ((words rest).getD 1 "") runtime.spamBanSec 10 604800)),
   ("/unban ", fun rest => parseUser rest unban),
   ("/gkick ", fun rest => parseUser rest gkick),
   ("/block ", fun rest => blacklistAdd (trimCopy rest)),
   ("/unblock ", fun rest => blacklistRemove (trimCopy rest)),
   ("/blacklist", parseBlacklist)]

def parse (runtime : Runtime) (currentRoom text : String) : SlashCommand :=
 if text.startsWith "/" = false then notACommand
 else if text = "/refresh" then refresh
 else if text = "/rooms" then rooms
 else
  ((keywords runtime currentRoom).findSome? fun (keyword, make) => (after keyword text).map make).getD
    notACommand

end SlashCommand

namespace ChatServiceState

section

variable (runtime : Runtime) (state : ChatServiceState) (session : Session)

def actorCanManageRoom (room : String) : Bool :=
 let actor := state.actorName session
 if actor = "guest" then false
 else if actor ∈ runtime.adminUsers then true
 else state.roomOwners.lookup room = some actor

def actorIsAdmin : Bool :=
 let actor := state.actorName session
 actor ≠ "guest" /\ actor ∈ runtime.adminUsers

end

variable (state : ChatServiceState) (live : List Session) (targetUser targetRoom : String) (name : String)

def collectUserSessions (state : ChatServiceState) (name : String) :
  ChatServiceState × List Session :=
 match state.byUser.lookup name with
 | none => (state, [])
 | some set =>
  let alive := collectRoomSessions live set
  ({ state with byUser := state.byUser.insert name alive }, alive)

def inviteToRoom : ChatServiceState :=
 let invited := (state.roomInvites.lookup targetRoom).getD ∅
 { state with roomInvites := state.roomInvites.insert targetRoom (insert targetUser invited) }

def evictSession (progress : ChatServiceState × List Session) (candidate : Session) :
  ChatServiceState × List Session :=
 let (state, kicked) := progress
 if state.curRoom.lookup candidate.pointer = some targetRoom then
  let departed := (state.removeSessionFromRoom live candidate targetRoom targetUser).1
  (departed.placeSessionInRoom candidate "lobby" targetUser false true, kicked ++ [candidate])
 else (state, kicked)

section

variable (state : ChatServiceState) (targetUser targetRoom : String)

def kickFromRoom : ChatServiceState × List Session :=
 let (pruned, candidates) := state.collectUserSessions live targetUser
 candidates.foldl (evictSession live targetUser targetRoom) (pruned, [])

def removeRoom : ChatServiceState × List Session :=
 let moved := collectRoomSessions live (state.members targetRoom)
 let placed := moved.foldl (fun current candidate =>
  current.placeSessionInRoom candidate "lobby" "guest" false true) state
 (placed.eraseRoomMetadata targetRoom, moved)

theorem collectUserSessions_prunes (name : String) :
  state.PrunesNames live (state.collectUserSessions live name).1 := by
 unfold collectUserSessions
 split
 · exact .refl live state
 next set found =>
  exact prunesNames_insert live state found (fun _ member => (mem_collectRoomSessions.mp member).1)
   (fun _ living member => mem_collectRoomSessions.mpr ⟨member, living⟩)

theorem mem_collectUserSessions (name : String) (session : Session) :
  session ∈ (state.collectUserSessions live name).2 ↔ session ∈ state.sessionsOf name /\ session ∈ live := by
 unfold collectUserSessions
 split
 next absent => simp [sessionsOf, absent]
 next set found => simp [sessionsOf, found]

theorem kickFromRoom_induction {live : List Session} {state : ChatServiceState}
  {targetUser targetRoom : String} {motive : ChatServiceState -> Prop}
  (start : motive (state.collectUserSessions live targetUser).1)
  (evict : ∀ current, motive current -> ∀ candidate ∈ live, candidate ∈ state.sessionsOf targetUser ->
    current.curRoom.lookup candidate.pointer = some targetRoom ->
    motive ((current.removeSessionFromRoom live candidate targetRoom targetUser).1.placeSessionInRoom
     candidate "lobby" targetUser false true)) : motive (state.kickFromRoom live targetUser targetRoom).1 := by
 unfold kickFromRoom
 refine List.foldlRecOn (motive := fun progress : ChatServiceState × List Session => motive progress.1)
  _ _ start ?_
 rintro ⟨current, kicked⟩ reached candidate member
 obtain ⟨listed, living⟩ := (mem_collectUserSessions live state targetUser candidate).mp member
 simp only [evictSession]
 split
 next inside => exact evict current reached candidate living listed inside
 next => exact reached

theorem removeRoom_spec : ∃ curRoom,
   ({ state with curRoom } : ChatServiceState).OnlyRooms (state.removeRoom live targetRoom).1 /\
   (∀ pointer, curRoom.lookup pointer = if ∃ session ∈ collectRoomSessions live (state.members targetRoom),
      session.pointer = pointer then some "lobby"
     else state.curRoom.lookup pointer) /\
   ∀ other key, other ∈ (state.removeRoom live targetRoom).1.members key ↔
    key ≠ targetRoom /\ (other ∈ state.members key \/
     key = "lobby" /\ other ∈ collectRoomSessions live (state.members targetRoom)) := by
 unfold removeRoom
 dsimp only
 generalize collectRoomSessions live (state.members targetRoom) = moved
 generalize finished : moved.foldl (fun current candidate =>
  current.placeSessionInRoom candidate "lobby" "guest" false true) state = placed
 -- The loop over the members, for any list of them and any state it starts in.
 have loop (moved : List Session) (start : ChatServiceState) : ∃ curRoom,
    ({ start with curRoom } : ChatServiceState).OnlyRooms (moved.foldl (fun current candidate =>
        current.placeSessionInRoom candidate "lobby" "guest" false true) start) /\
    (∀ pointer, curRoom.lookup pointer = if ∃ session ∈ moved, session.pointer = pointer then some "lobby"
      else start.curRoom.lookup pointer) /\
    ∀ other key, other ∈ (moved.foldl (fun current candidate =>
      current.placeSessionInRoom candidate "lobby" "guest" false true) start).members key ↔
     other ∈ start.members key \/ (key = "lobby" /\ other ∈ moved) := by
  induction moved generalizing start with
  | nil => exact ⟨_, OnlyRooms.refl start, by simp, by simp⟩
  | cons candidate rest ih =>
   obtain ⟨curRoom, only, current, listed⟩ :=
    ih (start.placeSessionInRoom candidate "lobby" "guest" false true)
   have first := placeSessionInRoom_onlyRooms start candidate "lobby" "guest" false true
   refine ⟨curRoom, ?_, fun pointer => ?_, fun other key => ?_⟩
   · obtain ⟨_, _, _, _, placedFirst⟩ := first
     refine .trans ?_ only
     rw [placedFirst]
     exact ⟨_, _, _, _, rfl⟩
   · have startRoom : (start.placeSessionInRoom candidate "lobby" "guest" false true).curRoom =
       start.curRoom.insert candidate.pointer "lobby" := by
      obtain ⟨_, _, _, _, placedFirst⟩ := first
      rw [placedFirst]
     rw [current pointer, startRoom, Table.lookup_insert_ite]
     simp only [List.mem_cons, exists_eq_or_imp]
     by_cases own : candidate.pointer = pointer
     · simp [own]
     · simp [own, Ne.symm own]
   · rw [List.foldl_cons, listed other key, mem_members_placeSessionInRoom, List.mem_cons]
     tauto
 obtain ⟨curRoom, only, current, listed⟩ := loop moved state
 rw [finished] at only listed
 refine ⟨curRoom, only.trans ⟨_, _, _, _, rfl⟩, current, fun other key => ?_⟩
 rw [members_eraseRoomMetadata]
 split
 next same => simp [same]
 next different => simp [listed, different]

end

def imposeMute (expiresAt : Nat) (reason : String) : ChatServiceState :=
 { state with mutedUsers := state.mutedUsers.insert name ⟨expiresAt, reason⟩ }

def imposeBan (expiresAt : Nat) (reason : String) : ChatServiceState :=
 let ip := (state.userLastIp.lookup name).getD ""
 let hwidHash := (state.userLastHwidHash.lookup name).getD ""
 { state with
   bannedUsers := state.bannedUsers.insert name ⟨expiresAt, reason⟩
   bannedIps := if ip = "" then state.bannedIps else state.bannedIps.insert ip expiresAt
   bannedHwidHashes :=
    if hwidHash = "" then state.bannedHwidHashes else state.bannedHwidHashes.insert hwidHash expiresAt }

def liftBan : ChatServiceState :=
 let ip := (state.userLastIp.lookup name).getD ""
 let hwidHash := (state.userLastHwidHash.lookup name).getD ""
 { state with
   bannedUsers := state.bannedUsers.erase name
   bannedIps := if ip = "" then state.bannedIps else state.bannedIps.erase ip
   bannedHwidHashes :=
    if hwidHash = "" then state.bannedHwidHashes else state.bannedHwidHashes.erase hwidHash }

def addBlacklistEntry (actor targetUser : String) : ChatServiceState :=
 let blocked := (state.userBlacklists.lookup actor).getD ∅
 { state with userBlacklists := state.userBlacklists.insert actor (insert targetUser blocked) }

def removeBlacklistEntry (actor targetUser : String) : ChatServiceState :=
 match state.userBlacklists.lookup actor with
 | none => state
 | some blocked =>
  let remaining := blocked.erase targetUser
  if remaining = ∅ then { state with userBlacklists := state.userBlacklists.erase actor }
  else { state with userBlacklists := state.userBlacklists.insert actor remaining }

def mayReceiveWhisper (session : Session) : Bool :=
 session.pointer ∈ state.authed /\ session.pointer ∉ state.guest

def collectWhisperTargets (state : ChatServiceState) (session : Session)
  (sender targetUser : String) : ChatServiceState × List Session × Bool :=
 let blocked := state.blacklists sender targetUser || state.blacklists targetUser sender
 let (pruned, sessions) := state.collectUserSessions live targetUser
 let others := sessions.filter fun other => other.pointer ≠ session.pointer
 (pruned, if blocked then [] else others.filter state.mayReceiveWhisper,
   blocked || others.any fun other => !state.mayReceiveWhisper other)

end ChatServiceState

structure ChatSendModerationResult where
 sender : String
 senderIsMuted : Bool
 senderIsBanned : Bool
 spamEscalated : Bool
 spamEscalatedToBan : Bool
 moderationReason : String
 penalizedSessions : List Session

namespace ChatSendModerationResult

def accepted (sender : String) : ChatSendModerationResult where
 sender := sender
 senderIsMuted := false
 senderIsBanned := false
 spamEscalated := false
 spamEscalatedToBan := false
 moderationReason := ""
 penalizedSessions := []

end ChatSendModerationResult

namespace ChatServiceState

section

variable (runtime : Runtime) (live : List Session) (state : ChatServiceState)
 (result : ChatSendModerationResult) (now : Nat)

def checkMuted : ChatServiceState × ChatSendModerationResult :=
 match state.mutedUsers.lookup result.sender with
 | none => (state, result)
 | some penalty =>
  if penalty.expiresAt ≤ now then
   ({ state with mutedUsers := state.mutedUsers.erase result.sender }, result)
  else
   (state, { result with
       senderIsMuted := true
       moderationReason := if penalty.reason = "" then "temporarily muted" else penalty.reason })

def checkBannedSender : ChatServiceState × ChatSendModerationResult :=
 match state.bannedUsers.lookup result.sender with
 | none => (state, result)
 | some penalty =>
  if penalty.expiresAt ≤ now then
   ({ state with bannedUsers := state.bannedUsers.erase result.sender }, result)
  else
   (state, { result with
       senderIsBanned := true
       moderationReason := if penalty.reason = "" then "temporarily banned" else penalty.reason })

def escalateSpam : ChatServiceState × ChatSendModerationResult :=
 let violations := (state.spamViolations.lookup result.sender).getD 0 + 1
 let counted :=
  { state with
    spamEvents := state.spamEvents.insert result.sender []
    spamViolations := state.spamViolations.insert result.sender violations }
 if runtime.spamBanViolationThreshold ≤ violations then
  let reason := "temporarily banned for repeated spam"
  let banned := counted.imposeBan result.sender (now + runtime.spamBanSec * 1000) reason
  let (pruned, penalized) := banned.collectUserSessions live result.sender
  (pruned, { result with
      spamEscalated := true
      spamEscalatedToBan := true
      moderationReason := reason
      penalizedSessions := penalized })
 else
  let reason := "temporarily muted for spam"
  (counted.imposeMute result.sender (now + runtime.spamMuteSec * 1000) reason,
    { result with spamEscalated := true, moderationReason := reason })

end

def evaluateChatSendModeration (runtime : Runtime) (live : List Session) (state : ChatServiceState)
  (session : Session) (now : Nat) : ChatServiceState × ChatSendModerationResult :=
 let start := ChatSendModerationResult.accepted (state.actorName session)
 if start.sender = "guest" then (state, start)
 else
  let (afterMute, muted) := state.checkMuted start now
  let (afterBan, result) := afterMute.checkBannedSender muted now
  if result.senderIsMuted || result.senderIsBanned then (afterBan, result)
  else
   let recent := ((afterBan.spamEvents.lookup result.sender).getD []).dropWhile fun event =>
    event + runtime.spamWindowSec * 1000 < now
   let events := recent ++ [now]
   let recorded := { afterBan with spamEvents := afterBan.spamEvents.insert result.sender events }
   if events.length ≤ runtime.spamMessageThreshold then (recorded, result)
   else recorded.escalateSpam runtime live result now

end ChatServiceState

inductive ModerationOp where
 | mute
 | unmute
 | ban
 | unban
 | kick
 deriving DecidableEq

structure ModerationRequest where
 op : ModerationOp
 targets : List String
 durationSec : Nat
 reason : String

namespace ModerationRequest

variable (request : ModerationRequest)

def seconds (fallback : Nat) : Nat :=
 if 0 < request.durationSec then request.durationSec else fallback

def banExpiresAt (runtime : Runtime) (now : Nat) : Nat :=
 now + request.seconds runtime.spamBanSec * 1000

def banReason : String :=
 if request.reason = "" then "banned by administrator" else request.reason

def muteReason : String :=
 if request.reason = "" then "muted by administrator" else request.reason

end ModerationRequest

namespace ChatServiceState

variable (runtime : Runtime) (live : List Session)

def addUserSessions (state : ChatServiceState) (affected : List Session)
  (name : String) : ChatServiceState × List Session :=
 let (pruned, sessions) := state.collectUserSessions live name
 (pruned, affected ++ sessions.filter (· ∉ affected))

def moderateUser (request : ModerationRequest) (now : Nat)
  (progress : ChatServiceState × List Session) (name : String) : ChatServiceState × List Session :=
 let (state, affected) := progress
 match request.op with
 | .mute => (state.imposeMute name (now + request.seconds runtime.spamMuteSec * 1000) request.muteReason, affected)
 | .unmute => ({ state with mutedUsers := state.mutedUsers.erase name }, affected)
 | .ban =>
  (state.imposeBan name (request.banExpiresAt runtime now) request.banReason).addUserSessions live
    affected name
 | .unban => (state.liftBan name, affected)
 | .kick => state.addUserSessions live affected name

def applyUserModeration (state : ChatServiceState)
  (request : ModerationRequest) (now : Nat) : ChatServiceState × List Session :=
 request.targets.foldl (moderateUser runtime live request now) (state, [])

end ChatServiceState

end Dynaxis.Chat
