import Dynaxis.Chat.State

/-! The helpers that run with the state lock held. `live` lists the sessions that exist, which is what locking a
weak pointer depends on. -/

namespace Dynaxis.Chat

open Shared ChatRoomSet List

namespace ChatServiceState

section

variable (live : List Session) (state : ChatServiceState) (room sender : String)

def roomExists : Bool :=
 (state.rooms.lookup room).isSome

def eraseRoomMetadata : ChatServiceState :=
 { state with
   rooms := state.rooms.erase room
   roomPasswords := state.roomPasswords.erase room
   roomOwners := state.roomOwners.erase room
   roomInvites := state.roomInvites.erase room }

def selectReplacementRoomOwner (live : List Session) (state : ChatServiceState) :
  ChatRoomSet -> String -> String
 | [], newOwner => newOwner
 | candidate :: rest, newOwner =>
  if candidate ∈ live then
   match state.user.lookup candidate.pointer with
   | none => selectReplacementRoomOwner live state rest newOwner
   | some name => if name = "guest" then selectReplacementRoomOwner live state rest name else name
  else selectReplacementRoomOwner live state rest newOwner

def blacklists (receiver sender : String) : Bool :=
 match state.userBlacklists.lookup receiver with
 | none => false
 | some blocked => decide (sender ∈ blocked)

def hears (target : Session) : Bool :=
 match state.user.lookup target.pointer with
 | none => false
 | some receiver => !state.blacklists receiver sender

def collectRoomTargets : ChatServiceState × List Session :=
 match state.rooms.lookup room with
 | none => (state, [])
 | some members =>
  let targets := collectRoomSessions live members
  let next := { state with rooms := state.rooms.insert room targets }
  if sender = "" then (next, targets) else (next, targets.filter (state.hears sender))

def collectChatBroadcastTargets : ChatServiceState × List Session :=
 match state.rooms.lookup room with
 | none => (state, [])
 | some members =>
  let targets := collectRoomSessions live members
  ({ state with rooms := state.rooms.insert room targets }, targets.filter (state.hears sender))

def collectRoomUserNames : ChatServiceState × List String :=
 match state.rooms.lookup room with
 | none => (state, [])
 | some members =>
  let alive := collectRoomSessions live members
  ({ state with rooms := state.rooms.insert room alive },
    alive.map fun member => (state.user.lookup member.pointer).getD "guest")

def searchMember (live : List Session) (session : Session) : ChatRoomSet -> ChatRoomSet × Bool
 | [] => ([], false)
 | member :: rest =>
  if member ∈ live then
   if member.pointer = session.pointer then (member :: rest, true)
   else
    let (searched, found) := searchMember live session rest
    (member :: searched, found)
  else searchMember live session rest

def roomContainsSession (session : Session) : ChatServiceState × Bool :=
 match state.rooms.lookup room with
 | none => (state, false)
 | some members =>
  let (searched, found) := searchMember live session members
  ({ state with rooms := state.rooms.insert room searched }, found)

end

structure ChatRoomSummary where
 name : String
 memberCount : Nat
 isLocked : Bool

def summarizeRoom (live : List Session) (progress : ChatServiceState × List ChatRoomSummary)
  (room : String) : ChatServiceState × List ChatRoomSummary :=
 let (state, summaries) := progress
 match state.rooms.lookup room with
 | none => (state, summaries)
 | some members =>
  let alive := collectRoomSessions live members
  if alive = [] /\ room ≠ "lobby" then (state.eraseRoomMetadata room, summaries)
  else
   ({ state with rooms := state.rooms.insert room alive },
     summaries ++ [⟨room, alive.length, (state.roomPasswords.lookup room).isSome⟩])

section

variable (live : List Session) (state : ChatServiceState) (session : Session) (room senderName : String)

def collectLocalRoomSummaries : ChatServiceState × List ChatRoomSummary :=
 (state.rooms.entries.map (·.1)).foldl (summarizeRoom live) (state, [])

structure ChatRoomDepartureResult where
 targets : List Session
 roomRemoved : Bool

def replaceOwner (members : ChatRoomSet) : ChatServiceState :=
 match state.roomOwners.lookup room with
 | none => state
 | some _ =>
  let newOwner := selectReplacementRoomOwner live state members ""
  if newOwner = "" then state
  else { state with roomOwners := state.roomOwners.insert room newOwner }

def removeSessionFromRoom : ChatServiceState × ChatRoomDepartureResult :=
 match state.rooms.lookup room with
 | none => (state, ⟨[], false⟩)
 | some members =>
  let wasOwner : Bool := room ≠ "lobby" /\ state.roomOwners.lookup room = some senderName
  let erased := { state with rooms := state.rooms.insert room (erase members session) }
  let (pruned, targets) := erased.collectRoomTargets live room senderName
  let remaining := pruned.members room
  if remaining = [] /\ room ≠ "lobby" then (pruned.eraseRoomMetadata room, ⟨targets, true⟩)
  else if wasOwner then (pruned.replaceOwner live room remaining, ⟨targets, false⟩)
  else (pruned, ⟨targets, false⟩)

def consumeRoomInvite : ChatServiceState :=
 match state.roomInvites.lookup room with
 | none => state
 | some invited =>
  let remaining := invited.erase senderName
  if remaining = ∅ then { state with roomInvites := state.roomInvites.erase room }
  else { state with roomInvites := state.roomInvites.insert room remaining }

def placeSessionInRoom (consumeInvite assignOwner : Bool) : ChatServiceState :=
 let placed :=
  { state with
    curRoom := state.curRoom.insert session.pointer room
    rooms := state.rooms.insert room (insert (state.members room) session) }
 if room = "lobby" \/ assignOwner = false then placed
 else
  let owned :=
   if placed.roomOwners.lookup room = none /\ senderName ≠ "guest" then
    { placed with roomOwners := placed.roomOwners.insert room senderName }
   else placed
  if consumeInvite then owned.consumeRoomInvite room senderName else owned

def OnlyRooms (next : ChatServiceState) : Prop :=
 ∃ rooms roomPasswords roomOwners roomInvites,
  next = { state with rooms, roomPasswords, roomOwners, roomInvites }

theorem OnlyRooms.refl : state.OnlyRooms state :=
 ⟨_, _, _, _, rfl⟩

end

variable {first second third state next : ChatServiceState} {live : List Session}

theorem OnlyRooms.trans (left : first.OnlyRooms second) (right : second.OnlyRooms third) :
  first.OnlyRooms third := by
 obtain ⟨_, _, _, _, rfl⟩ := left
 obtain ⟨_, _, _, _, rfl⟩ := right
 exact ⟨_, _, _, _, rfl⟩

theorem OnlyRooms.sessionsOf_eq (only : state.OnlyRooms next) : state.sessionsOf = next.sessionsOf := by
 obtain ⟨_, _, _, _, rfl⟩ := only
 rfl

section

variable (live : List Session) (state next : ChatServiceState)

theorem members_insert (room other : String) (set : ChatRoomSet) :
  ({ state with rooms := state.rooms.insert room set } : ChatServiceState).members other =
    if other = room then set else state.members other := by
 simp only [members, Table.lookup_insert_ite]
 split <;> rfl

theorem members_eraseRoomMetadata (room other : String) :
  (state.eraseRoomMetadata room).members other = if other = room then [] else state.members other := by
 simp only [members, eraseRoomMetadata, Table.lookup_erase_ite]
 split <;> rfl

def KeepsOwners : Prop :=
 ∀ room, next.roomOwners.lookup room = state.roomOwners.lookup room \/
  (next.roomOwners.lookup room = none /\ ∀ session ∈ live, session ∉ state.members room)

end

theorem KeepsOwners.of_eq (same : next.roomOwners = state.roomOwners) : KeepsOwners live state next :=
 fun room => .inl (by rw [same])

theorem KeepsOwners.trans (left : KeepsOwners live first second) (right : KeepsOwners live second third)
  (members_kept : ∀ room, ∀ session ∈ live, session ∈ first.members room -> session ∈ second.members room) :
  KeepsOwners live first third := by
 intro room
 rcases right room with same | ⟨erased, deserted⟩
 · rw [same]
   exact left room
 · exact .inr ⟨erased, fun session living member => deserted session living (members_kept room session living member)⟩

structure PrunesRooms (live : List Session) (state next : ChatServiceState) : Prop where
 onlyRooms : state.OnlyRooms next
 members_back : ∀ room session, session ∈ next.members room -> session ∈ state.members room
 members_kept : ∀ room, ∀ session ∈ live, session ∈ state.members room -> session ∈ next.members room
 owners : KeepsOwners live state next

theorem PrunesRooms.refl (live : List Session) (state : ChatServiceState) : state.PrunesRooms live state where
 onlyRooms := OnlyRooms.refl state
 members_back := fun _ _ => id
 members_kept := fun _ _ _ => id
 owners := KeepsOwners.of_eq rfl

theorem PrunesRooms.trans (left : first.PrunesRooms live second) (right : second.PrunesRooms live third) :
  first.PrunesRooms live third where
 onlyRooms := left.onlyRooms.trans right.onlyRooms
 members_back := fun room session found => left.members_back room session (right.members_back room session found)
 members_kept := fun room session living found =>
  right.members_kept room session living (left.members_kept room session living found)
 owners := left.owners.trans right.owners left.members_kept

section

variable (live : List Session) (state : ChatServiceState) {room : String} {set : ChatRoomSet}

theorem prunesRooms_insert {part : ChatRoomSet}
  (found : state.rooms.lookup room = some set) (back : ∀ session ∈ part, session ∈ set)
  (kept : ∀ session ∈ live, session ∈ set -> session ∈ part) :
  state.PrunesRooms live { state with rooms := state.rooms.insert room part } := by
 have stored : state.members room = set := by simp [members, found]
 constructor
 case onlyRooms => exact ⟨_, _, _, _, rfl⟩
 case owners => exact .of_eq rfl
 case members_back =>
  intro other session member
  rw [members_insert] at member
  split at member
  next same =>
   subst same
   rw [stored]
   exact back session member
  next => exact member
 case members_kept =>
  intro other session living member
  rw [members_insert]
  split
  next same =>
   subst same
   rw [stored] at member
   exact kept session living member
  next => exact member

theorem prunesRooms_collect (found : state.rooms.lookup room = some set) : state.PrunesRooms live
   { state with rooms := state.rooms.insert room (collectRoomSessions live set) } :=
 prunesRooms_insert live state found (fun _ member => (mem_collectRoomSessions.mp member).1)
  (fun _ living member => mem_collectRoomSessions.mpr ⟨member, living⟩)

theorem collectRoomTargets_prunes (room sender : String) :
  state.PrunesRooms live (state.collectRoomTargets live room sender).1 := by
 unfold collectRoomTargets
 split
 · exact .refl live state
 next set found =>
  dsimp only
  split <;> exact prunesRooms_collect live state found

theorem collectChatBroadcastTargets_prunes (room sender : String) :
  state.PrunesRooms live (state.collectChatBroadcastTargets live room sender).1 := by
 unfold collectChatBroadcastTargets
 split
 · exact .refl live state
 next set found => exact prunesRooms_collect live state found

theorem mem_collectChatBroadcastTargets {sender : String} {target : Session}
  (member : target ∈ (state.collectChatBroadcastTargets live room sender).2) :
  target ∈ live /\ state.hears sender target = true := by
 unfold collectChatBroadcastTargets at member
 split at member
 · cases member
 next set found =>
  obtain ⟨collected, hears⟩ := mem_filter.mp member
  exact ⟨(mem_collectRoomSessions.mp collected).2, hears⟩

theorem collectRoomUserNames_prunes (room : String) :
  state.PrunesRooms live (state.collectRoomUserNames live room).1 := by
 unfold collectRoomUserNames
 split
 · exact .refl live state
 next set found => exact prunesRooms_collect live state found

theorem mem_searchMember (session other : Session) (set : ChatRoomSet) :
  (other ∈ (searchMember live session set).1 -> other ∈ set) /\
    (other ∈ live -> other ∈ set -> other ∈ (searchMember live session set).1) := by
 induction set with
 | nil => exact ⟨id, fun _ => id⟩
 | cons member rest ih =>
  unfold searchMember
  split
  next =>
   split
   · exact ⟨id, fun _ => id⟩
   · simp only [mem_cons]
     exact ⟨Or.imp_right ih.1, fun living => Or.imp_right (ih.2 living)⟩
  next dead =>
   refine ⟨fun found => mem_cons_of_mem _ (ih.1 found), fun living found => ?_⟩
   cases mem_cons.mp found with
   | inl same =>
    subst same
    exact absurd living dead
   | inr later => exact ih.2 living later

theorem roomContainsSession_prunes (room : String) (session : Session) :
  state.PrunesRooms live (state.roomContainsSession live room session).1 := by
 unfold roomContainsSession
 split
 · exact .refl live state
 next set found =>
  exact prunesRooms_insert live state found (fun other => (mem_searchMember live session other set).1)
   (fun other => (mem_searchMember live session other set).2)

theorem summarizeRoom_prunes (progress : ChatServiceState × List ChatRoomSummary) (room : String) :
  progress.1.PrunesRooms live (summarizeRoom live progress room).1 := by
 obtain ⟨current, summaries⟩ := progress
 simp only [summarizeRoom]
 split
 · exact .refl live current
 next set found =>
  split
  next dropped =>
   -- A live member would have kept the room.
   have deserted : ∀ session ∈ live, session ∉ current.members room := by
    intro session living member
    rw [show current.members room = set by simp [members, found]] at member
    have kept := mem_collectRoomSessions.mpr ⟨member, living⟩
    rw [dropped.1] at kept
    exact not_mem_nil kept
   constructor
   case onlyRooms => exact ⟨_, _, _, _, rfl⟩
   case members_back =>
    intro other session member
    rw [members_eraseRoomMetadata] at member
    split at member
    · exact absurd member not_mem_nil
    · exact member
   case members_kept =>
    intro other session living member
    rw [members_eraseRoomMetadata]
    split
    next same => exact absurd (same ▸ member) (deserted session living)
    next => exact member
   case owners =>
    intro other
    simp only [eraseRoomMetadata, Table.lookup_erase_ite]
    split
    next same => exact .inr ⟨rfl, same ▸ deserted⟩
    next => exact .inl rfl
  next => exact prunesRooms_collect live current found

theorem collectLocalRoomSummaries_prunes : state.PrunesRooms live (state.collectLocalRoomSummaries live).1 := by
 unfold collectLocalRoomSummaries
 refine foldlRecOn (motive := fun progress : ChatServiceState × List ChatRoomSummary =>
  state.PrunesRooms live progress.1) _ _ (.refl live state) ?_
 intro progress pruned room _
 exact pruned.trans (summarizeRoom_prunes live progress room)

end

theorem members_collectRoomTargets (live : List Session) (state : ChatServiceState) (room sender other : String) :
  (state.collectRoomTargets live room sender).1.members other =
    if other = room then collectRoomSessions live (state.members room)
    else state.members other := by
 unfold collectRoomTargets
 split
 next absent =>
  split
  next same =>
   subst same
   simp [members, absent, collectRoomSessions]
  next => rfl
 next set found =>
  have stored : state.members room = set := by simp [members, found]
  dsimp only
  split <;> rw [members_insert, stored]

section

variable (live : List Session) (state : ChatServiceState) (session : Session) (room senderName : String)

theorem replaceOwner_eq (set : ChatRoomSet) :
  ∃ roomOwners, state.replaceOwner live room set = { state with roomOwners } := by
 unfold replaceOwner
 split
 · exact ⟨_, rfl⟩
 · dsimp only
   split <;> exact ⟨_, rfl⟩

theorem removeSessionFromRoom_spec : state.OnlyRooms (state.removeSessionFromRoom live session room senderName).1 /\
   ∀ other, (state.removeSessionFromRoom live session room senderName).1.members other =
    if other = room then
     collectRoomSessions live (erase (state.members room) session)
    else state.members other := by
 unfold removeSessionFromRoom
 split
 next absent =>
  refine ⟨.refl state, fun other => ?_⟩
  split
  next same =>
   subst same
   simp [members, absent, erase, collectRoomSessions]
  next => rfl
 next set found =>
  have stored : state.members room = set := by simp [members, found]
  dsimp only
  generalize source : ({ state with rooms := state.rooms.insert room (erase set session) } : ChatServiceState) = erased
  have onlyErased : state.OnlyRooms erased := by
   rw [<- source]
   exact ⟨_, _, _, _, rfl⟩
  have membersErased (other : String) :
    erased.members other = if other = room then erase set session else state.members other := by
   rw [<- source, members_insert]
  have only := onlyErased.trans (collectRoomTargets_prunes live erased room senderName).onlyRooms
  have pruned (other : String) : (erased.collectRoomTargets live room senderName).1.members other =
      if other = room then
       collectRoomSessions live (erase (state.members room) session)
      else state.members other := by
   rw [members_collectRoomTargets, membersErased, membersErased, stored]
   simp only [if_true]
   split <;> rfl
  split
  next emptied =>
   refine ⟨only.trans ⟨_, _, _, _, rfl⟩, fun other => ?_⟩
   rw [members_eraseRoomMetadata]
   split
   next same =>
    subst same
    rw [pruned, if_pos rfl] at emptied
    exact emptied.1.symm
   next different => rw [pruned, if_neg different]
  next =>
   split
   next =>
    obtain ⟨roomOwners, replaced⟩ := replaceOwner_eq live (erased.collectRoomTargets live room senderName).1 room
     ((erased.collectRoomTargets live room senderName).1.members room)
    rw [replaced]
    exact ⟨only.trans ⟨_, _, _, _, rfl⟩, pruned⟩
   next => exact ⟨only, pruned⟩

theorem mem_members_removeSessionFromRoom (other : Session) (key : String) :
  other ∈ (state.removeSessionFromRoom live session room senderName).1.members key ↔
   other ∈ state.members key /\ (key = room -> other ≠ session /\ other ∈ live) := by
 rw [(removeSessionFromRoom_spec live state session room senderName).2 key]
 split
 next same =>
  subst same
  simp [and_assoc]
 next different => simp [different]

end

variable (state : ChatServiceState) (session : Session) (room senderName : String)
 (consumeInvite assignOwner : Bool)

theorem placeSessionInRoom_eq :
  ∃ roomOwners roomInvites, state.placeSessionInRoom session room senderName consumeInvite assignOwner = { state with
     curRoom := state.curRoom.insert session.pointer room
     rooms := state.rooms.insert room (insert (state.members room) session)
     roomOwners, roomInvites } := by
 have consumed (owned : ChatServiceState) :
   ∃ roomInvites, owned.consumeRoomInvite room senderName = { owned with roomInvites } := by
  unfold consumeRoomInvite
  split
  · exact ⟨_, rfl⟩
  · dsimp only
    split <;> exact ⟨_, rfl⟩
 unfold placeSessionInRoom
 dsimp only
 split
 · exact ⟨_, _, rfl⟩
 · split
   · obtain ⟨roomInvites, same⟩ := consumed _
     rw [same]
     split <;> exact ⟨_, _, rfl⟩
   · split <;> exact ⟨_, _, rfl⟩

theorem placeSessionInRoom_onlyRooms :
  ({ state with curRoom := state.curRoom.insert session.pointer room } : ChatServiceState).OnlyRooms
    (state.placeSessionInRoom session room senderName consumeInvite assignOwner) := by
 obtain ⟨roomOwners, roomInvites, placed⟩ :=
  placeSessionInRoom_eq state session room senderName consumeInvite assignOwner
 rw [placed]
 exact ⟨_, _, _, _, rfl⟩

theorem mem_members_placeSessionInRoom (other : Session) (key : String) :
  other ∈ (state.placeSessionInRoom session room senderName consumeInvite assignOwner).members key ↔
   other ∈ state.members key \/ (key = room /\ other = session) := by
 obtain ⟨roomOwners, roomInvites, placed⟩ :=
  placeSessionInRoom_eq state session room senderName consumeInvite assignOwner
 have listed : (state.placeSessionInRoom session room senderName consumeInvite assignOwner).members key =
   if key = room then insert (state.members room) session else state.members key := by
  rw [placed]
  exact members_insert state room key _
 rw [listed]
 split
 next same =>
  subst same
  simp [or_comm]
 next different => simp [different]

end ChatServiceState

end Dynaxis.Chat
