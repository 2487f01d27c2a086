import Dynaxis.Chat.Seats

namespace Dynaxis.Chat

open Shared List Option ChatRoomSet ChatServiceState ChatServiceState.FindsSeats Chat.Runtime Table

structure Ownership (inside : Session -> Prop) (nameOf : Session -> Option String) (owner : Option String) :
  Prop where
 present : ∀ name, owner = some name -> ∃ session, inside session /\ nameOf session = some name
 claimed : ∀ session, inside session -> ∀ name, nameOf session = some name -> name ≠ "guest" -> owner.isSome

namespace Ownership

variable {inside inside' : Session -> Prop} {nameOf nameOf' : Session -> Option String} {owner : Option String}

theorem same (ownership : Ownership inside nameOf owner) (sameInside : ∀ session, inside' session ↔ inside session)
  (sameNames : ∀ session, inside session -> nameOf' session = nameOf session) :
  Ownership inside' nameOf' owner where
 present := by
  intro name owns
  obtain ⟨holder, here, named⟩ := ownership.present name owns
  exact ⟨holder, (sameInside holder).mpr here, (sameNames holder here).trans named⟩
 claimed := by
  intro session here name named
  have before := (sameInside session).mp here
  exact ownership.claimed session before name ((sameNames session before).symm.trans named)

variable {session : Session} {name : String}

theorem of_present (here : inside session) (named : nameOf session = some name) :
  Ownership inside nameOf (some name) where
 present := by
  rintro _ ⟨⟩
  exact ⟨session, here, named⟩
 claimed := fun _ _ _ _ _ => rfl

theorem of_guests (guests : ∀ session, inside session -> ∀ name, nameOf session = some name -> name = "guest") :
  Ownership inside nameOf none where
 present := nofun
 claimed := fun session here name named notGuest => absurd (guests session here name named) notGuest

theorem arrive (ownership : Ownership inside nameOf owner) (named : nameOf session = some name)
  (arrived : ∀ other, inside' other ↔ inside other \/ other = session) :
  Ownership inside' nameOf (if owner = none /\ name ≠ "guest" then some name else owner) := by
 have here := (arrived session).mpr (.inr rfl)
 split
 · exact of_present here named
 next taken =>
  constructor
  · intro holderName owns
    obtain ⟨holder, inRoom, holds⟩ := ownership.present holderName owns
    exact ⟨holder, (arrived holder).mpr (.inl inRoom), holds⟩
  · intro other inRoom otherName otherNamed notGuest
    obtain before | rfl := (arrived other).mp inRoom
    · exact ownership.claimed other before otherName otherNamed notGuest
    · obtain rfl := some.inj (named.symm.trans otherNamed)
      rw [isSome_iff_ne_none]
      exact fun unowned => taken ⟨unowned, notGuest⟩

end Ownership

namespace ChatServiceState

section

variable (live : List Session) (state : ChatServiceState)

def Owned (room : String) : Prop :=
 Ownership (· ∈ state.members room) (fun session => state.user.lookup session.pointer)
  (state.roomOwners.lookup room)

structure OwnedBut (session : Session) (senderName room : String) : Prop where
 present : ∀ owner, state.roomOwners.lookup room = some owner ->
  (owner = senderName /\ session ∈ state.members room) \/
    ∃ member ∈ state.members room, member ≠ session /\ state.user.lookup member.pointer = some owner
 claimed : ∀ member ∈ state.members room, member ≠ session ->
  ∀ name, state.user.lookup member.pointer = some name -> name ≠ "guest" ->
   (state.roomOwners.lookup room).isSome

def Resident (session : Session) : Prop :=
 session ∈ live /\ ∃ name, name ≠ "" /\ state.user.lookup session.pointer = some name

end

variable {live : List Session} {state next : ChatServiceState} {room : String}

theorem Owned.but (owned : state.Owned room) {session : Session} {senderName : String}
  (named : state.user.lookup session.pointer = some senderName) : state.OwnedBut session senderName room where
 present := by
  intro owner owns
  obtain ⟨holder, here, holds⟩ := owned.present owner owns
  by_cases same : holder = session
  · subst same
    exact .inl ⟨some.inj (holds.symm.trans named), here⟩
  · exact .inr ⟨holder, here, same, holds⟩
 claimed := fun member here _ name => owned.claimed member here name

theorem Owned.prune (owned : state.Owned room) (sameUser : next.user = state.user)
  (members_back : ∀ session ∈ next.members room, session ∈ state.members room)
  (members_kept : ∀ session ∈ live, session ∈ state.members room -> session ∈ next.members room)
  (owners : state.KeepsOwners live next) (living : ∀ session ∈ state.members room, session ∈ live) :
  next.Owned room := by
 unfold Owned
 rw [sameUser]
 rcases owners room with same | ⟨erased, deserted⟩
 · rw [same]
   refine .same owned (fun session => ⟨members_back session, fun here => ?_⟩) fun _ _ => rfl
   exact members_kept session (living session here) here
 · rw [erased]
   refine .of_guests fun session here _ _ => ?_
   have before := members_back session here
   exact absurd before (deserted session (living session before))

section

variable (state : ChatServiceState) (session : Session) (room senderName : String)
 (consumeInvite assignOwner : Bool)

theorem roomOwners_placeSessionInRoom (other : String) :
  (state.placeSessionInRoom session room senderName consumeInvite assignOwner).roomOwners.lookup other =
    if other = room /\ room ≠ "lobby" /\ assignOwner = true /\
     state.roomOwners.lookup room = none /\ senderName ≠ "guest" then some senderName
    else state.roomOwners.lookup other := by
 have consumed (owned : ChatServiceState) : (owned.consumeRoomInvite room senderName).roomOwners = owned.roomOwners := by
  unfold consumeRoomInvite
  split
  · rfl
  · dsimp only
    split <;> rfl
 unfold placeSessionInRoom
 dsimp only
 split
 next unassigned =>
  rw [if_neg]
  rintro ⟨-, notLobby, assigns, -⟩
  rcases unassigned with lobby | unassigned
  · exact notLobby lobby
  · cases assigns.symm.trans unassigned
 next assigned =>
  simp only [not_or, Bool.not_eq_false] at assigned
  have owners (owned : ChatServiceState) : (if consumeInvite = true then owned.consumeRoomInvite room senderName
    else owned).roomOwners = owned.roomOwners := by
   split
   · exact consumed owned
   · rfl
  rw [owners]
  split
  next free =>
   rw [lookup_insert_ite]
   by_cases here : other = room
   · rw [if_pos here, if_pos ⟨here, assigned.1, assigned.2, free⟩]
   · rw [if_neg here, if_neg fun all => here all.1]
  next taken => rw [if_neg fun all => taken all.2.2.2]

theorem user_placeSessionInRoom :
  (state.placeSessionInRoom session room senderName consumeInvite assignOwner).user = state.user := by
 obtain ⟨_, _, placed⟩ := state.placeSessionInRoom_eq session room senderName consumeInvite assignOwner
 rw [placed]

end

theorem Owned.place (owned : ∀ other, other ≠ "lobby" -> state.Owned other) (session : Session)
  (room senderName : String) (consumeInvite : Bool)
  (named : room ≠ "lobby" -> state.user.lookup session.pointer = some senderName) :
  ∀ other, other ≠ "lobby" -> (state.placeSessionInRoom session room senderName consumeInvite true).Owned other := by
 intro other notLobby
 unfold Owned
 rw [user_placeSessionInRoom, roomOwners_placeSessionInRoom]
 by_cases here : other = room
 · subst here
   simp only [ne_eq, notLobby, not_false_eq_true, true_and]
   refine .arrive (owned other notLobby) (named notLobby) fun member => ?_
   rw [mem_members_placeSessionInRoom]
   simp
 · simp only [here, false_and, if_false]
   refine .same (owned other notLobby) (fun member => ?_) fun _ _ => rfl
   rw [mem_members_placeSessionInRoom]
   simp [here]

theorem selectReplacementRoomOwner_spec {members : ChatRoomSet}
  (residents : ∀ member ∈ members, state.Resident live member) (some_left : members ≠ []) (newOwner : String) :
  ∃ member ∈ members,
   state.user.lookup member.pointer = some (selectReplacementRoomOwner live state members newOwner) := by
 induction members generalizing newOwner with
 | nil => exact absurd rfl some_left
 | cons candidate rest ih =>
  obtain ⟨living, name, -, named⟩ := residents candidate mem_cons_self
  unfold selectReplacementRoomOwner
  rw [if_pos living, named]
  dsimp only
  split
  next guest =>
   -- A guest is kept only if nobody comes after it.
   by_cases last : rest = []
   · subst last
     exact ⟨candidate, mem_cons_self, named⟩
   · obtain ⟨member, later, holds⟩ := ih (fun member later => residents member (mem_cons_of_mem _ later)) last name
     exact ⟨member, mem_cons_of_mem _ later, holds⟩
  next => exact ⟨candidate, mem_cons_self, named⟩

section

variable (live : List Session) (state : ChatServiceState) (room sender : String)

theorem roomOwners_replaceOwner (members : ChatRoomSet) (other : String) :
  (state.replaceOwner live room members).roomOwners.lookup other =
    if other = room /\ (state.roomOwners.lookup room).isSome /\ selectReplacementRoomOwner live state members "" ≠ ""
    then some (selectReplacementRoomOwner live state members "")
    else state.roomOwners.lookup other := by
 unfold replaceOwner
 split
 next unowned => simp [unowned]
 next owner owns =>
  dsimp only
  split
  next nobody => simp [nobody]
  next found =>
   rw [lookup_insert_ite]
   simp [owns, found]

theorem roomOwners_collectRoomTargets :
  (state.collectRoomTargets live room sender).1.roomOwners = state.roomOwners := by
 unfold collectRoomTargets
 split
 · rfl
 · dsimp only
   split <;> rfl

end

theorem selectReplacementRoomOwner_user (live : List Session) (sameUser : next.user = state.user)
  (members : ChatRoomSet) (newOwner : String) :
  selectReplacementRoomOwner live next members newOwner = selectReplacementRoomOwner live state members newOwner := by
 induction members generalizing newOwner with
 | nil => rfl
 | cons candidate rest ih => simp only [selectReplacementRoomOwner, sameUser, ih]

section

variable (live : List Session) (state : ChatServiceState) (session : Session) (room senderName : String)

theorem roomOwners_removeSessionFromRoom_of_ne {other : String} (elsewhere : other ≠ room) :
  (state.removeSessionFromRoom live session room senderName).1.roomOwners.lookup other =
    state.roomOwners.lookup other := by
 unfold removeSessionFromRoom
 split
 · rfl
 · dsimp only
   split
   · simp only [eraseRoomMetadata, lookup_erase_ite, if_neg elsewhere, roomOwners_collectRoomTargets]
   · split
     · rw [roomOwners_replaceOwner, if_neg fun all => elsewhere all.1, roomOwners_collectRoomTargets]
     · rw [roomOwners_collectRoomTargets]

theorem roomOwners_removeSessionFromRoom (notLobby : room ≠ "lobby") (found : (state.rooms.lookup room).isSome) :
  let remaining := collectRoomSessions live (erase (state.members room) session)
  let newOwner := selectReplacementRoomOwner live state remaining ""
  (state.removeSessionFromRoom live session room senderName).1.roomOwners.lookup room =
    if remaining = [] then none
    else if state.roomOwners.lookup room = some senderName /\ newOwner ≠ "" then some newOwner
    else state.roomOwners.lookup room := by
 obtain ⟨members, listed⟩ := isSome_iff_exists.mp found
 have stored : state.members room = members := by simp [ChatServiceState.members, listed]
 unfold removeSessionFromRoom
 rw [listed, stored]
 dsimp only
 generalize source : ({ state with rooms := state.rooms.insert room (erase members session) } :
  ChatServiceState) = erased
 have sameOwners : (erased.collectRoomTargets live room senderName).1.roomOwners = state.roomOwners := by
  rw [roomOwners_collectRoomTargets, <- source]
 have sameUser : (erased.collectRoomTargets live room senderName).1.user = state.user := by
  obtain ⟨_, _, _, _, pruned⟩ := (collectRoomTargets_prunes live erased room senderName).onlyRooms
  rw [pruned, <- source]
 have remaining : (erased.collectRoomTargets live room senderName).1.members room =
   collectRoomSessions live (erase members session) := by
  rw [members_collectRoomTargets, if_pos rfl, <- source, members_insert, if_pos rfl]
 rw [remaining]
 by_cases emptied : collectRoomSessions live (erase members session) = []
 · rw [if_pos ⟨emptied, notLobby⟩, if_pos emptied]
   simp [eraseRoomMetadata]
 · rw [if_neg fun all => emptied all.1, if_neg emptied]
   by_cases owns : state.roomOwners.lookup room = some senderName
   · rw [if_pos (by simp [notLobby, owns]), roomOwners_replaceOwner, sameOwners,
      selectReplacementRoomOwner_user live sameUser]
     simp [owns]
   · rw [if_neg (by simp [owns]), sameOwners, if_neg fun all => owns all.1]

end

theorem user_removeSessionFromRoom (live : List Session) (state : ChatServiceState) (session : Session)
  (room senderName : String) : (state.removeSessionFromRoom live session room senderName).1.user = state.user := by
 obtain ⟨_, _, _, _, departed⟩ := (removeSessionFromRoom_spec live state session room senderName).1
 rw [departed]

variable {session : Session} {senderName : String}

theorem OwnedBut.removeSession (owned : state.OwnedBut session senderName room) (notLobby : room ≠ "lobby")
  (residents : ∀ member ∈ state.members room, member ≠ session -> state.Resident live member) :
  (state.removeSessionFromRoom live session room senderName).1.Owned room := by
 have listed := mem_members_removeSessionFromRoom live state session room senderName
 unfold Owned
 rw [user_removeSessionFromRoom]
 cases found : state.rooms.lookup room with
 | none =>
  -- Nobody is in a room that is not there, so nobody owns it.
  have nobody : state.members room = [] := by simp [members, found]
  have same : (state.removeSessionFromRoom live session room senderName).1 = state := by
   simp [removeSessionFromRoom, found]
  have unowned : state.roomOwners.lookup room = none := by
   cases owner : state.roomOwners.lookup room with
   | none => rfl
   | some name => obtain ⟨-, here⟩ | ⟨_, here, -⟩ := owned.present name owner <;> simp [nobody] at here
  rw [same, unowned]
  exact .of_guests fun member here => by simp [nobody] at here
 | some stored =>
  have remaining := (removeSessionFromRoom_spec live state session room senderName).2 room
  rw [if_pos rfl] at remaining
  rw [roomOwners_removeSessionFromRoom live state session room senderName notLobby (by simp [found]), <- remaining]
  split
  next emptied => exact .of_guests fun member here => by simp [emptied] at here
  next left =>
   have stays : ∀ member ∈ (state.removeSessionFromRoom live session room senderName).1.members room,
     state.Resident live member := by
    intro member here
    obtain ⟨before, other, -⟩ := (listed member room).mp here |>.imp_right (· rfl)
    exact residents member before other
   obtain ⟨heir, here, named⟩ := selectReplacementRoomOwner_spec stays left ""
   split
   next => exact .of_present here named
   next kept =>
    -- The heir has a name, so the owner is not the one who left.
    have otherOwner : state.roomOwners.lookup room ≠ some senderName := by
     intro owns
     obtain ⟨-, name, spelled, known⟩ := stays heir here
     refine kept ⟨owns, ?_⟩
     rwa [<- some.inj (known.symm.trans named)]
    constructor
    · intro name owns
      obtain ⟨same, -⟩ | ⟨member, before, other, holds⟩ := owned.present name owns
      · exact absurd (same ▸ owns) otherOwner
      · exact ⟨member, (listed member room).mpr ⟨before, fun _ => ⟨other, (residents member before other).1⟩⟩, holds⟩
    · intro member stayed name known notGuest
      obtain ⟨before, other, -⟩ := (listed member room).mp stayed |>.imp_right (· rfl)
      exact owned.claimed member before other name known notGuest

theorem Owned.removeSession_of_ne {other : String} (owned : state.Owned other)
  (elsewhere : other ≠ room) : (state.removeSessionFromRoom live session room senderName).1.Owned other := by
 unfold Owned
 rw [user_removeSessionFromRoom, roomOwners_removeSessionFromRoom_of_ne live state session room senderName elsewhere]
 refine .same owned (fun member => ?_) fun _ _ => rfl
 rw [mem_members_removeSessionFromRoom]
 simp [elsewhere]

variable (owned : ∀ other, other ≠ "lobby" -> state.Owned other)
include owned

variable (residents : AllMembers (state.Resident live) state)
include residents

theorem Owned.leave (named : state.user.lookup session.pointer = some senderName) (room : String) :
  ∀ other, other ≠ "lobby" -> (state.removeSessionFromRoom live session room senderName).1.Owned other := by
 intro other notLobby
 by_cases here : other = room
 · subst here
   exact ((owned other notLobby).but named).removeSession notLobby fun member inside _ => residents
    other member inside
 · exact (owned other notLobby).removeSession_of_ne here

theorem Owned.moveToRoom {sender : String}
  (named : state.user.lookup session.pointer = some sender) (room : String) (consumeInvite : Bool) :
  ∀ other, other ≠ "lobby" -> (state.moveToRoom live session room sender consumeInvite).Owned other := by
 unfold ChatServiceState.moveToRoom
 dsimp only
 split
 · exact .place owned session room sender consumeInvite fun _ => named
 next current _ =>
  split
  · exact .place owned session room sender consumeInvite fun _ => named
  · refine .place (.leave owned residents named current) session room sender consumeInvite fun _ => ?_
    rw [user_removeSessionFromRoom]
    exact named

theorem Owned.joinRoom (runtime : Runtime) {request : JoinRequest}
  (living : request.session ∈ live)
  (named : request.session.pointer ∈ state.authed ->
    state.user.lookup request.session.pointer = some (state.actorName request.session))
  (redisPassword : Option String) (hookHandled : Bool) :
  ∀ other, other ≠ "lobby" -> (state.joinRoom runtime live request redisPassword hookHandled).1.Owned other := by
 intro other notLobby
 obtain ⟨roomPasswords, refused, -⟩ | ⟨roomPasswords, joined, authorized, -, -, -, -, moved⟩ :=
  joinRoom_cases runtime live state request redisPassword hookHandled
 · rw [refused]
   exact owned other notLobby
 · rw [moved]
   have secured : ∀ other, other ≠ "lobby" -> ({ state with roomPasswords } : ChatServiceState).Owned other := owned
   generalize JoinGate.hasRoomInvite _ = consumeInvite
   generalize arrives : ({ state with roomPasswords } : ChatServiceState).moveToRoom live request.session
    request.roomToJoin (state.actorName request.session) consumeInvite = arrived
   have entered : arrived.Owned other := by
    rw [<- arrives]
    exact .moveToRoom secured residents (named authorized) request.roomToJoin consumeInvite other notLobby
   have pruned := collectRoomTargets_prunes live arrived request.roomToJoin (state.actorName request.session)
   refine entered.prune ?_ (pruned.members_back other)
    (pruned.members_kept other) pruned.owners fun member inside => ?_
   · obtain ⟨_, _, _, _, same⟩ := pruned.onlyRooms
     rw [same]
   · rw [<- arrives, mem_members_moveToRoom] at inside
     obtain ⟨before, -⟩ | ⟨-, rfl⟩ := inside
     · exact (residents other member before).1
     · exact living

theorem Owned.leaveRoom {request : LeaveRequest}
  (named : request.session.pointer ∈ state.authed ->
    state.user.lookup request.session.pointer = some (state.actorName request.session)) (hookHandled : Bool) :
  ∀ other, other ≠ "lobby" -> (state.leaveRoom live request hookHandled).1.Owned other := by
 unfold ChatServiceState.leaveRoom
 dsimp only
 split
 · exact owned
 next authorized =>
  have acts := named (Decidable.not_not.mp authorized)
  split
  · exact owned
  next roomToLeave _ =>
   split
   · exact owned
   · split
     · split
       · exact owned
       · exact .place (.leave owned residents acts roomToLeave) request.session "lobby"
          (state.actorName request.session) false fun elsewhere => absurd rfl elsewhere
     · exact .place owned request.session "lobby" "" false fun elsewhere => absurd rfl elsewhere

theorem Owned.kickFromRoom (agrees : NamesAgree live state)
  (spelled : ∀ pointer, state.user.lookup pointer ≠ some "") (targetUser targetRoom : String) :
  ∀ other, other ≠ "lobby" -> (state.kickFromRoom live targetUser targetRoom).1.Owned other := by
 have kept : (state.kickFromRoom live targetUser targetRoom).1.user = state.user /\
   AllMembers (state.Resident live) (state.kickFromRoom live targetUser targetRoom).1 /\
   ∀ other, other ≠ "lobby" -> (state.kickFromRoom live targetUser targetRoom).1.Owned other := by
  apply kickFromRoom_induction (motive := fun current => current.user = state.user /\
   AllMembers (state.Resident live) current /\ ∀ other, other ≠ "lobby" -> current.Owned other)
  case start =>
   obtain ⟨_, same⟩ := (collectUserSessions_prunes live state targetUser).onlyNames
   rw [same]
   exact ⟨rfl, residents, owned⟩
  case evict =>
   rintro current ⟨sameUser, inhabited, held⟩ candidate living listed -
   have named : state.user.lookup candidate.pointer = some targetUser := (agrees candidate living targetUser).mp listed
   have resident : state.Resident live candidate :=
    ⟨living, targetUser, fun empty => spelled candidate.pointer (empty ▸ named), named⟩
   have sameResident : current.Resident live = state.Resident live := by
    funext member
    simp only [Resident, sameUser]
   refine ⟨?_, fun room member inside => ?_, ?_⟩
   · rw [user_placeSessionInRoom, user_removeSessionFromRoom, sameUser]
   · rw [mem_members_relocate] at inside
     obtain ⟨before, -⟩ | ⟨-, rfl⟩ := inside
     · exact inhabited room member before
     · exact resident
   · refine .place (.leave held (sameResident ▸ inhabited) ?_ targetRoom) candidate "lobby" targetUser false
      fun elsewhere => absurd rfl elsewhere
     rw [sameUser]
     exact named
 exact kept.2.2

omit residents

theorem Owned.removeRoom (live : List Session)
  (targetRoom : String) : ∀ other, other ≠ "lobby" -> (state.removeRoom live targetRoom).1.Owned other := by
 intro other notLobby
 obtain ⟨_, ⟨_, _, _, _, only⟩, -, listed⟩ := removeRoom_spec live state targetRoom
 have sameUser : (state.removeRoom live targetRoom).1.user = state.user := by rw [only]
 -- The members are placed in the lobby, which has no owner.
 have placed (moved : List Session) :
   (moved.foldl (fun current candidate => current.placeSessionInRoom candidate "lobby" "guest" false true)
     state).roomOwners = state.roomOwners :=
  foldl_keeps _ roomOwners (fun current candidate => (by simp [placeSessionInRoom] :
   (current.placeSessionInRoom candidate "lobby" "guest" false true).roomOwners = current.roomOwners)) moved state
 have owners : (state.removeRoom live targetRoom).1.roomOwners = state.roomOwners.erase targetRoom := by
  simp only [ChatServiceState.removeRoom, eraseRoomMetadata, placed]
 unfold Owned
 rw [sameUser, owners, lookup_erase_ite]
 split
 next here => exact .of_guests fun member inside => absurd here ((listed member other).mp inside).1
 next elsewhere =>
  refine .same (owned other notLobby) (fun member => ?_) fun _ _ => rfl
  rw [listed]
  simp [elsewhere, notLobby]

theorem Owned.publishLogin (agrees : RoomsAgree live state) (separate : SeparateSessions live)
  (living : AllMembers (· ∈ live) state) (alive : session ∈ live) {login : Login}
  (outside : ∀ room, state.curRoom.lookup session.pointer = some room -> room = login.room)
  (settled : login.room = "lobby" \/ (state.roomOwners.lookup login.room).isSome /\
    ∀ room, state.curRoom.lookup session.pointer = some room ->
     state.user.lookup session.pointer = some login.newUser) :
  ∀ other, other ≠ "lobby" -> (state.publishLogin session login).Owned other := by
 intro other notLobby
 have listed := mem_members_publishLogin state session login
 have owners : (state.publishLogin session login).roomOwners.lookup other = state.roomOwners.lookup other := by
  unfold ChatServiceState.publishLogin
  rw [roomOwners_placeSessionInRoom, if_neg]
  · rfl
  · rintro ⟨rfl, -, -, unowned, -⟩
    obtain lobby | ⟨owns, -⟩ := settled
    · exact notLobby lobby
    · have free : state.roomOwners.lookup login.room = none := unowned
      simp [free] at owns
 -- The others keep their names, and so does the session if it is in the room already.
 have names : ∀ member ∈ state.members other,
   (state.publishLogin session login).user.lookup member.pointer = state.user.lookup member.pointer := by
  intro member inside
  rw [user_publishLogin, lookup_insert_ite]
  split
  next shared =>
   obtain rfl := separate member session (living other member inside) alive shared
   have current : state.curRoom.lookup member.pointer = some other := (agrees member alive other).mp inside
   obtain rfl := outside other current
   obtain lobby | ⟨-, kept⟩ := settled
   · exact absurd lobby notLobby
   · exact (kept _ current).symm
  next => rfl
 unfold Owned
 rw [owners]
 by_cases here : other = login.room
 · subst here
   obtain lobby | ⟨owns, -⟩ := settled
   · exact absurd lobby notLobby
   · obtain ⟨owner, found⟩ := isSome_iff_exists.mp owns
     obtain ⟨holder, inside, holds⟩ := (owned login.room notLobby).present owner found
     rw [found]
     exact .of_present ((listed holder login.room).mpr (.inl inside)) ((names holder inside).trans holds)
 · refine .same (owned other notLobby) (fun member => ?_) names
   rw [listed]
   simp [here]

theorem Owned.closeSession (residents : AllMembers (state.Resident live) state)
  (agrees : RoomsAgree live state) (separate : SeparateSessions live) (alive : session ∈ live) :
  ∀ other, other ≠ "lobby" -> (state.closeSession live session).1.Owned other := by
 -- The other members keep their names.
 have names {room : String} {member : Session} (inside : member ∈ state.members room)
  (different : member ≠ session) :
   (state.forgetSession session).user.lookup member.pointer = state.user.lookup member.pointer := by
  rw [forgetSession, lookup_erase_ite, if_neg]
  exact fun shared => different (separate member session (residents room member inside).1 alive shared)
 have others {room : String} (notLobby : room ≠ "lobby") (outside : session ∉ state.members room) :
   (state.forgetSession session).Owned room := by
  refine .same (owned room notLobby) (fun _ => Iff.rfl) fun member inside => ?_
  exact names inside fun same => outside (same ▸ inside)
 have leaving {room : String} (notLobby : room ≠ "lobby") (inside : session ∈ state.members room) :
   (state.forgetSession session).OwnedBut session (state.actorName session) room := by
  obtain ⟨-, name, -, named⟩ := residents room session inside
  have acts : state.actorName session = name := by simp [actorName, named]
  have before := (owned room notLobby).but (acts ▸ named)
  constructor
  · intro owner owns
    refine (before.present owner owns).imp_right ?_
    rintro ⟨member, here, different, holds⟩
    exact ⟨member, here, different, (names here different).trans holds⟩
  · intro member here different name known
    exact before.claimed member here different name ((names here different).symm.trans known)
 intro other notLobby
 rw [closeSession_departs]
 cases current : state.curRoom.lookup session.pointer with
 | none =>
  refine others notLobby fun inside => ?_
  cases current.symm.trans ((agrees session alive other).mp inside)
 | some roomLeft =>
  have elsewhere (different : other ≠ roomLeft) : session ∉ state.members other := by
   intro inside
   exact different (some.inj (current.symm.trans ((agrees session alive other).mp inside))).symm
  have inside : session ∈ state.members roomLeft := (agrees session alive roomLeft).mpr current
  have found : (state.forgetSession session).roomExists roomLeft = true := by
   rw [roomExists, forgetSession, isSome_iff_ne_none]
   intro absent
   simp [members, absent] at inside
  simp only [found, if_true]
  by_cases here : other = roomLeft
  · subst here
    refine (leaving notLobby inside).removeSession notLobby fun member stays different => ?_
    obtain ⟨living, name, spelled, known⟩ := residents other member stays
    exact ⟨living, name, spelled, (names stays different).trans known⟩
  · exact (others notLobby (elsewhere here)).removeSession_of_ne here

omit owned

end ChatServiceState

structure Ruled (live closed : List Session) (state : ChatServiceState) : Prop
  extends Seats live closed state where
 known : ∀ pointer, (state.curRoom.lookup pointer).isSome \/ pointer ∈ state.authed ->
  (state.user.lookup pointer).isSome
 ruled : ∀ room, room ≠ "lobby" -> state.Owned room

namespace Ruled

variable {live closed : List Session} {state next : ChatServiceState} {session : Session}
 (ruled : Ruled live closed state)
include ruled

theorem residents : AllMembers (state.Resident live) state := by
 intro room member inside
 have living := (ruled.seated room member inside).1
 have current : state.curRoom.lookup member.pointer = some room := (ruled.rooms member living room).mp inside
 obtain ⟨name, named⟩ := isSome_iff_exists.mp (ruled.known member.pointer (.inl (by simp [current])))
 exact ⟨living, name, fun empty => ruled.spelled member.pointer (empty ▸ named), named⟩

theorem acts (authorized : session.pointer ∈ state.authed) :
  state.user.lookup session.pointer = some (state.actorName session) := by
 obtain ⟨name, named⟩ := isSome_iff_exists.mp (ruled.known session.pointer (.inr authorized))
 simp [actorName, named]

theorem moves (moves : Moves live state next) (finds : state.FindsSeats next)
  (seats : Seats live closed next) (owned : ∀ room, room ≠ "lobby" -> next.Owned room) : Ruled live closed next := by
 refine { seats with known := fun pointer placed => ?_, ruled := owned }
 have sameAuthed : next.authed = state.authed := by
  obtain ⟨_, maps⟩ := moves.sameMaps
  exact congrArg SessionMaps.authed maps
 rw [moves.names.user]
 rw [sameAuthed] at placed
 exact ruled.known pointer (placed.elim (finds pointer) .inr)

theorem quiet (quiet : Quiet live state next) (seats : Seats live closed next) : Ruled live closed next := by
 have sameRoom : next.curRoom = state.curRoom := congrArg SessionMaps.curRoom quiet.sameMaps
 refine ruled.moves (.of_quiet quiet) (fun pointer inRoom => .inl (sameRoom ▸ inRoom)) seats fun room notLobby => ?_
 exact (ruled.ruled room notLobby).prune (congrArg SessionMaps.user quiet.sameMaps) (quiet.members_back room)
  (quiet.members_kept room) quiet.owners fun member inside => (ruled.seated room member inside).1

theorem forget {room : String} (guests : ∀ member ∈ state.members room, state.actorName member = "guest") :
  Ruled live closed (state.forgetRoomOwnership room) := by
 refine { ruled with known := ruled.known, ruled := fun other notLobby => ?_ }
 unfold ChatServiceState.Owned
 simp only [forgetRoomOwnership, lookup_erase_ite]
 split
 next here =>
  subst here
  refine .of_guests fun member inside name named => ?_
  have acts := guests member inside
  have known : state.user.lookup member.pointer = some name := named
  simpa [actorName, known] using acts
 next => exact ruled.ruled other notLobby

theorem publishLogin (separate : SeparateSessions live) (living : session ∈ live) {login : Login}
  (outside : ∀ room, state.curRoom.lookup session.pointer = some room -> room = login.room)
  (settled : login.room = "lobby" \/ (state.roomOwners.lookup login.room).isSome /\
    ∀ room, state.curRoom.lookup session.pointer = some room -> state.user.lookup session.pointer = some login.newUser)
  (seats : Seats live closed (state.publishLogin session login)) :
  Ruled live closed (state.publishLogin session login) := by
 refine { seats with
    known := fun pointer placed => ?_
    ruled := ChatServiceState.Owned.publishLogin ruled.ruled ruled.rooms separate
     (fun room member inside => (ruled.seated room member inside).1) living outside settled }
 rw [user_publishLogin, lookup_insert_ite]
 split
 · rfl
 next elsewhere =>
  obtain ⟨_, _, _, _, published⟩ := state.publishLogin_onlyRooms session login
  have authed : (state.publishLogin session login).authed = insert session.pointer state.authed := by
   rw [published]
   rfl
  rw [RoomsAgree.curRoom_of_onlyRooms (state.publishLogin_onlyRooms session login) rfl, if_neg elsewhere,
   authed, Finset.mem_insert, or_iff_right elsewhere] at placed
  exact ruled.known pointer placed

theorem closeSession (separate : SeparateSessions live)
  (living : session ∈ live) : Ruled live (session :: closed) (state.closeSession live session).1 := by
 refine { ruled.toSeats.closeSession separate living with
    known := fun pointer placed => ?_
    ruled := ChatServiceState.Owned.closeSession ruled.ruled ruled.residents ruled.rooms separate living }
 obtain ⟨_, _, _, _, _, closedState, current, -⟩ := state.closeSession_eq live session
 rw [closedState] at placed ⊢
 simp only [current, Finset.mem_erase, lookup_erase_ite] at placed ⊢
 by_cases here : pointer = session.pointer
 · simp [here] at placed
 · simp only [here, if_false, ne_eq, not_false_eq_true, true_and] at placed ⊢
   exact ruled.known pointer placed

omit ruled

end Ruled

abbrev Login.KeepsOwners (world : World) (session : Session) (login : Login) : Prop :=
 session ∉ world.closed /\ (∀ room ∈ world.state.curRoom.lookup session.pointer, room = login.room) /\
  (login.room = "lobby" \/ (world.state.roomOwners.lookup login.room).isSome /\
    ∀ room ∈ world.state.curRoom.lookup session.pointer,
     world.state.user.lookup session.pointer = some login.newUser)

/-- The condition on a step: a login that it publishes keeps the owners, and only guests are in
a room whose owner it forgets. -/
abbrev Job.KeepsOwners (runtime : Runtime) (choices : Choices) (world : World) (job : Job) : Prop :=
 (∀ entry ∈ job.publication, entry.2.KeepsOwners world entry.1) /\
   ∀ room ∈ job.forgets runtime choices, ∀ member ∈ world.state.members room,
    world.state.actorName member = "guest"

theorem StateChange.ruled {runtime : Runtime} {choices : Choices} {world : World} {job : Job}
  {next : ChatServiceState} (change : StateChange runtime choices world.live world.state job next)
  (ruled : Ruled world.live world.closed world.state) (separate : SeparateSessions world.live)
  (held : ∀ session ∈ job.holds, session ∈ world.live) (spelled : ∀ grant ∈ job.granted, grant.name ≠ "")
  (keeps : job.KeepsOwners runtime choices world) (noClose : job.closes = none) :
  Ruled world.live world.closed next := by
 have seats := change.keepsSeats ruled.toSeats separate held spelled noClose
  (fun entry published => (keeps.1 entry published).1) (fun entry published => (keeps.1 entry published).2.1)
 have created (session : Session) (generated : String) :
   Ruled world.live world.closed (world.state.getOrCreateSessionUuid session generated).1 := by
  obtain ⟨_, same, -⟩ := world.state.getOrCreateSessionUuid_eq session generated
  rw [same]
  exact { ruled with known := ruled.known }
 cases change with
 | quiet quiet => exact ruled.quiet quiet seats
 | loginUuid request generated | joinUuid request generated | leaveUuid request generated
 | closeUuid session generated => exact created _ _
 | register request | storeUid request login answers known | keepLease request login =>
  exact { ruled with known := ruled.known }
 | publish request login checkedAt =>
  obtain ⟨-, outside, settled⟩ := keeps.1 _ rfl
  exact ruled.publishLogin separate (held _ mem_cons_self) outside settled seats
 | join request redisPassword hookHandled =>
  refine ruled.moves (.joinRoom ..) (joinRoom _ _ runtime request redisPassword hookHandled) seats ?_
  exact ChatServiceState.Owned.joinRoom ruled.ruled ruled.residents runtime (held _ mem_cons_self)
   ruled.acts redisPassword hookHandled
 | leave request hookHandled =>
  refine ruled.moves (.leaveRoom ..) (leaveRoom _ _ request hookHandled) seats ?_
  exact ChatServiceState.Owned.leaveRoom ruled.ruled ruled.residents ruled.acts hookHandled
 | forget room forgets => exact ruled.forget (keeps.2 room forgets)
 | kick request currentRoom targetUser targetRoom notLobby allowed =>
  refine ruled.moves (.kickFromRoom ..) (kickFromRoom _ _ targetUser targetRoom) seats ?_
  exact ChatServiceState.Owned.kickFromRoom ruled.ruled ruled.residents ruled.names ruled.spelled
   targetUser targetRoom
 | removeRoom request currentRoom targetRoom notLobby allowed =>
  refine ruled.moves (.removeRoom ..) (ChatServiceState.FindsSeats.removeRoom _ _ ruled.rooms targetRoom) seats ?_
  exact ChatServiceState.Owned.removeRoom ruled.ruled world.live targetRoom
 | close session => cases noClose

namespace Server

variable {runtime : Runtime} {server next : Server}

def KeepsOwners (runtime : Runtime) (server : Server) : Event -> Prop
 | .advance index choices => ∀ job ∈ server.running[index]?, job.KeepsOwners runtime choices server.world
 | _ => True

instance (runtime : Runtime) (server : Server) : (event : Event) -> Decidable (server.KeepsOwners runtime event)
 | .advance _ _ => inferInstanceAs (Decidable (∀ job ∈ _, _))
 | .receive _ | .accept _ | .disconnect _ | .take | .destroy _ | .elapse _ => isTrue trivial

structure Governed (server : Server) : Prop where
 accounted : server.Accounted
 ruled : Ruled server.world.live server.world.closed server.world.state

theorem empty_governed : empty.Governed where
 accounted := empty_accounted
 ruled :=
  { owned := by
     rintro pointer (named | inRoom | authorized)
     · cases named
     · cases inRoom
     · exact absurd authorized (Finset.notMem_empty pointer)
    names := nofun
    named := nofun
    spelled := nofun
    rooms := nofun
    seated := nofun
    known := by
     rintro pointer (inRoom | authorized)
     · cases inRoom
     · exact absurd authorized (Finset.notMem_empty pointer)
    ruled := fun _ _ => Ownership.of_guests nofun }

theorem Governed.step (governed : server.Governed) {event : Event} (keeps : server.KeepsOwners runtime event)
  (taken : Server.step runtime server event = some next) : next.Governed := by
 refine ⟨governed.accounted.step taken, ?_⟩
 have separate := governed.accounted.sound.separate
 obtain idle | ⟨index, choices, job, before, after, rfl, found, split, rfl⟩ := step_cases taken
 · obtain ⟨kept, fresh⟩ := governed.accounted.relives idle taken
   rw [idle.state, idle.closed]
   refine { governed.ruled.toSeats.relive kept fun session living => ?_ with
    known := governed.ruled.known
    ruled := governed.ruled.ruled }
   refine (fresh session living).imp_right (And.imp_right fun fresh occupied => ?_)
   obtain ⟨owner, isOpen, here⟩ := governed.ruled.owned session.pointer occupied
   exact fresh.1 owner isOpen.1 here
 · have own : job ∈ server.jobs := by simp [jobs, split]
   have held := governed.accounted.sound.held job own
   have frame := job.step_frame runtime choices server.world
   rw [frame.live, frame.closed]
   cases closes : job.closes with
   | none =>
    exact (job.step_change runtime choices server.world).ruled governed.ruled separate held
     (governed.accounted.spelled job own) (keeps job found) closes
   | some session =>
    obtain rfl := Job.eq_of_closes closes
    exact governed.ruled.closeSession separate (held _ mem_cons_self)

/-- In every run whose steps keep the owners, a room other than the lobby with a member that is
not a guest has an owner, and the owner is the name of a live member. -/
theorem room_belongs_to_a_member (runtime : Runtime) (trace : List Event) (final : Server)
  (keeps : (machine runtime).Guarded (KeepsOwners runtime) empty trace)
  (ran : (machine runtime).run empty trace = some final) (room : String) (notLobby : room ≠ "lobby")
  (session : Session) (inside : session ∈ final.world.state.members room)
  (notGuest : final.world.state.actorName session ≠ "guest") :
  ∃ owner, final.world.state.roomOwners.lookup room = some owner /\
   ∃ holder ∈ final.world.state.members room, holder ∈ final.world.live /\
    final.world.state.user.lookup holder.pointer = some owner := by
 have governed := (machine runtime).run_invariant
  (fun server event next governed keeps taken => Governed.step governed keeps taken) empty_governed keeps ran
 obtain ⟨-, name, -, named⟩ := governed.ruled.residents room session inside
 have acts : final.world.state.actorName session = name := by simp [actorName, named]
 have owned := governed.ruled.ruled room notLobby
 obtain ⟨owner, owns⟩ := isSome_iff_exists.mp (owned.claimed session inside name named (acts ▸ notGuest))
 obtain ⟨holder, here, holds⟩ := owned.present owner owns
 exact ⟨owner, owns, holder, here, (governed.ruled.seated room holder here).1, holds⟩

def serve (request : Request) (steps : Nat) : List Event :=
 [.receive request, .take] ++ advanceBy steps 0

def sharedDen : List Event :=
 [.accept firstClient, .accept secondClient] ++ serve (.login ⟨firstClient, "alice", ""⟩) 9 ++
   serve (.login ⟨secondClient, "bob", ""⟩) 9 ++ serve (.join ⟨firstClient, "den", "sesame"⟩) 9 ++
   serve (.join ⟨secondClient, "den", "sesame"⟩) 9 ++ serve (.leave ⟨firstClient, "den"⟩) 10

theorem den_passes_to_the_other_member :
  ∃ final, (machine standalone).run empty sharedDen = some final /\
   final.world.state.actorName secondClient = "bob" /\
   ∃ owner, final.world.state.roomOwners.lookup "den" = some owner /\
    ∃ holder ∈ final.world.state.members "den", holder ∈ final.world.live /\
     final.world.state.user.lookup holder.pointer = some owner := by
 obtain ⟨final, ran, inside, acts⟩ := (machine standalone).exists_final
  (show ∃ final ∈ (machine standalone).run empty sharedDen,
    secondClient ∈ final.world.state.members "den" /\ final.world.state.actorName secondClient = "bob" by
    decide +kernel)
 refine ⟨final, ran, acts, ?_⟩
 exact room_belongs_to_a_member standalone sharedDen final (by decide +kernel) ran "den" (by decide)
  secondClient inside (by rw [acts]; decide)

/-- Alice owns the room and logs in again as bob: the session stays a member, and the room
still belongs to alice, whom no session is called any more. -/
theorem renamed_owner_leaves_the_room_behind :
  ¬ ∀ (runtime : Runtime) (trace : List Event) (final : Server),
   (machine runtime).run empty trace = some final ->
   ∀ room, room ≠ "lobby" -> ∀ session ∈ final.world.state.members room,
    final.world.state.actorName session ≠ "guest" ->
    ∃ owner, final.world.state.roomOwners.lookup room = some owner /\
     ∃ holder ∈ final.world.state.members room, holder ∈ final.world.live /\
      final.world.state.user.lookup holder.pointer = some owner := by
 intro claim
 let trace : List Event :=
  [.accept firstClient] ++ serve (.login ⟨firstClient, "alice", ""⟩) 9 ++
    serve (.join ⟨firstClient, "den", ""⟩) 9 ++ serve (.login ⟨firstClient, "bob", ""⟩) 9
 obtain ⟨final, ran, inside, acts, owns, alone⟩ := (machine standalone).exists_final
  (show ∃ final ∈ (machine standalone).run empty trace,
    firstClient ∈ final.world.state.members "den" /\ final.world.state.actorName firstClient = "bob" /\
     final.world.state.roomOwners.lookup "den" = some "alice" /\
     ∀ member ∈ final.world.state.members "den",
      final.world.state.user.lookup member.pointer = some "bob" by decide +kernel)
 obtain ⟨owner, isOwner, holder, here, -, holds⟩ := claim standalone trace final ran "den" (by decide)
  firstClient inside (by rw [acts]; decide)
 obtain rfl := some.inj (owns.symm.trans isOwner)
 exact absurd (some.inj ((alone holder here).symm.trans holds)) (by decide)

end Server

end Dynaxis.Chat
