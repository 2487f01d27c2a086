import Dynaxis.Chat.Scheduling

namespace Dynaxis.Chat

open Shared ChatServiceState List Option ReverseIndex.Agrees Chat.Runtime

def RoomsAgree (live : List Session) (state : ChatServiceState) : Prop :=
 ReverseIndex.Agrees (· ∈ live) Session.pointer (fun room session => session ∈ state.members room)
  (fun pointer => state.curRoom.lookup pointer)

namespace RoomsAgree

variable {live : List Session} {state next : ChatServiceState}

theorem prune (agrees : RoomsAgree live state) (pruned : state.PrunesRooms live next) : RoomsAgree live next := by
 have sameRoom : next.curRoom = state.curRoom := by
  obtain ⟨_, _, _, _, rfl⟩ := pruned.onlyRooms
  rfl
 refine same agrees (fun _ => id) (fun session living room => ?_) (fun session _ => by rw [sameRoom])
 exact ⟨pruned.members_back room session, pruned.members_kept room session living⟩

variable {session : Session}

theorem relocate (agrees : RoomsAgree live state) (separate : SeparateSessions live)
  (living : session ∈ live) (room : String)
  (current : ∀ pointer, next.curRoom.lookup pointer =
    if pointer = session.pointer then some room else state.curRoom.lookup pointer)
  (own : ∀ key, session ∈ next.members key ↔ key = room)
  (others : ∀ other ∈ live, other ≠ session -> ∀ key, other ∈ next.members key ↔ other ∈ state.members key) :
  RoomsAgree live next := by
 refine move agrees separate living (some room) (fun key => ?_) others ?_ ?_
 · rw [own key, some.injEq, eq_comm]
 · rw [current, if_pos rfl]
 · intro pointer different
   rw [current, if_neg different]

theorem curRoom_of_onlyRooms {base : ChatServiceState} {room : String}
  (only : base.OnlyRooms next) (entered : base.curRoom = state.curRoom.insert session.pointer room)
  (pointer : Pointer) :
  next.curRoom.lookup pointer =
   if pointer = session.pointer then some room else state.curRoom.lookup pointer := by
 obtain ⟨_, _, _, _, rfl⟩ := only
 show base.curRoom.lookup pointer = _
 rw [entered, Table.lookup_insert_ite]

theorem curRoom_joinRoom (live : List Session) (state : ChatServiceState) (runtime : Runtime)
  (request : JoinRequest) (redisPassword : Option String) (hookHandled : Bool) (pointer : Pointer) :
  (state.joinRoom runtime live request redisPassword hookHandled).1.curRoom.lookup pointer =
    state.curRoom.lookup pointer \/
    (request.session.pointer ∈ state.authed /\ pointer = request.session.pointer /\
      (∃ joined, (state.joinRoom runtime live request redisPassword hookHandled).2 = .proceed joined) /\
      (state.joinRoom runtime live request redisPassword hookHandled).1.curRoom.lookup pointer =
        some request.roomToJoin) := by
 obtain ⟨_, refused, -⟩ | ⟨roomPasswords, joined, authorized, -, -, -, -, moved⟩ :=
  joinRoom_cases runtime live state request redisPassword hookHandled
 · rw [refused]
   exact .inl rfl
 · have entered (consumeInvite : Bool) :=
    curRoom_of_onlyRooms (moveToRoom_onlyRooms live { state with roomPasswords }
     request.session request.roomToJoin (state.actorName request.session) consumeInvite) rfl pointer
   rw [moved]
   obtain ⟨_, _, _, _, pruned⟩ := (collectRoomTargets_prunes live _
    request.roomToJoin (state.actorName request.session)).onlyRooms
   rw [pruned]
   dsimp only
   rw [entered]
   split
   next here => exact .inr ⟨authorized, here, ⟨joined, rfl⟩, rfl⟩
   next => exact .inl rfl

variable (agrees : RoomsAgree live state)
include agrees

variable (separate : SeparateSessions live)
include separate

theorem publishLogin (living : session ∈ live)
  (login : Login) (outside : ∀ room, state.curRoom.lookup session.pointer = some room -> room = login.room) :
  RoomsAgree live (state.publishLogin session login) := by
 refine agrees.relocate separate living login.room
  (curRoom_of_onlyRooms (publishLogin_onlyRooms state session login) rfl)
  (fun key => ?_) ?_
 · rw [mem_members_publishLogin]
   constructor
   · rintro (before | ⟨here, -⟩)
     · exact outside key ((agrees session living key).mp before)
     · exact here
   · exact fun here => .inr ⟨here, rfl⟩
 · intro other _ different key
   rw [mem_members_publishLogin]
   simp [different]

theorem moveToRoom (living : session ∈ live) (room sender : String) (consumeInvite : Bool) :
  RoomsAgree live (state.moveToRoom live session room sender consumeInvite) := by
 refine agrees.relocate separate living room
  (curRoom_of_onlyRooms (moveToRoom_onlyRooms live state session room sender consumeInvite) rfl)
  (fun key => ?_) ?_
 · rw [mem_members_moveToRoom]
   constructor
   · rintro (⟨before, gone⟩ | ⟨here, -⟩)
     · by_contra elsewhere
       exact (gone ((agrees session living key).mp before) elsewhere).1 rfl
     · exact here
   · exact fun here => .inr ⟨here, rfl⟩
 · intro other livingOther different key
   rw [mem_members_moveToRoom]
   simp [different, livingOther]

theorem outOf (living : session ∈ live)
  {source : String} (target : String) (current : state.curRoom.lookup session.pointer = some source)
  (only : ({ state with curRoom := state.curRoom.insert session.pointer target } : ChatServiceState).OnlyRooms next)
  (listed : ∀ other key, other ∈ next.members key ↔
    (other ∈ state.members key /\ (key = source -> other ≠ session /\ other ∈ live)) \/
      (key = target /\ other = session)) : RoomsAgree live next := by
 refine agrees.relocate separate living target (curRoom_of_onlyRooms only rfl) (fun key => ?_) ?_
 · rw [listed]
   constructor
   · rintro (⟨before, gone⟩ | ⟨here, -⟩)
     · have inside : state.curRoom.lookup session.pointer = some key :=
        (agrees session living key).mp before
       rw [current] at inside
       exact absurd rfl (gone (some.inj inside).symm).1
     · exact here
   · exact fun here => .inr ⟨here, rfl⟩
 · intro other livingOther different key
   rw [listed]
   simp [different, livingOther]

theorem joinRoom (runtime : Runtime)
  {request : JoinRequest} (living : request.session ∈ live) (redisPassword : Option String) (hookHandled : Bool) :
  RoomsAgree live (state.joinRoom runtime live request redisPassword hookHandled).1 := by
 obtain ⟨roomPasswords, refused, -⟩ | ⟨roomPasswords, joined, -, -, -, -, -, moved⟩ :=
  joinRoom_cases runtime live state request redisPassword hookHandled
 · rw [refused]
   exact agrees
 · rw [moved]
   have before : RoomsAgree live ({ state with roomPasswords } : ChatServiceState) := agrees
   exact (before.moveToRoom separate living _ _ _).prune (collectRoomTargets_prunes live _ _ _)

theorem leaveRoom {request : LeaveRequest} (living : request.session ∈ live) (hookHandled : Bool) :
  RoomsAgree live (state.leaveRoom live request hookHandled).1 := by
 obtain ⟨same, -⟩ | ⟨left, -, -, current, -, only, listed⟩ :=
  leaveRoom_cases live state request hookHandled
 · rw [same]
   exact agrees
 · exact agrees.outOf separate living "lobby" current only listed

theorem kickFromRoom (targetUser targetRoom : String) :
  RoomsAgree live (state.kickFromRoom live targetUser targetRoom).1 := by
 apply kickFromRoom_induction
 case start =>
  obtain ⟨_, same⟩ := (collectUserSessions_prunes live state targetUser).onlyNames
  rw [same]
  exact agrees
 case evict =>
  intro current reached candidate living _ inside
  exact reached.outOf separate living "lobby" inside
   (relocate_onlyRooms live current candidate targetRoom "lobby" _ _ _ _)
   (mem_members_relocate live current candidate targetRoom "lobby" _ _ _ _)

theorem removeRoom {targetRoom : String}
  (notLobby : targetRoom ≠ "lobby") : RoomsAgree live (state.removeRoom live targetRoom).1 := by
 obtain ⟨curRoom, only, current, listed⟩ := removeRoom_spec live state targetRoom
 have sameRoom : (state.removeRoom live targetRoom).1.curRoom = curRoom := by
  obtain ⟨_, _, _, _, removed⟩ := only
  rw [removed]
 refine merge agrees (Ne.symm notLobby) (fun session living key => ?_)
  (fun session living inside => ?_) (fun session living outside => ?_)
 · rw [listed]
   simp [living]
 · show (state.removeRoom live targetRoom).1.curRoom.lookup session.pointer = some "lobby"
   rw [sameRoom, current, if_pos]
   exact ⟨session, ChatRoomSet.mem_collectRoomSessions.mpr ⟨inside, living⟩, rfl⟩
 · show (state.removeRoom live targetRoom).1.curRoom.lookup session.pointer = _
   rw [sameRoom, current, if_neg]
   rintro ⟨other, collected, shared⟩
   obtain ⟨inside, livingOther⟩ := ChatRoomSet.mem_collectRoomSessions.mp collected
   obtain rfl := separate other session livingOther living shared
   exact outside inside

theorem closeSession (living : session ∈ live) :
  RoomsAgree live (state.closeSession live session).1 := by
 obtain ⟨curRoom, rooms, _, _, _, closed, current, listed⟩ :=
  closeSession_eq live state session
 rw [closed]
 refine move agrees separate living none (fun key => ?_)
  (fun other livingOther different key => ?_) ?_ (fun pointer different => ?_)
 · refine (listed session key).trans ?_
   simp only [reduceCtorEq, iff_false]
   rintro ⟨before, gone⟩
   exact (gone ((agrees session living key).mp before)).1 rfl
 · refine (listed other key).trans ?_
   simp [different, livingOther]
 · exact (current session.pointer).trans (if_pos rfl)
 · exact (current pointer).trans (if_neg different)

omit separate

omit agrees

end RoomsAgree

def AllMembers (good : Session -> Prop) (state : ChatServiceState) : Prop :=
 ∀ room, ∀ session ∈ state.members room, good session

namespace AllMembers

variable {good : Session -> Prop} {live : List Session} {state next : ChatServiceState} (all : AllMembers good state)
include all

theorem publishLogin {session : Session} (own : good session)
  (login : Login) : AllMembers good (state.publishLogin session login) := by
 intro room other member
 rw [mem_members_publishLogin] at member
 obtain before | ⟨-, rfl⟩ := member
 · exact all room other before
 · exact own

theorem joinRoom (runtime : Runtime) {request : JoinRequest}
  (own : request.session.pointer ∈ state.authed -> good request.session) (redisPassword : Option String)
  (hookHandled : Bool) : AllMembers good (state.joinRoom runtime live request redisPassword hookHandled).1 := by
 obtain ⟨roomPasswords, refused, -⟩ | ⟨roomPasswords, joined, authorized, -, -, -, -, moved⟩ :=
  joinRoom_cases runtime live state request redisPassword hookHandled
 · rw [refused]
   exact all
 · rw [moved]
   intro room other member
   have arrived := (collectRoomTargets_prunes live _ _ _).members_back room other member
   rw [mem_members_moveToRoom] at arrived
   obtain ⟨before, -⟩ | ⟨-, rfl⟩ := arrived
   · exact all room other before
   · exact own authorized

theorem leaveRoom {request : LeaveRequest}
  (own : request.session.pointer ∈ state.authed -> good request.session) (hookHandled : Bool) :
  AllMembers good (state.leaveRoom live request hookHandled).1 := by
 obtain ⟨same, -⟩ | ⟨left, -, authorized, -, -, -, listed⟩ :=
  leaveRoom_cases live state request hookHandled
 · rw [same]
   exact all
 · intro room other member
   obtain ⟨before, -⟩ | ⟨-, rfl⟩ := (listed other room).mp member
   · exact all room other before
   · exact own authorized

theorem kickFromRoom (targetUser targetRoom : String)
  (alive : ∀ session ∈ live, session ∈ state.sessionsOf targetUser -> good session) :
  AllMembers good (state.kickFromRoom live targetUser targetRoom).1 := by
 apply kickFromRoom_induction
 case start =>
  obtain ⟨_, same⟩ := (collectUserSessions_prunes live state targetUser).onlyNames
  rw [same]
  exact all
 case evict =>
  intro current reached candidate living named _ room other member
  rw [mem_members_relocate] at member
  obtain ⟨before, -⟩ | ⟨-, rfl⟩ := member
  · exact reached room other before
  · exact alive other living named

theorem removeRoom (targetRoom : String) : AllMembers good (state.removeRoom live targetRoom).1 := by
 obtain ⟨_, -, -, listed⟩ := removeRoom_spec live state targetRoom
 intro room other member
 obtain ⟨-, before | ⟨-, moved⟩⟩ := (listed other room).mp member
 · exact all room other before
 · exact all targetRoom other (ChatRoomSet.mem_collectRoomSessions.mp moved).1

theorem closeSession (session : Session) : AllMembers good (state.closeSession live session).1 := by
 obtain ⟨_, rooms, _, _, _, closed, -, listed⟩ := closeSession_eq live state session
 rw [closed]
 intro room other member
 exact all room other ((listed other room).mp member).1

omit all

end AllMembers

inductive LockedSection where
 | accept (session : Session)
 | login (session : Session) (login : Login)
 | join (request : JoinRequest) (redisPassword : Option String) (hookHandled : Bool)
 | leave (request : LeaveRequest) (hookHandled : Bool)
 | kick (actor : Session) (targetUser targetRoom : String)
 | removeRoom (actor : Session) (targetRoom : String)
 | close (session : Session)
 | destroy (session : Session)

namespace LockedSection

def step (runtime : Runtime) (world : World) : LockedSection -> Option World
 | .accept session => if world.Fresh session then some (world.accept session) else none
 | .login session details =>
  if session ∈ world.live then some (world.setState (world.state.publishLogin session details))
  else none
 | .join request redisPassword hookHandled =>
  if request.session ∈ world.live then
   some (world.setState (world.state.joinRoom runtime world.live request redisPassword hookHandled).1)
  else none
 | .leave request hookHandled =>
  if request.session ∈ world.live then
   some (world.setState (world.state.leaveRoom world.live request hookHandled).1)
  else none
 -- The lobby is refused when the command is parsed.
 | .kick actor targetUser targetRoom =>
  if actor ∈ world.live /\ targetRoom ≠ "lobby" then
   if world.state.actorCanManageRoom runtime actor targetRoom then
    some (world.setState (world.state.kickFromRoom world.live targetUser targetRoom).1)
   else some world
  else none
 | .removeRoom actor targetRoom =>
  if actor ∈ world.live /\ targetRoom ≠ "lobby" then
   if world.state.actorCanManageRoom runtime actor targetRoom then
    some (world.setState (world.state.removeRoom world.live targetRoom).1)
   else some world
  else none
 | .close session =>
  if session ∈ world.live then
   some (world.setState (world.state.closeSession world.live session).1)
  else none
 | .destroy session => if session ∈ world.live then some (world.destroy session) else none

def machine (runtime : Runtime) : Machine World LockedSection where
 step := step runtime

/-- A login takes no session out of another room, and no new session finds the current room
of an earlier one at its address. -/
def FromOutside (world : World) : LockedSection -> Prop
 | .accept session => world.state.curRoom.lookup session.pointer = none
 | .login session details =>
  world.state.curRoom.lookup session.pointer = none \/
   world.state.curRoom.lookup session.pointer = some details.room
 | _ => True

instance (world : World) (action : LockedSection) : Decidable (FromOutside world action) := by
 cases action <;> dsimp only [FromOutside] <;> infer_instance

end LockedSection

structure World.Seated (world : World) : Prop where
 separate : SeparateSessions world.live
 agrees : RoomsAgree world.live world.state
 listed : AllMembers (· ∈ world.accepted) world.state
 known : ∀ session ∈ world.live, session ∈ world.accepted

namespace World.Seated

variable {world : World}

theorem accept (seated : world.Seated) {session : Session} (fresh : world.Fresh session)
  (vacant : world.state.curRoom.lookup session.pointer = none) : (world.accept session).Seated where
 separate := seated.separate.accept fresh
 agrees := by
  intro other living room
  cases mem_cons.mp living with
  | inl isNew =>
   subst isNew
   show other ∈ world.state.members room ↔ world.state.curRoom.lookup other.pointer = some room
   rw [vacant]
   simp only [reduceCtorEq, iff_false]
   exact fun member => fresh.notAccepted (seated.listed room other member)
  | inr older => exact seated.agrees other older room
 listed := fun room other member => mem_cons_of_mem _ (seated.listed room other member)
 known := by
  intro other living
  cases mem_cons.mp living with
  | inl isNew => exact isNew ▸ mem_cons_self
  | inr older => exact mem_cons_of_mem _ (seated.known other older)

theorem destroy (seated : world.Seated) (session : Session) : (world.destroy session).Seated where
 separate := seated.separate.destroy session
 agrees := same seated.agrees (fun _ living => (mem_destroy.mp living).1) (fun _ _ _ => Iff.rfl) (fun _ _ => rfl)
 listed := seated.listed
 known := fun other living => seated.known other (mem_destroy.mp living).1

theorem setState (seated : world.Seated) {state : ChatServiceState} (agrees : RoomsAgree world.live state)
  (listed : AllMembers (· ∈ world.accepted) state) : (world.setState state).Seated where
 separate := seated.separate
 agrees := agrees
 listed := listed
 known := seated.known

end World.Seated

namespace LockedSection

theorem step_seated (runtime : Runtime) (world : World) (action : LockedSection) (next : World)
  (seated : world.Seated) (outside : FromOutside world action)
  (taken : step runtime world action = some next) : next.Seated := by
 cases action with
 | accept session =>
  obtain ⟨fresh, ⟨⟩⟩ := ite_none_right_eq_some.mp taken
  exact seated.accept fresh outside
 | login session details =>
  obtain ⟨living, ⟨⟩⟩ := ite_none_right_eq_some.mp taken
  refine seated.setState (seated.agrees.publishLogin seated.separate living details ?_)
   (seated.listed.publishLogin (seated.known session living) details)
  intro room current
  cases outside with
  | inl nowhere => cases nowhere.symm.trans current
  | inr here => exact some.inj (current.symm.trans here)
 | join request redisPassword hookHandled =>
  obtain ⟨living, ⟨⟩⟩ := ite_none_right_eq_some.mp taken
  exact seated.setState (seated.agrees.joinRoom seated.separate runtime living redisPassword hookHandled)
   (seated.listed.joinRoom runtime (fun _ => seated.known _ living) redisPassword hookHandled)
 | leave request hookHandled =>
  obtain ⟨living, ⟨⟩⟩ := ite_none_right_eq_some.mp taken
  exact seated.setState (seated.agrees.leaveRoom seated.separate living hookHandled)
   (seated.listed.leaveRoom (fun _ => seated.known _ living) hookHandled)
 | kick actor targetUser targetRoom =>
  obtain ⟨_, moved⟩ := ite_none_right_eq_some.mp taken
  split at moved
  · cases moved
    exact seated.setState (seated.agrees.kickFromRoom seated.separate targetUser targetRoom)
     (seated.listed.kickFromRoom targetUser targetRoom fun session alive _ => seated.known session alive)
  · cases moved
    exact seated
 | removeRoom actor targetRoom =>
  obtain ⟨⟨_, notLobby⟩, moved⟩ := ite_none_right_eq_some.mp taken
  split at moved
  · cases moved
    exact seated.setState (seated.agrees.removeRoom seated.separate notLobby) (seated.listed.removeRoom targetRoom)
  · cases moved
    exact seated
 | close session =>
  obtain ⟨living, ⟨⟩⟩ := ite_none_right_eq_some.mp taken
  exact seated.setState (seated.agrees.closeSession seated.separate living) (seated.listed.closeSession session)
 | destroy session =>
  obtain ⟨_, ⟨⟩⟩ := ite_none_right_eq_some.mp taken
  exact seated.destroy session

theorem empty_seated : World.empty.Seated where
 separate := fun _ _ living => absurd living not_mem_nil
 agrees := fun _ living => absurd living not_mem_nil
 listed := fun _ _ member => absurd member not_mem_nil
 known := fun _ living => absurd living not_mem_nil

/-- In every run whose logins all come from outside the other rooms, rooms and current rooms
of the live sessions agree. -/
theorem live_session_is_in_its_current_room (runtime : Runtime) (trace : List LockedSection)
  (final : World) (outside : (machine runtime).Guarded FromOutside World.empty trace)
  (ran : (machine runtime).run World.empty trace = some final) :
  ∀ session ∈ final.live, ∀ room,
   session ∈ final.state.members room ↔ final.state.curRoom.lookup session.pointer = some room := by
 have seated := (machine runtime).run_invariant
  (fun world action next seated outside taken => step_seated runtime world action next seated outside taken)
  empty_seated outside ran
 exact seated.agrees

def visitor : Session where
 pointer := 4096
 block := 4080
 sessionId := 1
 remoteIp := "192.0.2.7"

def freshLogin (name : String) : Login where
 newUser := name
 guestMode := false
 hwidHash := ""
 trackedUserUuid := ""
 continuitySessionId := ""
 continuityResumeToken := ""
 continuityExpiresUnixMs := 0
 currentWorld := "default"
 currentRoom := "lobby"
 resumedLogin := false

def joinDen : List LockedSection :=
 [.accept visitor, .login visitor (freshLogin "alice"), .join ⟨visitor, "den", ""⟩ none false]

theorem visitor_is_in_the_den :
  ∃ final, (machine standalone).run World.empty joinDen = some final /\
   visitor ∈ final.live /\
   (visitor ∈ final.state.members "den" ↔ final.state.curRoom.lookup visitor.pointer = some "den") := by
 obtain ⟨final, ran, living⟩ := (machine standalone).exists_final
  (show ∃ final ∈ (machine standalone).run World.empty joinDen, visitor ∈ final.live by decide +kernel)
 exact ⟨final, ran, living, live_session_is_in_its_current_room standalone joinDen final
  (by decide +kernel) ran visitor living "den"⟩

theorem second_login_stays_in_the_den :
  ¬ ∀ (runtime : Runtime) (trace : List LockedSection) (final : World),
   (machine runtime).run World.empty trace = some final ->
   ∀ session ∈ final.live, ∀ room,
    session ∈ final.state.members room ↔ final.state.curRoom.lookup session.pointer = some room := by
 intro claim
 let trace := joinDen ++ [.login visitor (freshLogin "bob")]
 obtain ⟨final, ran, living, inDen, inLobby⟩ := (machine standalone).exists_final
  (show ∃ final ∈ (machine standalone).run World.empty trace, visitor ∈ final.live /\ visitor ∈ final.state.members "den" /\
    final.state.curRoom.lookup visitor.pointer = some "lobby" by decide +kernel)
 have current := (claim standalone trace final ran visitor living "den").mp inDen
 rw [inLobby] at current
 exact absurd (some.inj current) (by decide)

end LockedSection

end Dynaxis.Chat
