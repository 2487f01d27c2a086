import Dynaxis.Chat.Membership
import Dynaxis.Chat.Names

namespace Dynaxis.Chat

open Shared ChatServiceState List Option Job

def IsOpen (live closed : List Session) (session : Session) : Prop :=
 session ∈ live /\ session ∉ closed

def ChatServiceState.Occupied (state : ChatServiceState) (pointer : Pointer) : Prop :=
 (state.user.lookup pointer).isSome \/ (state.curRoom.lookup pointer).isSome \/ pointer ∈ state.authed

def ChatServiceState.FindsSeats (state next : ChatServiceState) : Prop :=
 ∀ pointer, (next.curRoom.lookup pointer).isSome ->
  (state.curRoom.lookup pointer).isSome \/ pointer ∈ state.authed

namespace ChatServiceState.FindsSeats

variable (live : List Session) (state : ChatServiceState)

theorem joinRoom (runtime : Runtime) (request : JoinRequest) (redisPassword : Option String) (hookHandled : Bool) :
  state.FindsSeats (state.joinRoom runtime live request redisPassword hookHandled).1 := by
 intro pointer inRoom
 obtain same | ⟨authorized, here, -⟩ :=
  RoomsAgree.curRoom_joinRoom live state runtime request redisPassword hookHandled pointer
 · exact .inl (same ▸ inRoom)
 · exact .inr (here ▸ authorized)

theorem leaveRoom (request : LeaveRequest) (hookHandled : Bool) :
  state.FindsSeats (state.leaveRoom live request hookHandled).1 := by
 intro pointer inRoom
 obtain ⟨same, -⟩ | ⟨_, -, authorized, -, -, only, -⟩ :=
  leaveRoom_cases live state request hookHandled
 · exact .inl (same ▸ inRoom)
 · rw [RoomsAgree.curRoom_of_onlyRooms only rfl pointer] at inRoom
   split at inRoom
   next here => exact .inr (here ▸ authorized)
   next => exact .inl inRoom

theorem kickFromRoom (targetUser targetRoom : String) :
  state.FindsSeats (state.kickFromRoom live targetUser targetRoom).1 := by
 apply kickFromRoom_induction
 case start =>
  intro pointer inRoom
  obtain ⟨_, same⟩ := (collectUserSessions_prunes live state targetUser).onlyNames
  rw [same] at inRoom
  exact .inl inRoom
 case evict =>
  intro current reached candidate _ _ inside pointer inRoom
  rw [RoomsAgree.curRoom_of_onlyRooms (relocate_onlyRooms live current candidate targetRoom
   "lobby" _ _ _ _) rfl pointer] at inRoom
  split at inRoom
  next here => exact reached pointer (here ▸ isSome_iff_exists.mpr ⟨targetRoom, inside⟩)
  next => exact reached pointer inRoom

theorem removeRoom (agrees : RoomsAgree live state) (targetRoom : String) :
  state.FindsSeats (state.removeRoom live targetRoom).1 := by
 intro pointer inRoom
 obtain ⟨curRoom, ⟨_, _, _, _, only⟩, current, -⟩ := removeRoom_spec live state targetRoom
 rw [only] at inRoom
 have entered : (curRoom.lookup pointer).isSome := inRoom
 rw [current] at entered
 split at entered
 next moved =>
  obtain ⟨member, collected, here⟩ := moved
  obtain ⟨inside, living⟩ := ChatRoomSet.mem_collectRoomSessions.mp collected
  have before : state.curRoom.lookup member.pointer = some targetRoom :=
   (agrees member living targetRoom).mp inside
  exact .inl (here ▸ isSome_iff_exists.mpr ⟨targetRoom, before⟩)
 next => exact .inl entered

end ChatServiceState.FindsSeats

structure Seats (live closed : List Session) (state : ChatServiceState) : Prop where
 owned : ∀ pointer, state.Occupied pointer -> ∃ session, IsOpen live closed session /\ session.pointer = pointer
 names : NamesAgree live state
 named : ∀ name, ∀ session ∈ state.sessionsOf name, IsOpen live closed session
 spelled : ∀ pointer, state.user.lookup pointer ≠ some ""
 rooms : RoomsAgree live state
 seated : AllMembers (IsOpen live closed) state

namespace Seats

variable {live closed : List Session} {state next : ChatServiceState} {session : Session}
 (seats : Seats live closed state)
include seats

theorem isOpen_of_occupied (separate : SeparateSessions live)
  (living : session ∈ live) (occupied : state.Occupied session.pointer) : IsOpen live closed session := by
 obtain ⟨owner, isOpen, here⟩ := seats.owned session.pointer occupied
 obtain rfl := separate owner session isOpen.1 living here
 exact isOpen

theorem moves (moves : Moves live state next) (finds : state.FindsSeats next) (rooms : RoomsAgree live next)
  (seated : AllMembers (IsOpen live closed) next) : Seats live closed next := by
 have sameAuthed : next.authed = state.authed := by
  obtain ⟨_, maps⟩ := moves.sameMaps
  exact congrArg SessionMaps.authed maps
 constructor
 · rintro pointer (named | inRoom | authorized)
   · exact seats.owned pointer (.inl (moves.names.user ▸ named))
   · exact seats.owned pointer (.inr (finds pointer inRoom))
   · exact seats.owned pointer (.inr (.inr (sameAuthed ▸ authorized)))
 · exact seats.names.same moves.names
 · exact fun name session member => seats.named name session (moves.sessionsOf_back name session member)
 · rw [moves.names.user]
   exact seats.spelled
 · exact rooms
 · exact seated

theorem quiet (quiet : Quiet live state next) : Seats live closed next := by
 have sameRoom : next.curRoom = state.curRoom := congrArg SessionMaps.curRoom quiet.sameMaps
 refine seats.moves (.of_quiet quiet) (fun pointer inRoom => .inl (sameRoom ▸ inRoom)) ?_ ?_
 · refine ReverseIndex.Agrees.same seats.rooms (fun _ => id) (fun session living room => ?_)
    (fun session _ => by rw [sameRoom])
   exact ⟨quiet.members_back room session, quiet.members_kept room session living⟩
 · exact fun room session member => seats.seated room session (quiet.members_back room session member)

variable (separate : SeparateSessions live)
include separate

theorem joinRoom (runtime : Runtime)
  {request : JoinRequest} (living : request.session ∈ live) (redisPassword : Option String) (hookHandled : Bool) :
  Seats live closed (state.joinRoom runtime live request redisPassword hookHandled).1 := by
 refine seats.moves (.joinRoom ..)
  (ChatServiceState.FindsSeats.joinRoom live state runtime request redisPassword hookHandled)
  (seats.rooms.joinRoom separate runtime living redisPassword hookHandled)
  (seats.seated.joinRoom runtime (fun authorized => ?_) redisPassword hookHandled)
 exact seats.isOpen_of_occupied separate living (.inr (.inr authorized))

theorem leaveRoom {request : LeaveRequest} (living : request.session ∈ live) (hookHandled : Bool) :
  Seats live closed (state.leaveRoom live request hookHandled).1 := by
 refine seats.moves (.leaveRoom ..) (ChatServiceState.FindsSeats.leaveRoom live state request hookHandled)
  (seats.rooms.leaveRoom separate living hookHandled)
  (seats.seated.leaveRoom (fun authorized => ?_) hookHandled)
 exact seats.isOpen_of_occupied separate living (.inr (.inr authorized))

theorem kickFromRoom (targetUser targetRoom : String) :
  Seats live closed (state.kickFromRoom live targetUser targetRoom).1 :=
 seats.moves (.kickFromRoom ..) (ChatServiceState.FindsSeats.kickFromRoom live state targetUser targetRoom)
  (seats.rooms.kickFromRoom separate targetUser targetRoom)
  (seats.seated.kickFromRoom targetUser targetRoom fun session _ named => seats.named targetUser session named)

theorem removeRoom {targetRoom : String} (notLobby : targetRoom ≠ "lobby") :
  Seats live closed (state.removeRoom live targetRoom).1 :=
 seats.moves (.removeRoom ..) (ChatServiceState.FindsSeats.removeRoom live state seats.rooms targetRoom)
  (seats.rooms.removeRoom separate notLobby) (seats.seated.removeRoom targetRoom)

theorem publishLogin (isOpen : IsOpen live closed session) {login : Login} (spelled : login.newUser ≠ "")
  (outside : ∀ room, state.curRoom.lookup session.pointer = some room -> room = login.room) :
  Seats live closed (state.publishLogin session login) := by
 have current := RoomsAgree.curRoom_of_onlyRooms (state.publishLogin_onlyRooms session login) rfl
 constructor
 case owned =>
  intro pointer occupied
  by_cases here : pointer = session.pointer
  · exact ⟨session, isOpen, here.symm⟩
  · obtain ⟨_, _, _, _, published⟩ := state.publishLogin_onlyRooms session login
    have sameAuthed : (state.publishLogin session login).authed = insert session.pointer state.authed := by
     rw [published]
     rfl
    refine seats.owned pointer ?_
    simpa only [ChatServiceState.Occupied, user_publishLogin, Table.lookup_insert_ite,
     current, here, if_false, sameAuthed, Finset.mem_insert, false_or] using occupied
 case names => exact seats.names.publishLogin separate isOpen.1 login
 case named =>
  intro name other member
  rw [mem_sessionsOf_publishLogin] at member
  obtain ⟨-, rfl⟩ | ⟨before, -⟩ := member
  · exact isOpen
  · exact seats.named name other before
 case spelled =>
  intro pointer
  rw [user_publishLogin, Table.lookup_insert_ite]
  split
  · exact fun empty => spelled (some.inj empty)
  · exact seats.spelled pointer
 case rooms => exact seats.rooms.publishLogin separate isOpen.1 login outside
 case seated => exact seats.seated.publishLogin isOpen login

theorem closeSession (living : session ∈ live) :
  Seats live (session :: closed) (state.closeSession live session).1 := by
 have still {other : Session} (isOpen : IsOpen live closed other) (different : other ≠ session) :
   IsOpen live (session :: closed) other :=
  ⟨isOpen.1, fun shut => (mem_cons.mp shut).elim different isOpen.2⟩
 have names := seats.names.closeSession separate living (seats.spelled session.pointer)
 have rooms := seats.rooms.closeSession separate living
 obtain ⟨_, _, _, _, _, closedState, current, -⟩ := state.closeSession_eq live session
 constructor
 case owned =>
  intro pointer occupied
  rw [closedState] at occupied
  simp only [ChatServiceState.Occupied, Table.lookup_erase_ite, current, Finset.mem_erase] at occupied
  by_cases here : pointer = session.pointer
  · simp [here] at occupied
  · simp only [here, if_false, ne_eq, not_false_eq_true, true_and] at occupied
    obtain ⟨owner, isOpen, rfl⟩ := seats.owned pointer occupied
    exact ⟨owner, still isOpen fun same => here (congrArg Session.pointer same), rfl⟩
 case names => exact names
 case named =>
  intro name other member
  have acts := state.actorName_ne_empty (seats.spelled session.pointer)
  have before := ((mem_sessionsOf_closeSession live state session other name acts).mp member).1
  refine still (seats.named name other before) ?_
  rintro rfl
  -- the index agrees with the names, and the name of the closed session is gone
  have has : (state.closeSession live other).1.user.lookup other.pointer = some name :=
   (names other living name).mp member
  rw [user_closeSession, Table.lookup_erase_ite, if_pos rfl] at has
  cases has
 case spelled =>
  intro pointer
  rw [user_closeSession, Table.lookup_erase_ite]
  split
  · nofun
  · exact seats.spelled pointer
 case rooms => exact rooms
 case seated =>
  intro room other member
  refine still (seats.seated.closeSession session room other member) ?_
  rintro rfl
  have inside := (rooms other living room).mp member
  rw [closedState] at inside
  exact absurd ((current other.pointer).symm.trans inside) (by simp)

omit separate

theorem relive {live' : List Session} (kept : ∀ session, IsOpen live closed session -> session ∈ live')
  (fresh : ∀ session ∈ live', session ∈ live \/ (session ∉ live /\ ¬ state.Occupied session.pointer)) :
  Seats live' closed state := by
 have still {session : Session} (isOpen : IsOpen live closed session) : IsOpen live' closed session :=
  ⟨kept session isOpen, isOpen.2⟩
 constructor
 case owned =>
  intro pointer occupied
  obtain ⟨owner, isOpen, here⟩ := seats.owned pointer occupied
  exact ⟨owner, still isOpen, here⟩
 case names =>
  intro session living name
  obtain old | ⟨unlisted, vacant⟩ := fresh session living
  · exact seats.names session old name
  · constructor
    · exact fun member => absurd (seats.named name session member).1 unlisted
    · exact fun has => absurd (.inl (isSome_iff_exists.mpr ⟨name, has⟩)) vacant
 case named => exact fun name session member => still (seats.named name session member)
 case spelled => exact seats.spelled
 case rooms =>
  intro session living room
  obtain old | ⟨unlisted, vacant⟩ := fresh session living
  · exact seats.rooms session old room
  · constructor
    · exact fun member => absurd (seats.seated room session member).1 unlisted
    · exact fun inside => absurd (.inr (.inl (isSome_iff_exists.mpr ⟨room, inside⟩))) vacant
 case seated => exact fun room session member => still (seats.seated room session member)

omit seats

end Seats

def Job.publication : Job -> Option (Session × Login)
 | .login request (.publish details _) => some (request.session, details)
 | _ => none

variable {job : Job} {session : Session}

theorem Job.eq_of_closes (closes : job.closes = some session) : job = .close session .main := by
 unfold Job.closes at closes
 split at closes
 · cases closes
   rfl
 · cases closes

theorem Job.holds_of_closes (closes : job.closes = some session) : session ∈ job.holds := by
 rw [eq_of_closes closes]
 exact mem_cons_self

theorem StateChange.keepsSeats {runtime : Runtime} {choices : Choices} {world : World}
  {next : ChatServiceState} (change : StateChange runtime choices world.live world.state job next)
  (seats : Seats world.live world.closed world.state) (separate : SeparateSessions world.live)
  (held : ∀ session ∈ job.holds, session ∈ world.live)
  (spelled : ∀ grant ∈ job.granted, grant.name ≠ "") (noClose : job.closes = none)
  (opens : ∀ entry ∈ job.publication, entry.1 ∉ world.closed)
  (outside : ∀ entry ∈ job.publication, ∀ room ∈ world.state.curRoom.lookup entry.1.pointer,
    room = entry.2.room) : Seats world.live world.closed next := by
 have created (session : Session) (generated : String) :
   Seats world.live world.closed (world.state.getOrCreateSessionUuid session generated).1 := by
  obtain ⟨_, same, -⟩ := world.state.getOrCreateSessionUuid_eq session generated
  rw [same]
  exact { seats with owned := seats.owned }
 cases change with
 | quiet quiet => exact seats.quiet quiet
 | loginUuid request generated | joinUuid request generated | leaveUuid request generated
 | closeUuid session generated => exact created _ _
 -- the tables that these steps write are none of those the seats are read from
 | register request => exact { seats with owned := seats.owned }
 | publish request login checkedAt =>
  exact seats.publishLogin separate ⟨held _ mem_cons_self, opens _ rfl⟩ (spelled _ rfl) (outside _ rfl)
 | storeUid request login answers known => exact { seats with owned := seats.owned }
 | keepLease request login => exact { seats with owned := seats.owned }
 | join request redisPassword hookHandled =>
  exact seats.joinRoom separate runtime (held _ mem_cons_self) redisPassword hookHandled
 | leave request hookHandled => exact seats.leaveRoom separate (held _ mem_cons_self) hookHandled
 | forget room forgets => exact { seats with owned := seats.owned }
 | kick request currentRoom targetUser targetRoom notLobby allowed =>
  exact seats.kickFromRoom separate targetUser targetRoom
 | removeRoom request currentRoom targetRoom notLobby allowed => exact seats.removeRoom separate notLobby
 | close session => cases noClose

namespace Server

variable {runtime : Runtime} {server next : Server}

structure ClosesOnce (server : Server) : Prop where
 accounts : ∀ session, (server.jobs.filterMap closing).count session +
  server.world.closed.count session = server.world.stopped.count session
 once : server.world.stopped.Nodup

namespace ClosesOnce

variable {session : Session}

theorem notClosed (closes : server.ClosesOnce) {job : Job} (member : job ∈ server.jobs)
  (closing : job.closing = some session) : session ∉ server.world.closed := by
 intro shut
 have pending : 0 < (server.jobs.filterMap Job.closing).count session :=
  count_pos_iff.mpr (mem_filterMap.mpr ⟨job, member, closing⟩)
 have already : 0 < server.world.closed.count session := count_pos_iff.mpr shut
 have atMostOne := nodup_iff_count_le_one.mp closes.once session
 have sum := closes.accounts session
 omega

theorem closed_of_released (closes : server.ClosesOnce) (stopped : session ∈ server.world.stopped)
  (released : ¬ server.Held session) : session ∈ server.world.closed := by
 have nothing : (server.jobs.filterMap closing).count session = 0 := by
  rw [count_eq_zero, mem_filterMap]
  rintro ⟨job, member, closing⟩
  refine released ⟨job, member, ?_⟩
  unfold Job.closing at closing
  split at closing
  all_goals cases closing
  all_goals exact mem_cons_self
 have asked : 0 < server.world.stopped.count session := count_pos_iff.mpr stopped
 have sum := closes.accounts session
 apply count_pos_iff.mp
 omega

theorem filterMap_closing_map (stops : List Session) :
  (stops.map fun session => close session .start).filterMap closing = stops := by
 rw [filterMap_map]
 exact filterMap_some

theorem stop (closes : server.ClosesOnce) {stops : List Session} (distinct : stops.Nodup)
  (fresh : ∀ session ∈ stops, session ∉ server.world.stopped)
  (accounts : ∀ session, (next.jobs.filterMap closing).count session + next.world.closed.count session =
     (server.jobs.filterMap closing).count session + server.world.closed.count session + stops.count session)
  (stopped : next.world.stopped = stops.reverse ++ server.world.stopped) : next.ClosesOnce where
 accounts := by
  intro session
  rw [accounts, closes.accounts, stopped, count_append, count_reverse, Nat.add_comm]
 once := by
  rw [stopped, nodup_append]
  refine ⟨nodup_reverse.mpr distinct, closes.once, ?_⟩
  rintro first isFirst second isSecond rfl
  exact fresh first (mem_reverse.mp isFirst) isSecond

theorem step (closes : server.ClosesOnce) {event : Event}
  (taken : Server.step runtime server event = some next) : next.ClosesOnce := by
 cases event with
 | accept session | destroy session =>
  obtain ⟨-, ⟨⟩⟩ := ite_none_right_eq_some.mp taken
  exact ⟨closes.accounts, closes.once⟩
 | receive request =>
  obtain ⟨-, ⟨⟩⟩ := ite_none_right_eq_some.mp taken
  refine ⟨fun session => ?_, closes.once⟩
  have other : request.job.closing = none := by cases request <;> rfl
  have sum := closes.accounts session
  simpa [jobs, setWorld, filterMap_append, other] using sum
 | disconnect session =>
  obtain ⟨-, ⟨⟩⟩ := ite_none_right_eq_some.mp taken
  obtain ⟨stops, stopped, distinct, each⟩ := server.world.stopAll_spec [session]
  have unfolded : server.world.stop session = server.world.stopAll [session] := rfl
  rw [unfolded, stopped]
  refine closes.stop distinct (fun other member => (each other member).2) (fun other => ?_) rfl
  simp only [jobs, setWorld, filterMap_append, filterMap_closing_map, count_append]
  omega
 | take =>
  simp only [Server.step] at taken
  split at taken
  · cases taken
  next job rest queued =>
   cases taken
   refine ⟨fun session => ?_, closes.once⟩
   have sum := closes.accounts session
   simp only [jobs, queued, cons_append, filterMap_append, filterMap_cons, count_append, filterMap_nil] at sum ⊢
   cases closing : job.closing with
   | none =>
    simp only [closing, count_append, count_nil] at sum ⊢
    omega
   | some shut =>
    simp only [closing, count_append, count_cons, count_nil] at sum ⊢
    omega
 | advance index choices =>
  obtain ⟨job, before, after, -, split, rfl⟩ := advance_split taken
  have frame := job.step_frame runtime choices server.world
  have closing := (job.step_continues runtime choices server.world).closing
  obtain ⟨stops, stopped, queued, distinct, each⟩ := frame.stops
  refine closes.stop distinct (fun other member => (each other member).2) (fun session => ?_) stopped
  have continued : (job.step runtime choices server.world).2.toList.filterMap Job.closing =
    ((job.step runtime choices server.world).2.bind Job.closing).toList := by
   cases (job.step runtime choices server.world).2 with
   | none => rfl
   | some next =>
    rw [toList_some, filterMap_cons, bind_some]
    cases next.closing <;> rfl
  -- the close entry of the job stays with its continuation until the section has run
  have here : (job :: after).filterMap Job.closing = job.closing.toList ++ after.filterMap Job.closing := by
   rw [filterMap_cons]
   cases job.closing <;> rfl
  simp only [jobs, queued, split, frame.closed, filterMap_append, filterMap_closing_map, continued,
   here, <- closing, count_append]
  omega
 | elapse milliseconds =>
  cases taken
  exact ⟨closes.accounts, closes.once⟩

end ClosesOnce

structure Accounted (server : Server) : Prop where
 sound : server.Sound
 closes : server.ClosesOnce
 known : ∀ session ∈ server.world.closed, session ∈ server.world.accepted
 spelled : ∀ job ∈ server.jobs, ∀ grant ∈ job.granted, grant.name ≠ ""

theorem empty_accounted : empty.Accounted where
 sound := empty_sound
 closes := ⟨fun _ => rfl, nodup_nil⟩
 known _ listed := (not_mem_nil listed).elim
 spelled _ listed := (not_mem_nil listed).elim

variable {event : Event}

theorem Accounted.step (accounted : server.Accounted) (taken : Server.step runtime server event = some next) :
  next.Accounted := by
 have sound := accounted.sound.step taken
 have closes := accounted.closes.step taken
 obtain idle | ⟨index, choices, job, before, after, rfl, found, split, rfl⟩ := step_cases taken
 · refine ⟨sound, closes, ?_, fun job member grant granted => ?_⟩
   · rw [idle.closed]
     exact fun session shut => idle.accepted session (accounted.known session shut)
   obtain old | ⟨request, -, rfl⟩ | ⟨session, rfl⟩ := idle.jobs job member
   · exact accounted.spelled job old grant granted
   · cases request <;> cases granted
   · cases granted
 · have own : job ∈ server.jobs := by simp [jobs, split]
   have held := accounted.sound.held job own
   have frame := job.step_frame runtime choices server.world
   refine ⟨sound, closes, fun session shut => ?_, fun other member grant granted => ?_⟩
   · rw [frame.accepted]
     rw [frame.closed] at shut
     cases mem_append.mp shut with
     | inl now => exact accounted.sound.known session (held session (holds_of_closes (mem_toList.mp now)))
     | inr old => exact accounted.known session old
   · rcases mem_jobs_advance split member with old | continued | ⟨session, -, rfl⟩
     · exact accounted.spelled other old grant granted
     · cases job.step_granted runtime choices server.world continued granted with
       | checked requested naming spelled => exact spelled
       | hooked before => exact accounted.spelled job own grant before
       | allowed request login checkedAt now bans before =>
        subst bans before
        exact accounted.spelled _ own _ rfl
     · cases granted

theorem Accounted.relives (accounted : server.Accounted) (idle : server.Idle event next)
  (taken : Server.step runtime server event = some next) :
  (∀ session, IsOpen server.world.live server.world.closed session -> session ∈ next.world.live) /\
    ∀ session ∈ next.world.live, session ∈ server.world.live \/
     (session ∉ server.world.live /\ server.world.Fresh session) := by
 constructor
 · intro session isOpen
   refine (idle.kept session isOpen.1).resolve_right ?_
   rintro rfl
   -- a session is destroyed only when nothing holds it, its close job included
   obtain ⟨⟨-, stopped, released⟩, -⟩ := ite_none_right_eq_some.mp taken
   exact isOpen.2 (accounted.closes.closed_of_released stopped released)
 · intro session living
   refine (idle.live session living).imp_right ?_
   rintro rfl
   obtain ⟨fresh, -⟩ := ite_none_right_eq_some.mp taken
   exact ⟨fun old => fresh.notAccepted (accounted.sound.known session old), fresh⟩

/-- However the jobs interleave, no session is closed twice, and one that is stopped and held by no job, so that it
may be destroyed, has been closed. -/
theorem sessions_are_closed_once {trace : List Event} {final : Server}
  (ran : (machine runtime).run empty trace = some final) : final.world.closed.Nodup /\
   ∀ session ∈ final.world.stopped, ¬ final.Held session -> session ∈ final.world.closed := by
 have ⟨_, closes, _, _⟩ := (machine runtime).run_keeps (fun _ _ _ accounted => Accounted.step accounted) empty_accounted ran
 refine ⟨nodup_iff_count_le_one.mpr fun session => ?_, fun _ => closes.closed_of_released⟩
 have accounts := closes.accounts session
 have once := nodup_iff_count_le_one.mp closes.once session
 omega

theorem visitor_is_closed :
  let visit := [.accept firstClient, .disconnect firstClient, .take] ++ advanceBy 4 0
  let final := ((machine Runtime.standalone).run empty visit).get (by decide +kernel)
  firstClient ∈ final.world.closed :=
 (sessions_are_closed_once (some_get _).symm).2 firstClient (by decide +kernel) (by decide +kernel)

end Server

end Dynaxis.Chat
