import Dynaxis.Chat.Seats

namespace Dynaxis.Chat

open Shared List ChatServiceState Chat.Runtime

def SessionMaps.Mentions (maps : SessionMaps) (pointer : Pointer) : Prop :=
 (maps.user.lookup pointer).isSome \/ (maps.sessionUuid.lookup pointer).isSome \/
   (maps.logicalSessionId.lookup pointer).isSome \/
   (maps.logicalSessionExpiresUnixMs.lookup pointer).isSome \/ (maps.curWorld.lookup pointer).isSome \/
   (maps.curRoom.lookup pointer).isSome \/ (maps.sessionIp.lookup pointer).isSome \/
   (maps.sessionHwidHash.lookup pointer).isSome \/ pointer ∈ maps.authed \/ pointer ∈ maps.guest

namespace ChatServiceState

variable (state : ChatServiceState) (session : Session) {pointer : Pointer}

theorem mentions_getOrCreateSessionUuid (generated : String) (different : pointer ≠ session.pointer)
  (mentions : (state.getOrCreateSessionUuid session generated).1.sessionMaps.Mentions pointer) :
  state.sessionMaps.Mentions pointer := by
 obtain ⟨_, created, elsewhere⟩ := state.getOrCreateSessionUuid_eq session generated
 rw [created] at mentions
 simpa only [SessionMaps.Mentions, sessionMaps, elsewhere pointer different] using mentions

theorem mentions_publishLogin (login : Login) (different : pointer ≠ session.pointer)
  (mentions : (state.publishLogin session login).sessionMaps.Mentions pointer) :
  state.sessionMaps.Mentions pointer := by
 obtain ⟨_, _, _, _, published⟩ := state.publishLogin_onlyRooms session login
 rw [published] at mentions
 have guest : pointer ∈ (state.recordLogin session login).guest ↔ pointer ∈ state.guest := by
  unfold recordLogin
  dsimp only
  split <;> simp [different]
 have logical : (state.recordLogin session login).logicalSessionId.lookup pointer =
   state.logicalSessionId.lookup pointer := by
  unfold recordLogin
  dsimp only
  split <;> simp [different]
 have expires : (state.recordLogin session login).logicalSessionExpiresUnixMs.lookup pointer =
   state.logicalSessionExpiresUnixMs.lookup pointer := by
  unfold recordLogin
  dsimp only
  split <;> simp [different]
 simp only [SessionMaps.Mentions, sessionMaps, guest, logical, expires] at mentions ⊢
 simpa only [recordLogin, Table.lookup_insert_ite, different, if_false, Finset.mem_insert, false_or] using mentions

theorem mentions_keepLease (logicalSessionId : String) (expiresUnixMs : Nat) (worldId : String)
  (different : pointer ≠ session.pointer)
  (mentions : (state.keepLease session logicalSessionId expiresUnixMs worldId).sessionMaps.Mentions
    pointer) : state.sessionMaps.Mentions pointer := by
 simpa only [SessionMaps.Mentions, sessionMaps, keepLease, Table.lookup_insert_ite, different,
  if_false] using mentions

theorem mentions_closeSession (live : List Session)
  (mentions : (state.closeSession live session).1.sessionMaps.Mentions pointer) :
  pointer ≠ session.pointer /\ state.sessionMaps.Mentions pointer := by
 obtain ⟨curRoom, _, _, _, _, closed, current, -⟩ := state.closeSession_eq live session
 rw [closed] at mentions
 simp only [SessionMaps.Mentions, sessionMaps, Table.lookup_erase_ite, current, Finset.mem_erase] at mentions
 by_cases same : pointer = session.pointer
 · simp [same] at mentions
 · simp only [same, if_false, ne_eq, not_false_eq_true, true_and] at mentions
   exact ⟨same, mentions⟩

end ChatServiceState

namespace Moves

variable {live : List Session} {state next : ChatServiceState}

theorem mentions (moves : Moves live state next) {pointer : Pointer}
  (current : (next.curRoom.lookup pointer).isSome -> state.sessionMaps.Mentions pointer)
  (mentions : next.sessionMaps.Mentions pointer) : state.sessionMaps.Mentions pointer := by
 obtain ⟨curRoom, maps⟩ := moves.sameMaps
 have room : next.curRoom = curRoom := congrArg SessionMaps.curRoom maps
 rw [maps] at mentions
 rw [room] at current
 obtain kept | kept | kept | kept | kept | inRoom | kept | kept | kept | kept := mentions
 case inr.inr.inr.inr.inr.inl => exact current inRoom
 all_goals
  dsimp only at kept
  simp only [SessionMaps.Mentions, kept, true_or, or_true]

end Moves

section

variable (live closed : List Session) (state : ChatServiceState)

structure Tables : Prop where
 owned : ∀ pointer, state.sessionMaps.Mentions pointer ->
  ∃ session, IsOpen live closed session /\ session.pointer = pointer
 registered : ∀ id session, state.bySessionId.lookup id = some session ->
  IsOpen live closed session /\ session.sessionId = id
 names : NamesAgree live state
 named : ∀ name, ∀ session ∈ state.sessionsOf name, IsOpen live closed session
 spelled : ∀ pointer, state.user.lookup pointer ≠ some ""
 rooms : RoomsAgree live state
 seated : AllMembers (IsOpen live closed) state

structure Entries : Prop
  extends Tables live closed state where
 noIds : ∀ pointer, state.userUuid.lookup pointer = none

end

namespace Tables

variable {live closed : List Session} {state next : ChatServiceState} {session : Session} {pointer : Pointer}

theorem mentions_of_occupied (occupied : state.Occupied pointer) : state.sessionMaps.Mentions pointer := by
 simp only [ChatServiceState.Occupied] at occupied
 simp only [SessionMaps.Mentions, sessionMaps]
 tauto

theorem mentions_of_curRoom (inRoom : (state.curRoom.lookup pointer).isSome) : state.sessionMaps.Mentions pointer :=
 mentions_of_occupied (.inr (.inl inRoom))

theorem mentions_of_user {name : String}
  (has : state.user.lookup pointer = some name) : state.sessionMaps.Mentions pointer :=
 mentions_of_occupied (.inl (Option.isSome_iff_exists.mpr ⟨name, has⟩))

theorem seats (tables : Tables live closed state) : Seats live closed state where
 owned := fun pointer occupied => tables.owned pointer (mentions_of_occupied occupied)
 names := tables.names
 named := tables.named
 spelled := tables.spelled
 rooms := tables.rooms
 seated := tables.seated

theorem of_seats (seats : Seats live closed state) (owned : ∀ pointer, state.sessionMaps.Mentions pointer ->
    ∃ session, IsOpen live closed session /\ session.pointer = pointer)
  (registered : ∀ id session, state.bySessionId.lookup id = some session ->
    IsOpen live closed session /\ session.sessionId = id) : Tables live closed state where
 owned := owned
 registered := registered
 names := seats.names
 named := seats.named
 spelled := seats.spelled
 rooms := seats.rooms
 seated := seats.seated

variable (tables : Tables live closed state)
include tables

theorem moves (moves : Moves live state next)
  (finds : state.FindsSeats next) (seats : Seats live closed next) : Tables live closed next := by
 obtain ⟨_, maps⟩ := moves.sameMaps
 have sameSessions : next.bySessionId = state.bySessionId := congrArg SessionMaps.bySessionId maps
 refine of_seats seats (fun pointer mentions => ?_) ?_
 · exact tables.owned pointer (moves.mentions (fun inRoom => mentions_of_occupied (.inr (finds pointer inRoom)))
    mentions)
 · rw [sameSessions]
   exact tables.registered

theorem quiet (quiet : Quiet live state next) : Tables live closed next := by
 have sameRoom : next.curRoom = state.curRoom := congrArg SessionMaps.curRoom quiet.sameMaps
 exact tables.moves (.of_quiet quiet) (fun pointer inRoom => .inl (sameRoom ▸ inRoom)) (tables.seats.quiet quiet)

variable (separate : SeparateSessions live)
include separate

theorem joinRoom (runtime : Runtime)
  {request : JoinRequest} (living : request.session ∈ live) (redisPassword : Option String)
  (hookHandled : Bool) :
  Tables live closed (state.joinRoom runtime live request redisPassword hookHandled).1 :=
 tables.moves (.joinRoom ..) (ChatServiceState.FindsSeats.joinRoom live state runtime request redisPassword hookHandled)
  (tables.seats.joinRoom separate runtime living redisPassword hookHandled)

theorem leaveRoom {request : LeaveRequest} (living : request.session ∈ live) (hookHandled : Bool) :
  Tables live closed (state.leaveRoom live request hookHandled).1 :=
 tables.moves (.leaveRoom ..) (ChatServiceState.FindsSeats.leaveRoom live state request hookHandled)
  (tables.seats.leaveRoom separate living hookHandled)

theorem kickFromRoom (targetUser targetRoom : String) :
  Tables live closed (state.kickFromRoom live targetUser targetRoom).1 :=
 tables.moves (.kickFromRoom ..) (ChatServiceState.FindsSeats.kickFromRoom live state targetUser targetRoom)
  (tables.seats.kickFromRoom separate targetUser targetRoom)

theorem removeRoom {targetRoom : String} (notLobby : targetRoom ≠ "lobby") :
  Tables live closed (state.removeRoom live targetRoom).1 :=
 tables.moves (.removeRoom ..) (ChatServiceState.FindsSeats.removeRoom live state tables.rooms targetRoom)
  (tables.seats.removeRoom separate notLobby)

variable (isOpen : IsOpen live closed session)
include isOpen

omit separate

theorem getOrCreateSessionUuid (generated : String) :
  Tables live closed (state.getOrCreateSessionUuid session generated).1 := by
 have owned (pointer : Pointer)
   (mentions : (state.getOrCreateSessionUuid session generated).1.sessionMaps.Mentions pointer) :
   ∃ session, IsOpen live closed session /\ session.pointer = pointer := by
  by_cases here : pointer = session.pointer
  · exact ⟨session, isOpen, here.symm⟩
  · exact tables.owned pointer (state.mentions_getOrCreateSessionUuid session generated here mentions)
 obtain ⟨_, created, -⟩ := state.getOrCreateSessionUuid_eq session generated
 rw [created] at owned ⊢
 exact { tables with owned }

theorem registerSessionId : Tables live closed (state.registerSessionId session) := by
 refine { tables with registered := fun id other found => ?_ }
 simp only [ChatServiceState.registerSessionId, Table.lookup_insert_ite] at found
 split at found
 next same =>
  cases found
  exact ⟨isOpen, same.symm⟩
 next => exact tables.registered id other found

theorem keepLease (logicalSessionId : String) (expiresUnixMs : Nat) (worldId : String) :
  Tables live closed (state.keepLease session logicalSessionId expiresUnixMs worldId) := by
 refine { tables with owned := fun pointer mentions => ?_ }
 by_cases here : pointer = session.pointer
 · exact ⟨session, isOpen, here.symm⟩
 · exact tables.owned pointer (state.mentions_keepLease session _ _ _ here mentions)

omit isOpen

theorem publishLogin (separate : SeparateSessions live)
  (isOpen : IsOpen live closed session) {login : Login} (spelled : login.newUser ≠ "")
  (outside : ∀ room, state.curRoom.lookup session.pointer = some room -> room = login.room) :
  Tables live closed (state.publishLogin session login) := by
 obtain ⟨_, _, _, _, published⟩ := state.publishLogin_onlyRooms session login
 refine of_seats (tables.seats.publishLogin separate isOpen spelled outside) (fun pointer mentions => ?_) ?_
 · by_cases here : pointer = session.pointer
   · exact ⟨session, isOpen, here.symm⟩
   · exact tables.owned pointer (state.mentions_publishLogin session login here mentions)
 · rw [published]
   exact tables.registered

theorem closeSession (separate : SeparateSessions live) (living : session ∈ live) :
  Tables live (session :: closed) (state.closeSession live session).1 := by
 have still {other : Session} (isOpen : IsOpen live closed other) (different : other ≠ session) :
   IsOpen live (session :: closed) other :=
  ⟨isOpen.1, fun shut => (mem_cons.mp shut).elim different isOpen.2⟩
 obtain ⟨_, _, _, _, _, closedState, -⟩ := state.closeSession_eq live session
 refine of_seats (tables.seats.closeSession separate living) (fun pointer mentions => ?_) ?_
 · obtain ⟨elsewhere, before⟩ := state.mentions_closeSession session live mentions
   obtain ⟨owner, isOpen, rfl⟩ := tables.owned pointer before
   exact ⟨owner, still isOpen fun same => elsewhere (congrArg Session.pointer same), rfl⟩
 · rw [closedState]
   intro id other found
   dsimp only at found
   rw [Table.lookup_erase_ite] at found
   split at found
   · cases found
   next elsewhere =>
    obtain ⟨isOpen, own⟩ := tables.registered id other found
    exact ⟨still isOpen fun same => elsewhere (same ▸ own.symm), own⟩

theorem relive {live' : List Session} (kept : ∀ session, IsOpen live closed session -> session ∈ live')
  (fresh : ∀ session ∈ live', session ∈ live \/
    (session ∉ live /\ ¬ state.sessionMaps.Mentions session.pointer)) : Tables live' closed state := by
 have still {session : Session} (isOpen : IsOpen live closed session) : IsOpen live' closed session :=
  ⟨kept session isOpen, isOpen.2⟩
 have seats := tables.seats.relive kept fun session living =>
  (fresh session living).imp_right (And.imp_right fun vacant occupied => vacant (mentions_of_occupied occupied))
 refine of_seats seats (fun pointer mentions => ?_) fun id session found => ?_
 · obtain ⟨owner, isOpen, here⟩ := tables.owned pointer mentions
   exact ⟨owner, still isOpen, here⟩
 · exact ⟨still (tables.registered id session found).1, (tables.registered id session found).2⟩

omit tables

theorem unmentioned {world : World} (tables : Tables world.live world.closed world.state) {session : Session}
  (fresh : world.Fresh session) : ¬ world.state.sessionMaps.Mentions session.pointer := by
 intro mentions
 obtain ⟨owner, isOpen, here⟩ := tables.owned session.pointer mentions
 exact fresh.1 owner isOpen.1 here

end Tables

namespace Job

def records : Job -> Option Session
 | .login request .start => some request.session
 | .login request .register => some request.session
 | .login request (.publish _ _) => some request.session
 | .login request (.keepLease _) => some request.session
 | .join request .start => some request.session
 | .leave request .start => some request.session
 | _ => none

def resolving : Job -> Option String
 | .login _ (.storeUid details uid) => if uid = "" then some details.newUser else none
 | _ => none

/-- The condition on a step: it writes nothing for a closed session, stores no user id, and
logs in no session that is in another room. -/
abbrev LeavesNothing (runtime : Runtime) (choices : Choices) (world : World) (job : Job) : Prop :=
 (∀ session ∈ job.records, session ∉ world.closed) /\
   (∀ entry ∈ job.publication, entry.2.trackedUserUuid = "" /\
     ∀ room ∈ world.state.curRoom.lookup entry.1.pointer, room = entry.2.room) /\
   ∀ name ∈ job.resolving, choices.databaseFails = true \/ runtime.users.idOf name = ""

end Job

variable {runtime : Runtime} {choices : Choices} {world : World} {job : Job} {next : ChatServiceState}

theorem StateChange.tables (change : StateChange runtime choices world.live world.state job next)
  (tables : Tables world.live world.closed world.state) (separate : SeparateSessions world.live)
  (held : ∀ session ∈ job.holds, session ∈ world.live) (closing : ∀ session ∈ job.closing, session ∉ world.closed)
  (spelled : ∀ grant ∈ job.granted, grant.name ≠ "") (noClose : job.closes = none)
  (records : ∀ session ∈ job.records, session ∉ world.closed)
  (outside : ∀ entry ∈ job.publication, ∀ room ∈ world.state.curRoom.lookup entry.1.pointer,
    room = entry.2.room) : Tables world.live world.closed next := by
 cases change with
 | quiet quiet => exact tables.quiet quiet
 | loginUuid request generated | joinUuid request generated | leaveUuid request generated =>
  exact tables.getOrCreateSessionUuid ⟨held _ mem_cons_self, records _ rfl⟩ generated
 | closeUuid session generated => exact tables.getOrCreateSessionUuid ⟨held _ mem_cons_self, closing _ rfl⟩ generated
 | register request => exact tables.registerSessionId ⟨held _ mem_cons_self, records _ rfl⟩
 | publish request login checkedAt =>
  exact tables.publishLogin separate ⟨held _ mem_cons_self, records _ rfl⟩ (spelled _ rfl) (outside _ rfl)
 | storeUid request login answers known | forget room forgets => exact { tables with owned := tables.owned }
 | keepLease request login => exact tables.keepLease ⟨held _ mem_cons_self, records _ rfl⟩ _ _ _
 | join request redisPassword hookHandled =>
  exact tables.joinRoom separate runtime (held _ mem_cons_self) redisPassword hookHandled
 | leave request hookHandled => exact tables.leaveRoom separate (held _ mem_cons_self) hookHandled
 | kick request currentRoom targetUser targetRoom notLobby allowed =>
  exact tables.kickFromRoom separate targetUser targetRoom
 | removeRoom request currentRoom targetRoom notLobby allowed => exact tables.removeRoom separate notLobby
 | close session => cases noClose

theorem World.tables_step (tables : Tables world.live world.closed world.state)
  (separate : SeparateSessions world.live)
  (held : ∀ session ∈ job.holds, session ∈ world.live) (closing : ∀ session ∈ job.closing, session ∉ world.closed)
  (spelled : ∀ grant ∈ job.granted, grant.name ≠ "") (records : ∀ session ∈ job.records, session ∉ world.closed)
  (outside : ∀ entry ∈ job.publication, ∀ room ∈ world.state.curRoom.lookup entry.1.pointer, room = entry.2.room) :
  Tables (job.step runtime choices world).1.live (job.step runtime choices world).1.closed
   (job.step runtime choices world).1.state := by
 have frame := job.step_frame runtime choices world
 rw [frame.live, frame.closed]
 cases closes : job.closes with
 | none =>
  exact (job.step_change runtime choices world).tables tables separate held closing spelled closes records outside
 | some session =>
  obtain rfl := Job.eq_of_closes closes
  exact tables.closeSession separate (held _ mem_cons_self)

theorem StateChange.noIds {live : List Session}
  {state : ChatServiceState} (change : StateChange runtime choices live state job next)
  (noIds : ∀ pointer, state.userUuid.lookup pointer = none)
  (untracked : ∀ entry ∈ job.publication, entry.2.trackedUserUuid = "")
  (unresolved : ∀ name ∈ job.resolving, choices.databaseFails = true \/ runtime.users.idOf name = "") :
  ∀ pointer, next.userUuid.lookup pointer = none := by
 obtain same | ⟨request, login, checkedAt, rfl, rfl⟩ | ⟨request, login, rfl, answers, known, -⟩ :=
  change.userUuid
 · rw [same]
   exact noIds
 · intro pointer
   rw [userUuid_publishLogin, Login.publishedUuid, if_pos (untracked _ rfl), noIds, noIds, ite_self]
 · rcases unresolved login.newUser rfl with fails | unknown
   · rw [answers] at fails
     cases fails
   · exact absurd unknown known

namespace Server

variable {runtime : Runtime} {server next : Server}

structure Tidy (server : Server) : Prop where
 sound : server.Sound
 closes : server.ClosesOnce
 known : ∀ session ∈ server.world.closed, session ∈ server.world.accepted
 spelled : ∀ job ∈ server.jobs, ∀ grant ∈ job.granted, grant.name ≠ ""
 entries : Entries server.world.live server.world.closed server.world.state

def LeavesNothing (runtime : Runtime) (server : Server) : Event -> Prop
 | .advance index choices => ∀ job ∈ server.running[index]?, job.LeavesNothing runtime choices server.world
 | _ => True

instance (runtime : Runtime) (server : Server) : (event : Event) -> Decidable (server.LeavesNothing runtime event)
 | .advance _ _ => inferInstanceAs (Decidable (∀ job ∈ _, _))
 | .receive _ | .accept _ | .disconnect _ | .take | .destroy _ | .elapse _ => isTrue trivial

theorem Tidy.accounted (tidy : server.Tidy) : server.Accounted where
 sound := tidy.sound
 closes := tidy.closes
 known := tidy.known
 spelled := tidy.spelled

theorem Accounted.tidy (accounted : server.Accounted)
  (entries : Entries server.world.live server.world.closed server.world.state) : server.Tidy where
 sound := accounted.sound
 closes := accounted.closes
 known := accounted.known
 spelled := accounted.spelled
 entries := entries

theorem empty_tidy : empty.Tidy := empty_accounted.tidy
  { owned := fun _ mentions => by simp [SessionMaps.Mentions, empty, World.empty,
     ChatServiceState.sessionMaps, ChatServiceState.empty] at mentions
    noIds := fun _ => rfl
    registered := nofun
    names := nofun
    named := nofun
    spelled := nofun
    rooms := nofun
    seated := nofun }

theorem Tidy.step (tidy : server.Tidy) {event : Event} (leaves : server.LeavesNothing runtime event)
  (taken : Server.step runtime server event = some next) : next.Tidy := by
 refine (tidy.accounted.step taken).tidy ?_
 obtain idle | ⟨index, choices, job, before, after, rfl, found, split, rfl⟩ := step_cases taken
 · obtain ⟨kept, fresh⟩ := tidy.accounted.relives idle taken
   rw [idle.state, idle.closed]
   refine ⟨tidy.entries.toTables.relive kept fun session living => ?_, tidy.entries.noIds⟩
   exact (fresh session living).imp_right (And.imp_right tidy.entries.unmentioned)
 · have own : job ∈ server.jobs := by simp [jobs, split]
   obtain ⟨records, publication, resolving⟩ := leaves job found
   refine ⟨World.tables_step tidy.entries.toTables tidy.sound.separate (tidy.sound.held job own)
    (fun session closing => tidy.closes.notClosed own closing) (tidy.spelled job own) records
    (fun entry published => (publication entry published).2), ?_⟩
   exact (job.step_change runtime choices server.world).noIds tidy.entries.noIds
    (fun entry published => (publication entry published).1) resolving

end Server

structure ChatServiceState.Forgets (state : ChatServiceState) (session : Session) : Prop where
 user : state.user.lookup session.pointer = none
 userUuid : state.userUuid.lookup session.pointer = none
 sessionUuid : state.sessionUuid.lookup session.pointer = none
 authed : session.pointer ∉ state.authed
 guest : session.pointer ∉ state.guest
 curRoom : state.curRoom.lookup session.pointer = none
 curWorld : state.curWorld.lookup session.pointer = none
 logicalSessionId : state.logicalSessionId.lookup session.pointer = none
 sessionIp : state.sessionIp.lookup session.pointer = none
 sessionHwidHash : state.sessionHwidHash.lookup session.pointer = none
 bySessionId : state.bySessionId.lookup session.sessionId = none
 byUser : ∀ name, session ∉ state.sessionsOf name
 rooms : ∀ room, session ∉ state.members room

namespace Server

/-- In every run whose steps leave nothing behind, no table has an entry for a closed session,
unless another session lives at its address by now. -/
theorem closed_session_is_forgotten (runtime : Runtime) (trace : List Event) (final : Server)
  (leaves : (machine runtime).Guarded (LeavesNothing runtime) empty trace)
  (ran : (machine runtime).run empty trace = some final) (session : Session) (closed : session ∈ final.world.closed)
  (vacant : ∀ other ∈ final.world.live, other.pointer = session.pointer -> other = session) :
  final.world.state.Forgets session := by
 have tidy := (machine runtime).run_invariant
  (fun server event next tidy leaves taken => Tidy.step tidy leaves taken) empty_tidy leaves ran
 have shut {other : Session} (isOpen : IsOpen final.world.live final.world.closed other) : other ≠ session :=
  fun same => isOpen.2 (same ▸ closed)
 have unmentioned : ¬ final.world.state.sessionMaps.Mentions session.pointer := by
  intro mentions
  obtain ⟨owner, isOpen, here⟩ := tidy.entries.owned session.pointer mentions
  exact shut isOpen (vacant owner isOpen.1 here)
 simp only [SessionMaps.Mentions, sessionMaps, not_or, Bool.not_eq_true,
  Option.isSome_eq_false_iff, Option.isNone_iff_eq_none] at unmentioned
 obtain ⟨user, sessionUuid, logicalSessionId, -, curWorld, curRoom, sessionIp, sessionHwidHash, authed,
  guest⟩ := unmentioned
 refine { user, sessionUuid, logicalSessionId, curWorld, curRoom, sessionIp, sessionHwidHash, authed, guest,
          userUuid := tidy.entries.noIds session.pointer, bySessionId := ?_, byUser := ?_, rooms := ?_ }
 · cases found : final.world.state.bySessionId.lookup session.sessionId with
   | none => rfl
   | some other =>
    obtain ⟨isOpen, own⟩ := tidy.entries.registered _ _ found
    exact absurd (tidy.sound.distinct other (tidy.sound.known other isOpen.1) session
     (tidy.known session closed) own) (shut isOpen)
 · exact fun name member => shut (tidy.entries.named name session member) rfl
 · exact fun room member => shut (tidy.entries.seated room session member) rfl

def visit : List Event :=
 [.accept firstClient, .receive (.login ⟨firstClient, "alice", ""⟩), .take] ++ advanceBy 9 0 ++
   [.receive (.join ⟨firstClient, "den", ""⟩), .take] ++ advanceBy 9 0 ++
   [.disconnect firstClient, .take] ++ advanceBy 6 0

theorem visit_is_forgotten :
  ∃ final, (machine standalone).run empty visit = some final /\
   firstClient ∈ final.world.closed /\ ¬ final.Held firstClient /\ final.world.state.Forgets firstClient := by
 obtain ⟨final, ran, closed, released, vacant⟩ := (machine standalone).exists_final
  (show ∃ final ∈ (machine standalone).run empty visit, firstClient ∈ final.world.closed /\ ¬ final.Held firstClient /\
    ∀ other ∈ final.world.live, other.pointer = firstClient.pointer -> other = firstClient by decide +kernel)
 exact ⟨final, ran, closed, released, closed_session_is_forgotten standalone visit final
  (by decide +kernel) ran firstClient closed vacant⟩

theorem user_id_outlives_the_session :
  ¬ ∀ (runtime : Runtime) (trace : List Event) (final : Server),
   (machine runtime).run empty trace = some final ->
   ∀ session ∈ final.world.closed, ¬ final.Held session ->
    (∀ other ∈ final.world.live, other.pointer = session.pointer -> other = session) ->
    final.world.state.Forgets session := by
 intro claim
 let trace : List Event :=
  [.accept firstClient, .receive (.login ⟨firstClient, "alice", ""⟩), .take] ++ advanceBy 14 0 ++
    [.disconnect firstClient, .take] ++ advanceBy 6 0
 obtain ⟨final, ran, closed, released, vacant, known⟩ := (machine connected).exists_final
  (show ∃ final ∈ (machine connected).run empty trace, firstClient ∈ final.world.closed /\ ¬ final.Held firstClient /\
    (∀ other ∈ final.world.live, other.pointer = firstClient.pointer -> other = firstClient) /\
    final.world.state.userUuid.lookup firstClient.pointer = some "id:alice" by decide +kernel)
 have forgotten := (claim connected trace final ran firstClient closed released vacant).userUuid
 cases known.symm.trans forgotten

end Server

end Dynaxis.Chat
