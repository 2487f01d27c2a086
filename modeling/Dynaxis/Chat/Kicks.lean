import Dynaxis.Chat.Cleanup

namespace Dynaxis.Chat

open Shared Server Chat.Runtime List Option ChatServiceState

namespace World

section

variable (world : World)

def admissionsSince (count : Nat) : List Admission :=
 world.admissions.take (world.admissions.length - count)

abbrev Standing (expulsion : Expulsion) : Prop :=
 ∀ admission ∈ world.admissionsSince expulsion.admittedBefore,
  ¬ (admission.user = expulsion.user /\ admission.room = expulsion.room)

abbrev Welcome (name room : String) : Prop :=
 ∀ expulsion ∈ world.expulsions, world.Standing expulsion -> expulsion.room = room -> expulsion.user ≠ name

structure Barred : Prop where
 past : ∀ expulsion ∈ world.expulsions, expulsion.admittedBefore ≤ world.admissions.length
 away : ∀ expulsion ∈ world.expulsions, expulsion.room ≠ "lobby"
 out : ∀ expulsion ∈ world.expulsions, world.Standing expulsion -> ∀ pointer,
  world.state.user.lookup pointer = some expulsion.user ->
  world.state.curRoom.lookup pointer ≠ some expulsion.room
 gates : ∀ admission ∈ world.admissions, admission.gate.refuses admission.room = false

end

variable {world next : World} {recent : List Admission}

theorem admissionsSince_append {count : Nat}
  (admitted : next.admissions = recent ++ world.admissions) (past : count ≤ world.admissions.length) :
  next.admissionsSince count = recent ++ world.admissionsSince count := by
 rw [admissionsSince, admitted, take_since_append recent past]
 rfl

variable (barred : world.Barred)
include barred

theorem Barred.lobby (name : String) : world.Welcome name "lobby" :=
 fun expulsion member _ lobby => absurd lobby (barred.away expulsion member)

theorem Barred.later (admitted : next.admissions = recent ++ world.admissions)
  (expelled : next.expulsions = world.expulsions)
  (gates : ∀ admission ∈ recent, admission.gate.refuses admission.room = false)
  (seats : ∀ pointer name room, next.state.user.lookup pointer = some name ->
    next.state.curRoom.lookup pointer = some room ->
    (world.state.user.lookup pointer = some name /\ world.state.curRoom.lookup pointer = some room) \/
      (∃ admission ∈ recent, admission.user = name /\ admission.room = room) \/ world.Welcome name room) :
  next.Barred where
 past := by
  intro expulsion member
  rw [expelled] at member
  rw [admitted, length_append]
  exact Nat.le_add_left_of_le (barred.past expulsion member)
 away := expelled ▸ barred.away
 out := by
  intro expulsion member standing pointer named seated
  rw [expelled] at member
  have since := admissionsSince_append admitted (barred.past expulsion member)
  have before : world.Standing expulsion := fun admission old =>
   standing admission (since ▸ mem_append_right recent old)
  obtain ⟨had, sat⟩ | ⟨admission, new, same⟩ | welcome := seats pointer _ _ named seated
  · exact barred.out expulsion member before pointer had sat
  · exact standing admission (since ▸ mem_append_left _ new) same
  · exact welcome expulsion member before rfl rfl
 gates := by
  rw [admitted]
  exact fun admission member => (mem_append.mp member).elim (gates admission) (barred.gates admission)

/-- A step that admits and expels nobody. -/
theorem Barred.quiet (admitted : next.admissions = world.admissions)
  (expelled : next.expulsions = world.expulsions)
  (seats : ∀ pointer name room, next.state.user.lookup pointer = some name ->
    next.state.curRoom.lookup pointer = some room ->
    (world.state.user.lookup pointer = some name /\ world.state.curRoom.lookup pointer = some room) \/
      world.Welcome name room) : next.Barred := by
 refine barred.later (show _ = [] ++ world.admissions from admitted) expelled nofun fun pointer name
  room named seated => ?_
 exact (seats pointer name room named seated).imp_right .inr

theorem Barred.expel {room : String} (notLobby : room ≠ "lobby") {expelled : List Expulsion}
  (each : ∀ expulsion ∈ expelled, expulsion.room = room /\ expulsion.admittedBefore = world.admissions.length /\
    ∀ pointer, world.state.user.lookup pointer = some expulsion.user ->
     world.state.curRoom.lookup pointer ≠ some room) :
  Barred { world with expulsions := expelled ++ world.expulsions } where
 past := by
  intro expulsion member
  cases mem_append.mp member with
  | inl new => exact (each expulsion new).2.1.le
  | inr old => exact barred.past expulsion old
 away := by
  intro expulsion member
  cases mem_append.mp member with
  | inl new => exact (each expulsion new).1.symm ▸ notLobby
  | inr old => exact barred.away expulsion old
 out := by
  intro expulsion member standing pointer named
  cases mem_append.mp member with
  | inl new =>
   obtain ⟨here, -, gone⟩ := each expulsion new
   rw [here]
   exact gone pointer named
  | inr old => exact barred.out expulsion old standing pointer named
 gates := barred.gates

omit barred

end World

namespace ChatServiceState

variable (live : List Session) (state : ChatServiceState)

theorem joinRoom_sender (runtime : Runtime) (request : JoinRequest) (redisPassword : Option String)
  (hookHandled : Bool) {joined : Joined}
  (proceeds : (state.joinRoom runtime live request redisPassword hookHandled).2 = .proceed joined) :
  joined.sender = state.actorName request.session := by
 unfold joinRoom at proceeds
 dsimp only at proceeds
 split at proceeds
 · cases proceeds
 · split at proceeds
   · cases proceeds
   · split at proceeds
     · cases proceeds
     · split at proceeds <;> cases proceeds
       rfl

theorem foldl_evictSession (targetUser targetRoom : String) (notLobby : targetRoom ≠ "lobby")
  (candidates kicked : List Session) :
  let finished := candidates.foldl (evictSession live targetUser targetRoom) (state, kicked)
  (∀ pointer, finished.1.curRoom.lookup pointer = state.curRoom.lookup pointer \/
    finished.1.curRoom.lookup pointer = some "lobby") /\
    (∀ candidate ∈ candidates, finished.1.curRoom.lookup candidate.pointer ≠ some targetRoom) /\
    ∀ other ∈ finished.2, other ∈ kicked \/ other ∈ candidates := by
 induction candidates generalizing state kicked with
 | nil => exact ⟨fun _ => .inl rfl, nofun, fun _ member => .inl member⟩
 | cons candidate rest ih =>
  rw [foldl_cons]
  have evicted : ∃ current moved, evictSession live targetUser targetRoom (state, kicked) candidate =
     (current, moved) /\
    (∀ pointer, current.curRoom.lookup pointer = state.curRoom.lookup pointer \/
      current.curRoom.lookup pointer = some "lobby") /\
    current.curRoom.lookup candidate.pointer ≠ some targetRoom /\
    ∀ other ∈ moved, other ∈ kicked \/ other = candidate := by
   simp only [evictSession]
   split
   next inside =>
    have entered := RoomsAgree.curRoom_of_onlyRooms (relocate_onlyRooms live state candidate targetRoom
     "lobby" targetUser targetUser false true) rfl
    refine ⟨_, _, rfl, fun pointer => ?_, ?_, fun other member => by simpa using member⟩
    · rw [entered]
      split
      · exact .inr rfl
      · exact .inl rfl
    · rw [entered, if_pos rfl]
      exact fun same => notLobby (some.inj same).symm
   next outside => exact ⟨_, _, rfl, fun _ => .inl rfl, outside, fun _ => .inl⟩
  obtain ⟨current, moved, step, stays, out, among⟩ := evicted
  rw [step]
  obtain ⟨later, gone, collected⟩ := ih current moved
  refine ⟨fun pointer => ?_, fun other member => ?_, fun other member => ?_⟩
  · obtain same | lobby := later pointer
    · rw [same]
      exact stays pointer
    · exact .inr lobby
  · cases mem_cons.mp member with
    | inl same =>
     subst same
     obtain kept | lobby := later other.pointer
     · rw [kept]
       exact out
     · rw [lobby]
       exact fun same => notLobby (some.inj same).symm
    | inr after => exact gone other after
  · obtain before | after := collected other member
    · refine (among other before).imp_right fun same => ?_
      rw [same]
      exact mem_cons_self
    · exact .inr (mem_cons_of_mem _ after)

theorem kickFromRoom_spec (targetUser targetRoom : String) (notLobby : targetRoom ≠ "lobby") :
  (∀ pointer, (state.kickFromRoom live targetUser targetRoom).1.curRoom.lookup pointer = state.curRoom.lookup pointer \/
    (state.kickFromRoom live targetUser targetRoom).1.curRoom.lookup pointer = some "lobby") /\
    (∀ session ∈ live, session ∈ state.sessionsOf targetUser ->
      (state.kickFromRoom live targetUser targetRoom).1.curRoom.lookup session.pointer ≠ some targetRoom) /\
    ∀ session ∈ (state.kickFromRoom live targetUser targetRoom).2,
     session ∈ live /\ session ∈ state.sessionsOf targetUser := by
 obtain ⟨_, pruned⟩ := (collectUserSessions_prunes live state targetUser).onlyNames
 have sameRoom : (state.collectUserSessions live targetUser).1.curRoom = state.curRoom := by rw [pruned]
 obtain ⟨stays, gone, moved⟩ := foldl_evictSession live (state.collectUserSessions live targetUser).1
  targetUser targetRoom notLobby (state.collectUserSessions live targetUser).2 []
 rw [sameRoom] at stays
 have listed := mem_collectUserSessions live state targetUser
 refine ⟨stays, fun session living named => gone session ((listed session).mpr ⟨named, living⟩), ?_⟩
 intro session member
 obtain ⟨named, living⟩ := (listed session).mp ((moved session member).resolve_left not_mem_nil)
 exact ⟨living, named⟩

end ChatServiceState

section

variable (runtime : Runtime) (choices : Choices) {world : World}

theorem stepJoin_barred (barred : world.Barred) (request : JoinRequest) :
  (stepJoin runtime choices world request .enter).1.Barred := by
 simp only [stepJoin]
 generalize (if runtime.redis then choices.redisPassword else none) = redisPassword
 have user := (Moves.joinRoom runtime world.live world.state request redisPassword choices.hookHandled).names.user
 have current := RoomsAgree.curRoom_joinRoom world.live world.state runtime request redisPassword choices.hookHandled
 split
 next joined proceeds =>
  have sender := joinRoom_sender world.live world.state runtime request redisPassword choices.hookHandled proceeds
  refine barred.later (show _ = [_] ++ world.admissions from rfl) rfl ?_ fun pointer name room named seated => ?_
  · obtain ⟨_, -, refuses⟩ | ⟨_, _, -, passes, -⟩ := joinRoom_cases runtime world.live
     world.state request redisPassword choices.hookHandled
    · exact absurd proceeds (refuses joined)
    · exact fun admission member => mem_singleton.mp member ▸ passes
  · rw [user] at named
    obtain same | ⟨-, here, -, entered⟩ := current pointer
    · rw [same] at seated
      exact .inl ⟨named, seated⟩
    · refine .inr (.inl ⟨_, mem_singleton_self _, ?_, ?_⟩)
      · rw [here] at named
        rw [sender, actorName, named]
        rfl
      · exact some.inj (entered.symm.trans seated)
 next refused =>
  refine barred.quiet rfl rfl fun pointer name room named seated => .inl ?_
  have had : world.state.user.lookup pointer = some name := user ▸ named
  obtain same | ⟨-, -, ⟨joined, proceeds⟩, -⟩ := current pointer
  · exact ⟨had, same.symm.trans seated⟩
  · exact absurd proceeds (refused joined)

variable {targetRoom : String}

variable (barred : world.Barred)
include barred

theorem World.Barred.moved {state : ChatServiceState} (user : state.user = world.state.user)
  (stays : ∀ pointer room, state.curRoom.lookup pointer = some room ->
    world.state.curRoom.lookup pointer = some room \/ room = "lobby") : (world.setState state).Barred := by
 refine barred.quiet rfl rfl fun pointer name room named seated => ?_
 have had : world.state.user.lookup pointer = some name := user ▸ named
 obtain same | rfl := stays pointer room seated
 · exact .inl ⟨had, same⟩
 · exact .inr (barred.lobby name)

theorem World.Barred.kick (tables : Tables world.live world.closed world.state)
  (targetUser : String) (notLobby : targetRoom ≠ "lobby") :
  (world.expel targetRoom (world.state.kickFromRoom world.live targetUser targetRoom).1
    (world.state.kickFromRoom world.live targetUser targetRoom).2).Barred := by
 obtain ⟨stays, gone, moved⟩ :=
  world.state.kickFromRoom_spec world.live targetUser targetRoom notLobby
 have user := (Moves.kickFromRoom world.live world.state targetUser targetRoom).names.user
 have kept := barred.moved user fun pointer room seated => by
  obtain same | lobby := stays pointer
  · exact .inl (same ▸ seated)
  · exact .inr (some.inj (seated.symm.trans lobby))
 refine kept.expel notLobby fun expulsion member => ?_
 obtain ⟨other, kicked, rfl⟩ := mem_map.mp member
 obtain ⟨living, listed⟩ := moved other kicked
 have named : world.state.user.lookup other.pointer = some targetUser :=
  (tables.names other living targetUser).mp listed
 refine ⟨rfl, rfl, fun pointer has => ?_⟩
 have acts : world.state.actorName other = targetUser := by
  rw [actorName, named]
  rfl
 have target : world.state.user.lookup pointer = some targetUser := acts ▸ user ▸ has
 obtain ⟨owner, isOpen, rfl⟩ := tables.owned pointer (Tables.mentions_of_user target)
 exact gone owner isOpen.1 ((tables.names owner isOpen.1 targetUser).mpr target)

theorem World.Barred.remove (tables : Tables world.live world.closed world.state)
  (notLobby : targetRoom ≠ "lobby") :
  (world.expel targetRoom (world.state.removeRoom world.live targetRoom).1
    (world.state.removeRoom world.live targetRoom).2).Barred := by
 obtain ⟨curRoom, only, current, -⟩ := world.state.removeRoom_spec world.live targetRoom
 have user := (Moves.removeRoom world.live world.state targetRoom).names.user
 have sameRoom : (world.state.removeRoom world.live targetRoom).1.curRoom = curRoom := by
  obtain ⟨_, _, _, _, removed⟩ := only
  rw [removed]
 have kept := barred.moved user fun pointer room seated => by
  have sits : curRoom.lookup pointer = some room := sameRoom ▸ seated
  rw [current] at sits
  split at sits
  · exact .inr (some.inj sits).symm
  · exact .inl sits
 refine kept.expel notLobby fun expulsion member => ?_
 obtain ⟨other, -, rfl⟩ := mem_map.mp member
 refine ⟨rfl, rfl, fun pointer _ seated => ?_⟩
 have sits : curRoom.lookup pointer = some targetRoom := sameRoom ▸ seated
 rw [current] at sits
 split at sits
 · exact notLobby (some.inj sits).symm
 next unmoved =>
  obtain ⟨owner, isOpen, rfl⟩ := tables.owned pointer (Tables.mentions_of_curRoom (isSome_iff_exists.mpr ⟨_, sits⟩))
  have inside := (tables.rooms owner isOpen.1 targetRoom).mpr sits
  exact unmoved ⟨owner, ChatRoomSet.mem_collectRoomSessions.mpr ⟨inside, isOpen.1⟩, rfl⟩

theorem runCommand_barred (tables : Tables world.live world.closed world.state)
  (request : SendRequest) (currentRoom : String) {command : SlashCommand} (parsed : command.Parsed) :
  (runCommand runtime world request currentRoom command).1.Barred := by
 obtain ⟨quiet, expelled⟩ | ⟨user, room, isKick, -, expelled⟩ | ⟨room, isRemove, -, expelled⟩ :=
  runCommand_cases runtime world request currentRoom command
 · have frame := runCommand_frame runtime world request currentRoom command
   refine barred.quiet (frame.admissions rfl) expelled fun pointer name room named seated => .inl ?_
   have sameUser : (runCommand runtime world request currentRoom command).1.state.user = world.state.user :=
    congrArg SessionMaps.user quiet.sameMaps
   have sameRoom : (runCommand runtime world request currentRoom command).1.state.curRoom =
    world.state.curRoom := congrArg SessionMaps.curRoom quiet.sameMaps
   exact ⟨sameUser ▸ named, sameRoom ▸ seated⟩
 · subst isKick
   rw [expelled]
   cases parsed with
   | kick named notLobby => exact barred.kick tables user notLobby
 · subst isRemove
   rw [expelled]
   cases parsed with
   | removeRoom notLobby => exact barred.remove tables notLobby

omit barred

end

variable {runtime : Runtime} {world : World}

theorem StateChange.seats {choices : Choices} {live : List Session}
  {state next : ChatServiceState} {job : Job} (change : StateChange runtime choices live state job next)
  (notEntering : job.entering = none) (notCommanding : job.commanding = none) {pointer : Pointer}
  {name room : String} (named : next.user.lookup pointer = some name)
  (seated : next.curRoom.lookup pointer = some room) :
  (state.user.lookup pointer = some name /\ state.curRoom.lookup pointer = some room) \/
    room = "lobby" \/ ∃ entry ∈ job.publication, entry.2.newUser = name /\ entry.2.room = room := by
 have created (session : Session) (generated : String)
   (named : (state.getOrCreateSessionUuid session generated).1.user.lookup pointer = some name)
   (seated : (state.getOrCreateSessionUuid session generated).1.curRoom.lookup pointer = some room) :
   state.user.lookup pointer = some name /\ state.curRoom.lookup pointer = some room := by
  obtain ⟨_, same, -⟩ := state.getOrCreateSessionUuid_eq session generated
  rw [same] at named seated
  exact ⟨named, seated⟩
 cases change with
 | quiet quiet =>
  have sameUser : next.user = state.user := congrArg SessionMaps.user quiet.sameMaps
  have sameRoom : next.curRoom = state.curRoom := congrArg SessionMaps.curRoom quiet.sameMaps
  exact .inl ⟨sameUser ▸ named, sameRoom ▸ seated⟩
 | loginUuid request generated | joinUuid request generated | leaveUuid request generated
 | closeUuid session generated => exact .inl (created _ _ named seated)
 | register request | storeUid request login answers known | keepLease request login | forget room forgets =>
  exact .inl ⟨named, seated⟩
 | publish request login checkedAt =>
  rw [user_publishLogin, Table.lookup_insert_ite] at named
  rw [RoomsAgree.curRoom_of_onlyRooms (publishLogin_onlyRooms state request.session login) rfl] at seated
  split at named
  next here =>
   rw [if_pos here] at seated
   exact .inr (.inr ⟨_, rfl, some.inj named, some.inj seated⟩)
  next elsewhere =>
   rw [if_neg elsewhere] at seated
   exact .inl ⟨named, seated⟩
 | join request redisPassword hookHandled => cases notEntering
 | leave request hookHandled =>
  have user := (Moves.leaveRoom live state request hookHandled).names.user
  rw [user] at named
  obtain ⟨same, -⟩ | ⟨_, -, -, -, -, only, -⟩ :=
   leaveRoom_cases live state request hookHandled
  · rw [same] at seated
    exact .inl ⟨named, seated⟩
  · rw [RoomsAgree.curRoom_of_onlyRooms only rfl] at seated
    split at seated
    · exact .inr (.inl (some.inj seated).symm)
    · exact .inl ⟨named, seated⟩
 | kick request currentRoom targetUser targetRoom | removeRoom request currentRoom targetRoom => cases notCommanding
 | close session =>
  obtain ⟨_, _, _, _, _, closed, current, -⟩ := state.closeSession_eq live session
  rw [closed] at named seated
  dsimp only at named seated
  rw [Table.lookup_erase_ite] at named
  rw [current] at seated
  split at named
  · cases named
  next elsewhere =>
   rw [if_neg elsewhere] at seated
   exact .inl ⟨named, seated⟩

theorem Job.step_barred (runtime : Runtime) (choices : Choices) {job : Job}
  (barred : world.Barred) (tables : Tables world.live world.closed world.state)
  (welcome : ∀ entry ∈ job.publication, world.Welcome entry.2.newUser entry.2.room) :
  (job.step runtime choices world).1.Barred := by
 cases entering : job.entering with
 | some request =>
  unfold Job.entering at entering
  split at entering
  · exact stepJoin_barred runtime choices barred _
  · cases entering
 | none =>
  cases commanding : job.commanding with
  | some request =>
   unfold Job.commanding at commanding
   split at commanding
   · exact runCommand_barred runtime barred tables _ _ (SlashCommand.parse_parsed ..)
   · cases commanding
  | none =>
   have frame := job.step_frame runtime choices world
   refine barred.quiet (frame.admissions entering)
    (frame.expulsions commanding) fun pointer name room named seated => ?_
   obtain same | inLobby | ⟨entry, published, isName, isRoom⟩ :=
    (job.step_change runtime choices world).seats entering commanding named seated
   · exact .inl same
   · exact .inr (inLobby ▸ barred.lobby name)
   · rw [<- isName, <- isRoom]
     exact .inr (welcome entry published)

abbrev Login.Welcome (world : World) (session : Session) (login : Login) : Prop :=
 (∀ room ∈ world.state.curRoom.lookup session.pointer, room = login.room) /\
   world.Welcome login.newUser login.room

/-- The condition on a login: its session is in no other room, and the lease it resumes, if
any, is not a guest's and restores no room its user was moved out of. -/
abbrev LoginRequest.Welcome (runtime : Runtime) (world : World) (request : LoginRequest) : Prop :=
 (extractResumeToken request.token = none ->
    ∀ room ∈ world.state.curRoom.lookup request.session.pointer, room = "lobby") /\
   ∀ lease ∈ tryResumeContinuityLease runtime world.store world.clock false request.token,
    lease.effectiveUser ≠ "guest" /\
     (request.settle runtime (some lease) lease.effectiveUser).Welcome world request.session

theorem LoginRequest.Welcome.settled {request : LoginRequest}
  (welcome : request.Welcome runtime world) (barred : world.Barred) {databaseFails : Bool}
  {lease : Option ContinuityLease}
  (found : lease = tryResumeContinuityLease runtime world.store world.clock databaseFails request.token)
  (resumed : (extractResumeToken request.token).isSome -> lease ≠ none) {newUser : String}
  (granted : request.MayGet lease newUser) :
  (request.settle runtime lease newUser).Welcome world request.session := by
 cases lease with
 | none =>
  have fresh : extractResumeToken request.token = none := by simpa using resumed
  exact ⟨welcome.1 fresh, barred.lobby newUser⟩
 | some lease =>
  obtain ⟨-, answers, _, -, -, -, spelled⟩ := tryResumeContinuityLease_spec found.symm
  rw [answers] at found
  obtain ⟨notGuest, placed⟩ := welcome.2 lease found.symm
  obtain rfl : newUser = lease.effectiveUser := granted ⟨spelled, notGuest⟩
  exact placed

structure Job.Orderly (runtime : Runtime) (world : World) (job : Job) : Prop where
 held : ∀ session ∈ job.holds, session ∈ world.live
 serving : ∀ request ∈ job.origin, ∀ session ∈ request.session, session ∉ world.closed
 closing : ∀ session ∈ job.closing, session ∉ world.closed
 spelled : ∀ grant ∈ job.granted, grant.name ≠ ""
 welcome : ∀ request point, job = .login request point ->
  point.Until runtime request (request.Welcome runtime world) (Login.Welcome world request.session)

structure World.Orderly (world : World) : Prop where
 separate : SeparateSessions world.live
 known : ∀ session ∈ world.live, session ∈ world.accepted
 tables : Tables world.live world.closed world.state
 barred : world.Barred

theorem Job.origin_of_records {job : Job} {session : Session} (records : job.records = some session) :
  ∃ request ∈ job.origin, request.session = some session := by
 unfold Job.records at records
 split at records
 all_goals cases records
 all_goals exact ⟨_, rfl, rfl⟩

theorem Job.Orderly.publication {job : Job} (orderly : job.Orderly runtime world) :
  ∀ entry ∈ job.publication, entry.2.Welcome world entry.1 := by
 intro entry published
 unfold Job.publication at published
 split at published
 · cases published
   exact orderly.welcome _ _ rfl
 · cases published

section

variable (runtime : Runtime) (choices : Choices) {world : World} {job : Job}

theorem World.Orderly.step (ordered : world.Orderly) (orderly : job.Orderly runtime world) :
  (job.step runtime choices world).1.Orderly := by
 have frame := job.step_frame runtime choices world
 constructor
 · rw [frame.live]
   exact ordered.separate
 · rw [frame.live, frame.accepted]
   exact ordered.known
 · refine tables_step ordered.tables ordered.separate orderly.held orderly.closing orderly.spelled
    (fun session records => ?_) fun entry published => (orderly.publication entry published).1
   obtain ⟨request, serves, own⟩ := Job.origin_of_records records
   exact orderly.serving request serves session own
 · exact job.step_barred runtime choices ordered.barred ordered.tables fun entry published =>
    (orderly.publication entry published).2

theorem Job.Orderly.step (orderly : job.Orderly runtime world) (ordered : world.Orderly)
  {continued : Job} (continues : (job.step runtime choices world).2 = some continued) :
  continued.Orderly runtime (job.step runtime choices world).1 := by
 have frame := job.step_frame runtime choices world
 have goesOn := job.step_continues runtime choices world
 constructor
 case held =>
  intro session member
  rw [frame.live]
  exact (goesOn.holds continued continues session member).elim (orderly.held session) id
 case serving =>
  intro request serves session own
  have before := goesOn.origin continued continues request serves
  have notClosing : job.closes = none := by
   cases job with
   | close session point => cases before
   | _ => rfl
  rw [frame.closed, notClosing]
  exact orderly.serving request before session own
 case closing =>
  intro session closing
  have split := goesOn.closing
  rw [continues, bind_some, closing] at split
  -- the job that has erased the entries is no longer going to
  have notYet : job.closes = none /\ job.closing = some session := by
   cases closes : job.closes with
   | none =>
    rw [closes] at split
    cases pending : job.closing with
    | none => simp [pending] at split
    | some other => simpa [pending, eq_comm] using split
   | some other =>
    rw [closes] at split
    cases pending : job.closing <;> simp [pending] at split
  rw [frame.closed, notYet.1]
  exact orderly.closing session notYet.2
 case spelled =>
  intro grant granted
  cases job.step_granted runtime choices world continues granted with
  | checked requested naming spelled => exact spelled
  | hooked before => exact orderly.spelled grant before
  | allowed request login checkedAt now bans before =>
   subst bans before
   exact orderly.spelled _ rfl
 case welcome =>
  rintro served later rfl
  have before := goesOn.origin _ continues _ rfl
  cases job with
  | login request point =>
   cases before
   refine stepLogin_until runtime choices world served (served.Welcome runtime)
    (fun world => Login.Welcome world served.session) ?_ ?_ (orderly.welcome _ _ rfl) continues
   · intro state _ _ curRoom
     have same : (world.setState state).state.curRoom = world.state.curRoom := curRoom
     constructor
     · intro welcome
       refine ⟨?_, fun lease found => ⟨(welcome.2 lease found).1, ?_, (welcome.2 lease found).2.2⟩⟩
       · rw [same]
         exact welcome.1
       · rw [same]
         exact (welcome.2 lease found).2.1
     · intro login welcome
       refine ⟨?_, welcome.2⟩
       rw [same]
       exact welcome.1
   · intro welcome lease found resumed newUser granted
     exact welcome.settled ordered.barred found resumed granted
  | _ => cases before

end

namespace World

variable {runtime : Runtime} {world next : World} {choices : List Choices} {session : Session}

theorem Orderly.runJob (ordered : world.Orderly) {job : Job} (orderly : job.Orderly runtime world)
  (ran : world.runJob runtime job choices = some next) : next.Orderly := by
 refine runJob_rule (fun world job => world.Orderly /\ job.Orderly runtime world) World.Orderly ?_
  ⟨ordered, orderly⟩ ran
 rintro world job choices ⟨ordered, orderly⟩
 have kept := ordered.step runtime choices orderly
 exact ⟨fun continued continues => ⟨kept, orderly.step runtime choices ordered continues⟩, fun _ => kept⟩

theorem Orderly.accept (ordered : world.Orderly)
  (fresh : world.Fresh session) : (world.accept session).Orderly where
 separate := ordered.separate.accept fresh
 known := by
  intro other living
  cases mem_cons.mp living with
  | inl isNew => exact isNew ▸ mem_cons_self
  | inr older => exact mem_cons_of_mem _ (ordered.known other older)
 tables := by
  refine ordered.tables.relive (fun other isOpen => mem_cons_of_mem _ isOpen.1) fun other living => ?_
  cases mem_cons.mp living with
  | inl isNew =>
   subst isNew
   exact .inr ⟨fun old => fresh.notAccepted (ordered.known other old), ordered.tables.unmentioned fresh⟩
  | inr older => exact .inl older
 barred := ordered.barred.quiet rfl rfl fun _ _ _ named seated => .inl ⟨named, seated⟩

theorem Orderly.destroy (ordered : world.Orderly) (closed : session ∈ world.closed) :
  (world.destroy session).Orderly where
 separate := ordered.separate.destroy session
 known := fun other living => ordered.known other (mem_destroy.mp living).1
 tables := by
  refine ordered.tables.relive (fun other isOpen => ?_) fun other living => .inl (mem_destroy.mp living).1
  exact mem_destroy.mpr ⟨isOpen.1, fun same => isOpen.2 (same ▸ closed)⟩
 barred := ordered.barred.quiet rfl rfl fun _ _ _ named seated => .inl ⟨named, seated⟩

def LoginsWelcome (runtime : Runtime) (world : World) : Event -> Prop
 | .serve (.login request) _ => request.Welcome runtime world
 | _ => True

instance (runtime : Runtime) (world : World) : (event : Event) -> Decidable (world.LoginsWelcome runtime event)
 | .serve (.login request) _ => inferInstanceAs (Decidable (request.Welcome runtime world))
 | .serve (.join _) _ | .serve (.leave _) _ | .serve (.send _) _ | .serve (.whisper _) _
  | .serve (.moderate _) _ | .accept _ | .close _ _ | .destroy _ | .elapse _ =>
  isTrue trivial

theorem LoginsWelcome.job {request : Request} (welcome : world.LoginsWelcome runtime (.serve request choices))
  (served : ∀ session ∈ request.session, session ∈ world.live /\ session ∉ world.closed) :
  request.job.Orderly runtime world := by
 have held : ∀ session ∈ request.job.holds, session ∈ request.session := by
  cases request with
  | moderate request => exact fun _ member => absurd member not_mem_nil
  | _ => exact fun _ member => (mem_singleton.mp member).symm ▸ rfl
 have origin : ∀ other ∈ request.job.origin, request = other := by
  cases request with
  | whisper request => exact nofun
  | _ => exact fun other serves => some.inj serves
 have notClosing : request.job.closing = none := by cases request <;> rfl
 have notGranted : request.job.granted = none := by cases request <;> rfl
 constructor
 · exact fun session member => (served session (held session member)).1
 · intro other serves session own
   rw [<- origin other serves] at own
   exact (served session own).2
 · rw [notClosing]
   exact nofun
 · rw [notGranted]
   exact nofun
 · intro login point isLogin
   cases request with
   | login request =>
    cases isLogin
    exact welcome
   | _ => cases isLogin

theorem Orderly.after (ordered : world.Orderly) {event : Event} (welcome : world.LoginsWelcome runtime event)
  (taken : World.step runtime world event = some next) : next.Orderly := by
 cases event with
 | accept session =>
  obtain ⟨fresh, ⟨⟩⟩ := ite_none_right_eq_some.mp taken
  exact ordered.accept fresh
 | serve request choices =>
  obtain ⟨served, ran⟩ := ite_none_right_eq_some.mp taken
  exact ordered.runJob (welcome.job served) ran
 | close session choices =>
  obtain ⟨⟨living, isOpen⟩, ran⟩ := ite_none_right_eq_some.mp taken
  refine ordered.runJob ?_ ran
  constructor
  · exact fun other member => mem_singleton.mp member ▸ living
  · rintro _ ⟨⟩
  · rintro _ ⟨⟩
    exact isOpen
  · rintro _ ⟨⟩
  · rintro _ _ ⟨⟩
 | destroy session =>
  obtain ⟨⟨-, closed⟩, ⟨⟩⟩ := ite_none_right_eq_some.mp taken
  exact ordered.destroy closed
 | elapse milliseconds =>
  cases taken
  exact ⟨ordered.separate, ordered.known, ordered.tables,
   ordered.barred.quiet rfl rfl fun _ _ _ named seated => .inl ⟨named, seated⟩⟩

theorem empty_orderly : empty.Orderly where
 separate := nofun
 known := nofun
 tables := empty_tidy.entries.toTables
 barred := ⟨nofun, nofun, nofun, nofun⟩

/-- When no login places a user in a room they were moved out of, a user who was moved out is in the room
again only after a join that was let in. -/
theorem moved_out_user_returns_through_the_gate (runtime : Runtime) (trace : List Event)
  (final : World) (welcome : (machine runtime).Guarded (LoginsWelcome runtime) empty trace)
  (ran : (machine runtime).run empty trace = some final) :
  ∀ expulsion ∈ final.expulsions, ∀ session ∈ final.live,
   final.state.user.lookup session.pointer = some expulsion.user ->
   session ∈ final.state.members expulsion.room ->
   ∃ admission ∈ final.admissionsSince expulsion.admittedBefore,
    admission.user = expulsion.user /\ admission.room = expulsion.room /\
     (admission.gate.roomExists = false \/ admission.gate.entitled = true) := by
 have ordered := (machine runtime).run_invariant
  (fun world event next ordered welcome taken => Orderly.after ordered welcome taken)
  empty_orderly welcome ran
 intro expulsion expelled session living named member
 have seated := (ordered.tables.rooms session living expulsion.room).mp member
 have readmitted : ¬ final.Standing expulsion := fun standing =>
  ordered.barred.out expulsion expelled standing session.pointer named seated
 simp only [Standing, not_forall, not_not] at readmitted
 obtain ⟨admission, since, sameUser, sameRoom⟩ := readmitted
 refine ⟨admission, since, sameUser, sameRoom, ?_⟩
 have passes := ordered.barred.gates admission (mem_of_mem_take since)
 have notLobby : admission.room ≠ "lobby" := sameRoom ▸ ordered.barred.away expulsion expelled
 simpa [JoinGate.refuses, notLobby, or_iff_not_imp_left] using passes

def bobInTheDen : List Event :=
 [.accept firstClient, .accept secondClient, .serve (.login ⟨firstClient, "root", ""⟩)
    (replicate 14 { leaseRowId := "first lease", leaseToken := "first token" }),
   .serve (.login ⟨secondClient, "bob", ""⟩) (replicate 14 {}),
   .serve (.join ⟨secondClient, "den", ""⟩) (replicate 8 {})]

def rootSays (text : String) (steps : Nat) : Event :=
 .serve (.send ⟨firstClient, "", text⟩) (replicate steps {})

theorem invited_user_returns_to_the_den :
  ∃ final, (machine connected).run empty
   (bobInTheDen ++ [rootSays "/kick bob den" 6, rootSays "/invite bob den" 3,
     .serve (.join ⟨secondClient, "den", ""⟩) (replicate 8 {})]) = some final /\
   secondClient ∈ final.state.members "den" /\
   ∃ admission ∈ final.admissionsSince 1, admission.user = "bob" /\ admission.room = "den" /\
    (admission.gate.roomExists = false \/ admission.gate.entitled = true) := by
 obtain ⟨final, ran, living, named, member, expulsion, expelled, user, room, admitted⟩ :=
  (machine connected).exists_final
  (show ∃ final ∈ (machine connected).run empty
     (bobInTheDen ++ [rootSays "/kick bob den" 6, rootSays "/invite bob den" 3,
       .serve (.join ⟨secondClient, "den", ""⟩) (replicate 8 {})]), secondClient ∈ final.live /\
    final.state.user.lookup secondClient.pointer = some "bob" /\
    secondClient ∈ final.state.members "den" /\
    ∃ expulsion ∈ final.expulsions, expulsion.user = "bob" /\ expulsion.room = "den" /\
     expulsion.admittedBefore = 1 by decide +kernel)
 have returned := moved_out_user_returns_through_the_gate connected _ final (by decide +kernel) ran
  expulsion expelled secondClient living (user ▸ named) (room ▸ member)
 rw [user, room, admitted] at returned
 exact ⟨final, ran, member, returned⟩

theorem moved_out_user_opens_the_room_again :
  ¬ ∀ (runtime : Runtime) (trace : List Event) (final : World),
   (machine runtime).run empty trace = some final ->
   ∀ expulsion ∈ final.expulsions, expulsion.user ∉ runtime.adminUsers -> ∀ session ∈ final.live,
    final.state.user.lookup session.pointer = some expulsion.user ->
    session ∈ final.state.members expulsion.room ->
    ∃ admission ∈ final.admissionsSince expulsion.admittedBefore,
     admission.user = expulsion.user /\ admission.room = expulsion.room /\ admission.gate.entitled = true := by
 intro claim
 let trace := bobInTheDen ++ [rootSays "/room remove den" 6, .serve (.join ⟨secondClient, "den", ""⟩) (replicate 8 {})]
 obtain ⟨final, ran, living, named, member, expulsion, expelled, user, room, none⟩ :=
  (machine connected).exists_final
  (show ∃ final ∈ (machine connected).run empty trace, secondClient ∈ final.live /\
    final.state.user.lookup secondClient.pointer = some "bob" /\
    secondClient ∈ final.state.members "den" /\
    ∃ expulsion ∈ final.expulsions, expulsion.user = "bob" /\ expulsion.room = "den" /\
     ∀ admission ∈ final.admissionsSince expulsion.admittedBefore,
      admission.gate.entitled = false by decide +kernel)
 have notAdmin : expulsion.user ∉ connected.adminUsers := by
  rw [user]
  decide +kernel
 obtain ⟨admission, since, -, -, entitled⟩ := claim connected trace final ran expulsion expelled
  notAdmin secondClient living (user ▸ named) (room ▸ member)
 cases (none admission since).symm.trans entitled

/-- The condition on the logins is needed: the den is still kept for the lease of the kicked
user, and a login that resumes it returns there without any join. -/
theorem resumed_login_returns_to_the_den : ¬ ∀ (runtime : Runtime) (trace : List Event)
   (final : World), (machine runtime).run empty trace = some final ->
   ∀ expulsion ∈ final.expulsions, ∀ session ∈ final.live,
    final.state.user.lookup session.pointer = some expulsion.user ->
    session ∈ final.state.members expulsion.room ->
    ∃ admission ∈ final.admissionsSince expulsion.admittedBefore, admission.user = expulsion.user := by
 intro claim
 let returning : Session := ⟨12288, 12272, 3, "192.0.2.8"⟩
 let trace := bobInTheDen ++ [rootSays "/kick bob den" 6, .close secondClient (replicate 6 {}),
  .accept returning, .serve (.login ⟨returning, "", "resume:token"⟩) (replicate 13 {})]
 obtain ⟨final, ran, living, named, member, expulsion, expelled, user, room, none⟩ :=
  (machine connected).exists_final
  (show ∃ final ∈ (machine connected).run empty trace, returning ∈ final.live /\
    final.state.user.lookup returning.pointer = some "bob" /\ returning ∈ final.state.members "den" /\
    ∃ expulsion ∈ final.expulsions, expulsion.user = "bob" /\ expulsion.room = "den" /\
     ∀ admission ∈ final.admissionsSince expulsion.admittedBefore, False by decide +kernel)
 obtain ⟨admission, since, -⟩ := claim connected trace final ran expulsion expelled returning living
  (user ▸ named) (room ▸ member)
 exact none admission since

end World

end Dynaxis.Chat
