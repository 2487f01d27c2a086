import Dynaxis.Chat.Names

namespace Dynaxis.Chat

open Shared List Option ChatServiceState Chat.Runtime Server

structure World.Faithful (runtime : Runtime) (world : World) : Prop where
 ids : ∀ pointer name id, world.state.user.lookup pointer = some name ->
  world.state.userUuid.lookup pointer = some id -> id = runtime.users.idOf name
 leases : ∀ entry ∈ world.issued, entry.2.2.userId = runtime.users.idOf entry.2.1
 rows : ∀ row ∈ world.store.sessions, row.userId ≠ ""

variable {runtime : Runtime} {world : World}

theorem World.Faithful.kept {next : World} (faithful : world.Faithful runtime)
  (user : ∀ pointer name, next.state.user.lookup pointer = some name -> world.state.user.lookup pointer = some name)
  (userUuid : next.state.userUuid = world.state.userUuid) (issued : next.issued = world.issued)
  (sessions : next.store.sessions = world.store.sessions) : next.Faithful runtime where
 ids := by
  rw [userUuid]
  exact fun pointer name id named => faithful.ids pointer name id (user pointer name named)
 leases := issued ▸ faithful.leases
 rows := sessions ▸ faithful.rows

section

variable (runtime : Runtime) (state : ChatServiceState) (session : Session) (login : Login)

/-- The id left at the address of the session is that of the name asked for, and no lease
belongs to a user called `guest`, whose sessions get a temporary name. -/
abbrev LoginRequest.KeepsIdentity (world : World) (request : LoginRequest) : Prop :=
 (extractResumeToken request.token = none -> ∀ id ∈ world.state.userUuid.lookup request.session.pointer,
     (request.user ≠ "" /\ request.user ≠ "guest") /\ id = runtime.users.idOf request.user) /\
   ((extractResumeToken request.token).isSome ->
     ∀ row ∈ world.store.sessions, runtime.users.findById row.userId ≠ some "guest")

def Login.Keeps : Prop :=
 ∀ id ∈ login.publishedUuid state session, id = runtime.users.idOf login.newUser

structure Login.Tracks :
  Prop where
 named : state.user.lookup session.pointer = some login.newUser
 tracked : login.trackedUserUuid ≠ "" -> login.trackedUserUuid = runtime.users.idOf login.newUser

end

theorem LoginRequest.KeepsIdentity.settled {request : LoginRequest}
  (keeps : request.KeepsIdentity runtime world) (rows : ∀ row ∈ world.store.sessions, row.userId ≠ "")
  {databaseFails : Bool} {lease : Option ContinuityLease}
  (found : lease = tryResumeContinuityLease runtime world.store world.clock databaseFails request.token)
  (resumed : (extractResumeToken request.token).isSome -> lease ≠ none) {newUser : String}
  (granted : request.MayGet lease newUser) :
  (request.settle runtime lease newUser).Keeps runtime world.state request.session := by
 cases lease with
 | none =>
  have fresh : extractResumeToken request.token = none := by simpa using resumed
  intro id kept
  obtain ⟨asked, same⟩ := keeps.1 fresh id kept
  rw [same]
  exact congrArg runtime.users.idOf (granted asked).symm
 | some lease =>
  obtain ⟨token, -, row, stored, owner, known, spelled⟩ := tryResumeContinuityLease_spec found.symm
  have notGuest : lease.effectiveUser ≠ "guest" := fun guest => keeps.2 token row stored (guest ▸ known)
  have own : lease.userId ≠ "" := owner ▸ rows row stored
  intro id kept
  have tracked : some lease.userId = some id := by simpa [Login.publishedUuid, settle, own] using kept
  obtain rfl : newUser = lease.effectiveUser := granted ⟨spelled, notGuest⟩
  rw [<- some.inj tracked, owner]
  exact (runtime.users.idOf_findById _ _ known).symm

def LoginPoint.Tracked (runtime : Runtime) (world : World) (request : LoginRequest) : LoginPoint -> Prop
 | .readUid login => login.Tracks runtime world.state request.session
 | .storeUid login uid =>
  login.Tracks runtime world.state request.session /\ (uid ≠ "" -> uid = runtime.users.idOf login.newUser)
 | .lease login => login.Tracks runtime world.state request.session
 | _ => True

def Job.Faithful (runtime : Runtime) (world : World) : Job -> Prop
 | .login request point =>
  point.Until runtime request (request.KeepsIdentity runtime world)
   (Login.Keeps runtime world.state request.session) /\ point.Tracked runtime world request
 | _ => True

section

variable {runtime : Runtime} (choices : Choices) {world : World}
 {session : Session} {login : Login} {request : LoginRequest} {point : LoginPoint}

theorem World.Faithful.publish (faithful : world.Faithful runtime)
  (keeps : login.Keeps runtime world.state session) (published : List (Session × String)) :
  World.Faithful runtime { world with state := world.state.publishLogin session login, published } where
 ids := by
  intro pointer name id named kept
  dsimp only at named kept
  rw [user_publishLogin, Table.lookup_insert_ite] at named
  rw [userUuid_publishLogin] at kept
  split at named
  next here =>
   rw [if_pos here] at kept
   rw [<- some.inj named]
   exact keeps id kept
  next elsewhere =>
   rw [if_neg elsewhere] at kept
   exact faithful.ids pointer name id named kept
 leases := faithful.leases
 rows := faithful.rows

theorem Login.Keeps.tracks (keeps : login.Keeps runtime world.state session) :
  ({ login with currentRoom := login.room } : Login).Tracks runtime
    (world.state.publishLogin session login) session where
 named := by rw [user_publishLogin, Table.lookup_insert_ite, if_pos rfl]
 tracked := fun tracked => keeps _ (by simp only [publishedUuid, if_neg tracked, mem_def])

theorem World.Faithful.storeUserUuid (faithful : world.Faithful runtime)
  (tracks : login.Tracks runtime world.state session) :
  (world.setState (world.state.storeUserUuid session (runtime.users.idOf login.newUser))).Faithful runtime where
 ids := by
  intro pointer name id named kept
  simp only [World.setState, ChatServiceState.storeUserUuid] at named kept
  rw [Table.lookup_insert_ite] at kept
  split at kept
  next here =>
   rw [here, tracks.named] at named
   rw [<- some.inj named, some.inj kept]
  next => exact faithful.ids pointer name id named kept
 leases := faithful.leases
 rows := faithful.rows

/-- After a section of a login the world is faithful, and the section that follows knows the user. -/
structure Stepped (runtime : Runtime) (after : World × Option Job) : Prop where
 faithful : after.1.Faithful runtime
 tracked : ∀ served later, after.2 = some (.login served later) -> later.Tracked runtime after.1 served

theorem Stepped.ends (faithful : world.Faithful runtime) : Stepped runtime (world, none) :=
 ⟨faithful, fun _ _ ended => by cases ended⟩

theorem Stepped.goesOn (faithful : world.Faithful runtime) (tracked : point.Tracked runtime world request) :
  Stepped runtime (world, some (.login request point)) := by
 refine ⟨faithful, ?_⟩
 rintro _ _ ⟨⟩
 exact tracked

namespace World.Faithful

variable (faithful : world.Faithful runtime)
include faithful

theorem setState {state : ChatServiceState} (user : state.user = world.state.user)
  (userUuid : state.userUuid = world.state.userUuid) : (world.setState state).Faithful runtime :=
 faithful.kept (fun _ _ named => user ▸ named) userUuid rfl rfl

theorem persistLogin (login : Login) :
  World.Faithful runtime { world with store := persistLogin runtime world login } :=
 faithful.kept (fun _ _ => id) rfl rfl (persistLogin_sessions runtime world login)

theorem unique (lease : Option ContinuityLease) :
  Stepped runtime (stepLogin runtime choices world request (.unique lease)) := by
 obtain ⟨_, pruned⟩ := (ensureUniqueOrError_prunes world.live world.state
  (request.requestedUser lease) choices.temporaryNames).onlyNames
 have kept : (world.setState (world.state.ensureUniqueOrError world.live (request.requestedUser lease)
   choices.temporaryNames).1).Faithful runtime := faithful.setState (by rw [pruned]) (by rw [pruned])
 simp only [stepLogin]
 split
 · split
   · exact .ends kept
   · exact .goesOn kept trivial
 · exact .ends kept

theorem bans (login : Login) (checkedAt now : Nat) :
  Stepped runtime (stepLogin runtime choices world request (.bans login checkedAt now)) := by
 obtain ⟨_, _, _, checked⟩ := checkBans_eq world.state login.newUser request.session.remoteIp login.hwidHash now
 have kept : (world.setState (world.state.checkBans login.newUser request.session.remoteIp login.hwidHash
   now).1).Faithful runtime := faithful.setState (by rw [checked]) (by rw [checked])
 simp only [stepLogin]
 split
 · exact .goesOn kept trivial
 · exact .ends kept

theorem storeUid {uid : String}
  (tracked : (LoginPoint.storeUid login uid).Tracked runtime world request) :
  Stepped runtime (stepLogin runtime choices world request (.storeUid login uid)) := by
 obtain ⟨tracks, read⟩ := tracked
 simp only [stepLogin]
 split
 · cases choices.databaseFails with
   | true => exact .goesOn faithful tracks
   | false =>
    simp only [Bool.false_eq_true, if_false]
    split
    · exact .goesOn faithful tracks
    · exact .goesOn (faithful.storeUserUuid tracks) ⟨tracks.named, fun _ => rfl⟩
 next present => exact .goesOn faithful ⟨tracks.named, fun _ => read present⟩

theorem lease (tracked : (LoginPoint.lease login).Tracked runtime world request) :
  Stepped runtime (stepLogin runtime choices world request (.lease login)) := by
 simp only [stepLogin]
 split
 next wanted =>
  split
  · exact .goesOn faithful trivial
  next store lease issued =>
   obtain ⟨owner, given, row, created, own⟩ := issueContinuityLease_spec issued
   refine .goesOn ⟨faithful.ids, ?_, ?_⟩ trivial
   · refine forall_mem_cons.mpr ⟨?_, faithful.leases⟩
     rw [owner, tracked.tracked wanted.2]
   · rw [created]
     refine forall_mem_cons.mpr ⟨?_, faithful.rows⟩
     rw [own]
     exact given
 · exact .goesOn (faithful.persistLogin login) trivial

omit faithful

end World.Faithful

theorem stepLogin_tracked (faithful : world.Faithful runtime)
  (keeps : ∀ login checkedAt, point = .publish login checkedAt ->
    login.Keeps runtime world.state request.session) (tracked : point.Tracked runtime world request) :
  Stepped runtime (stepLogin runtime choices world request point) := by
 cases point with
 | start =>
  obtain ⟨_, created, -⟩ := world.state.getOrCreateSessionUuid_eq request.session choices.generatedUuid
  exact .goesOn (faithful.setState (by rw [created]) (by rw [created])) trivial
 | register | keepLease login => exact .goesOn (faithful.setState rfl rfl) trivial
 | resume | hook login checkedAt =>
  simp only [stepLogin]
  split
  · exact .ends faithful
  · exact .goesOn faithful trivial
 | unique lease => exact faithful.unique choices lease
 | bans login checkedAt now => exact faithful.bans choices login checkedAt now
 | publish login checkedAt =>
  have tracks := (keeps login checkedAt rfl).tracks
  refine .goesOn (faithful.publish (keeps login checkedAt rfl) _) ?_
  split <;> exact tracks
 | readUid login =>
  refine .goesOn faithful ⟨tracked, fun kept => ?_⟩
  cases stored : world.state.userUuid.lookup request.session.pointer with
  | none => simp [stored] at kept
  | some id => exact faithful.ids _ _ id tracked.named stored
 | storeUid login uid => exact faithful.storeUid choices tracked
 | lease login => exact faithful.lease choices tracked
 | presence login =>
  simp only [stepLogin]
  split
  · refine ⟨faithful.persistLogin login, ?_⟩
    rintro _ _ ⟨⟩
  · exact .ends faithful

theorem stepLogin_faithful (faithful : world.Faithful runtime)
  (reached : (Job.login request point).Faithful runtime world) :
  (stepLogin runtime choices world request point).1.Faithful runtime /\
    ∀ continued, (stepLogin runtime choices world request point).2 = some continued ->
     continued.Faithful runtime (stepLogin runtime choices world request point).1 := by
 obtain ⟨before, tracked⟩ := reached
 have keeps (login : Login) (checkedAt : Nat) (publishing : point = .publish login checkedAt) :
   login.Keeps runtime world.state request.session := by
  subst publishing
  exact before
 obtain ⟨kept, later⟩ := stepLogin_tracked choices faithful keeps tracked
 refine ⟨kept, fun continued continues => ?_⟩
 cases continued with
 | login served point =>
  have same : (Job.login request _).origin = some (.login served) :=
   (stepLogin_continues runtime choices world request _).origin _ continues _ rfl
  cases same
  refine ⟨?_, later request point continues⟩
  refine stepLogin_until runtime choices world request (request.KeepsIdentity runtime)
   (fun world => Login.Keeps runtime world.state request.session) ?_ ?_ before continues
  · intro state _ userUuid _
    simp only [LoginRequest.KeepsIdentity, Login.Keeps, Login.publishedUuid, World.setState, userUuid]
    exact ⟨id, fun _ => id⟩
  · intro keeps lease found resumed newUser granted
    exact keeps.settled faithful.rows found resumed granted
 | _ => trivial

end

variable {job : Job}

theorem StateChange.identity {runtime : Runtime} {choices : Choices} {live : List Session}
  {state next : ChatServiceState} (change : StateChange runtime choices live state job next)
  (notLogin : ∀ request point, job ≠ .login request point) :
  (∀ pointer name, next.user.lookup pointer = some name -> state.user.lookup pointer = some name) /\
    next.userUuid = state.userUuid := by
 constructor
 · intro pointer name named
   obtain same | ⟨request, login, checkedAt, isLogin, -⟩ | ⟨session, -, rfl⟩ := change.names
   · exact same.user ▸ named
   · exact absurd isLogin (notLogin _ _)
   · rw [user_closeSession, Table.lookup_erase_ite] at named
     split at named
     · cases named
     · exact named
 · obtain same | ⟨request, login, checkedAt, isLogin, -⟩ | ⟨request, login, isLogin, -⟩ := change.userUuid
   · exact same
   · exact absurd isLogin (notLogin _ _)
   · exact absurd isLogin (notLogin _ _)

theorem Job.step_faithful (runtime : Runtime) (choices : Choices) {world : World}
  (faithful : world.Faithful runtime) (reached : job.Faithful runtime world) :
  (job.step runtime choices world).1.Faithful runtime /\
    ∀ continued, (job.step runtime choices world).2 = some continued ->
     continued.Faithful runtime (job.step runtime choices world).1 := by
 by_cases isLogin : ∃ request point, job = .login request point
 · obtain ⟨request, point, rfl⟩ := isLogin
   exact stepLogin_faithful choices faithful reached
 · have notLogin (request : LoginRequest) (point : LoginPoint) : job ≠ .login request point :=
    fun same => isLogin ⟨request, point, same⟩
   have noLease : job.leasing = none := by
    cases job with
    | login request point => exact absurd rfl (notLogin request point)
    | _ => rfl
   have frame := job.step_frame runtime choices world
   obtain ⟨user, userUuid⟩ := (job.step_change runtime choices world).identity notLogin
   refine ⟨faithful.kept user userUuid (frame.issued noLease) (frame.sessions noLease), ?_⟩
   intro continued continues
   cases continued with
   | login request point =>
    have served := (job.step_continues runtime choices world).origin _ continues _ rfl
    cases job with
    | login request point => exact absurd rfl (notLogin request point)
    | _ => cases served
   | _ => trivial

namespace World

variable {runtime : Runtime} {world next : World}

def KeepsIdentity (runtime : Runtime) (world : World) : Event -> Prop
 | .serve (.login request) _ => request.KeepsIdentity runtime world
 | _ => True

instance (runtime : Runtime) (world : World) (event : Event) : Decidable (world.KeepsIdentity runtime event) := by
 unfold KeepsIdentity
 split <;> infer_instance

theorem Faithful.runJob (faithful : world.Faithful runtime) {job : Job} (reached : job.Faithful runtime world)
  {choices : List Choices} (ran : world.runJob runtime job choices = some next) : next.Faithful runtime := by
 refine runJob_rule (fun world job => world.Faithful runtime /\ job.Faithful runtime world)
  (World.Faithful runtime) ?_ ⟨faithful, reached⟩ ran
 rintro world job choices ⟨faithful, reached⟩
 obtain ⟨kept, continues⟩ := job.step_faithful runtime choices faithful reached
 exact ⟨fun continued goesOn => ⟨kept, continues continued goesOn⟩, fun _ => kept⟩

theorem Faithful.step (faithful : world.Faithful runtime) {event : Event}
  (keeps : world.KeepsIdentity runtime event) (taken : World.step runtime world event = some next) :
  next.Faithful runtime := by
 cases event with
 | accept session | destroy session =>
  obtain ⟨-, ⟨⟩⟩ := ite_none_right_eq_some.mp taken
  exact faithful.kept (fun _ _ => id) rfl rfl rfl
 | serve request choices =>
  obtain ⟨-, ran⟩ := ite_none_right_eq_some.mp taken
  refine faithful.runJob ?_ ran
  cases request with
  | login request => exact ⟨keeps, trivial⟩
  | _ => trivial
 | close session choices =>
  obtain ⟨-, ran⟩ := ite_none_right_eq_some.mp taken
  refine faithful.runJob ?_ ran
  trivial
 | elapse milliseconds =>
  cases taken
  exact faithful.kept (fun _ _ => id) rfl rfl rfl

/-- In every run whose logins keep no foreign id, the id of an authenticated session and of
every lease is that of the name. -/
theorem identities_belong_to_names (runtime : Runtime) (trace : List Event) (final : World)
  (keeps : (machine runtime).Guarded (KeepsIdentity runtime) empty trace)
  (ran : (machine runtime).run empty trace = some final) :
  (∀ session ∈ final.live, session.pointer ∈ final.state.authed -> ∀ name id,
    final.state.user.lookup session.pointer = some name ->
    final.state.userUuid.lookup session.pointer = some id -> id = runtime.users.idOf name) /\
    ∀ session name lease, (session, name, lease) ∈ final.issued -> lease.userId = runtime.users.idOf name := by
 have faithful := (machine runtime).run_invariant
  (fun world event next faithful keeps taken => Faithful.step faithful keeps taken)
  (⟨nofun, nofun, nofun⟩ : empty.Faithful runtime) keeps ran
 constructor
 · exact fun session _ _ name id => faithful.ids session.pointer name id
 · exact fun session name lease member => faithful.leases _ member

def loginsOf (session : Session) (names : List String) : List Event :=
 .accept session ::
  names.map fun name => .serve (.login ⟨session, name, ""⟩) (replicate 14 {})

def resumedLogin : List Event :=
 loginsOf firstClient ["alice"] ++
  [.close firstClient (replicate 6 {}), .accept secondClient,
    .serve (.login ⟨secondClient, "", "resume:token"⟩) (replicate 13 {})]

theorem resumed_login_has_the_id_of_its_name :
  ∃ final, (machine connected).run empty resumedLogin = some final /\
   final.state.user.lookup secondClient.pointer = some "alice" /\
   ∀ id, final.state.userUuid.lookup secondClient.pointer = some id -> id = "id:alice" := by
 obtain ⟨final, ran, living, authed, named⟩ := (machine connected).exists_final
  (show ∃ final ∈ (machine connected).run empty resumedLogin, secondClient ∈ final.live /\
    secondClient.pointer ∈ final.state.authed /\
    final.state.user.lookup secondClient.pointer = some "alice" by decide +kernel)
 have agrees := identities_belong_to_names connected resumedLogin final (by decide +kernel) ran
 exact ⟨final, ran, named, fun id => agrees.1 _ living authed "alice" id named⟩

theorem second_login_keeps_the_first_id :
  ¬ ∀ (runtime : Runtime) (trace : List Event) (final : World),
   (machine runtime).run empty trace = some final ->
   (∀ session ∈ final.live, session.pointer ∈ final.state.authed -> ∀ name id,
     final.state.user.lookup session.pointer = some name ->
     final.state.userUuid.lookup session.pointer = some id -> id = runtime.users.idOf name) /\
     ∀ session name lease, (session, name, lease) ∈ final.issued -> lease.userId = runtime.users.idOf name := by
 intro claim
 let trace := loginsOf firstClient ["alice", "bob"]
 obtain ⟨final, ran, living, authed, named, kept⟩ := (machine connected).exists_final
  (show ∃ final ∈ (machine connected).run empty trace, firstClient ∈ final.live /\
    firstClient.pointer ∈ final.state.authed /\
    final.state.user.lookup firstClient.pointer = some "bob" /\
    final.state.userUuid.lookup firstClient.pointer = some "id:alice" by decide +kernel)
 have same := (claim connected trace final ran).1 _ living authed "bob" "id:alice" named kept
 exact absurd same (by decide +kernel)

end World

end Dynaxis.Chat
