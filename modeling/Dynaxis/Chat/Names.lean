import Dynaxis.Chat.Scheduling

namespace Dynaxis.Chat

open Shared ChatServiceState List Option Moves Chat.Runtime Table

section

variable (live : List Session) (state next : ChatServiceState)

def NamesAgree : Prop :=
 ReverseIndex.Agrees (· ∈ live) Session.pointer (fun name session => session ∈ state.sessionsOf name)
  (fun pointer => state.user.lookup pointer)

structure SameNames : Prop where
 user : next.user = state.user
 sessionsOf_back : ∀ name session, session ∈ next.sessionsOf name -> session ∈ state.sessionsOf name
 sessionsOf_kept : ∀ name, ∀ session ∈ live,
  session ∈ state.sessionsOf name -> session ∈ next.sessionsOf name

end

variable {live : List Session} {state next : ChatServiceState} {runtime : Runtime} {choices : Choices} {job : Job}

theorem Moves.names (moves : Moves live state next) : SameNames live state next where
 user := by
  obtain ⟨_, maps⟩ := moves.sameMaps
  exact congrArg SessionMaps.user maps
 sessionsOf_back := moves.sessionsOf_back
 sessionsOf_kept := moves.sessionsOf_kept

theorem StateChange.names (change : StateChange runtime choices live state job next) : SameNames live state next \/
   (∃ request login checkedAt, job = .login request (.publish login checkedAt) /\
     next = state.publishLogin request.session login) \/
   ∃ session, job = .close session .main /\ next = (state.closeSession live session).1 := by
 have unnamed (other : ChatServiceState) (user : other.user = state.user)
   (byUser : other.byUser = state.byUser) : SameNames live state other := by
  have names (name : String) : other.sessionsOf name = state.sessionsOf name := by simp [sessionsOf, byUser]
  exact ⟨user, fun name _ member => names name ▸ member, fun name _ _ member => (names name).symm ▸ member⟩
 have created (session : Session) (generated : String) :
   SameNames live state (state.getOrCreateSessionUuid session generated).1 := by
  obtain ⟨_, same, -⟩ := state.getOrCreateSessionUuid_eq session generated
  rw [same]
  exact unnamed _ rfl rfl
 cases change with
 | quiet quiet => exact .inl (of_quiet quiet).names
 | loginUuid request generated | joinUuid request generated | leaveUuid request generated
 | closeUuid session generated => exact .inl (created _ _)
 | register request | storeUid request login answers known | keepLease request login | forget room forgets =>
  exact .inl (unnamed _ rfl rfl)
 | publish request login checkedAt => exact .inr (.inl ⟨request, login, checkedAt, rfl, rfl⟩)
 | join request redisPassword hookHandled => exact .inl (Moves.joinRoom ..).names
 | leave request hookHandled => exact .inl (Moves.leaveRoom ..).names
 | kick request currentRoom targetUser targetRoom => exact .inl (Moves.kickFromRoom ..).names
 | removeRoom request currentRoom targetRoom => exact .inl (Moves.removeRoom ..).names
 | close session => exact .inr (.inr ⟨session, rfl, rfl⟩)

theorem StateChange.userUuid (change : StateChange runtime choices live state job next) :
  next.userUuid = state.userUuid \/ (∃ request login checkedAt, job = .login request (.publish login checkedAt) /\
     next = state.publishLogin request.session login) \/
   ∃ request login, job = .login request (.storeUid login "") /\ choices.databaseFails = false /\
    runtime.users.idOf login.newUser ≠ "" /\
    next = state.storeUserUuid request.session (runtime.users.idOf login.newUser) := by
 have moved {other : ChatServiceState} (moves : Moves live state other) : other.userUuid = state.userUuid := by
  obtain ⟨_, maps⟩ := moves.sameMaps
  exact congrArg SessionMaps.userUuid maps
 have created (session : Session) (generated : String) :
   (state.getOrCreateSessionUuid session generated).1.userUuid = state.userUuid := by
  obtain ⟨_, same, -⟩ := state.getOrCreateSessionUuid_eq session generated
  rw [same]
 cases change with
 | quiet quiet => exact .inl (moved (of_quiet quiet))
 | loginUuid request generated | joinUuid request generated | leaveUuid request generated
 | closeUuid session generated => exact .inl (created _ _)
 | register request | keepLease request login | forget room forgets => exact .inl rfl
 | publish request login checkedAt => exact .inr (.inl ⟨request, login, checkedAt, rfl, rfl⟩)
 | storeUid request login answers known => exact .inr (.inr ⟨request, login, rfl, answers, known, rfl⟩)
 | join request redisPassword hookHandled => exact .inl (moved (joinRoom ..))
 | leave request hookHandled => exact .inl (moved (leaveRoom ..))
 | kick request currentRoom targetUser targetRoom => exact .inl (moved (kickFromRoom ..))
 | removeRoom request currentRoom targetRoom => exact .inl (moved (.removeRoom ..))
 | close session =>
  obtain ⟨_, _, _, _, _, closed, -⟩ := state.closeSession_eq live session
  rw [closed]
  exact .inl rfl

section

variable (live : List Session) (state : ChatServiceState) (session other : Session)

theorem ChatServiceState.user_publishLogin (login : Login) :
  (state.publishLogin session login).user = state.user.insert session.pointer login.newUser := by
 obtain ⟨_, _, _, _, published⟩ := state.publishLogin_onlyRooms session login
 rw [published]
 rfl

def Login.publishedUuid (login : Login) (state : ChatServiceState) (session : Session) : Option String :=
 if login.trackedUserUuid = "" then state.userUuid.lookup session.pointer
 else some login.trackedUserUuid

theorem ChatServiceState.userUuid_publishLogin (login : Login) (pointer : Pointer) :
  (state.publishLogin session login).userUuid.lookup pointer =
    if pointer = session.pointer then login.publishedUuid state session
    else state.userUuid.lookup pointer := by
 obtain ⟨_, _, _, _, published⟩ := state.publishLogin_onlyRooms session login
 rw [published]
 simp only [recordLogin, Login.publishedUuid]
 by_cases untracked : login.trackedUserUuid = ""
 · rw [if_pos untracked, if_pos untracked]
   split
   next here => rw [here]
   next => rfl
 · rw [if_neg untracked, if_neg untracked, lookup_insert_ite]

theorem ChatServiceState.user_closeSession :
  (state.closeSession live session).1.user = state.user.erase session.pointer := by
 obtain ⟨_, _, _, _, _, closed, -⟩ := state.closeSession_eq live session
 rw [closed]

theorem ChatServiceState.actorName_ne_empty {session : Session}
  (spelled : state.user.lookup session.pointer ≠ some "") : state.actorName session ≠ "" := by
 unfold actorName
 cases named : state.user.lookup session.pointer with
 | none => decide
 | some name => exact fun empty => spelled (named.trans (congrArg some empty))

theorem ChatServiceState.mem_sessionsOf_closeSession (name : String) (spelled : state.actorName session ≠ "") :
  other ∈ (state.closeSession live session).1.sessionsOf name ↔
   other ∈ state.sessionsOf name /\ (name = state.actorName session -> other ≠ session) := by
 obtain ⟨_, _, _, _, _, closed, -⟩ := state.closeSession_eq live session
 rw [closed, if_neg spelled]
 exact mem_releaseName state session other (state.actorName session) name

end

namespace NamesAgree

variable {live : List Session} {state next : ChatServiceState}

theorem same (agrees : NamesAgree live state) (names : SameNames live state next) : NamesAgree live next := by
 refine ReverseIndex.Agrees.same agrees (fun _ => id) (fun session living name => ?_)
  (fun session _ => by rw [names.user])
 exact ⟨names.sessionsOf_back name session, names.sessionsOf_kept name session living⟩

variable {session : Session}

theorem publishLogin (agrees : NamesAgree live state) (separate : SeparateSessions live) (living : session ∈ live)
  (login : Login) : NamesAgree live (state.publishLogin session login) := by
 refine ReverseIndex.Agrees.move agrees separate living (some login.newUser) (fun name => ?_)
  (fun other _ different name => ?_) ?_ ?_
 · -- the session is listed under one name at most, and that one is given up
   rw [mem_sessionsOf_publishLogin, some.injEq, eq_comm]
   constructor
   · rintro (⟨same, -⟩ | ⟨member, released⟩)
     · exact same
     · exact absurd rfl (released ((agrees session living name).mp member))
   · exact fun same => .inl ⟨same, rfl⟩
 · rw [mem_sessionsOf_publishLogin]
   constructor
   · rintro (⟨-, same⟩ | ⟨member, -⟩)
     · exact absurd same different
     · exact member
   · exact fun member => .inr ⟨member, fun _ => different⟩
 · rw [user_publishLogin, lookup_insert_ite, if_pos rfl]
 · intro pointer different
   rw [user_publishLogin, lookup_insert_ite, if_neg different]

theorem closeSession (agrees : NamesAgree live state) (separate : SeparateSessions live) (living : session ∈ live)
  (spelled : state.user.lookup session.pointer ≠ some "") : NamesAgree live (state.closeSession live session).1 := by
 have listed := fun other name => mem_sessionsOf_closeSession live state session other
  name (state.actorName_ne_empty spelled)
 refine ReverseIndex.Agrees.move agrees separate living none (fun name => ?_)
  (fun other _ different name => ?_) ?_ ?_
 · rw [listed]
   simp only [reduceCtorEq, iff_false, not_and, not_forall]
   intro member
   have named := (agrees session living name).mp member
   exact ⟨by simp [actorName, named], fun distinct => distinct rfl⟩
 · rw [listed]
   exact ⟨And.left, fun member => ⟨member, fun _ => different⟩⟩
 · rw [user_closeSession, lookup_erase_ite, if_pos rfl]
 · intro pointer different
   rw [user_closeSession, lookup_erase_ite, if_neg different]

end NamesAgree

structure Grant where
 session : Session
 name : String
 checkedAt : Nat

namespace Job

def granted : Job -> Option Grant
 | .login request (.hook details checkedAt) => some ⟨request.session, details.newUser, checkedAt⟩
 | .login request (.bans details checkedAt _) => some ⟨request.session, details.newUser, checkedAt⟩
 | .login request (.publish details checkedAt) => some ⟨request.session, details.newUser, checkedAt⟩
 | _ => none

def taking : Job -> Option Grant
 | .login request (.publish details checkedAt) => some ⟨request.session, details.newUser, checkedAt⟩
 | _ => none

def banClock : Job -> Option Nat
 | .login _ (.bans _ _ now) => some now
 | _ => none

def naming : Job -> Option String
 | .login request (.unique lease) => some (request.requestedUser lease)
 | _ => none

end Job

inductive GrantStep (choices : Choices) (world : World) (job continued : Job) (grant : Grant) : Prop where
 | checked (requested : String) (naming : job.naming = some requested) (spelled : grant.name ≠ "")
  (checkedAt : grant.checkedAt = world.published.length)
  (free : (world.state.ensureUniqueOrError world.live requested choices.temporaryNames).2 = .proceed grant.name)
  (notTaking : continued.taking = none) (notBanning : continued.banClock = none)
 | hooked (granted : job.granted = some grant) (notTaking : continued.taking = none)
  (clock : continued.banClock = some world.clock)
 | allowed (request : LoginRequest) (login : Login) (checkedAt now : Nat)
  (bans : job = .login request (.bans login checkedAt now))
  (granted : grant = ⟨request.session, login.newUser, checkedAt⟩)
  (clean : (world.state.checkBans login.newUser request.session.remoteIp login.hwidHash now).2 = "")
  (notBanning : continued.banClock = none)

variable {continued : Job} {grant : Grant} {count : Nat} {world next : World} {recent : List (Session × String)}

section

variable (runtime : Runtime) (choices : Choices) (world : World) (request : LoginRequest)

theorem stepLogin_granted
  (point : LoginPoint) (continues : (stepLogin runtime choices world request point).2 = some continued)
  (granted : continued.granted = some grant) : GrantStep choices world (.login request point) continued grant := by
 cases point with
 | start | register | readUid login | keepLease login =>
  cases continues
  cases granted
 | resume =>
  simp only [stepLogin] at continues
  split at continues
  · cases continues
  · cases continues
    cases granted
 | unique lease =>
  simp only [stepLogin] at continues
  split at continues
  next newUser free =>
   split at continues
   · cases continues
   next spelled =>
    cases continues
    have named : (request.settle runtime lease newUser).newUser = newUser := by cases lease <;> rfl
    cases granted
    rw [named]
    exact .checked _ rfl spelled rfl free rfl rfl
  next => cases continues
 | hook login checkedAt =>
  simp only [stepLogin] at continues
  split at continues
  · cases continues
  · cases continues
    exact .hooked granted rfl rfl
 | bans login checkedAt now =>
  simp only [stepLogin] at continues
  split at continues
  next clean =>
   cases continues
   cases granted
   exact .allowed request login checkedAt now rfl rfl clean rfl
  next => cases continues
 | publish login checkedAt =>
  simp only [stepLogin] at continues
  cases continues
  split at granted <;> cases granted
 | storeUid login uid | lease login | presence login =>
  simp only [stepLogin] at continues
  repeat' split at continues
  all_goals cases continues <;> cases granted

theorem Job.step_granted (job : Job) {continued : Job}
  (continues : (job.step runtime choices world).2 = some continued)
  (granted : continued.granted = some grant) : GrantStep choices world job continued grant := by
 have isLogin : ∃ request, continued.origin = some (.login request) := by
  unfold Job.granted at granted
  split at granted
  · exact ⟨_, rfl⟩
  · exact ⟨_, rfl⟩
  · exact ⟨_, rfl⟩
  · cases granted
 obtain ⟨request, named⟩ := isLogin
 have same := (job.step_continues runtime choices world).origin continued continues _ named
 cases job with
 | login original point => exact stepLogin_granted runtime choices world original point continues granted
 | _ => cases same

def LoginRequest.MayGet (lease : Option ContinuityLease) (newUser : String) : Prop :=
 request.requestedUser lease ≠ "" /\ request.requestedUser lease ≠ "guest" ->
  newUser = request.requestedUser lease

def LoginPoint.Until (before : Prop) (settled : Login -> Prop) :
  LoginPoint -> Prop
 | .start => before
 | .register => before
 | .resume => before
 | .unique found => ∀ newUser, request.MayGet found newUser -> settled (request.settle runtime found newUser)
 | .hook details _ => settled details
 | .bans details _ _ => settled details
 | .publish details _ => settled details
 | _ => True

theorem stepLogin_until (before : World -> Prop) (settled : World -> Login -> Prop)
  (kept : ∀ state : ChatServiceState, state.user = world.state.user ->
    state.userUuid = world.state.userUuid -> state.curRoom = world.state.curRoom ->
    (before world -> before (world.setState state)) /\
      ∀ login, settled world login -> settled (world.setState state) login)
  (settles : before world -> ∀ lease,
    lease = tryResumeContinuityLease runtime world.store world.clock choices.databaseFails request.token ->
    ((extractResumeToken request.token).isSome -> lease ≠ none) ->
    ∀ newUser, request.MayGet lease newUser -> settled world (request.settle runtime lease newUser))
  {point later : LoginPoint} {served : LoginRequest}
  (reached : point.Until runtime request (before world) (settled world))
  (continues : (stepLogin runtime choices world request point).2 = some (.login served later)) :
  later.Until runtime served (before (stepLogin runtime choices world request point).1)
   (settled (stepLogin runtime choices world request point).1) := by
 cases point with
 | start =>
  obtain ⟨_, created, -⟩ := world.state.getOrCreateSessionUuid_eq request.session choices.generatedUuid
  cases continues
  exact (kept (world.state.getOrCreateSessionUuid request.session choices.generatedUuid).1
   (by rw [created]) (by rw [created]) (by rw [created])).1 reached
 | register =>
  cases continues
  exact (kept (world.state.registerSessionId request.session) rfl rfl rfl).1 reached
 | resume =>
  simp only [stepLogin] at continues ⊢
  split at continues
  · cases continues
  next resumes =>
   cases continues
   rw [if_neg resumes]
   exact settles reached _ rfl fun token missing => resumes ⟨token, missing⟩
 | unique lease =>
  obtain ⟨_, pruned⟩ := (ensureUniqueOrError_prunes world.live world.state
   (request.requestedUser lease) choices.temporaryNames).onlyNames
  have same := (kept (world.state.ensureUniqueOrError world.live (request.requestedUser lease)
   choices.temporaryNames).1 (by rw [pruned]) (by rw [pruned]) (by rw [pruned])).2
  simp only [stepLogin] at continues ⊢
  split at continues
  next newUser free =>
   split at continues
   · cases continues
   next spelled =>
    cases continues
    simp only [if_neg spelled]
    apply same
    apply reached newUser
    obtain ⟨-, asked, -⟩ | ⟨unasked, -⟩ := ensureUniqueOrError_proceed free
    · exact fun _ => asked
    · exact fun asked => absurd asked unasked
  next => cases continues
 | hook login checkedAt =>
  simp only [stepLogin] at continues ⊢
  split at continues
  · cases continues
  next passes =>
   cases continues
   rw [if_neg passes]
   exact reached
 | bans login checkedAt now =>
  obtain ⟨_, _, _, checked⟩ := checkBans_eq world.state login.newUser request.session.remoteIp login.hwidHash now
  simp only [stepLogin] at continues ⊢
  split at continues
  next clean =>
   cases continues
   rw [if_pos clean]
   exact (kept (world.state.checkBans login.newUser request.session.remoteIp login.hwidHash now).1
    (by rw [checked]) (by rw [checked]) (by rw [checked])).2 login reached
  next => cases continues
 | publish login checkedAt =>
  cases continues
  simp only [stepLogin]
  split <;> trivial
 | readUid login | keepLease login =>
  cases continues
  trivial
 | storeUid login uid | lease login | presence login =>
  simp only [stepLogin] at continues
  repeat' split at continues
  all_goals cases continues <;> trivial

theorem take_since_append {Entry : Type} (recent : List Entry) {older : List Entry} (past : count ≤ older.length) :
  (recent ++ older).take ((recent ++ older).length - count) = recent ++ older.take (older.length - count) := by
 have enough : recent.length ≤ recent.length + older.length - count := by omega
 have rest : recent.length + older.length - count - recent.length = older.length - count := by omega
 rw [length_append, take_append, rest, take_of_length_le enough]

def World.publishedSince (count : Nat) : List (Session × String) :=
 world.published.take (world.published.length - count)

end

theorem World.publishedSince_append (published : next.published = recent ++ world.published)
  (past : count ≤ world.published.length) : next.publishedSince count = recent ++ world.publishedSince count := by
 rw [publishedSince, published, take_since_append recent past]
 rfl

structure Reserved (world : World) (grant : Grant) : Prop where
 spelled : grant.name ≠ ""
 past : grant.checkedAt ≤ world.published.length
 rivals : ∀ other ∈ world.live, other ≠ grant.session ->
  world.state.user.lookup other.pointer = some grant.name ->
  (other, grant.name) ∈ world.publishedSince grant.checkedAt

theorem Reserved.later (reserved : Reserved world grant) (published : next.published = recent ++ world.published)
  (back : ∀ other ∈ next.live, next.state.user.lookup other.pointer = some grant.name ->
    (other ∈ world.live /\ world.state.user.lookup other.pointer = some grant.name) \/
      (other, grant.name) ∈ recent) : Reserved next grant where
 spelled := reserved.spelled
 past := by
  rw [published, length_append]
  exact Nat.le_add_left_of_le reserved.past
 rivals := by
  intro other living different named
  rw [World.publishedSince_append published reserved.past]
  cases back other living named with
  | inl before => exact mem_append_right _ (reserved.rivals other before.1 different before.2)
  | inr taken => exact mem_append_left _ taken

structure World.Named (world : World) : Prop where
 agrees : NamesAgree world.live world.state
 listed : ∀ name, ∀ session ∈ world.state.sessionsOf name, session ∈ world.accepted
 spelled : ∀ pointer, world.state.user.lookup pointer ≠ some ""
 exclusive : ∀ first ∈ world.live, ∀ second ∈ world.live, ∀ name,
  world.state.user.lookup first.pointer = some name ->
  world.state.user.lookup second.pointer = some name -> first = second

abbrev Job.Unrivalled (world : World) (choices : Choices) (job : Job) : Prop :=
 (∀ grant ∈ job.taking, ∀ entry ∈ world.publishedSince grant.checkedAt,
    entry.2 = grant.name -> entry.1 = grant.session) /\
   ∀ requested ∈ job.naming, requested = "" \/ requested = "guest" ->
    ∀ session ∈ world.state.sessionsOf (choices.temporaryNames 4), session ∉ world.live

section

variable (runtime : Runtime) (choices : Choices) {world : World} {job : Job} {name : String}

theorem Job.step_user (separate : SeparateSessions world.live)
  (held : ∀ session ∈ job.holds, session ∈ world.live) {other : Session} (living : other ∈ world.live)
  (named : (job.step runtime choices world).1.state.user.lookup other.pointer = some name) :
  world.state.user.lookup other.pointer = some name \/ job.publishes = some (other, name) := by
 obtain same | ⟨request, login, checkedAt, rfl, published⟩ | ⟨session, rfl, closed⟩ :=
  (job.step_change runtime choices world).names
 · rw [same.user] at named
   exact .inl named
 · rw [published, user_publishLogin, lookup_insert_ite] at named
   split at named
   next here =>
    obtain rfl := separate other request.session living (held _ mem_cons_self) here
    exact .inr (congrArg (fun name => some (request.session, name)) (some.inj named))
   next => exact .inl named
 · rw [closed, user_closeSession, lookup_erase_ite] at named
   split at named
   · cases named
   · exact .inl named

theorem Reserved.step {grant : Grant} (reserved : Reserved world grant)
  (separate : SeparateSessions world.live) (held : ∀ session ∈ job.holds, session ∈ world.live) :
  Reserved (job.step runtime choices world).1 grant := by
 have frame := job.step_frame runtime choices world
 refine reserved.later frame.published fun other living named => ?_
 rw [frame.live] at living
 refine (job.step_user runtime choices separate held living named).imp (⟨living, ·⟩) ?_
 exact fun published => mem_toList.mpr published

theorem World.Named.free_of_granted (named : world.Named) {requested : String}
  (granted : (world.state.ensureUniqueOrError world.live requested choices.temporaryNames).2 = .proceed name)
  (fifth : requested = "" \/ requested = "guest" ->
    ∀ session ∈ world.state.sessionsOf (choices.temporaryNames 4), session ∉ world.live) :
  ∀ other ∈ world.live, world.state.user.lookup other.pointer ≠ some name := by
 intro other living has
 have listed := (named.agrees other living name).mpr has
 obtain ⟨-, -, unlisted⟩ | ⟨generated, rfl⟩ := ensureUniqueOrError_proceed granted
 · exact unlisted other living listed
 · have guest : requested = "" \/ requested = "guest" := by tauto
   unfold chooseTempName at listed
   split at listed
   next candidate found =>
    have empty : world.state.sessionsOf candidate = [] := by simpa using find?_some found
    rw [empty] at listed
    exact absurd listed not_mem_nil
   next => exact fifth guest other listed living

theorem World.Named.publishLogin (named : world.Named) (separate : SeparateSessions world.live)
  (known : ∀ session ∈ world.live, session ∈ world.accepted) {session : Session}
  (living : session ∈ world.live) (login : Login) (spelled : login.newUser ≠ "")
  (free : ∀ other ∈ world.live, other ≠ session -> world.state.user.lookup other.pointer ≠ some login.newUser) :
  (world.setState (world.state.publishLogin session login)).Named := by
 have user (pointer : Pointer) : (world.state.publishLogin session login).user.lookup pointer =
   if pointer = session.pointer then some login.newUser else world.state.user.lookup pointer := by
  rw [user_publishLogin, lookup_insert_ite]
 constructor
 case agrees => exact named.agrees.publishLogin separate living login
 case listed =>
  intro name other member
  rcases (mem_sessionsOf_publishLogin _ _ _ _ _).mp member with ⟨-, rfl⟩ | ⟨before, -⟩
  · exact known other living
  · exact named.listed name other before
 case spelled =>
  intro pointer
  show (world.state.publishLogin session login).user.lookup pointer ≠ some ""
  rw [user]
  split
  · exact fun empty => spelled (some.inj empty)
  · exact named.spelled pointer
 case exclusive =>
  -- whoever else has the new name had it before
  have alone (other : Session) (alive : other ∈ world.live)
    (has : (world.state.publishLogin session login).user.lookup other.pointer = some login.newUser) :
    other = session := by
   by_contra different
   have distinct : other.pointer ≠ session.pointer := fun shared =>
    different (separate other session alive living shared)
   rw [user, if_neg distinct] at has
   exact free other alive different has
  intro first isFirst second isSecond name hasFirst hasSecond
  by_cases new : name = login.newUser
  · subst new
    rw [alone first isFirst hasFirst, alone second isSecond hasSecond]
  · have before (other : Session)
      (has : (world.state.publishLogin session login).user.lookup other.pointer = some name) :
      world.state.user.lookup other.pointer = some name := by
     rw [user] at has
     split at has
     · exact absurd (some.inj has).symm new
     · exact has
    exact named.exclusive first isFirst second isSecond name (before first hasFirst) (before second hasSecond)

theorem World.Named.step (named : world.Named) (separate : SeparateSessions world.live)
  (known : ∀ session ∈ world.live, session ∈ world.accepted) (held : ∀ session ∈ job.holds, session ∈ world.live)
  (reserved : ∀ grant ∈ job.granted, Reserved world grant)
  (unrivalled : job.Unrivalled world choices) : (job.step runtime choices world).1.Named := by
 have frame := job.step_frame runtime choices world
 have of_state (next : World) (live : next.live = world.live) (accepted : next.accepted = world.accepted)
   (moved : (world.setState next.state).Named) : next.Named := by
  obtain ⟨agrees, listed, spelled, exclusive⟩ := moved
  constructor
  · rw [live]
    exact agrees
  · rw [accepted]
    exact listed
  · exact spelled
  · rw [live]
    exact exclusive
 apply of_state _ frame.live frame.accepted
 obtain same | ⟨request, login, checkedAt, rfl, published⟩ | ⟨session, rfl, closed⟩ :=
  (job.step_change runtime choices world).names
 · constructor
   · exact named.agrees.same same
   · exact fun name session member => named.listed name session (same.sessionsOf_back name session member)
   · exact fun pointer empty => named.spelled pointer (same.user ▸ empty)
   · exact fun first isFirst second isSecond name hasFirst hasSecond =>
      named.exclusive first isFirst second isSecond name (same.user ▸ hasFirst) (same.user ▸ hasSecond)
 · rw [published]
   have living : request.session ∈ world.live := held _ mem_cons_self
   have mine := reserved _ rfl
   refine named.publishLogin separate known living login mine.spelled fun other alive different has => ?_
   exact different (unrivalled.1 _ rfl _ (mine.rivals other alive different has) rfl)
 · have living : session ∈ world.live := held _ mem_cons_self
   have user (pointer : Pointer) (name : String)
     (has : (world.state.closeSession world.live session).1.user.lookup pointer = some name) :
     world.state.user.lookup pointer = some name := by
    rw [user_closeSession, lookup_erase_ite] at has
    split at has
    · cases has
    · exact has
   have acts := world.state.actorName_ne_empty (named.spelled session.pointer)
   rw [closed]
   constructor
   · exact named.agrees.closeSession separate living (named.spelled _)
   · intro name other member
     exact named.listed name other ((mem_sessionsOf_closeSession world.live world.state
      session other name acts).mp member).1
   · exact fun pointer empty => named.spelled pointer (user pointer "" empty)
   · exact fun first isFirst second isSecond name hasFirst hasSecond =>
      named.exclusive first isFirst second isSecond name (user _ name hasFirst) (user _ name hasSecond)

end

theorem World.Named.idle {server next : Server} {event : Server.Event} (named : server.world.Named)
  (idle : server.Idle event next)
  (older : ∀ session ∈ next.world.live, ∀ name,
    server.world.state.user.lookup session.pointer = some name -> session ∈ server.world.live)
  (unlisted : ∀ session, event = .accept session -> session ∉ server.world.accepted) : next.world.Named := by
 constructor
 case agrees =>
  intro session living name
  rw [idle.state]
  cases idle.live session living with
  | inl old => exact named.agrees session old name
  | inr isNew =>
   -- a new session is listed nowhere: what is listed was accepted before
   have unaccepted := unlisted session isNew
   constructor
   · exact fun member => absurd (named.listed name session member) unaccepted
   · exact fun has => (named.agrees session (older session living name has) name).mpr has
 case listed =>
  intro name session member
  rw [idle.state] at member
  exact idle.accepted session (named.listed name session member)
 case spelled =>
  rw [idle.state]
  exact named.spelled
 case exclusive =>
  rw [idle.state]
  intro first isFirst second isSecond name hasFirst hasSecond
  exact named.exclusive first (older first isFirst name hasFirst) second
   (older second isSecond name hasSecond) name hasFirst hasSecond

namespace Server

variable {runtime : Runtime} {server next : Server}

structure Exclusive (server : Server) : Prop where
 sound : server.Sound
 named : server.world.Named
 reserved : ∀ job ∈ server.jobs, ∀ grant ∈ job.granted, Reserved server.world grant

def Unrivalled (server : Server) : Event -> Prop
 | .accept session => server.world.state.user.lookup session.pointer = none
 | .advance index choices => ∀ job ∈ server.running[index]?, job.Unrivalled server.world choices
 | _ => True

instance (server : Server) (event : Event) : Decidable (server.Unrivalled event) := by
 unfold Unrivalled
 split <;> infer_instance

theorem empty_exclusive : empty.Exclusive where
 sound := empty_sound
 named := ⟨nofun, nofun, nofun, nofun⟩
 reserved _ listed := (not_mem_nil listed).elim

theorem Exclusive.step (exclusive : server.Exclusive) {event : Event} (unrivalled : server.Unrivalled event)
  (taken : Server.step runtime server event = some next) : next.Exclusive := by
 have sound := exclusive.sound.step taken
 obtain idle | ⟨index, choices, job, before, after, rfl, found, split, rfl⟩ := step_cases taken
 · -- a new session has no name, the others keep theirs
   have older (session : Session) (living : session ∈ next.world.live) (name : String)
     (has : server.world.state.user.lookup session.pointer = some name) : session ∈ server.world.live := by
    cases idle.live session living with
    | inl old => exact old
    | inr isNew =>
     subst isNew
     cases has.symm.trans unrivalled
   refine ⟨sound, exclusive.named.idle idle older ?_, fun job member grant granted => ?_⟩
   · rintro session rfl
     obtain ⟨fresh, -⟩ := ite_none_right_eq_some.mp taken
     exact fresh.notAccepted
   · cases idle.jobs job member with
     | inl old =>
      refine (exclusive.reserved job old grant granted).later
       (show _ = [] ++ server.world.published from idle.published) fun other living has => ?_
      rw [idle.state] at has
      exact .inl ⟨older other living _ has, has⟩
     | inr begins =>
      obtain ⟨request, -, rfl⟩ | ⟨session, rfl⟩ := begins
      · cases request <;> cases granted
      · cases granted
 · have own : job ∈ server.jobs := by simp [jobs, split]
   have held := exclusive.sound.held job own
   have unrivalledJob := unrivalled job found
   refine ⟨sound, ?_, fun other member grant granted => ?_⟩
   · exact exclusive.named.step runtime choices exclusive.sound.separate exclusive.sound.known held
      (exclusive.reserved job own) unrivalledJob
   · have later (reserved : Reserved server.world grant) :=
      reserved.step runtime choices exclusive.sound.separate held
     rcases mem_jobs_advance split member with old | continued | ⟨session, -, rfl⟩
     · exact later (exclusive.reserved other old grant granted)
     · cases job.step_granted runtime choices server.world continued granted with
       | checked requested naming spelled checkedAt free =>
        refine later ⟨spelled, checkedAt.le, fun rival living _ has => absurd has ?_⟩
        exact exclusive.named.free_of_granted choices free (unrivalledJob.2 requested naming) rival living
       | hooked before => exact later (exclusive.reserved job own grant before)
       | allowed request login checkedAt now bans before =>
        subst bans before
        exact later (exclusive.reserved _ own _ rfl)
     · cases granted

/-- In every run without rival logins, no two live sessions have one name. -/
theorem name_belongs_to_one_session (runtime : Runtime) (trace : List Event) (final : Server)
  (unrivalled : (machine runtime).Guarded Unrivalled empty trace)
  (ran : (machine runtime).run empty trace = some final) :
  ∀ name, ∀ first ∈ final.world.live, ∀ second ∈ final.world.live,
   final.world.state.user.lookup first.pointer = some name ->
   final.world.state.user.lookup second.pointer = some name -> first = second := by
 have exclusive := (machine runtime).run_invariant
  (fun server event next exclusive unrivalled taken => Exclusive.step exclusive unrivalled taken)
  empty_exclusive unrivalled ran
 exact fun name first isFirst second isSecond => exclusive.named.exclusive first isFirst second isSecond name

def firstClient : Session where
 pointer := 4096
 block := 4080
 sessionId := 1
 remoteIp := "192.0.2.7"

def secondClient : Session where
 pointer := 8192
 block := 8176
 sessionId := 2
 remoteIp := "192.0.2.8"

def twoLogins (firstName secondName : String) : List Event :=
 [.accept firstClient, .accept secondClient,
   .receive (.login ⟨firstClient, firstName, ""⟩), .receive (.login ⟨secondClient, secondName, ""⟩),
   .take, .take]

def advanceBy (steps index : Nat) : List Event :=
 replicate steps (.advance index {})

theorem first_login_keeps_its_name :
  ∃ final, (machine standalone).run empty
   (twoLogins "alice" "alice" ++ advanceBy 7 0 ++ advanceBy 4 1) = some final /\
   final.world.state.user.lookup firstClient.pointer = some "alice" /\
   ∀ other ∈ final.world.live, final.world.state.user.lookup other.pointer = some "alice" ->
    other = firstClient := by
 obtain ⟨final, ran, living, named⟩ := (machine standalone).exists_final
  (show ∃ final ∈ (machine standalone).run empty
    (twoLogins "alice" "alice" ++ advanceBy 7 0 ++ advanceBy 4 1), firstClient ∈ final.world.live /\
    final.world.state.user.lookup firstClient.pointer = some "alice" by decide +kernel)
 refine ⟨final, ran, named, fun other alive has => ?_⟩
 exact name_belongs_to_one_session standalone _ final (by decide +kernel) ran "alice" other alive
  firstClient living has named

theorem two_sessions_share_a_name :
  ¬ ∀ (runtime : Runtime) (trace : List Event) (final : Server),
   (machine runtime).run empty trace = some final ->
   ∀ name, name ≠ "guest" -> ∀ first ∈ final.world.live, ∀ second ∈ final.world.live,
    final.world.state.user.lookup first.pointer = some name ->
    final.world.state.user.lookup second.pointer = some name -> first = second := by
 intro claim
 let trace := twoLogins "alice" "alice" ++ advanceBy 6 0 ++ advanceBy 7 1 ++ advanceBy 1 0
 obtain ⟨final, ran, first, second, hasFirst, hasSecond⟩ := (machine standalone).exists_final
  (show ∃ final ∈ (machine standalone).run empty trace, firstClient ∈ final.world.live /\ secondClient ∈ final.world.live /\
    final.world.state.user.lookup firstClient.pointer = some "alice" /\
    final.world.state.user.lookup secondClient.pointer = some "alice" by decide +kernel)
 have same := claim standalone trace final ran "alice" (by decide) firstClient first secondClient
  second hasFirst hasSecond
 exact absurd same (by decide)

end Server

end Dynaxis.Chat
