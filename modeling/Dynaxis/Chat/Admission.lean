import Dynaxis.Chat.Ownership

namespace Dynaxis.Chat

open Shared Chat.Runtime ChatServiceState JoinRequest

namespace Runtime

def CollisionFree (runtime : Runtime) : Prop :=
 ∀ first second, runtime.sha256Hex first = runtime.sha256Hex second ->
  runtime.sha256Hex first ≠ "" -> first = second

variable {runtime : Runtime}

theorem CollisionFree.verified (free : runtime.CollisionFree) {password secret : String}
  (verifies : runtime.verifyRoomPassword password (runtime.hashRoomPassword secret) = true) :
   password = secret := by
 unfold verifyRoomPassword at verifies
 by_cases failed : runtime.sha256Hex secret = ""
 · simp [hashRoomPassword, failed] at verifies
 · have stored : runtime.hashRoomPassword secret = "sha256:" ++ runtime.sha256Hex secret := by
    simp [hashRoomPassword, failed]
   have modern : isModernRoomPasswordHash ("sha256:" ++ runtime.sha256Hex secret) = true := by
    simp [isModernRoomPasswordHash]
   rw [stored, if_neg (by simp), if_pos modern, decide_eq_true_eq] at verifies
   unfold hashRoomPassword at verifies
   dsimp only at verifies
   split at verifies
   next empty => simp at verifies
   next digest =>
    have same : runtime.sha256Hex password = runtime.sha256Hex secret := by simpa using verifies
    exact free password secret same digest

def readPassword (runtime : Runtime) (choices : Choices) : Option String :=
 if runtime.redis then choices.redisPassword else none

end Runtime

namespace ChatServiceState

variable {state : ChatServiceState} {room : String} {redisPassword : Option String}

section

variable (state : ChatServiceState) (room : String) (redisPassword : Option String)

def storedPassword : String :=
 redisPassword.getD ((state.roomPasswords.lookup room).getD "")

abbrev Established : Prop :=
 state.members room ≠ [] \/ (state.roomOwners.lookup room).isSome \/ state.storedPassword room redisPassword ≠ ""

abbrev Invited (name : String) : Prop :=
 ∃ invited ∈ state.roomInvites.lookup room, name ∈ invited

theorem expectedPassword_adopt :
  (state.adoptRedisPassword room redisPassword).expectedPassword room redisPassword =
    state.storedPassword room redisPassword := by
 cases redisPassword with
 | none => rfl
 | some value =>
  -- an empty value in Redis has replaced the local one before that one is read
  by_cases empty : value = "" <;> simp [adoptRedisPassword, expectedPassword, storedPassword, empty]

theorem adoptRedisPassword_eq :
  ∃ roomPasswords, state.adoptRedisPassword room redisPassword = { state with roomPasswords } := by
 unfold adoptRedisPassword
 split <;> exact ⟨_, rfl⟩

end

variable (runtime : Runtime) (request : JoinRequest)

theorem gateFor_admin : (state.gateFor runtime request redisPassword).isAdminUser = true ↔
  state.actorName request.session ∈ runtime.adminUsers := by
 simp [gateFor, joinGate]

theorem gateFor_owner : (state.gateFor runtime request redisPassword).isRoomOwner = true ↔
  request.roomToJoin ≠ "lobby" /\
   state.roomOwners.lookup request.roomToJoin = some (state.actorName request.session) := by
 obtain ⟨_, adopted⟩ := state.adoptRedisPassword_eq request.roomToJoin redisPassword
 simp [gateFor, joinGate, adopted]

theorem gateFor_invite : (state.gateFor runtime request redisPassword).hasRoomInvite = true ↔
  request.roomToJoin ≠ "lobby" /\ state.Invited request.roomToJoin (state.actorName request.session) := by
 obtain ⟨_, adopted⟩ := state.adoptRedisPassword_eq request.roomToJoin redisPassword
 simp [gateFor, joinGate, adopted, Invited, Option.any_eq_true]

theorem gateFor_password : (state.gateFor runtime request redisPassword).passwordOk = true ↔
  state.storedPassword request.roomToJoin redisPassword ≠ "" /\ request.password ≠ "" /\
   runtime.verifyRoomPassword request.password (state.storedPassword request.roomToJoin redisPassword) = true := by
 simp [gateFor, joinGate, expectedPassword_adopt, and_assoc]

theorem gateFor_exists (established : state.Established request.roomToJoin redisPassword) :
  (state.gateFor runtime request redisPassword).roomExists = true := by
 obtain ⟨_, adopted⟩ := state.adoptRedisPassword_eq request.roomToJoin redisPassword
 simp only [gateFor, joinGate, expectedPassword_adopt, Bool.or_eq_true, decide_eq_true_eq]
 rw [adopted]
 obtain inhabited | owned | locked := established
 · refine .inl (.inl (.inl ?_))
   cases found : state.rooms.lookup request.roomToJoin with
   | none => exact absurd (by simp [members, found]) inhabited
   | some set => simp
 · exact .inl (.inl (.inr owned))
 · exact .inr locked

end ChatServiceState

variable {live : List Session}

namespace JoinRequest

variable {runtime : Runtime} {choices : Choices} {world : World} {request : JoinRequest}

abbrev LetIn (runtime : Runtime) (choices : Choices) (world : World) (request : JoinRequest) : Prop :=
 (stepJoin runtime choices world request .enter).2.isSome = true

variable {state : ChatServiceState}

theorem updateRoomPassword_eq_none {gate : JoinGate} {room provided expected : String} :
  state.updateRoomPassword runtime gate room provided expected = none ↔
   gate.hasPassword = false /\ provided ≠ "" /\ room ≠ "lobby" /\ runtime.hashRoomPassword provided = "" := by
 unfold updateRoomPassword
 dsimp only
 split
 next known =>
  have locked : gate.hasPassword = true := (Bool.and_eq_true_iff.mp known).1
  split <;> simp [locked]
 next =>
  split
  next sets => simp [sets]
  next keeps => simpa [and_assoc] using fun unlocked given elsewhere _ => keeps ⟨unlocked, given, elsewhere⟩

theorem joinRoom_proceeds {redisPassword : Option String} {hookHandled : Bool} :
  (∃ joined, (state.joinRoom runtime live request redisPassword hookHandled).2 = .proceed joined) ↔
    request.session.pointer ∈ state.authed /\ hookHandled = false /\
     (state.gateFor runtime request redisPassword).refuses request.roomToJoin = false /\
     ¬ ((state.gateFor runtime request redisPassword).hasPassword = false /\ request.password ≠ "" /\
      request.roomToJoin ≠ "lobby" /\ runtime.hashRoomPassword request.password = "") := by
 unfold joinRoom
 dsimp only
 -- in the order of the source: rights, hook, gate, password
 split
 next unauthorized => simp [unauthorized]
 next authorized =>
  have acts := Decidable.not_not.mp authorized
  split
  next handled => simp [handled]
  next unhandled =>
   have passed : hookHandled = false := Bool.eq_false_iff.mpr unhandled
   split
   next refuses =>
    have closed : (state.gateFor runtime request redisPassword).refuses request.roomToJoin = true := refuses
    simp [closed]
   next passes =>
    have opened : (state.gateFor runtime request redisPassword).refuses request.roomToJoin = false :=
     Bool.eq_false_iff.mpr passes
    split
    next failed =>
     have unhashed : (state.gateFor runtime request redisPassword).hasPassword = false /\ _ :=
      updateRoomPassword_eq_none.mp failed
     simpa [acts, passed, opened] using unhashed
    next secured updated =>
     have hashed : ¬ ((state.gateFor runtime request redisPassword).hasPassword = false /\ _) :=
      fun unhashed => nomatch updated.symm.trans (updateRoomPassword_eq_none.mpr unhashed)
     simpa [acts, passed, opened] using hashed

theorem letIn_iff : request.LetIn runtime choices world ↔
  ∃ joined, (world.state.joinRoom runtime world.live request (runtime.readPassword choices) choices.hookHandled).2 =
   .proceed joined := by
 unfold LetIn stepJoin
 dsimp only
 split
 next joined proceeds => simpa using ⟨joined, proceeds⟩
 next stays =>
  constructor
  · intro impossible
    cases impossible
  · rintro ⟨joined, proceeds⟩
    exact absurd proceeds (stays joined)

theorem state_stepJoin_enter : (stepJoin runtime choices world request .enter).1.state =
  (world.state.joinRoom runtime world.live request (runtime.readPassword choices) choices.hookHandled).1 := by
 unfold stepJoin
 dsimp only
 split <;> rfl

theorem LetIn.passes (letIn : request.LetIn runtime choices world) : request.session.pointer ∈ world.state.authed /\
   (world.state.gateFor runtime request (runtime.readPassword choices)).refuses request.roomToJoin = false := by
 obtain ⟨authorized, -, passes, -⟩ := joinRoom_proceeds.mp (letIn_iff.mp letIn)
 exact ⟨authorized, passes⟩

theorem LetIn.entitled (letIn : request.LetIn runtime choices world) (notLobby : request.roomToJoin ≠ "lobby")
  (established : world.state.Established request.roomToJoin (runtime.readPassword choices)) :
  world.state.actorName request.session ∈ runtime.adminUsers \/
   world.state.roomOwners.lookup request.roomToJoin = some (world.state.actorName request.session) \/
   world.state.Invited request.roomToJoin (world.state.actorName request.session) \/
   world.state.storedPassword request.roomToJoin (runtime.readPassword choices) ≠ "" /\
    runtime.verifyRoomPassword request.password
     (world.state.storedPassword request.roomToJoin (runtime.readPassword choices)) = true := by
 have passes := letIn.passes.2
 simp only [JoinGate.refuses, JoinGate.entitled, gateFor_exists runtime request established, notLobby,
  ne_eq, not_false_eq_true, decide_true, Bool.true_and, Bool.not_eq_false', Bool.or_eq_true,
  gateFor_admin, gateFor_owner, gateFor_invite,
  gateFor_password, true_and, or_assoc] at passes
 refine passes.imp_right (Or.imp_right (Or.imp_right ?_))
 exact fun known => ⟨known.1, known.2.2⟩

end JoinRequest

def ChatServiceState.Named (state : ChatServiceState) : Prop :=
 ∀ pointer ∈ state.authed, (state.user.lookup pointer).isSome

theorem StateChange.named {runtime : Runtime} {choices : Choices} {state next : ChatServiceState}
  {job : Job} (change : StateChange runtime choices live state job next) (named : state.Named) : next.Named := by
 have moved (moves : Moves live state next) : next.Named := by
  obtain ⟨_, maps⟩ := moves.sameMaps
  have sameAuthed : next.authed = state.authed := congrArg SessionMaps.authed maps
  have sameUser : next.user = state.user := congrArg SessionMaps.user maps
  unfold ChatServiceState.Named
  rw [sameAuthed, sameUser]
  exact named
 have created (session : Session) (generated : String) :
  (state.getOrCreateSessionUuid session generated).1.Named := by
  obtain ⟨_, same, -⟩ := state.getOrCreateSessionUuid_eq session generated
  rw [same]
  exact named
 cases change with
 | quiet quiet => exact moved (Moves.of_quiet quiet)
 | loginUuid request generated | joinUuid request generated | leaveUuid request generated
 | closeUuid session generated => exact created _ _
 | register request | storeUid request login answers known | keepLease request login | forget room forgets =>
  exact named
 | publish request login checkedAt =>
  intro pointer authorized
  obtain ⟨_, _, _, _, published⟩ := state.publishLogin_onlyRooms request.session login
  rw [user_publishLogin, Table.lookup_insert_ite]
  split
  · rfl
  next elsewhere =>
   rw [published] at authorized
   exact named pointer (Finset.mem_of_mem_insert_of_ne authorized elsewhere)
 | join request redisPassword hookHandled => exact moved (Moves.joinRoom ..)
 | leave request hookHandled => exact moved (Moves.leaveRoom ..)
 | kick request currentRoom targetUser targetRoom notLobby allowed => exact moved (Moves.kickFromRoom ..)
 | removeRoom request currentRoom targetRoom notLobby allowed => exact moved (Moves.removeRoom ..)
 | close session =>
  intro pointer authorized
  obtain ⟨_, _, _, _, _, closed, -⟩ := state.closeSession_eq live session
  rw [closed] at authorized ⊢
  obtain ⟨elsewhere, before⟩ := Finset.mem_erase.mp authorized
  rw [Table.lookup_erase_ite, if_neg elsewhere]
  exact named pointer before

namespace Server

/-- A session is let into an established room only as its owner, on an invitation or with the password, and
only the owner, an admin or an invited user gives a password to a room that has none. -/
theorem join_is_authorised (runtime : Runtime) (free : runtime.CollisionFree) (trace : List Event) (final : Server)
  (ran : (machine runtime).run empty trace = some final) (request : JoinRequest) (choices : Choices)
  (letIn : request.LetIn runtime choices final.world) (notLobby : request.roomToJoin ≠ "lobby")
  (established : final.world.state.Established request.roomToJoin (runtime.readPassword choices)) :
  ∃ user, final.world.state.user.lookup request.session.pointer = some user /\
   (user ∉ runtime.adminUsers -> final.world.state.roomOwners.lookup request.roomToJoin = some user \/
      final.world.state.Invited request.roomToJoin user \/
      runtime.verifyRoomPassword request.password
       (final.world.state.storedPassword request.roomToJoin (runtime.readPassword choices)) = true /\
       ∀ secret, final.world.state.storedPassword request.roomToJoin (runtime.readPassword choices) =
        runtime.hashRoomPassword secret -> request.password = secret) /\
   (final.world.state.storedPassword request.roomToJoin (runtime.readPassword choices) = "" ->
     ((stepJoin runtime choices final.world request .enter).1.state.roomPasswords.lookup
       request.roomToJoin).getD "" ≠ "" ->
     ¬ final.world.state.Invited request.roomToJoin user ->
     final.world.state.roomOwners.lookup request.roomToJoin = some user \/ user ∈ runtime.adminUsers) := by
 have named : final.world.state.Named :=
  run_keepsState (fun change => change.named) (fun _ authorized => absurd authorized (Finset.notMem_empty _)) ran
 obtain ⟨user, has⟩ := Option.isSome_iff_exists.mp (named request.session.pointer letIn.passes.1)
 have acts : final.world.state.actorName request.session = user := by simp [actorName, has]
 have entitled := letIn.entitled notLobby established
 rw [acts] at entitled
 refine ⟨user, has, fun notAdmin => ?_, fun unlocked _ uninvited => ?_⟩
 · refine (entitled.resolve_left notAdmin).imp_right (Or.imp_right fun known => ⟨known.2, fun secret stored => ?_⟩)
   exact free.verified (stored ▸ known.2)
 · obtain admin | owns | invited | known := entitled
   · exact .inr admin
   · exact .inl owns
   · exact absurd invited uninvited
   · exact absurd unlocked known.1

theorem standalone_collisionFree : standalone.CollisionFree := by
 intro first second same _
 simpa [standalone] using same

def aliceOpensTheDen (password : String) : List Event :=
 [.accept firstClient, .accept secondClient] ++ serve (.login ⟨firstClient, "alice", ""⟩) 9 ++
   serve (.login ⟨secondClient, "bob", ""⟩) 9 ++ serve (.join ⟨firstClient, "den", password⟩) 9

theorem bob_enters_with_the_password :
  ∃ final, (machine standalone).run empty (aliceOpensTheDen "sesame") = some final /\
   JoinRequest.LetIn standalone {} final.world ⟨secondClient, "den", "sesame"⟩ /\
   standalone.verifyRoomPassword "sesame" (final.world.state.storedPassword "den" none) = true := by
 obtain ⟨final, ran, letIn, established, named, others⟩ := (machine standalone).exists_final
  (show ∃ final ∈ (machine standalone).run empty (aliceOpensTheDen "sesame"),
    JoinRequest.LetIn standalone {} final.world ⟨secondClient, "den", "sesame"⟩ /\
     final.world.state.Established "den" none /\
     final.world.state.user.lookup secondClient.pointer = some "bob" /\
     final.world.state.roomOwners.lookup "den" ≠ some "bob" /\ ¬ final.world.state.Invited "den" "bob" by
    decide +kernel)
 refine ⟨final, ran, letIn, ?_⟩
 obtain ⟨user, has, entitled, -⟩ := join_is_authorised standalone standalone_collisionFree _ final ran
  ⟨secondClient, "den", "sesame"⟩ {} letIn (by decide) established
 obtain rfl := Option.some.inj (named.symm.trans has)
 obtain owns | invited | ⟨verifies, -⟩ := entitled (by decide)
 · exact absurd owns others.1
 · exact absurd invited others.2
 · exact verifies

theorem invited_user_locks_the_room :
  ¬ ∀ (runtime : Runtime), runtime.CollisionFree -> ∀ (trace : List Event) (final : Server),
   (machine runtime).run empty trace = some final -> ∀ (request : JoinRequest) (choices : Choices),
   request.LetIn runtime choices final.world -> request.roomToJoin ≠ "lobby" ->
   final.world.state.Established request.roomToJoin (runtime.readPassword choices) ->
   final.world.state.storedPassword request.roomToJoin (runtime.readPassword choices) = "" ->
   ((stepJoin runtime choices final.world request .enter).1.state.roomPasswords.lookup
     request.roomToJoin).getD "" ≠ "" ->
   ∀ user, final.world.state.user.lookup request.session.pointer = some user ->
    final.world.state.roomOwners.lookup request.roomToJoin = some user \/ user ∈ runtime.adminUsers := by
 intro claim
 let trace := aliceOpensTheDen "" ++ serve (.send ⟨firstClient, "den", "/invite bob den"⟩) 3
 let request : JoinRequest := ⟨secondClient, "den", "mine"⟩
 obtain ⟨final, ran, letIn, established, unlocked, locks, named, owner⟩ := (machine standalone).exists_final
  (show ∃ final ∈ (machine standalone).run empty trace,
    request.LetIn standalone {} final.world /\ final.world.state.Established "den" none /\
     final.world.state.storedPassword "den" none = "" /\
     ((stepJoin standalone {} final.world request .enter).1.state.roomPasswords.lookup
       request.roomToJoin).getD "" ≠ "" /\
     final.world.state.user.lookup secondClient.pointer = some "bob" /\
     final.world.state.roomOwners.lookup "den" = some "alice" by decide +kernel)
 obtain owns | admin := claim standalone standalone_collisionFree trace final ran request {} letIn
  (by decide) established unlocked locks "bob" named
 · exact absurd (owner.symm.trans owns) (by decide)
 · exact absurd admin (by decide)

end Server

namespace ChatServiceState

variable {state next : ChatServiceState}

def Alike (state next : ChatServiceState) : Prop :=
 ∃ roomPasswords, next = { state with roomPasswords } /\
  ∀ room, roomPasswords.lookup room = state.roomPasswords.lookup room

theorem Alike.refl (state : ChatServiceState) : state.Alike state :=
 ⟨_, rfl, fun _ => rfl⟩

theorem Alike.trans {last : ChatServiceState} (first : state.Alike next) (second : next.Alike last) :
  state.Alike last := by
 obtain ⟨_, rfl, same⟩ := first
 obtain ⟨roomPasswords, rfl, again⟩ := second
 exact ⟨roomPasswords, rfl, fun room => (again room).trans (same room)⟩

theorem Alike.gateFor (alike : state.Alike next) (runtime : Runtime) (request : JoinRequest)
  (redisPassword : Option String) :
  next.gateFor runtime request redisPassword = state.gateFor runtime request redisPassword := by
 obtain ⟨_, rfl, same⟩ := alike
 -- the gate only looks the password up
 cases redisPassword with
 | none =>
  simp only [gateFor, adoptRedisPassword, joinGate, expectedPassword, actorName, same]
  rfl
 | some value =>
  simp only [gateFor, adoptRedisPassword, joinGate, expectedPassword, actorName, AList.lookup_insert]
  rfl

variable {redisPassword : Option String}

theorem alike_adoptRedisPassword {room : String}
  (agrees : ∀ value ∈ redisPassword, state.roomPasswords.lookup room = some value) :
  state.Alike (state.adoptRedisPassword room redisPassword) := by
 cases redisPassword with
 | none => exact Alike.refl state
 | some value =>
  refine ⟨_, rfl, fun other => ?_⟩
  rw [Table.lookup_insert_ite]
  split
  next here => rw [here, agrees value rfl]
  next => rfl

theorem joinRoom_stays {runtime : Runtime} {request : JoinRequest} {hookHandled : Bool}
  (stays : ∀ joined, (state.joinRoom runtime live request redisPassword hookHandled).2 ≠ .proceed joined) :
  (state.joinRoom runtime live request redisPassword hookHandled).1 = state \/
    hookHandled = false /\ (state.joinRoom runtime live request redisPassword hookHandled).1 =
      state.adoptRedisPassword request.roomToJoin redisPassword := by
 unfold joinRoom at stays ⊢
 dsimp only at stays ⊢
 split
 · exact .inl rfl
 · split
   · exact .inl rfl
   next authorized unhandled =>
    rw [if_neg authorized, if_neg unhandled] at stays
    have unhandled := Bool.eq_false_iff.mpr unhandled
    split
    · exact .inr ⟨unhandled, rfl⟩
    next passes =>
     rw [if_neg passes] at stays
     split
     next => exact .inr ⟨unhandled, rfl⟩
     next secured updated =>
      rw [updated] at stays
      exact absurd rfl (stays _)

end ChatServiceState

structure Attempt where
 request : JoinRequest
 first : Choices
 second : Choices

namespace Attempt

variable {runtime : Runtime} {attempt : Attempt} {world : World}

section

variable (runtime : Runtime) (attempt : Attempt) (world : World)

def started : World :=
 (stepJoin runtime attempt.first world attempt.request .start).1

def after : World :=
 (stepJoin runtime attempt.second (attempt.started runtime world) attempt.request .enter).1

def verdict : Verdict Joined :=
 ((attempt.started runtime world).state.joinRoom runtime (attempt.started runtime world).live attempt.request
   (runtime.readPassword attempt.second) attempt.second.hookHandled).2

def forbidden (runtime : Runtime) (attempt : Attempt) (world : World) : Bool :=
 match attempt.verdict runtime world with
 | .proceed _ => false
 | .refuse error => error.code = .forbidden
 | .handled => true

-- a hook that handles the join does so before a password is adopted
abbrev Harmless : Prop :=
 (∃ id ∈ world.state.sessionUuid.lookup attempt.request.session.pointer, id ≠ "") /\
   (attempt.second.hookHandled = false -> ∀ value ∈ runtime.readPassword attempt.second,
    world.state.roomPasswords.lookup attempt.request.roomToJoin = some value)

end

theorem started_eq (known : ∃ id ∈ world.state.sessionUuid.lookup attempt.request.session.pointer, id ≠ "") :
  attempt.started runtime world = world := by
 obtain ⟨id, found, named⟩ := known
 have same : (world.state.getOrCreateSessionUuid attempt.request.session attempt.first.generatedUuid).1 =
   world.state := by
  unfold getOrCreateSessionUuid
  rw [Option.mem_def.mp found]
  simp [named]
 simp [started, stepJoin, World.createSessionUuid, World.setState, same]

theorem forbidden_stays (forbidden : attempt.forbidden runtime world = true) (joined : Joined) :
  attempt.verdict runtime world ≠ .proceed joined := by
 intro proceeds
 simp [Attempt.forbidden, proceeds] at forbidden

theorem after_alike (forbidden : attempt.forbidden runtime world = true)
  (harmless : attempt.Harmless runtime world) :
  world.state.Alike (attempt.after runtime world).state := by
 have stays := forbidden_stays forbidden
 unfold verdict at stays
 unfold after
 rw [started_eq harmless.1] at stays ⊢
 rw [state_stepJoin_enter]
 obtain same | ⟨unhandled, adopted⟩ := joinRoom_stays stays
 · rw [same]
   exact ChatServiceState.Alike.refl _
 · rw [adopted]
   exact alike_adoptRedisPassword (harmless.2 unhandled)

end Attempt

def refusals (runtime : Runtime) : Machine World Attempt where
 step world attempt := if attempt.forbidden runtime world then some (attempt.after runtime world) else none

/-- Joins that are refused by what the process knows already leave the state as it is, and
with it the answer to every later join. -/
theorem refused_joins_change_nothing (runtime : Runtime) (attempts : List Attempt)
  (world after : World) (ran : (refusals runtime).run world attempts = some after)
  (harmless : (refusals runtime).Guarded (fun world attempt => attempt.Harmless runtime world) world attempts) :
  world.state.Alike after.state /\
   ∀ (later : JoinRequest) (choices : Choices),
    later.LetIn runtime choices after ↔ later.LetIn runtime choices world := by
 have step (middle : World) (attempt : Attempt) (next : World) (before : world.state.Alike middle.state)
   (allowed : attempt.Harmless runtime middle) (taken : (refusals runtime).step middle attempt = some next) :
   world.state.Alike next.state := by
  obtain ⟨forbidden, answered⟩ := Option.ite_none_right_eq_some.mp taken
  cases answered
  exact before.trans (Attempt.after_alike forbidden allowed)
 have alike := (refusals runtime).run_invariant step (ChatServiceState.Alike.refl _) harmless ran
 refine ⟨alike, fun later choices => ?_⟩
 rw [letIn_iff, letIn_iff, joinRoom_proceeds, joinRoom_proceeds, alike.gateFor]
 obtain ⟨_, same, -⟩ := alike
 rw [same]

namespace Server

theorem bob_may_guess :
  ∃ final after, (machine standalone).run empty (aliceOpensTheDen "sesame") = some final /\
   (refusals standalone).run final.world
     [⟨⟨secondClient, "den", "open"⟩, {}, {}⟩, ⟨⟨secondClient, "den", ""⟩, {}, {}⟩] = some after /\
   JoinRequest.LetIn standalone {} after ⟨secondClient, "den", "sesame"⟩ := by
 obtain ⟨final, ran, letIn, ⟨after, refused⟩, harmless⟩ := (machine standalone).exists_final
  (show ∃ final ∈ (machine standalone).run empty (aliceOpensTheDen "sesame"),
    JoinRequest.LetIn standalone {} final.world ⟨secondClient, "den", "sesame"⟩ /\
     (∃ after, (refusals standalone).run final.world
       [⟨⟨secondClient, "den", "open"⟩, {}, {}⟩, ⟨⟨secondClient, "den", ""⟩, {}, {}⟩] = some after) /\
     (refusals standalone).Guarded (fun world attempt => attempt.Harmless standalone world)
       final.world [⟨⟨secondClient, "den", "open"⟩, {}, {}⟩, ⟨⟨secondClient, "den", ""⟩, {}, {}⟩] by
    simp only [<- Option.isSome_iff_exists]
    decide +kernel)
 exact ⟨final, after, ran, refused,
  ((refused_joins_change_nothing standalone _ final.world after refused harmless).2 _ _).mpr letIn⟩

/-- Bob is refused while Redis has a password for the room. When Redis has none any more, the
password left here keeps bob out of a room that nobody has opened. -/
theorem refused_join_locks_the_room :
  ¬ ∀ (runtime : Runtime) (trace : List Event) (final : Server), (machine runtime).run empty trace = some final ->
   ∀ attempt : Attempt, attempt.forbidden runtime final.world = true ->
   ∀ (later : JoinRequest) (choices : Choices),
    later.LetIn runtime choices (attempt.after runtime final.world) ↔ later.LetIn runtime choices final.world := by
 intro claim
 let trace := Event.accept secondClient :: serve (.login ⟨secondClient, "bob", ""⟩) 9
 let request : JoinRequest := ⟨secondClient, "den", ""⟩
 let attempt : Attempt := ⟨request, {}, { redisPassword := some "sha256:digest of sesame" }⟩
 obtain ⟨final, ran, forbidden, before, after⟩ := (machine connected).exists_final
  (show ∃ final ∈ (machine connected).run empty trace,
    attempt.forbidden connected final.world = true /\
     request.LetIn connected {} final.world /\
     ¬ request.LetIn connected {} (attempt.after connected final.world) by decide +kernel)
 exact after ((claim connected trace final ran attempt forbidden request {}).mpr before)

end Server

end Dynaxis.Chat
