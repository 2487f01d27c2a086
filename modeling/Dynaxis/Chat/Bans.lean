import Dynaxis.Chat.BanTables

namespace Dynaxis.Chat

open Shared List Job Chat.Runtime

namespace ChatServiceState

theorem expired_of_checkBans {state : ChatServiceState} {newUser loginIp hwidHash : String}
  {now expiresAt : Nat} (banned : state.bannedUntil newUser = some expiresAt)
  (clean : (state.checkBans newUser loginIp hwidHash now).2 = "") : expiresAt ≤ now := by
 by_contra unexpired
 have denied : (state.checkBannedUser newUser now).2 ≠ "" := by
  unfold checkBannedUser
  split
  next absent =>
   rw [bannedUntil, absent] at banned
   cases banned
  next penalty found =>
   rw [bannedUntil, found] at banned
   cases banned
   rw [if_neg unexpired]
   dsimp only
   split
   · decide
   next given => exact given
 simp only [checkBans, denied, false_and, if_false] at clean

variable {request : ModerationRequest}

theorem bannedUntil_moderateUser (runtime : Runtime) (live : List Session)
  (isBan : request.op = .ban) (now : Nat) (progress : ChatServiceState × List Session)
  (name other : String) :
  (moderateUser runtime live request now progress name).1.bannedUntil other =
    if other = name then some (request.banExpiresAt runtime now) else progress.1.bannedUntil other := by
 obtain ⟨state, affected⟩ := progress
 simp only [moderateUser, isBan, addUserSessions]
 obtain ⟨_, collected⟩ := (collectUserSessions_prunes live
  (state.imposeBan name (request.banExpiresAt runtime now) request.banReason) name).onlyNames
 rw [collected]
 simp only [bannedUntil, imposeBan, Table.lookup_insert_ite]
 split <;> rfl

theorem bannedUntil_applyUserModeration (runtime : Runtime) (live : List Session) (state : ChatServiceState)
  (isBan : request.op = .ban) (now : Nat) (name : String) (target : name ∈ request.targets) :
  (state.applyUserModeration runtime live request now).1.bannedUntil name =
    some (request.banExpiresAt runtime now) := by
 -- the loop over the targets, from any state it has reached
 have loop (names : List String) (progress : ChatServiceState × List Session)
   (reached : name ∈ names \/ progress.1.bannedUntil name = some (request.banExpiresAt runtime now)) :
   (names.foldl (moderateUser runtime live request now) progress).1.bannedUntil name =
     some (request.banExpiresAt runtime now) := by
  induction names generalizing progress with
  | nil => exact reached.resolve_left not_mem_nil
  | cons first rest ih =>
   apply ih
   rw [bannedUntil_moderateUser runtime live isBan]
   by_cases same : name = first
   · rw [if_pos same]
     exact .inr rfl
   · rw [if_neg same]
     exact reached.imp_left fun member => (mem_cons.mp member).resolve_left same
 exact loop request.targets (state, []) (.inl target)

end ChatServiceState

def Request.LoginOrBan : Request -> Prop
 | .login _ => True
 | .moderate request => request.op = .ban /\ 0 < request.durationSec
 | _ => False

instance : (request : Request) -> Decidable request.LoginOrBan
 | .login _ => isTrue trivial
 | .moderate _ => inferInstanceAs (Decidable (_ /\ _))
 | .join _ | .leave _ | .send _ | .whisper _ => isFalse id

namespace Job

def LoginOrBan (job : Job) : Prop :=
 ∀ request ∈ job.origin, request.LoginOrBan

variable {job : Job}

theorem granted_of_taking {grant : Grant} (taking : job.taking = some grant) : job.granted = some grant := by
 unfold Job.taking at taking
 split at taking
 · exact taking
 · cases taking

theorem granted_of_banClock {now : Nat} (read : job.banClock = some now) : ∃ grant, job.granted = some grant := by
 unfold banClock at read
 split at read
 · exact ⟨_, rfl⟩
 · cases read

theorem taking_of_publishes {entry : Session × String} (publishes : job.publishes = some entry) :
  ∃ checkedAt, job.taking = some ⟨entry.1, entry.2, checkedAt⟩ := by
 unfold Job.publishes at publishes
 split at publishes
 · cases publishes
   exact ⟨_, rfl⟩
 · cases publishes

theorem LoginOrBan.banOperations (scope : job.LoginOrBan) (runtime : Runtime) (world : World)
  (noBan : job.moderating = none) : job.banOperations runtime world = [] := by
 cases job with
 | login request point => cases point <;> rfl
 | close session point | chores session work | whisper request point => rfl
 | moderate request point =>
  cases point with
  | start | stop sessions => rfl
  | apply now => cases noBan
 | join request point | leave request point | send request point => exact (scope _ rfl).elim

end Job

namespace Server

variable {runtime : Runtime} {server next : Server}

def OneBan (server : Server) : Event -> Prop
 | .receive request => request.LoginOrBan
 | .advance index _ => ∀ job ∈ server.running[index]?, job.moderating.isSome -> server.world.bans = []
 | _ => True

def NoLoginBetween (server : Server) : Event -> Prop
 | .advance index _ =>
  ∀ job ∈ server.running[index]?, ∀ request ∈ job.moderating,
   ∀ other ∈ server.jobs, ∀ grant ∈ other.taking, grant.name ∉ request.targets
 | _ => True

instance (server : Server) : (event : Event) -> Decidable (server.OneBan event)
 | .receive request => inferInstanceAs (Decidable request.LoginOrBan)
 | .advance _ _ => inferInstanceAs (Decidable (∀ job ∈ _, _))
 | .accept _ | .disconnect _ | .take | .destroy _ | .elapse _ => isTrue trivial

instance (server : Server) : (event : Event) -> Decidable (server.NoLoginBetween event)
 | .advance _ _ => inferInstanceAs (Decidable (∀ job ∈ _, _))
 | .receive _ | .accept _ | .disconnect _ | .take | .destroy _ | .elapse _ => isTrue trivial

structure BanHolds (server : Server) (ban : BanRecord) : Prop where
 counted : ban.publishedBefore ≤ server.world.published.length
 banned : ∀ user ∈ ban.targets, server.world.clock < ban.expiresAt ->
  server.world.state.bannedUntil user = some ban.expiresAt
 blocked : ∀ job ∈ server.jobs, ∀ grant ∈ job.taking, grant.name ∈ ban.targets ->
  ban.expiresAt ≤ server.world.clock
 refused : ∀ entry ∈ server.world.publishedSince ban.publishedBefore, entry.2 ∈ ban.targets ->
  ban.expiresAt ≤ server.world.clock

def Past (server : Server) : Prop :=
 ∀ job ∈ server.jobs, ∀ now ∈ job.banClock, now ≤ server.world.clock

variable {event : Event} {choices : Choices} {before after : List Job}

theorem Past.idle (past : server.Past) (idle : server.Idle event next) : next.Past := by
 intro job member now read
 obtain old | ⟨request, -, rfl⟩ | ⟨session, rfl⟩ := idle.jobs job member
 · exact (past job old now read).trans idle.clock
 · cases request <;> cases read
 · cases read

theorem Past.step (past : server.Past) (taken : Server.step runtime server event = some next) : next.Past := by
 obtain idle | ⟨index, choices, job, before, after, rfl, -, split, rfl⟩ := step_cases taken
 · exact past.idle idle
 · intro other member now read
   rw [(job.step_frame runtime choices server.world).clock]
   rcases mem_jobs_advance split member with old | continued | ⟨session, -, rfl⟩
   · exact past other old now read
   · obtain ⟨grant, granted⟩ := granted_of_banClock read
     cases job.step_granted runtime choices server.world continued granted with
     | checked requested naming spelled checkedAt free notTaking notBanning
     | allowed request login checkedAt now bans granted clean notBanning => cases notBanning.symm.trans read
     | hooked granted notTaking clock =>
      cases clock.symm.trans read
      exact le_refl _
   · cases read

structure Enforced (server : Server) : Prop where
 scope : ∀ job ∈ server.jobs, job.LoginOrBan
 past : ∀ job ∈ server.jobs, ∀ now ∈ job.banClock, now ≤ server.world.clock
 holds : ∀ ban ∈ server.world.bans, server.BanHolds ban

theorem empty_enforced : empty.Enforced where
 scope _ listed := (not_mem_nil listed).elim
 past _ listed := (not_mem_nil listed).elim
 holds _ listed := (not_mem_nil listed).elim

theorem Enforced.idle (enforced : server.Enforced) (one : server.OneBan event)
  (idle : server.Idle event next) : next.Enforced := by
 have later {expiresAt : Nat} (ended : expiresAt ≤ server.world.clock) : expiresAt ≤ next.world.clock :=
  ended.trans idle.clock
 have begun (job : Job) (begins : Begins event job) : job.LoginOrBan /\ job.taking = none := by
  obtain ⟨request, rfl, rfl⟩ | ⟨session, rfl⟩ := begins
  · have scope : request.LoginOrBan := one
    cases request with
    | login request | moderate request => exact ⟨fun _ same => by cases same; exact scope, rfl⟩
    | join request | leave request | send request | whisper request => exact scope.elim
  · exact ⟨nofun, rfl⟩
 constructor
 case scope => exact fun job member => (idle.jobs job member).elim (enforced.scope job) fun b => (begun job b).1
 case past => exact Past.idle enforced.past idle
 case holds =>
  rw [idle.bans]
  intro ban isBan
  have holds := enforced.holds ban isBan
  constructor
  case counted => exact idle.published ▸ holds.counted
  case banned =>
   intro user target unexpired
   rw [idle.state]
   exact holds.banned user target (Nat.lt_of_le_of_lt idle.clock unexpired)
  case blocked =>
   intro job member grant taking target
   cases idle.jobs job member with
   | inl old => exact later (holds.blocked job old grant taking target)
   | inr begins => cases (begun job begins).2.symm.trans taking
  case refused =>
   intro entry recent target
   refine later (holds.refused entry ?_ target)
   rwa [World.publishedSince, idle.published] at recent

theorem Enforced.keeps (enforced : server.Enforced) {ban : BanRecord} (isBan : ban ∈ server.world.bans)
  {job : Job} (split : server.running = before ++ job :: after) (noBan : job.moderating = none) :
  BanHolds
   { world := (job.step runtime choices server.world).1
     running := before ++ (job.step runtime choices server.world).2.toList ++ after } ban := by
 have holds := enforced.holds ban isBan
 have own : job ∈ server.jobs := by simp [jobs, split]
 have frame := job.step_frame runtime choices server.world
 constructor
 case counted =>
  rw [frame.published, length_append]
  exact Nat.le_add_left_of_le holds.counted
 case banned =>
  rw [frame.clock]
  intro user target unexpired
  obtain ⟨bans, lapses, after⟩ := job.step_bansChange runtime choices server.world (enforced.past job own)
  rw [(enforced.scope job own).banOperations runtime server.world noBan, foldl_nil] at after
  have banned : server.world.state.banEnds (.user user) = some ban.expiresAt := holds.banned user target unexpired
  exact (congrFun after (.user user)).trans (lapses.unexpired banned unexpired)
 case blocked =>
  rw [frame.clock]
  intro other member grant taking target
  rcases mem_jobs_advance split member with old | continued | ⟨session, -, rfl⟩
  · exact holds.blocked other old grant taking target
  · cases job.step_granted runtime choices server.world continued (granted_of_taking taking) with
    | checked requested naming spelled checkedAt free notTaking | hooked granted notTaking =>
     cases notTaking.symm.trans taking
    | allowed request login checkedAt now bans granted clean =>
     subst bans granted
     -- who passes the check while the ban lasts is none of its users
     by_contra unexpired
     have banned := holds.banned login.newUser target (Nat.lt_of_not_le unexpired)
     exact unexpired ((ChatServiceState.expired_of_checkBans banned clean).trans (enforced.past _ own now rfl))
  · cases taking
 case refused =>
  rw [frame.clock, World.publishedSince_append frame.published holds.counted]
  intro entry recent target
  cases mem_append.mp recent with
  | inl new =>
   obtain ⟨checkedAt, taking⟩ := taking_of_publishes (Option.mem_toList.mp new)
   exact holds.blocked job own _ taking target
  | inr old => exact holds.refused entry old target

theorem Enforced.imposed {request : ModerationRequest} {now : Nat}
  (split : server.running = before ++ .moderate request (.apply now) :: after)
  (isBan : request.op = .ban) (first : server.world.bans = [])
  (between : ∀ other ∈ server.jobs, ∀ grant ∈ other.taking, grant.name ∉ request.targets) :
  ∀ ban ∈ ((moderate request (.apply now)).step runtime choices server.world).1.bans, BanHolds
    { world := ((moderate request (.apply now)).step runtime choices server.world).1
      running := before ++ ((moderate request (.apply now)).step runtime choices server.world).2.toList
       ++ after } ban := by
 intro ban recorded
 simp only [Job.step, stepModeration, isBan, if_true, first, mem_singleton] at recorded
 subst recorded
 constructor
 case counted => exact le_refl _
 case banned =>
  intro user target _
  exact ChatServiceState.bannedUntil_applyUserModeration runtime server.world.live
   server.world.state isBan now user target
 case blocked =>
  intro other member grant taking target
  rcases mem_jobs_advance split member with old | continued | ⟨session, -, rfl⟩
  · exact absurd target (between other old grant taking)
  · cases step_granted runtime choices server.world _ continued (granted_of_taking taking) with
    | checked requested naming => cases naming
    | hooked granted => cases granted
    | allowed request login checkedAt now bans => cases bans
  · cases taking
 case refused =>
  intro entry recent
  simp [World.publishedSince, Job.step, stepModeration] at recent

theorem Enforced.step (enforced : server.Enforced) (allowed : server.OneBan event /\ server.NoLoginBetween event)
  (taken : Server.step runtime server event = some next) : next.Enforced := by
 obtain ⟨one, between⟩ := allowed
 obtain idle | ⟨index, choices, job, before, after, rfl, found, split, rfl⟩ := step_cases taken
 · exact enforced.idle one idle
 · have own : job ∈ server.jobs := by simp [jobs, split]
   have continues := job.step_continues runtime choices server.world
   have frame := job.step_frame runtime choices server.world
   constructor
   case scope =>
    intro other member
    rcases mem_jobs_advance split member with old | continued | ⟨session, -, rfl⟩
    · exact enforced.scope other old
    · exact fun request serves => enforced.scope job own request (continues.origin other continued request serves)
    · intro request serves
      cases serves
   case past => exact Past.step enforced.past taken
   case holds =>
    cases moderating : job.moderating with
    | none =>
     rw [frame.bans moderating]
     exact fun ban isBan => enforced.keeps isBan split moderating
    | some request =>
     obtain ⟨now, rfl⟩ : ∃ now, job = .moderate request (.apply now) := by
      unfold Job.moderating at moderating
      split at moderating
      · cases moderating
        exact ⟨_, rfl⟩
      · cases moderating
     exact imposed split (enforced.scope _ own _ rfl).1 (one _ found rfl) (between _ found request rfl)

abbrev SlippedPast (world : World) (ban : BanRecord) (user : String) (session : Session) : Prop :=
 (session, user) ∈ world.publishedSince ban.publishedBefore /\ session ∈ world.live /\
   session.pointer ∈ world.state.authed /\ world.state.user.lookup session.pointer = some user /\
   session ∉ ban.affected /\ world.clock < ban.expiresAt

/-- In every run of logins with one ban, if none of its users is about to take their name
when the ban is imposed, none of them slips past it. -/
theorem nobody_slips_past_the_ban (runtime : Runtime) (trace : List Event) (final : Server)
  (allowed : (machine runtime).Guarded
    (fun server event => server.OneBan event /\ server.NoLoginBetween event) empty trace)
  (ran : (machine runtime).run empty trace = some final) :
  ∀ ban ∈ final.world.bans, ∀ user ∈ ban.targets, ∀ session, ¬ SlippedPast final.world ban user session := by
 have enforced := (machine runtime).run_invariant
  (fun server event next enforced allowed taken => Enforced.step enforced allowed taken)
  empty_enforced allowed ran
 rintro ban isBan user target session ⟨recent, -, -, -, -, unexpired⟩
 have ended := (enforced.holds ban isBan).refused _ recent target
 exact absurd ended (Nat.not_le.mpr unexpired)

def banAlice : Request :=
 .moderate { op := .ban, targets := ["alice"], durationSec := 600, reason := "" }

def loginAndBan : List Event :=
 [.accept firstClient, .receive (.login ⟨firstClient, "alice", ""⟩), .receive banAlice, .take, .take]

theorem banned_user_is_denied :
  ∃ final, (machine standalone).run empty
   (loginAndBan ++ advanceBy 3 1 ++ advanceBy 6 0) = some final /\
   final.running.length = 0 /\
   ∃ ban ∈ final.world.bans, "alice" ∈ ban.targets /\ ¬ SlippedPast final.world ban "alice" firstClient := by
 obtain ⟨final, ran, finished, ban, isBan, target⟩ := (machine standalone).exists_final
  (show ∃ final ∈ (machine standalone).run empty
    (loginAndBan ++ advanceBy 3 1 ++ advanceBy 6 0), final.running.length = 0 /\ ∃ ban ∈ final.world.bans, "alice" ∈ ban.targets by decide +kernel)
 exact ⟨final, ran, finished, ban, isBan, target, nobody_slips_past_the_ban standalone _ final
  (by decide +kernel) ran ban isBan "alice" target firstClient⟩

theorem login_slips_past_the_ban :
  ¬ ∀ (runtime : Runtime) (trace : List Event) (final : Server),
   (machine runtime).Guarded OneBan empty trace ->
   (machine runtime).run empty trace = some final ->
   ∀ ban ∈ final.world.bans, ∀ user ∈ ban.targets, ∀ session, ¬ SlippedPast final.world ban user session := by
 intro claim
 let trace := loginAndBan ++ advanceBy 6 0 ++ advanceBy 3 1 ++ advanceBy 3 0
 obtain ⟨final, ran, ban, isBan, target, slipped⟩ := (machine standalone).exists_final
  (show ∃ final ∈ (machine standalone).run empty trace, ∃ ban ∈ final.world.bans, "alice" ∈ ban.targets /\
    SlippedPast final.world ban "alice" firstClient by decide +kernel)
 exact claim standalone trace final (by decide +kernel) ran ban isBan "alice" target firstClient
  slipped

end Server

end Dynaxis.Chat
