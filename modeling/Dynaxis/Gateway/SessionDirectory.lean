import Dynaxis.Shared.ExpiringStore
import Dynaxis.Shared.Machine
import Dynaxis.Shared.Text

namespace Dynaxis.Gateway

open Shared List Option Function Nat

structure DirectoryConfig where
 keyPrefix : Text := []
 ttlSeconds : Int := 0

section

variable (config : DirectoryConfig)

def DirectoryConfig.normalizedPrefix : Text :=
 let stem := if config.keyPrefix = [] then "gateway/session/".toList else config.keyPrefix
 if stem.getLast? = some '/' then stem else stem ++ ['/']

def DirectoryConfig.ttl : Nat :=
 if config.ttlSeconds ≤ 0 then 30 else config.ttlSeconds.toNat

-- the client library takes an `unsigned int`
def DirectoryConfig.redisTtl : Nat := u32 config.ttl

def DirectoryConfig.makeKey (clientId : Text) : Text :=
 config.normalizedPrefix ++ clientId

end

structure CacheEntry where
 backend : Text
 expires : Nat

/-- Where a thread is. In the steps of `find_backend`, `desired` is what `ensure_backend` will
ask for when it was the caller, and `checkedAt` is the clock reading against which the map is
checked; `found` and `ensured` are what the two calls returned. -/
inductive CallPoint
 | idle
 | findCache (clientId : Text) (desired : Option Text) (checkedAt : Nat)
 | findGet (clientId : Text) (desired : Option Text) (checkedAt : Nat)
 | findStore (clientId value : Text) (desired : Option Text) (checkedAt : Nat)
 | found (clientId : Text) (backend : Option Text) (checkedAt : Nat)
 | ensureTouch (clientId desired : Text)
 | ensureClaim (clientId desired : Text)
 | ensureGet (clientId desired : Text)
 | ensureStore (clientId backend : Text)
 | ensured (clientId : Text) (backend : Option Text)
 | refreshSet (clientId backend : Text)
 | refreshStore (clientId backend : Text)
 | releaseCache (clientId backend : Text)
 | releaseDelete (clientId backend : Text)
 deriving DecidableEq

def CallPoint.atRest : CallPoint -> Bool
 | .idle | .found .. | .ensured .. => true
 | _ => false

def CallPoint.afterFind (clientId : Text) (checkedAt : Nat) (desired backend : Option Text) : CallPoint :=
 match desired, backend with
 | none, backend => .found clientId backend checkedAt
 | some desired, some existing =>
  if existing = desired then .ensureTouch clientId desired else .ensured clientId (some existing)
 | some desired, none => .ensureClaim clientId desired

structure World (Gateway Thread : Type) where
 now : Nat := 0
 redis : ExpiringStore Text Text := ∅
 caches : Gateway -> Table Text CacheEntry := fun _ => ∅
 points : Thread -> CallPoint := fun _ => .idle

inductive DirectoryEvent (Thread : Type)
 | tick (elapsed : Nat)
 | findBackend (thread : Thread) (clientId : Text)
 | ensureBackend (thread : Thread) (clientId desired : Text)
 | refreshBackend (thread : Thread) (clientId backend : Text)
 | releaseBackend (thread : Thread) (clientId backend : Text)
 | resume (thread : Thread)

section

variable {Gateway Thread : Type} [DecidableEq Gateway] [DecidableEq Thread]
 (config : DirectoryConfig) (gatewayOf : Thread -> Gateway)

namespace World

variable (world : World Gateway Thread) (thread : Thread)

section

variable (clientId backend : Text)

def redisGet : Option Text := world.redis.get world.now (config.makeKey clientId)

-- an empty value counts as none
def redisValue : Option Text := (world.redisGet config clientId).filter (· ≠ [])

def put (point : CallPoint) : World Gateway Thread :=
 { world with points := update world.points thread point }

def withCache (cache : Table Text CacheEntry) : World Gateway Thread :=
 { world with caches := update world.caches (gatewayOf thread) cache }

def store : World Gateway Thread :=
 world.withCache gatewayOf thread
  ((world.caches (gatewayOf thread)).insert clientId { backend, expires := world.now + config.ttl })

def findCache (desired : Option Text) (checkedAt : Nat) : World Gateway Thread :=
 let cache := world.caches (gatewayOf thread)
 match cache.lookup clientId with
 | none => world.put thread (.findGet clientId desired checkedAt)
 | some entry =>
  if checkedAt < entry.expires then
   world.put thread (.afterFind clientId checkedAt desired (some entry.backend))
  else (world.withCache gatewayOf thread (cache.erase clientId)).put thread
   (.findGet clientId desired checkedAt)

def releaseCache : World Gateway Thread :=
 let cache := world.caches (gatewayOf thread)
 let cache :=
  match cache.lookup clientId with
  | some entry => if entry.backend = backend then cache.erase clientId else cache
  | none => cache
 (world.withCache gatewayOf thread cache).put thread (.releaseDelete clientId backend)

end

def resume : Option (World Gateway Thread) :=
 match world.points thread with
 | .idle | .found .. | .ensured .. => none
 | .findCache clientId desired checkedAt => some (world.findCache gatewayOf thread clientId desired checkedAt)
 | .findGet clientId desired checkedAt =>
  match world.redisValue config clientId with
  | some value => some (world.put thread (.findStore clientId value desired checkedAt))
  | none => some (world.put thread (.afterFind clientId checkedAt desired none))
 | .findStore clientId value desired checkedAt =>
  some ((world.store config gatewayOf thread clientId value).put thread
   (.afterFind clientId checkedAt desired (some value)))
 | .ensureTouch clientId desired =>
  some ({ world with
   redis := world.redis.setIfEquals world.now (config.makeKey clientId) desired desired config.redisTtl }.put thread
    (.ensured clientId (some desired)))
 | .ensureClaim clientId desired =>
  match world.redis.setIfNotExists world.now (config.makeKey clientId) desired config.redisTtl with
  | (redis, true) => some ({ world with redis }.put thread (.ensureStore clientId desired))
  | (_, false) => some (world.put thread (.ensureGet clientId desired))
 | .ensureGet clientId desired =>
  -- the key may be gone again: the desired backend is then cached all the same
  some (world.put thread (.ensureStore clientId ((world.redisValue config clientId).getD desired)))
 | .ensureStore clientId backend =>
  some ((world.store config gatewayOf thread clientId backend).put thread (.ensured clientId (some backend)))
 | .refreshSet clientId backend =>
  -- whether the key held the backend is not looked at
  some ({ world with
   redis := world.redis.setIfEquals world.now (config.makeKey clientId) backend backend config.redisTtl }.put thread
    (.refreshStore clientId backend))
 | .refreshStore clientId backend => some ((world.store config gatewayOf thread clientId backend).put thread .idle)
 | .releaseCache clientId backend => some (world.releaseCache gatewayOf thread clientId backend)
 | .releaseDelete clientId backend =>
  some ({ world with redis := world.redis.delIfEquals world.now (config.makeKey clientId) backend }.put thread
   .idle)

def call (point : CallPoint) : Option (World Gateway Thread) :=
 if (world.points thread).atRest then some (world.put thread point) else none

def step (world : World Gateway Thread) : DirectoryEvent Thread -> Option (World Gateway Thread)
 | .tick elapsed => some { world with now := world.now + elapsed }
 | .findBackend thread clientId =>
  world.call thread (if clientId = [] then .found [] none world.now else .findCache clientId none world.now)
 | .ensureBackend thread clientId desired =>
  world.call thread
   (if clientId = [] \/ desired = [] then .ensured clientId none
   else .findCache clientId (some desired) world.now)
 | .refreshBackend thread clientId backend =>
  world.call thread (if clientId = [] \/ backend = [] then .idle else .refreshSet clientId backend)
 | .releaseBackend thread clientId backend =>
  world.call thread (if clientId = [] \/ backend = [] then .idle else .releaseCache clientId backend)
 | .resume thread => world.resume config gatewayOf thread

end World

def directoryMachine : Machine (World Gateway Thread) (DirectoryEvent Thread) := ⟨World.step config gatewayOf⟩

end

section

variable {Gateway Thread : Type} {config : DirectoryConfig} {gatewayOf : Thread -> Gateway}

section

variable (config : DirectoryConfig) (gateway : Gateway) (history : List (World Gateway Thread))

def Holds (world : World Gateway Thread) (clientId backend : Text) : Prop :=
 world.redisGet config clientId = some backend

def Obtained (clientId backend : Text) (since : Nat) : Prop :=
 ∃ read ∈ history, Holds config read clientId backend /\ since ≤ read.now

def Stored (clientId : Text) (entry : CacheEntry) : Prop :=
 ∃ read ∈ history, ∃ stored ∈ history, Holds config read clientId entry.backend /\ read.now ≤ stored.now /\
  (stored.caches gateway).lookup clientId = some entry /\ entry.expires = stored.now + config.ttl

/-- The step does not lead to an entry with a backend that Redis was not seen to hold:
`refresh_backend` finds the backend it was given, and `ensure_backend` finds the key that kept
it from claiming the client. -/
def CallPoint.SeesBackend (world : World Gateway Thread) : CallPoint -> Prop
 | .refreshSet clientId backend => world.redisGet config clientId = some backend
 | .ensureGet clientId _ => (world.redisValue config clientId).isSome = true
 | _ => True

def SeesBackend (config : DirectoryConfig) (world : World Gateway Thread) : DirectoryEvent Thread -> Prop
 | .resume thread => (world.points thread).SeesBackend config world
 | _ => True

def CallPoint.relies : CallPoint -> Option (Text × Text × Nat)
 | .findStore clientId value _ checkedAt => some (clientId, value, checkedAt)
 | .ensureStore clientId backend | .refreshStore clientId backend => some (clientId, backend, 0)
 | _ => none

def CallPoint.startedAt : CallPoint -> Option Nat
 | .findCache _ _ checkedAt | .findGet _ _ checkedAt => some checkedAt
 | _ => none

structure PointBacked (point : CallPoint) : Prop where
 started : ∀ checkedAt, point.startedAt = some checkedAt -> ∃ earlier ∈ history, earlier.now = checkedAt
 relies : ∀ clientId backend since, point.relies = some (clientId, backend, since) ->
  Obtained config history clientId backend since
 answered : ∀ clientId backend checkedAt, point = .found clientId (some backend) checkedAt ->
  Obtained config history clientId backend checkedAt \/
   ∃ expires, checkedAt < expires /\ Stored config gateway history clientId { backend, expires }

end

structure Backed (config : DirectoryConfig) (gatewayOf : Thread -> Gateway)
  (history : List (World Gateway Thread)) (world : World Gateway Thread) : Prop where
 clock : ∀ earlier ∈ history, earlier.now ≤ world.now
 present : world ∈ history
 caches : ∀ gateway clientId entry, (world.caches gateway).lookup clientId = some entry ->
  Stored config gateway history clientId entry
 points : ∀ thread, PointBacked config (gatewayOf thread) history (world.points thread)

variable {gateway : Gateway} {history : List (World Gateway Thread)} {world next : World Gateway Thread}
 {clientId backend : Text} {since : Nat} {point : CallPoint} {thread : Thread}

theorem Obtained.extend (obtained : Obtained config history clientId backend since) (next : World Gateway Thread) :
  Obtained config (history ++ [next]) clientId backend since := by
 obtain ⟨read, member, holds⟩ := obtained
 exact ⟨read, mem_append_left _ member, holds⟩

theorem Obtained.weaken (obtained : Obtained config history clientId backend since) :
  Obtained config history clientId backend 0 := by
 obtain ⟨read, member, holds, _⟩ := obtained
 exact ⟨read, member, holds, zero_le _⟩

theorem Stored.extend {entry : CacheEntry} (stored : Stored config gateway history clientId entry)
  (next : World Gateway Thread) : Stored config gateway (history ++ [next]) clientId entry := by
 obtain ⟨read, member, written, writtenMember, facts⟩ := stored
 exact ⟨read, mem_append_left _ member, written, mem_append_left _ writtenMember, facts⟩

theorem PointBacked.extend (backed : PointBacked config gateway history point)
  (next : World Gateway Thread) : PointBacked config gateway (history ++ [next]) point where
 started checkedAt reading := by
  obtain ⟨earlier, member, same⟩ := backed.started checkedAt reading
  exact ⟨earlier, mem_append_left _ member, same⟩
 relies clientId backend since relied := (backed.relies clientId backend since relied).extend next
 answered clientId backend checkedAt answer := by
  obtain obtained | ⟨expires, checked, stored⟩ := backed.answered clientId backend checkedAt answer
  · exact .inl (obtained.extend next)
  · exact .inr ⟨expires, checked, stored.extend next⟩

theorem PointBacked.of_none (relies : point.relies = none)
  (answers : ∀ clientId backend checkedAt, point ≠ .found clientId (some backend) checkedAt)
  (started : ∀ checkedAt, point.startedAt = some checkedAt -> ∃ earlier ∈ history, earlier.now = checkedAt) :
  PointBacked config gateway history point where
 started := started
 relies _ _ _ relied := nomatch relies.symm.trans relied
 answered clientId backend checkedAt answer := absurd answer (answers clientId backend checkedAt)

theorem PointBacked.of_relies (relies : point.relies = some (clientId, backend, since))
  (obtained : Obtained config history clientId backend since) : PointBacked config gateway history point where
 started checkedAt reading := by cases point <;> cases reading <;> cases relies
 relies other value time relied := by
  cases relies.symm.trans relied
  exact obtained
 answered other value checkedAt answer := by
  subst answer
  cases relies

theorem PointBacked.afterFind {checkedAt : Nat} {desired backend : Option Text}
  (answered : ∀ value ∈ backend, Obtained config history clientId value checkedAt \/
    ∃ expires, checkedAt < expires /\ Stored config gateway history clientId { backend := value, expires }) :
  PointBacked config gateway history (.afterFind clientId checkedAt desired backend) := by
 cases desired with
 | none =>
  refine ⟨nofun, nofun, fun other value reading answer => ?_⟩
  cases answer
  exact answered value rfl
 | some desired =>
  cases backend with
  | none => exact .of_none rfl nofun nofun
  | some existing =>
   rw [CallPoint.afterFind]
   split <;> exact .of_none rfl nofun nofun

theorem Backed.advance (backed : Backed config gatewayOf history world) (clock : world.now ≤ next.now)
  (caches : ∀ gateway clientId entry, (next.caches gateway).lookup clientId = some entry ->
    (world.caches gateway).lookup clientId = some entry \/
      (Obtained config history clientId entry.backend 0 /\ entry.expires = next.now + config.ttl))
  (points : ∀ thread, next.points thread = world.points thread \/
    PointBacked config (gatewayOf thread) (history ++ [next]) (next.points thread)) :
  Backed config gatewayOf (history ++ [next]) next where
 clock earlier member := by
  obtain old | new := mem_append.mp member
  · exact (backed.clock earlier old).trans clock
  · rw [mem_singleton.mp new]
 present := mem_append_right _ (mem_singleton.mpr rfl)
 caches gateway clientId entry found := by
  obtain old | ⟨⟨read, member, holds, _⟩, age⟩ := caches gateway clientId entry found
  · exact (backed.caches gateway clientId entry old).extend next
  · exact ⟨read, mem_append_left _ member, next, mem_append_right _ (mem_singleton.mpr rfl),
     holds, (backed.clock read member).trans clock, found, age⟩
 points thread := by
  obtain same | new := points thread
  · rw [same]
    exact (backed.points thread).extend next
  · exact new

theorem redisGet_of_redisValue {value : Text} (read : world.redisValue config clientId = some value) :
  world.redisGet config clientId = some value :=
 (filter_eq_some_iff.mp read).1

theorem Backed.holdsNow (backed : Backed config gatewayOf history world) {clientId value : Text}
  (read : world.redisGet config clientId = some value) {since : Nat} (past : since ≤ world.now) :
  Obtained config history clientId value since :=
 ⟨world, backed.present, read, past⟩

variable [DecidableEq Thread]

theorem update_point {points : Thread -> CallPoint} {property : Thread -> CallPoint -> Prop}
  (holds : property thread point) (other : Thread) :
  update points thread point other = points other \/ property other (update points thread point other) := by
 by_cases same : other = thread
 · subst same
   rw [update_self]
   exact .inr holds
 · exact .inl (update_of_ne same ..)

theorem Backed.put (backed : Backed config gatewayOf history world)
  (redis : ExpiringStore Text Text) (thread : Thread)
  (fine : PointBacked config (gatewayOf thread) (history ++ [{ world with redis }.put thread point]) point) :
  Backed config gatewayOf (history ++ [{ world with redis }.put thread point])
   ({ world with redis }.put thread point) :=
 backed.advance (le_refl _) (fun _ _ _ found => .inl found) (update_point fine)

theorem Backed.call (backed : Backed config gatewayOf history world)
  (entered : world.call thread point = some next) (relies : point.relies = none)
  (answers : ∀ clientId backend checkedAt, point ≠ .found clientId (some backend) checkedAt)
  (started : ∀ checkedAt, point.startedAt = some checkedAt -> world.now = checkedAt) :
  Backed config gatewayOf (history ++ [next]) next := by
 obtain ⟨_, ⟨⟩⟩ := ite_none_right_eq_some.mp entered
 exact backed.put world.redis thread (.of_none relies answers fun checkedAt reading =>
  ⟨world, mem_append_left _ backed.present, started checkedAt reading⟩)

variable [DecidableEq Gateway] (backed : Backed config gatewayOf history world)
include backed

theorem Backed.evict (thread : Thread) {cache : Table Text CacheEntry}
  (fewer : ∀ clientId entry, cache.lookup clientId = some entry ->
    (world.caches (gatewayOf thread)).lookup clientId = some entry) (fine : PointBacked config (gatewayOf thread)
    (history ++ [(world.withCache gatewayOf thread cache).put thread point]) point) :
  Backed config gatewayOf (history ++ [(world.withCache gatewayOf thread cache).put thread point])
   ((world.withCache gatewayOf thread cache).put thread point) := by
 refine backed.advance (le_refl _) (fun gateway clientId entry found => .inl ?_) (update_point fine)
 by_cases same : gateway = gatewayOf thread
 · subst same
   exact fewer clientId entry (by simpa [World.put, World.withCache] using found)
 · simpa [World.put, World.withCache, update_of_ne same] using found

theorem Backed.store (thread : Thread)
  (obtained : Obtained config history clientId backend since) (fine : PointBacked config (gatewayOf thread)
    (history ++ [(world.store config gatewayOf thread clientId backend).put thread point]) point) :
  Backed config gatewayOf (history ++ [(world.store config gatewayOf thread clientId backend).put thread point])
   ((world.store config gatewayOf thread clientId backend).put thread point) := by
 refine backed.advance (le_refl _) (fun gateway other entry found => ?_) (update_point fine)
 by_cases same : gateway = gatewayOf thread
 · subst same
   simp only [World.put, World.store, World.withCache, update_self] at found
   rw [Table.lookup_insert_ite] at found
   split at found
   next client =>
    cases found
    exact .inr ⟨client ▸ obtained.weaken, rfl⟩
   · exact .inl found
 · refine .inl ?_
   simpa [World.put, World.store, World.withCache, update_of_ne same] using found

section

variable {clientId : Text} {desired : Option Text} {checkedAt : Nat}
 (resumed : world.resume config gatewayOf thread = some next)
include resumed

theorem Backed.resumeFindCache (point : world.points thread = .findCache clientId desired checkedAt) :
  Backed config gatewayOf (history ++ [next]) next := by
 have here := point ▸ backed.points thread
 simp only [World.resume, point, some.injEq] at resumed
 subst resumed
 rw [World.findCache]
 split
 -- nothing cached, a live entry, an expired entry
 · exact backed.put world.redis thread (.of_none rfl nofun (here.extend _).started)
 next entry found =>
  split
  next checked =>
   refine backed.put world.redis thread (.afterFind fun value same => .inr ⟨entry.expires, checked, ?_⟩)
   cases same
   exact (backed.caches _ _ _ found).extend _
  · refine backed.evict thread (fun other value kept => ?_) (.of_none rfl nofun (here.extend _).started)
    rw [Table.lookup_erase_ite] at kept
    exact (ite_none_left_eq_some.mp kept).2

theorem Backed.resumeFindGet (point : world.points thread = .findGet clientId desired checkedAt) :
  Backed config gatewayOf (history ++ [next]) next := by
 have here := point ▸ backed.points thread
 simp only [World.resume, point] at resumed
 obtain ⟨earlier, member, rfl⟩ := here.started checkedAt rfl
 split at resumed
 next value read =>
  cases resumed
  have obtained := backed.holdsNow (redisGet_of_redisValue read) (backed.clock earlier member)
  exact backed.put world.redis thread (.of_relies rfl (obtained.extend _))
 · cases resumed
   exact backed.put world.redis thread (.afterFind nofun)

theorem Backed.resumeEnsureClaim {desired : Text} (point : world.points thread = .ensureClaim clientId desired) :
  Backed config gatewayOf (history ++ [next]) next := by
 simp only [World.resume, point] at resumed
 split at resumed
 next redis claimed =>
  -- the claim itself is the moment at which Redis holds the backend
  cases resumed
  have holds := ExpiringStore.get_of_setIfNotExists claimed
  exact backed.put redis thread (.of_relies rfl ⟨_, mem_append_right _ (mem_singleton.mpr rfl), holds, zero_le _⟩)
 · cases resumed
   exact backed.put world.redis thread (.of_none rfl nofun nofun)

theorem Backed.resumeReleaseCache {backend : Text}
  (point : world.points thread = .releaseCache clientId backend) :
  Backed config gatewayOf (history ++ [next]) next := by
 simp only [World.resume, point, some.injEq] at resumed
 subst resumed
 refine backed.evict thread (fun other value kept => ?_) (.of_none rfl nofun nofun)
 split at kept
 · split at kept
   · rw [Table.lookup_erase_ite] at kept
     exact (ite_none_left_eq_some.mp kept).2
   · exact kept
 · exact kept

theorem Backed.resume (sees : SeesBackend config world (.resume thread)) :
  Backed config gatewayOf (history ++ [next]) next := by
 have here := backed.points thread
 cases point : world.points thread with
 | idle | found | ensured => simp [World.resume, point] at resumed
 | findCache clientId desired checkedAt => exact backed.resumeFindCache resumed point
 | findGet clientId desired checkedAt => exact backed.resumeFindGet resumed point
 | findStore clientId value desired checkedAt =>
  simp only [World.resume, point, some.injEq] at resumed
  subst resumed
  rw [point] at here
  have obtained := here.relies clientId value checkedAt rfl
  refine backed.store thread obtained (.afterFind fun same found => .inl ?_)
  cases found
  exact obtained.extend _
 | ensureTouch clientId desired | releaseDelete clientId backend =>
  simp only [World.resume, point, some.injEq] at resumed
  subst resumed
  exact backed.put _ thread (.of_none rfl nofun nofun)
 | ensureClaim clientId desired => exact backed.resumeEnsureClaim resumed point
 | ensureGet clientId desired =>
  simp only [World.resume, point, some.injEq] at resumed
  simp only [SeesBackend, point, CallPoint.SeesBackend] at sees
  subst resumed
  obtain ⟨value, read⟩ := isSome_iff_exists.mp sees
  rw [read, getD_some]
  exact backed.put world.redis thread
   (.of_relies rfl ((backed.holdsNow (redisGet_of_redisValue read) (zero_le _)).extend _))
 | ensureStore clientId backend | refreshStore clientId backend =>
  simp only [World.resume, point, some.injEq] at resumed
  subst resumed
  rw [point] at here
  exact backed.store thread (here.relies clientId backend 0 rfl) (.of_none rfl nofun nofun)
 | refreshSet clientId backend =>
  simp only [World.resume, point, some.injEq] at resumed
  simp only [SeesBackend, point, CallPoint.SeesBackend] at sees
  subst resumed
  exact backed.put _ thread (.of_relies rfl ((backed.holdsNow sees (zero_le _)).extend _))
 | releaseCache clientId backend => exact backed.resumeReleaseCache resumed point

end

theorem Backed.step {event : DirectoryEvent Thread} (sees : SeesBackend config world event)
  (taken : (directoryMachine config gatewayOf).step world event = some next) :
  Backed config gatewayOf (history ++ [next]) next := by
 have now (checkedAt : Nat) (reading : some world.now = some checkedAt) : world.now = checkedAt :=
  some.inj reading
 cases event with
 | tick elapsed =>
  cases taken
  exact backed.advance (le_add_right _ _) (fun _ _ _ found => .inl found) (fun _ => .inl rfl)
 | findBackend thread clientId | ensureBackend thread clientId desired =>
  simp only [directoryMachine, World.step] at taken
  split at taken
  · exact backed.call taken rfl nofun nofun
  · exact backed.call taken rfl nofun now
 | refreshBackend thread clientId backend | releaseBackend thread clientId backend =>
  simp only [directoryMachine, World.step] at taken
  split at taken <;> exact backed.call taken rfl nofun nofun
 | resume thread => exact backed.resume taken sees

omit backed

/-- Whatever `find_backend` returns was in Redis: since the call began, or before an entry of
the gateway's own map was written that had not expired when the call began. -/
theorem found_backend_was_in_redis (config : DirectoryConfig) (gatewayOf : Thread -> Gateway)
  (events : List (DirectoryEvent Thread)) (world : World Gateway Thread)
  (sees : (directoryMachine config gatewayOf).Guarded (SeesBackend config) {} events)
  (ran : (directoryMachine config gatewayOf).run {} events = some world) (thread : Thread)
  (clientId backend : Text) (checkedAt : Nat)
  (answered : world.points thread = .found clientId (some backend) checkedAt) :
  let history := (directoryMachine config gatewayOf).visited {} events
  Obtained config history clientId backend checkedAt \/
   ∃ expires, checkedAt < expires /\ Stored config (gatewayOf thread) history clientId { backend, expires } := by
 have initial : Backed config gatewayOf [({} : World Gateway Thread)] {} :=
  { clock := fun earlier member => (mem_singleton.mp member) ▸ Nat.le_refl _
    present := mem_singleton.mpr rfl
    caches := fun _ _ _ found => nomatch found
    points := fun _ => .of_none rfl nofun nofun }
 have backed := (directoryMachine config gatewayOf).visited_invariant
  (fun _ _ _ _ backed sees taken => Backed.step backed sees taken) initial sees ran
 exact (backed.points thread).answered clientId backend checkedAt answered

end

instance {Gateway Thread : Type} (config : DirectoryConfig) (world : World Gateway Thread) :
  (point : CallPoint) -> Decidable (point.SeesBackend config world)
 | .refreshSet .. => inferInstanceAs (Decidable (_ = some _))
 | .ensureGet .. => inferInstanceAs (Decidable (_ = true))
 | .idle | .findCache .. | .findGet .. | .findStore .. | .found .. | .ensureTouch .. | .ensureClaim ..
 | .ensureStore .. | .ensured .. | .refreshStore .. | .releaseCache .. | .releaseDelete .. => .isTrue trivial

instance {Gateway Thread : Type} (config : DirectoryConfig) (world : World Gateway Thread) :
  (event : DirectoryEvent Thread) -> Decidable (SeesBackend config world event)
 | .resume thread => inferInstanceAs (Decidable ((world.points thread).SeesBackend config world))
 | .tick _ | .findBackend .. | .ensureBackend .. | .refreshBackend .. | .releaseBackend .. => .isTrue trivial

def sampleConfig : DirectoryConfig where
 ttlSeconds := 60

def rebinds : List (DirectoryEvent Bool) :=
 [.ensureBackend false "c".toList "b1".toList, .resume false, .resume false, .resume false, .resume false,
   .findBackend true "c".toList, .resume true, .resume true, .resume true,
   .releaseBackend false "c".toList "b1".toList, .resume false, .resume false,
   .ensureBackend false "c".toList "b2".toList, .resume false, .resume false, .resume false, .resume false,
   .tick 10, .findBackend false "c".toList, .resume false, .findBackend true "c".toList, .resume true]

theorem stale_answer_was_in_redis :
  ∃ world, (directoryMachine sampleConfig (id : Bool -> Bool)).run {} rebinds = some world /\
   let history := (directoryMachine sampleConfig (id : Bool -> Bool)).visited {} rebinds
   Obtained sampleConfig history "c".toList "b1".toList 10 \/
    ∃ expires, 10 < expires /\
     Stored sampleConfig true history "c".toList { backend := "b1".toList, expires } := by
 have final : ∃ world, (directoryMachine sampleConfig (id : Bool -> Bool)).run {} rebinds = some world /\
   world.points true = .found "c".toList (some "b1".toList) 10 :=
  (directoryMachine sampleConfig (id : Bool -> Bool)).exists_final (by decide +kernel)
 obtain ⟨world, ran, answered⟩ := final
 exact ⟨world, ran, found_backend_was_in_redis sampleConfig id rebinds world (by decide +kernel) ran true _ _ 10
  answered⟩

theorem gateways_disagree :
  ∃ world, (directoryMachine sampleConfig (id : Bool -> Bool)).run {} rebinds = some world /\
   world.points false = .found "c".toList (some "b2".toList) 10 /\
   world.points true = .found "c".toList (some "b1".toList) 10 /\
   world.redisGet sampleConfig "c".toList = some "b2".toList :=
 (directoryMachine sampleConfig (id : Bool -> Bool)).exists_final (by decide +kernel)

end Dynaxis.Gateway
