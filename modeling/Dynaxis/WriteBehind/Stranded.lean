import Dynaxis.WriteBehind.Attempts
import Mathlib.Data.Fintype.EquivFin

namespace Dynaxis.WriteBehind.Dlq

open Shared List Option Dlq.Stores

-- The database and Redis work; an insert only fails while the replayer has no connection.
def NoFailure (world : World) : Action -> Prop
 | .crash => False
 | .createGroup ok | .connect ok | .xreadgroup ok | .xack ok => ok = true
 | .insert .stored => True
 | .insert (.brokenConnection _) => False
 | .insert (.exception _ _) => world.dbOpen = false
 | .xadd answer => answer ≠ none
 | .publish _ => True

def HandedAgain (config : ReplayerConfig) (world : World) (letter : Letter) : Prop :=
 ∃ rounds, ∀ trace final, (machine config).Guarded NoFailure world trace ->
  (machine config).run world trace = some final -> rounds ≤ trace.count (.xreadgroup true) ->
  ∃ more, final.handed = world.handed ++ more /\ letter ∈ more

section

variable {config : ReplayerConfig} {world next : World} {action : Action}

theorem step_handed (taken : (machine config).step world action = some next) :
  ∃ more, next.handed = world.handed ++ more := by
 cases step_cases taken with
 | processed letter rest here outcome => exact ⟨[letter], by cases outcome <;> rfl⟩
 | _ => exact ⟨[], (append_nil _).symm⟩

variable {trace : List Action} {final : World} {letter : Letter}

theorem run_handed (ran : (machine config).run world trace = some final) :
  ∃ more, final.handed = world.handed ++ more := by
 induction trace generalizing world with
 | nil => exact ⟨[], by simp [some.inj ran]⟩
 | cons action rest ih =>
  obtain ⟨next, taken, continued⟩ := (machine config).run_cons_some.mp ran
  obtain ⟨first, handed⟩ := step_handed taken
  obtain ⟨more, later⟩ := ih continued
  exact ⟨first ++ more, by rw [later, handed, append_assoc]⟩

theorem step_group (created : world.stores.group ≠ none)
  (taken : (machine config).step world action = some next) : next.stores.group ≠ none := by
 cases step_cases taken with
 | groupCreated here ok =>
  cases ok with
  | false => exact created
  | true =>
   obtain ⟨group, known⟩ := ne_none_iff_exists'.mp created
   simp [createGroup, known]
 | read here group known => simp [deliver]
 | processed letter rest here outcome => cases outcome <;> simp [World.processEntry] <;> split <;> exact created
 | acked letter rest here ok => simpa using created
 | _ => exact created

-- An entry left behind was handed over, and it came out of a group.
structure World.Delivered (world : World) : Prop where
 left : ∀ letter ∈ world.left, letter ∈ world.handed
 failing : ∀ letter what rest, world.phase = .handleFailure letter what rest -> letter ∈ world.handed
 group : world.stores.group = none -> world.handed = [] /\ world.phase.rest = []

theorem step_delivered (delivered : world.Delivered) (taken : (machine config).step world action = some next) :
  next.Delivered := by
 obtain ⟨left, failing, group⟩ := delivered
 have created : next.stores.group = none -> world.stores.group = none := fun none_now =>
  by_contra fun created => step_group created taken none_now
 have kept (none_now : next.stores.group = none) (same : next.handed = world.handed)
   (rest : next.phase.rest = world.phase.rest \/ next.phase.rest = []) :
   next.handed = [] /\ next.phase.rest = [] := by
  obtain ⟨nothing, idle⟩ := group (created none_now)
  exact ⟨same.trans nothing, rest.elim (·.trans idle) id⟩
 cases step_cases taken with
 | published => exact ⟨left, failing, group⟩
 | crashed | readFailed => exact ⟨left, by simp, fun none_now => kept none_now rfl (.inr rfl)⟩
 | groupCreated here ok => exact ⟨left, by simp, fun none_now => kept none_now rfl (.inr rfl)⟩
 | connected here ok => cases ok <;> exact ⟨left, by simp, fun none_now => kept none_now rfl (.inr rfl)⟩
 | read => exact ⟨left, by simp, by simp [Stores.deliver]⟩
 | processed letter rest here outcome =>
  have held : world.stores.group ≠ none := fun none_now => by simpa [here, Phase.rest] using (group none_now).2
  have member : letter ∈ (world.processEntry letter rest outcome).handed := by cases outcome <;> simp [World.processEntry]
  refine ⟨fun other => ?_, ?_, fun none_now => absurd (created none_now) held⟩
  · cases outcome <;> simp [World.processEntry] <;> grind
  · cases outcome <;> simp [World.processEntry]
 | appendFailed letter what rest here =>
  refine ⟨fun other member => ?_, by simp, fun none_now => kept none_now rfl (.inl (by rw [here]; rfl))⟩
  rcases mem_append.mp member with before | now
  · exact left other before
  · exact mem_singleton.mp now ▸ failing letter what rest here
 | moved letter what rest here | retried letter what rest here | acked letter rest here =>
  exact ⟨left, by simp, fun none_now => kept none_now rfl (.inl (by rw [here]; rfl))⟩

-- The replayer goes on without a failure for this many successful reads.
def Continues (config : ReplayerConfig) (rounds : Nat) (world : World) : Prop :=
 ∃ trace final, (machine config).Guarded NoFailure world trace /\
  (machine config).run world trace = some final /\ rounds ≤ trace.count (.xreadgroup true)

variable {rounds : Nat}

theorem Continues.step (taken : (machine config).step world action = some next) (allowed : NoFailure world action)
  (later : Continues config rounds next) : Continues config rounds world := by
 obtain ⟨trace, final, guarded, ran, reads⟩ := later
 refine ⟨action :: trace, final, ⟨allowed, fun other same => ?_⟩, ?_, reads.trans count_le_count_cons⟩
 · cases taken.symm.trans same
   exact guarded
 · exact (machine config).run_cons_some.mpr ⟨next, taken, ran⟩

theorem exists_fresh (stores : Stores) : ∃ id, stores.fresh id = true := by
 obtain ⟨id, fresh⟩ := Infinite.exists_notMem_finset (stores.dlq.map (·.entry.id)).toFinset
 exact ⟨id, by simpa [Stores.fresh] using fresh⟩

section

variable {rest : List Letter} (batch : ∀ world : World, world.phase = .batch rest ->
 world.stores.group ≠ none -> Continues config rounds world) (created : world.stores.group ≠ none)
include batch created

theorem continues_ack (here : world.phase = .ack letter rest) : Continues config rounds world := by
 have taken : (machine config).step world (.xack true) =
   some { world with stores := world.stores.xack letter.entry.id true, phase := .batch rest } := by
  simp [machine, step, stepLoop, here]
 exact .step taken rfl (batch _ rfl (step_group created taken))

theorem continues_handleFailure {what : String} (here : world.phase = .handleFailure letter what rest) :
  Continues config rounds world := by
 obtain ⟨id, fresh⟩ := exists_fresh world.stores
 obtain ⟨next, taken, acks⟩ : ∃ next, (machine config).step world (.xadd (some id)) = some next /\
   next.phase = .ack letter rest := by
  simp only [machine, step, stepLoop, here, fresh, if_true]
  split <;> exact ⟨_, rfl, rfl⟩
 exact .step taken (some_ne_none id) (continues_ack batch (step_group created taken) acks)

end

theorem continues_batch (rest : List Letter) (top : ∀ world : World, world.phase = .batch [] ->
  world.stores.group ≠ none -> Continues config rounds world) :
  ∀ world : World, world.phase = .batch rest -> world.stores.group ≠ none -> Continues config rounds world := by
 induction rest with
 | nil => exact top
 | cons letter rest ih =>
  intro world here created
  cases connected : world.dbOpen with
  | true =>
   have taken : (machine config).step world (.insert .stored) = some (world.processEntry letter rest .stored) := by
    simp [machine, step, stepLoop, here, connected]
   exact .step taken trivial (continues_ack ih (step_group created taken) rfl)
  | false =>
   have taken : (machine config).step world (.insert (.exception "DB connection not open" false)) =
     some (world.processEntry letter rest (.exception "DB connection not open" false)) := by
    simp [machine, step, stepLoop, here]
   exact .step taken connected (continues_handleFailure ih (step_group created taken) rfl)

theorem continues (config : ReplayerConfig) (rounds : Nat) (created : world.stores.group ≠ none) :
  Continues config rounds world := by
 induction rounds generalizing world with
 | zero => exact ⟨[], world, trivial, rfl, Nat.zero_le _⟩
 | succ rounds ih =>
  have read (world : World) (here : world.phase = .read) (created : world.stores.group ≠ none) :
    Continues config (rounds + 1) world := by
   obtain ⟨group, known⟩ := ne_none_iff_exists'.mp created
   obtain ⟨next, taken⟩ : ∃ next, (machine config).step world (.xreadgroup true) = some next := by
    simp [machine, step, stepLoop, here, known]
   obtain ⟨trace, final, guarded, ran, reads⟩ := ih (step_group created taken)
   refine ⟨.xreadgroup true :: trace, final, ⟨rfl, fun other same => ?_⟩, ?_, by simpa using reads⟩
   · cases taken.symm.trans same
     exact guarded
   · exact (machine config).run_cons_some.mpr ⟨next, taken, ran⟩
  have top (world : World) (here : world.phase = .batch []) (created : world.stores.group ≠ none) :
    Continues config (rounds + 1) world := by
   have taken : (machine config).step world (.connect true) = some { world with dbOpen := true, phase := .read } := by
    simp [machine, step, stepLoop, here]
   exact .step taken rfl (read _ rfl created)
  cases here : world.phase with
  | start =>
   have taken : (machine config).step world (.createGroup true) =
     some { world with stores := world.stores.createGroup, phase := .batch [] } := by
    simp [machine, step, stepLoop, here]
   exact .step taken rfl (top _ rfl (step_group created taken))
  | batch rest => exact continues_batch rest top world here created
  | read => exact read world here created
  | handleFailure letter what rest => exact continues_handleFailure (continues_batch rest top) created here
  | ack letter rest => exact continues_ack (continues_batch rest top) created here

theorem delivered_run (ran : (machine config).run {} trace = some world) : world.Delivered := by
 have initial : World.Delivered {} := ⟨nofun, nofun, fun _ => ⟨rfl, rfl⟩⟩
 exact (machine config).run_keeps (fun _ _ _ => step_delivered) initial ran

variable (ran : (machine config).run {} trace = some world) (left : letter ∈ world.left)
include ran left

theorem left_never_handed {later : List Action} (continued : (machine config).run world later = some final) :
  ∃ more, final.handed = world.handed ++ more /\ ∀ other ∈ more, other.entry.id ≠ letter.entry.id := by
 obtain ⟨more, appended⟩ := run_handed continued
 refine ⟨more, appended, fun other member same => ?_⟩
 have handed := (delivered_run ran).left letter left
 have whole : (machine config).run {} (trace ++ later) = some final := by
  rw [Machine.run_append, ran]
  exact continued
 have once := (accounted_run whole).tracked.once
 rw [appended, map_append, map_append] at once
 exact (disjoint_of_nodup_append (nodup_append'.mp once).1) (mem_map_of_mem handed) (same ▸ mem_map_of_mem member)

theorem left_not_handedAgain : ¬ HandedAgain config world letter := by
 rintro ⟨rounds, again⟩
 have delivered := delivered_run ran
 have created : world.stores.group ≠ none := fun none_yet => by
  simpa [(delivered.group none_yet).1] using delivered.left letter left
 obtain ⟨later, final, allowed, continued, reads⟩ := continues config rounds created
 obtain ⟨more, appended, others⟩ := left_never_handed ran left continued
 obtain ⟨more', appended', member⟩ := again later final allowed continued reads
 obtain rfl := append_cancel_left (appended.symm.trans appended')
 exact others letter member rfl

end

/-- `Loop` never hands over an entry again that was left without an acknowledgement: it reads
only what the group has not delivered, however long it goes on. -/
theorem replayer_strands_left_entries {config : ReplayerConfig} {trace : List Action}
  {world : World} {letter : Letter}
  (ran : (machine config).run {} trace = some world) (left : letter ∈ world.left) :
  (∀ later final, (machine config).run world later = some final ->
    ∃ more, final.handed = world.handed ++ more /\ ∀ other ∈ more, other.entry.id ≠ letter.entry.id) /\
  ¬ HandedAgain config world letter :=
 ⟨fun _ _ continued => left_never_handed ran left continued, left_not_handedAgain ran left⟩

def brokenTrace : List Action :=
 [.createGroup true, .publish roomJoin, .connect true, .xreadgroup true, .insert (.brokenConnection false)]

def unappendedTrace : List Action :=
 [.createGroup true, .publish roomJoin, .connect true, .xreadgroup true, .insert (.exception "timeout" false), .xadd none]

theorem unappended_entry_is_stranded :
  ∃ world, (machine {}).run {} unappendedTrace = some world /\ ⟨roomJoin, 0⟩ ∈ world.left /\
   ¬ HandedAgain {} world ⟨roomJoin, 0⟩ := by
 have facts : ∃ world ∈ (machine {}).run {} unappendedTrace, ⟨roomJoin, 0⟩ ∈ world.left := by decide +kernel
 obtain ⟨world, ran, left⟩ := Machine.exists_final _ facts
 exact ⟨world, ran, left, (replayer_strands_left_entries ran left).2⟩

/-- The entry met a broken connection. It stays pending, and no number of iterations on working
connections hands it over again. -/
theorem replayer_strands_entry :
  ¬ ∀ (config : ReplayerConfig) (trace : List Action) (world : World),
   (machine config).run {} trace = some world -> ∀ letter ∈ world.left, HandedAgain config world letter := by
 intro claim
 have facts : ∃ world ∈ (machine {}).run {} brokenTrace, ⟨roomJoin, 0⟩ ∈ world.left := by decide +kernel
 obtain ⟨world, ran, left⟩ := Machine.exists_final _ facts
 exact left_not_handedAgain ran left (claim {} brokenTrace world ran _ left)

end Dynaxis.WriteBehind.Dlq
