import Dynaxis.Shared.Machine

/-! Submitted jobs go through a queue to the workers. `running_`, `stopping_` and the queue's own `shutdown_` are
three flags that are set and read at different times: a submit looks at the first, a worker that finds nothing at
the second, and the queue itself at the third, which nothing ever takes back. -/

namespace Dynaxis.Storage

open Shared List Option

structure LockedWaitQueue (Item : Type) where
 queue : List Item := []
 shutdown : Bool := false

namespace LockedWaitQueue

variable {Item : Type}

variable (capacity : Nat) (items : LockedWaitQueue Item)

def popBlocking : Option (Option Item × LockedWaitQueue Item) :=
 match items.queue with
 | item :: rest => some (some item, { items with queue := rest })
 | [] => if items.shutdown then some (none, items) else none

def push (item : Item) : Option (LockedWaitQueue Item) :=
 if items.shutdown \/ capacity = 0 \/ items.queue.length < capacity then
  some (if items.shutdown then items else { items with queue := items.queue ++ [item] })
 else none

def stop : LockedWaitQueue Item := { items with shutdown := true }

end LockedWaitQueue

theorem LockedWaitQueue.push_eq {Item : Type} {capacity : Nat} {items next : LockedWaitQueue Item}
  {item : Item} (isOpen : items.shutdown = false) (pushed : items.push capacity item = some next) :
  next = { items with queue := items.queue ++ [item] } := by
 obtain ⟨-, ⟨⟩⟩ := ite_none_right_eq_some.mp pushed
 rw [isOpen]
 rfl

structure Job where
 number : Nat
 autoCommit : Bool
 deriving DecidableEq

inductive Outcome where
 | committed
 | rolledBack
 deriving DecidableEq

inductive Worker where
 | popping
 | checking
 | holding (job : Job)
 | working (job : Job)
 | committing (job : Job)
 | rollingBack (job : Job)
 | exited
 deriving DecidableEq

inductive SubmitPoint where
 | checking
 | pushing
 | returned
 | threw
 | ignored
 deriving DecidableEq

structure Submit where
 autoCommit : Bool
 point : SubmitPoint

inductive Controller where
 | idle
 | starting (workerCount : Nat)
 | spawning (left : Nat)
 | stopping
 | shuttingDown
 | joining
 deriving DecidableEq

structure DbWorkerPool where
 running : Bool := false
 stopping : Bool := false
 queue : LockedWaitQueue Job := {}
 controller : Controller := .idle
 workers : List Worker := []
 submits : List Submit := []
 -- the jobs whose tasks were run, and those whose units of work have ended
 ran : List Nat := []
 ended : List (Nat × Outcome) := []

inductive Action where
 | start (workerCount : Nat)
 | stop
 | storeStopping
 | spawn
 | stopQueue
 | join
 | submit (task autoCommit : Bool)
 | check (number : Nat)
 | push (number : Nat)
 | pop (worker : Nat)
 | test (worker : Nat)
 | makeUnit (worker : Nat) (made : Bool)
 | run (worker : Nat) (throws : Bool)
 | commit (worker : Nat) (throws : Bool)
 | rollback (worker : Nat)

section

variable (capacity hardwareConcurrency : Nat)

def normalizeWorkerCount (count : Nat) : Nat :=
 let count := if count = 0 then hardwareConcurrency else count
 if count = 0 then 1 else count

namespace DbWorkerPool

variable (pool : DbWorkerPool)

def setWorker (index : Nat) (worker : Worker) : DbWorkerPool :=
 { pool with workers := pool.workers.set index worker }

def setSubmit (number : Nat) (submit : Submit) : DbWorkerPool :=
 { pool with submits := pool.submits.set number submit }

def stepController : Action -> Controller -> Option DbWorkerPool
 | .start workerCount, .idle =>
  some { pool with running := true, controller := if pool.running then .idle else .starting workerCount }
 | .stop, .idle => some { pool with running := false, controller := if pool.running then .stopping else .idle }
 | .storeStopping, .starting workerCount =>
  some { pool with stopping := false, controller := .spawning (normalizeWorkerCount hardwareConcurrency workerCount) }
 | .spawn, .spawning 0 => some { pool with controller := .idle }
 | .spawn, .spawning (left + 1) =>
  some { pool with workers := pool.workers ++ [.popping], controller := .spawning left }
 | .storeStopping, .stopping => some { pool with stopping := true, controller := .shuttingDown }
 | .stopQueue, .shuttingDown => some { pool with queue := pool.queue.stop, controller := .joining }
 | .join, .joining =>
  if ∀ worker ∈ pool.workers, worker = .exited then some { pool with workers := [], controller := .idle } else none
 | _, _ => none

def stepSubmit (number : Nat) (submit : Submit) : Action -> Option DbWorkerPool
 | .check _ =>
  if submit.point = .checking then
   some (pool.setSubmit number { submit with point := if pool.running then .pushing else .threw })
  else none
 | .push _ =>
  if submit.point = .pushing then
   (pool.queue.push capacity ⟨number, submit.autoCommit⟩).map fun queue =>
     { pool.setSubmit number { submit with point := .returned } with queue }
  else none
 | _ => none

def stepWorker (index : Nat) : Action -> Worker -> Option DbWorkerPool
 | .pop _, .popping =>
  pool.queue.popBlocking.map fun (job, queue) =>
   { pool.setWorker index (match job with | some job => .holding job | none => .checking) with queue }
 | .test _, .checking => some (pool.setWorker index (if pool.stopping then .exited else .popping))
 | .makeUnit _ made, .holding job => some (pool.setWorker index (if made then .working job else .popping))
 | .run _ throws, .working job =>
  some
   { pool.setWorker index (if ¬ throws /\ job.autoCommit then .committing job else .rollingBack job) with
     ran := job.number :: pool.ran }
 | .commit _ throws, .committing job =>
  some
   (if throws then pool.setWorker index (.rollingBack job)
   else { pool.setWorker index .popping with ended := (job.number, .committed) :: pool.ended })
 | .rollback _, .rollingBack job =>
  some { pool.setWorker index .popping with ended := (job.number, .rolledBack) :: pool.ended }
 | _, _ => none

def step (action : Action) : Option DbWorkerPool :=
 match action with
 | .submit task autoCommit =>
  some { pool with submits := pool.submits ++ [⟨autoCommit, if task then .checking else .ignored⟩] }
 | .check number | .push number => pool.submits[number]?.bind fun submit => pool.stepSubmit capacity number submit action
 | .pop index | .test index | .makeUnit index _ | .run index _ | .commit index _ | .rollback index =>
  pool.workers[index]?.bind fun worker => pool.stepWorker index action worker
 | action => pool.stepController hardwareConcurrency action pool.controller

def machine : Machine DbWorkerPool Action where
 step := step capacity hardwareConcurrency

end DbWorkerPool

end

namespace Worker

def pending : Worker -> Option Nat
 | .holding job => some job.number
 | .working job => some job.number
 | _ => none

def settling : Worker -> Option Nat
 | .committing job => some job.number
 | .rollingBack job => some job.number
 | _ => none

def SawTheEnd : Worker -> Prop
 | .checking | .exited => True
 | _ => False

end Worker

theorem count_filterMap_set {Entry : Type} (field : Entry -> Option Nat) {entries : List Entry}
  {index : Nat} {old : Entry} (found : entries[index]? = some old) (new : Entry) (number : Nat) :
  ((entries.set index new).filterMap field).count number + (field old).toList.count number =
    (entries.filterMap field).count number + (field new).toList.count number := by
 induction entries generalizing index with
 | nil => cases found
 | cons first rest ih =>
  have cons (entry : Entry) (rest : List Entry) : ((entry :: rest).filterMap field).count number =
      (field entry).toList.count number + (rest.filterMap field).count number := by
   cases mapped : field entry <;> simp [mapped, count_cons, Nat.add_comm]
  cases index with
  | zero =>
   obtain rfl : first = old := by simpa using found
   rw [set_cons_zero, cons, cons]
   omega
  | succ index =>
   have later := ih (by simpa using found)
   rw [set_cons_succ, cons, cons]
   omega

namespace DbWorkerPool

section

variable (pool : DbWorkerPool) (number : Nat)

abbrev HasReturned : Prop :=
 pool.submits[number]?.map (·.point) = some .returned

def pending (pool : DbWorkerPool) (number : Nat) : Nat := (pool.workers.filterMap Worker.pending).count number

def settling (pool : DbWorkerPool) (number : Nat) : Nat := (pool.workers.filterMap Worker.settling).count number

def queued : Nat := (pool.queue.queue.map Job.number).count number

def settled : Nat := (pool.ended.map (·.1)).count number

def Accepts : Action -> Prop
 | .push _ => pool.queue.shutdown = false
 | .makeUnit _ made => made = true
 | _ => True

end

instance (pool : DbWorkerPool) (action : Action) : Decidable (pool.Accepts action) := by
 cases action <;> dsimp only [Accepts] <;> infer_instance

def Controlled (pool : DbWorkerPool) : Controller -> Prop
 | .idle =>
  if pool.running then pool.workers ≠ []
  else
   pool.workers = [] /\ pool.queue.queue = [] /\
    (pool.queue.shutdown = false -> ∀ submit ∈ pool.submits, submit.point ≠ .pushing)
 | .starting _ => pool.running = true /\ pool.workers = []
 | .spawning left => pool.running = true /\ (left = 0 -> pool.workers ≠ [])
 | .stopping => pool.running = false /\ pool.workers ≠ []
 | .shuttingDown => pool.running = false /\ pool.workers ≠ []
 | .joining => pool.running = false /\ pool.workers ≠ [] /\ pool.queue.shutdown = true

structure Sound (pool : DbWorkerPool) : Prop where
 submitted : ∀ number, (if pool.HasReturned number then 1 else 0) =
  pool.queued number + pool.pending number + pool.ran.count number
 settles : ∀ number, pool.ran.count number = pool.settling number + pool.settled number
 drained : ∀ worker ∈ pool.workers, worker.SawTheEnd -> pool.queue.shutdown = true /\ pool.queue.queue = []
 controlled : pool.Controlled pool.controller

variable {capacity hardwareConcurrency : Nat} {pool next : DbWorkerPool}

theorem Sound.initial : Sound {} where
 submitted := fun _ => rfl
 settles := fun _ => rfl
 drained := nofun
 controlled := ⟨rfl, rfl, nofun⟩

theorem normalizeWorkerCount_ne_zero (hardwareConcurrency count : Nat) :
  normalizeWorkerCount hardwareConcurrency count ≠ 0 := by
 unfold normalizeWorkerCount
 generalize (if count = 0 then hardwareConcurrency else count) = given
 dsimp only
 split
 · exact Nat.one_ne_zero
 · assumption

variable {action : Action} {number : Nat}

namespace Sound

variable (sound : Sound pool)
include sound

theorem start (idle : pool.controller = .idle) (workerCount : Nat) :
  Sound { pool with running := true, controller := if pool.running then .idle else .starting workerCount } := by
 have controlled := idle ▸ sound.controlled
 refine ⟨sound.submitted, sound.settles, sound.drained, ?_⟩
 cases on : pool.running <;> simp_all [Controlled]

theorem stop (idle : pool.controller = .idle) :
  Sound { pool with running := false, controller := if pool.running then .stopping else .idle } := by
 have controlled := idle ▸ sound.controlled
 refine ⟨sound.submitted, sound.settles, sound.drained, ?_⟩
 cases on : pool.running <;> simp_all [Controlled]

theorem spawn {left : Nat} (spawning : pool.controller = .spawning (left + 1)) :
  Sound { pool with workers := pool.workers ++ [.popping], controller := .spawning left } := by
 have controlled := spawning ▸ sound.controlled
 have pending : (pool.workers ++ [Worker.popping]).filterMap Worker.pending = pool.workers.filterMap Worker.pending := by
  rw [filterMap_append]
  exact append_nil _
 have settling : (pool.workers ++ [Worker.popping]).filterMap Worker.settling = pool.workers.filterMap Worker.settling := by
  rw [filterMap_append]
  exact append_nil _
 refine ⟨fun number => ?_, fun number => ?_, fun worker member => ?_, controlled.1, fun _ => by simp⟩
 · show _ = pool.queued number + ((pool.workers ++ [Worker.popping]).filterMap Worker.pending).count number + _
   rw [pending]
   exact sound.submitted number
 · show _ = ((pool.workers ++ [Worker.popping]).filterMap Worker.settling).count number + pool.settled number
   rw [settling]
   exact sound.settles number
 · obtain old | isNew := mem_append.mp member
   · exact sound.drained worker old
   · obtain rfl := mem_singleton.mp isNew
     exact False.elim

theorem join (joining : pool.controller = .joining) (all : ∀ worker ∈ pool.workers, worker = .exited) :
  Sound { pool with workers := [], controller := .idle } := by
 -- nobody holds a job, and the worker that exited found the queue empty
 have pending : pool.workers.filterMap Worker.pending = [] :=
  filterMap_eq_nil_iff.mpr fun worker member => by rw [all worker member]; rfl
 have settling : pool.workers.filterMap Worker.settling = [] :=
  filterMap_eq_nil_iff.mpr fun worker member => by rw [all worker member]; rfl
 obtain ⟨off, some, shutdown⟩ := joining ▸ sound.controlled
 obtain ⟨worker, member⟩ := exists_mem_of_ne_nil _ some
 have empty := (sound.drained worker member (by rw [all worker member]; trivial)).2
 refine ⟨fun number => ?_, fun number => ?_, nofun, ?_⟩
 · have submitted := sound.submitted number
   rw [DbWorkerPool.pending, pending] at submitted
   exact submitted
 · have settles := sound.settles number
   rw [DbWorkerPool.settling, settling] at settles
   exact settles
 · simp only [Controlled, off, Bool.false_eq_true, if_false]
   exact ⟨trivial, empty, fun isOpen => nomatch shutdown.symm.trans isOpen⟩

theorem controller (taken : pool.stepController hardwareConcurrency action pool.controller = some next) :
  Sound next := by
 have controlled := sound.controlled
 unfold stepController at taken
 split at taken
 next workerCount idle =>
  cases taken
  exact sound.start idle workerCount
 next idle =>
  cases taken
  exact sound.stop idle
 next workerCount starting =>
  cases taken
  rw [starting] at controlled
  exact ⟨sound.submitted, sound.settles, sound.drained, controlled.1,
   fun none => absurd none (normalizeWorkerCount_ne_zero _ _)⟩
 next spawning =>
  cases taken
  refine ⟨sound.submitted, sound.settles, sound.drained, ?_⟩
  rw [spawning] at controlled
  simp only [Controlled, controlled.1, if_true]
  exact controlled.2 rfl
 next left spawning =>
  cases taken
  exact sound.spawn spawning
 next stopping =>
  cases taken
  rw [stopping] at controlled
  exact ⟨sound.submitted, sound.settles, sound.drained, controlled⟩
 next shuttingDown =>
  cases taken
  rw [shuttingDown] at controlled
  exact ⟨sound.submitted, sound.settles, fun worker member ended => ⟨rfl, (sound.drained worker member ended).2⟩,
   controlled.1, controlled.2, rfl⟩
 next joining =>
  obtain ⟨all, ⟨⟩⟩ := ite_none_right_eq_some.mp taken
  exact sound.join joining all
 next => cases taken

end Sound

theorem hasReturned_set {submit : Submit} (found : pool.submits[number]? = some submit)
  (point : SubmitPoint) (other : Nat) :
  (pool.setSubmit number { submit with point }).HasReturned other ↔
    if other = number then point = .returned else pool.HasReturned other := by
 have known : number < pool.submits.length := (List.getElem?_eq_some_iff.mp found).1
 unfold HasReturned setSubmit
 by_cases same : other = number
 · subst same
   simp [known]
 · simp [same, Ne.symm same]

section

variable {controller : Controller}

theorem Controlled.submits (controlled : pool.Controlled controller) {submits : List Submit}
  (pushing : ∀ submit ∈ submits, submit.point = .pushing -> submit ∈ pool.submits \/ pool.running = true) :
  Controlled { pool with submits } controller := by
 cases controller with
 | idle =>
  simp only [Controlled] at controlled ⊢
  split at controlled
  next on =>
   rw [if_pos on]
   exact controlled
  next off =>
   rw [if_neg off]
   refine ⟨controlled.1, controlled.2.1, fun isOpen submit member atQueue => ?_⟩
   obtain old | on := pushing submit member atQueue
   · exact controlled.2.2 isOpen submit old atQueue
   · exact off on
 | starting workerCount | spawning left | stopping | shuttingDown | joining => exact controlled

theorem Controlled.push (controlled : pool.Controlled controller)
  (isOpen : pool.queue.shutdown = false) {submit : Submit} (called : submit ∈ pool.submits)
  (pushing : submit.point = .pushing) (running : next.running = pool.running) (workers : next.workers = pool.workers)
  (shutdown : next.queue.shutdown = pool.queue.shutdown) : next.Controlled controller := by
 cases controller with
 | idle =>
  simp only [Controlled] at controlled ⊢
  split at controlled
  next on =>
   rw [if_pos (running.trans on), workers]
   exact controlled
  next off => exact absurd pushing (controlled.2.2 isOpen submit called)
 | starting workerCount => exact ⟨running.trans controlled.1, workers.trans controlled.2⟩
 | spawning left => exact ⟨running.trans controlled.1, fun none => workers ▸ controlled.2 none⟩
 | stopping | shuttingDown => exact ⟨running.trans controlled.1, workers ▸ controlled.2⟩
 | joining => exact ⟨running.trans controlled.1, workers ▸ controlled.2.1, shutdown.trans controlled.2.2⟩

theorem Sound.submit (sound : Sound pool) {submit : Submit} (found : pool.submits[number]? = some submit)
  (accepts : pool.Accepts action)
  (taken : pool.stepSubmit capacity number submit action = some next) : Sound next := by
 unfold stepSubmit at taken
 split at taken
 next =>
  obtain ⟨checking, ⟨⟩⟩ := ite_none_right_eq_some.mp taken
  have returned (other : Nat) :
    (pool.setSubmit number { submit with point := if pool.running then .pushing else .threw }).HasReturned other ↔
      pool.HasReturned other := by
   rw [hasReturned_set found]
   split
   next here =>
    subst here
    simp only [HasReturned, found, map_some, checking]
    split <;> simp
   next => exact Iff.rfl
  refine ⟨fun other => ?_, sound.settles, sound.drained, sound.controlled.submits fun other member atQueue => ?_⟩
  · simp only [returned]
    exact sound.submitted other
  · obtain old | rfl := mem_or_eq_of_mem_set member
    · exact .inl old
    · cases on : pool.running with
      | true => exact .inr rfl
      | false => simp [on] at atQueue
 next =>
  obtain ⟨pushing, moved⟩ := ite_none_right_eq_some.mp taken
  obtain ⟨queue, pushed, rfl⟩ := map_eq_some_iff.mp moved
  have isOpen : pool.queue.shutdown = false := accepts
  obtain rfl := LockedWaitQueue.push_eq isOpen pushed
  refine ⟨fun other => ?_, sound.settles, fun worker member ended => ?_, ?_⟩
  · have before := sound.submitted other
    show (if (pool.setSubmit number { submit with point := .returned }).HasReturned other then 1 else 0) =
     ((pool.queue.queue ++ [(⟨number, submit.autoCommit⟩ : Job)]).map Job.number).count other + pool.pending other +
       pool.ran.count other
    rw [map_append, count_append]
    simp only [hasReturned_set found, map_cons, map_nil, count_singleton]
    by_cases here : other = number
    · subst here
      have notYet : ¬ pool.HasReturned other := by simp [HasReturned, found, pushing]
      rw [if_neg notYet] at before
      simp only [queued] at before
      simp only [if_true, beq_self_eq_true]
      omega
    · simp only [queued] at before
      simp only [here, if_false, before, beq_iff_eq, Ne.symm here]
      omega
  · cases isOpen.symm.trans (sound.drained worker member ended).1
  · exact sound.controlled.push isOpen (mem_of_getElem? found) pushing rfl rfl rfl
 next => cases taken

theorem Controlled.worker (controlled : pool.Controlled controller) (some : pool.workers ≠ [])
  (running : next.running = pool.running) (workers : next.workers ≠ [])
  (shutdown : next.queue.shutdown = pool.queue.shutdown) : next.Controlled controller := by
 cases controller with
 | idle =>
  simp only [Controlled] at controlled ⊢
  split at controlled
  next on =>
   rw [if_pos (running.trans on)]
   exact workers
  next off => exact absurd controlled.1 some
 | starting workerCount => exact absurd controlled.2 some
 | spawning left => exact ⟨running.trans controlled.1, fun _ => workers⟩
 | stopping | shuttingDown => exact ⟨running.trans controlled.1, workers⟩
 | joining => exact ⟨running.trans controlled.1, workers, shutdown.trans controlled.2.2⟩

end

section

variable {index : Nat} {worker : Worker} (found : pool.workers[index]? = some worker)
include found

theorem pending_setWorker (new : Worker) (number : Nat) :
  (pool.setWorker index new).pending number + worker.pending.toList.count number =
    pool.pending number + new.pending.toList.count number :=
 count_filterMap_set Worker.pending found new number

theorem settling_setWorker (new : Worker) (number : Nat) :
  (pool.setWorker index new).settling number + worker.settling.toList.count number =
    pool.settling number + new.settling.toList.count number :=
 count_filterMap_set Worker.settling found new number

theorem Controlled.setWorker {controller : Controller} (controlled : pool.Controlled controller) {new : Worker}
  (running : next.running = pool.running) (workers : next.workers = pool.workers.set index new)
  (shutdown : next.queue.shutdown = pool.queue.shutdown) : next.Controlled controller := by
 have some : pool.workers ≠ [] := ne_nil_of_mem (mem_of_getElem? found)
 refine controlled.worker some running ?_ shutdown
 rw [workers]
 exact fun none => some (by simpa using none)

theorem Sound.setWorker (sound : Sound pool) (new : Worker) (queue : LockedWaitQueue Job)
  (ran : List Nat) (ended : List (Nat × Outcome)) (shutdown : queue.shutdown = pool.queue.shutdown)
  (jobs : ∀ number, (queue.queue.map Job.number).count number + new.pending.toList.count number + ran.count number =
    pool.queued number + worker.pending.toList.count number + pool.ran.count number)
  (units : ∀ number, ran.count number + worker.settling.toList.count number + pool.settled number =
    pool.ran.count number + new.settling.toList.count number + (ended.map (·.1)).count number)
  (drained : ∀ other, other ∈ pool.workers \/ other = new -> other.SawTheEnd -> queue.shutdown = true /\ queue.queue = []) :
  Sound { pool.setWorker index new with queue, ran, ended } where
 submitted number := by
  have before := sound.submitted number
  have moved := pending_setWorker found new number
  have same := jobs number
  show (if pool.HasReturned number then 1 else 0) =
   (queue.queue.map Job.number).count number + (pool.setWorker index new).pending number + ran.count number
  omega
 settles number := by
  have before := sound.settles number
  have moved := settling_setWorker found new number
  have same := units number
  show ran.count number = (pool.setWorker index new).settling number + (ended.map (·.1)).count number
  omega
 drained other member := drained other (mem_or_eq_of_mem_set member)
 controlled := sound.controlled.setWorker found rfl rfl shutdown

end

variable {index : Nat} {worker : Worker}

-- who has not just found the queue empty has seen no more than before
theorem Sound.unseen (sound : Sound pool) {new : Worker} (hasNot : ¬ new.SawTheEnd) (other : Worker)
  (known : other ∈ pool.workers \/ other = new) (saw : other.SawTheEnd) :
  pool.queue.shutdown = true /\ pool.queue.queue = [] := by
 obtain old | rfl := known
 · exact sound.drained other old saw
 · exact absurd saw hasNot

theorem Sound.pops (sound : Sound pool) (found : pool.workers[index]? = some .popping)
  (taken : pool.stepWorker index (.pop index) .popping = some next) : Sound next := by
 obtain ⟨⟨job, queue⟩, popped, rfl⟩ := map_eq_some_iff.mp taken
 unfold LockedWaitQueue.popBlocking at popped
 split at popped
 next first rest waiting =>
  cases popped
  refine sound.setWorker found (.holding first) { pool.queue with queue := rest } pool.ran
   pool.ended rfl (fun number => ?_) (fun number => rfl) fun other known saw => ?_
  · simp only [queued, waiting, Worker.pending, toList_some, toList_none, map_cons, count_cons, count_nil]
    omega
  · obtain ⟨-, empty⟩ := sound.unseen id other known saw
    cases waiting.symm.trans empty
 next empty =>
  obtain ⟨shutdown, ⟨⟩⟩ := ite_none_right_eq_some.mp popped
  exact sound.setWorker found .checking pool.queue pool.ran pool.ended rfl (fun _ => rfl)
   (fun _ => rfl) fun _ _ _ => ⟨shutdown, empty⟩

theorem Sound.runs (sound : Sound pool) {job : Job} (found : pool.workers[index]? = some (.working job))
  (throws : Bool) (taken : pool.stepWorker index (.run index throws) (.working job) = some next) : Sound next := by
 cases taken
 generalize settles : (if ¬ throws /\ job.autoCommit then Worker.committing job else .rollingBack job) = new
 have pending : new.pending = none := by
  rw [<- settles]
  split <;> rfl
 have settling : new.settling = some job.number := by
  rw [<- settles]
  split <;> rfl
 refine sound.setWorker found new pool.queue (job.number :: pool.ran) pool.ended rfl
  (fun number => ?_) (fun number => ?_) (sound.unseen ?_)
 · rw [pending]
   simp only [queued, Worker.pending, toList_some, toList_none, count_cons, count_nil]
   omega
 · rw [settling]
   simp only [settled, Worker.settling, toList_some, toList_none, count_cons, count_nil]
   omega
 · rw [<- settles]
   split <;> exact id

theorem Sound.ends (sound : Sound pool) (found : pool.workers[index]? = some worker) {job : Job}
  (settles : worker.settling = some job.number) (holds : worker.pending = none) (outcome : Outcome) :
  Sound { pool.setWorker index .popping with ended := (job.number, outcome) :: pool.ended } := by
 refine sound.setWorker found .popping pool.queue pool.ran ((job.number, outcome) :: pool.ended) rfl
  (fun number => ?_) (fun number => ?_) (sound.unseen id)
 · rw [holds]
   rfl
 · rw [settles]
   simp only [settled, Worker.settling, toList_some, toList_none, map_cons, count_cons, count_nil]
   omega

theorem Sound.works (sound : Sound pool) (found : pool.workers[index]? = some worker) {action : Action}
  (accepts : pool.Accepts action) (taken : pool.stepWorker index action worker = some next) : Sound next := by
 unfold stepWorker at taken
 split at taken
 next => exact sound.pops found taken
 next =>
  cases taken
  have ended := sound.drained _ (mem_of_getElem? found) trivial
  refine sound.setWorker found _ pool.queue pool.ran pool.ended rfl (fun number => ?_)
   (fun number => ?_) fun _ _ _ => ended
  · cases pool.stopping <;> rfl
  · cases pool.stopping <;> rfl
 next made job =>
  cases taken
  obtain rfl : made = true := accepts
  exact sound.setWorker found (.working job) pool.queue pool.ran pool.ended rfl (fun _ => rfl)
   (fun _ => rfl) (sound.unseen id)
 next throws job => exact sound.runs found throws taken
 next throws job =>
  cases taken
  cases throws with
  | true =>
   exact sound.setWorker found (.rollingBack job) pool.queue pool.ran pool.ended rfl (fun _ => rfl)
    (fun _ => rfl) (sound.unseen id)
  | false => exact sound.ends found rfl rfl .committed
 next job =>
  cases taken
  exact sound.ends found rfl rfl .rolledBack
 next => cases taken

theorem Sound.step (sound : Sound pool) {action : Action} (accepts : pool.Accepts action)
  (taken : (machine capacity hardwareConcurrency).step pool action = some next) : Sound next := by
 cases action with
 | submit task autoCommit =>
  cases taken
  -- the new call is at no point that counts
  have returned (number : Nat) :
    HasReturned { pool with submits := pool.submits ++ [⟨autoCommit, if task then .checking else .ignored⟩] } number ↔
     pool.HasReturned number := by
   unfold HasReturned
   rcases Nat.lt_trichotomy number pool.submits.length with before | rfl | after
   · rw [getElem?_append_left before]
   · cases task <;> simp
   · rw [getElem?_eq_none (by simp; omega), getElem?_eq_none (by omega)]
  refine ⟨fun number => ?_, sound.settles, sound.drained, sound.controlled.submits fun submit member atQueue => ?_⟩
  · simp only [returned]
    exact sound.submitted number
  · obtain old | isNew := mem_append.mp member
    · exact .inl old
    · obtain rfl := mem_singleton.mp isNew
      cases task <;> cases atQueue
 | check number | push number =>
  obtain ⟨submit, found, moved⟩ := bind_eq_some_iff.mp taken
  exact sound.submit found accepts moved
 | pop index | test index | makeUnit index made | run index throws | commit index throws | rollback index =>
  obtain ⟨worker, found, moved⟩ := bind_eq_some_iff.mp taken
  exact sound.works found accepts moved
 | start workerCount | stop | storeStopping | spawn | stopQueue | join => exact sound.controller taken

/-- Nothing is lost of what gets into the queue before it is shut down: no task runs twice, and when
a `stop` has returned each has run and its unit of work has ended. -/
theorem returned_submits_run_once (capacity hardwareConcurrency : Nat) (trace : List Action)
  (final : DbWorkerPool) (ran : (machine capacity hardwareConcurrency).run {} trace = some final)
  (accepts : (machine capacity hardwareConcurrency).Guarded Accepts {} trace) :
  (∀ number, final.ran.count number ≤ 1) /\
    (final.controller = .idle -> final.running = false ->
      ∀ number, final.HasReturned number -> final.ran.count number = 1 /\ final.settled number = 1) := by
 have sound : Sound final :=
  (machine capacity hardwareConcurrency).run_invariant (fun _ _ _ sound accepts taken => sound.step accepts taken)
    .initial accepts ran
 refine ⟨fun number => ?_, fun idle off number returned => ?_⟩
 · have submitted := sound.submitted number
   split at submitted <;> omega
 · -- the workers are gone and the queue is empty, so there is one place left where the job can be
   have controlled := sound.controlled
   simp only [Controlled, idle, off, Bool.false_eq_true, if_false] at controlled
   have submitted := sound.submitted number
   have settles := sound.settles number
   simp only [if_pos returned, queued, pending, controlled.1, controlled.2.1, map_nil, filterMap_nil,
    count_nil] at submitted
   simp only [settling, controlled.1, filterMap_nil, count_nil] at settles
   omega

def startOne : List Action := [.start 1, .storeStopping, .spawn, .spawn]

def stopOne : List Action := [.stop, .storeStopping, .stopQueue, .pop 0, .test 0, .join]

def submitFirst : List Action := [.submit true true, .check 0, .push 0]

theorem first_submit_is_committed :
  ∃ final,
   (machine 2 4).run {} (startOne ++ submitFirst ++ [.pop 0, .makeUnit 0 true, .run 0 false, .commit 0 false] ++ stopOne) =
     some final /\
   final.HasReturned 0 /\ final.ended = [(0, .committed)] /\ final.ran.count 0 = 1 /\ final.settled 0 = 1 := by
 obtain ⟨final, ran, idle, off, returned, ended⟩ := (machine 2 4).exists_final
  (show ∃ final ∈ (machine 2 4).run {}
     (startOne ++ submitFirst ++ [.pop 0, .makeUnit 0 true, .run 0 false, .commit 0 false] ++ stopOne),
    final.controller = .idle /\ final.running = false /\ final.HasReturned 0 /\ final.ended = [(0, .committed)] by
    decide +kernel)
 exact ⟨final, ran, returned, ended,
  (returned_submits_run_once 2 4 _ final ran (by decide +kernel)).2 idle off 0 returned⟩

def MakesUnits (_ : DbWorkerPool) : Action -> Prop
 | .makeUnit _ made => made = true
 | _ => True

instance (pool : DbWorkerPool) (action : Action) : Decidable (pool.MakesUnits action) := by
 cases action <;> dsimp only [MakesUnits] <;> infer_instance

theorem restarted_pool_drops_submit :
  ¬ ∀ (capacity hardwareConcurrency : Nat) (trace : List Action) (final : DbWorkerPool),
   (machine capacity hardwareConcurrency).run {} trace = some final ->
   (machine capacity hardwareConcurrency).Guarded MakesUnits {} trace ->
   final.controller = .idle -> final.running = false ->
    ∀ number, final.HasReturned number -> final.ran.count number = 1 := by
 intro claim
 obtain ⟨final, ran, idle, off, returned, dropped⟩ := (machine 0 4).exists_final
  (show ∃ final ∈ (machine 0 4).run {} (startOne ++ stopOne ++ startOne ++ submitFirst ++ stopOne),
    final.controller = .idle /\ final.running = false /\ final.HasReturned 0 /\ final.ran.count 0 = 0 by decide +kernel)
 have once := claim 0 4 _ final ran (by decide +kernel) idle off 0 returned
 omega

end DbWorkerPool

end Dynaxis.Storage
