import Dynaxis.Concurrent.JobQueue
import Mathlib.Algebra.BigOperators.Ring.Finset

namespace Dynaxis.Concurrent

open Shared List Option Finset Monitor Nat

section

variable {Thread Job : Type}

def SleepsInPop (point : Point (Blocking Job)) : Prop := point = .waiting .pop \/ point = .woken .pop

def appended (queue next : JobQueue Thread Job) : List Job := next.state.jobs.drop queue.state.jobs.length

def popped (queue next : JobQueue Thread Job) : Option (Thread × Option Job) :=
 match next.state.returned.drop queue.state.returned.length with
 | [(thread, .pop job)] => some (thread, job)
 | _ => none

def InPop (queue : JobQueue Thread Job) (action : Action Thread Job) (thread : Thread) : Prop :=
 action = .pop thread \/ SleepsInPop (queue.points thread)

inductive JobsChange (maxSize : Nat) (queue : JobQueue Thread Job) (action : Action Thread Job)
  (next : JobQueue Thread Job) : Prop
 | keeps (jobs : next.state.jobs = queue.state.jobs) (nobody : popped queue next = none)
 | enqueues (job : Job) (room : 0 < maxSize -> queue.state.jobs.length < maxSize)
  (jobs : next.state.jobs = queue.state.jobs ++ [job]) (nobody : popped queue next = none)
 | dequeues (thread : Thread) (job : Job) (jobs : queue.state.jobs = job :: next.state.jobs)
  (result : popped queue next = some (thread, some job)) (inside : InPop queue action thread)
  (awake : ¬ SleepsInPop (next.points thread))
 | ends (thread : Thread) (before : queue.state.jobs = []) (after : next.state.jobs = [])
  (result : popped queue next = some (thread, none)) (inside : InPop queue action thread)
  (awake : ¬ SleepsInPop (next.points thread))

structure QueueEffect (maxSize : Nat) (queue : JobQueue Thread Job) (action : Action Thread Job)
  (next : JobQueue Thread Job) : Prop where
 change : JobsChange maxSize queue action next
 sleepers : ∀ thread, SleepsInPop (next.points thread) -> InPop queue action thread

variable {maxSize : Nat} {queue next : JobQueue Thread Job} {action : Action Thread Job}

@[simp] theorem not_sleepsInPop_outside : ¬ SleepsInPop (.outside : Point (Blocking Job)) := by simp [SleepsInPop]

@[simp] theorem not_sleepsInPop_notifying (all : Bool) : ¬ SleepsInPop (.notifying all : Point (Blocking Job)) := by
  simp [SleepsInPop]

@[simp] theorem not_sleepsInPop_push (job : Job) : ¬ SleepsInPop (.waiting (.push job)) := by simp [SleepsInPop]

variable {point : Point (Blocking Job)} {thread : Thread}

theorem SleepsInPop.of_wake (sleeps : SleepsInPop point.wake) : SleepsInPop point := by
 cases point <;> simp_all [SleepsInPop, Point.wake]

theorem popped_of_returned (same : next.state.returned = queue.state.returned) : popped queue next = none := by
 simp [popped, same]

theorem popped_of_tryPush {accepted : Bool}
  (recorded : next.state.returned = queue.state.returned ++ [(thread, .tryPush accepted)]) :
  popped queue next = none := by
 simp [popped, recorded]

theorem popped_of_pop {job : Option Job}
  (recorded : next.state.returned = queue.state.returned ++ [(thread, .pop job)]) :
  popped queue next = some (thread, job) := by
 simp [popped, recorded]

variable [DecidableEq Thread]

theorem inPop_of_put {state : Jobs Thread Job}
  (own : SleepsInPop point -> InPop queue action thread) (other : Thread)
  (sleeps : SleepsInPop ((queue.put state thread point).points other)) : InPop queue action other := by
 by_cases same : other = thread
 · subst same
   exact own (by simpa using sleeps)
 · rw [put_of_ne _ _ _ same] at sleeps
   exact .inr sleeps

theorem finish_push_effect (action : Action Thread Job) (thread : Thread) (job : Job)
  (room : queue.state.stopping = false -> 0 < maxSize -> queue.state.jobs.length < maxSize) :
  QueueEffect maxSize queue action (finish maxSize queue thread (.push job)) := by
 rw [finish]
 split
 · exact ⟨.keeps rfl (popped_of_returned rfl), inPop_of_put (by simp)⟩
 next running =>
  have room := room (Bool.eq_false_iff.mpr running)
  exact ⟨.enqueues job room rfl (popped_of_returned rfl), inPop_of_put (by simp)⟩

theorem finish_pop_effect (inside : InPop queue action thread) :
  QueueEffect maxSize queue action (finish maxSize queue thread .pop) := by
 rw [finish]
 split
 next empty => exact ⟨.ends thread empty empty (popped_of_pop rfl) inside (by simp), inPop_of_put (by simp)⟩
 next job rest waiting =>
  have awake : ¬ SleepsInPop (if 0 < maxSize then .notifying false else .outside : Point (Blocking Job)) := by
   split <;> simp
  refine ⟨.dequeues thread job waiting (popped_of_pop rfl) inside ?_, inPop_of_put fun sleeps => absurd sleeps awake⟩
  rwa [put_self]

theorem await_pop_effect (inside : InPop queue action thread) :
  QueueEffect maxSize queue action (await maxSize queue thread .pop) := by
 rw [await]
 split
 · exact finish_pop_effect inside
 · exact ⟨.keeps rfl (popped_of_returned rfl), inPop_of_put fun _ => inside⟩

section

variable (action : Action Thread Job) (thread : Thread)

theorem await_push_effect (job : Job) :
  QueueEffect maxSize queue action (await maxSize queue thread (.push job)) := by
 rw [await]
 split
 next able =>
  refine finish_push_effect action thread job fun running _ => ?_
  simpa [ready, running] using able
 · exact ⟨.keeps rfl (popped_of_returned rfl), inPop_of_put (by simp)⟩

theorem push_effect (action : Action Thread Job) (thread : Thread) (job : Option Job) :
  QueueEffect maxSize queue action (push maxSize queue thread job) := by
 have unchanged : QueueEffect maxSize queue action queue :=
  ⟨.keeps rfl (popped_of_returned rfl), fun _ sleeps => .inr sleeps⟩
 cases job with
 | none => exact unchanged
 | some job =>
  rw [push]
  split
  · exact unchanged
  split
  · exact await_push_effect action thread job
  next notFull =>
   refine finish_push_effect action thread job fun _ bounded => ?_
   simpa [Jobs.full, bounded] using notFull

theorem tryPush_effect (job : Option Job) :
  QueueEffect maxSize queue action (tryPush maxSize queue thread job) := by
 cases job with
 | none => exact ⟨.keeps rfl (popped_of_tryPush rfl), inPop_of_put (by simp)⟩
 | some job =>
  rw [tryPush]
  split
  · exact ⟨.keeps rfl (popped_of_tryPush rfl), inPop_of_put (by simp)⟩
  next accepted =>
   have room (bounded : 0 < maxSize) : queue.state.jobs.length < maxSize := by
    simp only [Jobs.full, bounded, decide_true, Bool.true_and, Bool.or_eq_true, decide_eq_true_eq, not_or,
     not_le] at accepted
    exact accepted.2
   exact ⟨.enqueues job room rfl (popped_of_tryPush rfl), inPop_of_put (by simp)⟩

end

variable [Fintype Thread]

theorem notifyOne_effect {chosen : Option Thread} (action : Action Thread Job)
  (notified : queue.notifyOne thread chosen = some next) : QueueEffect maxSize queue action next := by
 have state := notifyOne_state notified
 refine ⟨.keeps (by rw [state]) (popped_of_returned (by rw [state])), fun sleeper sleeps => ?_⟩
 obtain ⟨_, ⟨_, _, rfl⟩ | ⟨other, call, _, waiting, rfl⟩⟩ := notifyOne_eq_some notified
 · exact inPop_of_put (by simp) sleeper sleeps
 by_cases same : sleeper = other
 · subst same
   rw [put_self] at sleeps
   refine .inr (.of_wake ?_)
   rwa [waiting]
 · rw [put_of_ne _ _ _ same] at sleeps
   exact inPop_of_put (by simp) sleeper sleeps

omit [Fintype Thread] in
theorem notifyAll_effect (action : Action Thread Job)
  (notified : queue.notifyAll thread = some next) : QueueEffect maxSize queue action next := by
 unfold notifyAll at notified
 split at notified
 · cases notified
   refine ⟨.keeps rfl (popped_of_returned rfl), fun sleeper sleeps => ?_⟩
   have asleep : SleepsInPop ((queue.put queue.state thread .outside).points sleeper) := sleeps.of_wake
   exact inPop_of_put (by simp) sleeper asleep
 · cases notified

theorem step_effect (taken : step maxSize queue action = some next) : QueueEffect maxSize queue action next := by
 cases action with
 | push thread job =>
  obtain ⟨_, rfl⟩ := enter_eq_some taken
  exact push_effect _ thread job
 | tryPush thread job =>
  obtain ⟨_, rfl⟩ := enter_eq_some taken
  exact tryPush_effect _ thread job
 | pop thread =>
  obtain ⟨_, rfl⟩ := enter_eq_some taken
  exact await_pop_effect (.inl rfl)
 | stop thread =>
  obtain ⟨_, rfl⟩ := enter_eq_some taken
  exact ⟨.keeps rfl (popped_of_returned rfl), inPop_of_put (by simp)⟩
 | notifyOne thread chosen => exact notifyOne_effect _ taken
 | notifyAll thread => exact notifyAll_effect _ taken
 | resume thread =>
  obtain ⟨call, woken, rfl⟩ := resume_eq_some taken
  cases call with
  | push job => exact await_push_effect _ thread job
  | pop => exact await_pop_effect (.inr (.inr woken))

end

inductive WorkerPoint (Job : Type)
 | testing
 | popping
 | running (job : Job)
 | exited

namespace WorkerPoint

variable {Job : Type}

def isRunning : WorkerPoint Job -> Bool
 | .running _ => true
 | _ => false

def isPopping : WorkerPoint Job -> Bool
 | .popping => true
 | _ => false

def isExited : WorkerPoint Job -> Bool
 | .exited => true
 | _ => false

def held : WorkerPoint Job -> Multiset Job
 | .running job => {job}
 | _ => 0

def commits : WorkerPoint Job -> Nat
 | .popping => 1
 | _ => 0

variable {point : WorkerPoint Job}

@[simp] theorem isPopping_iff : point.isPopping = true ↔ point = .popping := by cases point <;> simp [isPopping]

@[simp] theorem isExited_iff : point.isExited = true ↔ point = .exited := by cases point <;> simp [isExited]

end WorkerPoint

inductive StopPoint
 | notCalled
 | flagged
 | released
 | returned
 deriving DecidableEq

/-- The last three fields are no part of the source: the jobs that have been put into the
queue, that have been taken from it, and that have been run to their end. -/
structure ThreadManager (Thread Job : Type) where
 queue : JobQueue Thread Job
 workers : Thread -> WorkerPoint Job
 stopPoint : StopPoint := .notCalled
 accepted : List Job := []
 taken : List Job := []
 executed : List Job := []

inductive PoolAction (Thread Job : Type)
 | queue (action : Action Thread Job)
 | test (worker : Thread)
 | finish (worker : Thread)
 | stop
 | join

namespace ThreadManager

section

variable {Thread Job : Type} [DecidableEq Thread]

def started (Job : Type) (threads : Finset Thread) : ThreadManager Thread Job where
 queue := JobQueue.create Thread Job
 workers thread := if thread ∈ threads then .testing else .exited

section

variable (manager : ThreadManager Thread Job)

def stopped : Bool := manager.stopPoint ≠ .notCalled

def setWorker (worker : Thread) (point : WorkerPoint Job) : ThreadManager Thread Job :=
 { manager with workers := Function.update manager.workers worker point }

def observe (queue : JobQueue Thread Job) : ThreadManager Thread Job :=
 let after := { manager with queue, accepted := manager.accepted ++ appended manager.queue queue }
 match popped manager.queue queue with
 | none => after
 | some (worker, some job) => { after.setWorker worker (.running job) with taken := manager.taken ++ [job] }
 | some (worker, none) => after.setWorker worker .exited

end

def afterCall (stopPoint : StopPoint) : Action Thread Job -> StopPoint
 | .stop _ => .released
 | _ => stopPoint

variable (maxSize : Nat) (threads : Finset Thread) (stopper : Thread)

def mayCall (manager : ThreadManager Thread Job) (thread : Thread) : Bool :=
 (thread ∉ threads || (manager.workers thread).isRunning) &&
   (thread ≠ stopper || manager.stopPoint = .notCalled || manager.stopPoint = .returned)

def allowed (manager : ThreadManager Thread Job) : Action Thread Job -> Bool
 | .push thread _ | .tryPush thread _ => manager.mayCall threads stopper thread
 | .pop thread => (manager.workers thread).isPopping
 | .stop thread => thread = stopper && manager.stopPoint = .flagged
 | .notifyOne .. | .notifyAll _ | .resume _ => true

variable [Fintype Thread]

def step (manager : ThreadManager Thread Job) : PoolAction Thread Job -> Option (ThreadManager Thread Job)
 | .queue action =>
  if manager.allowed threads stopper action then
   (Concurrent.step maxSize manager.queue action).map fun queue =>
     { manager.observe queue with stopPoint := afterCall manager.stopPoint action }
  else none
 | .test worker =>
  match manager.workers worker with
  | .testing => some (manager.setWorker worker (if manager.stopped then .exited else .popping))
  | _ => none
 | .finish worker =>
  match manager.workers worker, manager.queue.points worker with
  | .running job, .outside => some { manager.setWorker worker .testing with executed := manager.executed ++ [job] }
  | _, _ => none
 | .stop =>
  -- a worker that stopped the pool from inside a job would wait for itself
  match manager.stopPoint, manager.queue.points stopper with
  | .notCalled, .outside => if stopper ∈ threads then none else some { manager with stopPoint := .flagged }
  | _, _ => none
 | .join =>
  match manager.stopPoint, manager.queue.points stopper with
  | .released, .outside =>
   if ∀ worker ∈ threads, (manager.workers worker).isExited then some { manager with stopPoint := .returned }
   else none
  | _, _ => none

def machine : Machine (ThreadManager Thread Job) (PoolAction Thread Job) := ⟨step maxSize threads stopper⟩

def committed (manager : ThreadManager Thread Job) : Nat := ∑ worker, (manager.workers worker).commits

def inHands (manager : ThreadManager Thread Job) : Multiset Job := ∑ worker, (manager.workers worker).held

end

section

variable {Thread Job : Type} [DecidableEq Thread] {maxSize : Nat} {threads : Finset Thread}
 {stopper : Thread} {manager next : ThreadManager Thread Job}

inductive Change (maxSize : Nat) (threads : Finset Thread) (manager : ThreadManager Thread Job) :
  ThreadManager Thread Job -> Prop
 | keeps {queue : JobQueue Thread Job} {stopPoint : StopPoint}
  (jobs : queue.state.jobs = manager.queue.state.jobs)
  (sleepers : ∀ thread, SleepsInPop (queue.points thread) -> manager.workers thread = .popping)
  (later : manager.stopped = true -> stopPoint ≠ .notCalled)
  (joined : stopPoint = .returned ->
    manager.stopPoint = .returned \/ ∀ worker ∈ threads, manager.workers worker = .exited) :
  Change maxSize threads manager { manager with queue, stopPoint }
 | enqueues {queue : JobQueue Thread Job} (job : Job)
  (room : 0 < maxSize -> manager.queue.state.jobs.length < maxSize)
  (jobs : queue.state.jobs = manager.queue.state.jobs ++ [job])
  (sleepers : ∀ thread, SleepsInPop (queue.points thread) -> manager.workers thread = .popping) :
  Change maxSize threads manager { manager with queue, accepted := manager.accepted ++ [job] }
 | dequeues {queue : JobQueue Thread Job} {worker : Thread} {job : Job}
  (popping : manager.workers worker = .popping) (jobs : manager.queue.state.jobs = job :: queue.state.jobs)
  (sleepers : ∀ thread, SleepsInPop (queue.points thread) -> thread ≠ worker /\ manager.workers thread = .popping) :
  Change maxSize threads manager
   { manager.setWorker worker (.running job) with queue, taken := manager.taken ++ [job] }
 | ends {queue : JobQueue Thread Job} {worker : Thread} (popping : manager.workers worker = .popping)
  (before : manager.queue.state.jobs = []) (after : queue.state.jobs = [])
  (sleepers : ∀ thread, SleepsInPop (queue.points thread) -> thread ≠ worker /\ manager.workers thread = .popping) :
  Change maxSize threads manager { manager.setWorker worker .exited with queue }
 | tests {worker : Thread} (testing : manager.workers worker = .testing) :
  Change maxSize threads manager
   (manager.setWorker worker (if manager.stopped then .exited else .popping))
 | finishes {worker : Thread} {job : Job} (running : manager.workers worker = .running job) :
  Change maxSize threads manager
   { manager.setWorker worker .testing with executed := manager.executed ++ [job] }

def SleepersPop (manager : ThreadManager Thread Job) : Prop :=
 ∀ thread, SleepsInPop (manager.queue.points thread) -> manager.workers thread = .popping

variable {action : Action Thread Job} {queue : JobQueue Thread Job}

theorem popping_of_inPop {thread : Thread} (sleepers : SleepersPop manager)
  (allows : manager.allowed threads stopper action = true) (inside : InPop manager.queue action thread) :
  manager.workers thread = .popping := by
 obtain rfl | sleeps := inside
 · exact WorkerPoint.isPopping_iff.mp allows
 · exact sleepers thread sleeps

theorem observe_of_no_pop (nobody : popped manager.queue queue = none) :
  manager.observe queue = { manager with queue, accepted := manager.accepted ++ appended manager.queue queue } := by
 simp [observe, nobody]

theorem observe_of_pop {worker : Thread} {result : Option Job}
  (ended : popped manager.queue queue = some (worker, result))
  (shrunk : queue.state.jobs.length ≤ manager.queue.state.jobs.length) :
  manager.observe queue =
   match result with
   | some job => { manager.setWorker worker (.running job) with queue, taken := manager.taken ++ [job] }
   | none => { manager.setWorker worker .exited with queue } := by
 cases result <;> simp [observe, ended, appended, setWorker, drop_eq_nil_of_le shrunk]

omit [DecidableEq Thread] in
theorem afterCall_of_ne (other : ∀ thread, action ≠ .stop thread)
  (stopPoint : StopPoint) : afterCall stopPoint action = stopPoint := by
 cases action with
 | stop thread => exact absurd rfl (other thread)
 | push | tryPush | pop | notifyOne | notifyAll | resume => rfl

variable [Fintype Thread]

theorem change_of_queue (sleepers : SleepersPop manager) (allows : manager.allowed threads stopper action = true)
  (taken : Concurrent.step maxSize manager.queue action = some queue) :
  Change maxSize threads manager { manager.observe queue with stopPoint := afterCall manager.stopPoint action } := by
 obtain ⟨change, asleep⟩ := step_effect taken
 have popping (thread : Thread) (inside : InPop manager.queue action thread) : manager.workers thread = .popping :=
  popping_of_inPop sleepers allows inside
 by_cases stops : ∃ thread, action = .stop thread
 · obtain ⟨thread, rfl⟩ := stops
   obtain ⟨_, rfl⟩ := enter_eq_some taken
   have unchanged : popped manager.queue (stop manager.queue thread) = none := popped_of_returned rfl
   have nothing : appended manager.queue (stop manager.queue thread) = [] := by simp [appended, stop, put]
   rw [observe_of_no_pop unchanged, nothing, append_nil]
   refine .keeps rfl (fun other sleeps => popping other (asleep other sleeps))
    (fun _ notCalled => ?_) fun returned => ?_
   · cases notCalled
   · cases returned
 rw [afterCall_of_ne (not_exists.mp stops)]
 have awake {worker : Thread} (up : ¬ SleepsInPop (queue.points worker)) (other : Thread)
   (sleeps : SleepsInPop (queue.points other)) : other ≠ worker /\ manager.workers other = .popping := by
  refine ⟨?_, popping other (asleep other sleeps)⟩
  rintro rfl
  exact up sleeps
 cases change with
 | keeps jobs nobody =>
  rw [observe_of_no_pop nobody, appended, jobs, drop_length, append_nil]
  refine .keeps jobs (fun other sleeps => popping other (asleep other sleeps)) ?_ .inl
  simp [stopped]
 | enqueues job room jobs nobody =>
  rw [observe_of_no_pop nobody, appended, jobs, drop_left]
  exact .enqueues job room jobs fun other sleeps => popping other (asleep other sleeps)
 | dequeues worker job jobs result inside up =>
  rw [observe_of_pop result (by simp [jobs])]
  exact .dequeues (popping worker inside) jobs (awake up)
 | ends worker before after result inside up =>
  rw [observe_of_pop result (by simp [after])]
  exact .ends (popping worker inside) before after (awake up)

theorem step_change {action : PoolAction Thread Job} (sleepers : SleepersPop manager)
  (taken : (machine maxSize threads stopper).step manager action = some next) :
  Change maxSize threads manager next := by
 cases action with
 | queue action =>
  obtain ⟨allows, taken⟩ := ite_none_right_eq_some.mp taken
  obtain ⟨queue, stepped, rfl⟩ := map_eq_some_iff.mp taken
  exact change_of_queue sleepers allows stepped
 | test worker =>
  simp only [machine, step] at taken
  split at taken
  next testing =>
   cases taken
   exact .tests testing
  · cases taken
 | finish worker =>
  simp only [machine, step] at taken
  split at taken
  next job running _ =>
   cases taken
   exact .finishes running
  · cases taken
 | stop =>
  simp only [machine, step] at taken
  split at taken
  · obtain ⟨_, taken⟩ := ite_none_left_eq_some.mp taken
    cases taken
    exact .keeps rfl sleepers nofun nofun
  · cases taken
 | join =>
  simp only [machine, step] at taken
  split at taken
  · obtain ⟨exited, taken⟩ := ite_none_right_eq_some.mp taken
    cases taken
    exact .keeps rfl sleepers nofun fun _ => .inr fun worker member => WorkerPoint.isExited_iff.mp
     (exited worker member)
  · cases taken

end

section

variable {Thread Job : Type} [DecidableEq Thread] [Fintype Thread] {maxSize : Nat}
 {threads : Finset Thread} {stopper : Thread} {manager next atStop : ThreadManager Thread Job}

theorem sum_setWorker {Amount : Type} [AddCommMonoid Amount] (amount : WorkerPoint Job -> Amount)
  (manager : ThreadManager Thread Job) (worker : Thread) (point : WorkerPoint Job) :
  (∑ thread, amount ((manager.setWorker worker point).workers thread)) + amount (manager.workers worker) =
    (∑ thread, amount (manager.workers thread)) + amount point := by
 have updated : (fun thread => amount ((manager.setWorker worker point).workers thread)) =
   Function.update (fun thread => amount (manager.workers thread)) worker (amount point) := by
  funext thread
  by_cases same : thread = worker
  · subst same
    simp [setWorker]
  · simp [setWorker, Function.update_of_ne same]
 rw [updated, sum_update_of_mem (mem_univ worker),
  <- Finset.sum_sdiff (Finset.subset_univ {worker}), Finset.sum_singleton, add_assoc, add_comm]

section

variable (manager : ThreadManager Thread Job) (worker : Thread) (point : WorkerPoint Job)

theorem inHands_setWorker :
  (manager.setWorker worker point).inHands + (manager.workers worker).held = manager.inHands + point.held :=
 sum_setWorker WorkerPoint.held manager worker point

theorem committed_setWorker :
  (manager.setWorker worker point).committed + (manager.workers worker).commits = manager.committed + point.commits :=
 sum_setWorker WorkerPoint.commits manager worker point

end

structure Consistent (maxSize : Nat) (threads : Finset Thread) (manager : ThreadManager Thread Job) : Prop where
 fifo : manager.taken ++ manager.queue.state.jobs = manager.accepted
 bounded : 0 < maxSize -> manager.queue.state.jobs.length ≤ maxSize
 held : (manager.taken : Multiset Job) = manager.executed + manager.inHands
 sleepers : SleepersPop manager
 others : ∀ thread, thread ∉ threads -> manager.workers thread = .exited
 joined : manager.stopPoint = .returned -> ∀ thread, manager.workers thread = .exited

theorem Consistent.started : Consistent maxSize threads (ThreadManager.started Job threads) where
 fifo := rfl
 bounded _ := zero_le _
 held := by
  have idle (thread : Thread) : ((ThreadManager.started Job threads).workers thread).held = 0 := by
   simp only [ThreadManager.started]
   split <;> rfl
  rw [inHands, sum_eq_zero fun thread _ => idle thread]
  rfl
 sleepers thread sleeps := absurd sleeps not_sleepsInPop_outside
 others thread outside := if_neg outside
 joined := nofun

variable {worker : Thread} {before after : List (PoolAction Thread Job)} {final : ThreadManager Thread Job}

omit [Fintype Thread] in
theorem sleepersPop_setWorker {queue : JobQueue Thread Job} (point : WorkerPoint Job)
  (sleepers : ∀ thread, SleepsInPop (queue.points thread) -> thread ≠ worker /\ manager.workers thread = .popping)
  (thread : Thread) (sleeps : SleepsInPop (queue.points thread)) :
  (manager.setWorker worker point).workers thread = .popping := by
 obtain ⟨different, popping⟩ := sleepers thread sleeps
 simpa [setWorker, Function.update_of_ne different] using popping

theorem Consistent.others_setWorker (consistent : Consistent maxSize threads manager)
  (inside : manager.workers worker ≠ .exited) (point : WorkerPoint Job) (thread : Thread)
  (outside : thread ∉ threads) : (manager.setWorker worker point).workers thread = .exited := by
 have different : thread ≠ worker := by
  rintro rfl
  exact inside (consistent.others thread outside)
 simpa [setWorker, Function.update_of_ne different] using consistent.others thread outside

theorem Consistent.joined_setWorker (consistent : Consistent maxSize threads manager)
  (inside : manager.workers worker ≠ .exited) (point : WorkerPoint Job)
  (returned : manager.stopPoint = .returned) (thread : Thread) :
  (manager.setWorker worker point).workers thread = .exited :=
 absurd (consistent.joined returned worker) inside

omit [DecidableEq Thread] in
theorem Consistent.awake (consistent : Consistent maxSize threads manager)
  (elsewhere : manager.workers worker ≠ .popping) (thread : Thread)
  (sleeps : SleepsInPop (manager.queue.points thread)) : thread ≠ worker /\ manager.workers thread = .popping := by
 have popping := consistent.sleepers thread sleeps
 refine ⟨?_, popping⟩
 rintro rfl
 exact elsewhere popping

theorem Consistent.change (consistent : Consistent maxSize threads manager)
  (change : Change maxSize threads manager next) : Consistent maxSize threads next := by
 cases change with
 | keeps jobs sleepers later joined =>
  refine ⟨by simpa [jobs] using consistent.fifo, by simpa [jobs] using consistent.bounded, consistent.held, sleepers,
   consistent.others, fun returned thread => ?_⟩
  obtain earlier | exited := joined returned
  · exact consistent.joined earlier thread
  · by_cases member : thread ∈ threads
    · exact exited thread member
    · exact consistent.others thread member
 | enqueues job room jobs sleepers =>
  refine ⟨?_, fun bounded => ?_, consistent.held, sleepers, consistent.others, consistent.joined⟩
  · simp [jobs, <- consistent.fifo]
  · have room := room bounded
    simp only [jobs, length_append, length_singleton]
    omega
 | @dequeues queue worker job popping jobs sleepers =>
  have inside : manager.workers worker ≠ .exited := by simp [popping]
  refine ⟨?_, fun bounded => ?_, ?_, sleepersPop_setWorker _ sleepers, consistent.others_setWorker inside _,
   consistent.joined_setWorker inside _⟩
  · simp [<- consistent.fifo, jobs, setWorker]
  · have room := consistent.bounded bounded
    rw [jobs, length_cons] at room
    exact le_of_succ_le room
  · change ((manager.taken ++ [job] : List Job) : Multiset Job) =
     manager.executed + (manager.setWorker worker (.running job)).inHands
    have hands := inHands_setWorker manager worker (.running job)
    simp only [popping, WorkerPoint.held, add_zero] at hands
    rw [hands, <- Multiset.coe_add, consistent.held, add_assoc, Multiset.coe_singleton]
 | @ends queue worker popping before after sleepers =>
  have inside : manager.workers worker ≠ .exited := by simp [popping]
  refine ⟨?_, fun _ => by simp [after], ?_, sleepersPop_setWorker _ sleepers, consistent.others_setWorker inside _,
   consistent.joined_setWorker inside _⟩
  · simpa [setWorker, before, after] using consistent.fifo
  · change (manager.taken : Multiset Job) = manager.executed + (manager.setWorker worker .exited).inHands
    have hands := inHands_setWorker manager worker .exited
    simp only [popping, WorkerPoint.held, add_zero] at hands
    rw [hands, consistent.held]
 | @tests worker testing =>
  have inside : manager.workers worker ≠ .exited := by simp [testing]
  refine ⟨consistent.fifo, consistent.bounded, ?_,
   sleepersPop_setWorker _ (consistent.awake (by simp [testing])), consistent.others_setWorker inside _,
   consistent.joined_setWorker inside _⟩
  have nothing : (if manager.stopped then .exited else .popping : WorkerPoint Job).held = 0 := by split <;> rfl
  have hands := inHands_setWorker manager worker (if manager.stopped then .exited else .popping)
  rw [testing, nothing] at hands
  simp only [WorkerPoint.held, add_zero] at hands
  rw [hands]
  exact consistent.held
 | @finishes worker job running =>
  have inside : manager.workers worker ≠ .exited := by simp [running]
  refine ⟨consistent.fifo, consistent.bounded, ?_,
   sleepersPop_setWorker _ (consistent.awake (by simp [running])), consistent.others_setWorker inside _,
   consistent.joined_setWorker inside _⟩
  have hands := inHands_setWorker manager worker .testing
  simp only [running, WorkerPoint.held, add_zero] at hands
  change (manager.taken : Multiset Job) =
   ((manager.executed ++ [job] : List Job) : Multiset Job) + (manager.setWorker worker .testing).inHands
  rw [consistent.held, <- hands, <- Multiset.coe_add, add_assoc, Multiset.coe_singleton,
   add_comm (Singleton.singleton job)]

theorem Consistent.step {action : PoolAction Thread Job} (consistent : Consistent maxSize threads manager)
  (taken : (machine maxSize threads stopper).step manager action = some next) : Consistent maxSize threads next :=
 consistent.change (step_change consistent.sleepers taken)

theorem Consistent.run {trace : List (PoolAction Thread Job)} (consistent : Consistent maxSize threads manager)
  (ran : (machine maxSize threads stopper).run manager trace = some next) : Consistent maxSize threads next :=
 (machine maxSize threads stopper).run_keeps (fun _ _ _ consistent taken => consistent.step taken) consistent ran

structure Draining (atStop manager : ThreadManager Thread Job) : Prop where
 stopped : manager.stopped = true
 earlier : atStop.accepted <+: manager.accepted
 limited : manager.taken.length + manager.committed ≤ atStop.taken.length + atStop.committed
 covered : atStop.queue.state.jobs.length ≤ atStop.committed ->
  atStop.accepted.length ≤ manager.taken.length + manager.committed

theorem Draining.change (draining : Draining atStop manager) (consistent : Consistent maxSize threads manager)
  (change : Change maxSize threads manager next) : Draining atStop next := by
 obtain ⟨stopped, earlier, limited, covered⟩ := draining
 cases change with
 | keeps jobs sleepers later joined =>
  exact ⟨by simpa [ThreadManager.stopped] using later stopped, earlier, limited, covered⟩
 | enqueues job room jobs sleepers => exact ⟨stopped, earlier.trans (prefix_append ..), limited, covered⟩
 | @dequeues queue worker job popping jobs sleepers =>
  have count := committed_setWorker manager worker (.running job)
  simp only [popping, WorkerPoint.commits] at count
  have same : (manager.taken ++ [job]).length + (manager.setWorker worker (.running job)).committed =
    manager.taken.length + manager.committed := by
   rw [length_append, length_singleton]
   omega
  exact ⟨stopped, earlier, same.trans_le limited, fun enough => (covered enough).trans_eq same.symm⟩
 | @ends queue worker popping before after sleepers =>
  have count := committed_setWorker manager worker .exited
  simp only [popping, WorkerPoint.commits] at count
  have fewer : (manager.setWorker worker .exited).committed ≤ manager.committed := by omega
  refine ⟨stopped, earlier, (Nat.add_le_add_left fewer _).trans limited, fun _ => ?_⟩
  -- the queue is empty, so everything accepted so far has been taken
  have all : manager.taken = manager.accepted := by simpa [before] using consistent.fifo
  exact (all ▸ earlier.length_le).trans (Nat.le_add_right ..)
 | @tests worker testing =>
  have count := committed_setWorker manager worker .exited
  simp only [testing, WorkerPoint.commits, add_zero] at count
  rw [if_pos stopped]
  refine ⟨stopped, earlier, ?_, fun enough => ?_⟩
  · rw [count]
    exact limited
  · rw [count]
    exact covered enough
 | @finishes worker job running =>
  have count := committed_setWorker manager worker .testing
  simp only [running, WorkerPoint.commits, add_zero] at count
  exact ⟨stopped, earlier, count.symm ▸ limited, fun enough => count.symm ▸ covered enough⟩

theorem Draining.begin (consistent : Consistent maxSize threads atStop)
  (taken : (machine maxSize threads stopper).step atStop .stop = some manager) : Draining atStop manager := by
 simp only [machine, step] at taken
 split at taken
 · obtain ⟨_, taken⟩ := ite_none_left_eq_some.mp taken
   cases taken
   refine ⟨rfl, prefix_rfl, le_rfl, fun enough => ?_⟩
   rw [<- consistent.fifo, length_append]
   exact Nat.add_le_add_left enough _
 · cases taken

omit [DecidableEq Thread] in
theorem Consistent.all_returned (consistent : Consistent maxSize threads manager)
  (returned : manager.stopPoint = .returned) : manager.committed = 0 /\ manager.inHands = 0 := by
 have exited := consistent.joined returned
 constructor
 · exact sum_eq_zero fun worker _ => by rw [exited worker]; rfl
 · exact sum_eq_zero fun worker _ => by rw [exited worker]; rfl

theorem run_from_stop
  (ran : (machine maxSize threads stopper).run (started Job threads) (before ++ .stop :: after) = some final)
  (reached : (machine maxSize threads stopper).run (started Job threads) before = some atStop) :
  Consistent maxSize threads atStop /\ Draining atStop final := by
 have consistent := Consistent.started.run reached
 rw [Machine.run_append, reached, bind_some, Machine.run_cons_some] at ran
 obtain ⟨flagged, set, continued⟩ := ran
 have kept (manager : ThreadManager Thread Job) (action : PoolAction Thread Job) (next : ThreadManager Thread Job)
   (holds : Consistent maxSize threads manager /\ Draining atStop manager)
   (taken : (machine maxSize threads stopper).step manager action = some next) :
   Consistent maxSize threads next /\ Draining atStop next :=
  ⟨holds.1.step taken, holds.2.change holds.1 (step_change holds.1.sleepers taken)⟩
 exact ⟨consistent, ((machine maxSize threads stopper).run_keeps kept
  ⟨consistent.step set, .begin consistent set⟩ continued).2⟩

/-- Jobs leave the queue in order. If no more jobs are queued when `Stop` begins than workers are on their
way to one, every job accepted until then has been executed when `Stop` returns. -/
theorem stop_executes_accepted_jobs (maxSize : Nat) (threads : Finset Thread) (stopper : Thread)
  (trace : List (PoolAction Thread Job)) (final : ThreadManager Thread Job)
  (ran : (machine maxSize threads stopper).run (started Job threads) trace = some final) :
  final.taken ++ final.queue.state.jobs = final.accepted /\
   (0 < maxSize -> final.queue.state.jobs.length ≤ maxSize) /\
   ∀ before after atStop, trace = before ++ .stop :: after ->
    (machine maxSize threads stopper).run (started Job threads) before = some atStop ->
    atStop.queue.state.jobs.length ≤ atStop.committed -> final.stopPoint = .returned ->
    atStop.accepted <+: final.taken /\ final.executed.Perm final.taken := by
 have consistent : Consistent maxSize threads final := Consistent.started.run ran
 refine ⟨consistent.fifo, consistent.bounded, ?_⟩
 rintro before after atStop rfl reached enough returned
 obtain ⟨_, draining⟩ := run_from_stop ran reached
 obtain ⟨nobody, nothing⟩ := consistent.all_returned returned
 constructor
 · have taken : final.taken <+: final.accepted := ⟨final.queue.state.jobs, consistent.fifo⟩
   refine prefix_of_prefix_length_le draining.earlier taken ?_
   simpa [nobody] using draining.covered enough
 · have done := consistent.held
   rw [nothing, add_zero, Multiset.coe_eq_coe] at done
   exact done.symm

/-- With more jobs than that, some accepted job is never taken, whatever happens after `Stop`. -/
theorem stop_leaves_the_rest
  (ran : (machine maxSize threads stopper).run (started Job threads) (before ++ .stop :: after) = some final)
  (reached : (machine maxSize threads stopper).run (started Job threads) before = some atStop)
  (few : atStop.committed < atStop.queue.state.jobs.length) : final.taken.length < atStop.accepted.length := by
 obtain ⟨consistent, draining⟩ := run_from_stop ran reached
 have limited := draining.limited
 rw [<- consistent.fifo, length_append]
 omega

end

-- The worker is `false`, the thread that pushes and stops is `true`.

def lastJob : List (PoolAction Bool Nat) :=
 [.test false, .queue (.pop false), .queue (.push true (some 7)), .queue (.notifyOne true (some false)), .stop,
   .queue (.stop true), .queue (.notifyAll true), .queue (.resume false), .queue (.notifyOne false none), .finish false, .test false, .join]

theorem waiting_worker_takes_the_last_job :
  ∃ final, (machine 4 {false} true).run (started Nat {false}) lastJob = some final /\
   final.stopPoint = .returned /\ [7] <+: final.taken /\ final.executed.Perm final.taken := by
 have met : ∃ final, (machine 4 {false} true).run (started Nat {false}) lastJob = some final /\
  final.stopPoint = .returned :=
  (machine 4 {false} true).exists_final (by decide +kernel)
 have reached : ∃ atStop, (machine 4 {false} true).run (started Nat {false}) (lastJob.take 4) = some atStop /\
   atStop.accepted = [7] /\ atStop.queue.state.jobs.length ≤ atStop.committed :=
  (machine 4 {false} true).exists_final (by decide +kernel)
 obtain ⟨final, ran, returned⟩ := met
 obtain ⟨atStop, reached, accepted, enough⟩ := reached
 have spec := stop_executes_accepted_jobs 4 {false} true lastJob final ran
 have done := spec.2.2 (lastJob.take 4) (lastJob.drop 5) atStop rfl reached enough returned
 rw [accepted] at done
 exact ⟨final, ran, returned, done⟩

def backlog : List (PoolAction Bool Nat) :=
 [.test false, .queue (.push true (some 7)), .queue (.notifyOne true none), .queue (.push true (some 8)),
   .queue (.notifyOne true none), .queue (.pop false), .queue (.notifyOne false none), .stop,
   .queue (.stop true), .queue (.notifyAll true), .finish false, .test false, .join]

theorem stop_abandons_the_backlog :
  ∃ final, (machine 4 {false} true).run (started Nat {false}) backlog = some final /\
   final.stopPoint = .returned /\ final.accepted = [7, 8] /\ final.executed = [7] /\
   final.queue.state.jobs = [8] :=
 (machine 4 {false} true).exists_final (by decide +kernel)

theorem backlog_is_left :
  let pool := machine 4 {false} true
  let atStop := (pool.run (started Nat {false}) (backlog.take 7)).get (by decide +kernel)
  let final := (pool.run (started Nat {false}) (backlog.take 7 ++ .stop :: backlog.drop 8)).get (by decide +kernel)
  final.taken.length < atStop.accepted.length :=
 stop_leaves_the_rest (Option.some_get _).symm (Option.some_get _).symm (by decide +kernel)

end ThreadManager

end Dynaxis.Concurrent
