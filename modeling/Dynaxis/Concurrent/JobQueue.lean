import Dynaxis.Shared.Machine
import Dynaxis.Shared.Monitor

namespace Dynaxis.Concurrent

open Shared Monitor

inductive Blocking (Job : Type)
 | push (job : Job)
 | pop
 deriving DecidableEq

inductive Returned (Job : Type)
 | tryPush (accepted : Bool)
 | pop (job : Option Job)

structure Jobs (Thread Job : Type) where
 jobs : List Job := []
 stopping : Bool := false
 returned : List (Thread × Returned Job) := []

abbrev JobQueue (Thread Job : Type) := Monitor Thread (Jobs Thread Job) (Blocking Job)

inductive Action (Thread Job : Type)
 | push (thread : Thread) (job : Option Job)
 | tryPush (thread : Thread) (job : Option Job)
 | pop (thread : Thread)
 | stop (thread : Thread)
 | notifyOne (thread : Thread) (chosen : Option Thread)
 | notifyAll (thread : Thread)
 | resume (thread : Thread)
 deriving DecidableEq

section

variable {Thread Job : Type} [DecidableEq Thread] (maxSize : Nat)

section

variable (state : Jobs Thread Job)

def Jobs.full : Bool := 0 < maxSize && maxSize ≤ state.jobs.length

def Jobs.record (thread : Thread) (value : Returned Job) : Jobs Thread Job :=
 { state with returned := state.returned ++ [(thread, value)] }

def ready : Blocking Job -> Bool
 | .push _ => state.stopping || state.jobs.length < maxSize
 | .pop => !state.jobs.isEmpty || state.stopping

end

section

variable (queue : JobQueue Thread Job) (thread : Thread)

def finish : Blocking Job -> JobQueue Thread Job
 | .push job =>
  if queue.state.stopping then queue.put queue.state thread .outside
  else queue.put { queue.state with jobs := queue.state.jobs ++ [job] } thread (.notifying false)
 | .pop =>
  match queue.state.jobs with
  | [] => queue.put (queue.state.record thread (.pop none)) thread .outside
  | job :: rest =>
   queue.put ({ queue.state with jobs := rest }.record thread (.pop (some job))) thread
    (if 0 < maxSize then .notifying false else .outside)

def await (call : Blocking Job) : JobQueue Thread Job :=
 -- the predicate is tested before the first sleep and again after each wakeup
 if ready maxSize queue.state call then finish maxSize queue thread call
 else queue.put queue.state thread (.waiting call)

def push (queue : JobQueue Thread Job) (thread : Thread) : Option Job -> JobQueue Thread Job
 | none => queue
 | some job =>
  if queue.state.stopping then queue
  else if queue.state.full maxSize then await maxSize queue thread (.push job)
  else finish maxSize queue thread (.push job)

def tryPush (queue : JobQueue Thread Job) (thread : Thread) : Option Job -> JobQueue Thread Job
 | none => queue.put (queue.state.record thread (.tryPush false)) thread .outside
 | some job =>
  if queue.state.stopping || queue.state.full maxSize then
   queue.put (queue.state.record thread (.tryPush false)) thread .outside
  else
   queue.put ({ queue.state with jobs := queue.state.jobs ++ [job] }.record thread (.tryPush true)) thread
    (.notifying false)

def pop (queue : JobQueue Thread Job) (thread : Thread) : JobQueue Thread Job :=
 await maxSize queue thread .pop

def stop (queue : JobQueue Thread Job) (thread : Thread) : JobQueue Thread Job :=
 queue.put { queue.state with stopping := true } thread (.notifying true)

def enter (next : JobQueue Thread Job) : Option (JobQueue Thread Job) :=
 match queue.points thread with
 | .outside => some next
 | _ => none

def resume : Option (JobQueue Thread Job) :=
 match queue.points thread with
 | .woken call => some (await maxSize queue thread call)
 | _ => none

end

variable [Fintype Thread]

def step (queue : JobQueue Thread Job) : Action Thread Job -> Option (JobQueue Thread Job)
 | .push thread job => enter queue thread (push maxSize queue thread job)
 | .tryPush thread job => enter queue thread (tryPush maxSize queue thread job)
 | .pop thread => enter queue thread (pop maxSize queue thread)
 | .stop thread => enter queue thread (stop queue thread)
 | .notifyOne thread chosen => queue.notifyOne thread chosen
 | .notifyAll thread => queue.notifyAll thread
 | .resume thread => resume maxSize queue thread

def machine : Machine (JobQueue Thread Job) (Action Thread Job) := ⟨step maxSize⟩

end

def JobQueue.create (Thread Job : Type) : JobQueue Thread Job where
 state := {}
 points _ := .outside

def WakesUseful {Thread Job : Type} (maxSize : Nat) (queue : JobQueue Thread Job) : Action Thread Job -> Prop
 | .notifyOne _ (some chosen) => queue.WakesReady (ready maxSize) chosen
 | _ => True

instance {Thread Job : Type} [Fintype Thread] [DecidableEq Thread] (maxSize : Nat) (queue : JobQueue Thread Job) :
  (action : Action Thread Job) -> Decidable (WakesUseful maxSize queue action)
 | .notifyOne _ (some chosen) => inferInstanceAs (Decidable (queue.WakesReady (ready maxSize) chosen))
 | .notifyOne _ none | .push .. | .tryPush .. | .pop _ | .stop _ | .notifyAll _ | .resume _ => .isTrue trivial

section

variable {Thread Job : Type} [DecidableEq Thread] {maxSize : Nat} {queue next : JobQueue Thread Job}

inductive Moves (maxSize : Nat) (queue : JobQueue Thread Job) (thread : Thread) : JobQueue Thread Job -> Prop
 | stays : Moves maxSize queue thread queue
 | returns {state : Jobs Thread Job} (same : ∀ call, ready maxSize state call = ready maxSize queue.state call)
  (flag : state.stopping = queue.state.stopping)
  (idle : queue.points thread = .outside \/ queue.state.stopping = true) :
  Moves maxSize queue thread (queue.put state thread .outside)
 | changes {state : Jobs Thread Job} (flag : state.stopping = queue.state.stopping) :
  Moves maxSize queue thread (queue.put state thread (.notifying false))
 | stops {state : Jobs Thread Job} : Moves maxSize queue thread (queue.put state thread (.notifying true))
 | sleeps {call : Blocking Job} (blocked : ready maxSize queue.state call = false)
  (origin : queue.points thread = .outside \/ queue.points thread = .woken call) :
  Moves maxSize queue thread (queue.put queue.state thread (.waiting call))

omit [DecidableEq Thread] in
theorem ready_record (state : Jobs Thread Job) (thread : Thread) (value : Returned Job) (call : Blocking Job) :
  ready maxSize (state.record thread value) call = ready maxSize state call := by
 cases call <;> rfl

theorem finish_push_moves (thread : Thread) (job : Job) :
  Moves maxSize queue thread (finish maxSize queue thread (.push job)) := by
 rw [finish]
 split
 next stopping => exact .returns (fun _ => rfl) rfl (.inr stopping)
 · exact .changes rfl

theorem finish_pop_moves (bounded : 0 < maxSize) (thread : Thread) (able : ready maxSize queue.state .pop = true) :
  Moves maxSize queue thread (finish maxSize queue thread .pop) := by
 rw [finish]
 split
 next empty =>
  have stopping : queue.state.stopping = true := by simpa [ready, empty] using able
  exact .returns (ready_record _ _ _) rfl (.inr stopping)
 · rw [if_pos bounded]
   exact .changes rfl

variable {thread : Thread}

theorem await_moves (bounded : 0 < maxSize) {call : Blocking Job}
  (origin : queue.points thread = .outside \/ queue.points thread = .woken call) :
  Moves maxSize queue thread (await maxSize queue thread call) := by
 rw [await]
 split
 next able =>
  cases call with
  | push job => exact finish_push_moves thread job
  | pop => exact finish_pop_moves bounded thread able
 next blocked => exact .sleeps (Bool.eq_false_iff.mpr blocked) origin

theorem push_moves (bounded : 0 < maxSize) (outside : queue.points thread = .outside)
  (job : Option Job) : Moves maxSize queue thread (push maxSize queue thread job) := by
 cases job with
 | none => exact .stays
 | some job =>
  rw [push]
  split
  · exact .stays
  split
  · exact await_moves bounded (.inl outside)
  · exact finish_push_moves thread job

theorem tryPush_moves (outside : queue.points thread = .outside) (job : Option Job) :
  Moves maxSize queue thread (tryPush maxSize queue thread job) := by
 have refused : Moves maxSize queue thread (queue.put (queue.state.record thread (.tryPush false)) thread .outside) :=
  .returns (ready_record _ _ _) rfl (.inl outside)
 cases job with
 | none => exact refused
 | some job =>
  rw [tryPush]
  split
  · exact refused
  · exact .changes rfl

def Active (queue : JobQueue Thread Job) (thread : Thread) : Prop :=
 queue.points thread = .outside \/ ∃ call, queue.points thread = .woken call

omit [DecidableEq Thread] in
theorem enter_eq_some {after : JobQueue Thread Job}
  (entered : enter queue thread after = some next) : queue.points thread = .outside /\ after = next := by
 unfold enter at entered
 split at entered
 next outside => exact ⟨outside, Option.some.inj entered⟩
 · cases entered

theorem resume_eq_some (resumed : resume maxSize queue thread = some next) :
  ∃ call, queue.points thread = .woken call /\ await maxSize queue thread call = next := by
 unfold resume at resumed
 split at resumed
 next call woken => exact ⟨call, woken, Option.some.inj resumed⟩
 · cases resumed

variable [Fintype Thread]

theorem step_cases (bounded : 0 < maxSize) {action : Action Thread Job}
  (taken : step maxSize queue action = some next) :
  (∃ thread, Active queue thread /\ Moves maxSize queue thread next) \/
    (∃ thread chosen, action = .notifyOne thread chosen /\ queue.notifyOne thread chosen = some next) \/
    ∃ thread, queue.notifyAll thread = some next := by
 cases action with
 | push thread job =>
  obtain ⟨outside, rfl⟩ := enter_eq_some taken
  exact .inl ⟨thread, .inl outside, push_moves bounded outside job⟩
 | tryPush thread job =>
  obtain ⟨outside, rfl⟩ := enter_eq_some taken
  exact .inl ⟨thread, .inl outside, tryPush_moves outside job⟩
 | pop thread =>
  obtain ⟨outside, rfl⟩ := enter_eq_some taken
  exact .inl ⟨thread, .inl outside, await_moves bounded (.inl outside)⟩
 | stop thread =>
  obtain ⟨outside, rfl⟩ := enter_eq_some taken
  exact .inl ⟨thread, .inl outside, .stops⟩
 | notifyOne thread chosen => exact .inr (.inl ⟨thread, chosen, rfl, taken⟩)
 | notifyAll thread => exact .inr (.inr ⟨thread, taken⟩)
 | resume thread =>
  obtain ⟨call, woken, rfl⟩ := resume_eq_some taken
  exact .inl ⟨thread, .inr ⟨call, woken⟩, await_moves bounded (.inr woken)⟩

end

section

variable {Thread Job : Type} [DecidableEq Thread] {maxSize : Nat} {queue next : JobQueue Thread Job}

structure Sound (maxSize : Nat) (queue : JobQueue Thread Job) : Prop where
 attended : queue.state.stopping = false -> queue.NoLostWakeup (ready maxSize)
 released : queue.state.stopping = true -> queue.Released

variable {thread : Thread}

omit [DecidableEq Thread] in
theorem Active.single (active : Active queue thread) : queue.points thread ≠ .notifying true := by
 intro notifies
 simp [Active, notifies] at active

omit [DecidableEq Thread] in
theorem ready_of_stopping {state : Jobs Thread Job} (stopping : state.stopping = true) (call : Blocking Job) :
  ready maxSize state call = true := by
 cases call <;> simp [ready, stopping]

theorem Sound.moves (sound : Sound maxSize queue) (active : Active queue thread)
  (moves : Moves maxSize queue thread next) : Sound maxSize next := by
 cases moves with
 | stays => exact sound
 | returns same flag idle =>
  refine ⟨fun running => ?_, fun stopping => (sound.released (flag ▸ stopping)).put rfl active.single⟩
  have running : queue.state.stopping = false := flag ▸ running
  have outside : queue.points thread = .outside := idle.resolve_right (by simp [running])
  exact (sound.attended running).congr (Function.update_eq_self_iff.mpr outside.symm) same
 | changes flag =>
  exact ⟨fun _ => noLostWakeup_put_notifying _ _ _,
   fun stopping => (sound.released (flag ▸ stopping)).put rfl active.single⟩
 | stops => exact ⟨fun _ => noLostWakeup_put_notifying _ _ _, fun _ _ _ => ⟨thread, put_self ..⟩⟩
 | sleeps blocked origin =>
  refine ⟨fun running => (sound.attended running).put_waiting blocked origin, fun stopping => ?_⟩
  have able := (ready_of_stopping stopping _).symm.trans blocked
  cases able

omit [DecidableEq Thread] in
theorem Sound.of_no_waiter (nobody : ∀ thread, (queue.points thread).isWaiting = false) : Sound maxSize queue :=
 ⟨fun _ => noLostWakeup_of_no_waiter nobody, fun _ thread waits => by simp [nobody] at waits⟩

variable [Fintype Thread]

theorem Sound.step (bounded : 0 < maxSize) {action : Action Thread Job} (sound : Sound maxSize queue)
  (useful : WakesUseful maxSize queue action) (taken : (machine maxSize).step queue action = some next) :
  Sound maxSize next := by
 obtain ⟨thread, active, moves⟩ | ⟨thread, chosen, rfl, notified⟩ | ⟨thread, notified⟩ :=
  step_cases bounded taken
 · exact sound.moves active moves
 · have state := notifyOne_state notified
   refine ⟨fun _ => noLostWakeup_notifyOne ?_ notified,
    fun stopping => (sound.released (state ▸ stopping)).notifyOne notified⟩
   rintro other ⟨⟩
   exact useful
 · exact .of_no_waiter (notifyAll_eq_some notified)

/-- When `notify_one` wakes a thread that can go on whenever there is one: with all threads at rest no
consumer waits while there is a job, and no producer while there is room. -/
theorem no_wakeup_is_lost (maxSize : Nat) (bounded : 0 < maxSize) (trace : List (Action Thread Job))
  (useful : (machine maxSize).Guarded (WakesUseful maxSize) (JobQueue.create Thread Job) trace)
  (ran : (machine maxSize).run (JobQueue.create Thread Job) trace = some queue)
  (quiet : ∀ thread, (queue.points thread).isQuiet = true) (thread : Thread) :
  (queue.points thread = .waiting .pop -> queue.state.jobs = []) /\
    ∀ job, queue.points thread = .waiting (.push job) -> maxSize ≤ queue.state.jobs.length := by
 have sound : Sound maxSize queue :=
  (machine maxSize).run_invariant (fun _ _ _ sound useful taken => sound.step bounded useful taken)
    (.of_no_waiter fun _ => rfl) useful ran
 have blocked (call : Blocking Job) (waiting : queue.points thread = .waiting call) :
   ready maxSize queue.state call = false := by
  cases stopping : queue.state.stopping with
  | false => simpa [waitsReady, waiting] using (sound.attended stopping).of_quiet quiet thread
  | true =>
   obtain ⟨notifier, notifies⟩ := sound.released stopping thread (by rw [waiting]; rfl)
   simpa [notifies, Point.isQuiet] using quiet notifier
 constructor
 · intro waiting
   have test := blocked .pop waiting
   simp only [ready, Bool.or_eq_false_iff, Bool.not_eq_false', List.isEmpty_iff] at test
   exact test.1
 · intro job waiting
   have test := blocked (.push job) waiting
   simp only [ready, Bool.or_eq_false_iff, decide_eq_false_iff_not, Nat.not_lt] at test
   exact test.2

end

def contention : List (Action (Fin 4) Nat) :=
 [.pop 0, .pop 1, .push 2 (some 7), .notifyOne 2 (some 0), .push 3 (some 8), .push 2 (some 9), .resume 0]

def relief : List (Action (Fin 4) Nat) :=
 contention ++ [.notifyOne 0 (some 3), .resume 3, .notifyOne 3 (some 1), .resume 1, .notifyOne 1 (some 2),
  .resume 2, .notifyOne 2 none, .pop 0, .notifyOne 0 none, .pop 0, .pop 1]

theorem producer_is_woken :
  ∃ queue, (machine 1).run (JobQueue.create (Fin 4) Nat) relief = some queue /\
   queue.points 1 = .waiting .pop /\ queue.state.jobs = [] := by
 have useful : (machine 1).Guarded (WakesUseful 1) (JobQueue.create (Fin 4) Nat) relief := by decide +kernel
 have ran : ∃ queue, (machine 1).run (JobQueue.create (Fin 4) Nat) relief = some queue /\
   (∀ thread, (queue.points thread).isQuiet = true) /\ queue.points 1 = .waiting .pop :=
  (machine 1).exists_final (by decide +kernel)
 obtain ⟨queue, ran, quiet, waiting⟩ := ran
 exact ⟨queue, ran, waiting, (no_wakeup_is_lost 1 (by decide) relief useful ran quiet 1).1 waiting⟩

/-- It wakes the other consumer instead, who finds nothing: four threads wait, two of them
for room in an empty queue. -/
theorem consumer_is_woken_in_vain :
  ∃ queue, (machine 1).run (JobQueue.create (Fin 4) Nat)
   (contention ++ [.notifyOne 0 (some 1), .resume 1, .pop 0]) = some queue /\
   (∀ thread, (queue.points thread).isWaiting = true) /\
   queue.points 2 = .waiting (.push 9) /\ queue.state.jobs.length < 1 :=
 (machine 1).exists_final (by decide +kernel)

end Dynaxis.Concurrent
