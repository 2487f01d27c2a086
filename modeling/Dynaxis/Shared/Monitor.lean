import Mathlib.Data.Fintype.Basic

/-! Threads call into a shared state under a lock. A call that cannot go on waits for its own predicate on the one
condition variable; a call that has changed the state releases the lock and then notifies one waiter, or all of
them. -/

namespace Dynaxis.Shared

universe u v w

/-- Where a thread is. Between the release of the lock and the notification other threads
may run. -/
inductive Point (Call : Type w)
 | outside
 | notifying (all : Bool)
 | waiting (call : Call)
 | woken (call : Call)
 deriving DecidableEq

namespace Point

variable {Call : Type w}

def isWaiting : Point Call -> Bool
 | .waiting _ => true
 | _ => false

def isQuiet : Point Call -> Bool
 | .outside | .waiting _ => true
 | .notifying _ | .woken _ => false

def wake : Point Call -> Point Call
 | .waiting call => .woken call
 | point => point

theorem isWaiting_iff {point : Point Call} : point.isWaiting = true ↔ ∃ call, point = .waiting call := by
 cases point <;> simp [isWaiting]

theorem wake_ne_waiting (point : Point Call) (call : Call) : point.wake ≠ .waiting call := by
 cases point <;> nofun

end Point

structure Monitor (Thread : Type u) (State : Type v) (Call : Type w) where
 state : State
 points : Thread -> Point Call

namespace Monitor

variable {Thread : Type u} {State : Type v} {Call : Type w} [DecidableEq Thread]
 (monitor : Monitor Thread State Call) (state : State) (thread : Thread) (point : Point Call)

def put : Monitor Thread State Call where
 state := state
 points := Function.update monitor.points thread point

def wake (monitor : Monitor Thread State Call) (thread : Thread) : Monitor Thread State Call :=
 monitor.put monitor.state thread (monitor.points thread).wake

@[simp] theorem put_self : (monitor.put state thread point).points thread = point :=
  Function.update_self ..

theorem put_of_ne {thread other : Thread} (different : other ≠ thread) :
  (monitor.put state thread point).points other = monitor.points other :=
 Function.update_of_ne different ..

def notifyOne [Fintype Thread] (monitor : Monitor Thread State Call) (thread : Thread)
  (chosen : Option Thread) : Option (Monitor Thread State Call) :=
 match monitor.points thread, chosen with
 | .notifying false, some other =>
  if (monitor.points other).isWaiting then
   some ((monitor.put monitor.state thread .outside).wake other)
  else none
 | .notifying false, none =>
  if ∀ other, (monitor.points other).isWaiting = false then
   some (monitor.put monitor.state thread .outside)
  else none
 | _, _ => none

def notifyAll : Option (Monitor Thread State Call) :=
 match monitor.points thread with
 | .notifying true =>
  some { monitor with points := fun other => (Function.update monitor.points thread .outside other).wake }
 | _ => none

variable (ready : State -> Call -> Bool)

section

variable (monitor : Monitor Thread State Call)

def waitsReady (thread : Thread) : Bool :=
 match monitor.points thread with
 | .waiting call => ready monitor.state call
 | _ => false

def Attended : Prop :=
 (∃ thread all, monitor.points thread = .notifying all) \/
   ∃ thread call, monitor.points thread = .woken call /\ ready monitor.state call = true

def NoLostWakeup : Prop :=
 ∀ thread, monitor.waitsReady ready thread = true -> monitor.Attended ready

abbrev WakesReady (chosen : Thread) : Prop :=
 (∃ thread, monitor.waitsReady ready thread = true) -> monitor.waitsReady ready chosen = true

def Released : Prop :=
 ∀ thread, (monitor.points thread).isWaiting = true -> ∃ notifier, monitor.points notifier = .notifying true

end

variable {ready} {monitor : Monitor Thread State Call} {thread : Thread}

omit [DecidableEq Thread] in
theorem waitsReady_iff : monitor.waitsReady ready thread = true ↔
   ∃ call, monitor.points thread = .waiting call /\ ready monitor.state call = true := by
 unfold waitsReady
 cases monitor.points thread <;> simp

omit [DecidableEq Thread] in
theorem noLostWakeup_of_no_waiter (nobody : ∀ thread, (monitor.points thread).isWaiting = false) :
  monitor.NoLostWakeup ready := by
 intro thread waits
 obtain ⟨call, waiting, _⟩ := waitsReady_iff.mp waits
 simpa [waiting, Point.isWaiting] using nobody thread

omit [DecidableEq Thread] in
theorem NoLostWakeup.congr {other : Monitor Thread State Call}
  (attended : monitor.NoLostWakeup ready) (points : other.points = monitor.points)
  (same : ∀ call, ready other.state call = ready monitor.state call) : other.NoLostWakeup ready := by
 intro thread waits
 simp only [Attended, waitsReady, points, same] at waits ⊢
 exact attended thread waits

theorem noLostWakeup_put_notifying (state : State) (thread : Thread) (all : Bool) :
  (monitor.put state thread (.notifying all)).NoLostWakeup ready :=
 fun _ _ => .inl ⟨thread, all, Function.update_self ..⟩

theorem NoLostWakeup.put_waiting (attended : monitor.NoLostWakeup ready) {call : Call}
  (blocked : ready monitor.state call = false)
  (origin : monitor.points thread = .outside \/ monitor.points thread = .woken call) :
  (monitor.put monitor.state thread (.waiting call)).NoLostWakeup ready := by
 intro other waits
 obtain ⟨theirs, waiting, able⟩ := waitsReady_iff.mp waits
 by_cases same : other = thread
 · subst same
   rw [put_self, Point.waiting.injEq] at waiting
   subst waiting
   exact absurd able (by simp [put, blocked])
 rw [put_of_ne _ _ _ same] at waiting
 obtain ⟨notifier, all, notifies⟩ | ⟨sleeper, woken, wakes, goes⟩ :=
  attended other (waitsReady_iff.mpr ⟨theirs, waiting, able⟩)
 · have different : notifier ≠ thread := by
    rintro rfl
    simp [notifies] at origin
   exact .inl ⟨notifier, all, (put_of_ne _ _ _ different).trans notifies⟩
 · have different : sleeper ≠ thread := by
    rintro rfl
    simp only [wakes, reduceCtorEq, false_or, Point.woken.injEq] at origin
    rw [origin, blocked] at goes
    cases goes
   exact .inr ⟨sleeper, woken, (put_of_ne _ _ _ different).trans wakes, goes⟩

theorem Released.put (released : monitor.Released) {state : State} {point : Point Call}
  (awake : point.isWaiting = false) (single : monitor.points thread ≠ .notifying true) :
  (monitor.put state thread point).Released := by
 intro sleeper waits
 have different : sleeper ≠ thread := by
  rintro rfl
  rw [put_self, awake] at waits
  cases waits
 rw [put_of_ne _ _ _ different] at waits
 obtain ⟨notifier, notifies⟩ := released sleeper waits
 have elsewhere : notifier ≠ thread := by
  rintro rfl
  exact single notifies
 exact ⟨notifier, (put_of_ne _ _ _ elsewhere).trans notifies⟩

section

variable [Fintype Thread] {next : Monitor Thread State Call} {chosen : Option Thread}

theorem notifyOne_eq_some (notified : monitor.notifyOne thread chosen = some next) :
  monitor.points thread = .notifying false /\
   ((chosen = none /\ (∀ other, (monitor.points other).isWaiting = false) /\
      next = monitor.put monitor.state thread .outside) \/
     ∃ other call, chosen = some other /\ monitor.points other = .waiting call /\
      next = (monitor.put monitor.state thread .outside).put monitor.state other (.woken call)) := by
 unfold notifyOne at notified
 split at notified
 next other notifies =>
  obtain ⟨waits, ⟨⟩⟩ := Option.ite_none_right_eq_some.mp notified
  obtain ⟨call, waiting⟩ := Point.isWaiting_iff.mp waits
  have different : other ≠ thread := by
   rintro rfl
   simp [waiting] at notifies
  refine ⟨notifies, .inr ⟨other, call, rfl, waiting, ?_⟩⟩
  rw [wake, put_of_ne _ _ _ different, waiting]
  rfl
 next notifies =>
  obtain ⟨nobody, ⟨⟩⟩ := Option.ite_none_right_eq_some.mp notified
  exact ⟨notifies, .inl ⟨rfl, nobody, rfl⟩⟩
 · cases notified

theorem notifyOne_state (notified : monitor.notifyOne thread chosen = some next) : next.state = monitor.state := by
 obtain ⟨_, ⟨_, _, rfl⟩ | ⟨_, _, _, _, rfl⟩⟩ := notifyOne_eq_some notified <;> rfl

theorem noLostWakeup_notifyOne (wakes : ∀ other ∈ chosen, monitor.WakesReady ready other)
  (notified : monitor.notifyOne thread chosen = some next) : next.NoLostWakeup ready := by
 obtain ⟨notifies, ⟨rfl, nobody, rfl⟩ | ⟨other, call, rfl, waiting, rfl⟩⟩ := notifyOne_eq_some notified
 · refine noLostWakeup_of_no_waiter fun sleeper => ?_
   by_cases same : sleeper = thread
   · rw [same, put_self]
     rfl
   · rw [put_of_ne _ _ _ same]
     exact nobody sleeper
 -- If somebody still waits in vain, the chosen thread could go on too.
 · intro sleeper waits
   obtain ⟨theirs, asleep, able⟩ := waitsReady_iff.mp waits
   have woken : sleeper ≠ other := by
    rintro rfl
    simp [put_self] at asleep
   have different : sleeper ≠ thread := by
    rintro rfl
    simp [put_of_ne _ _ _ woken, put_self] at asleep
   rw [put_of_ne _ _ _ woken, put_of_ne _ _ _ different] at asleep
   have goes := wakes other rfl ⟨sleeper, waitsReady_iff.mpr ⟨theirs, asleep, able⟩⟩
   obtain ⟨same, found, able⟩ := waitsReady_iff.mp goes
   rw [waiting, Point.waiting.injEq] at found
   exact .inr ⟨other, call, put_self .., found ▸ able⟩

theorem Released.notifyOne (released : monitor.Released) (notified : monitor.notifyOne thread chosen = some next) :
  next.Released := by
 obtain ⟨notifies, ⟨rfl, nobody, rfl⟩ | ⟨other, call, rfl, waiting, rfl⟩⟩ := notifyOne_eq_some notified
 · exact released.put rfl (by simp [notifies])
 · have different : other ≠ thread := by
    rintro rfl
    simp [notifies] at waiting
   refine (released.put rfl (by simp [notifies])).put rfl ?_
   rw [put_of_ne _ _ _ different, waiting]
   nofun

omit [Fintype Thread] in
theorem notifyAll_eq_some (notified : monitor.notifyAll thread = some next) :
  ∀ other, (next.points other).isWaiting = false := by
 unfold notifyAll at notified
 split at notified
 · cases notified
   intro other
   rw [Bool.eq_false_iff]
   intro waits
   obtain ⟨call, waiting⟩ := Point.isWaiting_iff.mp waits
   exact Point.wake_ne_waiting _ _ waiting
 · cases notified

end

omit [DecidableEq Thread] in
theorem NoLostWakeup.of_quiet (attended : monitor.NoLostWakeup ready)
  (quiet : ∀ thread, (monitor.points thread).isQuiet = true) (thread : Thread) :
  monitor.waitsReady ready thread = false := by
 rw [Bool.eq_false_iff]
 intro waits
 obtain ⟨notifier, all, notifies⟩ | ⟨sleeper, call, woken, _⟩ := attended thread waits
 · simpa [notifies, Point.isQuiet] using quiet notifier
 · simpa [woken, Point.isQuiet] using quiet sleeper

end Monitor

end Dynaxis.Shared
