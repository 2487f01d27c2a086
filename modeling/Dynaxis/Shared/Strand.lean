import Dynaxis.Shared.Machine
import Mathlib.Algebra.Order.BigOperators.Group.Finset

/-! Threads take a lock for some parts of their programs and call hooks, with the lock or without it. -/

namespace Dynaxis.Shared.Strand

open List Option Function Nat

universe u v

structure Access (Hook : Type u) where
 locks : Bool
 hook : Option Hook

inductive Phase (Hook : Type u) where
 | outside
 | inside
 | consulted (hook : Hook)
 | posted
 | answered
 deriving DecidableEq

structure Thread (Hook : Type u) where
 rest : List (Access Hook) := []
 phase : Phase Hook := .outside

structure Callout (Call : Type v) where
 caller : Nat
 calls : List Call
 sections : Nat := 0
 running : Bool := false

structure State (Hook : Type u) (Call : Type v) where
 holder : Option Nat := none
 count : Nat := 0
 threads : Nat -> Thread Hook := fun _ => {}
 strand : List (Callout Call) := []

inductive Action (Hook : Type u) where
 | start (program : List (Access Hook))
 | enter (thread : Nat)
 | consult (thread : Nat)
 | post (thread : Nat)
 | done (thread : Nat)
 | begin
 | call (found : Bool)
 | lock
 | finish

structure Scripts (Hook : Type u) (Call : Type v) where
 script : Hook -> List Call
 sections : Call -> Bool -> Nat

section

variable {Hook : Type u} {Call : Type v}

namespace Thread

def Holds (thread : Thread Hook) : Prop :=
 thread.phase ≠ .outside /\ ∃ access ∈ thread.rest.head?, access.locks = true

end Thread

namespace State

variable (state : State Hook Call) (index : Nat)

def set (thread : Thread Hook) : State Hook Call :=
 { state with threads := update state.threads index thread }

def setPhase (phase : Phase Hook) : State Hook Call :=
 state.set index { state.threads index with phase }

abbrev Idle : Prop := ∀ callout ∈ state.strand.head?, callout.running = false

end State

def step (scripts : Scripts Hook Call) (state : State Hook Call) : Action Hook -> Option (State Hook Call)
 | .start program => some { state.set state.count { rest := program } with count := state.count + 1 }
 | .enter index =>
  match (state.threads index).phase, (state.threads index).rest with
  | .outside, access :: _ =>
   if access.locks then
    if state.holder = none then some { state.setPhase index .inside with holder := some index } else none
   else some (state.setPhase index .inside)
  | _, _ => none
 | .consult index =>
  match (state.threads index).phase, (state.threads index).rest with
  | .inside, ⟨_, some hook⟩ :: _ => if state.Idle then some (state.setPhase index (.consulted hook)) else none
  | _, _ => none
 | .post index =>
  match (state.threads index).phase with
  | .consulted hook =>
   some { state.setPhase index .posted with
    strand := state.strand ++ [{ caller := index, calls := scripts.script hook }] }
  | _ => none
 | .done index =>
  match (state.threads index).phase, (state.threads index).rest with
  | .inside, ⟨locks, none⟩ :: rest =>
   some { state.set index { rest } with holder := if locks then none else state.holder }
  | .answered, access :: rest =>
   some { state.set index { rest } with holder := if access.locks then none else state.holder }
  | _, _ => none
 | .begin =>
  match state.strand with
  | first :: others => if first.running then none else some { state with strand := { first with running := true } :: others }
  | [] => none
 | .call found =>
  match state.strand with
  | ⟨caller, call :: calls, 0, true⟩ :: others =>
   some { state with strand := ⟨caller, calls, scripts.sections call found, true⟩ :: others }
  | _ => none
 | .lock =>
  match state.strand with
  | ⟨caller, calls, sections + 1, true⟩ :: others =>
   if state.holder = none then some { state with strand := ⟨caller, calls, sections, true⟩ :: others } else none
  | _ => none
 | .finish =>
  match state.strand with
  | ⟨caller, [], 0, true⟩ :: others => some { state.setPhase caller .answered with strand := others }
  | _ => none

def machine (scripts : Scripts Hook Call) : Machine (State Hook Call) (Action Hook) where
 step state action :=
  match action with
  | .start _ => none
  | action => step scripts state action

end

section

variable {Hook : Type u} {Call : Type v} (scripts : Scripts Hook Call) (state : State Hook Call)

inductive Step : State Hook Call -> Prop where
 | start (program : List (Access Hook)) :
  Step { state.set state.count { rest := program } with count := state.count + 1 }
 | take {index : Nat} {access : Access Hook} {rest : List (Access Hook)}
  (phase : (state.threads index).phase = .outside)
  (program : (state.threads index).rest = access :: rest) (locks : access.locks = true)
   (free : state.holder = none) :
  Step { state.setPhase index .inside with holder := some index }
 | enter {index : Nat} {access : Access Hook} {rest : List (Access Hook)}
  (phase : (state.threads index).phase = .outside)
  (program : (state.threads index).rest = access :: rest) (locks : access.locks = false) :
  Step (state.setPhase index .inside)
 | consult {index : Nat} {hook : Hook} (phase : (state.threads index).phase = .inside) :
  Step (state.setPhase index (.consulted hook))
 | post {index : Nat} {hook : Hook} (phase : (state.threads index).phase = .consulted hook) :
  Step { state.setPhase index .posted with
   strand := state.strand ++ [{ caller := index, calls := scripts.script hook }] }
 | done {index : Nat} {access : Access Hook} {rest : List (Access Hook)}
  (inside : (state.threads index).phase ≠ .outside)
  (answered : (state.threads index).phase ≠ .posted) (program : (state.threads index).rest = access :: rest) :
  Step { state.set index { rest } with holder := if access.locks then none else state.holder }
 | script {first next : Callout Call} {others : List (Callout Call)} (strand : state.strand = first :: others)
  (caller : next.caller = first.caller) (calls : ∀ call ∈ next.calls, call ∈ first.calls)
  (sections : next.sections ≤ first.sections \/ ∃ call ∈ first.calls, ∃ found, next.sections = scripts.sections call found) :
  Step { state with strand := next :: others }
 | finish {first : Callout Call} {others : List (Callout Call)} (strand : state.strand = first :: others) :
  Step { state.setPhase first.caller .answered with strand := others }

variable {action : Action Hook} {next : State Hook Call}

theorem step_inv (taken : step scripts state action = some next) : Step scripts state next := by
 cases action with
 | start program =>
  cases taken
  exact .start program
 | enter index =>
  simp only [step] at taken
  split at taken
  next access rest phase program =>
   split at taken
   next locks =>
    obtain ⟨free, ⟨⟩⟩ := ite_none_right_eq_some.mp taken
    exact .take phase program locks free
   next unlocked =>
    cases taken
    exact .enter phase program (Bool.eq_false_iff.mpr unlocked)
  · cases taken
 | consult index =>
  simp only [step] at taken
  split at taken
  next phase program =>
   obtain ⟨-, ⟨⟩⟩ := ite_none_right_eq_some.mp taken
   exact .consult phase
  · cases taken
 | post index =>
  simp only [step] at taken
  split at taken
  next hook phase =>
   cases taken
   exact .post phase
  · cases taken
 | done index =>
  simp only [step] at taken
  split at taken
  next locks rest phase program =>
   cases taken
   exact .done (by rw [phase]; nofun) (by rw [phase]; nofun) program
  next access rest phase program =>
   cases taken
   exact .done (by rw [phase]; nofun) (by rw [phase]; nofun) program
  · cases taken
 | begin =>
  simp only [step] at taken
  split at taken
  next first others strand =>
   obtain ⟨-, ⟨⟩⟩ := ite_none_left_eq_some.mp taken
   exact .script strand rfl (fun _ => id) (.inl (le_refl _))
  · cases taken
 | call found =>
  simp only [step] at taken
  split at taken
  next caller call calls others strand =>
   cases taken
   exact .script strand rfl (fun _ later => mem_cons_of_mem _ later) (.inr ⟨call, mem_cons_self, found, rfl⟩)
  · cases taken
 | lock =>
  simp only [step] at taken
  split at taken
  next caller calls sections others strand =>
   obtain ⟨-, ⟨⟩⟩ := ite_none_right_eq_some.mp taken
   exact .script strand rfl (fun _ => id) (.inl (le_succ _))
  · cases taken
 | finish =>
  simp only [step] at taken
  split at taken
  next caller others strand =>
   cases taken
   exact .finish strand
  · cases taken

theorem machine_step (taken : (machine scripts).step state action = some next) : Step scripts state next := by
 simp only [machine] at taken
 split at taken
 · cases taken
 · exact step_inv scripts state taken

end

section

variable {Hook : Type u} {Call : Type v} {scripts : Scripts Hook Call} {state next : State Hook Call}

structure State.Consistent (state : State Hook Call) : Prop where
 holder : ∀ index, state.holder = some index ↔ (state.threads index).Holds
 fresh : ∀ index, state.count ≤ index -> state.threads index = {}
 posted : ∀ index, (state.threads index).phase = .posted ↔ index ∈ state.strand.map (·.caller)
 distinct : (state.strand.map (·.caller)).Nodup

theorem Thread.not_holds_outside {thread : Thread Hook} (outside : thread.phase = .outside) : ¬ thread.Holds :=
 fun holds => holds.1 outside

namespace State.Consistent

theorem initial : State.Consistent ({} : State Hook Call) where
 holder := fun _ => ⟨nofun, fun holds => absurd rfl holds.1⟩
 fresh := fun _ _ => rfl
 posted := fun _ => ⟨nofun, nofun⟩
 distinct := nodup_nil

variable {index : Nat} {access : Access Hook} {rest : List (Access Hook)} (consistent : state.Consistent)
include consistent

theorem known (busy : state.threads index ≠ {}) : index < state.count := by
 by_contra unknown
 exact busy (consistent.fresh index (not_lt.mp unknown))

theorem update {thread : Thread Hook}
  (threads : next.threads = update state.threads index thread) (count : state.count ≤ next.count)
  (started : index < next.count) (own : next.holder = some index ↔ thread.Holds)
  (posted : thread.phase = .posted ↔ index ∈ next.strand.map (·.caller))
  (others : ∀ other ≠ index, (next.holder = some other ↔ state.holder = some other) /\
    (other ∈ next.strand.map (·.caller) ↔ other ∈ state.strand.map (·.caller)))
  (distinct : (next.strand.map (·.caller)).Nodup) : next.Consistent where
 holder other := by
  rw [threads]
  by_cases same : other = index
  · subst same
    rw [update_self, own]
  · rw [update_of_ne same, (others other same).1, consistent.holder]
 fresh other unknown := by
  rw [threads, update_of_ne (by omega)]
  exact consistent.fresh other (count.trans unknown)
 posted other := by
  rw [threads]
  by_cases same : other = index
  · subst same
    rw [update_self, posted]
  · rw [update_of_ne same, (others other same).2, consistent.posted]
 distinct := distinct

theorem set {thread : Thread Hook} (started : index < state.count)
  (posted : thread.phase = .posted ↔ (state.threads index).phase = .posted)
  (holds : thread.Holds ↔ (state.threads index).Holds) : (state.set index thread).Consistent := by
 refine consistent.update rfl (le_refl _) started ?_ ?_ (fun _ _ => ⟨Iff.rfl, Iff.rfl⟩) consistent.distinct
 · exact (consistent.holder index).trans holds.symm
 · exact posted.trans (consistent.posted index)

theorem setPhase {phase : Phase Hook} (before : (state.threads index).phase ≠ .outside) (after : phase ≠ .outside)
  (posted : phase = .posted ↔ (state.threads index).phase = .posted) : (state.setPhase index phase).Consistent := by
 refine consistent.set (consistent.known fun unused => before (by rw [unused])) posted ?_
 exact ⟨fun holds => ⟨before, holds.2⟩, fun holds => ⟨after, holds.2⟩⟩

theorem start (program : List (Access Hook)) :
  State.Consistent { state.set state.count { rest := program } with count := state.count + 1 } := by
 have unused := consistent.fresh state.count (le_refl _)
 refine consistent.update rfl (le_succ _) (lt_succ_self _) ?_ ?_ (fun _ _ => ⟨Iff.rfl, Iff.rfl⟩) consistent.distinct
 · refine (consistent.holder state.count).trans ?_
   simp [unused, Thread.Holds]
 · refine Iff.trans ?_ (consistent.posted state.count)
   simp [unused]

theorem take (phase : (state.threads index).phase = .outside)
  (program : (state.threads index).rest = access :: rest) (locks : access.locks = true)
   (free : state.holder = none) :
  State.Consistent { state.setPhase index .inside with holder := some index } := by
 have started : index < state.count :=
  consistent.known fun unused => by simp [unused] at program
 refine consistent.update rfl (le_refl _) started ?_ ?_ (fun other different => ⟨?_, Iff.rfl⟩) consistent.distinct
 · simp [Thread.Holds, program, locks]
 · refine Iff.trans ?_ (consistent.posted index)
   simp [phase]
 · simp [free, Ne.symm different]

theorem post {hook : Hook} (phase : (state.threads index).phase = .consulted hook) : State.Consistent
   { state.setPhase index .posted with
     strand := state.strand ++ [{ caller := index, calls := scripts.script hook }] } := by
 have started : index < state.count := consistent.known fun unused => by simp [unused] at phase
 have absent : index ∉ state.strand.map (·.caller) := by
  rw [<- consistent.posted, phase]
  nofun
 refine consistent.update rfl (le_refl _) started ?_ (by simp) (fun other different => ⟨Iff.rfl, ?_⟩) ?_
 · refine (consistent.holder index).trans ?_
   simp [Thread.Holds, phase]
 · simp [different]
 · rw [map_append, nodup_append]
   refine ⟨consistent.distinct, nodup_singleton _, fun caller listed other isNew same => ?_⟩
   obtain rfl := mem_singleton.mp isNew
   exact absent (same ▸ listed)

theorem done (inside : (state.threads index).phase ≠ .outside) (answered : (state.threads index).phase ≠ .posted)
  (program : (state.threads index).rest = access :: rest) :
  State.Consistent { state.set index { rest } with holder := if access.locks then none else state.holder } := by
 have started : index < state.count :=
  consistent.known fun unused => by simp [unused] at program
 have own := consistent.holder index
 refine consistent.update rfl (le_refl _) started ?_ ?_ (fun other different => ⟨?_, Iff.rfl⟩) consistent.distinct
 · cases locks : access.locks <;> simp [own, Thread.Holds, program, locks]
 · refine Iff.trans ?_ (consistent.posted index)
   simp [answered]
 · cases locks : access.locks with
   | true =>
    have held : state.holder = some index := own.mpr ⟨inside, access, by simp [program], locks⟩
    simp [held, Ne.symm different]
   | false => simp

theorem finish {first : Callout Call} {others : List (Callout Call)} (strand : state.strand = first :: others) :
  State.Consistent { state.setPhase first.caller .answered with strand := others } := by
 have phase : (state.threads first.caller).phase = .posted := by
  rw [consistent.posted, strand]
  exact mem_cons_self
 have started : first.caller < state.count := consistent.known fun unused => by simp [unused] at phase
 have distinct := consistent.distinct
 rw [strand, map_cons, nodup_cons] at distinct
 refine consistent.update rfl (le_refl _) started ?_ (by simpa using distinct.1)
  (fun other different => ⟨Iff.rfl, by simp [strand, different]⟩) distinct.2
 refine (consistent.holder first.caller).trans ?_
 simp [Thread.Holds, phase]

theorem step (step : Step scripts state next) : next.Consistent := by
 cases step with
 | start program => exact consistent.start program
 | take phase program locks free => exact consistent.take phase program locks free
 | enter phase program locks =>
  refine consistent.set (consistent.known fun unused => by simp [unused] at program) ?_ ?_
  · simp [phase]
  · simp [Thread.Holds, phase, program, locks]
 | consult phase => exact consistent.setPhase (by simp [phase]) (by simp) (by simp [phase])
 | post phase => exact consistent.post phase
 | done inside answered program => exact consistent.done inside answered program
 | script strand caller =>
  refine ⟨consistent.holder, consistent.fresh, fun index => ?_, ?_⟩
  · rw [consistent.posted, strand, map_cons, map_cons, caller]
  · have distinct := consistent.distinct
    rw [strand, map_cons] at distinct
    show (map _ (_ :: _)).Nodup
    rw [map_cons, caller]
    exact distinct
 | finish strand => exact consistent.finish strand

omit consistent

end State.Consistent

end

section

variable {Hook : Type u} {Call : Type v} {scripts : Scripts Hook Call} {state next : State Hook Call} {index : Nat}

structure State.Deadlocked (state : State Hook Call) (index : Nat) : Prop where
 consistent : state.Consistent
 holder : state.holder = some index
 posted : (state.threads index).phase = .posted
 script : ∃ callout ∈ state.strand.head?, callout.running = true /\ callout.sections ≠ 0

def Action.OfStrand : Action Hook -> Prop
 | .begin | .call _ | .lock | .finish => True
 | _ => False

theorem strand_waits {caller sections : Nat} {calls : List Call} {others : List (Callout Call)}
  (action : Action Hook) (ofStrand : action.OfStrand) (held : state.holder = some index)
  (strand : state.strand = ⟨caller, calls, sections + 1, true⟩ :: others) :
  (machine scripts).step state action = none := by
 obtain ⟨_, count, threads, _⟩ := state
 cases held
 cases strand
 cases action with
 | begin | lock => rfl
 | call found | finish => cases calls <;> rfl
 | _ => cases ofStrand

namespace State.Deadlocked

theorem set (deadlocked : state.Deadlocked index) {other : Nat} {thread : Thread Hook} (different : other ≠ index)
  (consistent : (state.set other thread).Consistent) : (state.set other thread).Deadlocked index := by
 refine ⟨consistent, deadlocked.holder, ?_, deadlocked.script⟩
 show (update state.threads other thread index).phase = .posted
 rw [update_of_ne (Ne.symm different)]
 exact deadlocked.posted

theorem step (deadlocked : state.Deadlocked index) {action : Action Hook}
  (taken : (machine scripts).step state action = some next) : next.Deadlocked index := by
 have consistent := deadlocked.consistent.step (machine_step scripts state taken)
 have elsewhere (other : Nat) (phase : (state.threads other).phase ≠ .posted) : other ≠ index := by
  rintro rfl
  exact phase deadlocked.posted
 obtain ⟨⟨caller, calls, sections, running⟩, first, rfl, busy⟩ := deadlocked.script
 obtain ⟨others, strand⟩ := head?_eq_some_iff.mp first
 obtain ⟨sections, rfl⟩ := exists_eq_succ_of_ne_zero busy
 cases action with
 | start program => cases taken
 | enter other =>
  have moved : Strand.step scripts state (.enter other) = some next := taken
  simp only [Strand.step] at moved
  split at moved
  next access rest phase program =>
   split at moved
   · obtain ⟨free, -⟩ := ite_none_right_eq_some.mp moved
     cases deadlocked.holder.symm.trans free
   · cases moved
     exact deadlocked.set (elsewhere other (by simp [phase])) consistent
  · cases moved
 | consult other =>
  have moved : Strand.step scripts state (.consult other) = some next := taken
  simp only [Strand.step] at moved
  split at moved
  next phase program =>
   obtain ⟨-, ⟨⟩⟩ := ite_none_right_eq_some.mp moved
   exact deadlocked.set (elsewhere other (by simp [phase])) consistent
  · cases moved
 | post other =>
  have moved : Strand.step scripts state (.post other) = some next := taken
  simp only [Strand.step] at moved
  split at moved
  next hook phase =>
   cases moved
   have different := elsewhere other (by simp [phase])
   refine ⟨consistent, deadlocked.holder, ?_, ?_⟩
   · show (update state.threads other _ index).phase = .posted
     rw [update_of_ne (Ne.symm different)]
     exact deadlocked.posted
   · obtain ⟨callout, inFront, waits⟩ := deadlocked.script
     exact ⟨callout, by simp [strand] at inFront ⊢; exact inFront, waits⟩
  · cases moved
 | done other =>
  have moved : Strand.step scripts state (.done other) = some next := taken
  -- another thread that is done does not have the lock to give up
  have kept {access : Access Hook} {rest : List (Access Hook)} (inside : (state.threads other).phase ≠ .outside)
    (program : (state.threads other).rest = access :: rest) (different : other ≠ index) : access.locks = false := by
   refine Bool.eq_false_iff.mpr fun locks => ?_
   have held := (deadlocked.consistent.holder other).mpr ⟨inside, access, by simp [program], locks⟩
   exact different (some.inj (held.symm.trans deadlocked.holder))
  simp only [Strand.step] at moved
  split at moved
  next locks rest phase program =>
   cases moved
   have different := elsewhere other (by simp [phase])
   have unlocked : locks = false := kept (by simp [phase]) program different
   subst unlocked
   exact deadlocked.set different consistent
  next access rest phase program =>
   cases moved
   have different := elsewhere other (by simp [phase])
   have unlocked : access.locks = false := kept (by simp [phase]) program different
   simp only [unlocked] at consistent ⊢
   exact deadlocked.set different consistent
  · cases moved
 -- the script that runs needs the lock before anything else
 | begin => cases (strand_waits .begin trivial deadlocked.holder strand).symm.trans taken
 | call found => cases (strand_waits (.call found) trivial deadlocked.holder strand).symm.trans taken
 | lock => cases (strand_waits .lock trivial deadlocked.holder strand).symm.trans taken
 | finish => cases (strand_waits .finish trivial deadlocked.holder strand).symm.trans taken

theorem reaches {final : State Hook Call} (deadlocked : state.Deadlocked index)
  (reaches : (machine scripts).Reaches state final) : final.Deadlocked index := by
 obtain ⟨trace, ran⟩ := reaches
 have kept : ∀ (state : State Hook Call) action next, state.Deadlocked index ->
   (machine scripts).step state action = some next -> next.Deadlocked index :=
  fun _ _ _ deadlocked taken => deadlocked.step taken
 exact (machine scripts).run_keeps kept deadlocked ran

end State.Deadlocked

end

variable {Hook : Type u} {Call : Type v} {scripts : Scripts Hook Call} {state next : State Hook Call}

def Scripts.Harmless (scripts : Scripts Hook Call) : Prop :=
 ∀ hook, ∀ call ∈ scripts.script hook, ∀ found, scripts.sections call found = 0

def Callout.Harmless (scripts : Scripts Hook Call) (callout : Callout Call) : Prop :=
 callout.sections = 0 /\ ∀ call ∈ callout.calls, ∀ found, scripts.sections call found = 0

theorem harmless_step (harmless : scripts.Harmless) (quiet : ∀ callout ∈ state.strand, callout.Harmless scripts)
  (step : Step scripts state next) : ∀ callout ∈ next.strand, callout.Harmless scripts := by
 cases step with
 | start program | take phase program locks free | enter phase program locks | consult phase
 | done inside answered program => exact quiet
 | @post _ hook _ =>
  intro callout listed
  obtain old | isNew := mem_append.mp listed
  · exact quiet callout old
  · obtain rfl := mem_singleton.mp isNew
    exact ⟨rfl, harmless hook⟩
 | script strand caller calls sections =>
  rw [strand] at quiet
  obtain ⟨unlocked, silent⟩ := quiet _ mem_cons_self
  intro callout listed
  obtain rfl | other := mem_cons.mp listed
  · refine ⟨?_, fun call later => silent call (calls call later)⟩
    obtain fewer | ⟨call, now, found, same⟩ := sections
    · omega
    · rw [same, silent call now found]
  · exact quiet callout (mem_cons_of_mem _ other)
 | finish strand =>
  rw [strand] at quiet
  exact fun callout other => quiet callout (mem_cons_of_mem _ other)

theorem script_ends (state : State Hook Call) (caller : Nat) (others : List (Callout Call))
  {calls : List Call} (silent : ∀ call ∈ calls, ∀ found, scripts.sections call found = 0) :
  (machine scripts).Reaches { state with strand := ⟨caller, calls, 0, true⟩ :: others }
    { state with strand := ⟨caller, [], 0, true⟩ :: others } := by
 induction calls with
 | nil => exact .refl _
 | cons call rest ih =>
  refine .head (.call false) ?_ (ih fun other later => silent other (mem_cons_of_mem _ later))
  show some _ = some _
  rw [silent call mem_cons_self false]

def Thread.settled : Thread Hook -> Thread Hook
 | ⟨rest, .posted⟩ => ⟨rest, .answered⟩
 | thread => thread

theorem Thread.rest_settled (thread : Thread Hook) : thread.settled.rest = thread.rest := by
 unfold settled
 split <;> rfl

variable {thread : Thread Hook} {index : Nat}

theorem Thread.settled_posted (posted : thread.phase = .posted) :
  thread.settled = { thread with phase := .answered } := by
 obtain ⟨rest, phase⟩ := thread
 cases posted
 rfl

theorem Thread.settled_of_ne (notPosted : thread.phase ≠ .posted) : thread.settled = thread := by
 unfold settled
 split
 · exact absurd rfl notPosted
 · rfl

theorem strand_drains (quiet : ∀ callout ∈ state.strand, callout.Harmless scripts) (consistent : state.Consistent) :
  (machine scripts).Reaches state
    { state with threads := fun index => (state.threads index).settled, strand := [] } := by
 obtain ⟨holder, count, threads, strand⟩ := state
 induction strand generalizing threads with
 | nil =>
  have settled : (fun index => (threads index).settled) = threads := by
   funext index
   exact Thread.settled_of_ne fun posted => nomatch (consistent.posted index).mp posted
  dsimp only
  rw [settled]
  exact .refl _
 | cons first others ih =>
  obtain ⟨caller, calls, sections, running⟩ := first
  obtain ⟨unlocked, silent⟩ := quiet _ mem_cons_self
  obtain rfl : sections = 0 := unlocked
  have begun : (machine scripts).Reaches ⟨holder, count, threads, ⟨caller, calls, 0, running⟩ :: others⟩
    ⟨holder, count, threads, ⟨caller, calls, 0, true⟩ :: others⟩ := by
   cases running with
   | true => exact .refl _
   | false => exact .head .begin rfl (.refl _)
  have posted : (threads caller).phase = .posted := (consistent.posted caller).mpr mem_cons_self
  let answered := update threads caller { threads caller with phase := .answered }
  have later : (machine scripts).Reaches ⟨holder, count, answered, others⟩
    ⟨holder, count, fun index => (answered index).settled, []⟩ :=
   ih answered (fun callout listed => quiet callout (mem_cons_of_mem _ listed)) (consistent.finish rfl)
  have same : (fun index => (answered index).settled) = fun index => (threads index).settled := by
   funext index
   by_cases here : index = caller
   · subst here
     rw [Thread.settled_posted posted, Thread.settled_of_ne (by simp [answered])]
     simp [answered]
   · simp [answered, here]
  refine begun.trans ((script_ends ⟨holder, count, threads, []⟩ caller others silent).trans ?_)
  rw [same] at later
  exact .head .finish rfl later

def State.remaining (state : State Hook Call) : Nat := ∑ index ∈ Finset.range state.count,
  (state.threads index).rest.length

structure Advances (state : State Hook Call) (index : Nat) (final : State Hook Call) : Prop where
 count : final.count = state.count
 own : (final.threads index).rest = (state.threads index).rest.tail
 others : ∀ other ≠ index, (final.threads other).rest = (state.threads other).rest

theorem rest_setPhase (index : Nat) (phase : Phase Hook) (other : Nat) :
  ((state.setPhase index phase).threads other).rest = (state.threads other).rest := by
 by_cases same : other = index
 · subst same
   simp [State.setPhase, State.set]
 · simp [State.setPhase, State.set, same]

theorem phase_setPhase (index : Nat) (phase : Phase Hook) :
  ((state.setPhase index phase).threads index).phase = phase := by
 simp [State.setPhase, State.set]

theorem Advances.later {middle final : State Hook Call} (advances : Advances middle index final)
  (count : middle.count = state.count) (same : ∀ other, (middle.threads other).rest = (state.threads other).rest) :
  Advances state index final where
 count := advances.count.trans count
 own := by rw [advances.own, same]
 others := fun other different => (advances.others other different).trans (same other)

theorem advances_done {access : Access Hook} {rest : List (Access Hook)}
  (program : (state.threads index).rest = access :: rest)
  (ready : (state.threads index).phase = .answered \/ (state.threads index).phase = .inside /\ access.hook = none) :
  ∃ final, (machine scripts).Reaches state final /\ Advances state index final := by
 let final : State Hook Call :=
  { state.set index { rest } with holder := if access.locks then none else state.holder }
 have done : step scripts state (.done index) = some final := by
  obtain ⟨locks, hook⟩ := access
  obtain answered | ⟨inside, rfl⟩ := ready
  · simp only [step, answered, program]
    rfl
  · simp only [step, inside, program]
    rfl
 refine ⟨final, .head (.done index) done (.refl _), rfl, ?_, fun other different => ?_⟩
 · simp [final, State.set, program]
 · simp [final, State.set, different]

section

variable {index : Nat} {access : Access Hook} {rest : List (Access Hook)}

theorem advances_consulted {hook : Hook} (harmless : scripts.Harmless) (consistent : state.Consistent)
  (drained : state.strand = []) (program : (state.threads index).rest = access :: rest)
  (phase : (state.threads index).phase = .consulted hook) :
  ∃ final, (machine scripts).Reaches state final /\ Advances state index final := by
 let posted : State Hook Call :=
  { state.setPhase index .posted with strand := state.strand ++ [{ caller := index, calls := scripts.script hook }] }
 have posts : step scripts state (.post index) = some posted := by
  simp only [step, phase]
  rfl
 have quiet : ∀ callout ∈ posted.strand, callout.Harmless scripts := by
  refine harmless_step harmless ?_ (step_inv scripts state posts)
  rw [drained]
  nofun
 let settled : State Hook Call := { posted with threads := fun index => (posted.threads index).settled, strand := [] }
 have drains : (machine scripts).Reaches posted settled := strand_drains quiet (consistent.post phase)
 have same (other : Nat) : (settled.threads other).rest = (state.threads other).rest :=
  (Thread.rest_settled _).trans (rest_setPhase index .posted other)
 have answered : (settled.threads index).phase = .answered :=
  congrArg Thread.phase (Thread.settled_posted (phase_setPhase index .posted))
 obtain ⟨final, reaches, advances⟩ := advances_done ((same index).trans program) (.inl answered)
 exact ⟨final, .head (.post index) posts (drains.trans reaches), advances.later rfl same⟩

theorem advances_inside (harmless : scripts.Harmless) (consistent : state.Consistent) (drained : state.strand = [])
  (program : (state.threads index).rest = access :: rest) (phase : (state.threads index).phase = .inside) :
  ∃ final, (machine scripts).Reaches state final /\ Advances state index final := by
 obtain ⟨locks, hook⟩ := access
 cases hook with
 | none => exact advances_done program (.inr ⟨phase, rfl⟩)
 | some hook =>
  have idle : state.Idle := by
   intro callout first
   rw [drained] at first
   cases first
  have consults : step scripts state (.consult index) = some (state.setPhase index (.consulted hook)) := by
   simp only [step, phase, program, if_pos idle]
  obtain ⟨final, reaches, advances⟩ := advances_consulted harmless (consistent.step (step_inv scripts state consults))
   drained ((rest_setPhase index _ index).trans program) (phase_setPhase index (.consulted hook))
  exact ⟨final, .head (.consult index) consults reaches, advances.later rfl (rest_setPhase index _)⟩

theorem advances (harmless : scripts.Harmless) (consistent : state.Consistent) (drained : state.strand = [])
  (program : (state.threads index).rest = access :: rest) (free : state.holder = none \/ state.holder = some index) :
  ∃ final, (machine scripts).Reaches state final /\ Advances state index final := by
 cases phase : (state.threads index).phase with
 | outside =>
  have unheld : state.holder = none := by
   obtain none | own := free
   · exact none
   · exact absurd ((consistent.holder index).mp own) (Thread.not_holds_outside phase)
  let entered : State Hook Call :=
   { state.setPhase index .inside with holder := if access.locks then some index else state.holder }
  have enters : step scripts state (.enter index) = some entered := by
   cases locks : access.locks with
   | true => simp [step, phase, program, locks, unheld, entered]
   | false =>
    simp [step, phase, program, locks, entered]
    rfl
  obtain ⟨final, reaches, advances⟩ := advances_inside harmless (consistent.step (step_inv scripts state enters))
   drained ((rest_setPhase index _ index).trans program) (phase_setPhase index .inside)
  exact ⟨final, .head (.enter index) enters reaches, advances.later rfl (rest_setPhase index _)⟩
 | inside => exact advances_inside harmless consistent drained program phase
 | consulted hook => exact advances_consulted harmless consistent drained program phase
 | posted =>
  have listed := (consistent.posted index).mp phase
  rw [drained] at listed
  cases listed
 | answered => exact advances_done program (.inl phase)

end

variable {final : State Hook Call}

theorem Advances.remaining {index : Nat} (advances : Advances state index final)
  (started : index < state.count) (unfinished : (state.threads index).rest ≠ []) :
  final.remaining < state.remaining := by
 unfold State.remaining
 rw [advances.count]
 refine Finset.sum_lt_sum (fun other _ => ?_) ⟨index, Finset.mem_range.mpr started, ?_⟩
 · by_cases same : other = index
   · subst same
     rw [advances.own, length_tail]
     exact sub_le _ _
   · rw [advances.others other same]
 · rw [advances.own, length_tail]
   have positive := length_pos_iff.mpr unfinished
   omega

structure Sound (scripts : Scripts Hook Call) (state : State Hook Call) : Prop where
 consistent : state.Consistent
 quiet : ∀ callout ∈ state.strand, callout.Harmless scripts

theorem Sound.initial : Sound scripts {} := ⟨.initial, nofun⟩

theorem Sound.step (harmless : scripts.Harmless) (sound : Sound scripts state) (step : Step scripts state next) :
  Sound scripts next :=
 ⟨sound.consistent.step step, harmless_step harmless sound.quiet step⟩

theorem Sound.reaches (harmless : scripts.Harmless) (sound : Sound scripts state)
  (reaches : (machine scripts).Reaches state final) : Sound scripts final := by
 obtain ⟨trace, ran⟩ := reaches
 refine (machine scripts).run_keeps (fun current action next sound taken => ?_) sound ran
 exact sound.step harmless (machine_step scripts current taken)

structure State.Finished (state : State Hook Call) : Prop where
 threads : ∀ index, (state.threads index).rest = []
 strand : state.strand = []
 holder : state.holder = none

theorem reaches_finished (harmless : scripts.Harmless) (sound : Sound scripts state) :
  ∃ final, (machine scripts).Reaches state final /\ final.Finished := by
 induction left : state.remaining using Nat.strong_induction_on generalizing state with
 | _ left ih =>
  let drained : State Hook Call := { state with threads := fun index => (state.threads index).settled, strand := [] }
  have drains : (machine scripts).Reaches state drained := strand_drains sound.quiet sound.consistent
  have rested := sound.reaches harmless drains
  have same : drained.remaining = state.remaining :=
   Finset.sum_congr rfl fun index _ => congrArg length (Thread.rest_settled (state.threads index))
  -- one thread gets on, and there is less to do
  have goesOn {index : Nat} (unfinished : (drained.threads index).rest ≠ [])
    (free : drained.holder = none \/ drained.holder = some index) :
    ∃ final, (machine scripts).Reaches state final /\ final.Finished := by
   obtain ⟨access, rest, program⟩ := exists_cons_of_ne_nil unfinished
   obtain ⟨middle, reaches, advances⟩ := advances harmless rested.consistent rfl program free
   have started : index < drained.count :=
    rested.consistent.known fun unused => unfinished (by rw [unused])
   have fewer := advances.remaining started unfinished
   obtain ⟨final, onwards, finished⟩ := ih middle.remaining (by omega) (rested.reaches harmless reaches) rfl
   exact ⟨final, drains.trans (reaches.trans onwards), finished⟩
  cases held : drained.holder with
  | some index =>
   obtain ⟨-, access, first, -⟩ := (rested.consistent.holder index).mp held
   refine goesOn (fun finished => ?_) (.inr held)
   rw [finished] at first
   cases first
  | none =>
   by_cases all : ∀ index, (drained.threads index).rest = []
   · exact ⟨drained, drains, all, rfl, held⟩
   · obtain ⟨index, unfinished⟩ := not_forall.mp all
     exact goesOn unfinished (.inl held)

end Dynaxis.Shared.Strand
