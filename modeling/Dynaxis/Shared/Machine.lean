import Mathlib.Logic.Basic

/-! An action that is not enabled in a state yields `none`, so a trace either runs to one state or does not run at
all. -/

namespace Dynaxis.Shared

open List Option

universe u v w

structure Machine (State : Type u) (Action : Type v) where
 step : State -> Action -> Option State

namespace Machine

variable {State : Type u} {Action : Type v} (machine : Machine State Action)

def run : State -> List Action -> Option State
 | state, [] => some state
 | state, action :: rest => (machine.step state action).bind fun next => run next rest

def Guarded (guard : State -> Action -> Prop) : State -> List Action -> Prop
 | _, [] => True
 | state, action :: rest =>
  guard state action /\ ∀ next, machine.step state action = some next -> Guarded guard next rest

instance decidableGuarded (guard : State -> Action -> Prop) [∀ state action, Decidable (guard state action)] :
  (state : State) -> (trace : List Action) -> Decidable (machine.Guarded guard state trace)
 | _, [] => isTrue trivial
 | state, action :: rest =>
  match taken : machine.step state action with
  | none =>
   decidable_of_iff (guard state action)
    ⟨fun allowed => ⟨allowed, fun next impossible => nomatch taken.symm.trans impossible⟩,
      fun allowed => allowed.1⟩
  | some next =>
   have := decidableGuarded guard next rest
   decidable_of_iff (guard state action /\ machine.Guarded guard next rest)
    ⟨fun allowed => ⟨allowed.1, fun other same => by
       obtain rfl := Option.some.inj (taken.symm.trans same)
       exact allowed.2⟩,
      fun allowed => ⟨allowed.1, allowed.2 next taken⟩⟩

@[simp] theorem run_nil (state : State) : machine.run state [] = some state := rfl

theorem run_cons (state : State) (action : Action) (rest : List Action) : machine.run state (action :: rest) =
   (machine.step state action).bind fun next => machine.run next rest := rfl

variable {state final : State} {action : Action} {trace : List Action}
 {guard other : State -> Action -> Prop} {invariant : State -> Prop}

theorem run_cons_some {rest : List Action} : machine.run state (action :: rest) = some final ↔
   ∃ next, machine.step state action = some next /\ machine.run next rest = some final := by
 simp [run_cons, bind_eq_some_iff]

theorem run_append (state : State) (before after : List Action) :
  machine.run state (before ++ after) = (machine.run state before).bind fun middle => machine.run middle after := by
 induction before generalizing state with
 | nil => rfl
 | cons action rest ih =>
  cases taken : machine.step state action with
  | none => simp [run_cons, taken]
  | some next => simp [run_cons, taken, ih]

theorem exists_final {property : State -> Prop} (met : ∃ final ∈ machine.run state trace, property final) :
  ∃ final, machine.run state trace = some final /\ property final := met

theorem guarded_of_forall (allowed : ∀ action ∈ trace, ∀ state, guard state action) (state : State) :
  machine.Guarded guard state trace := by
 induction trace generalizing state with
 | nil => trivial
 | cons action rest ih =>
  refine ⟨allowed action mem_cons_self state, fun next _ => ?_⟩
  exact ih (fun other member => allowed other (mem_cons_of_mem _ member)) next

theorem guarded_and (left : machine.Guarded guard state trace) (right : machine.Guarded other state trace) :
  machine.Guarded (fun state action => guard state action /\ other state action) state trace := by
 induction trace generalizing state with
 | nil => trivial
 | cons action rest ih => exact ⟨⟨left.1, right.1⟩, fun next taken => ih (left.2 next taken) (right.2 next taken)⟩

theorem run_invariant (kept : ∀ state action next, invariant state -> guard state action ->
  machine.step state action = some next -> invariant next) (initial : invariant state)
  (allowed : machine.Guarded guard state trace) (ran : machine.run state trace = some final) : invariant final := by
 induction trace generalizing state with
 | nil =>
  obtain rfl : state = final := by simpa using ran
  exact initial
 | cons action rest ih =>
  obtain ⟨next, taken, continued⟩ := machine.run_cons_some.mp ran
  exact ih (kept state action next initial allowed.1 taken) (allowed.2 next taken) continued

theorem run_keeps (kept : ∀ state action next, invariant state -> machine.step state action = some next -> invariant next)
  (initial : invariant state)
  (ran : machine.run state trace = some final) : invariant final :=
 have allowed := machine.guarded_of_forall (fun _ _ _ => trivial) state
 machine.run_invariant (fun state action next holds (_ : True) => kept state action next holds) initial allowed ran

theorem guarded_of_invariant (kept : ∀ state action next, invariant state -> guard state action ->
  machine.step state action = some next -> invariant next)
  (implied : ∀ state action, invariant state -> guard state action -> other state action) (initial : invariant state)
  (allowed : machine.Guarded guard state trace) : machine.Guarded other state trace := by
 induction trace generalizing state with
 | nil => trivial
 | cons action rest ih =>
  refine ⟨implied state action initial allowed.1, fun next taken => ?_⟩
  exact ih (kept state action next initial allowed.1 taken) (allowed.2 next taken)

theorem guarded_mono (weaker : ∀ state action, guard state action -> other state action)
  (allowed : machine.Guarded guard state trace) : machine.Guarded other state trace :=
 machine.guarded_of_invariant (fun _ _ _ _ _ _ => trivial)
  (fun state action _ => weaker state action) trivial allowed

def Reaches (state final : State) : Prop := ∃ trace, machine.run state trace = some final

variable {machine} in
theorem Reaches.refl (state : State) : machine.Reaches state state := ⟨[], rfl⟩

variable {machine} in
theorem Reaches.head {next : State} (action : Action) (taken : machine.step state action = some next)
  (reaches : machine.Reaches next final) : machine.Reaches state final := by
 obtain ⟨trace, ran⟩ := reaches
 exact ⟨action :: trace, machine.run_cons_some.mpr ⟨next, taken, ran⟩⟩

variable {machine} in
theorem Reaches.trans {middle : State} (first : machine.Reaches state middle)
  (second : machine.Reaches middle final) : machine.Reaches state final := by
 obtain ⟨before, ran⟩ := first
 obtain ⟨after, continued⟩ := second
 exact ⟨before ++ after, by rw [run_append, ran]; exact continued⟩

structure Endless (start : State) (states : Nat -> State) (actions : Nat -> Action) : Prop where
 starts : states 0 = start
 steps : ∀ n, machine.step (states n) (actions n) = some (states (n + 1))

variable {machine} in
theorem Endless.append (ran : machine.run state trace = some final)
  {states : Nat -> State} {actions : Nat -> Action} (run : machine.Endless final states actions) :
  ∃ before taken, machine.Endless state before taken /\
   (∀ n, before (n + trace.length) = states n /\ taken (n + trace.length) = actions n) /\
   ∀ n, taken n ∈ trace \/ ∃ m, taken n = actions m := by
 induction trace generalizing state with
 | nil =>
  cases ran
  exact ⟨states, actions, run, fun n => ⟨rfl, rfl⟩, fun n => .inr ⟨n, rfl⟩⟩
 | cons action rest ih =>
  obtain ⟨next, taken, continued⟩ := machine.run_cons_some.mp ran
  obtain ⟨before, actions, run, same, member⟩ := ih continued
  refine ⟨fun | 0 => state | n + 1 => before n, fun | 0 => action | n + 1 => actions n, ⟨rfl, ?_⟩, same, ?_⟩
  · rintro (_ | n)
    · exact taken.trans (congrArg some run.starts.symm)
    · exact run.steps n
  · rintro (_ | n)
    · exact .inl mem_cons_self
    · exact (member n).imp_left (mem_cons_of_mem _)

def visited : State -> List Action -> List State
 | state, [] => [state]
 | state, action :: rest =>
  match machine.step state action with
  | none => [state]
  | some next => state :: visited next rest

theorem visited_invariant {invariant : List State -> State -> Prop}
  (kept : ∀ history state action next, invariant history state -> guard state action ->
    machine.step state action = some next -> invariant (history ++ [next]) next) (initial : invariant [state] state)
  (allowed : machine.Guarded guard state trace) (ran : machine.run state trace = some final) :
  invariant (machine.visited state trace) final := by
 have extended : ∀ earlier state, invariant (earlier ++ [state]) state ->
   machine.Guarded guard state trace -> machine.run state trace = some final ->
   invariant (earlier ++ machine.visited state trace) final := by
  clear initial allowed ran
  induction trace with
  | nil =>
   intro earlier state holds _ ran
   obtain rfl : state = final := by simpa using ran
   exact holds
  | cons action rest ih =>
   intro earlier state holds allowed ran
   obtain ⟨next, taken, continued⟩ := machine.run_cons_some.mp ran
   have later := ih (earlier ++ [state]) next (kept _ _ _ _ holds allowed.1 taken) (allowed.2 next taken) continued
   simpa only [visited, taken, append_assoc, singleton_append] using later
 exact extended [] state initial allowed ran

def annotate {Note : Type w} (note : State -> Action -> Note -> Note) : Machine (State × Note) Action where
 step state action := (machine.step state.1 action).map fun next => (next, note state.1 action state.2)

theorem annotate_step_some {Note : Type w} {note : State -> Action -> Note -> Note} {state next : State × Note} :
  (machine.annotate note).step state action = some next ↔
    machine.step state.1 action = some next.1 /\ note state.1 action state.2 = next.2 := by
 constructor
 · intro taken
   obtain ⟨after, stepped, rfl⟩ := map_eq_some_iff.mp taken
   exact ⟨stepped, rfl⟩
 · rintro ⟨stepped, noted⟩
   exact map_eq_some_iff.mpr ⟨next.1, stepped, Prod.ext rfl noted⟩

end Machine

theorem foldl_keeps {Entry State Field : Type} (step : State -> Entry -> State) (field : State -> Field)
  (kept : ∀ state entry, field (step state entry) = field state) (entries : List Entry) (state : State) :
  field (entries.foldl step state) = field state := by
 induction entries generalizing state with
 | nil => rfl
 | cons entry rest ih => rw [foldl_cons, ih, kept]

end Dynaxis.Shared
