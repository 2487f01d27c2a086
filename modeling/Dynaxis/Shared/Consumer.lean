import Mathlib.Data.List.Basic

namespace Dynaxis.Shared

open List

universe u v

structure Consumer (State : Type u) (α : Type v) where
 step : State -> List α -> Option (State × List α)
 shrinks : ∀ {state buffer next rest}, step state buffer = some (next, rest) -> rest.length < buffer.length
 stable : ∀ {state buffer next rest}, step state buffer = some (next, rest) ->
  ∀ more, step state (buffer ++ more) = some (next, rest ++ more)

namespace Consumer

variable {State : Type u} {α : Type v} (consumer : Consumer State α)

def drainWith : Nat -> State -> List α -> State × List α
 | 0, state, buffer => (state, buffer)
 | fuel + 1, state, buffer =>
  match consumer.step state buffer with
  | none => (state, buffer)
  | some (next, rest) => drainWith fuel next rest

def drain (state : State) (buffer : List α) : State × List α :=
 consumer.drainWith buffer.length state buffer

@[simp] theorem step_nil (state : State) : consumer.step state [] = none := by
  cases taken : consumer.step state [] with
  | none => rfl
  | some result => exact absurd (consumer.shrinks taken) (Nat.not_lt_zero _)

variable {state : State} {buffer : List α}

theorem drainWith_eq_drain {fuel : Nat} (enough : buffer.length ≤ fuel) :
  consumer.drainWith fuel state buffer = consumer.drain state buffer := by
 -- Any two sufficient amounts of fuel give the same result.
 have agree : ∀ fuel other state (buffer : List α), buffer.length ≤ fuel -> buffer.length ≤ other ->
   consumer.drainWith fuel state buffer = consumer.drainWith other state buffer := by
  intro fuel
  induction fuel with
  | zero =>
   intro other state buffer short _
   obtain rfl : buffer = [] := by simpa using short
   cases other <;> simp [drainWith]
  | succ fuel ih =>
   intro other state buffer short long
   cases other with
   | zero =>
    obtain rfl : buffer = [] := by simpa using long
    simp [drainWith]
   | succ other =>
    cases taken : consumer.step state buffer with
    | none => simp only [drainWith, taken]
    | some result =>
     have less := consumer.shrinks taken
     simp only [drainWith, taken]
     exact ih other result.1 result.2 (by omega) (by omega)
 exact agree fuel buffer.length state buffer enough (Nat.le_refl _)

theorem drain_of_waits (waits : consumer.step state buffer = none) :
  consumer.drain state buffer = (state, buffer) := by
 rw [drain]
 cases buffer with
 | nil => rfl
 | cons first rest => simp only [length_cons, drainWith, waits]

theorem drain_of_step {next : State} {buffer rest : List α}
  (taken : consumer.step state buffer = some (next, rest)) :
  consumer.drain state buffer = consumer.drain next rest := by
 have less := consumer.shrinks taken
 rw [drain, <- consumer.drainWith_eq_drain (Nat.le_sub_one_of_lt less)]
 cases buffer with
 | nil => cases less
 | cons first others => simp only [length_cons, drainWith, taken, Nat.add_sub_cancel]

theorem drain_induction {motive : State -> List α -> Prop}
  (waits : ∀ state buffer, consumer.step state buffer = none -> motive state buffer)
  (takes : ∀ state buffer next rest, consumer.step state buffer = some (next, rest) -> motive next rest ->
    motive state buffer) (state : State) (buffer : List α) : motive state buffer := by
 induction size : buffer.length using Nat.strongRecOn generalizing state buffer with
 | ind size ih =>
  cases taken : consumer.step state buffer with
  | none => exact waits state buffer taken
  | some result =>
   have less := consumer.shrinks taken
   exact takes state buffer result.1 result.2 taken (ih _ (size ▸ less) _ _ rfl)

theorem drain_waits (state : State) (buffer : List α) :
  consumer.step (consumer.drain state buffer).1 (consumer.drain state buffer).2 = none := by
 induction state, buffer using consumer.drain_induction with
 | waits state buffer waits => rwa [consumer.drain_of_waits waits]
 | takes state buffer next rest taken ih => rwa [consumer.drain_of_step taken]

theorem drain_append (state : State) (buffer more : List α) : consumer.drain state (buffer ++ more) =
   consumer.drain (consumer.drain state buffer).1 ((consumer.drain state buffer).2 ++ more) := by
 induction state, buffer using consumer.drain_induction with
 | waits state buffer waits => rw [consumer.drain_of_waits waits]
 | takes state buffer next rest taken ih =>
  rw [consumer.drain_of_step taken, consumer.drain_of_step (consumer.stable taken more), ih]

def drainAll (start : State × List α) (chunks : List (List α)) : State × List α :=
 chunks.foldl (fun reached chunk => consumer.drain reached.1 (reached.2 ++ chunk)) start

theorem drainAll_eq (waits : consumer.step state buffer = none) (chunks : List (List α)) :
  consumer.drainAll (state, buffer) chunks = consumer.drain state (buffer ++ chunks.flatten) := by
 induction chunks generalizing state buffer with
 | nil => rw [flatten_nil, append_nil, consumer.drain_of_waits waits, drainAll, foldl_nil]
 | cons chunk rest ih =>
  rw [flatten_cons, <- append_assoc, consumer.drain_append state (buffer ++ chunk)]
  exact ih (consumer.drain_waits state (buffer ++ chunk))

end Consumer

end Dynaxis.Shared
