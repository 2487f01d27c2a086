import Dynaxis.Shared.Machine

/-! Calls of one Lua hook against reloads of the scripts: a call reads the epoch of the runtime, passes a first section
that may reset the hook or find it disabled, runs the scripts, and counts its outcome in a second section. -/

namespace Dynaxis.Chat

open Shared List

structure LuaMetrics where
 reloadEpoch : Nat := 0
 consecutiveFailures : Nat := 0
 disabled : Bool := false

namespace LuaMetrics

def enter (metrics : LuaMetrics) (epoch : Nat) : LuaMetrics :=
 if epoch ≠ metrics.reloadEpoch then { reloadEpoch := epoch } else metrics

def complete (threshold : Nat) (metrics : LuaMetrics) (callFailed : Bool) : LuaMetrics :=
 if callFailed then
  let consecutive := metrics.consecutiveFailures + 1
  { metrics with
    consecutiveFailures := consecutive
    disabled := metrics.disabled || (threshold > 0 && consecutive ≥ threshold) }
 else { metrics with consecutiveFailures := 0 }

end LuaMetrics

/-- Calls are told apart by the epoch they start in; `completed` has the latest outcome first. -/
structure ColdHook where
 epoch : Nat := 0
 metrics : LuaMetrics := {}
 sampled : List Nat := []
 running : List Nat := []
 completed : List (Nat × Bool) := []

inductive HookEvent
 | reload
 | sample
 | enter (epoch : Nat)
 | complete (epoch : Nat) (callFailed : Bool)

namespace ColdHook

section

variable (threshold : Nat) (start hook : ColdHook)

def step : HookEvent -> Option ColdHook
 | .reload => some { hook with epoch := hook.epoch + 1 }
 | .sample => some { hook with sampled := hook.epoch :: hook.sampled }
 | .enter epoch =>
  if epoch ∈ hook.sampled then
   let metrics := hook.metrics.enter epoch
   some
    { hook with
      metrics
      sampled := hook.sampled.erase epoch
      running := if metrics.disabled then hook.running else epoch :: hook.running }
  else none
 | .complete epoch callFailed =>
  if epoch ∈ hook.running then
   some
    { hook with
      metrics := hook.metrics.complete threshold callFailed
      running := hook.running.erase epoch
      completed := (epoch, callFailed) :: hook.completed }
  else none

abbrev machine : Machine ColdHook HookEvent := ⟨step threshold⟩

/-- A call enters in the epoch it read, and completes before a call of a later epoch enters. -/
def Timely : HookEvent -> Prop
 | .enter epoch => epoch = hook.epoch
 | .complete epoch _ => epoch = hook.metrics.reloadEpoch
 | .reload | .sample => True

/-- The record of the hook, in a state that follows `start`: only a later epoch enables a disabled hook. -/
structure Sound : Prop where
 recorded : hook.metrics.reloadEpoch ≤ hook.epoch
 failing : replicate hook.metrics.consecutiveFailures (hook.metrics.reloadEpoch, true) <+: hook.completed
 blamed : hook.metrics.disabled -> replicate threshold (hook.metrics.reloadEpoch, true) <:+: hook.completed
 since : start.metrics.reloadEpoch ≤ hook.metrics.reloadEpoch
 stays : hook.metrics.reloadEpoch = start.metrics.reloadEpoch -> start.metrics.disabled -> hook.metrics.disabled

end

variable {threshold : Nat} {start hook next : ColdHook}

theorem Sound.complete (sound : Sound threshold start hook) (callFailed : Bool) (running : List Nat) :
  Sound threshold start { hook with
   metrics := hook.metrics.complete threshold callFailed, running
   completed := (hook.metrics.reloadEpoch, callFailed) :: hook.completed } := by
 obtain ⟨recorded, failing, blamed, since, stays⟩ := sound
 cases callFailed with
 | false =>
  exact ⟨recorded, nil_prefix, fun disabled => (blamed disabled).trans (suffix_cons ..).isInfix, since, stays⟩
 | true =>
  have longer : replicate (hook.metrics.consecutiveFailures + 1) (hook.metrics.reloadEpoch, true) <+:
   (hook.metrics.reloadEpoch, true) :: hook.completed := prefix_cons_inj _ |>.mpr failing
  refine ⟨recorded, longer, fun disabled => ?_, since, fun same before => ?_⟩
  · obtain already | reached := Bool.or_eq_true _ _ |>.mp disabled
    · exact (blamed already).trans (suffix_cons ..).isInfix
    · have enough : threshold ≤ hook.metrics.consecutiveFailures + 1 := by simp_all
      have shorter := take_prefix threshold (replicate (hook.metrics.consecutiveFailures + 1)
       (hook.metrics.reloadEpoch, true))
      rw [take_replicate, Nat.min_eq_left enough] at shorter
      exact (shorter.trans longer).isInfix
  · exact Bool.or_eq_true _ _ |>.mpr (.inl (stays same before))

theorem Sound.step (sound : Sound threshold start hook) {event : HookEvent} (timely : hook.Timely event)
  (taken : hook.step threshold event = some next) : Sound threshold start next := by
 cases event with
 | reload =>
  cases taken
  exact { sound with recorded := Nat.le_succ_of_le sound.recorded }
 | sample =>
  cases taken
  exact { sound with }
 | enter epoch =>
  obtain rfl : epoch = hook.epoch := timely
  obtain ⟨-, ⟨⟩⟩ := Option.ite_none_right_eq_some.mp taken
  obtain ⟨recorded, failing, blamed, since, stays⟩ := sound
  by_cases same : hook.epoch = hook.metrics.reloadEpoch
  · simp only [LuaMetrics.enter, same, ne_eq, not_true_eq_false, if_false]
    exact ⟨.refl, failing, blamed, since, stays⟩
  · simp only [LuaMetrics.enter, same, ne_eq, not_false_eq_true, if_true]
    exact ⟨.refl, nil_prefix, nofun, Nat.le_trans since recorded, fun (back : hook.epoch = _) => by omega⟩
 | complete epoch callFailed =>
  obtain rfl : epoch = hook.metrics.reloadEpoch := timely
  obtain ⟨-, ⟨⟩⟩ := Option.ite_none_right_eq_some.mp taken
  exact sound.complete callFailed _

/-- The failures of one epoch, one after the other, disable the hook, and it stays so while that epoch is recorded. -/
theorem disabled_by_its_own_failures {trace rest : List HookEvent} {final : ColdHook}
  (timely : (machine threshold).Guarded Timely {} trace) (ran : (machine threshold).run {} trace = some hook)
  (disabled : hook.metrics.disabled) (continued : (machine threshold).run hook rest = some final)
  (later : (machine threshold).Guarded Timely hook rest) :
  replicate threshold (hook.metrics.reloadEpoch, true) <:+: hook.completed /\
   (final.metrics.reloadEpoch = hook.metrics.reloadEpoch -> final.metrics.disabled) := by
 have initial : Sound threshold {} {} := ⟨.refl, nil_prefix, nofun, .refl, fun _ => id⟩
 have sound : Sound threshold {} hook :=
  (machine threshold).run_invariant (fun _ _ _ sound => sound.step) initial timely ran
 have after : Sound threshold hook final := (machine threshold).run_invariant (fun _ _ _ sound => sound.step)
  { sound with since := .refl, stays := fun _ => id } later continued
 exact ⟨sound.blamed disabled, fun same => after.stays same disabled⟩

theorem disabled_by_two_failures :
  let trace : List HookEvent := [.sample, .enter 0, .complete 0 true, .reload, .sample, .sample, .enter 1, .enter 1,
   .complete 1 true, .complete 1 true]
  ∃ hook final, (machine 2).run {} trace = some hook /\ [(1, true), (1, true)] <:+: hook.completed /\
   (machine 2).run hook [.sample, .enter 1, .reload, .sample] = some final /\ final.metrics.disabled := by
 intro trace
 have timely : (machine 2).Guarded Timely {} trace := by
  simp [trace, Machine.Guarded, Timely, step, LuaMetrics.enter, LuaMetrics.complete]
 have later : (machine 2).Guarded Timely { epoch := 1, metrics := ⟨1, 2, true⟩, completed := [(1, true), (1, true), (0, true)] }
   [.sample, .enter 1, .reload, .sample] := by
  simp [Machine.Guarded, Timely, step, LuaMetrics.enter]
 obtain ⟨blamed, stays⟩ := disabled_by_its_own_failures timely rfl rfl rfl later
 exact ⟨_, _, rfl, blamed, rfl, stays rfl⟩

theorem disabled_by_an_older_failure :
  ∃ trace hook, (machine 1).run {} trace = some hook /\ hook.metrics.disabled /\
   hook.metrics.reloadEpoch = hook.epoch /\ ∀ outcome ∈ hook.completed, outcome.1 ≠ hook.epoch :=
 ⟨[.sample, .enter 0, .reload, .sample, .enter 1, .complete 0 true], _, rfl, rfl, rfl, by decide⟩

end ColdHook

end Dynaxis.Chat
