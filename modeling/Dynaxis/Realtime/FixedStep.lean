import Mathlib

namespace Dynaxis.Realtime

structure FixedStepDriver where
 stepDuration : Nat
 maxCatchUpSteps : Nat
 accumulator : Nat := 0

namespace FixedStepDriver

def create (tickRateHz maxCatchUpSteps : Nat) : FixedStepDriver :=
 { stepDuration := 1000000000 / max 1 tickRateHz, maxCatchUpSteps := max 1 maxCatchUpSteps }

def takeSteps (stepDuration : Nat) : Nat -> Nat -> Nat × Nat
 | 0, accumulator => (0, accumulator)
 | left + 1, accumulator =>
  if stepDuration ≤ accumulator then
   let (steps, rest) := takeSteps stepDuration left (accumulator - stepDuration)
   (steps + 1, rest)
  else (0, accumulator)

def maxAccumulator (driver : FixedStepDriver) : Nat := driver.stepDuration * driver.maxCatchUpSteps

def consumeElapsed (driver : FixedStepDriver) (elapsed : Int) : FixedStepDriver × Nat :=
 if elapsed ≤ 0 then (driver, 0)
 else
  let accumulator := min (driver.accumulator + elapsed.toNat) driver.maxAccumulator
  let (steps, accumulator) := takeSteps driver.stepDuration driver.maxCatchUpSteps accumulator
  ({ driver with accumulator }, steps)

def run (driver : FixedStepDriver) : List Int -> FixedStepDriver × List Nat
 | [] => (driver, [])
 | elapsed :: rest =>
  let (driver, steps) := driver.consumeElapsed elapsed
  let (driver, later) := run driver rest
  (driver, steps :: later)

/-- No call has more than the accumulator may hold. -/
def Unclamped (driver : FixedStepDriver) : List Int -> Prop
 | [] => True
 | elapsed :: rest => driver.accumulator + elapsed.toNat ≤ driver.maxAccumulator /\
  (driver.consumeElapsed elapsed).1.Unclamped rest

theorem takeSteps_spec {stepDuration : Nat} (positive : 0 < stepDuration) (left accumulator : Nat)
  (held : accumulator ≤ stepDuration * left) :
  takeSteps stepDuration left accumulator = (accumulator / stepDuration, accumulator % stepDuration) := by
 -- The loop is a division as long as the cap on the steps does not end it early.
 induction left generalizing accumulator with
 | zero => simp_all [takeSteps]
 | succ left ih =>
  rw [takeSteps]
  split
  next enough =>
   rw [ih _ (by rw [Nat.mul_succ] at held; omega), Nat.div_eq_sub_div positive enough, Nat.mod_eq_sub_mod enough]
  next short => rw [Nat.div_eq_of_lt (by omega), Nat.mod_eq_of_lt (by omega)]

theorem consumeElapsed_spec {driver : FixedStepDriver} (positive : 0 < driver.stepDuration)
  (residual : driver.accumulator < driver.stepDuration) (elapsed : Int) : ∃ steps accumulator,
  driver.consumeElapsed elapsed = ({ driver with accumulator }, steps) /\ accumulator < driver.stepDuration /\
   steps ≤ driver.maxCatchUpSteps /\ (driver.accumulator + elapsed.toNat ≤ driver.maxAccumulator ->
    driver.stepDuration * steps + accumulator = driver.accumulator + elapsed.toNat) := by
 unfold consumeElapsed
 split
 next idle => exact ⟨0, driver.accumulator, rfl, residual, Nat.zero_le _, fun _ => by omega⟩
 next =>
  have taken := takeSteps_spec positive driver.maxCatchUpSteps
   (min (driver.accumulator + elapsed.toNat) driver.maxAccumulator) (Nat.min_le_right _ _)
  simp only [taken]
  refine ⟨_, _, rfl, Nat.mod_lt _ positive, ?_, fun unclamped => ?_⟩
  · exact Nat.div_le_of_le_mul (Nat.min_le_right _ _)
  · rw [Nat.min_eq_left unclamped, Nat.div_add_mod]

theorem run_spec (trace : List Int) {driver : FixedStepDriver} (positive : 0 < driver.stepDuration)
  (residual : driver.accumulator < driver.stepDuration) :
  (∀ steps ∈ (driver.run trace).2, steps ≤ driver.maxCatchUpSteps) /\
    (driver.run trace).1.accumulator < driver.stepDuration /\
    (driver.Unclamped trace -> driver.stepDuration * (driver.run trace).2.sum + (driver.run trace).1.accumulator =
      driver.accumulator + (trace.map Int.toNat).sum) := by
 induction trace generalizing driver with
 | nil => simpa [run] using residual
 | cons elapsed rest ih =>
  obtain ⟨steps, accumulator, call, left, bounded, exactly⟩ := consumeElapsed_spec positive residual elapsed
  obtain ⟨capped, final, total⟩ := @ih { driver with accumulator } positive left
  simp only [run, Unclamped, call, List.mem_cons, forall_eq_or_imp, List.sum_cons, List.map_cons, Nat.mul_add]
  refine ⟨⟨bounded, capped⟩, final, fun ⟨unclamped, later⟩ => ?_⟩
  have first := exactly unclamped
  have rest := total later
  simp only at rest
  omega

/-- The steps of a run are capped, the residual stays below a step, and unclamped calls lose no time. -/
theorem steps_conserve_time {tickRateHz : Nat} (maxCatchUpSteps : Nat) (trace : List Int)
  (rate : tickRateHz ≤ 1000000000) :
  let driver : FixedStepDriver := create tickRateHz maxCatchUpSteps
  (∀ steps ∈ (driver.run trace).2, steps ≤ max 1 maxCatchUpSteps) /\
    (driver.run trace).1.accumulator < driver.stepDuration /\
    (driver.Unclamped trace -> (driver.run trace).2.sum = (trace.map Int.toNat).sum / driver.stepDuration) := by
 intro driver
 have positive : 0 < driver.stepDuration := Nat.div_pos (by omega) (by omega)
 obtain ⟨capped, residual, total⟩ := run_spec trace positive positive
 refine ⟨capped, residual, fun unclamped => ?_⟩
 have conserved := total unclamped
 rw [show driver.accumulator = 0 from rfl, Nat.zero_add] at conserved
 rw [<- conserved, Nat.mul_add_div positive, Nat.div_eq_of_lt residual, Nat.add_zero]

theorem three_steps_in_two_calls : ((create 1000 4).run [2500000, -3, 600000]).2.sum = 3 :=
 ((steps_conserve_time 4 [2500000, -3, 600000] (by decide : 1000 ≤ 1000000000)).2.2
   ⟨by decide, by decide, by decide, trivial⟩).trans (by decide)

end FixedStepDriver

end Dynaxis.Realtime
