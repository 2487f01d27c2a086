import Dynaxis.Shared.Machine

namespace Dynaxis.Net

open Shared List Option

structure RetryBudget where
 budgetPerWindow : Nat := 0
 windowMs : Nat := 60000
 windowStartMs : Nat := 0
 usedInWindow : Nat := 0

namespace RetryBudget

def configure (budgetPerWindow windowMs : Nat) : RetryBudget := { budgetPerWindow, windowMs := max 1 windowMs }

section

variable (budget : RetryBudget) (now : Nat)

def rollWindow : RetryBudget :=
 if budget.windowStartMs = 0 then { budget with windowStartMs := now }
 else if now < budget.windowStartMs then { budget with windowStartMs := now, usedInWindow := 0 }
 else if budget.windowMs ≤ now - budget.windowStartMs then { budget with windowStartMs := now, usedInWindow := 0 }
 else budget

def consume : RetryBudget × Bool :=
 let rolled := budget.rollWindow now
 if rolled.budgetPerWindow ≤ rolled.usedInWindow then (rolled, false)
 else ({ rolled with usedInWindow := rolled.usedInWindow + 1 }, true)

def remaining : RetryBudget × Nat :=
 let rolled := budget.rollWindow now
 if rolled.budgetPerWindow ≤ rolled.usedInWindow then (rolled, 0)
 else (rolled, rolled.budgetPerWindow - rolled.usedInWindow)

end

inductive Call
 | consume (now : Nat)
 | remaining (now : Nat)

/-- A successful `consume` and the start of the window that it was counted in. -/
structure Retry where
 time : Nat
 window : Nat

structure Usage where
 budget : RetryBudget
 clock : Nat := 1
 retries : List Retry := []

def Usage.step (usage : Usage) : Call -> Option Usage
 | .consume now =>
  if now < usage.clock then none
  else
   let (budget, granted) := usage.budget.consume now
   some
    { budget
      clock := now
      retries := if granted then ⟨now, budget.windowStartMs⟩ :: usage.retries else usage.retries }
 | .remaining now =>
  if now < usage.clock then none
  else some { usage with budget := (usage.budget.remaining now).1, clock := now }

def machine : Machine Usage Call := { step := Usage.step }

/-- Windows that a retry was counted in start at least `w` apart, and none of them counts more than `b`. -/
structure Usage.Metered (b w : Nat) (usage : Usage) : Prop where
 budget : usage.budget.budgetPerWindow = b
 window : usage.budget.windowMs = w
 past : usage.budget.windowStartMs ≤ usage.clock /\ 1 ≤ usage.clock
 unstarted : usage.budget.windowStartMs = 0 -> usage.retries = []
 used : usage.retries.countP (fun retry => retry.window = usage.budget.windowStartMs) = usage.budget.usedInWindow
 counted : ∀ retry ∈ usage.retries, retry.window ≤ retry.time /\ retry.time < retry.window + w /\
  retry.time ≤ usage.clock /\
  (retry.window = usage.budget.windowStartMs \/ retry.window + w ≤ usage.budget.windowStartMs)
 apart : ∀ retry ∈ usage.retries, ∀ other ∈ usage.retries,
  retry.window < other.window + w -> other.window < retry.window + w -> retry.window = other.window
 capped : ∀ start, usage.retries.countP (fun retry => retry.window = start) ≤ b

variable {b w now : Nat} {usage next : Usage}

theorem Usage.Metered.roll (metered : usage.Metered b w) (positive : 1 ≤ w) (later : usage.clock ≤ now) :
  Metered b w { usage with budget := usage.budget.rollWindow now, clock := now } /\
   1 ≤ (usage.budget.rollWindow now).windowStartMs /\ now < (usage.budget.rollWindow now).windowStartMs + w := by
 obtain ⟨budget, window, past, unstarted, used, counted, apart, capped⟩ := metered
 unfold rollWindow
 split
 next fresh =>
  have none := unstarted fresh
  rw [none] at used
  refine ⟨⟨budget, window, by simp only; omega, fun _ => none, ?_, ?_, apart, capped⟩, by simp only; omega⟩
  · simpa [none] using used
  · simp [none]
 split
 -- The clock does not go back in a run, so the second branch of the roll is not taken.
 next early => omega
 split
 next ended =>
  refine ⟨⟨budget, window, by simp only; omega, by simp only; omega, ?_, fun retry member => ?_, apart, capped⟩,
   by simp only; omega⟩
  · refine countP_eq_zero.mpr fun retry member => ?_
    have := counted retry member
    simp only [decide_eq_true_eq]
    omega
  · have := counted retry member
    simp only
    omega
 next running =>
  refine ⟨⟨budget, window, by simp only; omega, unstarted, used, fun retry member => ?_, apart, capped⟩, by omega⟩
  have := counted retry member
  simp only
  omega

theorem Usage.Metered.step {call : Call} (metered : usage.Metered b w) (positive : 1 ≤ w)
  (taken : usage.step call = some next) : next.Metered b w := by
 cases call with
 | remaining now =>
  simp only [Usage.step, ite_none_left_eq_some, Nat.not_lt, some.injEq] at taken
  obtain ⟨later, rfl⟩ := taken
  simpa only [remaining, apply_ite Prod.fst, ite_self] using (metered.roll positive later).1
 | consume now =>
  simp only [Usage.step, ite_none_left_eq_some, Nat.not_lt, some.injEq] at taken
  obtain ⟨later, rfl⟩ := taken
  obtain ⟨rolled, started, running⟩ := metered.roll positive later
  by_cases spent : (usage.budget.rollWindow now).budgetPerWindow ≤ (usage.budget.rollWindow now).usedInWindow
  · simpa [consume, spent] using rolled
  · simp only [consume, spent, if_false, if_true]
    obtain ⟨budget, window, past, -, used, counted, apart, capped⟩ := rolled
    refine ⟨budget, window, past, ?_, ?_, ?_, ?_, fun start => ?_⟩
    · simp only
      omega
    · simpa using used
    · simpa using ⟨⟨past.1, running⟩, counted⟩
    · simp only [mem_cons]
      rintro retry (rfl | member) other (rfl | there) near far
      · rfl
      · have := counted other there
        simp only at *
        omega
      · have := counted retry member
        simp only at *
        omega
      · exact apart retry member other there near far
    · rw [countP_cons]
      split
      next same =>
       obtain rfl := of_decide_eq_true same
       simp only at used budget ⊢
       omega
      · exact capped start

/-- Retries whose windows start less than `w` apart are those of one window. -/
theorem Usage.Metered.one_window (metered : usage.Metered b w) (among : Retry -> Bool)
  (close : ∀ retry ∈ usage.retries, ∀ other ∈ usage.retries, among retry -> among other ->
    retry.window < other.window + w) : usage.retries.countP among ≤ b := by
 -- Any one of them names the window.
 by_cases found : ∃ retry ∈ usage.retries, among retry
 · obtain ⟨retry, member, chosen⟩ := found
   refine Nat.le_trans (countP_mono_left fun other there also => ?_) (metered.capped retry.window)
   exact decide_eq_true (metered.apart other there retry member (close other there retry member also chosen)
    (close retry member other there chosen also))
 · rw [countP_eq_zero.mpr fun retry member chosen => found ⟨retry, member, chosen⟩]
   exact Nat.zero_le b

/-- Windows start at calls, so an interval shorter than a window meets at most two of them. -/
theorem retries_are_bounded {b w : Nat} (positive : 1 ≤ w) {calls : List Call} {usage : Usage}
  (ran : machine.run { budget := configure b w } calls = some usage) :
  (∀ start, usage.retries.countP (fun retry => retry.window = start) ≤ b) /\
  (∀ first last, last < first + w -> usage.retries.countP (fun retry => first ≤ retry.time /\ retry.time ≤ last) ≤ 2 * b) /\
  ∀ now, usage.clock ≤ now -> (usage.budget.remaining now).2 ≤ b /\
   ((usage.budget.consume now).2 = false ->
     b ≤ usage.retries.countP fun retry => now < retry.time + w /\ retry.time ≤ now) := by
 have initial : Usage.Metered b w { budget := configure b w } := by
  refine ⟨rfl, Nat.max_eq_right positive, ⟨Nat.zero_le 1, Nat.le_refl 1⟩, ?_, rfl, ?_, ?_, ?_⟩ <;> simp
 have metered := machine.run_keeps (fun _ _ _ metered taken => metered.step positive taken) initial ran
 refine ⟨metered.capped, fun first last short => ?_, fun now later => ?_⟩
 · -- A retry of the interval is counted in a window that is running at its beginning, or in one that starts later.
   have split := countP_eq_countP_filter_add usage.retries
    (fun retry => first ≤ retry.time /\ retry.time ≤ last) fun retry => retry.window ≤ first
   rw [countP_filter, countP_filter] at split
   rw [split, Nat.two_mul]
   refine Nat.add_le_add (metered.one_window _ ?_) (metered.one_window _ ?_)
   all_goals
    intro retry member other there chosen also
    have := metered.counted retry member
    have := metered.counted other there
    simp only [Bool.and_eq_true, Bool.not_eq_true', decide_eq_true_eq, decide_eq_false_iff_not] at chosen also
    omega
 · obtain ⟨rolled, started, running⟩ := metered.roll positive later
   have budget := rolled.budget
   have used := rolled.used
   simp only at budget used
   unfold remaining consume
   constructor
   · simp only
     split
     · exact Nat.zero_le b
     · omega
   · simp only
     split
     next spent =>
      intro _
      rw [budget, <- used] at spent
      refine Nat.le_trans spent (countP_mono_left fun retry member same => ?_)
      have := rolled.counted retry member
      simp only [decide_eq_true_eq] at this same ⊢
      omega
     · nofun

theorem second_retry_is_refused :
  ∃ usage, machine.run { budget := configure 1 10 } [.consume 1, .consume 5, .remaining 10] = some usage /\
   usage.retries.countP (fun retry => retry.window = 1) ≤ 1 := by
 obtain ⟨usage, ran⟩ : ∃ usage, machine.run { budget := configure 1 10 }
  [.consume 1, .consume 5, .remaining 10] = some usage := ⟨_, rfl⟩
 exact ⟨usage, ran, (retries_are_bounded (by decide) ran).1 1⟩

end RetryBudget

end Dynaxis.Net
