import Mathlib.Logic.Basic

/-! Unsigned words are naturals and signed words are integers; the functions below reduce an exact result to
the width at which the code stores it. -/

namespace Dynaxis.Shared

def u32 (value : Nat) : Nat := value % 4294967296

def u64 (value : Nat) : Nat := value % 18446744073709551616

def u32Sub (left right : Nat) : Nat := u32 (left + (4294967296 - u32 right))

def i32 (value : Int) : Int := (value + 2147483648) % 4294967296 - 2147483648

def i64 (value : Int) : Int := (value + 9223372036854775808) % 18446744073709551616 - 9223372036854775808

variable {value : Nat}

theorem u32_of_lt (bound : value < 4294967296) : u32 value = value :=
 Nat.mod_eq_of_lt bound

theorem u64_of_lt (bound : value < 18446744073709551616) : u64 value = value :=
 Nat.mod_eq_of_lt bound

theorem foldl_counts {State Entry : Type} (step : State -> Entry -> State) (total : State -> Nat)
  (counts : ∀ state entry,
    total (step state entry) ≤ total state + 1 /\ u32 (total (step state entry)) = u32 (total state + 1))
  (entries : List Entry) (state : State) :
  total (entries.foldl step state) ≤ total state + entries.length /\
   u32 (total (entries.foldl step state)) = u32 (total state + entries.length) := by
 induction entries generalizing state with
 | nil => exact ⟨Nat.le_refl _, rfl⟩
 | cons entry rest ih =>
  obtain ⟨atMost, wrapped⟩ := ih (step state entry)
  obtain ⟨stepAtMost, stepWrapped⟩ := counts state entry
  simp only [u32, List.foldl_cons, List.length_cons] at wrapped stepWrapped ⊢
  omega

end Dynaxis.Shared
