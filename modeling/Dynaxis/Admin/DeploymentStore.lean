import Dynaxis.Shared.Machine

namespace Dynaxis.Admin

open Shared

inductive File (Store : Type)
 | whole (store : Store)
 | cut

structure Directory (Store : Type) where
 path : Option (File Store)
 tmp : Option (File Store) := none
 backup : Option (File Store) := none

inductive SavePoint
 | opening
 | writing
 | testing
 | removing
 | backingUp
 | installing
 | restoring
 | cleaning
 | returned (written : Bool)
 deriving DecidableEq

variable {Store : Type}

def Directory.loadExtDeploymentsStore (directory : Directory Store) : Option Store :=
 match directory.path with
 | some (.whole store) => some store
 | some .cut | none => none

structure Saving (Store : Type) where
 directory : Directory Store
 point : SavePoint := .opening

namespace Saving

variable (store : Store)

section

variable (previous : Store) (saving : Saving Store)

/-- The operation happens or fails; a write that fails stops part way, and nobody looks. -/
def saveExtDeployments (happens : Bool) : Option (Saving Store) :=
 let directory := saving.directory
 match saving.point with
 | .opening =>
  if happens then some ⟨{ directory with tmp := some .cut }, .writing⟩ else some ⟨directory, .returned false⟩
 | .writing => some ⟨{ directory with tmp := some (if happens then .whole store else .cut) }, .testing⟩
 | .testing => some ⟨directory, if happens && directory.path.isSome then .removing else .installing⟩
 | .removing => some ⟨if happens then { directory with backup := none } else directory, .backingUp⟩
 | .backingUp =>
  some ⟨if happens then { directory with path := none, backup := directory.path } else directory, .installing⟩
 | .installing =>
  if happens then some ⟨{ directory with path := directory.tmp, tmp := none }, .cleaning⟩
  else some ⟨directory, .restoring⟩
 | .restoring =>
  some ⟨if happens && directory.backup.isSome then { directory with path := directory.backup, backup := none }
   else directory, .returned false⟩
 | .cleaning => some ⟨if happens then { directory with backup := none } else directory, .returned true⟩
 | .returned _ => none

def machine : Machine (Saving Store) Bool := ⟨saveExtDeployments store⟩

abbrev Exposed : Prop := saving.point = .installing /\ saving.directory.path = none

abbrev Installs (happens : Bool) : Prop :=
 saving.point = .writing \/ saving.point = .installing -> happens = true

structure Intact : Prop where
 old : saving.point ≠ .cleaning -> saving.point ≠ .returned true ->
  saving.directory.path = some (.whole previous) \/ saving.Exposed
 new : saving.point ∉ [.opening, .writing, .cleaning, .returned true, .returned false] ->
  saving.directory.tmp = some (.whole store)
 installed : saving.point = .cleaning \/ saving.point = .returned true ->
  saving.directory.path = some (.whole store)
 fails : saving.point ≠ .restoring

end

theorem Intact.step {previous : Store} {saving next : Saving Store} {happens : Bool}
  (intact : Intact store previous saving) (installs : saving.Installs happens)
  (taken : (machine store).step saving happens = some next) : Intact store previous next := by
 obtain ⟨old, new, installed, fails⟩ := intact
 obtain ⟨directory, point⟩ := saving
 change saveExtDeployments store ⟨directory, point⟩ happens = some next at taken
 cases point <;> cases happens <;> simp [saveExtDeployments] at taken <;> subst taken <;>
  constructor <;> simp_all [Exposed, Installs]

/-- Wherever the process is gone, but between the two renames, the next one finds the old
deployments or the new ones; between them it finds none. -/
theorem save_is_atomic (previous : Store) (directory : Directory Store)
  (saved : directory.path = some (.whole previous)) (trace : List Bool) (final : Saving Store)
  (installs : (machine store).Guarded Installs ⟨directory, .opening⟩ trace)
  (ran : (machine store).run ⟨directory, .opening⟩ trace = some final) :
  (final.directory.loadExtDeploymentsStore = some previous \/ final.directory.loadExtDeploymentsStore = some store) ↔
   ¬ final.Exposed := by
 have initial : Intact store previous ⟨directory, .opening⟩ := by constructor <;> simp [saved]
 have intact : Intact store previous final :=
  (machine store).run_invariant (fun _ _ _ intact installs taken => intact.step store installs taken) initial installs
    ran
 constructor
 · rintro found ⟨-, nothing⟩
   simp [Directory.loadExtDeploymentsStore, nothing] at found
 · intro outside
   by_cases done : final.point = .cleaning \/ final.point = .returned true
   · exact .inr (by simp [Directory.loadExtDeploymentsStore, intact.installed done])
   · rw [not_or] at done
     have kept := (intact.old done.1 done.2).resolve_right outside
     exact .inl (by simp [Directory.loadExtDeploymentsStore, kept])

theorem crash_before_first_rename_keeps_store :
  ∃ final, (machine 2).run ⟨{ path := some (.whole 1), backup := some .cut }, .opening⟩
   [true, true, true, true] = some final /\ (final.directory.loadExtDeploymentsStore = some 1 \/
    final.directory.loadExtDeploymentsStore = some 2) :=
 ⟨_, rfl, (save_is_atomic 2 1 { path := some (.whole 1), backup := some .cut } rfl [true, true, true, true] _
   (by decide) rfl).mpr (by decide)⟩

theorem crash_between_renames_loses_store :
  ¬ ∀ (previous store : Nat) (directory : Directory Nat), directory.path = some (.whole previous) ->
   ∀ (trace : List Bool) (final : Saving Nat), (∀ happens ∈ trace, happens = true) ->
    (machine store).run ⟨directory, .opening⟩ trace = some final ->
    final.directory.loadExtDeploymentsStore = some previous \/
     final.directory.loadExtDeploymentsStore = some store := by
 intro claim
 have lost := claim 1 2 { path := some (.whole 1) } rfl [true, true, true, true, true] _ (by simp) rfl
 revert lost
 decide

-- the other half of the condition: a dump that is cut off gets the name of the store
example : ∃ final, (machine 2).run ⟨{ path := some (.whole 1) }, .opening⟩
  [true, false, true, true, true, true, true] =
  some final /\ final.point = .returned true /\ final.directory.loadExtDeploymentsStore = none :=
 ⟨_, rfl, rfl, rfl⟩

end Saving

end Dynaxis.Admin
