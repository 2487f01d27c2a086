import Dynaxis.Shared.Machine
import Dynaxis.Shared.Word
import Mathlib.Data.List.Nodup

namespace Dynaxis.Memory

open Shared List

/-- The chunk starts at `base`; `nullptr` is `none`, and the head of the free list is its top. -/
structure MemoryPool where
 blockSize : Nat
 blockCount : Nat := 0
 base : Nat
 chunkSize : Nat := 0
 freeList : List Nat := []

namespace MemoryPool

def blocks (base blockSize blockCount : Nat) : List Nat := (range blockCount).map fun index => base + index * blockSize

def create (base blockSize blockCount : Nat) : MemoryPool :=
 if blockSize = 0 \/ blockCount = 0 then { blockSize, base }
 else
  { blockSize, blockCount, base
    chunkSize := u64 (blockSize * blockCount)
    freeList := ((range blockCount).map fun index => base + u64 (index * blockSize)).reverse }

def acquire (pool : MemoryPool) : MemoryPool × Option Nat :=
 match pool.freeList with
 | [] => (pool, none)
 | pointer :: rest => ({ pool with freeList := rest }, some pointer)

def release (pool : MemoryPool) : Option Nat -> MemoryPool
 | none => pool
 | some pointer =>
  if pool.chunkSize = 0 \/ pool.blockSize = 0 \/ pool.blockCount = 0 then pool
  else if pointer < pool.base \/ pool.base + pool.chunkSize ≤ pointer then pool
  else if (pointer - pool.base) % pool.blockSize ≠ 0 then pool
  else if pool.blockCount ≤ pool.freeList.length then pool
  else { pool with freeList := pointer :: pool.freeList }

inductive Call
 | acquire
 | release (pointer : Option Nat)

/-- A caller holds what it has acquired and not released since. -/
structure Usage where
 pool : MemoryPool
 held : List Nat := []

def machine : Machine Usage Call where
 step usage
  | .acquire => some { pool := usage.pool.acquire.1, held := usage.pool.acquire.2.toList ++ usage.held }
  | .release pointer => some { pool := usage.pool.release pointer, held := pointer.elim usage.held usage.held.erase }

/-- A `PooledBuffer` owns one block, and its deleter runs once; `none` is `Acquire`. -/
def bufferManager : Machine Usage (Option Nat) where
 step usage
  | none => machine.step usage .acquire
  | some block => if block ∈ usage.held then machine.step usage (.release block) else none

/-- A block that is free is released at most while all blocks are free. -/
def Careful (usage : Usage) : Call -> Prop
 | .acquire => True
 | .release pointer => ∀ block ∈ pointer, block ∈ usage.pool.freeList -> usage.held = []

/-- Every block is free or held, and only once. -/
def Intact (base blockSize blockCount : Nat) (usage : Usage) : Prop :=
 ∃ freeList, usage.pool = { blockSize, blockCount, base, chunkSize := blockSize * blockCount, freeList } /\
  (freeList ++ usage.held).Perm (blocks base blockSize blockCount)

variable {base blockSize blockCount : Nat} {usage next : Usage}

theorem length_blocks {freeList held : List Nat}
  (whole : (freeList ++ held).Perm (blocks base blockSize blockCount)) :
  freeList.length + held.length = blockCount := by
 simpa [blocks] using whole.length_eq

section

variable (positive : 1 ≤ blockSize)

include positive

theorem nodup_blocks : (blocks base blockSize blockCount).Nodup := by
 refine nodup_range.map fun index other same => ?_
 exact Nat.eq_of_mul_eq_mul_right positive (Nat.add_left_cancel same)

theorem mem_blocks (pointer : Nat) : pointer ∈ blocks base blockSize blockCount ↔
   base ≤ pointer /\ pointer < base + blockSize * blockCount /\ (pointer - base) % blockSize = 0 := by
 simp only [blocks, mem_map, mem_range]
 constructor
 · rintro ⟨index, inside, rfl⟩
   refine ⟨Nat.le_add_right _ _, ?_, by rw [Nat.add_sub_cancel_left, Nat.mul_mod_left]⟩
   rw [Nat.mul_comm blockSize]
   exact Nat.add_lt_add_left (Nat.mul_lt_mul_of_pos_right inside positive) base
 · rintro ⟨above, below, aligned⟩
   refine ⟨(pointer - base) / blockSize, Nat.div_lt_of_lt_mul (by omega), ?_⟩
   rw [Nat.div_mul_cancel (Nat.dvd_of_mod_eq_zero aligned), Nat.add_sub_cancel' above]

theorem Intact.step {call : Call} (intact : Intact base blockSize blockCount usage) (careful : Careful usage call)
  (taken : machine.step usage call = some next) : Intact base blockSize blockCount next := by
 obtain ⟨pool, held⟩ := usage
 obtain ⟨freeList, rfl, whole⟩ := intact
 have length : freeList.length + held.length = blockCount := length_blocks whole
 cases call with
 | acquire =>
  obtain rfl := Option.some.inj taken
  cases freeList with
  | nil => exact ⟨[], rfl, whole⟩
  | cons first rest => exact ⟨rest, rfl, perm_middle.trans whole⟩
 | release pointer =>
  obtain rfl := Option.some.inj taken
  cases pointer with
  | none => exact ⟨freeList, rfl, whole⟩
  | some pointer =>
   -- The checks find out whether the pointer is a block, but not whether that block is free.
   have either := mem_append.symm.trans (whole.mem_iff.trans (mem_blocks positive pointer))
   by_cases holding : pointer ∈ held
   · have block := either.mp (.inr holding)
     have short := length_pos_of_mem holding
     refine ⟨pointer :: freeList, ?_, perm_middle.symm.trans (((perm_cons_erase holding).symm.append_left _).trans whole)⟩
     simp only [release]
     split_ifs <;> first | rfl | omega
   · refine ⟨freeList, ?_, by rwa [Option.elim_some, erase_of_not_mem holding]⟩
     simp only [release]
     split_ifs <;> try rfl
     have free := (either.mpr ⟨by omega, by omega, by omega⟩).resolve_right holding
     rw [show held = [] from careful pointer rfl free, length_nil] at length
     omega

theorem create_intact (nonempty : 1 ≤ blockCount) (small : blockSize * blockCount < 18446744073709551616) :
  Intact base blockSize blockCount { pool := create base blockSize blockCount } := by
 rw [create, if_neg (by omega), u64_of_lt small]
 refine ⟨_, rfl, ?_⟩
 rw [append_nil, blocks]
 refine (reverse_perm _).trans (.of_eq (map_congr_left fun index inside => ?_))
 have below := Nat.mul_lt_mul_of_pos_right (mem_range.mp inside) positive
 rw [u64_of_lt (by rw [Nat.mul_comm] at small; omega)]

theorem Intact.manage {action : Option Nat} (intact : Intact base blockSize blockCount usage)
  (taken : bufferManager.step usage action = some next) : Intact base blockSize blockCount next := by
 cases action with
 | none => exact intact.step positive (show Careful usage .acquire from trivial) taken
 | some block =>
  obtain ⟨holding, taken⟩ := Option.ite_none_right_eq_some.mp taken
  refine intact.step positive ?_ taken
  -- What a buffer owns is not free, so the manager is careful.
  rintro _ ⟨⟩ free
  obtain ⟨freeList, pool, whole⟩ := intact
  rw [pool] at free
  exact absurd rfl ((nodup_append.mp (whole.nodup_iff.mpr (nodup_blocks positive))).2.2 block free block holding)

end

/-- As long as no free block is released while another one is held, no block is in two places. -/
theorem careful_use_keeps_blocks_apart {calls : List Call} (positive : 1 ≤ blockSize)
  (nonempty : 1 ≤ blockCount) (small : blockSize * blockCount < 18446744073709551616)
  (careful : machine.Guarded Careful { pool := create base blockSize blockCount } calls)
  (ran : machine.run { pool := create base blockSize blockCount } calls = some usage) :
  usage.pool.freeList.Nodup /\ (∀ block ∈ usage.pool.acquire.2, block ∉ usage.held) /\
   usage.pool.freeList.length + usage.held.length = blockCount := by
 have intact := machine.run_invariant (fun _ _ _ intact careful taken => Intact.step positive intact careful taken)
  (create_intact positive nonempty small) careful ran
 obtain ⟨freeList, pool, whole⟩ := intact
 have unique := whole.nodup_iff.mpr (nodup_blocks positive)
 rw [pool]
 refine ⟨unique.of_append_left, ?_, length_blocks whole⟩
 cases freeList with
 | nil => simp [acquire]
 | cons first rest =>
  rintro _ ⟨⟩ holding
  exact (nodup_append.mp unique).2.2 first mem_cons_self first holding rfl

theorem released_block_is_free_again :
  ∃ usage, machine.run { pool := create 4096 64 2 } [.acquire, .release (some 4160)] = some usage /\
   usage.pool.freeList.Nodup := by
 obtain ⟨usage, ran⟩ : ∃ usage, machine.run { pool := create 4096 64 2 }
  [.acquire, .release (some 4160)] = some usage :=
  ⟨_, rfl⟩
 refine ⟨usage, ran, (careful_use_keeps_blocks_apart (by decide) (by decide) (by decide) ?_ ran).1⟩
 refine ⟨trivial, fun next taken => ⟨fun block given free => ?_, fun _ _ => trivial⟩⟩
 cases taken
 cases given
 exact absurd free (by decide)

/-- The list is not full while the other block is held, so the second release of the first one is accepted. -/
theorem second_release_frees_a_block_twice :
  ∃ usage, machine.run { pool := create 4096 64 2 }
   [.acquire, .acquire, .release (some 4160), .release (some 4160), .acquire] = some usage /\
   usage.pool.acquire.2 = some 4160 /\ 4160 ∈ usage.held /\ usage.pool.freeList.length + usage.held.length = 3 :=
 ⟨_, rfl, rfl, by decide, rfl⟩

/-- Behind a `BufferManager` no block is released twice: each is free or has one owner, and none is lost. -/
theorem pooled_buffers_stay_apart {actions : List (Option Nat)} (positive : 1 ≤ blockSize)
  (nonempty : 1 ≤ blockCount) (small : blockSize * blockCount < 18446744073709551616)
  (ran : bufferManager.run { pool := create base blockSize blockCount } actions = some usage) :
  (usage.pool.freeList ++ usage.held).Nodup /\
   (usage.pool.freeList ++ usage.held).Perm (blocks base blockSize blockCount) := by
 obtain ⟨freeList, pool, whole⟩ := bufferManager.run_keeps (fun _ _ _ intact => intact.manage positive)
  (create_intact positive nonempty small) ran
 rw [pool]
 exact ⟨whole.nodup_iff.mpr (nodup_blocks positive), whole⟩

theorem dropped_buffer_is_free_again :
  let usage := (bufferManager.run { pool := create 4096 64 2 } [none, none, some 4160]).get rfl
  usage.held = [4096] /\ (usage.pool.freeList ++ usage.held).Nodup :=
 ⟨rfl, (pooled_buffers_stay_apart (by decide) (by decide) (by decide) (Option.some_get _).symm).1⟩

end MemoryPool

end Dynaxis.Memory
