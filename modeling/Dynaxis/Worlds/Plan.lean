import Dynaxis.Worlds.Actuation

namespace Dynaxis.Worlds

open Shared List

def DesiredTopologyPool.key (pool : DesiredTopologyPool) : Text := makePoolKey pool.worldId pool.shard

def DesiredTopologyPool.pair (pool : DesiredTopologyPool) : Text × Text := (pool.worldId, pool.shard)

def ObservedTopologyPool.key (pool : ObservedTopologyPool) : Text := makePoolKey pool.worldId pool.shard

def ObservedTopologyPool.pair (pool : ObservedTopologyPool) : Text × Text := (pool.worldId, pool.shard)

def TopologyActuationAction.key (action : TopologyActuationAction) : Text := makePoolKey action.worldId action.shard

def TopologyActuationActionKind.scales : TopologyActuationActionKind -> Bool
 | .scaleOutPool | .scaleInPool => true
 | .restorePoolReadiness | .observeUndeclaredPool => false

def planDesiredPool (observed : List ObservedTopologyPool) (desired : DesiredTopologyPool) :
  Option TopologyActuationAction :=
 planPool (reconcileDesiredPool (observedPool observed desired.key) desired)

def reconcileRound (state : Table Text ObservedTopologyPool × TopologyReconciliation)
  (desired : DesiredTopologyPool) : Table Text ObservedTopologyPool × TopologyReconciliation :=
 (state.1.erase desired.key, state.2.push (reconcileDesiredPool (state.1.lookup desired.key) desired))

-- What the loop finds for a declared pool: the first pool with a key takes the entry of the index.
def takenPool (pools : List DesiredTopologyPool) (index : Table Text ObservedTopologyPool)
  (desired : DesiredTopologyPool) : Option ObservedTopologyPool :=
 if pools.find? (·.key = desired.key) = some desired then index.lookup desired.key else none

section

variable {pools : List DesiredTopologyPool} {observed : List ObservedTopologyPool}

theorem reconcile_declared (once : pools.Nodup) (index : Table Text ObservedTopologyPool)
  (out : TopologyReconciliation) :
  (pools.foldl reconcileRound (index, out)).2 =
    (pools.map fun desired => reconcileDesiredPool (takenPool pools index desired) desired).foldl (·.push ·) out := by
 induction pools generalizing index out with
 | nil => rfl
 | cons first rest ih =>
  rw [nodup_cons] at once
  have later : ∀ desired ∈ rest,
    takenPool rest (index.erase first.key) desired = takenPool (first :: rest) index desired := by
   intro desired member
   have other : first ≠ desired := fun same => once.1 (same ▸ member)
   unfold takenPool
   by_cases same : first.key = desired.key
   · simp [same, other]
   · simp [same, Ne.symm same]
  have front : takenPool (first :: rest) index first = index.lookup first.key := by simp [takenPool]
  rw [foldl_cons, reconcileRound, ih once.2, map_cons, foldl_cons, front,
   map_congr_left fun desired member => congrArg (reconcileDesiredPool · desired) (later desired member)]

theorem find_declared (distinct : (pools.map (·.key)).Nodup) {desired : DesiredTopologyPool}
  (member : desired ∈ pools) : pools.find? (·.key = desired.key) = some desired := by
 cases first : pools.find? (·.key = desired.key) with
 | none => simpa using find?_eq_none.mp first desired member
 | some other =>
  exact congrArg some (inj_on_of_nodup_map distinct (mem_of_find?_eq_some first) member (by simpa using find?_some first))

theorem lookup_undeclared (index : Table Text ObservedTopologyPool) (out : TopologyReconciliation) (key : Text) :
  (pools.foldl reconcileRound (index, out)).1.lookup key =
    if key ∈ pools.map (·.key) then none else index.lookup key := by
 induction pools generalizing index out with
 | nil => rfl
 | cons first rest ih =>
  rw [foldl_cons, reconcileRound, ih, Table.lookup_erase_ite, map_cons]
  by_cases same : key = first.key <;> simp [same]

section

variable (pushed : List ReconciledTopologyPool) (out : TopologyReconciliation)

theorem pools_foldl_push : (pushed.foldl (·.push ·) out).pools = out.pools ++ pushed := by
 induction pushed generalizing out with
 | nil => simp
 | cons pool rest ih => rw [foldl_cons, ih, TopologyReconciliation.push, append_assoc, singleton_append]

def TopologyReconciliationSummary.counter (summary : TopologyReconciliationSummary) : TopologyPoolStatus -> Nat
 | .aligned => summary.alignedPools
 | .missingObservedPool => summary.missingPools
 | .underReplicated => summary.underReplicatedPools
 | .overReplicated => summary.overReplicatedPools
 | .noReadyInstances => summary.noReadyPools
 | .undeclaredObservedPool => summary.undeclaredPools

theorem counter_foldl_push (status : TopologyPoolStatus) (word : out.summary.counter status < 4294967296) :
  (pushed.foldl (·.push ·) out).summary.counter status =
    u32 (out.summary.counter status + pushed.countP (·.status = status)) := by
 induction pushed generalizing out with
 | nil => exact (u32_of_lt word).symm
 | cons pool rest ih =>
  have counted : (out.push pool).summary.counter status =
    if pool.status = status then u32 (out.summary.counter status + 1) else out.summary.counter status := by
   obtain ⟨_, _, _, _, _, shown⟩ := pool
   cases shown <;> cases status <;> rfl
  have small : (out.push pool).summary.counter status < 4294967296 := by
   rw [counted, u32]
   split <;> omega
  rw [foldl_cons, ih _ small, counted, countP_cons]
  by_cases same : pool.status = status <;> simp [same, u32]
  omega

end

variable {document : DesiredTopologyDocument}

def takenObserved (document : DesiredTopologyDocument) (observed : List ObservedTopologyPool) :
  DesiredTopologyPool -> Option ObservedTopologyPool :=
 takenPool document.pools (indexByPool (·.worldId) (·.shard) observed)

section

variable (observed : List ObservedTopologyPool)

theorem reconcile_eq (once : document.pools.Nodup) :
  ∃ (start : TopologyReconciliation) (left : Table Text ObservedTopologyPool),
   reconcileTopology (some document) observed =
    ((document.pools.map fun desired => reconcileDesiredPool (takenObserved document observed desired) desired) ++
      (left.entries.map (·.2)).map reconcileUndeclaredPool).foldl (·.push ·) start /\
   start.pools = [] /\ (∀ status, start.summary.counter status = 0) /\ ∀ key, left.lookup key =
    if key ∈ document.pools.map (·.key) then none else observedPool observed key := by
 let index := indexByPool (·.worldId) (·.shard) observed
 let start : TopologyReconciliation :=
  { summary :=
     { desiredPresent := true
       desiredPools := u32 document.pools.length
       observedPools := u32 observed.length } }
 let declared := document.pools.foldl reconcileRound (index, start)
 have whole : reconcileTopology (some document) observed =
  declared.1.entries.foldl (fun out entry => out.push (reconcileUndeclaredPool entry.2)) declared.2 := rfl
 refine ⟨start, declared.1, ?_, rfl, fun status => by cases status <;> rfl, lookup_undeclared index start⟩
 rw [foldl_append, map_map, whole, reconcile_declared once]
 exact foldl_map.symm

theorem reconcile_pools (distinct : (document.pools.map (·.key)).Nodup) :
  ∃ undeclared : List ObservedTopologyPool, (reconcileTopology (some document) observed).pools =
   (document.pools.map fun desired => reconcileDesiredPool (observedPool observed desired.key) desired) ++
     undeclared.map reconcileUndeclaredPool := by
 obtain ⟨start, left, whole, empty, -⟩ := reconcile_eq observed (distinct.of_map _)
 have taken : ∀ desired ∈ document.pools, takenObserved document observed desired = observedPool observed desired.key :=
  fun desired member => if_pos (find_declared distinct member)
 exact ⟨_, by rw [whole, pools_foldl_push, empty, nil_append,
  map_congr_left fun desired member => congrArg (reconcileDesiredPool · desired) (taken desired member)]⟩

theorem observedPool_eq_find (key : Text) :
  observedPool observed key = observed.find? (·.key = key) := by
 rw [observedPool, indexByPool, Table.lookup_emplaceAll, find?_map, Option.map_map]
 exact (Option.none_or ..).trans (congrFun Option.map_id _)

end

section

variable (document : DesiredTopologyDocument) (observed : List ObservedTopologyPool)

-- The reconciliation as a partition: by pairs, not by keys.
def pairedPool (desired : DesiredTopologyPool) : Option ObservedTopologyPool :=
 observed.find? (·.pair = desired.pair)

def undeclaredPools : List ObservedTopologyPool :=
 observed.filter fun pool => pool.pair ∉ document.pools.map (·.pair)

def partitionPools : List ReconciledTopologyPool :=
 (document.pools.map fun desired => reconcileDesiredPool (pairedPool observed desired) desired) ++
  (undeclaredPools document observed).map reconcileUndeclaredPool

def ObservedTopologyPool.counts (pool : ObservedTopologyPool) : Nat × Nat := (pool.instances, pool.readyInstances)

-- The keys tell the pools apart that show in the result: an observed pool that is undeclared or not
-- empty is the first one with its key, and so is its declared pool.
def KeysTellApart : Prop :=
 ∀ pool ∈ observed, pool.counts ≠ (0, 0) \/ pool.pair ∉ document.pools.map (·.pair) ->
  observed.find? (·.key = pool.key) = some pool /\
  ∀ desired ∈ document.pools.find? (·.key = pool.key), desired.pair = pool.pair

end

def countsOf (found : Option ObservedTopologyPool) : Nat × Nat := (found.map (·.counts)).getD (0, 0)

section

variable {found other : Option ObservedTopologyPool} {desired : DesiredTopologyPool}

theorem reconcileDesiredPool_congr :
  reconcileDesiredPool found desired = reconcileDesiredPool other desired ↔ countsOf found = countsOf other := by
 constructor
 · intro same
   have instances := congrArg ReconciledTopologyPool.observedInstances same
   have ready := congrArg ReconciledTopologyPool.readyInstances same
   cases found <;> cases other <;> simp_all [reconcileDesiredPool, countsOf, ObservedTopologyPool.counts]
 · intro same
   cases found <;> cases other <;> simp [countsOf, ObservedTopologyPool.counts] at same <;>
    (simp [reconcileDesiredPool, poolStatus, same]; try simp [<- same])

theorem countsOf_congr
  (both : ∀ pool, pool.counts ≠ (0, 0) -> (found = some pool ↔ other = some pool)) :
   countsOf found = countsOf other := by
 have empty (option : Option ObservedTopologyPool) (none_full : ∀ pool, option = some pool -> pool.counts = (0, 0)) :
   countsOf option = (0, 0) := by
  cases option with
  | none => rfl
  | some pool => exact none_full pool rfl
 by_cases full : ∃ pool, pool.counts ≠ (0, 0) /\ found = some pool
 · obtain ⟨pool, full, rfl⟩ := full
   rw [(both pool full).mp rfl]
 · have none_full (pool : ObservedTopologyPool) (here : found = some pool) : pool.counts = (0, 0) :=
    by_contra fun counts => full ⟨pool, counts, here⟩
   rw [empty found none_full, empty other fun pool here =>
    by_contra fun counts => full ⟨pool, counts, (both pool counts).mpr here⟩]

theorem ObservedTopologyPool.key_of_pair {pool : ObservedTopologyPool}
  {desired : DesiredTopologyPool} (same : pool.pair = desired.pair) : pool.key = desired.key :=
 congrArg (fun pair : Text × Text => makePoolKey pair.1 pair.2) same

theorem takenObserved_some {pool : ObservedTopologyPool} :
  takenObserved document observed desired = some pool ↔
   document.pools.find? (·.key = desired.key) = some desired /\
    observed.find? (·.key = desired.key) = some pool := by
 rw [<- observedPool_eq_find, takenObserved, takenPool, Option.ite_none_right_eq_some]
 rfl

end

section

variable (declaredOnce : (document.pools.map (·.pair)).Nodup) (observedOnce : (observed.map (·.pair)).Nodup)
include observedOnce

theorem pairedPool_some {desired : DesiredTopologyPool} {pool : ObservedTopologyPool} (seen : pool ∈ observed)
  (same : pool.pair = desired.pair) : pairedPool observed desired = some pool := by
 cases found : pairedPool observed desired with
 | none => simpa [same] using find?_eq_none.mp found pool seen
 | some other =>
  have paired : other.pair = desired.pair := by simpa using find?_some found
  exact congrArg some (inj_on_of_nodup_map observedOnce (mem_of_find?_eq_some found) seen (paired.trans same.symm))

include declaredOnce

theorem KeysTellApart.counts (apart : KeysTellApart document observed)
  {desired : DesiredTopologyPool} (declared : desired ∈ document.pools) :
  countsOf (takenObserved document observed desired) = countsOf (pairedPool observed desired) := by
 -- a pool with counts on either side is on both
 refine countsOf_congr fun pool full => ⟨fun taken => ?_, fun paired => ?_⟩
 · obtain ⟨first, found⟩ := takenObserved_some.mp taken
   have seen := mem_of_find?_eq_some found
   have key : pool.key = desired.key := by simpa using find?_some found
   have own := (apart pool seen (.inl full)).2 desired (key ▸ first)
   exact pairedPool_some observedOnce seen own.symm
 · have seen := mem_of_find?_eq_some paired
   have same : pool.pair = desired.pair := by simpa using find?_some paired
   obtain ⟨found, own⟩ := apart pool seen (.inl full)
   rw [ObservedTopologyPool.key_of_pair same] at found own
   refine takenObserved_some.mpr ⟨?_, found⟩
   cases first : document.pools.find? (·.key = desired.key) with
   | none => simpa using find?_eq_none.mp first desired declared
   | some other =>
    exact congrArg some (inj_on_of_nodup_map declaredOnce (mem_of_find?_eq_some first) declared
     ((own other first).trans same))

omit declaredOnce observedOnce

-- What the loop leaves in the index.
abbrev LeftOver (document : DesiredTopologyDocument) (observed : List ObservedTopologyPool)
  (pool : ObservedTopologyPool) : Prop :=
 pool.key ∉ document.pools.map (·.key) /\ observed.find? (·.key = pool.key) = some pool

theorem KeysTellApart.leftOver (apart : KeysTellApart document observed) (pool : ObservedTopologyPool) :
  LeftOver document observed pool ↔ pool ∈ undeclaredPools document observed := by
 rw [undeclaredPools, mem_filter, decide_eq_true_iff]
 constructor
 · rintro ⟨unkeyed, found⟩
   refine ⟨mem_of_find?_eq_some found, fun declared => unkeyed ?_⟩
   obtain ⟨desired, member, same⟩ := mem_map.mp declared
   exact mem_map.mpr ⟨desired, member, (ObservedTopologyPool.key_of_pair same.symm).symm⟩
 · rintro ⟨seen, undeclared⟩
   obtain ⟨found, own⟩ := apart pool seen (.inr undeclared)
   refine ⟨fun keyed => ?_, found⟩
   obtain ⟨desired, member, same⟩ := mem_map.mp keyed
   obtain ⟨first, isFirst⟩ := Option.isSome_iff_exists.mp
    (find?_isSome (p := (·.key = pool.key)).mpr ⟨desired, member, by simpa using same⟩)
   exact undeclared (mem_map.mpr ⟨first, mem_of_find?_eq_some isFirst, own first isFirst⟩)

include observedOnce

theorem keysTellApart_of_partition
  (counts : ∀ desired ∈ document.pools,
    countsOf (takenObserved document observed desired) = countsOf (pairedPool observed desired))
  (leftOver : ∀ pool ∈ undeclaredPools document observed, LeftOver document observed pool) :
  KeysTellApart document observed := by
 intro pool seen shows
 have undeclared (other : ObservedTopologyPool) (member : other ∈ observed)
   (absent : other.pair ∉ document.pools.map (·.pair)) : LeftOver document observed other :=
  leftOver other (mem_filter.mpr ⟨member, decide_eq_true absent⟩)
 -- a declared pool whose own pool has counts takes some pool
 have takes {desired : DesiredTopologyPool} {other : ObservedTopologyPool} (declared : desired ∈ document.pools)
   (member : other ∈ observed) (same : other.pair = desired.pair) (full : other.counts ≠ (0, 0)) :
   ∃ taken, taken.counts = other.counts /\ document.pools.find? (·.key = desired.key) = some desired /\
    observed.find? (·.key = desired.key) = some taken := by
  have agree := counts desired declared
  rw [pairedPool_some observedOnce member same] at agree
  cases found : takenObserved document observed desired with
  | none =>
   rw [found] at agree
   exact absurd agree.symm full
  | some taken =>
   rw [found] at agree
   exact ⟨taken, agree, takenObserved_some.mp found⟩
 by_cases listed : pool.pair ∈ document.pools.map (·.pair)
 · obtain ⟨desired, declared, same⟩ := mem_map.mp listed
   have full : pool.counts ≠ (0, 0) := shows.resolve_right (not_not.mpr listed)
   have key := ObservedTopologyPool.key_of_pair same.symm
   obtain ⟨taken, sameCounts, first, found⟩ := takes declared seen same.symm full
   have member := mem_of_find?_eq_some found
   have takenKey : taken.key = desired.key := by simpa using find?_some found
   -- the pool it takes is declared, by the first pool with its key
   have own : taken.pair ∈ document.pools.map (·.pair) := by_contra fun absent =>
    (undeclared taken member absent).1 (mem_map.mpr ⟨desired, declared, takenKey.symm⟩)
   obtain ⟨other, otherDeclared, otherPair⟩ := mem_map.mp own
   obtain ⟨-, -, otherFirst, -⟩ := takes otherDeclared member otherPair.symm (sameCounts ▸ full)
   rw [<- ObservedTopologyPool.key_of_pair otherPair.symm, takenKey, first] at otherFirst
   cases otherFirst
   cases inj_on_of_nodup_map observedOnce member seen (otherPair.symm.trans same)
   exact ⟨key ▸ found, fun desired' first' => by cases (key ▸ first).symm.trans first'; exact same⟩
 · obtain ⟨unkeyed, found⟩ := undeclared pool seen listed
   refine ⟨found, fun desired first => absurd (mem_map.mpr ⟨desired, mem_of_find?_eq_some first, ?_⟩) unkeyed⟩
   simpa using find?_some first

end

theorem reconcileUndeclaredPool_injective : Function.Injective reconcileUndeclaredPool := by
 rintro ⟨world, shard, instances, ready⟩ ⟨world', shard', instances', ready'⟩ same
 cases same
 rfl

theorem reconcile_leftOver (observed : List ObservedTopologyPool) (once : document.pools.Nodup) :
  ∃ (start : TopologyReconciliation) (left : List ObservedTopologyPool),
   reconcileTopology (some document) observed =
    ((document.pools.map fun desired => reconcileDesiredPool (takenObserved document observed desired) desired) ++
      left.map reconcileUndeclaredPool).foldl (·.push ·) start /\
   start.pools = [] /\ (∀ status, start.summary.counter status = 0) /\
   left.Nodup /\ ∀ pool, pool ∈ left ↔ LeftOver document observed pool := by
 obtain ⟨start, left, whole, empty, zero, lookups⟩ := reconcile_eq observed once
 have found (key : Text) (pool : ObservedTopologyPool) : ⟨key, pool⟩ ∈ left.entries ↔
   pool.key = key /\ LeftOver document observed pool := by
  rw [Table.mem_entries_iff, lookups, observedPool_eq_find]
  constructor
  · intro here
    split at here
    next => cases here
    next undeclared =>
     obtain rfl : pool.key = key := by simpa using find?_some here
     exact ⟨rfl, undeclared, here⟩
  · rintro ⟨rfl, undeclared, here⟩
    rw [if_neg undeclared, here]
 refine ⟨start, left.entries.map (·.2), whole, empty, zero, ?_, fun pool => ?_⟩
 · refine (List.NodupKeys.nodup left.nodupKeys).map_on fun first member second other same => ?_
   exact Sigma.ext (((found _ _).mp member).1.symm.trans (same ▸ ((found _ _).mp other).1)) (heq_of_eq same)
 · rw [mem_map]
   constructor
   · rintro ⟨⟨key, _⟩, member, rfl⟩
     exact ((found key _).mp member).2
   · exact fun leftOver => ⟨⟨_, pool⟩, (found _ pool).mpr ⟨rfl, leftOver⟩, rfl⟩

/-- The reconciliation lists each declared pool once with the counts of the observed one, then each other
observed pool once, and counts the entries by their status: just when the keys tell the pools apart and
no counter overflows. -/
theorem reconciliation_is_a_partition (document : DesiredTopologyDocument) (observed : List ObservedTopologyPool)
  (declaredOnce : (document.pools.map (·.pair)).Nodup) (observedOnce : (observed.map (·.pair)).Nodup) :
  let result := reconcileTopology (some document) observed
  ((∃ undeclared : List ObservedTopologyPool, undeclared.Perm (undeclaredPools document observed) /\
     result.pools = (document.pools.map fun desired => reconcileDesiredPool (pairedPool observed desired) desired) ++
       undeclared.map reconcileUndeclaredPool) /\
   ∀ status, result.summary.counter status = result.pools.countP (·.status = status)) ↔
  KeysTellApart document observed /\
   ∀ status, (partitionPools document observed).countP (·.status = status) < 4294967296 := by
 intro result
 obtain ⟨start, left, whole, empty, zero, leftOnce, leftOver⟩ := reconcile_leftOver observed (declaredOnce.of_map _)
 have counters (status : TopologyPoolStatus) : result.summary.counter status = result.pools.countP (·.status = status) ↔
   result.pools.countP (·.status = status) < 4294967296 := by
  rw [show result = _ from whole, counter_foldl_push _ _ _ (by rw [zero]; decide), pools_foldl_push, empty, zero,
   Nat.zero_add, nil_append, u32]
  omega
 have partitioned (undeclared : List ObservedTopologyPool)
  (same : undeclared.Perm (undeclaredPools document observed))
   (listed : result.pools = (document.pools.map fun desired =>
    reconcileDesiredPool (pairedPool observed desired) desired) ++ undeclared.map reconcileUndeclaredPool)
   (status : TopologyPoolStatus) : result.pools.countP (·.status = status) =
    (partitionPools document observed).countP (·.status = status) := by
  rw [listed]
  exact ((same.map _).append_left _).countP_eq _
 constructor
 · rintro ⟨⟨undeclared, same, listed⟩, counted⟩
   refine ⟨?_, fun status => partitioned undeclared same listed status ▸ (counters status).mp (counted status)⟩
   rw [show result = _ from whole, pools_foldl_push, empty, nil_append] at listed
   obtain ⟨declared, rest⟩ := append_inj listed (by simp)
   obtain rfl := reconcileUndeclaredPool_injective.list_map rest
   refine keysTellApart_of_partition observedOnce (fun desired member => ?_) fun pool member => ?_
   · exact reconcileDesiredPool_congr.mp (map_inj_left.mp declared desired member)
   · exact (leftOver pool).mp (same.mem_iff.mpr member)
 · rintro ⟨apart, fits⟩
   have same : left.Perm (undeclaredPools document observed) :=
    (perm_ext_iff_of_nodup leftOnce ((observedOnce.of_map _).filter _)).mpr fun pool =>
     (leftOver pool).trans (apart.leftOver pool)
   have listed : result.pools = (document.pools.map fun desired =>
     reconcileDesiredPool (pairedPool observed desired) desired) ++ left.map reconcileUndeclaredPool := by
    rw [show result = _ from whole, pools_foldl_push, empty, nil_append]
    exact congrArg (· ++ _) (map_congr_left fun desired member =>
     reconcileDesiredPool_congr.mpr (apart.counts declaredOnce observedOnce member))
   exact ⟨⟨left, same, listed⟩, fun status => (counters status).mpr (partitioned left same listed status ▸ fits status)⟩

theorem two_worlds_are_partitioned :
  (reconcileTopology (some { pools := [{ worldId := ['a'], shard := ['s'], replicas := 1 }] })
    [{ worldId := ['b'], shard := ['s'], instances := 2 }]).summary.counter .undeclaredObservedPool = 1 := by
 have whole := reconciliation_is_a_partition { pools := [{ worldId := ['a'], shard := ['s'], replicas := 1 }] }
  [{ worldId := ['b'], shard := ['s'], instances := 2 }] (by decide) (by decide)
 exact (whole.mpr ⟨by simp [KeysTellApart]; decide, fun status => by cases status <;> decide⟩).2 _

theorem line_break_merges_pools :
  ∃ (desired : DesiredTopologyPool) (seen : ObservedTopologyPool), seen.pair ≠ desired.pair /\
   (reconcileTopology (some { pools := [desired] }) [seen]).summary.counter .undeclaredObservedPool = 0 :=
 ⟨{ worldId := ['a'], shard := "b\nc".toList, replicas := 1 },
   { worldId := "a\nb".toList, shard := ['c'], instances := 2 }, by decide, by decide +kernel⟩

theorem mem_plan_scales (distinct : (document.pools.map (·.key)).Nodup)
  {action : TopologyActuationAction} (scales : action.action.scales = true) :
  action ∈ (planTopologyActuation (some document) observed).actions ↔
   ∃ desired ∈ document.pools, planDesiredPool observed desired = some action := by
 obtain ⟨undeclared, pools⟩ := reconcile_pools observed distinct
 have planned : (planTopologyActuation (some document) observed).actions =
  ((reconcileTopology (some document) observed).pools).filterMap planPool := rfl
 rw [planned, pools, mem_filterMap]
 constructor
 · rintro ⟨pool, listed, entry⟩
   obtain declared | other := mem_append.mp listed
   · obtain ⟨desired, member, rfl⟩ := mem_map.mp declared
     exact ⟨desired, member, entry⟩
   · obtain ⟨seen, -, rfl⟩ := mem_map.mp other
     cases entry
     cases scales
 · rintro ⟨desired, member, entry⟩
   exact ⟨_, mem_append_left _ (mem_map_of_mem member), entry⟩

end

variable (observed : List ObservedTopologyPool) (desired : DesiredTopologyPool)

def instancesAt (key : Text) : Nat :=
 ((observedPool observed key).map (·.instances)).getD 0

def readyAt (key : Text) : Nat :=
 ((observedPool observed key).map (·.readyInstances)).getD 0

def ScaleOutDue : Prop :=
 instancesAt observed desired.key = 0 \/
  (0 < readyAt observed desired.key /\ instancesAt observed desired.key < desired.replicas)

def ScaleInDue : Prop :=
 0 < readyAt observed desired.key /\ instancesAt observed desired.key ≠ 0 /\
  desired.replicas < instancesAt observed desired.key

inductive PlansPool (observed : List ObservedTopologyPool) (desired : DesiredTopologyPool) :
  Option TopologyActuationAction -> Prop
 | scaleOut (action : TopologyActuationAction) (due : ScaleOutDue observed desired)
  (pool : action.key = desired.key) (kind : action.action = .scaleOutPool)
  (delta : action.replicaDelta = i32 (i32 desired.replicas - i32 (instancesAt observed desired.key))) :
  PlansPool observed desired (some action)
 | scaleIn (action : TopologyActuationAction) (due : ScaleInDue observed desired)
  (pool : action.key = desired.key) (kind : action.action = .scaleInPool)
  (delta : action.replicaDelta = i32 (i32 (instancesAt observed desired.key) - i32 desired.replicas)) :
  PlansPool observed desired (some action)
 | other (planned : Option TopologyActuationAction) (notOut : ¬ ScaleOutDue observed desired)
  (notIn : ¬ ScaleInDue observed desired) (kind : ∀ action ∈ planned, action.action.scales = false) :
  PlansPool observed desired planned

section

variable {observed : List ObservedTopologyPool} {desired : DesiredTopologyPool}

theorem planDesiredPool_spec (observed : List ObservedTopologyPool) (desired : DesiredTopologyPool) :
  PlansPool observed desired (planDesiredPool observed desired) := by
 unfold planDesiredPool
 cases found : observedPool observed desired.key with
 | none =>
  have absent : instancesAt observed desired.key = 0 := by simp [instancesAt, found]
  refine .scaleOut _ (.inl absent) rfl rfl ?_
  rw [absent]
  rfl
 | some pool =>
  have instances : instancesAt observed desired.key = pool.instances := by simp [instancesAt, found]
  have ready : readyAt observed desired.key = pool.readyInstances := by simp [readyAt, found]
  -- in the order in which the reconciliation asks
  by_cases empty : pool.instances = 0
  · have status : poolStatus desired.replicas (some pool) = .missingObservedPool := if_pos empty
    simp only [planPool, reconcileDesiredPool, status]
    exact .scaleOut _ (.inl (instances.trans empty)) rfl rfl (by rw [instances]; rfl)
  by_cases unready : pool.readyInstances = 0
  · have status : poolStatus desired.replicas (some pool) = .noReadyInstances := by
     rw [poolStatus, if_neg empty, if_pos unready]
    simp only [planPool, reconcileDesiredPool, status]
    refine .other _ ?_ ?_ ?_
    · rw [ScaleOutDue, instances, ready]
      omega
    · rw [ScaleInDue, ready]
      omega
    · intro action planned
      cases planned
      rfl
  by_cases fewer : pool.instances < desired.replicas
  · have status : poolStatus desired.replicas (some pool) = .underReplicated := by
     rw [poolStatus, if_neg empty, if_neg unready, if_pos fewer]
    simp only [planPool, reconcileDesiredPool, status]
    exact .scaleOut _ (.inr (by rw [ready, instances]; omega)) rfl rfl (by rw [instances]; rfl)
  by_cases more : desired.replicas < pool.instances
  · have status : poolStatus desired.replicas (some pool) = .overReplicated := by
     rw [poolStatus, if_neg empty, if_neg unready, if_neg fewer, if_pos more]
    simp only [planPool, reconcileDesiredPool, status]
    exact .scaleIn _ (by rw [ScaleInDue, ready, instances]; omega) rfl rfl (by rw [instances]; rfl)
  · have status : poolStatus desired.replicas (some pool) = .aligned := by
     rw [poolStatus, if_neg empty, if_neg unready, if_neg fewer, if_neg more]
    simp only [planPool, reconcileDesiredPool, status]
    refine .other _ ?_ ?_ ?_
    · rw [ScaleOutDue, instances]
      omega
    · rw [ScaleInDue, instances]
      omega
    · intro action planned
      cases planned

theorem PlansPool.due {action : TopologyActuationAction} (plans : PlansPool observed desired (some action))
  (scales : action.action.scales = true) :
  (ScaleOutDue observed desired \/ ScaleInDue observed desired) /\ action.key = desired.key := by
 cases plans with
 | scaleOut _ due pool _ _ => exact ⟨.inl due, pool⟩
 | scaleIn _ due pool _ _ => exact ⟨.inr due, pool⟩
 | other _ _ _ kind => exact Bool.noConfusion ((kind action rfl).symm.trans scales)

end

section

variable (document : DesiredTopologyDocument) (observed : List ObservedTopologyPool)

-- The counts are unsigned words in the source.
structure CountsFit : Prop where
 replicas : ∀ desired ∈ document.pools, desired.replicas < 4294967296
 instances : ∀ pool ∈ observed, pool.instances < 4294967296

-- Of a pool without instances or with a ready one: at least one replica is desired, and the casts to
-- `int32_t` change the two counts alike.
def Plannable : Prop :=
 ∀ desired ∈ document.pools, instancesAt observed desired.key = 0 \/ 0 < readyAt observed desired.key ->
  1 ≤ desired.replicas /\ (desired.replicas < 2147483648 ↔ instancesAt observed desired.key < 2147483648)

-- The exact difference, which the signed subtraction gives without an overflow.
def ExactDifference (delta : Int) (more fewer : Nat) : Prop :=
 delta = (more : Int) - fewer /\ delta = i32 more - i32 fewer

structure ExactScale (action : TopologyActuationAction) : Prop where
 positive : 0 < action.replicaDelta
 exact : ∃ desired ∈ document.pools, desired.key = action.key /\
  (action.action = .scaleOutPool ->
    ExactDifference action.replicaDelta desired.replicas (instancesAt observed action.key)) /\
  (action.action = .scaleInPool ->
    ExactDifference action.replicaDelta (instancesAt observed action.key) desired.replicas)

end

theorem exactDifference_iff {more fewer : Nat} (moreFits : more < 4294967296) (fewerFits : fewer < 4294967296) :
  ExactDifference (i32 (i32 more - i32 fewer)) more fewer ↔ (more < 2147483648 ↔ fewer < 2147483648) := by
 simp only [ExactDifference, i32]
 omega

variable {document : DesiredTopologyDocument} {observed : List ObservedTopologyPool}
 {desired : DesiredTopologyPool} {action : TopologyActuationAction}

theorem CountsFit.instancesAt_lt (fits : CountsFit document observed) (key : Text) :
  instancesAt observed key < 4294967296 := by
 unfold instancesAt
 cases found : observedPool observed key with
 | none => decide
 | some pool => exact fits.instances pool (mem_of_indexByPool found).1

section

variable (distinct : (document.pools.map (·.key)).Nodup)
include distinct

theorem ExactScale.own (exact : ExactScale document observed action)
  (member : desired ∈ document.pools) (pool : action.key = desired.key) :
  (action.action = .scaleOutPool ->
    ExactDifference action.replicaDelta desired.replicas (instancesAt observed desired.key)) /\
  (action.action = .scaleInPool ->
    ExactDifference action.replicaDelta (instancesAt observed desired.key) desired.replicas) := by
 obtain ⟨other, otherMember, same, exactly⟩ := exact.exact
 obtain rfl := inj_on_of_nodup_map distinct otherMember member (same.trans pool)
 exact pool ▸ exactly

theorem exactScale_iff (fits : CountsFit document observed) (member : desired ∈ document.pools)
  (planned : planDesiredPool observed desired = some action) (scales : action.action.scales = true) :
  ExactScale document observed action ↔ (ScaleOutDue observed desired -> 1 ≤ desired.replicas) /\
   (desired.replicas < 2147483648 ↔ instancesAt observed desired.key < 2147483648) := by
 have spec := planDesiredPool_spec observed desired
 have instances := fits.instancesAt_lt desired.key
 have replicas := fits.replicas desired member
 rw [planned] at spec
 cases spec with
 | scaleOut _ due pool kind delta =>
  have difference := exactDifference_iff replicas instances
  rw [<- delta] at difference
  constructor
  · intro exact
    have own := (exact.own distinct member pool).1 kind
    have positive := exact.positive
    exact ⟨fun _ => by have := own.1; omega, difference.mp own⟩
  · rintro ⟨wanted, alike⟩
    have own := difference.mpr alike
    have some_wanted := wanted due
    refine ⟨?_, desired, member, pool.symm, fun _ => pool ▸ own, by simp [kind]⟩
    have := own.1
    obtain empty | fewer := due <;> omega
 | scaleIn _ due pool kind delta =>
  have difference := exactDifference_iff instances replicas
  rw [<- delta] at difference
  obtain ⟨-, -, more⟩ := due
  constructor
  · intro exact
    refine ⟨fun out => ?_, (difference.mp ((exact.own distinct member pool).2 kind)).symm⟩
    obtain empty | ⟨-, fewer⟩ := out <;> omega
  · rintro ⟨-, alike⟩
    have own := difference.mpr alike.symm
    refine ⟨?_, desired, member, pool.symm, by simp [kind], fun _ => pool ▸ own⟩
    have := own.1
    omega
 | other _ _ _ kind => exact Bool.noConfusion ((kind action rfl).symm.trans scales)

theorem plan_scales_exactly (fits : CountsFit document observed)
  (plannable : Plannable document observed) (scales : action.action.scales = true)
  (listed : action ∈ (planTopologyActuation (some document) observed).actions) :
  ExactScale document observed action := by
 obtain ⟨desired, member, planned⟩ := (mem_plan_scales distinct scales).mp listed
 have spec := planDesiredPool_spec observed desired
 rw [planned] at spec
 have opened : instancesAt observed desired.key = 0 \/ 0 < readyAt observed desired.key := by
  obtain (empty | ready) | ready := (spec.due scales).1
  · exact .inl empty
  · exact .inr ready.1
  · exact .inr ready.1
 obtain ⟨wanted, alike⟩ := plannable desired member opened
 exact (exactScale_iff distinct fits member planned scales).mpr ⟨fun _ => wanted, alike⟩

end

/-- A declared pool after the scale actions of the plan: a pool that is scaled out has that many more
instances, all of them ready; one that is scaled in has that many fewer, and is absent when none is left. -/
def carriedPool (plan : TopologyActuationPlan) (observed : List ObservedTopologyPool)
  (desired : DesiredTopologyPool) : Option ObservedTopologyPool :=
 let instances : Int := instancesAt observed desired.key
 let pool : ObservedTopologyPool := { worldId := desired.worldId, shard := desired.shard }
 match plan.actions.find? (fun action => action.action.scales && action.key = desired.key) with
 | none => observedPool observed desired.key
 | some action =>
  if action.action = .scaleOutPool then
   some { pool with
     instances := (instances + action.replicaDelta).toNat
     readyInstances := (readyAt observed desired.key + action.replicaDelta).toNat }
  else if instances = action.replicaDelta then none
  else
   let left := (instances - action.replicaDelta).toNat
   some { pool with instances := left, readyInstances := min (readyAt observed desired.key) left }

def carriedOut (document : DesiredTopologyDocument) (observed : List ObservedTopologyPool) :
  List ObservedTopologyPool :=
 document.pools.filterMap (carriedPool (planTopologyActuation (some document) observed) observed) ++
  observed.filter fun pool => ∀ desired ∈ document.pools, desired.key ≠ pool.key

theorem carriedPool_key {plan : TopologyActuationPlan} {pool : ObservedTopologyPool}
  (carried : carriedPool plan observed desired = some pool) : pool.key = desired.key := by
 have kept (found : observedPool observed desired.key = some pool) : pool.key = desired.key := by
  rw [observedPool_eq_find] at found
  simpa using find?_some found
 simp only [carriedPool] at carried
 repeat' split at carried
 all_goals first
  | exact kept carried
  | cases carried; rfl
  | cases carried

theorem find_carried {plan : TopologyActuationPlan} {pools : List DesiredTopologyPool}
  (distinct : (pools.map (·.key)).Nodup) (key : Text) :
  (pools.filterMap (carriedPool plan observed)).find? (·.key = key) =
   (pools.find? (·.key = key)).bind (carriedPool plan observed) := by
 induction pools with
 | nil => rfl
 | cons first rest ih =>
  rw [map_cons, nodup_cons] at distinct
  have later := ih distinct.2
  by_cases same : first.key = key
  · have absent : rest.find? (·.key = key) = none := by
     refine find?_eq_none.mpr fun other member found => distinct.1 (mem_map.mpr ⟨other, member, ?_⟩)
     exact (of_decide_eq_true found).trans same.symm
    rw [absent, Option.bind_none] at later
    cases carried : carriedPool plan observed first with
    | none => simp [filterMap_cons_none carried, later, same, carried]
    | some pool => simp [filterMap_cons_some carried, carriedPool_key carried, same, carried]
  · cases carried : carriedPool plan observed first with
    | none => simp [filterMap_cons_none carried, later, same]
    | some pool => simp [filterMap_cons_some carried, carriedPool_key carried, same, later]

section

variable (distinct : (document.pools.map (·.key)).Nodup) (member : desired ∈ document.pools)
include distinct member

theorem observedPool_carriedOut :
  observedPool (carriedOut document observed) desired.key =
   carriedPool (planTopologyActuation (some document) observed) observed desired := by
 rw [observedPool_eq_find, carriedOut, find?_append, find_carried distinct, find?_filter,
  find_declared distinct member, Option.bind_some]
 refine (congrArg (Option.or _) (find?_eq_none.mpr fun pool _ found => ?_)).trans Option.or_none
 simp only [decide_eq_true_eq] at found
 exact found.1 desired member found.2.symm

theorem find_scaled :
  (planTopologyActuation (some document) observed).actions.find?
    (fun action => action.action.scales && action.key = desired.key) =
   (planDesiredPool observed desired).filter (·.action.scales) := by
 have keyed {action : TopologyActuationAction} {pool : DesiredTopologyPool}
   (planned : planDesiredPool observed pool = some action) (scales : action.action.scales = true) :
   action.key = pool.key := by
  have spec := planDesiredPool_spec observed pool
  rw [planned] at spec
  exact (spec.due scales).2
 cases found : (planTopologyActuation (some document) observed).actions.find?
   (fun action => action.action.scales && action.key = desired.key) with
 | none =>
  refine (Option.filter_eq_none_iff.mpr fun action planned scales => ?_).symm
  have listed := (mem_plan_scales distinct scales).mpr ⟨desired, member, planned⟩
  simpa [scales, keyed planned scales] using find?_eq_none.mp found action listed
 | some action =>
  obtain ⟨scales, own⟩ : action.action.scales = true /\ action.key = desired.key := by simpa using find?_some found
  obtain ⟨other, otherMember, planned⟩ := (mem_plan_scales distinct scales).mp (mem_of_find?_eq_some found)
  -- the keys of the declared pools are distinct, so it is this pool's own action
  obtain rfl := inj_on_of_nodup_map distinct otherMember member ((keyed planned scales).symm.trans own)
  simp [planned, Option.filter, scales]

theorem observedPool_unscaled (notOut : ¬ ScaleOutDue observed desired) (notIn : ¬ ScaleInDue observed desired) :
  observedPool (carriedOut document observed) desired.key = observedPool observed desired.key := by
 rw [observedPool_carriedOut distinct member, carriedPool, find_scaled distinct member]
 have idle : (planDesiredPool observed desired).filter (·.action.scales) = none := by
  refine Option.filter_eq_none_iff.mpr fun action planned scales => ?_
  have spec := planDesiredPool_spec observed desired
  rw [planned] at spec
  exact (spec.due scales).1.elim notOut notIn
 rw [idle]

variable (exact : ∀ action ∈ (planTopologyActuation (some document) observed).actions,
 action.action.scales = true -> ExactScale document observed action)
include exact

theorem instancesAt_scaled (due : ScaleOutDue observed desired \/ ScaleInDue observed desired) :
  instancesAt (carriedOut document observed) desired.key = desired.replicas := by
 rw [instancesAt, observedPool_carriedOut distinct member, carriedPool, find_scaled distinct member]
 have spec := planDesiredPool_spec observed desired
 generalize planned : planDesiredPool observed desired = plan at spec ⊢
 cases spec with
 | scaleOut action _ pool kind =>
  have scales : action.action.scales = true := by rw [kind]; rfl
  have listed := (mem_plan_scales distinct scales).mpr ⟨desired, member, planned⟩
  have difference := (((exact action listed scales).own distinct member pool).1 kind).1
  simp only [Option.filter, scales, if_true]
  rw [if_pos kind]
  simp only [Option.map_some, Option.getD_some]
  omega
 | scaleIn action _ pool kind =>
  have scales : action.action.scales = true := by rw [kind]; rfl
  have listed := (mem_plan_scales distinct scales).mpr ⟨desired, member, planned⟩
  have difference := (((exact action listed scales).own distinct member pool).2 kind).1
  simp only [Option.filter, scales, if_true]
  rw [if_neg (by rw [kind]; nofun)]
  split
  · simp only [Option.map_none, Option.getD_none]
    omega
  · simp only [Option.map_some, Option.getD_some]
    omega
 | other _ notOut notIn => exact absurd due (not_or.mpr ⟨notOut, notIn⟩)

end

variable (distinct : (document.pools.map (·.key)).Nodup)
 (exact : ∀ action ∈ (planTopologyActuation (some document) observed).actions,
   action.action.scales = true -> ExactScale document observed action)
include distinct exact

theorem plan_after_carriedOut (plannable : Plannable document observed)
  (listed : action ∈ (planTopologyActuation (some document) (carriedOut document observed)).actions) :
  action.action.scales = false := by
 refine Bool.eq_false_of_not_eq_true fun scales => ?_
 obtain ⟨desired, member, planned⟩ := (mem_plan_scales distinct scales).mp listed
 have spec := planDesiredPool_spec (carriedOut document observed) desired
 rw [planned] at spec
 obtain ⟨again, -⟩ := spec.due scales
 by_cases due : ScaleOutDue observed desired \/ ScaleInDue observed desired
 · have reached := instancesAt_scaled distinct member exact due
   have opened : instancesAt observed desired.key = 0 \/ 0 < readyAt observed desired.key := by
    unfold ScaleOutDue ScaleInDue at due
    omega
   have wanted := (plannable desired member opened).1
   unfold ScaleOutDue ScaleInDue at again
   omega
 · have same := observedPool_unscaled distinct member (not_or.mp due).1 (not_or.mp due).2
   unfold ScaleOutDue ScaleInDue instancesAt readyAt at again due
   rw [same] at again
   exact due again

theorem plannable_of_converges (fits : CountsFit document observed)
  (settles : ∀ action ∈ (planTopologyActuation (some document) (carriedOut document observed)).actions,
    action.action.scales = false) : Plannable document observed := by
 intro desired member opened
 have spec := planDesiredPool_spec observed desired
 have scaled {action : TopologyActuationAction} (planned : planDesiredPool observed desired = some action)
   (scales : action.action.scales = true) := (exactScale_iff distinct fits member planned scales).mp
    (exact action ((mem_plan_scales distinct scales).mpr ⟨desired, member, planned⟩) scales)
 generalize planned : planDesiredPool observed desired = plan at spec
 cases spec with
 | scaleOut action due pool kind =>
  obtain ⟨wanted, alike⟩ := scaled planned (by rw [kind]; rfl)
  exact ⟨wanted due, alike⟩
 | scaleIn action due pool kind =>
  refine ⟨Nat.pos_of_ne_zero fun unwanted => ?_, (scaled planned (by rw [kind]; rfl)).2⟩
  -- the pool disappears, and its absence is a reason to scale out
  have reached := (instancesAt_scaled distinct member exact (.inr due)).trans unwanted
  have again := planDesiredPool_spec (carriedOut document observed) desired
  generalize planned' : planDesiredPool (carriedOut document observed) desired = plan at again
  cases again with
  | scaleOut other _ _ kind' =>
   have scales : other.action.scales = true := by rw [kind']; rfl
   have idle := settles other ((mem_plan_scales distinct scales).mpr ⟨desired, member, planned'⟩)
   exact Bool.noConfusion (scales.symm.trans idle)
  | scaleIn _ due' => exact due'.2.1 reached
  | other _ notOut => exact notOut (.inl reached)
 | other _ notOut notIn =>
  unfold ScaleOutDue at notOut
  unfold ScaleInDue at notIn
  omega

end Dynaxis.Worlds
