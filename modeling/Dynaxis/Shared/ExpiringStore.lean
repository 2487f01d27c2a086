import Dynaxis.Shared.Table

namespace Dynaxis.Shared

universe u v

abbrev ExpiringStore (Key : Type u) (Value : Type v) := Table Key (Value × Nat)

namespace ExpiringStore

variable {Key : Type u} {Value : Type v} [DecidableEq Key] [DecidableEq Value]
 (store : ExpiringStore Key Value) (now : Nat) (key : Key)

def get : Option Value :=
 ((store.lookup key).filter fun entry => now < entry.2).map Prod.fst

section

variable (expected value : Value) (ttl : Nat)

def setIfNotExists : ExpiringStore Key Value × Bool :=
 if 0 < ttl /\ (store.get now key).isNone then (store.insert key (value, now + ttl), true) else (store, false)

def setIfEquals : ExpiringStore Key Value :=
 if 0 < ttl /\ store.get now key = some expected then store.insert key (value, now + ttl) else store

def delIfEquals : ExpiringStore Key Value :=
 if store.get now key = some expected then store.erase key else store

def setEx : ExpiringStore Key Value := store.insert key (value, now + ttl)

end

def live : Table Key Value := (store.filterValues fun entry => now < entry.2).mapValues fun _ entry => entry.1

variable {store} {now : Nat} {key : Key}

omit [DecidableEq Value] in
theorem lookup_live (store : ExpiringStore Key Value) (now : Nat) (key : Key) :
  (store.live now).lookup key = store.get now key := by
 rw [live, Table.lookup_mapValues, Table.lookup_filterValues]
 rfl

abbrev LastsUntil (store : ExpiringStore Key Value) (key : Key) (value : Value) (time : Nat) : Prop :=
 ∃ entry ∈ store.lookup key, entry.1 = value /\ time ≤ entry.2

variable {value : Value} {time ttl : Nat} {after : ExpiringStore Key Value}

omit [DecidableEq Value] in
theorem LastsUntil.get (lasts : store.LastsUntil key value time) (early : now < time) :
  store.get now key = some value := by
 obtain ⟨entry, found, rfl, late⟩ := lasts
 have alive : now < entry.2 := Nat.lt_of_lt_of_le early late
 rw [get, (found : store.lookup key = some entry), Option.filter_some, if_pos (decide_eq_true alive)]
 rfl

omit [DecidableEq Value] in
theorem LastsUntil.setEx (late : time ≤ now + ttl) : (store.setEx now key value ttl).LastsUntil key value time :=
 ⟨(value, now + ttl), by rw [ExpiringStore.setEx, Option.mem_def, Table.lookup_insert_ite, if_pos rfl], rfl, late⟩

omit [DecidableEq Value] in
theorem LastsUntil.of_lookup (lasts : store.LastsUntil key value time) (same : after.lookup key = store.lookup key) :
  after.LastsUntil key value time := by
 obtain ⟨entry, found, kept⟩ := lasts
 exact ⟨entry, same.trans found, kept⟩

omit [DecidableEq Value] in
theorem get_of_setIfNotExists (claimed : store.setIfNotExists now key value ttl = (after, true)) :
  after.get now key = some value := by
 rw [setIfNotExists] at claimed
 split at claimed
 next free =>
  cases claimed
  simp [get, Option.filter_some, free.1]
 · cases claimed

end ExpiringStore

end Dynaxis.Shared
