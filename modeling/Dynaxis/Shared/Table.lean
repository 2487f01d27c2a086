import Mathlib.Data.List.AList
import Mathlib.Data.List.Sort

/-! `Table` is an association list with unique keys whose order stands for the unspecified iteration order of
a hash map; updates in place keep that order. `OrderedSet` is a list kept in ascending order without
repetition, so equality of two sets is equality of lists. -/

namespace Dynaxis.Shared

open List Option

universe u v w

abbrev Table (Key : Type u) (Value : Type v) := AList fun _ : Key => Value

namespace Table

variable {Key : Type u} {Value : Type v} {Other : Type w}

def mapValues (table : Table Key Value) (f : Key -> Value -> Other) : Table Key Other where
 entries := table.entries.map fun entry => ⟨entry.1, f entry.1 entry.2⟩
 nodupKeys := by
  have same : (table.entries.map fun entry => (⟨entry.1, f entry.1 entry.2⟩ : Sigma fun _ => Other)).keys
    = table.entries.keys := by
   simp [keys, Function.comp_def]
  rw [List.NodupKeys, same]
  exact table.nodupKeys

variable [DecidableEq Key]

theorem dlookup_map (entries : List (Sigma fun _ : Key => Value)) (f : Key -> Value -> Other) (key : Key) :
  (entries.map fun entry => (⟨entry.1, f entry.1 entry.2⟩ : Sigma fun _ => Other)).dlookup key =
    (entries.dlookup key).map (f key) := by
 induction entries with
 | nil => rfl
 | cons entry rest ih =>
  obtain ⟨other, value⟩ := entry
  by_cases same : other = key
  · subst same
    simp
  · rw [map_cons, dlookup_cons_ne _ _ (Ne.symm same), dlookup_cons_ne _ _ (Ne.symm same), ih]

section

variable (table : Table Key Value) (f : Key -> Value -> Other) (key : Key)

@[simp] theorem lookup_mapValues :
   (table.mapValues f).lookup key = (table.lookup key).map (f key) :=
  dlookup_map table.entries f key

def modify (f : Value -> Value) : Table Key Value :=
 table.mapValues fun other value => if other = key then f value else value

theorem lookup_modify (other : Key) (f : Value -> Value) :
  (table.modify key f).lookup other =
    if other = key then (table.lookup other).map f else table.lookup other := by
 rw [modify, lookup_mapValues]
 by_cases same : other = key <;> simp [same]

def emplace (value : Value) : Table Key Value :=
 match table.lookup key with
 | some _ => table
 | none => AList.insert key value table

end

variable {table : Table Key Value} {key : Key} {label : Other -> Key} {bindings : List (Key × Value)} {value : Value}

theorem lookup_emplace_of_none (value : Value) (fresh : table.lookup key = none) (other : Key) :
  (table.emplace key value).lookup other =
    if other = key then some value else table.lookup other := by
 simp only [emplace, fresh]
 by_cases same : other = key
 · subst same
   simp
 · simp [same, AList.lookup_insert_ne same]

section

variable (table : Table Key Value) (key other : Key) (value : Value)

theorem lookup_insert_ite :
  (table.insert key value).lookup other = if other = key then some value else table.lookup other := by
 by_cases same : other = key
 · subst same
   simp
 · simp [same, AList.lookup_insert_ne same]

theorem lookup_erase_ite :
  (table.erase key).lookup other = if other = key then none else table.lookup other := by
 by_cases same : other = key
 · subst same
   simp
 · simp [same, AList.lookup_erase_ne same]

theorem mem_entries_iff :
  (⟨key, value⟩ : Sigma fun _ => Value) ∈ table.entries ↔ table.lookup key = some value := by
 rw [AList.lookup, <- mem_def, mem_dlookup_iff table.nodupKeys]

end

omit [DecidableEq Key] in
theorem find_label_perm {found : Other -> Bool} {left right : List Other} (same : left.Perm right)
  (alike : ∀ first ∈ right, found first = true -> ∀ second ∈ right, found second = true ->
    label first = label second) : (left.find? found).map label = (right.find? found).map label := by
 cases here : right.find? found with
 | none =>
  have absent : left.find? found = none := by
   rw [find?_eq_none] at here ⊢
   exact fun entry member => here entry (same.mem_iff.mp member)
  rw [absent]
 | some entry =>
  have fits := find?_some here
  have present := mem_of_find?_eq_some here
  obtain ⟨other, otherwise⟩ := isSome_iff_exists.mp (find?_isSome.mpr ⟨entry, same.mem_iff.mpr present, fits⟩)
  have otherPresent := same.mem_iff.mp (mem_of_find?_eq_some otherwise)
  rw [otherwise, map_some, map_some, alike other otherPresent (find?_some otherwise) entry present fits]

section

variable (table : Table Key Value) (keep : Value -> Bool)

def filterValues : Table Key Value where
 entries := table.entries.filter fun entry => keep entry.2
 nodupKeys := (filter_sublist.map Sigma.fst).nodup table.nodupKeys

theorem lookup_filterValues (key : Key) :
  (table.filterValues keep).lookup key = (table.lookup key).filter keep := by
 refine ext fun value => ?_
 rw [<- mem_entries_iff, filterValues, mem_filter, mem_entries_iff, filter_eq_some_iff]

def insertAll (bindings : List (Key × Value)) : Table Key Value :=
 bindings.foldl (fun table binding => table.insert binding.1 binding.2) table

theorem lookup_insertAll_of_notMem (absent : key ∉ bindings.map Prod.fst) :
  (table.insertAll bindings).lookup key = table.lookup key := by
 induction bindings generalizing table with
 | nil => rfl
 | cons binding rest ih =>
  rw [map_cons, mem_cons, not_or] at absent
  exact (ih (table.insert binding.1 binding.2) absent.2).trans (AList.lookup_insert_ne absent.1)

theorem lookup_insertAll_of_mem (unique : (bindings.map Prod.fst).Nodup)
  (member : (key, value) ∈ bindings) : (table.insertAll bindings).lookup key = some value := by
 induction bindings generalizing table with
 | nil => cases member
 | cons binding rest ih =>
  rw [map_cons, nodup_cons] at unique
  obtain rfl | later := mem_cons.mp member
  · exact (lookup_insertAll_of_notMem _ unique.1).trans (AList.lookup_insert table)
  · exact ih (table.insert binding.1 binding.2) unique.2 later

end

theorem mem_of_lookup_insertAll (found : (table.insertAll bindings).lookup key = some value) :
  (key, value) ∈ bindings \/ table.lookup key = some value := by
 induction bindings generalizing table with
 | nil => exact .inr found
 | cons binding rest ih =>
  obtain later | earlier := ih found
  · exact .inl (mem_cons_of_mem _ later)
  · rw [lookup_insert_ite] at earlier
    split at earlier
    next same =>
     cases earlier
     exact .inl (same ▸ mem_cons_self)
    next => exact .inr earlier

section

variable (table : Table Key Value) (bindings : List (Key × Value))

def emplaceAll : Table Key Value :=
 bindings.foldl (fun table binding => table.emplace binding.1 binding.2) table

theorem lookup_emplaceAll (key : Key) :
  (table.emplaceAll bindings).lookup key =
    (table.lookup key).or ((bindings.find? fun binding => binding.1 = key).map (·.2)) := by
 induction bindings generalizing table with
 | nil => simp [emplaceAll]
 | cons binding rest ih =>
  refine (ih _).trans ?_
  rw [find?_cons]
  by_cases same : key = binding.1
  · subst same
    cases taken : table.lookup binding.1 with
    | some _ => simp [emplace, taken]
    | none => simp [lookup_emplace_of_none _ taken]
  · cases taken : table.lookup binding.1 with
    | some _ => simp [emplace, taken, Ne.symm same]
    | none => simp [lookup_emplace_of_none _ taken, same, Ne.symm same]

end

theorem lookup_emplaceAll_of_mem (fresh : table.lookup key = none) (unique : (bindings.map Prod.fst).Nodup)
  (member : (key, value) ∈ bindings) : (table.emplaceAll bindings).lookup key = some value := by
 cases found : bindings.find? fun binding => binding.1 = key with
 | none => simpa using find?_eq_none.mp found _ member
 | some binding =>
  have own : binding.1 = key := by simpa using find?_some found
  cases inj_on_of_nodup_map unique (mem_of_find?_eq_some found) member own
  rw [lookup_emplaceAll, fresh, found]
  rfl

theorem lookup_emplaceAll_ne_none (member : key ∈ bindings.map Prod.fst) :
  (table.emplaceAll bindings).lookup key ≠ none := by
 obtain ⟨binding, listed, rfl⟩ := mem_map.mp member
 rw [lookup_emplaceAll, ne_eq, or_eq_none_iff, map_eq_none_iff, find?_eq_none]
 exact fun absent => absent.2 binding listed (decide_eq_true rfl)

theorem mem_of_lookup_emplaceAll (found : (table.emplaceAll bindings).lookup key = some value) :
  (key, value) ∈ bindings \/ table.lookup key = some value := by
 rw [lookup_emplaceAll, or_eq_some_iff] at found
 obtain earlier | ⟨-, later⟩ := found
 · exact .inr earlier
 · obtain ⟨binding, first, rfl⟩ := map_eq_some_iff.mp later
   have own : binding.1 = key := by simpa using find?_some first
   exact .inl (own ▸ mem_of_find?_eq_some first)

theorem filterMap_filter_label {produce : Key -> Value -> Option Other}
  (labelled : ∀ key value message, produce key value = some message -> label message = key)
  (entries : List (Sigma fun _ : Key => Value)) (unique : entries.NodupKeys) (key : Key) :
  (entries.filterMap fun entry => produce entry.1 entry.2).filter (fun message => label message = key) =
    ((entries.dlookup key).bind (produce key)).toList := by
 induction entries with
 | nil => rfl
 | cons entry rest ih =>
  obtain ⟨other, value⟩ := entry
  rw [nodupKeys_cons] at unique
  have tail := ih unique.2
  by_cases same : other = key
  · subst same
    have absent : rest.dlookup other = none := dlookup_eq_none.mpr unique.1
    rw [absent] at tail
    cases made : produce other value with
    | none => simpa [filterMap_cons, made] using tail
    | some message =>
     have own : label message = other := labelled other value message made
     simpa [filterMap_cons, made, own] using tail
  · rw [dlookup_cons_ne _ _ (Ne.symm same), <- tail]
    cases made : produce other value with
    | none => simp [made]
    | some message =>
     have foreign : label message = other := labelled other value message made
     simp [made, foreign, same]

-- The equality test comes last: lookups use it and not the one of the order.
variable {Name : Type u} [LinearOrder Name] [DecidableEq Name]

def sorted (table : Table Name Value) : List (Name × Value) :=
 (table.entries.map fun entry => (entry.1, entry.2)).insertionSort fun left right => left.1 ≤ right.1

theorem mem_sorted {table : Table Name Value} {binding : Name × Value} :
  binding ∈ table.sorted ↔ table.lookup binding.1 = some binding.2 := by
 rw [sorted, List.mem_insertionSort, List.mem_map, <- mem_entries_iff]
 constructor
 · rintro ⟨entry, member, rfl⟩
   exact member
 · exact fun member => ⟨_, member, rfl⟩

omit [DecidableEq Name] in
theorem nodup_keys_sorted (table : Table Name Value) : (table.sorted.map Prod.fst).Nodup := by
 have same : (table.sorted.map Prod.fst).Perm table.entries.keys := by
  refine ((perm_insertionSort _ _).map Prod.fst).trans ?_
  rw [List.map_map]
  exact List.Perm.refl _
 exact same.nodup_iff.mpr table.nodupKeys

end Table

structure OrderedSet (α : Type u) [LinearOrder α] where
 toList : List α
 sorted : toList.SortedLT
 deriving DecidableEq

namespace OrderedSet

variable {α : Type u} [LinearOrder α]

instance : Membership α (OrderedSet α) where
 mem set element := element ∈ set.toList

instance (element : α) (set : OrderedSet α) : Decidable (element ∈ set) :=
 inferInstanceAs (Decidable (element ∈ set.toList))

def empty : OrderedSet α where
 toList := []
 sorted := by simp [sortedLT_iff_pairwise]

section

variable (set : OrderedSet α) (element : α)

def size : Nat := set.toList.length

def insert : OrderedSet α :=
 if present : element ∈ set then set
 else
  { toList := set.toList.orderedInsert (· ≤ ·) element
    sorted := by
     rw [sortedLT_iff_nodup_and_sortedLE]
     constructor
     · rw [(perm_orderedInsert (· ≤ ·) element set.toList).nodup_iff]
       exact nodup_cons.mpr ⟨present, set.sorted.nodup⟩
     · exact (set.sorted.sortedLE.pairwise.orderedInsert element _).sortedLE }

theorem mem_def {element : α} {set : OrderedSet α} : element ∈ set ↔ element ∈ set.toList :=
 Iff.rfl

@[simp] theorem notMem_empty : element ∉ (empty : OrderedSet α) := by simp [mem_def, empty]

@[simp] theorem mem_insert {element other : α} {set : OrderedSet α} :
   other ∈ set.insert element ↔ other = element \/ other ∈ set := by
  unfold insert
  split
  next present =>
   constructor
   · exact .inr
   · rintro (rfl | member)
     · exact present
     · exact member
  next => simp [mem_def, mem_orderedInsert]

theorem size_insert_le : (set.insert element).size ≤ set.size + 1 := by
 unfold insert
 split
 · exact Nat.le_succ _
 · exact (orderedInsert_length _ _ _).le

end

theorem size_le_of_subset {left right : OrderedSet α} (inside : ∀ element ∈ left, element ∈ right) :
  left.size ≤ right.size :=
 (subperm_of_subset left.sorted.nodup inside).length_le

end OrderedSet

end Dynaxis.Shared
