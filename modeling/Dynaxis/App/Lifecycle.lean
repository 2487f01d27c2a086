import Dynaxis.App.EngineRuntime
import Mathlib.Data.Fintype.Basic

namespace Dynaxis.App

open Shared List EngineRuntime App.Frame List.Subset Nat

def Sweep.early : Sweep -> Bool
 | .notBegun | .testing | .swapping => true
 | .running _ | .claimed .. | .calling .. | .finished => false

def Sweep.isUnderWay : Sweep -> Bool
 | .notBegun | .finished => false
 | .testing | .swapping | .running _ | .claimed .. | .calling .. => true

namespace EngineRuntime

variable {runtime next : EngineRuntime}

section

variable (runtime : EngineRuntime) (get : Entry -> Bool) (entry : Nat) (change : Entry -> Entry)

def stepEntries : List Nat := runtime.steps.map (·.entry)

def todo : List Nat :=
 match runtime.sweep with
 | .notBegun | .testing | .swapping => runtime.stepEntries.reverse
 | .running rest | .calling _ rest => rest.map (·.entry)
 | .claimed current rest => current.entry :: rest.map (·.entry)
 | .finished => []

def claimedEntry : Option Nat :=
 match runtime.sweep with
 | .claimed current _ => some current.entry
 | _ => none

theorem field_modify (other : Nat) :
  (runtime.modify entry change).field get other =
    if other = entry then (runtime.entries[other]?).any fun found => get (change found)
    else runtime.field get other := by
 by_cases same : other = entry
 · subst same
   simp [field, modify, Option.any_map]
 · simp [field, modify, same, Ne.symm same]

@[simp] theorem length_modify :
   (runtime.modify entry change).entries.length = runtime.entries.length := by
  simp [modify]

end

variable {get : Entry -> Bool} {entry : Nat} {added : Entry} {current : ShutdownStep} {rest : List ShutdownStep}

theorem field_modify_of_same (runtime : EngineRuntime) {change : Entry -> Entry}
  (same : ∀ found, get (change found) = get found) (entry other : Nat) :
  (runtime.modify entry change).field get other = runtime.field get other := by
 rw [field_modify]
 split
 · simp only [field, same]
 · rfl

theorem field_of_lt (added : List Entry) (get : Entry -> Bool) (inside : entry < runtime.entries.length) :
  { runtime with entries := runtime.entries ++ added }.field get entry = runtime.field get entry := by
 simp [field, getElem?_append_left inside]

theorem lt_of_field (set : runtime.field get entry = true) : entry < runtime.entries.length := by
 by_contra outside
 simp [field, getElem?_eq_none (not_lt.mp outside)] at set

structure Orderly (runtime : EngineRuntime) : Prop where
 bounded : ∀ entry ∈ runtime.stepEntries, entry < runtime.entries.length
 known : ∀ entry ∈ runtime.startups, entry < runtime.entries.length
 early : runtime.sweep.early = true -> runtime.shutdowns = []
 sorted : (runtime.shutdowns ++ runtime.todo).Pairwise (· > ·)
 covered : ∀ entry ∈ runtime.startups, runtime.hasShutdown entry = true ->
  entry ∈ runtime.shutdowns \/ entry ∈ runtime.todo
 live : ∀ entry, entry ∉ runtime.shutdowns -> runtime.claimedEntry ≠ some entry ->
  (runtime.started entry = true ↔ entry ∈ runtime.startups)
 taken : ∀ entry, runtime.claimedEntry = some entry -> runtime.started entry = false
 marked : ∀ entry, runtime.started entry = true -> runtime.hasShutdown entry = true -> entry ∈ runtime.todo
 ran : ∀ entry, runtime.shutdownRan entry = true -> entry ∈ runtime.shutdowns

theorem Orderly.initial (name : String) : Orderly { name } := by
 constructor <;> simp [stepEntries, todo, claimedEntry, started, shutdownRan, field]

theorem Orderly.congr (orderly : runtime.Orderly) (entries : next.entries = runtime.entries)
  (steps : next.stepEntries ⊆ runtime.stepEntries) (todo : next.todo = runtime.todo)
  (claimed : next.claimedEntry = runtime.claimedEntry)
  (early : next.sweep.early = true -> runtime.sweep.early = true) (startups : next.startups = runtime.startups)
  (shutdowns : next.shutdowns = runtime.shutdowns) : next.Orderly := by
 obtain ⟨bounded, known, unrun, sorted, covered, live, taken, marked, ran⟩ := orderly
 refine ⟨fun entry member => ?_, ?_, fun soon => ?_, ?_, ?_, ?_, ?_, ?_, ?_⟩
 · rw [entries]
   exact bounded entry (steps member)
 · simpa only [entries, startups]
 · rw [shutdowns]
   exact unrun (early soon)
 all_goals simpa only [started, hasShutdown, shutdownRan, field, entries, todo, claimed, startups, shutdowns]

theorem field_append_of_false (unset : get added = false) (entry : Nat) :
  { runtime with entries := runtime.entries ++ [added] }.field get entry = runtime.field get entry := by
 obtain inside | rfl | outside := lt_trichotomy entry runtime.entries.length
 · exact field_of_lt [added] get inside
 · simp [field, unset]
 · have beyond : (runtime.entries ++ [added]).length ≤ entry := by
    simp only [length_append, length_singleton]
    omega
   simp [field, getElem?_eq_none outside.le, getElem?_eq_none beyond]

theorem Orderly.register (orderly : runtime.Orderly) (fresh : added.started = false)
  (unrun : added.shutdownRan = false) : { runtime with entries := runtime.entries ++ [added] }.Orderly := by
 have grown {entry : Nat} (inside : entry < runtime.entries.length) :
  entry < (runtime.entries ++ [added]).length := by
  simp only [length_append, length_singleton]
  omega
 refine ⟨fun entry member => grown (orderly.bounded entry member),
  fun entry member => grown (orderly.known entry member), orderly.early, orderly.sorted, fun entry member has => ?_,
  fun entry undone unclaimed => ?_, fun entry claimed => ?_, fun entry marked has => ?_, fun entry ran => ?_⟩
 · rw [hasShutdown, field_of_lt _ _ (orderly.known entry member)] at has
   exact orderly.covered entry member has
 · rw [started, field_append_of_false fresh]
   exact orderly.live entry undone unclaimed
 · rw [started, field_append_of_false fresh]
   exact orderly.taken entry claimed
 · rw [started, field_append_of_false fresh] at marked
   rw [hasShutdown, field_of_lt _ _ (lt_of_field marked)] at has
   exact orderly.marked entry marked has
 · rw [shutdownRan, field_append_of_false unrun] at ran
   exact orderly.ran entry ran

theorem addShutdownStep_cases (runtime : EngineRuntime) (entry : Nat) :
  (runtime.hasShutdown entry = false /\ runtime.addShutdownStep entry = runtime) \/
    ∃ name, runtime.addShutdownStep entry = { runtime with steps := runtime.steps ++ [⟨name, entry⟩] } := by
 unfold addShutdownStep
 split
 next found present =>
  split
  · exact .inr ⟨_, rfl⟩
  next without => exact .inl ⟨by simpa [hasShutdown, field, present] using without, rfl⟩
 next missing => exact .inl ⟨by simp [hasShutdown, field, missing], rfl⟩

theorem todo_of_early (early : runtime.sweep.early = true) : runtime.todo = runtime.stepEntries.reverse := by
 unfold todo
 unfold Sweep.early at early
 split <;> simp_all

theorem Orderly.add_step (orderly : runtime.Orderly) (name : String)
  (inside : entry < runtime.entries.length) (last : ∀ other ∈ runtime.stepEntries, other < entry)
  (grown : next = { runtime with steps := runtime.steps ++ [⟨name, entry⟩] }) : next.Orderly := by
 have entries : next.stepEntries = runtime.stepEntries ++ [entry] := by simp [grown, stepEntries]
 have sweep : next.sweep = runtime.sweep := by rw [grown]
 have known : ∀ other ∈ next.stepEntries, other < next.entries.length := by
  intro other member
  rw [entries, mem_append, mem_singleton] at member
  rw [grown]
  obtain earlier | rfl := member
  · exact orderly.bounded other earlier
  · exact inside
 by_cases early : runtime.sweep.early = true
 · have todo : next.todo = entry :: runtime.todo := by
    rw [todo_of_early early, todo_of_early (sweep ▸ early), entries, reverse_append]
    rfl
   have more {other : Nat} (member : other ∈ runtime.todo) : other ∈ next.todo := by
    rw [todo]
    exact mem_cons_of_mem _ member
   have sorted : (next.shutdowns ++ next.todo).Pairwise (· > ·) := by
    have unrun : next.shutdowns = [] := by rw [grown]; exact orderly.early early
    have tail := orderly.sorted
    rw [orderly.early early] at tail
    rw [unrun, todo, nil_append, pairwise_cons]
    refine ⟨fun other member => last other ?_, tail⟩
    simpa [todo_of_early early] using member
   subst grown
   exact ⟨known, orderly.known, orderly.early, sorted,
    fun other member has => (orderly.covered other member has).imp_right more, orderly.live, orderly.taken,
    fun other marked has => more (orderly.marked other marked has), orderly.ran⟩
 · have todo : next.todo = runtime.todo := by
    subst grown
    unfold todo
    cases state : runtime.sweep <;> simp_all [Sweep.early]
   subst grown
   exact ⟨known, orderly.known, orderly.early, todo ▸ orderly.sorted, todo ▸ orderly.covered, orderly.live,
    orderly.taken, todo ▸ orderly.marked, orderly.ran⟩

theorem Orderly.addShutdownStep (orderly : runtime.Orderly) (inside : entry < runtime.entries.length)
  (last : ∀ other ∈ runtime.stepEntries, other < entry) : (runtime.addShutdownStep entry).Orderly := by
 obtain ⟨_, same⟩ | ⟨name, grown⟩ := addShutdownStep_cases runtime entry
 · rwa [same]
 · exact orderly.add_step name inside last grown

theorem bounded_modify (change : Entry -> Entry) {entries : List Nat}
  (bounded : ∀ other ∈ entries, other < runtime.entries.length) :
  ∀ other ∈ entries, other < (runtime.modify entry change).entries.length :=
 fun other member => (bounded other member).trans_eq (length_modify ..).symm

theorem Orderly.clear (orderly : runtime.Orderly) (entry : Nat) :
  (runtime.modify entry ({ · with shutdownRan := false })).Orderly := by
 have has (other : Nat) : (runtime.modify entry ({ · with shutdownRan := false })).hasShutdown other =
  runtime.hasShutdown other := field_modify_of_same runtime (by simp) entry other
 have starts (other : Nat) : (runtime.modify entry ({ · with shutdownRan := false })).started other =
  runtime.started other := field_modify_of_same runtime (by simp) entry other
 refine ⟨bounded_modify _ orderly.bounded, bounded_modify _ orderly.known, orderly.early, orderly.sorted,
  fun other member callback => ?_, fun other undone unclaimed => ?_, fun other claimed => ?_,
   fun other marked callback => ?_,
  fun other ran => ?_⟩
 · exact orderly.covered other member ((has other).symm.trans callback)
 · exact (Bool.eq_iff_iff.mp (starts other)).trans (orderly.live other undone unclaimed)
 · exact (starts other).trans (orderly.taken other claimed)
 · exact orderly.marked other ((starts other).symm.trans marked) ((has other).symm.trans callback)
 · rw [shutdownRan, field_modify] at ran
   split at ran
   · simp at ran
   · exact orderly.ran other ran

theorem started_modify_true (runtime : EngineRuntime) (inside : entry < runtime.entries.length) (other : Nat) :
  (runtime.modify entry ({ · with started := true })).started other = (other = entry || runtime.started other) := by
 rw [started, field_modify]
 by_cases same : other = entry
 · subst same
   simp [getElem?_eq_getElem inside]
 · simp [same, started]

theorem started_modify_false (runtime : EngineRuntime) (entry other : Nat) :
  (runtime.modify entry ({ · with started := false })).started other = (other ≠ entry && runtime.started other) := by
 rw [started, field_modify]
 by_cases same : other = entry
 · simp [same]
 · simp [same, started]

variable (orderly : runtime.Orderly)
include orderly

theorem Orderly.publish (inside : entry < runtime.entries.length)
  (notBegun : runtime.sweep = .notBegun) (listed : runtime.hasShutdown entry = true -> entry ∈ runtime.stepEntries) :
  Orderly { runtime.modify entry ({ · with started := true }) with startups := runtime.startups ++ [entry] } := by
 have todo : runtime.todo = runtime.stepEntries.reverse := by simp [todo, notBegun]
 have after : EngineRuntime.todo
   { runtime.modify entry ({ · with started := true }) with startups := runtime.startups ++ [entry] } = runtime.todo := by
  simp [EngineRuntime.todo, modify, notBegun, stepEntries]
 have has (other : Nat) : (runtime.modify entry ({ · with started := true })).hasShutdown other =
  runtime.hasShutdown other := field_modify_of_same runtime (by simp) entry other
 have starts (other : Nat) := started_modify_true runtime inside other
 have due {other : Nat} (callback : runtime.hasShutdown other = true)
   (known : other = entry \/ other ∈ runtime.todo) : other ∈ runtime.todo := by
  obtain rfl | earlier := known
  · simpa [todo] using listed callback
  · exact earlier
 have unrun : runtime.shutdowns = [] := orderly.early (by rw [notBegun]; rfl)
 refine ⟨bounded_modify _ orderly.bounded, bounded_modify _ (forall_mem_append.mpr ⟨orderly.known, by simpa⟩),
  fun _ => unrun, ?_, fun other member callback => ?_, fun other _ _ => ?_, fun other claimed => ?_,
  fun other marked callback => ?_, fun other ran => ?_⟩
 · rw [after]
   exact orderly.sorted
 · have callback := (has other).symm.trans callback
   rw [after]
   right
   apply due callback
   obtain earlier | same := mem_append.mp member
   · right
     simpa [unrun] using orderly.covered other earlier callback
   · exact .inl (mem_singleton.mp same)
 · have before := orderly.live other (by simp [unrun]) (by simp [claimedEntry, notBegun])
   refine (Bool.eq_iff_iff.mp (starts other)).trans ?_
   simp [before, or_comm]
 · simp [claimedEntry, modify, notBegun] at claimed
 · have callback := (has other).symm.trans callback
   have marked := (starts other).symm.trans marked
   rw [after]
   apply due callback
   simp only [Bool.or_eq_true, decide_eq_true_eq] at marked
   exact marked.imp_right fun started => orderly.marked other started callback
 · exact orderly.ran other ((field_modify_of_same runtime (by simp) entry other).symm.trans ran)

theorem Orderly.not_done (due : entry ∈ runtime.todo) : entry ∉ runtime.shutdowns := by
 intro done
 have later := (pairwise_append.mp orderly.sorted).2.2 entry done entry due
 exact lt_irrefl entry later

theorem Orderly.skip (running : runtime.sweep = .running (current :: rest))
  (idle : runtime.started current.entry = false) : { runtime with sweep := .running rest }.Orderly := by
 have todo : runtime.todo = current.entry :: rest.map (·.entry) := by simp [todo, running]
 have unclaimed (entry : Nat) : runtime.claimedEntry ≠ some entry := by simp [claimedEntry, running]
 have remaining {entry : Nat} (due : entry ∈ runtime.todo) (other : entry ≠ current.entry) :
   entry ∈ rest.map (·.entry) := by
  rw [todo, mem_cons] at due
  exact due.resolve_left other
 refine ⟨orderly.bounded, orderly.known, nofun, ?_, fun entry member has => ?_, fun entry undone _ => ?_, nofun,
  fun entry marked has => ?_, orderly.ran⟩
 · refine orderly.sorted.sublist (List.Sublist.append_left ?_ _)
   rw [todo]
   exact sublist_cons_self ..
 · obtain done | due := orderly.covered entry member has
   · exact .inl done
   · have started := (orderly.live entry (orderly.not_done due) (unclaimed entry)).mpr member
     refine .inr (remaining due ?_)
     rintro rfl
     simp [idle] at started
 · exact orderly.live entry undone (unclaimed entry)
 · refine remaining (orderly.marked entry marked has) ?_
   rintro rfl
   exact Bool.false_ne_true (idle.symm.trans marked)

theorem Orderly.take (running : runtime.sweep = .running (current :: rest)) :
  Orderly { runtime.modify current.entry ({ · with started := false }) with sweep := .claimed current rest } := by
 have todo : current.entry :: rest.map (·.entry) = runtime.todo := by simp [todo, running]
 have has (entry : Nat) : (runtime.modify current.entry ({ · with started := false })).hasShutdown entry =
  runtime.hasShutdown entry := field_modify_of_same runtime (by simp) _ entry
 have starts (entry : Nat) := started_modify_false runtime current.entry entry
 have unclaimed (entry : Nat) : runtime.claimedEntry ≠ some entry := by simp [claimedEntry, running]
 refine ⟨bounded_modify _ orderly.bounded, bounded_modify _ orderly.known, nofun, ?_,
  fun entry member callback => ?_, fun entry undone other => ?_, fun entry same => ?_,
   fun entry marked callback => ?_,
  fun entry done => ?_⟩
 · have sorted := orderly.sorted
   rw [<- todo] at sorted
   exact sorted
 · have either := orderly.covered entry member ((has entry).symm.trans callback)
   rw [<- todo] at either
   exact either
 · have different : entry ≠ current.entry := fun same => other (congrArg some same.symm)
   refine (Bool.eq_iff_iff.mp (starts entry)).trans (Iff.trans ?_ (orderly.live entry undone (unclaimed entry)))
   simp [different]
 · cases same
   exact (starts _).trans (by simp)
 · have started := Bool.and_eq_true_iff.mp ((starts entry).symm.trans marked)
   have due := orderly.marked entry started.2 ((has entry).symm.trans callback)
   rw [<- todo] at due
   exact due
 · exact orderly.ran entry ((field_modify_of_same runtime (by simp) _ entry).symm.trans done)

theorem Orderly.callback (claimed : runtime.sweep = .claimed current rest) :
  Orderly { runtime.modify current.entry ({ · with shutdownRan := true }) with
   shutdowns := runtime.shutdowns ++ [current.entry], sweep := .calling current rest } := by
 have todo : runtime.todo = current.entry :: rest.map (·.entry) := by simp [todo, claimed]
 have taken : runtime.claimedEntry = some current.entry := by simp [claimedEntry, claimed]
 have has (entry : Nat) : (runtime.modify current.entry ({ · with shutdownRan := true })).hasShutdown entry =
  runtime.hasShutdown entry := field_modify_of_same runtime (by simp) _ entry
 have starts (entry : Nat) : (runtime.modify current.entry ({ · with shutdownRan := true })).started entry =
  runtime.started entry := field_modify_of_same runtime (by simp) _ entry
 refine ⟨bounded_modify _ orderly.bounded, bounded_modify _ orderly.known, nofun, ?_,
  fun entry member callback => ?_,
  fun entry undone _ => ?_, nofun, fun entry marked callback => ?_, fun entry done => ?_⟩
 · have sorted := orderly.sorted
   rw [todo] at sorted
   change ((runtime.shutdowns ++ [current.entry]) ++ rest.map (·.entry)).Pairwise _
   simpa using sorted
 · have either := orderly.covered entry member ((has entry).symm.trans callback)
   rw [todo, mem_cons] at either
   rw [mem_append, mem_singleton, or_assoc]
   exact either
 · rw [mem_append, mem_singleton, not_or] at undone
   refine (Bool.eq_iff_iff.mp (starts entry)).trans (orderly.live entry undone.1 ?_)
   rw [taken, Ne, Option.some.injEq]
   exact fun same => undone.2 same.symm
 · have marked := (starts entry).symm.trans marked
   have due := orderly.marked entry marked ((has entry).symm.trans callback)
   rw [todo, mem_cons] at due
   refine due.resolve_left ?_
   rintro rfl
   exact Bool.false_ne_true ((orderly.taken _ taken).symm.trans marked)
 · rw [mem_append, mem_singleton]
   by_cases same : entry = current.entry
   · exact .inr same
   · change (runtime.modify current.entry _).field _ entry = true at done
     rw [field_modify, if_neg same] at done
     exact .inl (orderly.ran entry done)

omit orderly

def Listed (runtime : EngineRuntime) (entry : Nat) : Prop :=
 entry < runtime.entries.length /\
  (runtime.sweep = .notBegun -> runtime.hasShutdown entry = true -> entry ∈ runtime.stepEntries)

def FrameFact (runtime : EngineRuntime) : Frame -> Prop
 | .registered entry _ => entry < runtime.entries.length /\ ∀ other ∈ runtime.stepEntries, other < entry
 | .stepAdded entry _ => runtime.Listed entry
 | .loop rest => ∀ entry ∈ rest, runtime.Listed entry
 | .inStartup entry rest | .clearing entry rest | .publishing entry rest =>
  ∀ other ∈ entry :: rest, runtime.Listed other
 | .flagged => runtime.shutdownPhaseStarted = true
 | .stopping | .claiming => runtime.shutdownPhaseStarted = true /\ runtime.stopRequested = true
 | .sweeping => runtime.sweep ≠ .notBegun

end EngineRuntime

namespace Frame

def starts : Frame -> Bool
 | .loop rest => !rest.isEmpty
 | .inStartup .. | .clearing .. | .publishing .. => true
 | .registered .. | .stepAdded .. | .flagged | .stopping | .claiming | .sweeping => false

def isRegistered : Frame -> Bool
 | .registered .. => true
 | _ => false

def shutsDown : Frame -> Bool
 | .flagged | .stopping | .claiming | .sweeping => true
 | _ => false

end Frame

namespace EngineRuntime

variable {runtime next : EngineRuntime}

structure Grows (runtime next : EngineRuntime) : Prop where
 length : runtime.entries.length ≤ next.entries.length
 has : ∀ entry < runtime.entries.length, next.hasShutdown entry = runtime.hasShutdown entry
 steps : next.sweep = .notBegun -> runtime.stepEntries ⊆ next.stepEntries
 begun : next.sweep = .notBegun -> runtime.sweep = .notBegun
 phase : runtime.shutdownPhaseStarted = true -> next.shutdownPhaseStarted = true
 stop : runtime.stopRequested = true -> next.stopRequested = true

variable {entry : Nat} {frame : Frame} {old : List Frame} {free : Bool} {result : EngineRuntime × List Frame}

theorem Listed.grows (listed : runtime.Listed entry) (grows : runtime.Grows next) : next.Listed entry := by
 refine ⟨listed.1.trans_le grows.length, fun notBegun has => grows.steps notBegun ?_⟩
 rw [grows.has entry listed.1] at has
 exact listed.2 (grows.begun notBegun) has

theorem FrameFact.grows (fact : runtime.FrameFact frame) (grows : runtime.Grows next)
  (steady : frame.isRegistered = false \/ next.stepEntries ⊆ runtime.stepEntries) : next.FrameFact frame := by
 cases frame with
 | registered entry startImmediately =>
  refine ⟨fact.1.trans_le grows.length, fun other member => ?_⟩
  exact fact.2 other ((steady.resolve_left nofun) member)
 | stepAdded entry startImmediately => exact Listed.grows fact grows
 | loop rest => exact fun entry member => (fact entry member).grows grows
 | inStartup entry rest | clearing entry rest | publishing entry rest =>
  exact fun other member => (fact other member).grows grows
 | flagged => exact grows.phase fact
 | stopping | claiming => exact ⟨grows.phase fact.1, grows.stop fact.2⟩
 | sweeping => exact fun notBegun => fact (grows.begun notBegun)

theorem Grows.rfl : runtime.Grows runtime where
 length := le_refl _
 has _ _ := Eq.refl _
 steps _ := refl _
 begun := id
 phase := id
 stop := id

theorem Grows.of_has (length : next.entries.length = runtime.entries.length)
  (has : ∀ entry, next.hasShutdown entry = runtime.hasShutdown entry)
  (steps : next.sweep = .notBegun -> next.steps = runtime.steps)
  (begun : next.sweep = .notBegun -> runtime.sweep = .notBegun)
  (phase : next.shutdownPhaseStarted = runtime.shutdownPhaseStarted)
  (stop : next.stopRequested = runtime.stopRequested) : runtime.Grows next where
 length := length.ge
 has entry _ := has entry
 steps notBegun := by simp [stepEntries, steps notBegun]
 begun := begun
 phase held := phase ▸ held
 stop held := stop ▸ held

structure Flags (runtime : EngineRuntime) : Prop where
 begun : runtime.sweep ≠ .notBegun -> runtime.shutdownPhaseStarted = true /\ runtime.stopRequested = true
 returned : 0 < runtime.returned -> runtime.sweep ≠ .notBegun

structure Local (runtime : EngineRuntime) (old : List Frame) (free : Bool) (result : EngineRuntime × List Frame) :
  Prop where
 orderly : result.1.Orderly
 flags : result.1.Flags
 grows : runtime.Grows result.1
 facts : ∀ frame ∈ result.2, result.1.FrameFact frame
 single : result.2.length ≤ 1
 steady : free = true -> result.1.stepEntries ⊆ runtime.stepEntries
 shuts : free = true -> ∀ frame ∈ result.2, frame.shutsDown = true
 settled : result.1.sweep ≠ .notBegun -> ∀ frame ∈ result.2, frame.starts = false
 begins : result.1.sweep ≠ .notBegun -> runtime.sweep = .notBegun -> old = [.claiming]
 sweeping : result.1.sweep.isUnderWay = true ->
  .sweeping ∈ result.2 \/ (runtime.sweep.isUnderWay = true /\ .sweeping ∉ old)
 added : ∀ entry, result.1.sweep = .notBegun -> result.1.hasShutdown entry = true ->
  entry ∈ result.1.stepEntries \/ (∃ startImmediately, .registered entry startImmediately ∈ result.2) \/
   (runtime.hasShutdown entry = true /\ entry ∉ runtime.stepEntries /\
     ∀ startImmediately, .registered entry startImmediately ∉ old)

theorem Local.of_change (orderly : result.1.Orderly) (flags : result.1.Flags)
  (length : result.1.entries.length = runtime.entries.length)
  (has : ∀ entry, result.1.hasShutdown entry = runtime.hasShutdown entry)
  (steps : result.1.steps = runtime.steps \/ (result.1.steps = [] /\ result.1.sweep ≠ .notBegun))
  (begun : result.1.sweep = .notBegun -> runtime.sweep = .notBegun)
  (phase : runtime.shutdownPhaseStarted = true -> result.1.shutdownPhaseStarted = true)
  (stop : runtime.stopRequested = true -> result.1.stopRequested = true)
  (facts : ∀ frame ∈ result.2, result.1.FrameFact frame) (single : result.2.length ≤ 1)
  (shuts : free = true -> ∀ frame ∈ result.2, frame.shutsDown = true)
  (settled : result.1.sweep ≠ .notBegun -> ∀ frame ∈ result.2, frame.starts = false)
  (begins : result.1.sweep ≠ .notBegun -> runtime.sweep = .notBegun -> old = [.claiming])
  (sweeping : result.1.sweep.isUnderWay = true ->
    .sweeping ∈ result.2 \/ (runtime.sweep.isUnderWay = true /\ .sweeping ∉ old))
  (registered : ∀ entry startImmediately, .registered entry startImmediately ∉ old) :
  runtime.Local old free result := by
 have fewer : result.1.stepEntries ⊆ runtime.stepEntries := by
  obtain same | ⟨none, _⟩ := steps
  · simp [stepEntries, same]
  · simp [stepEntries, none]
 have kept (notBegun : result.1.sweep = .notBegun) : result.1.stepEntries = runtime.stepEntries := by
  obtain same | ⟨_, later⟩ := steps
  · simp [stepEntries, same]
  · exact absurd notBegun later
 refine ⟨orderly, flags, ⟨length.ge, fun entry _ => has entry, fun notBegun => by simp [kept notBegun], begun, phase, stop⟩,
  facts, single, fun _ => fewer, shuts, settled, begins, sweeping, fun entry notBegun callback => ?_⟩
 rw [has] at callback
 rw [kept notBegun]
 by_cases member : entry ∈ runtime.stepEntries
 · exact .inl member
 · exact .inr (.inr ⟨callback, member, registered entry⟩)

variable (orderly : runtime.Orderly)
include orderly

theorem Local.of_flags (entries : result.1.entries = runtime.entries) (steps : result.1.steps = runtime.steps)
  (sweep : result.1.sweep = runtime.sweep) (startups : result.1.startups = runtime.startups)
  (shutdowns : result.1.shutdowns = runtime.shutdowns) (flags : result.1.Flags)
  (phase : runtime.shutdownPhaseStarted = true -> result.1.shutdownPhaseStarted = true)
  (stop : runtime.stopRequested = true -> result.1.stopRequested = true)
  (facts : ∀ frame ∈ result.2, result.1.FrameFact frame) (single : result.2.length ≤ 1)
  (shuts : free = true -> ∀ frame ∈ result.2, frame.shutsDown = true)
  (settled : runtime.sweep ≠ .notBegun -> ∀ frame ∈ result.2, frame.starts = false)
  (sweeping : .sweeping ∉ old) (registered : ∀ entry startImmediately, .registered entry startImmediately ∉ old) :
  runtime.Local old free result := by
 have same : result.1.stepEntries = runtime.stepEntries := by rw [stepEntries, steps, stepEntries]
 refine .of_change (orderly.congr entries (by simp [same]) ?_ ?_ (by simp [sweep]) startups shutdowns) flags
  (by rw [entries]) (fun entry => ?_) (.inl steps) (by simp [sweep]) phase stop facts single shuts (by rwa [sweep])
  ?_ ?_ registered
 · simp only [todo, sweep, same]
 · simp only [claimedEntry, sweep]
 · rw [hasShutdown, field, entries]
   rfl
 · rw [sweep]
   exact fun begun notBegun => absurd notBegun begun
 · rw [sweep]
   exact fun underWay => .inr ⟨underWay, sweeping⟩

theorem local_return (flags : runtime.Flags)
  (sweeping : .sweeping ∉ old) (registered : ∀ entry startImmediately, .registered entry startImmediately ∉ old) :
  runtime.Local old free (runtime, []) :=
 .of_flags orderly rfl rfl rfl rfl rfl flags id id nofun (zero_le 1) nofun nofun sweeping registered

theorem local_register (flags : runtime.Flags) (name : String) (hasStartup hasShutdown : Bool) :
  runtime.Local [] false (runtime.enter (.registerModule name hasStartup hasShutdown)) := by
 refine ⟨orderly.register rfl rfl, ⟨flags.begun, flags.returned⟩, ⟨?_, fun entry inside => field_of_lt _ _ inside,
  fun _ => refl _, id, id, id⟩, ?_, by simp [enter], nofun, nofun, by simp [enter, starts], ?_, ?_, ?_⟩
 · simp [enter]
 · simp only [enter, mem_singleton, forall_eq]
   refine ⟨by simp, fun other member => orderly.bounded other member⟩
 · exact fun begun notBegun => absurd notBegun begun
 · exact fun underWay => .inr ⟨underWay, nofun⟩
 · intro entry _ callback
   obtain inside | outside := lt_or_ge entry runtime.entries.length
   · by_cases member : entry ∈ runtime.stepEntries
     · exact .inl member
     · refine .inr (.inr ⟨?_, member, nofun⟩)
       exact (field_of_lt _ _ inside).symm.trans callback
   · have last := lt_of_field callback
     have same : entry = runtime.entries.length := by
      simp only [enter, length_append, length_singleton] at last
      omega
     exact .inr (.inl ⟨_, by rw [same]; exact mem_singleton_self _⟩)

theorem local_enter (flags : runtime.Flags) (call : Call)
  (listed : call.anyThread = false -> runtime.sweep = .notBegun ->
    ∀ entry, runtime.hasShutdown entry = true -> entry ∈ runtime.stepEntries) :
  runtime.Local [] call.anyThread (runtime.enter call) := by
 cases call with
 | registerModule name hasStartup hasShutdown => exact local_register orderly flags name hasStartup hasShutdown
 | startModules =>
  rw [enter]
  split
  · exact local_return orderly flags nofun nofun
  next begun =>
   refine .of_flags orderly rfl rfl rfl rfl rfl ⟨flags.begun, flags.returned⟩ id id ?_ (by simp)
    nofun ?_ nofun nofun
   · simp only [mem_singleton, forall_eq]
     intro entry member
     exact ⟨mem_range.mp member, fun notBegun has => listed rfl notBegun entry has⟩
   · intro sweeps
     simp [(flags.begun sweeps).1] at begun
 | runShutdown =>
  refine .of_flags orderly rfl rfl rfl rfl rfl ⟨fun sweeps => ⟨rfl, (flags.begun sweeps).2⟩, flags.returned⟩
   (fun _ => rfl) id ?_ (by simp [enter]) ?_ ?_ nofun nofun
  · simp [enter, FrameFact]
  · simp [enter, shutsDown]
  · simp [enter, starts]
 | requestStop =>
  exact .of_flags orderly rfl rfl rfl rfl rfl ⟨fun sweeps => ⟨(flags.begun sweeps).1, rfl⟩, flags.returned⟩
   id (fun _ => rfl) nofun (by simp [enter]) nofun nofun nofun nofun

theorem local_registered {startImmediately : Bool} (flags : runtime.Flags)
  (fact : runtime.FrameFact (.registered entry startImmediately)) :
  runtime.Local [.registered entry startImmediately] false
   (runtime.addShutdownStep entry, [.stepAdded entry startImmediately]) := by
 have added := orderly.addShutdownStep fact.1 fact.2
 obtain ⟨without, same⟩ | ⟨name, grown⟩ := addShutdownStep_cases runtime entry
 · rw [same]
   refine ⟨orderly, flags, .rfl, ?_, by simp, nofun, nofun, by simp [starts],
    fun begun notBegun => absurd notBegun begun,
    fun underWay => .inr ⟨underWay, by simp⟩, fun other _ callback => ?_⟩
   · simp only [mem_singleton, forall_eq]
     exact ⟨fact.1, fun _ has => absurd has (by simp [without])⟩
   · by_cases member : other ∈ runtime.stepEntries
     · exact .inl member
     · refine .inr (.inr ⟨callback, member, fun _ => ?_⟩)
       simp only [mem_singleton, registered.injEq, not_and]
       rintro rfl
       exact absurd callback (by simp [without])
 · have entries : (runtime.addShutdownStep entry).stepEntries = runtime.stepEntries ++ [entry] := by
    simp [grown, stepEntries]
   rw [grown] at added entries ⊢
   refine ⟨added, ⟨flags.begun, flags.returned⟩, ⟨le_refl _, fun _ _ => rfl, ?_, id, id, id⟩, ?_, by simp,
    nofun, nofun, by simp [starts], fun begun notBegun => absurd notBegun begun,
    fun underWay => .inr ⟨underWay, by simp⟩, fun other _ callback => ?_⟩
   · rw [entries]
     exact fun _ => subset_append_left _ _
   · simp only [mem_singleton, forall_eq]
     refine ⟨fact.1, fun _ _ => ?_⟩
     rw [entries]
     simp
   · simp only [entries, mem_append, mem_singleton]
     by_cases member : other ∈ runtime.stepEntries
     · exact .inl (.inl member)
     by_cases own : other = entry
     · exact .inl (.inr own)
     · refine .inr (.inr ⟨callback, member, fun _ => ?_⟩)
       simp [own]

theorem local_launch {rest : List Nat} (flags : runtime.Flags)
  (listed : ∀ other ∈ entry :: rest, runtime.Listed other) (notBegun : runtime.sweep = .notBegun)
  (unregistered : frame.isRegistered = false) (main : frame.shutsDown = false) :
  runtime.Local [frame] false (runtime, [runtime.launch entry rest]) := by
 have fact : runtime.FrameFact (runtime.launch entry rest) := by
  rw [launch]
  split <;> exact listed
 refine .of_flags orderly rfl rfl rfl rfl rfl flags id id (by simpa using fact) (by simp) nofun
  (fun begun => absurd notBegun begun) ?_ ?_
 · cases frame <;> simp_all [shutsDown]
 · cases frame <;> simp_all [isRegistered]

omit orderly

theorem local_sweep (flags : runtime.Flags) (fact : runtime.sweep ≠ .notBegun)
  (orderly : result.1.Orderly) (length : result.1.entries.length = runtime.entries.length)
  (has : ∀ entry, result.1.hasShutdown entry = runtime.hasShutdown entry)
  (steps : result.1.steps = runtime.steps \/ result.1.steps = []) (later : result.1.sweep ≠ .notBegun)
  (phase : result.1.shutdownPhaseStarted = runtime.shutdownPhaseStarted)
  (stop : result.1.stopRequested = runtime.stopRequested)
  (frames : result.2 = [.sweeping] \/ (result.2 = [] /\ result.1.sweep = .finished)) :
  runtime.Local [.sweeping] true result := by
 have begun := flags.begun fact
 have only : ∀ frame ∈ result.2, frame = .sweeping := by
  obtain same | ⟨none, _⟩ := frames
  · simp [same]
  · simp [none]
 refine .of_change orderly ⟨fun _ => by rwa [phase, stop], fun _ => later⟩ length has
  (steps.imp_right fun none => ⟨none, later⟩) (fun notBegun => absurd notBegun later) (phase ▸ id) (stop ▸ id)
  (fun frame member => ?_) ?_ (fun _ frame member => ?_) (fun _ frame member => ?_)
  (fun _ notBegun => absurd notBegun fact) ?_ (by simp)
 · rw [only frame member]
   exact later
 · obtain same | ⟨none, _⟩ := frames
   · simp [same]
   · simp [none]
 · rw [only frame member]
   rfl
 · rw [only frame member]
   rfl
 · intro underWay
   obtain same | ⟨_, finished⟩ := frames
   · exact .inl (by simp [same])
   · simp [finished, Sweep.isUnderWay] at underWay

theorem local_runShutdownSteps (orderly : runtime.Orderly) (flags : runtime.Flags)
  (stepped : runtime.runShutdownSteps = some result) : runtime.Local [.sweeping] true result := by
 unfold runShutdownSteps at stepped
 cases sweep : runtime.sweep with
 | notBegun | finished | calling current rest => simp [sweep] at stepped
 | testing =>
  simp only [sweep] at stepped
  have fact : runtime.sweep ≠ .notBegun := by simp [sweep]
  split at stepped
  next empty =>
   cases stepped
   have none : runtime.steps = [] := by simpa using empty
   refine local_sweep flags fact ?_ rfl (fun _ => rfl) (.inl rfl) nofun rfl rfl (.inr ⟨rfl, rfl⟩)
   refine orderly.congr rfl (refl _) ?_ ?_ nofun rfl rfl
   · simp [leave, todo, sweep, stepEntries, none]
   · simp [leave, claimedEntry, sweep]
  · cases stepped
    refine local_sweep flags fact ?_ rfl (fun _ => rfl) (.inl rfl) nofun rfl rfl (.inl rfl)
    refine orderly.congr rfl (refl _) ?_ ?_ (by simp [sweep, Sweep.early]) rfl rfl
    · simp [todo, sweep, stepEntries]
    · simp [claimedEntry, sweep]
 | swapping =>
  simp only [sweep] at stepped
  cases stepped
  refine local_sweep flags (by simp [sweep]) ?_ rfl (fun _ => rfl) (.inr rfl) nofun rfl rfl (.inl rfl)
  refine orderly.congr rfl nofun ?_ ?_ nofun rfl rfl
  · simp [todo, sweep, stepEntries]
  · simp [claimedEntry, sweep]
 | running rest =>
  have fact : runtime.sweep ≠ .notBegun := by simp [sweep]
  cases rest with
  | nil =>
   simp only [sweep] at stepped
   cases stepped
   refine local_sweep flags fact ?_ rfl (fun _ => rfl) (.inl rfl) nofun rfl rfl (.inr ⟨rfl, rfl⟩)
   refine orderly.congr rfl (refl _) ?_ ?_ nofun rfl rfl
   · simp [leave, todo, sweep]
   · simp [leave, claimedEntry, sweep]
  | cons current rest =>
   simp only [sweep] at stepped
   split at stepped
   · cases stepped
     refine local_sweep flags fact (orderly.take sweep) (length_modify ..) (fun entry => ?_)
      (.inl rfl) nofun rfl rfl (.inl rfl)
     exact field_modify_of_same runtime (by simp) _ entry
   next idle =>
    cases stepped
    exact local_sweep flags fact (orderly.skip sweep (Bool.eq_false_iff.mpr idle)) rfl
     (fun _ => rfl) (.inl rfl) nofun rfl rfl (.inl rfl)
 | claimed current rest =>
  have fact : runtime.sweep ≠ .notBegun := by simp [sweep]
  simp only [sweep] at stepped
  split at stepped
  next ran =>
   -- no callback has run whose step is still to come
   have due : current.entry ∈ runtime.todo := by simp [todo, sweep]
   exact absurd (orderly.ran _ ran) (orderly.not_done due)
  · cases stepped
    refine local_sweep flags fact (orderly.callback sweep) (length_modify ..) (fun entry => ?_)
     (.inl rfl) nofun rfl rfl (.inl rfl)
    exact field_modify_of_same runtime (by simp) _ entry

theorem notBegun_of_starts (settled : runtime.sweep ≠ .notBegun -> frame.starts = false)
  (starts : frame.starts = true) : runtime.sweep = .notBegun := by
 by_contra begun
 exact Bool.false_ne_true ((settled begun).symm.trans starts)

theorem local_modify {entry : Nat} {change : Entry -> Entry} {startups : List Nat} {later : Frame}
  (flags : runtime.Flags) (notBegun : runtime.sweep = .notBegun)
  (orderly : Orderly { runtime.modify entry change with startups })
  (same : ∀ found, (change found).hasShutdown = found.hasShutdown) (fact : runtime.FrameFact later)
  (starts : frame.starts = true) :
  runtime.Local [frame] false ({ runtime.modify entry change with startups }, [later]) := by
 have has := field_modify_of_same runtime same entry
 have grows : runtime.Grows { runtime.modify entry change with startups } :=
  .of_has (length_modify ..) has (fun _ => rfl) id rfl rfl
 refine .of_change orderly ⟨flags.begun, flags.returned⟩ (length_modify ..) has (.inl rfl) id id id
  (forall_mem_singleton.mpr (fact.grows grows (.inr fun _ => id)))
   (by simp) nofun (fun begun => absurd notBegun begun)
  (fun begun => absurd notBegun begun) (fun underWay => .inr ⟨underWay, ?_⟩) ?_
 · rintro listed
   cases mem_singleton.mp listed
   cases starts
 · rintro _ _ listed
   cases mem_singleton.mp listed
   cases starts

section

variable (orderly : runtime.Orderly) (flags : runtime.Flags)
include orderly flags

section

variable {entry : Nat} {rest : List Nat}

theorem local_stepAdded {startImmediately : Bool}
  (fact : runtime.FrameFact (.stepAdded entry startImmediately))
  (stepped : runtime.proceed (.stepAdded entry startImmediately) = some result) :
  runtime.Local [.stepAdded entry startImmediately] false result := by
 simp only [proceed] at stepped
 split at stepped
 next goes =>
  cases stepped
  have notBegun : runtime.sweep = .notBegun := by
   by_contra begun
   simp [(flags.begun begun).2] at goes
  exact local_launch orderly flags (forall_mem_singleton.mpr fact) notBegun rfl rfl
 · cases stepped
   exact local_return orderly flags (by simp) (by simp)

theorem local_loop (fact : runtime.FrameFact (.loop rest))
  (settled : runtime.sweep ≠ .notBegun -> (Frame.loop rest).starts = false)
  (stepped : runtime.proceed (.loop rest) = some result) : runtime.Local [.loop rest] false result := by
 cases rest with
 | nil =>
  cases stepped
  exact local_return orderly flags (by simp) (by simp)
 | cons entry rest =>
  have notBegun := notBegun_of_starts settled rfl
  simp only [proceed] at stepped
  split at stepped
  · cases stepped
    have remaining : runtime.FrameFact (.loop rest) := fun other member => fact other (mem_cons_of_mem _ member)
    exact .of_flags orderly rfl rfl rfl rfl rfl flags id id (by simpa using remaining) (by simp)
     nofun (fun begun => absurd notBegun begun) (by simp) (by simp)
  · cases stepped
    exact local_launch orderly flags fact notBegun rfl rfl

end

theorem local_claiming (fact : runtime.FrameFact .claiming) (stepped : runtime.proceed .claiming = some result) :
  runtime.Local [.claiming] true result := by
 simp only [proceed] at stepped
 split at stepped
 next notBegun =>
  cases stepped
  refine .of_change ?_ ⟨fun _ => fact, fun _ => nofun⟩ rfl (fun _ => rfl) (.inl rfl) nofun id id ?_
   (by simp) ?_ ?_ (fun _ _ => rfl) (fun _ => .inl (by simp)) (by simp)
  · refine orderly.congr rfl (refl _) ?_ ?_ (by simp [notBegun, Sweep.early]) rfl rfl
    · simp [todo, notBegun, stepEntries]
    · simp [claimedEntry, notBegun]
  · simp [FrameFact]
  · simp [shutsDown]
  · simp [starts]
 next begun =>
  cases stepped
  exact .of_flags orderly rfl rfl rfl rfl rfl ⟨flags.begun, fun _ => begun⟩ id id nofun
   (by simp [leave]) nofun nofun (by simp) (by simp)

theorem local_proceed (fact : runtime.FrameFact frame) (settled : runtime.sweep ≠ .notBegun -> frame.starts = false)
  (stepped : runtime.proceed frame = some result) : runtime.Local [frame] frame.shutsDown result := by
 cases frame with
 | registered entry startImmediately =>
  cases stepped
  exact local_registered orderly flags fact
 | stepAdded entry startImmediately => exact local_stepAdded orderly flags fact stepped
 | loop rest => exact local_loop orderly flags fact settled stepped
 | inStartup entry rest => cases stepped
 | clearing entry rest =>
  cases stepped
  exact local_modify flags (notBegun_of_starts settled rfl) (orderly.clear entry) (fun _ => rfl) fact rfl
 | publishing entry rest =>
  cases stepped
  have notBegun := notBegun_of_starts settled rfl
  obtain ⟨inside, listed⟩ := fact entry mem_cons_self
  have remaining : runtime.FrameFact (.loop rest) := fun other member => fact other (mem_cons_of_mem _ member)
  exact local_modify flags notBegun (orderly.publish inside notBegun (listed notBegun))
   (fun _ => rfl) remaining (show (Frame.publishing entry rest).starts = true from rfl)
 | flagged =>
  cases stepped
  refine .of_flags orderly rfl rfl rfl rfl rfl ⟨fun begun => ⟨fact, rfl⟩, flags.returned⟩ id
   (fun _ => rfl) ?_ (by simp) ?_ ?_ (by simp) (by simp)
  · simp only [mem_singleton, forall_eq]
    exact ⟨fact, rfl⟩
  · simp [shutsDown]
  · simp [starts]
 | stopping =>
  cases stepped
  refine .of_flags orderly rfl rfl rfl rfl rfl ⟨flags.begun, flags.returned⟩ id id ?_ (by simp) ?_
   ?_ (by simp) (by simp)
  · simp only [mem_singleton, forall_eq]
    exact fact
  · simp [shutsDown]
  · simp [starts]
 | claiming => exact local_claiming orderly flags fact stepped
 | sweeping => exact local_runShutdownSteps orderly flags stepped

end

theorem local_answer {outcome : Outcome} (orderly : runtime.Orderly) (flags : runtime.Flags)
  (fact : runtime.FrameFact frame) (settled : runtime.sweep ≠ .notBegun -> frame.starts = false)
  (answered : runtime.answer frame outcome = some result) : runtime.Local [frame] frame.shutsDown result := by
 unfold answer at answered
 split at answered
 next entry rest =>
  cases answered
  refine .of_flags orderly rfl rfl rfl rfl rfl flags id id ?_ (by simp) nofun ?_ (by simp) (by simp)
  · simp only [mem_singleton, forall_eq]
    exact fact
  · intro begun
    simpa [starts] using settled begun
 · cases answered
   exact local_return orderly flags (by simp) (by simp)
 · split at answered
   next current rest calling =>
    cases answered
    refine local_sweep flags fact ?_ rfl (fun _ => rfl) (.inl rfl) nofun rfl rfl (.inl rfl)
    refine orderly.congr rfl (refl _) ?_ ?_ nofun rfl rfl
    · simp [todo, calling]
    · simp [claimedEntry, calling]
   · cases answered
 · cases answered

end EngineRuntime

namespace Process

variable {Thread : Type} [DecidableEq Thread] {main thread : Thread} {process next : Process Thread}

/-- When a `run_shutdown` claims the steps, no call is inside a startup or has modules still to
start. -/
def Settled (process : Process Thread) : Action Thread -> Prop
 | .proceed thread =>
  (process.calls thread).head? = some .claiming -> process.runtime.sweep = .notBegun ->
    ∀ other, ∀ frame ∈ process.calls other, frame.starts = false
 | .call .. | .answer .. => True

instance [Fintype Thread] (process : Process Thread) (action : Action Thread) :
  Decidable (Settled process action) := by
 cases action <;> dsimp only [Settled] <;> infer_instance

structure Sound (main : Thread) (process : Process Thread) : Prop where
 orderly : process.runtime.Orderly
 flags : process.runtime.Flags
 facts : ∀ thread, ∀ frame ∈ process.calls thread, process.runtime.FrameFact frame
 others : ∀ thread, thread ≠ main -> ∀ frame ∈ process.calls thread, frame.shutsDown = true
 top : ∀ thread, ∀ frame ∈ (process.calls thread).tail, frame.isRegistered = false
 settled : process.runtime.sweep ≠ .notBegun ->
  ∀ thread, ∀ frame ∈ process.calls thread, frame.starts = false
 sweeping : process.runtime.sweep.isUnderWay = true -> ∃ thread, .sweeping ∈ process.calls thread
 added : process.runtime.sweep = .notBegun -> ∀ entry, process.runtime.hasShutdown entry = true ->
  entry ∈ process.runtime.stepEntries \/ ∃ startImmediately, .registered entry startImmediately ∈ process.calls main

omit [DecidableEq Thread] in
theorem Sound.create (main : Thread) (name : String) : Sound main (create Thread name) where
 orderly := .initial name
 flags := ⟨fun begun => absurd rfl begun, nofun⟩
 facts := nofun
 others := nofun
 top := nofun
 settled := nofun
 sweeping := nofun
 added _ entry has := by simp [Process.create, hasShutdown, field] at has

variable {below : List Frame} {result : EngineRuntime × List Frame}

theorem mem_put {other : Thread} {frame : Frame} (member : frame ∈ (process.put thread below result).calls other) :
  (other = thread /\ (frame ∈ result.2 \/ frame ∈ below)) \/ (other ≠ thread /\ frame ∈ process.calls other) := by
 by_cases same : other = thread
 · subst same
   exact .inl ⟨rfl, by simpa [put] using member⟩
 · exact .inr ⟨same, by simpa [put, Function.update_of_ne same] using member⟩

theorem Sound.put (sound : Sound main process) {old : List Frame} {free : Bool}
  (split : process.calls thread = old ++ below)
  (lower : ∀ frame ∈ below, frame.isRegistered = false) (own : thread = main \/ free = true)
  (idle : old = [.claiming] -> process.runtime.sweep = .notBegun ->
    ∀ other, ∀ frame ∈ process.calls other, frame.starts = false)
  (step : process.runtime.Local old free result) : Sound main (process.put thread below result) := by
 have under {frame : Frame} (member : frame ∈ below) : frame ∈ process.calls thread := by
  rw [split]
  exact mem_append_right _ member
 refine ⟨step.orderly, step.flags, fun other frame member => ?_, fun other different frame member => ?_,
  fun other frame member => ?_, fun begun other frame member => ?_, fun underWay => ?_, fun notBegun entry has => ?_⟩
 · obtain ⟨rfl, new | beneath⟩ | ⟨different, elsewhere⟩ := mem_put member
   · exact step.facts frame new
   · exact (sound.facts _ frame (under beneath)).grows step.grows (.inl (lower frame beneath))
   · refine (sound.facts other frame elsewhere).grows step.grows ?_
     -- only the main thread registers, and its frame is seen by others that register nothing
     by_cases mains : other = main
     · refine .inr (step.steady (own.resolve_left ?_))
       rintro rfl
       exact different mains
     · left
       have shuts := sound.others other mains frame elsewhere
       cases frame <;> simp_all [shutsDown, isRegistered]
 · obtain ⟨rfl, new | beneath⟩ | ⟨_, elsewhere⟩ := mem_put member
   · exact step.shuts (own.resolve_left different) frame new
   · exact sound.others _ different frame (under beneath)
   · exact sound.others other different frame elsewhere
 · by_cases same : other = thread
   · subst same
     have inBelow : frame ∈ below := by
      have short := step.single
      simp only [put, Function.update_self] at member
      match frames : result.2 with
      | [] => exact mem_of_mem_tail (by simpa [frames] using member)
      | [_] => simpa [frames] using member
      | _ :: _ :: _ => simp [frames] at short
     exact lower frame inBelow
   · refine sound.top other frame ?_
     simpa [Process.put, Function.update_of_ne same] using member
 · have before : frame ∈ result.2 \/ ∃ holder, frame ∈ process.calls holder := by
    obtain ⟨rfl, new | beneath⟩ | ⟨_, elsewhere⟩ := mem_put member
    · exact .inl new
    · exact .inr ⟨_, under beneath⟩
    · exact .inr ⟨_, elsewhere⟩
   obtain new | ⟨holder, earlier⟩ := before
   · exact step.settled begun frame new
   · by_cases notBegun : process.runtime.sweep = .notBegun
     · exact idle (step.begins begun notBegun) notBegun holder frame earlier
     · exact sound.settled notBegun holder frame earlier
 · obtain new | ⟨earlier, unlike⟩ := step.sweeping underWay
   · exact ⟨thread, by simp [Process.put, new]⟩
   · obtain ⟨holder, member⟩ := sound.sweeping earlier
     by_cases same : holder = thread
     · subst same
       rw [split, mem_append] at member
       exact ⟨holder, by simp [put, member.resolve_left unlike]⟩
     · exact ⟨holder, by simpa [Process.put, Function.update_of_ne same] using member⟩
 · obtain listed | ⟨startImmediately, new⟩ | ⟨callback, missing, unlike⟩ := step.added entry notBegun has
   · exact .inl listed
   · have mains : thread = main := by
      refine own.resolve_right fun free => ?_
      simpa [shutsDown] using step.shuts free _ new
     exact .inr ⟨startImmediately, by simp [Process.put, mains, new]⟩
   · have earlier := (sound.added (step.grows.begun notBegun) entry callback).resolve_left missing
     obtain ⟨startImmediately, member⟩ := earlier
     have different : main ≠ thread := by
      rintro rfl
      rw [split, mem_append] at member
      simpa [isRegistered] using lower _ (member.resolve_left (unlike startImmediately))
     exact .inr ⟨startImmediately, by simpa [Process.put, Function.update_of_ne different] using member⟩

omit [DecidableEq Thread] in
theorem Sound.unregistered (sound : Sound main process) (may : process.mayCall thread = true) :
  ∀ frame ∈ process.calls thread, frame.isRegistered = false := by
 have top := sound.top thread
 unfold mayCall at may
 split at may
 next empty => simp [empty]
 next head rest calls =>
  rw [calls]
  rw [calls] at top
  refine forall_mem_cons.mpr ⟨?_, top⟩
  cases head <;> simp_all [inCallback, isRegistered]

theorem Sound.step {action : Action Thread} (sound : Sound main process) (settled : Settled process action)
  (taken : (machine main).step process action = some next) : Sound main next := by
 cases action with
 | call thread call =>
  obtain ⟨may, stepped⟩ := Option.ite_none_right_eq_some.mp taken
  cases stepped
  rw [Bool.and_eq_true, Bool.or_eq_true, decide_eq_true_eq] at may
  have lower := sound.unregistered may.1
  have split : process.calls thread = [] ++ process.calls thread := rfl
  refine sound.put split lower may.2.symm (fun claims => nomatch claims)
   (local_enter sound.orderly sound.flags call ?_)
  intro mains notBegun entry has
  refine (sound.added notBegun entry has).resolve_right ?_
  rintro ⟨startImmediately, member⟩
  obtain free | rfl := may.2
  · exact Bool.false_ne_true (mains.symm.trans free)
  · simpa [isRegistered] using lower _ member
 | proceed thread =>
  simp only [machine, Process.step] at taken
  split at taken
  · cases taken
  next frame below calls =>
   obtain ⟨result, stepped, rfl⟩ := Option.map_eq_some_iff.mp taken
   have member : frame ∈ process.calls thread := by simp [calls]
   have lower := sound.top thread
   rw [calls] at lower
   refine sound.put calls lower ?_ ?_ (local_proceed sound.orderly sound.flags
    (sound.facts thread frame member) (fun begun => sound.settled begun thread frame member) stepped)
   · by_cases mains : thread = main
     · exact .inl mains
     · exact .inr (sound.others thread mains frame member)
   · rintro ⟨⟩ notBegun
     exact settled (by simp [calls]) notBegun
 | answer thread outcome =>
  simp only [machine, Process.step] at taken
  split at taken
  · cases taken
  next frame below calls =>
   obtain ⟨result, answered, rfl⟩ := Option.map_eq_some_iff.mp taken
   have member : frame ∈ process.calls thread := by simp [calls]
   have lower := sound.top thread
   rw [calls] at lower
   refine sound.put calls lower ?_ ?_ (local_answer sound.orderly sound.flags
    (sound.facts thread frame member) (fun begun => sound.settled begun thread frame member) answered)
   · by_cases mains : thread = main
     · exact .inl mains
     · exact .inr (sound.others thread mains frame member)
   · rintro ⟨⟩
     cases answered

/-- When no module is being started as the steps are claimed: every module that was started has had its
shutdown callback called once, in the reverse order of registration. -/
theorem modules_are_shut_down_once (main : Thread) (name : String) (trace : List (Action Thread))
  (final : Process Thread) (settled : (machine main).Guarded Settled (create Thread name) trace)
  (ran : (machine main).run (create Thread name) trace = some final) (returned : 0 < final.runtime.returned)
  (ended : ∀ thread, .sweeping ∉ final.calls thread) :
  final.runtime.shutdowns.Pairwise (· > ·) /\
   ∀ entry ∈ final.runtime.startups, final.runtime.hasShutdown entry = true ->
    final.runtime.shutdowns.count entry = 1 /\ final.runtime.started entry = false := by
 have sound : Sound main final :=
  (machine main).run_invariant (fun _ _ _ sound settled taken => sound.step settled taken)
    (Sound.create main name) settled ran
 have finished : final.runtime.sweep = .finished := by
  have begun := sound.flags.returned returned
  have still := sound.sweeping
  cases sweep : final.runtime.sweep with
  | finished => rfl
  | notBegun => exact absurd sweep begun
  | testing | swapping | running | claimed | calling =>
   obtain ⟨thread, member⟩ := still (by rw [sweep]; rfl)
   exact absurd member (ended thread)
 have todo : final.runtime.todo = [] := by simp [todo, finished]
 have sorted := sound.orderly.sorted
 rw [todo, append_nil] at sorted
 refine ⟨sorted, fun entry completed has => ⟨?_, ?_⟩⟩
 · have done := sound.orderly.covered entry completed has
   rw [todo] at done
   have distinct : final.runtime.shutdowns.Nodup := sorted.imp fun greater same => by omega
   exact count_eq_one_of_mem distinct (done.resolve_right not_mem_nil)
 · rw [Bool.eq_false_iff]
   intro started
   have due := sound.orderly.marked entry started has
   rw [todo] at due
   exact not_mem_nil due

def starting : List (Action (Fin 2)) :=
 [.call 0 (.registerModule "storage" true true), .proceed 0, .proceed 0,
   .call 0 (.registerModule "" false true), .proceed 0, .proceed 0,
   .call 0 .startModules, .proceed 0, .answer 0 .returns, .proceed 0, .proceed 0, .proceed 0,
    .proceed 0, .proceed 0,
   .proceed 0]

def shuttingDown : List (Action (Fin 2)) :=
 [.call 1 .runShutdown, .proceed 1, .proceed 1, .proceed 1, .proceed 1, .proceed 1, .proceed 1, .proceed 1,
   .answer 1 (.throws (some "busy")), .proceed 1, .proceed 1, .answer 1 .returns, .proceed 1]

theorem throwing_callback_stops_nothing :
  ∃ final, (machine 0).run (create (Fin 2) "server") (starting ++ shuttingDown) = some final /\
   final.runtime.startups = [0, 1] /\ final.runtime.shutdowns = [1, 0] /\
   final.runtime.errors = ["server shutdown step failed: stop module (unnamed module): busy"] /\
   ∀ entry ∈ [0, 1], final.runtime.shutdowns.count entry = 1 /\ final.runtime.started entry = false := by
 have settled : (machine 0).Guarded Settled (create (Fin 2) "server")
  (starting ++ shuttingDown) := by decide +kernel
 have met : ∃ final, (machine 0).run (create (Fin 2) "server") (starting ++ shuttingDown) = some final /\
   (0 < final.runtime.returned /\ (∀ thread, .sweeping ∉ final.calls thread)) /\
   (∀ entry ∈ [0, 1], final.runtime.hasShutdown entry = true) /\
   final.runtime.startups = [0, 1] /\ final.runtime.shutdowns = [1, 0] /\
   final.runtime.errors = ["server shutdown step failed: stop module (unnamed module): busy"] :=
  (machine 0).exists_final (by decide +kernel)
 obtain ⟨final, ran, ⟨returned, ended⟩, has, startups, shutdowns, errors⟩ := met
 have spec := modules_are_shut_down_once 0 "server" _ final settled ran returned ended
 refine ⟨final, ran, startups, shutdowns, errors, fun entry member => ?_⟩
 exact spec.2 entry (startups ▸ member) (has entry member)

/-- A startup callback calls `run_shutdown`, which finds its module not started yet, and then
returns. The module is started after its shutdown step has come and gone. -/
theorem module_outlives_its_own_shutdown :
  ∃ final, (machine 0).run (create (Fin 2) "server")
   [.call 0 (.registerModule "storage" true true), .proceed 0, .proceed 0, .call 0 .startModules, .proceed 0,
     .call 0 .runShutdown, .proceed 0, .proceed 0, .proceed 0, .proceed 0, .proceed 0, .proceed 0, .proceed 0,
     .answer 0 .returns, .proceed 0, .proceed 0, .proceed 0] = some final /\
   (0 < final.runtime.returned /\ ∀ thread, final.calls thread = []) /\
   final.runtime.startups = [0] /\ final.runtime.hasShutdown 0 = true /\
   final.runtime.shutdowns = [] /\ final.runtime.started 0 = true :=
 (machine 0).exists_final (by decide +kernel)

-- A callback of the sweep calls `run_shutdown` again, which returns at once: the modules
-- registered before are still started.
example : ∃ final, (machine 0).run (create (Fin 2) "server")
  (starting ++ shuttingDown.take 8 ++ [.call 1 .runShutdown, .proceed 1, .proceed 1, .proceed 1]) = some final /\
  0 < final.runtime.returned /\ final.runtime.started 0 = true :=
 (machine 0).exists_final (by decide +kernel)

end Process

end Dynaxis.App
