import Dynaxis.Realtime.Replication

namespace Dynaxis.Realtime

open Shared WorldRuntime List Option Int

theorem i32_of_fits {value : Int} (low : -2147483648 ≤ value) (high : value ≤ 2147483647) : i32 value = value := by
 rw [i32, emod_eq_of_lt (by omega) (by omega)]
 omega

def CellFits (valueMm cellSizeMm : Int) : Prop :=
 -2147483648 ≤ valueMm /\ valueMm ≤ 2147483647 /\ (valueMm < 0 -> cellSizeMm - valueMm ≤ 2147483647)

variable {valueMm cellSizeMm : Int}

theorem cellCoord_eq_fdiv (positive : 0 < cellSizeMm) (fits : CellFits valueMm cellSizeMm) :
  cellCoord valueMm cellSizeMm = valueMm.fdiv cellSizeMm := by
 obtain ⟨low, high, room⟩ := fits
 rw [cellCoord, if_neg (by omega), fdiv_eq_ediv_of_nonneg _ positive.le]
 split
 next natural =>
  have below := ediv_le_self cellSizeMm natural
  have above := ediv_nonneg natural positive.le
  rw [tdiv_eq_ediv_of_nonneg natural, i32_of_fits (by omega) (by omega)]
 next negative =>
  have gap := room (by omega)
  have flipped : (-valueMm + cellSizeMm - 1) / cellSizeMm = -(valueMm / cellSizeMm) := by
   have whole := mul_ediv_add_emod valueMm cellSizeMm
   have rest := emod_nonneg valueMm positive.ne'
   have small := emod_lt_of_pos valueMm positive
   refine (Int.ediv_eq_iff_of_pos positive).mpr ⟨?_, ?_⟩ <;> rw [Int.neg_mul, Int.mul_comm] <;> omega
  have above : 0 ≤ (-valueMm + cellSizeMm - 1) / cellSizeMm := ediv_nonneg (by omega) positive.le
  have below := ediv_le_self cellSizeMm (show 0 ≤ -valueMm + cellSizeMm - 1 by omega)
  rw [i32_of_fits (show -2147483648 ≤ -valueMm by omega) (by omega),
   i32_of_fits (show -2147483648 ≤ -valueMm + cellSizeMm by omega) (by omega),
   i32_of_fits (show -2147483648 ≤ -valueMm + cellSizeMm - 1 by omega) (by omega),
   tdiv_eq_ediv_of_nonneg (by omega), i32_of_fits (show -2147483648 ≤ (-valueMm + cellSizeMm - 1) / cellSizeMm by omega) (by omega),
   i32_of_fits (by omega) (by omega), flipped, Int.neg_neg]

variable {config : RuntimeConfig} {viewerActor actor : ActorState}

theorem abs_fits {value : Int} (fits : value.natAbs ≤ 2147483647) : i32 (i32 value).natAbs = value.natAbs := by
 rw [i32_of_fits (show -2147483648 ≤ value by omega) (by omega), i32_of_fits (by omega) (by omega)]

abbrev coordinates (viewerActor actor : ActorState) : List Int :=
 [viewerActor.xMm, viewerActor.yMm, actor.xMm, actor.yMm]

theorem inRange_iff (positive : 0 < config.interestCellSizeMm)
  (fit : ∀ valueMm ∈ coordinates viewerActor actor,
    CellFits valueMm config.interestCellSizeMm) {dx dy : Int}
  (diffX : dx = actor.xMm.fdiv config.interestCellSizeMm - viewerActor.xMm.fdiv config.interestCellSizeMm)
  (diffY : dy = actor.yMm.fdiv config.interestCellSizeMm - viewerActor.yMm.fdiv config.interestCellSizeMm)
  (fitsX : dx.natAbs ≤ 2147483647) (fitsY : dy.natAbs ≤ 2147483647) :
  inRange config (updateActorCells config viewerActor) (updateActorCells config actor) = true ↔
   dx.natAbs ≤ config.interestRadiusCells /\ dy.natAbs ≤ config.interestRadiusCells := by
 simp only [forall_mem_cons] at fit
 obtain ⟨viewerX, viewerY, actorX, actorY, -⟩ := fit
 unfold inRange updateActorCells
 rw [Bool.and_eq_true, decide_eq_true_eq, decide_eq_true_eq, cellCoord_eq_fdiv positive viewerX,
  cellCoord_eq_fdiv positive viewerY, cellCoord_eq_fdiv positive actorX, cellCoord_eq_fdiv positive actorY,
  <- diffX, <- diffY, abs_fits fitsX, abs_fits fitsY]

theorem le_of_i32 {value : Int} (same : i32 value = value) : value ≤ 2147483647 := by
 unfold i32 at same
 omega

/-- Cells are floors of quotients and the range is that of the exact differences, with no overflow on the way:
just when every coordinate has room below for a cell and the differences fit a word. -/
theorem interest_geometry_is_exact (config : RuntimeConfig) (word : config.interestCellSizeMm ≤ 2147483647)
  (viewerActor actor : ActorState)
  (words : ∀ valueMm ∈ coordinates viewerActor actor, -2147483648 ≤ valueMm /\ valueMm ≤ 2147483647) :
  let cellSizeMm := (sanitizeConfig config).interestCellSizeMm
  let dx := actor.xMm.fdiv cellSizeMm - viewerActor.xMm.fdiv cellSizeMm
  let dy := actor.yMm.fdiv cellSizeMm - viewerActor.yMm.fdiv cellSizeMm
  ((∀ valueMm ∈ coordinates viewerActor actor, cellCoord valueMm cellSizeMm = valueMm.fdiv cellSizeMm /\
     (valueMm < 0 -> ∀ term ∈ [-valueMm, -valueMm + cellSizeMm, -valueMm + cellSizeMm - 1], i32 term = term)) /\
   (∀ difference ∈ [dx, dy], i32 difference = difference /\ i32 difference.natAbs = difference.natAbs) /\
   (inRange (sanitizeConfig config) (updateActorCells (sanitizeConfig config) viewerActor)
     (updateActorCells (sanitizeConfig config) actor) = true ↔
     dx.natAbs ≤ (sanitizeConfig config).interestRadiusCells /\
      dy.natAbs ≤ (sanitizeConfig config).interestRadiusCells)) ↔
  (∀ valueMm ∈ coordinates viewerActor actor, CellFits valueMm cellSizeMm) /\
   dx.natAbs ≤ 2147483647 /\ dy.natAbs ≤ 2147483647 := by
 intro cellSizeMm dx dy
 have positive : 0 < cellSizeMm := by
  simp only [cellSizeMm, sanitizeConfig]
  split <;> omega
 constructor
 · rintro ⟨exact, differences, -⟩
   refine ⟨fun valueMm member => ⟨(words _ member).1, (words _ member).2, fun negative => ?_⟩, ?_, ?_⟩
   · have room := le_of_i32 ((exact valueMm member).2 negative _ (mem_cons_of_mem _ mem_cons_self))
     omega
   · exact Int.ofNat_le.mp (le_of_i32 (differences dx mem_cons_self).2)
   · exact Int.ofNat_le.mp (le_of_i32 (differences dy (mem_cons_of_mem _ mem_cons_self)).2)
 · rintro ⟨fit, fitsX, fitsY⟩
   refine ⟨fun valueMm member => ⟨cellCoord_eq_fdiv positive (fit valueMm member), fun negative => ?_⟩, ?_, ?_⟩
   · obtain ⟨low, high, room⟩ := fit valueMm member
     have gap := room negative
     simp only [forall_mem_cons]
     refine ⟨i32_of_fits ?_ ?_, i32_of_fits ?_ ?_, i32_of_fits ?_ ?_, nofun⟩ <;> omega
   · simp only [forall_mem_cons]
     exact ⟨⟨i32_of_fits (by omega) (by omega), i32_of_fits (by omega) (by omega)⟩,
      ⟨i32_of_fits (by omega) (by omega), i32_of_fits (by omega) (by omega)⟩, nofun⟩
   · exact inRange_iff positive fit rfl rfl fitsX fitsY

theorem near_actor_is_in_range :
  inRange (sanitizeConfig {}) (updateActorCells (sanitizeConfig {}) { xMm := -1 })
   (updateActorCells (sanitizeConfig {}) { xMm := 9999 }) = true :=
 ((interest_geometry_is_exact {} (by decide) { xMm := -1 } { xMm := 9999 } (by decide)).mpr
   ⟨by simp [CellFits, sanitizeConfig], by decide, by decide⟩).2.2.mpr (by decide)

/-- At the lowest coordinate the negation overflows: the cell comes out positive, and an actor in the next
cell is out of range. -/
theorem lowest_coordinate_changes_its_sign :
  i32 (- -2147483648) ≠ - -2147483648 /\ cellCoord (-2147483648) 10000 = 214747 /\
   (-2147483648 : Int).fdiv 10000 = -214749 /\ (-2147473647 : Int).fdiv 10000 = -214748 /\
   inRange (sanitizeConfig {}) (updateActorCells (sanitizeConfig {}) { xMm := -2147483648 })
    (updateActorCells (sanitizeConfig {}) { xMm := -2147473647 }) = false := by
 decide

namespace WorldRuntime

variable {runtime : WorldRuntime} {self limit sessionId : Nat} {candidates : OrderedSet Nat} {viewer : ViewerState}

theorem limitInterest_spec (positive : 1 ≤ limit) (many : limit < candidates.size) :
  self ∈ limitInterest limit self candidates /\ (limitInterest limit self candidates).size = limit := by
 -- the loop never exceeds the limit, and below it takes everything
 suffices general : ∀ (ids : List Nat) (limited : OrderedSet Nat), limited.size ≤ limit ->
   let taken := ids.foldl (fun limited actorId => if limit ≤ limited.size then limited else limited.insert actorId)
    limited
   taken.size ≤ limit /\ (∀ id ∈ limited, id ∈ taken) /\ (taken.size = limit \/ ∀ id ∈ ids, id ∈ taken) by
  obtain ⟨within, kept, full | all⟩ := general candidates.toList (OrderedSet.empty.insert self)
   ((OrderedSet.size_insert_le _ _).trans positive)
  · exact ⟨kept self (by simp), full⟩
  · have more := OrderedSet.size_le_of_subset all
    exact absurd (many.trans_le more) (Nat.not_lt.mpr within)
 intro ids
 induction ids with
 | nil => exact fun limited within => ⟨within, fun _ member => member, .inr nofun⟩
 | cons head rest ih =>
  intro limited within
  simp only [foldl_cons]
  split
  next full =>
   obtain ⟨bounded, kept, -⟩ := ih limited within
   have more := OrderedSet.size_le_of_subset kept
   exact ⟨bounded, kept, .inl (by omega)⟩
  next free =>
   have grown := OrderedSet.size_insert_le limited head
   obtain ⟨bounded, kept, full | all⟩ := ih (limited.insert head) (by omega)
   · exact ⟨bounded, fun id member => kept id (by simp [member]), .inl full⟩
   · refine ⟨bounded, fun id member => kept id (by simp [member]), .inr fun id member => ?_⟩
     obtain rfl | later := mem_cons.mp member
     · exact kept id (by simp)
     · exact all id later

def nearby (runtime : WorldRuntime) (viewerActor : ActorState) : List Nat :=
 (runtime.actors.entries.filter fun entry =>
   entry.1 = viewerActor.actorId || inRange runtime.config viewerActor entry.2).map Sigma.fst

variable (own : runtime.actors.lookup viewerActor.actorId = some viewerActor)
include own

theorem mem_nearby {actorId : Nat} :
  actorId ∈ runtime.nearby viewerActor ↔ actorId ∈ runtime.interestCandidates viewerActor := by
 rw [mem_interestCandidates, nearby, List.mem_map]
 constructor
 · rintro ⟨⟨key, actor⟩, member, rfl⟩
   obtain ⟨listed, near⟩ := mem_filter.mp member
   rw [Bool.or_eq_true, decide_eq_true_eq] at near
   exact near.imp_right fun near => ⟨actor, (Table.mem_entries_iff _ _ _).mp listed, near⟩
 · rintro (rfl | ⟨actor, found, near⟩)
   · exact ⟨⟨_, viewerActor⟩, mem_filter.mpr ⟨(Table.mem_entries_iff _ _ _).mpr own, by simp⟩, rfl⟩
   · exact ⟨⟨actorId, actor⟩, mem_filter.mpr ⟨(Table.mem_entries_iff _ _ _).mpr found, by simp [near]⟩, rfl⟩

theorem size_interestCandidates :
  (runtime.interestCandidates viewerActor).size = (runtime.nearby viewerActor).length := by
 have unique : (runtime.nearby viewerActor).Nodup := runtime.actors.nodupKeys.sublist filter_sublist
 exact ((perm_ext_iff_of_nodup (interestCandidates runtime viewerActor).sorted.nodup unique).mpr fun actorId =>
  (mem_nearby own).symm).length_eq

theorem desiredVisible_spec (positive : 1 ≤ runtime.config.maxInterestRecipientsPerTick) :
  let visible := runtime.desiredVisible viewerActor
  viewerActor.actorId ∈ visible /\ (∀ actorId ∈ visible, actorId ∈ runtime.nearby viewerActor) /\
   visible.size = min runtime.config.maxInterestRecipientsPerTick (runtime.nearby viewerActor).length := by
 have self : viewerActor.actorId ∈ runtime.interestCandidates viewerActor :=
  (mem_interestCandidates ..).mpr (.inl rfl)
 simp only [desiredVisible, <- size_interestCandidates own, mem_nearby own]
 split
 next many =>
  obtain ⟨own, size⟩ := @limitInterest_spec viewerActor.actorId _ _ positive many
  refine ⟨own, fun actorId member => ?_, by omega⟩
  obtain rfl | candidate := mem_limitInterest member
  · exact self
  · exact candidate
 next few => exact ⟨self, fun _ member => member, by omega⟩

omit own

theorem replicateVisible_cases (runtime : WorldRuntime) (sessionId : Nat) (viewer : ViewerState)
  (viewerActor : ActorState) :
  (∃ update, runtime.replicateVisible sessionId viewer viewerActor = ({ viewer with
        snapshotPending := false
        lastSnapshotTick := runtime.serverTick
        visibleActorIds := runtime.desiredVisible viewerActor }, some update) /\
    update.sessionId = sessionId /\ update.kind = .snapshot) \/
    (u32Sub runtime.serverTick viewer.lastSnapshotTick < runtime.config.snapshotRefreshTicks /\
      ∃ produced, runtime.replicateVisible sessionId viewer viewerActor =
       ({ viewer with visibleActorIds := runtime.desiredVisible viewerActor }, produced) /\
       ∀ update ∈ produced, update.kind = .delta /\ update.actors.length ≤ runtime.config.maxDeltaActorsPerTick) := by
 simp only [replicateVisible]
 split
 · exact .inl ⟨_, rfl, rfl, rfl⟩
 next idle =>
  simp only [snapshotDue, Bool.or_eq_true, decide_eq_true_eq, not_or, Nat.not_le, Nat.not_lt] at idle
  refine .inr ⟨idle.1.2, _, rfl, fun update made => ?_⟩
  split at made
  · cases made
    exact ⟨rfl, idle.2⟩
  · cases made

end WorldRuntime

namespace System

variable {system : System} {sessionId : Nat} {viewer : ViewerState} {later : List Call}

theorem step_config (system : System) (call : Call) : (system.step call).runtime.config = system.runtime.config := by
 by_cases ticks : call = .tick
 · rw [ticks]
   rfl
 · exact (quiet_runtime system ticks).2

theorem step_keyed (keyed : system.runtime.Keyed) (call : Call) : (system.step call).runtime.Keyed := by
 intro actorId actor found
 cases call with
 | stageInput sessionId input =>
  obtain ⟨staged, same⟩ := stageInput_frame system.runtime sessionId input
  simp only [step, same, ensureActorForSession] at found
  split at found
  · exact keyed actorId actor found
  · cases taken : system.runtime.actors.lookup system.runtime.nextActorId with
    | none =>
     rw [Table.lookup_emplace_of_none _ taken] at found
     split at found
     next same =>
      cases found
      exact same.symm
     · exact keyed actorId actor found
    | some other =>
     rw [Table.emplace, taken] at found
     exact keyed actorId actor found
 | removeSession sessionId =>
  obtain ⟨-, -, actors, -⟩ := removeSession_spec system.runtime sessionId
  simp only [step, actors] at found
  exact keyed actorId actor (ite_none_left_eq_some.mp found).2
 | tick =>
  obtain ⟨change, follows, same⟩ := advance_lookup system.runtime actorId
  simp only [step, lookup_tick_actors, same, Option.map_map] at found
  obtain ⟨earlier, present, rfl⟩ := map_eq_some_iff.mp found
  exact (follows earlier).1.trans (keyed actorId earlier present)

theorem mem_tick {update : ReplicationUpdate} (emitted : update ∈ system.runtime.tick.2) :
  ∃ sessionId viewer viewerActor, system.runtime.viewers.lookup sessionId = some viewer /\
   system.runtime.advance.replicateViewer sessionId viewer =
    system.runtime.advance.replicateVisible sessionId viewer viewerActor /\
   (system.runtime.advance.replicateVisible sessionId viewer viewerActor).2 = some update := by
 obtain ⟨⟨sessionId, viewer⟩, listed, made⟩ := mem_filterMap.mp emitted
 have found := (Table.mem_entries_iff _ _ _).mp listed
 simp only [replicateViewer] at made
 split at made
 · cases made
 next watches =>
  split at made
  · cases made
  next present => exact ⟨sessionId, viewer, _, found, by simp only [replicateViewer, watches, present], made⟩

def Snaps (system : System) (sessionId : Nat) : Prop :=
 ∃ update ∈ system.runtime.tick.2, update.sessionId = sessionId /\ update.kind = .snapshot

def Stays (sessionId : Nat) (system : System) : Call -> Prop
 | .stageInput .. => True
 | .removeSession removed => removed ≠ sessionId
 | .tick => ∃ viewer actorId actor, system.runtime.viewers.lookup sessionId = some viewer /\
  viewer.actorId = some actorId /\ system.runtime.actors.lookup actorId = some actor

def isTick : Call -> Bool
 | .tick => true
 | .stageInput .. | .removeSession _ => false

theorem step_lastSnapshot {call : Call} (found : system.runtime.viewers.lookup sessionId = some viewer)
  (stays : Stays sessionId system call) (still : isTick call = false) :
  (system.step call).runtime.serverTick = system.runtime.serverTick /\
    ∃ next, (system.step call).runtime.viewers.lookup sessionId = some next /\
     next.lastSnapshotTick = viewer.lastSnapshotTick := by
 cases call with
 | stageInput session input =>
  obtain ⟨staged, same⟩ := stageInput_frame system.runtime session input
  simp only [step, same, ensureActorForSession]
  split
  · exact ⟨rfl, viewer, found, rfl⟩
  · refine ⟨rfl, ?_⟩
    simp only [Table.lookup_insert_ite]
    split
    next own => exact ⟨_, rfl, by rw [<- own, found]; rfl⟩
    · exact ⟨viewer, found, rfl⟩
 | removeSession removed =>
  obtain ⟨viewers, -⟩ := removeSession_spec system.runtime removed
  refine ⟨(quiet_runtime system (by simp)).1, viewer, ?_, rfl⟩
  rw [step, viewers, if_neg (Ne.symm stays), found]
 | tick => cases still

theorem snaps_in_time (refresh : system.runtime.config.snapshotRefreshTicks < 4294967296)
  {passed : Nat} (found : system.runtime.viewers.lookup sessionId = some viewer)
  (clock : system.runtime.serverTick = u32 (viewer.lastSnapshotTick + passed))
  (ticks : passed < system.runtime.config.snapshotRefreshTicks)
  (left : passed + later.countP isTick = system.runtime.config.snapshotRefreshTicks)
  (stays : machine.Guarded (Stays sessionId) system later) :
  ∃ between rest middle, later = between ++ .tick :: rest /\
   machine.run system between = some middle /\ middle.Snaps sessionId := by
 induction later generalizing system viewer passed with
 | nil => simp at left; omega
 | cons call rest ih =>
  obtain ⟨here, there⟩ := stays
  have config := step_config system call
  have further {viewer : ViewerState} {passed : Nat}
    (found : (system.step call).runtime.viewers.lookup sessionId = some viewer)
    (clock : (system.step call).runtime.serverTick = u32 (viewer.lastSnapshotTick + passed))
    (ticks : passed < system.runtime.config.snapshotRefreshTicks)
    (left : passed + rest.countP isTick = system.runtime.config.snapshotRefreshTicks) :
    ∃ between remaining middle, call :: rest = between ++ .tick :: remaining /\
     machine.run system between = some middle /\ middle.Snaps sessionId := by
   obtain ⟨between, remaining, middle, split, ran, snaps⟩ :=
    ih (by rwa [config]) found clock (by rwa [config]) (by rwa [config]) (there _ rfl)
   exact ⟨call :: between, remaining, middle, by rw [split]; rfl, machine.run_cons_some.mpr ⟨_, rfl, ran⟩, snaps⟩
  cases still : isTick call with
  | false =>
   obtain ⟨clocked, next, lookup, last⟩ := step_lastSnapshot found here still
   rw [countP_cons_of_neg (by simp [still])] at left
   exact further lookup (by rw [clocked, clock, last]) ticks left
  | true =>
   obtain rfl : call = .tick := by cases call <;> first | rfl | cases still
   rw [countP_cons_of_pos still] at left
   obtain ⟨current, actorId, actor, viewing, watches, present⟩ := here
   cases found.symm.trans viewing
   obtain ⟨change, -, advanced⟩ := advance_lookup system.runtime actorId
   rw [present, map_some] at advanced
   have replicated : system.runtime.advance.replicateViewer sessionId viewer =
     system.runtime.advance.replicateVisible sessionId viewer (change actor) := by
    simp only [replicateViewer, watches, advanced]
   have after := lookup_tick_viewers system.runtime sessionId
   rw [found, map_some, replicated] at after
   obtain ⟨update, made, named, kind⟩ | ⟨early, produced, made, -⟩ :=
    replicateVisible_cases system.runtime.advance sessionId viewer (change actor)
   · refine ⟨[], rest, system, rfl, rfl, update, ?_, named, kind⟩
     refine mem_filterMap.mpr ⟨⟨sessionId, viewer⟩, (Table.mem_entries_iff _ _ _).mpr found, ?_⟩
     rw [replicated, made]
   · rw [made] at after
     have advancedClock : system.runtime.advance.serverTick = u32 (system.runtime.serverTick + 1) := rfl
     have sooner : passed + 1 < system.runtime.config.snapshotRefreshTicks := by
      have early : u32Sub (u32 (system.runtime.serverTick + 1)) viewer.lastSnapshotTick <
       system.runtime.config.snapshotRefreshTicks := early
      simp only [u32Sub, u32, clock] at early
      omega
     refine further after ?_ sooner (by omega)
     show u32 (system.runtime.serverTick + 1) = _
     simp only [clock, u32]
     omega

end System

/-- After every tick each viewer sees its own actor and only actors in range, as many as the limit lets
through; deltas keep their limit, and the next snapshot comes in time. -/
theorem interest_keeps_its_budget (config : RuntimeConfig) (word : config.snapshotRefreshTicks < 4294967296)
  (calls : List Call) (system : System) (ran : System.machine.run (System.create config) calls = some system) :
  let runtime := system.runtime.tick.1
  (∀ sessionId viewer actorId viewerActor, runtime.viewers.lookup sessionId = some viewer ->
    viewer.actorId = some actorId -> runtime.actors.lookup actorId = some viewerActor ->
    actorId ∈ viewer.visibleActorIds /\
     (∀ other ∈ viewer.visibleActorIds, other ∈ runtime.nearby viewerActor) /\
     viewer.visibleActorIds.size =
      min (sanitizeConfig config).maxInterestRecipientsPerTick (runtime.nearby viewerActor).length) /\
  (∀ update ∈ system.runtime.tick.2, update.kind = .delta ->
    update.actors.length ≤ (sanitizeConfig config).maxDeltaActorsPerTick) /\
  ∀ sessionId later, system.Snaps sessionId ->
   System.machine.Guarded (System.Stays sessionId) (system.step .tick) later ->
   later.countP System.isTick = (sanitizeConfig config).snapshotRefreshTicks ->
   ∃ between rest middle, later = between ++ .tick :: rest /\
    System.machine.run (system.step .tick) between = some middle /\ middle.Snaps sessionId := by
 intro runtime
 have kept : ∀ system call next, (system.runtime.Keyed /\ system.runtime.config = sanitizeConfig config) ->
   System.machine.step system call = some next ->
   next.runtime.Keyed /\ next.runtime.config = sanitizeConfig config := by
  rintro system call _ ⟨keyed, config⟩ ⟨⟩
  exact ⟨System.step_keyed keyed call, (System.step_config system call).trans config⟩
 obtain ⟨keyed, same⟩ := System.machine.run_keeps kept
  ⟨by simp [System.create, create, WorldRuntime.Keyed], rfl⟩ ran
 have positive : 1 ≤ (sanitizeConfig config).maxInterestRecipientsPerTick /\
   0 < (sanitizeConfig config).snapshotRefreshTicks /\
   (sanitizeConfig config).snapshotRefreshTicks < 4294967296 := by
  simp only [sanitizeConfig]
  split <;> split <;> omega
 refine ⟨fun sessionId viewer actorId viewerActor viewing watches found => ?_, fun update emitted kind => ?_,
  fun sessionId later snaps stays ticks => ?_⟩
 · have own : runtime.actors.lookup viewerActor.actorId = some viewerActor := by
    rw [System.step_keyed keyed .tick actorId viewerActor found]
    exact found
   have spec := desiredVisible_spec own (by rw [show runtime.config = _ from same]; exact positive.1)
   rw [show runtime.config = _ from same, System.step_keyed keyed .tick actorId viewerActor found] at spec
   rw [lookup_tick_viewers] at viewing
   obtain ⟨earlier, -, replicated⟩ := map_eq_some_iff.mp viewing
   rw [lookup_tick_actors] at found
   obtain ⟨actor, present, rfl⟩ := map_eq_some_iff.mp found
   have watched : earlier.actorId = some actorId := by
    rw [<- replicated, replicateViewer] at watches
    split at watches
    next nobody => exact nobody.trans (nobody.symm.trans watches)
    next other watched =>
     split at watches
     · exact watches
     · rwa [(replicateVisible_viewer ..).1] at watches
   simp only [replicateViewer, watched, present] at replicated
   have visible := (replicateVisible_viewer system.runtime.advance sessionId earlier actor).2
   rw [replicated] at visible
   rwa [visible, <- desiredVisible_finishTick _ system.runtime.advance.replicate.1.viewers]
 · obtain ⟨sessionId, viewer, viewerActor, -, -, made⟩ := System.mem_tick emitted
   obtain ⟨snapshot, produced, -, other⟩ | ⟨-, _, produced, bounded⟩ :=
    replicateVisible_cases system.runtime.advance sessionId viewer viewerActor
   · rw [produced] at made
     cases made
     cases other.symm.trans kind
   · rw [produced] at made
     rw [<- same]
     exact (bounded update made).2
 · obtain ⟨update, emitted, rfl, kind⟩ := snaps
   obtain ⟨session, viewer, viewerActor, found, replicated, made⟩ := System.mem_tick emitted
   have after := lookup_tick_viewers system.runtime session
   rw [found, map_some, replicated] at after
   obtain ⟨snapshot, produced, named, -⟩ | ⟨-, _, produced, bounded⟩ :=
    replicateVisible_cases system.runtime.advance session viewer viewerActor
   · rw [produced] at made after
     cases made
     subst named
     rw [<- same] at positive ticks
     have clock : system.runtime.advance.serverTick = u32 (system.runtime.advance.serverTick + 0) :=
      (u32_of_lt (Nat.mod_lt _ (by decide))).symm
     exact System.snaps_in_time positive.2.2 after clock positive.2.1 ((Nat.zero_add _).trans ticks) stays
   · rw [produced] at made
     cases (bounded update made).1.symm.trans kind

def crowdedConfig : RuntimeConfig := { snapshotRefreshTicks := 2, maxInterestRecipientsPerTick := 1 }

def crowded : System :=
 (((System.create crowdedConfig).step (.stageInput 7 {})).step (.stageInput 8 {})).step (.stageInput 9 {})

theorem crowded_viewer_sees_itself :
  let runtime := crowded.runtime.tick.1
  (∃ viewer ∈ runtime.viewers.lookup 9, ∃ viewerActor ∈ runtime.actors.lookup 3,
    (runtime.nearby viewerActor).length = 3 /\ 3 ∈ viewer.visibleActorIds /\ viewer.visibleActorIds.size = 1) /\
   ∃ between rest middle, [.tick, .tick] = between ++ .tick :: rest /\
    System.machine.run (crowded.step .tick) between = some middle /\ middle.Snaps 9 := by
 intro runtime
 obtain ⟨visible, -, snapshots⟩ := interest_keeps_its_budget crowdedConfig (by decide)
  [.stageInput 7 {}, .stageInput 8 {}, .stageInput 9 {}] crowded rfl
 have watches : ∃ viewer ∈ runtime.viewers.lookup 9, viewer.actorId = some 3 /\
   ∃ viewerActor ∈ runtime.actors.lookup 3, (runtime.nearby viewerActor).length = 3 := by
  decide +kernel
 have later : ∃ viewer ∈ runtime.tick.1.viewers.lookup 9, viewer.actorId = some 3 /\
   ∃ actor ∈ runtime.tick.1.actors.lookup 3, actor.actorId = 3 := by
  decide +kernel
 have snaps : ∃ update ∈ crowded.runtime.tick.2, update.sessionId = 9 /\ update.kind = .snapshot := by decide +kernel
 obtain ⟨viewer, viewing, own, viewerActor, found, near⟩ := watches
 obtain ⟨next, seen, same, actor, present, -⟩ := later
 obtain ⟨member, -, size⟩ := visible 9 viewer 3 viewerActor viewing own found
 refine ⟨⟨viewer, viewing, viewerActor, found, near, member, ?_⟩, snapshots 9 [.tick, .tick] snaps ?_ rfl⟩
 · rw [size, near]
   rfl
 · refine ⟨⟨viewer, 3, viewerActor, viewing, own, found⟩, fun _ taken => ?_⟩
   cases taken
   exact ⟨⟨next, 3, actor, seen, same, present⟩, fun _ _ => trivial⟩

end Dynaxis.Realtime
