import Dynaxis.Realtime.Replication

namespace Dynaxis.Realtime

open Shared WorldRuntime List Option Realtime.System Table

def System.actorOf (system : System) (sessionId : Nat) : Option ActorState :=
 (system.runtime.sessionToActor.lookup sessionId).bind system.runtime.actors.lookup

variable {system : System} {sessionId actorId limit : Nat} {runtime : WorldRuntime}
  {actor : ActorState} {call : Call}

theorem lookup_applyInputs_of_ne {entries : List (Sigma fun _ : Nat => Nat)}
  (actors : Table Nat ActorState) (others : ∀ entry ∈ entries, entry.2 ≠ actorId) :
  (entries.foldl (fun actors entry => actors.modify entry.2
    (applyInput runtime.config (runtime.stagedInputs.lookup entry.1))) actors).lookup actorId =
      actors.lookup actorId := by
 induction entries generalizing actors with
 | nil => rfl
 | cons entry rest ih =>
  obtain ⟨other, others⟩ := forall_mem_cons.mp others
  rw [foldl_cons, ih _ others, lookup_modify, if_neg other.symm]

theorem WorldRuntime.Consistent.owner_unique (consistent : runtime.Consistent limit) {other : Nat}
  (first : runtime.sessionToActor.lookup sessionId = some actorId)
  (second : runtime.sessionToActor.lookup other = some actorId) : other = sessionId := by
 obtain ⟨⟨actor, found, own⟩, -⟩ := consistent.owned sessionId actorId first
 obtain ⟨⟨_, again, others⟩, -⟩ := consistent.owned other actorId second
 cases found.symm.trans again
 exact others.symm.trans own

theorem lookup_applyInputs (consistent : runtime.Consistent limit)
  (owned : runtime.sessionToActor.lookup sessionId = some actorId) :
  runtime.applyInputs.actors.lookup actorId = (runtime.actors.lookup actorId).map
   (applyInput runtime.config (runtime.stagedInputs.lookup sessionId)) := by
 obtain ⟨before, after, split⟩ := append_of_mem ((mem_entries_iff _ _ _).mpr owned)
 have distinct := runtime.sessionToActor.nodupKeys
 have elsewhere : ∀ entry ∈ before ++ after, entry.2 ≠ actorId := by
  rintro ⟨other, theirs⟩ member rfl
  have listed : (⟨other, theirs⟩ : Sigma fun _ : Nat => Nat) ∈ runtime.sessionToActor.entries := by
   rw [split]
   simp only [mem_append, mem_cons] at member ⊢
   exact member.imp_right .inr
  cases consistent.owner_unique owned ((mem_entries_iff _ _ _).mp listed)
  rw [split, List.NodupKeys, keys, map_append, map_cons, nodup_middle, <- map_append] at distinct
  exact (nodup_cons.mp distinct).1 (mem_map_of_mem member)
 obtain ⟨front, back⟩ := forall_mem_append.mp elsewhere
 rw [applyInputs, split, foldl_append, foldl_cons, lookup_applyInputs_of_ne _ back,
  lookup_modify, if_pos rfl, lookup_applyInputs_of_ne _ front]

def System.ticked (system : System) (sessionId : Nat) (actor : ActorState) : ActorState :=
 { pushHistory system.runtime.config (u32 (system.runtime.serverTick + 1))
    (applyInput system.runtime.config (system.runtime.stagedInputs.lookup sessionId) actor) with
   dirty := false }

theorem actorOf_tick (consistent : system.Consistent) (found : system.actorOf sessionId = some actor) :
  (system.step .tick).actorOf sessionId = some (system.ticked sessionId actor) := by
 obtain ⟨actorId, owned, found⟩ := bind_eq_some_iff.mp found
 refine bind_eq_some_iff.mpr ⟨actorId, owned, ?_⟩
 have ticked : WorldRuntime.Consistent { system.runtime with serverTick := u32 (system.runtime.serverTick + 1) }
  (system.issued + 1) := { consistent.runtime with }
 have applied := lookup_applyInputs ticked owned
 simp only [step, lookup_tick_actors, advance, recordHistory, lookup_mapValues, applied, found]
 rfl

def Spares (sessionId : Nat) (system : System) : Call -> Prop
 | .stageInput other input =>
  other = sessionId -> (system.runtime.stageInput other input).2.disposition = .rejectedStale
 | .removeSession other => other ≠ sessionId
 | .tick => True

theorem stagedInputs_ensureActor (runtime : WorldRuntime) (sessionId : Nat) :
  (runtime.ensureActorForSession sessionId).1.stagedInputs = runtime.stagedInputs := by
 rw [ensureActorForSession]
 split <;> rfl

theorem stagedInputs_of_rejected {input : InputCommand}
  (rejected : (runtime.stageInput sessionId input).2.disposition = .rejectedStale) (other : Nat) :
  (runtime.stageInput sessionId input).1.stagedInputs.lookup other = runtime.stagedInputs.lookup other := by
 simp only [stageInput, stagedInputs_ensureActor] at rejected ⊢
 split at rejected
 next stale =>
  rw [if_pos stale, lookup_insert_ite]
  split
  next own =>
   subst own
   cases staged : runtime.stagedInputs.lookup other with
   | none => simp [staged] at stale
   | some input => rfl
  · rfl
 · cases rejected

theorem actorOf_step (consistent : system.Consistent) (bound : (system.step call).issued < 4294967296)
  (found : system.actorOf sessionId = some actor) (spares : Spares sessionId system call) (quiet : call ≠ .tick) :
  (system.step call).actorOf sessionId = some actor /\
    (system.step call).runtime.stagedInputs.lookup sessionId = system.runtime.stagedInputs.lookup sessionId /\
    (system.step call).runtime.serverTick = system.runtime.serverTick := by
 obtain ⟨actorId, owned, found⟩ := bind_eq_some_iff.mp found
 cases call with
 | tick => exact absurd rfl quiet
 | removeSession other =>
  obtain ⟨-, sessions, actors, -⟩ := removeSession_spec system.runtime other
  refine ⟨bind_eq_some_iff.mpr ⟨actorId, ?_, ?_⟩, ?_⟩
  · exact (sessions sessionId).trans ((if_neg (Ne.symm spares)).trans owned)
  · refine (actors actorId).trans ((if_neg fun theirs => ?_).trans found)
    exact spares (consistent.runtime.owner_unique owned theirs)
  · simp only [step, removeSession]
    split <;> simp [Ne.symm spares]
 | stageInput other input =>
  have staged : (system.runtime.stageInput other input).1.stagedInputs.lookup sessionId =
    system.runtime.stagedInputs.lookup sessionId := by
   by_cases own : other = sessionId
   · exact stagedInputs_of_rejected (spares own) sessionId
   · simp only [stageInput, stagedInputs_ensureActor]
     split <;> simp [Ne.symm own]
  obtain ⟨inputs, same⟩ := stageInput_frame system.runtime other input
  refine ⟨?_, staged, ?_⟩
  · cases theirs : system.runtime.sessionToActor.lookup other with
    | some _ => simp only [actorOf, step, same, ensureActorForSession, theirs, owned, bind_some, found]
    | none =>
     have below : system.issued + 1 < 4294967296 := by simpa [step, theirs] using bound
     obtain ⟨next, fresh⟩ := consistent.runtime.fresh below
     have older := consistent.runtime.live actorId actor found
     have different : sessionId ≠ other := by
      rintro rfl
      cases theirs.symm.trans owned
     simp only [actorOf, step, same, ensureActorForSession, theirs, next,
      lookup_insert_ite, if_neg different, owned, bind_some, lookup_emplace_of_none _ fresh,
      if_neg older.ne, found]
  · simp only [step, same, ensureActorForSession]
    split <;> rfl

variable {calls : List Call}

theorem run_issued {final : System} (ran : machine.run system calls = some final) :
  system.issued ≤ final.issued := by
 have kept (state : System) (call : Call) (next : System) (grown : system.issued ≤ state.issued)
   (taken : machine.step state call = some next) : system.issued ≤ next.issued := by
  cases taken
  exact grown.trans (step_issued state call)
 exact machine.run_keeps kept (Nat.le_refl _) ran

structure System.Placed (system : System) (sessionId : Nat) (input : InputCommand) (place : ActorTransformSample) :
  Prop where
 consistent : system.Consistent
 staged : system.runtime.stagedInputs.lookup sessionId = some { input, present := true }
 placed : ∃ actor, system.actorOf sessionId = some actor /\ actor.sample 0 = place

variable {input : InputCommand} {place : ActorTransformSample}

theorem System.Placed.step (placed : system.Placed sessionId input place)
  (bound : (system.step call).issued < 4294967296) (spares : Spares sessionId system call)
  (settled : call = .tick -> input.inputSeq ≤ place.lastAppliedInputSeq) :
  (system.step call).Placed sessionId input place /\
    (call ≠ .tick -> (system.step call).runtime.serverTick = system.runtime.serverTick) := by
 obtain ⟨consistent, staged, actor, found, rfl⟩ := placed
 have next := step_consistent consistent call bound
 by_cases ticks : call = .tick
 · subst ticks
   refine ⟨⟨next, staged, _, actorOf_tick consistent found, ?_⟩, fun other => absurd rfl other⟩
   have applied := Nat.not_lt.mpr (settled rfl)
   simp only [ActorState.sample] at applied
   simp [ticked, staged, applyInput, applied, pushHistory, updateActorCells, ActorState.sample]
 · obtain ⟨same, inputs, tick⟩ := actorOf_step consistent bound found spares ticks
   exact ⟨⟨next, inputs.trans staged, actor, same, rfl⟩, fun _ => tick⟩

theorem System.Placed.run {final : System} (placed : system.Placed sessionId input place)
  (spared : machine.Guarded (Spares sessionId) system calls)
  (settled : .tick ∈ calls -> input.inputSeq ≤ place.lastAppliedInputSeq)
  (ran : machine.run system calls = some final) (bound : final.issued < 4294967296) :
  final.Placed sessionId input place /\ (.tick ∉ calls -> final.runtime.serverTick = system.runtime.serverTick) := by
 induction calls generalizing system with
 | nil =>
  cases ran
  exact ⟨placed, fun _ => rfl⟩
 | cons call rest ih =>
  obtain ⟨_, ⟨⟩, ran⟩ := machine.run_cons_some.mp ran
  have stepped := placed.step ((run_issued ran).trans_lt bound) spared.1 fun ticks => settled (ticks ▸ mem_cons_self)
  obtain ⟨last, same⟩ := ih stepped.1 (spared.2 _ rfl) (fun later => settled (mem_cons_of_mem _ later)) ran
  refine ⟨last, fun quiet => ?_⟩
  rw [mem_cons, not_or] at quiet
  exact (same quiet.2).trans (stepped.2 (Ne.symm quiet.1))

/-- An accepted input that is newer than the last one applied: the tick it was promised moves the actor by it, and
no later one does, as long as the session stays and no other input of it is accepted. -/
theorem newer_input_is_applied_once (config : RuntimeConfig) (before waiting after : List Call)
  (system ready final : System) (sessionId : Nat) (input : InputCommand)
  (reached : machine.run (create config) before = some system) :
  let promised := system.runtime.stageInput sessionId input
  let staged := system.step (.stageInput sessionId input)
  (promised.2.disposition = .rejectedStale -> ∀ other,
    promised.1.stagedInputs.lookup other = system.runtime.stagedInputs.lookup other) /\
  (promised.2.disposition = .accepted ->
    (∀ actor ∈ staged.actorOf sessionId, actor.lastAppliedInputSeq < input.inputSeq) ->
    machine.run staged waiting = some ready -> .tick ∉ waiting ->
    machine.Guarded (Spares sessionId) staged waiting ->
    machine.run (ready.step .tick) after = some final ->
    machine.Guarded (Spares sessionId) (ready.step .tick) after -> final.issued < 4294967296 ->
    (ready.step .tick).runtime.serverTick = promised.2.targetServerTick /\
      ∃ actor, staged.actorOf sessionId = some actor /\ ∀ later ∈ [ready.step .tick, final],
       ∃ moved, later.actorOf sessionId = some moved /\ moved.sample 0 = { actor.sample 0 with
        xMm := clampI32 (actor.xMm + input.moveXMm)
        yMm := clampI32 (actor.yMm + input.moveYMm)
        yawMdeg := input.yawMdeg
        lastAppliedInputSeq := input.inputSeq }) := by
 intro promised staged
 refine ⟨stagedInputs_of_rejected, fun accepted newer waited quiet spared ran sparedAfter bound => ?_⟩
 have readyBound : (ready.step .tick).issued < 4294967296 := (run_issued ran).trans_lt bound
 have stagedBound : staged.issued < 4294967296 := (run_issued waited).trans_lt readyBound
 have consistent := step_consistent
  (run_consistent reached ((step_issued system _).trans_lt stagedBound)) (.stageInput sessionId input) stagedBound
 obtain ⟨inputs, same⟩ := stageInput_frame system.runtime sessionId input
 have waits : staged.runtime.stagedInputs.lookup sessionId = some { input, present := true } /\
   promised.2.targetServerTick = u32 (staged.runtime.serverTick + 1) := by
  simp only [promised, staged, step, stageInput] at accepted ⊢
  split at accepted
  · cases accepted
  next fresh =>
   rw [if_neg fresh]
   exact ⟨by simp, rfl⟩
 obtain ⟨actorId, owned⟩ : ∃ actorId, staged.runtime.sessionToActor.lookup sessionId = some actorId := by
  simp only [staged, step, same, ensureActorForSession]
  split
  next actorId owned => exact ⟨actorId, owned⟩
  · exact ⟨_, AList.lookup_insert _⟩
 obtain ⟨⟨actor, found, -⟩, -⟩ := consistent.runtime.owned sessionId actorId owned
 have found : staged.actorOf sessionId = some actor :=
  bind_eq_some_iff.mpr ⟨actorId, owned, found⟩
 have placed : staged.Placed sessionId input (actor.sample 0) := ⟨consistent, waits.1, actor, found, rfl⟩
 obtain ⟨⟨consistent, inputs, waiter, there, unmoved⟩, tick⟩ :=
  placed.run spared (fun ticks => absurd ticks quiet) waited readyBound
 have newer := newer actor found
 simp only [ActorState.sample, ActorTransformSample.mk.injEq] at unmoved
 obtain ⟨sameId, sameX, sameY, -, sameSeq, -⟩ := unmoved
 have moves : (ready.step .tick).Placed sessionId input { actor.sample 0 with
   xMm := clampI32 (actor.xMm + input.moveXMm)
   yMm := clampI32 (actor.yMm + input.moveYMm)
   yawMdeg := input.yawMdeg
   lastAppliedInputSeq := input.inputSeq } := by
  refine ⟨step_consistent consistent .tick readyBound, inputs, _, actorOf_tick consistent there, ?_⟩
  simp [ticked, inputs, applyInput, sameSeq, newer, pushHistory, updateActorCells,
   ActorState.sample, sameId, sameX, sameY]
 have stays := (moves.run sparedAfter (fun _ => Nat.le_refl _) ran bound).1
 refine ⟨?_, actor, found, forall_mem_cons.mpr ⟨moves.placed, forall_mem_singleton.mpr stays.placed⟩⟩
 rw [waits.2, <- tick quiet]
 rfl

theorem first_input_moves_once :
  ∃ final, machine.run (create {}) [.stageInput 1 { inputSeq := 1, moveXMm := 5 }, .tick, .tick] =
   some final /\
   ∃ moved, final.actorOf 1 = some moved /\
    moved.sample 0 = { actorId := 1, xMm := 5, lastAppliedInputSeq := 1 } := by
 refine ⟨_, rfl, ?_⟩
 obtain ⟨-, actor, found, moved⟩ := (newer_input_is_applied_once {} [] [] [.tick] _ _ _ 1
  { inputSeq := 1, moveXMm := 5 } rfl).2 rfl (by decide +kernel) rfl nofun trivial rfl ⟨trivial, fun _ _ => trivial⟩
  (by decide +kernel)
 cases found
 exact moved _ (mem_cons_of_mem _ (mem_singleton_self _))

/-- The first input of a session has the number that a new actor has as the last one applied. -/
theorem input_zero_is_accepted_and_dropped :
  ∃ final, machine.run (create {}) [.stageInput 1 { inputSeq := 0, moveXMm := 5 }, .tick] = some final /\
   ((System.create {}).runtime.stageInput 1 { inputSeq := 0, moveXMm := 5 }).2.disposition = .accepted /\
   (final.actorOf 1).map (·.xMm) = some 0 :=
 ⟨_, rfl, rfl, by decide +kernel⟩

def WorldRuntime.sampleAt (runtime : WorldRuntime) (actorId : Nat) : Option ActorTransformSample :=
 (runtime.actors.lookup actorId).map (·.sample runtime.serverTick)

structure Chronicle where
 -- what each tick left behind and sent, the latest first
 ticks : List (WorldRuntime × List ReplicationUpdate) := []
 -- how many ticks there were since the actor was created
 age : Nat -> Nat := fun _ => 0

def Chronicle.note (system : System) (call : Call) (chronicle : Chronicle) : Chronicle :=
 match call with
 | .tick =>
  { ticks := system.runtime.tick :: chronicle.ticks
    age := fun actorId => chronicle.age actorId + 1 }
 | .stageInput _ _ | .removeSession _ =>
  { chronicle with
    age := fun actorId => if (system.runtime.actors.lookup actorId).isSome then chronicle.age actorId else 0 }

theorem applyInputs_history (runtime : WorldRuntime) (actorId : Nat) :
  (runtime.applyInputs.actors.lookup actorId).map (·.history) = (runtime.actors.lookup actorId).map (·.history) := by
 refine foldl_keeps _ (fun actors : Table Nat ActorState => (actors.lookup actorId).map (·.history)) ?_ _ _
 intro actors entry
 rw [lookup_modify]
 split
 · rw [Option.map_map]
   congr 1
   funext actor
   simp only [Function.comp, applyInput, updateActorCells]
   split
   · rfl
   · split <;> rfl
 · rfl

theorem pushHistory_reverse (config : RuntimeConfig) (serverTick : Nat) (actor : ActorState) :
  (pushHistory config serverTick actor).history.reverse =
    (actor.sample serverTick :: actor.history.reverse).take config.historyTicks := by
 simp only [pushHistory, reverse_drop, reverse_append, reverse_singleton, singleton_append]
 rw [take_eq_take_iff]
 simp
 omega

theorem tick_history (found : runtime.tick.1.actors.lookup actorId = some actor) :
  ∃ earlier, runtime.actors.lookup actorId = some earlier /\ actor.history.reverse =
    (actor.sample (u32 (runtime.serverTick + 1)) :: earlier.history.reverse).take runtime.config.historyTicks := by
 have advanced := lookup_tick_actors runtime actorId
 simp only [advance, recordHistory, lookup_mapValues, Option.map_map] at advanced
 rw [advanced] at found
 obtain ⟨applied, reached, rfl⟩ := map_eq_some_iff.mp found
 have same := applyInputs_history { runtime with serverTick := u32 (runtime.serverTick + 1) } actorId
 rw [reached] at same
 obtain ⟨earlier, present, kept⟩ := map_eq_some_iff.mp same.symm
 refine ⟨earlier, present, ?_⟩
 rw [kept]
 exact pushHistory_reverse runtime.config _ applied

theorem tick_sent (keyed : runtime.Keyed) {update : ReplicationUpdate} {sample : ActorTransformSample}
  (sent : update ∈ runtime.tick.2) (listed : sample ∈ update.actors) :
  runtime.tick.1.sampleAt sample.actorId = some sample := by
 obtain ⟨entry, -, produced⟩ := mem_filterMap.mp sent
 obtain ⟨desired, selected, same⟩ : ∃ desired selected,
  update.actors = runtime.advance.samples desired selected := by
  simp only [replicateViewer, replicateVisible] at produced
  repeat' split at produced
  all_goals cases produced
  all_goals exact ⟨_, _, rfl⟩
 rw [same, samples, mem_filterMap] at listed
 obtain ⟨actorId, -, chosen⟩ := listed
 obtain ⟨actor, passed, rfl⟩ := map_eq_some_iff.mp chosen
 have found := (filter_eq_some_iff.mp passed).1
 cases keyed.advance actorId actor found
 have left := lookup_tick_actors runtime actor.actorId
 rw [found] at left
 exact map_eq_some_iff.mpr ⟨_, left, rfl⟩

theorem quiet_actor (quiet : call ≠ .tick) (found : (system.step call).runtime.actors.lookup actorId = some actor) :
  system.runtime.actors.lookup actorId = some actor \/
   system.runtime.actors.lookup actorId = none /\ actor.history = [] /\ actor.actorId = actorId := by
 cases call with
 | tick => exact absurd rfl quiet
 | removeSession sessionId =>
  obtain ⟨-, -, actors, -⟩ := removeSession_spec system.runtime sessionId
  have found := (actors actorId).symm.trans found
  split at found
  · cases found
  · exact .inl found
 | stageInput sessionId input =>
  obtain ⟨staged, same⟩ := stageInput_frame system.runtime sessionId input
  simp only [step, same, ensureActorForSession] at found
  split at found
  · exact .inl found
  · cases taken : system.runtime.actors.lookup system.runtime.nextActorId with
    | some _ => exact .inl (by simpa only [emplace, taken] using found)
    | none =>
     rw [lookup_emplace_of_none _ taken] at found
     split at found
     next own =>
      cases found
      exact .inr ⟨own ▸ taken, rfl, own.symm⟩
     · exact .inl found

variable {config : RuntimeConfig} {state : System × Chronicle}

structure Chronicled (config : RuntimeConfig) (state : System × Chronicle) : Prop where
 configured : state.1.runtime.config = sanitizeConfig config
 keyed : state.1.runtime.Keyed
 now : state.1.runtime.serverTick = u32 state.2.ticks.length
 ticks : state.2.ticks.map (·.1.serverTick) = (range' 1 state.2.ticks.length).reverse.map u32
 sent : ∀ tick ∈ state.2.ticks, ∀ update ∈ tick.2, ∀ sample ∈ update.actors,
  tick.1.sampleAt sample.actorId = some sample
 history : ∀ actorId actor, state.1.runtime.actors.lookup actorId = some actor ->
  actor.history.reverse.map some =
   (state.2.ticks.take (min (sanitizeConfig config).historyTicks (state.2.age actorId))).map
     (·.1.sampleAt actorId)

theorem Chronicled.quiet (chronicled : Chronicled config state) (quiet : call ≠ .tick) :
  Chronicled config (state.1.step call, Chronicle.note state.1 call state.2) := by
 obtain ⟨same, configured⟩ := quiet_runtime state.1 quiet
 have noted : Chronicle.note state.1 call state.2 = { state.2 with age := fun actorId =>
   if (state.1.runtime.actors.lookup actorId).isSome then state.2.age actorId else 0 } := by
  cases call with
  | tick => exact absurd rfl quiet
  | stageInput _ _ | removeSession _ => rfl
 rw [noted]
 refine ⟨configured.trans chronicled.configured, ?_, same.trans chronicled.now, chronicled.ticks,
  chronicled.sent, ?_⟩
 · intro actorId actor found
   obtain present | ⟨-, -, own⟩ := quiet_actor quiet found
   · exact chronicled.keyed actorId actor present
   · exact own
 · intro actorId actor found
   obtain present | ⟨absent, empty, -⟩ := quiet_actor quiet found
   · simp only [present]
     exact chronicled.history actorId actor present
   · simp [absent, empty]

theorem Chronicled.tick (chronicled : Chronicled config state) :
  Chronicled config (state.1.step .tick, Chronicle.note state.1 .tick state.2) := by
 obtain ⟨system, past⟩ := state
 have now : u32 (system.runtime.serverTick + 1) = u32 (past.ticks.length + 1) := by
  rw [chronicled.now, u32, u32, u32, Nat.mod_add_mod]
 refine ⟨chronicled.configured, ?_, now, ?_, ?_, ?_⟩
 · intro actorId actor found
   rw [step, lookup_tick_actors] at found
   obtain ⟨advanced, reached, rfl⟩ := map_eq_some_iff.mp found
   exact chronicled.keyed.advance actorId advanced reached
 · have ticks := chronicled.ticks
   simp only [Chronicle.note, map_cons, length_cons, range'_1_concat, reverse_append,
    reverse_singleton, singleton_append] at ticks ⊢
   rw [ticks, Nat.add_comm 1]
   exact congrArg (· :: _) now
 · intro tick member update sent sample listed
   obtain rfl | earlier := mem_cons.mp member
   · exact tick_sent chronicled.keyed sent listed
   · exact chronicled.sent tick earlier update sent sample listed
 · intro actorId actor found
   obtain ⟨earlier, present, pushed⟩ := tick_history found
   have history : earlier.history.reverse.map some =
     (past.ticks.take (min (sanitizeConfig config).historyTicks (past.age actorId))).map (·.1.sampleAt actorId) :=
    chronicled.history actorId earlier present
   have recorded : system.runtime.tick.1.sampleAt actorId = some (actor.sample (u32 (system.runtime.serverTick + 1))) :=
    map_eq_some_iff.mpr ⟨actor, found, rfl⟩
   rw [pushed, chronicled.configured]
   simp only [Chronicle.note]
   generalize (sanitizeConfig config).historyTicks = limit at history ⊢
   cases limit with
   | zero => simp
   | succ kept =>
    rw [Nat.add_min_add_right, take_succ_cons, take_succ_cons, map_cons, map_cons, recorded]
    congr 1
    rw [map_take, history, <- map_take, take_take]
    congr 2
    omega

theorem run_chronicled {final : System × Chronicle}
  (ran : (machine.annotate Chronicle.note).run (create config, {}) calls = some final) :
  Chronicled config final := by
 refine (machine.annotate Chronicle.note).run_keeps ?_ ?_ ran
 · rintro state call ⟨next, chronicle⟩ chronicled taken
   obtain ⟨⟨⟩, rfl⟩ := machine.annotate_step_some.mp taken
   by_cases ticks : call = .tick
   · subst ticks
     exact chronicled.tick
   · exact chronicled.quiet ticks
 · refine ⟨rfl, ?_, rfl, rfl, ?_, ?_⟩
   · intro actorId actor found
     cases found
   · intro tick member
     cases member
   · intro actorId actor found
     cases found

theorem map_serverTick {history : List ActorTransformSample} {ticks : List (WorldRuntime × List ReplicationUpdate)}
  (same : history.map some = ticks.map (·.1.sampleAt actorId)) :
  history.map (·.serverTick) = ticks.map (·.1.serverTick) := by
 induction ticks generalizing history with
 | nil => rw [map_eq_nil_iff.mp same]; rfl
 | cons tick rest ih =>
  cases history with
  | nil => cases same
  | cons sample history =>
   obtain ⟨first, others⟩ := cons.inj same
   obtain ⟨_, -, rfl⟩ := map_eq_some_iff.mp first.symm
   exact congrArg (_ :: ·) (ih others)

/-- The history of a live actor holds its transforms at the latest ticks since it was created. A rewind gives the
sample of the last of them that is not after the tick asked for, as it was replicated then. -/
theorem rewind_gives_the_past (config : RuntimeConfig) (calls : List Call) (final : System) (chronicle : Chronicle)
  (ran : (machine.annotate Chronicle.note).run (create config, {}) calls = some (final, chronicle))
  (bound : chronicle.ticks.length < 4294967296) (query : RewindQuery) :
  let live := final.runtime.actors.lookup query.actorId
  let kept := min (sanitizeConfig config).historyTicks (chronicle.age query.actorId)
  (∀ actor ∈ live, actor.history.reverse.map some = (chronicle.ticks.take kept).map (·.1.sampleAt query.actorId) /\
    actor.history.reverse.map (·.serverTick) = (range' 1 final.runtime.serverTick).reverse.take kept) /\
  (final.runtime.rewindAtOrBefore query = none ↔
    ∀ actor ∈ live, ∀ sample ∈ actor.history, query.serverTick < sample.serverTick) /\
  ∀ result ∈ final.runtime.rewindAtOrBefore query, ∃ actor ∈ live, result.sample ∈ actor.history /\
   result.sample.serverTick ≤ query.serverTick /\
   (∀ sample ∈ actor.history, sample.serverTick ≤ query.serverTick -> sample.serverTick ≤ result.sample.serverTick) /\
   (result.exactTick = true ↔ ∃ sample ∈ actor.history, sample.serverTick = query.serverTick) /\
   ∃ tick ∈ chronicle.ticks, tick.1.serverTick = result.sample.serverTick /\
    tick.1.sampleAt query.actorId = some result.sample /\
    ∀ update ∈ tick.2, ∀ sample ∈ update.actors, sample.actorId = query.actorId -> sample = result.sample := by
 intro live kept
 have chronicled := run_chronicled ran
 have now : final.runtime.serverTick = chronicle.ticks.length := chronicled.now.trans (u32_of_lt bound)
 have numbers : chronicle.ticks.map (·.1.serverTick) = (range' 1 final.runtime.serverTick).reverse := by
  rw [chronicled.ticks, now]
  refine (map_congr_left fun tick member => ?_).trans (map_id _)
  have below : tick < 1 + chronicle.ticks.length := (mem_range'_1.mp (mem_reverse.mp member)).2
  exact u32_of_lt (by omega)
 have numbered : ∀ actor ∈ live, actor.history.reverse.map (·.serverTick) =
   (range' 1 final.runtime.serverTick).reverse.take kept := by
  intro actor found
  rw [map_serverTick (chronicled.history query.actorId actor found), map_take, numbers]
 refine ⟨fun actor found => ⟨chronicled.history query.actorId actor found, numbered actor found⟩, ?_, ?_⟩
 · simp [rewindAtOrBefore, live]
 · intro result rewound
   obtain ⟨actor, found, chosen⟩ := bind_eq_some_iff.mp rewound
   obtain ⟨sample, first, rfl⟩ := map_eq_some_iff.mp chosen
   obtain ⟨early, later, earlier, split, late⟩ := find?_eq_some_iff_append.mp first
   have member : sample ∈ actor.history := mem_reverse.mp (split ▸ mem_append_right _ mem_cons_self)
   have descending : actor.history.reverse.Pairwise fun newer older => older.serverTick < newer.serverTick := by
    have ticks : (actor.history.reverse.map (·.serverTick)).Pairwise fun newer older => older < newer := by
     rw [numbered actor found]
     exact (pairwise_reverse.mpr pairwise_lt_range').sublist (take_sublist _ _)
    exact pairwise_map.mp ticks
   have latest : ∀ other ∈ actor.history, other.serverTick ≤ query.serverTick ->
     other.serverTick ≤ sample.serverTick := by
    intro other retained past
    rw [<- mem_reverse, split, mem_append, mem_cons] at retained
    rw [split, pairwise_append, pairwise_cons] at descending
    obtain after | rfl | before := retained
    · exact absurd (decide_eq_true past) (by simpa using late other after)
    · exact Nat.le_refl _
    · exact (descending.2.1.1 other before).le
   refine ⟨actor, found, member, of_decide_eq_true early, latest, ?_, ?_⟩
   · rw [decide_eq_true_iff]
     constructor
     · intro exactly
       exact ⟨sample, member, exactly⟩
     · rintro ⟨other, retained, exactly⟩
       exact Nat.le_antisymm (of_decide_eq_true early) (exactly ▸ latest other retained exactly.le)
   · have recorded := mem_map_of_mem (f := some) (mem_reverse.mpr member)
     rw [chronicled.history query.actorId actor found] at recorded
     obtain ⟨tick, taken, sampled⟩ := mem_map.mp recorded
     have ticked := mem_of_mem_take taken
     obtain ⟨_, -, same⟩ := map_eq_some_iff.mp sampled
     refine ⟨tick, ticked, same ▸ rfl, sampled, ?_⟩
     rintro update sent listed reported own
     have replicated := chronicled.sent tick ticked update sent listed reported
     rw [own] at replicated
     exact some.inj (replicated.symm.trans sampled)

theorem first_tick_is_rewound :
  ∃ final chronicle, (machine.annotate Chronicle.note).run (create {}, {})
   [.stageInput 1 { inputSeq := 1, moveXMm := 5 }, .tick, .tick] = some (final, chronicle) /\
   ∃ result, final.runtime.rewindAtOrBefore { actorId := 1, serverTick := 1 } = some result /\
    ∃ tick ∈ chronicle.ticks, tick.1.sampleAt 1 = some result.sample := by
 refine ⟨_, _, rfl, _, rfl, ?_⟩
 obtain ⟨actor, -, -, -, -, -, tick, taken, -, sampled, -⟩ := (rewind_gives_the_past {}
  [.stageInput 1 { inputSeq := 1, moveXMm := 5 }, .tick, .tick] _ _ rfl (by decide)
  { actorId := 1, serverTick := 1 }).2.2 _ rfl
 exact ⟨tick, taken, sampled⟩

end Dynaxis.Realtime
