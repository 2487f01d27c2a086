import Dynaxis.Realtime.Runtime
import Dynaxis.Shared.Machine

namespace Dynaxis.Realtime

open Shared List AList WorldRuntime

structure Transform where
 xMm : Int
 yMm : Int
 yawMdeg : Int
 deriving DecidableEq

def ActorState.transform (actor : ActorState) : Transform :=
 { xMm := actor.xMm, yMm := actor.yMm, yawMdeg := actor.yawMdeg }

def ActorTransformSample.transform (sample : ActorTransformSample) : Transform :=
 { xMm := sample.xMm, yMm := sample.yMm, yawMdeg := sample.yawMdeg }

abbrev ClientTable := Nat -> Option Transform

def listedTransform (samples : List ActorTransformSample) (actorId : Nat) : Option Transform :=
 (samples.find? fun sample => sample.actorId = actorId).map ActorTransformSample.transform

def ClientTable.apply (table : ClientTable) (update : ReplicationUpdate) : ClientTable :=
 match update.kind with
 | .snapshot => listedTransform update.actors
 | .delta => fun actorId =>
  if actorId ∈ update.removedActorIds then none
  else (listedTransform update.actors actorId).or (table actorId)

def ClientTable.Matches (table : ClientTable) (runtime : WorldRuntime) (interest : OrderedSet Nat) :
  Prop :=
 ∀ actorId,
  (actorId ∈ interest -> ∃ actor, runtime.actors.lookup actorId = some actor /\ table actorId = some actor.transform) /\
  (actorId ∉ interest -> table actorId = none)

inductive Call
 | stageInput (sessionId : Nat) (input : InputCommand)
 | removeSession (sessionId : Nat)
 | tick

structure System where
 runtime : WorldRuntime
 clients : Nat -> ClientTable := fun _ _ => none
 -- how many actor ids have been handed out so far
 issued : Nat := 0

namespace System

def create (config : RuntimeConfig) : System :=
 { runtime := WorldRuntime.create config }

def deliver (clients : Nat -> ClientTable) (outbound : List ReplicationUpdate) : Nat -> ClientTable :=
 fun sessionId =>
  (outbound.filter fun update => update.sessionId = sessionId).foldl ClientTable.apply
    (clients sessionId)

def step (system : System) : Call -> System
 | .stageInput sessionId input =>
  { system with
    runtime := (system.runtime.stageInput sessionId input).1
    issued :=
     match system.runtime.sessionToActor.lookup sessionId with
     | some _ => system.issued
     | none => system.issued + 1 }
 | .removeSession sessionId => { system with runtime := system.runtime.removeSession sessionId }
 | .tick =>
  { system with
    runtime := system.runtime.tick.1
    clients := deliver system.clients system.runtime.tick.2 }

def machine : Machine System Call where
 step system call := some (system.step call)

end System

def ActorState.Follows (before after : ActorState) : Prop :=
 after.actorId = before.actorId /\ after.sessionId = before.sessionId /\
  (after.dirty = false -> after.transform = before.transform)

theorem applyInput_follows (config : RuntimeConfig) (staged : Option StagedInput)
  (before actor : ActorState) (follows : before.Follows actor) :
  before.Follows (applyInput config staged actor) := by
 cases staged with
 | none => exact follows
 | some staged =>
  by_cases applied : staged.present /\ actor.lastAppliedInputSeq < staged.input.inputSeq
  · simpa [applyInput, applied, updateActorCells, ActorState.Follows] using ⟨follows.1, follows.2.1⟩
  · simpa [applyInput, applied, updateActorCells, ActorState.Follows, ActorState.transform] using follows

section

variable (runtime : WorldRuntime) (actorId : Nat)

theorem applyInputs_lookup :
  ∃ change : ActorState -> ActorState, (∀ actor : ActorState, actor.Follows (change actor)) /\
   runtime.applyInputs.actors.lookup actorId = (runtime.actors.lookup actorId).map change := by
 unfold applyInputs
 -- the loop is over sessions; an actor reached several times accumulates the changes
 suffices general : ∀ (entries : List (Sigma fun _ : Nat => Nat)) (actors : Table Nat ActorState)
   (change : ActorState -> ActorState), (∀ actor : ActorState, actor.Follows (change actor)) ->
   actors.lookup actorId = (runtime.actors.lookup actorId).map change ->
   ∃ total : ActorState -> ActorState, (∀ actor : ActorState, actor.Follows (total actor)) /\
    (entries.foldl (fun actors entry =>
      actors.modify entry.2 (applyInput runtime.config (runtime.stagedInputs.lookup entry.1))) actors).lookup actorId =
      (runtime.actors.lookup actorId).map total by
  have start : ∀ actor : ActorState, actor.Follows (id actor) := by
   intro actor
   simp [ActorState.Follows]
  exact general _ runtime.actors id start (by simp)
 intro entries
 induction entries with
 | nil => exact fun _ change follows same => ⟨change, follows, same⟩
 | cons entry rest ih =>
  intro actors change follows same
  rw [foldl_cons]
  by_cases reached : actorId = entry.2
  · apply ih _ (fun actor => applyInput runtime.config (runtime.stagedInputs.lookup entry.1) (change actor))
    · intro actor
      exact applyInput_follows _ _ _ _ (follows actor)
    · rw [Table.lookup_modify, if_pos reached, same, Option.map_map]
      rfl
  · apply ih _ change follows
    rw [Table.lookup_modify, if_neg reached, same]

theorem advance_lookup :
  ∃ change : ActorState -> ActorState, (∀ actor : ActorState, actor.Follows (change actor)) /\
   runtime.advance.actors.lookup actorId = (runtime.actors.lookup actorId).map change := by
 let ticked := { runtime with serverTick := u32 (runtime.serverTick + 1) }
 obtain ⟨change, follows, same⟩ := applyInputs_lookup ticked actorId
 refine ⟨fun actor => pushHistory runtime.config ticked.serverTick (change actor), follows, ?_⟩
 have pushed : runtime.advance.actors.lookup actorId = (ticked.applyInputs.actors.lookup actorId).map
     (pushHistory runtime.config ticked.serverTick) := by
  simp [advance, recordHistory, ticked, applyInputs]
 rw [pushed, same, Option.map_map]
 rfl

theorem lookup_finishTick : runtime.finishTick.actors.lookup actorId =
   (runtime.actors.lookup actorId).map fun actor => { actor with dirty := false } := by
 simp [finishTick]

end

variable {config : RuntimeConfig} {viewerActor : ActorState} {actorId limit sessionId : Nat}
 {runtime before : WorldRuntime} {table : ClientTable} {viewer : ViewerState} {clients : Nat -> ClientTable}
 {system : System}

theorem mem_interestStep {candidate : ActorState} {key : Nat}
  {desired : OrderedSet Nat} (self : viewerActor.actorId ∈ desired) :
  actorId ∈ (if key = viewerActor.actorId then desired
   else if inRange config viewerActor candidate then desired.insert key else desired) ↔
   actorId ∈ desired \/ actorId = key /\ inRange config viewerActor candidate = true := by
 split
 next own =>
  -- the viewer's own entry adds nothing, and it is in the set already
  refine ⟨.inl, fun member => member.elim id fun same => ?_⟩
  rw [same.1, own]
  exact self
 next =>
  split
  next near => simp [near, or_comm]
  next far => simp [far]

theorem mem_interestCandidates (runtime : WorldRuntime) (viewerActor : ActorState) (actorId : Nat) :
  actorId ∈ runtime.interestCandidates viewerActor ↔ actorId = viewerActor.actorId \/
    ∃ actor, runtime.actors.lookup actorId = some actor /\ inRange runtime.config viewerActor actor := by
 -- the fold grows the set it starts from, which holds the viewer's own actor
 suffices general : ∀ (entries : List (Sigma fun _ : Nat => ActorState)) (desired : OrderedSet Nat),
   viewerActor.actorId ∈ desired ->
   (actorId ∈ entries.foldl (fun desired entry =>
      if entry.1 = viewerActor.actorId then desired
      else if inRange runtime.config viewerActor entry.2 then desired.insert entry.1
      else desired) desired ↔
     actorId ∈ desired \/ ∃ actor, ⟨actorId, actor⟩ ∈ entries /\ inRange runtime.config viewerActor actor) by
  rw [interestCandidates, general _ _ (by simp)]
  simp [Table.mem_entries_iff]
 intro entries
 induction entries with
 | nil => simp
 | cons entry rest ih =>
  obtain ⟨key, candidate⟩ := entry
  intro desired self
  have listed : (∃ actor, (⟨actorId, actor⟩ : Sigma fun _ => ActorState) ∈ ⟨key, candidate⟩ :: rest /\
     inRange runtime.config viewerActor actor = true) ↔
    (actorId = key /\ inRange runtime.config viewerActor candidate = true) \/
      ∃ actor, ⟨actorId, actor⟩ ∈ rest /\ inRange runtime.config viewerActor actor = true := by
   simp [or_and_right, exists_or, and_assoc]
  rw [foldl_cons, ih _ ((mem_interestStep self).mpr (.inl self)), mem_interestStep self, listed, or_assoc]

theorem mem_limitInterest {self : Nat} {candidates : OrderedSet Nat}
  (member : actorId ∈ limitInterest limit self candidates) : actorId = self \/ actorId ∈ candidates := by
 unfold limitInterest at member
 suffices general : ∀ (ids : List Nat) (limited : OrderedSet Nat), actorId ∈ ids.foldl (fun limited actorId =>
    if limit ≤ limited.size then limited else limited.insert actorId) limited ->
   actorId ∈ limited \/ actorId ∈ ids by
  rcases general _ _ member with own | candidate
  · exact .inl (by simpa using own)
  · exact .inr candidate
 intro ids
 induction ids with
 | nil => exact fun limited member => .inl member
 | cons head rest ih =>
  intro limited member
  rw [foldl_cons] at member
  rcases ih _ member with grown | later
  · split at grown <;> simp_all
    tauto
  · exact .inr (mem_cons_of_mem _ later)

theorem desiredVisible_live (own : runtime.actors.lookup viewerActor.actorId = some viewerActor)
  (member : actorId ∈ runtime.desiredVisible viewerActor) : ∃ actor, runtime.actors.lookup actorId = some actor := by
 have candidate : actorId = viewerActor.actorId \/ actorId ∈ runtime.interestCandidates viewerActor := by
  simp only [desiredVisible] at member
  split at member
  · exact mem_limitInterest member
  · exact .inr member
 rw [mem_interestCandidates] at candidate
 rcases candidate with rfl | rfl | ⟨actor, found, _⟩
 · exact ⟨viewerActor, own⟩
 · exact ⟨viewerActor, own⟩
 · exact ⟨actor, found⟩

section

variable (runtime : WorldRuntime)

theorem mem_removedForViewer (visible desired : OrderedSet Nat) (actorId : Nat) :
  actorId ∈ runtime.removedForViewer visible desired ↔
   actorId ∈ visible /\ (actorId ∉ desired \/ actorId ∈ runtime.removedActorIds) := by
 unfold removedForViewer
 suffices general : ∀ (ids removed : List Nat), actorId ∈ ids.foldl (fun removed actorId =>
    if actorId ∈ visible /\ actorId ∉ removed then removed ++ [actorId] else removed) removed ↔
   actorId ∈ removed \/ (actorId ∈ visible /\ actorId ∈ ids) by
  rw [general]
  simp only [mem_filter, OrderedSet.mem_def, decide_eq_true_eq]
  tauto
 intro ids
 induction ids with
 | nil => simp
 | cons head rest ih =>
  intro removed
  rw [foldl_cons, ih]
  by_cases added : head ∈ visible /\ head ∉ removed
  · rw [if_pos added, mem_append, mem_singleton, mem_cons]
    constructor
    · rintro ((old | rfl) | later)
      · exact .inl old
      · exact .inr ⟨added.1, .inl rfl⟩
      · exact .inr ⟨later.1, .inr later.2⟩
    · tauto
  · rw [if_neg added, mem_cons]
    constructor
    · tauto
    · rintro (old | ⟨seen, rfl | later⟩)
      · exact .inl old
      · exact .inl (by tauto)
      · exact .inr ⟨seen, later⟩

theorem desiredVisible_finishTick (viewers : Table Nat ViewerState) (viewerActor : ActorState) :
  { runtime with viewers := viewers }.finishTick.desiredVisible { viewerActor with dirty := false } =
    runtime.desiredVisible viewerActor := by
 have same : { runtime with viewers := viewers }.finishTick.interestCandidates
   { viewerActor with dirty := false } = runtime.interestCandidates viewerActor := by
  simp only [interestCandidates, finishTick, Table.mapValues, foldl_map]
  rfl
 simp only [desiredVisible, same]
 rfl

def WorldRuntime.Keyed : Prop :=
 ∀ actorId actor, runtime.actors.lookup actorId = some actor -> actor.actorId = actorId

end

theorem listedTransform_samples (keyed : runtime.Keyed)
  (desired : OrderedSet Nat) (selected : ActorState -> Bool) (actorId : Nat) :
  listedTransform (runtime.samples desired selected) actorId =
   if actorId ∈ desired then
    ((runtime.actors.lookup actorId).filter selected).map ActorState.transform
   else none := by
 simp only [samples, OrderedSet.mem_def, listedTransform]
 induction desired.toList with
 | nil => rfl
 | cons head rest ih =>
  rw [filterMap_cons]
  cases found : (runtime.actors.lookup head).filter selected with
  | none =>
   by_cases same : actorId = head
   · subst same
     rw [found] at ih ⊢
     simpa using ih
   · simpa [same] using ih
  | some actor =>
   have label : actor.actorId = head := keyed head actor (Option.eq_some_of_filter_eq_some found)
   by_cases same : actorId = head
   · subst same
     rw [found]
     simp [ActorState.sample, label, ActorTransformSample.transform, ActorState.transform]
   · have other : ¬ head = actorId := fun equal => same equal.symm
     simpa [ActorState.sample, label, same, other] using ih

theorem snapshot_matches (keyed : runtime.Keyed)
  (own : runtime.actors.lookup viewerActor.actorId = some viewerActor) :
  ClientTable.Matches (listedTransform (runtime.samples (runtime.desiredVisible viewerActor) fun _ => true))
   runtime (runtime.desiredVisible viewerActor) := by
 intro actorId
 rw [listedTransform_samples keyed]
 constructor
 · intro member
   obtain ⟨actor, found⟩ := desiredVisible_live own member
   exact ⟨actor, found, by simp [member, found]⟩
 · intro outside
   rw [if_neg outside]

def ClientTable.Follows (table : ClientTable) (runtime : WorldRuntime) (viewer : ViewerState) : Prop :=
 viewer.snapshotPending = false ->
  (∀ actorId, actorId ∉ viewer.visibleActorIds -> table actorId = none) /\
  ∀ actorId actor, actorId ∈ viewer.visibleActorIds -> runtime.actors.lookup actorId = some actor ->
   table actorId = some actor.transform

theorem ClientTable.Matches.follows (correct : table.Matches runtime viewer.visibleActorIds) :
  table.Follows runtime viewer := by
 intro _
 constructor
 · exact fun actorId outside => (correct actorId).2 outside
 · intro actorId actor member found
   obtain ⟨current, same, known⟩ := (correct actorId).1 member
   rw [found] at same
   rw [known, Option.some.inj same]

structure WorldRuntime.Advanced (before runtime : WorldRuntime) : Prop where
 keyed : runtime.Keyed
 followed : ∀ actorId, ∃ change : ActorState -> ActorState,
  (∀ actor : ActorState, actor.Follows (change actor)) /\
  runtime.actors.lookup actorId = (before.actors.lookup actorId).map change
 gone : ∀ actorId ∈ runtime.removedActorIds, runtime.actors.lookup actorId = none

theorem delta_matches (advanced : before.Advanced runtime)
  (own : runtime.actors.lookup viewerActor.actorId = some viewerActor)
  (follows : table.Follows before viewer) (quiet : viewer.snapshotPending = false)
  (stable : runtime.desiredVisible viewerActor = viewer.visibleActorIds)
  (update : ReplicationUpdate) (kind : update.kind = .delta)
  (listed : update.actors = runtime.samples (runtime.desiredVisible viewerActor) fun actor => actor.dirty)
  (dropped : update.removedActorIds =
    runtime.removedForViewer viewer.visibleActorIds (runtime.desiredVisible viewerActor)) :
  (table.apply update).Matches runtime (runtime.desiredVisible viewerActor) := by
 obtain ⟨blank, known⟩ := follows quiet
 have nothingDropped : ∀ actorId, actorId ∉ update.removedActorIds := by
  intro actorId member
  rw [dropped, mem_removedForViewer, stable] at member
  obtain ⟨visible, outside | gone⟩ := member
  · exact outside visible
  · rw [<- stable] at visible
    obtain ⟨actor, found⟩ := desiredVisible_live own visible
    rw [advanced.gone actorId gone] at found
    cases found
 intro actorId
 simp only [ClientTable.apply, kind, nothingDropped, if_false, listed, listedTransform_samples advanced.keyed]
 constructor
 · intro member
   obtain ⟨actor, found⟩ := desiredVisible_live own member
   refine ⟨actor, found, ?_⟩
   obtain ⟨change, follow, same⟩ := advanced.followed actorId
   rw [found] at same
   obtain ⟨earlier, present, changed⟩ := Option.map_eq_some_iff.mp same.symm
   cases marked : actor.dirty with
   | true => simp [member, found, marked]
   | false =>
    have unchanged : actor.transform = earlier.transform := by
     rw [<- changed]
     exact (follow earlier).2.2 (by rw [changed, marked])
    have current := known actorId earlier (by rwa [<- stable]) present
    simp [member, found, Option.filter_some, marked, current, unchanged]
 · intro outside
   rw [if_neg outside, Option.none_or]
   exact blank actorId (by rwa [<- stable])

theorem replicateVisible_matches (advanced : before.Advanced runtime)
  (own : runtime.actors.lookup viewerActor.actorId = some viewerActor)
  (follows : table.Follows before viewer) (sessionId : Nat) :
  ((runtime.replicateVisible sessionId viewer viewerActor).2.toList.foldl ClientTable.apply table).Matches
    runtime (runtime.desiredVisible viewerActor) := by
 simp only [replicateVisible]
 by_cases due : runtime.snapshotDue viewer (runtime.desiredVisible viewerActor) = true
 · rw [if_pos due]
   exact snapshot_matches advanced.keyed own
 · rw [if_neg due]
   simp only [snapshotDue, Bool.or_eq_true, decide_eq_true_eq, not_or, not_not, Bool.not_eq_true] at due
   obtain ⟨⟨⟨⟨quiet, stable⟩, _⟩, _⟩, _⟩ := due
   have delta := delta_matches advanced own follows quiet stable
    { sessionId := sessionId
      kind := .delta
      serverTick := runtime.serverTick
      selfActorId := viewerActor.actorId
      actors := runtime.samples (runtime.desiredVisible viewerActor) fun actor => actor.dirty
      removedActorIds :=
       runtime.removedForViewer viewer.visibleActorIds (runtime.desiredVisible viewerActor) }
    rfl rfl rfl
   split
   · exact delta
   · next nothing =>
     -- an update with nothing in it would have left the table alone
     obtain ⟨clean, none_removed⟩ := not_or.mp nothing
     rw [not_not] at clean none_removed
     simpa [ClientTable.apply, clean, none_removed, listedTransform] using delta

structure WorldRuntime.Consistent (runtime : WorldRuntime) (limit : Nat) : Prop where
 next : runtime.nextActorId = u32 limit
 keyed : runtime.Keyed
 live : ∀ actorId actor, runtime.actors.lookup actorId = some actor -> actorId < limit
 owned : ∀ sessionId actorId, runtime.sessionToActor.lookup sessionId = some actorId ->
  (∃ actor, runtime.actors.lookup actorId = some actor /\ actor.sessionId = sessionId) /\
  ∃ viewer, runtime.viewers.lookup sessionId = some viewer /\ viewer.actorId = some actorId
 viewing : ∀ sessionId viewer, runtime.viewers.lookup sessionId = some viewer ->
  ∃ actorId, viewer.actorId = some actorId /\
   runtime.sessionToActor.lookup sessionId = some actorId
 visible : ∀ sessionId viewer, runtime.viewers.lookup sessionId = some viewer ->
  ∀ actorId ∈ viewer.visibleActorIds, actorId < limit
 removed : ∀ actorId ∈ runtime.removedActorIds,
  actorId < limit /\ runtime.actors.lookup actorId = none

structure System.Consistent (system : System) : Prop where
 runtime : system.runtime.Consistent (system.issued + 1)
 clients : ∀ sessionId viewer, system.runtime.viewers.lookup sessionId = some viewer ->
  (system.clients sessionId).Follows system.runtime viewer

theorem create_consistent (config : RuntimeConfig) : (System.create config).Consistent := by
 constructor
 · constructor <;> simp [System.create, create, u32, WorldRuntime.Keyed]
 · simp [System.create, create]

theorem stageInput_frame (runtime : WorldRuntime) (sessionId : Nat) (input : InputCommand) :
  ∃ staged, (runtime.stageInput sessionId input).1 =
   { (runtime.ensureActorForSession sessionId).1 with stagedInputs := staged } := by
 simp only [stageInput]
 split
 · exact ⟨_, rfl⟩
 · exact ⟨_, rfl⟩

theorem quiet_runtime (system : System) {call : Call} (quiet : call ≠ .tick) :
  (system.step call).runtime.serverTick = system.runtime.serverTick /\
    (system.step call).runtime.config = system.runtime.config := by
 cases call with
 | tick => exact absurd rfl quiet
 | removeSession sessionId =>
  simp only [System.step, removeSession]
  split <;> exact ⟨rfl, rfl⟩
 | stageInput sessionId input =>
  obtain ⟨staged, same⟩ := stageInput_frame system.runtime sessionId input
  simp only [System.step, same, ensureActorForSession]
  split <;> exact ⟨rfl, rfl⟩

variable (consistent : runtime.Consistent limit)
include consistent

theorem WorldRuntime.Consistent.staged (staged : Table Nat StagedInput) :
  { runtime with stagedInputs := staged }.Consistent limit :=
 ⟨consistent.next, consistent.keyed, consistent.live, consistent.owned, consistent.viewing,
   consistent.visible, consistent.removed⟩

theorem WorldRuntime.Consistent.fresh (bound : limit < 4294967296) :
  runtime.nextActorId = limit /\ runtime.actors.lookup limit = none := by
 constructor
 · rw [consistent.next, u32_of_lt bound]
 · cases found : runtime.actors.lookup limit with
   | none => rfl
   | some actor =>
    have below := consistent.live limit actor found
    omega

theorem ensureActor_consistent (bound : limit < 4294967296)
  (absent : runtime.sessionToActor.lookup sessionId = none) :
  (runtime.ensureActorForSession sessionId).1.Consistent (limit + 1) := by
 obtain ⟨next, fresh⟩ := consistent.fresh bound
 have actors := Table.lookup_emplace_of_none (newActor runtime.config limit sessionId) fresh
 simp only [ensureActorForSession, absent, next]
 constructor
 case next => rfl
 case keyed =>
  intro actorId actor found
  rw [actors] at found
  split at found
  next same =>
   cases found
   rw [same]
   rfl
  next => exact consistent.keyed actorId actor found
 case live =>
  intro actorId actor found
  rw [actors] at found
  split at found
  next same => omega
  next =>
   have below := consistent.live actorId actor found
   omega
 case owned =>
  intro session actorId owned
  by_cases same : session = sessionId
  · subst same
    simp only [lookup_insert, Option.some.injEq] at owned ⊢
    subst owned
    exact ⟨⟨_, by rw [actors, if_pos rfl], rfl⟩, _, rfl, rfl⟩
  · simp only [lookup_insert_ne same] at owned ⊢
    obtain ⟨⟨actor, found, session_eq⟩, viewer⟩ := consistent.owned session actorId owned
    have below := consistent.live actorId actor found
    exact ⟨⟨actor, by rw [actors, if_neg (by omega), found], session_eq⟩, viewer⟩
 case viewing =>
  intro session viewer found
  by_cases same : session = sessionId
  · subst same
    simp only [lookup_insert, Option.some.injEq] at found ⊢
    subst found
    exact ⟨limit, rfl, rfl⟩
  · simp only [lookup_insert_ne same] at found ⊢
    exact consistent.viewing session viewer found
 case visible =>
  intro session viewer found actorId member
  by_cases same : session = sessionId
  · subst same
    simp only [lookup_insert, Option.some.injEq] at found
    subst found
    cases earlier : runtime.viewers.lookup session with
    | none => simp [earlier] at member
    | some viewer =>
     have below := consistent.visible session viewer earlier actorId (by simpa [earlier] using member)
     omega
  · simp only [lookup_insert_ne same] at found
    have below := consistent.visible session viewer found actorId member
    omega
 case removed =>
  intro actorId member
  obtain ⟨below, gone⟩ := consistent.removed actorId member
  exact ⟨by omega, by rw [actors, if_neg (by omega), gone]⟩

theorem ensureActor_follows (bound : limit < 4294967296) (absent : runtime.sessionToActor.lookup sessionId = none)
  (follows : ∀ session viewer, runtime.viewers.lookup session = some viewer ->
    (clients session).Follows runtime viewer) (session : Nat) (viewer : ViewerState)
  (found : (runtime.ensureActorForSession sessionId).1.viewers.lookup session = some viewer) :
  (clients session).Follows (runtime.ensureActorForSession sessionId).1 viewer := by
 obtain ⟨next, fresh⟩ := consistent.fresh bound
 have actors := Table.lookup_emplace_of_none (newActor runtime.config limit sessionId) fresh
 simp only [ensureActorForSession, absent, next] at found ⊢
 intro quiet
 by_cases same : session = sessionId
 · -- the viewer was just created and waits for its first snapshot
   subst same
   simp only [lookup_insert, Option.some.injEq] at found
   subst found
   simp at quiet
 · simp only [lookup_insert_ne same] at found
   obtain ⟨blank, known⟩ := follows session viewer found quiet
   refine ⟨blank, fun actorId actor member present => known actorId actor member ?_⟩
   have below := consistent.visible session viewer found actorId member
   rwa [actors, if_neg (by omega)] at present

omit consistent

theorem removeSession_spec (runtime : WorldRuntime) (sessionId : Nat) :
  (∀ session, (runtime.removeSession sessionId).viewers.lookup session =
    if session = sessionId then none else runtime.viewers.lookup session) /\
  (∀ session, (runtime.removeSession sessionId).sessionToActor.lookup session =
    if session = sessionId then none else runtime.sessionToActor.lookup session) /\
  (∀ actorId, (runtime.removeSession sessionId).actors.lookup actorId =
    if runtime.sessionToActor.lookup sessionId = some actorId then none
    else runtime.actors.lookup actorId) /\
  (∀ actorId, actorId ∈ (runtime.removeSession sessionId).removedActorIds ↔
    actorId ∈ runtime.removedActorIds \/ runtime.sessionToActor.lookup sessionId = some actorId) /\
  (runtime.removeSession sessionId).nextActorId = runtime.nextActorId := by
 have erased : ∀ {Value : Type} (table : Table Nat Value) (session : Nat), (table.erase sessionId).lookup session =
     if session = sessionId then none else table.lookup session := by
  intro Value table session
  by_cases same : session = sessionId
  · subst same
    simp
  · simp [same, lookup_erase_ne same]
 cases owned : runtime.sessionToActor.lookup sessionId with
 | none =>
  simp only [removeSession, owned, reduceCtorEq, if_false, or_false]
  refine ⟨erased _, fun session => ?_, fun _ => trivial, fun _ => trivial, trivial⟩
  split
  next same => rw [same, owned]
  next => rfl
 | some actorId =>
  simp only [removeSession, owned, Option.some.injEq]
  refine ⟨erased _, erased _, fun other => ?_, fun other => ?_, trivial⟩
  · by_cases same : actorId = other
    · subst same
      simp
    · simp [same, lookup_erase_ne (Ne.symm same)]
  · rw [OrderedSet.mem_insert]
    exact ⟨fun member => member.elim (fun same => .inr same.symm) .inl,
     fun member => member.elim .inr fun same => .inl same.symm⟩

theorem removeSession_consistent (consistent : runtime.Consistent limit) (sessionId : Nat) :
  (runtime.removeSession sessionId).Consistent limit := by
 obtain ⟨viewers, sessions, actors, removed, next⟩ := removeSession_spec runtime sessionId
 have kept : ∀ actorId actor, (runtime.removeSession sessionId).actors.lookup actorId = some actor ->
   runtime.actors.lookup actorId = some actor := by
  intro actorId actor found
  rw [actors] at found
  split at found
  · cases found
  · exact found
 have stayed : ∀ session viewer, (runtime.removeSession sessionId).viewers.lookup session = some viewer ->
   session ≠ sessionId /\ runtime.viewers.lookup session = some viewer := by
  intro session viewer found
  rw [viewers] at found
  split at found
  next => cases found
  next other => exact ⟨other, found⟩
 constructor
 case next => rw [next, consistent.next]
 case keyed => exact fun actorId actor found => consistent.keyed actorId actor (kept _ _ found)
 case live => exact fun actorId actor found => consistent.live actorId actor (kept _ _ found)
 case owned =>
  intro session actorId owned
  rw [sessions] at owned
  split at owned
  next => cases owned
  next other =>
   obtain ⟨⟨actor, found, session_eq⟩, viewer⟩ := consistent.owned session actorId owned
   refine ⟨⟨actor, ?_, session_eq⟩, by simpa only [viewers, if_neg other] using viewer⟩
   rw [actors, if_neg, found]
   -- two sessions never share an actor, because the actor names its session
   intro shared
   obtain ⟨⟨same, again, named⟩, _⟩ := consistent.owned sessionId actorId shared
   rw [found] at again
   cases again
   exact other (session_eq.symm.trans named)
 case viewing =>
  intro session viewer found
  obtain ⟨other, earlier⟩ := stayed session viewer found
  rw [sessions, if_neg other]
  exact consistent.viewing session viewer earlier
 case visible =>
  intro session viewer found
  exact consistent.visible session viewer (stayed session viewer found).2
 case removed =>
  intro actorId member
  rw [actors]
  rcases (removed actorId).mp member with earlier | now
  · obtain ⟨below, gone⟩ := consistent.removed actorId earlier
    exact ⟨below, by rw [gone, ite_self]⟩
  · obtain ⟨⟨actor, found, _⟩, _⟩ := consistent.owned sessionId actorId now
    exact ⟨consistent.live actorId actor found, by rw [if_pos now]⟩

theorem removeSession_follows (follows : ∀ session viewer, runtime.viewers.lookup session = some viewer ->
  (clients session).Follows runtime viewer) (sessionId session : Nat) (viewer : ViewerState)
  (found : (runtime.removeSession sessionId).viewers.lookup session = some viewer) :
  (clients session).Follows (runtime.removeSession sessionId) viewer := by
 obtain ⟨viewers, _, actors, _⟩ := removeSession_spec runtime sessionId
 rw [viewers] at found
 split at found
 next => cases found
 next =>
  intro quiet
  obtain ⟨blank, known⟩ := follows session viewer found quiet
  refine ⟨blank, fun actorId actor member present => known actorId actor member ?_⟩
  rw [actors] at present
  split at present
  · cases present
  · exact present

theorem WorldRuntime.Keyed.advance (keyed : runtime.Keyed) : runtime.advance.Keyed := by
 intro actorId actor found
 obtain ⟨change, follows, same⟩ := advance_lookup runtime actorId
 rw [same] at found
 obtain ⟨earlier, present, rfl⟩ := Option.map_eq_some_iff.mp found
 rw [(follows earlier).1]
 exact keyed actorId earlier present

theorem advance_advanced (consistent : runtime.Consistent limit) : runtime.Advanced runtime.advance := by
 constructor
 case followed => exact advance_lookup runtime
 case keyed => exact consistent.keyed.advance
 case gone =>
  intro actorId member
  obtain ⟨change, _, same⟩ := advance_lookup runtime actorId
  rw [same, (consistent.removed actorId member).2, Option.map_none]

theorem deliver_tick (runtime : WorldRuntime) (clients : Nat -> ClientTable) (sessionId : Nat) :
  System.deliver clients runtime.tick.2 sessionId = (((runtime.viewers.lookup sessionId).bind fun viewer =>
     (runtime.advance.replicateViewer sessionId viewer).2).toList.foldl ClientTable.apply (clients sessionId)) := by
 have labelled : ∀ session viewer update,
   (runtime.advance.replicateViewer session viewer).2 = some update -> update.sessionId = session := by
  intro session viewer update produced
  simp only [replicateViewer, replicateVisible] at produced
  aesop
 have addressed := Table.filterMap_filter_label labelled runtime.viewers.entries runtime.viewers.nodupKeys sessionId
 exact congrArg (foldl ClientTable.apply (clients sessionId)) addressed

theorem advance_viewer (consistent : runtime.Consistent limit)
  (owned : runtime.sessionToActor.lookup sessionId = some actorId) :
  ∃ viewer viewerActor, runtime.viewers.lookup sessionId = some viewer /\
   viewer.actorId = some actorId /\ runtime.advance.actors.lookup actorId = some viewerActor /\
   viewerActor.actorId = actorId /\ viewerActor.sessionId = sessionId := by
 obtain ⟨⟨actor, found, session⟩, viewer, viewing, watches⟩ := consistent.owned sessionId actorId owned
 obtain ⟨change, follows, same⟩ := advance_lookup runtime actorId
 rw [found, Option.map_some] at same
 refine ⟨viewer, change actor, viewing, watches, same, ?_, ?_⟩
 · rw [(follows actor).1, consistent.keyed actorId actor found]
 · rw [(follows actor).2.1, session]

section

variable (runtime : WorldRuntime) (sessionId : Nat)

theorem lookup_tick_actors (actorId : Nat) : runtime.tick.1.actors.lookup actorId =
   (runtime.advance.actors.lookup actorId).map fun actor => { actor with dirty := false } :=
 lookup_finishTick runtime.advance.replicate.1 actorId

theorem lookup_tick_viewers : runtime.tick.1.viewers.lookup sessionId =
   (runtime.viewers.lookup sessionId).map fun viewer => (runtime.advance.replicateViewer sessionId viewer).1 :=
 Table.lookup_mapValues runtime.viewers _ sessionId

theorem replicateVisible_viewer (viewer : ViewerState) (viewerActor : ActorState) :
  (runtime.replicateVisible sessionId viewer viewerActor).1.actorId = viewer.actorId /\
  (runtime.replicateVisible sessionId viewer viewerActor).1.visibleActorIds = runtime.desiredVisible viewerActor := by
 simp only [replicateVisible]
 split <;> exact ⟨rfl, rfl⟩

end

theorem ClientTable.Matches.finished {interest : OrderedSet Nat} (correct : table.Matches runtime.advance interest) :
  table.Matches runtime.tick.1 interest := by
 intro actorId
 refine ⟨fun member => ?_, (correct actorId).2⟩
 obtain ⟨actor, found, known⟩ := (correct actorId).1 member
 refine ⟨{ actor with dirty := false }, ?_, known⟩
 rw [lookup_tick_actors, found, Option.map_some]

theorem tick_matches (consistent : system.Consistent)
  (owned : system.runtime.sessionToActor.lookup sessionId = some actorId) :
  ∃ viewer viewerActor, system.runtime.tick.1.viewers.lookup sessionId = some viewer /\
   viewer.actorId = some actorId /\
   system.runtime.tick.1.actors.lookup actorId = some viewerActor /\
   viewerActor.sessionId = sessionId /\
   viewer.visibleActorIds = system.runtime.tick.1.desiredVisible viewerActor /\
   ((system.step .tick).clients sessionId).Matches system.runtime.tick.1 viewer.visibleActorIds := by
 obtain ⟨viewer, viewerActor, viewing, watches, found, named, session⟩ :=
  advance_viewer consistent.runtime owned
 have replicated : system.runtime.advance.replicateViewer sessionId viewer =
   system.runtime.advance.replicateVisible sessionId viewer viewerActor := by
  simp only [replicateViewer, watches, found]
 obtain ⟨same, visible⟩ :=
  replicateVisible_viewer system.runtime.advance sessionId viewer viewerActor
 have own : system.runtime.advance.actors.lookup viewerActor.actorId = some viewerActor := by rw [named, found]
 have correct := replicateVisible_matches (advance_advanced consistent.runtime) own
  (consistent.clients sessionId viewer viewing) sessionId
 refine ⟨(system.runtime.advance.replicateVisible sessionId viewer viewerActor).1,
  { viewerActor with dirty := false }, ?_, ?_, ?_, session, ?_, ?_⟩
 · rw [lookup_tick_viewers, viewing, Option.map_some, replicated]
 · rw [same, watches]
 · rw [lookup_tick_actors, found, Option.map_some]
 · rw [visible]
   exact (desiredVisible_finishTick _ _ _).symm
 · rw [visible]
   have delivered := deliver_tick system.runtime system.clients sessionId
   rw [viewing, Option.bind_some, replicated] at delivered
   show (System.deliver system.clients system.runtime.tick.2 sessionId).Matches _ _
   rw [delivered]
   exact correct.finished

theorem tick_consistent (consistent : system.Consistent) : (system.step .tick).Consistent := by
 have seen : ∀ sessionId viewer, system.runtime.tick.1.viewers.lookup sessionId = some viewer ->
   ∃ actorId, viewer.actorId = some actorId /\ system.runtime.sessionToActor.lookup sessionId = some actorId /\
    ((system.step .tick).clients sessionId).Matches system.runtime.tick.1
      viewer.visibleActorIds := by
  intro sessionId viewer found
  have present : ∃ earlier, system.runtime.viewers.lookup sessionId = some earlier := by
   rw [lookup_tick_viewers] at found
   obtain ⟨earlier, viewing, _⟩ := Option.map_eq_some_iff.mp found
   exact ⟨earlier, viewing⟩
  obtain ⟨earlier, viewing⟩ := present
  obtain ⟨actorId, _, owned⟩ := consistent.runtime.viewing sessionId earlier viewing
  obtain ⟨current, _, now, watches, _, _, _, correct⟩ := tick_matches consistent owned
  rw [found] at now
  cases now
  exact ⟨actorId, watches, owned, correct⟩
 have alive : ∀ actorId actor, system.runtime.tick.1.actors.lookup actorId = some actor ->
   ∃ earlier, system.runtime.actors.lookup actorId = some earlier /\ actor.actorId = earlier.actorId := by
  intro actorId actor found
  obtain ⟨change, follows, same⟩ := advance_lookup system.runtime actorId
  rw [lookup_tick_actors, same, Option.map_map] at found
  obtain ⟨earlier, present, rfl⟩ := Option.map_eq_some_iff.mp found
  exact ⟨earlier, present, (follows earlier).1⟩
 constructor
 case runtime =>
  constructor
  case next => exact consistent.runtime.next
  case keyed =>
   intro actorId actor found
   obtain ⟨earlier, present, same⟩ := alive actorId actor found
   rw [same, consistent.runtime.keyed actorId earlier present]
  case live =>
   intro actorId actor found
   obtain ⟨earlier, present, _⟩ := alive actorId actor found
   exact consistent.runtime.live actorId earlier present
  case owned =>
   intro sessionId actorId owned
   obtain ⟨viewer, viewerActor, viewing, watches, found, session, _⟩ :=
    tick_matches consistent owned
   exact ⟨⟨viewerActor, found, session⟩, viewer, viewing, watches⟩
  case viewing =>
   intro sessionId viewer found
   obtain ⟨actorId, watches, owned, _⟩ := seen sessionId viewer found
   exact ⟨actorId, watches, owned⟩
  case visible =>
   intro sessionId viewer found actorId member
   obtain ⟨_, _, _, correct⟩ := seen sessionId viewer found
   obtain ⟨actor, current, _⟩ := (correct actorId).1 member
   obtain ⟨earlier, present, _⟩ := alive actorId actor current
   exact consistent.runtime.live actorId earlier present
  case removed =>
   intro actorId member
   exact absurd member (OrderedSet.notMem_empty actorId)
 case clients =>
  intro sessionId viewer found
  obtain ⟨_, _, _, correct⟩ := seen sessionId viewer found
  exact correct.follows

theorem step_issued (system : System) (call : Call) : system.issued ≤ (system.step call).issued := by
 cases call with
 | stageInput sessionId input =>
  simp only [System.step]
  split <;> omega
 | removeSession sessionId | tick => exact Nat.le_refl _

theorem step_consistent (consistent : system.Consistent) (call : Call)
  (bound : (system.step call).issued < 4294967296) : (system.step call).Consistent := by
 cases call with
 | stageInput sessionId input =>
  obtain ⟨staged, same⟩ := stageInput_frame system.runtime sessionId input
  cases owned : system.runtime.sessionToActor.lookup sessionId with
  | some actorId =>
   have ensured : (system.runtime.ensureActorForSession sessionId).1 = system.runtime := by
    simp [ensureActorForSession, owned]
   rw [ensured] at same
   simp only [System.step, owned, same]
   exact ⟨consistent.runtime.staged staged, consistent.clients⟩
  | none =>
   simp only [System.step, owned, same] at bound ⊢
   exact ⟨(ensureActor_consistent consistent.runtime (by omega) owned).staged staged,
    ensureActor_follows consistent.runtime (by omega) owned consistent.clients⟩
 | removeSession sessionId =>
  exact ⟨removeSession_consistent consistent.runtime sessionId, removeSession_follows consistent.clients sessionId⟩
 | tick => exact tick_consistent consistent

theorem run_consistent {calls : List Call} {final : System}
  (ran : System.machine.run (System.create config) calls = some final)
  (bound : final.issued < 4294967296) : final.Consistent := by
 have kept : ∀ system call next, (system.issued < 4294967296 -> system.Consistent) ->
   System.machine.step system call = some next -> next.issued < 4294967296 -> next.Consistent := by
  intro system call next consistent taken fits
  obtain rfl : system.step call = next := Option.some.inj taken
  have grown := step_issued system call
  exact step_consistent (consistent (by omega)) call fits
 exact System.machine.run_keeps kept (fun _ => create_consistent config) ran bound

/-- World replication converges: whatever was staged and removed before, right after a tick
the client of every session with an actor shows exactly the actors of its interest set. -/
theorem client_table_matches_interest (config : RuntimeConfig) (calls : List Call) (final : System)
  (ran : System.machine.run (System.create config) (calls ++ [.tick]) = some final)
  (bound : final.issued < 4294967296) (sessionId actorId : Nat)
  (owned : final.runtime.sessionToActor.lookup sessionId = some actorId) :
  ∃ viewerActor, final.runtime.actors.lookup actorId = some viewerActor /\
   (final.clients sessionId).Matches final.runtime (final.runtime.desiredVisible viewerActor) := by
 rw [System.machine.run_append] at ran
 obtain ⟨before, reached, ticked⟩ := Option.bind_eq_some_iff.mp ran
 obtain rfl : before.step .tick = final := Option.some.inj ticked
 have consistent := run_consistent reached bound
 obtain ⟨viewer, viewerActor, _, _, found, _, visible, correct⟩ := tick_matches consistent owned
 rw [visible] at correct
 exact ⟨viewerActor, found, correct⟩

def twoSessionCalls : List Call :=
 [.stageInput 7 { inputSeq := 1, moveXMm := 5, yawMdeg := 90 }, .stageInput 8 {}, .tick,
   .stageInput 8 { inputSeq := 1, moveYMm := 3 }]

theorem two_sessions_see_each_other :
  ∃ final, System.machine.run (System.create {}) (twoSessionCalls ++ [.tick]) = some final /\
   final.clients 7 2 = some { xMm := 0, yMm := 3, yawMdeg := 0 } /\
   ∃ viewerActor, final.runtime.actors.lookup 1 = some viewerActor /\
    (final.clients 7).Matches final.runtime (final.runtime.desiredVisible viewerActor) :=
 ⟨_, rfl, by decide, client_table_matches_interest {} twoSessionCalls _ rfl (by decide) 7 1 (by decide)⟩

end Dynaxis.Realtime
