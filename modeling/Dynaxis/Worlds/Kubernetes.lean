import Dynaxis.Worlds.Drain
import Dynaxis.Worlds.Topology
import Mathlib

namespace Dynaxis.Worlds

open Shared Option List

inductive KubernetesWorkloadKind
 | deployment
 | statefulSet

structure KubernetesPoolBinding where
 worldId : Text := []
 shard : Text := []
 namespaceName : Text := []
 workloadName : Text := []
 workloadKind : KubernetesWorkloadKind := .statefulSet
 targetReplicas : Nat := 0

structure KubernetesPoolObservation where
 currentSpecReplicas : Nat := 0
 readyReplicas : Nat := 0
 availableReplicas : Nat := 0
 terminatingReplicas : Nat := 0
 assignedRuntimeInstances : Nat := 0
 idleReadyRuntimeInstances : Nat := 0

inductive KubernetesPoolOrchestrationPhase
 | idle
 | scaleWorkload
 | awaitReadyReplicas
 | awaitRuntimeAssignment
 | awaitReplacementTarget
 | awaitDrain
 | awaitOwnerTransfer
 | awaitMigration
 | retireWorkload
 | complete
 | stale
 deriving DecidableEq

inductive KubernetesPoolNextAction
 | none
 | patchWorkloadReplicas
 | waitForPodsReady
 | publishRuntimeAssignments
 | stabilizeReplacementTarget
 | waitForDrain
 | commitOwnerTransfer
 | waitForMigration
 | patchWorkloadRetirement

structure KubernetesPoolOrchestrationSummary where
 actionPresent : Bool := false
 assignmentPresent : Bool := false
 bindingTargetReached : Bool := false
 podsReadyForTarget : Bool := false
 runtimeAssignmentSatisfied : Bool := false
 drainReadyToRetire : Bool := false
 targetReplicas : Nat := 0
 currentSpecReplicas : Nat := 0
 readyReplicas : Nat := 0
 availableReplicas : Nat := 0
 terminatingReplicas : Nat := 0
 assignedRuntimeInstances : Nat := 0
 idleReadyRuntimeInstances : Nat := 0
 drainOrchestrationPhase : WorldDrainOrchestrationPhase := .idle

structure KubernetesPoolOrchestrationStatus where
 worldId : Text
 shard : Text
 namespaceName : Text
 workloadName : Text
 workloadKind : KubernetesWorkloadKind
 requestedAction : TopologyActuationActionKind := .observeUndeclaredPool
 phase : KubernetesPoolOrchestrationPhase := .idle
 nextAction : KubernetesPoolNextAction := .none
 targetOwnerInstanceId : Text := []
 targetWorldId : Text := []
 summary : KubernetesPoolOrchestrationSummary

variable (binding : KubernetesPoolBinding) (observation : KubernetesPoolObservation) (leaseAction : Option TopologyActuationAdapterLeaseAction) (drainOrchestration : Option WorldDrainOrchestrationStatus) (out : KubernetesPoolOrchestrationStatus)

def KubernetesPoolOrchestrationStatus.observe : KubernetesPoolOrchestrationStatus where
 worldId := binding.worldId
 shard := binding.shard
 namespaceName := binding.namespaceName
 workloadName := binding.workloadName
 workloadKind := binding.workloadKind
 targetOwnerInstanceId := drainOrchestration.elim [] (·.targetOwnerInstanceId)
 targetWorldId := drainOrchestration.elim [] (·.targetWorldId)
 summary :=
  { actionPresent := leaseAction.isSome
    assignmentPresent := 0 < observation.assignedRuntimeInstances
    targetReplicas := binding.targetReplicas
    currentSpecReplicas := observation.currentSpecReplicas
    readyReplicas := observation.readyReplicas
    availableReplicas := observation.availableReplicas
    terminatingReplicas := observation.terminatingReplicas
    assignedRuntimeInstances := observation.assignedRuntimeInstances
    idleReadyRuntimeInstances := observation.idleReadyRuntimeInstances
    bindingTargetReached := observation.currentSpecReplicas = binding.targetReplicas
    podsReadyForTarget := binding.targetReplicas ≤ observation.readyReplicas
    drainReadyToRetire := drainOrchestration.any (·.phase = .readyToClear)
    drainOrchestrationPhase := drainOrchestration.elim .idle (·.phase) }

def KubernetesPoolOrchestrationStatus.answer (phase : KubernetesPoolOrchestrationPhase)
  (nextAction : KubernetesPoolNextAction) :
  KubernetesPoolOrchestrationStatus :=
 { out with phase, nextAction }

def KubernetesPoolOrchestrationStatus.assigned (satisfied : Bool) : KubernetesPoolOrchestrationStatus :=
 { out with summary := { out.summary with runtimeAssignmentSatisfied := satisfied } }

def WorldDrainOrchestrationPhase.scaleInWait :
  WorldDrainOrchestrationPhase -> Option (KubernetesPoolOrchestrationPhase × KubernetesPoolNextAction)
 | .blockedByReplacementTarget => some (.awaitReplacementTarget, .stabilizeReplacementTarget)
 | .draining => some (.awaitDrain, .waitForDrain)
 | .awaitingOwnerTransfer => some (.awaitOwnerTransfer, .commitOwnerTransfer)
 | .awaitingMigration => some (.awaitMigration, .waitForMigration)
 | .readyToClear | .idle => none

def evaluateKubernetesPoolOrchestration : KubernetesPoolOrchestrationStatus :=
 let out := KubernetesPoolOrchestrationStatus.observe binding observation leaseAction drainOrchestration
 match leaseAction with
 | none => out.answer .idle .none
 | some lease =>
  let out := { out with requestedAction := lease.action }
  match lease.action with
  | .scaleOutPool =>
   let requiredAssignments := lease.replicaDelta.toNat
   let out := out.assigned (requiredAssignments ≤ observation.assignedRuntimeInstances)
   if observation.currentSpecReplicas < binding.targetReplicas then
    out.answer .scaleWorkload .patchWorkloadReplicas
   else if observation.readyReplicas < binding.targetReplicas then
    out.answer .awaitReadyReplicas .waitForPodsReady
   else if observation.assignedRuntimeInstances < requiredAssignments then
    out.answer .awaitRuntimeAssignment .publishRuntimeAssignments
   else out.answer .complete .none
  | .restorePoolReadiness =>
   let out := out.assigned true
   if observation.currentSpecReplicas < binding.targetReplicas then
    out.answer .scaleWorkload .patchWorkloadReplicas
   else if observation.readyReplicas = 0 then out.answer .awaitReadyReplicas .waitForPodsReady
   else out.answer .complete .none
  | .scaleInPool =>
   let out := out.assigned true
   match drainOrchestration.bind fun status => status.phase.scaleInWait with
   | some (phase, nextAction) => out.answer phase nextAction
   | none =>
    if binding.targetReplicas < observation.currentSpecReplicas \/ 0 < observation.terminatingReplicas then
     out.answer .retireWorkload .patchWorkloadRetirement
    else out.answer .complete .none
  | .observeUndeclaredPool => (out.assigned true).answer .idle .none

@[mk_iff clearToRetire_iff] structure ClearToRetire (binding : KubernetesPoolBinding)
  (observation : KubernetesPoolObservation)
   (leaseAction : Option TopologyActuationAdapterLeaseAction)
   (drainOrchestration : Option WorldDrainOrchestrationStatus) : Prop where
  requested : ∃ lease ∈ leaseAction, lease.action = .scaleInPool
  waitsForNothing : ∀ status ∈ drainOrchestration, status.phase = .idle \/ status.phase = .readyToClear
  replicas : binding.targetReplicas < observation.currentSpecReplicas \/ 0 < observation.terminatingReplicas

variable {phase : WorldDrainOrchestrationPhase}

theorem scaleInWait_some {wait : KubernetesPoolOrchestrationPhase × KubernetesPoolNextAction}
  (waits : phase.scaleInWait = some wait) :
  wait.1 ≠ .retireWorkload /\ wait.2 ≠ .patchWorkloadRetirement /\ phase ≠ .idle /\ phase ≠ .readyToClear := by
 cases phase <;> cases waits <;> exact ⟨nofun, nofun, nofun, nofun⟩

theorem scaleInWait_none (clear : phase.scaleInWait = none) : phase = .idle \/ phase = .readyToClear := by
 cases phase <;> simp [WorldDrainOrchestrationPhase.scaleInWait] at clear ⊢

theorem evaluateKubernetesPoolOrchestration_retires :
  let status := evaluateKubernetesPoolOrchestration binding observation leaseAction drainOrchestration
  (status.phase = .retireWorkload ↔ ClearToRetire binding observation leaseAction drainOrchestration) /\
    (status.nextAction = .patchWorkloadRetirement ↔
      ClearToRetire binding observation leaseAction drainOrchestration) := by
 rw [evaluateKubernetesPoolOrchestration.eq_def]
 cases leaseAction with
 | none => simp [clearToRetire_iff, KubernetesPoolOrchestrationStatus.answer]
 | some lease =>
  dsimp only
  cases action : lease.action with
  | scaleOutPool | restorePoolReadiness =>
   dsimp only
   split_ifs <;> simp [clearToRetire_iff, KubernetesPoolOrchestrationStatus.answer, action]
  | observeUndeclaredPool => simp [clearToRetire_iff, KubernetesPoolOrchestrationStatus.answer, action]
  | scaleInPool =>
   cases drainOrchestration with
   | none =>
    dsimp only [bind_none]
    split_ifs <;> simp_all [clearToRetire_iff, KubernetesPoolOrchestrationStatus.answer]
   | some status =>
    dsimp only [bind_some]
    cases waits : status.phase.scaleInWait with
    | some wait => simp [clearToRetire_iff, KubernetesPoolOrchestrationStatus.answer, scaleInWait_some waits]
    | none =>
     have clear := scaleInWait_none waits
     split_ifs <;> simp_all [clearToRetire_iff, KubernetesPoolOrchestrationStatus.answer]

section

variable (world : ObservedWorldDrainState) (transfer : Option ObservedWorldTransferState)
 (migration : Option WorldMigrationInput)

def orchestrateDrain : WorldDrainOrchestrationStatus :=
 evaluateWorldDrainOrchestration (evaluateWorldDrain world) (transfer.map evaluateWorldTransfer)
  (migration.map WorldMigrationInput.evaluate)

/-- Nothing is left in the world. The sessions are counted in 32 bits, so that nothing is said
about them when there are more. -/
structure HandedOver : Prop where
 sessions : world.sessions < 4294967296 -> world.sessions = 0
 transfer : ∀ handoff ∈ transfer, handoff.Declared -> handoff.Committed
 migration : ∀ input ∈ migration, ∀ envelope ∈ input.envelope, input.Ready envelope

end

theorem handedOver_of_readyToClear {world : ObservedWorldDrainState}
  {transfer : Option ObservedWorldTransferState} {migration : Option WorldMigrationInput}
  (ready : (orchestrateDrain world transfer migration).phase = .readyToClear) :
  HandedOver world transfer migration := by
 obtain ⟨_, drained, committed, resumable⟩ := (evaluateWorldDrainOrchestration_readyToClear _ _ _).mp ready
 constructor
 case sessions =>
  intro small
  exact (u32_of_lt small).symm.trans ((evaluateWorldDrain_drained world).mp drained).2.2
 case transfer =>
  intro handoff member declared
  have phase := committed _ (mem_map_of_mem _ member) ((evaluateWorldTransfer_declared handoff).mpr declared)
  exact ((evaluateWorldTransfer_committed handoff).mp phase).2
 case migration =>
  intro input member envelope given
  have phase := resumable _ (mem_map_of_mem _ member) (by rw [input.evaluate_declared, given]; rfl)
  obtain ⟨_, named, ready⟩ := input.evaluate_ready.mp phase
  cases named.symm.trans given
  exact ready

/-- A workload is retired only if its world is not being drained at all, or has been drained
and handed over. -/
theorem retirement_follows_drain (binding : KubernetesPoolBinding) (observation : KubernetesPoolObservation)
  (lease : TopologyActuationAdapterLeaseAction) (world : ObservedWorldDrainState)
  (transfer : Option ObservedWorldTransferState) (migration : Option WorldMigrationInput)
  (drain : Option WorldDrainOrchestrationStatus)
  (given : drain = none \/ drain = some (orchestrateDrain world transfer migration))
  (retires : let status := evaluateKubernetesPoolOrchestration binding observation (some lease) drain
    status.phase = .retireWorkload \/ status.nextAction = .patchWorkloadRetirement) :
  drain = none \/ ∃ status, drain = some status /\
   (status.phase = .idle /\ world.draining = false \/
     status.phase = .readyToClear /\ HandedOver world transfer migration) := by
 have answers := evaluateKubernetesPoolOrchestration_retires binding observation (some lease) drain
 have clear := retires.elim answers.1.mp answers.2.mp
 refine given.imp_right fun computed => ⟨_, computed, ?_⟩
 obtain idle | ready := clear.waitsForNothing _ computed
 · exact .inl ⟨idle, (idle_iff_not_draining ..).mp idle⟩
 · exact .inr ⟨ready, handedOver_of_readyToClear ready⟩

def samplePool : KubernetesPoolBinding where
 targetReplicas := 1

def threeReplicas : KubernetesPoolObservation where
 currentSpecReplicas := 3
 readyReplicas := 3

def scaleInByTwo : TopologyActuationAdapterLeaseAction where
 action := .scaleInPool
 replicaDelta := 2

theorem pool_is_retired_after_handover :
  let world : ObservedWorldDrainState :=
   { ownerInstanceId := ['b'], draining := true, replacementOwnerInstanceId := ['b']
     instances := [⟨['a'], true, 0⟩, ⟨['b'], true, 0⟩] }
  let handoff : ObservedWorldTransferState :=
   { ownerInstanceId := ['b'], draining := true, replacementOwnerInstanceId := ['b']
     instances := [⟨['a'], true⟩, ⟨['b'], true⟩] }
  let input : WorldMigrationInput :=
   { sourceWorld := { draining := true }
     envelope := some { targetWorldId := ['w'], targetOwnerInstanceId := ['c'] }
     targetWorld := some { worldId := ['w'], instances := [⟨['c'], true⟩] } }
  let status := orchestrateDrain world (some handoff) (some input)
  (evaluateKubernetesPoolOrchestration samplePool threeReplicas (some scaleInByTwo) (some status)).phase =
    .retireWorkload /\
    (some status = none \/ ∃ status', some status = some status' /\ (status'.phase = .idle /\ world.draining = false \/
        status'.phase = .readyToClear /\ HandedOver world (some handoff) (some input))) := by
 intro world handoff input status
 have retires : (evaluateKubernetesPoolOrchestration samplePool threeReplicas (some scaleInByTwo)
  (some status)).phase = .retireWorkload := by decide +kernel
 exact ⟨retires, retirement_follows_drain samplePool threeReplicas scaleInByTwo world (some handoff) (some input)
  (some status) (.inr rfl) (.inl retires)⟩

/-- Without a drain status, with an idle one, and with a number of sessions that is a multiple
of 2³², a pool whose world has sessions is retired. -/
theorem pool_is_retired_with_sessions :
  let retires (drain : Option WorldDrainOrchestrationStatus) : Prop :=
   (evaluateKubernetesPoolOrchestration samplePool threeReplicas (some scaleInByTwo) drain).phase =
     .retireWorkload
  let busy : ObservedWorldDrainState := { instances := [⟨['a'], true, 5⟩] }
  let crowded : ObservedWorldDrainState :=
   { draining := true, instances := [⟨['a'], true, 2147483648⟩, ⟨['b'], true, 2147483648⟩] }
  samplePool.targetReplicas < threeReplicas.currentSpecReplicas /\ retires none /\
   retires (some (orchestrateDrain busy none none)) /\
   (orchestrateDrain busy none none).phase = .idle /\ busy.sessions = 5 /\
   retires (some (orchestrateDrain crowded none none)) /\
   (orchestrateDrain crowded none none).phase = .readyToClear /\ crowded.sessions = 4294967296 := by
 decide +kernel

def collapseDashes (previousDash : Bool) : Text -> Text
 | [] => []
 | ch :: rest =>
  if ch = '-' then if previousDash then collapseDashes true rest else ch :: collapseDashes true rest
  else ch :: collapseDashes false rest

section

variable (value : Text)

def sanitizeKubernetesNameToken : Text :=
 let out := value.map fun ch => if ch.isAlphanum then ch.toLower else '-'
 let collapsed := ((collapseDashes false out).dropWhile (· = '-')).rdropWhile (· = '-')
 if collapsed = [] then "pool".toList else collapsed

def makePoolName (lead world shard : Text) : Text :=
 lead ++ writeEntry '-' (sanitizeKubernetesNameToken world, sanitizeKubernetesNameToken shard)

def makeKubernetesPoolWorkloadName (world shard : Text) (kind : KubernetesWorkloadKind) : Text :=
 makePoolName (match kind with
  | .statefulSet => "world-set-".toList
  | .deployment => "world-deploy-".toList) world shard

def makeAwsPoolServiceName : Text -> Text -> Text := makePoolName "world-svc-".toList

def isLabelEdge (ch : Char) : Bool := ch.isLower || ch.isDigit

def isLabelLetter (ch : Char) : Bool := isLabelEdge ch || ch = '-'

structure IsDnsLabel (name : Text) : Prop where
 letters : name.all isLabelLetter
 first : ∃ ch ∈ name.head?, isLabelEdge ch
 last : ∃ ch ∈ name.getLast?, isLabelEdge ch
 short : name.length ≤ 63

theorem isLabelEdge_toLower {ch : Char} (alphanumeric : ch.isAlphanum) : isLabelEdge ch.toLower := by
 rw [Char.toLower]
 split
 next upper =>
  simp [isLabelEdge, Char.isLower, UInt32.le_iff_toNat_le] at upper ⊢
  omega
 next => grind [isLabelEdge, Char.isAlphanum, Char.isAlpha, Char.isUpper]

theorem collapseDashes_sublist (previousDash : Bool) (text : Text) :
  (collapseDashes previousDash text).Sublist text := by
 fun_induction collapseDashes with grind

theorem sanitizeKubernetesNameToken_spec : (sanitizeKubernetesNameToken value).all isLabelLetter /\
  ∃ ch ∈ (sanitizeKubernetesNameToken value).getLast?, isLabelEdge ch := by
 unfold sanitizeKubernetesNameToken
 extract_lets out collapsed
 have letters : ∀ ch ∈ collapsed, isLabelEdge ch \/ ch = '-' := by
  intro ch member
  have kept : collapsed.Sublist out := (( rdropWhile_prefix _ _).sublist.trans
   (dropWhile_sublist _)).trans (collapseDashes_sublist false out)
  obtain ⟨letter, -, rfl⟩ := mem_map.mp (kept.subset member)
  split
  next alphanumeric => exact .inl (isLabelEdge_toLower alphanumeric)
  · exact .inr rfl
 split
 · exact ⟨rfl, 'l', rfl, rfl⟩
 next filled =>
  refine ⟨by simpa [isLabelLetter] using letters, _, getLast?_eq_getLast_of_ne_nil filled, ?_⟩
  refine (letters _ (getLast_mem filled)).resolve_right fun dash => ?_
  exact rdropWhile_last_not _ _ filled (decide_eq_true dash)

-- The runs of letters and digits of a text, in lower case.
def nameWords : List Text :=
 ((value.map fun ch => if ch.isAlphanum then ch.toLower else '-').splitOn '-').filter (· ≠ [])

def tokenWords : List Text := if nameWords value = [] then ["pool".toList] else nameWords value

def poolWords (world shard : Text) : List Text := tokenWords world ++ tokenWords shard

def joinWords (words : List Text) : Text := ['-'].intercalate words

theorem joinWords_cons (first : Text) (words : List Text) :
  joinWords (first :: words) = first ++ if words = [] then [] else '-' :: joinWords words := by
 cases words <;> simp [joinWords]

theorem rdropWhile_dash_cons (ch : Char) (text : Text) : (ch :: text).rdropWhile (· = '-') =
  if ch = '-' /\ text.rdropWhile (· = '-') = [] then [] else ch :: text.rdropWhile (· = '-') := by
 simp only [rdropWhile, reverse_cons, dropWhile_append]
 by_cases dashes : dropWhile (· = '-') text.reverse = [] <;> by_cases dash : ch = '-' <;> simp [dashes, dash]

theorem joinWords_filter_eq_nil (pieces : List Text) :
  joinWords (pieces.filter (· ≠ [])) = [] ↔ pieces.filter (· ≠ []) = [] := by
 have filled : ∀ word ∈ pieces.filter (· ≠ []), word ≠ [] := by simp
 generalize pieces.filter (· ≠ []) = words at filled
 cases words with
 | nil => simp [joinWords]
 | cons first rest => simp [joinWords_cons, filled first mem_cons_self]

-- By induction on the text, after a dash and after another letter.
theorem rdropWhile_collapseDashes {text head : Text} {rest : List Text} (split : text.splitOn '-' = head :: rest) :
  (collapseDashes false text).rdropWhile (· = '-') =
    head ++ (if rest.filter (· ≠ []) = [] then [] else '-' :: joinWords (rest.filter (· ≠ []))) /\
  (collapseDashes true text).rdropWhile (· = '-') = joinWords ((head :: rest).filter (· ≠ [])) := by
 induction text generalizing head rest with
 | nil =>
  obtain ⟨rfl, rfl⟩ : [] = head /\ [] = rest := by simpa using split
  simp [collapseDashes, joinWords]
 | cons ch text ih =>
  obtain ⟨first, others, pieces⟩ := exists_cons_of_ne_nil (splitOn_ne_nil '-' text)
  obtain ⟨afterLetter, afterDash⟩ := ih pieces
  rw [splitOn_eq_splitOnP, splitOnP_cons_eq_if_modifyHead, <- splitOn_eq_splitOnP, pieces] at split
  by_cases dash : ch = '-'
  · obtain ⟨rfl, rfl⟩ : [] = head /\ first :: others = rest := by simpa [dash] using split
    simp only [collapseDashes, dash, if_true, Bool.false_eq_true, if_false, rdropWhile_dash_cons, afterDash,
     joinWords_filter_eq_nil, true_and, nil_append]
    simp
  · obtain ⟨rfl, rfl⟩ : ch :: first = head /\ others = rest := by simpa [dash] using split
    simp [collapseDashes, dash, rdropWhile_dash_cons, afterLetter, joinWords_cons]

theorem dropWhile_collapseDashes (text : Text) :
  (collapseDashes false text).dropWhile (· = '-') = collapseDashes true text := by
 have led (text : Text) : (collapseDashes true text).dropWhile (· = '-') = collapseDashes true text := by
  induction text with
  | nil => rfl
  | cons ch text ih => by_cases dash : ch = '-' <;> simp [collapseDashes, dash, ih]
 cases text with
 | nil => rfl
 | cons ch text => by_cases dash : ch = '-' <;> simp [collapseDashes, dash, led]

theorem sanitizeKubernetesNameToken_eq :
  sanitizeKubernetesNameToken value = joinWords (tokenWords value) := by
 unfold sanitizeKubernetesNameToken tokenWords nameWords
 extract_lets out collapsed
 obtain ⟨first, others, pieces⟩ := exists_cons_of_ne_nil (splitOn_ne_nil '-' out)
 have joined : collapsed = joinWords ((out.splitOn '-').filter (· ≠ [])) := by
  rw [pieces, <- (rdropWhile_collapseDashes pieces).2, <- dropWhile_collapseDashes]
 simp only [joined, joinWords_filter_eq_nil, apply_ite joinWords]
 rfl

theorem tokenWords_spec : tokenWords value ≠ [] /\ ∀ word ∈ tokenWords value, '-' ∉ word := by
 unfold tokenWords
 split
 · decide
 next some_words =>
  exact ⟨some_words, fun word member => notMem_of_mem_splitOn (mem_filter.mp member).1⟩

end

theorem makePoolName_eq (lead world shard : Text) :
  makePoolName lead world shard = lead ++ joinWords (poolWords world shard) := by
 rw [makePoolName, sanitizeKubernetesNameToken_eq, sanitizeKubernetesNameToken_eq, writeEntry, poolWords]
 have filled := (tokenWords_spec shard).1
 have named := (tokenWords_spec world).1
 generalize tokenWords shard = last at filled
 generalize tokenWords world = words at named
 congr 1
 induction words with
 | nil => exact absurd rfl named
 | cons first rest ih =>
  rw [joinWords_cons, cons_append, joinWords_cons]
  cases rest with
  | nil => simp [filled]
  | cons second others => simpa using ih (by simp)

theorem joinWords_poolWords_inj {world shard other part : Text} :
  joinWords (poolWords world shard) = joinWords (poolWords other part) ↔
   poolWords world shard = poolWords other part := by
 refine ⟨fun same => ?_, congrArg joinWords⟩
 have read (world shard : Text) : (joinWords (poolWords world shard)).splitOn '-' = poolWords world shard := by
  refine splitOn_intercalate '-' (fun word member => ?_) (by simp [poolWords, (tokenWords_spec world).1])
  exact (mem_append.mp member).elim ((tokenWords_spec world).2 word) ((tokenWords_spec shard).2 word)
 rw [<- read world shard, same, read]

theorem length_joinWords {words : List Text} (filled : words ≠ []) :
  (joinWords words).length + 1 = (words.map length).sum + words.length := by
 induction words with
 | nil => exact absurd rfl filled
 | cons first rest ih =>
  rw [joinWords_cons]
  cases rest with
  | nil => simp
  | cons second others =>
   have later := ih (by simp)
   simp only [reduceCtorEq, if_false, length_append, length_cons, map_cons, sum_cons] at later ⊢
   omega

theorem isDnsLabel_makePoolName (world shard : Text) {lead : Text}
  (listed : lead ∈ ["world-set-".toList, "world-deploy-".toList, "world-svc-".toList]) :
  IsDnsLabel (makePoolName lead world shard) ↔
   lead.length + ((poolWords world shard).map length).sum + (poolWords world shard).length ≤ 64 := by
 have length : (makePoolName lead world shard).length + 1 =
   lead.length + ((poolWords world shard).map length).sum + (poolWords world shard).length := by
  rw [makePoolName_eq, length_append, Nat.add_assoc,
   length_joinWords (by simp [poolWords, (tokenWords_spec world).1])]
  omega
 refine ⟨fun label => by have := label.short; omega, fun short => ?_⟩
 have leads : lead.all isLabelLetter /\ lead.head? = some 'w' := by
  clear length short
  revert lead
  decide
 obtain ⟨shardLetters, last, trailing, lastEdge⟩ := sanitizeKubernetesNameToken_spec shard
 refine ⟨?_, ⟨'w', mem_head?_append_of_mem_head? leads.2, rfl⟩, ⟨last, ?_, lastEdge⟩, by omega⟩
 · have worldLetters := (sanitizeKubernetesNameToken_spec world).1
   simp only [makePoolName, writeEntry, all_append, all_cons, leads.1, worldLetters, shardLetters]
   rfl
 · rw [makePoolName, writeEntry, append_cons, <- append_assoc]
   exact mem_getLast?_append_of_mem_getLast? trailing

/-- The names are labels that tell a pool from another: just when the words of the two parts are short enough,
and are not the words of the other pool, read through. -/
theorem pool_names_identify_pools (world shard other part : Text) :
  ((∀ kind, IsDnsLabel (makeKubernetesPoolWorkloadName world shard kind) /\ ((world, shard) ≠ (other, part) ->
      makeKubernetesPoolWorkloadName world shard kind ≠ makeKubernetesPoolWorkloadName other part kind)) /\
    IsDnsLabel (makeAwsPoolServiceName world shard) /\
    ((world, shard) ≠ (other, part) -> makeAwsPoolServiceName world shard ≠ makeAwsPoolServiceName other part)) ↔
  ((poolWords world shard).map length).sum + (poolWords world shard).length ≤ 51 /\
   ((world, shard) ≠ (other, part) -> poolWords world shard ≠ poolWords other part) := by
 have apart (lead : Text) : makePoolName lead world shard ≠ makePoolName lead other part ↔
   poolWords world shard ≠ poolWords other part := by
  rw [ne_eq, makePoolName_eq, makePoolName_eq, append_cancel_left_eq, joinWords_poolWords_inj]
 constructor
 · rintro ⟨named, -, service⟩
   have short := (isDnsLabel_makePoolName world shard (by decide)).mp (named .deployment).1
   refine ⟨?_, fun different => (apart _).mp (service different)⟩
   simp only [show "world-deploy-".toList.length = 13 from rfl] at short
   omega
 · rintro ⟨short, different⟩
   have short' {lead : Text} (listed : lead ∈ ["world-set-".toList, "world-deploy-".toList, "world-svc-".toList]) :
     IsDnsLabel (makePoolName lead world shard) := by
    have small : lead.length ≤ 13 := by
     revert lead
     decide
    exact (isDnsLabel_makePoolName world shard listed).mpr (by omega)
   refine ⟨fun kind => ⟨short' (by cases kind <;> decide), fun pools => (apart _).mpr (different pools)⟩,
    short' (by decide), fun pools => (apart _).mpr (different pools)⟩

theorem dash_merges_pool_names :
  (∀ kind, makeKubernetesPoolWorkloadName "a-b".toList ['c'] kind =
    makeKubernetesPoolWorkloadName ['a'] "b-c".toList kind) /\
    makeAwsPoolServiceName "a-b".toList ['c'] = makeAwsPoolServiceName ['a'] "b-c".toList /\
    ¬ IsDnsLabel (makeAwsPoolServiceName (List.replicate 60 'a') ['s']) := by
 refine ⟨fun kind => by cases kind <;> decide, by decide, fun label => ?_⟩
 exact absurd label.short (by decide)

end Dynaxis.Worlds
