import Dynaxis.Admin.DesiredTopology
import Mathlib.Data.List.TakeDrop

namespace Dynaxis.Admin

open Shared List

structure ExtRolloutStrategy where
 type : Text := "all_at_once".toList
 waves : List Nat := [100]
 rollbackOnFailure : Bool := false
 deriving DecidableEq

def parseWave : Json -> Except String Nat
 | .integer value =>
  -- a large number is cut to a word before it is looked at
  if value < 0 \/ u32 value.toNat = 0 \/ 100 < u32 value.toNat then
   .error "rollout_strategy.waves must contain values 1..100"
  else .ok (u32 value.toNat)
 | _ => .error "rollout_strategy.waves must be numeric"

def isSorted : List Nat -> Bool
 | first :: second :: rest => first ≤ second && isSorted (second :: rest)
 | _ => true

def adjacentFind : List Nat -> Bool
 | first :: second :: rest => first = second || adjacentFind (second :: rest)
 | _ => false

section

variable (strategy : List (Text × Json))

def listedWaves : Except String (List Nat) :=
 match member "waves" strategy with
 | some (.array items) => items.mapM parseWave
 | _ => .ok []

def checkWaves (listed : List Nat) : Except String (List Nat) :=
 let waves := if listed = [] then [5, 25, 100] else listed
 if !isSorted waves then .error "rollout_strategy.waves must be ascending"
 else if adjacentFind waves then .error "rollout_strategy.waves must be strictly increasing"
 else if waves.getLast? ≠ some 100 then .error "rollout_strategy.waves last value must be 100"
 else .ok waves

def parseRolloutType : Except String Text :=
 match member "type" strategy with
 | none => .ok "all_at_once".toList
 | some (.string value) => .ok (Text.toLower (Text.trim value))
 | some _ => .error "rollout_strategy.type must be a string"

def parseRollbackOnFailure : Except String Bool :=
 match member "rollback_on_failure" strategy with
 | none => .ok false
 | some (.boolean value) => .ok value
 | some _ => .error "rollout_strategy.rollback_on_failure must be a boolean"

end

def parseRolloutStrategyJson (root : List (Text × Json)) : Except String ExtRolloutStrategy :=
 match member "rollout_strategy" root with
 | none | some .null => .ok {}
 | some (.object strategy) => do
  let type <- parseRolloutType strategy
  let rollbackOnFailure <- parseRollbackOnFailure strategy
  if type = "all_at_once".toList then pure { type, rollbackOnFailure }
  else if type ≠ "canary_wave".toList then
   .error "rollout_strategy.type must be all_at_once or canary_wave"
  else do
   let waves <- checkWaves (<- listedWaves strategy)
   pure { type, waves, rollbackOnFailure }
 | some _ => .error "rollout_strategy must be an object"

structure ExtPrecheckIssue where
 code : String
 message : String

inductive ExtDeploymentStatus
 | pending
 | precheckPassed
 | executing
 | completed
 | failed
 | cancelled
 deriving DecidableEq

structure WaveMessage where
 rollback : Bool
 waveIndex : Nat
 wavePercent : Nat
 serverIds : List Text
 published : Bool

structure Rollout where
 waveIndex : Nat := 0
 appliedCount : Nat := 0
 appliedIds : List Text := []
 failure : Option ExtPrecheckIssue := none
 messages : List WaveMessage := []

def waveTargetEnd (total percent : Nat) : Nat := (total * percent + 99) / 100

namespace Rollout

variable (forceFailWaveIndex : Nat) (targets : List Text)

def rollWave (rollout : Rollout) (percent : Nat) (published : Bool) : Rollout :=
 let boundedEnd := min (max rollout.appliedCount (waveTargetEnd targets.length percent)) targets.length
 let next := { rollout with waveIndex := rollout.waveIndex + 1 }
 if boundedEnd ≤ rollout.appliedCount then next
 else if 0 < forceFailWaveIndex /\ rollout.waveIndex + 1 = forceFailWaveIndex then
  { next with
    failure := some ⟨"wave_forced_failure", "forced failure at wave " ++ toString (rollout.waveIndex + 1) ++
     " by ADMIN_EXT_FORCE_FAIL_WAVE_INDEX"⟩ }
 else
  let serverIds := (targets.drop rollout.appliedCount).take (boundedEnd - rollout.appliedCount)
  let message : WaveMessage := ⟨false, rollout.waveIndex, percent, serverIds, published⟩
  let next := { next with messages := rollout.messages ++ [message] }
  if published then { next with appliedIds := rollout.appliedIds ++ serverIds, appliedCount := boundedEnd }
  else
   { next with
     failure := some ⟨"wave_publish_failed", "failed to publish deployment wave " ++ toString (rollout.waveIndex + 1)⟩ }

def rollWaves (publish : Nat -> Bool) : Rollout -> List Nat -> Rollout
 | rollout, [] => rollout
 | rollout, percent :: rest =>
  let next := rollout.rollWave forceFailWaveIndex targets percent (publish rollout.waveIndex)
  if next.failure.isSome then next else rollWaves publish next rest

def status (rollout : Rollout) : ExtDeploymentStatus := if rollout.failure.isSome then .failed else .completed

def rollbackMessages (rollout : Rollout) (rollbackOnFailure published : Bool) : List WaveMessage :=
 if rollout.failure.isSome && rollbackOnFailure && !rollout.appliedIds.isEmpty then
  [⟨true, 0, 100, rollout.appliedIds, published⟩]
 else []

end Rollout

def sortTargets (live : List Text) : List Text := live.insertionSort (· ≤ ·)

variable {waves : List Nat} {targets : List Text} {messages : List WaveMessage} {percent : Nat}

theorem pairwise_of_sorted (sorted : isSorted waves = true) (distinct : adjacentFind waves = false) :
  waves.Pairwise (· < ·) := by
 induction waves with
 | nil => exact .nil
 | cons first rest ih =>
  cases rest with
  | nil => exact pairwise_singleton _ _
  | cons second rest =>
   simp only [isSorted, adjacentFind, Bool.and_eq_true, Bool.or_eq_false_iff, decide_eq_true_eq,
    decide_eq_false_iff_not] at sorted distinct
   have tail := ih sorted.2 distinct.2
   refine pairwise_cons.mpr ⟨fun wave member => ?_, tail⟩
   obtain rfl | later := mem_cons.mp member
   · omega
   · have above := (pairwise_cons.mp tail).1 wave later
     omega

theorem checkWaves_ok {listed : List Nat} (accepted : checkWaves listed = .ok waves) :
  waves.Pairwise (· < ·) /\ waves.getLast? = some 100 := by
 simp only [checkWaves] at accepted
 generalize (if listed = [] then [5, 25, 100] else listed) = given at accepted
 split at accepted
 · cases accepted
 split at accepted
 · cases accepted
 split at accepted
 · cases accepted
 next sorted distinct last =>
  cases accepted
  exact ⟨pairwise_of_sorted (by simpa using sorted) (by simpa using distinct), by simpa using last⟩

theorem accepted_waves {root : List (Text × Json)} {rollout : ExtRolloutStrategy}
  (accepted : parseRolloutStrategyJson root = .ok rollout) :
  rollout.waves.Pairwise (· < ·) /\ rollout.waves.getLast? = some 100 := by
 unfold parseRolloutStrategyJson at accepted
 split at accepted
 · cases accepted
   simp
 · cases accepted
   simp
 · obtain ⟨type, -, typed⟩ := except_bind_ok accepted
   obtain ⟨rollback, -, chosen⟩ := except_bind_ok typed
   split at chosen
   · cases chosen
     simp
   split at chosen
   · cases chosen
   obtain ⟨listed, -, checked⟩ := except_bind_ok chosen
   obtain ⟨waves, checks, made⟩ := except_bind_ok checked
   cases made
   exact checkWaves_ok checks
 · cases accepted

def Addresses (targets : List Text) (messages : List WaveMessage) : Prop :=
 ∀ before message after, messages = before ++ message :: after ->
  (before ++ [message]).flatMap (·.serverIds) = targets.take (waveTargetEnd targets.length message.wavePercent)

theorem Addresses.append (addresses : Addresses targets messages)
  (last : WaveMessage) (added : (messages ++ [last]).flatMap (·.serverIds) =
    targets.take (waveTargetEnd targets.length last.wavePercent)) : Addresses targets (messages ++ [last]) := by
 intro before message after split
 obtain rfl | ⟨rest, final, rfl⟩ := eq_nil_or_concat after
 · obtain ⟨rfl, same⟩ := append_inj' split rfl
   cases same
   exact added
 · refine addresses before message rest ?_
   rw [concat_eq_append, <- cons_append, <- append_assoc] at split
   exact (append_inj' split rfl).1

theorem Addresses.segments (addresses : Addresses targets messages) :
  messages.flatMap (·.serverIds) <+: targets := by
 obtain rfl | ⟨front, last, rfl⟩ := eq_nil_or_concat messages
 · exact nil_prefix
 · rw [concat_eq_append, addresses front last [] (concat_eq_append ..)]
   exact take_prefix ..

def WaveMessage.sent (messages : List WaveMessage) : List Text :=
 (messages.filter (·.published)).flatMap (·.serverIds)

structure Rollout.Exact (targets : List Text) (percent : Nat) (rollout : Rollout) : Prop where
 count : rollout.appliedCount = waveTargetEnd targets.length percent
 ids : rollout.appliedIds = targets.take rollout.appliedCount
 sent : WaveMessage.sent rollout.messages = rollout.appliedIds
 addresses : Addresses targets rollout.messages
 whole : rollout.failure = none -> ∀ message ∈ rollout.messages, message.published = true

theorem waveTargetEnd_mono (total : Nat) {last : Nat} (above : last ≤ percent) :
  waveTargetEnd total last ≤ waveTargetEnd total percent :=
 Nat.div_le_div_right (Nat.add_le_add_right (Nat.mul_le_mul_left total above) 99)

theorem waveTargetEnd_le (total : Nat) (within : percent ≤ 100) : waveTargetEnd total percent ≤ total := by
 have most := waveTargetEnd_mono total within
 have all : waveTargetEnd total 100 = total := by
  unfold waveTargetEnd
  omega
 omega

namespace Rollout

variable (forceFailWaveIndex : Nat) {rollout : Rollout} {last : Nat}

theorem Exact.rollWave {percent : Nat} (exact : Exact targets last rollout)
  (above : last ≤ percent) (within : percent ≤ 100) (unfailed : rollout.failure = none) (published : Bool) :
  let next := rollout.rollWave forceFailWaveIndex targets percent published
  (next.failure = none /\ Exact targets percent next) \/
    (next.failure.isSome /\ Exact targets last next /\ next.appliedCount < targets.length) := by
 have least := waveTargetEnd_mono targets.length above
 have most := waveTargetEnd_le targets.length within
 have bounded : min (max rollout.appliedCount (waveTargetEnd targets.length percent)) targets.length =
  waveTargetEnd targets.length percent := by rw [exact.count]; omega
 simp only [Rollout.rollWave, bounded]
 split
 next skipped =>
  have same : waveTargetEnd targets.length percent = rollout.appliedCount := by rw [exact.count] at skipped ⊢; omega
  exact .inl ⟨unfailed, same.symm, exact.ids, exact.sent, exact.addresses, exact.whole⟩
 next more =>
  have fewer : rollout.appliedCount < targets.length := by omega
  split
  · exact .inr ⟨rfl, ⟨exact.count, exact.ids, exact.sent, exact.addresses, nofun⟩, fewer⟩
  · have segment : rollout.appliedIds ++ (targets.drop rollout.appliedCount).take
      (waveTargetEnd targets.length percent - rollout.appliedCount) =
      targets.take (waveTargetEnd targets.length percent) := by
     rw [exact.ids, <- take_add]
     congr 1
     omega
    have all : rollout.messages.flatMap (·.serverIds) = rollout.appliedIds := by
     rw [<- exact.sent, WaveMessage.sent, filter_eq_self.mpr (by simpa using exact.whole unfailed)]
    have addresses := exact.addresses.append
     ⟨false, rollout.waveIndex, percent, (targets.drop rollout.appliedCount).take
       (waveTargetEnd targets.length percent - rollout.appliedCount), published⟩ (by simpa [all] using segment)
    cases published with
    | true =>
     refine .inl ⟨unfailed, rfl, segment, ?_, addresses, fun _ message member => ?_⟩
     · simpa [WaveMessage.sent] using exact.sent
     · obtain earlier | rfl := by simpa using member
       · exact exact.whole unfailed message earlier
       · rfl
    | false =>
     refine .inr ⟨rfl, ⟨exact.count, exact.ids, ?_, addresses, nofun⟩, fewer⟩
     simpa [WaveMessage.sent] using exact.sent

theorem Exact.rollWaves {waves : List Nat} (publish : Nat -> Bool)
  (exact : Exact targets last rollout) (unfailed : rollout.failure = none)
  (ascending : (last :: waves).Pairwise (· ≤ ·))
  (within : ∀ percent ∈ waves, percent ≤ 100) :
  let final := rollWaves forceFailWaveIndex targets publish rollout waves
  (final.failure = none /\ Exact targets (waves.getLast?.getD last) final) \/
    (final.failure.isSome /\ ∃ percent, Exact targets percent final /\ final.appliedCount < targets.length) := by
 induction waves generalizing rollout last with
 | nil => exact .inl ⟨unfailed, exact⟩
 | cons percent rest ih =>
  have above : last ≤ percent := (pairwise_cons.mp ascending).1 percent mem_cons_self
  have round := exact.rollWave forceFailWaveIndex above (within percent mem_cons_self) unfailed
   (publish rollout.waveIndex)
  simp only [rollWaves]
  obtain ⟨goes, next⟩ | ⟨fails, next, fewer⟩ := round
  · rw [if_neg (by simp [goes])]
    have later := ih next goes (pairwise_cons.mp ascending).2
     fun other member => within other (mem_cons_of_mem _ member)
    simpa [getLast?_cons] using later
  · rw [if_pos fails]
    exact .inr ⟨fails, last, next, fewer⟩

end Rollout

/-- The messages address one segment of the sorted targets after the other, each up to the exact percentage
of its wave, and a rollback addresses those that were published. -/
theorem canary_rollout_is_exact (live : List Text) (distinct : live.Nodup) (root : List (Text × Json))
  (strategy : ExtRolloutStrategy) (accepted : parseRolloutStrategyJson root = .ok strategy)
   (forceFailWaveIndex : Nat)
  (publish : Nat -> Bool) (rollbackPublished : Bool) :
  let targets := sortTargets live
  let final := Rollout.rollWaves forceFailWaveIndex targets publish {} strategy.waves
  (targets.Perm live /\ targets.Pairwise (· < ·)) /\
    (final.messages.flatMap (·.serverIds) <+: targets /\ Addresses targets final.messages) /\
    (final.status = .completed ↔ WaveMessage.sent final.messages = targets) /\
    (final.status ≠ .completed -> strategy.rollbackOnFailure = true -> WaveMessage.sent final.messages ≠ [] ->
      final.rollbackMessages strategy.rollbackOnFailure rollbackPublished =
       [⟨true, 0, 100, WaveMessage.sent final.messages, rollbackPublished⟩]) := by
 intro targets final
 obtain ⟨ascending, last⟩ := accepted_waves accepted
 have within : ∀ percent ∈ strategy.waves, percent ≤ 100 := by
  obtain ⟨front, waves⟩ := getLast?_eq_some_iff.mp last
  rw [waves] at ascending ⊢
  intro percent member
  obtain earlier | rfl := by simpa using member
  · exact ((pairwise_append.mp ascending).2.2 percent earlier 100 mem_cons_self).le
  · exact Nat.le_refl _
 have start : Rollout.Exact targets 0 {} := ⟨by simp [waveTargetEnd], rfl, rfl, by simp [Addresses], by simp⟩
 have rolled := start.rollWaves forceFailWaveIndex publish rfl
  (pairwise_cons.mpr ⟨fun _ _ => Nat.zero_le _, ascending.imp Nat.le_of_lt⟩) within
 change (final.failure = none /\ Rollout.Exact targets _ final) \/
  (final.failure.isSome /\ ∃ percent, Rollout.Exact targets percent final /\ final.appliedCount < targets.length) at rolled
 have exact : ∃ percent, Rollout.Exact targets percent final := by
  obtain ⟨-, exact⟩ | ⟨-, percent, exact, -⟩ := rolled
  · exact ⟨_, exact⟩
  · exact ⟨percent, exact⟩
 obtain ⟨_, -, ids, sent, addresses, -⟩ := exact
 have sorted : targets.Pairwise (· < ·) := by
  have unique : targets.Nodup := (perm_insertionSort (· ≤ ·) live).nodup_iff.mpr distinct
  exact ((pairwise_insertionSort (· ≤ ·) live).and unique).imp fun order => lt_of_le_of_ne order.1 order.2
 refine ⟨⟨perm_insertionSort .., sorted⟩, ⟨addresses.segments, addresses⟩, ?_, fun fails rollback applied => ?_⟩
 · rw [sent, ids, take_eq_self_iff]
   obtain ⟨goes, exact⟩ | ⟨fails, -, -, fewer⟩ := rolled
   · have all : final.appliedCount = targets.length := by
      rw [exact.count, last]
      simp [waveTargetEnd]
      omega
     simp [Rollout.status, goes, all]
   · simp [Rollout.status, fails, fewer]
 · rw [sent] at applied ⊢
   have failure : final.failure.isSome = true := by
    by_contra none
    exact fails (if_neg none)
   simp [Rollout.rollbackMessages, failure, rollback, applied]

def threeWaves : List (Text × Json) :=
 [("rollout_strategy".toList, .object [("type".toList, .string "canary_wave".toList),
   ("waves".toList, .array [.integer 34, .integer 60, .integer 100]), ("rollback_on_failure".toList, .boolean true)])]

theorem failed_wave_is_rolled_back :
  ∃ strategy, parseRolloutStrategyJson threeWaves = .ok strategy /\
   let final := Rollout.rollWaves 0 (sortTargets [['b'], ['c'], ['a']]) (· = 0) {} strategy.waves
   final.messages.map (·.serverIds) = [[['a'], ['b']], [['c']]] /\
    final.rollbackMessages strategy.rollbackOnFailure true = [⟨true, 0, 100, [['a'], ['b']], true⟩] :=
 ⟨⟨"canary_wave".toList, [34, 60, 100], true⟩, by decide +kernel, by decide +kernel,
   (canary_rollout_is_exact [['b'], ['c'], ['a']] (by decide) threeWaves ⟨"canary_wave".toList, [34, 60, 100], true⟩
     (by decide +kernel) 0 (· = 0) true).2.2.2 (by decide +kernel) rfl (by decide +kernel)⟩

end Dynaxis.Admin
