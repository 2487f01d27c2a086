import Dynaxis.WriteBehind.Durability
import Mathlib.Data.List.Nodup

namespace Dynaxis.WriteBehind

open Shared List Flushing Worker

structure FlushRecord where
 world : World
 deadLettered : List String := []
 committed : List String := []
deriving DecidableEq

def Flushing.deadLetters : Flushing -> Action -> List String
 | .dlqSend failed _ _, .xadd true => [failed.id]
 | _, _ => []

def Flushing.commits : Flushing -> Action -> List String
 | .entries { todo := [], tx, .. }, .commit outcome => if outcome.applied then tx.map SessionEventRow.eventId else []
 | _, _ => []

def flushMachine (config : WorkerConfig) : Machine FlushRecord Action where
 step record action :=
  match record.world.worker.phase with
  | .flushing resume flush =>
   (stepFlush config record.world resume flush action).map fun world =>
     { world
       deadLettered := record.deadLettered ++ flush.deadLetters action
       committed := record.committed ++ flush.commits action }
  | _ => none

theorem flushMachine_cases {config : WorkerConfig} {record next : FlushRecord} {action : Action}
  (taken : (flushMachine config).step record action = some next) :
  ∃ resume flush, record.world.worker.phase = .flushing resume flush /\
   FlushStep config record.world resume flush action next.world /\
   next.deadLettered = record.deadLettered ++ flush.deadLetters action /\
   next.committed = record.committed ++ flush.commits action := by
 simp only [flushMachine] at taken
 split at taken
 next resume flush here =>
  obtain ⟨world, stepped, rfl⟩ := Option.map_eq_some_iff.mp taken
  exact ⟨resume, flush, here, stepFlush_cases stepped, rfl, rfl⟩
 · cases taken

def Flushing.held (batch : List String) : Flushing -> List String
 | .begin _ => batch
 | .entries attempt | .ackFailed _ attempt => attempt.tx.map SessionEventRow.eventId ++ attempt.todo.map StreamEntry.id
 | .dlqSend failed _ attempt =>
  failed.id :: (attempt.tx.map SessionEventRow.eventId ++ attempt.todo.map StreamEntry.id)
 | .ackCommitted _ => []

def Phase.held (batch : List String) : Phase -> List String
 | .flushing _ flush => flush.held batch
 | _ => []

def Phase.attempting : Phase -> Bool
 | .flushing _ (.ackCommitted _) => false
 | .flushing _ _ => true
 | _ => false

section

variable (worker : Worker) (resume : Resume) (ids batch : List String)

structure FlushRecord.Balanced (record : FlushRecord) : Prop where
 accounted : ∀ id, record.deadLettered.count id + record.committed.count id +
  (record.world.worker.phase.held batch).count id ≤ batch.count id
 attempting : record.world.worker.phase.attempting = true ->
  record.committed = [] /\ record.world.worker.buf.map StreamEntry.id = batch

def Flushing.attemptFails : Flushing -> Action -> Option (Nat × Bool)
 | .begin number, .begin .notReady | .begin number, .begin .brokenConnection => some (number, false)
 | .entries attempt, .entry .brokenConnection => some (attempt.number, false)
 | .entries attempt, .commit (.brokenConnection applied)
 | .entries attempt, .commit (.exception applied) => some (attempt.number, applied)
 | _, _ => none

def Phase.attemptFails : Phase -> Action -> Option (Nat × Bool)
 | .flushing _ flush, action => flush.attemptFails action
 | _, _ => none

abbrev RetriedUntouched (config : WorkerConfig) (record : FlushRecord) (action : Action) : Prop :=
 ∀ failure ∈ record.world.worker.phase.attemptFails action,
  failure.1 < config.retryMax -> record.deadLettered = [] /\ failure.2 = false

theorem Resume.phase_closed : resume.phase.held batch = [] /\ resume.phase.attempting = false := by
 cases resume <;> exact ⟨rfl, rfl⟩

theorem Worker.ackCommitted_closed :
  (worker.ackCommitted resume ids).phase.held batch = [] /\
    (worker.ackCommitted resume ids).phase.attempting = false := by
 cases ids with
 | nil => exact resume.phase_closed batch
 | cons => exact ⟨rfl, rfl⟩

end

section Balance

variable {config : WorkerConfig} {batch : List String} {record next : FlushRecord} {resume : Resume}
  {flush : Flushing}

theorem FlushRecord.Balanced.fail {number : Nat} {applied : Bool} {world : World} {commits : List String}
  (accounted : ∀ id, record.deadLettered.count id + record.committed.count id +
    (flush.held batch).count id ≤ batch.count id)
  (attempting : record.committed = [] /\ world.worker.buf.map StreamEntry.id = batch)
  (untouched : number < config.retryMax -> record.deadLettered = [] /\ applied = false)
  (unapplied : applied = false -> commits = []) (held : ∀ id, commits.count id ≤ (flush.held batch).count id) :
  FlushRecord.Balanced batch
   { world := world.failAttempt config resume number
     deadLettered := record.deadLettered ++ []
     committed := record.committed ++ commits } := by
 obtain ⟨uncommitted, buffered⟩ := attempting
 by_cases retried : number < config.retryMax
 · obtain ⟨noLetters, notApplied⟩ := untouched retried
   have noCommits := unapplied notApplied
   constructor
   · simp [noLetters, noCommits, uncommitted, World.failAttempt, failAttempt, retried, goto, Phase.held, Flushing.held]
   · simp [noCommits, uncommitted, World.failAttempt, failAttempt, retried, goto, buffered]
 · obtain ⟨noneHeld, closed⟩ := resume.phase_closed batch
   constructor
   · intro id
     have := accounted id
     have := held id
     simp [World.failAttempt, failAttempt, retried, endFlush, noneHeld, uncommitted] at this ⊢
     omega
   · simp [World.failAttempt, failAttempt, retried, endFlush, closed]

theorem FlushRecord.Balanced.of_attempt (here : next.world.worker.phase = .flushing resume flush)
  (buffered : next.world.worker.buf.map StreamEntry.id = batch) (uncommitted : next.committed = [])
  (accounted : ∀ id, next.deadLettered.count id + (flush.held batch).count id ≤ batch.count id) :
  next.Balanced batch where
 accounted := by simpa [here, uncommitted, Phase.held] using accounted
 attempting := fun _ => ⟨uncommitted, buffered⟩

theorem FlushRecord.Balanced.of_closed
  (closed : next.world.worker.phase.held batch = [] /\ next.world.worker.phase.attempting = false)
  (settled : ∀ id, next.deadLettered.count id + next.committed.count id ≤ batch.count id) :
  next.Balanced batch where
 accounted := by simpa [closed.1] using settled
 attempting := by simp [closed.2]

variable (config batch)

theorem afterDlq_held (failed : StreamEntry) (attempt : Attempt) (sent : Bool) :
  (afterDlq config failed attempt sent).held batch = (entries attempt).held batch := by
 unfold afterDlq
 split <;> rfl

theorem entryFailed_held_le (failed : StreamEntry) (what : String) (attempt : Attempt) (id : String) :
  ((entryFailed config failed what attempt).held batch).count id ≤
    ((dlqSend failed what attempt).held batch).count id := by
 unfold entryFailed
 split
 · exact Nat.le_refl _
 · rw [afterDlq_held]
   exact count_le_count_cons

variable {config batch}

theorem flushMachine_balanced {action : Action} (balanced : record.Balanced batch)
  (untouched : RetriedUntouched config record action)
  (taken : (flushMachine config).step record action = some next) : next.Balanced batch := by
 obtain ⟨resume, flush, here, stepped, letters, commits⟩ := flushMachine_cases taken
 obtain ⟨accounted, attempting⟩ := balanced
 obtain ⟨world, deadLettered, committed⟩ := next
 dsimp only at stepped letters commits
 subst letters commits
 simp only [RetriedUntouched, here, Phase.attemptFails] at untouched
 simp only [here, Phase.held] at accounted attempting
 cases stepped with
 | ready number | ackedFailed e attempt ok =>
  obtain ⟨uncommitted, buffered⟩ := attempting rfl
  refine .of_attempt rfl buffered (by simp [uncommitted, commits]) fun id => ?_
  have := accounted id
  simp_all [deadLetters, held]
 | notReady number | lost number =>
  exact .fail accounted (attempting rfl) (untouched _ rfl) (fun _ => rfl) fun _ => Nat.zero_le _
 | stored number e todo ackIds tx =>
  -- the entry moves from the work left to the transaction
  obtain ⟨uncommitted, buffered⟩ := attempting rfl
  refine .of_attempt rfl buffered (by simp [uncommitted, commits]) fun id => ?_
  have := accounted id
  simp [deadLetters, held, processEntry, count_cons] at this ⊢
  omega
 | brokenEntry number e todo ackIds tx =>
  exact .fail accounted (attempting rfl) (untouched _ rfl) (fun _ => rfl) fun _ => Nat.zero_le _
 | failed number e todo ackIds tx what =>
  obtain ⟨uncommitted, buffered⟩ := attempting rfl
  refine .of_attempt rfl buffered (by simp [uncommitted, commits]) fun id => ?_
  have := accounted id
  have := entryFailed_held_le config batch e what { number, todo, ackIds, tx } id
  simp [deadLetters, held, count_cons] at *
  omega
 | deadLettered e what attempt ok =>
  -- the entry moves from the attempt to the DLQ, or nowhere if the append was lost
  obtain ⟨uncommitted, buffered⟩ := attempting rfl
  refine .of_attempt rfl buffered (by simp [uncommitted, commits]) fun id => ?_
  have := accounted id
  rw [afterDlq_held]
  cases ok <;> simp [deadLetters, held, count_cons] at this ⊢ <;> omega
 | committed number ackIds tx =>
  obtain ⟨uncommitted, -⟩ := attempting rfl
  refine .of_closed (record.world.worker.ackCommitted_closed resume ackIds batch) fun id => ?_
  have := accounted id
  simp_all [deadLetters, commits, CommitOutcome.applied, held]
 | brokenCommit number ackIds tx applied | failedCommit number ackIds tx applied =>
  refine .fail accounted (attempting rfl) (untouched _ rfl) ?_ ?_
  all_goals cases applied <;> simp [commits, CommitOutcome.applied, held]
 | ackedCommitted id ids ok =>
  refine .of_closed (record.world.worker.ackCommitted_closed resume ids batch) fun id => ?_
  have := accounted id
  simp_all [deadLetters, commits, held]

end Balance

/-- A call settles each entry at most once: in the DLQ or in a transaction that took effect. -/
theorem flush_settles_entries_once {config : WorkerConfig} {world : World} {resume : Resume} {trace : List Action}
  {final : FlushRecord} (start : world.worker.phase = .flushing resume (.begin 0))
  (untouched : (flushMachine config).Guarded (RetriedUntouched config) { world } trace)
  (ran : (flushMachine config).run { world } trace = some final) :
  (∀ id, final.deadLettered.count id + final.committed.count id ≤ (world.worker.buf.map StreamEntry.id).count id) /\
  ((world.worker.buf.map StreamEntry.id).Nodup ->
    final.deadLettered.Nodup /\ ∀ id ∈ final.deadLettered, id ∉ final.committed) := by
 have initial : FlushRecord.Balanced (world.worker.buf.map StreamEntry.id) { world } :=
  .of_attempt start rfl rfl fun id => by simp [held]
 have balanced := (flushMachine config).run_invariant
  (fun record action next held allowed taken => flushMachine_balanced held allowed taken) initial untouched ran
 have bound : ∀ id, final.deadLettered.count id + final.committed.count id ≤
   (world.worker.buf.map StreamEntry.id).count id := fun id => by
  have := balanced.accounted id
  omega
 refine ⟨bound, fun distinct => ⟨?_, fun id lettered committed => ?_⟩⟩
 · refine nodup_iff_count_le_one.mpr fun id => ?_
   have := bound id
   have := nodup_iff_count_le_one.mp distinct id
   omega
 · have := bound id
   have := nodup_iff_count_le_one.mp distinct id
   have := count_pos_iff.mpr lettered
   have := count_pos_iff.mpr committed
   omega

def joinEntry : StreamEntry := ⟨"1-0", [("type", "room_join"), ("ts_ms", "7")]⟩

def leaveEntry : StreamEntry := ⟨"2-0", [("type", "room_leave"), ("ts_ms", "9")]⟩

def flushingWorld : World :=
 { stores := { stream := [joinEntry, leaveEntry], delivered := 2, pending := ["1-0", "2-0"] }
   worker :=
    { dbOpen := true, buf := [joinEntry, leaveEntry], phase := .flushing .loop (.begin 0) } }

theorem flush_settles_two_entries :
  ∃ final, (flushMachine {}).run { world := flushingWorld }
   [.begin .notReady, .begin .ready, .entry (.exception "bad json"), .xadd true, .xack true, .entry .stored,
     .commit .committed, .xack true] = some final /\
   final.deadLettered = ["1-0"] /\ final.committed = ["2-0"] /\ ∀ id ∈ final.deadLettered, id ∉ final.committed := by
 obtain ⟨final, ran, lettered, committed⟩ : ∃ final, (flushMachine {}).run { world := flushingWorld }
   [.begin .notReady, .begin .ready, .entry (.exception "bad json"), .xadd true, .xack true, .entry .stored,
     .commit .committed, .xack true] = some final /\
   final.deadLettered = ["1-0"] /\ final.committed = ["2-0"] :=
  Machine.exists_final _ (by decide +kernel)
 have start : flushingWorld.worker.phase = .flushing .loop (.begin 0) := rfl
 have once := flush_settles_entries_once start (by decide +kernel) ran
 exact ⟨final, ran, lettered, committed, (once.2 (by decide)).2⟩

/-- An attempt that dead-lettered an entry and then fails at its commit is retried with that
entry, which the next attempt stores. -/
theorem flush_settles_entry_twice :
  ¬ ∀ (config : WorkerConfig) (world : World) (resume : Resume) (trace : List Action) (final : FlushRecord),
   config.dlqOnError = true -> world.worker.phase = .flushing resume (.begin 0) ->
   (∀ ok, .xadd ok ∈ trace \/ .xack ok ∈ trace -> ok = true) ->
   (flushMachine config).run { world } trace = some final ->
   (world.worker.buf.map StreamEntry.id).Nodup ->
   final.deadLettered.Nodup /\ ∀ id ∈ final.deadLettered, id ∉ final.committed := by
 intro claim
 obtain ⟨final, ran, lettered, committed⟩ : ∃ final, (flushMachine {}).run { world := flushingWorld }
   [.begin .ready, .entry (.exception "bad json"), .xadd true, .xack true, .entry .stored,
     .commit (.exception false), .begin .ready, .entry .stored, .entry .stored, .commit .committed] =
     some final /\ final.deadLettered = ["1-0"] /\ final.committed = ["1-0", "2-0"] :=
  Machine.exists_final _ (by decide +kernel)
 have once := (claim {} flushingWorld .loop _ final rfl rfl (by simp) ran (by decide)).2 "1-0"
 simp [lettered, committed] at once

end Dynaxis.WriteBehind
