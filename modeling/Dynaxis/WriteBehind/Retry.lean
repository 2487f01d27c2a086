import Dynaxis.WriteBehind.Flush

namespace Dynaxis.WriteBehind

open Shared List Option SessionEventRow Worker

def Phase.isFlushing : Phase -> Bool
 | .flushing _ _ => true
 | _ => false

def Action.breaksConnection : Action -> Bool
 | .begin .brokenConnection | .entry .brokenConnection | .commit (.brokenConnection _) => true
 | _ => false

def NoFurtherError (record : FlushRecord) : Action -> Prop
 | .begin .notReady => record.world.worker.dbOpen = false
 | .begin .brokenConnection => False
 | .entry outcome => outcome = .stored
 | .commit outcome => outcome = .committed
 | .xadd ok | .xack ok => ok = true
 | _ => True

instance (record : FlushRecord) : (action : Action) -> Decidable (NoFurtherError record action)
 | .begin .notReady => inferInstanceAs (Decidable (_ = false))
 | .begin .brokenConnection => inferInstanceAs (Decidable False)
 | .entry outcome => inferInstanceAs (Decidable (outcome = .stored))
 | .commit outcome => inferInstanceAs (Decidable (outcome = .committed))
 | .xadd ok | .xack ok => inferInstanceAs (Decidable (ok = true))
 | .begin .ready | .publish _ | .crash | .connect _ | .reclaim _ _ | .read _ | .buffer | .timedFlush _ =>
  inferInstanceAs (Decidable True)

/-- A later attempt commits the batch and acknowledges its entries: the call can end when
nothing fails anymore, and however it then ends it has done so. -/
def RetryCommits (config : WorkerConfig) (batch : List StreamEntry) (record : FlushRecord) : Prop :=
 (∃ trace final, (flushMachine config).Guarded NoFurtherError record trace /\
   (flushMachine config).run record trace = some final /\ final.world.worker.phase.isFlushing = false) /\
 ∀ trace final, (flushMachine config).Guarded NoFurtherError record trace ->
  (flushMachine config).run record trace = some final -> final.world.worker.phase.isFlushing = false ->
  final.committed = record.committed ++ batch.map StreamEntry.id /\
  ∀ id ∈ batch.map StreamEntry.id,
   id ∈ final.world.stores.rows.map eventId /\ id ∈ final.world.stores.acked

-- From a broken connection to the end of the call: no connection object, and no attempt begun.
structure FlushRecord.CutOff (origin record : FlushRecord) : Prop where
 dbOpen : record.world.worker.dbOpen = false
 waiting : ∀ resume flush, record.world.worker.phase = .flushing resume flush -> ∃ number, flush = .begin number
 stores : record.world.stores = origin.world.stores
 committed : record.committed = origin.committed

section

variable {config : WorkerConfig} {origin record next : FlushRecord} {action : Action}

theorem Worker.failAttempt_waiting {worker : Worker} {resume other : Resume} {number : Nat} {flush : Flushing}
  (here : (worker.failAttempt config resume number).phase = .flushing other flush) :
  ∃ number, flush = .begin number := by
 unfold failAttempt at here
 split at here
 next =>
  cases here
  exact ⟨number + 1, rfl⟩
 next => cases resume <;> simp [endFlush, Resume.phase] at here

theorem Worker.failAttempt_dbOpen (worker : Worker) (resume : Resume) (number : Nat) :
  (worker.failAttempt config resume number).dbOpen = worker.dbOpen := by
 unfold failAttempt
 split <;> rfl

theorem flushMachine_cutOff (broken : action.breaksConnection = true)
  (taken : (flushMachine config).step record action = some next) : next.CutOff next := by
 obtain ⟨resume, flush, -, stepped, -, -⟩ := flushMachine_cases taken
 obtain ⟨world, deadLettered, committed⟩ := next
 cases stepped with
 | lost | brokenEntry | brokenCommit =>
  exact ⟨failAttempt_dbOpen _ _ _, fun _ _ => failAttempt_waiting, rfl, rfl⟩
 | ready | notReady | stored | failed | deadLettered | ackedFailed | committed | failedCommit | ackedCommitted =>
  cases broken

theorem FlushRecord.CutOff.step (cut : origin.CutOff record)
  (taken : (flushMachine config).step record action = some next) : origin.CutOff next := by
 obtain ⟨resume, flush, here, stepped, -, commits⟩ := flushMachine_cases taken
 obtain ⟨number, rfl⟩ := cut.waiting resume flush here
 obtain ⟨world, deadLettered, committed⟩ := next
 have unchanged : committed = origin.committed := by simpa [Flushing.commits, cut.committed] using commits
 cases stepped with
 | ready _ connected => exact absurd (cut.dbOpen.symm.trans connected) Bool.noConfusion
 | notReady =>
  exact ⟨(failAttempt_dbOpen _ _ _).trans cut.dbOpen, fun _ _ => failAttempt_waiting, cut.stores, unchanged⟩
 | lost => exact ⟨failAttempt_dbOpen _ _ _, fun _ _ => failAttempt_waiting, cut.stores, unchanged⟩

end

/-- After `pqxx::broken_connection` no later attempt of the call commits or acknowledges anything:
`EnsureDbConnection` is not called before the call returns. -/
theorem retry_commits_nothing {config : WorkerConfig} {world : World} {failing : List Action}
  {last : Action} {failed : FlushRecord} (batched : world.worker.buf ≠ [])
  (ran : (flushMachine config).run { world } (failing ++ [last]) = some failed)
  (broken : last.breaksConnection = true) :
  (∀ trace final, (flushMachine config).run failed trace = some final ->
    final.committed = failed.committed /\ final.world.stores = failed.world.stores) /\
  ¬ RetryCommits config world.worker.buf failed := by
 have still : ∀ trace final, (flushMachine config).run failed trace = some final -> failed.CutOff final := by
  intro trace final later
  rw [Machine.run_append] at ran
  obtain ⟨record, -, taken⟩ := bind_eq_some_iff.mp ran
  obtain ⟨next, stepped, same⟩ := (flushMachine config).run_cons_some.mp taken
  cases same
  exact (flushMachine config).run_keeps (fun _ _ _ cut taken => cut.step taken)
   (flushMachine_cutOff broken stepped) later
 refine ⟨fun trace final later => ⟨(still trace final later).committed, (still trace final later).stores⟩, ?_⟩
 rintro ⟨⟨trace, final, allowed, later, ended⟩, commits⟩
 have whole := (commits trace final allowed later ended).1
 rw [(still trace final later).committed] at whole
 simp [batched] at whole

theorem retry_after_broken_entry_commits_nothing :
  ∃ failed, (flushMachine {}).run { world := flushingWorld }
   [.begin .ready, .entry .stored, .entry .brokenConnection] = some failed /\
   failed.world.worker.phase = .flushing .loop (.begin 1) /\ ¬ RetryCommits {} [joinEntry, leaveEntry] failed := by
 obtain ⟨failed, ran, retry⟩ : ∃ failed, (flushMachine {}).run { world := flushingWorld }
   ([.begin .ready, .entry .stored] ++ [.entry .brokenConnection]) = some failed /\
   failed.world.worker.phase = .flushing .loop (.begin 1) :=
  Machine.exists_final _ (by decide +kernel)
 have batched : flushingWorld.worker.buf ≠ [] := by decide
 exact ⟨failed, ran, retry, (retry_commits_nothing batched ran rfl).2⟩

theorem retry_after_broken_connection_gives_up :
  ¬ ∀ (config : WorkerConfig) (world : World) (resume : Resume) (failing : List Action)
   (last : Action) (failed : FlushRecord) (k : Nat),
   world.worker.phase = .flushing resume (.begin 0) -> world.worker.dbOpen = true -> 1 ≤ config.retryMax ->
   (flushMachine config).run { world } (failing ++ [last]) = some failed -> last.breaksConnection = true ->
   failed.world.worker.phase = .flushing resume (.begin (k + 1)) -> RetryCommits config world.worker.buf failed := by
 intro claim
 have commits := claim { retryMax := 1 } flushingWorld .loop [.begin .ready]
  (.entry .brokenConnection) _ 0 rfl rfl (by decide) rfl rfl rfl
 -- `EnsureDbConnection` is not called before the call returns
 obtain ⟨none_committed, -⟩ := commits.2 [.begin .notReady] _ (by decide +kernel) rfl rfl
 exact absurd none_committed (by decide)

end Dynaxis.WriteBehind
