import Dynaxis.WriteBehind.Worker

namespace Dynaxis.WriteBehind

open Shared List SessionEventRow

def DlqAppendsSucceed (_ : World) : Action -> Prop
 | .xadd ok => ok = true
 | _ => True

theorem mem_eventIds_insertRow (rows : List SessionEventRow) (row : SessionEventRow) (id : String) :
  id ∈ (insertRow rows row).map eventId ↔ id ∈ rows.map eventId \/ id = row.eventId := by
 by_cases present : row.eventId ∈ rows.map eventId
 · simp only [insertRow, present, if_true]
   constructor
   · exact .inl
   · rintro (member | rfl)
     · exact member
     · exact present
 · simp [insertRow, present]

theorem mem_eventIds_commit (tx rows : List SessionEventRow) (id : String) :
  id ∈ (tx.foldl insertRow rows).map eventId ↔ id ∈ rows.map eventId \/ id ∈ tx.map eventId := by
 induction tx generalizing rows with
 | nil => simp
 | cons row rest ih => rw [foldl_cons, ih, mem_eventIds_insertRow, map_cons, mem_cons, or_assoc]

variable (stores : Stores)

theorem Stores.kept_commit (tx : List SessionEventRow) (id : String) :
  (stores.commit tx).Kept id ↔ stores.Kept id \/ id ∈ tx.map eventId := by
 simp only [Kept, commit, mem_eventIds_commit]
 tauto

theorem Stores.kept_xack (id other : String) (ok : Bool) : (stores.xack id ok).Kept other ↔ stores.Kept other := by
 cases ok <;> rfl

theorem Stores.kept_sendToDlq (e : StreamEntry) (what : String) (id : String)
  (kept : stores.Kept id \/ id = e.id) : (sendToDlq stores e what true).1.Kept id := by
 rcases kept with (row | letter) | rfl
 · exact .inl row
 · exact .inr (by simp only [sendToDlq, xadd, if_true, map_append]; simp [letter])
 · exact .inr (by simp [sendToDlq, xadd, dlqFields])

-- Nothing but an acknowledged id has to be kept, and the group never owes an entry the stream lost.
structure Stores.Safe (stores : Stores) : Prop where
 acked : ∀ id ∈ stores.acked, stores.Kept id
 listed : ∀ id ∈ stores.pending, id ∈ stores.stream.map StreamEntry.id

variable {stores later : Stores} {ids : List String} {flush : Flushing} {phase : Phase}
 {config : WorkerConfig} {world next : World} {action : Action} (safe : stores.Safe)
include safe

theorem Stores.Safe.xack {id : String} (kept : stores.Kept id) (ok : Bool) : (stores.xack id ok).Safe := by
 cases ok with
 | false => exact safe
 | true =>
  constructor
  · intro other member
    rcases mem_cons.mp member with rfl | earlier
    · exact kept
    · exact safe.acked other earlier
  · intro other member
    exact safe.listed other (mem_of_mem_erase member)

theorem Stores.Safe.commit (tx : List SessionEventRow) : (stores.commit tx).Safe :=
 ⟨fun id member => (stores.kept_commit tx id).mpr (.inl (safe.acked id member)), safe.listed⟩

theorem Stores.Safe.sendToDlq (e : StreamEntry) (what : String) : (sendToDlq stores e what true).1.Safe :=
 ⟨fun id member => stores.kept_sendToDlq e what id (.inl (safe.acked id member)), safe.listed⟩

theorem Stores.Safe.deliver {entries : List StreamEntry}
  (listed : ∀ e ∈ entries, e ∈ stores.stream) : (stores.deliver entries).Safe := by
 refine ⟨safe.acked, fun id member => ?_⟩
 rcases mem_append.mp member with old | new
 · exact safe.listed id old
 · obtain ⟨e, delivered, rfl⟩ := mem_map.mp new
   exact mem_map_of_mem (listed e delivered)

theorem Stores.Safe.publish (entry : StreamEntry) :
  Stores.Safe { stores with stream := stores.stream ++ [entry] } := by
 refine ⟨safe.acked, fun id member => ?_⟩
 rw [map_append]
 exact mem_append_left _ (safe.listed id member)

theorem Stores.Safe.claim_deleted (owed : ids ⊆ stores.pending) : (stores.claim ids).2 = [] := by
 apply filter_eq_nil_iff.mpr
 intro id member
 simpa using safe.listed id (owed member)

omit safe

def Attempt.Covered (attempt : Attempt) : Prop :=
 ∀ id ∈ attempt.ackIds, id ∈ attempt.tx.map eventId

def Flushing.Safe (stores : Stores) : Flushing -> Prop
 | .begin _ => True
 | .entries attempt | .dlqSend _ _ attempt => attempt.Covered
 | .ackFailed failed attempt => stores.Kept failed.id /\ attempt.Covered
 | .ackCommitted ids => ∀ id ∈ ids, stores.Kept id

def Phase.Safe (stores : Stores) : Phase -> Prop
 | .ackDeleted ids _ => ids = []
 | .flushing _ flush => flush.Safe stores
 | _ => True

theorem Flushing.Safe.mono (grows : ∀ id, stores.Kept id -> later.Kept id)
  (safe : flush.Safe stores) : flush.Safe later := by
 cases flush with
 | begin | entries | dlqSend => exact safe
 | ackFailed => exact ⟨grows _ safe.1, safe.2⟩
 | ackCommitted => exact fun id member => grows id (safe id member)

theorem Phase.Safe.mono (grows : ∀ id, stores.Kept id -> later.Kept id)
  (safe : phase.Safe stores) : phase.Safe later := by
 cases phase with
 | flushing => exact Flushing.Safe.mono grows safe
 | connect | reclaim | ackDeleted | read | buffering | timedFlush => exact safe

structure World.Safe (world : World) : Prop where
 stores : world.stores.Safe
 phase : world.worker.phase.Safe world.stores

variable (resume : Resume)

theorem Resume.phase_safe (stores : Stores) : resume.phase.Safe stores := by cases resume <;> trivial

variable (worker : Worker)

theorem Worker.endFlush_safe (stores : Stores) : (worker.endFlush resume).phase.Safe stores := resume.phase_safe stores

theorem Worker.failAttempt_safe (config : WorkerConfig) (worker : Worker) (resume : Resume)
  (number : Nat) (stores : Stores) : (worker.failAttempt config resume number).phase.Safe stores := by
 by_cases again : number < config.retryMax
 · simp only [failAttempt, again, if_true]
   trivial
 · simp only [failAttempt, again, if_false]
   exact worker.endFlush_safe resume stores

theorem Worker.flush_safe (stores : Stores) : (worker.flush resume).phase.Safe stores := by
 by_cases empty : worker.buf = []
 · simp only [flush, empty, if_true]
   exact worker.endFlush_safe resume stores
 · simp only [flush, empty, if_false]
   trivial

theorem Worker.buffer_safe (config : WorkerConfig) (worker : Worker) (origin : Origin)
  (e : StreamEntry) (rest : List StreamEntry) (stores : Stores) :
  (worker.buffer config origin e rest).phase.Safe stores := by
 simp only [buffer]
 split
 · exact Worker.flush_safe _ _ _
 · trivial

theorem Worker.ackCommitted_safe (kept : ∀ id ∈ ids, stores.Kept id) :
  (worker.ackCommitted resume ids).phase.Safe stores := by
 cases ids with
 | nil => exact worker.endFlush_safe resume stores
 | cons id rest => exact kept

theorem entryFailed_safe (strict : config.ackOnError = false)
  (failed : StreamEntry) (what : String) {attempt : Attempt} (covered : attempt.Covered)
  (stores : Stores) : (entryFailed config failed what attempt).Safe stores := by
 unfold entryFailed
 split
 · exact covered
 · simp only [afterDlq, strict, Bool.or_false, Bool.false_eq_true, if_false]
   exact covered

theorem Attempt.Covered.stored {number : Nat} {e : StreamEntry} {todo rest : List StreamEntry}
  {ackIds : List String} {tx : List SessionEventRow}
  (covered : Attempt.Covered { number, todo := rest, ackIds, tx }) :
  Attempt.Covered { number, todo, ackIds := ackIds ++ [e.id], tx := tx ++ [processEntry e] } := by
 intro id member
 rw [map_append]
 rcases mem_append.mp member with earlier | added
 · exact mem_append_left _ (covered id earlier)
 · obtain rfl := mem_singleton.mp added
   exact mem_append_right _ mem_cons_self

variable (strict : config.ackOnError = false)
include strict

theorem stepFlush_safe {resume : Resume} (stores : world.stores.Safe)
  (phase : flush.Safe world.stores) (allowed : DlqAppendsSucceed world action)
  (taken : stepFlush config world resume flush action = some next) : next.Safe := by
 cases stepFlush_cases taken with
 | ready => exact ⟨stores, fun id member => absurd member not_mem_nil⟩
 | notReady | lost | brokenEntry => exact ⟨stores, Worker.failAttempt_safe _ _ _ _ _⟩
 | stored => exact ⟨stores, Attempt.Covered.stored phase⟩
 | failed number e todo ackIds tx what =>
  have covered : Attempt.Covered { number, todo, ackIds, tx } := phase
  exact ⟨stores, entryFailed_safe strict e what covered _⟩
 | deadLettered failed what attempt ok =>
  obtain rfl : ok = true := allowed
  exact ⟨stores.sendToDlq failed what, world.stores.kept_sendToDlq failed what _ (.inr rfl), phase⟩
 | ackedFailed failed attempt ok => exact ⟨stores.xack phase.1 ok, phase.2⟩
 | committed number ackIds tx =>
  refine ⟨stores.commit tx, Worker.ackCommitted_safe _ _ fun id member => ?_⟩
  exact (world.stores.kept_commit tx id).mpr (.inr (phase id member))
 | brokenCommit number ackIds tx applied | failedCommit number ackIds tx applied =>
  refine ⟨?_, Worker.failAttempt_safe _ _ _ _ _⟩
  -- a commit whose answer was lost may have been applied
  cases applied with
  | false => exact stores
  | true => exact stores.commit tx
 | ackedCommitted id ids ok =>
  refine ⟨stores.xack (phase id mem_cons_self) ok, Worker.ackCommitted_safe _ _ fun other member => ?_⟩
  exact (world.stores.kept_xack id other ok).mpr (phase other (mem_cons_of_mem _ member))

theorem stepLoop_safe (stores : world.stores.Safe) (here : phase.Safe world.stores)
  (allowed : DlqAppendsSucceed world action)
  (taken : stepLoop config world phase action = some next) : next.Safe := by
 unfold stepLoop at taken
 split at taken
 case h_1 ok =>
  cases taken
  cases ok <;> exact ⟨stores, trivial⟩
 case h_2 due answer =>
  split at taken
  next _ =>
   cases answer with
   | none =>
    cases taken
    exact ⟨stores, trivial⟩
   | some ids =>
    simp only [Option.ite_none_right_eq_some, Option.some.injEq] at taken
    obtain ⟨⟨owed, -⟩, rfl⟩ := taken
    exact ⟨stores, stores.claim_deleted owed⟩
  next _ =>
   cases taken
   exact ⟨stores, trivial⟩
 case h_3 id ids claimed ok => exact absurd here (cons_ne_nil id ids)
 case h_6 count =>
  simp only [Option.ite_none_right_eq_some, Option.some.injEq] at taken
  obtain ⟨-, rfl⟩ := taken
  exact ⟨stores.deliver fun e member => mem_of_mem_drop (mem_of_mem_take member), trivial⟩
 case h_7 origin e rest =>
  cases taken
  exact ⟨stores, Worker.buffer_safe _ _ _ _ _ _⟩
 case h_10 due =>
  split at taken <;> cases taken
  · exact ⟨stores, Worker.flush_safe _ _ _⟩
  · exact ⟨stores, trivial⟩
 case h_11 resume flush => exact stepFlush_safe strict stores here allowed taken
 case h_12 => cases taken
 all_goals
  cases taken
  exact ⟨stores, trivial⟩

theorem step_safe (world : World)
  (action : Action) (next : World) (safe : world.Safe) (allowed : DlqAppendsSucceed world action)
  (taken : (machine config).step world action = some next) : next.Safe := by
 change step config world action = some next at taken
 unfold step at taken
 split at taken
 case h_1 entry =>
  simp only [Option.ite_none_left_eq_some, Option.some.injEq] at taken
  obtain ⟨-, rfl⟩ := taken
  exact ⟨safe.stores.publish entry, safe.phase.mono fun id kept => kept⟩
 case h_2 =>
  cases taken
  exact ⟨safe.stores, trivial⟩
 case h_3 => exact stepLoop_safe strict safe.stores safe.phase allowed taken

omit strict

-- The only answer of Redis that matters here is the one `SendToDlq` drops.
theorem acked_entries_are_kept (config : WorkerConfig) (strict : config.ackOnError = false)
  (trace : List Action) (final : World) (allowed : (machine config).Guarded DlqAppendsSucceed {} trace)
  (ran : (machine config).run {} trace = some final) : ∀ id ∈ final.stores.acked, final.stores.Kept id := by
 have initial : World.Safe {} := ⟨⟨by simp, by simp⟩, trivial⟩
 exact ((machine config).run_invariant (step_safe strict) initial allowed ran).stores.acked

def failingEntry : StreamEntry := { id := "1-0", fields := [("type", "room_join")] }

-- One event is read, its insert fails, and Redis answers the append to the DLQ stream with `xaddOk`.
def failingEntryTrace (xaddOk : Bool) : List Action :=
 [.publish failingEntry, .connect true, .reclaim false none, .read (some 1), .buffer, .buffer,
   .timedFlush true, .begin .ready, .entry (.exception "bad row"), .xadd xaddOk, .xack true]

theorem dead_lettered_entry_is_kept :
  ∃ final, (machine { ackOnError := false }).run {} (failingEntryTrace true) = some final /\
   "1-0" ∈ final.stores.acked /\ final.stores.Kept "1-0" := by
 have allowed : (machine { ackOnError := false }).Guarded DlqAppendsSucceed {} (failingEntryTrace true) := by
  apply Machine.guarded_of_forall
  simp [failingEntryTrace, DlqAppendsSucceed]
 refine ⟨_, rfl, by decide, ?_⟩
 exact acked_entries_are_kept { ackOnError := false } rfl (failingEntryTrace true) _ allowed rfl "1-0" (by decide)

theorem acked_entry_may_be_lost :
  ¬ ∀ (config : WorkerConfig) (trace : List Action) (final : World),
   config.ackOnError = false -> config.dlqOnError = true ->
    (machine config).run {} trace = some final -> ∀ id ∈ final.stores.acked, final.stores.Kept id := by
 intro claim
 have lost : ∃ final, (machine { ackOnError := false }).run {} (failingEntryTrace false) = some final /\
  "1-0" ∈ final.stores.acked /\ ¬ final.stores.Kept "1-0" := ⟨_, rfl, by decide, by decide⟩
 obtain ⟨final, ran, acked, missing⟩ := lost
 exact missing (claim _ _ final rfl rfl ran "1-0" acked)

end Dynaxis.WriteBehind
