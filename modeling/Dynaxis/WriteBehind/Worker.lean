import Dynaxis.Shared.Machine
import Mathlib.Data.List.Basic

/-! `WbWorker` of `tools/wb_worker/main.cpp` as a machine over the source stream with its consumer group, the
DLQ stream and the committed rows. One action is one Redis or database call, with the answer it gets, so a
crash may fall between any two calls. -/

namespace Dynaxis.WriteBehind

structure WorkerConfig where
 dlqStream : String := "session_events_dlq"
 batchMaxEvents : Nat := 100
 batchMaxBytes : Nat := 512 * 1024
 dlqOnError : Bool := true
 ackOnError : Bool := true
 reclaimEnabled : Bool := true
 reclaimCount : Nat := 200
 retryMax : Nat := 5

structure StreamEntry where
 id : String
 fields : List (String × String)
deriving DecidableEq

structure SessionEventRow where
 eventId : String
 type : String
 tsMs : Int
 userId : String
 sessionId : String
 roomId : String
 payload : List (String × String)
deriving DecidableEq

def isHex (c : Char) : Bool :=
 ('0' ≤ c && c ≤ '9') || ('a' ≤ c && c ≤ 'f') || ('A' ≤ c && c ≤ 'F')

def isUuid (s : String) : Bool :=
 s.utf8ByteSize == 36 &&
  (s.toList.zipIdx.all fun (c, i) => if i ∈ [8, 13, 18, 23] then c == '-' else isHex c)

def estimateEntryBytes (e : StreamEntry) : Nat :=
 e.fields.foldl (fun est f => est + (f.1.utf8ByteSize + f.2.utf8ByteSize + 4)) e.id.utf8ByteSize

def isSpace (c : Char) : Bool :=
 c == ' ' || ('\t' ≤ c && c ≤ '\r')

def leadingDigits (cs : List Char) : Option Nat :=
 match cs.takeWhile Char.isDigit with
 | [] => none
 | digits => some (digits.foldl (fun n c => 10 * n + (c.toNat - '0'.toNat)) 0)

-- `std::stoll` skips blanks, takes a sign and digits, ignores the rest, and throws otherwise.
def stoll (s : String) : Option Int :=
 let value : Option Int :=
  match s.toList.dropWhile isSpace with
  | '-' :: cs => (leadingDigits cs).map fun n => -(n : Int)
  | '+' :: cs => (leadingDigits cs).map fun n => (n : Int)
  | cs => (leadingDigits cs).map fun n => (n : Int)
 value.filter fun n => -9223372036854775808 ≤ n && n ≤ 9223372036854775807

-- A JSON object keeps its keys sorted and unique.
def jsonAssign (key value : String) : List (String × String) -> List (String × String)
 | [] => [(key, value)]
 | (k, v) :: rest =>
     if key = k then (key, value) :: rest
     else if key < k then (key, value) :: (k, v) :: rest
     else (k, v) :: jsonAssign key value rest

def fieldValue (fields : List (String × String)) (name : String) : Option String :=
 fields.foldl (fun found f => if f.1 = name then some f.2 else found) none

def normalizeUuid (value : Option String) : String :=
 match value with
 | some s => if isUuid s then s else ""
 | none => ""

def processEntry (e : StreamEntry) : SessionEventRow :=
 { eventId := e.id
   type := (fieldValue e.fields "type").getD "unknown"
   tsMs := (stoll ((fieldValue e.fields "ts_ms").getD "0")).getD 0
   userId := normalizeUuid (fieldValue e.fields "user_id")
   sessionId := normalizeUuid (fieldValue e.fields "session_id")
   roomId := normalizeUuid (fieldValue e.fields "room_id")
   payload := e.fields.foldl (fun j f => jsonAssign f.1 f.2 j) [] }

structure Stores where
 stream : List StreamEntry := []
 -- how many entries of the stream the group has handed out
 delivered : Nat := 0
 pending : List String := []
 -- the ids on which an XACK took effect
 acked : List String := []
 dlq : List (List (String × String)) := []
 rows : List SessionEventRow := []
deriving DecidableEq

def Stores.xadd (stores : Stores) (fields : List (String × String)) (ok : Bool) : Stores × Bool :=
 if ok then ({ stores with dlq := stores.dlq ++ [fields] }, true) else (stores, false)

section

variable (stores : Stores) (e : StreamEntry) (errorMsg : String)

def Stores.xack (id : String) (ok : Bool) : Stores :=
 if ok then { stores with pending := stores.pending.erase id, acked := id :: stores.acked } else stores

def Stores.deliver (entries : List StreamEntry) : Stores :=
 { stores with
   delivered := stores.delivered + entries.length
   pending := stores.pending ++ entries.map StreamEntry.id }

-- The statement ends with `on conflict (event_id) do nothing`.
def insertRow (rows : List SessionEventRow) (row : SessionEventRow) : List SessionEventRow :=
 if row.eventId ∈ rows.map SessionEventRow.eventId then rows else rows ++ [row]

def Stores.commit (tx : List SessionEventRow) : Stores :=
 { stores with rows := tx.foldl insertRow stores.rows }

def dlqFields : List (String × String) :=
 ("orig_event_id", e.id) :: e.fields ++ [("error", errorMsg)]

def sendToDlq (xaddOk : Bool) : Stores × Bool :=
 ((stores.xadd (dlqFields e errorMsg) xaddOk).1, true)

end

structure Attempt where
 number : Nat
 todo : List StreamEntry
 ackIds : List String := []
 tx : List SessionEventRow := []
deriving DecidableEq

inductive Flushing where
 | begin (number : Nat)
 | entries (attempt : Attempt)
 | dlqSend (failed : StreamEntry) (what : String) (attempt : Attempt)
 | ackFailed (failed : StreamEntry) (attempt : Attempt)
 | ackCommitted (ids : List String)
deriving DecidableEq

inductive Origin where
 | reclaimed
 | fresh
deriving DecidableEq

inductive Resume where
 | buffering (origin : Origin) (rest : List StreamEntry)
 | loop
deriving DecidableEq

inductive Phase where
 | connect
 | reclaim
 | ackDeleted (ids : List String) (claimed : List StreamEntry)
 | read
 | buffering (origin : Origin) (rest : List StreamEntry)
 | timedFlush
 | flushing (resume : Resume) (flush : Flushing)
deriving DecidableEq

structure Worker where
 dbOpen : Bool := false
 buf : List StreamEntry := []
 bufBytes : Nat := 0
 phase : Phase := .connect
deriving DecidableEq

structure World where
 stores : Stores := {}
 worker : Worker := {}
deriving DecidableEq

inductive BeginOutcome where
 | ready
 | notReady
 | brokenConnection
deriving DecidableEq

inductive EntryOutcome where
 | stored
 | brokenConnection
 | exception (what : String)
deriving DecidableEq

inductive CommitOutcome where
 | committed
 | brokenConnection (applied : Bool)
 | exception (applied : Bool)
deriving DecidableEq

def CommitOutcome.applied : CommitOutcome -> Bool
 | .committed => true
 | .brokenConnection applied | .exception applied => applied

inductive Action where
 | publish (entry : StreamEntry)
 | crash
 | connect (ok : Bool)
 | reclaim (due : Bool) (answer : Option (List String))
 | read (answer : Option Nat)
 | buffer
 | timedFlush (due : Bool)
 | begin (outcome : BeginOutcome)
 | entry (outcome : EntryOutcome)
 | xadd (ok : Bool)
 | xack (ok : Bool)
 | commit (outcome : CommitOutcome)
deriving DecidableEq

def Worker.goto (worker : Worker) (phase : Phase) : Worker := { worker with phase }

def Resume.phase : Resume -> Phase
 | .buffering origin rest => .buffering origin rest
 | .loop => .connect

def Worker.endFlush (worker : Worker) (resume : Resume) : Worker :=
 { worker with buf := [], bufBytes := 0, phase := resume.phase }

variable (config : WorkerConfig)

section

variable (worker : Worker) (resume : Resume)

def Worker.failAttempt (number : Nat) : Worker :=
 if number < config.retryMax then worker.goto (.flushing resume (.begin (number + 1)))
 else worker.endFlush resume

def Worker.ackCommitted (worker : Worker) (resume : Resume) : List String -> Worker
 | [] => worker.endFlush resume
 | ids => worker.goto (.flushing resume (.ackCommitted ids))

def Worker.flush : Worker :=
 if worker.buf = [] then worker.endFlush resume else worker.goto (.flushing resume (.begin 0))

def Worker.buffer (origin : Origin) (e : StreamEntry) (rest : List StreamEntry) : Worker :=
 let next := { worker with buf := worker.buf ++ [e], bufBytes := worker.bufBytes + estimateEntryBytes e }
 if config.batchMaxEvents ≤ next.buf.length \/ config.batchMaxBytes ≤ next.bufBytes then
  next.flush (.buffering origin rest)
 else next.goto (.buffering origin rest)

end

def afterDlq (failed : StreamEntry) (attempt : Attempt) (sent : Bool) : Flushing :=
 if sent || config.ackOnError then .ackFailed failed attempt else .entries attempt

def entryFailed (failed : StreamEntry) (what : String) (attempt : Attempt) : Flushing :=
 if config.dlqOnError && config.dlqStream ≠ "" then .dlqSend failed what attempt
 else afterDlq config failed attempt false

def Stores.claim (stores : Stores) (ids : List String) : List StreamEntry × List String :=
 (stores.stream.filter fun e => e.id ∈ ids,
   ids.filter fun id => id ∉ stores.stream.map StreamEntry.id)

def World.goto (world : World) (phase : Phase) : World :=
 { world with worker := world.worker.goto phase }

def World.failAttempt (config : WorkerConfig) (world : World) (resume : Resume) (number : Nat) : World :=
 { world with worker := world.worker.failAttempt config resume number }

def World.dropDb (world : World) : World :=
 { world with worker := { world.worker with dbOpen := false } }

def stepFlush (world : World) (resume : Resume) :
  Flushing -> Action -> Option World
 | .begin number, .begin .ready =>
  if world.worker.dbOpen then
   some (world.goto (.flushing resume (.entries { number, todo := world.worker.buf })))
  else none
 | .begin number, .begin .notReady => some (world.failAttempt config resume number)
 | .begin number, .begin .brokenConnection =>
  if world.worker.dbOpen then some (world.dropDb.failAttempt config resume number) else none
 | .entries { number, todo := e :: todo, ackIds, tx }, .entry .stored =>
  some (world.goto (.flushing resume
   (.entries { number, todo, ackIds := ackIds ++ [e.id], tx := tx ++ [processEntry e] })))
 | .entries { number, todo := _ :: _, .. }, .entry .brokenConnection =>
  some (world.dropDb.failAttempt config resume number)
 | .entries { number, todo := e :: todo, ackIds, tx }, .entry (.exception what) =>
  some (world.goto (.flushing resume (entryFailed config e what { number, todo, ackIds, tx })))
 | .dlqSend failed what attempt, .xadd ok =>
  let (stores, sent) := sendToDlq world.stores failed what ok
  some ({ world with stores }.goto (.flushing resume (afterDlq config failed attempt sent)))
 | .ackFailed failed attempt, .xack ok =>
  some ({ world with stores := world.stores.xack failed.id ok }.goto (.flushing resume (.entries attempt)))
 | .entries { number, todo := [], ackIds, tx }, .commit outcome =>
  let world := { world with stores := if outcome.applied then world.stores.commit tx else world.stores }
  match outcome with
  | .committed => some { world with worker := world.worker.ackCommitted resume ackIds }
  | .brokenConnection _ => some (world.dropDb.failAttempt config resume number)
  | .exception _ => some (world.failAttempt config resume number)
 | .ackCommitted (id :: ids), .xack ok =>
  some { stores := world.stores.xack id ok, worker := world.worker.ackCommitted resume ids }
 | _, _ => none

-- What a step of `Flush` can be: one constructor for each way a call it makes may end.
inductive FlushStep (config : WorkerConfig) (world : World) (resume : Resume) :
  Flushing -> Action -> World -> Prop
 | ready (number : Nat) (connected : world.worker.dbOpen = true) :
  FlushStep config world resume (.begin number) (.begin .ready)
   (world.goto (.flushing resume (.entries { number, todo := world.worker.buf })))
 | notReady (number : Nat) :
  FlushStep config world resume (.begin number) (.begin .notReady) (world.failAttempt config resume number)
 | lost (number : Nat) :
  FlushStep config world resume (.begin number) (.begin .brokenConnection)
   (world.dropDb.failAttempt config resume number)
 | stored (number : Nat) (e : StreamEntry) (todo : List StreamEntry) (ackIds : List String)
  (tx : List SessionEventRow) :
  FlushStep config world resume (.entries { number, todo := e :: todo, ackIds, tx }) (.entry .stored)
   (world.goto (.flushing resume (.entries { number, todo, ackIds := ackIds ++ [e.id], tx := tx ++ [processEntry e] })))
 | brokenEntry (number : Nat) (e : StreamEntry) (todo : List StreamEntry) (ackIds : List String)
  (tx : List SessionEventRow) :
  FlushStep config world resume (.entries { number, todo := e :: todo, ackIds, tx })
   (.entry .brokenConnection) (world.dropDb.failAttempt config resume number)
 | failed (number : Nat) (e : StreamEntry) (todo : List StreamEntry) (ackIds : List String)
  (tx : List SessionEventRow) (what : String) :
  FlushStep config world resume (.entries { number, todo := e :: todo, ackIds, tx }) (.entry (.exception what))
   (world.goto (.flushing resume (entryFailed config e what { number, todo, ackIds, tx })))
 | deadLettered (e : StreamEntry) (what : String) (attempt : Attempt) (ok : Bool) :
  FlushStep config world resume (.dlqSend e what attempt) (.xadd ok)
   ({ world with stores := (sendToDlq world.stores e what ok).1 }.goto
     (.flushing resume (afterDlq config e attempt true)))
 | ackedFailed (e : StreamEntry) (attempt : Attempt) (ok : Bool) :
  FlushStep config world resume (.ackFailed e attempt) (.xack ok)
   ({ world with stores := world.stores.xack e.id ok }.goto (.flushing resume (.entries attempt)))
 | committed (number : Nat) (ackIds : List String) (tx : List SessionEventRow) :
  FlushStep config world resume (.entries { number, todo := [], ackIds, tx }) (.commit .committed)
   { stores := world.stores.commit tx, worker := world.worker.ackCommitted resume ackIds }
 | brokenCommit (number : Nat) (ackIds : List String) (tx : List SessionEventRow) (applied : Bool) :
  FlushStep config world resume (.entries { number, todo := [], ackIds, tx })
   (.commit (.brokenConnection applied))
   ({ world with stores := if applied then world.stores.commit tx else world.stores }.dropDb.failAttempt
     config resume number)
 | failedCommit (number : Nat) (ackIds : List String) (tx : List SessionEventRow) (applied : Bool) :
  FlushStep config world resume (.entries { number, todo := [], ackIds, tx }) (.commit (.exception applied))
   ({ world with stores := if applied then world.stores.commit tx else world.stores }.failAttempt
     config resume number)
 | ackedCommitted (id : String) (ids : List String) (ok : Bool) :
  FlushStep config world resume (.ackCommitted (id :: ids)) (.xack ok)
   { stores := world.stores.xack id ok, worker := world.worker.ackCommitted resume ids }

theorem stepFlush_cases {config : WorkerConfig} {world next : World} {resume : Resume} {flush : Flushing}
  {action : Action} (taken : stepFlush config world resume flush action = some next) :
  FlushStep config world resume flush action next := by
 unfold stepFlush at taken
 split at taken <;> simp only [Option.ite_none_right_eq_some, Option.some.injEq, reduceCtorEq] at taken
 case h_1 number =>
  obtain ⟨connected, rfl⟩ := taken
  exact .ready number connected
 case h_2 number =>
  subst taken
  exact .notReady number
 case h_3 number =>
  obtain ⟨-, rfl⟩ := taken
  exact .lost number
 case h_4 number e todo ackIds tx =>
  subst taken
  exact .stored number e todo ackIds tx
 case h_5 number e todo ackIds tx =>
  subst taken
  exact .brokenEntry number e todo ackIds tx
 case h_6 number e todo ackIds tx what =>
  subst taken
  exact .failed number e todo ackIds tx what
 case h_7 e what attempt ok =>
  subst taken
  exact .deadLettered e what attempt ok
 case h_8 e attempt ok =>
  subst taken
  exact .ackedFailed e attempt ok
 case h_9 number ackIds tx outcome =>
  cases outcome with
  | committed =>
   cases taken
   exact .committed number ackIds tx
  | brokenConnection applied =>
   cases taken
   exact .brokenCommit number ackIds tx applied
  | exception applied =>
   cases taken
   exact .failedCommit number ackIds tx applied
 case h_10 id ids ok =>
  subst taken
  exact .ackedCommitted id ids ok

def stepLoop (world : World) : Phase -> Action -> Option World
 | .connect, .connect ok =>
  some { world with worker := { world.worker with dbOpen := ok, phase := if ok then .reclaim else .connect } }
 | .reclaim, .reclaim due answer =>
  if config.reclaimEnabled && due then
   match answer with
   | none => some (world.goto .read)
   | some ids =>
    let (claimed, deleted) := world.stores.claim ids
    if ids ⊆ world.stores.pending /\ ids.length ≤ config.reclaimCount then
     some (world.goto (.ackDeleted deleted claimed))
    else none
  else some (world.goto .read)
 | .ackDeleted (id :: ids) claimed, .xack ok =>
  some ({ world with stores := world.stores.xack id ok }.goto (.ackDeleted ids claimed))
 | .ackDeleted [] claimed, .buffer => some (world.goto (.buffering .reclaimed claimed))
 | .read, .read none => some (world.goto .connect)
 | .read, .read (some count) =>
  let entries := (world.stores.stream.drop world.stores.delivered).take count
  if count ≤ config.batchMaxEvents then
   some ({ world with stores := world.stores.deliver entries }.goto (.buffering .fresh entries))
  else none
 | .buffering origin (e :: rest), .buffer => some { world with worker := world.worker.buffer config origin e rest }
 | .buffering .reclaimed [], .buffer => some (world.goto .read)
 | .buffering .fresh [], .buffer => some (world.goto .timedFlush)
 | .timedFlush, .timedFlush due =>
  if due /\ world.worker.buf ≠ [] then some { world with worker := world.worker.flush .loop }
  else some (world.goto .connect)
 | .flushing resume flush, action => stepFlush config world resume flush action
 | _, _ => none

def step (world : World) : Action -> Option World
 | .publish entry =>
  if entry.id ∈ world.stores.stream.map StreamEntry.id then none
  else some { world with stores := { world.stores with stream := world.stores.stream ++ [entry] } }
 | .crash => some { world with worker := {} }
 | action => stepLoop config world world.worker.phase action

def machine : Shared.Machine World Action := ⟨step config⟩

abbrev Stores.Kept (stores : Stores) (id : String) : Prop :=
 id ∈ stores.rows.map SessionEventRow.eventId \/
  some ("orig_event_id", id) ∈ stores.dlq.map List.head?

end Dynaxis.WriteBehind
