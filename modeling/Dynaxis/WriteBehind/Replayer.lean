import Dynaxis.Shared.Word
import Dynaxis.WriteBehind.Worker
import Mathlib.Data.List.TakeWhile

namespace Dynaxis.WriteBehind.Dlq

open Shared List Option Nat Bool

structure ReplayerConfig where
 retryMax : Nat := 5
 batchSize : Nat := 50
 -- `Load` takes no other value from the environment
 batchSize_pos : 0 < batchSize := by decide

-- `emplace` keeps the first value of a name. The order stands for whatever order the hash map has.
def toMap (fields : List (String × String)) : List (String × String) :=
 fields.foldl (fun mp kv => if mp.any (·.1 = kv.1) then mp else mp ++ [kv]) []

def stoi (s : String) : Option Int :=
 (stoll s).filter fun n => -2147483648 ≤ n && n ≤ 2147483647

section

variable (e : StreamEntry) (errorMsg : String)

def origId : String :=
 ((toMap e.fields).lookup "orig_event_id").getD e.id

def retryCount : Int :=
 match (toMap e.fields).lookup "retry_count" with
 | some text => (stoi text).getD 0
 | none => 0

def isDlqMetadata (name : String) : Bool :=
 name = "orig_event_id" || name = "error" || name = "retry_count"

def tryInsertToDb (eventId : String) (mp : List (String × String)) : SessionEventRow :=
 { eventId
   type := (mp.lookup "type").getD "unknown"
   tsMs := (stoll ((mp.lookup "ts_ms").getD "0")).getD 0
   userId := (mp.lookup "user_id").getD ""
   sessionId := (mp.lookup "session_id").getD ""
   roomId := (mp.lookup "room_id").getD ""
   payload := (mp.filter fun kv => !isDlqMetadata kv.1).foldl (fun j kv => jsonAssign kv.1 kv.2 j) [] }

def replayRow : SessionEventRow := tryInsertToDb (origId e) (toMap e.fields)

def moveToDeadStream : List (String × String) :=
 ("orig_event_id", origId e) :: e.fields.filter (·.1 ≠ "retry_count") ++ [("error", errorMsg)]

def retryLater : List (String × String) :=
 ("orig_event_id", origId e) :: e.fields.filter (·.1 ≠ "retry_count") ++
   [("retry_count", toString (i32 (retryCount e + 1))), ("error", errorMsg)]

end

def exhausted (config : ReplayerConfig) (e : StreamEntry) : Bool :=
 i32 config.retryMax ≤ i32 (retryCount e + 1)

theorem lookup_toMap (fields : List (String × String)) (name : String) :
  (toMap fields).lookup name = fields.lookup name := by
 -- with a map built so far, its values come before those still to be read
 suffices built : ∀ mp : List (String × String),
  (fields.foldl (fun mp kv => if mp.any (·.1 = kv.1) then mp else mp ++ [kv]) mp).lookup name =
    (mp.lookup name).or (fields.lookup name) from built []
 induction fields with
 | nil => simp
 | cons kv rest ih =>
  intro mp
  rw [foldl_cons, ih]
  obtain ⟨key, value⟩ := kv
  by_cases known : mp.any (·.1 = key) = true
  · rw [if_pos known]
    by_cases here : name = key
    · -- the map has the name already
      obtain ⟨first, found⟩ : ∃ first, mp.lookup name = some first := by
       obtain ⟨kv, member, same⟩ := any_eq_true.mp known
       refine ne_none_iff_exists'.mp fun missing => ?_
       have other := lookup_eq_none_iff.mp missing kv member
       simp [here, of_decide_eq_true same] at other
      rw [found, some_or, some_or]
    · rw [lookup_cons, beq_false_of_ne here]
  · rw [if_neg known, List.lookup_append, Option.or_assoc]
    by_cases here : name = key
    · simp [here]
    · simp [lookup_cons, beq_false_of_ne here]

variable (e : StreamEntry) (errorMsg id : String)

@[simp] theorem origId_moveToDeadStream : origId ⟨id, moveToDeadStream e errorMsg⟩ = origId e := by
  simp [origId, lookup_toMap, moveToDeadStream]

@[simp] theorem origId_retryLater : origId ⟨id, retryLater e errorMsg⟩ = origId e := by
  simp [origId, lookup_toMap, retryLater]

theorem leadingDigits_digits {digits : List Char} (some_digit : digits ≠ [])
  (all : ∀ c ∈ digits, c.isDigit = true) : leadingDigits digits = some (Nat.ofDigitChars 10 digits 0) := by
 have whole : digits.takeWhile Char.isDigit = digits := takeWhile_eq_self_iff.mpr all
 unfold leadingDigits
 rw [whole]
 cases digits with
 | nil => exact absurd rfl some_digit
 | cons => rfl

theorem isSpace_digit {c : Char} (digit : c.isDigit = true) : isSpace c = false := by
 simp only [Char.isDigit, and_eq_true, decide_eq_true_eq] at digit
 simp only [isSpace, or_eq_false_iff, beq_eq_false_iff_ne, and_eq_false_iff, decide_eq_false_iff_not]
 constructor
 · rintro rfl
   exact absurd digit (by decide)
 · right
   intro low
   rw [Char.le_def] at low
   grind

theorem stoll_toString {value : Nat} (bound : value ≤ 9223372036854775807) :
  stoll (toString (value : Int)) = some (value : Int) := by
 have digits : (toString (value : Int)).toList = toDigits 10 value := toList_repr
 have all : ∀ c ∈ toDigits 10 value, c.isDigit = true := fun c =>
  isDigit_of_mem_toDigits (by decide) (by decide)
 have read := leadingDigits_digits toDigits_ne_nil all
 rw [ofDigitChars_toDigits (by decide) (by decide)] at read
 unfold stoll
 rw [digits]
 generalize toDigits 10 value = text at all read
 cases text with
 | nil => cases read
 | cons first rest =>
  have digit : first.isDigit = true := all first mem_cons_self
  rw [dropWhile_cons_of_neg (by simp [isSpace_digit digit])]
  dsimp only
  split
  next shape =>
   obtain ⟨rfl, -⟩ := cons.inj shape
   cases digit
  next shape =>
   obtain ⟨rfl, -⟩ := cons.inj shape
   cases digit
  next =>
   rw [read]
   simp
   omega

theorem retryCount_retryLater {count : Nat} (current : retryCount e = count) (bound : count + 1 < 2147483648) :
  retryCount ⟨id, retryLater e errorMsg⟩ = count + 1 := by
 have bumped : i32 (retryCount e + 1) = ((count + 1 : Nat) : Int) := by
  rw [current, i32]
  omega
 have none_before : (e.fields.filter (·.1 ≠ "retry_count")).lookup "retry_count" = none := by
  rw [lookup_eq_none_iff]
  intro kv member
  simpa using Ne.symm (of_decide_eq_true (mem_filter.mp member).2)
 have found : (retryLater e errorMsg).lookup "retry_count" = some (toString ((count + 1 : Nat) : Int)) := by
  rw [retryLater, bumped, cons_append, lookup_cons, lookup_append, none_before]
  rfl
 rw [retryCount, lookup_toMap, found]
 have inRange : -2147483648 ≤ ((count + 1 : Nat) : Int) /\ ((count + 1 : Nat) : Int) ≤ 2147483647 := by omega
 have parsed : stoi (toString ((count + 1 : Nat) : Int)) = some ((count + 1 : Nat) : Int) := by
  rw [stoi, stoll_toString (by omega)]
  simp only [Option.filter, inRange, decide_true, Bool.and_true, if_true]
 dsimp only
 rw [parsed]
 rfl

/-- A stream entry and the event it carries: the position of that event among all that entered
the DLQ, which no stream records. -/
structure Letter where
 entry : StreamEntry
 event : Nat
deriving DecidableEq

structure Group where
 start : Nat
 delivered : Nat
deriving DecidableEq

structure Stores where
 dlq : List Letter := []
 group : Option Group := none
 pending : List String := []
 dead : List Letter := []
 rows : List SessionEventRow := []
deriving DecidableEq

inductive Phase where
 | start
 -- the `for` over the entries of one read; with none left, the top of `Loop`
 | batch (rest : List Letter)
 | read
 | handleFailure (letter : Letter) (what : String) (rest : List Letter)
 | ack (letter : Letter) (rest : List Letter)
deriving DecidableEq

structure World where
 stores : Stores := {}
 dbOpen : Bool := false
 phase : Phase := .start
 -- what happened: the events that entered, the entries handed to `ProcessEntry`, and those it
 -- returned from without an acknowledgement, after a broken connection or a failed append
 entered : List StreamEntry := []
 handed : List Letter := []
 left : List Letter := []
deriving DecidableEq

inductive InsertOutcome where
 | stored
 | brokenConnection (applied : Bool)
 | exception (what : String) (applied : Bool)
deriving DecidableEq

def InsertOutcome.applied : InsertOutcome -> Bool
 | .stored => true
 | .brokenConnection applied | .exception _ applied => applied

inductive Action where
 | publish (entry : StreamEntry)
 | crash
 | createGroup (ok : Bool)
 | connect (ok : Bool)
 | xreadgroup (ok : Bool)
 | insert (outcome : InsertOutcome)
 -- the id Redis gives to the new entry
 | xadd (answer : Option String)
 | xack (ok : Bool)
deriving DecidableEq

def Stores.createGroup (stores : Stores) : Stores :=
 match stores.group with
 | some _ => stores
 | none => { stores with group := some ⟨stores.dlq.length, stores.dlq.length⟩ }

variable (stores : Stores)

@[simp] theorem Stores.createGroup_dlq : stores.createGroup.dlq = stores.dlq := by
  unfold createGroup
  split <;> rfl

@[simp] theorem Stores.createGroup_dead : stores.createGroup.dead = stores.dead := by
  unfold createGroup
  split <;> rfl

def Stores.deliver (stores : Stores) (group : Group) (count : Nat) : Stores × List Letter :=
 let entries := (stores.dlq.drop group.delivered).take count
 ({ stores with
     group := some { group with delivered := group.delivered + entries.length }
     pending := stores.pending ++ entries.map (·.entry.id) }, entries)

def Stores.insert (stores : Stores) (e : StreamEntry) : Stores :=
 { stores with rows := insertRow stores.rows (replayRow e) }

def Stores.moveToDeadStream (stores : Stores) (letter : Letter) (errorMsg id : String) : Stores :=
 { stores with
   dead := stores.dead ++ [⟨⟨id, Dlq.moveToDeadStream letter.entry errorMsg⟩, letter.event⟩] }

def Stores.retryLater (stores : Stores) (letter : Letter) (errorMsg id : String) : Stores :=
 { stores with dlq := stores.dlq ++ [⟨⟨id, Dlq.retryLater letter.entry errorMsg⟩, letter.event⟩] }

def Stores.xack (stores : Stores) (id : String) (ok : Bool) : Stores :=
 if ok then { stores with pending := stores.pending.erase id } else stores

section

variable (id : String) (ok : Bool)

@[simp] theorem Stores.xack_dlq : (stores.xack id ok).dlq = stores.dlq := by
  cases ok <;> rfl

@[simp] theorem Stores.xack_group : (stores.xack id ok).group = stores.group := by
  cases ok <;> rfl

@[simp] theorem Stores.xack_dead : (stores.xack id ok).dead = stores.dead := by
  cases ok <;> rfl

end

def Stores.fresh (stores : Stores) (id : String) : Bool :=
 id ∉ stores.dlq.map (·.entry.id)

def World.processEntry (world : World) (letter : Letter) (rest : List Letter) (outcome : InsertOutcome) : World :=
 let world :=
  { world with
    stores := if outcome.applied then world.stores.insert letter.entry else world.stores
    handed := world.handed ++ [letter] }
 match outcome with
 | .stored => { world with phase := .ack letter rest }
 | .brokenConnection _ => { world with dbOpen := false, left := world.left ++ [letter], phase := .batch rest }
 | .exception what _ => { world with phase := .handleFailure letter what rest }

def stepLoop (config : ReplayerConfig) (world : World) : Phase -> Action -> Option World
 | .start, .createGroup ok =>
  some { world with stores := if ok then world.stores.createGroup else world.stores, phase := .batch [] }
 | .batch [], .connect ok => some { world with dbOpen := ok, phase := if ok then .read else .batch [] }
 | .read, .xreadgroup false => some { world with phase := .batch [] }
 | .read, .xreadgroup true =>
  world.stores.group.map fun group =>
   let (stores, entries) := world.stores.deliver group config.batchSize
   { world with stores, phase := .batch entries }
 | .batch (letter :: rest), .insert outcome =>
  if world.dbOpen \/ outcome = .exception "DB connection not open" false then
   some (world.processEntry letter rest outcome)
  else none
 | .handleFailure letter _ rest, .xadd none => some { world with left := world.left ++ [letter], phase := .batch rest }
 | .handleFailure letter what rest, .xadd (some id) =>
  if exhausted config letter.entry then
   some { world with stores := world.stores.moveToDeadStream letter what id, phase := .ack letter rest }
  else if world.stores.fresh id then
   some { world with stores := world.stores.retryLater letter what id, phase := .ack letter rest }
  else none
 | .ack letter rest, .xack ok =>
  some { world with stores := world.stores.xack letter.entry.id ok, phase := .batch rest }
 | _, _ => none

def step (config : ReplayerConfig) (world : World) : Action -> Option World
 | .publish entry =>
  if world.stores.fresh entry.id then
   some
    { world with
      stores := { world.stores with dlq := world.stores.dlq ++ [⟨entry, world.entered.length⟩] }
      entered := world.entered ++ [entry] }
  else none
 | .crash => some { world with dbOpen := false, phase := .start }
 | action => stepLoop config world world.phase action

def machine (config : ReplayerConfig) : Machine World Action := ⟨step config⟩

inductive Step (config : ReplayerConfig) (world : World) : Action -> World -> Prop
 | published (entry : StreamEntry) (fresh : world.stores.fresh entry.id = true) :
  Step config world (.publish entry)
   { world with
     stores := { world.stores with dlq := world.stores.dlq ++ [⟨entry, world.entered.length⟩] }
     entered := world.entered ++ [entry] }
 | crashed : Step config world .crash { world with dbOpen := false, phase := .start }
 | groupCreated (here : world.phase = .start) (ok : Bool) :
  Step config world (.createGroup ok)
   { world with stores := if ok then world.stores.createGroup else world.stores, phase := .batch [] }
 | connected (here : world.phase = .batch []) (ok : Bool) :
  Step config world (.connect ok) { world with dbOpen := ok, phase := if ok then .read else .batch [] }
 | readFailed (here : world.phase = .read) :
  Step config world (.xreadgroup false) { world with phase := .batch [] }
 | read (here : world.phase = .read) (group : Group) (known : world.stores.group = some group) :
  Step config world (.xreadgroup true)
   { world with
     stores := (world.stores.deliver group config.batchSize).1
     phase := .batch (world.stores.deliver group config.batchSize).2 }
 | processed (letter : Letter) (rest : List Letter) (here : world.phase = .batch (letter :: rest))
  (outcome : InsertOutcome)
  (possible : world.dbOpen = true \/ outcome = .exception "DB connection not open" false) :
  Step config world (.insert outcome) (world.processEntry letter rest outcome)
 | appendFailed (letter : Letter) (what : String) (rest : List Letter)
  (here : world.phase = .handleFailure letter what rest) :
  Step config world (.xadd none) { world with left := world.left ++ [letter], phase := .batch rest }
 | moved (letter : Letter) (what : String) (rest : List Letter)
  (here : world.phase = .handleFailure letter what rest) (id : String)
  (spent : exhausted config letter.entry = true) :
  Step config world (.xadd (some id))
   { world with stores := world.stores.moveToDeadStream letter what id, phase := .ack letter rest }
 | retried (letter : Letter) (what : String) (rest : List Letter)
  (here : world.phase = .handleFailure letter what rest) (id : String)
  (unspent : exhausted config letter.entry = false) (fresh : world.stores.fresh id = true) :
  Step config world (.xadd (some id))
   { world with stores := world.stores.retryLater letter what id, phase := .ack letter rest }
 | acked (letter : Letter) (rest : List Letter) (here : world.phase = .ack letter rest) (ok : Bool) :
  Step config world (.xack ok)
   { world with stores := world.stores.xack letter.entry.id ok, phase := .batch rest }

variable {config : ReplayerConfig} {world next : World} {action : Action}

theorem stepLoop_cases {phase : Phase} (here : world.phase = phase)
  (taken : stepLoop config world phase action = some next) : Step config world action next := by
 unfold stepLoop at taken
 split at taken
 case h_1 ok =>
  cases taken
  exact .groupCreated here ok
 case h_2 ok =>
  cases taken
  exact .connected here ok
 case h_3 =>
  cases taken
  exact .readFailed here
 case h_4 =>
  obtain ⟨group, known, rfl⟩ := map_eq_some_iff.mp taken
  exact .read here group known
 case h_5 letter rest outcome =>
  obtain ⟨possible, rfl⟩ := (ite_none_right_eq_some.mp taken).imp_right some.inj
  exact .processed letter rest here outcome possible
 case h_6 letter what rest =>
  cases taken
  exact .appendFailed letter what rest here
 case h_7 letter what rest id =>
  split at taken
  next spent =>
   cases taken
   exact .moved letter what rest here id spent
  next unspent =>
   obtain ⟨fresh, rfl⟩ := (ite_none_right_eq_some.mp taken).imp_right some.inj
   exact .retried letter what rest here id (eq_false_iff.mpr unspent) fresh
 case h_8 letter rest ok =>
  cases taken
  exact .acked letter rest here ok
 case h_9 => cases taken

theorem step_cases (taken : (machine config).step world action = some next) : Step config world action next := by
 change step config world action = some next at taken
 unfold step at taken
 split at taken
 case h_1 entry =>
  obtain ⟨fresh, rfl⟩ := (ite_none_right_eq_some.mp taken).imp_right some.inj
  exact .published entry fresh
 case h_2 =>
  cases taken
  exact .crashed
 case h_3 => exact stepLoop_cases rfl taken

end Dynaxis.WriteBehind.Dlq
