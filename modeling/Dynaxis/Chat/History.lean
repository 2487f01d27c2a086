import Dynaxis.Shared.ExpiringStore
import Dynaxis.Shared.Machine
import Dynaxis.Shared.Word

namespace Dynaxis.Chat.History

open Shared List Nat

structure Message where
 id : Nat
 userName : Option String
 content : String
 createdAtMs : Int

structure SnapshotMessage where
 id : Nat
 sender : String
 text : String
 tsMs : Nat

structure MessageTable where
 rows : List Message
 ascending : (rows.map (·.id)).Pairwise (· < ·)

/-- `room:<id>:recent`, latest first, and the keys `msg:<id>`. The list's entries are the
numbers that `cache_recent_message` writes. -/
structure RecentCache where
 recent : List Nat := []
 payloads : ExpiringStore Nat SnapshotMessage := ∅

structure HistoryConfig where
 recentLimit : Nat := 20
 maxListLen : Nat := 200
 fetchFactor : Nat := 3
 cacheTtlSec : Nat := 21600

namespace MessageTable

variable (table : MessageTable)

def ids : List Nat := table.rows.map (·.id)

def fetchRecentByRoom (sinceId limit : Nat) : List Message :=
 (table.rows.filter fun row => sinceId < row.id).take limit

def getLastId : Nat := table.ids.foldl max 0

end MessageTable

def keepLast {α : Type} (count : Nat) (entries : List α) : List α := entries.drop (entries.length - count)

def snapshotMessage (row : Message) : SnapshotMessage where
 id := row.id
 sender :=
  match row.userName with
  | some name => if name ≠ "" then name else "(system)"
  | none => "(system)"
 text := row.content
 tsMs := (row.createdAtMs % 18446744073709551616).toNat

section

variable (config : HistoryConfig) (now : Nat)

def cacheRecentMessage (cache : RecentCache) (message : SnapshotMessage) : RecentCache :=
 if message.id = 0 then cache
 else
  { payloads := cache.payloads.setEx now message.id message config.cacheTtlSec
    recent :=
     if 0 < config.maxListLen then (message.id :: cache.recent).take config.maxListLen
     else message.id :: cache.recent }

def loadRecentMessagesFromCache (cache : RecentCache) : Option (List SnapshotMessage) :=
 if config.recentLimit = 0 then none
 else
  let validIds := (cache.recent.take config.recentLimit).filter (· ≠ 0)
  let parsed := validIds.filterMap (cache.payloads.get now)
  if parsed = [] then none else some parsed.reverse

def addCached (added : List SnapshotMessage) (message : SnapshotMessage) : List SnapshotMessage :=
 if message.id ∈ added.map (·.id) then added else added ++ [message]

def sinceId (lastId lastSeen : Nat) : Nat :=
 let limit := config.recentLimit
 if 0 < lastId then
  if lastSeen = 0 \/ lastId ≤ lastSeen then
   if limit < lastId then lastId - limit else 0
  else
   let context := u64 (limit * config.fetchFactor)
   if context < lastId then
    let cut := lastId - context
    if cut < lastSeen then lastSeen else cut
   else lastSeen
 else 0

def fetchCount : Nat :=
 min config.maxListLen (max config.recentLimit (u64 (config.recentLimit * config.fetchFactor)))

def fillUp (table : MessageTable) (lastSeen cachedMessages : Nat) (added : List SnapshotMessage) : List Message :=
 let limit := config.recentLimit
 let fetched := table.fetchRecentByRoom (sinceId config table.getLastId lastSeen) (fetchCount config)
 let filtered := fetched.filter fun row => row.id ∉ added.map (·.id)
 let budget := if limit ≤ cachedMessages then 0 else limit - cachedMessages
 if budget = 0 then [] else keepLast budget (keepLast limit filtered)

def sendSnapshot (redis : Option RecentCache) (db : Option MessageTable) (lastSeen : Option Nat) :
  List SnapshotMessage × Option RecentCache :=
 let cached := (redis.bind (loadRecentMessagesFromCache config now)).getD []
 let added := cached.foldl addCached []
 match db with
 | none => (added, redis)
 | some table =>
  -- an empty cache does not count as loaded, whatever the limit
  if cached ≠ [] /\ config.recentLimit ≤ cached.length then (added, redis)
  else
   let rows := (fillUp config table (lastSeen.getD 0) cached.length added).map snapshotMessage
   (added ++ rows, redis.map fun cache => rows.foldl (cacheRecentMessage config now) cache)

end

theorem length_le_of_ascending {ids : List Nat} {low high : Nat} (ascending : ids.Pairwise (· < ·))
  (within : ∀ id ∈ ids, low < id /\ id ≤ high) : ids.length ≤ high - low := by
 induction ids generalizing low with
 | nil => exact zero_le _
 | cons id rest ih =>
  rw [pairwise_cons] at ascending
  have first := within id mem_cons_self
  have shorter : rest.length ≤ high - id :=
   ih ascending.2 fun other member => ⟨ascending.1 other member, (within other (mem_cons_of_mem _ member)).2⟩
  rw [length_cons]
  omega

theorem le_foldl_max (ids : List Nat) (start : Nat) :
  start ≤ ids.foldl max start /\ ∀ id ∈ ids, id ≤ ids.foldl max start := by
 induction ids generalizing start with
 | nil => simp
 | cons id rest ih =>
  obtain ⟨above, bound⟩ := ih (max start id)
  rw [foldl_cons]
  refine ⟨by omega, fun other member => ?_⟩
  obtain rfl | later := mem_cons.mp member
  · omega
  · exact bound other later

section

variable {config : HistoryConfig} {now : Nat} {table : MessageTable}

def MessageTable.latest (table : MessageTable) (limit : Nat) : List Nat := keepLast limit table.ids

variable {lastSeen : Option Nat} {α : Type} {cache : RecentCache} {messages added : List SnapshotMessage}

theorem sinceId_of_latest {lastId : Nat} (seen : lastSeen = none \/ lastSeen = some lastId) :
  sinceId config lastId (lastSeen.getD 0) = lastId - config.recentLimit := by
 have either : lastSeen.getD 0 = 0 \/ lastId ≤ lastSeen.getD 0 := by
  obtain rfl | rfl := seen
  · exact .inl rfl
  · exact .inr (le_refl _)
 simp only [sinceId, if_pos either]
 split_ifs <;> omega

def MessageTable.window (table : MessageTable) (limit : Nat) : List Nat :=
 table.ids.filter fun id => table.getLastId - limit < id

theorem length_window (table : MessageTable) (limit : Nat) : (table.window limit).length ≤ limit := by
 have bound : (table.window limit).length ≤ table.getLastId - (table.getLastId - limit) := by
  refine length_le_of_ascending (table.ascending.filter _) fun id member => ?_
  rw [MessageTable.window, mem_filter, decide_eq_true_eq] at member
  exact ⟨member.2, (le_foldl_max table.ids 0).2 id member.1⟩
 omega

theorem fetched_ids (enough : config.recentLimit ≤ config.maxListLen) :
  (table.fetchRecentByRoom (table.getLastId - config.recentLimit) (fetchCount config)).map (·.id) =
    table.window config.recentLimit := by
 have window : (table.rows.filter fun row => table.getLastId - config.recentLimit < row.id).map (·.id) =
   table.window config.recentLimit := by
  rw [MessageTable.window, MessageTable.ids, filter_map]
  rfl
 have count : config.recentLimit ≤ fetchCount config := by
  rw [fetchCount]
  omega
 rw [MessageTable.fetchRecentByRoom, map_take, window]
 exact take_of_length_le ((length_window table _).trans count)

theorem keepLast_of_le {count : Nat} {entries : List α} (short : entries.length ≤ count) :
  keepLast count entries = entries := by
 rw [keepLast, Nat.sub_eq_zero_of_le short, drop_zero]

theorem keepLast_map {β : Type} (count : Nat) (entries : List α) (f : α -> β) :
  (keepLast count entries).map f = keepLast count (entries.map f) := by
 rw [keepLast, keepLast, map_drop, length_map]

theorem window_eq (table : MessageTable) (limit : Nat) :
  table.window limit = (table.latest limit).filter fun id => table.getLastId - limit < id := by
 have split : table.ids = table.ids.take (table.ids.length - limit) ++ table.latest limit :=
  (take_append_drop _ _).symm
 generalize before : table.ids.take (table.ids.length - limit) = older at split
 have short := length_window table limit
 rw [MessageTable.window, split, filter_append] at short ⊢
 suffices none : older.filter (fun id => table.getLastId - limit < id) = [] by rw [none, nil_append]
 rw [filter_eq_nil_iff]
 intro old member
 rw [decide_eq_true_eq]
 intro reaches
 have ordered : (older ++ table.latest limit).Pairwise (· < ·) := split ▸ table.ascending
 have all : (table.latest limit).filter (fun id => table.getLastId - limit < id) = table.latest limit := by
  rw [filter_eq_self]
  intro id latest
  have later := (pairwise_append.mp ordered).2.2 old member id latest
  rw [decide_eq_true_eq]
  omega
 have one : 0 < (older.filter fun id => table.getLastId - limit < id).length :=
  length_pos_of_mem (mem_filter.mpr ⟨member, decide_eq_true reaches⟩)
 have many : limit < table.ids.length := by
  have present := length_pos_of_mem member
  rw [<- before, length_take] at present
  omega
 have full : (table.latest limit).length = limit := by
  rw [MessageTable.latest, keepLast, length_drop]
  omega
 rw [all, length_append, full] at short
 omega

@[mk_iff]
structure Fits (config : HistoryConfig) (table : MessageTable) (cached : List SnapshotMessage) : Prop where
 front : (cached.foldl addCached []).map (·.id) <+: table.latest config.recentLimit
 near : ∀ id ∈ (table.latest config.recentLimit).drop (cached.foldl addCached []).length,
  table.getLastId - config.recentLimit < id
 room : ((table.latest config.recentLimit).drop (cached.foldl addCached []).length).length + cached.length ≤
  config.recentLimit

instance (config : HistoryConfig) (table : MessageTable) (cached : List SnapshotMessage) :
  Decidable (Fits config table cached) :=
 decidable_of_iff _ (fits_iff ..).symm

theorem fillUp_ids {cached : List SnapshotMessage}
  (enough : config.recentLimit ≤ config.maxListLen) (seen : lastSeen = none \/ lastSeen = some table.getLastId)
  (short : cached.length < config.recentLimit) (added : List SnapshotMessage) :
  (fillUp config table (lastSeen.getD 0) cached.length added).map (·.id) = keepLast (config.recentLimit - cached.length)
     ((table.window config.recentLimit).filter fun id => id ∉ added.map (·.id)) := by
 have ids : ((table.fetchRecentByRoom (table.getLastId - config.recentLimit) (fetchCount config)).filter
   fun row => row.id ∉ added.map (·.id)).map (·.id) =
   (table.window config.recentLimit).filter fun id => id ∉ added.map (·.id) := by
  rw [<- fetched_ids enough, filter_map]
  rfl
 have within : ((table.window config.recentLimit).filter fun id => id ∉ added.map (·.id)).length ≤ config.recentLimit :=
  (length_filter_le _ _).trans (length_window table _)
 simp only [fillUp, sinceId_of_latest seen, if_neg (not_le.mpr short), if_neg (sub_ne_zero_of_lt short)]
 rw [keepLast_map, keepLast_map, ids, keepLast_of_le within]

theorem filter_missing {front rest : List Nat} {near : Nat -> Bool} (ascending : (front ++ rest).Pairwise (· < ·))
  (taken : ∀ id ∈ rest, near id = true) : ((front ++ rest).filter near).filter (fun id => id ∉ front) = rest := by
 have before := (pairwise_append.mp ascending).2.2
 have none : (front.filter near).filter (fun id => id ∉ front) = [] := by
  rw [filter_eq_nil_iff]
  intro id member
  simp [mem_of_mem_filter member]
 have all : (rest.filter near).filter (fun id => id ∉ front) = rest := by
  rw [filter_eq_self.mpr taken, filter_eq_self]
  intro id member
  rw [decide_eq_true_eq]
  exact fun earlier => lt_irrefl id (before id earlier id member)
 rw [filter_append, filter_append, none, all, nil_append]

theorem ascending_latest (table : MessageTable) (limit : Nat) : (table.latest limit).Pairwise (· < ·) :=
 table.ascending.sublist (drop_sublist _ _)

def RecentCache.cached (cache : RecentCache) (config : HistoryConfig) (now : Nat) : List SnapshotMessage :=
 (loadRecentMessagesFromCache config now cache).getD []

theorem sendSnapshot_ids (positive : 0 < config.recentLimit)
  (enough : config.recentLimit ≤ config.maxListLen) (seen : lastSeen = none \/ lastSeen = some table.getLastId) :
  (sendSnapshot config now (some cache) (some table) lastSeen).1.map (·.id) =
    ((cache.cached config now).foldl addCached []).map (·.id) ++
      keepLast (config.recentLimit - (cache.cached config now).length) ((table.window config.recentLimit).filter
         fun id => id ∉ ((cache.cached config now).foldl addCached []).map (·.id)) := by
 have read : ((some cache).bind (loadRecentMessagesFromCache config now)).getD [] = cache.cached config now := rfl
 simp only [sendSnapshot, read]
 split
 next hit =>
  have none : config.recentLimit - (cache.cached config now).length = 0 := Nat.sub_eq_zero_of_le hit.2
  rw [none, keepLast, Nat.sub_zero, drop_length, append_nil]
 next miss =>
  have short : (cache.cached config now).length < config.recentLimit := by
   by_contra long
   refine miss ⟨?_, not_lt.mp long⟩
   intro empty
   rw [empty, length_nil] at long
   exact long positive
  rw [map_append, map_map, <- fillUp_ids enough seen short]
  rfl

theorem length_cached_le (config : HistoryConfig) (now : Nat) (cache : RecentCache) :
  (cache.cached config now).length ≤ config.recentLimit := by
 unfold RecentCache.cached loadRecentMessagesFromCache
 dsimp only
 split_ifs
 · exact Nat.zero_le _
 · exact Nat.zero_le _
 · rw [Option.getD_some, length_reverse]
   exact (length_filterMap_le _ _).trans ((length_filter_le _ _).trans (length_take_le _ _))

/-- The snapshot holds exactly the latest messages of the room, each once, ascending, just when what it
reads from the cache fits. -/
theorem snapshot_holds_the_latest (config : HistoryConfig) (now : Nat) (table : MessageTable) (cache : RecentCache)
  (lastSeen : Option Nat) (positive : 1 ≤ config.recentLimit) (enough : config.recentLimit ≤ config.maxListLen)
  (seen : lastSeen = none \/ lastSeen = some table.getLastId) :
  (sendSnapshot config now (some cache) (some table) lastSeen).1.map (·.id) = table.latest config.recentLimit ↔
   Fits config table (cache.cached config now) := by
 have within := length_cached_le config now cache
 rw [sendSnapshot_ids positive enough seen]
 rw [fits_iff]
 generalize (cache.cached config now).foldl addCached [] = added
 constructor
 · intro sent
   generalize filled : keepLast (config.recentLimit - (cache.cached config now).length) _ = rest at sent
   have dropped : (table.latest config.recentLimit).drop added.length = rest := by rw [<- sent, drop_left' (by simp)]
   refine ⟨⟨rest, sent⟩, fun id member => ?_, ?_⟩
   · rw [dropped, <- filled] at member
     have fetched := mem_of_mem_filter (mem_of_mem_drop member)
     rw [MessageTable.window, mem_filter, decide_eq_true_eq] at fetched
     exact fetched.2
   · rw [dropped, <- filled, keepLast, length_drop]
     omega
 · rintro ⟨⟨rest, split⟩, near, room⟩
   have ascending := ascending_latest table config.recentLimit
   have dropped : (table.latest config.recentLimit).drop added.length = rest := by rw [<- split, drop_left' (by simp)]
   rw [dropped] at near room
   rw [window_eq]
   rw [<- split] at ascending ⊢
   rw [filter_missing ascending fun id member => decide_eq_true (near id member), keepLast_of_le (by omega)]

end

section

variable {config : HistoryConfig} {now : Nat} {added : List SnapshotMessage} {message : SnapshotMessage}

theorem mem_foldl_addCached {cached : List SnapshotMessage} (member : message ∈ cached.foldl addCached added) :
  message ∈ added \/ message ∈ cached := by
 induction cached generalizing added with
 | nil => exact .inl member
 | cons first rest ih =>
  obtain earlier | later := ih member
  · unfold addCached at earlier
    split at earlier
    · exact .inl earlier
    · obtain old | isFirst := mem_append.mp earlier
      · exact .inl old
      · exact .inr (mem_singleton.mp isFirst ▸ mem_cons_self)
  · exact .inr (mem_cons_of_mem _ later)

theorem mem_loadRecentMessagesFromCache {cache : RecentCache} {loaded : List SnapshotMessage}
  (loads : loadRecentMessagesFromCache config now cache = some loaded) (member : message ∈ loaded) :
  ∃ id ∈ cache.recent, cache.payloads.get now id = some message := by
 unfold loadRecentMessagesFromCache at loads
 dsimp only at loads
 split at loads
 · cases loads
 · split at loads
   · cases loads
   · cases loads
     obtain ⟨id, listed, found⟩ := mem_filterMap.mp (mem_reverse.mp member)
     exact ⟨id, mem_of_mem_take (mem_filter.mp listed).1, found⟩

theorem mem_fillUp {table : MessageTable} {lastSeen cachedMessages : Nat} {row : Message}
  (member : row ∈ fillUp config table lastSeen cachedMessages added) : row ∈ table.rows := by
 unfold fillUp at member
 dsimp only at member
 generalize (if config.recentLimit ≤ cachedMessages then 0 else config.recentLimit - cachedMessages) = budget at member
 split at member
 · cases member
 · have filtered := mem_of_mem_drop (mem_of_mem_drop member)
   exact (mem_filter.mp (mem_of_mem_take (mem_filter.mp filtered).1)).1

theorem mem_sendSnapshot {redis : Option RecentCache} {db : Option MessageTable}
  {lastSeen : Option Nat} (member : message ∈ (sendSnapshot config now redis db lastSeen).1) :
  (∃ cache ∈ redis, ∃ id ∈ cache.recent, cache.payloads.get now id = some message) \/
    ∃ table ∈ db, ∃ row ∈ table.rows, snapshotMessage row = message := by
 have cached (inCache : message ∈ ((redis.bind (loadRecentMessagesFromCache config now)).getD []).foldl addCached []) :
   ∃ cache ∈ redis, ∃ id ∈ cache.recent, cache.payloads.get now id = some message := by
  obtain nothing | loaded := mem_foldl_addCached inCache
  · cases nothing
  · cases loads : redis.bind (loadRecentMessagesFromCache config now) with
    | none =>
     rw [loads] at loaded
     cases loaded
    | some messages =>
     rw [loads] at loaded
     obtain ⟨cache, present, loads⟩ := Option.bind_eq_some_iff.mp loads
     exact ⟨cache, present, mem_loadRecentMessagesFromCache loads loaded⟩
 unfold sendSnapshot at member
 dsimp only at member
 split at member
 · exact .inl (cached member)
 next table =>
  split at member
  · exact .inl (cached member)
  · obtain inCache | fetched := mem_append.mp member
    · exact .inl (cached inCache)
    · obtain ⟨row, filled, shown⟩ := mem_map.mp fetched
      exact .inr ⟨table, rfl, row, mem_fillUp filled, shown⟩
end

def sampleRow (id : Nat) : Message := ⟨id, some "kim", "hello", 0⟩

def sampleTable (ids : List Nat) (ascending : ids.Pairwise (· < ·)) : MessageTable where
 rows := ids.map sampleRow
 ascending := by simpa [sampleRow, Function.comp_def] using ascending

theorem consecutive_ids_are_exact :
  (sendSnapshot { recentLimit := 3 } 0 (some {}) (some (sampleTable [4, 5, 6, 7, 8] (by decide))) (some 8)).1.map
  (·.id) =
    [6, 7, 8] :=
 (snapshot_holds_the_latest { recentLimit := 3 } 0 (sampleTable [4, 5, 6, 7, 8] (by decide)) {} (some 8) (by decide)
  (by decide) (by decide +kernel)).mpr (by decide +kernel)

/-- Other rooms' messages lie between: of three messages only the last is within three of the
last id, and it is all that a new viewer gets. -/
theorem gaps_hide_messages :
  (sendSnapshot { recentLimit := 3 } 0 (some {}) (some (sampleTable [10, 20, 30] (by decide))) none).1.map
  (·.id) = [30] /\ (sampleTable [10, 20, 30] (by decide)).latest 3 = [10, 20, 30] := by
 decide +kernel

-- With the two latest of five consecutive messages in Redis the third comes after them.
example :
  let cache := ([4, 5].map fun id => snapshotMessage (sampleRow id)).foldl (cacheRecentMessage {} 0) {}
  (sendSnapshot { recentLimit := 3 } 0 (some cache) (some (sampleTable [1, 2, 3, 4, 5] (by decide))) none).1.map
  (·.id) =
    [4, 5, 3] := by
 decide +kernel

inductive Repair
 | loaded (cached : List SnapshotMessage)
 | writing (rows : List SnapshotMessage)

structure RoomHistory where
 table : MessageTable := ⟨[], .nil⟩
 cache : RecentCache := {}
 -- messages that `dispatch_room_message` has persisted and not cached yet
 dispatched : List SnapshotMessage := []
 repairs : List Repair := []

inductive HistoryAction
 | persist (row : Message) (prepared : SnapshotMessage)
 | cache (index : Nat)
 | load
 | fetch (index lastSeen : Nat)
 | repair (index : Nat)

section

variable (config : HistoryConfig) (now : Nat) (cache : RecentCache) (table : MessageTable)

def missingRows (lastSeen : Nat) (cached : List SnapshotMessage) : List SnapshotMessage :=
 if cached ≠ [] /\ config.recentLimit ≤ cached.length then []
 else (fillUp config table lastSeen cached.length (cached.foldl addCached [])).map snapshotMessage

theorem sendSnapshot_eq (lastSeen : Option Nat) :
  sendSnapshot config now (some cache) (some table) lastSeen =
   let cached := cache.cached config now
   let rows := missingRows config table (lastSeen.getD 0) cached
   (cached.foldl addCached [] ++ rows, some (rows.foldl (cacheRecentMessage config now) cache)) := by
 have read : ((some cache).bind (loadRecentMessagesFromCache config now)).getD [] = cache.cached config now := rfl
 simp only [sendSnapshot, missingRows, read]
 split
 · simp
 · rfl

end

namespace RoomHistory

section

variable (config : HistoryConfig) (now : Nat) (history : RoomHistory)

def writes : HistoryAction -> Option SnapshotMessage
 | .cache index => history.dispatched[index]?
 | .repair index =>
  match history.repairs[index]? with
  | some (.writing (row :: _)) => some row
  | _ => none
 | .persist .. | .load | .fetch .. => none

def step : HistoryAction -> Option RoomHistory
 | .persist row prepared =>
  if above : ∀ other ∈ history.table.rows, other.id < row.id then
   some { history with
    table := ⟨history.table.rows ++ [row], by simpa [pairwise_append, history.table.ascending] using above⟩
    dispatched := history.dispatched ++ [{ prepared with id := row.id }] }
  else none
 | .cache index =>
  history.dispatched[index]?.map fun message =>
   { history with
     cache := cacheRecentMessage config now history.cache message
     dispatched := history.dispatched.eraseIdx index }
 | .load => some { history with repairs := history.repairs ++ [.loaded (history.cache.cached config now)] }
 | .fetch index lastSeen =>
  match history.repairs[index]? with
  | some (.loaded cached) =>
   some { history with
    repairs := history.repairs.set index (.writing (missingRows config history.table lastSeen cached)) }
  | _ => none
 | .repair index =>
  match history.repairs[index]? with
  | some (.writing (row :: rest)) =>
   some { history with
    cache := cacheRecentMessage config now history.cache row
    repairs := history.repairs.set index (.writing rest) }
  | _ => none

def machine : Machine RoomHistory HistoryAction := ⟨step config now⟩

abbrev WritesNewer (action : HistoryAction) : Prop :=
 ∀ message ∈ history.writes action, ∀ id ∈ history.cache.recent, id < message.id

end

theorem cache_step {config : HistoryConfig} {now : Nat} {history next : RoomHistory}
  {action : HistoryAction} (taken : (machine config now).step history action = some next) :
  next.cache = (history.writes action).elim history.cache (cacheRecentMessage config now history.cache) := by
 cases action with
 | persist row prepared =>
  obtain ⟨_, ⟨⟩⟩ := Option.dite_none_right_eq_some.mp taken
  rfl
 | cache index =>
  obtain ⟨message, found, rfl⟩ := Option.map_eq_some_iff.mp taken
  simp [writes, found]
 | load =>
  cases taken
  rfl
 | fetch index lastSeen =>
  simp only [machine, step] at taken
  split at taken <;> cases taken
  rfl
 | repair index =>
  simp only [machine, step] at taken
  split at taken <;> cases taken
  next found => simp [writes, found]

end RoomHistory

structure RecentCache.Ordered (cache : RecentCache) (now : Nat) : Prop where
 descending : cache.recent.Pairwise (· > ·)
 stored : ∀ id ∈ cache.recent, id ≠ 0 /\ ∃ message, cache.payloads.get now id = some message /\ message.id = id
 newest : ∀ id, (cache.payloads.get now id).isSome = true -> id ∈ cache.recent \/
  (cache.recent ≠ [] /\ ∀ other ∈ cache.recent, id < other)

variable {config : HistoryConfig} {now : Nat} {cache : RecentCache}

theorem RecentCache.Ordered.take (ordered : cache.Ordered now) {count : Nat} (positive : 0 < count) :
  { cache with recent := cache.recent.take count }.Ordered now := by
 refine ⟨ordered.descending.sublist (take_sublist ..), fun id member => ordered.stored id (mem_of_mem_take member),
  fun id present => ?_⟩
 have some : cache.recent ≠ [] -> cache.recent.take count ≠ [] := by simp [ne_of_gt positive]
 obtain named | ⟨nonempty, older⟩ := ordered.newest id present
 · have descending := ordered.descending
   rw [<- take_append_drop count cache.recent] at named descending
   refine (mem_append.mp named).imp_right fun dropped => ⟨some (ne_nil_of_mem (mem_of_mem_drop dropped)), ?_⟩
   exact fun other kept => (pairwise_append.mp descending).2.2 other kept id dropped
 · exact .inr ⟨some nonempty, fun other kept => older other (mem_of_mem_take kept)⟩

theorem RecentCache.Ordered.push {message : SnapshotMessage} (ordered : cache.Ordered now)
  (ttl : 0 < config.cacheTtlSec)
  (newer : ∀ id ∈ cache.recent, id < message.id) : (cacheRecentMessage config now cache message).Ordered now := by
 unfold cacheRecentMessage
 split
 · exact ordered
 next nonzero =>
 have get (id : Nat) : (cache.payloads.setEx now message.id message config.cacheTtlSec).get now id =
   if id = message.id then some message else cache.payloads.get now id := by
  by_cases same : id = message.id <;> simp [ExpiringStore.setEx, ExpiringStore.get, Table.lookup_insert_ite, same, ttl]
 have descending : (message.id :: cache.recent).Pairwise (· > ·) := pairwise_cons.mpr ⟨newer, ordered.descending⟩
 -- the list before it is trimmed
 have whole : RecentCache.Ordered ⟨message.id :: cache.recent,
   cache.payloads.setEx now message.id message config.cacheTtlSec⟩ now := by
  refine ⟨descending, fun id member => ?_, fun id present => ?_⟩
  · rw [get]
    split
    next same => exact ⟨same ▸ nonzero, message, rfl, same.symm⟩
    next different => exact ordered.stored id ((mem_cons.mp member).resolve_left different)
  · rw [get] at present
    split at present
    next same => exact .inl (same ▸ mem_cons_self)
    · obtain named | ⟨some, older⟩ := ordered.newest id present
      · exact .inl (mem_cons_of_mem _ named)
      · obtain ⟨first, member⟩ := exists_mem_of_ne_nil _ some
        refine .inr ⟨cons_ne_nil _ _, forall_mem_cons.mpr ⟨?_, older⟩⟩
        exact lt_trans (older first member) (newer first member)
 split
 next trims => exact whole.take trims
 · exact whole

theorem RecentCache.Ordered.loaded (ordered : cache.Ordered now) {messages : List SnapshotMessage}
  (loads : loadRecentMessagesFromCache config now cache = some messages) :
  0 < config.recentLimit /\ messages.map (·.id) = (cache.recent.take config.recentLimit).reverse := by
 unfold loadRecentMessagesFromCache at loads
 split at loads
 · cases loads
 next limit =>
 refine ⟨Nat.pos_of_ne_zero limit, ?_⟩
 have stored : ∀ id ∈ cache.recent.take config.recentLimit, id ≠ 0 /\
   ∃ message, cache.payloads.get now id = some message /\ message.id = id :=
  fun id member => ordered.stored id (mem_of_mem_take member)
 have valid : (cache.recent.take config.recentLimit).filter (· ≠ 0) = cache.recent.take config.recentLimit :=
  filter_eq_self.mpr fun id member => decide_eq_true (stored id member).1
 have ids : ∀ ids : List Nat, (∀ id ∈ ids, id ≠ 0 /\ ∃ message, cache.payloads.get now id = some message /\
   message.id = id) -> (ids.filterMap (cache.payloads.get now)).map (·.id) = ids := by
  intro ids all
  induction ids with
  | nil => rfl
  | cons id rest ih =>
   obtain ⟨-, message, found, same⟩ := all id mem_cons_self
   rw [filterMap_cons_some found, map_cons, same, ih fun other member => all other (mem_cons_of_mem _ member)]
 dsimp only at loads
 rw [valid] at loads
 split at loads <;> cases loads
 rw [map_reverse, ids _ stored]

/-- As long as whatever is cached is newer than all that the list names, what is loaded from the cache
is in order, each message once, and every cached message that is left out is older. -/
theorem cached_messages_are_the_newest (config : HistoryConfig) (now : Nat)
  (ttl : 0 < config.cacheTtlSec) (trace : List HistoryAction) (final : RoomHistory)
  (newer : (RoomHistory.machine config now).Guarded RoomHistory.WritesNewer {} trace)
  (ran : (RoomHistory.machine config now).run {} trace = some final) (messages : List SnapshotMessage)
  (loads : loadRecentMessagesFromCache config now final.cache = some messages) :
  (messages.map (·.id)).Pairwise (· < ·) /\ ∀ id, (final.cache.payloads.get now id).isSome = true ->
    id ∉ messages.map (·.id) -> ∀ message ∈ messages, id < message.id := by
 have initial : RecentCache.Ordered {} now := ⟨.nil, nofun, fun id present => by cases present⟩
 have kept : ∀ history action next, RecentCache.Ordered history.cache now ->
  RoomHistory.WritesNewer history action ->
   (RoomHistory.machine config now).step history action = some next -> next.cache.Ordered now := by
  intro history action next ordered newer taken
  rw [RoomHistory.cache_step taken]
  cases writes : history.writes action with
  | none => exact ordered
  | some message => exact ordered.push ttl (newer message writes)
 have ordered : final.cache.Ordered now := (RoomHistory.machine config now).run_invariant kept initial newer ran
 obtain ⟨limit, ids⟩ := ordered.loaded loads
 have recent := ordered.take limit
 rw [ids, pairwise_reverse]
 refine ⟨recent.descending, fun id present absent message member => ?_⟩
 have named := mem_map_of_mem (f := (·.id)) member
 rw [ids, mem_reverse] at named
 exact ((recent.newest id present).resolve_left (mt mem_reverse.mpr absent)).2 message.id named

def sampleMessage : SnapshotMessage := ⟨0, "kim", "hello", 0⟩

theorem second_message_is_loaded_last :
  ∃ final messages, (RoomHistory.machine {} 0).run {}
   [.persist (sampleRow 1) sampleMessage, .load, .fetch 0 0, .repair 0, .persist (sampleRow 2) sampleMessage, .cache 1] =
     some final /\
   loadRecentMessagesFromCache {} 0 final.cache = some messages /\ messages.map (·.id) = [1, 2] /\
   (messages.map (·.id)).Pairwise (· < ·) := by
 obtain ⟨final, ran, messages, loads, ids⟩ : ∃ final ∈ (RoomHistory.machine {} 0).run {}
  [.persist (sampleRow 1) sampleMessage, .load, .fetch 0 0, .repair 0, .persist (sampleRow 2) sampleMessage, .cache 1],
  ∃ messages ∈ loadRecentMessagesFromCache {} 0 final.cache, messages.map (·.id) = [1, 2] := by decide +kernel
 exact ⟨final, messages, ran, loads, ids,
  (cached_messages_are_the_newest {} 0 (by decide) _ final (by decide +kernel) ran messages loads).1⟩

/-- A snapshot fetches a message that is persisted and not cached yet, and writes it back after it and the
next one have been cached. -/
theorem repair_puts_an_older_message_first :
  ∃ final, (RoomHistory.machine {} 0).run {}
   [.persist (sampleRow 1) sampleMessage, .load, .fetch 0 0, .cache 0, .persist (sampleRow 2) sampleMessage, .cache 0,
     .repair 0] = some final /\
   (loadRecentMessagesFromCache {} 0 final.cache).map (·.map (·.id)) = some [1, 2, 1] :=
 (RoomHistory.machine {} 0).exists_final (by decide +kernel)

end Dynaxis.Chat.History
