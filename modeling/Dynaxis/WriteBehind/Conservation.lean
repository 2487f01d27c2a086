import Dynaxis.WriteBehind.Durability
import Dynaxis.WriteBehind.Replayer
import Mathlib.Data.List.Nodup

namespace Dynaxis.WriteBehind.Dlq

open Shared List Dlq.Stores

section

variable (stores : Stores) (event : Nat) (id : String)

def Stores.unread : List Letter :=
 match stores.group with
 | none => stores.dlq
 | some group => stores.dlq.take group.start ++ stores.dlq.drop group.delivered

def Stores.Secures : Prop :=
 (∃ letter ∈ stores.unread, letter.event = event) \/
 (∃ letter ∈ stores.dead, letter.event = event) \/
 id ∈ stores.rows.map SessionEventRow.eventId

def Stores.Conserves : Prop :=
 (∃ letter ∈ stores.dlq, letter.event = event /\ letter.entry.id ∈ stores.pending) \/
 stores.Secures event id

def Phase.letters : Phase -> List Letter
 | .start | .read => []
 | .batch rest => rest
 | .handleFailure letter _ rest | .ack letter rest => letter :: rest

def Stores.Ranged : Prop :=
 ∀ group ∈ stores.group, group.start ≤ group.delivered /\ group.delivered ≤ stores.dlq.length

end

structure World.Conserved (world : World) : Prop where
 distinct : (world.stores.dlq.map (·.entry.id)).Nodup
 group : ∀ group ∈ world.stores.group,
  group.start ≤ group.delivered /\ group.delivered ≤ world.stores.dlq.length
 lineage : ∀ letter ∈ world.stores.dlq ++ world.stores.dead,
  ∃ e, world.entered[letter.event]? = some e /\ origId letter.entry = origId e
 listed : ∀ letter ∈ world.phase.letters, letter ∈ world.stores.dlq
 conserves : ∀ event e, world.entered[event]? = some e -> world.stores.Conserves event (origId e)
 secures : ∀ letter rest, world.phase = .ack letter rest ->
  world.stores.Secures letter.event (origId letter.entry)

section

variable {stores later : Stores} {event : Nat} {id : String} {letter : Letter} {group : Group}

theorem Stores.mem_dlq_of_unread (unread : letter ∈ stores.unread) : letter ∈ stores.dlq := by
 unfold Stores.unread at unread
 split at unread
 · exact unread
 · rcases mem_append.mp unread with old | new
   · exact mem_of_mem_take old
   · exact mem_of_mem_drop new

theorem Stores.unread_append (letter : Letter) (bounds : stores.Ranged) :
  { stores with dlq := stores.dlq ++ [letter] }.unread = stores.unread ++ [letter] := by
 unfold unread
 cases known : stores.group with
 | none => rfl
 | some group =>
  obtain ⟨ordered, bounded⟩ := bounds group known
  dsimp only
  rw [take_append_of_le_length (by omega), drop_append_of_le_length bounded, append_assoc]

theorem Stores.unread_createGroup : stores.createGroup.unread = stores.unread := by
 unfold createGroup
 split
 · rfl
 next missing => simp [unread, missing]

theorem Stores.deliver_append (group : Group) (count : Nat) : (stores.deliver group count).2 ++
    stores.dlq.drop (group.delivered + (stores.deliver group count).2.length) =
    stores.dlq.drop group.delivered := by
 -- a read takes its entries from the front of what is left of the stream
 simp only [deliver, <- drop_drop]
 generalize stores.dlq.drop group.delivered = left
 rcases Nat.le_total count left.length with short | long
 · rw [length_take_of_le short, take_append_drop]
 · rw [take_of_length_le long, drop_length, append_nil]

theorem Stores.unread_deliver (known : stores.group = some group) (count : Nat) (unread : letter ∈ stores.unread) :
  letter ∈ (stores.deliver group count).1.unread \/ letter ∈ (stores.deliver group count).2 := by
 simp only [Stores.unread, known, Stores.deliver, mem_append] at unread ⊢
 rcases unread with old | new
 · exact .inl (.inl old)
 · rw [<- stores.deliver_append group count, mem_append] at new
   rcases new with read | later
   · exact .inr read
   · exact .inl (.inr later)

theorem Stores.Secures.mono (secured : stores.Secures event id)
  (unread : ∀ letter ∈ stores.unread, letter ∈ later.unread) (dead : ∀ letter ∈ stores.dead, letter ∈ later.dead)
  (rows : id ∈ stores.rows.map SessionEventRow.eventId -> id ∈ later.rows.map SessionEventRow.eventId) :
  later.Secures event id := by
 rcases secured with ⟨letter, member, same⟩ | ⟨letter, member, same⟩ | row
 · exact .inl ⟨letter, unread letter member, same⟩
 · exact .inr (.inl ⟨letter, dead letter member, same⟩)
 · exact .inr (.inr (rows row))

theorem Stores.Secures.append (secured : stores.Secures event id) (letter : Letter) (bounds : stores.Ranged) :
  { stores with dlq := stores.dlq ++ [letter] }.Secures event id := by
 refine secured.mono (fun other unread => ?_) (fun _ dead => dead) fun row => row
 rw [stores.unread_append letter bounds]
 exact mem_append_left _ unread

theorem Stores.Conserves.append (conserved : stores.Conserves event id) (letter : Letter) (bounds : stores.Ranged) :
  { stores with dlq := stores.dlq ++ [letter] }.Conserves event id := by
 rcases conserved with ⟨other, member, same, pending⟩ | secured
 · exact .inl ⟨other, mem_append_left _ member, same, pending⟩
 · exact .inr (secured.append letter bounds)

theorem Stores.Secures.insert (secured : stores.Secures event id) (e : StreamEntry) :
  (stores.insert e).Secures event id :=
 secured.mono (fun _ unread => unread) (fun _ dead => dead) fun row => (mem_eventIds_insertRow _ _ _).mpr (.inl row)

theorem Stores.Secures.moveToDeadStream (secured : stores.Secures event id) (letter : Letter) (what newId : String) :
  (stores.moveToDeadStream letter what newId).Secures event id :=
 secured.mono (fun _ unread => unread) (fun _ dead => mem_append_left _ dead) fun row => row

theorem Stores.Secures.createGroup (secured : stores.Secures event id) : stores.createGroup.Secures event id := by
 refine secured.mono (fun _ unread => by rwa [unread_createGroup]) ?_ ?_ <;>
  (unfold Stores.createGroup; split <;> simp)

variable (conserved : stores.Conserves event id)
include conserved

theorem Stores.Conserves.createGroup : stores.createGroup.Conserves event id := by
 rcases conserved with ⟨letter, member, same, pending⟩ | secured
 · refine .inl ⟨letter, ?_, same, ?_⟩ <;> (unfold Stores.createGroup; split <;> assumption)
 · exact .inr secured.createGroup

theorem Stores.Conserves.deliver (known : stores.group = some group) (count : Nat) :
  (stores.deliver group count).1.Conserves event id := by
 rcases conserved with ⟨letter, member, same, pending⟩ | ⟨letter, unread, same⟩ | settled
 · exact .inl ⟨letter, member, same, mem_append_left _ pending⟩
 · rcases stores.unread_deliver known count unread with still | read
   · exact .inr (.inl ⟨letter, still, same⟩)
   · exact .inl ⟨letter, stores.mem_dlq_of_unread unread, same, mem_append_right _ (mem_map_of_mem read)⟩
 · exact .inr (.inr settled)

theorem Stores.Conserves.xack (distinct : (stores.dlq.map (·.entry.id)).Nodup) (listed : letter ∈ stores.dlq)
  (safe : letter.event = event -> stores.Secures event id) (ok : Bool) :
  (stores.xack letter.entry.id ok).Conserves event id := by
 cases ok with
 | false => exact conserved
 | true =>
  rcases conserved with ⟨other, member, same, pending⟩ | secured
  · by_cases here : letter.event = event
    · exact .inr (safe here)
    · -- the ids of the stream differ, so only the letter it names leaves the pending list
      refine .inl ⟨other, member, same, (mem_erase_of_ne ?_).mpr pending⟩
      intro sameId
      have : other = letter := inj_on_of_nodup_map distinct member listed sameId
      exact here (this ▸ same)
  · exact .inr secured

omit conserved

end

theorem Stores.nodup_append_fresh {stores : Stores} {letter : Letter}
  (distinct : (stores.dlq.map (·.entry.id)).Nodup) (fresh : stores.fresh letter.entry.id = true) :
  ((stores.dlq ++ [letter]).map (·.entry.id)).Nodup := by
 rw [map_append]
 exact (perm_append_singleton _ _).nodup_iff.mpr (nodup_cons.mpr ⟨of_decide_eq_true fresh, distinct⟩)

theorem getElem?_append_of_some {α : Type} {items : List α} {index : Nat} {item : α}
  (found : items[index]? = some item) (more : List α) : (items ++ more)[index]? = some item := by
 rw [List.getElem?_append_left (List.getElem?_eq_some_iff.mp found).1, found]

variable {config : ReplayerConfig} {world next : World} {action : Action}

theorem World.Conserved.move (conserved : world.Conserved) (stores : next.stores = world.stores)
  (entered : next.entered = world.entered) (letters : next.phase.letters ⊆ world.phase.letters)
  (noAck : ∀ letter rest, next.phase ≠ .ack letter rest) : next.Conserved where
 distinct := stores ▸ conserved.distinct
 group := stores ▸ conserved.group
 lineage := by rw [stores, entered]; exact conserved.lineage
 listed := fun letter member => stores ▸ conserved.listed letter (letters member)
 conserves := by rw [stores, entered]; exact conserved.conserves
 secures := fun letter rest here => absurd here (noAck letter rest)

variable {letter : Letter} {rest : List Letter} (conserved : world.Conserved)
include conserved

theorem World.Conserved.append (fresh : world.stores.fresh letter.entry.id = true)
  {entered : List StreamEntry} {phase : Phase}
  (kept : ∀ (event : Nat) e, world.entered[event]? = some e -> entered[event]? = some e)
  (origin : ∃ e, entered[letter.event]? = some e /\ origId letter.entry = origId e)
  (added : ∀ (event : Nat) e, entered[event]? = some e -> world.entered[event]? = some e \/ letter.event = event)
  (letters : phase.letters ⊆ world.phase.letters)
  (acked : ∀ other rest, phase = .ack other rest -> world.phase = phase \/ letter.event = other.event) :
  World.Conserved
   { world with stores := { world.stores with dlq := world.stores.dlq ++ [letter] }, entered, phase } := by
 have unread : letter ∈ { world.stores with dlq := world.stores.dlq ++ [letter] }.unread := by
  rw [unread_append letter conserved.group]
  exact mem_append_right _ (mem_singleton_self _)
 constructor
 · exact nodup_append_fresh conserved.distinct fresh
 · intro group known
   have := conserved.group group known
   simp only [length_append, length_singleton]
   omega
 · intro other member
   simp only [mem_append, mem_singleton] at member
   rcases member with (old | rfl) | dead
   · obtain ⟨e, found, same⟩ := conserved.lineage other (mem_append_left _ old)
     exact ⟨e, kept _ e found, same⟩
   · exact origin
   · obtain ⟨e, found, same⟩ := conserved.lineage other (mem_append_right _ dead)
     exact ⟨e, kept _ e found, same⟩
 · exact fun other member => mem_append_left _ (conserved.listed other (letters member))
 · intro event e found
   rcases added event e found with before | new
   · exact (conserved.conserves event e before).append letter conserved.group
   · exact .inr (.inl ⟨letter, unread, new⟩)
 · intro other rest here
   rcases acked other rest here with before | new
   · exact (conserved.secures other rest (before.trans here)).append letter conserved.group
   · exact .inl ⟨letter, unread, new⟩

theorem World.Conserved.createGroup :
  World.Conserved { world with stores := world.stores.createGroup, phase := .batch [] } := by
 constructor
 · simpa using conserved.distinct
 · intro group known
   rw [createGroup_dlq]
   unfold Stores.createGroup at known
   split at known
   · exact conserved.group group known
   · cases known
     exact ⟨Nat.le_refl _, Nat.le_refl _⟩
 · simpa using conserved.lineage
 · exact fun letter member => absurd member not_mem_nil
 · exact fun event e found => (conserved.conserves event e found).createGroup
 · exact fun letter rest here => nomatch here

theorem World.Conserved.deliver {group : Group} (known : world.stores.group = some group) (count : Nat) :
  World.Conserved { world with
     stores := (world.stores.deliver group count).1, phase := .batch (world.stores.deliver group count).2 } := by
 constructor
 · exact conserved.distinct
 · intro after same
   cases same
   have := conserved.group group known
   simp only [Stores.deliver, length_take, length_drop]
   omega
 · exact conserved.lineage
 · exact fun letter member => mem_of_mem_drop (mem_of_mem_take member)
 · exact fun event e found => (conserved.conserves event e found).deliver known count
 · exact fun letter rest here => nomatch here

theorem World.Conserved.xack (here : world.phase = .ack letter rest) (ok : Bool) :
  World.Conserved { world with stores := world.stores.xack letter.entry.id ok, phase := .batch rest } := by
 have letters : world.phase.letters = letter :: rest := by rw [here]; rfl
 have listed : letter ∈ world.stores.dlq := conserved.listed letter (letters ▸ mem_cons_self)
 constructor
 · simpa using conserved.distinct
 · simpa using conserved.group
 · simpa using conserved.lineage
 · intro other member
   rw [xack_dlq]
   exact conserved.listed other (letters ▸ mem_cons_of_mem _ member)
 · intro event e found
   refine (conserved.conserves event e found).xack conserved.distinct listed (fun here' => ?_) ok
   -- the letter was acknowledged because its event is safe elsewhere
   obtain ⟨e', found', sameId⟩ := conserved.lineage letter (mem_append_left _ listed)
   rw [here', found] at found'
   obtain rfl := Option.some.inj found'
   rw [<- here', <- sameId]
   exact conserved.secures letter rest here
 · exact fun letter rest here => nomatch here

theorem World.Conserved.settle (entered : next.entered = world.entered)
  (dlq : next.stores.dlq = world.stores.dlq) (group : next.stores.group = world.stores.group)
  (pending : next.stores.pending = world.stores.pending)
  (secures : ∀ event id, world.stores.Secures event id -> next.stores.Secures event id)
  (dead : ∀ letter ∈ next.stores.dead, letter ∈ world.stores.dead \/
    ∃ old ∈ world.stores.dlq, old.event = letter.event /\ origId old.entry = origId letter.entry)
  (letters : next.phase.letters ⊆ world.phase.letters)
  (acked : ∀ letter rest, next.phase = .ack letter rest ->
    next.stores.Secures letter.event (origId letter.entry)) : next.Conserved where
 distinct := dlq ▸ conserved.distinct
 group := by rw [dlq, group]; exact conserved.group
 lineage := by
  intro letter member
  rw [dlq, mem_append] at member
  rw [entered]
  rcases member with listed | buried
  · exact conserved.lineage letter (mem_append_left _ listed)
  · rcases dead letter buried with before | ⟨old, listed, sameEvent, sameId⟩
    · exact conserved.lineage letter (mem_append_right _ before)
    · rw [<- sameEvent, <- sameId]
      exact conserved.lineage old (mem_append_left _ listed)
 listed := fun letter member => dlq ▸ conserved.listed letter (letters member)
 conserves := by
  intro event e found
  rw [entered] at found
  rcases conserved.conserves event e found with ⟨letter, listed, same, waits⟩ | secured
  · exact .inl ⟨letter, dlq ▸ listed, same, pending ▸ waits⟩
  · exact .inr (secures event _ secured)
 secures := acked

theorem World.Conserved.processEntry (here : world.phase = .batch (letter :: rest))
  (outcome : InsertOutcome) : (world.processEntry letter rest outcome).Conserved := by
 have inserted (event : Nat) (id : String) (secured : world.stores.Secures event id) :
  (world.stores.insert letter.entry).Secures event id := secured.insert letter.entry
 have current : letter :: rest ⊆ world.phase.letters := by simp [here, Phase.letters]
 have later : rest ⊆ world.phase.letters := List.Subset.trans (subset_cons_self _ _) current
 cases outcome with
 | stored =>
  -- the row that was just inserted is what makes the acknowledgement safe
  refine conserved.settle rfl rfl rfl rfl inserted (fun _ dead => .inl dead) current ?_
  intro acked _ same
  obtain ⟨rfl, -⟩ := Phase.ack.inj same
  exact .inr (.inr ((mem_eventIds_insertRow _ _ _).mpr (.inr rfl)))
 | brokenConnection applied =>
  -- the letter stays pending, whether or not the transaction got through
  cases applied with
  | true => exact conserved.settle rfl rfl rfl rfl inserted (fun _ dead => .inl dead) later nofun
  | false => exact conserved.move rfl rfl later nofun
 | exception what applied =>
  cases applied with
  | true => exact conserved.settle rfl rfl rfl rfl inserted (fun _ dead => .inl dead) current nofun
  | false => exact conserved.move rfl rfl current nofun

theorem step_conserved (taken : (machine config).step world action = some next) :
  next.Conserved := by
 cases step_cases taken with
 | published entry fresh =>
  refine conserved.append fresh (fun event e found => getElem?_append_of_some found _)
   ⟨entry, by simp, rfl⟩ ?_ (List.Subset.refl _) fun _ _ _ => .inl rfl
  intro event e found
  by_cases new : world.entered.length = event
  · exact .inr new
  · have bound := (List.getElem?_eq_some_iff.mp found).1
    rw [length_append, length_singleton] at bound
    exact .inl (by rwa [getElem?_append_left (by omega)] at found)
 | crashed | readFailed here => exact conserved.move rfl rfl (nil_subset _) (by simp)
 | groupCreated here ok =>
  cases ok with
  | true => exact conserved.createGroup
  | false => exact conserved.move rfl rfl (nil_subset _) (by simp)
 | connected here ok => cases ok <;> exact conserved.move rfl rfl (nil_subset _) (by simp)
 | read here group known => exact conserved.deliver known config.batchSize
 | processed letter rest here outcome possible => exact conserved.processEntry here outcome
 | appendFailed letter what rest here =>
  refine conserved.move rfl rfl ?_ (by simp)
  rw [here]
  exact subset_cons_self _ _
 | moved letter what rest here id spent =>
  refine conserved.settle rfl rfl rfl rfl (fun _ _ secured => secured.moveToDeadStream letter what id) ?_ ?_ ?_
  · intro buried member
    rcases mem_append.mp member with before | new
    · exact .inl before
    · obtain rfl := mem_singleton.mp new
      exact .inr ⟨letter, conserved.listed letter (by simp [here, Phase.letters]), rfl, by simp⟩
  · simp [here, Phase.letters]
  · intro acked rest same
    obtain ⟨rfl, rfl⟩ := Phase.ack.inj same
    exact .inr (.inl ⟨_, mem_append_right _ (mem_singleton_self _), rfl⟩)
 | retried letter what rest here id unspent fresh =>
  have listed : letter ∈ world.stores.dlq := conserved.listed letter (by simp [here, Phase.letters])
  refine conserved.append fresh (fun _ _ found => found) ?_ (fun _ _ found => .inl found) ?_ ?_
  · simpa using conserved.lineage letter (mem_append_left _ listed)
  · simp [here, Phase.letters]
  · intro other _ same
    obtain ⟨rfl, -⟩ := Phase.ack.inj same
    exact .inr rfl
 | acked letter rest here ok => exact conserved.xack here ok

omit conserved

end Dynaxis.WriteBehind.Dlq
