import Dynaxis.WriteBehind.Conservation

namespace Dynaxis.WriteBehind.Dlq

open Shared List Dlq.Phase Dlq.Stores Dlq.World

def Phase.rest : Phase -> List Letter
 | .start | .read => []
 | .batch rest | .handleFailure _ _ rest | .ack _ rest => rest

def Stores.undelivered (stores : Stores) : List Letter :=
 match stores.group with
 | none => stores.dlq
 | some group => stores.dlq.drop group.delivered

def World.waiting (world : World) : List Letter := world.phase.rest ++ world.stores.undelivered

def World.attempts (world : World) (event : Nat) : Nat := world.handed.countP (·.event = event)

inductive World.Flow (config : ReplayerConfig) (world next : World) : Prop
 | thinned (handed : next.handed = world.handed) (waiting : next.waiting.Sublist world.waiting)
  (dlq : next.stores.dlq = world.stores.dlq) (entered : next.entered = world.entered)
  (quiet : ∀ letter what rest, next.phase ≠ .handleFailure letter what rest)
 | published (entry : StreamEntry) (fresh : world.stores.fresh entry.id = true)
  (handed : next.handed = world.handed)
  (waiting : next.waiting = world.waiting ++ [⟨entry, world.entered.length⟩])
  (dlq : next.stores.dlq = world.stores.dlq ++ [⟨entry, world.entered.length⟩])
  (entered : next.entered = world.entered ++ [entry]) (phase : next.phase = world.phase)
 | retried (letter : Letter) (what : String) (rest : List Letter) (id : String)
  (here : world.phase = .handleFailure letter what rest) (unspent : exhausted config letter.entry = false)
  (fresh : world.stores.fresh id = true) (handed : next.handed = world.handed)
  (waiting : next.waiting = world.waiting ++ [⟨⟨id, retryLater letter.entry what⟩, letter.event⟩])
  (dlq : next.stores.dlq = world.stores.dlq ++ [⟨⟨id, retryLater letter.entry what⟩, letter.event⟩])
  (entered : next.entered = world.entered) (phase : next.phase = .ack letter rest)
 | handedOver (letter : Letter) (handed : next.handed = world.handed ++ [letter])
  (waiting : world.waiting = letter :: next.waiting) (dlq : next.stores.dlq = world.stores.dlq)
  (entered : next.entered = world.entered)
  (current : ∀ other what rest, next.phase = .handleFailure other what rest -> other = letter)

section

variable {config : ReplayerConfig} {world next : World} {action : Action} {stores : Stores} {letter : Letter}

theorem Stores.undelivered_append (letter : Letter) (bounds : stores.Ranged) :
  { stores with dlq := stores.dlq ++ [letter] }.undelivered = stores.undelivered ++ [letter] := by
 unfold undelivered
 cases known : stores.group with
 | none => rfl
 | some group => exact drop_append_of_le_length (bounds group known).2

theorem Stores.undelivered_createGroup (stores : Stores) :
  stores.createGroup.undelivered.Sublist stores.undelivered := by
 unfold createGroup
 split
 · exact List.Sublist.refl _
 · simp [undelivered]

theorem Stores.mem_dlq_of_undelivered (member : letter ∈ stores.undelivered) : letter ∈ stores.dlq := by
 unfold undelivered at member
 split at member
 · exact member
 · exact mem_of_mem_drop member

theorem World.Conserved.waiting_listed (conserved : world.Conserved) (member : letter ∈ world.waiting) :
  letter ∈ world.stores.dlq := by
 rcases mem_append.mp member with held | undelivered
 · apply conserved.listed
   cases here : world.phase <;> simp_all [rest, letters]
 · exact mem_dlq_of_undelivered undelivered

theorem step_flow (conserved : world.Conserved) (taken : (machine config).step world action = some next) :
  world.Flow config next := by
 cases step_cases taken with
 | published entry fresh =>
  refine .published entry fresh rfl ?_ rfl rfl rfl
  simp [waiting, undelivered_append _ conserved.group]
 | crashed => exact .thinned rfl (sublist_append_right _ _) rfl rfl nofun
 | groupCreated here ok =>
  cases ok with
  | true =>
   refine .thinned rfl ?_ (by simp) rfl nofun
   simpa [waiting, here, rest] using world.stores.undelivered_createGroup
  | false => exact .thinned rfl (by simp [waiting, here, rest]) rfl rfl nofun
 | connected here ok =>
  cases ok <;> exact .thinned rfl (by simp [waiting, here, rest]) rfl rfl nofun
 | readFailed here => exact .thinned rfl (by simp [waiting, here, rest]) rfl rfl nofun
 | read here group known =>
  -- what a read takes from the stream it adds to the batch
  refine .thinned rfl ?_ rfl rfl nofun
  have moved := world.stores.deliver_append group config.batchSize
  simp only [waiting, here, rest, undelivered, known, nil_append]
  exact moved ▸ List.Sublist.refl _
 | processed letter rest here outcome possible =>
  have shifted : world.waiting = letter :: (rest ++ world.stores.undelivered) := by simp [waiting, here, Phase.rest]
  cases outcome with
  | stored => exact .handedOver letter rfl shifted rfl rfl nofun
  | brokenConnection applied => cases applied <;> exact .handedOver letter rfl shifted rfl rfl nofun
  | exception what applied =>
   cases applied <;>
    exact .handedOver letter rfl shifted rfl rfl fun _ _ _ same => (handleFailure.inj same).1.symm
 | appendFailed letter what rest here =>
  exact .thinned rfl (by simp [waiting, here, Phase.rest]) rfl rfl nofun
 | moved letter what rest here id spent =>
  exact .thinned rfl (by simp [waiting, here, Phase.rest, Stores.moveToDeadStream, Stores.undelivered]) rfl rfl nofun
 | retried letter what rest here id unspent fresh =>
  refine .retried letter what rest id here unspent fresh rfl ?_ rfl rfl rfl
  simp [waiting, here, Phase.rest, Stores.retryLater, Stores.undelivered_append _ conserved.group]
 | acked letter rest here ok =>
  refine .thinned rfl ?_ (by simp) rfl nofun
  simp [waiting, here, Phase.rest, undelivered]

end

structure World.Tracked (world : World) : Prop where
 conserved : world.Conserved
 handed : ∀ letter ∈ world.handed, letter ∈ world.stores.dlq
 once : ((world.handed ++ world.waiting).map (·.entry.id)).Nodup

section

variable {config : ReplayerConfig} {world next : World} {action : Action}

theorem World.Tracked.join (tracked : world.Tracked) (conserved : next.Conserved) {letter : Letter}
  (fresh : world.stores.fresh letter.entry.id = true) (handed : next.handed = world.handed)
  (waiting : next.waiting = world.waiting ++ [letter])
  (dlq : next.stores.dlq = world.stores.dlq ++ [letter]) : next.Tracked := by
 refine ⟨conserved, fun other member => ?_, ?_⟩
 · rw [handed] at member
   exact dlq ▸ mem_append_left _ (tracked.handed other member)
 · rw [handed, waiting, <- append_assoc, map_append]
   refine (perm_append_singleton _ _).nodup_iff.mpr (nodup_cons.mpr ⟨fun member => ?_, tracked.once⟩)
   -- whatever was handed over or waits is an entry of the stream, and the id is none of theirs
   obtain ⟨other, flowing, same⟩ := mem_map.mp member
   refine of_decide_eq_true fresh (mem_map.mpr ⟨other, ?_, same⟩)
   rcases mem_append.mp flowing with handed | waiting
   · exact tracked.handed other handed
   · exact tracked.conserved.waiting_listed waiting

theorem step_tracked (tracked : world.Tracked) (taken : (machine config).step world action = some next) :
  next.Tracked := by
 have conserved := step_conserved tracked.conserved taken
 cases step_flow tracked.conserved taken with
 | thinned handed waiting dlq =>
  refine ⟨conserved, by rw [handed, dlq]; exact tracked.handed, ?_⟩
  rw [handed]
  exact tracked.once.sublist (((List.Sublist.refl _).append waiting).map _)
 | published entry fresh handed waiting dlq => exact tracked.join conserved fresh handed waiting dlq
 | retried letter what rest id here unspent fresh handed waiting dlq =>
  exact tracked.join conserved fresh handed waiting dlq
 | handedOver letter handed waiting dlq =>
  refine ⟨conserved, fun other member => ?_, ?_⟩
  · rw [handed, mem_append, mem_singleton] at member
    rw [dlq]
    rcases member with before | rfl
    · exact tracked.handed other before
    · exact tracked.conserved.waiting_listed (waiting ▸ mem_cons_self)
  · -- the letter only moves from one list to the other
    have same : next.handed ++ next.waiting = world.handed ++ world.waiting := by
     rw [handed, waiting, append_assoc, singleton_append]
    rw [same]
    exact tracked.once

end

def attemptLimit (config : ReplayerConfig) : Int := max 1 (i32 config.retryMax)

structure World.Counted (config : ReplayerConfig) (world : World) (event : Nat) : Prop where
 bound : (world.attempts event : Int) ≤ attemptLimit config
 single : world.waiting.countP (·.event = event) ≤ 1
 -- the letter that waits counts the attempts made
 ahead : ∀ letter ∈ world.waiting, letter.event = event ->
  ∃ count : Nat, retryCount letter.entry = count /\ world.attempts event ≤ count /\
   (count : Int) < attemptLimit config
 -- while the last attempt fails, none waits
 failing : ∀ letter what rest, world.phase = .handleFailure letter what rest ->
  letter.event = event -> world.waiting.countP (·.event = event) = 0 /\
   ∃ count : Nat, retryCount letter.entry = count /\ world.attempts event ≤ count + 1 /\
    (count : Int) < attemptLimit config

section

variable {config : ReplayerConfig} {world next : World} {event : Nat}

theorem World.Counted.thin (counted : world.Counted config event)
  (handed : next.handed = world.handed) (waiting : next.waiting.Sublist world.waiting)
  (quiet : ∀ letter what rest, next.phase ≠ .handleFailure letter what rest) : next.Counted config event where
 bound := by simpa [attempts, handed] using counted.bound
 single := waiting.countP_le.trans counted.single
 ahead := fun letter member same => by simpa [attempts, handed] using counted.ahead letter (waiting.subset member) same
 failing := fun letter what rest here => absurd here (quiet letter what rest)

variable {letter : Letter}

theorem World.Counted.joinOther (counted : world.Counted config event)
  (handed : next.handed = world.handed) (waiting : next.waiting = world.waiting ++ [letter])
  (other : letter.event ≠ event)
  (phase : ∀ current what rest, next.phase = .handleFailure current what rest ->
    world.phase = .handleFailure current what rest) : next.Counted config event where
 bound := by simpa [attempts, handed] using counted.bound
 single := by simpa [waiting, other] using counted.single
 ahead := fun waits member same => by
  rw [waiting, mem_append, mem_singleton] at member
  rcases member with before | rfl
  · simpa [attempts, handed] using counted.ahead waits before same
  · exact absurd same other
 failing := fun current what rest here same => by
  simpa [attempts, handed, waiting, other] using counted.failing current what rest (phase _ _ _ here) same

theorem retry_within_limit {config : ReplayerConfig} {e : StreamEntry} {count : Nat} (current : retryCount e = count)
  (limited : (count : Int) < attemptLimit config) (unspent : exhausted config e = false) :
  count + 1 < 2147483648 /\ ((count + 1 : Nat) : Int) < attemptLimit config := by
 simp only [exhausted, current, decide_eq_false_iff_not, attemptLimit, i32] at *
 omega

theorem World.Counted.handOver (counted : world.Counted config event)
  (handed : next.handed = world.handed ++ [letter]) (waiting : world.waiting = letter :: next.waiting)
  (current : ∀ other what rest, next.phase = .handleFailure other what rest -> other = letter) :
  next.Counted config event := by
 obtain ⟨bound, single, ahead, -⟩ := counted
 rw [waiting] at single ahead
 by_cases same : letter.event = event
 · -- the only waiting letter of the event is now in hand
   obtain ⟨count, counts, tried, limited⟩ := ahead letter mem_cons_self same
   have attempts : next.attempts event = world.attempts event + 1 := by simp [attempts, handed, same]
   have none_left : next.waiting.countP (·.event = event) = 0 := by
    simp only [countP_cons, same] at single
    simpa using single
   refine ⟨by omega, by omega, fun other member sameEvent => ?_, fun other what rest here _ => ?_⟩
   · exact absurd sameEvent (by simpa using countP_eq_zero.mp none_left other member)
   · obtain rfl := current other what rest here
     exact ⟨none_left, count, counts, by omega, limited⟩
 · have attempts : next.attempts event = world.attempts event := by simp [attempts, handed, same]
   simp only [countP_cons, same] at single
   refine ⟨by omega, by simpa using single, fun other member sameEvent => ?_,
    fun other what rest here sameEvent => ?_⟩
   · rw [attempts]
     exact ahead other (mem_cons_of_mem _ member) sameEvent
   · exact absurd (current other what rest here ▸ sameEvent) same

theorem World.Counted.retry (counted : world.Counted config event) {what id : String}
  {rest : List Letter} (here : world.phase = .handleFailure letter what rest)
  (unspent : exhausted config letter.entry = false) (handed : next.handed = world.handed)
  (waiting : next.waiting = world.waiting ++ [⟨⟨id, retryLater letter.entry what⟩, letter.event⟩])
  (phase : next.phase = .ack letter rest) (same : letter.event = event) : next.Counted config event := by
 obtain ⟨none_waits, count, counts, tried, limited⟩ := counted.failing letter what rest here same
 obtain ⟨small, within⟩ := retry_within_limit counts limited unspent
 have attempts : next.attempts event = world.attempts event := by simp [attempts, handed]
 refine ⟨attempts ▸ counted.bound, by simp [waiting, none_waits, same], fun other member sameEvent => ?_, ?_⟩
 · rw [waiting, mem_append, mem_singleton] at member
   rcases member with before | rfl
   · exact absurd sameEvent (by simpa using countP_eq_zero.mp none_waits other before)
   · refine ⟨count + 1, retryCount_retryLater letter.entry what id counts small, by omega, within⟩
 · simp [phase]

theorem World.Tracked.countNew (tracked : world.Tracked) {entry : StreamEntry}
  (uncounted : (toMap entry.fields).lookup "retry_count" = none) (handed : next.handed = world.handed)
  (waiting : next.waiting = world.waiting ++ [⟨entry, world.entered.length⟩])
  (phase : next.phase = world.phase) : next.Counted config world.entered.length := by
 have known (letter : Letter) (listed : letter ∈ world.stores.dlq) : letter.event ≠ world.entered.length := by
  obtain ⟨e, found, -⟩ := tracked.conserved.lineage letter (mem_append_left _ listed)
  have := (List.getElem?_eq_some_iff.mp found).1
  omega
 have untried : next.attempts world.entered.length = 0 := by
  rw [attempts, handed, countP_eq_zero]
  exact fun letter member => by simpa using known letter (tracked.handed letter member)
 have none_waits : world.waiting.countP (·.event = world.entered.length) = 0 := by
  rw [countP_eq_zero]
  exact fun letter member => by simpa using known letter (tracked.conserved.waiting_listed member)
 refine ⟨?_, by simp [waiting, none_waits], fun letter member same => ?_, fun letter what rest here same => ?_⟩
 · rw [untried, attemptLimit]
   omega
 · rw [waiting, mem_append, mem_singleton] at member
   rcases member with before | rfl
   · exact absurd same (known letter (tracked.conserved.waiting_listed before))
   · -- without a retry count the event starts at zero
     refine ⟨0, by simp [retryCount, uncounted], by omega, ?_⟩
     rw [attemptLimit]
     omega
 · rw [phase] at here
   exact absurd same (known letter (tracked.conserved.listed letter (by simp [here, letters])))

end

structure World.Accounted (config : ReplayerConfig) (world : World) : Prop where
 tracked : world.Tracked
 counted : ∀ event e, world.entered[event]? = some e -> (toMap e.fields).lookup "retry_count" = none ->
  world.Counted config event

variable {config : ReplayerConfig}

theorem step_accounted {world next : World} {action : Action}
  (accounted : world.Accounted config) (taken : (machine config).step world action = some next) :
  next.Accounted config := by
 obtain ⟨tracked, counted⟩ := accounted
 refine ⟨step_tracked tracked taken, fun event e found uncounted => ?_⟩
 cases step_flow tracked.conserved taken with
 | thinned handed waiting dlq entered quiet =>
  exact (counted event e (entered ▸ found) uncounted).thin handed waiting quiet
 | published entry fresh handed waiting dlq entered phase =>
  rw [entered] at found
  by_cases new : event = world.entered.length
  · subst new
    obtain rfl : entry = e := by simpa using found
    exact tracked.countNew uncounted handed waiting phase
  · have bound := (List.getElem?_eq_some_iff.mp found).1
    rw [length_append, length_singleton] at bound
    rw [getElem?_append_left (by omega)] at found
    exact (counted event e found uncounted).joinOther handed waiting (Ne.symm new) fun _ _ _ here => phase ▸ here
 | retried letter what rest id here unspent fresh handed waiting dlq entered phase =>
  have before := counted event e (entered ▸ found) uncounted
  by_cases same : letter.event = event
  · exact before.retry here unspent handed waiting phase same
  · exact before.joinOther handed waiting same (by simp [phase])
 | handedOver letter handed waiting dlq entered current =>
  exact (counted event e (entered ▸ found) uncounted).handOver handed waiting current

theorem accounted_run {trace : List Action} {final : World}
  (ran : (machine config).run {} trace = some final) : final.Accounted config := by
 have initial : World.Accounted config {} := by
  refine ⟨⟨⟨?_, ?_, ?_, ?_, ?_, ?_⟩, ?_, ?_⟩, ?_⟩ <;> simp [waiting, rest, undelivered, letters]
 exact (machine config).run_keeps (fun _ _ _ held taken => step_accounted held taken) initial ran

/-- Every event stays in the DLQ until it is dead or committed, and it is tried at most
`max 1 retry_max` times. -/
theorem dlq_events_are_conserved (config : ReplayerConfig) (trace : List Action) (final : World)
  (ran : (machine config).run {} trace = some final) :
  (∀ event e, final.entered[event]? = some e ->
    (∃ letter ∈ final.stores.dlq, letter.event = event /\ origId letter.entry = origId e /\
      (letter ∈ final.stores.unread \/ letter.entry.id ∈ final.stores.pending)) \/
    (∃ letter ∈ final.stores.dead, letter.event = event /\ origId letter.entry = origId e) \/
    origId e ∈ final.stores.rows.map SessionEventRow.eventId) /\
  ∀ event e, final.entered[event]? = some e -> (toMap e.fields).lookup "retry_count" = none ->
   final.attempts event ≤ max 1 config.retryMax := by
 obtain ⟨⟨conserved, -, -⟩, counted⟩ := accounted_run ran
 have sameId {letter : Letter} {event : Nat} {e : StreamEntry}
   (listed : letter ∈ final.stores.dlq ++ final.stores.dead) (same : letter.event = event)
   (found : final.entered[event]? = some e) : origId letter.entry = origId e := by
  obtain ⟨e', found', sameId⟩ := conserved.lineage letter listed
  rw [same, found] at found'
  rw [sameId, Option.some.inj found']
 constructor
 · intro event e found
   rcases conserved.conserves event e found with
    ⟨letter, listed, same, pending⟩ | ⟨letter, unread, same⟩ | ⟨letter, dead, same⟩ | row
   · exact .inl ⟨letter, listed, same, sameId (mem_append_left _ listed) same found, .inr pending⟩
   · have listed := mem_dlq_of_unread unread
     exact .inl ⟨letter, listed, same, sameId (mem_append_left _ listed) same found, .inl unread⟩
   · exact .inr (.inl ⟨letter, dead, same, sameId (mem_append_right _ dead) same found⟩)
   · exact .inr (.inr row)
 · intro event e found uncounted
   have bound := (counted event e found uncounted).bound
   simp only [attemptLimit, i32] at bound
   omega

def roomJoin : StreamEntry := ⟨"1-0", [("orig_event_id", "7-0"), ("type", "room_join"), ("error", "bad row")]⟩

def retriedTrace : List Action :=
 [.createGroup true, .publish roomJoin, .connect true, .xreadgroup true, .insert (.exception "timeout" false),
   .xadd (some "2-0"), .xack true, .connect true, .xreadgroup true, .insert .stored, .crash]

theorem retried_event_is_conserved :
  ∃ final, (machine {}).run {} retriedTrace = some final /\
   final.entered[0]? = some roomJoin /\ final.attempts 0 = 2 /\ final.attempts 0 ≤ max 1 5 /\
   ((∃ letter ∈ final.stores.dlq, letter.event = 0 /\ origId letter.entry = origId roomJoin /\
      (letter ∈ final.stores.unread \/ letter.entry.id ∈ final.stores.pending)) \/
     (∃ letter ∈ final.stores.dead, letter.event = 0 /\ origId letter.entry = origId roomJoin) \/
     origId roomJoin ∈ final.stores.rows.map SessionEventRow.eventId) := by
 have facts : ∃ final ∈ (machine {}).run {} retriedTrace,
  final.entered[0]? = some roomJoin /\ final.attempts 0 = 2 := by decide +kernel
 obtain ⟨final, ran, found, twice⟩ := Machine.exists_final _ facts
 obtain ⟨conserved, bounded⟩ := dlq_events_are_conserved {} retriedTrace final ran
 exact ⟨final, ran, found, twice, bounded 0 roomJoin found (by decide), conserved 0 roomJoin found⟩

end Dynaxis.WriteBehind.Dlq
