import Dynaxis.WriteBehind.Replayer
import Mathlib.Data.String.Basic

namespace Dynaxis.WriteBehind.Dlq

open List

section Payload

variable {fields : List (String × String)}

theorem lookup_jsonAssign (key value name : String) (j : List (String × String)) :
  (jsonAssign key value j).lookup name = if key = name then some value else j.lookup name := by
 induction j with
 | nil => simp only [jsonAssign, lookup_cons, lookup_nil]; grind
 | cons first rest ih =>
  unfold jsonAssign
  split_ifs with replaced before same <;> simp_all [lookup_cons]
  all_goals grind

theorem mem_jsonAssign {key value : String} {j : List (String × String)} {f : String × String}
  (member : f ∈ jsonAssign key value j) : f.1 = key \/ f ∈ j := by
 induction j with
 | nil => simp_all [jsonAssign]
 | cons first rest ih =>
  unfold jsonAssign at member
  split_ifs at member <;> grind

theorem sorted_jsonAssign {j : List (String × String)} (key value : String) (sorted : j.Pairwise (·.1 < ·.1)) :
  (jsonAssign key value j).Pairwise (·.1 < ·.1) := by
 induction j with
 | nil => exact pairwise_singleton _ _
 | cons first rest ih =>
  obtain ⟨least, sorted⟩ := pairwise_cons.mp sorted
  unfold jsonAssign
  split_ifs with same before
  · exact pairwise_cons.mpr ⟨same ▸ least, sorted⟩
  · refine pairwise_cons.mpr ⟨fun f member => ?_, pairwise_cons.mpr ⟨least, sorted⟩⟩
    obtain rfl | later := mem_cons.mp member
    · exact before
    · exact before.trans (least f later)
  · refine pairwise_cons.mpr ⟨fun f member => ?_, ih sorted⟩
    obtain isKey | old := mem_jsonAssign member
    · exact isKey ▸ lt_of_le_of_ne (not_lt.mp before) (Ne.symm same)
    · exact least f old

theorem lookup_payload (fields : List (String × String)) (name : String) :
  (fields.foldl (fun j f => jsonAssign f.1 f.2 j) []).lookup name = fieldValue fields name := by
 suffices built : ∀ j : List (String × String), (fields.foldl (fun j f => jsonAssign f.1 f.2 j) j).lookup name =
   fields.foldl (fun found f => if f.1 = name then some f.2 else found) (j.lookup name) from built []
 induction fields with
 | nil => exact fun _ => rfl
 | cons f rest ih =>
  intro j
  rw [foldl_cons, foldl_cons, ih, lookup_jsonAssign]

theorem sorted_payload (fields : List (String × String)) :
  (fields.foldl (fun j f => jsonAssign f.1 f.2 j) []).Pairwise (·.1 < ·.1) :=
 foldlRecOn fields _ .nil fun _ sorted f _ => sorted_jsonAssign f.1 f.2 sorted

theorem mem_iff_lookup (sorted : fields.Pairwise (·.1 < ·.1)) (f : String × String) :
  f ∈ fields ↔ fields.lookup f.1 = some f.2 := by
 induction fields with
 | nil => simp
 | cons first rest ih =>
  obtain ⟨least, sorted⟩ := pairwise_cons.mp sorted
  rw [mem_cons, ih sorted, lookup_cons]
  by_cases same : f.1 = first.1
  · have absent : f ∉ rest := fun later => (least f later).ne same.symm
    rw [<- ih sorted]
    simp [same, absent, Prod.ext_iff, eq_comm]
  · simp [beq_false_of_ne same, Prod.ext_iff, same]

theorem eq_of_lookup {left right : List (String × String)} (leftSorted : left.Pairwise (·.1 < ·.1))
  (rightSorted : right.Pairwise (·.1 < ·.1)) (same : ∀ name, left.lookup name = right.lookup name) :
   left = right := by
 have once {fields : List (String × String)} (sorted : fields.Pairwise (·.1 < ·.1)) : fields.Nodup :=
  sorted.imp fun before same => before.ne (congrArg Prod.fst same)
 have perm : left.Perm right := (perm_ext_iff_of_nodup (once leftSorted) (once rightSorted)).mpr fun f => by
  rw [mem_iff_lookup leftSorted, mem_iff_lookup rightSorted, same]
 exact perm.eq_of_pairwise (fun f g _ _ before after => absurd after before.asymm) leftSorted rightSorted

end Payload

def hopped (e : StreamEntry) (dlqId errorMsg : String) (hops : List (String × String)) : StreamEntry :=
 hops.foldl (fun letter hop => ⟨hop.1, retryLater letter hop.2⟩) ⟨dlqId, dlqFields e errorMsg⟩

/-- The two decoders agree: of each name the first value is the last one, no name is one of the replayer's
own, and an id is empty or a UUID. -/
structure Replayable (e : StreamEntry) : Prop where
 plain : ∀ f ∈ e.fields, isDlqMetadata f.1 = false
 settled : ∀ name, e.fields.lookup name = fieldValue e.fields name
 uuids : ∀ name ∈ ["user_id", "session_id", "room_id"], ∀ value ∈ e.fields.lookup name,
  value = "" \/ isUuid value = true

def eventFields (fields : List (String × String)) : List (String × String) :=
 fields.filter fun f => !isDlqMetadata f.1

variable {fields : List (String × String)} {name : String}

theorem lookup_eventFields (fields : List (String × String)) (event : isDlqMetadata name = false) :
  (eventFields fields).lookup name = fields.lookup name := by
 induction fields with
 | nil => rfl
 | cons f rest ih =>
  obtain ⟨key, value⟩ := f
  by_cases here : name = key
  · subst here
    simp [eventFields, event]
  · cases metadata : isDlqMetadata key with
    | true | false => simpa [eventFields, metadata, lookup_cons, beq_false_of_ne here] using ih

section

variable (e : StreamEntry) (dlqId errorMsg : String)

theorem eventFields_retryLater : eventFields (retryLater e errorMsg) = eventFields e.fields := by
 have kept : eventFields (e.fields.filter (·.1 ≠ "retry_count")) = eventFields e.fields := by
  rw [eventFields, filter_filter]
  apply filter_congr
  intro f _
  by_cases counts : f.1 = "retry_count" <;> simp [isDlqMetadata, counts]
 rw [<- kept]
 simp [eventFields, retryLater, isDlqMetadata]

theorem eventFields_dlqFields : eventFields (dlqFields e errorMsg) = eventFields e.fields := by
 simp [eventFields, dlqFields, isDlqMetadata]

theorem hopped_spec (hops : List (String × String)) :
  origId (hopped e dlqId errorMsg hops) = e.id /\
   eventFields (hopped e dlqId errorMsg hops).fields = eventFields e.fields := by
 suffices kept : ∀ letter : StreamEntry, origId letter = e.id -> eventFields letter.fields = eventFields e.fields ->
   origId (hops.foldl (fun letter hop => ⟨hop.1, retryLater letter hop.2⟩) letter) = e.id /\
   eventFields (hops.foldl (fun letter hop => ⟨hop.1, retryLater letter hop.2⟩) letter).fields = eventFields e.fields by
  refine kept _ ?_ (eventFields_dlqFields e errorMsg)
  simp [origId, lookup_toMap, dlqFields]
 induction hops with
 | nil => exact fun _ sameId sameFields => ⟨sameId, sameFields⟩
 | cons hop rest ih =>
  intro letter sameId sameFields
  apply ih
  · rw [origId_retryLater, sameId]
  · rw [eventFields_retryLater, sameFields]

theorem fieldValue_eq_lookup (distinct : (fields.map Prod.fst).Nodup)
  (name : String) : fieldValue fields name = fields.lookup name := by
 suffices last : ∀ found : Option String, fields.foldl (fun found f => if f.1 = name then some f.2 else found) found =
    (fields.lookup name).or found by
  rw [fieldValue, last none, Option.or_none]
 induction fields with
 | nil => simp
 | cons f rest ih =>
  intro found
  obtain ⟨key, value⟩ := f
  obtain ⟨unseen, distinct⟩ := nodup_cons.mp distinct
  rw [foldl_cons, ih distinct]
  by_cases here : name = key
  · -- no later field has the name
    have missing : rest.lookup name = none := by
     rw [lookup_eq_none_iff]
     intro other member
     have later : other.1 ≠ key := fun same => unseen (mem_map.mpr ⟨other, member, same⟩)
     simpa [here] using later.symm
    rw [missing]
    simp [here]
  · simp [lookup_cons, beq_false_of_ne here, Ne.symm here]

theorem lookup_metadata (plain : ∀ f ∈ fields, isDlqMetadata f.1 = false) (metadata : isDlqMetadata name = true) :
  fields.lookup name = none := by
 refine lookup_eq_none_iff.mpr fun f member => ?_
 simpa using fun same : name = f.1 => by simp [same, plain f member] at metadata

theorem fieldValue_ne_none {f : String × String} (member : f ∈ fields) : fieldValue fields f.1 ≠ none := by
 obtain ⟨before, after, rfl⟩ := append_of_mem member
 rw [fieldValue, foldl_append, foldl_cons, if_pos rfl]
 exact foldlRecOn (motive := (· ≠ none)) after _ (Option.some_ne_none _) fun found present g _ => by
  split
  · exact Option.some_ne_none _
  · exact present

theorem nodup_toMap (fields : List (String × String)) : ((toMap fields).map Prod.fst).Nodup := by
 refine foldlRecOn (motive := fun mp : List (String × String) => (mp.map Prod.fst).Nodup) fields _
  nodup_nil fun mp distinct kv _ => ?_
 split
 next => exact distinct
 next unknown =>
  rw [map_append]
  refine nodup_append.mpr ⟨distinct, pairwise_singleton _ _, fun key member other only same => unknown ?_⟩
  obtain ⟨f, listed, rfl⟩ := mem_map.mp member
  exact any_eq_true.mpr ⟨f, listed, decide_eq_true (same.trans (mem_singleton.mp only))⟩

theorem lookup_replayPayload (name : String) :
  (replayRow e).payload.lookup name = if isDlqMetadata name then none else e.fields.lookup name := by
 have once : ((eventFields (toMap e.fields)).map Prod.fst).Nodup :=
  (nodup_toMap e.fields).sublist ((filter_sublist).map _)
 have read : (replayRow e).payload.lookup name = (eventFields (toMap e.fields)).lookup name :=
  (lookup_payload _ name).trans (fieldValue_eq_lookup once name)
 rw [read]
 split
 next metadata =>
  exact lookup_metadata (fun f member => by simpa using (mem_filter.mp member).2) metadata
 next event => rw [lookup_eventFields _ (Bool.eq_false_of_not_eq_true event), lookup_toMap]

end

theorem normalizeUuid_eq {value : Option String} :
  value.getD "" = normalizeUuid value ↔ ∀ text ∈ value, text = "" \/ isUuid text = true := by
 cases value with
 | none => simp [normalizeUuid]
 | some text =>
  simp only [normalizeUuid, Option.getD_some, Option.mem_def, Option.some.injEq, forall_eq']
  split <;> simp_all

/-- The replayer inserts the row the worker would have inserted just when the decoders agree on the entry. -/
theorem replay_inserts_same_row (e : StreamEntry) (dlqId errorMsg : String) (hops : List (String × String)) :
  replayRow (hopped e dlqId errorMsg hops) = processEntry e ↔ Replayable e := by
 obtain ⟨sameId, sameFields⟩ := hopped_spec e dlqId errorMsg hops
 generalize hopped e dlqId errorMsg hops = letter at sameId sameFields
 have read (name : String) (event : isDlqMetadata name = false) :
  letter.fields.lookup name = e.fields.lookup name := by
  rw [<- lookup_eventFields _ event, sameFields, lookup_eventFields _ event]
 have shown (name : String) (event : isDlqMetadata name = false) :
   (toMap letter.fields).lookup name = e.fields.lookup name := (lookup_toMap _ _).trans (read name event)
 have row : replayRow letter =
   { eventId := e.id
     type := (e.fields.lookup "type").getD "unknown"
     tsMs := (stoll ((e.fields.lookup "ts_ms").getD "0")).getD 0
     userId := (e.fields.lookup "user_id").getD ""
     sessionId := (e.fields.lookup "session_id").getD ""
     roomId := (e.fields.lookup "room_id").getD ""
     payload := (replayRow letter).payload } := by
  simp only [replayRow, tryInsertToDb, sameId, shown "type" (by decide), shown "ts_ms" (by decide),
   shown "user_id" (by decide), shown "session_id" (by decide), shown "room_id" (by decide)]
 have payload (name : String) : (replayRow letter).payload.lookup name =
   if isDlqMetadata name then none else e.fields.lookup name := by
  rw [lookup_replayPayload]
  split
  next => rfl
  next event => exact read name (Bool.eq_false_of_not_eq_true event)
 constructor
 · intro same
   have names (name : String) := (payload name).symm.trans
    ((congrArg (·.payload.lookup name) same).trans (lookup_payload e.fields name))
   have plain : ∀ f ∈ e.fields, isDlqMetadata f.1 = false := fun f member =>
    Bool.eq_false_of_not_eq_true fun metadata => by
     have absent := names f.1
     rw [if_pos metadata] at absent
     exact fieldValue_ne_none member absent.symm
   have settled (name : String) : e.fields.lookup name = fieldValue e.fields name := by
    rw [<- names]
    split
    next metadata => exact lookup_metadata plain metadata
    next => rfl
   refine ⟨plain, settled, ?_⟩
   rw [row] at same
   simp only [processEntry, SessionEventRow.mk.injEq, <- settled, normalizeUuid_eq] at same
   simpa only [forall_mem_cons] using ⟨same.2.2.2.1, same.2.2.2.2.1, same.2.2.2.2.2.1, nofun⟩
 · rintro ⟨plain, settled, uuids⟩
   have samePayload : (replayRow letter).payload = (processEntry e).payload := by
    refine eq_of_lookup (sorted_payload _) (sorted_payload _) fun name => ?_
    rw [payload]
    refine Eq.trans ?_ ((settled name).trans (lookup_payload e.fields name).symm)
    split
    next metadata => exact (lookup_metadata plain metadata).symm
    next => rfl
   simp only [forall_mem_cons] at uuids
   obtain ⟨user, session, room, -⟩ := uuids
   rw [row, samePayload]
   simp only [processEntry, <- settled, normalizeUuid_eq.mpr user, normalizeUuid_eq.mpr session,
    normalizeUuid_eq.mpr room]

/-- The worker takes the last value of a repeated name and the replayer the first. -/
theorem replay_inserts_other_row :
  ¬ ∀ (e : StreamEntry) (dlqId errorMsg : String) (hops : List (String × String)),
   replayRow (hopped e dlqId errorMsg hops) = processEntry e := by
 intro claim
 have same := congrArg SessionEventRow.type
  (claim ⟨"1-0", [("type", "room_join"), ("type", "room_leave")]⟩ "5-0" "timeout" [])
 exact absurd same (by decide)

end Dynaxis.WriteBehind.Dlq
