import Mathlib.Data.List.Range

namespace Dynaxis.Shared

open List Nat

universe u v

section

variable (Client : Type u) (Output : Type v)

structure Progress where
 number : Nat
 client : Option Client
 begun : Bool

structure Work where
 number : Nat
 client : Option Client
 first : Bool
 output : Output

structure Turns where
 submitted : List (Option Client) := []
 taken : Nat := 0
 running : List (Progress Client) := []
 log : List (Work Client Output) := []

end

namespace Turns

variable {Client : Type u} {Output : Type v}

def submit (turns : Turns Client Output) (client : Option Client) : Turns Client Output :=
 { turns with submitted := turns.submitted ++ [client] }

def take (turns : Turns Client Output) : Turns Client Output :=
 match turns.submitted[turns.taken]? with
 | none => turns
 | some client =>
  { turns with
    taken := turns.taken + 1
    running := turns.running ++ [⟨turns.taken, client, false⟩] }

def proceed (running : List (Progress Client)) (index : Nat) (progress : Progress Client) (ends : Bool) :
  List (Progress Client) :=
 if ends then running.eraseIdx index else running.set index { progress with begun := true }

def work (turns : Turns Client Output) (index : Nat) (output : Output) (ends : Bool) : Turns Client Output :=
 match turns.running[index]? with
 | none => turns
 | some progress =>
  { turns with
    running := proceed turns.running index progress ends
    log := turns.log ++ [⟨progress.number, progress.client, !progress.begun, output⟩] }

def numbers [DecidableEq Client] (turns : Turns Client Output) (client : Client) (count : Nat) : List Nat :=
 (range count).filter fun number => turns.submitted[number]? = some (some client)

def begun [DecidableEq Client] (turns : Turns Client Output) (client : Client) : List Nat :=
 (turns.log.filter fun work => work.first /\ work.client = some client).map (·.number)

def waiting [DecidableEq Client] (turns : Turns Client Output) (client : Client) : List Nat :=
 (turns.running.filter fun progress => !progress.begun /\ progress.client = some client).map (·.number)

def FrontIsFree (turns : Turns Client Output) : Prop :=
 ∀ client, turns.submitted[turns.taken]? = some (some client) ->
  ∀ progress ∈ turns.running, progress.client ≠ some client

structure InTurn [DecidableEq Client] (turns : Turns Client Output) : Prop where
 within : turns.taken ≤ turns.submitted.length
 known : ∀ progress ∈ turns.running, progress.number < turns.taken
 logged : ∀ work ∈ turns.log, work.number < turns.taken
 served : ∀ client, turns.begun client ++ turns.waiting client = turns.numbers client turns.taken
 alone : (turns.running.map (·.client)).Pairwise fun first second => ∀ client,
  first = some client -> second ≠ some client
 behind : ∀ work ∈ turns.log, ∀ progress ∈ turns.running, ∀ client, work.client = some client ->
  progress.client = some client -> work.number ≤ progress.number
 ordered : turns.log.Pairwise fun first second => ∀ client, first.client = some client ->
  second.client = some client -> first.number ≤ second.number

variable {running : List (Progress Client)} {index : Nat} {progress : Progress Client}

theorem proceed_split (found : running[index]? = some progress) (ends : Bool) :
  ∃ before after, running = before ++ progress :: after /\ proceed running index progress ends =
    before ++ (if ends then [] else [{ progress with begun := true }]) ++ after := by
 obtain ⟨inside, rfl⟩ := List.getElem?_eq_some_iff.mp found
 refine ⟨running.take index, running.drop (index + 1), by simp, ?_⟩
 cases ends with
 | true => simp [proceed, eraseIdx_eq_take_drop_succ]
 | false => simp [proceed, set_eq_take_append_cons_drop, inside]

theorem mem_proceed {other : Progress Client}
  (found : running[index]? = some progress) {ends : Bool} (member : other ∈ proceed running index progress ends) :
  ∃ old ∈ running, old.number = other.number /\ old.client = other.client := by
 obtain ⟨before, after, rfl, proceeds⟩ := proceed_split found ends
 rw [proceeds] at member
 simp only [mem_append, mem_cons] at member ⊢
 obtain (old | continued) | old := member
 · exact ⟨other, .inl old, rfl, rfl⟩
 · split at continued
   · cases continued
   · obtain rfl := mem_singleton.mp continued
     exact ⟨progress, .inr (.inl rfl), rfl, rfl⟩
 · exact ⟨other, .inr (.inr old), rfl, rfl⟩

variable [DecidableEq Client] {turns : Turns Client Output}

theorem numbers_isPrefix (client : Client) {count : Nat} (within : count ≤ turns.submitted.length) :
  turns.numbers client count <+: turns.numbers client turns.submitted.length := by
 have range : range count <+: range turns.submitted.length := by
  obtain ⟨rest, total⟩ := Nat.exists_eq_add_of_le within
  rw [total, range_add]
  exact prefix_append _ _
 exact range.filter _

theorem InTurn.empty : InTurn ({} : Turns Client Output) where
 within := le_refl 0
 known := nofun
 logged := nofun
 served := fun _ => rfl
 alone := List.Pairwise.nil
 behind := nofun
 ordered := List.Pairwise.nil

variable (inTurn : turns.InTurn)
include inTurn

theorem InTurn.submit (client : Option Client) : (turns.submit client).InTurn := by
 refine { inTurn with within := ?_, served := ?_ }
 · exact inTurn.within.trans (by simp [Turns.submit])
 · intro other
   refine (inTurn.served other).trans (filter_congr fun number member => ?_)
   have old : number < turns.submitted.length :=
    lt_of_lt_of_le (mem_range.mp member) inTurn.within
   simp only [Turns.submit, getElem?_append_left old]

theorem InTurn.take (free : turns.FrontIsFree) : turns.take.InTurn := by
 unfold Turns.take
 split
 · exact inTurn
 next client front =>
  constructor
  · exact (List.getElem?_eq_some_iff.mp front).1
  · intro progress member
    obtain old | isNew := mem_append.mp member
    · exact lt_succ_of_lt (inTurn.known progress old)
    · obtain rfl := mem_singleton.mp isNew
      exact lt_succ_self _
  · exact fun work member => lt_succ_of_lt (inTurn.logged work member)
  · intro other
    have served := inTurn.served other
    simp only [numbers, begun, waiting] at served ⊢
    simp only [range_succ, filter_append, map_append, <- append_assoc]
    rw [served]
    by_cases same : client = some other <;> simp [same, front]
  · rw [map_append]
    refine pairwise_append.mpr ⟨inTurn.alone, pairwise_singleton _ _, ?_⟩
    intro first member second isNew other serves isFor
    obtain ⟨progress, running, rfl⟩ := mem_map.mp member
    obtain rfl := mem_singleton.mp isNew
    exact free other (front.trans (congrArg some isFor)) progress running serves
  · intro work old progress member other isFor _
    obtain running | isNew := mem_append.mp member
    · exact inTurn.behind work old progress running other isFor ‹_›
    · obtain rfl := mem_singleton.mp isNew
      exact le_of_lt (inTurn.logged work old)
  · exact inTurn.ordered

theorem InTurn.work (index : Nat) (output : Output) (ends : Bool) :
  (turns.work index output ends).InTurn := by
 unfold Turns.work
 split
 · exact inTurn
 next progress found =>
  obtain ⟨before, after, split, proceeds⟩ := proceed_split found ends
  have here : progress ∈ turns.running := mem_of_getElem? found
  have only {client : Client} (isFor : progress.client = some client) {other : Progress Client}
    (elsewhere : other ∈ before \/ other ∈ after) : other.client ≠ some client := by
   have alone := inTurn.alone
   rw [split, pairwise_map, pairwise_append, pairwise_cons] at alone
   obtain ⟨-, ⟨later, -⟩, ahead⟩ := alone
   intro serves
   obtain inFront | behind := elsewhere
   · exact ahead other inFront progress mem_cons_self client serves isFor
   · exact later other behind client isFor serves
  constructor
  · exact inTurn.within
  · intro other member
    obtain ⟨old, running, number, -⟩ := mem_proceed found member
    exact number ▸ inTurn.known old running
  · intro done member
    obtain old | isNew := mem_append.mp member
    · exact inTurn.logged done old
    · obtain rfl := mem_singleton.mp isNew
      exact inTurn.known progress here
  · intro client
    have served := inTurn.served client
    simp only [begun, waiting, numbers] at served ⊢
    rw [proceeds]
    rw [split] at served
    rw [<- served]
    by_cases isFor : progress.client = some client
    · -- nobody else serves the client, so the task is the one that was waiting, if any was
      have inFront : before.filter (fun progress => !progress.begun /\ progress.client = some client) = [] :=
       filter_eq_nil_iff.mpr fun other member => by simp [only isFor (.inl member)]
      have behind : after.filter (fun progress => !progress.begun /\ progress.client = some client) = [] :=
       filter_eq_nil_iff.mpr fun other member => by simp [only isFor (.inr member)]
      simp only [filter_append, filter_cons, inFront, behind]
      cases began : progress.begun <;> cases ends <;> simp [isFor]
    · cases ends <;> simp [isFor]
  · refine inTurn.alone.sublist ?_
    rw [proceeds, split]
    cases ends <;> simp
  · intro done member other running client isFor serves
    obtain ⟨old, was, number, same⟩ := mem_proceed found running
    obtain past | isNew := mem_append.mp member
    · exact number ▸ inTurn.behind done past old was client isFor (same ▸ serves)
    · obtain rfl := mem_singleton.mp isNew
      rw [split, mem_append, mem_cons] at was
      obtain inFront | rfl | behind := was
      · exact absurd (same.trans serves) (only isFor (.inl inFront))
      · exact le_of_eq number
      · exact absurd (same.trans serves) (only isFor (.inr behind))
  · refine pairwise_append.mpr ⟨inTurn.ordered, pairwise_singleton _ _, ?_⟩
    intro past member done isNew client first second
    obtain rfl := mem_singleton.mp isNew
    exact inTurn.behind past member progress here client first second

theorem InTurn.begun_prefix (client : Client) :
  turns.begun client <+: turns.numbers client turns.submitted.length := by
 have start : turns.begun client <+: turns.numbers client turns.taken :=
  inTurn.served client ▸ prefix_append _ _
 exact start.trans (numbers_isPrefix client inTurn.within)

omit inTurn

end Turns

end Dynaxis.Shared
