import Dynaxis.Shared.Machine

namespace Dynaxis.Shared.Revision

open List Option Nat

section

variable {Document : Type} {revision : Document -> Nat} {older newer next : Document}

def Precedes (revision : Document -> Nat) (older newer : Document) : Prop :=
 revision older < revision newer \/ older = newer

theorem Precedes.refl : Precedes revision newer newer := .inr rfl

theorem Precedes.lt_of_lt (link : Precedes revision older newer) (higher : revision newer < revision next) :
  revision older < revision next := by
 obtain lower | rfl := link
 · omega
 · exact higher

theorem Precedes.eq_of_revision_eq (link : Precedes revision older newer)
  (same : revision older = revision newer) : older = newer := by
 obtain lower | equal := link
 · omega
 · exact equal

/-- A dependent document names the revision `reference` of `basis`, and the document now
under the key of `basis` is `basis` or a later one. -/
def Linked (revision : Document -> Nat) (reference : Nat) (basis current : Option Document) : Prop :=
 ∃ older newer, basis = some older /\ current = some newer /\ reference = revision older /\
  Precedes revision older newer

variable {reference : Nat} {current basis : Option Document}

theorem Linked.accepted (stored : current = some newer)
  (named : reference = revision newer) : Linked revision reference current current :=
 ⟨newer, newer, stored, stored, named, .refl⟩

theorem Linked.replaced (link : Linked revision reference basis current)
  (higher : ∀ newer, current = some newer -> revision newer < revision next) :
  Linked revision reference basis (some next) := by
 obtain ⟨older, newer, first, stored, named, order⟩ := link
 exact ⟨older, next, first, rfl, named, .inl (order.lt_of_lt (higher newer stored))⟩

theorem Linked.eq_of_match (link : Linked revision reference basis current)
  (same : ∀ newer, current = some newer -> revision newer = reference) : basis = current := by
 obtain ⟨older, newer, first, stored, named, order⟩ := link
 rw [first, stored, order.eq_of_revision_eq (named.symm.trans (same newer stored).symm)]

end

section Register

variable {Request Document : Type}

structure Pending (Request Document : Type) where
 request : Request
 seen : Option Document
 version : Nat
 next : Document

structure Register (Request Document : Type) where
 stored : Option Document := none
 version : Nat := 0
 epoch : Nat := 0
 pending : List (Pending Request Document) := []
 accepted : List (Pending Request Document) := []
 written : List (Nat × Document) := []

inductive Operation (Request : Type)
 | get (request : Request)
 | set (slot : Nat)
 | refuse (slot : Nat)
 | del

namespace Register

def start (stored : Option Document) : Register Request Document :=
 { stored, written := stored.toList.map (0, ·) }

section

variable (prepare : Option Document -> Request -> Option Document) (register : Register Request Document)

def get (request : Request) : Register Request Document :=
 match prepare register.stored request with
 | none => register
 | some next =>
  let writer := { request, seen := register.stored, version := register.version, next }
  { register with pending := register.pending ++ [writer] }

def set (slot : Nat) (writer : Pending Request Document) : Register Request Document :=
 { register with
   stored := some writer.next
   version := register.version + 1
   pending := register.pending.eraseIdx slot
   accepted := writer :: register.accepted
   written := (register.epoch, writer.next) :: register.written }

def del : Register Request Document :=
 { register with stored := none, version := register.version + 1, epoch := register.epoch + 1 }

end

def machine (prepare : Option Document -> Request -> Option Document) :
  Machine (Register Request Document) (Operation Request) where
 step register
  | .get request => some (register.get prepare request)
  | .set slot => register.pending[slot]?.map (register.set slot)
  | .refuse slot => register.pending[slot]?.map fun _ => { register with pending := register.pending.eraseIdx slot }
  | .del => some register.del

def Unraced (replaceable : Document -> Prop) (register : Register Request Document) :
  Operation Request -> Prop
 | .set slot =>
  (∀ writer ∈ register.pending[slot]?, writer.version = register.version) /\
    ∀ document ∈ register.stored, replaceable document
 | _ => True

instance (replaceable : Document -> Prop) [DecidablePred replaceable]
  (register : Register Request Document) :
  (operation : Operation Request) -> Decidable (register.Unraced replaceable operation)
 | .get _ | .refuse _ | .del => isTrue trivial
 | .set slot =>
  inferInstanceAs (Decidable ((∀ writer ∈ register.pending[slot]?, writer.version = register.version) /\
   ∀ document ∈ register.stored, replaceable document))

variable {prepare : Option Document -> Request -> Option Document} {revision : Document -> Nat}
 {replaceable : Document -> Prop} {register next : Register Request Document}

structure Waiting (prepare : Option Document -> Request -> Option Document) (version : Nat)
  (stored : Option Document) (writer : Pending Request Document) : Prop where
 prepared : prepare writer.seen writer.request = some writer.next
 past : writer.version ≤ version
 current : writer.version = version -> writer.seen = stored

structure Recorded (revision : Document -> Nat) (epoch : Nat) (stored : Option Document)
  (entry : Nat × Document) : Prop where
 past : entry.1 ≤ epoch
 current : entry.1 = epoch -> ∃ document, stored = some document /\ Precedes revision entry.2 document

def Unambiguous (revision : Document -> Nat) (written : List (Nat × Document)) : Prop :=
 ∀ first ∈ written, ∀ second ∈ written,
  first.1 = second.1 -> revision first.2 = revision second.2 -> first.2 = second.2

variable {writer : Pending Request Document}

theorem Waiting.outdated {version : Nat} {stored other : Option Document}
  (waiting : Waiting prepare version stored writer) : Waiting prepare (version + 1) other writer where
 prepared := waiting.prepared
 past := le_succ_of_le waiting.past
 current same := absurd same (Nat.ne_of_lt (lt_succ_of_le waiting.past))

structure Sound (prepare : Option Document -> Request -> Option Document)
  (revision : Document -> Nat) (register : Register Request Document) : Prop where
 waiting : ∀ writer ∈ register.pending, Waiting prepare register.version register.stored writer
 settled : ∀ writer ∈ register.accepted, writer.version < register.version
 once : (register.accepted.map Pending.version).Nodup
 recorded : ∀ entry ∈ register.written, Recorded revision register.epoch register.stored entry
 unambiguous : Unambiguous revision register.written

theorem start_sound (stored : Option Document) : (start stored : Register Request Document).Sound prepare revision where
 waiting writer member := by cases member
 settled writer member := by cases member
 once := nodup_nil
 recorded entry member := by
  obtain ⟨document, present, rfl⟩ := mem_map.mp member
  exact ⟨Nat.le_refl 0, fun _ => ⟨document, mem_toList.mp present, .refl⟩⟩
 unambiguous first left second right _ _ := by
  obtain ⟨one, present, rfl⟩ := mem_map.mp left
  obtain ⟨two, alike, rfl⟩ := mem_map.mp right
  exact mem_unique (mem_toList.mp present) (mem_toList.mp alike)

variable (sound : register.Sound prepare revision)
include sound

theorem get_sound (request : Request) : (register.get prepare request).Sound prepare revision := by
 unfold get
 split
 next => exact sound
 next next prepared =>
  refine { sound with waiting := fun writer member => ?_ }
  obtain old | new := mem_append.mp member
  · exact sound.waiting writer old
  · obtain rfl := mem_singleton.mp new
    exact ⟨prepared, Nat.le_refl _, fun _ => rfl⟩

variable (higher : ∀ document request next, replaceable document -> prepare (some document) request = some next -> revision document < revision next)
include higher

theorem fresh_of_unraced (waiting : Waiting prepare register.version register.stored writer)
  (unseen : writer.version = register.version) (allowed : ∀ document ∈ register.stored, replaceable document)
  {entry : Nat × Document} (member : entry ∈ register.written) (now : entry.1 = register.epoch) :
  revision entry.2 < revision writer.next := by
 obtain ⟨document, stored, order⟩ := (sound.recorded entry member).current now
 have prepared := waiting.prepared
 rw [waiting.current unseen, stored] at prepared
 exact order.lt_of_lt (higher document writer.request writer.next (allowed document stored) prepared)

theorem set_sound {slot : Nat} (found : register.pending[slot]? = some writer)
  (unraced : register.Unraced replaceable (.set slot)) : (register.set slot writer).Sound prepare revision := by
 obtain ⟨unseen, allowed⟩ := unraced
 have unseen := unseen writer found
 have waiting := sound.waiting writer (mem_of_getElem? found)
 have fresh {entry : Nat × Document} (member : entry ∈ register.written) (now : entry.1 = register.epoch) :=
  fresh_of_unraced sound higher waiting unseen allowed member now
 refine ⟨fun other member => ?_, fun other member => ?_, ?_, fun entry member => ?_, ?_⟩
 · exact (sound.waiting other (mem_of_mem_eraseIdx member)).outdated
 · obtain rfl | old := mem_cons.mp member
   · exact lt_succ_of_le waiting.past
   · exact lt_succ_of_lt (sound.settled other old)
 · refine nodup_cons.mpr ⟨fun repeated => ?_, sound.once⟩
   obtain ⟨other, old, same⟩ := mem_map.mp repeated
   have := sound.settled other old
   omega
 · obtain rfl | old := mem_cons.mp member
   · exact ⟨Nat.le_refl _, fun _ => ⟨_, rfl, .refl⟩⟩
   · exact ⟨(sound.recorded entry old).past, fun now => ⟨_, rfl, .inl (fresh old now)⟩⟩
 · intro first left second right together same
   -- Two entries with one number are both old: the new one is above the old ones of its time.
   obtain rfl | left := mem_cons.mp left <;> obtain rfl | right := mem_cons.mp right
   · rfl
   · exact absurd same (Nat.ne_of_gt (fresh right together.symm))
   · exact absurd same (Nat.ne_of_lt (fresh left together))
   · exact sound.unambiguous first left second right together same

omit higher

theorem del_sound : register.del.Sound prepare revision where
 waiting writer member := (sound.waiting writer member).outdated
 settled writer member := lt_succ_of_lt (sound.settled writer member)
 once := sound.once
 recorded entry member :=
  have before := (sound.recorded entry member).past
  ⟨le_succ_of_le before, fun same => absurd same (Nat.ne_of_lt (lt_succ_of_le before))⟩
 unambiguous := sound.unambiguous

theorem refuse_sound (slot : Nat) :
  { register with pending := register.pending.eraseIdx slot }.Sound prepare revision :=
 { sound with
   waiting := fun writer member => sound.waiting writer (mem_of_mem_eraseIdx member) }

variable (higher : ∀ document request next, replaceable document -> prepare (some document) request = some next -> revision document < revision next)
include higher

omit sound

theorem step_sound {operation : Operation Request} (sound : register.Sound prepare revision)
  (unraced : register.Unraced replaceable operation)
  (taken : (machine prepare).step register operation = some next) : next.Sound prepare revision := by
 cases operation with
 | get request =>
  cases taken
  exact get_sound sound request
 | set slot =>
  obtain ⟨writer, found, rfl⟩ := map_eq_some_iff.mp taken
  exact set_sound sound higher found unraced
 | refuse slot =>
  obtain ⟨writer, found, rfl⟩ := map_eq_some_iff.mp taken
  exact refuse_sound sound slot
 | del =>
  cases taken
  exact del_sound sound

theorem run_sound {trace : List (Operation Request)} {final : Register Request Document}
  (sound : register.Sound prepare revision)
  (unraced : (machine prepare).Guarded (Unraced replaceable) register trace)
  (ran : (machine prepare).run register trace = some final) : final.Sound prepare revision :=
 (machine prepare).run_invariant
   (fun _ _ _ held allowed taken => step_sound higher held allowed taken) sound unraced ran

omit higher

theorem Sound.accepted_once (sound : register.Sound prepare revision) (test : Pending Request Document -> Bool)
  (version : Nat) (same : ∀ writer, test writer = true -> writer.version = version) :
  (register.accepted.filter test).length ≤ 1 := by
 have once := sound.once.sublist ((filter_sublist (p := test)).map Pending.version)
 match kept : register.accepted.filter test with
 | [] => exact zero_le 1
 | [_] => exact Nat.le_refl 1
 | first :: second :: rest =>
  have member (writer : Pending Request Document) (listed : writer ∈ first :: second :: rest) :=
   same writer (mem_filter.mp (kept ▸ listed)).2
  rw [kept, map_cons, map_cons, member first (by simp), member second (by simp)] at once
  exact absurd (mem_cons_self) (nodup_cons.mp once).1

end Register

end Register

end Dynaxis.Shared.Revision
