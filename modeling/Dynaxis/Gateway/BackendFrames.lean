import Mathlib.Data.List.Induction
import Dynaxis.Protocol.Packet
import Dynaxis.Shared.Consumer

namespace Dynaxis.Gateway

open Shared Dynaxis.Protocol List Consumer

structure Callbacks (σ : Type) where
 onLoginRes : Option (σ -> Bytes -> σ)
 onFrame : Option (σ -> Nat -> Bytes -> σ × Bool)

variable {σ : Type}

section

variable (callbacks : Callbacks σ)

def inspectFrame (state : σ) (frame : Bytes) : σ × Bytes :=
 let msgId := (decodeHeader frame).msgId
 let state :=
  match callbacks.onLoginRes with
  | some onLoginRes => if msgId = msgLoginRes then onLoginRes state (bodyOf frame) else state
  | none => state
 match callbacks.onFrame with
 | some onFrame =>
  let answer := onFrame state msgId frame
  -- a frame that the callback takes is not passed on
  (answer.1, if answer.2 then [] else frame)
 | none => (state, frame)

def frameConsumer : Consumer (σ × Bytes) UInt8 where
 step := fun state buffer =>
  (splitFrame buffer).map fun split =>
    let inspected := inspectFrame callbacks state.1 split.1
    ((inspected.1, state.2 ++ inspected.2), split.2)
 shrinks := by
  intro state buffer next rest taken
  obtain ⟨split, found, same⟩ := Option.map_eq_some_iff.mp taken
  cases same
  exact splitFrame_shrinks found
 stable := by
  intro state buffer next rest taken more
  obtain ⟨split, found, same⟩ := Option.map_eq_some_iff.mp taken
  cases same
  rw [splitFrame_stable found more]
  rfl

def kMaxInspectableBytes : Nat := 256 * 1024

def inspectBackendFrames (state : σ) (prebuffer payload : Bytes) : σ × Bytes × Bytes :=
 if payload = [] then (state, [], prebuffer)
 else
  -- the guard drops what was waiting for the rest of its frame
  let prebuffer := if kMaxInspectableBytes < prebuffer.length + payload.length then [] else prebuffer
  let inspected := (frameConsumer callbacks).drain (state, []) (prebuffer ++ payload)
  (inspected.1.1, inspected.1.2, inspected.2)

structure Inspection (σ : Type) where
 state : σ
 output : Bytes := []
 prebuffer : Bytes := []

def Inspection.receive (inspection : Inspection σ) (payload : Bytes) : Inspection σ :=
 let inspected := inspectBackendFrames callbacks inspection.state inspection.prebuffer payload
 { state := inspected.1, output := inspection.output ++ inspected.2.1, prebuffer := inspected.2.2 }

def Inspection.receiveAll (inspection : Inspection σ) (payloads : List Bytes) : Inspection σ :=
 payloads.foldl (Inspection.receive callbacks) inspection

def passFrames (start : σ × Bytes) (frames : List Bytes) : σ × Bytes :=
 frames.foldl (fun state frame =>
  let inspected := inspectFrame callbacks state.1 frame
  (inspected.1, state.2 ++ inspected.2)) start

end

variable (callbacks : Callbacks σ)

theorem passFrames_append (start : σ × Bytes) (before after : List Bytes) :
  passFrames callbacks start (before ++ after) = passFrames callbacks (passFrames callbacks start before) after :=
 foldl_append

variable {frames : List Bytes}

theorem drain_frames (start : σ × Bytes) (wellFormed : ∀ frame ∈ frames, IsFrame frame)
  {tail : Bytes} (incomplete : splitFrame tail = none) :
  (frameConsumer callbacks).drain start (frames.flatten ++ tail) = (passFrames callbacks start frames, tail) := by
 induction frames generalizing start with
 | nil => exact (frameConsumer callbacks).drain_of_waits (by simp [frameConsumer, incomplete])
 | cons frame rest ih =>
  have taken : (frameConsumer callbacks).step start (frame ++ (rest.flatten ++ tail)) =
    some ((inspectFrame callbacks start.1 frame).map id (start.2 ++ ·), rest.flatten ++ tail) := by
   simp [frameConsumer, splitFrame_append (wellFormed frame mem_cons_self), Prod.map]
  rw [flatten_cons, append_assoc, (frameConsumer callbacks).drain_of_step taken]
  exact ih _ fun other member => wellFormed other (mem_cons_of_mem _ member)

theorem drain_output (state : σ) (earlier output buffer : Bytes) :
  (frameConsumer callbacks).drain (state, earlier ++ output) buffer =
    (((frameConsumer callbacks).drain (state, output) buffer).1.map id (earlier ++ ·),
      ((frameConsumer callbacks).drain (state, output) buffer).2) := by
 have general (start : σ × Bytes) (buffer : Bytes) :
   (frameConsumer callbacks).drain (start.1, earlier ++ start.2) buffer =
     (((frameConsumer callbacks).drain start buffer).1.map id (earlier ++ ·),
       ((frameConsumer callbacks).drain start buffer).2) := by
  induction start, buffer using (frameConsumer callbacks).drain_induction with
  | waits start buffer waits =>
   have apart : (frameConsumer callbacks).step (start.1, earlier ++ start.2) buffer = none := by
    simpa [frameConsumer] using waits
   rw [drain_of_waits _ waits, drain_of_waits _ apart]
   rfl
  | takes start buffer next rest taken ih =>
   obtain ⟨split, found, same⟩ := Option.map_eq_some_iff.mp taken
   cases same
   have apart : (frameConsumer callbacks).step (start.1, earlier ++ start.2) buffer =
     some (((inspectFrame callbacks start.1 split.1).1,
      earlier ++ (start.2 ++ (inspectFrame callbacks start.1 split.1).2)), split.2) := by
    simp [frameConsumer, found]
   rw [drain_of_step _ taken, drain_of_step _ apart]
   exact ih
 exact general (state, output) buffer

def KeepsBuffer (callbacks : Callbacks σ) : Inspection σ -> List Bytes -> Prop
 | _, [] => True
 | inspection, payload :: rest =>
  (inspection.prebuffer = [] \/ inspection.prebuffer.length + payload.length ≤ kMaxInspectableBytes) /\
    KeepsBuffer callbacks (inspection.receive callbacks payload) rest

instance (callbacks : Callbacks σ) :
  (inspection : Inspection σ) -> (payloads : List Bytes) -> Decidable (KeepsBuffer callbacks inspection payloads)
 | _, [] => isTrue trivial
 | inspection, payload :: rest =>
  have := instDecidableKeepsBuffer callbacks (inspection.receive callbacks payload) rest
  inferInstanceAs (Decidable (_ /\ _))

def Inspection.ofDrained (drained : (σ × Bytes) × Bytes) : Inspection σ :=
 { state := drained.1.1, output := drained.1.2, prebuffer := drained.2 }

theorem receive_eq_drain (inspection : Inspection σ) {payload : Bytes} (present : payload ≠ [])
  (keeps : inspection.prebuffer = [] \/ inspection.prebuffer.length + payload.length ≤ kMaxInspectableBytes) :
  inspection.receive callbacks payload =
   .ofDrained ((frameConsumer callbacks).drain (inspection.state, inspection.output)
    (inspection.prebuffer ++ payload)) := by
 have kept : (if kMaxInspectableBytes < inspection.prebuffer.length + payload.length then []
   else inspection.prebuffer) = inspection.prebuffer := by
  obtain empty | fits := keeps
  · rw [empty, ite_self]
  · rw [if_neg (by omega)]
 have output := drain_output callbacks inspection.state inspection.output [] (inspection.prebuffer ++ payload)
 rw [append_nil] at output
 simp only [Inspection.receive, inspectBackendFrames, if_neg present, kept, Inspection.ofDrained, output]
 rfl

theorem receiveAll_eq_drainAll (inspection : Inspection σ) {payloads : List Bytes}
  (present : ∀ payload ∈ payloads, payload ≠ []) (keeps : KeepsBuffer callbacks inspection payloads) :
  inspection.receiveAll callbacks payloads =
   .ofDrained ((frameConsumer callbacks).drainAll ((inspection.state, inspection.output), inspection.prebuffer)
    payloads) := by
 induction payloads generalizing inspection with
 | nil => rfl
 | cons payload rest ih =>
  have received := receive_eq_drain callbacks inspection (present payload mem_cons_self) keeps.1
  have later := ih (inspection.receive callbacks payload)
   (fun other member => present other (mem_cons_of_mem _ member)) keeps.2
  rw [Inspection.receiveAll, foldl_cons, <- Inspection.receiveAll, later, received]
  rfl

theorem KeepsBuffer.left {callbacks : Callbacks σ} {inspection : Inspection σ} {done todo : List Bytes}
  (keeps : KeepsBuffer callbacks inspection (done ++ todo)) : KeepsBuffer callbacks inspection done := by
 induction done generalizing inspection with
 | nil => trivial
 | cons payload rest ih => exact ⟨keeps.1, ih keeps.2⟩

theorem exists_whole_frames (wellFormed : ∀ frame ∈ frames, IsFrame frame)
  {read unread : Bytes} (cut : read ++ unread = frames.flatten) :
  ∃ seen ahead part, frames = seen ++ ahead /\ read = seen.flatten ++ part /\ splitFrame part = none := by
 induction frames generalizing read with
 | nil =>
  obtain ⟨rfl, -⟩ := append_eq_nil_iff.mp cut
  exact ⟨[], [], [], rfl, rfl, rfl⟩
 | cons frame rest ih =>
  have isFrame := wellFormed frame mem_cons_self
  rw [flatten_cons] at cut
  cases split : splitFrame read with
  | none => exact ⟨[], frame :: rest, read, rfl, rfl, split⟩
  | some found =>
   -- The first frame that was read is the first frame of the stream.
   have whole := splitFrame_stable split unread
   rw [cut, splitFrame_append isFrame, Option.some.injEq, Prod.mk.injEq] at whole
   obtain ⟨-, rfl⟩ := splitFrame_eq_some.mp split
   obtain ⟨seen, ahead, part, rfl, later, incomplete⟩ :=
    ih (fun other member => wellFormed other (mem_cons_of_mem _ member)) whole.2.symm
   refine ⟨frame :: seen, ahead, part, rfl, ?_, incomplete⟩
   rw [flatten_cons, append_assoc, <- later, whole.1]

structure Calls where
 frames : List (Nat × Bytes) := []
 logins : List Bytes := []

def recording (onFrame : Nat -> Bytes -> Bool) : Callbacks Calls where
 onLoginRes := some fun calls body => { calls with logins := calls.logins ++ [body] }
 onFrame := some fun calls msgId frame =>
  ({ calls with frames := calls.frames ++ [(msgId, frame)] }, onFrame msgId frame)

section

variable (onFrame : Nat -> Bytes -> Bool) (frames : List Bytes)

def callsFor : Calls where
 frames := frames.map fun frame => ((decodeHeader frame).msgId, frame)
 logins := (frames.filter fun frame => (decodeHeader frame).msgId = msgLoginRes).map bodyOf

def passedOn : Bytes :=
 (frames.filter fun frame => !onFrame (decodeHeader frame).msgId frame).flatten

theorem passFrames_recording :
  passFrames (recording onFrame) ({}, []) frames = (callsFor frames, passedOn onFrame frames) := by
 induction frames using reverseRecOn with
 | nil => rfl
 | append_singleton before frame ih =>
  rw [passFrames_append, ih]
  simp only [passFrames, foldl_cons, foldl_nil, inspectFrame, recording, callsFor, passedOn, map_append,
   filter_append, flatten_append, Prod.mk.injEq]
  constructor
  · split <;> simp_all
  · by_cases taken : onFrame (decodeHeader frame).msgId frame = true <;> simp [taken]

end

/-- As long as the guard drops nothing, the callback sees every frame once and in order, the
client gets those it did not take, and between two calls the buffer holds the start of the
next frame. -/
theorem inspection_is_transparent (onFrame : Nat -> Bytes -> Bool) (frames : List Bytes)
  (wellFormed : ∀ frame ∈ frames, IsFrame frame) (chunks : List Bytes) (present : ∀ chunk ∈ chunks, chunk ≠ [])
  (cut : chunks.flatten = frames.flatten) (keeps : KeepsBuffer (recording onFrame) { state := {} } chunks) :
  let after := Inspection.receiveAll (recording onFrame) { state := {} }
  (after chunks).state = callsFor frames /\ (after chunks).output = passedOn onFrame frames /\
    ∀ done todo, chunks = done ++ todo -> ∃ seen ahead, frames = seen ++ ahead /\
     (after done).state = callsFor seen /\ (after done).output = passedOn onFrame seen /\
     done.flatten = seen.flatten ++ (after done).prebuffer /\ splitFrame (after done).prebuffer = none := by
 intro after
 have reached (done todo : List Bytes) (split : chunks = done ++ todo) (seen : List Bytes) (part : Bytes)
   (seenFormed : ∀ frame ∈ seen, IsFrame frame) (read : done.flatten = seen.flatten ++ part)
   (incomplete : splitFrame part = none) :
   after done = { state := callsFor seen, output := passedOn onFrame seen, prebuffer := part } := by
  have doneKeeps : KeepsBuffer (recording onFrame) { state := {} } done := KeepsBuffer.left (split ▸ keeps)
  have donePresent : ∀ chunk ∈ done, chunk ≠ [] := fun chunk member =>
   present chunk (split ▸ mem_append_left _ member)
  rw [show after done = _ from receiveAll_eq_drainAll (recording onFrame) { state := {} } donePresent doneKeeps,
   drainAll_eq _ (step_nil _ _), nil_append, read,
   drain_frames _ _ seenFormed incomplete, passFrames_recording]
  rfl
 have whole := reached chunks [] (append_nil _).symm frames [] wellFormed (by simpa using cut) rfl
 refine ⟨by rw [whole], by rw [whole], fun done todo split => ?_⟩
 have started : done.flatten ++ todo.flatten = frames.flatten := by rw [<- cut, split, flatten_append]
 obtain ⟨seen, ahead, part, rfl, read, incomplete⟩ := exists_whole_frames wellFormed started
 have here := reached done todo split seen part
  (fun frame member => wellFormed frame (mem_append_left _ member)) read incomplete
 rw [here]
 exact ⟨seen, ahead, rfl, rfl, rfl, read, incomplete⟩

theorem login_response_arrives_in_pieces :
  let onFrame : Nat -> Bytes -> Bool := fun msgId _ => msgId = 0
  let login : Bytes := [0, 1, 0, 0x11, 0, 0, 0, 0, 0, 0, 0, 0, 0, 0, 7]
  let after := Inspection.receiveAll (recording onFrame) { state := {} }
   [replicate 14 0 ++ [0, 1, 0], [0x11, 0, 0, 0, 0, 0, 0, 0, 0, 0, 0, 7]]
  after.state = { frames := [(0, replicate 14 0), (0x11, login)], logins := [[7]] } /\
   after.output = login := by
 have transparent := inspection_is_transparent (fun msgId _ => msgId = 0)
  [replicate 14 0, [0, 1, 0, 0x11, 0, 0, 0, 0, 0, 0, 0, 0, 0, 0, 7]] (by decide)
  [replicate 14 0 ++ [0, 1, 0], [0x11, 0, 0, 0, 0, 0, 0, 0, 0, 0, 0, 7]] (by decide) (by decide)
  (by decide +kernel)
 exact ⟨transparent.1, transparent.2.1⟩

def emptyFrame : Bytes := replicate 14 0

theorem flatten_emptyFrames (count : Nat) : (replicate count emptyFrame).flatten = replicate (count * 14) (0 : UInt8) :=
 flatten_replicate_replicate

theorem receive_large_payload (onFrame : Nat -> Bytes -> Bool) {count : Nat}
  (large : kMaxInspectableBytes < (count + 1) * 14) :
  Inspection.receiveAll (recording onFrame) { state := {} }
   [[0], (replicate count emptyFrame).flatten ++ replicate 13 0] =
   { state := callsFor (replicate count emptyFrame)
     output := passedOn onFrame (replicate count emptyFrame)
     prebuffer := replicate 13 0 } := by
 have formed : ∀ frame ∈ replicate count emptyFrame, IsFrame frame := by
  intro frame member
  rw [eq_of_mem_replicate member]
  decide
 have first : Inspection.receive (recording onFrame) { state := {} } [0] = { state := {}, prebuffer := [0] } := by
  have waits : (frameConsumer (recording onFrame)).step ({}, []) [0] = none := rfl
  simp only [Inspection.receive, inspectBackendFrames]
  rw [if_neg (by simp), if_neg (by decide), nil_append, drain_of_waits _ waits]
  rfl
 have size : ((replicate count emptyFrame).flatten ++ replicate 13 (0 : UInt8)).length = count * 14 + 13 := by
  rw [flatten_emptyFrames, length_append, length_replicate, length_replicate]
 have present : (replicate count emptyFrame).flatten ++ replicate 13 (0 : UInt8) ≠ [] := by
  rw [<- length_pos_iff, size]
  omega
 rw [Inspection.receiveAll, foldl_cons, foldl_cons, foldl_nil, first]
 simp only [Inspection.receive, inspectBackendFrames, if_neg present, size, length_singleton]
 rw [if_pos (by omega), nil_append, drain_frames _ _ formed rfl, passFrames_recording]
 rfl

theorem large_payload_loses_a_byte :
  ∃ (onFrame : Nat -> Bytes -> Bool) (frames chunks : List Bytes),
   (∀ frame ∈ frames, IsFrame frame) /\ (∀ chunk ∈ chunks, chunk ≠ []) /\ chunks.flatten = frames.flatten /\
     (Inspection.receiveAll (recording onFrame) { state := {} } chunks).state ≠ callsFor frames /\
     (Inspection.receiveAll (recording onFrame) { state := {} } chunks).output ≠ passedOn onFrame frames := by
 have large : kMaxInspectableBytes < (18724 + 1) * 14 := by decide
 have output (count : Nat) : (passedOn (fun _ _ => false) (replicate count emptyFrame)).length =
   count * 14 := by
  rw [passedOn, filter_eq_self.mpr (by simp), flatten_emptyFrames, length_replicate]
 have received := receive_large_payload (fun _ _ => false) large
 generalize 18724 = count at received
 refine ⟨fun _ _ => false, replicate (count + 1) emptyFrame,
  [[0], (replicate count emptyFrame).flatten ++ replicate 13 0], ?_, ?_, ?_, ?_, ?_⟩
 · intro frame member
   rw [eq_of_mem_replicate member]
   decide
 · intro chunk member
   simp only [mem_cons, not_mem_nil, or_false] at member
   obtain rfl | rfl := member <;> simp
 · rw [flatten_emptyFrames, flatten_emptyFrames, flatten_cons, flatten_singleton,
    replicate_append_replicate, <- replicate_one, replicate_append_replicate]
   congr 1
   omega
 · rw [received]
   intro same
   have lengths := congrArg (fun calls => calls.frames.length) same
   simp [callsFor] at lengths
 · rw [received]
   intro same
   have lengths := congrArg length same
   rw [output, output] at lengths
   omega

end Dynaxis.Gateway
