import Dynaxis.Shared.Machine
import Dynaxis.Shared.Word

/-! Frames sent on one session: a call takes its number on any thread, makes the packet, and hands it to the strand,
which queues the frames and writes them one at a time. -/

namespace Dynaxis.Net

open Shared List

structure Frame where
 seq : Nat
 size : Nat
 deriving DecidableEq

/-- A call between `tx_seq_++` and its strand handler. -/
inductive Call
 | numbered (frame : Frame)
 | dispatched (frame : Frame)
 deriving DecidableEq

def Call.seq : Call -> Nat
 | .numbered frame | .dispatched frame => frame.seq

structure Session where
 txSeq : Nat := 1
 calls : List Call := []
 sendQueue : List Frame := []
 queuedBytes : Nat := 0
 stopped : Bool := false
 written : List Nat := []

inductive Event
 | number (size : Nat)
 | makePacket (frame : Frame) (made : Bool)
 | asyncSend (frame : Frame)
 | wrote (failed : Bool)
 | stop

def exceedsQueueBudget (max queued incoming : Nat) : Bool :=
 max ≠ 0 && (incoming > max || queued > max - incoming)

namespace Session

section

variable (sendQueueMax : Nat) (session : Session)

def step : Event -> Option Session
 | .number size => some
  { session with
    txSeq := u32 (session.txSeq + 1)
    calls := session.calls ++ [.numbered ⟨session.txSeq, size⟩] }
 | .makePacket frame made =>
  if .numbered frame ∈ session.calls then
   let calls := session.calls.erase (.numbered frame)
   some { session with calls := if made then calls ++ [.dispatched frame] else calls }
  else none
 | .asyncSend frame =>
  if .dispatched frame ∈ session.calls then
   let session := { session with calls := session.calls.erase (.dispatched frame) }
   if session.stopped then some session
   else if exceedsQueueBudget sendQueueMax session.queuedBytes frame.size then
    some { session with stopped := true }
   else some
    { session with
      sendQueue := session.sendQueue ++ [frame]
      queuedBytes := session.queuedBytes + frame.size }
  else none
 | .wrote failed =>
  match session.sendQueue with
  | [] => none
  | frame :: rest =>
   if failed \/ session.stopped then some { session with stopped := true }
   else some
    { session with
      sendQueue := rest
      queuedBytes := session.queuedBytes - frame.size
      written := session.written ++ [frame.seq] }
 | .stop => some { session with stopped := true }

abbrev machine : Machine Session Event := ⟨step sendQueueMax⟩

/-- A number is taken only when no other call is under way, and every packet is made. -/
def Serial : Event -> Prop
 | .number _ => session.calls = []
 | .makePacket _ made => made
 | _ => True

def numbers (count : Nat) : List Nat := (range count).map fun index => u32 (index + 1)

theorem numbers_succ (count : Nat) : numbers (count + 1) = numbers count ++ [u32 (count + 1)] := by
 simp [numbers, range_succ]

structure Ordered : Prop where
 calls : session.calls.length ≤ 1
 written : ∃ count, session.written <+: numbers count
 pending : session.stopped = false -> ∃ count, session.txSeq = u32 (count + 1) /\
  session.written ++ session.sendQueue.map (·.seq) ++ session.calls.map (·.seq) = numbers count

end

variable {sendQueueMax : Nat} {session next : Session}

theorem Ordered.stop (ordered : session.Ordered) : Ordered { session with stopped := true } :=
 ⟨ordered.calls, ordered.written, nofun⟩

theorem eq_singleton {calls : List Call} {call : Call} (few : calls.length ≤ 1) (member : call ∈ calls) :
  calls = [call] := by
 match calls, few with
 | [only], _ => rw [mem_singleton.mp member]

theorem Ordered.step (ordered : session.Ordered) {event : Event} (serial : session.Serial event)
  (taken : session.step sendQueueMax event = some next) : next.Ordered := by
 cases event with
 | number size =>
  cases taken
  refine ⟨by simp [show session.calls = [] from serial], ordered.written, fun running => ?_⟩
  obtain ⟨count, following, pending⟩ := ordered.pending running
  refine ⟨count + 1, by simp [following, u32], ?_⟩
  rw [numbers_succ, <- pending, <- following, map_append, <- append_assoc]
  rfl
 | makePacket frame made =>
  obtain ⟨member, ⟨⟩⟩ := Option.ite_none_right_eq_some.mp taken
  obtain rfl : made = true := serial
  have only := eq_singleton ordered.calls member
  refine ⟨by simp [only], ordered.written, fun running => ?_⟩
  obtain ⟨count, following, pending⟩ := ordered.pending running
  exact ⟨count, following, by simpa [only, Call.seq] using pending⟩
 | asyncSend frame =>
  obtain ⟨member, taken⟩ := Option.ite_none_right_eq_some.mp taken
  have only := eq_singleton ordered.calls member
  have erased : session.calls.erase (.dispatched frame) = [] := by simp [only]
  rw [erased] at taken
  cases running : session.stopped with
  | true =>
   simp only [running, if_true] at taken
   cases taken
   exact ⟨Nat.zero_le _, ordered.written, fun live => by cases live⟩
  | false =>
   obtain ⟨count, following, pending⟩ := ordered.pending running
   simp only [running, Bool.false_eq_true, if_false] at taken
   split at taken <;> cases taken
   · exact ⟨Nat.zero_le _, ordered.written, fun live => by cases live⟩
   · exact ⟨Nat.zero_le _, ordered.written, fun _ => ⟨count, following, by simpa [only, Call.seq] using pending⟩⟩
 | wrote failed =>
  rw [Session.step] at taken
  split at taken
  · cases taken
  next frame rest front =>
   split at taken <;> cases taken
   · exact ordered.stop
   next live =>
    obtain ⟨count, following, pending⟩ := ordered.pending (by simp_all)
    rw [front, map_cons] at pending
    refine ⟨ordered.calls, ⟨count, rest.map (·.seq) ++ session.calls.map (·.seq), by simpa using pending⟩, ?_⟩
    exact fun _ => ⟨count, following, by simpa using pending⟩
 | stop =>
  cases taken
  exact ordered.stop

/-- While calls do not overlap and packets are made, the frames are written with consecutive numbers. -/
theorem written_numbers_are_consecutive {trace : List Event}
  (serial : (machine sendQueueMax).Guarded Serial {} trace)
  (ran : (machine sendQueueMax).run {} trace = some session) : session.written = numbers session.written.length := by
 have initial : Ordered {} := ⟨Nat.zero_le _, ⟨0, nil_prefix⟩, fun _ => ⟨0, rfl, rfl⟩⟩
 have ordered := (machine sendQueueMax).run_invariant (fun _ _ _ ordered => ordered.step) initial serial ran
 obtain ⟨count, front⟩ := ordered.written
 have fits := front.length_le
 rw [numbers, length_map, length_range] at fits
 rw [prefix_iff_eq_take.mp front]
 simp [numbers, take_range, <- map_take, fits]

theorem two_frames_are_written :
  let trace : List Event := [.number 14, .makePacket ⟨1, 14⟩ true, .asyncSend ⟨1, 14⟩, .number 20,
   .makePacket ⟨2, 20⟩ true, .wrote false, .asyncSend ⟨2, 20⟩, .wrote false]
  ∃ session, (machine 0).run {} trace = some session /\ session.written = numbers 2 := by
 intro trace
 have serial : (machine 0).Guarded Serial {} trace := by
  simp [trace, Machine.Guarded, Serial, step, exceedsQueueBudget]
 exact ⟨_, rfl, written_numbers_are_consecutive serial rfl⟩

theorem overlapping_calls_swap_their_frames :
  ∃ trace session, (machine 0).run {} trace = some session /\ session.stopped = false /\
   session.written = [2, 1] :=
 ⟨[.number 14, .number 14, .makePacket ⟨1, 14⟩ true, .makePacket ⟨2, 14⟩ true, .asyncSend ⟨2, 14⟩,
   .asyncSend ⟨1, 14⟩, .wrote false, .wrote false], _, rfl, rfl, rfl⟩

end Session

end Dynaxis.Net
