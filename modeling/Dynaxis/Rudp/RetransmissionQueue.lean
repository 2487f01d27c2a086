import Dynaxis.Shared.Bytes

namespace Dynaxis.Rudp

open Shared List

structure PendingPacket where
 packetNumber : Nat := 0
 firstSentUnixMs : Nat := 0
 lastSentUnixMs : Nat := 0
 retransmitCount : Nat := 0
 encodedFrame : Bytes := []

structure Entry where
 packet : PendingPacket
 acked : Bool := false

structure RetransmissionQueue where
 pending : List Entry := []
 inflightBytes : Nat := 0

def elapsedMs (now earlier : Nat) : Nat :=
 if earlier ≤ now then now - earlier else now + 18446744073709551616 - earlier

namespace RetransmissionQueue

section

variable (queue : RetransmissionQueue) (packetNumber sentUnixMs : Nat)

def inflightPackets : Nat := queue.pending.length

def push (encodedFrame : Bytes) : RetransmissionQueue :=
 if encodedFrame = [] then queue
 else
  { pending := queue.pending ++
     [{ packet :=
         { packetNumber := packetNumber
           firstSentUnixMs := sentUnixMs
           lastSentUnixMs := sentUnixMs
           retransmitCount := 0
           encodedFrame := encodedFrame } }]
    inflightBytes := queue.inflightBytes + encodedFrame.length }

def isAckedByMask (ackLargest ackMask : Nat) : Bool :=
 if ackLargest < packetNumber then false
 else if packetNumber = ackLargest then true
 else if 64 ≤ ackLargest - packetNumber then true
 else ackMask.testBit (ackLargest - packetNumber)

def popAcked : List Entry -> Nat -> List Entry × Nat
 | [], inflightBytes => ([], inflightBytes)
 | entry :: rest, inflightBytes =>
  if entry.acked then
   let size := entry.packet.encodedFrame.length
   popAcked rest (if size ≤ inflightBytes then inflightBytes - size else 0)
  else (entry :: rest, inflightBytes)

def totalBytes (pending : List Entry) : Nat :=
 pending.foldl (fun total entry => total + entry.packet.encodedFrame.length) 0

def eraseAcked : RetransmissionQueue :=
 let (pending, inflightBytes) := popAcked queue.pending queue.inflightBytes
 if pending = [] then { pending := pending, inflightBytes := inflightBytes }
 else
  let kept := pending.filter fun entry => !entry.acked
  if kept.length = pending.length then { pending := kept, inflightBytes := inflightBytes }
  else { pending := kept, inflightBytes := totalBytes kept }

def markAcked (ackLargest ackMask : Nat) : RetransmissionQueue :=
 eraseAcked
  { queue with
    pending := queue.pending.map fun entry =>
     if entry.acked = false /\ isAckedByMask entry.packet.packetNumber ackLargest ackMask then
      { entry with acked := true }
     else entry }

def collect (now rtoMs : Nat) : List Entry -> Nat -> List Entry × List PendingPacket
 | [], _ => ([], [])
 | entry :: rest, 0 => (entry :: rest, [])
 | entry :: rest, budget + 1 =>
  if entry.acked \/ elapsedMs now entry.packet.lastSentUnixMs < rtoMs then
   let (pending, due) := collect now rtoMs rest (budget + 1)
   (entry :: pending, due)
  else
   let packet :=
    { entry.packet with
      lastSentUnixMs := now
      retransmitCount := u32 (entry.packet.retransmitCount + 1) }
   let (pending, due) := collect now rtoMs rest budget
   ({ entry with packet := packet } :: pending, packet :: due)

def collectTimeouts (now rtoMs maxBatch : Nat) : RetransmissionQueue × List PendingPacket :=
 if maxBatch = 0 \/ rtoMs = 0 then (queue, [])
 else
  let (pending, due) := collect now rtoMs queue.pending maxBatch
  ({ queue with pending := pending }, due)

end

structure Outline where
 packetNumber : Nat
 frame : Bytes
 acked : Bool

def outlineOf (entry : Entry) : Outline :=
 { packetNumber := entry.packet.packetNumber
   frame := entry.packet.encodedFrame
   acked := entry.acked }

def outline (queue : RetransmissionQueue) : List Outline := queue.pending.map outlineOf

variable {queue : RetransmissionQueue}

theorem mem_outline {entry : Entry} (member : entry ∈ queue.pending) : outlineOf entry ∈ queue.outline :=
 mem_map_of_mem member

section

variable (queue : RetransmissionQueue) (ackLargest ackMask : Nat)

theorem outline_push (packetNumber sentUnixMs : Nat) {frame : Bytes} (nonempty : frame ≠ []) :
  (queue.push packetNumber sentUnixMs frame).outline =
    queue.outline ++ [{ packetNumber := packetNumber, frame := frame, acked := false }] := by
 simp [outline, outlineOf, push, nonempty]

theorem filter_popAcked (pending : List Entry) (inflightBytes : Nat) :
  ((popAcked pending inflightBytes).1.filter fun entry => !entry.acked) = pending.filter fun entry => !entry.acked := by
 induction pending generalizing inflightBytes with
 | nil => rfl
 | cons entry rest ih =>
  cases acked : entry.acked with
  | true => simp [popAcked, acked, ih]
  | false => simp [popAcked, acked]

theorem pending_eraseAcked :
  queue.eraseAcked.pending = queue.pending.filter fun entry => !entry.acked := by
 have same := filter_popAcked queue.pending queue.inflightBytes
 simp only [eraseAcked]
 split
 next empty =>
  rw [empty, filter_nil] at same
  rw [<- same, empty]
 next =>
  split
  · exact same
  · exact same

theorem pending_markAcked :
  (queue.markAcked ackLargest ackMask).pending = queue.pending.filter fun entry =>
    !entry.acked && !isAckedByMask entry.packet.packetNumber ackLargest ackMask := by
 rw [markAcked, pending_eraseAcked]
 induction queue.pending with
 | nil => rfl
 | cons entry rest ih =>
  cases acked : entry.acked with
  | true => simp [acked, ih]
  | false =>
   by_cases covered : isAckedByMask entry.packet.packetNumber ackLargest ackMask = true
   · simpa [acked, covered] using ih
   · simpa [acked, covered] using ih

theorem outline_markAcked :
  (queue.markAcked ackLargest ackMask).outline = queue.outline.filter fun packet =>
    !packet.acked && !isAckedByMask packet.packetNumber ackLargest ackMask := by
 rw [outline, pending_markAcked, outline, filter_map]
 rfl

theorem outline_collectTimeouts (now rtoMs maxBatch : Nat) :
  (queue.collectTimeouts now rtoMs maxBatch).1.outline = queue.outline := by
 have same : ∀ (entries : List Entry) (budget : Nat),
   outline { pending := (collect now rtoMs entries budget).1 } = outline { pending := entries } := by
  intro entries
  induction entries with
  | nil => exact fun _ => rfl
  | cons entry rest ih =>
   intro budget
   cases budget with
   | zero => rfl
   | succ budget =>
    simp only [outline, collect] at ih ⊢
    split
    · simp [ih]
    · simp [ih, outlineOf]
 simp only [collectTimeouts]
 split
 · rfl
 · exact same queue.pending maxBatch

theorem collectTimeouts_due (now rtoMs maxBatch : Nat) :
  ∃ packets : List Outline, packets.Sublist queue.outline /\
   ((queue.collectTimeouts now rtoMs maxBatch).2.map fun packet => packet.encodedFrame) =
     packets.map fun packet => packet.frame := by
 have part : ∀ (entries : List Entry) (budget : Nat), ∃ packets : List Outline,
   packets.Sublist (outline { pending := entries }) /\
   ((collect now rtoMs entries budget).2.map fun packet => packet.encodedFrame) =
     packets.map fun packet => packet.frame := by
  intro entries
  induction entries with
  | nil => exact fun _ => ⟨[], List.Sublist.refl _, rfl⟩
  | cons entry rest ih =>
   intro budget
   cases budget with
   | zero => exact ⟨[], nil_sublist _, rfl⟩
   | succ budget =>
    simp only [collect]
    split
    · obtain ⟨packets, inside, same⟩ := ih (budget + 1)
      exact ⟨packets, inside.cons _, same⟩
    · obtain ⟨packets, inside, same⟩ := ih budget
      refine ⟨outlineOf entry :: packets, inside.cons_cons _, ?_⟩
      simp [same, outlineOf]
 simp only [collectTimeouts]
 split
 · exact ⟨[], nil_sublist _, rfl⟩
 · exact part queue.pending maxBatch

end

theorem collectTimeouts_all_due {now rtoMs maxBatch : Nat} (batch : maxBatch ≠ 0) (rto : rtoMs ≠ 0)
  (due : ∀ entry ∈ queue.pending, entry.acked = false /\ entry.packet.lastSentUnixMs + rtoMs ≤ now) :
  ((queue.collectTimeouts now rtoMs maxBatch).2.map fun packet => packet.encodedFrame) =
     (queue.outline.take maxBatch).map (fun packet => packet.frame) /\
    ∀ entry ∈ (queue.collectTimeouts now rtoMs maxBatch).1.pending, entry.packet.lastSentUnixMs ≤ now := by
 have front : ∀ (entries : List Entry) (budget : Nat),
   (∀ entry ∈ entries, entry.acked = false /\ entry.packet.lastSentUnixMs + rtoMs ≤ now) ->
   ((collect now rtoMs entries budget).2.map fun packet => packet.encodedFrame) =
     ((outline { pending := entries }).take budget).map (fun packet => packet.frame) /\
   ∀ entry ∈ (collect now rtoMs entries budget).1, entry.packet.lastSentUnixMs ≤ now := by
  intro entries
  induction entries with
  | nil => exact fun _ _ => ⟨by simp [collect, outline], by simp [collect]⟩
  | cons entry rest ih =>
   intro budget all
   cases budget with
   | zero =>
    refine ⟨rfl, fun waiting member => ?_⟩
    have early := (all waiting member).2
    omega
   | succ budget =>
    obtain ⟨unacked, late⟩ := all entry mem_cons_self
    have elapsed : ¬ elapsedMs now entry.packet.lastSentUnixMs < rtoMs := by
     unfold elapsedMs
     split <;> omega
    obtain ⟨frames, times⟩ := ih budget fun other member => all other (mem_cons_of_mem _ member)
    simp only [collect, unacked, elapsed, or_self, Bool.false_eq_true, if_false]
    constructor
    · simpa [outline, outlineOf] using frames
    · intro waiting member
      rcases mem_cons.mp member with rfl | later
      · exact Nat.le_refl now
      · exact times waiting later
 simp only [collectTimeouts, batch, rto, or_self, if_false]
 exact front queue.pending maxBatch due

end RetransmissionQueue

end Dynaxis.Rudp
