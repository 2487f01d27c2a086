import Dynaxis.Rudp.Reliability

namespace Dynaxis.Rudp

open Shared Shared.Bytes List Network RetransmissionQueue RudpEngine Nat

structure Round where
 pollAt : Nat
 -- when the receiver processes the retransmissions, and the sender the acks
 arriveAt : Nat -> Nat
 ackAt : Nat -> Nat

structure Pair where
 sender : RudpEngine
 receiver : RudpEngine

def receiveAll (clock : Nat -> Nat) : RudpEngine -> Nat -> List Bytes -> RudpEngine × List Bytes
 | engine, _, [] => (engine, [])
 | engine, index, datagram :: rest =>
  let (next, result) := engine.processDatagram datagram (clock index)
  let (last, egress) := receiveAll clock next (index + 1) rest
  (last, result.egressDatagrams ++ egress)

theorem receiveAll_cons (clock : Nat -> Nat) (engine : RudpEngine) (index : Nat) (datagram : Bytes)
  (rest : List Bytes) :
  receiveAll clock engine index (datagram :: rest) =
   ((receiveAll clock (engine.processDatagram datagram (clock index)).1 (index + 1) rest).1,
     (engine.processDatagram datagram (clock index)).2.egressDatagrams ++
       (receiveAll clock (engine.processDatagram datagram (clock index)).1 (index + 1) rest).2) := rfl

def Pair.round (pair : Pair) (round : Round) : Pair × List Bytes :=
 let (polled, result) := pair.sender.poll round.pollAt
 let (receiver, acks) := receiveAll round.arriveAt pair.receiver 0 result.egressDatagrams
 let (sender, echo) := receiveAll round.ackAt polled 0 acks
 ({ sender := sender, receiver := receiver }, echo)

def Pair.after (pair : Pair) (schedule : Nat -> Round) : Nat -> Pair
 | 0 => pair
 | rounds + 1 => ((pair.after schedule rounds).round (schedule rounds)).1

def Pair.Drained (pair : Pair) : Prop := pair.sender.retransmissionQueue.pending = []

structure DataFor (engine : RudpEngine) (datagram : Bytes) (header : RudpHeader) (payload : Bytes) :
  Prop where
 decoded : decodePacket datagram = some (header, payload)
 magic : header.magic = rudpMagic
 version : header.version = 1
 type : header.type = .data
 connectionId : header.connectionId = engine.state.connectionId
 established : engine.state.lifecycle = .established

variable {datagram payload : Bytes} {header : RudpHeader} {engine receiver : RudpEngine}
 {packet : RetransmissionQueue.Outline} {accepted : List Nat} {connectionId : Nat}
 {packets : List RetransmissionQueue.Outline} {schedule : Nat -> Round}

theorem looksLikeRudp_of_decoded (decoded : decodePacket datagram = some (header, payload))
  (magic : header.magic = rudpMagic) : looksLikeRudp datagram = true := by
 have size : rudpHeaderBytes ≤ datagram.length := by
  by_contra short
  simp [decodePacket, Nat.lt_of_not_le short] at decoded
 rw [decodePacket_header decoded] at magic
 have first : readBe16 datagram 0 = rudpMagic := magic
 simp only [rudpHeaderBytes] at size
 simp only [looksLikeRudp, first, decide_true, Bool.and_true, decide_eq_true_eq]
 omega

theorem processDatagram_data (valid : DataFor engine datagram header payload) (now : Nat) :
  engine.processDatagram datagram now =
   (engine.received header now).receiveData header payload now { consumed := true, parsed := true } := by
 have looks := looksLikeRudp_of_decoded valid.decoded valid.magic
 have passed : engine.checkHeader datagram now = .ok (engine.received header now, header, payload) := by
  simp [checkHeader, looks, valid.decoded, valid.version, valid.connectionId, received]
 simp only [processDatagram, passed, dispatch, valid.type]

structure DataProcessed (engine : RudpEngine) (header : RudpHeader) (now : Nat)
  (outcome : RudpEngine × ProcessResult) : Prop where
 config : outcome.1.config = engine.config
 established : outcome.1.state.lifecycle = .established
 connectionId : outcome.1.state.connectionId = engine.state.connectionId
 received : outcome.1.state.lastRecvUnixMs = now
 queue : outcome.1.retransmissionQueue =
  engine.retransmissionQueue.markAcked header.ackLargest header.ackMask
 window : outcome.1.ackWindow = (engine.ackWindow.observe header.packetNumber).1
 egress : outcome.2.egressDatagrams =
  if engine.ackWindow.accepts header.packetNumber /\ engine.ackDue header now then
   [((engine.received header now).observe header.packetNumber).makePacket .data flagAckOnly header.channel 0 now []]
  else []

theorem processDatagram_data_spec (valid : DataFor engine datagram header payload) (now : Nat) :
  DataProcessed engine header now (engine.processDatagram datagram now) := by
 rw [processDatagram_data valid]
 have established : (engine.received header now).state.lifecycle = .established := valid.established
 have connectionId : (engine.received header now).state.connectionId = engine.state.connectionId := by
  simp [received, valid.connectionId]
 simp only [receiveData, established, ne_eq, not_true, if_false]
 cases fresh : engine.ackWindow.accepts header.packetNumber with
 | false =>
  have same : (engine.received header now).ackWindow.accepts header.packetNumber = false := fresh
  rw [if_pos same]
  exact ⟨rfl, established, connectionId, rfl, rfl, rfl, by simp [fresh]⟩
 | true =>
  have same : (engine.received header now).ackWindow.accepts header.packetNumber ≠ false := by
   rw [show (engine.received header now).ackWindow.accepts header.packetNumber = true from fresh]
   decide
  rw [if_neg same]
  cases gate : engine.ackDue header now with
  | false =>
   have closed : ((engine.received header now).observe header.packetNumber).ackDue header now = false :=
    gate
   simp only [emitAck, closed, sampleRtt]
   split <;> exact ⟨rfl, established, connectionId, rfl, rfl, rfl, by simp [fresh, gate]⟩
  | true =>
   have opened : ((engine.received header now).observe header.packetNumber).ackDue header now = true :=
    gate
   simp only [emitAck, opened, sampleRtt]
   split <;> exact ⟨rfl, established, connectionId, rfl, rfl, rfl, by simp [fresh, gate]⟩

structure Readable (connectionId : Nat) (packet : RetransmissionQueue.Outline) : Prop where
 unacked : packet.acked = false
 frame : IsFrame packet.packetNumber packet.frame
 connectionId : (decodeHeader packet.frame).connectionId = connectionId
 size : packet.frame.length < rudpHeaderBytes + 65536

theorem markRetransmit_encodePacket (fits : header.Fits) (payload : Bytes) :
  markRetransmit (encodePacket header payload) =
   encodePacket { header with flags := header.flags ||| flagRetransmit } payload := by
 have read (bytes : Bytes) : (decodeHeader bytes).flags = byteAt bytes 27 := rfl
 have flags : byteAt (encodePacket header payload) 27 = header.flags := by
  rw [<- read, decodeHeader_encodePacket fits payload]
 unfold markRetransmit
 rw [if_pos (by simp), flags]
 rfl

theorem readable_data (readable : Readable receiver.state.connectionId packet)
  (established : receiver.state.lifecycle = .established) :
  ∃ header payload, DataFor receiver (markRetransmit packet.frame) header payload /\
   header.packetNumber = packet.packetNumber /\ header.channel < 256 /\ header.flags &&& flagAckOnly = 0 := by
 obtain ⟨header, payload, same, fits, magic, version, type, flags, number⟩ := readable.frame
 have size := readable.size
 rw [same, length_encodePacket] at size
 have connectionId : header.connectionId = receiver.state.connectionId := by
  have decoded := readable.connectionId
  rwa [same, decodeHeader_encodePacket fits] at decoded
 have marked : RudpHeader.Fits { header with flags := header.flags ||| flagRetransmit } := by
  refine ⟨fits.magic, fits.version, fits.type, fits.connectionId, fits.packetNumber, fits.ackLargest,
   fits.ackMask, fits.ackDelayMs, fits.channel, ?_, fits.timestampMs⟩
  show header.flags ||| flagRetransmit < 256
  rw [flags]
  decide
 have bound : payload.length < 65536 := by omega
 have decoded := decodePacket_encodePacket marked bound
 rw [same, markRetransmit_encodePacket fits]
 refine ⟨_, payload, ⟨decoded, magic, version, type, connectionId, established⟩, number, fits.channel, ?_⟩
 show (header.flags ||| flagRetransmit) &&& flagAckOnly = 0
 rw [flags]
 decide

structure IsAck (connectionId : Nat) (datagram : Bytes) : Prop where
 decoded : ∃ header, decodePacket datagram = some (header, []) /\ header.magic = rudpMagic /\
  header.version = 1 /\ header.type = .data /\ header.connectionId = connectionId /\
  header.flags &&& flagAckOnly ≠ 0

def AcksNumber (packetNumber : Nat) (datagram : Bytes) : Prop :=
 isAckedByMask packetNumber (decodeHeader datagram).ackLargest
  (decodeHeader datagram).ackMask = true

structure Listening (engine : RudpEngine) (connectionId : Nat) : Prop where
 established : engine.state.lifecycle = .established
 connectionId : engine.state.connectionId = connectionId
 sound : ∃ accepted, engine.Sound accepted

theorem DataFor.observed_sound (valid : DataFor engine datagram header payload)
  (sound : engine.Sound accepted) (now : Nat) :
  ((engine.received header now).observe header.packetNumber).Sound (header.packetNumber :: accepted) := by
 have bound : header.packetNumber < 4294967296 := by
  rw [decodePacket_header valid.decoded]
  exact readBe32_lt datagram 8
 exact observe_sound (received_sound sound valid.decoded now) bound

theorem ack_isAck (valid : DataFor engine datagram header payload) (sound : engine.Sound accepted)
  (now : Nat) (channel : header.channel < 256) :
  let ack := ((engine.received header now).observe header.packetNumber).makePacket .data flagAckOnly
   header.channel 0 now []
  IsAck engine.state.connectionId ack /\ AcksNumber header.packetNumber ack := by
 intro ack
 have observed := valid.observed_sound sound now
 obtain ⟨made, same, fits, magic, version, type, flags, _, largest, mask, connectionId⟩ :=
  makePacket_fits observed .data (by decide) (by decide : flagAckOnly < 256) channel (by decide : 0 < 4294967296) now []
 have decoded : decodePacket ack = some ({ made with payloadLength := 0 }, []) := by
  rw [show ack = encodePacket made [] from same]
  exact decodePacket_encodePacket fits (by decide)
 constructor
 · refine ⟨_, decoded, magic, version, type, ?_, ?_⟩
   · show made.connectionId = _
     rw [connectionId]
     simp [observe, received, valid.connectionId]
   · show made.flags &&& flagAckOnly ≠ 0
     rw [flags]
     decide
 · have member : header.packetNumber ∈ header.packetNumber :: accepted := mem_cons_self
   have covered := observed.acks_accepted member
   unfold AcksNumber
   rw [<- decodePacket_header decoded]
   show isAckedByMask header.packetNumber made.ackLargest made.ackMask = true
   rw [largest, mask]
   exact covered

theorem forward_step (listening : Listening receiver connectionId)
  (readable : Readable connectionId packet) (now : Nat) :
  let outcome := receiver.processDatagram (markRetransmit packet.frame) now
  Listening outcome.1 connectionId /\ outcome.1.ackWindow = (receiver.ackWindow.observe packet.packetNumber).1 /\
   (∀ datagram ∈ outcome.2.egressDatagrams, IsAck connectionId datagram) /\
   (receiver.ackWindow.accepts packet.packetNumber = false -> outcome.2.egressDatagrams = []) /\
   (receiver.ackWindow.accepts packet.packetNumber = true ->
     receiver.state.lastAckEmitUnixMs + receiver.config.ackDelayMs ≤ now ->
     ∃ datagram ∈ outcome.2.egressDatagrams, AcksNumber packet.packetNumber datagram) := by
 intro outcome
 obtain ⟨established, rfl, accepted, sound⟩ := listening
 obtain ⟨header, payload, valid, number, channel, flags⟩ := readable_data readable established
 obtain ⟨_, still, same, _, _, window, egress⟩ := processDatagram_data_spec valid now
 rw [number] at window egress
 refine ⟨⟨still, same, _, (processDatagram_sound sound _ now).1⟩, window, ?_, ?_, ?_⟩
 · intro datagram member
   rw [egress] at member
   split at member
   next due =>
    obtain rfl := mem_singleton.mp member
    rw [<- number] at due ⊢
    exact (ack_isAck valid sound now channel).1
   next => cases member
 · intro stale
   rw [egress, if_neg (by simp [stale])]
 · intro fresh late
   have due : receiver.ackDue header now = true := by simp [ackDue, flags, late]
   rw [egress, if_pos ⟨fresh, due⟩]
   rw [<- number] at fresh ⊢
   exact ⟨_, mem_singleton.mpr rfl, (ack_isAck valid sound now channel).2⟩

def ArrivesAfterAckDelay (clock : Nat -> Nat) : RudpEngine -> Nat -> List Bytes -> Prop
 | _, _, [] => True
 | receiver, index, datagram :: rest =>
  receiver.state.lastAckEmitUnixMs + receiver.config.ackDelayMs ≤ clock index /\
   ArrivesAfterAckDelay clock (receiver.processDatagram datagram (clock index)).1 (index + 1) rest

def retransmissions (packets : List RetransmissionQueue.Outline) : List Bytes :=
 packets.map fun packet => markRetransmit packet.frame

theorem forward_leg (readable : ∀ packet ∈ packets, Readable connectionId packet)
  (clock : Nat -> Nat) (listening : Listening receiver connectionId) (index : Nat) :
  let leg := receiveAll clock receiver index (retransmissions packets)
  Listening leg.1 connectionId /\ ∀ datagram ∈ leg.2, IsAck connectionId datagram := by
 induction packets generalizing receiver index with
 | nil => exact ⟨listening, by simp [retransmissions, receiveAll]⟩
 | cons packet rest ih =>
  obtain ⟨next, _, acks, _⟩ := forward_step listening (readable packet mem_cons_self) (clock index)
  obtain ⟨last, later⟩ := ih (fun other member => readable other (mem_cons_of_mem _ member)) next (index + 1)
  refine ⟨last, fun datagram member => ?_⟩
  rcases mem_append.mp member with first | others
  · exact acks datagram first
  · exact later datagram others

theorem forward_leg_stale (readable : ∀ packet ∈ packets, Readable connectionId packet)
  (clock : Nat -> Nat) (listening : Listening receiver connectionId) (index : Nat)
  (stale : ∀ packet ∈ packets, receiver.ackWindow.accepts packet.packetNumber = false) :
  let leg := receiveAll clock receiver index (retransmissions packets)
  leg.1.ackWindow = receiver.ackWindow /\ leg.2 = [] := by
 induction packets generalizing receiver index with
 | nil => exact ⟨rfl, rfl⟩
 | cons packet rest ih =>
  have old := stale packet mem_cons_self
  obtain ⟨next, window, _, silent, _⟩ :=
   forward_step listening (readable packet mem_cons_self) (clock index)
  rw [AckWindow.observe_rejected old] at window
  obtain ⟨same, quiet⟩ := ih (fun other member => readable other (mem_cons_of_mem _ member)) next
   (index + 1) (fun other member => by
     rw [window]
     exact stale other (mem_cons_of_mem _ member))
  refine ⟨same.trans window, ?_⟩
  rw [retransmissions, map_cons, receiveAll_cons, silent old]
  exact quiet

theorem forward_leg_acks (readable : ∀ packet ∈ packets, Readable connectionId packet)
  {clock : Nat -> Nat} (listening : Listening receiver connectionId) {index : Nat}
  (late : ArrivesAfterAckDelay clock receiver index (retransmissions packets))
  (fresh : ∃ packet ∈ packets, receiver.ackWindow.accepts packet.packetNumber = true) :
  ∃ packet ∈ packets, ∃ datagram ∈ (receiveAll clock receiver index (retransmissions packets)).2,
   AcksNumber packet.packetNumber datagram := by
 induction packets generalizing receiver index with
 | nil => simp at fresh
 | cons packet rest ih =>
  obtain ⟨next, window, _, _, acks⟩ :=
   forward_step listening (readable packet mem_cons_self) (clock index)
  cases now : receiver.ackWindow.accepts packet.packetNumber with
  | true =>
   obtain ⟨datagram, emitted, covers⟩ := acks now late.1
   exact ⟨packet, mem_cons_self, datagram, mem_append_left _ emitted, covers⟩
  | false =>
   obtain ⟨other, member, accepts⟩ := fresh
   have later : other ∈ rest := by
    rcases mem_cons.mp member with rfl | later
    · rw [now] at accepts
      cases accepts
    · exact later
   rw [AckWindow.observe_rejected now] at window
   obtain ⟨found, inside, datagram, emitted, covers⟩ :=
    ih (fun other member => readable other (mem_cons_of_mem _ member)) next late.2 ⟨other, later, by rwa [window]⟩
   exact ⟨found, mem_cons_of_mem _ inside, datagram, mem_append_right _ emitted, covers⟩

structure AcksRead (sender next : RudpEngine) (clock : Nat -> Nat) (acks : List Bytes) : Prop where
 config : next.config = sender.config
 established : next.state.lifecycle = .established
 connectionId : next.state.connectionId = sender.state.connectionId
 pending : next.retransmissionQueue.pending.Sublist sender.retransmissionQueue.pending
 removed : ∀ datagram ∈ acks, ∀ entry ∈ next.retransmissionQueue.pending,
  ¬ AcksNumber entry.packet.packetNumber datagram
 received : acks = [] \/ ∃ index, next.state.lastRecvUnixMs = clock index

theorem backward_leg {acks : List Bytes}
  (valid : ∀ datagram ∈ acks, IsAck connectionId datagram) (clock : Nat -> Nat) {sender : RudpEngine}
  (established : sender.state.lifecycle = .established)
  (same : sender.state.connectionId = connectionId) (index : Nat) :
  AcksRead sender (receiveAll clock sender index acks).1 clock acks /\
   (receiveAll clock sender index acks).2 = [] := by
 induction acks generalizing sender index with
 | nil => exact ⟨⟨rfl, established, rfl, List.Sublist.refl _, by simp, .inl rfl⟩, rfl⟩
 | cons datagram rest ih =>
  obtain ⟨header, decoded, magic, version, type, id, flags⟩ :=
   (valid datagram mem_cons_self).decoded
  have data : DataFor sender datagram header [] :=
   ⟨decoded, magic, version, type, id.trans same.symm, established⟩
  obtain ⟨config, still, sameId, received, queue, _, egress⟩ :=
   processDatagram_data_spec data (clock index)
  have silent : sender.ackDue header (clock index) = false := by simp [ackDue, flags]
  rw [silent, if_neg (by simp)] at egress
  obtain ⟨leg, quiet⟩ := ih (fun other member => valid other (mem_cons_of_mem _ member)) still
   (sameId.trans same) (index + 1)
  have marked := pending_markAcked sender.retransmissionQueue header.ackLargest header.ackMask
  rw [<- queue] at marked
  refine ⟨⟨leg.config.trans config, leg.established, leg.connectionId.trans sameId, ?_, ?_, .inr ?_⟩, ?_⟩
  · refine leg.pending.trans ?_
    rw [marked]
    exact filter_sublist
  · intro other member entry waiting
    rcases mem_cons.mp member with rfl | later
    · have kept := leg.pending.subset waiting
      rw [marked, mem_filter] at kept
      unfold AcksNumber
      rw [<- decodePacket_header decoded]
      simp_all
    · exact leg.removed other later entry waiting
  · rcases leg.received with empty | ⟨later, read⟩
    · refine ⟨index, ?_⟩
      rw [receiveAll_cons, empty]
      exact received
    · exact ⟨later, read⟩
  · rw [receiveAll_cons, egress, quiet]
    rfl

theorem poll_egress (engine : RudpEngine) (now : Nat) :
  ∃ packets : List RetransmissionQueue.Outline, packets.Sublist engine.retransmissionQueue.outline /\
   (engine.poll now).2.egressDatagrams = retransmissions packets := by
 rcases poll_cases engine now with ⟨reason, same⟩ | ⟨queue, due, collected, same⟩
 · exact ⟨[], nil_sublist _, by rw [same]; rfl⟩
 · obtain ⟨packets, inside, frames⟩ := collectTimeouts_due engine.retransmissionQueue now engine.state.rtt.rtoMs 16
   rw [collected] at frames
   refine ⟨packets, inside, ?_⟩
   have marked := congrArg (map markRetransmit) frames
   rw [map_map, map_map] at marked
   rw [same]
   exact marked

structure Pair.Ready (pair : Pair) (connectionId pollAt : Nat) : Prop where
 established : pair.sender.state.lifecycle = .established
 shared : pair.sender.state.connectionId = connectionId
 receiver : Listening pair.receiver connectionId
 readable : ∀ packet ∈ pair.sender.retransmissionQueue.outline, Readable connectionId packet
 due : ∀ entry ∈ pair.sender.retransmissionQueue.pending,
  entry.packet.lastSentUnixMs + pair.sender.state.rtt.rtoMs ≤ pollAt
 active : pair.sender.state.lastRecvUnixMs = 0 \/
  pollAt ≤ pair.sender.state.lastRecvUnixMs + pair.sender.config.idleTimeoutMs

theorem Pair.Ready.poll {pair : Pair} {pollAt : Nat} (ready : pair.Ready connectionId pollAt)
  (rto : pair.sender.state.rtt.rtoMs ≠ 0) :
  ∃ queue, (pair.sender.poll pollAt).1 = { pair.sender with retransmissionQueue := queue } /\
   (pair.sender.poll pollAt).2.egressDatagrams = retransmissions (pair.sender.retransmissionQueue.outline.take 16) /\
   queue.outline = pair.sender.retransmissionQueue.outline /\
   ∀ entry ∈ queue.pending, entry.packet.lastSentUnixMs ≤ pollAt := by
 have shaken : pair.sender.handshakeExpired pollAt = false := by simp [handshakeExpired, ready.established]
 have awake : pair.sender.idleExpired pollAt = false := by
  have active := ready.active
  rw [Bool.eq_false_iff]
  simp only [idleExpired, ne_eq, Bool.and_eq_true, decide_eq_true_eq]
  omega
 have due : ∀ entry ∈ pair.sender.retransmissionQueue.pending,
   entry.acked = false /\ entry.packet.lastSentUnixMs + pair.sender.state.rtt.rtoMs ≤ pollAt := by
  intro entry member
  have readable := ready.readable _ (mem_outline member)
  exact ⟨readable.unacked, ready.due entry member⟩
 obtain ⟨frames, times⟩ := collectTimeouts_all_due (by decide : 16 ≠ 0) rto due
 have waiting := outline_collectTimeouts pair.sender.retransmissionQueue pollAt pair.sender.state.rtt.rtoMs 16
 have marked := congrArg (map markRetransmit) frames
 rw [map_map, map_map] at marked
 simp only [RudpEngine.poll, shaken, awake, Bool.false_eq_true, if_false]
 exact ⟨_, rfl, marked, waiting, times⟩

theorem Pair.Ready.legs {pair : Pair} {round : Round}
  (ready : pair.Ready connectionId round.pollAt) (rto : pair.sender.state.rtt.rtoMs ≠ 0) :
  let batch := (pair.sender.poll round.pollAt).2.egressDatagrams
  let acks := (receiveAll round.arriveAt pair.receiver 0 batch).2
  Listening (pair.round round).1.receiver connectionId /\
   AcksRead (pair.sender.poll round.pollAt).1 (pair.round round).1.sender round.ackAt acks /\
   (pair.sender.poll round.pollAt).1.state = pair.sender.state /\
   (pair.round round).2 = [] := by
 intro batch acks
 obtain ⟨queue, polled, egress, _, _⟩ := ready.poll rto
 have readable : ∀ packet ∈ pair.sender.retransmissionQueue.outline.take 16, Readable connectionId packet :=
  fun packet member => ready.readable packet (mem_of_mem_take member)
 obtain ⟨listening, answers⟩ := forward_leg readable round.arriveAt ready.receiver 0
 rw [<- egress] at listening answers
 have state : (pair.sender.poll round.pollAt).1.state = pair.sender.state := by rw [polled]
 have established : (pair.sender.poll round.pollAt).1.state.lifecycle = .established := by
  rw [state, ready.established]
 have sameId : (pair.sender.poll round.pollAt).1.state.connectionId = connectionId := by rw [state, ready.shared]
 obtain ⟨read, quiet⟩ := backward_leg answers round.ackAt established sameId 0
 exact ⟨listening, read, state, quiet⟩

structure Pair.Receptive (pair : Pair) (round : Round) : Prop where
 rto : pair.sender.state.rtt.rtoMs ≠ 0
 fresh : ∃ entry ∈ pair.sender.retransmissionQueue.pending.take 16,
  pair.receiver.ackWindow.accepts entry.packet.packetNumber = true
 late : ArrivesAfterAckDelay round.arriveAt pair.receiver 0
  (pair.sender.poll round.pollAt).2.egressDatagrams

theorem Pair.Receptive.acked {pair : Pair} {round : Round}
  (receptive : pair.Receptive round) (ready : pair.Ready connectionId round.pollAt) :
  ∃ packet ∈ pair.sender.retransmissionQueue.outline, ∃ ack ∈ (receiveAll round.arriveAt pair.receiver 0
    (pair.sender.poll round.pollAt).2.egressDatagrams).2, AcksNumber packet.packetNumber ack := by
 obtain ⟨queue, _, egress, _, _⟩ := ready.poll receptive.rto
 have readable : ∀ packet ∈ pair.sender.retransmissionQueue.outline.take 16, Readable connectionId packet :=
  fun packet member => ready.readable packet (mem_of_mem_take member)
 have late := receptive.late
 have fresh : ∃ packet ∈ pair.sender.retransmissionQueue.outline.take 16,
   pair.receiver.ackWindow.accepts packet.packetNumber = true := by
  obtain ⟨entry, member, accepts⟩ := receptive.fresh
  refine ⟨outlineOf entry, ?_, accepts⟩
  rw [outline, <- map_take]
  exact mem_map_of_mem member
 rw [egress] at late ⊢
 obtain ⟨packet, member, answered⟩ := forward_leg_acks readable ready.receiver late fresh
 exact ⟨packet, mem_of_mem_take member, answered⟩

theorem Pair.Ready.round {pair : Pair} {round : Round}
  (ready : pair.Ready connectionId round.pollAt) (receptive : pair.Receptive round)
  (later : ∀ index, round.pollAt ≤ round.ackAt index) :
  let next := (pair.round round).1
  next.sender.retransmissionQueue.pending.length < pair.sender.retransmissionQueue.pending.length /\
   next.sender.config = pair.sender.config /\
   ∀ pollAt, round.pollAt + next.sender.state.rtt.rtoMs ≤ pollAt ->
    pollAt < round.pollAt + pair.sender.config.idleTimeoutMs -> next.Ready connectionId pollAt := by
 intro next
 obtain ⟨queue, polled, _, waiting, times⟩ := ready.poll receptive.rto
 obtain ⟨listening, read, state, _⟩ := ready.legs receptive.rto
 obtain ⟨packet, pending, ack, emitted, covers⟩ := receptive.acked ready
 have shrunk : next.sender.retransmissionQueue.pending.Sublist queue.pending := by
  have inner : next.sender.retransmissionQueue.pending.Sublist
   (pair.sender.poll round.pollAt).1.retransmissionQueue.pending := read.pending
  rwa [polled] at inner
 -- the acknowledged packet of the batch was pending and no longer is
 have lost : ∃ entry ∈ queue.pending, entry ∉ next.sender.retransmissionQueue.pending := by
  rw [<- waiting] at pending
  obtain ⟨entry, member, rfl⟩ := mem_map.mp pending
  exact ⟨entry, member, fun kept => read.removed ack emitted entry kept covers⟩
 have size : queue.pending.length = pair.sender.retransmissionQueue.pending.length := by
  have lengths := congrArg length waiting
  simpa [outline] using lengths
 have config : next.sender.config = pair.sender.config := by
  have kept : next.sender.config = (pair.sender.poll round.pollAt).1.config := read.config
  rwa [polled] at kept
 refine ⟨?_, config, ?_⟩
 · obtain ⟨entry, member, missing⟩ := lost
   rw [<- size]
   refine lt_of_le_of_ne shrunk.length_le fun same => missing ?_
   rw [shrunk.eq_of_length same]
   exact member
 · intro pollAt apart gap
   have received : round.pollAt ≤ next.sender.state.lastRecvUnixMs := by
    rcases read.received with none_emitted | ⟨index, at_index⟩
    · rw [none_emitted] at emitted
      cases emitted
    · exact le_trans (later index) (le_of_eq at_index.symm)
   constructor
   case established => exact read.established
   case shared => rw [read.connectionId, state, ready.shared]
   case receiver => exact listening
   case readable =>
    intro packet member
    have earlier := (shrunk.map outlineOf).subset member
    exact ready.readable packet (waiting ▸ earlier)
   case due =>
    intro entry member
    have sent := times entry (shrunk.subset member)
    omega
   case active =>
    rw [config]
    omega

structure Pair.Connected (pair : Pair) : Prop where
 sender : pair.sender.state.lifecycle = .established /\ pair.sender.state.fallbackRequired = false
 receiver : pair.receiver.state.lifecycle = .established /\ pair.receiver.state.fallbackRequired = false
 shared : pair.sender.state.connectionId = pair.receiver.state.connectionId

/-- The sender is polled at times at least its current RTO apart, the first time that long
after the last transmission, with gaps below the idle timeout; what a round emits is processed
before the next poll. -/
structure Pair.Timely (pair : Pair) (schedule : Nat -> Round) : Prop where
 first : ∀ entry ∈ pair.sender.retransmissionQueue.pending,
  entry.packet.lastSentUnixMs + pair.sender.state.rtt.rtoMs ≤ (schedule 0).pollAt
 active : pair.sender.state.lastRecvUnixMs = 0 \/
  (schedule 0).pollAt ≤ pair.sender.state.lastRecvUnixMs + pair.sender.config.idleTimeoutMs
 apart : ∀ rounds, (schedule rounds).pollAt + (pair.after schedule (rounds + 1)).sender.state.rtt.rtoMs ≤
  (schedule (rounds + 1)).pollAt
 gap : ∀ rounds,
  (schedule (rounds + 1)).pollAt < (schedule rounds).pollAt + pair.sender.config.idleTimeoutMs
 arrive : ∀ rounds index, (schedule rounds).pollAt ≤ (schedule rounds).arriveAt index /\
  (schedule rounds).arriveAt index ≤ (schedule (rounds + 1)).pollAt
 ack : ∀ rounds index, (schedule rounds).pollAt ≤ (schedule rounds).ackAt index /\
  (schedule rounds).ackAt index ≤ (schedule (rounds + 1)).pollAt

def Network.pair (network : Network) (side : Side) : Pair :=
 { sender := (network.get side).engine, receiver := (network.get side.other).engine }

section

variable {pair : Pair}

theorem Pair.drains_of_ready (timely : pair.Timely schedule)
  (receptive : ∀ rounds, ¬ (pair.after schedule rounds).Drained ->
    (pair.after schedule rounds).Receptive (schedule rounds)) (size : Nat) :
  ∀ rounds, (pair.after schedule rounds).sender.retransmissionQueue.pending.length ≤ size ->
   (pair.after schedule rounds).sender.config = pair.sender.config ->
   (pair.after schedule rounds).Ready connectionId (schedule rounds).pollAt ->
   ∃ last, (pair.after schedule last).Drained := by
 induction size with
 | zero =>
  intro rounds bound _ _
  exact ⟨rounds, length_eq_zero_iff.mp (le_zero.mp bound)⟩
 | succ size ih =>
  intro rounds bound config ready
  by_cases drained : (pair.after schedule rounds).Drained
  · exact ⟨rounds, drained⟩
  · obtain ⟨fewer, sameConfig, again⟩ := ready.round (receptive rounds drained)
     (fun index => (timely.ack rounds index).1)
    refine ih (rounds + 1) ?_ (sameConfig.trans config) (again _ (timely.apart rounds) ?_)
    · show ((pair.after schedule rounds).round (schedule rounds)).1.sender.retransmissionQueue.pending.length ≤ size
      omega
    · rw [config]
      exact timely.gap rounds

theorem Endpoint.Honest.readable {endpoint : Endpoint} (honest : endpoint.Honest)
  (fits : ∀ entry ∈ endpoint.engine.retransmissionQueue.pending,
    (decodeHeader entry.packet.encodedFrame).connectionId = connectionId /\
      entry.packet.encodedFrame.length < rudpHeaderBytes + 65536)
  (packet : RetransmissionQueue.Outline) (member : packet ∈ endpoint.engine.retransmissionQueue.outline) :
  Readable connectionId packet := by
 obtain ⟨unacked, _, frame⟩ := honest.frames packet member
 obtain ⟨entry, inside, rfl⟩ := mem_map.mp member
 obtain ⟨sameId, size⟩ := fits entry inside
 exact ⟨unacked, frame, sameId, size⟩

/-- If in every round with packets left the batch holds a packet that is new to the receiver
and the receiver's ack delay has passed when it arrives, the queue is empty in the end. -/
theorem retransmission_queue_drains (leftConfig rightConfig : RudpConfig) (trace : List (Side × Call))
  (network : Network) (ran : machine.run (create leftConfig rightConfig) trace = some network)
  (bound : ∀ side, (network.get side).issued < 4294967296) (side : Side)
  (connected : (network.pair side).Connected) (schedule : Nat -> Round)
   (timely : (network.pair side).Timely schedule)
  (readable : ∀ entry ∈ (network.pair side).sender.retransmissionQueue.pending,
    (decodeHeader entry.packet.encodedFrame).connectionId =
      (network.pair side).receiver.state.connectionId /\
      entry.packet.encodedFrame.length < rudpHeaderBytes + 65536)
  (receptive : ∀ rounds, ¬ ((network.pair side).after schedule rounds).Drained ->
    ((network.pair side).after schedule rounds).Receptive (schedule rounds)) :
  ∃ rounds, ((network.pair side).after schedule rounds).Drained := by
 have sender := run_honest ran bound side
 have receiver := run_honest ran bound side.other
 have ready : (network.pair side).Ready (network.pair side).receiver.state.connectionId
   (schedule 0).pollAt := by
  constructor
  case established => exact connected.sender.1
  case shared => exact connected.shared
  case receiver => exact ⟨connected.receiver.1, rfl, _, receiver.engine⟩
  case readable => exact sender.readable readable
  case due => exact timely.first
  case active => exact timely.active
 exact Pair.drains_of_ready timely receptive _ 0 (Nat.le_refl _) rfl ready

theorem Pair.Drained.round {pair : Pair} (drained : pair.Drained) (round : Round) :
  (pair.round round).1.Drained /\ (pair.round round).1.sender.state.rtt = pair.sender.state.rtt := by
 have quiet : (pair.sender.poll round.pollAt).2.egressDatagrams = [] /\
   (pair.sender.poll round.pollAt).1.retransmissionQueue.pending = [] /\
   (pair.sender.poll round.pollAt).1.state.rtt = pair.sender.state.rtt := by
  have empty : pair.sender.retransmissionQueue.pending = [] := drained
  rcases poll_cases pair.sender round.pollAt with ⟨reason, same⟩ | ⟨queue, due, collected, same⟩
  · rw [same]
    exact ⟨rfl, empty, rfl⟩
  · have nothing : queue.pending = [] /\ due = [] := by
     simp only [collectTimeouts, empty, collect] at collected
     split at collected
     · obtain ⟨rfl, rfl⟩ := Prod.mk.inj collected
       exact ⟨empty, rfl⟩
     · obtain ⟨rfl, rfl⟩ := Prod.mk.inj collected
       exact ⟨rfl, rfl⟩
    rw [same, nothing.2]
    exact ⟨rfl, nothing.1, rfl⟩
 have sender : (pair.round round).1.sender = (pair.sender.poll round.pollAt).1 := by
  show (receiveAll round.ackAt (pair.sender.poll round.pollAt).1 0
   (receiveAll round.arriveAt pair.receiver 0 (pair.sender.poll round.pollAt).2.egressDatagrams).2).1 = _
  rw [quiet.1]
  rfl
 unfold Pair.Drained
 rw [sender]
 exact quiet.2

theorem Pair.Drained.later {rounds : Nat} (drained : (pair.after schedule rounds).Drained) (more : Nat) :
  (pair.after schedule (rounds + more)).Drained /\
    (pair.after schedule (rounds + more)).sender.state.rtt = (pair.after schedule rounds).sender.state.rtt := by
 induction more with
 | zero => exact ⟨drained, rfl⟩
 | succ more ih =>
  obtain ⟨again, same⟩ := ih.1.round (schedule (rounds + more))
  exact ⟨again, same.trans ih.2⟩

def everyHalfSecond (rounds : Nat) : Round :=
 { pollAt := 2000 + 500 * rounds
   arriveAt := fun _ => 2000 + 500 * rounds
   ackAt := fun _ => 2000 + 500 * rounds }

theorem everyHalfSecond_timely (first : ∀ entry ∈ pair.sender.retransmissionQueue.pending,
    entry.packet.lastSentUnixMs + pair.sender.state.rtt.rtoMs ≤ (everyHalfSecond 0).pollAt)
  (active : (everyHalfSecond 0).pollAt ≤ pair.sender.state.lastRecvUnixMs + pair.sender.config.idleTimeoutMs)
  (idle : 500 < pair.sender.config.idleTimeoutMs)
  (rto : ∀ rounds, (pair.after everyHalfSecond (rounds + 1)).sender.state.rtt.rtoMs ≤ 500) :
  pair.Timely everyHalfSecond := by
 have step : ∀ rounds, (everyHalfSecond (rounds + 1)).pollAt = (everyHalfSecond rounds).pollAt + 500 := by
  intro rounds
  show 2000 + 500 * (rounds + 1) = 2000 + 500 * rounds + 500
  omega
 constructor
 case first => exact first
 case active => exact .inr active
 case apart =>
  intro rounds
  have fits := rto rounds
  have next := step rounds
  omega
 case gap =>
  intro rounds
  have next := step rounds
  omega
 case arrive =>
  intro rounds index
  have next := step rounds
  have same : (everyHalfSecond rounds).arriveAt index = (everyHalfSecond rounds).pollAt := rfl
  omega
 case ack =>
  intro rounds index
  have next := step rounds
  have same : (everyHalfSecond rounds).ackAt index = (everyHalfSecond rounds).pollAt := rfl
  omega

def lostPacketTrace : List (Side × Call) :=
 [(.left, .makeHello 7 1000), (.right, .deliver 0 1001), (.left, .deliver 0 1002), (.left, .queueReliable [1] 0 1003)]

theorem lost_packet_is_repaired :
  ∃ network, machine.run (create {} {}) lostPacketTrace = some network /\
   ¬ (network.pair .left).Drained /\ ∃ rounds, ((network.pair .left).after everyHalfSecond rounds).Drained := by
 have facts : ∃ network ∈ machine.run (create {} {}) lostPacketTrace,
   let pair := network.pair .left
   let next := pair.after everyHalfSecond 1
   (∀ side, (network.get side).issued < 4294967296) /\
   (pair.sender.state.lifecycle = .established /\ pair.sender.state.fallbackRequired = false) /\
   (pair.receiver.state.lifecycle = .established /\ pair.receiver.state.fallbackRequired = false) /\
   pair.sender.state.connectionId = pair.receiver.state.connectionId /\
   (∀ entry ∈ pair.sender.retransmissionQueue.pending,
     entry.packet.lastSentUnixMs + pair.sender.state.rtt.rtoMs ≤ (everyHalfSecond 0).pollAt) /\
   (everyHalfSecond 0).pollAt ≤ pair.sender.state.lastRecvUnixMs + pair.sender.config.idleTimeoutMs /\
   500 < pair.sender.config.idleTimeoutMs /\
   (∀ entry ∈ pair.sender.retransmissionQueue.pending,
     (decodeHeader entry.packet.encodedFrame).connectionId = pair.receiver.state.connectionId /\
       entry.packet.encodedFrame.length < rudpHeaderBytes + 65536) /\
   pair.sender.retransmissionQueue.pending ≠ [] /\
   pair.sender.state.rtt.rtoMs ≠ 0 /\
   (∃ entry ∈ pair.sender.retransmissionQueue.pending.take 16,
     pair.receiver.ackWindow.accepts entry.packet.packetNumber = true) /\
   pair.receiver.state.lastAckEmitUnixMs + pair.receiver.config.ackDelayMs ≤
    (everyHalfSecond 0).arriveAt 0 /\
   (pair.sender.poll (everyHalfSecond 0).pollAt).2.egressDatagrams.length = 1 /\
   next.sender.retransmissionQueue.pending = [] /\ next.sender.state.rtt.rtoMs ≤ 500 := by
  decide +kernel
 obtain ⟨network, reached, bound, sender, receiver, shared, first, active, idle, readable, pending, rto, fresh, late, single,
  drained, rtoAfter⟩ :=
  machine.exists_final facts
 have finished : ((network.pair .left).after everyHalfSecond 1).Drained := drained
 have calm : ∀ rounds,
   ((network.pair .left).after everyHalfSecond (rounds + 1)).sender.state.rtt.rtoMs ≤ 500 := by
  intro rounds
  rw [Nat.add_comm, (finished.later rounds).2]
  exact rtoAfter
 refine ⟨network, reached, pending, retransmission_queue_drains {} {} lostPacketTrace network reached bound
  .left ⟨sender, receiver, shared⟩ everyHalfSecond
  (everyHalfSecond_timely first active idle calm) readable ?_⟩
 intro rounds left
 cases rounds with
 | zero =>
  refine ⟨rto, fresh, ?_⟩
  obtain ⟨datagram, only⟩ := length_eq_one_iff.mp single
  show ArrivesAfterAckDelay (everyHalfSecond 0).arriveAt (network.pair .left).receiver 0
   ((network.pair .left).sender.poll (everyHalfSecond 0).pollAt).2.egressDatagrams
  rw [only]
  exact ⟨late, trivial⟩
 | succ rounds =>
  have empty := (finished.later rounds).1
  rw [Nat.add_comm] at empty
  exact absurd empty left

structure Pair.Stuck (pair : Pair) (connectionId : Nat) : Prop where
 pending : pair.sender.retransmissionQueue.outline ≠ []
 receiver : Listening pair.receiver connectionId
 readable : ∀ packet ∈ pair.sender.retransmissionQueue.outline, Readable connectionId packet
 stale : ∀ packet ∈ pair.sender.retransmissionQueue.outline,
  pair.receiver.ackWindow.accepts packet.packetNumber = false

theorem Pair.Stuck.round {pair : Pair} (stuck : pair.Stuck connectionId) (round : Round) :
  (pair.round round).1.Stuck connectionId /\ (pair.round round).1.sender.state.rtt = pair.sender.state.rtt := by
 obtain ⟨packets, inside, egress⟩ := poll_egress pair.sender round.pollAt
 have readable : ∀ packet ∈ packets, Readable connectionId packet :=
  fun packet member => stuck.readable packet (inside.subset member)
 have stale : ∀ packet ∈ packets, pair.receiver.ackWindow.accepts packet.packetNumber = false :=
  fun packet member => stuck.stale packet (inside.subset member)
 obtain ⟨listening, _⟩ := forward_leg readable round.arriveAt stuck.receiver 0
 obtain ⟨window, silent⟩ := forward_leg_stale readable round.arriveAt stuck.receiver 0 stale
 rw [<- egress] at listening window silent
 -- no ack comes back, so the sender is where the poll left it
 have sender : (pair.round round).1.sender = (pair.sender.poll round.pollAt).1 := by
  show (receiveAll round.ackAt (pair.sender.poll round.pollAt).1 0
   (receiveAll round.arriveAt pair.receiver 0 (pair.sender.poll round.pollAt).2.egressDatagrams).2).1 = _
  rw [silent]
  rfl
 have kept : (pair.round round).1.sender.retransmissionQueue.outline =
   pair.sender.retransmissionQueue.outline := by
  rw [sender, outline_poll]
 have rtt : (pair.round round).1.sender.state.rtt = pair.sender.state.rtt := by
  rw [sender]
  rcases poll_cases pair.sender round.pollAt with ⟨reason, same⟩ | ⟨_, _, _, same⟩
  · rw [same]
    rfl
  · rw [same]
 refine ⟨⟨?_, listening, ?_, ?_⟩, rtt⟩
 · rw [kept]
   exact stuck.pending
 · rw [kept]
   exact stuck.readable
 · rw [kept]
   intro packet member
   have same : (pair.round round).1.receiver.ackWindow = pair.receiver.ackWindow := window
   rw [same]
   exact stuck.stale packet member

theorem Pair.Stuck.after (stuck : pair.Stuck connectionId) (schedule : Nat -> Round) (rounds : Nat) :
  (pair.after schedule rounds).Stuck connectionId /\
    (pair.after schedule rounds).sender.state.rtt = pair.sender.state.rtt := by
 induction rounds with
 | zero => exact ⟨stuck, rfl⟩
 | succ rounds ih =>
  obtain ⟨again, rtt⟩ := ih.1.round (schedule rounds)
  exact ⟨again, rtt.trans ih.2⟩

theorem Pair.Stuck.not_drained (stuck : pair.Stuck connectionId) : ¬ pair.Drained := by
 intro drained
 apply stuck.pending
 rw [outline, show pair.sender.retransmissionQueue.pending = [] from drained]
 rfl

end

def lostAckTrace : List (Side × Call) :=
 [(.left, .makeHello 7 1000), (.right, .deliver 0 1001), (.left, .deliver 0 1002),
   (.left, .queueReliable [1] 0 1003), (.right, .deliver 1 1004)]

theorem lost_ack_is_never_repaired :
  ¬ ∀ (leftConfig rightConfig : RudpConfig) (trace : List (Side × Call)) (network : Network),
   machine.run (create leftConfig rightConfig) trace = some network ->
   (∀ side, (network.get side).issued < 4294967296) ->
   ∀ (side : Side) (schedule : Nat -> Round), (network.pair side).Connected ->
    (network.pair side).Timely schedule -> ∃ rounds, ((network.pair side).after schedule rounds).Drained := by
 intro claim
 have facts : ∃ network ∈ machine.run (create {} {}) lostAckTrace,
   let pair := network.pair .left
   (∀ side, (network.get side).issued < 4294967296) /\
   (pair.sender.state.lifecycle = .established /\ pair.sender.state.fallbackRequired = false) /\
   (pair.receiver.state.lifecycle = .established /\ pair.receiver.state.fallbackRequired = false) /\
   pair.sender.state.connectionId = pair.receiver.state.connectionId /\
   (∀ entry ∈ pair.sender.retransmissionQueue.pending,
     entry.packet.lastSentUnixMs + pair.sender.state.rtt.rtoMs ≤ (everyHalfSecond 0).pollAt) /\
   (everyHalfSecond 0).pollAt ≤ pair.sender.state.lastRecvUnixMs + pair.sender.config.idleTimeoutMs /\
   500 < pair.sender.config.idleTimeoutMs /\
   pair.sender.state.rtt.rtoMs ≤ 500 /\
   (∀ entry ∈ pair.sender.retransmissionQueue.pending,
     (decodeHeader entry.packet.encodedFrame).connectionId = pair.receiver.state.connectionId /\
       entry.packet.encodedFrame.length < rudpHeaderBytes + 65536) /\
   pair.sender.retransmissionQueue.outline ≠ [] /\
   ∀ packet ∈ pair.sender.retransmissionQueue.outline,
    pair.receiver.ackWindow.accepts packet.packetNumber = false := by
  decide +kernel
 obtain ⟨network, reached, bound, sender, receiver, shared, first, active, idle, rto, readable, pending, stale⟩ :=
  machine.exists_final facts
 have stuck : (network.pair .left).Stuck (network.pair .left).receiver.state.connectionId :=
  ⟨pending, ⟨receiver.1, rfl, _, (run_honest reached bound .right).engine⟩,
    (run_honest reached bound .left).readable readable, stale⟩
 have timely : (network.pair .left).Timely everyHalfSecond := by
  refine everyHalfSecond_timely first active idle fun rounds => ?_
  rw [(stuck.after everyHalfSecond (rounds + 1)).2]
  exact rto
 obtain ⟨rounds, drained⟩ := claim {} {} lostAckTrace network reached bound .left everyHalfSecond
  ⟨sender, receiver, shared⟩ timely
 exact (stuck.after everyHalfSecond rounds).1.not_drained drained

end Dynaxis.Rudp
