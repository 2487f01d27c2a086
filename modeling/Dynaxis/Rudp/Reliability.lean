import Dynaxis.Rudp.Network

namespace Dynaxis.Rudp

open Shared Shared.Bytes RudpEngine RetransmissionQueue List Option List.Sublist Network Nat

def TruthfulAcks (accepted : List Nat) (datagram : Bytes) : Prop :=
 ∀ packetNumber, 1 ≤ packetNumber -> (decodeHeader datagram).ackLargest < packetNumber + 64 ->
  isAckedByMask packetNumber (decodeHeader datagram).ackLargest
   (decodeHeader datagram).ackMask = true ->
  packetNumber ∈ accepted

variable {accepted peerAccepted : List Nat} {datagram frame payload : Bytes} {engine : RudpEngine}
 {packetNumber flags channel now : Nat} {header : RudpHeader} {endpoint next : Endpoint} {inbound : List Bytes}
 {call : Call} {network final : Network} {action : Side × Call} {leftConfig rightConfig : RudpConfig}
 {trace : List (Side × Call)}

theorem TruthfulAcks.mono {more : List Nat} (truthful : TruthfulAcks accepted datagram)
  (grown : ∀ number ∈ accepted, number ∈ more) :
  TruthfulAcks more datagram :=
 fun packetNumber positive near covered => grown _ (truthful packetNumber positive near covered)

def IsFrame (packetNumber : Nat) (frame : Bytes) : Prop :=
 ∃ header payload, frame = encodePacket header payload /\ header.Fits /\
  header.magic = rudpMagic /\ header.version = 1 /\ header.type = .data /\ header.flags = 0 /\
  header.packetNumber = packetNumber

structure RudpEngine.Sound (engine : RudpEngine) (accepted : List Nat) : Prop where
 window : engine.ackWindow.Represents accepted
 ackLargest : engine.state.ackLargest = engine.ackWindow.largest
 ackMask : engine.state.ackMask = engine.ackWindow.mask
 numbers : ∀ packetNumber ∈ accepted, packetNumber < 4294967296
 connectionId : engine.state.connectionId < 4294967296

theorem AckWindow.Represents.mask_lt {window : AckWindow} {seen : List Nat}
  (correct : window.Represents seen) : window.mask < 18446744073709551616 := by
 have high : ∀ distance, 64 ≤ distance -> window.mask.testBit distance = false := by
  intro distance far
  cases initialized : window.initialized with
  | false =>
   obtain ⟨_, zero, _⟩ := correct.blank initialized
   rw [zero, zero_testBit]
  | true =>
   have bit := correct.mask initialized distance
   rw [<- Bool.not_eq_true, bit]
   omega
 exact lt_pow_two_of_testBit window.mask high

variable (sound : engine.Sound accepted)
include sound

theorem RudpEngine.Sound.largest_lt : engine.state.ackLargest < 4294967296 := by
 rw [sound.ackLargest]
 cases initialized : engine.ackWindow.initialized with
 | false =>
  obtain ⟨zero, _⟩ := sound.window.blank initialized
  omega
 | true => exact sound.numbers _ (sound.window.largest initialized)

theorem RudpEngine.Sound.acks (positive : 1 ≤ packetNumber) (near : engine.state.ackLargest < packetNumber + 64)
  (covered : isAckedByMask packetNumber engine.state.ackLargest
    engine.state.ackMask = true) : packetNumber ∈ accepted := by
 rw [sound.ackLargest] at near covered
 rw [sound.ackMask] at covered
 unfold isAckedByMask at covered
 cases initialized : engine.ackWindow.initialized with
 | false =>
  obtain ⟨zero, _⟩ := sound.window.blank initialized
  rw [if_pos (by omega)] at covered
  cases covered
 | true =>
  split at covered
  next => cases covered
  next below =>
   split at covered
   next same =>
    rw [same]
    exact sound.window.largest initialized
   next different =>
    rw [if_neg (by omega), sound.window.mask initialized] at covered
    have same : engine.ackWindow.largest - (engine.ackWindow.largest - packetNumber) =
     packetNumber := by omega
    rw [same] at covered
    exact covered.2.2

theorem RudpEngine.Sound.acks_accepted (member : packetNumber ∈ accepted) :
  isAckedByMask packetNumber engine.state.ackLargest engine.state.ackMask = true := by
 have below := sound.window.bounded packetNumber member
 have initialized : engine.ackWindow.initialized = true := by
  by_contra blank
  obtain ⟨_, _, rfl⟩ := sound.window.blank (Bool.eq_false_iff.mpr blank)
  cases member
 rw [sound.ackLargest, sound.ackMask]
 simp only [isAckedByMask, not_lt.mpr below, if_false]
 split
 · rfl
 · split
   · rfl
   · next near =>
     rw [sound.window.mask initialized]
     refine ⟨by omega, by omega, ?_⟩
     rwa [Nat.sub_sub_self below]

theorem makePacket_fits (type : PacketType) (defined : type.code < 256 /\ PacketType.ofCode type.code = type)
  (flagBound : flags < 256) (channelBound : channel < 256)
  (numberBound : packetNumber < 4294967296) (now : Nat) (payload : Bytes) :
  ∃ header, engine.makePacket type flags channel packetNumber now payload = encodePacket header payload /\
   header.Fits /\ header.magic = rudpMagic /\ header.version = 1 /\ header.type = type /\
   header.flags = flags /\ header.packetNumber = packetNumber /\
   header.ackLargest = engine.state.ackLargest /\ header.ackMask = engine.state.ackMask /\
   header.connectionId = engine.state.connectionId := by
 refine ⟨_, rfl, ?_, rfl, rfl, rfl, rfl, rfl, rfl, rfl, rfl⟩
 constructor
 case magic => exact (by decide : rudpMagic < 65536)
 case version => exact (by decide : 1 < 256)
 case type => exact defined
 case connectionId => exact sound.connectionId
 case packetNumber => exact numberBound
 case ackLargest => exact sound.largest_lt
 case ackMask =>
  show engine.state.ackMask < 18446744073709551616
  rw [sound.ackMask]
  exact sound.window.mask_lt
 case ackDelayMs =>
  show min engine.config.ackDelayMs 65535 < 65536
  omega
 case channel => exact channelBound
 case flags => exact flagBound
 case timestampMs => exact mod_lt _ (by decide)

theorem makePacket_truthful {type : PacketType} (defined : type.code < 256 /\ PacketType.ofCode type.code = type)
  (flagBound : flags < 256) (channelBound : channel < 256)
  (numberBound : packetNumber < 4294967296) (now : Nat) (payload : Bytes) :
  TruthfulAcks accepted (engine.makePacket type flags channel packetNumber now payload) := by
 obtain ⟨header, made, fits, _, _, _, _, _, largest, mask, _⟩ :=
  makePacket_fits sound type defined flagBound channelBound numberBound now payload
 intro number positive near covered
 rw [made, decodeHeader_encodePacket fits] at near covered
 simp only [largest, mask] at near covered
 exact sound.acks positive near covered

omit sound

theorem markRetransmit_truthful (truthful : TruthfulAcks accepted frame) :
  TruthfulAcks accepted (markRetransmit frame) := by
 have untouched : (decodeHeader (markRetransmit frame)).ackLargest = (decodeHeader frame).ackLargest /\
   (decodeHeader (markRetransmit frame)).ackMask = (decodeHeader frame).ackMask := by
  unfold markRetransmit
  split
  · constructor <;> simp [decodeHeader, readBe32, byteAt_set_ne]
  · exact ⟨rfl, rfl⟩
 intro packetNumber positive near covered
 rw [untouched.1] at near covered
 rw [untouched.2] at covered
 exact truthful packetNumber positive near covered

theorem checkHeader_error {outcome : RudpEngine × ProcessResult}
  (failed : engine.checkHeader datagram now = .error outcome) :
  outcome = (engine, {}) \/ ∃ lastRecv result reason,
   outcome = { engine with state := { engine.state with lastRecvUnixMs := lastRecv } }.setFallback result reason /\
    result.egressDatagrams = [] /\ result.innerFrames = [] := by
 simp only [checkHeader] at failed
 split at failed
 · cases failed
   exact .inl rfl
 · split at failed
   · cases failed
     exact .inr ⟨_, _, _, rfl, rfl, rfl⟩
   · split at failed
     · cases failed
       exact .inr ⟨_, _, _, rfl, rfl, rfl⟩
     · split at failed <;> cases failed
       exact .inr ⟨now, _, _, rfl, rfl, rfl⟩

def RudpEngine.received (engine : RudpEngine) (header : RudpHeader) (now : Nat) : RudpEngine :=
 { engine with
   state :=
    { engine.state with
      lastRecvUnixMs := now
      connectionId :=
       if engine.state.connectionId = 0 then header.connectionId else engine.state.connectionId }
   retransmissionQueue := engine.retransmissionQueue.markAcked header.ackLargest header.ackMask }

theorem checkHeader_ok {next : RudpEngine} (passed : engine.checkHeader datagram now = .ok (next, header, payload)) :
  decodePacket datagram = some (header, payload) /\ next = engine.received header now := by
 simp only [checkHeader] at passed
 split at passed
 · cases passed
 · split at passed
   next => cases passed
   next decoded =>
    split at passed
    · cases passed
    · split at passed
      · cases passed
      · obtain ⟨rfl, rfl, rfl⟩ : _ /\ _ /\ _ := by simpa using passed
        exact ⟨decoded, rfl⟩

variable (sound : engine.Sound accepted)
include sound

theorem received_sound (decoded : decodePacket datagram = some (header, payload)) (now : Nat) :
  (engine.received header now).Sound accepted := by
 refine ⟨sound.window, sound.ackLargest, sound.ackMask, sound.numbers, ?_⟩
 simp only [received]
 split
 · rw [decodePacket_header decoded]
   exact readBe32_lt datagram 4
 · exact sound.connectionId

theorem observe_sound (bound : packetNumber < 4294967296) :
  (engine.observe packetNumber).Sound (packetNumber :: accepted) := by
 obtain ⟨largest, mask, _⟩ := engine.ackWindow.observe_acks packetNumber
 refine ⟨AckWindow.observe_represents sound.window packetNumber, largest, mask, ?_, sound.connectionId⟩
 intro number member
 rcases mem_cons.mp member with rfl | earlier
 · exact bound
 · exact sound.numbers number earlier

theorem observe_rejected_sound (rejected : engine.ackWindow.accepts packetNumber = false) :
  (engine.observe packetNumber).Sound accepted := by
 obtain ⟨largest, mask, _⟩ := engine.ackWindow.observe_acks packetNumber
 refine ⟨?_, largest, mask, sound.numbers, sound.connectionId⟩
 show (engine.ackWindow.observe packetNumber).1.Represents accepted
 rw [AckWindow.observe_rejected rejected]
 exact sound.window

theorem emitAck_sound (channel : header.channel < 256) (now : Nat) : (engine.emitAck header now).1.Sound accepted /\
    ∀ datagram ∈ (engine.emitAck header now).2, TruthfulAcks accepted datagram := by
 unfold emitAck
 split
 · refine ⟨⟨sound.window, sound.ackLargest, sound.ackMask, sound.numbers, sound.connectionId⟩, ?_⟩
   intro datagram member
   obtain rfl := mem_singleton.mp member
   exact makePacket_truthful sound (by decide) (by decide) channel (by decide) now []
 · exact ⟨sound, by simp⟩

theorem sampleRtt_sound (header : RudpHeader) (now : Nat) : (engine.sampleRtt header now).Sound accepted := by
 unfold sampleRtt
 split
 · exact ⟨sound.window, sound.ackLargest, sound.ackMask, sound.numbers, sound.connectionId⟩
 · exact sound

omit sound

section

variable (engine : RudpEngine) (header : RudpHeader) (payload : Bytes) (now : Nat)

def RudpEngine.SameSender (next : RudpEngine) : Prop :=
 next.retransmissionQueue = engine.retransmissionQueue /\
  next.state.nextPacketNumber = engine.state.nextPacketNumber

theorem receiveData_sender
  (result : ProcessResult) : engine.SameSender (engine.receiveData header payload now result).1 := by
 simp only [receiveData]
 split
 · exact ⟨rfl, rfl⟩
 · split
   · exact ⟨rfl, rfl⟩
   · simp only [sampleRtt, emitAck]
     split <;> split <;> exact ⟨rfl, rfl⟩

theorem dispatch_sender : engine.SameSender (engine.dispatch header payload now).1 := by
 simp only [dispatch]
 split
 · exact ⟨rfl, rfl⟩
 · exact ⟨rfl, rfl⟩
 · exact ⟨rfl, rfl⟩
 · exact ⟨rfl, rfl⟩
 · exact receiveData_sender engine header payload now _
 · exact receiveData_sender engine header payload now _

end

theorem receiveData_sound (sound : engine.Sound accepted)
  (bound : header.packetNumber < 4294967296) (channel : header.channel < 256)
  (payload : Bytes) (now : Nat) (result : ProcessResult) (silent : result.egressDatagrams = []) :
  let next := engine.receiveData header payload now result
  let numbers :=
   if engine.state.lifecycle = .established /\ engine.ackWindow.accepts header.packetNumber then
    [header.packetNumber]
   else []
  next.1.Sound (numbers ++ accepted) /\
   ∀ datagram ∈ next.2.egressDatagrams, TruthfulAcks (numbers ++ accepted) datagram := by
 simp only [receiveData]
 by_cases established : engine.state.lifecycle = .established
 · cases fresh : engine.ackWindow.accepts header.packetNumber with
   | true =>
    have observed := observe_sound sound bound
    obtain ⟨acked, truthful⟩ := emitAck_sound observed channel now
    simp only [established, ne_eq, not_true, if_false, reduceCtorEq, and_true, if_true]
    exact ⟨sampleRtt_sound acked header now, truthful⟩
   | false =>
    simp only [established, ne_eq, not_true, if_false, if_true, reduceCtorEq, and_false, nil_append, silent]
    exact ⟨observe_rejected_sound sound fresh, by simp⟩
 · simp only [established, ne_eq, not_false_iff, if_true, false_and, if_false, nil_append]
   refine ⟨⟨sound.window, sound.ackLargest, sound.ackMask, sound.numbers, sound.connectionId⟩, ?_⟩
   simp [setFallback, silent]

theorem dispatch_sound (sound : engine.Sound accepted)
  (bound : header.packetNumber < 4294967296) (channel : header.channel < 256)
  (payload : Bytes) (now : Nat) :
  let next := engine.dispatch header payload now
  let numbers := (engine.acceptedHeader header).toList
  next.1.Sound (numbers ++ accepted) /\
   ∀ datagram ∈ next.2.egressDatagrams, TruthfulAcks (numbers ++ accepted) datagram := by
 have relabelled : ∀ lifecycle lastSend,
   RudpEngine.Sound { engine with
    state := { engine.state with lifecycle := lifecycle, lastSendUnixMs := lastSend } } accepted :=
  fun _ _ => ⟨sound.window, sound.ackLargest, sound.ackMask, sound.numbers, sound.connectionId⟩
 have received := receiveData_sound sound bound channel payload now { consumed := true, parsed := true } rfl
 cases type : header.type with
 | hello =>
  simp only [dispatch, acceptedHeader, type, toList_none, nil_append, mem_singleton, forall_eq]
  exact ⟨relabelled _ _, makePacket_truthful (relabelled _ _) (by decide) (by decide) (by decide) (by decide) now []⟩
 | helloAck =>
  simp only [dispatch, acceptedHeader, type, toList_none, nil_append]
  exact ⟨relabelled _ engine.state.lastSendUnixMs, by simp⟩
 | close =>
  simp only [dispatch, acceptedHeader, type, toList_none, nil_append]
  exact ⟨⟨sound.window, sound.ackLargest, sound.ackMask, sound.numbers, sound.connectionId⟩, by simp [setFallback]⟩
 | ping =>
  simp only [dispatch, acceptedHeader, type, toList_none, nil_append, mem_singleton, forall_eq]
  exact ⟨sound, makePacket_truthful sound (by decide) (by decide) (by decide) (by decide) now []⟩
 | data | undefined code =>
  simp only [dispatch, acceptedHeader, type]
  split at received <;> simpa [*] using received

theorem processDatagram_sound (sound : engine.Sound accepted) (datagram : Bytes) (now : Nat) :
  let next := engine.processDatagram datagram now
  let numbers := (engine.acceptedNumber datagram now).toList
  next.1.Sound (numbers ++ accepted) /\
   ∀ emitted ∈ next.2.egressDatagrams, TruthfulAcks (numbers ++ accepted) emitted := by
 simp only [processDatagram, acceptedNumber]
 cases checked : engine.checkHeader datagram now with
 | error outcome =>
  obtain rfl | ⟨_, _, _, rfl, silent, -⟩ := checkHeader_error checked
  · exact ⟨sound, by simp⟩
  · exact ⟨⟨sound.window, sound.ackLargest, sound.ackMask, sound.numbers, sound.connectionId⟩,
     by simp [setFallback, silent]⟩
 | ok checkedPacket =>
  obtain ⟨passing, header, payload⟩ := checkedPacket
  obtain ⟨decoded, rfl⟩ := checkHeader_ok checked
  have header_eq := decodePacket_header decoded
  have bound : header.packetNumber < 4294967296 := by
   rw [header_eq]
   exact readBe32_lt datagram 8
  have channel : header.channel < 256 := by
   rw [header_eq]
   exact byteAt_lt datagram 26
  exact dispatch_sound (received_sound sound decoded now) bound channel payload now

theorem processDatagram_sender (engine : RudpEngine) (datagram : Bytes) (now : Nat) :
  let next := (engine.processDatagram datagram now).1
  (next.retransmissionQueue = engine.retransmissionQueue \/
    next.retransmissionQueue = engine.retransmissionQueue.markAcked (decodeHeader datagram).ackLargest
     (decodeHeader datagram).ackMask) /\
  next.state.nextPacketNumber = engine.state.nextPacketNumber := by
 simp only [processDatagram]
 cases checked : engine.checkHeader datagram now with
 | error outcome => obtain rfl | ⟨_, _, _, rfl, -⟩ := checkHeader_error checked <;> exact ⟨.inl rfl, rfl⟩
 | ok checkedPacket =>
  obtain ⟨passing, header, payload⟩ := checkedPacket
  obtain ⟨decoded, rfl⟩ := checkHeader_ok checked
  obtain ⟨queue, next⟩ := dispatch_sender (engine.received header now) header payload now
  rw [<- decodePacket_header decoded]
  exact ⟨.inr queue, next⟩

structure Endpoint.Honest (endpoint : Endpoint) : Prop where
 engine : endpoint.engine.Sound endpoint.accepted
 sent : ∀ datagram ∈ endpoint.sent, TruthfulAcks endpoint.accepted datagram
 frames : ∀ packet ∈ endpoint.engine.retransmissionQueue.outline,
  packet.acked = false /\ TruthfulAcks endpoint.accepted packet.frame /\
   IsFrame packet.packetNumber packet.frame
 used : ∀ packet ∈ endpoint.engine.retransmissionQueue.outline,
  1 ≤ packet.packetNumber /\ packet.packetNumber ≤ endpoint.issued
 next : endpoint.engine.state.nextPacketNumber = u32 (endpoint.issued + 1)

theorem Endpoint.Honest.update (honest : endpoint.Honest) {datagrams : List Bytes}
  (sound : engine.Sound accepted) (grown : ∀ number ∈ endpoint.accepted, number ∈ accepted)
  (waiting : engine.retransmissionQueue.outline.Sublist endpoint.engine.retransmissionQueue.outline)
  (numbering : engine.state.nextPacketNumber = endpoint.engine.state.nextPacketNumber)
  (truthful : ∀ datagram ∈ datagrams, TruthfulAcks accepted datagram) :
  Endpoint.Honest { endpoint with engine := engine, sent := endpoint.sent ++ datagrams, accepted := accepted } := by
 constructor
 case engine => exact sound
 case sent =>
  intro datagram member
  rcases mem_append.mp member with earlier | new
  · exact (honest.sent datagram earlier).mono grown
  · exact truthful datagram new
 case frames =>
  intro packet member
  obtain ⟨unacked, acks, frame⟩ := honest.frames packet (waiting.subset member)
  exact ⟨unacked, acks.mono grown, frame⟩
 case used => exact fun packet member => honest.used packet (waiting.subset member)
 case next => exact numbering.trans honest.next

theorem makeHello_honest (honest : endpoint.Honest) (connectionId now : Nat) :
  (endpoint.makeHello connectionId now).Honest := by
 obtain ⟨window, largest, mask, numbers, _⟩ := honest.engine
 have sound : (endpoint.engine.makeHello connectionId now).1.Sound endpoint.accepted :=
  ⟨window, largest, mask, numbers, mod_lt _ (by decide)⟩
 refine honest.update sound (fun _ member => member) (refl _) rfl ?_
 intro datagram member
 obtain rfl := mem_singleton.mp member
 exact makePacket_truthful sound (by decide) (by decide) (by decide) (by decide) now []

theorem makeClose_honest (honest : endpoint.Honest) (now : Nat) : (endpoint.makeClose now).Honest := by
 obtain ⟨window, largest, mask, numbers, connectionId⟩ := honest.engine
 have sound : (endpoint.engine.makeClose now).1.Sound endpoint.accepted :=
  ⟨window, largest, mask, numbers, connectionId⟩
 refine honest.update sound (fun _ member => member) (refl _) rfl ?_
 intro datagram member
 obtain rfl := mem_singleton.mp member
 exact makePacket_truthful sound (by decide) (by decide) (by decide) (by decide) now []

theorem poll_cases (engine : RudpEngine) (now : Nat) : (∃ reason, engine.poll now = engine.setFallback {} reason) \/
    ∃ queue due, engine.retransmissionQueue.collectTimeouts now engine.state.rtt.rtoMs 16 = (queue, due) /\
     engine.poll now = ({ engine with retransmissionQueue := queue },
       { retransmitCount := due.length
         egressDatagrams := due.map fun packet => markRetransmit packet.encodedFrame }) := by
 unfold poll
 split
 · exact .inl ⟨_, rfl⟩
 · split
   · exact .inl ⟨_, rfl⟩
   · exact .inr ⟨_, _, rfl, rfl⟩

theorem outline_poll (engine : RudpEngine) (now : Nat) :
  (engine.poll now).1.retransmissionQueue.outline = engine.retransmissionQueue.outline := by
 rcases poll_cases engine now with ⟨reason, same⟩ | ⟨queue, due, collected, same⟩
 · rw [same]
   rfl
 · have waiting := outline_collectTimeouts engine.retransmissionQueue now engine.state.rtt.rtoMs 16
   rw [collected] at waiting
   rw [same]
   exact waiting

theorem poll_honest (honest : endpoint.Honest) (now : Nat) : (endpoint.poll now).Honest := by
 obtain ⟨window, largest, mask, numbers, connectionId⟩ := honest.engine
 unfold Endpoint.poll
 rcases poll_cases endpoint.engine now with ⟨reason, same⟩ | ⟨queue, due, collected, same⟩
 · rw [same]
   exact honest.update ⟨window, largest, mask, numbers, connectionId⟩ (fun _ member => member) (refl _) rfl (by simp)
 · have waiting := outline_poll endpoint.engine now
   rw [same] at waiting ⊢
   refine honest.update ⟨window, largest, mask, numbers, connectionId⟩ (fun _ member => member) ?_ rfl ?_
   · simp only [waiting, refl]
   · obtain ⟨packets, inside, frames⟩ := collectTimeouts_due
      endpoint.engine.retransmissionQueue now endpoint.engine.state.rtt.rtoMs 16
     rw [collected] at frames
     intro datagram member
     obtain ⟨packet, late, rfl⟩ := mem_map.mp member
     have framed : packet.encodedFrame ∈ due.map fun packet => packet.encodedFrame :=
      mem_map_of_mem late
     rw [frames] at framed
     obtain ⟨kept, found, frame⟩ := mem_map.mp framed
     rw [<- frame]
     exact markRetransmit_truthful (honest.frames kept (inside.subset found)).2.1

theorem processDatagram_honest (honest : endpoint.Honest) (datagram : Bytes)
  (now : Nat) : (endpoint.processDatagram datagram now).Honest := by
 obtain ⟨sound, truthful⟩ := processDatagram_sound honest.engine datagram now
 obtain ⟨queue, next⟩ := processDatagram_sender endpoint.engine datagram now
 have waiting : (endpoint.engine.processDatagram datagram now).1.retransmissionQueue.outline.Sublist
   endpoint.engine.retransmissionQueue.outline := by
  rcases queue with same | marked
  · simp only [same, refl]
  · rw [marked, outline_markAcked]
    exact filter_sublist
 exact honest.update sound (fun _ member => mem_append_right _ member) waiting next truthful

theorem makePacket_isFrame (sound : engine.Sound accepted)
  (bound : packetNumber < 4294967296) (channelBound : channel < 256) (now : Nat) (payload : Bytes) :
  IsFrame packetNumber (engine.makePacket .data 0 channel packetNumber now payload) := by
 obtain ⟨header, made, fits, magic, version, type, flags, number, _⟩ :=
  makePacket_fits sound .data (by decide) (by decide : 0 < 256) channelBound bound now payload
 exact ⟨header, payload, made, fits, magic, version, type, flags, number⟩

structure Endpoint.Issues (endpoint next : Endpoint) (frame : Bytes) : Prop where
 sound : endpoint.engine.Sound endpoint.accepted -> next.engine.Sound next.accepted
 accepted : next.accepted = endpoint.accepted
 sent : next.sent = endpoint.sent ++ [frame]
 issued : next.issued = endpoint.issued + 1
 numbering : next.engine.state.nextPacketNumber = u32 (endpoint.engine.state.nextPacketNumber + 1)
 frame : ∃ channel now payload, channel < 256 /\
  frame = endpoint.engine.makePacket .data 0 channel endpoint.engine.state.nextPacketNumber now payload

def Endpoint.queue (endpoint : Endpoint) : Bool -> Bytes -> Nat -> Nat -> Endpoint
 | true => endpoint.queueReliable
 | false => endpoint.queueUnreliable

theorem queue_cases (endpoint : Endpoint) (reliable : Bool) (payload : Bytes) (channel now : Nat) :
  let next := endpoint.queue reliable payload channel now
  let number := endpoint.engine.state.nextPacketNumber
  next = endpoint \/ ∃ frame, endpoint.Issues next frame /\
   next.engine.retransmissionQueue.outline =
    endpoint.engine.retransmissionQueue.outline ++ (if reliable then [⟨number, frame, false⟩] else []) /\
   next.reliable = (if reliable then [number] else []) ++ endpoint.reliable := by
 have pushed (packetNumber : Nat) :
   let frame := endpoint.engine.makePacket .data 0 (channel % 256) packetNumber now payload
   (endpoint.engine.retransmissionQueue.push packetNumber now frame).outline =
     endpoint.engine.retransmissionQueue.outline ++ [⟨packetNumber, frame, false⟩] :=
  outline_push _ _ _ <| ne_nil_of_length_pos <| by
   rw [makePacket, length_encodePacket, rudpHeaderBytes]
   omega
 cases reliable
 all_goals
  simp only [Endpoint.queue, Endpoint.queueReliable, queueReliablePayload, Endpoint.queueUnreliable,
   queueUnreliablePayload]
  split
  next refused =>
   split at refused <;> cases refused
   exact .inl rfl
  next queued =>
   split at queued <;> cases queued
   refine .inr ⟨_, ⟨?_, rfl, rfl, rfl, rfl, channel % 256, now, payload, mod_lt _ (by decide), rfl⟩, ?_, rfl⟩
   · exact fun sound => ⟨sound.window, sound.ackLargest, sound.ackMask, sound.numbers, sound.connectionId⟩
   · first | exact pushed _ | exact (append_nil _).symm

theorem Endpoint.Issues.facts (issues : endpoint.Issues next frame) (honest : endpoint.Honest)
  (bound : next.issued < 4294967296) :
  endpoint.engine.state.nextPacketNumber = endpoint.issued + 1 /\
   next.engine.state.nextPacketNumber = u32 (next.issued + 1) /\
   TruthfulAcks next.accepted frame /\
   IsFrame endpoint.engine.state.nextPacketNumber frame /\
   ∀ datagram ∈ next.sent, TruthfulAcks next.accepted datagram := by
 have count := issues.issued
 have number : endpoint.engine.state.nextPacketNumber = endpoint.issued + 1 := by
  rw [honest.next, u32_of_lt (by omega)]
 obtain ⟨channel, now, payload, channelBound, made⟩ := issues.frame
 have truthful : TruthfulAcks next.accepted frame := by
  rw [issues.accepted, made]
  exact makePacket_truthful honest.engine (by decide) (by decide) channelBound (by omega) now payload
 refine ⟨number, by rw [issues.numbering, number, count], truthful, ?_, ?_⟩
 · rw [made]
   exact makePacket_isFrame honest.engine (by omega) channelBound now payload
 · intro datagram member
   rw [issues.sent] at member
   rcases mem_append.mp member with earlier | new
   · rw [issues.accepted]
     exact honest.sent datagram earlier
   · obtain rfl := mem_singleton.mp new
     exact truthful

theorem queue_honest (honest : endpoint.Honest) (reliable : Bool) (payload : Bytes)
  (channel now : Nat) (bound : (endpoint.queue reliable payload channel now).issued < 4294967296) :
  (endpoint.queue reliable payload channel now).Honest := by
 rcases queue_cases endpoint reliable payload channel now with same | ⟨frame, issues, waiting, _⟩
 · rwa [same]
 · obtain ⟨number, numbering, truthful, isFrame, sent⟩ := issues.facts honest bound
   have count := issues.issued
   have split : ∀ packet ∈ (endpoint.queue reliable payload channel now).engine.retransmissionQueue.outline,
     packet ∈ endpoint.engine.retransmissionQueue.outline \/
      packet = ⟨endpoint.engine.state.nextPacketNumber, frame, false⟩ := by
    intro packet member
    rw [waiting] at member
    refine (mem_append.mp member).imp_right fun new => ?_
    split at new
    · exact mem_singleton.mp new
    · cases new
   constructor
   case engine => exact issues.sound honest.engine
   case sent => exact sent
   case frames =>
    intro packet member
    obtain earlier | rfl := split packet member
    · obtain ⟨unacked, acks, earlierFrame⟩ := honest.frames packet earlier
      exact ⟨unacked, by rwa [issues.accepted], earlierFrame⟩
    · exact ⟨rfl, truthful, isFrame⟩
   case used =>
    intro packet member
    obtain earlier | rfl := split packet member
    · have old := honest.used packet earlier
      omega
    · show 1 ≤ endpoint.engine.state.nextPacketNumber /\ endpoint.engine.state.nextPacketNumber ≤ _
      omega
   case next => exact numbering

def Endpoint.Delivered (endpoint : Endpoint) (peerAccepted : List Nat) : Prop :=
 ∀ packetNumber ∈ endpoint.reliable,
  packetNumber ∈ endpoint.pendingNumbers \/ packetNumber ∈ peerAccepted

theorem mem_pendingNumbers : packetNumber ∈ endpoint.pendingNumbers ↔
   ∃ packet ∈ endpoint.engine.retransmissionQueue.outline, packet.packetNumber = packetNumber := by
 simp [Endpoint.pendingNumbers, outline, outlineOf]

theorem Endpoint.Delivered.keep (delivered : endpoint.Delivered peerAccepted)
  (reliable : next.reliable = endpoint.reliable)
  (waiting : next.engine.retransmissionQueue.outline = endpoint.engine.retransmissionQueue.outline) :
  next.Delivered peerAccepted := by
 intro packetNumber member
 rw [reliable] at member
 rw [mem_pendingNumbers, waiting, <- mem_pendingNumbers]
 exact delivered packetNumber member

theorem processDatagram_delivered (honest : endpoint.Honest)
  (delivered : endpoint.Delivered peerAccepted) (truthful : TruthfulAcks peerAccepted datagram)
  (near : ∀ packetNumber ∈ endpoint.pendingNumbers,
    (decodeHeader datagram).ackLargest < packetNumber + 64) (now : Nat) :
  (endpoint.processDatagram datagram now).Delivered peerAccepted := by
 rcases (processDatagram_sender endpoint.engine datagram now).1 with same | marked
 · exact delivered.keep rfl (congrArg outline same)
 · intro packetNumber member
   rcases delivered packetNumber member with waiting | arrived
   · obtain ⟨packet, inside, rfl⟩ := mem_pendingNumbers.mp waiting
     by_cases covered : isAckedByMask packet.packetNumber
      (decodeHeader datagram).ackLargest (decodeHeader datagram).ackMask = true
     · exact .inr (truthful _ (honest.used packet inside).1 (near _ waiting) covered)
     · refine .inl (mem_pendingNumbers.mpr ⟨packet, ?_, rfl⟩)
       show packet ∈ (endpoint.engine.processDatagram datagram now).1.retransmissionQueue.outline
       rw [marked, outline_markAcked, mem_filter]
       exact ⟨inside, by simp [(honest.frames packet inside).1, covered]⟩
   · exact .inr arrived

/-- The datagrams of this step are read while no pending packet is 64 or more numbers below
the largest number they acknowledge. -/
def AcksWithinWindow (network : Network) (action : Side × Call) : Prop :=
 match action.2 with
 | .deliver index _ => ∀ datagram ∈ (network.get action.1.other).sent[index]?,
  ∀ packetNumber ∈ (network.get action.1).pendingNumbers,
   (decodeHeader datagram).ackLargest < packetNumber + 64
 | _ => True

instance (network : Network) (action : Side × Call) : Decidable (AcksWithinWindow network action) :=
 match action with
 | (side, .deliver index _) =>
  inferInstanceAs (Decidable (∀ datagram ∈ (network.get side.other).sent[index]?,
   ∀ packetNumber ∈ (network.get side).pendingNumbers,
    (decodeHeader datagram).ackLargest < packetNumber + 64))
 | (_, .makeHello _ _) | (_, .makeClose _) | (_, .queueReliable _ _ _) | (_, .queueUnreliable _ _ _)
 | (_, .poll _) => isTrue trivial

structure Network.Correct (network : Network) : Prop where
 honest : ∀ side, (network.get side).Honest
 delivered : ∀ side, (network.get side).Delivered (network.get side.other).accepted

theorem call_grows (taken : Network.call endpoint inbound call = some next) :
  endpoint.issued ≤ next.issued /\ endpoint.accepted ⊆ next.accepted := by
 have queued (reliable : Bool) (payload : Bytes) (channel now : Nat) :
   endpoint.issued ≤ (endpoint.queue reliable payload channel now).issued /\
    endpoint.accepted ⊆ (endpoint.queue reliable payload channel now).accepted := by
  rcases queue_cases endpoint reliable payload channel now with same | ⟨_, issues, _⟩
  · rw [same]
    exact ⟨le_refl _, List.Subset.refl _⟩
  · rw [issues.issued, issues.accepted]
    exact ⟨le_succ _, List.Subset.refl _⟩
 cases call with
 | makeHello connectionId now | makeClose now | poll now =>
  cases taken
  exact ⟨le_refl _, List.Subset.refl _⟩
 | queueReliable payload channel now =>
  cases taken
  exact queued true payload channel now
 | queueUnreliable payload channel now =>
  cases taken
  exact queued false payload channel now
 | deliver index now =>
  obtain ⟨datagram, _, rfl⟩ := map_eq_some_iff.mp taken
  exact ⟨le_refl _, subset_append_right _ _⟩

theorem call_honest (honest : endpoint.Honest) (taken : Network.call endpoint inbound call = some next)
  (bound : next.issued < 4294967296) : next.Honest := by
 cases call with
 | makeHello connectionId now =>
  cases taken
  exact makeHello_honest honest connectionId now
 | makeClose now =>
  cases taken
  exact makeClose_honest honest now
 | queueReliable payload channel now =>
  cases taken
  exact queue_honest honest true payload channel now bound
 | queueUnreliable payload channel now =>
  cases taken
  exact queue_honest honest false payload channel now bound
 | poll now =>
  cases taken
  exact poll_honest honest now
 | deliver index now =>
  obtain ⟨datagram, _, rfl⟩ := map_eq_some_iff.mp taken
  exact processDatagram_honest honest datagram now

theorem call_delivered {peer : Endpoint} (honest : endpoint.Honest) (peerHonest : peer.Honest)
  (delivered : endpoint.Delivered peer.accepted) (taken : Network.call endpoint peer.sent call = some next)
  (bound : next.issued < 4294967296)
  (near : ∀ index now, call = .deliver index now -> ∀ datagram, peer.sent[index]? = some datagram ->
    ∀ packetNumber ∈ endpoint.pendingNumbers,
     (decodeHeader datagram).ackLargest < packetNumber + 64) : next.Delivered peer.accepted := by
 have queued (reliable : Bool) (payload : Bytes) (channel now : Nat) :
   (endpoint.queue reliable payload channel now).Delivered peer.accepted := by
  rcases queue_cases endpoint reliable payload channel now with same | ⟨frame, _, waiting, sent⟩
  · rwa [same]
  · intro packetNumber member
    rw [mem_pendingNumbers, waiting]
    rw [sent] at member
    rcases mem_append.mp member with new | earlier
    · cases reliable <;> simp_all
    · rcases delivered packetNumber earlier with pending | arrived
      · obtain ⟨packet, inside, same⟩ := mem_pendingNumbers.mp pending
        exact .inl ⟨packet, mem_append_left _ inside, same⟩
      · exact .inr arrived
 cases call with
 | makeHello connectionId now | makeClose now =>
  cases taken
  exact delivered.keep rfl rfl
 | queueReliable payload channel now =>
  cases taken
  exact queued true payload channel now
 | queueUnreliable payload channel now =>
  cases taken
  exact queued false payload channel now
 | poll now =>
  cases taken
  exact delivered.keep rfl (outline_poll endpoint.engine now)
 | deliver index now =>
  obtain ⟨datagram, found, rfl⟩ := map_eq_some_iff.mp taken
  have member : datagram ∈ peer.sent := mem_of_getElem? found
  exact processDatagram_delivered honest delivered (peerHonest.sent datagram member)
   (near index now rfl datagram found) now

theorem step_issued {next : Network} (taken : machine.step network action = some next) (side : Side) :
  (network.get side).issued ≤ (next.get side).issued := by
 obtain ⟨endpoint, called, rfl⟩ := map_eq_some_iff.mp taken
 rcases side.eq_or_other action.1 with rfl | rfl
 · rw [get_set_same]
   exact (call_grows called).1
 · rw [get_set_other]

theorem set_honest (honest : ∀ side, (network.get side).Honest) {acting : Side}
  (called : Network.call (network.get acting) (network.get acting.other).sent call = some endpoint)
  (bound : ((network.set acting endpoint).get acting).issued < 4294967296) (side : Side) :
  ((network.set acting endpoint).get side).Honest := by
 rw [get_set_same] at bound
 rcases side.eq_or_other acting with rfl | rfl
 · rw [get_set_same]
   exact call_honest (honest side) called bound
 · rw [get_set_other]
   exact honest acting.other

theorem step_correct {next : Network} (correct : network.Correct)
  (near : AcksWithinWindow network action) (taken : machine.step network action = some next)
  (bound : ∀ side, (next.get side).issued < 4294967296) : next.Correct := by
 obtain ⟨acting, call⟩ := action
 obtain ⟨endpoint, called, rfl⟩ := map_eq_some_iff.mp taken
 have actingBound := bound acting
 rw [get_set_same] at actingBound
 constructor
 · exact set_honest correct.honest called (bound acting)
 · intro side
   rcases side.eq_or_other acting with rfl | rfl
   · rw [get_set_same, get_set_other]
     refine call_delivered (correct.honest side) (correct.honest side.other)
      (correct.delivered side) called actingBound ?_
     rintro index now rfl
     exact near
   · rw [Side.other_other, get_set_same, get_set_other]
     intro packetNumber member
     have before := correct.delivered acting.other packetNumber member
     rw [Side.other_other] at before
     exact before.imp_right ((call_grows called).2 ·)

theorem create_honest (leftConfig rightConfig : RudpConfig) (side : Side) :
  ((create leftConfig rightConfig).get side).Honest := by
 have honest : ∀ config : RudpConfig, Endpoint.Honest { engine := { config := config } } := by
  intro config
  refine ⟨⟨AckWindow.represents_initial, rfl, rfl, by simp, by simp⟩, ?_, ?_, ?_, rfl⟩ <;>
   simp [outline]
 cases side <;> exact honest _

theorem create_correct (leftConfig rightConfig : RudpConfig) : (Network.create leftConfig rightConfig).Correct := by
 refine ⟨create_honest leftConfig rightConfig, fun side => ?_⟩
 cases side <;> simp [Endpoint.Delivered, Network.create, Network.get]

variable (ran : machine.run (create leftConfig rightConfig) trace = some final)
include ran

theorem run_honest (bound : ∀ side, (final.get side).issued < 4294967296) (side : Side) :
  (final.get side).Honest := by
 have kept : ∀ network action next,
   ((∀ side, (network.get side).issued < 4294967296) -> ∀ side, (network.get side).Honest) ->
   machine.step network action = some next ->
   (∀ side, (next.get side).issued < 4294967296) -> ∀ side, (next.get side).Honest := by
  intro network action next honest taken fits
  have before := honest fun side => lt_of_le_of_lt (step_issued taken side) (fits side)
  obtain ⟨acting, call⟩ := action
  obtain ⟨endpoint, called, rfl⟩ := map_eq_some_iff.mp taken
  exact set_honest before called (fits acting)
 exact machine.run_keeps kept (fun _ => create_honest leftConfig rightConfig) ran bound side

/-- Whatever the network loses, repeats or reorders, no datagram acknowledges a packet that its sender did not accept. -/
theorem acks_are_truthful (bound : ∀ side, (final.get side).issued < 4294967296) (side : Side) :
  ∀ datagram ∈ (final.get side).sent, TruthfulAcks (final.get side).accepted datagram :=
 (run_honest ran bound side).sent

omit ran

theorem run_correct (allowed : machine.Guarded AcksWithinWindow (create leftConfig rightConfig) trace)
  (ran : machine.run (create leftConfig rightConfig) trace = some final)
  (bound : ∀ side, (final.get side).issued < 4294967296) : final.Correct := by
 have kept : ∀ network action next, ((∀ side, (network.get side).issued < 4294967296) -> network.Correct) ->
   AcksWithinWindow network action -> machine.step network action = some next ->
   (∀ side, (next.get side).issued < 4294967296) -> next.Correct := by
  intro network action next correct near taken fits
  refine step_correct (correct fun side => ?_) near taken fits
  exact lt_of_le_of_lt (step_issued taken side) (fits side)
 exact machine.run_invariant kept (fun _ => create_correct leftConfig rightConfig) allowed ran bound

theorem erased_packet_was_accepted (leftConfig rightConfig : RudpConfig)
  (trace : List (Side × Call)) (final : Network)
  (allowed : machine.Guarded AcksWithinWindow (create leftConfig rightConfig) trace)
  (ran : machine.run (create leftConfig rightConfig) trace = some final)
  (bound : ∀ side, (final.get side).issued < 4294967296) (side : Side) (packetNumber : Nat)
  (sent : packetNumber ∈ (final.get side).reliable) (erased : packetNumber ∉ (final.get side).pendingNumbers) :
  packetNumber ∈ (final.get side.other).accepted := by
 have correct := run_correct allowed ran bound
 exact (correct.delivered side packetNumber sent).resolve_left erased

def acknowledgedTrace : List (Side × Call) :=
 [(.left, .makeHello 7 1000), (.right, .deliver 0 1001), (.left, .deliver 0 1002),
   (.left, .queueReliable [1] 0 1003), (.right, .deliver 1 1004), (.left, .deliver 1 1005)]

theorem acknowledged_packet_was_accepted :
  ∃ final, machine.run (create {} {}) acknowledgedTrace = some final /\
   1 ∉ (final.get .left).pendingNumbers /\ 1 ∈ (final.get .right).accepted := by
 have facts : ∃ final ∈ machine.run (create {} {}) acknowledgedTrace,
   (∀ side, (final.get side).issued < 4294967296) /\ 1 ∈ (final.get .left).reliable /\
   1 ∉ (final.get .left).pendingNumbers := by
  decide +kernel
 obtain ⟨final, reached, bound, sent, erased⟩ := machine.exists_final facts
 exact ⟨final, reached, erased, erased_packet_was_accepted {} {} acknowledgedTrace final
  (by decide +kernel) reached bound .left 1 sent erased⟩

theorem answer_is_truthful :
  let final := (machine.run (create {} {}) acknowledgedTrace).get (by decide +kernel)
  ∀ datagram ∈ (final.get .right).sent, TruthfulAcks (final.get .right).accepted datagram :=
 acks_are_truthful (some_get _).symm (by decide +kernel) .right

def overtakenTrace : List (Side × Call) :=
 [(.left, .makeHello 7 1000), (.right, .deliver 0 1001), (.left, .deliver 0 1002)] ++
   replicate 65 (.left, .queueReliable [1] 0 1003) ++
   [(.right, .deliver 65 1004), (.left, .deliver 1 1005)]

theorem overtaken_packet_is_erased :
  ¬ ∀ (leftConfig rightConfig : RudpConfig) (trace : List (Side × Call)) (final : Network),
   machine.run (create leftConfig rightConfig) trace = some final ->
   (∀ side, (final.get side).issued < 4294967296) ->
   ∀ side, ∀ packetNumber ∈ (final.get side).reliable,
    packetNumber ∉ (final.get side).pendingNumbers -> packetNumber ∈ (final.get side.other).accepted := by
 intro claim
 have lost : ∃ final ∈ machine.run (create {} {}) overtakenTrace,
   (∀ side, (final.get side).issued < 4294967296) /\ 1 ∈ (final.get .left).reliable /\
   1 ∉ (final.get .left).pendingNumbers /\ 1 ∉ (final.get .right).accepted := by
  decide +kernel
 obtain ⟨final, reached, bound, sent, erased, missing⟩ := machine.exists_final lost
 exact missing (claim {} {} overtakenTrace final reached bound .left 1 sent erased)

end Dynaxis.Rudp
