import Dynaxis.Rudp.Reliability

namespace Dynaxis.Rudp

open Shared Shared.Bytes RudpEngine List

def RudpEngine.observedHeader (engine : RudpEngine) (header : RudpHeader) : Option Nat :=
 match header.type with
 | .data | .undefined _ => if engine.state.lifecycle = .established then some header.packetNumber else none
 | .hello | .helloAck | .ping | .close => none

def RudpEngine.observedNumber (engine : RudpEngine) (datagram : Bytes) (now : Nat) : Option Nat :=
 match engine.checkHeader datagram now with
 | .error _ => none
 | .ok (engine, header, _) => engine.observedHeader header

inductive Input
 | processDatagram (datagram : Bytes) (now : Nat)
 | makeHello (connectionId now : Nat)
 | makeClose (now : Nat)
 | queueReliable (payload : Bytes) (channel now : Nat)
 | queueUnreliable (payload : Bytes) (channel now : Nat)
 | poll (now : Nat)

structure Receiver where
 engine : RudpEngine
 observed : List Nat := []
 -- once for each frame
 delivered : List Nat := []
 encoded : List Bytes := []

def Receiver.step (receiver : Receiver) : Input -> Receiver
 | .processDatagram datagram now =>
  let (engine, result) := receiver.engine.processDatagram datagram now
  { engine := engine
    observed := (receiver.engine.observedNumber datagram now).toList ++ receiver.observed
    delivered := result.innerFrames.map (fun _ => (decodeHeader datagram).packetNumber) ++ receiver.delivered
    encoded := result.egressDatagrams }
 | .makeHello connectionId now =>
  let (engine, datagram) := receiver.engine.makeHello connectionId now
  { receiver with engine := engine, encoded := [datagram] }
 | .makeClose now =>
  let (engine, datagram) := receiver.engine.makeClose now
  { receiver with engine := engine, encoded := [datagram] }
 | .queueReliable payload channel now =>
  let (engine, datagram) := receiver.engine.queueReliablePayload payload channel now
  { receiver with engine := engine, encoded := datagram.toList }
 | .queueUnreliable payload channel now =>
  let (engine, datagram) := receiver.engine.queueUnreliablePayload payload channel now
  { receiver with engine := engine, encoded := datagram.toList }
 -- what `poll` sends again was encoded earlier
 | .poll now => { receiver with engine := (receiver.engine.poll now).1, encoded := [] }

def Receiver.run (receiver : Receiver) (inputs : List Input) : Receiver := inputs.foldl Receiver.step receiver

def RudpEngine.CarriedBy (engine : RudpEngine) (datagram : Bytes) : Prop :=
 (decodeHeader datagram).ackLargest = engine.ackWindow.largest /\
   (decodeHeader datagram).ackMask = engine.ackWindow.mask

section

variable {engine : RudpEngine} {seen : List Nat} {packetNumber : Nat} {header : RudpHeader}

theorem makePacket_carried (sound : engine.Sound seen) {type : PacketType}
  (defined : type.code < 256 /\ PacketType.ofCode type.code = type) {flags channel : Nat}
  (flagBound : flags < 256) (channelBound : channel < 256) (numberBound : packetNumber < 4294967296)
  (now : Nat) (payload : Bytes) :
  engine.CarriedBy (engine.makePacket type flags channel packetNumber now payload) := by
 obtain ⟨header, made, fits, _, _, _, _, _, largest, mask, _⟩ :=
  makePacket_fits sound type defined flagBound channelBound numberBound now payload
 rw [RudpEngine.CarriedBy, made, decodeHeader_encodePacket fits]
 exact ⟨largest.trans sound.ackLargest, mask.trans sound.ackMask⟩

theorem emitAck_carried (sound : engine.Sound seen) (channel : header.channel < 256) (now : Nat) :
  (engine.emitAck header now).1.ackWindow = engine.ackWindow /\
    ∀ datagram ∈ (engine.emitAck header now).2, engine.CarriedBy datagram := by
 unfold emitAck
 split
 · refine ⟨rfl, fun datagram member => ?_⟩
   obtain rfl := mem_singleton.mp member
   exact makePacket_carried sound (by decide) (by decide) channel (by decide) now []
 · exact ⟨rfl, fun _ member => absurd member not_mem_nil⟩

theorem sampleRtt_ackWindow (header : RudpHeader) (now : Nat) :
  (engine.sampleRtt header now).ackWindow = engine.ackWindow := by
 unfold sampleRtt
 split <;> rfl

structure RudpEngine.Tracks (seen : List Nat) (packetNumber : Nat) (observed : Option Nat)
  (next : RudpEngine × ProcessResult) : Prop where
 sound : next.1.Sound (observed.toList ++ seen)
 carried : ∀ datagram ∈ next.2.egressDatagrams, next.1.CarriedBy datagram
 delivered : next.2.innerFrames = [] \/
  (∃ frame, next.2.innerFrames = [frame]) /\ observed = some packetNumber /\ packetNumber ∉ seen

theorem Tracks.silent {next : RudpEngine × ProcessResult} (sound : next.1.Sound seen)
  (egress : next.2.egressDatagrams = []) (frames : next.2.innerFrames = []) (packetNumber : Nat) :
  RudpEngine.Tracks seen packetNumber none next where
 sound := sound
 carried := by simp [egress]
 delivered := .inl frames

theorem receiveData_tracks (sound : engine.Sound seen) (bound : header.packetNumber < 4294967296)
  (channel : header.channel < 256) (payload : Bytes) (now : Nat)
  {result : ProcessResult} (egress : result.egressDatagrams = []) (frames : result.innerFrames = []) :
  RudpEngine.Tracks seen header.packetNumber
   (if engine.state.lifecycle = .established then some header.packetNumber else none)
   (engine.receiveData header payload now result) := by
 unfold receiveData
 by_cases established : engine.state.lifecycle = .established
 · have observed := observe_sound sound bound
   rw [if_neg (not_not_intro established), if_pos established]
   split
   · -- a duplicate, or too old to tell
     exact ⟨observed, by simp [egress], .inl frames⟩
   next accepted =>
    rw [Bool.not_eq_false] at accepted
    have fresh := sound.window.not_mem_of_accepts accepted
    obtain ⟨window, carried⟩ := emitAck_carried observed channel now
    have acked := (emitAck_sound observed channel now).1
    refine ⟨sampleRtt_sound acked header now, fun datagram member => ?_, ?_⟩
    · have known := carried datagram member
      rwa [RudpEngine.CarriedBy, sampleRtt_ackWindow, window]
    · by_cases empty : payload = []
      · exact .inl (by simp [empty])
      · exact .inr ⟨⟨payload, by simp [empty]⟩, rfl, fresh⟩
 · rw [if_pos established, if_neg established]
   exact Tracks.silent
    ⟨sound.window, sound.ackLargest, sound.ackMask, sound.numbers, sound.connectionId⟩ egress frames _

theorem dispatch_tracks (sound : engine.Sound seen) (bound : header.packetNumber < 4294967296)
  (channel : header.channel < 256) (payload : Bytes) (now : Nat) :
  RudpEngine.Tracks seen header.packetNumber (engine.observedHeader header)
   (engine.dispatch header payload now) := by
 have relabelled : ∀ lifecycle lastSend,
   RudpEngine.Sound { engine with
    state := { engine.state with lifecycle := lifecycle, lastSendUnixMs := lastSend } } seen :=
  fun _ _ => ⟨sound.window, sound.ackLargest, sound.ackMask, sound.numbers, sound.connectionId⟩
 have received := receiveData_tracks sound bound channel payload now
  (show ({ consumed := true, parsed := true } : ProcessResult).egressDatagrams = [] from rfl) rfl
 cases type : header.type with
 | hello =>
  simp only [dispatch, observedHeader, type]
  refine ⟨relabelled _ _, fun datagram member => ?_, .inl rfl⟩
  obtain rfl := mem_singleton.mp member
  exact makePacket_carried (relabelled _ _) (by decide) (by decide) (by decide) (by decide) now []
 | helloAck =>
  simp only [dispatch, observedHeader, type]
  exact Tracks.silent (relabelled _ engine.state.lastSendUnixMs) rfl rfl _
 | close =>
  simp only [dispatch, observedHeader, type]
  exact Tracks.silent ⟨sound.window, sound.ackLargest, sound.ackMask, sound.numbers, sound.connectionId⟩ rfl rfl _
 | ping =>
  simp only [dispatch, observedHeader, type]
  refine ⟨sound, fun datagram member => ?_, .inl rfl⟩
  obtain rfl := mem_singleton.mp member
  exact makePacket_carried sound (by decide) (by decide) (by decide) (by decide) now []
 | data | undefined code =>
  simp only [dispatch, observedHeader, type]
  exact received

theorem processDatagram_tracks (sound : engine.Sound seen) (datagram : Bytes) (now : Nat) :
  RudpEngine.Tracks seen (decodeHeader datagram).packetNumber (engine.observedNumber datagram now)
   (engine.processDatagram datagram now) := by
 simp only [processDatagram, observedNumber]
 cases checked : engine.checkHeader datagram now with
 | error outcome =>
  obtain rfl | ⟨_, _, _, rfl, egress, frames⟩ := checkHeader_error checked
  · exact Tracks.silent sound rfl rfl _
  · exact Tracks.silent ⟨sound.window, sound.ackLargest, sound.ackMask, sound.numbers, sound.connectionId⟩ egress frames _
 | ok checkedPacket =>
  obtain ⟨passing, header, payload⟩ := checkedPacket
  obtain ⟨decoded, rfl⟩ := checkHeader_ok checked
  obtain rfl := decodePacket_header decoded
  exact dispatch_tracks (received_sound sound decoded now) (readBe32_lt datagram 8)
   (byteAt_lt datagram 26) payload now

end

structure Receiver.Correct (receiver : Receiver) : Prop where
 sound : receiver.engine.Sound receiver.observed
 number : receiver.engine.state.nextPacketNumber < 4294967296
 once : receiver.delivered.Nodup
 known : ∀ packetNumber ∈ receiver.delivered, packetNumber ∈ receiver.observed
 carried : ∀ datagram ∈ receiver.encoded, receiver.engine.CarriedBy datagram

variable {receiver : Receiver} {engine : RudpEngine} (correct : receiver.Correct)
include correct

theorem processDatagram_correct (datagram : Bytes) (now : Nat) :
  (receiver.step (.processDatagram datagram now)).Correct := by
 obtain ⟨sound, carried, delivered⟩ := processDatagram_tracks correct.sound datagram now
 have number := (processDatagram_sender receiver.engine datagram now).2
 refine ⟨sound, number ▸ correct.number, ?_, ?_, carried⟩
 all_goals
  rcases delivered with none | ⟨⟨frame, one⟩, observed, fresh⟩
 · simp only [Receiver.step, none, map_nil, nil_append]
   exact correct.once
 · simp only [Receiver.step, one, map_cons, map_nil, singleton_append, nodup_cons]
   exact ⟨fun again => fresh (correct.known _ again), correct.once⟩
 · simp only [Receiver.step, none, map_nil, nil_append]
   exact fun packetNumber member => mem_append_right _ (correct.known packetNumber member)
 · simp only [Receiver.step, one, observed, map_cons, map_nil, singleton_append, Option.toList_some, mem_cons]
   exact fun packetNumber member => member.imp_right (correct.known packetNumber)

theorem Receiver.Correct.encode {encoded : List Bytes} (sound : engine.Sound receiver.observed)
  (number : engine.state.nextPacketNumber < 4294967296)
  (carried : ∀ datagram ∈ encoded, engine.CarriedBy datagram) :
  Receiver.Correct { receiver with engine := engine, encoded := encoded } :=
 ⟨sound, number, correct.once, correct.known, carried⟩

theorem Receiver.Correct.queue (window : engine.ackWindow = receiver.engine.ackWindow)
  (sound : engine.Sound receiver.observed)
  (number : engine.state.nextPacketNumber < 4294967296) (payload : Bytes) (channel now : Nat) :
  Receiver.Correct
   { receiver with
     engine := engine
     encoded := [receiver.engine.makePacket .data 0 (channel % 256)
      receiver.engine.state.nextPacketNumber now payload] } := by
 have carried : receiver.engine.CarriedBy (receiver.engine.makePacket .data 0 (channel % 256)
   receiver.engine.state.nextPacketNumber now payload) :=
  makePacket_carried correct.sound (by decide) (by decide)
   (Nat.mod_lt channel (by decide)) correct.number now payload
 refine correct.encode sound number fun datagram member => ?_
 obtain rfl := mem_singleton.mp member
 rwa [RudpEngine.CarriedBy, window]

theorem queue_correct (payload : Bytes) (channel now : Nat) :
  (receiver.step (.queueReliable payload channel now)).Correct /\
    (receiver.step (.queueUnreliable payload channel now)).Correct := by
 obtain ⟨window, largest, mask, numbers, connectionId⟩ := correct.sound
 simp only [Receiver.step, queueReliablePayload, queueUnreliablePayload]
 constructor
 all_goals
  split
  · exact correct.encode correct.sound correct.number fun _ member => absurd member not_mem_nil
  · refine correct.queue ?_ ?_ ?_ payload channel now
    · rfl
    · exact ⟨window, largest, mask, numbers, connectionId⟩
    · exact Nat.mod_lt _ (by decide)

theorem Receiver.step_correct (input : Input) : (receiver.step input).Correct := by
 obtain ⟨window, largest, mask, numbers, connectionId⟩ := correct.sound
 cases input with
 | processDatagram datagram now => exact processDatagram_correct correct datagram now
 | makeHello connectionId now =>
  have sound : (receiver.engine.makeHello connectionId now).1.Sound receiver.observed :=
   ⟨window, largest, mask, numbers, Nat.mod_lt _ (by decide)⟩
  refine correct.encode sound correct.number fun datagram member => ?_
  obtain rfl := mem_singleton.mp member
  exact makePacket_carried sound (by decide) (by decide) (by decide) (by decide) now []
 | makeClose now =>
  have sound : (receiver.engine.makeClose now).1.Sound receiver.observed :=
   ⟨window, largest, mask, numbers, connectionId⟩
  refine correct.encode sound correct.number fun datagram member => ?_
  obtain rfl := mem_singleton.mp member
  exact makePacket_carried sound (by decide) (by decide) (by decide) (by decide) now []
 | queueReliable payload channel now => exact (queue_correct correct payload channel now).1
 | queueUnreliable payload channel now => exact (queue_correct correct payload channel now).2
 | poll now =>
  simp only [step]
  rcases poll_cases receiver.engine now with ⟨reason, same⟩ | ⟨queue, due, _, same⟩ <;> rw [same] <;>
   exact correct.encode ⟨window, largest, mask, numbers, connectionId⟩ correct.number
    fun _ member => absurd member not_mem_nil

theorem Receiver.run_correct (inputs : List Input) : (receiver.run inputs).Correct := by
 induction inputs generalizing receiver with
 | nil => exact correct
 | cons input rest ih => exact ih (step_correct correct input)

omit correct

theorem create_receiver_correct (config : RudpConfig) : Receiver.Correct { engine := { config } } where
 sound := ⟨AckWindow.represents_initial, rfl, rfl, by simp, (by decide : 0 < 4294967296)⟩
 number := (by decide : 1 < 4294967296)
 once := nodup_nil
 known := by simp
 carried := by simp

/-- The packet numbers of a datagram are what its four bytes can hold, so nothing is assumed
of them. The inputs are any prefix of a run. -/
theorem window_tracks_observed_numbers (config : RudpConfig) (inputs : List Input) :
  let receiver := Receiver.run { engine := { config } } inputs
  let window := receiver.engine.ackWindow
  receiver.delivered.Nodup /\
   (receiver.observed = [] -> window.largest = 0 /\ window.mask = 0) /\
   (receiver.observed ≠ [] ->
     window.largest ∈ receiver.observed /\ (∀ number ∈ receiver.observed, number ≤ window.largest) /\
     window.mask < 2 ^ 64 /\ ∀ distance < 64,
      (window.mask.testBit distance = true ↔
        distance ≤ window.largest /\ window.largest - distance ∈ receiver.observed)) /\
   ∀ datagram ∈ receiver.encoded,
    (decodeHeader datagram).ackLargest = window.largest /\ (decodeHeader datagram).ackMask = window.mask := by
 intro receiver window
 have correct : receiver.Correct := Receiver.run_correct (create_receiver_correct config) inputs
 have represents : window.Represents receiver.observed := correct.sound.window
 refine ⟨correct.once, fun none => ?_, fun some => ?_, correct.carried⟩
 · -- an initialized window would have seen its own largest number
   cases initialized : window.initialized with
   | false => exact ⟨(represents.blank initialized).1, (represents.blank initialized).2.1⟩
   | true =>
    have member := represents.largest initialized
    rw [none] at member
    cases member
 · have initialized : window.initialized = true := by
    by_contra blank
    exact some (represents.blank (Bool.eq_false_iff.mpr blank)).2.2
   refine ⟨represents.largest initialized, represents.bounded, represents.mask_lt, fun distance near => ?_⟩
   rw [represents.mask initialized distance]
   exact and_iff_right near

end Dynaxis.Rudp
