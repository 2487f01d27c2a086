import Dynaxis.Rudp.AckWindow
import Dynaxis.Rudp.Packet
import Dynaxis.Rudp.RetransmissionQueue

/-! The clock is the caller's: every call gets `now` in milliseconds. Sums of clock readings and configured
delays are exact here, since a 64-bit clock does not come near its limit. -/

namespace Dynaxis.Rudp

open Shared Shared.Bytes

inductive LifecycleState
 | idle
 | helloSent
 | helloReceived
 | established
 | draining
 | closed
 deriving DecidableEq

structure RudpConfig where
 handshakeTimeoutMs : Nat := 1500
 idleTimeoutMs : Nat := 10000
 ackDelayMs : Nat := 10
 rtoMinMs : Nat := 50
 rtoMaxMs : Nat := 2000
 maxInflightPackets : Nat := 256
 maxInflightBytes : Nat := 256 * 1024
 mtuPayloadBytes : Nat := 1200

structure RttEstimator where
 initialized : Bool := false
 srttMs : Nat := 0
 rttvarMs : Nat := 0
 rtoMs : Nat := 200

section

variable (rtt : RttEstimator) (sampleMs rtoMinMs rtoMaxMs : Nat)

def RttEstimator.update : RttEstimator :=
 if sampleMs = 0 then rtt
 else
  let rtt :=
   if rtt.initialized = false then
    { rtt with initialized := true, srttMs := sampleMs, rttvarMs := max 1 (sampleMs / 2) }
   else
    let err := (i32 (i32 (i32 rtt.srttMs - i32 sampleMs)).natAbs % 4294967296).toNat
    { rtt with
      rttvarMs := u32 ((3 * rtt.rttvarMs + err) / 4)
      srttMs := u32 ((7 * rtt.srttMs + sampleMs) / 8) }
  let candidate := u32 (rtt.srttMs + max 1 (u32 (4 * rtt.rttvarMs)))
  { rtt with
    rtoMs := if candidate < rtoMinMs then rtoMinMs
     else if rtoMaxMs < candidate then rtoMaxMs
     else candidate }

/-- The recurrences of `update` over unbounded integers. -/
def RttEstimator.updateExact : RttEstimator :=
 if sampleMs = 0 then rtt
 else
  let rtt :=
   if rtt.initialized = false then
    { rtt with initialized := true, srttMs := sampleMs, rttvarMs := max 1 (sampleMs / 2) }
   else
    let err := (rtt.srttMs - sampleMs : Int).natAbs
    { rtt with rttvarMs := (3 * rtt.rttvarMs + err) / 4, srttMs := (7 * rtt.srttMs + sampleMs) / 8 }
  { rtt with rtoMs := max rtoMinMs (min rtoMaxMs (rtt.srttMs + max 1 (4 * rtt.rttvarMs))) }

def RttEstimator.Small : Prop := rtt.srttMs ≤ 858993459 /\ rtt.rttvarMs ≤ 858993459

end

theorem RttEstimator.Small.update {rtt : RttEstimator} {sampleMs rtoMinMs rtoMaxMs : Nat}
  (small : rtt.Small) (ordered : rtoMinMs ≤ rtoMaxMs) (short : sampleMs ≤ 858993459) :
  rtt.update sampleMs rtoMinMs rtoMaxMs = rtt.updateExact sampleMs rtoMinMs rtoMaxMs /\
   (rtt.updateExact sampleMs rtoMinMs rtoMaxMs).Small := by
 obtain ⟨srtt, rttvar⟩ := small
 have err : (i32 (i32 (i32 rtt.srttMs - i32 sampleMs)).natAbs % 4294967296).toNat =
   (rtt.srttMs - sampleMs : Int).natAbs := by
  have exactly (value : Int) (low : -858993459 ≤ value) (high : value ≤ 858993459) : i32 value = value := by
   unfold i32
   omega
  rw [exactly rtt.srttMs, exactly sampleMs, exactly (rtt.srttMs - sampleMs), exactly] <;> omega
 have clamped (candidate : Nat) :
   (if candidate < rtoMinMs then rtoMinMs else if rtoMaxMs < candidate then rtoMaxMs else candidate) =
     max rtoMinMs (min rtoMaxMs candidate) := by
  split_ifs <;> omega
 simp only [RttEstimator.update, updateExact, Small, clamped]
 split_ifs with zero fresh
 · exact ⟨rfl, srtt, rttvar⟩
 · simp (disch := omega) only [u32_of_lt, true_and]
   omega
 · simp (disch := omega) only [err, u32_of_lt, true_and]
   omega

theorem RttEstimator.updates_are_exact {samples : List Nat} {rtoMinMs rtoMaxMs : Nat}
  (ordered : rtoMinMs ≤ rtoMaxMs) (short : ∀ sampleMs ∈ samples, sampleMs ≤ 858993459) :
  samples.foldl (fun rtt sampleMs => rtt.update sampleMs rtoMinMs rtoMaxMs) ({} : RttEstimator) =
   samples.foldl (fun rtt sampleMs => rtt.updateExact sampleMs rtoMinMs rtoMaxMs) {} := by
 have start : Small {} := ⟨by decide, by decide⟩
 generalize ({} : RttEstimator) = rtt at start ⊢
 induction samples generalizing rtt with
 | nil => rfl
 | cons sampleMs rest ih =>
  obtain ⟨first, later⟩ := List.forall_mem_cons.mp short
  obtain ⟨same, small⟩ := start.update ordered first
  rw [List.foldl_cons, List.foldl_cons, same]
  exact ih later _ small

theorem RttEstimator.two_samples_are_exact :
  [80, 120].foldl (fun rtt sampleMs => rtt.update sampleMs 50 2000) ({} : RttEstimator) =
    [80, 120].foldl (fun rtt sampleMs => rtt.updateExact sampleMs 50 2000) {} :=
 updates_are_exact (by decide) (by decide)

theorem RttEstimator.long_sample_wraps :
  (({} : RttEstimator).update 1431655766 50 2000).rtoMs = 50 /\
    (({} : RttEstimator).updateExact 1431655766 50 2000).rtoMs = 2000 := by
 decide

structure RudpPeerState where
 lifecycle : LifecycleState := .idle
 connectionId : Nat := 0
 nextPacketNumber : Nat := 1
 lastRecvUnixMs : Nat := 0
 lastSendUnixMs : Nat := 0
 lastAckEmitUnixMs : Nat := 0
 ackLargest : Nat := 0
 ackMask : Nat := 0
 fallbackRequired : Bool := false
 fallbackReason : String := ""
 rtt : RttEstimator := {}

structure ProcessResult where
 parsed : Bool := false
 consumed : Bool := false
 handshakeEstablished : Bool := false
 fallbackRequired : Bool := false
 fallbackReason : String := ""
 egressDatagrams : List Bytes := []
 innerFrames : List Bytes := []
 retransmitCount : Nat := 0

structure RudpEngine where
 config : RudpConfig := {}
 state : RudpPeerState := {}
 ackWindow : AckWindow := {}
 retransmissionQueue : RetransmissionQueue := {}

namespace RudpEngine

variable (engine : RudpEngine) (header : RudpHeader) (now : Nat)

def makePacket (type : PacketType) (flags channel packetNumber now : Nat)
  (payload : Bytes) : Bytes :=
 encodePacket
  { type := type
    flags := flags
    channel := channel
    connectionId := engine.state.connectionId
    packetNumber := packetNumber
    ackLargest := engine.state.ackLargest
    ackMask := engine.state.ackMask
    ackDelayMs := min engine.config.ackDelayMs 65535
    timestampMs := u32 now
    payloadLength := payload.length % 65536 }
  payload

-- The reason is moved out of the peer state into the result.
def setFallback (result : ProcessResult) (reason : String) : RudpEngine × ProcessResult :=
 ({ engine with
    state :=
     { engine.state with
       fallbackRequired := true
       fallbackReason := ""
       lifecycle := .draining } },
  { result with fallbackRequired := true, fallbackReason := reason })

def makeHello (connectionId now : Nat) : RudpEngine × Bytes :=
 let engine :=
  { engine with
    state :=
     { engine.state with
       connectionId := u32 connectionId
       lifecycle := .helloSent
       lastSendUnixMs := now } }
 (engine, engine.makePacket .hello 0 0 0 now [])

def makeClose : RudpEngine × Bytes :=
 let engine :=
  { engine with state := { engine.state with lifecycle := .closed, lastSendUnixMs := now } }
 (engine, engine.makePacket .close 0 0 0 now [])

def checkHeader (datagram : Bytes) (now : Nat) :
  Except (RudpEngine × ProcessResult) (RudpEngine × RudpHeader × Bytes) :=
 if looksLikeRudp datagram = false then .error (engine, {})
 else
  match decodePacket datagram with
  | none => .error (engine.setFallback { consumed := true } "invalid_rudp_packet")
  | some (header, payload) =>
   if header.version ≠ 1 then
    .error (engine.setFallback { consumed := true } "invalid_rudp_packet")
   else
    let connectionId := engine.state.connectionId
    let received := { engine with state := { engine.state with lastRecvUnixMs := now } }
    if connectionId ≠ 0 /\ header.connectionId ≠ 0 /\ connectionId ≠ header.connectionId then
     .error (received.setFallback { consumed := true, parsed := true } "connection_id_mismatch")
    else
     .ok
      ({ received with
         state :=
          { received.state with
            connectionId := if connectionId = 0 then header.connectionId else connectionId }
         retransmissionQueue :=
          received.retransmissionQueue.markAcked header.ackLargest header.ackMask },
       header, payload)

def ackDue : Bool :=
 header.flags &&& flagAckOnly = 0 &&
  engine.state.lastAckEmitUnixMs + engine.config.ackDelayMs ≤ now

def sampleRtt : RudpEngine :=
 if header.timestampMs ≠ 0 then
  let sample := if header.timestampMs ≤ u32 now then u32 now - header.timestampMs else 0
  { engine with
    state :=
     { engine.state with
       rtt := engine.state.rtt.update sample engine.config.rtoMinMs engine.config.rtoMaxMs } }
 else engine

def observe (engine : RudpEngine) (packetNumber : Nat) : RudpEngine :=
 let ack := engine.ackWindow.observe packetNumber
 { engine with
   ackWindow := ack.1
   state := { engine.state with ackLargest := ack.2.ackLargest, ackMask := ack.2.ackMask } }

def emitAck : RudpEngine × List Bytes :=
 if engine.ackDue header now then
  ({ engine with state := { engine.state with lastAckEmitUnixMs := now } },
   [engine.makePacket .data flagAckOnly header.channel 0 now []])
 else (engine, [])

def receiveData (payload : Bytes) (now : Nat)
  (result : ProcessResult) : RudpEngine × ProcessResult :=
 if engine.state.lifecycle ≠ .established then engine.setFallback result "rudp_not_established"
 else if engine.ackWindow.accepts header.packetNumber = false then
  (engine.observe header.packetNumber, result)
 else
  let (acked, egress) := (engine.observe header.packetNumber).emitAck header now
  (acked.sampleRtt header now, { result with
     innerFrames := if payload = [] then [] else [payload]
     egressDatagrams := egress })

def dispatch (payload : Bytes) (now : Nat) : RudpEngine × ProcessResult :=
 let result : ProcessResult := { consumed := true, parsed := true }
 match header.type with
 | .hello =>
  let fresh := engine.state.lifecycle ≠ .established
  let engine :=
   { engine with
     state := { engine.state with lifecycle := .established, lastSendUnixMs := now } }
  (engine, { result with
     handshakeEstablished := fresh
     egressDatagrams := [engine.makePacket .helloAck 0 0 0 now []] })
 | .helloAck =>
  ({ engine with state := { engine.state with lifecycle := .established } },
   { result with handshakeEstablished := true })
 | .close => { engine with state := { engine.state with lifecycle := .closed } }.setFallback result "peer_closed"
 | .ping => (engine, { result with egressDatagrams := [engine.makePacket .data flagAckOnly 0 0 now []] })
 -- a type byte outside the enumeration leaves the switch like a data packet
 | .data => engine.receiveData header payload now result
 | .undefined _ => engine.receiveData header payload now result

def processDatagram (datagram : Bytes) (now : Nat) : RudpEngine × ProcessResult :=
 match engine.checkHeader datagram now with
 | .error outcome => outcome
 | .ok (engine, header, payload) => engine.dispatch header payload now

def queueReliablePayload (innerFrame : Bytes) (channel now : Nat) : RudpEngine × Option Bytes :=
 if engine.state.lifecycle ≠ .established
   \/ innerFrame = []
   \/ engine.config.mtuPayloadBytes < innerFrame.length
   \/ engine.config.maxInflightPackets ≤ engine.retransmissionQueue.inflightPackets
   \/ engine.config.maxInflightBytes < engine.retransmissionQueue.inflightBytes + innerFrame.length then
  (engine, none)
 else
  let packetNumber := engine.state.nextPacketNumber
  let frame := engine.makePacket .data 0 (channel % 256) packetNumber now innerFrame
  ({ engine with
     state :=
      { engine.state with
        nextPacketNumber := u32 (packetNumber + 1)
        lastSendUnixMs := now }
     retransmissionQueue := engine.retransmissionQueue.push packetNumber now frame },
   some frame)

def queueUnreliablePayload (innerFrame : Bytes) (channel now : Nat) : RudpEngine × Option Bytes :=
 if engine.state.lifecycle ≠ .established
   \/ innerFrame = []
   \/ engine.config.mtuPayloadBytes < innerFrame.length then
  (engine, none)
 else
  let packetNumber := engine.state.nextPacketNumber
  ({ engine with
     state :=
      { engine.state with
        nextPacketNumber := u32 (packetNumber + 1)
        lastSendUnixMs := now } },
   some (engine.makePacket .data 0 (channel % 256) packetNumber now innerFrame))

def markRetransmit (frame : Bytes) : Bytes :=
 if rudpHeaderBytes ≤ frame.length then
  frame.set 27 (UInt8.ofNat (byteAt frame 27 ||| flagRetransmit))
 else frame

def handshakeExpired : Bool :=
 engine.state.lifecycle = .helloSent && 0 < engine.state.lastSendUnixMs &&
  engine.state.lastSendUnixMs + engine.config.handshakeTimeoutMs < now

def idleExpired : Bool :=
 engine.state.lifecycle = .established && 0 < engine.state.lastRecvUnixMs &&
  engine.state.lastRecvUnixMs + engine.config.idleTimeoutMs < now

def poll : RudpEngine × ProcessResult :=
 if engine.handshakeExpired now then engine.setFallback {} "rudp_handshake_timeout"
 else if engine.idleExpired now then engine.setFallback {} "rudp_idle_timeout"
 else
  let (queue, due) := engine.retransmissionQueue.collectTimeouts now engine.state.rtt.rtoMs 16
  ({ engine with retransmissionQueue := queue },
   { retransmitCount := due.length
     egressDatagrams := due.map fun packet => markRetransmit packet.encodedFrame })

end RudpEngine

end Dynaxis.Rudp
