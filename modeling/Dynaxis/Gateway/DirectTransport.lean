import Dynaxis.Protocol.Packet
import Dynaxis.Shared.Table

namespace Dynaxis.Gateway

open Shared Shared.Bytes Dynaxis.Protocol

def fnvPrime : Nat := 1099511628211

def fnvByte (hash byte : Nat) : Nat := u64 ((hash ^^^ byte) * fnvPrime)

def fnv1a64 (sessionId : Text) (nonce : Nat) : Nat :=
 let hash := sessionId.foldl (fun hash letter => fnvByte hash (letter.toNat % 256)) 1469598103934665603
 (List.range 8).foldl (fun hash index => fnvByte hash ((nonce >>> (8 * index)) &&& 0xFF)) hash

structure DirectTransportRolloutPolicy where
 enabled : Bool := false
 canaryPercent : Nat := 0
 opcodeAllowlist : List Nat := []

def DirectTransportRolloutPolicy.sessionSelected (policy : DirectTransportRolloutPolicy)
  (sessionId : Text) (nonce : Nat) : Bool :=
 if !policy.enabled || policy.canaryPercent = 0 then false
 else if 100 ≤ policy.canaryPercent then true
 else fnv1a64 sessionId nonce % 100 < policy.canaryPercent

def DirectTransportRolloutPolicy.opcodeAllowed (policy : DirectTransportRolloutPolicy) (opcode : Nat) : Bool :=
 opcode ∈ policy.opcodeAllowlist

inductive DirectAttachMode
 | udpOnly
 | rudpCanary
 deriving DecidableEq

def evaluateDirectAttach (policy : DirectTransportRolloutPolicy) (sessionId : Text) (nonce : Nat) :
  DirectAttachMode :=
 if !policy.enabled || policy.opcodeAllowlist.isEmpty || !policy.sessionSelected sessionId nonce then .udpOnly
 else .rudpCanary

inductive DirectDeliveryRoute
 | tcpFallback
 | udp
 | rudp
 deriving DecidableEq

inductive DirectDeliveryReason
 | messageNotEligible
 | notUdpBound
 | udpDirect
 | rudpDirect
 | rudpFallbackLatched
 | rudpHandshakePendingUdp

structure DirectDeliveryContext where
 directPathEnabledForMessage : Bool := false
 udpBound : Bool := false
 rudpSelected : Bool := false
 rudpFallbackToTcp : Bool := false
 rudpEstablished : Bool := false

structure DirectDeliveryDecision where
 route : DirectDeliveryRoute := .tcpFallback
 reason : DirectDeliveryReason := .messageNotEligible

def evaluateDirectDelivery (context : DirectDeliveryContext) : DirectDeliveryDecision :=
 if !context.directPathEnabledForMessage || !context.udpBound then
  { route := .tcpFallback
    reason := if context.directPathEnabledForMessage then .notUdpBound else .messageNotEligible }
 else if !context.rudpSelected then { route := .udp, reason := .udpDirect }
 else if context.rudpFallbackToTcp then { route := .tcpFallback, reason := .rudpFallbackLatched }
 else if context.rudpEstablished then { route := .rudp, reason := .rudpDirect }
 else { route := .udp, reason := .rudpHandshakePendingUdp }

theorem evaluateDirectDelivery_rudp {context : DirectDeliveryContext}
  (direct : (evaluateDirectDelivery context).route = .rudp) :
  context.directPathEnabledForMessage = true /\ context.rudpFallbackToTcp = false /\
   context.rudpEstablished = true := by
 unfold evaluateDirectDelivery at direct
 split_ifs at direct with barred _ running established
 exact ⟨by simp_all, Bool.eq_false_iff.mpr running, established⟩

def msgFpsStateDelta : Nat := 0x0208

def isDirectEgressMsg (msgId : Nat) : Bool := msgId = msgFpsStateDelta

structure DirectBindTicket where
 sessionId : Text := []
 nonce : Nat := 0
 expiresUnixMs : Nat := 0
 token : Text := []

abbrev DirectBindRequest := DirectBindTicket

structure DirectBindResponse where
 code : Nat
 ticket : DirectBindTicket := {}
 message : Text

def readBe64 (bytes : Bytes) : Option (Nat × Bytes) :=
 if bytes.length < 8 then none
 else some (readBe32 bytes 0 * 4294967296 + readBe32 bytes 4, bytes.drop 8)

def writeBe64 (value : Nat) : Bytes := writeBe32 (value / 4294967296) ++ writeBe32 value

def writeLpUtf8 (text : Text) : Bytes :=
 let text := text.take 0xFFFF
 writeBe16 text.length ++ text.map fun letter => UInt8.ofNat letter.toNat

def encodeDirectBindRequestPayload (request : DirectBindRequest) : Bytes :=
 writeLpUtf8 request.sessionId ++ writeBe64 request.nonce ++ writeBe64 request.expiresUnixMs ++
  writeLpUtf8 request.token

def decodeDirectBindRequestPayload (payload : Bytes) : Option DirectBindRequest := do
 let (sessionId, payload) <- readLpUtf8 payload
 let (nonce, payload) <- readBe64 payload
 let (expiresUnixMs, payload) <- readBe64 payload
 let (token, payload) <- readLpUtf8 payload
 if payload = [] then return { sessionId, nonce, expiresUnixMs, token } else none

structure UdpSequencedMetrics where
 initialized : Bool := false
 lastSeq : Nat := 0
 lastRecvMs : Nat := 0
 lastInterarrivalMs : Nat := 0

structure SequencedUpdate where
 accepted : Bool := false
 duplicate : Bool := false
 reordered : Bool := false
 estimatedLostPackets : Nat := 0
 jitterMs : Nat := 0

section

variable (metrics : UdpSequencedMetrics) (seq recvUnixMs : Nat)

def UdpSequencedMetrics.arrival : Nat × Nat :=
 if metrics.lastRecvMs = 0 then (metrics.lastInterarrivalMs, 0)
 else if recvUnixMs < metrics.lastRecvMs then (0, 0)
 else
  let interarrivalMs := recvUnixMs - metrics.lastRecvMs
  let jitterMs :=
   if metrics.lastInterarrivalMs = 0 then 0
   else if metrics.lastInterarrivalMs ≤ interarrivalMs then interarrivalMs - metrics.lastInterarrivalMs
   else metrics.lastInterarrivalMs - interarrivalMs
  (interarrivalMs, jitterMs)

def UdpSequencedMetrics.onPacket : UdpSequencedMetrics × SequencedUpdate :=
 if !metrics.initialized then
  ({ initialized := true, lastSeq := seq, lastRecvMs := recvUnixMs }, { accepted := true })
 else if seq = metrics.lastSeq then (metrics, { duplicate := true })
 else if seq < metrics.lastSeq then (metrics, { reordered := true })
 else
  let (interarrivalMs, jitterMs) := metrics.arrival recvUnixMs
  let lost := if u32 (metrics.lastSeq + 1) < seq then seq - metrics.lastSeq - 1 else 0
  ({ metrics with lastSeq := seq, lastRecvMs := recvUnixMs, lastInterarrivalMs := interarrivalMs },
   { accepted := true, estimatedLostPackets := lost, jitterMs })

end

structure GuardSettings where
 failWindowMs : Nat := 10000
 failLimit : Nat := 5
 blockMs : Nat := 60000

structure GuardEntry where
 windowStartedMs : Nat := 0
 failuresInWindow : Nat := 0
 blockedUntilMs : Nat := 0

abbrev UdpBindAbuseGuard := Table Text GuardEntry

namespace UdpBindAbuseGuard

variable (settings : GuardSettings) (guard : UdpBindAbuseGuard) (endpointKey : Text) (now : Nat)

def blockState : UdpBindAbuseGuard × Bool :=
 match guard.lookup endpointKey with
 | none => (guard, false)
 | some entry =>
  if entry.blockedUntilMs ≤ now then (guard.insert endpointKey { entry with blockedUntilMs := 0 }, false)
  else (guard, true)

def recordFailure : UdpBindAbuseGuard :=
 let entry := (guard.lookup endpointKey).getD {}
 if now < entry.blockedUntilMs then guard.insert endpointKey entry
 else
  let entry :=
   if entry.windowStartedMs = 0 || now < entry.windowStartedMs
     || settings.failWindowMs < now - entry.windowStartedMs then
    { entry with windowStartedMs := now, failuresInWindow := 0 }
   else entry
  let failures := u32 (entry.failuresInWindow + 1)
  guard.insert endpointKey
   (if failures < settings.failLimit then { entry with failuresInWindow := failures }
   else { windowStartedMs := 0, failuresInWindow := 0, blockedUntilMs := u64 (now + settings.blockMs) })

def recordSuccess : UdpBindAbuseGuard :=
 Table.modify guard endpointKey fun entry => { entry with failuresInWindow := 0, windowStartedMs := 0 }

end UdpBindAbuseGuard

end Dynaxis.Gateway
