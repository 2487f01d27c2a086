import Dynaxis.Rudp.Engine
import Dynaxis.Shared.Machine

/-! Each endpoint remembers every datagram it has emitted. The network may deliver any of them to the peer at any
time and any number of times, so dropping, delaying, duplicating and reordering are all choices of the trace; it
never makes up a datagram. -/

namespace Dynaxis.Rudp

open Shared

def RudpEngine.acceptedHeader (engine : RudpEngine) (header : RudpHeader) : Option Nat :=
 match header.type with
 | .data | .undefined _ =>
  if engine.state.lifecycle = .established /\ engine.ackWindow.accepts header.packetNumber then
   some header.packetNumber
  else none
 | .hello | .helloAck | .ping | .close => none

def RudpEngine.acceptedNumber (engine : RudpEngine) (datagram : Bytes) (now : Nat) : Option Nat :=
 match engine.checkHeader datagram now with
 | .error _ => none
 | .ok (engine, header, _) => engine.acceptedHeader header

inductive Side
 | left
 | right
 deriving DecidableEq

def Side.other : Side -> Side
 | .left => .right
 | .right => .left

@[simp] theorem Side.other_other (side : Side) : side.other.other = side := by cases side <;> rfl

theorem Side.eq_or_other (side acting : Side) : side = acting \/ side = acting.other := by
 cases side <;> cases acting <;> decide

instance (property : Side -> Prop) [DecidablePred property] : Decidable (∀ side, property side) :=
 decidable_of_iff (property .left /\ property .right)
  ⟨fun both side => match side with
    | .left => both.1
    | .right => both.2,
   fun all => ⟨all .left, all .right⟩⟩

structure Endpoint where
 engine : RudpEngine
 sent : List Bytes := []
 -- history: numbers its window accepted, numbers it sent reliably, how many it used
 accepted : List Nat := []
 reliable : List Nat := []
 issued : Nat := 0

namespace Endpoint

def pendingNumbers (endpoint : Endpoint) : List Nat :=
 endpoint.engine.retransmissionQueue.pending.map fun entry => entry.packet.packetNumber

def makeHello (endpoint : Endpoint) (connectionId now : Nat) : Endpoint :=
 let (engine, datagram) := endpoint.engine.makeHello connectionId now
 { endpoint with engine := engine, sent := endpoint.sent ++ [datagram] }

def makeClose (endpoint : Endpoint) (now : Nat) : Endpoint :=
 let (engine, datagram) := endpoint.engine.makeClose now
 { endpoint with engine := engine, sent := endpoint.sent ++ [datagram] }

def queueReliable (endpoint : Endpoint) (payload : Bytes) (channel now : Nat) : Endpoint :=
 match endpoint.engine.queueReliablePayload payload channel now with
 | (engine, none) => { endpoint with engine := engine }
 | (engine, some datagram) =>
  { endpoint with
    engine := engine
    sent := endpoint.sent ++ [datagram]
    reliable := endpoint.engine.state.nextPacketNumber :: endpoint.reliable
    issued := endpoint.issued + 1 }

def queueUnreliable (endpoint : Endpoint) (payload : Bytes) (channel now : Nat) : Endpoint :=
 match endpoint.engine.queueUnreliablePayload payload channel now with
 | (engine, none) => { endpoint with engine := engine }
 | (engine, some datagram) =>
  { endpoint with
    engine := engine
    sent := endpoint.sent ++ [datagram]
    issued := endpoint.issued + 1 }

def poll (endpoint : Endpoint) (now : Nat) : Endpoint :=
 let (engine, result) := endpoint.engine.poll now
 { endpoint with engine := engine, sent := endpoint.sent ++ result.egressDatagrams }

def processDatagram (endpoint : Endpoint) (datagram : Bytes) (now : Nat) : Endpoint :=
 let (engine, result) := endpoint.engine.processDatagram datagram now
 { endpoint with
   engine := engine
   sent := endpoint.sent ++ result.egressDatagrams
   accepted := (endpoint.engine.acceptedNumber datagram now).toList ++ endpoint.accepted }

end Endpoint

inductive Call
 | makeHello (connectionId now : Nat)
 | makeClose (now : Nat)
 | queueReliable (payload : Bytes) (channel now : Nat)
 | queueUnreliable (payload : Bytes) (channel now : Nat)
 | poll (now : Nat)
 -- process the datagram that the peer emitted as its `index`-th
 | deliver (index now : Nat)

structure Network where
 left : Endpoint
 right : Endpoint

namespace Network

section

variable (network : Network) (side : Side) (endpoint : Endpoint)

def get : Side -> Endpoint
 | .left => network.left
 | .right => network.right

def set : Network :=
 match side with
 | .left => { network with left := endpoint }
 | .right => { network with right := endpoint }

@[simp] theorem get_set_same : (network.set side endpoint).get side = endpoint := by
  cases side <;> rfl

@[simp] theorem get_set_other :
   (network.set side endpoint).get side.other = network.get side.other := by
  cases side <;> rfl

def create (leftConfig rightConfig : RudpConfig) : Network :=
 { left := { engine := { config := leftConfig } }
   right := { engine := { config := rightConfig } } }

def call (inbound : List Bytes) : Call -> Option Endpoint
 | .makeHello connectionId now => some (endpoint.makeHello connectionId now)
 | .makeClose now => some (endpoint.makeClose now)
 | .queueReliable payload channel now => some (endpoint.queueReliable payload channel now)
 | .queueUnreliable payload channel now => some (endpoint.queueUnreliable payload channel now)
 | .poll now => some (endpoint.poll now)
 | .deliver index now => inbound[index]?.map fun datagram => endpoint.processDatagram datagram now

end

def machine : Machine Network (Side × Call) where
 step network action :=
  (call (network.get action.1) (network.get action.1.other).sent action.2).map
    (network.set action.1)

end Network

end Dynaxis.Rudp
