import Dynaxis.Shared.Bytes

/-! A datagram is a 34-byte big-endian header followed by the payload. The type byte is cast to the
enumeration without a check, so a decoded header may carry a value outside of it. -/

namespace Dynaxis.Rudp

open Shared Shared.Bytes List

def rudpMagic : Nat := 0x5255
def rudpHeaderBytes : Nat := 34

inductive PacketType
 | hello
 | helloAck
 | data
 | ping
 | close
 | undefined (code : Nat)
 deriving DecidableEq

def PacketType.code : PacketType -> Nat
 | .hello => 1
 | .helloAck => 2
 | .data => 3
 | .ping => 4
 | .close => 5
 | .undefined code => code

def PacketType.ofCode : Nat -> PacketType
 | 1 => .hello
 | 2 => .helloAck
 | 3 => .data
 | 4 => .ping
 | 5 => .close
 | code => .undefined code

def flagAckOnly : Nat := 1
def flagRetransmit : Nat := 2

structure RudpHeader where
 magic : Nat := rudpMagic
 version : Nat := 1
 type : PacketType := .data
 connectionId : Nat := 0
 packetNumber : Nat := 0
 ackLargest : Nat := 0
 ackMask : Nat := 0
 ackDelayMs : Nat := 0
 channel : Nat := 0
 flags : Nat := 0
 timestampMs : Nat := 0
 payloadLength : Nat := 0

def encodeHeader (header : RudpHeader) : Bytes :=
 writeBe16 header.magic
  ++ [UInt8.ofNat header.version, UInt8.ofNat header.type.code]
  ++ writeBe32 header.connectionId
  ++ writeBe32 header.packetNumber
  ++ writeBe32 header.ackLargest
  ++ writeBe32 (header.ackMask / 4294967296)
  ++ writeBe32 header.ackMask
  ++ writeBe16 header.ackDelayMs
  ++ [UInt8.ofNat header.channel, UInt8.ofNat header.flags]
  ++ writeBe32 header.timestampMs
  ++ writeBe16 header.payloadLength

def decodeHeader (datagram : Bytes) : RudpHeader :=
 { magic := readBe16 datagram 0
   version := byteAt datagram 2
   type := PacketType.ofCode (byteAt datagram 3)
   connectionId := readBe32 datagram 4
   packetNumber := readBe32 datagram 8
   ackLargest := readBe32 datagram 12
   ackMask := readBe32 datagram 16 * 4294967296 + readBe32 datagram 20
   ackDelayMs := readBe16 datagram 24
   channel := byteAt datagram 26
   flags := byteAt datagram 27
   timestampMs := readBe32 datagram 28
   payloadLength := readBe16 datagram 32 }

def decodePacket (datagram : Bytes) : Option (RudpHeader × Bytes) :=
 if datagram.length < rudpHeaderBytes then none
 else
  let header := decodeHeader datagram
  if datagram.length ≠ rudpHeaderBytes + header.payloadLength then none
  else some (header, (datagram.drop rudpHeaderBytes).take header.payloadLength)

section

variable (header : RudpHeader) (payload : Bytes)

def encodePacket : Bytes :=
 encodeHeader { header with payloadLength := payload.length % 65536 } ++ payload

def looksLikeRudp (datagram : Bytes) : Bool :=
 2 ≤ datagram.length && readBe16 datagram 0 = rudpMagic

structure RudpHeader.Fits : Prop where
 magic : header.magic < 65536
 version : header.version < 256
 type : header.type.code < 256 /\ PacketType.ofCode header.type.code = header.type
 connectionId : header.connectionId < 4294967296
 packetNumber : header.packetNumber < 4294967296
 ackLargest : header.ackLargest < 4294967296
 ackMask : header.ackMask < 18446744073709551616
 ackDelayMs : header.ackDelayMs < 65536
 channel : header.channel < 256
 flags : header.flags < 256
 timestampMs : header.timestampMs < 4294967296

@[simp] theorem length_encodeHeader : (encodeHeader header).length = rudpHeaderBytes := rfl

@[simp] theorem length_encodePacket :
   (encodePacket header payload).length = rudpHeaderBytes + payload.length := by
  rw [encodePacket, length_append, length_encodeHeader]

end

variable {header : RudpHeader} {payload : Bytes}

theorem decodeHeader_encodePacket (fits : header.Fits) (payload : Bytes) :
  decodeHeader (encodePacket header payload) = { header with payloadLength := payload.length % 65536 } := by
 obtain ⟨magic, version, ⟨code, type⟩, connectionId, packetNumber, ackLargest, ackMask, ackDelayMs,
  channel, flags, timestampMs⟩ := fits
 simp only [decodeHeader, encodePacket, encodeHeader, writeBe16, writeBe32, readBe16, readBe32,
  cons_append, nil_append, byteAt_cons_succ, byteAt_cons_zero, toNat_ofNat,
  be16_digits, be32_digits, RudpHeader.mk.injEq]
 refine ⟨by omega, by omega, ?_, by omega, by omega, by omega, by omega, by omega, by omega,
  by omega, by omega, by omega⟩
 rw [Nat.mod_eq_of_lt code, type]

theorem decodePacket_encodePacket (fits : header.Fits) (bound : payload.length < 65536) :
  decodePacket (encodePacket header payload) = some ({ header with payloadLength := payload.length }, payload) := by
 have decoded := decodeHeader_encodePacket fits payload
 rw [Nat.mod_eq_of_lt bound] at decoded
 have body : (encodePacket header payload).drop rudpHeaderBytes = payload := by
  rw [encodePacket]
  exact drop_left' (length_encodeHeader _)
 simp [decodePacket, decoded, body]

theorem decodePacket_header {datagram : Bytes} (decoded : decodePacket datagram = some (header, payload)) :
  header = decodeHeader datagram := by
 simp only [decodePacket] at decoded
 split at decoded
 · cases decoded
 · split at decoded
   · cases decoded
   · exact (congrArg Prod.fst (Option.some.inj decoded)).symm

theorem code_ofCode (code : Nat) : (PacketType.ofCode code).code = code := by
 unfold PacketType.ofCode
 split <;> rfl

theorem encodeHeader_decodeHeader {datagram : Bytes} (long : rudpHeaderBytes ≤ datagram.length) :
  encodeHeader (decodeHeader datagram) = datagram.take rudpHeaderBytes := by
 have low := readBe32_lt datagram 20
 have high : (decodeHeader datagram).ackMask / 4294967296 = readBe32 datagram 16 := by
  simp only [decodeHeader]
  omega
 have mask : writeBe32 (decodeHeader datagram).ackMask = bytesAt datagram 20 4 := by
  refine writeBe32_of_mod datagram 20 ?_
  simp only [decodeHeader]
  omega
 rw [<- bytesAt_zero datagram long, encodeHeader, high, mask]
 simp only [decodeHeader, writeBe16_readBe16, writeBe32_readBe32, code_ofCode]
 rfl

theorem packet_codec_is_inverse :
  (∀ header payload, header.Fits -> payload.length ≤ 65535 ->
    decodePacket (encodePacket header payload) = some ({ header with payloadLength := payload.length }, payload)) /\
  ∀ datagram header payload, decodePacket datagram = some (header, payload) ->
   encodePacket header payload = datagram := by
 refine ⟨fun header payload fits short => decodePacket_encodePacket fits (by omega), ?_⟩
 intro datagram header payload decoded
 simp only [decodePacket, Option.ite_none_left_eq_some, Option.some.injEq, Prod.mk.injEq] at decoded
 obtain ⟨long, exactly, rfl, rfl⟩ := decoded
 have sized : (decodeHeader datagram).payloadLength = (datagram.drop rudpHeaderBytes).length := by
  rw [List.length_drop]
  omega
 have fits : (decodeHeader datagram).payloadLength % 65536 = (decodeHeader datagram).payloadLength :=
  Nat.mod_eq_of_lt (readBe16_lt datagram 32)
 rw [sized, List.take_length, encodePacket, <- sized, fits, encodeHeader_decodeHeader (by omega),
  List.take_append_drop]

theorem data_packet_is_decoded :
  let header : RudpHeader := { type := .data, connectionId := 7, packetNumber := 4294967295, ackMask := 4294967298 }
  decodePacket (encodePacket header [1, 2, 3]) = some ({ header with payloadLength := 3 }, [1, 2, 3]) :=
 packet_codec_is_inverse.1 _ _ (by constructor <;> decide) (by decide)

end Dynaxis.Rudp
