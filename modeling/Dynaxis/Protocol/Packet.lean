import Dynaxis.Shared.Text

namespace Dynaxis.Protocol

open Shared Shared.Bytes List

def kHeaderBytes : Nat := 14

def msgLoginRes : Nat := 0x0011

structure PacketHeader where
 length : Nat := 0
 msgId : Nat := 0
 flags : Nat := 0
 seq : Nat := 0
 utcTsMs32 : Nat := 0

def encodeHeader (header : PacketHeader) : Bytes :=
 writeBe16 header.length ++ writeBe16 header.msgId ++ writeBe16 header.flags ++ writeBe32 header.seq
  ++ writeBe32 header.utcTsMs32

section

variable (bytes : Bytes)

def decodeHeader : PacketHeader :=
 { length := readBe16 bytes 0
   msgId := readBe16 bytes 2
   flags := readBe16 bytes 4
   seq := readBe32 bytes 6
   utcTsMs32 := readBe32 bytes 10 }

def frameBytes (header : PacketHeader) : Nat := kHeaderBytes + header.length

def bodyOf (frame : Bytes) : Bytes := frame.drop kHeaderBytes

abbrev IsFrame : Prop :=
 kHeaderBytes ≤ bytes.length /\ bytes.length = frameBytes (decodeHeader bytes)

def splitFrame (buffer : Bytes) : Option (Bytes × Bytes) :=
 if buffer.length < kHeaderBytes then none
 else
  let size := frameBytes (decodeHeader buffer)
  if buffer.length < size then none else some (buffer.take size, buffer.drop size)

def textOf : Text := bytes.map fun byte => Char.ofNat byte.toNat

def utf8Lead (byte : UInt8) : Option (Nat × Nat × Nat) :=
 if byte &&& 0xE0 = 0xC0 then some (1, (byte &&& 0x1F).toNat, 0x80)
 else if byte &&& 0xF0 = 0xE0 then some (2, (byte &&& 0x0F).toNat, 0x800)
 else if byte &&& 0xF8 = 0xF0 then some (3, (byte &&& 0x07).toNat, 0x10000)
 else none

def isValidUtf8With : Nat -> Bytes -> Bool
 | _, [] => true
 | 0, _ :: _ => false
 | fuel + 1, byte :: rest =>
  if byte < 0x80 then isValidUtf8With fuel rest
  else
   match utf8Lead byte with
   | none => false
   | some (follow, bits, minCodepoint) =>
    let tail := rest.take follow
    let codepoint := tail.foldl (fun code cont => code * 64 + (cont &&& 0x3F).toNat) bits
    if rest.length < follow \/ tail.any (fun cont => cont &&& 0xC0 ≠ 0x80) \/ codepoint < minCodepoint \/
     0x10FFFF < codepoint \/ (0xD800 ≤ codepoint /\ codepoint ≤ 0xDFFF) then false
    else isValidUtf8With fuel (rest.drop follow)

def isValidUtf8 (bytes : Bytes) : Bool := isValidUtf8With bytes.length bytes

def readLpUtf8 : Option (Text × Bytes) :=
 if bytes.length < 2 then none
 else
  let length := readBe16 bytes 0
  let payload := (bytes.drop 2).take length
  if bytes.length < 2 + length \/ !isValidUtf8 payload then none
  else some (textOf payload, bytes.drop (2 + length))

end

variable {bytes frame buffer rest : Bytes}

theorem byteAt_append {offset : Nat} (inside : offset < bytes.length) (more : Bytes) :
  byteAt (bytes ++ more) offset = byteAt bytes offset := by
 simp [byteAt, getElem?_append_left inside]

theorem decodeHeader_append (whole : kHeaderBytes ≤ bytes.length) (more : Bytes) :
  decodeHeader (bytes ++ more) = decodeHeader bytes := by
 rw [kHeaderBytes] at whole
 simp (disch := omega) only [decodeHeader, readBe16, readBe32, byteAt_append]

theorem splitFrame_eq_some : splitFrame buffer = some (frame, rest) ↔ IsFrame frame /\ buffer = frame ++ rest := by
 constructor
 · intro split
   simp only [splitFrame] at split
   split at split
   · cases split
   next whole =>
   split at split
   · cases split
   next complete =>
   cases split
   refine ⟨?_, (take_append_drop _ _).symm⟩
   have bound : kHeaderBytes ≤ frameBytes (decodeHeader buffer) := Nat.le_add_right _ _
   have size : (buffer.take (frameBytes (decodeHeader buffer))).length = frameBytes (decodeHeader buffer) := by
    rw [length_take]
    omega
   have header := decodeHeader_append (size.symm ▸ bound) (buffer.drop (frameBytes (decodeHeader buffer)))
   rw [take_append_drop] at header
   exact ⟨size.symm ▸ bound, by rw [<- header, size]⟩
 · rintro ⟨isFrame, rfl⟩
   have header := decodeHeader_append isFrame.1 rest
   have size := isFrame.2
   have long := isFrame.1
   simp only [splitFrame, header, length_append]
   rw [if_neg (by omega), if_neg (by omega), <- size, take_left, drop_left]

theorem splitFrame_shrinks (split : splitFrame buffer = some (frame, rest)) : rest.length < buffer.length := by
 obtain ⟨isFrame, rfl⟩ := splitFrame_eq_some.mp split
 have long := isFrame.1
 rw [kHeaderBytes] at long
 rw [length_append]
 omega

theorem splitFrame_stable (split : splitFrame buffer = some (frame, rest))
  (more : Bytes) : splitFrame (buffer ++ more) = some (frame, rest ++ more) := by
 obtain ⟨isFrame, rfl⟩ := splitFrame_eq_some.mp split
 exact splitFrame_eq_some.mpr ⟨isFrame, append_assoc _ _ _⟩

theorem splitFrame_append (isFrame : IsFrame frame) (rest : Bytes) :
  splitFrame (frame ++ rest) = some (frame, rest) :=
 splitFrame_eq_some.mpr ⟨isFrame, rfl⟩

end Dynaxis.Protocol
