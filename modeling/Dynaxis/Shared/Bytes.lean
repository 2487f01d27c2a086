import Dynaxis.Shared.Word

namespace Dynaxis.Shared

abbrev Bytes := List UInt8

namespace Bytes

variable (bytes : Bytes) (offset : Nat) (value : Nat)

def byteAt : Nat := (bytes.getD offset 0).toNat

def readBe16 : Nat :=
 byteAt bytes offset * 256 + byteAt bytes (offset + 1)

def readBe32 : Nat :=
 byteAt bytes offset * 16777216 + byteAt bytes (offset + 1) * 65536 +
  byteAt bytes (offset + 2) * 256 + byteAt bytes (offset + 3)

def writeBe16 : Bytes := [UInt8.ofNat (value / 256), UInt8.ofNat value]

def writeBe32 : Bytes :=
 [UInt8.ofNat (value / 16777216), UInt8.ofNat (value / 65536), UInt8.ofNat (value / 256), UInt8.ofNat value]

theorem byteAt_lt : byteAt bytes offset < 256 :=
 (bytes.getD offset 0).toNat_lt

@[simp] theorem byteAt_cons_zero (byte : UInt8) (rest : Bytes) : byteAt (byte :: rest) 0 = byte.toNat :=
  rfl

@[simp] theorem byteAt_cons_succ (byte : UInt8) (rest : Bytes) (offset : Nat) :
   byteAt (byte :: rest) (offset + 1) = byteAt rest offset := rfl

theorem byteAt_set_ne {position offset : Nat} (value : UInt8)
  (different : position ≠ offset) : byteAt (bytes.set position value) offset = byteAt bytes offset := by
 simp [byteAt, List.getElem?_set_ne different]

theorem readBe16_lt : readBe16 bytes offset < 65536 := by
 have high := byteAt_lt bytes offset
 have low := byteAt_lt bytes (offset + 1)
 unfold readBe16
 omega

theorem readBe32_lt : readBe32 bytes offset < 4294967296 := by
 have first := byteAt_lt bytes offset
 have second := byteAt_lt bytes (offset + 1)
 have third := byteAt_lt bytes (offset + 2)
 have fourth := byteAt_lt bytes (offset + 3)
 unfold readBe32
 omega

theorem toNat_ofNat (value : Nat) : (UInt8.ofNat value).toNat = value % 256 := UInt8.toNat_ofNat'

theorem be16_digits : value / 256 % 256 * 256 + value % 256 = value % 65536 := by omega

theorem be32_digits : value / 16777216 % 256 * 16777216 + value / 65536 % 256 * 65536 +
   value / 256 % 256 * 256 + value % 256 = value % 4294967296 := by
 omega

def bytesAt (count : Nat) : Bytes := (List.range' offset count).map fun position => UInt8.ofNat (byteAt bytes position)

theorem bytesAt_zero {count : Nat} (inside : count ≤ bytes.length) : bytesAt bytes 0 count = bytes.take count := by
 refine List.ext_getElem (by simp [bytesAt, inside]) fun position _ taken => ?_
 have short : position < bytes.length := by simp at taken; omega
 simp [bytesAt, byteAt, short]

theorem ofNat_congr {left right : Nat} (same : left % 256 = right % 256) : UInt8.ofNat left = UInt8.ofNat right := by
 rw [<- UInt8.toNat_inj, toNat_ofNat, toNat_ofNat, same]

theorem writeBe16_readBe16 : writeBe16 (readBe16 bytes offset) = bytesAt bytes offset 2 := by
 have low := byteAt_lt bytes (offset + 1)
 have first := ofNat_congr (show readBe16 bytes offset / 256 % 256 = byteAt bytes offset % 256 by
  unfold readBe16; omega)
 have second := ofNat_congr (show readBe16 bytes offset % 256 = byteAt bytes (offset + 1) % 256 by
  unfold readBe16; omega)
 rw [writeBe16, first, second]
 rfl

variable {value} in
theorem writeBe32_of_mod (read : value % 4294967296 = readBe32 bytes offset) :
  writeBe32 value = bytesAt bytes offset 4 := by
 have second := byteAt_lt bytes (offset + 1)
 have third := byteAt_lt bytes (offset + 2)
 have fourth := byteAt_lt bytes (offset + 3)
 simp only [readBe32] at read
 simp only [writeBe32, bytesAt, List.range', List.map_cons, List.map_nil, List.cons.injEq, Nat.add_assoc,
  Nat.reduceAdd, and_true]
 exact ⟨ofNat_congr (by omega), ofNat_congr (by omega), ofNat_congr (by omega), ofNat_congr (by omega)⟩

theorem writeBe32_readBe32 : writeBe32 (readBe32 bytes offset) = bytesAt bytes offset 4 :=
 writeBe32_of_mod bytes offset (Nat.mod_eq_of_lt (readBe32_lt bytes offset))

end Bytes

end Dynaxis.Shared
