import Dynaxis.Protocol.Packet

/-! The validator against an encoder of scalar values. -/

namespace Dynaxis.Protocol

open Shared Shared.Bytes List Nat

def IsScalar (code : Nat) : Prop := code ≤ 0x10FFFF /\ ¬(0xD800 ≤ code /\ code ≤ 0xDFFF)

def utf8Encode (code : Nat) : Bytes :=
 if code < 0x80 then [.ofNat code]
 else if code < 0x800 then [.ofNat (0xC0 + code / 64), .ofNat (0x80 + code % 64)]
 else if code < 0x10000 then
  [.ofNat (0xE0 + code / 64 / 64), .ofNat (0x80 + code / 64 % 64), .ofNat (0x80 + code % 64)]
 else
  [.ofNat (0xF0 + code / 64 / 64 / 64), .ofNat (0x80 + code / 64 / 64 % 64), .ofNat (0x80 + code / 64 % 64),
    .ofNat (0x80 + code % 64)]

def leadOf (code : Nat) : Option (Nat × Nat × Nat) :=
 if code < 0xC0 then none
 else if code < 0xE0 then some (1, code - 0xC0, 0x80)
 else if code < 0xF0 then some (2, code - 0xE0, 0x800)
 else if code < 0xF8 then some (3, code - 0xF0, 0x10000)
 else none

theorem masked_ofNat : ∀ code < 256, utf8Lead (.ofNat code) = leadOf code /\
  (UInt8.ofNat code &&& 0xC0 = 0x80 ↔ 0x80 ≤ code /\ code < 0xC0) /\
  (UInt8.ofNat code &&& 0x3F).toNat = code % 64 := by
 decide +kernel

theorem ascii_iff {code : Nat} (byte : code < 256) : UInt8.ofNat code < 0x80 ↔ code < 0x80 := by
 rw [UInt8.lt_iff_toNat_lt, toNat_ofNat, mod_eq_of_lt byte]
 rfl

def continuation (bits : Nat) : UInt8 := .ofNat (0x80 + bits)

theorem continuation_mask {bits : Nat} (less : bits < 64) :
  continuation bits &&& 0xC0 = 0x80 /\ (continuation bits &&& 0x3F).toNat = bits := by
 obtain ⟨-, marked, value⟩ := masked_ofNat (0x80 + bits) (by omega)
 exact ⟨marked.mpr (by omega), value.trans (by omega)⟩

theorem exists_continuation {cont : UInt8} (masked : cont &&& 0xC0 = 0x80) : ∃ bits < 64,
  cont = continuation bits := by
 obtain ⟨-, marked, -⟩ := masked_ofNat cont.toNat cont.toNat_lt
 rw [UInt8.ofNat_toNat] at marked
 have range := marked.mp masked
 refine ⟨cont.toNat - 0x80, by omega, ?_⟩
 rw [continuation, Nat.add_sub_cancel' range.1, UInt8.ofNat_toNat]

theorem exists_digits {tail : Bytes} (masked : ∀ cont ∈ tail, cont &&& 0xC0 = 0x80) :
  ∃ digits : List Nat, (∀ bits ∈ digits, bits < 64) /\ tail = digits.map continuation := by
 induction tail with
 | nil => exact ⟨[], by simp, rfl⟩
 | cons cont rest ih =>
  obtain ⟨digits, small, rfl⟩ := ih fun other member => masked other (mem_cons_of_mem _ member)
  obtain ⟨bits, less, rfl⟩ := exists_continuation (masked cont mem_cons_self)
  exact ⟨bits :: digits, by simpa using ⟨less, small⟩, rfl⟩

def codeOf (lead : Nat) (digits : List Nat) : Nat := digits.foldl (fun code bits => code * 64 + bits) lead

theorem foldl_continuation {digits : List Nat} (small : ∀ bits ∈ digits, bits < 64) (lead : Nat) :
  (digits.map continuation).foldl (fun code cont => code * 64 + (cont &&& 0x3F).toNat) lead = codeOf lead digits := by
 induction digits generalizing lead with
 | nil => rfl
 | cons bits rest ih =>
  rw [map_cons, foldl_cons, codeOf, foldl_cons, (continuation_mask (small bits mem_cons_self)).2]
  exact ih (fun other member => small other (mem_cons_of_mem _ member)) _

theorem isValidUtf8With_lead {fuel code follow lead minimum : Nat}
  (known : leadOf code = some (follow, lead, minimum)) (less : code < 256) (large : ¬ code < 0x80) (rest : Bytes) :
  isValidUtf8With (fuel + 1) (.ofNat code :: rest) = true ↔ ∃ (digits : List Nat) (more : Bytes),
   digits.length = follow /\ (∀ bits ∈ digits, bits < 64) /\ rest = digits.map continuation ++ more /\
   minimum ≤ codeOf lead digits /\ IsScalar (codeOf lead digits) /\ isValidUtf8With fuel more = true := by
 simp only [isValidUtf8With, ascii_iff less, large, (masked_ofNat code less).1, known, if_false, Bool.if_false_left,
  Bool.and_eq_true, Bool.not_eq_true', decide_eq_false_iff_not, not_or, IsScalar, not_lt,
  any_eq_true, not_exists, not_and, decide_eq_true_eq, ne_eq, Decidable.not_not]
 constructor
 · rintro ⟨⟨long, masked, least, most, gap⟩, valid⟩
   obtain ⟨digits, small, tail⟩ := exists_digits masked
   rw [tail, foldl_continuation small] at least most gap
   refine ⟨digits, rest.drop follow, ?_, small, by rw [<- tail, take_append_drop], least, ⟨most, gap⟩, valid⟩
   simpa [long] using (congrArg length tail).symm
 · rintro ⟨digits, more, rfl, small, rfl, least, ⟨most, gap⟩, valid⟩
   have tail : (digits.map continuation ++ more).take digits.length = digits.map continuation :=
    take_left' (length_map _)
   rw [tail, foldl_continuation small]
   refine ⟨⟨by simp, ?_, least, most, gap⟩, ?_⟩
   · simpa using fun bits member => (continuation_mask (small bits member)).1
   · simpa [drop_left'] using valid

theorem digit_div {bits : Nat} (less : bits < 64) (high : Nat) : (high * 64 + bits) / 64 = high := by omega

theorem digit_mod {bits : Nat} (less : bits < 64) (high : Nat) : (high * 64 + bits) % 64 = bits := by omega

theorem utf8Encode_digits {code follow lead minimum : Nat} (known : leadOf code = some (follow, lead, minimum))
  {digits : List Nat} (length : digits.length = follow) (small : ∀ bits ∈ digits, bits < 64)
  (least : minimum ≤ codeOf lead digits) :
  utf8Encode (codeOf lead digits) = .ofNat code :: digits.map continuation := by
 -- One case for each number of continuation bytes; the least code of the lead decides which form the encoder takes.
 unfold leadOf at known
 split at known
 · cases known
 split at known
 · simp only [Option.some.injEq, Prod.mk.injEq] at known
   obtain ⟨rfl, rfl, rfl⟩ := known
   obtain ⟨a, rfl⟩ := length_eq_one_iff.mp length
   simp only [codeOf, foldl_cons, foldl_nil, forall_mem_cons] at least small ⊢
   simp (disch := omega) only [utf8Encode, if_neg, if_pos, digit_div, digit_mod, Nat.add_sub_cancel']
   rfl
 split at known
 · simp only [Option.some.injEq, Prod.mk.injEq] at known
   obtain ⟨rfl, rfl, rfl⟩ := known
   obtain ⟨a, b, rfl⟩ := length_eq_two.mp length
   simp only [codeOf, foldl_cons, foldl_nil, forall_mem_cons] at least small ⊢
   simp (disch := omega) only [utf8Encode, if_neg, if_pos, digit_div, digit_mod, Nat.add_sub_cancel']
   rfl
 split at known
 · simp only [Option.some.injEq, Prod.mk.injEq] at known
   obtain ⟨rfl, rfl, rfl⟩ := known
   obtain ⟨a, b, c, rfl⟩ := length_eq_three.mp length
   simp only [codeOf, foldl_cons, foldl_nil, forall_mem_cons] at least small ⊢
   simp (disch := omega) only [utf8Encode, if_neg, digit_div, digit_mod, Nat.add_sub_cancel']
   rfl
 · cases known

theorem exists_encoded {fuel : Nat} {byte : UInt8} {rest : Bytes}
  (valid : isValidUtf8With (fuel + 1) (byte :: rest) = true) :
  ∃ code more, IsScalar code /\ byte :: rest = utf8Encode code ++ more /\ isValidUtf8With fuel more = true := by
 obtain ⟨code, less, rfl⟩ : ∃ code < 256, byte = UInt8.ofNat code := ⟨byte.toNat, byte.toNat_lt, by simp⟩
 by_cases ascii : code < 0x80
 · simp only [isValidUtf8With, ascii_iff less, ascii, if_true] at valid
   refine ⟨code, rest, ⟨by omega, by omega⟩, ?_, valid⟩
   rw [utf8Encode, if_pos ascii]
   rfl
 cases known : leadOf code with
 | none => simp [isValidUtf8With, ascii_iff less, ascii, (masked_ofNat code less).1, known] at valid
 | some triple =>
  obtain ⟨digits, more, length, small, rfl, least, scalar, followed⟩ :=
   (isValidUtf8With_lead known less ascii rest).mp valid
  exact ⟨_, more, scalar, by rw [utf8Encode_digits known length small least]; rfl, followed⟩

theorem exists_lead {code : Nat} (large : ¬ code < 0x80) (range : code ≤ 0x10FFFF) :
  ∃ (byte follow lead minimum : Nat) (digits : List Nat), leadOf byte = some (follow, lead, minimum) /\ byte < 256 /\
   ¬ byte < 0x80 /\ digits.length = follow /\ (∀ bits ∈ digits, bits < 64) /\ minimum ≤ code /\
   codeOf lead digits = code := by
 by_cases two : code < 0x800
 · refine ⟨0xC0 + code / 64, 1, code / 64, 0x80, [code % 64], ?_, by omega, by omega, rfl, by simp [mod_lt], by omega, ?_⟩
   · simp (disch := omega) only [leadOf, if_neg, if_pos, Nat.add_sub_cancel_left]
   · simp only [codeOf, foldl_cons, foldl_nil]
     omega
 by_cases three : code < 0x10000
 · refine ⟨0xE0 + code / 64 / 64, 2, code / 64 / 64, 0x800, [code / 64 % 64, code % 64], ?_, by omega, by omega, rfl,
    by simp [mod_lt], by omega, ?_⟩
   · simp (disch := omega) only [leadOf, if_neg, if_pos, Nat.add_sub_cancel_left]
   · simp only [codeOf, foldl_cons, foldl_nil]
     omega
 · refine ⟨0xF0 + code / 64 / 64 / 64, 3, code / 64 / 64 / 64, 0x10000, [code / 64 / 64 % 64, code / 64 % 64, code % 64],
    ?_, by omega, by omega, rfl, by simp [mod_lt], by omega, ?_⟩
   · simp (disch := omega) only [leadOf, if_neg, if_pos, Nat.add_sub_cancel_left]
   · simp only [codeOf, foldl_cons, foldl_nil]
     omega

theorem isValidUtf8With_encoded {fuel code : Nat} (scalar : IsScalar code) {more : Bytes}
  (valid : isValidUtf8With fuel more = true) : isValidUtf8With (fuel + 1) (utf8Encode code ++ more) = true := by
 by_cases ascii : code < 0x80
 · have small := (ascii_iff (by omega)).mpr ascii
   rw [utf8Encode, if_pos ascii]
   simpa [isValidUtf8With, small] using valid
 · obtain ⟨byte, follow, lead, minimum, digits, known, less, large, length, small, least, rfl⟩ :=
    exists_lead ascii scalar.1
   rw [utf8Encode_digits known length small least]
   exact (isValidUtf8With_lead known less large _).mpr ⟨digits, more, length, small, rfl, least, scalar, valid⟩

theorem exists_codes {fuel : Nat} {bytes : Bytes} (valid : isValidUtf8With fuel bytes = true) :
  ∃ codes : List Nat, (∀ code ∈ codes, IsScalar code) /\ bytes = codes.flatMap utf8Encode := by
 induction fuel generalizing bytes with
 | zero =>
  cases bytes with
  | nil => exact ⟨[], by simp, rfl⟩
  | cons byte rest => cases valid
 | succ fuel ih =>
  cases bytes with
  | nil => exact ⟨[], by simp, rfl⟩
  | cons byte rest =>
   obtain ⟨code, more, scalar, same, followed⟩ := exists_encoded valid
   obtain ⟨codes, scalars, rfl⟩ := ih followed
   exact ⟨code :: codes, by simpa using ⟨scalar, scalars⟩, same⟩

theorem isValidUtf8With_codes {codes : List Nat} (scalars : ∀ code ∈ codes, IsScalar code) {fuel : Nat}
  (enough : (codes.flatMap utf8Encode).length ≤ fuel) : isValidUtf8With fuel (codes.flatMap utf8Encode) = true := by
 induction codes generalizing fuel with
 | nil => simp [isValidUtf8With]
 | cons code rest ih =>
  -- The fuel is a number of bytes, and a step of the validator takes at least one.
  have nonempty : 0 < (utf8Encode code).length := by
   unfold utf8Encode
   repeat' split
   all_goals simp
  rw [flatMap_cons, length_append] at enough
  obtain ⟨fuel, rfl⟩ := exists_eq_succ_of_ne_zero (show fuel ≠ 0 by omega)
  exact isValidUtf8With_encoded (scalars code mem_cons_self)
   (ih (fun other member => scalars other (mem_cons_of_mem _ member)) (by omega))

/-- The validator accepts the encodings of sequences of scalar values and nothing else. -/
theorem valid_iff_encoded (bytes : Bytes) :
  isValidUtf8 bytes = true ↔
   ∃ codes : List Nat, (∀ code ∈ codes, IsScalar code) /\ bytes = codes.flatMap utf8Encode := by
 constructor
 · exact exists_codes
 · rintro ⟨codes, scalars, rfl⟩
   exact isValidUtf8With_codes scalars (Nat.le_refl _)

end Dynaxis.Protocol
