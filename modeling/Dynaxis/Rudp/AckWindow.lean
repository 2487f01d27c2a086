import Mathlib.Data.Nat.Bitwise

namespace Dynaxis.Rudp

open List Nat

structure AckObservation where
 accepted : Bool := false
 duplicate : Bool := false
 reordered : Bool := false
 estimatedLostPackets : Nat := 0
 ackLargest : Nat := 0
 ackMask : Nat := 0

structure AckWindow where
 initialized : Bool := false
 largest : Nat := 0
 mask : Nat := 0

namespace AckWindow

section

variable (window : AckWindow) (packetNumber : Nat)

def observe : AckWindow × AckObservation :=
 if window.initialized = false then
  ({ initialized := true, largest := packetNumber, mask := 1 },
   { accepted := true, ackLargest := packetNumber, ackMask := 1 })
 else if window.largest < packetNumber then
  let delta := packetNumber - window.largest
  let mask := if 64 ≤ delta then 1 else (window.mask <<< delta) % 2 ^ 64 ||| 1
  ({ window with largest := packetNumber, mask := mask },
   { accepted := true
     estimatedLostPackets := if 1 < delta then delta - 1 else 0
     ackLargest := packetNumber
     ackMask := mask })
 else
  let distance := window.largest - packetNumber
  if 64 ≤ distance \/ window.mask.testBit distance then
   (window, { duplicate := true, ackLargest := window.largest, ackMask := window.mask })
  else
   let mask := window.mask ||| 1 <<< distance
   ({ window with mask := mask },
    { accepted := true, reordered := true, ackLargest := window.largest, ackMask := mask })

def accepts : Bool :=
 (window.observe packetNumber).2.accepted

theorem accepts_iff : window.accepts packetNumber = true ↔
   window.initialized = false \/ window.largest < packetNumber \/
    (window.largest - packetNumber < 64 /\ window.mask.testBit (window.largest - packetNumber) = false) := by
 unfold accepts observe
 by_cases fresh : window.initialized = false
 · simp [fresh]
 · by_cases above : window.largest < packetNumber
   · simp [fresh, above]
   · by_cases seen : 64 ≤ window.largest - packetNumber \/ window.mask.testBit (window.largest - packetNumber) = true
     · simp only [fresh, reduceCtorEq, above, seen, if_true, if_false, false_or]
       constructor
       · intro impossible
         cases impossible
       · rintro ⟨near, absent⟩
         rcases seen with far | present
         · omega
         · rw [absent] at present
           cases present
     · rw [not_or, Bool.not_eq_true] at seen
       have near : window.largest - packetNumber < 64 := by omega
       simp [fresh, above, near, seen.2, not_le.mpr near]

end

variable {window : AckWindow} {packetNumber : Nat} {seen : List Nat}

theorem observe_rejected (rejected : window.accepts packetNumber = false) :
  (window.observe packetNumber).1 = window := by
 unfold accepts at rejected
 unfold observe at rejected ⊢
 split
 next fresh => simp [fresh] at rejected
 next initialized =>
  split
  next above => simp [initialized, above] at rejected
  next below =>
   by_cases seen : 64 ≤ window.largest - packetNumber \/ window.mask.testBit (window.largest - packetNumber) = true
   · simp only [seen, if_true]
   · simp [initialized, below, seen] at rejected

theorem observe_acks (window : AckWindow) (packetNumber : Nat) :
  (window.observe packetNumber).2.ackLargest = (window.observe packetNumber).1.largest /\
  (window.observe packetNumber).2.ackMask = (window.observe packetNumber).1.mask /\
  (window.observe packetNumber).1.initialized = true := by
 unfold observe
 split
 next => exact ⟨rfl, rfl, rfl⟩
 next initialized =>
  rw [Bool.not_eq_false] at initialized
  split
  · exact ⟨rfl, rfl, initialized⟩
  · dsimp only
    split
    · exact ⟨rfl, rfl, initialized⟩
    · exact ⟨rfl, rfl, initialized⟩

structure Represents (window : AckWindow) (seen : List Nat) : Prop where
 blank : window.initialized = false -> window.largest = 0 /\ window.mask = 0 /\ seen = []
 largest : window.initialized = true -> window.largest ∈ seen
 bounded : ∀ packetNumber ∈ seen, packetNumber ≤ window.largest
 mask : window.initialized = true -> ∀ distance, window.mask.testBit distance = true ↔
  distance < 64 /\ distance ≤ window.largest /\ window.largest - distance ∈ seen

theorem represents_initial : ({} : AckWindow).Represents [] := by constructor <;> simp

theorem testBit_shifted (mask delta distance : Nat) : ((mask <<< delta) % 2 ^ 64 ||| 1).testBit distance = true ↔
    distance = 0 \/ (distance < 64 /\ delta ≤ distance /\ mask.testBit (distance - delta) = true) := by
 simp only [testBit_or, testBit_mod_two_pow, testBit_shiftLeft, Bool.or_eq_true,
  Bool.and_eq_true, decide_eq_true_eq, testBit_one_eq_true_iff_self_eq_zero]
 tauto

namespace Represents

theorem first (packetNumber : Nat) :
  Represents { initialized := true, largest := packetNumber, mask := 1 } [packetNumber] where
 blank := by simp
 largest := by simp
 bounded := by simp
 mask := by
  intro _ distance
  simp only [testBit_one_eq_true_iff_self_eq_zero, mem_singleton]
  omega

variable (correct : window.Represents seen) (initialized : window.initialized = true)
include correct initialized

theorem jump (far : window.largest + 64 ≤ packetNumber) :
  Represents { window with largest := packetNumber, mask := 1 } (packetNumber :: seen) where
 blank := by simp [initialized]
 largest := by simp
 bounded := forall_mem_cons.mpr
  ⟨le_refl _, fun number earlier => le_trans (correct.bounded number earlier) (Nat.le_of_add_right_le far)⟩
 mask := by
  intro _ distance
  simp only [testBit_one_eq_true_iff_self_eq_zero, mem_cons]
  constructor
  · omega
  · rintro ⟨near, inside, same | earlier⟩
    · omega
    · have below := correct.bounded _ earlier
      omega

theorem shift (above : window.largest < packetNumber) :
  Represents { window with
   largest := packetNumber
   mask := (window.mask <<< (packetNumber - window.largest)) % 2 ^ 64 ||| 1 } (packetNumber :: seen) where
 blank := by simp [initialized]
 largest := by simp
 bounded := forall_mem_cons.mpr ⟨le_refl _, fun number earlier => le_trans (correct.bounded number earlier) above.le⟩
 mask := by
  intro _ distance
  simp only [testBit_shifted, correct.mask initialized, mem_cons]
  constructor
  · rintro (rfl | ⟨near, beyond, _, inside, earlier⟩)
    · omega
    · have same : packetNumber - distance =
       window.largest - (distance - (packetNumber - window.largest)) := by omega
      exact ⟨near, by omega, .inr (by rwa [same])⟩
  · rintro ⟨near, inside, same | earlier⟩
    · omega
    · -- numbers between the old and the new largest have not been seen
      have below := correct.bounded _ earlier
      have same : window.largest - (distance - (packetNumber - window.largest)) =
       packetNumber - distance := by omega
      exact .inr ⟨near, by omega, by omega, by omega, by rwa [same]⟩

theorem late (below : packetNumber ≤ window.largest) (near : window.largest - packetNumber < 64) :
  Represents { window with mask := window.mask ||| 1 <<< (window.largest - packetNumber) }
   (packetNumber :: seen) where
 blank := by simp [initialized]
 largest := fun _ => mem_cons_of_mem _ (correct.largest initialized)
 bounded := forall_mem_cons.mpr ⟨below, correct.bounded⟩
 mask := by
  intro _ distance
  simp only [testBit_or, Bool.or_eq_true, correct.mask initialized, one_shiftLeft, testBit_two_pow,
   decide_eq_true_eq, mem_cons]
  constructor
  · rintro (⟨near, inside, earlier⟩ | rfl)
    · exact ⟨near, inside, .inr earlier⟩
    · exact ⟨near, by omega, .inl (by omega)⟩
  · rintro ⟨near, inside, same | earlier⟩
    · exact .inr (by omega)
    · exact .inl ⟨near, inside, earlier⟩

theorem repeated (below : packetNumber ≤ window.largest)
  (known : 64 ≤ window.largest - packetNumber \/ window.mask.testBit (window.largest - packetNumber) = true) :
  window.Represents (packetNumber :: seen) where
 blank := by simp [initialized]
 largest := fun _ => mem_cons_of_mem _ (correct.largest initialized)
 bounded := forall_mem_cons.mpr ⟨below, correct.bounded⟩
 mask := by
  intro _ distance
  rw [correct.mask initialized distance, mem_cons]
  constructor
  · exact fun ⟨near, inside, earlier⟩ => ⟨near, inside, .inr earlier⟩
  · rintro ⟨near, inside, same | earlier⟩
    · obtain far | bit := known
      · omega
      · rw [correct.mask initialized, Nat.sub_sub_self below, <- same] at bit
        exact ⟨near, inside, bit.2.2⟩
    · exact ⟨near, inside, earlier⟩

end Represents

theorem observe_represents (correct : window.Represents seen) (packetNumber : Nat) :
  (window.observe packetNumber).1.Represents (packetNumber :: seen) := by
 unfold observe
 split
 next fresh =>
  obtain ⟨_, _, rfl⟩ := correct.blank fresh
  exact .first packetNumber
 next initialized =>
  rw [Bool.not_eq_false] at initialized
  split
  next above =>
   dsimp only
   split
   next far => exact correct.jump initialized (by omega)
   next => exact correct.shift initialized above
  next below =>
   rw [not_lt] at below
   dsimp only
   split
   next known => exact correct.repeated initialized below known
   next unseen => exact correct.late initialized below (by omega)

theorem Represents.not_mem_of_accepts (correct : window.Represents seen)
  (accepted : window.accepts packetNumber = true) : packetNumber ∉ seen := by
 intro member
 have below := correct.bounded packetNumber member
 rcases (window.accepts_iff packetNumber).mp accepted with fresh | above | ⟨near, absent⟩
 · rw [(correct.blank fresh).2.2] at member
   cases member
 · omega
 · cases initialized : window.initialized with
   | false =>
    rw [(correct.blank initialized).2.2] at member
    cases member
   | true =>
    have present := (correct.mask initialized (window.largest - packetNumber)).mpr
     ⟨near, by omega, by rwa [Nat.sub_sub_self below]⟩
    rw [absent] at present
    cases present

end AckWindow

end Dynaxis.Rudp
