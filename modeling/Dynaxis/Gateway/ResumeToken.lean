import Dynaxis.Shared.Bytes
import Mathlib.Data.Nat.Bitwise

namespace Dynaxis.Gateway

open Shared Shared.Bytes List Nat Option

/-- What a reader returns, the offset it leaves behind, and the start and the length of every
access it has made to the input. -/
structure Reading (α : Type) where
 value : α
 offset : Nat
 accesses : List (Nat × Nat) := []
 deriving DecidableEq

abbrev Reading.after {α : Type} (accesses : List (Nat × Nat)) (reading : Reading α) : Reading α :=
 { reading with accesses := accesses ++ reading.accesses }

def readVarintLoop (input : Bytes) : Nat -> Nat -> Nat -> Nat -> Reading (Option Nat)
 | 0, _, _, offset => { value := none, offset }
 | rounds + 1, shift, value, offset =>
  if offset < input.length then
   let byte := byteAt input offset
   let access := [(offset, 1)]
   let offset := u64 (offset + 1)
   let value := value ||| u64 ((byte &&& 0x7F) <<< shift)
   if byte &&& 0x80 = 0 then { value := some value, offset, accesses := access }
   else if 63 < shift + 7 then { value := none, offset, accesses := access }
   else (readVarintLoop input rounds (shift + 7) value offset).after access
  else { value := none, offset }

def readVarint (input : Bytes) (offset : Nat) : Reading (Option Nat) :=
 -- the shift passes 63 in the tenth round at the latest
 readVarintLoop input 10 0 0 offset

def skipWireValue (input : Bytes) (offset wireType : Nat) : Reading Bool :=
 match wireType with
 | 0 =>
  let ignored := readVarint input offset
  { ignored with value := ignored.value.isSome }
 | 2 =>
  let length := readVarint input offset
  match length.value with
  | none => { length with value := false }
  | some len =>
   if input.length < u64 (length.offset + len) then { length with value := false }
   else { length with value := true, offset := u64 (length.offset + len) }
 | _ => { value := false, offset }

-- The constructor of `std::string` throws on a length that no string can have.
inductive Outcome
 | returned (token : Option Bytes)
 | lengthError
 deriving DecidableEq

inductive Scan
 | running
 | finished (outcome : Outcome)
 deriving DecidableEq

def scanField (payload : Bytes) (offset : Nat) : Reading Scan :=
 let tag := readVarint payload offset
 match tag.value with
 | none => { tag with value := .finished (.returned none) }
 | some number =>
  let fieldNumber := number >>> 3
  let wireType := number &&& 0x07
  -- the token is a field of bytes with the number 6
  if fieldNumber = 6 /\ wireType = 2 then
   let length := (readVarint payload tag.offset).after tag.accesses
   match length.value with
   | none => { length with value := .finished (.returned none) }
   | some len =>
    if payload.length < u64 (length.offset + len) then { length with value := .finished (.returned none) }
    else if 2 ^ 63 ≤ len then { length with value := .finished .lengthError }
    else
     { value := .finished (.returned (some ((payload.drop length.offset).take len)))
       offset := length.offset
       accesses := length.accesses ++ [(length.offset, len)] }
  else
   let skipped := (skipWireValue payload tag.offset wireType).after tag.accesses
   { skipped with value := if skipped.value then .running else .finished (.returned none) }

def scanFields (payload : Bytes) : Nat -> Nat -> Option (Reading Outcome)
 | 0, _ => none
 | rounds + 1, offset =>
  if offset < payload.length then
   let field := scanField payload offset
   match field.value with
   | .finished outcome => some { field with value := outcome }
   | .running => (scanFields payload rounds field.offset).map (Reading.after field.accesses)
  else some { value := .returned none, offset }

def parseResumeTokenFromLoginRes (rounds : Nat) (payload : Bytes) : Option (Reading Outcome) :=
 scanFields payload rounds 0

inductive Reached (payload : Bytes) : Nat -> Prop
 | start : Reached payload 0
 | next {offset : Nat} : Reached payload offset -> offset < payload.length ->
  (scanField payload offset).value = .running -> Reached payload (scanField payload offset).offset

theorem readVarintLoop_enough (input : Bytes) {rounds shift : Nat}
  (enough : 63 < shift + 7 * rounds) (more value offset : Nat) (started : shift ≤ 63) :
  readVarintLoop input (rounds + more) shift value offset = readVarintLoop input rounds shift value offset := by
 induction rounds generalizing shift value offset with
 | zero => omega
 | succ rounds ih =>
  rw [add_right_comm, readVarintLoop, readVarintLoop]
  by_cases last : 63 < shift + 7
  · simp only [last, if_true]
  · simp only [last, if_false, ih (by omega) _ _ (not_lt.mp last)]

section

variable (payload : Bytes) (offset : Nat)

-- The end of a field of bytes, before it is reduced modulo 2^64, if it passes the test against the size.
def bytesEnd : Option Nat :=
 let length := readVarint payload offset
 length.value.bind fun len =>
  if payload.length < u64 (length.offset + len) then none else some (length.offset + len)

/-- A field of bytes passes the test with an end beyond 2^64, and is the token or ends, modulo 2^64, at its start
or before it. -/
def wrapsBack : Bool :=
 let tag := readVarint payload offset
 tag.value.any fun number => number &&& 0x07 = 2 && (bytesEnd payload tag.offset).any fun stop =>
  2 ^ 64 ≤ stop && (number >>> 3 = 6 || u64 stop ≤ offset)

def AccessesInside (accesses : List (Nat × Nat)) : Prop :=
 ∀ access ∈ accesses, access.1 + access.2 ≤ payload.length

end

structure Reading.Inside {α : Type} (payload : Bytes) (reading : Reading α) : Prop where
 offset : reading.offset ≤ payload.length
 accesses : AccessesInside payload reading.accesses

variable {payload : Bytes}

theorem AccessesInside.append {first second : List (Nat × Nat)}
  (before : AccessesInside payload first) (later : AccessesInside payload second) :
  AccessesInside payload (first ++ second) := by
 intro access member
 obtain early | late := mem_append.mp member
 · exact before access early
 · exact later access late

theorem AccessesInside.singleton {start length : Nat}
  (inside : start + length ≤ payload.length) : AccessesInside payload [(start, length)] := by
 intro access member
 rwa [mem_singleton.mp member]

theorem Reading.Inside.after {α : Type} {accesses : List (Nat × Nat)} {reading : Reading α}
  (before : AccessesInside payload accesses) (inside : reading.Inside payload) :
  (reading.after accesses).Inside payload :=
 ⟨inside.offset, before.append inside.accesses⟩

section

/- A body is at most 65535 bytes long; the argument needs only that it can be addressed by a
signed word. -/
variable {payload : Bytes} (size : payload.length ≤ 2 ^ 63)

include size

variable {rounds offset : Nat}

theorem readVarintLoop_spec {shift value : Nat} (bound : value < 2 ^ 64) (inside : offset ≤ payload.length) :
  (readVarintLoop payload rounds shift value offset).Inside payload /\
    ∀ number, (readVarintLoop payload rounds shift value offset).value = some number ->
     offset < (readVarintLoop payload rounds shift value offset).offset /\ number < 2 ^ 64 := by
 induction rounds generalizing shift value offset with
 | zero => exact ⟨⟨inside, nofun⟩, nofun⟩
 | succ rounds ih =>
  rw [readVarintLoop]
  by_cases here : offset < payload.length
  · have next : u64 (offset + 1) = offset + 1 := u64_of_lt (by omega)
    have access : AccessesInside payload [(offset, 1)] := .singleton here
    have grown : value ||| u64 ((byteAt payload offset &&& 0x7F) <<< shift) < 2 ^ 64 :=
     Nat.or_lt_two_pow bound (mod_lt _ (by decide))
    simp only [if_pos here, next]
    split_ifs
    · refine ⟨⟨here, access⟩, fun number found => ⟨lt_succ_self _, ?_⟩⟩
      cases found
      exact grown
    · exact ⟨⟨here, access⟩, nofun⟩
    · obtain ⟨within, later⟩ := ih grown here
      exact ⟨within.after access, fun number found => (later number found).imp_left (lt_of_succ_lt ·)⟩
  · rw [if_neg here]
    exact ⟨⟨inside, nofun⟩, nofun⟩

theorem readVarint_spec (inside : offset ≤ payload.length) : (readVarint payload offset).Inside payload /\
    ∀ number, (readVarint payload offset).value = some number ->
     offset < (readVarint payload offset).offset /\ number < 2 ^ 64 :=
 readVarintLoop_spec size (by decide) inside

theorem skipWireValue_spec (inside : offset ≤ payload.length) (wireType : Nat) :
  (skipWireValue payload offset wireType).Inside payload /\
   ((skipWireValue payload offset wireType).value = true -> wireType = 2 \/
     offset < (skipWireValue payload offset wireType).offset) := by
 obtain ⟨within, advances⟩ := readVarint_spec size inside
 rw [skipWireValue.eq_def]
 split
 · refine ⟨⟨within.offset, within.accesses⟩, fun found => ?_⟩
   obtain ⟨number, found⟩ := isSome_iff_exists.mp found
   exact .inr (advances number found).1
 · refine ⟨?_, fun _ => .inl rfl⟩
   dsimp only
   split
   · exact ⟨within.offset, within.accesses⟩
   · split
     · exact ⟨within.offset, within.accesses⟩
     next tested => exact ⟨not_lt.mp tested, within.accesses⟩
 · exact ⟨⟨inside, nofun⟩, nofun⟩

omit size in
theorem skipWireValue_bytes (payload : Bytes) (offset : Nat) :
  (skipWireValue payload offset 2).value = (bytesEnd payload offset).isSome /\
   ∀ stop ∈ bytesEnd payload offset, (skipWireValue payload offset 2).offset = u64 stop := by
 unfold bytesEnd
 simp only [skipWireValue]
 cases (readVarint payload offset).value with
 | none => simp
 | some len =>
  simp only [bind_some]
  split <;> simp

/-- One round stays inside; it throws, or goes on without moving forward, just at a field that wraps back. -/
theorem scanField_spec (inside : offset ≤ payload.length) : (scanField payload offset).Inside payload /\
   (wrapsBack payload offset = true ↔ (scanField payload offset).value = .finished .lengthError \/
     (scanField payload offset).value = .running /\ (scanField payload offset).offset ≤ offset) := by
 obtain ⟨within, advances⟩ := readVarint_spec size inside
 unfold scanField wrapsBack
 dsimp only
 generalize readVarint payload offset = tag at *
 obtain ⟨_ | number, start, accesses⟩ := tag
 · exact ⟨⟨within.offset, within.accesses⟩, by simp⟩
 have advanced : offset < start := (advances number rfl).1
 obtain ⟨lengthWithin, lengthBound⟩ := readVarint_spec size within.offset
 have afterTag := lengthWithin.after within.accesses
 dsimp only at *
 by_cases token : number >>> 3 = 6 /\ number &&& 0x07 = 2
 · simp only [token.1, token.2, bytesEnd]
   generalize readVarint payload start = length at *
   obtain ⟨_ | len, stop, more⟩ := length
   · exact ⟨⟨afterTag.offset, afterTag.accesses⟩, by simp⟩
   obtain ⟨later, bound⟩ : start < stop /\ len < 2 ^ 64 := lengthBound len rfl
   have near : stop ≤ payload.length := lengthWithin.offset
   dsimp only
   by_cases outside : payload.length < u64 (stop + len)
   · rw [if_pos outside]
     exact ⟨⟨afterTag.offset, afterTag.accesses⟩, by simp [outside]⟩
   rw [if_neg outside]
   by_cases long : 2 ^ 63 ≤ len
   · have wraps : 2 ^ 64 ≤ stop + len := by
      rw [u64] at outside
      omega
     rw [if_pos long]
     exact ⟨⟨afterTag.offset, afterTag.accesses⟩, by simpa [token, outside] using wraps⟩
   · have fits : stop + len < 18446744073709551616 := by omega
     rw [u64_of_lt fits] at outside
     rw [if_neg long]
     refine ⟨⟨afterTag.offset, afterTag.accesses.append (.singleton (not_lt.mp outside))⟩, ?_⟩
     simp [u64_of_lt fits, outside, Nat.not_le.mpr fits]
 · obtain ⟨skipWithin, skips⟩ := skipWireValue_spec size within.offset (number &&& 0x07)
   have afterSkip := skipWithin.after within.accesses
   obtain ⟨passes, ends⟩ := skipWireValue_bytes payload start
   simp only [if_neg token]
   refine ⟨⟨afterSkip.offset, afterSkip.accesses⟩, ?_⟩
   by_cases bytes : number &&& 0x07 = 2
   · rw [bytes]
     generalize skipWireValue payload start 2 = skipped at *
     cases found : bytesEnd payload start with
     | none => simp_all
     | some stop =>
      have later : start < stop := by
       obtain ⟨len, read, passed⟩ := bind_eq_some_iff.mp found
       obtain ⟨-, ⟨⟩⟩ := ite_none_left_eq_some.mp passed
       exact (lengthBound len read).1.trans_le (le_add_right _ _)
      have wraps : u64 stop ≤ offset -> 18446744073709551616 ≤ stop := by
       rw [u64]
       omega
      rw [ends stop found]
      have other : ¬ number >>> 3 = 6 := fun same => token ⟨same, bytes⟩
      simpa [passes, found, bytes, other] using wraps
   · generalize skipWireValue payload start (number &&& 0x07) = skipped at *
     cases went : skipped.value with
     | false => simp [bytes]
     | true =>
      have forward : start < skipped.offset := (skips went).resolve_left bytes
      simpa [bytes] using advanced.trans forward

theorem Reached.inside (reached : Reached payload offset) : offset ≤ payload.length := by
 cases reached with
 | start => exact zero_le _
 | next earlier here running => exact (scanField_spec size (le_of_lt here)).1.offset

theorem scanFields_spec (straight : ∀ offset, Reached payload offset -> offset < payload.length ->
    wrapsBack payload offset = false) (reached : Reached payload offset)
     (enough : payload.length - offset < rounds) :
  ∃ token parsed, scanFields payload rounds offset = some parsed /\
   parsed.value = .returned token /\ parsed.Inside payload := by
 induction rounds generalizing offset with
 | zero => exact absurd enough (not_lt_zero _)
 | succ rounds ih =>
  have inside := reached.inside size
  rw [scanFields]
  by_cases here : offset < payload.length
  · obtain ⟨within, wraps⟩ := scanField_spec size inside
    have forward := mt wraps.mpr (Bool.eq_false_iff.mp (straight offset reached here))
    rw [not_or, not_and] at forward
    rw [if_pos here]
    dsimp only
    cases field : (scanField payload offset).value with
    | finished outcome =>
     cases outcome with
     | lengthError => exact absurd field forward.1
     | returned token => exact ⟨token, _, rfl, rfl, within.offset, within.accesses⟩
    | running =>
     have advanced := forward.2 field
     obtain ⟨token, parsed, later, value, parsedInside⟩ := ih (.next reached here field) (by omega)
     refine ⟨token, parsed.after (scanField payload offset).accesses, ?_, value, parsedInside.after within.accesses⟩
     rw [later, map_some]
  · rw [if_neg here]
    exact ⟨none, _, rfl, rfl, inside, nofun⟩

omit size in
theorem scanFields_of_reached {parsed : Reading Outcome} (found : scanFields payload rounds 0 = some parsed)
  (reached : Reached payload offset) :
  ∃ rounds later, scanFields payload rounds offset = some later /\ later.value = parsed.value := by
 induction reached with
 | start => exact ⟨rounds, parsed, found, rfl⟩
 | next earlier here running ih =>
  obtain ⟨_ | rounds, later, scanned, value⟩ := ih
  · cases scanned
  · simp only [scanFields, if_pos here, running] at scanned
    obtain ⟨rest, went, rfl⟩ := map_eq_some_iff.mp scanned
    exact ⟨rounds, rest, went, value⟩

end

/-- A body is scanned to an end, in rounds that move the offset forward, never past the end of the body, with no
access outside: just when no field that the scan reaches wraps back. -/
theorem resume_token_scan_terminates (payload : Bytes) (size : payload.length ≤ 2 ^ 63) :
  ((∃ token parsed, parseResumeTokenFromLoginRes (payload.length + 1) payload = some parsed /\
     parsed.value = .returned token /\ parsed.Inside payload) /\
    (∀ more offset, readVarintLoop payload (10 + more) 0 0 offset = readVarint payload offset) /\
    ∀ offset, Reached payload offset -> offset ≤ payload.length /\
     (offset < payload.length -> (scanField payload offset).value = .running ->
       offset < (scanField payload offset).offset)) ↔
  ∀ offset, Reached payload offset -> offset < payload.length -> wrapsBack payload offset = false := by
 constructor
 · rintro ⟨⟨token, parsed, scanned, value, -⟩, -, forward⟩ offset reached here
   refine Bool.eq_false_iff.mpr fun wraps => ?_
   obtain thrown | ⟨running, back⟩ := (scanField_spec size (le_of_lt here)).2.mp wraps
   · obtain ⟨_ | rounds, later, rest, same⟩ := scanFields_of_reached scanned reached
     · cases rest
     · simp only [scanFields, if_pos here, thrown] at rest
       cases rest
       cases same.trans value
   · exact absurd ((forward offset reached).2 here running) (Nat.not_lt.mpr back)
 · intro straight
   refine ⟨scanFields_spec size straight .start (by omega), fun more offset =>
    readVarintLoop_enough payload (by decide) more 0 offset (Nat.zero_le _), fun offset reached => ?_⟩
   refine ⟨reached.inside size, fun here running => Nat.lt_of_not_le fun back => ?_⟩
   have wraps := (scanField_spec size (le_of_lt here)).2.mpr (.inr ⟨running, back⟩)
   exact Bool.noConfusion ((straight offset reached here).symm.trans wraps)

-- the first field has a length of ten bytes that leads back to its own third byte, but not to its start
def detour : Bytes := [0x0A, 0xF7, 0xFF, 0xFF, 0xFF, 0xFF, 0xFF, 0xFF, 0xFF, 0xFF, 0x01]

theorem detour_is_scanned : ∃ token parsed, parseResumeTokenFromLoginRes 12 detour = some parsed /\
   parsed.value = .returned token /\ parsed.Inside detour := by
 have straight : ∀ offset, Reached detour offset -> offset < 11 -> wrapsBack detour offset = false := by
  have first : (scanField detour 0).offset = 2 := by decide +kernel
  have second : (scanField detour 2).value ≠ .running := by decide +kernel
  have reaches : ∀ offset, Reached detour offset -> offset = 0 \/ offset = 2 := by
   intro offset reached
   induction reached with
   | start => exact .inl rfl
   | next _ _ running ih =>
    obtain rfl | rfl := ih
    · exact .inr first
    · exact absurd running second
  intro offset reached _
  obtain rfl | rfl := reaches offset reached <;> decide +kernel
 exact ((resume_token_scan_terminates detour (by decide)).mpr straight).1

example : (parseResumeTokenFromLoginRes 7 [0x0A, 0x00, 0x32, 0x02, 0x61, 0x62]).map Reading.value =
  some (.returned (some [0x61, 0x62])) := by
 decide +kernel

def endlessBody : Bytes := [0x0A, 0xF5, 0xFF, 0xFF, 0xFF, 0xFF, 0xFF, 0xFF, 0xFF, 0xFF, 0x01]

theorem scanField_endlessBody : (scanField endlessBody 0).value = .running /\
  (scanField endlessBody 0).offset = 0 := by
 decide +kernel

theorem scanFields_endlessBody (rounds : Nat) : scanFields endlessBody rounds 0 = none := by
 induction rounds with
 | zero => rfl
 | succ rounds ih =>
  have present : 0 < endlessBody.length := by decide
  simp only [scanFields, if_pos present, scanField_endlessBody, ih, map_none]

def overlongToken : Bytes := 0x32 :: endlessBody.tail

theorem long_length_loops_or_throws :
  (∀ rounds, parseResumeTokenFromLoginRes rounds endlessBody = none) /\
    (parseResumeTokenFromLoginRes 1 overlongToken).map Reading.value = some .lengthError :=
 ⟨scanFields_endlessBody, by decide +kernel⟩

end Dynaxis.Gateway
