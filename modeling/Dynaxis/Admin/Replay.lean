import Mathlib.Data.List.Induction
import Dynaxis.Admin.CommandAuth

namespace Dynaxis.Admin.Verifier

open Shared List Option

variable {hmac : Hmac} (verifier : Verifier)
include verifier

theorem lookup_prune (now : Nat) (nonce : Text) : (verifier.prune now).seenNonces.lookup nonce =
    (verifier.seenNonces.lookup nonce).filter fun issuedAtMs => !verifier.options.expired issuedAtMs now :=
 Table.lookup_filterValues ..

theorem serve_append (before after : List Call) :
  verifier.serve hmac (before ++ after) = (verifier.serve hmac before).serve hmac after :=
 foldl_append

theorem serve_settings (calls : List Call) : (verifier.serve hmac calls).secret = verifier.secret /\
  (verifier.serve hmac calls).options = verifier.options := by
 induction calls generalizing verifier with
 | nil => exact ⟨rfl, rfl⟩
 | cons call rest ih =>
  obtain ⟨secret, options⟩ := ih (verifier.verify hmac call).1
  exact ⟨secret.trans (verify_secret ..), options.trans (verify_options ..)⟩

theorem verdict_append (before between : List Call) (call : Call) :
  verifier.verdict hmac (before ++ between) call = (verifier.serve hmac before).verdict hmac between call := by
 rw [verdict, serve_append, verdict]

omit verifier

variable {options : VerifyOptions} {issuedAtMs now later time : Nat}
 {verifier left right : Verifier} {call : Call} {nonce secret : Text} {calls : List Call}

theorem expired_of_le (ordered : now ≤ later)
  (valid : options.expired issuedAtMs later = false) : options.expired issuedAtMs now = false := by
 simp only [VerifyOptions.expired, decide_eq_false_iff_not, not_lt] at valid ⊢
 omega

theorem seen_after_verify (seen : verifier.seenNonces.lookup nonce = some issuedAtMs)
  (valid : verifier.options.expired issuedAtMs call.now = false) :
  (verifier.verify hmac call).1.seenNonces.lookup nonce = some issuedAtMs := by
 have kept : (verifier.prune call.now).seenNonces.lookup nonce = some issuedAtMs := by
  rw [lookup_prune, seen, filter_some_pos (by simp [valid])]
 obtain ⟨_, _, answered⟩ | ⟨other, _, _, ⟨_, _, answered⟩ | ⟨fresh, answered⟩⟩ :=
  verifier.verify_cases hmac call
 · rw [answered]
   exact seen
 · rw [answered]
   exact kept
 · have different : nonce ≠ other := by
    rintro rfl
    cases kept.symm.trans fresh
   rw [answered]
   exact (AList.lookup_insert_ne different).trans kept

theorem seen_after_serve (seen : verifier.seenNonces.lookup nonce = some issuedAtMs)
  (valid : ∀ call ∈ calls, verifier.options.expired issuedAtMs call.now = false) :
  (verifier.serve hmac calls).seenNonces.lookup nonce = some issuedAtMs := by
 induction calls generalizing verifier with
 | nil => exact seen
 | cons call rest ih =>
  refine ih (seen_after_verify seen (valid call mem_cons_self)) fun later member => ?_
  rw [verify_options]
  exact valid later (mem_cons_of_mem _ member)

theorem seen_of_verify_ok (accepted : (verifier.verify hmac call).2 = .ok) :
  ∃ nonce issuedAtMs, Authentic hmac verifier.secret verifier.options call nonce issuedAtMs /\
   (verifier.verify hmac call).1.seenNonces.lookup nonce = some issuedAtMs := by
 obtain ⟨_, refused, answered⟩ | ⟨nonce, issuedAtMs, authentic, ⟨_, _, answered⟩ | ⟨_, answered⟩⟩ :=
  verifier.verify_cases hmac call
 · rw [answered] at accepted
   exact absurd accepted refused
 · rw [answered] at accepted
   cases accepted
 · refine ⟨nonce, issuedAtMs, authentic, ?_⟩
   rw [answered]
   exact AList.lookup_insert _

theorem not_ok_of_seen (seen : verifier.seenNonces.lookup nonce = some issuedAtMs)
  (valid : verifier.options.expired issuedAtMs call.now = false)
  (carried : call.fields.lookup Key.nonce = some nonce) : (verifier.verify hmac call).2 ≠ .ok := by
 intro accepted
 obtain ⟨_, refused, answered⟩ | ⟨other, _, authentic, ⟨_, _, answered⟩ | ⟨fresh, answered⟩⟩ :=
  verifier.verify_cases hmac call
 · rw [answered] at accepted
   exact refused accepted
 · rw [answered] at accepted
   cases accepted
 · have same : nonce = other := some.inj (carried.symm.trans authentic.nonceField.1)
   rw [lookup_prune, <- same, seen, filter_some_pos (by simp [valid])] at fresh
   cases fresh

theorem Authentic.unique {other : Text} {later : Call}
  {nonce' : Text} {issuedAtMs' : Nat} (same : call.fields.Same later.fields)
  (authentic : Authentic hmac secret options call nonce issuedAtMs)
  (authentic' : Authentic hmac other options later nonce' issuedAtMs') :
  nonce = nonce' /\ issuedAtMs = issuedAtMs' := by
 obtain ⟨text, issued, parsed⟩ := authentic.issuedAtField
 obtain ⟨text', issued', parsed'⟩ := authentic'.issuedAtField
 rw [same, issued', some.injEq] at issued
 have carried := authentic.nonceField.1
 rw [same, authentic'.nonceField.1, some.injEq] at carried
 rw [<- issued, parsed', some.injEq] at parsed
 exact ⟨carried.symm, parsed.symm⟩

theorem not_ok_twice {first second : Call} {between : List Call}
  (same : first.fields.Same second.fields) (ordered : ∀ call ∈ between, call.now ≤ second.now)
  (accepted : (verifier.verify hmac first).2 = .ok) :
  (verifier.verify hmac first).1.verdict hmac between second ≠ .ok := by
 intro again
 obtain ⟨nonce, issuedAtMs, authentic, seen⟩ := seen_of_verify_ok accepted
 obtain ⟨nonce', issuedAtMs', authentic'⟩ := authentic_of_verify_ok again
 rw [(serve_settings ..).2, verify_options] at authentic'
 obtain ⟨rfl, rfl⟩ := Authentic.unique same authentic authentic'
 have valid : verifier.options.expired issuedAtMs second.now = false := authentic'.notExpired
 -- Second is not refused as expired, so no call before it, at an earlier time, pruned the nonce.
 have kept : ((verifier.verify hmac first).1.serve hmac between).seenNonces.lookup nonce = some issuedAtMs := by
  refine seen_after_serve seen fun call member => ?_
  rw [verify_options]
  exact expired_of_le (ordered call member) valid
 refine not_ok_of_seen kept ?_ authentic'.nonceField.1 again
 rw [(serve_settings ..).2, verify_options]
 exact valid

structure Alike (time : Nat) (left right : Verifier) : Prop where
 secret : left.secret = right.secret
 options : left.options = right.options
 seen : ∀ now, time ≤ now -> ∀ nonce,
  (left.prune now).seenNonces.lookup nonce = (right.prune now).seenNonces.lookup nonce

theorem Alike.refl (time : Nat) (verifier : Verifier) : Alike time verifier verifier :=
 ⟨rfl, rfl, fun _ _ _ => rfl⟩

theorem lookup_prune_prune (verifier : Verifier) (ordered : now ≤ later) (nonce : Text) :
  ((verifier.prune now).prune later).seenNonces.lookup nonce = (verifier.prune later).seenNonces.lookup nonce := by
 simp only [lookup_prune]
 cases verifier.seenNonces.lookup nonce with
 | none => rfl
 | some issuedAtMs =>
  cases dead : verifier.options.expired issuedAtMs later with
  | true => cases stale : verifier.options.expired issuedAtMs now <;> simp [Option.filter, prune, dead, stale]
  | false => simp [Option.filter, prune, dead, expired_of_le ordered dead]

theorem alike_of_refused (refused : (verifier.verify hmac call).2 ≠ .ok) :
  Alike call.now verifier (verifier.verify hmac call).1 := by
 obtain ⟨_, _, answered⟩ | ⟨_, _, _, ⟨_, _, answered⟩ | ⟨_, answered⟩⟩ := verifier.verify_cases hmac call
 · rw [answered]
   exact .refl _ _
 · rw [answered]
   exact ⟨rfl, rfl, fun later ordered nonce => (lookup_prune_prune verifier ordered nonce).symm⟩
 · rw [answered] at refused
   exact absurd rfl refused

theorem Alike.verify (alike : Alike time left right) (ordered : time ≤ call.now) :
  (left.verify hmac call).2 = (right.verify hmac call).2 /\
    Alike call.now (left.verify hmac call).1 (right.verify hmac call).1 := by
 have pruned (later : Nat) (nonce : Text) : ((left.prune call.now).prune later).seenNonces.lookup nonce =
     ((right.prune call.now).prune later).seenNonces.lookup nonce := by
  rw [lookup_prune (left.prune call.now), lookup_prune (right.prune call.now), alike.seen call.now ordered]
  simp only [prune, alike.options]
 simp only [Verifier.verify, alike.secret, alike.options]
 cases authenticate hmac right.secret right.options call with
 | error result => exact ⟨rfl, alike.secret, alike.options, fun now later => alike.seen now (ordered.trans later)⟩
 | ok passed =>
  obtain ⟨nonce, issuedAtMs⟩ := passed
  have same := alike.seen call.now ordered nonce
  cases seen : (right.prune call.now).seenNonces.lookup nonce with
  | some earlier =>
   simp only [same, seen]
   exact ⟨trivial, alike.secret, alike.options, fun later _ => pruned later⟩
  | none =>
   simp only [same, seen]
   refine ⟨trivial, alike.secret, alike.options, fun later _ other => ?_⟩
   have others := pruned later other
   simp only [lookup_prune, Table.lookup_insert_ite] at others ⊢
   split
   · simp only [prune, alike.options]
   · exact others

theorem Alike.verdict (alike : Alike time left right)
  (ordered : (calls ++ [call]).Pairwise fun first later => first.now ≤ later.now)
  (late : ∀ other ∈ calls ++ [call], time ≤ other.now) :
  left.verdict hmac calls call = right.verdict hmac calls call := by
 induction calls generalizing time left right with
 | nil => exact (alike.verify (late call mem_cons_self)).1
 | cons first rest ih =>
  rw [cons_append, pairwise_cons] at ordered
  exact ih (alike.verify (late first mem_cons_self)).2 ordered.2 ordered.1

theorem seen_from_accepted (seen : (verifier.verify hmac call).1.seenNonces.lookup nonce ≠ none) :
  verifier.seenNonces.lookup nonce ≠ none \/
   (verifier.verify hmac call).2 = .ok /\ call.fields.lookup Key.nonce = some nonce := by
 have survived (kept : (verifier.prune call.now).seenNonces.lookup nonce ≠ none) :
   verifier.seenNonces.lookup nonce ≠ none := by
  intro absent
  rw [lookup_prune, absent] at kept
  exact kept rfl
 obtain ⟨_, _, answered⟩ | ⟨other, _, authentic, ⟨_, _, answered⟩ | ⟨_, answered⟩⟩ :=
  verifier.verify_cases hmac call
 · rw [answered] at seen
   exact .inl seen
 · rw [answered] at seen
   exact .inl (survived seen)
 · rw [answered] at seen ⊢
   simp only [Table.lookup_insert_ite] at seen
   split at seen
   next same => exact .inr ⟨rfl, same ▸ authentic.nonceField.1⟩
   next => exact .inl (survived seen)

def UsedUp (hmac : Hmac) (verifier : Verifier) (calls : List Call) (nonce : Text) : Prop :=
 ∃ before call after, calls = before ++ call :: after /\ verifier.verdict hmac before call = .ok /\
  call.fields.lookup Key.nonce = some nonce

theorem usedUp_of_seen (empty : verifier.seenNonces = ∅)
  (seen : (verifier.serve hmac calls).seenNonces.lookup nonce ≠ none) : UsedUp hmac verifier calls nonce := by
 induction calls using reverseRecOn with
 | nil =>
  rw [serve, foldl_nil, empty] at seen
  exact absurd rfl seen
 | append_singleton before call ih =>
  rw [serve_append] at seen
  obtain earlier | ⟨accepted, carried⟩ := seen_from_accepted seen
  · obtain ⟨start, first, rest, rfl, facts⟩ := ih earlier
    exact ⟨start, first, rest ++ [call], by simp, facts⟩
  · exact ⟨before, call, [], rfl, accepted, carried⟩

theorem ok_of_fresh (authentic : Authentic hmac verifier.secret verifier.options call nonce issuedAtMs)
  (fresh : verifier.seenNonces.lookup nonce = none) : (verifier.verify hmac call).2 = .ok := by
 have absent : (verifier.prune call.now).seenNonces.lookup nonce = none := by
  rw [lookup_prune, fresh]
  rfl
 simp only [verify, authenticate_eq_ok.mpr authentic, absent]

structure Genuine (hmac : Hmac) (secret : Text) (options : VerifyOptions) (call : Call)
  (nonce : Text) (issuedAtMs : Nat) : Prop where
 configured : secret ≠ []
 nonceField : call.fields.lookup Key.nonce = some nonce /\ nonce ≠ []
 issuedAtField : ∃ text, call.fields.lookup Key.issuedAt = some text /\ parseU64 text = some issuedAtMs
 notFuture : issuedAtMs ≤ call.now + options.futureSkewMs
 notExpired : call.now ≤ issuedAtMs + options.ttlMs
 signed : ∃ digest, digest ≠ [] /\ hmac secret (canonicalSigningData call.fields) = some digest /\
  call.fields.lookup Key.signature = some (toHex digest)

theorem canonicalSigningData_ne_nil {fields : Fields} (carried : fields.lookup Key.nonce = some nonce) :
  canonicalSigningData fields ≠ [] := by
 have different : Key.nonce ≠ Key.signature := by decide +kernel
 have member : (Key.nonce, nonce) ∈ Table.sorted (fields.erase Key.signature) := by
  rw [Table.mem_sorted, AList.lookup_erase_ne different]
  exact carried
 rw [canonicalSigningData, writeEntries]
 cases entries : Table.sorted (fields.erase Key.signature) with
 | nil =>
  rw [entries] at member
  cases member
 | cons first rest => cases rest <;> simp [intercalate, writeEntry]

theorem toHex_eq_nil {bytes : Bytes} : toHex bytes = [] ↔ bytes = [] := by cases bytes <;> simp [toHex]

theorem authentic_iff_genuine (fits : call.now + options.futureSkewMs + options.ttlMs < 18446744073709551616) :
  Authentic hmac secret options call nonce issuedAtMs ↔ Genuine hmac secret options call nonce issuedAtMs := by
 have ahead : u64 (call.now + options.futureSkewMs) = call.now + options.futureSkewMs :=
  u64_of_lt (by omega)
 have window (notFuture : issuedAtMs ≤ call.now + options.futureSkewMs) :
   options.expired issuedAtMs call.now = false ↔ call.now ≤ issuedAtMs + options.ttlMs := by
  rw [VerifyOptions.expired, u64_of_lt (by omega), decide_eq_false_iff_not, Nat.not_lt]
 constructor
 · intro authentic
   have notFuture := ahead ▸ authentic.notFuture
   obtain failed | ⟨digest, hashed, signature⟩ := signFields_eq_nil_or hmac call.fields secret
   · exact absurd failed authentic.signed.2
   refine ⟨authentic.configured, authentic.nonceField, authentic.issuedAtField, notFuture,
    (window notFuture).mp authentic.notExpired, digest, ?_, hashed, signature ▸ authentic.signed.1⟩
   rintro rfl
   exact authentic.signed.2 signature
 · intro genuine
   obtain ⟨digest, present, hashed, signature⟩ := genuine.signed
   have made : signFields hmac call.fields secret = toHex digest := by
    simp only [signFields, genuine.configured, if_false, hashed, canonicalSigningData_ne_nil genuine.nonceField.1]
   refine ⟨genuine.configured, genuine.nonceField, genuine.issuedAtField, ahead.symm ▸ genuine.notFuture,
    (window genuine.notFuture).mpr genuine.notExpired, made ▸ signature, ?_⟩
   rw [made, ne_eq, toHex_eq_nil]
   exact present

/-- At a clock that does not go back: what is accepted is genuine and in its window, nothing is accepted
twice, and refused calls change no later answer. -/
theorem accepted_commands_are_genuine_and_unrepeated (hmac : Hmac) (secret : Text) (options : VerifyOptions)
  (calls : List Call) (ordered : calls.Pairwise fun first later => first.now ≤ later.now)
  (fits : ∀ call ∈ calls, call.now + options.futureSkewMs + options.ttlMs < 18446744073709551616) :
  let start : Verifier := { secret, options }
  (∀ before call after, calls = before ++ call :: after -> start.verdict hmac before call = .ok ->
    ∃ nonce issuedAtMs, Genuine hmac secret options call nonce issuedAtMs) /\
  (∀ before first between second after, calls = before ++ first :: (between ++ second :: after) ->
    first.fields.Same second.fields -> start.verdict hmac before first = .ok ->
    start.verdict hmac (before ++ first :: between) second ≠ .ok) /\
  (∀ before refused between call after, calls = before ++ refused :: (between ++ call :: after) ->
    start.verdict hmac before refused ≠ .ok ->
    start.verdict hmac (before ++ refused :: between) call =
     start.verdict hmac (before ++ between) call) /\
  ∀ before call after nonce issuedAtMs, calls = before ++ call :: after ->
   Genuine hmac secret options call nonce issuedAtMs -> ¬UsedUp hmac start before nonce ->
   start.verdict hmac before call = .ok := by
 intro start
 have settings (served : List Call) : (start.serve hmac served).secret = secret /\
   (start.serve hmac served).options = options :=
  start.serve_settings served
 refine ⟨?_, ?_, ?_, ?_⟩
 · rintro before call after rfl accepted
   obtain ⟨nonce, issuedAtMs, authentic⟩ := authentic_of_verify_ok accepted
   rw [(settings before).1, (settings before).2] at authentic
   exact ⟨nonce, issuedAtMs, (authentic_iff_genuine (fits call (by simp))).mp authentic⟩
 · rintro before first between second after rfl same accepted
   rw [verdict_append]
   refine not_ok_twice same (fun call member => ?_) accepted
   have tail := (pairwise_append.mp ordered).2.1.of_cons
   exact (pairwise_append.mp tail).2.2 call member second mem_cons_self
 · rintro before refused between call after rfl failed
   rw [verdict_append, verdict_append]
   have tail := (pairwise_append.mp ordered).2.1
   rw [pairwise_cons] at tail
   have inside : (between ++ [call]).Sublist (between ++ call :: after) :=
    List.Sublist.append_left (by simp) between
   exact ((alike_of_refused failed).verdict (tail.2.sublist inside)
    fun other member => tail.1 other (inside.subset member)).symm
 · rintro before call after nonce issuedAtMs rfl genuine fresh
   have authentic := (authentic_iff_genuine (fits call (by simp))).mpr genuine
   rw [<- (settings before).1, <- (settings before).2] at authentic
   refine ok_of_fresh authentic ?_
   by_contra seen
   exact fresh (usedUp_of_seen rfl seen)

def muteCommand : Fields :=
 (appendSignatureFields transcript (fieldsOf [("op", "mute"), ("client_ids", "bob")]) "s".toList 5
   "n1".toList []).getD ∅

theorem mute_is_refused_until_it_expires :
  let start : Verifier := { secret := "s".toList }
  start.verdict transcript [] ⟨muteCommand, 5⟩ = .ok /\
   start.verdict transcript [⟨muteCommand, 5⟩] ⟨muteCommand, 60005⟩ ≠ .ok := by
 have accepted : ({ secret := "s".toList } : Verifier).verdict transcript [] ⟨muteCommand, 5⟩ = .ok := by
  decide +kernel
 refine ⟨accepted, ?_⟩
 exact (accepted_commands_are_genuine_and_unrepeated transcript "s".toList {}
  [⟨muteCommand, 5⟩, ⟨muteCommand, 60005⟩] (by simp) (by simp)).2.1 [] _ [] _ [] rfl
  (fun _ => rfl) accepted

end Dynaxis.Admin.Verifier
