import Dynaxis.Shared.Table
import Dynaxis.Shared.Text

/-! A command is a map of fields. The signature covers the other fields, sorted by key and written one a line; the
verifier remembers the nonces of the commands it accepted for as long as they could be accepted again. -/

namespace Dynaxis.Admin

open Shared AList Bytes Table

abbrev Fields := Table Text Text

namespace Key

def issuedAt : Text := "issued_at".toList
def nonce : Text := "nonce".toList
def signature : Text := "signature".toList

end Key

section

variable (hmac : Hmac) (fields : Fields) (secret : Text)

def canonicalSigningData : Text :=
 writeEntries '=' '\n' (sorted (fields.erase Key.signature))

def toKvPayload : Text := writeEntries '=' '\n' fields.sorted

def maxU64 : Nat := 18446744073709551615

def appendDigit (value : Nat) (letter : Char) : Option Nat :=
 if letter < '0' \/ '9' < letter then none
 else
  let digit := letter.toNat - '0'.toNat
  if (maxU64 - digit) / 10 < value then none else some (value * 10 + digit)

def parseU64 (text : Text) : Option Nat :=
 if text = [] then none else text.foldlM appendDigit 0

def signFields : Text :=
 if secret = [] then []
 else
  let signingData := canonicalSigningData fields
  if signingData = [] then []
  else
   match hmac secret signingData with
   -- the library failed; callers take an empty signature for none
   | none => []
   | some digest => toHex digest

def appendSignatureFields (issuedAtMs : Nat) (nonce : Text) (randomBytes : Bytes) : Option Fields :=
 if secret = [] then none
 else
  let nonce := if nonce = [] then toHex randomBytes else nonce
  let fields := ((fields.insert Key.issuedAt (Text.decimal issuedAtMs)).insert Key.nonce nonce).erase
   Key.signature
  let signature := signFields hmac fields secret
  if signature = [] then none else some (fields.insert Key.signature signature)

end

inductive VerifyResult
 | ok
 | missingField
 | invalidIssuedAt
 | expired
 | future
 | signatureMismatch
 | replay
 | secretNotConfigured
 deriving DecidableEq

structure VerifyOptions where
 ttlMs : Nat := 60000
 futureSkewMs : Nat := 5000

structure Verifier where
 secret : Text
 options : VerifyOptions := {}
 seenNonces : Table Text Nat := ∅

structure Call where
 fields : Fields
 now : Nat

def VerifyOptions.expired (options : VerifyOptions) (issuedAtMs now : Nat) : Bool :=
 u64 (issuedAtMs + options.ttlMs) < now

def authenticate (hmac : Hmac) (secret : Text) (options : VerifyOptions) (call : Call) :
  Except VerifyResult (Text × Nat) :=
 if secret = [] then .error .secretNotConfigured
 else
  match call.fields.lookup Key.issuedAt, call.fields.lookup Key.nonce,
   call.fields.lookup Key.signature with
  | some issuedAtText, some nonce, some signature =>
   if issuedAtText = [] \/ nonce = [] \/ signature = [] then .error .missingField
   else
    match parseU64 issuedAtText with
    | none => .error .invalidIssuedAt
    | some issuedAtMs =>
     if u64 (call.now + options.futureSkewMs) < issuedAtMs then .error .future
     else if options.expired issuedAtMs call.now then .error .expired
     else
      let expected := signFields hmac call.fields secret
      if expected = [] \/ expected ≠ signature then .error .signatureMismatch
      else .ok (nonce, issuedAtMs)
  | _, _, _ => .error .missingField

namespace Verifier

variable (hmac : Hmac) (verifier : Verifier)

def prune (now : Nat) : Verifier :=
 { verifier with
   seenNonces := verifier.seenNonces.filterValues fun issuedAtMs => !verifier.options.expired issuedAtMs now }

def verify (call : Call) : Verifier × VerifyResult :=
 match authenticate hmac verifier.secret verifier.options call with
 | .error result => (verifier, result)
 | .ok (nonce, issuedAtMs) =>
  let pruned := verifier.prune call.now
  match pruned.seenNonces.lookup nonce with
  | some _ => (pruned, .replay)
  | none => ({ pruned with seenNonces := pruned.seenNonces.insert nonce issuedAtMs }, .ok)

def serve (calls : List Call) : Verifier :=
 calls.foldl (fun verifier call => (verifier.verify hmac call).1) verifier

def verdict (before : List Call) (call : Call) : VerifyResult :=
 ((verifier.serve hmac before).verify hmac call).2

end Verifier

abbrev Fields.Separable (fields : Fields) : Prop :=
 ∀ binding ∈ fields.sorted, Shared.Separable '=' '\n' binding

def Fields.Same (left right : Fields) : Prop := ∀ key, left.lookup key = right.lookup key

variable {fields left right : Fields} {hmac : Hmac} {secret nonce : Text} {issuedAtMs : Nat}

theorem Fields.Separable.erase (separable : fields.Separable) (key : Text) :
  Fields.Separable (fields.erase key) := by
 intro binding member
 rw [mem_sorted, lookup_erase_ite] at member
 split at member
 · cases member
 · exact separable binding (mem_sorted.mpr member)

theorem lookup_eq_of_sorted_eq (same : left.sorted = right.sorted) : left.Same right := by
 intro key
 refine Option.ext fun value => ?_
 have leftward : (key, value) ∈ left.sorted ↔ left.lookup key = some value := mem_sorted
 have rightward : (key, value) ∈ right.sorted ↔ right.lookup key = some value := mem_sorted
 rw [<- leftward, same, rightward]

theorem canonicalSigningData_injective (separableLeft : left.Separable)
  (separableRight : right.Separable) (same : canonicalSigningData left = canonicalSigningData right)
  {key : Text} (signed : key ≠ Key.signature) : left.lookup key = right.lookup key := by
 have entries := writeEntries_injective (by decide) (separableLeft.erase _) (separableRight.erase _) same
 have lookups := lookup_eq_of_sorted_eq entries key
 rwa [lookup_erase_ne signed, lookup_erase_ne signed] at lookups

theorem signFields_eq_nil_or (hmac : Hmac) (fields : Fields) (secret : Text) : signFields hmac fields secret = [] \/
   ∃ digest, hmac secret (canonicalSigningData fields) = some digest /\
    signFields hmac fields secret = toHex digest := by
 simp only [signFields]
 split
 · exact .inl rfl
 split
 · exact .inl rfl
 cases hashed : hmac secret (canonicalSigningData fields) with
 | none => exact .inl rfl
 | some digest => exact .inr ⟨digest, rfl, rfl⟩

theorem canonical_eq_of_signFields_eq (free : hmac.CollisionFree)
  (same : signFields hmac left secret = signFields hmac right secret) (made : signFields hmac left secret ≠ []) :
  canonicalSigningData left = canonicalSigningData right := by
 obtain failed | ⟨digest, hashed, signature⟩ := signFields_eq_nil_or hmac left secret
 · exact absurd failed made
 obtain failed | ⟨other, otherHashed, otherSignature⟩ := signFields_eq_nil_or hmac right secret
 · exact absurd (same.trans failed) made
 have digests : digest = other := toHex_injective (signature.symm.trans (same.trans otherSignature))
 exact free secret _ _ digest hashed (digests ▸ otherHashed)

theorem canonicalSigningData_insert_signature (fields : Fields) (signature : Text) :
  canonicalSigningData (fields.insert Key.signature signature) = canonicalSigningData fields := by
 have same : erase Key.signature (insert Key.signature signature fields) = erase Key.signature fields := by
  apply ext
  change (insert Key.signature signature fields).entries.kerase Key.signature = fields.entries.kerase Key.signature
  simp
 rw [canonicalSigningData, same, canonicalSigningData]

theorem signFields_insert_signature (hmac : Hmac) (fields : Fields) (signature secret : Text) :
  signFields hmac (fields.insert Key.signature signature) secret = signFields hmac fields secret := by
 simp only [signFields, canonicalSigningData_insert_signature]

theorem appendSignatureFields_spec {signed : Fields} {randomBytes : Bytes}
  (made : appendSignatureFields hmac fields secret issuedAtMs nonce randomBytes = some signed) :
  (∀ key ∉ [Key.issuedAt, Key.nonce, Key.signature], signed.lookup key = fields.lookup key) /\
    signed.lookup Key.issuedAt = some (Text.decimal issuedAtMs) /\
    signed.lookup Key.nonce = some (if nonce = [] then toHex randomBytes else nonce) /\
    signed.lookup Key.signature = some (signFields hmac signed secret) /\
    signFields hmac signed secret ≠ [] := by
 have issuedAt : Key.issuedAt ≠ Key.nonce /\ Key.issuedAt ≠ Key.signature := by decide +kernel
 have nonceKey : Key.nonce ≠ Key.signature := by decide +kernel
 simp only [appendSignatureFields] at made
 split at made
 · cases made
 obtain ⟨present, ⟨⟩⟩ := Option.ite_none_left_eq_some.mp made
 refine ⟨fun key other => ?_, ?_, ?_, ?_, ?_⟩
 · simp only [List.mem_cons, List.not_mem_nil, or_false, not_or] at other
   simp only [lookup_insert_ite, lookup_erase_ite, other, if_false]
 · simp only [lookup_insert_ite, lookup_erase_ite, issuedAt, if_false, if_true]
 · simp only [lookup_insert_ite, lookup_erase_ite, nonceKey, if_false, if_true]
 · rw [signFields_insert_signature, lookup_insert]
 · rw [signFields_insert_signature]
   exact present

structure Authentic (hmac : Hmac) (secret : Text) (options : VerifyOptions) (call : Call)
  (nonce : Text) (issuedAtMs : Nat) : Prop where
 configured : secret ≠ []
 nonceField : call.fields.lookup Key.nonce = some nonce /\ nonce ≠ []
 issuedAtField : ∃ text, call.fields.lookup Key.issuedAt = some text /\ parseU64 text = some issuedAtMs
 notFuture : issuedAtMs ≤ u64 (call.now + options.futureSkewMs)
 notExpired : options.expired issuedAtMs call.now = false
 signed : call.fields.lookup Key.signature = some (signFields hmac call.fields secret) /\
  signFields hmac call.fields secret ≠ []

theorem authenticate_eq_ok {options : VerifyOptions} {call : Call} :
  authenticate hmac secret options call = .ok (nonce, issuedAtMs) ↔
   Authentic hmac secret options call nonce issuedAtMs := by
 constructor
 · intro passed
   rw [authenticate] at passed
   split at passed
   · cases passed
   next configured =>
   split at passed
   next text found signature issued carried presented =>
    split at passed
    · cases passed
    next complete =>
    split at passed
    · cases passed
    next instant parsed =>
    split at passed
    · cases passed
    next early =>
    split at passed
    · cases passed
    next late =>
    simp only at passed
    split at passed
    · cases passed
    next match_ =>
    cases passed
    rw [not_or, not_not] at match_
    rw [not_or, not_or] at complete
    exact
     { configured := configured
       nonceField := ⟨carried, complete.2.1⟩
       issuedAtField := ⟨text, issued, parsed⟩
       notFuture := Nat.le_of_not_lt early
       notExpired := by simpa using late
       signed := ⟨match_.2 ▸ presented, match_.1⟩ }
   next => cases passed
 · intro authentic
   obtain ⟨text, issued, parsed⟩ := authentic.issuedAtField
   have written : text ≠ [] := by
    rintro rfl
    cases parsed
   rw [authenticate, if_neg authentic.configured, issued, authentic.nonceField.1, authentic.signed.1]
   simp [written, authentic.nonceField.2, authentic.signed.2, parsed, authentic.notFuture, authentic.notExpired]

theorem authenticate_ne_error_ok (hmac : Hmac) (secret : Text) (options : VerifyOptions) (call : Call) :
  authenticate hmac secret options call ≠ .error .ok := by
 simp only [authenticate]
 repeat' split
 all_goals nofun

namespace Verifier

theorem verify_cases (hmac : Hmac) (verifier : Verifier) (call : Call) :
  (∃ result, result ≠ .ok /\ verifier.verify hmac call = (verifier, result)) \/
    ∃ nonce issuedAtMs, Authentic hmac verifier.secret verifier.options call nonce issuedAtMs /\
     ((∃ earlier, (verifier.prune call.now).seenNonces.lookup nonce = some earlier /\
        verifier.verify hmac call = (verifier.prune call.now, .replay)) \/
       ((verifier.prune call.now).seenNonces.lookup nonce = none /\ verifier.verify hmac call =
          ({ verifier.prune call.now with
              seenNonces := (verifier.prune call.now).seenNonces.insert nonce issuedAtMs }, .ok))) := by
 rw [verify]
 cases checked : authenticate hmac verifier.secret verifier.options call with
 | error result =>
  refine .inl ⟨result, ?_, rfl⟩
  rintro rfl
  exact authenticate_ne_error_ok hmac _ _ call checked
 | ok passed =>
  obtain ⟨nonce, issuedAtMs⟩ := passed
  refine .inr ⟨nonce, issuedAtMs, authenticate_eq_ok.mp checked, ?_⟩
  cases seen : (verifier.prune call.now).seenNonces.lookup nonce with
  | some earlier => exact .inl ⟨earlier, rfl, by simp only [seen]⟩
  | none => exact .inr ⟨rfl, by simp only [seen]⟩

variable (verifier : Verifier)

theorem verify_settings (call : Call) : (verifier.verify hmac call).1.secret = verifier.secret /\
    (verifier.verify hmac call).1.options = verifier.options := by
 obtain ⟨_, _, answered⟩ | ⟨_, _, _, ⟨_, _, answered⟩ | ⟨_, answered⟩⟩ := verifier.verify_cases hmac call
 all_goals
  rw [answered]
  exact ⟨rfl, rfl⟩

theorem verify_secret (call : Call) : (verifier.verify hmac call).1.secret = verifier.secret :=
 (verifier.verify_settings call).1

theorem verify_options (call : Call) : (verifier.verify hmac call).1.options = verifier.options :=
 (verifier.verify_settings call).2

theorem authentic_of_verify_ok {verifier : Verifier} {call : Call}
  (accepted : (verifier.verify hmac call).2 = .ok) :
  ∃ nonce issuedAtMs, Authentic hmac verifier.secret verifier.options call nonce issuedAtMs := by
 obtain ⟨result, refused, answered⟩ | ⟨nonce, issuedAtMs, authentic, -⟩ :=
  verifier.verify_cases hmac call
 · rw [answered] at accepted
   exact absurd accepted refused
 · exact ⟨nonce, issuedAtMs, authentic⟩

end Verifier

-- No second field follows, and the text has no other '=' that could end the key of a field to be signed.
def Fields.OneReading (fields : Fields) : Prop :=
 match fields.sorted with
 | [] => True
 | [(key, value)] => '=' ∉ value /\ ∀ before after, key = before ++ '=' :: after -> before = Key.signature
 | _ => False

theorem canonicalSigningData_unsigned (unsigned : fields.lookup Key.signature = none) :
  canonicalSigningData fields = writeEntries '=' '\n' fields.sorted := by
 have same : fields.erase Key.signature = fields := ext (List.kerase_of_notMem_keys (lookup_eq_none.mp unsigned))
 rw [canonicalSigningData, same]

theorem reading_unique {key value other tail : Text} (plain : '=' ∉ value)
  (ends : ∀ before after, key = before ++ '=' :: after -> before = Key.signature) (unsigned : other ≠ Key.signature)
  (same : other ++ '=' :: tail = key ++ '=' :: value) : other = key /\ tail = value := by
 obtain ⟨part, rfl, rest⟩ | ⟨part, rfl, rest⟩ := List.append_eq_append_iff.mp same
 · cases part with
   | nil => simpa using rest
   | cons letter part =>
    obtain ⟨rfl, -⟩ := List.cons.inj rest
    exact absurd (ends other part rfl) unsigned
 · cases part with
   | nil => simpa using rest.symm
   | cons letter part =>
    obtain ⟨-, rfl⟩ := List.cons.inj rest
    exact absurd (by simp) plain

theorem Fields.OneReading.determined (one : fields.OneReading) (unsigned : fields.lookup Key.signature = none)
  {other : Fields} (otherUnsigned : other.lookup Key.signature = none)
  (same : canonicalSigningData other = canonicalSigningData fields) : other.Same fields := by
 rw [canonicalSigningData_unsigned unsigned, canonicalSigningData_unsigned otherUnsigned] at same
 refine lookup_eq_of_sorted_eq ?_
 have unsignedKeys : ∀ binding ∈ other.sorted, binding.1 ≠ Key.signature := by
  intro binding member signature
  rw [mem_sorted, signature, otherUnsigned] at member
  cases member
 generalize other.sorted = read at same unsignedKeys
 unfold OneReading at one
 cases read with
 | nil =>
  cases written : fields.sorted with
  | nil => rfl
  | cons first rest =>
   obtain ⟨tail, text, -⟩ := writeEntries_cons '=' '\n' first rest
   rw [written, text] at same
   simp [writeEntries] at same
 | cons first rest =>
  obtain ⟨tail, text, last⟩ := writeEntries_cons '=' '\n' first rest
  rw [text] at same
  split at one
  next none =>
   rw [none] at same
   simp [writeEntries] at same
  next key value single =>
   rw [single] at same ⊢
   obtain ⟨keys, values⟩ := reading_unique one.1 one.2 (unsignedKeys first List.mem_cons_self)
    (by simpa [writeEntries, writeEntry] using same)
   obtain ⟨rfl, rfl⟩ := last fun marked => one.1 (values ▸ List.mem_append_right _ marked)
   rw [<- keys, <- values, List.append_nil]
  next => exact one.elim

theorem oneReading_of_determined (unsigned : fields.lookup Key.signature = none)
  (determined : ∀ other : Fields, other.lookup Key.signature = none ->
    canonicalSigningData other = canonicalSigningData fields -> other.Same fields) : fields.OneReading := by
 -- each '=' that may end a key gives a map of one field with this text
 have stored (key value : Text) (named : key ≠ Key.signature)
   (text : writeEntries '=' '\n' fields.sorted = key ++ '=' :: value) : fields.lookup key = some value := by
  have unsigned' : (insert key value ∅ : Fields).lookup Key.signature = none := by
   rw [lookup_insert_ite, if_neg named.symm]
   rfl
  have same := determined (insert key value ∅) unsigned' (by
   rw [canonicalSigningData_unsigned unsigned', canonicalSigningData_unsigned unsigned, text]
   exact List.append_nil _)
  rw [<- same key, lookup_insert]
 unfold Fields.OneReading
 cases written : fields.sorted with
 | nil => trivial
 | cons first rest =>
  obtain ⟨key, value⟩ := first
  have present : fields.lookup key = some value := mem_sorted.mp (written ▸ List.mem_cons_self)
  have named : key ≠ Key.signature := by
   rintro rfl
   cases unsigned.symm.trans present
  obtain ⟨tail, text, last⟩ := writeEntries_cons '=' '\n' (key, value) rest
  rw [<- written] at text
  have whole := stored key (value ++ tail) named text
  obtain rfl : tail = [] := by simpa using present.symm.trans whole
  obtain ⟨rfl, -⟩ := last List.not_mem_nil
  rw [List.append_nil] at text
  have only (other tail : Text) (otherNamed : other ≠ Key.signature)
   (reads : key ++ '=' :: value = other ++ '=' :: tail) :
    (other, tail) ∈ [(key, value)] := by
   rw [<- written]
   exact mem_sorted.mpr (stored other tail otherNamed (text.trans reads))
  constructor
  · intro marked
    obtain ⟨before, after, rfl⟩ := List.append_of_mem marked
    have otherNamed : key ++ '=' :: before ≠ Key.signature := by
     intro same
     exact absurd (same ▸ (by simp : '=' ∈ key ++ '=' :: before)) (by decide +kernel)
    simpa using only (key ++ '=' :: before) after otherNamed (by simp)
  · rintro before after rfl
    by_contra otherNamed
    simpa using only before (after ++ '=' :: value) otherNamed (by simp)

/-- Under a collision-free hash the canonical text determines the map, and so does a signature under which
it is accepted: just when it has at most one field and only one '=' at which the key of a field can end. -/
theorem canonical_text_has_one_reading (hmac : Hmac) (free : hmac.CollisionFree) (fields : Fields)
  (unsigned : fields.lookup Key.signature = none) :
  (∀ other : Fields, other.lookup Key.signature = none ->
    (canonicalSigningData other = canonicalSigningData fields -> other.Same fields) /\
    ∀ (first second : Verifier) (signature : Text) (now later : Nat), first.secret = second.secret ->
     (first.verify hmac ⟨other.insert Key.signature signature, now⟩).2 = .ok ->
     (second.verify hmac ⟨fields.insert Key.signature signature, later⟩).2 = .ok -> other.Same fields) ↔
  fields.OneReading := by
 constructor
 · exact fun claim => oneReading_of_determined unsigned fun other otherUnsigned => (claim other otherUnsigned).1
 · intro one other otherUnsigned
   refine ⟨one.determined unsigned otherUnsigned, ?_⟩
   intro first second signature now later shared acceptedFirst acceptedSecond
   obtain ⟨_, _, authentic⟩ := Verifier.authentic_of_verify_ok acceptedFirst
   obtain ⟨_, _, otherAuthentic⟩ := Verifier.authentic_of_verify_ok acceptedSecond
   have signed := authentic.signed
   have otherSigned := otherAuthentic.signed
   rw [signFields_insert_signature, lookup_insert, Option.some.injEq] at signed otherSigned
   rw [<- shared] at otherSigned
   exact one.determined unsigned otherUnsigned
    (canonical_eq_of_signFields_eq free (signed.1.symm.trans otherSigned.1) signed.2)

def transcript : Hmac := fun _ data => some (data.flatMap fun letter => writeBe32 letter.toNat)

theorem writeBe32_injective {left right : Nat} (boundLeft : left < 4294967296)
  (boundRight : right < 4294967296) (same : writeBe32 left = writeBe32 right) : left = right := by
 have digits := congrArg (fun bytes => readBe32 bytes 0) same
 simp only [writeBe32, readBe32, byteAt_cons_succ, byteAt_cons_zero,
  toNat_ofNat, be32_digits, Nat.mod_eq_of_lt boundLeft, Nat.mod_eq_of_lt boundRight] at digits
 exact digits

theorem transcript_collisionFree : transcript.CollisionFree := by
 intro secret left
 induction left with
 | nil =>
  rintro (_ | ⟨letter, rest⟩) _ ⟨⟩ same
  · rfl
  · cases same
 | cons letter rest ih =>
  rintro (_ | ⟨other, tail⟩) _ ⟨⟩ same
  · cases same
  · have parts := List.append_inj (Option.some.inj same) rfl
    have bound (symbol : Char) : symbol.toNat < 4294967296 := symbol.val.toNat_lt
    have letters : other = letter :=
     Char.toNat_inj.mp (writeBe32_injective (bound other) (bound letter) parts.1)
    rw [letters, ih tail _ rfl (congrArg some parts.2)]

def fieldsOf (bindings : List (String × String)) : Fields :=
 insertAll ∅ (bindings.map fun binding => (binding.1.toList, binding.2.toList))

theorem line_break_without_a_key_is_harmless :
  Fields.OneReading (fieldsOf [("a", "x\ny")]) /\ ∀ other : Fields, other.lookup Key.signature = none ->
   canonicalSigningData other = "a=x\ny".toList -> other.Same (fieldsOf [("a", "x\ny")]) := by
 have one : Fields.OneReading (fieldsOf [("a", "x\ny")]) := by
  refine ⟨by decide +kernel, fun before after split => ?_⟩
  exact absurd (split ▸ (by simp : '=' ∈ before ++ '=' :: after)) (by decide +kernel)
 refine ⟨one, fun other unsigned same => ?_⟩
 exact ((canonical_text_has_one_reading transcript transcript_collisionFree _ (by decide +kernel)).mpr one other
  unsigned).1 (same.trans (by decide +kernel))

theorem line_break_adds_a_field :
  ∃ (hmac : Hmac) (left right : Fields) (signature : Text) (verifier : Verifier) (now : Nat),
   hmac.CollisionFree /\ left.lookup Key.signature = none /\ right.lookup Key.signature = none /\
    canonicalSigningData left = canonicalSigningData right /\
    (verifier.verify hmac ⟨left.insert Key.signature signature, now⟩).2 = .ok /\
    (verifier.verify hmac ⟨right.insert Key.signature signature, now⟩).2 = .ok /\ ¬left.Same right := by
 refine ⟨transcript, fieldsOf [("issued_at", "5"), ("nonce", "n1"), ("tags", "a\ntext=hi")],
  fieldsOf [("issued_at", "5"), ("nonce", "n1"), ("tags", "a"), ("text", "hi")],
  signFields transcript (fieldsOf [("issued_at", "5"), ("nonce", "n1"), ("tags", "a\ntext=hi")]) "s".toList,
  { secret := "s".toList }, 5, transcript_collisionFree, by decide +kernel, by decide +kernel,
  by decide +kernel, by decide +kernel, by decide +kernel, ?_⟩
 intro same
 exact absurd (same "text".toList) (by decide +kernel)

end Dynaxis.Admin
