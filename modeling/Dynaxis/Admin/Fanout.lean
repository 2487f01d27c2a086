import Dynaxis.Admin.Console

namespace Dynaxis.Admin

open Shared Text List Option ModerationOp Table

def parseKvLines (payload : Text) : Fields :=
 insertAll ∅ (((readEntries '=' '\n' payload).map fun entry =>
  (trim entry.1, trim entry.2)).filter fun entry => entry.1 ≠ [])

structure InstanceRecord where
 instanceId : Text := []
 role : Text := []
 gameMode : Text := []
 region : Text := []
 shard : Text := []
 tags : List Text := []

def normalizeToken (text : Text) : Text := toLower (trim text)

def normalizeTokenSet (texts : List Text) : List Text := (texts.map normalizeToken).filter (· ≠ [])

def matchesField (value : Text) (filters : List Text) : Bool :=
 filters = [] || (normalizeTokenSet filters).any (· = normalizeToken value)

def matchesTags (recordTags selectorTags : List Text) : Bool :=
 selectorTags = [] || recordTags.any fun tag => (normalizeTokenSet selectorTags).any (· = normalizeToken tag)

def hasAtLeastOneSelectorField (selector : InstanceSelector) : Bool :=
 selector.all || selector.serverIds ≠ [] || selector.roles ≠ [] || selector.gameModes ≠ [] ||
  selector.regions ≠ [] || selector.shards ≠ [] || selector.tags ≠ []

def matchesSelector (record : InstanceRecord) (selector : InstanceSelector) : Bool :=
 selector.all ||
  (hasAtLeastOneSelectorField selector && matchesField record.instanceId selector.serverIds &&
    matchesField record.role selector.roles && matchesField record.gameMode selector.gameModes &&
    matchesField record.region selector.regions && matchesField record.shard selector.shards &&
    matchesTags record.tags selector.tags)

def targetsInstance (record : InstanceRecord) (fields : Fields) : Bool :=
 -- a command without any selector field is for every instance
 !(Key.selectors.any fun key => (fields.lookup key).isSome) ||
   match parseAll fields with
   | .error _ => false
   | .ok all => matchesSelector record (selectorOf fields (all.getD false))

inductive ExactFanoutChannel
 | whisper
 | adminDisconnect
 | adminAnnounce
 | adminSettings
 | adminModeration
 deriving DecidableEq

def exactChannels : List (Text × ExactFanoutChannel) :=
 [("fanout:whisper".toList, .whisper), ("fanout:admin:disconnect".toList, .adminDisconnect),
   ("fanout:admin:announce".toList, .adminAnnounce), ("fanout:admin:settings".toList, .adminSettings),
   ("fanout:admin:moderation".toList, .adminModeration)]

inductive Effect
 | broadcastRefresh (room : Text)
 | broadcastRoom (room body : Text)
 | deliverWhisper (body : Text)
 | disconnectUsers (users : List Text) (reason : Text)
 | broadcastNotice (text : Text)
 | applyRuntimeSetting (rule : RuntimeSettingRule) (value : Nat)
 | applyUserModeration (op : ModerationOp) (users : List Text) (durationSec : Nat) (reason : Text)
 deriving DecidableEq

def Effect.op : Effect -> Option AdminOp
 | .disconnectUsers .. => some .disconnect
 | .broadcastNotice .. => some .announce
 | .applyRuntimeSetting .. => some .settings
 | .applyUserModeration op .. => some (.moderation op)
 | _ => none

def ModerationOp.ofText (text : Text) : Option ModerationOp :=
 [mute, .unmute, .ban, .unban, .kick].find? fun op => op.text = text

def recentHistoryLimit : Text := "recent_history_limit".toList

def roomRecentMaxlen : Text := "room_recent_maxlen".toList

section

variable (recentLimit : Nat) (channel : ExactFanoutChannel) (payload : Text) (fields : Fields)

def adminApplyRuntimeSetting (key value : Text) : Option Effect :=
 match parseU32Strict (trim value), findRuntimeSettingRule (toLower (trim key)) with
 | some parsed, some rule =>
  let minAllowed := if rule.keyName = roomRecentMaxlen then max rule.minValue recentLimit else rule.minValue
  if parsed < minAllowed \/ rule.maxValue < parsed then none else some (.applyRuntimeSetting rule parsed)
 | _, _ => none

def adminApplyUserModeration (op : Text) (users : List Text) (durationSec : Nat) (reason : Text) :
  Option Effect :=
 let targets := (users.map trim).filter (· ≠ [])
 if targets = [] then none
 else
  -- any other operation only leaves a line in the log
  (ofText (toLower (trim op))).map fun op => .applyUserModeration op targets durationSec (trim reason)

def durationOf : Nat :=
 match fields.lookup Key.durationSec with
 | none => 0
 -- `stoull` throws on anything but a number, and the handler goes on with zero
 | some raw => if raw = [] then 0 else (stoull raw).elim 0 fun parsed => u32 parsed.1

def usersOf : Option (List Text) :=
 match (fields.lookup Key.clientIds).elim [] splitCsv with
 | [] => none
 | users => some users

def filledField (key : Text) : Option Text := (fields.lookup key).filter (· ≠ [])

def dispatchExactFanoutChannel : Option Effect :=
 match channel with
 | .whisper => some (.deliverWhisper payload)
 | .adminDisconnect =>
  (usersOf fields).map fun users =>
    .disconnectUsers users ((filledField fields Key.reason).getD "Disconnected by administrator".toList)
 | .adminAnnounce => (filledField fields Key.text).map .broadcastNotice
 | .adminSettings => do
  let key <- filledField fields Key.key
  let value <- filledField fields Key.value
  adminApplyRuntimeSetting recentLimit key value
 | .adminModeration => do
  let op <- filledField fields Key.op
  let users <- usersOf fields
  adminApplyUserModeration op users (durationOf fields) ((fields.lookup Key.reason).getD [])

end

structure Server where
 gatewayId : Text
 channelPrefix : Text := []
 instanceRecord : InstanceRecord := {}
 recentLimit : Nat := 20
 verifier : Verifier

/-- A message of the broker. `admitted` says that no hook refused the command and that the
job queue had room for it. -/
structure Delivery where
 channel : Text
 message : Text
 now : Nat
 admitted : Bool := true

section

variable (hmac : Hmac) (server : Server)

def Server.matchExactChannel (channel : Text) : Option ExactFanoutChannel :=
 (exactChannels.find? fun entry => channel = server.channelPrefix ++ entry.1).map (·.2)

def appliedRecentLimit (recentLimit : Nat) : Option Effect -> Nat
 | some (.applyRuntimeSetting rule value) => if rule.keyName = recentHistoryLimit then value else recentLimit
 | _ => recentLimit

def Server.receiveAdmin (delivery : Delivery) (channel : ExactFanoutChannel)
  (payload : Text) : Server × Option Effect :=
 let fields := parseKvLines payload
 let verified := server.verifier.verify hmac ⟨fields, delivery.now⟩
 let server := { server with verifier := verified.1 }
 if verified.2 = .ok /\ targetsInstance server.instanceRecord fields then
  let effect :=
   (dispatchExactFanoutChannel server.recentLimit channel payload fields).filter fun _ => delivery.admitted
  ({ server with recentLimit := appliedRecentLimit server.recentLimit effect }, effect)
 else (server, none)

def Server.receive (delivery : Delivery) : Server × Option Effect :=
 if ¬"gw=".toList <+: delivery.message then (server, none)
 else
  let sender := (delivery.message.takeWhile (· ≠ '\n')).drop 3
  let payload := if '\n' ∈ delivery.message then some (delivery.message.dropWhile (· ≠ '\n')).tail else none
  let refreshPrefix := server.channelPrefix ++ "fanout:refresh:".toList
  let roomPrefix := server.channelPrefix ++ "fanout:room:".toList
  if sender = server.gatewayId then (server, none)
  else if refreshPrefix <+: delivery.channel then
   (server, some (.broadcastRefresh (delivery.channel.drop refreshPrefix.length)))
  else if roomPrefix <+: delivery.channel then
   (server, payload.map (.broadcastRoom (delivery.channel.drop roomPrefix.length)))
  else
   match server.matchExactChannel delivery.channel, payload with
   | some .whisper, some payload => (server, some (.deliverWhisper payload))
   | some channel, some payload => server.receiveAdmin hmac delivery channel payload
   | _, _ => (server, none)

def Server.after (deliveries : List Delivery) : Server :=
 deliveries.foldl (fun server delivery => (server.receive hmac delivery).1) server

end

abbrev PlainKey (key : Text) : Prop := key ≠ [] /\ trim key = key /\ '=' ∉ key /\ '\n' ∉ key

structure Fields.Written (fields : Fields) : Prop where
 plain : ∀ key value, fields.lookup key = some value -> PlainKey key
 oneLine : ∀ key value, fields.lookup key = some value -> Text.OneLine value

variable {fields signed : Fields} {letter : Char} {hmac : Hmac} {secret key value name : Text}
 {effect : Effect} {server : Server}

theorem Fields.Written.separable (written : fields.Written) : fields.Separable := by
 intro binding member
 have found := mem_sorted.mp member
 have plain := written.plain _ _ found
 exact ⟨plain.2.2.1, plain.2.2.2, written.oneLine _ _ found⟩

theorem lookup_parseKvLines (written : fields.Written) (key : Text) :
  (parseKvLines (toKvPayload fields)).lookup key = (fields.lookup key).map trim := by
 have entries : ((fields.sorted.map fun entry => (trim entry.1, trim entry.2)).filter
   fun entry => entry.1 ≠ []) = fields.sorted.map fun entry => (entry.1, trim entry.2) := by
  have trimmed : (fields.sorted.map fun entry => (trim entry.1, trim entry.2)) =
    fields.sorted.map fun entry => (entry.1, trim entry.2) := by
   refine map_congr_left fun entry member => ?_
   rw [(written.plain _ _ (mem_sorted.mp member)).2.1]
  rw [trimmed, filter_eq_self]
  intro entry member
  obtain ⟨original, among, rfl⟩ := mem_map.mp member
  simpa using (written.plain _ _ (mem_sorted.mp among)).1
 rw [parseKvLines, toKvPayload, readEntries_writeEntries (by decide) written.separable, entries]
 have keys : (fields.sorted.map fun entry => (entry.1, trim entry.2)).map Prod.fst = fields.sorted.map Prod.fst := by
  rw [List.map_map]
  rfl
 cases found : fields.lookup key with
 | some value =>
  refine lookup_insertAll_of_mem ∅ (keys ▸ nodup_keys_sorted fields) ?_
  exact mem_map.mpr ⟨(key, value), mem_sorted.mpr found, rfl⟩
 | none =>
  refine (lookup_insertAll_of_notMem ∅ ?_).trans rfl
  rw [keys, List.mem_map]
  rintro ⟨binding, member, rfl⟩
  cases found.symm.trans (mem_sorted.mp member)

theorem separable_parseKvLines (payload : Text) : (parseKvLines payload).Separable := by
 rintro ⟨key, value⟩ member
 obtain among | impossible := mem_of_lookup_insertAll (mem_sorted.mp member)
 · obtain ⟨entry, read, ⟨⟩⟩ := mem_map.mp (mem_filter.mp among).1
   have separable := separable_of_mem_readEntries read
   exact ⟨fun inside => separable.1 ((trim_sublist _).subset inside),
    fun inside => separable.2.1 ((trim_sublist _).subset inside),
    fun inside => separable.2.2 ((trim_sublist _).subset inside)⟩
 · cases impossible

theorem isSpace_hexDigit {value : Nat} (bound : value < 16) : isSpace (hexDigit value) = false := by
 have all : ∀ value < 16, isSpace (hexDigit value) = false := by decide +kernel
 exact all value bound

theorem isSpace_of_mem_toHex {bytes : Bytes} (member : letter ∈ toHex bytes) : isSpace letter = false := by
 obtain ⟨byte, -, digit⟩ := mem_flatMap.mp member
 have bound := byte.toNat_lt
 simp only [mem_cons, not_mem_nil, or_false] at digit
 obtain rfl | rfl := digit
 · exact isSpace_hexDigit (by omega)
 · exact isSpace_hexDigit (by omega)

theorem isSpace_of_mem_signFields (member : letter ∈ signFields hmac fields secret) : isSpace letter = false := by
 obtain failed | ⟨digest, -, signature⟩ := signFields_eq_nil_or hmac fields secret
 · rw [failed] at member
   cases member
 · rw [signature] at member
   exact isSpace_of_mem_toHex member

theorem oneLine_of_solid {text : Text} (solid : ∀ letter ∈ text, isSpace letter = false) : Text.OneLine text :=
 fun member => absurd (solid '\n' member) (by decide)

theorem parsed_same (free : hmac.CollisionFree) {verifier : Verifier} {now : Nat} (written : signed.Written)
  (signature : signed.lookup Key.signature = some (signFields hmac signed verifier.secret))
  (accepted : (verifier.verify hmac ⟨parseKvLines (toKvPayload signed), now⟩).2 = .ok) :
  (parseKvLines (toKvPayload signed)).Same signed := by
 obtain ⟨_, _, authentic⟩ := Verifier.authentic_of_verify_ok accepted
 have presented : (parseKvLines (toKvPayload signed)).lookup Key.signature =
   some (signFields hmac signed verifier.secret) := by
  rw [lookup_parseKvLines written, signature, map_some, trim_eq_self fun _ => isSpace_of_mem_signFields]
 have equal := some.inj (authentic.signed.1.symm.trans presented)
 have canonical := canonical_eq_of_signFields_eq free equal authentic.signed.2
 intro key
 by_cases last : key = Key.signature
 · rw [last, presented, signature]
 · exact canonicalSigningData_injective (separable_parseKvLines _) written.separable canonical last

theorem dispatch_congr {left right : Fields} (same : left.Same right) (recentLimit : Nat)
  (channel : ExactFanoutChannel) (payload : Text) :
  dispatchExactFanoutChannel recentLimit channel payload left =
   dispatchExactFanoutChannel recentLimit channel payload right := by
 cases channel <;> simp only [dispatchExactFanoutChannel, usersOf, filledField, durationOf, same _]

structure SignedMessage (hmac : Hmac) (secret : Text) where
 request : AdminRequest
 issuedAtMs : Nat
 randomBytes : Bytes
 text : Text
 made : request.message hmac secret issuedAtMs randomBytes = .ok text

structure Publication (hmac : Hmac) (secret : Text) where
 signed : SignedMessage hmac secret
 channelName : Text
 now : Nat
 admitted : Bool := true

section

variable {hmac : Hmac} {secret : Text} (publication : Publication hmac secret) (server : Server)

def adminChannel (name : Text) : Text := server.channelPrefix ++ ("fanout:admin:".toList ++ name)

def Publication.delivery : Delivery :=
 { channel := adminChannel server publication.channelName
   message := publication.signed.text
   now := publication.now
   admitted := publication.admitted }

def AdminOp.channel : AdminOp -> ExactFanoutChannel
 | .disconnect => .adminDisconnect
 | .announce => .adminAnnounce
 | .settings => .adminSettings
 | .moderation _ => .adminModeration

def ExactFanoutChannel.adminName : ExactFanoutChannel -> Text
 | .whisper => []
 | .adminDisconnect => "disconnect".toList
 | .adminAnnounce => "announce".toList
 | .adminSettings => "settings".toList
 | .adminModeration => "moderation".toList

/-- The message was made from one-line parameters and, if it is a moderation command, is
not put on the channel of the disconnect commands. -/
def Publication.Addressed : Prop :=
 publication.signed.request.params.OneLine /\
  ∀ op, publication.signed.request.op = .moderation op ->
   publication.channelName ≠ ExactFanoutChannel.adminDisconnect.adminName

structure SignedMessage.Carries (message : SignedMessage hmac secret)
  (signed : Fields) : Prop where
 text : message.text = senderLine ++ '\n' :: toKvPayload signed
 op : signed.lookup Key.op = some message.request.op.text
 absent : ∀ key ∉ message.request.op.keys ++ [Key.issuedAt, Key.nonce, Key.signature],
  signed.lookup key = none
 signature : signed.lookup Key.signature = some (signFields hmac signed secret)
 written : message.request.params.OneLine -> signed.Written

end

theorem AdminOp.key_texts : Key.op ∉ [Key.issuedAt, Key.nonce, Key.signature] /\
  ∀ op ∈ [AdminOp.disconnect, .announce, .settings, .moderation .mute],
   (∀ key ∈ op.keys ++ [Key.issuedAt, Key.nonce, Key.signature], PlainKey key) /\
   (Key.clientIds ∈ op.keys ++ [Key.issuedAt, Key.nonce, Key.signature] ->
     op = .disconnect \/ op = .moderation .mute) /\
   (Key.text ∈ op.keys ++ [Key.issuedAt, Key.nonce, Key.signature] -> op = .announce) /\
   (Key.key ∈ op.keys ++ [Key.issuedAt, Key.nonce, Key.signature] -> op = .settings) := by
 decide +kernel

theorem AdminOp.plain_keys (op : AdminOp) :
  ∀ key ∈ op.keys ++ [Key.issuedAt, Key.nonce, Key.signature], PlainKey key := by
 cases op with
 | disconnect => exact (key_texts.2 .disconnect (by decide)).1
 | announce => exact (key_texts.2 .announce (by decide)).1
 | settings => exact (key_texts.2 .settings (by decide)).1
 | moderation op => exact (key_texts.2 (.moderation .mute) (by decide)).1

theorem SignedMessage.exists_carries (message : SignedMessage hmac secret) : ∃ signed, message.Carries signed := by
 obtain ⟨request, issuedAtMs, randomBytes, text, made⟩ := message
 obtain ⟨fields, listed, made⟩ := except_bind_ok made
 obtain ⟨bindings, bound, ⟨⟩⟩ := except_bind_ok listed
 obtain ⟨keys, named, oneLine⟩ := AdminRequest.bindings_spec bound
 simp only [buildSignedAdminMessage] at made
 split at made
 · cases made
 next built =>
 cases made
 obtain ⟨-, built⟩ := ite_none_left_eq_some.mp built
 obtain ⟨signed, appended, rfl⟩ := map_eq_some_iff.mp built
 obtain ⟨others, issuedAt, nonce, signature, -⟩ := appendSignatureFields_spec appended
 have known (key value : Text) (found : signed.lookup key = some value) :
   key ∈ request.op.keys ++ [Key.issuedAt, Key.nonce, Key.signature] /\
    (request.params.OneLine -> Text.OneLine value) := by
  by_cases added : key ∈ [Key.issuedAt, Key.nonce, Key.signature]
  · refine ⟨mem_append_right _ added, fun _ => ?_⟩
    simp only [mem_cons, not_mem_nil, or_false] at added
    obtain rfl | rfl | rfl := added
    · cases issuedAt.symm.trans found
      exact oneLine_decimal _
    · cases nonce.symm.trans found
      exact oneLine_of_solid fun _ => isSpace_of_mem_toHex
    · cases signature.symm.trans found
      exact oneLine_of_solid fun _ => isSpace_of_mem_signFields
  · rw [others key added] at found
    obtain member | impossible := mem_of_lookup_insertAll found
    · refine ⟨mem_append_left _ (keys.subset (mem_map_of_mem member)), fun lines => ?_⟩
      exact oneLine lines _ member
    · cases impossible
 refine ⟨signed, rfl, ?_, ?_, signature, ?_⟩
 · rw [others _ AdminOp.key_texts.1]
   exact lookup_insertAll_of_mem ∅ (request.op.nodup_keys.sublist keys) named
 · intro key unknown
   cases found : signed.lookup key with
   | none => rfl
   | some value => exact absurd (known key value found).1 unknown
 · exact fun lines => ⟨fun key value found => request.op.plain_keys key (known key value found).1,
    fun key value found => (known key value found).2 lines⟩

theorem AdminOp.of_mem_keys (op : AdminOp) : (Key.clientIds ∈ op.keys ++ [Key.issuedAt, Key.nonce, Key.signature] ->
    op = .disconnect \/ ∃ moderation, op = .moderation moderation) /\
    (Key.text ∈ op.keys ++ [Key.issuedAt, Key.nonce, Key.signature] -> op = .announce) /\
    (Key.key ∈ op.keys ++ [Key.issuedAt, Key.nonce, Key.signature] -> op = .settings) := by
 cases op with
 | disconnect =>
  obtain ⟨-, -, text, key⟩ := key_texts.2 .disconnect (by decide)
  exact ⟨fun _ => .inl rfl, text, key⟩
 | announce =>
  obtain ⟨-, clientIds, -, key⟩ := key_texts.2 .announce (by decide)
  exact ⟨fun member => (nomatch clientIds member), fun _ => rfl, key⟩
 | settings =>
  obtain ⟨-, clientIds, text, -⟩ := key_texts.2 .settings (by decide)
  exact ⟨fun member => (nomatch clientIds member), text, fun _ => rfl⟩
 | moderation moderation =>
  obtain ⟨-, -, text, key⟩ := key_texts.2 (.moderation .mute) (by decide)
  exact ⟨fun _ => .inr ⟨moderation, rfl⟩, fun member => (nomatch text member), fun member => (nomatch key member)⟩

theorem fanout_texts : '\n' ∉ senderLine /\ "fanout:admin:".toList.length = 13 /\
  (∀ other ∈ ["fanout:refresh:".toList, "fanout:room:".toList],
    ¬other <+: "fanout:admin:".toList /\ ¬"fanout:admin:".toList <+: other) /\
  (∀ entry ∈ exactChannels, entry.1.take 13 = "fanout:admin:".toList ->
    entry.2 ≠ .whisper /\ entry.1.drop 13 = entry.2.adminName) /\
  ofText (toLower (trim AdminOp.disconnect.text)) = none /\
  ∀ op ∈ [mute, .unmute, .ban, .unban, .kick], ofText (toLower (trim op.text)) = some op := by
 decide +kernel

theorem ModerationOp.ofText_text (op : ModerationOp) : ofText (toLower (trim op.text)) = some op := by
 obtain ⟨-, -, -, -, -, each⟩ := fanout_texts
 exact each op (by cases op <;> decide)

theorem SignedMessage.Carries.mem_keys {message : SignedMessage hmac secret}
  (carries : message.Carries signed) (found : signed.lookup key = some value) :
  key ∈ message.request.op.keys ++ [Key.issuedAt, Key.nonce, Key.signature] := by
 by_contra unknown
 cases found.symm.trans (carries.absent key unknown)

theorem lookup_of_filledField (filled : filledField fields key = some value) : fields.lookup key = some value :=
 (filter_eq_some_iff.mp filled).1

theorem lookup_of_usersOf {users : List Text} (named : usersOf fields = some users) :
  ∃ value, fields.lookup Key.clientIds = some value := by
 cases found : fields.lookup Key.clientIds with
 | none =>
  rw [usersOf, found] at named
  cases named
 | some value => exact ⟨value, rfl⟩

theorem effect_of_signed {message : SignedMessage hmac secret} (carries : message.Carries signed)
  {recentLimit : Nat} {channel : ExactFanoutChannel} {payload : Text} (admin : channel ≠ .whisper)
  (separate : ∀ op, message.request.op = .moderation op -> channel ≠ .adminDisconnect)
  (acted : dispatchExactFanoutChannel recentLimit channel payload signed = some effect) :
  channel = message.request.op.channel /\ effect.op = some message.request.op := by
 cases channel with
 | whisper => exact absurd rfl admin
 | adminDisconnect =>
  obtain ⟨users, named, rfl⟩ := map_eq_some_iff.mp acted
  obtain ⟨value, found⟩ := lookup_of_usersOf named
  obtain op | ⟨moderation, op⟩ := message.request.op.of_mem_keys.1 (carries.mem_keys found)
  · rw [op]
    exact ⟨rfl, rfl⟩
  · exact absurd rfl (separate moderation op)
 | adminAnnounce =>
  obtain ⟨text, filled, rfl⟩ := map_eq_some_iff.mp acted
  rw [message.request.op.of_mem_keys.2.1 (carries.mem_keys (lookup_of_filledField filled))]
  exact ⟨rfl, rfl⟩
 | adminSettings =>
  obtain ⟨key, filled, acted⟩ := bind_eq_some_iff.mp acted
  obtain ⟨value, -, acted⟩ := bind_eq_some_iff.mp acted
  rw [message.request.op.of_mem_keys.2.2 (carries.mem_keys (lookup_of_filledField filled))]
  rw [adminApplyRuntimeSetting] at acted
  split at acted
  · obtain ⟨-, ⟨⟩⟩ := ite_none_left_eq_some.mp acted
    exact ⟨rfl, rfl⟩
  · cases acted
 | adminModeration =>
  obtain ⟨text, filled, acted⟩ := bind_eq_some_iff.mp acted
  obtain ⟨users, named, acted⟩ := bind_eq_some_iff.mp acted
  obtain ⟨value, found⟩ := lookup_of_usersOf named
  obtain ⟨-, acted⟩ := ite_none_left_eq_some.mp acted
  obtain ⟨applied, parsed, rfl⟩ := map_eq_some_iff.mp acted
  have signedOp := some.inj ((lookup_of_filledField filled).symm.trans carries.op)
  obtain op | ⟨moderation, op⟩ := message.request.op.of_mem_keys.1 (carries.mem_keys found)
  · rw [signedOp, op] at parsed
    obtain ⟨-, -, -, -, unknown, -⟩ := fanout_texts
    cases unknown.symm.trans parsed
  · have text : message.request.op.text = moderation.text := by
     rw [op]
     rfl
    rw [signedOp, text, ofText_text] at parsed
    cases parsed
    rw [op]
    exact ⟨rfl, rfl⟩

theorem not_isPrefix_adminChannel (other : Text) (shorter : ¬other <+: "fanout:admin:".toList)
  (longer : ¬"fanout:admin:".toList <+: other) (server : Server) (name : Text) :
  ¬server.channelPrefix ++ other <+: adminChannel server name := by
 intro starts
 have inner := (prefix_append_right_inj _).mp starts
 obtain inside | around := prefix_or_prefix_of_prefix inner (prefix_append _ name)
 · exact shorter inside
 · exact longer around

theorem matchExactChannel_adminChannel {channel : ExactFanoutChannel}
  (matched : server.matchExactChannel (adminChannel server name) = some channel) :
  channel ≠ .whisper /\ name = channel.adminName := by
 obtain ⟨entry, found, rfl⟩ := map_eq_some_iff.mp matched
 have same : "fanout:admin:".toList ++ name = entry.1 := by simpa [adminChannel] using find?_some found
 obtain ⟨-, length, -, names, -⟩ := fanout_texts
 have start : ("fanout:admin:".toList ++ name).take 13 = "fanout:admin:".toList := take_left' length
 have rest : ("fanout:admin:".toList ++ name).drop 13 = name := drop_left' length
 rw [same] at start rest
 obtain ⟨admin, named⟩ := names entry (mem_of_find?_eq_some found) start
 exact ⟨admin, rest.symm.trans named⟩

section

variable (hmac : Hmac) (server : Server) (delivery : Delivery)

theorem receiveAdmin_server (channel : ExactFanoutChannel)
  (payload : Text) : ∃ (verifier : Verifier) (recentLimit : Nat), verifier.secret = server.verifier.secret /\
    (server.receiveAdmin hmac delivery channel payload).1 = { server with verifier, recentLimit } := by
 refine ⟨(server.verifier.verify hmac ⟨parseKvLines payload, delivery.now⟩).1, ?_⟩
 simp only [Server.receiveAdmin]
 split
 · exact ⟨_, server.verifier.verify_secret _, rfl⟩
 · exact ⟨server.recentLimit, server.verifier.verify_secret _, rfl⟩

theorem receive_server :
  ∃ (verifier : Verifier) (recentLimit : Nat), verifier.secret = server.verifier.secret /\
   (server.receive hmac delivery).1 = { server with verifier, recentLimit } := by
 simp only [Server.receive]
 repeat' split
 case h_2 => exact receiveAdmin_server hmac server delivery _ _
 all_goals exact ⟨server.verifier, server.recentLimit, rfl, rfl⟩

theorem after_server (deliveries : List Delivery) :
  ∃ (verifier : Verifier) (recentLimit : Nat), verifier.secret = server.verifier.secret /\
   server.after hmac deliveries = { server with verifier, recentLimit } := by
 induction deliveries generalizing server with
 | nil => exact ⟨server.verifier, server.recentLimit, rfl, rfl⟩
 | cons delivery rest ih =>
  obtain ⟨first, _, kept, received⟩ := receive_server hmac server delivery
  obtain ⟨last, recentLimit, later, served⟩ := ih (server.receive hmac delivery).1
  rw [received] at later served
  exact ⟨last, recentLimit, later.trans kept, (congrArg (Server.after hmac · rest) received).trans served⟩

end

theorem receive_adminChannel {delivery : Delivery} {body : Text}
  (channel : delivery.channel = adminChannel server name)
  (message : delivery.message = senderLine ++ '\n' :: body)
   (acted : (server.receive hmac delivery).2 = some effect) :
  ∃ kind, server.matchExactChannel delivery.channel = some kind /\ kind ≠ .whisper /\ name = kind.adminName /\
   (server.verifier.verify hmac ⟨parseKvLines body, delivery.now⟩).2 = .ok /\
   dispatchExactFanoutChannel server.recentLimit kind body (parseKvLines body) = some effect := by
 obtain ⟨plain, -, others, -⟩ := fanout_texts
 have payload : (delivery.message.dropWhile (· ≠ '\n')).tail = body := by
  rw [message, dropWhile_append_of_pos fun letter member => decide_eq_true (ne_of_mem_of_not_mem member plain)]
  rfl
 have broken : '\n' ∈ delivery.message := by simp [message]
 have refresh := not_isPrefix_adminChannel _ (others _ mem_cons_self).1 (others _ mem_cons_self).2 server name
 have room := not_isPrefix_adminChannel _ (others _ (mem_cons_of_mem _ mem_cons_self)).1
  (others _ (mem_cons_of_mem _ mem_cons_self)).2 server name
 rw [<- channel] at refresh room
 rw [Server.receive] at acted
 split at acted
 · cases acted
 simp only [payload, refresh, room, if_false] at acted
 split at acted
 · cases acted
 cases matched : server.matchExactChannel delivery.channel with
 | none =>
  simp only [matched] at acted
  cases acted
 | some kind =>
  obtain ⟨admin, named⟩ := matchExactChannel_adminChannel (channel ▸ matched)
  refine ⟨kind, rfl, admin, named, ?_⟩
  have through : (server.receiveAdmin hmac delivery kind body).2 = some effect := by
   rw [matched] at acted
   cases kind with
   | whisper => exact absurd rfl admin
   | _ => exact acted
  simp only [Server.receiveAdmin] at through
  split at through
  next passed => exact ⟨passed.1, (filter_eq_some_iff.mp through).1⟩
  · cases through

/-- Whatever was delivered before, a signed message that has an effect has the effect of its
operation, and it has it on the channel of its operation only. -/
theorem signed_message_acts_as_its_operation (hmac : Hmac) (free : hmac.CollisionFree) (secret : Text)
  (server : Server) (shared : server.verifier.secret = secret) (earlier : List Delivery)
  (publication : Publication hmac secret) (addressed : publication.Addressed) (effect : Effect)
  (acted : ((server.after hmac earlier).receive hmac (publication.delivery server)).2 = some effect) :
  effect.op = some publication.signed.request.op /\
   publication.channelName = publication.signed.request.op.channel.adminName := by
 obtain ⟨verifier, recentLimit, kept, served⟩ := after_server hmac server earlier
 obtain ⟨signed, carries⟩ := publication.signed.exists_carries
 rw [served] at acted
 obtain ⟨kind, -, admin, named, accepted, dispatched⟩ := receive_adminChannel rfl carries.text acted
 have signature : signed.lookup Key.signature = some (signFields hmac signed verifier.secret) := by
  rw [kept, shared]
  exact carries.signature
 have same := parsed_same free (carries.written addressed.1) signature accepted
 rw [dispatch_congr same] at dispatched
 have separate (op : ModerationOp) (moderation : publication.signed.request.op = .moderation op) :
   kind ≠ .adminDisconnect := by
  rintro rfl
  exact addressed.2 op moderation named
 obtain ⟨own, acts⟩ := effect_of_signed carries admin separate dispatched
 exact ⟨acts, named.trans (congrArg _ own)⟩

def paramsOf (bindings : List (String × String)) : Params := fieldsOf bindings

def signedMessage (request : AdminRequest)
  (passes : (request.message transcript "s".toList 5 [171]).isOk := by decide +kernel) :
  SignedMessage transcript "s".toList :=
 match made : request.message transcript "s".toList 5 [171] with
 | .ok text => { request, issuedAtMs := 5, randomBytes := [171], text, made }
 | .error _ => False.elim (by rw [made] at passes; cases passes)

def edgeServer : Server :=
 { gatewayId := "gw1".toList, verifier := { secret := "s".toList }, instanceRecord := { tags := ["a".toList] } }

def muteBob : SignedMessage transcript "s".toList :=
 signedMessage
  { op := .moderation .mute, params := paramsOf [("client_id", "bob")], actor := "root".toList, requestId := 1 }

def muteOnItsChannel : Publication transcript "s".toList :=
 { signed := muteBob, channelName := "moderation".toList, now := 6 }

theorem mute_on_its_channel_mutes :
  (edgeServer.receive transcript (muteOnItsChannel.delivery edgeServer)).2 =
    some (.applyUserModeration .mute ["bob".toList] 0 []) /\
    (Effect.applyUserModeration .mute ["bob".toList] 0 []).op = some muteBob.request.op := by
 have acted : (edgeServer.receive transcript (muteOnItsChannel.delivery edgeServer)).2 =
  some (.applyUserModeration .mute ["bob".toList] 0 []) := by decide +kernel
 have addressed : muteOnItsChannel.Addressed := by
  refine ⟨by decide +kernel, fun _ _ => ?_⟩
  decide +kernel
 exact ⟨acted, (signed_message_acts_as_its_operation transcript transcript_collisionFree "s".toList edgeServer
  rfl [] muteOnItsChannel addressed _ acted).1⟩

theorem mute_on_the_disconnect_channel_disconnects :
  ∃ (hmac : Hmac) (secret : Text) (server : Server) (publication : Publication hmac secret)
   (effect : Effect), hmac.CollisionFree /\ server.verifier.secret = secret /\
    (server.receive hmac (publication.delivery server)).2 = some effect /\
    publication.signed.request.op = .moderation .mute /\ effect.op = some .disconnect := by
 refine ⟨transcript, "s".toList, edgeServer, { signed := muteBob, channelName := "disconnect".toList, now := 6 },
  .disconnectUsers ["bob".toList] "Disconnected by administrator".toList,
  transcript_collisionFree, rfl, by decide +kernel, by decide +kernel, rfl⟩

end Dynaxis.Admin
