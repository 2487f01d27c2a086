import Dynaxis.Admin.CommandAuth

namespace Dynaxis.Admin

open Shared Text List Option

abbrev Params := Table Text Text

namespace Key

def op : Text := "op".toList
def actor : Text := "actor".toList
def requestId : Text := "request_id".toList
def reason : Text := "reason".toList
def clientId : Text := "client_id".toList
def clientIds : Text := "client_ids".toList
def durationSec : Text := "duration_sec".toList
def priority : Text := "priority".toList
def text : Text := "text".toList
def key : Text := "key".toList
def value : Text := "value".toList
def all : Text := "all".toList
def serverIds : Text := "server_ids".toList
def roles : Text := "roles".toList
def gameModes : Text := "game_modes".toList
def regions : Text := "regions".toList
def shards : Text := "shards".toList
def tags : Text := "tags".toList

def selectors : List Text := [all, serverIds, roles, gameModes, regions, shards, tags]

end Key

inductive ModerationOp
 | mute
 | unmute
 | ban
 | unban
 | kick
 deriving DecidableEq

def ModerationOp.text : ModerationOp -> Text
 | .mute => "mute".toList
 | .unmute => "unmute".toList
 | .ban => "ban".toList
 | .unban => "unban".toList
 | .kick => "kick".toList

inductive AdminOp
 | disconnect
 | announce
 | settings
 | moderation (op : ModerationOp)
 deriving DecidableEq

def AdminOp.text : AdminOp -> Text
 | .disconnect => "disconnect".toList
 | .announce => "announce".toList
 | .settings => "settings".toList
 | .moderation op => op.text

structure ApiError where
 status : String
 code : String
 message : Text
 details : List (String × Text) := []

def badRequest (message : Text) (details : List (String × Text) := []) : ApiError :=
 { status := "400 Bad Request", code := "BAD_REQUEST", message, details }

def upstreamUnavailable (message : Text) : ApiError :=
 { status := "503 Service Unavailable", code := "UPSTREAM_UNAVAILABLE", message }

def misconfigured : ApiError :=
 { status := "503 Service Unavailable", code := "MISCONFIGURED"
   message := "admin command signing is not configured".toList }

def isDigit (letter : Char) : Bool := '0' ≤ letter && letter ≤ '9'

/-- `std::stoull` in base ten: the value and what is left after it. A minus sign negates
modulo the word; a value that does not fit is an exception. -/
def stoull (text : Text) : Option (Nat × Text) :=
 let text := trimLeft text
 let negative := text.head? = some '-'
 let text := if negative \/ text.head? = some '+' then text.tail else text
 let digits := text.takeWhile isDigit
 let value := digits.foldl (fun value letter => value * 10 + (letter.toNat - '0'.toNat)) 0
 if digits = [] \/ maxU64 < value then none
 else some (if negative then u64 (maxU64 + 1 - value) else value, text.dropWhile isDigit)

def maxU32 : Nat := 4294967295

def parseU32Strict (raw : Text) : Option Nat :=
 match stoull raw with
 | some (value, []) => if maxU32 < value then none else some value
 | _ => none

def sanitizeSingleLine (text : Text) : Text :=
 trim (text.map fun letter => if letter = '\n' \/ letter = '\r' then ' ' else letter)

structure InstanceSelector where
 all : Bool := false
 serverIds : List Text := []
 roles : List Text := []
 gameModes : List Text := []
 regions : List Text := []
 shards : List Text := []
 tags : List Text := []

def trueTexts : List Text := ["", "1", "true", "yes", "on"].map String.toList
def falseTexts : List Text := ["0", "false", "no", "off"].map String.toList

section

variable (fields : Table Text Text)

def parseAll : Except Text (Option Bool) :=
 match fields.lookup Key.all with
 | none => .ok none
 | some raw =>
  let normalized := toLower (trim raw)
  if normalized ∈ trueTexts then .ok (some true)
  else if normalized ∈ falseTexts then .ok (some false)
  else .error raw

def csvField (key : Text) : List Text :=
 (fields.lookup key).elim [] splitCsv

def selectorOf (all : Bool) : InstanceSelector :=
 { all
   serverIds := csvField fields Key.serverIds
   roles := csvField fields Key.roles
   gameModes := csvField fields Key.gameModes
   regions := csvField fields Key.regions
   shards := csvField fields Key.shards
   tags := csvField fields Key.tags }

end

structure SelectorParseResult where
 selector : InstanceSelector := {}
 selectorSpecified : Bool := false
 allSpecified : Bool := false

def parseInstanceSelectorQuery (params : Params) : Except ApiError SelectorParseResult :=
 match parseAll params with
 | .error raw => .error (badRequest "all must be a boolean value".toList [("parameter", Key.all), ("value", raw)])
 | .ok all =>
  .ok
   { selector := selectorOf params (all.getD false)
     selectorSpecified := Key.selectors.any fun key => (params.lookup key).isSome
     allSpecified := all.isSome }

def csvBinding (values : List Text) : Option Text := if values = [] then none else some (joinCsv values)

def selectorCommandFields (parsed : SelectorParseResult) : List (Text × Text) :=
 if !parsed.selectorSpecified then []
 else
  [(Key.all, if parsed.allSpecified then some (if parsed.selector.all then ['1'] else ['0']) else none),
    (Key.serverIds, csvBinding parsed.selector.serverIds),
    (Key.roles, csvBinding parsed.selector.roles),
    (Key.gameModes, csvBinding parsed.selector.gameModes),
    (Key.regions, csvBinding parsed.selector.regions),
    (Key.shards, csvBinding parsed.selector.shards),
    (Key.tags, csvBinding parsed.selector.tags)].filterMap fun field => field.2.map fun value => (field.1, value)

def kMaxDisconnectTargets : Nat := 200
def kMaxAnnouncementTextBytes : Nat := 512
def maxTargetBytes : Nat := 128
def maxReasonBytes : Nat := 200

def requestedTargets (params : Params) : List Text :=
 let one := (params.lookup Key.clientId).elim [] trim
 (if one = [] then [] else [one]) ++ (params.lookup Key.clientIds).elim [] splitCsv

def dedupeTargets (targets : List Text) : List Text :=
 targets.foldl (fun kept target =>
  let normalized := trim target
  -- unusable ids are dropped without an error
  if normalized = [] \/ '/' ∈ normalized \/ maxTargetBytes < normalized.length \/ normalized ∈ kept then kept
  else kept ++ [normalized]) []

def commandTargets (params : Params) : Except ApiError (List Text) :=
 let targets := requestedTargets params
 if targets = [] then .error (badRequest "client_id or client_ids is required".toList)
 else
  let deduped := dedupeTargets targets
  if deduped = [] then .error (badRequest "no valid client ids provided".toList)
  else if kMaxDisconnectTargets < deduped.length then
   .error (badRequest "too many client ids".toList [("max", decimal kMaxDisconnectTargets)])
  else .ok deduped

structure RuntimeSettingRule where
 keyName : Text
 minValue : Nat
 maxValue : Nat
 deriving DecidableEq

def kRuntimeSettingRules : List RuntimeSettingRule :=
 [⟨"presence_ttl_sec".toList, 5, 3600⟩, ⟨"recent_history_limit".toList, 5, 2000⟩,
   ⟨"room_recent_maxlen".toList, 5, 5000⟩, ⟨"chat_spam_threshold".toList, 3, 100⟩,
   ⟨"chat_spam_window_sec".toList, 1, 120⟩, ⟨"chat_spam_mute_sec".toList, 5, 86400⟩,
   ⟨"chat_spam_ban_sec".toList, 10, 604800⟩, ⟨"chat_spam_ban_violations".toList, 1, 20⟩]

def findRuntimeSettingRule (key : Text) : Option RuntimeSettingRule :=
 kRuntimeSettingRules.find? fun rule => rule.keyName = key

def runtimeSettingRangeErrorMessage (rule : RuntimeSettingRule) : Text :=
 rule.keyName ++ " must be ".toList ++ decimal rule.minValue ++ "..".toList ++ decimal rule.maxValue

structure AdminRequest where
 op : AdminOp
 params : Params
 actor : Text
 requestId : Nat
 redisAvailable : Bool := true

namespace AdminRequest

variable (request : AdminRequest)

def commonFields : List (Text × Text) :=
 [(Key.op, request.op.text), (Key.actor, sanitizeSingleLine request.actor),
   (Key.requestId, "admin-".toList ++ decimal request.requestId)]

def disconnectFields : Except ApiError (List (Text × Text)) := do
 let targets <- commandTargets request.params
 let given := (request.params.lookup Key.reason).elim [] sanitizeSingleLine
 let reason := if given = [] then "Disconnected by administrator".toList else given
 return [(Key.reason, sanitizeSingleLine (reason.take maxReasonBytes)), (Key.clientIds, joinCsv targets)]

def announcementFields : Except ApiError (List (Text × Text)) :=
 let text := (request.params.lookup Key.text).elim [] sanitizeSingleLine
 if text = [] then .error (badRequest "text is required".toList)
 else if kMaxAnnouncementTextBytes < text.length then
  .error (badRequest "text is too long".toList [("max_bytes", decimal kMaxAnnouncementTextBytes)])
 else
  let normalized := (request.params.lookup Key.priority).elim [] fun raw => toLower (trim raw)
  let priority :=
   if normalized ∈ ["info", "warn", "critical"].map String.toList then normalized else "info".toList
  .ok [(Key.priority, priority), (Key.text, text)]

def runtimeSettingFields : Except ApiError (List (Text × Text)) :=
 let key := (request.params.lookup Key.key).elim [] fun raw => toLower (trim raw)
 let value := (request.params.lookup Key.value).elim [] trim
 if key = [] \/ value = [] then .error (badRequest "key and value are required".toList)
 else
  match parseU32Strict value with
  | none => .error (badRequest "value must be an unsigned integer".toList [("value", value)])
  | some parsed =>
   match findRuntimeSettingRule key with
   | none => .error (badRequest "unsupported setting key".toList)
   | some rule =>
    if parsed < rule.minValue \/ rule.maxValue < parsed then
     .error (badRequest (runtimeSettingRangeErrorMessage rule))
    else .ok [(Key.key, sanitizeSingleLine key), (Key.value, decimal parsed)]

def requestedDuration : Except ApiError Nat :=
 match request.params.lookup Key.durationSec with
 | none => .ok 0
 | some raw =>
  if raw = [] then .ok 0
  else
   match parseU32Strict (trim raw) with
   | none => .error (badRequest "duration_sec must be an unsigned integer".toList [("value", raw)])
   | some seconds => .ok seconds

def moderationFields : Except ApiError (List (Text × Text)) := do
 let targets <- commandTargets request.params
 let durationSec <- request.requestedDuration
 -- Unlike in a disconnect, the shortened reason is not trimmed again.
 let reason := ((request.params.lookup Key.reason).elim [] sanitizeSingleLine).take maxReasonBytes
 return [(Key.durationSec, decimal durationSec), (Key.reason, reason), (Key.clientIds, joinCsv targets)]

def ownFields : Except ApiError (List (Text × Text)) :=
 match request.op with
 | .disconnect => request.disconnectFields
 | .announce => request.announcementFields
 | .settings => request.runtimeSettingFields
 | .moderation _ => request.moderationFields

def bindings : Except ApiError (List (Text × Text)) :=
 if !request.redisAvailable then .error (upstreamUnavailable "redis command channel unavailable".toList)
 else do
  let selector <- parseInstanceSelectorQuery request.params
  let own <- request.ownFields
  return request.commonFields ++ own ++ selectorCommandFields selector

def fields : Except ApiError Fields := do
 let bindings <- request.bindings
 return Table.insertAll ∅ bindings

end AdminRequest

def senderLine : Text := "gw=admin_app".toList

def buildSignedAdminMessage (hmac : Hmac) (secret : Text) (fields : Fields) (issuedAtMs : Nat)
  (randomBytes : Bytes) : Option Text :=
 if secret = [] then none
 else
  (appendSignatureFields hmac fields secret issuedAtMs [] randomBytes).map fun signed =>
    senderLine ++ '\n' :: toKvPayload signed

def AdminRequest.message (hmac : Hmac) (secret : Text) (request : AdminRequest) (issuedAtMs : Nat)
  (randomBytes : Bytes) : Except ApiError Text := do
 let fields <- request.fields
 match buildSignedAdminMessage hmac secret fields issuedAtMs randomBytes with
 | none => .error misconfigured
 | some message => .ok message

abbrev Params.OneLine (params : Params) : Prop :=
 ∀ key ∈ Key.clientId :: Key.clientIds :: Key.selectors, Text.OneLine ((params.lookup key).getD [])

variable {params : Params} {target : Text} {targets : List Text} {request : AdminRequest}

theorem Params.OneLine.value (oneLine : params.OneLine) {key value : Text}
  (kept : key ∈ Key.clientId :: Key.clientIds :: Key.selectors) (found : params.lookup key = some value) :
  Text.OneLine value := by
 have lines := oneLine key kept
 rwa [found] at lines

theorem oneLine_sanitizeSingleLine (text : Text) : Text.OneLine (sanitizeSingleLine text) := by
 refine Text.OneLine.trim fun member => ?_
 obtain ⟨letter, -, replaced⟩ := mem_map.mp member
 split at replaced
 · cases replaced
 next kept => exact kept (.inl replaced)

theorem except_bind_ok {ε α β : Type} {first : Except ε α} {next : α -> Except ε β} {result : β}
  (passed : (first >>= next) = .ok result) : ∃ value, first = .ok value /\ next value = .ok result := by
 cases first with
 | error reason => cases passed
 | ok value => exact ⟨value, rfl, passed⟩

theorem oneLine_elim (oneLine : params.OneLine) {key : Text}
  (kept : key ∈ Key.clientId :: Key.clientIds :: Key.selectors) {part : Text}
  {read : Text -> List Text} (reads : ∀ value, Text.OneLine value -> ∀ part ∈ read value, Text.OneLine part)
  (member : part ∈ (params.lookup key).elim [] read) : Text.OneLine part := by
 cases found : params.lookup key with
 | none =>
  rw [found] at member
  cases member
 | some value =>
  rw [found] at member
  exact reads value (oneLine.value kept found) part member

theorem oneLine_requestedTargets (oneLine : params.OneLine) (member : target ∈ requestedTargets params) :
  Text.OneLine target := by
 rw [requestedTargets] at member
 obtain single | many := mem_append.mp member
 · cases found : params.lookup Key.clientId with
   | none =>
    rw [found] at single
    cases single
   | some value =>
    rw [found] at single
    have whole := oneLine.value mem_cons_self found
    split at single
    · cases single
    · rw [mem_singleton.mp single]
      exact whole.trim
 · exact oneLine_elim oneLine (by simp) (fun _ whole _ => whole.of_mem_splitCsv) many

theorem mem_dedupeTargets (member : target ∈ dedupeTargets targets) : ∃ given ∈ targets, target = trim given := by
 have kept (start : List Text) : target ∈ targets.foldl (fun kept target =>
    let normalized := trim target
    if normalized = [] \/ '/' ∈ normalized \/ maxTargetBytes < normalized.length \/ normalized ∈ kept then kept
    else kept ++ [normalized]) start -> target ∈ start \/ ∃ given ∈ targets, target = trim given := by
  clear member
  induction targets generalizing start with
  | nil => exact .inl
  | cons first rest ih =>
   intro member
   obtain earlier | ⟨given, among, same⟩ := ih _ member
   · simp only at earlier
     split at earlier
     · exact .inl earlier
     · obtain before | same := mem_append.mp earlier
       · exact .inl before
       · exact .inr ⟨first, mem_cons_self, mem_singleton.mp same⟩
   · exact .inr ⟨given, mem_cons_of_mem _ among, same⟩
 obtain impossible | found := kept [] member
 · cases impossible
 · exact found

theorem commandTargets_eq_ok (passed : commandTargets params = .ok targets) : targets = dedupeTargets
  (requestedTargets params) := by
 simp only [commandTargets] at passed
 split at passed
 · cases passed
 split at passed
 · cases passed
 split at passed
 · cases passed
 cases passed
 rfl

theorem oneLine_commandTargets (oneLine : params.OneLine) (passed : commandTargets params = .ok targets) :
  Text.OneLine (joinCsv targets) := by
 refine oneLine_joinCsv fun target member => ?_
 rw [commandTargets_eq_ok passed] at member
 obtain ⟨given, among, rfl⟩ := mem_dedupeTargets member
 exact (oneLine_requestedTargets oneLine among).trim

def AdminOp.ownKeys : AdminOp -> List Text
 | .disconnect => [Key.reason, Key.clientIds]
 | .announce => [Key.priority, Key.text]
 | .settings => [Key.key, Key.value]
 | .moderation _ => [Key.durationSec, Key.reason, Key.clientIds]

theorem AdminRequest.ownFields_spec {own : List (Text × Text)} (made : request.ownFields = .ok own) :
  own.map Prod.fst = request.op.ownKeys /\ (request.params.OneLine -> ∀ binding ∈ own, Text.OneLine binding.2) := by
 rw [ownFields] at made
 split at made
 next op =>
  obtain ⟨targets, passed, made⟩ := except_bind_ok made
  cases made
  rw [op]
  refine ⟨rfl, fun oneLine binding member => ?_⟩
  simp only [mem_cons, not_mem_nil, or_false] at member
  obtain rfl | rfl := member
  · exact oneLine_sanitizeSingleLine _
  · exact oneLine_commandTargets oneLine passed
 next op =>
  simp only [announcementFields] at made
  split at made
  · cases made
  split at made
  · cases made
  cases made
  rw [op]
  refine ⟨rfl, fun oneLine binding member => ?_⟩
  simp only [mem_cons, not_mem_nil, or_false] at member
  obtain rfl | rfl := member
  · simp only
    split
    next listed =>
     have all : ∀ text ∈ ["info", "warn", "critical"].map String.toList, '\n' ∉ text := by decide +kernel
     exact all _ listed
    · decide +kernel
  · simp only
    cases request.params.lookup Key.text with
    | none => exact not_mem_nil
    | some raw => exact oneLine_sanitizeSingleLine raw
 next op =>
  simp only [runtimeSettingFields] at made
  split at made
  · cases made
  split at made
  · cases made
  split at made
  · cases made
  split at made
  · cases made
  cases made
  rw [op]
  refine ⟨rfl, fun oneLine binding member => ?_⟩
  simp only [mem_cons, not_mem_nil, or_false] at member
  obtain rfl | rfl := member
  · exact oneLine_sanitizeSingleLine _
  · exact oneLine_decimal _
 next op =>
  obtain ⟨targets, passed, made⟩ := except_bind_ok made
  obtain ⟨durationSec, -, made⟩ := except_bind_ok made
  cases made
  rw [op]
  refine ⟨rfl, fun oneLine binding member => ?_⟩
  simp only [mem_cons, not_mem_nil, or_false] at member
  obtain rfl | rfl | rfl := member
  · exact oneLine_decimal _
  · cases request.params.lookup Key.reason with
    | none => exact not_mem_nil
    | some raw => exact (oneLine_sanitizeSingleLine raw).sublist (take_sublist _ _)
  · exact oneLine_commandTargets oneLine passed

theorem keys_filterMap_sublist (optional : List (Text × Option Text)) :
  ((optional.filterMap fun field => field.2.map fun value => (field.1, value)).map Prod.fst).Sublist
    (optional.map Prod.fst) := by
 induction optional with
 | nil => exact .slnil
 | cons field rest ih =>
  obtain ⟨key, _ | value⟩ := field
  · exact ih.cons key
  · exact ih.cons_cons key

theorem selectorCommandFields_keys (parsed : SelectorParseResult) :
  ((selectorCommandFields parsed).map Prod.fst).Sublist Key.selectors := by
 rw [selectorCommandFields]
 split
 · exact nil_sublist _
 · exact keys_filterMap_sublist _

theorem oneLine_csvBinding (oneLine : params.OneLine) {key : Text}
  (kept : key ∈ Key.clientId :: Key.clientIds :: Key.selectors) {value : Text}
  (bound : csvBinding (csvField params key) = some value) : Text.OneLine value := by
 obtain ⟨-, ⟨⟩⟩ := ite_none_left_eq_some.mp bound
 exact oneLine_joinCsv fun piece member => oneLine_elim oneLine kept (fun _ whole _ => whole.of_mem_splitCsv) member

theorem oneLine_selectorCommandFields (oneLine : params.OneLine)
  {parsed : SelectorParseResult} (passed : parseInstanceSelectorQuery params = .ok parsed)
  {binding : Text × Text} (member : binding ∈ selectorCommandFields parsed) : Text.OneLine binding.2 := by
 have selector : ∃ all, parsed.selector = selectorOf params all := by
  rw [parseInstanceSelectorQuery] at passed
  split at passed
  · cases passed
  · cases passed
    exact ⟨_, rfl⟩
 obtain ⟨all, selector⟩ := selector
 rw [selectorCommandFields] at member
 split at member
 · cases member
 obtain ⟨field, among, bound⟩ := mem_filterMap.mp member
 obtain ⟨value, found, rfl⟩ := map_eq_some_iff.mp bound
 simp only [mem_cons, not_mem_nil, or_false, selector, selectorOf] at among
 obtain rfl | rfl | rfl | rfl | rfl | rfl | rfl := among
 · obtain ⟨-, ⟨⟩⟩ := ite_none_right_eq_some.mp found
   simp only
   split <;> decide
 all_goals exact oneLine_csvBinding oneLine (by simp [Key.selectors]) found

def commonKeys : List Text := [Key.op, Key.actor, Key.requestId]

def AdminOp.keys (op : AdminOp) : List Text := commonKeys ++ op.ownKeys ++ Key.selectors

theorem AdminOp.text_oneLine (op : AdminOp) : Text.OneLine op.text := by
 obtain _ | _ | _ | op := op
 iterate 3 decide +kernel
 cases op <;> decide +kernel

theorem AdminOp.nodup_keys (op : AdminOp) : op.keys.Nodup := by
 obtain _ | _ | _ | op := op
 iterate 3 decide +kernel
 exact (by decide +kernel : (moderation .mute).keys.Nodup)

theorem AdminRequest.bindings_spec {bindings : List (Text × Text)} (made : request.bindings = .ok bindings) :
  (bindings.map Prod.fst).Sublist request.op.keys /\ (Key.op, request.op.text) ∈ bindings /\
    (request.params.OneLine -> ∀ binding ∈ bindings, Text.OneLine binding.2) := by
 rw [AdminRequest.bindings] at made
 split at made
 · cases made
 obtain ⟨selector, parsed, made⟩ := except_bind_ok made
 obtain ⟨own, passed, made⟩ := except_bind_ok made
 cases made
 obtain ⟨keys, ownOneLine⟩ := ownFields_spec passed
 refine ⟨?_, by simp [commonFields], fun oneLine binding member => ?_⟩
 · rw [map_append, map_append, keys]
   exact (List.Sublist.refl _).append (selectorCommandFields_keys selector)
 · obtain (common | mine) | selected := (mem_append.mp member).imp_left mem_append.mp
   · simp only [commonFields, mem_cons, not_mem_nil, or_false] at common
     obtain rfl | rfl | rfl := common
     · exact request.op.text_oneLine
     · exact oneLine_sanitizeSingleLine _
     · intro inside
       obtain start | digits := mem_append.mp inside
       · exact absurd start (by decide +kernel)
       · exact oneLine_decimal _ digits
   · exact ownOneLine oneLine binding mine
   · exact oneLine_selectorCommandFields oneLine parsed selected

end Dynaxis.Admin
