import Dynaxis.Admin.Console
import Mathlib.Algebra.GroupWithZero.Nat
import Mathlib.Algebra.Order.BigOperators.Group.List

namespace Dynaxis.Admin

open Shared List Table

def hexValue (c : Char) : Option Nat :=
 if '0' ≤ c /\ c ≤ '9' then some (c.toNat - '0'.toNat)
 else if 'a' ≤ c /\ c ≤ 'f' then some (10 + (c.toNat - 'a'.toNat))
 else if 'A' ≤ c /\ c ≤ 'F' then some (10 + (c.toNat - 'A'.toNat))
 else none

def urlDecode : Text -> Text
 | [] => []
 | '+' :: rest => ' ' :: urlDecode rest
 | '%' :: hi :: lo :: rest =>
  match hexValue hi, hexValue lo with
  | some high, some low => Char.ofNat (16 * high + low) :: urlDecode rest
  | _, _ => '%' :: urlDecode (hi :: lo :: rest)
 | c :: rest => c :: urlDecode rest

def readPair (pair : Text) : Option (Text × Text) :=
 if pair = [] then none
 else
  match readEntry '=' pair with
  | none => some (urlDecode pair, [])
  | some (name, value) => some (urlDecode name, urlDecode value)

def queryPairs (query : Text) : List (Text × Text) := (query.splitOn '&').filterMap readPair

def parseQueryString (query : Text) : Params := emplaceAll ∅ (queryPairs query)

def textLt : Text -> Text -> Bool
 | _, [] => false
 | [], _ :: _ => true
 | a :: left, b :: right => a.toNat < b.toNat || (a = b && textLt left right)

def pairs (params : Params) : List (Text × Text) := params.entries.map fun entry => (entry.1, entry.2)

def encodeQueryString (params : Params) : Text :=
 let ordered := (pairs params).insertionSort fun lhs rhs => textLt rhs.1 lhs.1 = false
 writeEntries '=' '&' ordered

structure HttpRequest where
 headers : Table Text Text
 body : Text

structure WriteParamsError where
 status : String
 code : String
 message : String
deriving DecidableEq

def unsupportedContentType : WriteParamsError :=
 { status := "415 Unsupported Media Type"
   code := "UNSUPPORTED_CONTENT_TYPE"
   message := "write endpoints support application/json or application/x-www-form-urlencoded" }

def malformedJsonBody : WriteParamsError :=
 { status := "400 Bad Request", code := "BAD_REQUEST", message := "malformed JSON body" }

inductive JsonScalar
 | string (value : Text)
 | integer (value : Int)
 | other
deriving DecidableEq

inductive JsonValue
 | scalar (value : JsonScalar)
 | array (items : List JsonScalar)
deriving DecidableEq

-- `is_number_integer` holds of unsigned numbers too, so the branch after it is never reached.
def JsonScalar.text : JsonScalar -> Option Text
 | .string value => some value
 | .integer value => some (toString (i64 value)).toList
 | .other => none

def jsonParam (key : Text) : JsonValue -> Option Text
 | .scalar value => value.text
 | .array items => if key = Key.clientIds then some (Text.joinCsv (items.filterMap JsonScalar.text)) else none

section

variable (request : HttpRequest)

def HttpRequest.contentType : Text :=
 match request.headers.lookup "content-type".toList with
 | some value => Text.toLower (Text.trim value)
 | none => []

def HttpRequest.isJson : Bool :=
 "application/json".toList.isPrefixOf request.contentType

def HttpRequest.isForm : Bool :=
 "application/x-www-form-urlencoded".toList.isPrefixOf request.contentType

end

section

-- `nlohmann::json::parse`, with nothing for text that is not an object
variable (parseJson : Text -> Option (Table Text JsonValue))

variable (query : Text) (request : HttpRequest)

def bodyParams : Except WriteParamsError (List (Text × Text)) :=
 if request.isForm then .ok (pairs (parseQueryString request.body))
 else
  match parseJson request.body with
  | none => .error malformedJsonBody
  | some object => .ok (object.entries.filterMap fun entry => (jsonParam entry.1 entry.2).map (entry.1, ·))

def mergedParams : Except WriteParamsError Params :=
 let params := parseQueryString query
 if request.body = [] then .ok params
 else if !request.isJson && !request.isForm then .error unsupportedContentType
 else (bodyParams parseJson request).map params.insertAll

def mergeWriteParamsFromRequest : Except WriteParamsError Text :=
 (mergedParams parseJson query request).map encodeQueryString

end

def unescaped : Text -> Bool
 | [] => true
 | '+' :: _ => false
 | '%' :: hi :: lo :: rest => !((hexValue hi).isSome && (hexValue lo).isSome) && unescaped (hi :: lo :: rest)
 | _ :: rest => unescaped rest

theorem urlDecode_unescaped {text : Text} (plain : unescaped text = true) : urlDecode text = text := by
 fun_induction urlDecode text with
 | case1 => rfl
 | case2 => cases plain
 | case3 hi lo rest high low isLow isHigh => simp [unescaped, isLow, isHigh] at plain
 | case4 hi lo rest notHex ih =>
  simp only [unescaped, Bool.and_eq_true] at plain
  rw [ih plain.2]
 | case5 c rest notPlus notEscape ih =>
  rw [unescaped.eq_4 c rest notPlus notEscape] at plain
  rw [ih plain]

@[mk_iff]
structure PlainParam (param : Text × Text) : Prop where
 separable : Separable '=' '&' param
 name : unescaped param.1 = true
 value : unescaped param.2 = true

theorem readPair_writeEntry {param : Text × Text} (plain : PlainParam param) :
  readPair (writeEntry '=' param) = some param := by
 have written : writeEntry '=' param ≠ [] := by simp [writeEntry]
 rw [readPair, if_neg written, readEntry_writeEntry plain.separable.1]
 simp [urlDecode_unescaped plain.name, urlDecode_unescaped plain.value]

theorem queryPairs_append (left right : Text) :
  queryPairs (left ++ '&' :: right) = queryPairs left ++ queryPairs right := by
 simp only [queryPairs, splitOn_eq_splitOnP]
 rw [splitOnP_append_cons _ _ (by rfl), filterMap_append]

theorem queryPairs_of_notMem {text : Text} (single : '&' ∉ text) : queryPairs text = (readPair text).toList := by
 have whole : text.splitOn '&' = [text] := by
  simpa using splitOn_intercalate '&' (by simpa using single : ∀ piece ∈ [text], '&' ∉ piece) (by simp)
 rw [queryPairs, whole]
 cases read : readPair text <;> simp [read]

theorem queryPairs_writeEntries (params : List (Text × Text)) :
  queryPairs (writeEntries '=' '&' params) = params.flatMap fun param => queryPairs (writeEntry '=' param) := by
 induction params with
 | nil => rfl
 | cons first rest ih =>
  cases rest with
  | nil => simp [writeEntries]
  | cons second others =>
   rw [flatMap_cons, <- ih, <- queryPairs_append]
   simp [writeEntries]

theorem queryPairs_plain {params : List (Text × Text)} (plain : ∀ param ∈ params, PlainParam param) :
  queryPairs (writeEntries '=' '&' params) = params := by
 rw [queryPairs_writeEntries]
 refine (flatMap_congr fun param member => ?_).trans (flatMap_singleton' params)
 rw [queryPairs_of_notMem (line_notMem_writeEntry (by decide) (plain param member).separable),
  readPair_writeEntry (plain param member)]
 rfl

def paramWeight (param : Text × Text) : Nat := param.1.length + param.2.length

def queryWeight (text : Text) : Nat := ((queryPairs text).map paramWeight).sum

theorem length_urlDecode_le (text : Text) : (urlDecode text).length ≤ text.length := by
 fun_induction urlDecode text <;> simp only [length_cons, length_nil] at * <;> omega

section

variable {text : Text} (whole : (urlDecode text).length = text.length)
include whole

theorem unescaped_of_length (unplussed : '+' ∉ text) : unescaped text = true := by
 fun_induction urlDecode text with
 | case1 => rfl
 | case2 rest => exact absurd mem_cons_self unplussed
 | case3 hi lo rest high low isLow isHigh =>
  have shorter := length_urlDecode_le rest
  simp only [length_cons] at whole
  omega
 | case4 hi lo rest notHex ih =>
  have later := ih (by simpa using whole) fun inside => unplussed (mem_cons_of_mem _ inside)
  simp only [unescaped, later, Bool.and_true]
  cases high : hexValue hi <;> cases low : hexValue lo <;> first | rfl | exact (notHex _ _ high low).elim
 | case5 c rest notPlus notEscape ih =>
  rw [unescaped.eq_4 c rest notPlus notEscape]
  exact ih (by simpa using whole) fun inside => unplussed (mem_cons_of_mem _ inside)

theorem mem_urlDecode_of_length {c : Char} (member : c ∈ urlDecode text) : c = ' ' \/ c ∈ text /\ c ≠ '+' := by
 fun_induction urlDecode text with
 | case1 => cases member
 | case2 rest ih =>
  have later := ih (by simpa using whole)
  grind
 | case3 hi lo rest high low isLow isHigh =>
  have shorter := length_urlDecode_le rest
  simp only [length_cons] at whole
  omega
 | case4 hi lo rest notHex ih =>
  have later := ih (by simpa using whole)
  grind
 | case5 c rest notPlus notEscape ih =>
  have later := ih (by simpa using whole)
  grind

end

theorem readPair_weight (text : Text) :
  ((readPair text).toList.map paramWeight).sum + (if '=' ∈ text then 1 else 0) ≤ text.length := by
 by_cases marked : '=' ∈ text
 · obtain ⟨entry, read, rfl, -⟩ := readEntry_of_mem marked
   have name := length_urlDecode_le entry.1
   have value := length_urlDecode_le entry.2
   have filled : writeEntry '=' entry ≠ [] := ne_nil_of_mem marked
   rw [if_pos marked, readPair, if_neg filled, read]
   simp only [writeEntry, length_append, length_cons, Option.toList_some, map_cons, map_nil,
    sum_cons, sum_nil, paramWeight]
   omega
 · have unread : readEntry '=' text = none := if_neg marked
   have shorter := length_urlDecode_le text
   rw [if_neg marked, readPair, unread]
   split
   · exact Nat.zero_le _
   · simpa [paramWeight] using shorter

-- each '&' in a text and the first '=' are lost
theorem queryWeight_le (text : Text) :
  queryWeight text + (if '=' ∈ text then 1 else 0) + (if '&' ∈ text then 1 else 0) ≤ text.length := by
 by_cases several : '&' ∈ text
 · obtain ⟨before, after, rfl⟩ := append_of_mem several
   have left := queryWeight_le before
   have right := queryWeight_le after
   rw [queryWeight] at left right ⊢
   rw [queryPairs_append, map_append, sum_append]
   simp only [length_append, length_cons, mem_append, mem_cons] at left right ⊢
   split_ifs at * <;> grind
 · rw [queryWeight, queryPairs_of_notMem several, if_neg several]
   exact readPair_weight text
termination_by text.length

variable {params : Params}

theorem mem_pairs {name value : Text} : (name, value) ∈ pairs params ↔ params.lookup name = some value := by
 rw [<- mem_entries_iff, pairs, mem_map]
 constructor
 · rintro ⟨entry, member, same⟩
   cases same
   exact member
 · exact fun member => ⟨_, member, rfl⟩

theorem pairs_nodup (params : Params) : ((pairs params).map Prod.fst).Nodup := by
 have names : (pairs params).map Prod.fst = params.entries.keys := by simp [pairs, keys]
 rw [names]
 exact params.nodupKeys

def AllPlain (params : Params) : Prop :=
 ∀ name value, params.lookup name = some value -> PlainParam (name, value)

theorem parse_writeEntries_perm {ordered : List (Text × Text)} (same : ordered.Perm (pairs params))
  (plain : AllPlain params) (key : Text) :
  (parseQueryString (writeEntries '=' '&' ordered)).lookup key = params.lookup key := by
 have read : queryPairs (writeEntries '=' '&' ordered) = ordered :=
  queryPairs_plain fun param member => plain param.1 param.2 (mem_pairs.mp (same.mem_iff.mp member))
 have unique : (ordered.map Prod.fst).Nodup := (same.map Prod.fst).nodup_iff.mpr (pairs_nodup params)
 rw [parseQueryString, read]
 cases found : params.lookup key with
 | some value => exact lookup_emplaceAll_of_mem rfl unique (same.mem_iff.mpr (mem_pairs.mpr found))
 | none =>
  refine Option.eq_none_iff_forall_ne_some.mpr fun value read => ?_
  obtain member | impossible := mem_of_lookup_emplaceAll read
  · rw [mem_pairs.mp (same.mem_iff.mp member)] at found
    cases found
  · cases impossible

theorem parse_encode (plain : AllPlain params) (key : Text) :
  (parseQueryString (encodeQueryString params)).lookup key = params.lookup key :=
 parse_writeEntries_perm (perm_insertionSort _ _) plain key

section

variable (parseJson : Text -> Option (Table Text JsonValue)) (request : HttpRequest)

def SetsParam (name value : Text) : Prop :=
 (request.isForm = true /\ ((queryPairs request.body).map Prod.fst).Nodup /\ (name, value) ∈ queryPairs request.body) \/
 (request.isJson = true /\ request.body ≠ [] /\ ∃ object, parseJson request.body = some object /\
   object.lookup name = some (.scalar (.string value)))

def NamesParam (name : Text) : Prop :=
 (request.isForm = true /\ name ∈ (queryPairs request.body).map Prod.fst) \/
 (request.isJson = true /\ ∃ object, parseJson request.body = some object /\ object.lookup name ≠ none)

variable {parseJson request}

theorem isForm_of_isJson (json : request.isJson = true) : request.isForm = false := by
 refine Bool.eq_false_iff.mpr fun form => ?_
 have either := prefix_or_prefix_of_prefix (List.isPrefixOf_iff_prefix.mp json) (List.isPrefixOf_iff_prefix.mp form)
 revert either
 decide

theorem jsonParams_names (entries : List (Sigma fun _ : Text => JsonValue)) :
  ((entries.filterMap fun entry => (jsonParam entry.1 entry.2).map (entry.1, ·)).map Prod.fst).Sublist
    entries.keys := by
 induction entries with
 | nil => exact List.Sublist.refl _
 | cons entry rest ih =>
  rw [filterMap_cons]
  cases jsonParam entry.1 entry.2 with
  | none => exact ih.cons _
  | some text => exact ih.cons_cons _

variable {params : List (Text × Text)} (read : bodyParams parseJson request = .ok params)
include read

theorem bodyParams_nodup : (params.map Prod.fst).Nodup := by
 unfold bodyParams at read
 split at read
 · cases read
   exact pairs_nodup _
 · split at read
   · cases read
   next object _ =>
    cases read
    exact (jsonParams_names object.entries).nodup object.nodupKeys

theorem SetsParam.mem {name value : Text} (sets : SetsParam parseJson request name value) :
  (name, value) ∈ params := by
 unfold bodyParams at read
 rcases sets with ⟨form, once, member⟩ | ⟨json, -, object, parsed, found⟩
 · rw [if_pos form] at read
   cases read
   exact mem_pairs.mpr (lookup_emplaceAll_of_mem rfl once member)
 · rw [isForm_of_isJson json, parsed] at read
   cases read
   exact mem_filterMap.mpr ⟨⟨name, .scalar (.string value)⟩, (object.mem_entries_iff _ _).mpr found, rfl⟩

theorem namesParam_of_mem (known : request.isJson = true \/ request.isForm = true)
  {param : Text × Text} (member : param ∈ params) :
  NamesParam parseJson request param.1 := by
 unfold bodyParams at read
 split at read
 next form =>
  cases read
  obtain among | impossible := mem_of_lookup_emplaceAll (mem_pairs.mp member)
  · exact .inl ⟨form, mem_map_of_mem among⟩
  · cases impossible
 next notForm =>
  split at read
  · cases read
  next object parsed =>
   cases read
   obtain ⟨entry, among, made⟩ := mem_filterMap.mp member
   obtain ⟨text, -, rfl⟩ := Option.map_eq_some_iff.mp made
   refine .inr ⟨known.resolve_right notForm, object, parsed, ?_⟩
   rw [(object.mem_entries_iff entry.1 entry.2).mp among]
   exact Option.some_ne_none _

omit read

end

theorem mergedParams_spec {parseJson : Text -> Option (Table Text JsonValue)} {query : Text}
  {request : HttpRequest} (merged : mergedParams parseJson query request = .ok params) :
  (∀ name value, SetsParam parseJson request name value -> params.lookup name = some value) /\
  ∀ name, params.lookup name ≠ none ->
   (parseQueryString query).lookup name ≠ none \/ NamesParam parseJson request name := by
 unfold mergedParams at merged
 split at merged
 next empty =>
  -- without a body there is nothing to merge
  cases merged
  refine ⟨fun name value sets => ?_, fun name seen => .inl seen⟩
  rcases sets with ⟨-, -, member⟩ | ⟨-, nonempty, -⟩
  · have nothing : queryPairs [] = [] := by decide
    rw [empty, nothing] at member
    exact absurd member not_mem_nil
  · exact absurd empty nonempty
 split at merged
 · cases merged
 next supported =>
  have known : request.isJson = true \/ request.isForm = true := by
   cases json : request.isJson <;> cases form : request.isForm <;> simp_all
  cases read : bodyParams parseJson request with
  | error _ => rw [read] at merged; cases merged
  | ok pairs =>
   rw [read] at merged
   cases merged
   refine ⟨fun name value sets => lookup_insertAll_of_mem _ (bodyParams_nodup read) (sets.mem read),
    fun name seen => ?_⟩
   obtain ⟨value, found⟩ := Option.ne_none_iff_exists'.mp seen
   obtain member | before := mem_of_lookup_insertAll found
   · exact .inr (namesParam_of_mem read known member)
   · exact .inl (by simp [before])

theorem queryPairs_whole {param : Text × Text} (whole : queryWeight (writeEntry '=' param) = paramWeight param) :
  '&' ∉ writeEntry '=' param /\ ∃ raw, readEntry '=' (writeEntry '=' param) = some raw /\ '=' ∉ raw.1 /\
   (urlDecode raw.1).length = raw.1.length /\ (urlDecode raw.2).length = raw.2.length /\
   queryPairs (writeEntry '=' param) = [(urlDecode raw.1, urlDecode raw.2)] := by
 have marked : '=' ∈ writeEntry '=' param := by simp [writeEntry]
 have bound := queryWeight_le (writeEntry '=' param)
 have single : '&' ∉ writeEntry '=' param := by
  intro several
  rw [if_pos marked, if_pos several, whole] at bound
  simp only [paramWeight, writeEntry, length_append, length_cons] at bound
  omega
 obtain ⟨raw, read, written, unmarked⟩ := readEntry_of_mem marked
 have pairs : queryPairs (writeEntry '=' param) = [(urlDecode raw.1, urlDecode raw.2)] := by
  rw [queryPairs_of_notMem single, readPair, if_neg (ne_nil_of_mem marked), read]
  rfl
 have lengths := congrArg length written
 have name := length_urlDecode_le raw.1
 have value := length_urlDecode_le raw.2
 rw [queryWeight, pairs] at whole
 simp only [paramWeight, writeEntry, length_append, length_cons, map_cons, map_nil, sum_cons,
  sum_nil] at whole lengths
 exact ⟨single, raw, read, unmarked, by omega, by omega, pairs⟩

theorem encodeQueryString_eq (params : Params) :
  ∃ ordered, ordered.Perm (pairs params) /\ encodeQueryString params = writeEntries '=' '&' ordered :=
 ⟨_, perm_insertionSort _ _, rfl⟩

section

variable (same : ∀ key, (parseQueryString (encodeQueryString params)).lookup key = params.lookup key)
include same

theorem mem_queryPairs_encode {param : Text × Text} (member : param ∈ pairs params) :
  param ∈ queryPairs (encodeQueryString params) :=
 (mem_of_lookup_emplaceAll ((same param.1).trans (mem_pairs.mp member))).resolve_right (by simp)

-- The text has no room for all the parameters unless each of them is read back at its full length.
theorem queryWeight_of_parse_encode {param : Text × Text} (member : param ∈ pairs params) :
  queryWeight (writeEntry '=' param) = paramWeight param := by
 have bound (param : Text × Text) : queryWeight (writeEntry '=' param) ≤ paramWeight param := by
  have bound := queryWeight_le (writeEntry '=' param)
  rw [if_pos (by simp [writeEntry])] at bound
  simp only [writeEntry, length_append, length_cons, paramWeight] at bound ⊢
  omega
 refine (bound param).antisymm (Nat.le_of_not_lt fun less => ?_)
 have smaller := sum_lt_sum _ _ (fun param _ => bound param) ⟨param, member, less⟩
 have total : queryWeight (encodeQueryString params) =
   ((pairs params).map fun param => queryWeight (writeEntry '=' param)).sum := by
  obtain ⟨ordered, perm, text⟩ := encodeQueryString_eq params
  rw [<- (perm.map _).sum_eq, queryWeight, text, queryPairs_writeEntries]
  simp [flatMap, sum_flatten, Function.comp_def, queryWeight]
 obtain ⟨part, perm, sublist⟩ := subperm_of_subset (pairs_nodup params).of_map fun _ => mem_queryPairs_encode same
 have larger := (sublist.map paramWeight).sum_le_sum fun _ _ => Nat.zero_le _
 rw [(perm.map paramWeight).sum_eq] at larger
 exact absurd (larger.trans_eq total) (Nat.not_le_of_lt smaller)

theorem allPlain_of_parse_encode : AllPlain params := by
 intro name value found
 have member := mem_pairs.mpr found
 have seen := mem_queryPairs_encode same member
 obtain ⟨ordered, perm, text⟩ := encodeQueryString_eq params
 rw [text, queryPairs_writeEntries, mem_flatMap] at seen
 obtain ⟨other, among, read⟩ := seen
 obtain ⟨-, raw, -, unmarked, wholeName, wholeValue, pairs⟩ := queryPairs_whole
  (queryWeight_of_parse_encode same (perm.mem_iff.mp among))
 rw [pairs, mem_singleton, Prod.mk.injEq] at read
 have clean {text : Text} {c : Char} (whole : (urlDecode text).length = text.length)
   (other : c ≠ ' ') (absent : c ∉ text \/ c = '+') : c ∉ urlDecode text := by
  intro inside
  obtain blank | ⟨present, notPlus⟩ := mem_urlDecode_of_length whole inside
  · exact other blank
  · exact absent.elim (· present) notPlus
 have unmarkedName : '=' ∉ name := read.1 ▸ clean wholeName (by decide) (.inl unmarked)
 obtain ⟨single, own, ownRead, -, ownName, ownValue, -⟩ := queryPairs_whole (queryWeight_of_parse_encode same member)
 have itself : readEntry '=' (writeEntry '=' (name, value)) = some (name, value) := readEntry_writeEntry unmarkedName
 cases itself.symm.trans ownRead
 simp only [writeEntry, mem_append, mem_cons, not_or] at single
 exact
  { separable := ⟨unmarkedName, single.1, single.2.2⟩
    name := unescaped_of_length ownName (read.1 ▸ clean wholeName (by decide) (.inr rfl))
    value := unescaped_of_length ownValue (read.2 ▸ clean wholeValue (by decide) (.inr rfl)) }

end

/-- Just the maps of plain parameters survive the query string; where the merged map is one, the body's
parameters reach the handler as they are and no others do. -/
theorem plain_params_are_isolated (parseJson : Text -> Option (Table Text JsonValue)) :
  (∀ params : Params, (∀ key, (parseQueryString (encodeQueryString params)).lookup key = params.lookup key) ↔
    AllPlain params) /\
  ∀ query request params, mergedParams parseJson query request = .ok params -> AllPlain params ->
   ∃ merged, mergeWriteParamsFromRequest parseJson query request = .ok merged /\
    (∀ name value, SetsParam parseJson request name value -> (parseQueryString merged).lookup name = some value) /\
    ∀ name, (parseQueryString merged).lookup name ≠ none ->
     (parseQueryString query).lookup name ≠ none \/ NamesParam parseJson request name := by
 refine ⟨fun params => ⟨allPlain_of_parse_encode, parse_encode⟩, fun query request params merged plain => ?_⟩
 refine ⟨encodeQueryString params, by rw [mergeWriteParamsFromRequest, merged]; rfl, ?_⟩
 simp only [parse_encode plain]
 exact mergedParams_spec merged

instance (param : Text × Text) : Decidable (PlainParam param) :=
 decidable_of_iff _ (plainParam_iff _).symm

def jsonRequest : HttpRequest :=
 { headers := AList.singleton "content-type".toList "application/json; charset=utf-8".toList
   body := "\x7b\"reason\": ...\x7d".toList }

def reasonBody (value : String) (_ : Text) : Option (Table Text JsonValue) :=
 some (AList.singleton Key.reason (.scalar (.string value.toList)))

-- the escape in the query is overwritten by the body
theorem plain_reason_reaches_handler :
  ∃ merged, mergeWriteParamsFromRequest (reasonBody "50% spam") "client_id=7&reason=%2B".toList jsonRequest = .ok merged /\
   (parseQueryString merged).lookup Key.reason = some "50% spam".toList /\
   ∀ name, (parseQueryString merged).lookup name ≠ none ->
    (parseQueryString "client_id=7&reason=%2B".toList).lookup name ≠ none \/
      NamesParam (reasonBody "50% spam") jsonRequest name := by
 let params : Params := insertAll ∅ [("client_id".toList, "7".toList), (Key.reason, "50% spam".toList)]
 have merge : mergedParams (reasonBody "50% spam") "client_id=7&reason=%2B".toList jsonRequest = .ok params := rfl
 have plain : AllPlain params := by
  have all : ∀ param ∈ pairs params, PlainParam param := by decide +kernel
  exact fun name value found => all _ (mem_pairs.mpr found)
 obtain ⟨merged, made, sees, isolated⟩ := (plain_params_are_isolated (reasonBody "50% spam")).2 _ _ _ merge plain
 exact ⟨merged, made, sees _ _ (.inr ⟨by decide +kernel, by decide, _, rfl, by decide +kernel⟩), isolated⟩

theorem escaped_value_injects_param :
  (¬ ∀ params : Params, (∀ name, params.lookup name ≠ none -> name ≠ []) ->
    ∀ key, (parseQueryString (encodeQueryString params)).lookup key = params.lookup key) /\
  ¬ ∀ (parseJson : Text -> Option (Table Text JsonValue)) (query : Text) (request : HttpRequest)
   (merged : Text), mergeWriteParamsFromRequest parseJson query request = .ok merged ->
   (∀ name value, SetsParam parseJson request name value -> (parseQueryString merged).lookup name = some value) /\
   ∀ name, (parseQueryString merged).lookup name ≠ none ->
    (parseQueryString query).lookup name ≠ none \/ NamesParam parseJson request name := by
 constructor
 · intro claim
   have same := claim (AList.singleton Key.reason "spam&op=ban".toList) ?_ Key.op
   · exact absurd same (by decide +kernel)
   · rintro name named rfl
     exact named (by decide +kernel)
 · intro claim
   have merge : mergeWriteParamsFromRequest (reasonBody "spam&op=ban") [] jsonRequest =
    .ok "reason=spam&op=ban".toList := by decide +kernel
   have sees := (claim _ _ _ _ merge).1 Key.reason "spam&op=ban".toList
    (.inr ⟨by decide +kernel, by decide, _, rfl, by decide +kernel⟩)
   exact absurd sees (by decide +kernel)

end Dynaxis.Admin
