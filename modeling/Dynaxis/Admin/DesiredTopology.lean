import Dynaxis.Admin.Query
import Dynaxis.Admin.Topology
import Dynaxis.Worlds.Plan

namespace Dynaxis.Admin

open Shared Dynaxis.Worlds List

/-- What `nlohmann::json` makes of a text. The members of an object have distinct names. -/
inductive Json
 | null
 | boolean (value : Bool)
 | integer (value : Int)
 | float
 | string (value : Text)
 | array (items : List Json)
 | object (members : List (Text × Json))

def requiresJsonBody : ApiError := badRequest "desired topology endpoint requires a JSON body".toList

def requiresApplicationJson : ApiError :=
 { status := "415 Unsupported Media Type", code := "UNSUPPORTED_CONTENT_TYPE"
   message := "desired topology endpoint requires application/json".toList }

def invalidParameter (message parameter : String) : ApiError :=
 badRequest message.toList [("parameter", parameter.toList)]

def member (name : String) (members : List (Text × Json)) : Option Json := members.lookup name.toList

def parseReplicas : Option Json -> Except ApiError Nat
 | some (.integer value) =>
  -- `get<long long>` of a large unsigned number is negative
  if i64 value < 0 then .error (invalidParameter "pool.replicas must be a non-negative integer" "replicas")
  else .ok (u32 value.toNat)
 | _ => .error (invalidParameter "pool.replicas must be a non-negative integer" "replicas")

def parseCapacityClass : Option Json -> Except ApiError Text
 | none => .ok []
 | some (.string value) => .ok (Text.trim value)
 | some _ => .error (invalidParameter "pool.capacity_class must be a string" "capacity_class")

def parsePlacementTag : Json -> Except ApiError Text
 | .string value => .ok (Text.trim value)
 | _ => .error (invalidParameter "pool.placement_tags must be an array of strings" "placement_tags")

def parsePlacementTags : Option Json -> Except ApiError (List Text)
 | none => .ok []
 | some (.array items) => do
  let tags <- items.mapM parsePlacementTag
  pure (tags.filter (· ≠ []))
 | some _ => .error (invalidParameter "pool.placement_tags must be an array of strings" "placement_tags")

def parsePool : Json -> Except ApiError DesiredTopologyPool
 | .object members =>
  match member "world_id" members, member "shard" members with
  | some (.string world), some (.string shard) =>
   let worldId := Text.trim world
   let shard := Text.trim shard
   if worldId = [] \/ shard = [] then
    .error (invalidParameter "pool.world_id and pool.shard must be non-empty strings" "pools")
   else do
    let replicas <- parseReplicas (member "replicas" members)
    let capacityClass <- parseCapacityClass (member "capacity_class" members)
    let placementTags <- parsePlacementTags (member "placement_tags" members)
    pure { worldId, shard, replicas, capacityClass, placementTags }
  | some (.string _), _ => .error (invalidParameter "pool.shard must be a non-empty string" "shard")
  | _, _ => .error (invalidParameter "pool.world_id must be a non-empty string" "world_id")
 | _ => .error (invalidParameter "each pool must be an object" "pools")

def parsePools : List Text -> List Json -> Except ApiError (List DesiredTopologyPool)
 | _, [] => .ok []
 | seenPoolKeys, item :: rest =>
  match parsePool item with
  | .error refusal => .error refusal
  | .ok pool =>
   if seenPoolKeys.contains pool.key then
    .error (invalidParameter "duplicate world_id/shard pool entry" "pools")
   else (parsePools (pool.key :: seenPoolKeys) rest).map (pool :: ·)

def parseExpectedRevision : Option Json -> Except ApiError (Option Nat)
 | none | some .null => .ok none
 | some (.integer value) =>
  if value < 0 then
   .error (invalidParameter "expected_revision must be a non-negative integer or null" "expected_revision")
  else .ok (some value.toNat)
 | some _ => .error (invalidParameter "expected_revision must be a non-negative integer or null" "expected_revision")

section

-- `nlohmann::json::parse`, with nothing for a text that it discards
variable (parseJson : Text -> Option Json)

def parseDesiredTopologyWriteRequest (request : HttpRequest) : Except ApiError DesiredTopologyWriteRequest :=
 if request.body = [] then .error requiresJsonBody
 else if !request.isJson then .error requiresApplicationJson
 else
  match parseJson request.body with
  | some (.object members) =>
   match member "topology_id" members with
   | some (.string topologyId) =>
    if Text.trim topologyId = [] then
     .error (invalidParameter "topology_id must be a non-empty string" "topology_id")
    else
     match member "pools" members with
     | some (.array items) => do
      let pools <- parsePools [] items
      let expectedRevision <- parseExpectedRevision (member "expected_revision" members)
      pure { topology := { topologyId := Text.trim topologyId, pools }, expectedRevision }
     | _ => .error (invalidParameter "pools must be an array" "pools")
   | _ => .error (invalidParameter "topology_id must be a non-empty string" "topology_id")
  | _ => .error (badRequest "malformed JSON body".toList)

end

theorem parsePools_keys {seen : List Text} {items : List Json} {pools : List DesiredTopologyPool}
  (parsed : parsePools seen items = .ok pools) :
  (pools.map (·.key)).Nodup /\ ∀ key ∈ pools.map (·.key), key ∉ seen := by
 induction items generalizing seen pools with
 | nil =>
  cases parsed
  simp
 | cons item rest ih =>
  rw [parsePools] at parsed
  split at parsed
  · cases parsed
  next pool _ =>
   split at parsed
   · cases parsed
   next fresh =>
    cases later : parsePools (pool.key :: seen) rest with
    | error refusal =>
     rw [later] at parsed
     cases parsed
    | ok others =>
     rw [later] at parsed
     cases parsed
     obtain ⟨distinct, apart⟩ := ih later
     rw [map_cons]
     constructor
     · refine nodup_cons.mpr ⟨fun repeated => ?_, distinct⟩
       exact apart pool.key repeated mem_cons_self
     · intro key listed
       obtain rfl | other := mem_cons.mp listed
       · simpa using fresh
       · exact fun earlier => apart key other (mem_cons_of_mem _ earlier)

theorem parseDesiredTopologyWriteRequest_keys {parseJson : Text -> Option Json} {request : HttpRequest}
  {write : DesiredTopologyWriteRequest} (accepted : parseDesiredTopologyWriteRequest parseJson request = .ok write) :
  (write.topology.pools.map (·.key)).Nodup := by
 unfold parseDesiredTopologyWriteRequest at accepted
 repeat' split at accepted
 all_goals try cases accepted
 obtain ⟨pools, parsed, checked⟩ := except_bind_ok accepted
 obtain ⟨expectedRevision, _, made⟩ := except_bind_ok checked
 cases made
 exact (parsePools_keys parsed).1

/-- The plan of an accepted document has the exact differences, and no scale action is left once they are
carried out: just when at least one replica is desired of each pool that can be scaled, and the casts of
the counts to signed words keep their difference. -/
theorem accepted_topology_converges (parseJson : Text -> Option Json) (request : HttpRequest)
  (write : DesiredTopologyWriteRequest) (document : DesiredTopologyDocument) (observed : List ObservedTopologyPool)
  (accepted : parseDesiredTopologyWriteRequest parseJson request = .ok write)
  (stored : document.pools = write.topology.pools) (fits : CountsFit document observed) :
  ((∀ action ∈ (planTopologyActuation (some document) observed).actions, action.action.scales = true ->
     ExactScale document observed action) /\
   ∀ action ∈ (planTopologyActuation (some document) (carriedOut document observed)).actions,
    action.action.scales = false) ↔
  Plannable document observed := by
 have distinct : (document.pools.map (·.key)).Nodup := by
  rw [stored]
  exact parseDesiredTopologyWriteRequest_keys accepted
 constructor
 · rintro ⟨exact, settles⟩
   exact plannable_of_converges distinct exact fits settles
 · intro plannable
   have exact (action : TopologyActuationAction)
     (listed : action ∈ (planTopologyActuation (some document) observed).actions)
     (scales : action.action.scales = true) : ExactScale document observed action :=
    plan_scales_exactly distinct fits plannable scales listed
   exact ⟨exact, fun _ => plan_after_carriedOut distinct exact plannable⟩

def sampleTopologyRequest : HttpRequest :=
 { headers := Table.insertAll ∅ [("content-type".toList, "application/json".toList)]
   body := "body".toList }

def sampleTopologyJson (replicas : Int) : Json :=
 .object
  [("topology_id".toList, .string "t1".toList), ("pools".toList, .array [.object
      [("world_id".toList, .string sampleWorld), ("shard".toList, .string sampleShard),
        ("replicas".toList, .integer replicas)]])]

theorem missing_instances_are_added :
  ∃ action ∈ (planTopologyActuation (some (sampleDesired 3)) (sampleObserved 1)).actions,
   action.action = .scaleOutPool /\ 0 < action.replicaDelta := by
 let write : DesiredTopologyWriteRequest :=
  { topology := { topologyId := "t1".toList, pools := (sampleDesired 3).pools } }
 have accepted : parseDesiredTopologyWriteRequest (fun _ => some (sampleTopologyJson 3)) sampleTopologyRequest =
  .ok write := rfl
 have fits : CountsFit (sampleDesired 3) (sampleObserved 1) := ⟨by decide +kernel, by decide +kernel⟩
 have plannable : Plannable (sampleDesired 3) (sampleObserved 1) := by unfold Plannable; decide +kernel
 have sound := ((accepted_topology_converges _ sampleTopologyRequest write (sampleDesired 3) (sampleObserved 1)
  accepted rfl fits).mpr plannable).1
 obtain ⟨action, listed, kind⟩ : ∃ action ∈ (planTopologyActuation (some (sampleDesired 3))
   (sampleObserved 1)).actions, action.action = .scaleOutPool := by
  decide +kernel
 exact ⟨action, listed, kind, (sound action listed (by rw [kind]; rfl)).positive⟩

theorem empty_pool_is_scaled_out_by_nothing :
  ∃ write, parseDesiredTopologyWriteRequest (fun _ => some (sampleTopologyJson 0)) sampleTopologyRequest =
   .ok write /\
   ∃ action ∈ (planTopologyActuation (some write.topology) []).actions,
    action.action = .scaleOutPool /\ action.replicaDelta = 0 := by
 refine ⟨{ topology := { topologyId := "t1".toList, pools := (sampleDesired 0).pools } }, rfl, ?_⟩
 decide +kernel

end Dynaxis.Admin
