import Dynaxis.Chat.Bans
import Dynaxis.Chat.Ownership

namespace Dynaxis.Chat

open Shared Chat.Runtime List

structure BanEntry where
 user : String
 key : BanKey
 expiresAt : Nat
 deriving DecidableEq

section

variable (banKeys : String -> List BanKey) (now : Nat) (book : List BanEntry) (operation : BanOperation)

def recordBan : List BanEntry :=
 let keys := banKeys operation.user
 let imposed := operation.expiresAt.toList.flatMap fun expiresAt => keys.map (⟨operation.user, ·, expiresAt⟩)
 imposed ++ book.filter fun entry => ¬ (entry.user = operation.user /\ entry.key ∈ keys)

abbrev BanOperation.Spares : Prop :=
 ∀ entry ∈ book, entry.user ≠ operation.user -> now < entry.expiresAt -> entry.key ∈ banKeys operation.user ->
  ∃ expiresAt ∈ operation.expiresAt, entry.expiresAt ≤ expiresAt

end

def SpareOthers (banKeys : String -> List BanKey) (now : Nat) : List BanEntry -> List BanOperation -> Prop
 | _, [] => True
 | book, operation :: rest =>
  operation.Spares banKeys now book /\ SpareOthers banKeys now (recordBan banKeys book operation) rest

instance decidableSpareOthers (banKeys : String -> List BanKey) (now : Nat) :
  (book : List BanEntry) -> (operations : List BanOperation) -> Decidable (SpareOthers banKeys now book operations)
 | _, [] => isTrue trivial
 | book, operation :: rest =>
  have := decidableSpareOthers banKeys now (recordBan banKeys book operation) rest
  inferInstanceAs (Decidable (_ /\ _))

def InForce (now : Nat) (bans : BanKey -> Option Nat) (book : List BanEntry) : Prop :=
 ∀ entry ∈ book, now < entry.expiresAt -> ∃ expiry ∈ bans entry.key, entry.expiresAt ≤ expiry

namespace InForce

variable {now : Nat} {bans after : BanKey -> Option Nat} {book : List BanEntry}
 {banKeys : String -> List BanKey} (inForce : InForce now bans book)
include inForce

theorem lapse (lapses : Lapses now bans after) : InForce now after book := by
 intro entry listed lasts
 obtain ⟨expiry, banned, covers⟩ := inForce entry listed lasts
 exact ⟨expiry, lapses.unexpired banned (Nat.lt_of_lt_of_le lasts covers), covers⟩

theorem later {clock : Nat} (passed : now ≤ clock) : InForce clock bans book :=
 fun entry listed lasts => inForce entry listed (Nat.lt_of_le_of_lt passed lasts)

theorem record {operation : BanOperation} (spares : operation.Spares banKeys now book) :
  InForce now (operation.applyTo banKeys bans) (recordBan banKeys book operation) := by
 intro entry listed lasts
 unfold BanOperation.applyTo
 rw [recordBan, mem_append] at listed
 obtain imposed | kept := listed
 · simp only [mem_flatMap, Option.mem_toList, mem_map] at imposed
   obtain ⟨expiresAt, written, key, own, rfl⟩ := imposed
   rw [if_pos own]
   exact ⟨expiresAt, written, le_refl _⟩
 · obtain ⟨old, other⟩ := mem_filter.mp kept
   split
   next shared =>
    have foreign : entry.user ≠ operation.user := fun same => of_decide_eq_true other ⟨same, shared⟩
    exact spares entry old foreign lasts shared
   next => exact inForce entry old lasts

theorem recordAll {operations : List BanOperation} (spare : SpareOthers banKeys now book operations) :
  InForce now (operations.foldl (BanOperation.applyTo banKeys) bans)
   (operations.foldl (recordBan banKeys) book) := by
 induction operations generalizing bans book with
 | nil => exact inForce
 | cons operation rest ih => exact ih (inForce.record spare.1) spare.2

omit inForce

end InForce

namespace Server

variable {runtime : Runtime}

def recordBans (runtime : Runtime) (server : Server) (event : Event) (book : List BanEntry) : List BanEntry :=
 match event with
 | .advance index _ =>
  match server.running[index]? with
  | none => book
  | some job => (job.banOperations runtime server.world).foldl (recordBan server.world.state.banKeys) book
 | _ => book

def SparesOthers (runtime : Runtime) (server : Server × List BanEntry) : Event -> Prop
 | .advance index _ =>
  ∀ job ∈ server.1.running[index]?,
   SpareOthers server.1.world.state.banKeys server.1.world.clock server.2 (job.banOperations runtime server.1.world)
 | _ => True

instance (runtime : Runtime) (server : Server × List BanEntry) :
  (event : Event) -> Decidable (SparesOthers runtime server event)
 | .advance _ _ => inferInstanceAs (Decidable (∀ job ∈ _, _))
 | .receive _ | .accept _ | .disconnect _ | .take | .destroy _ | .elapse _ => isTrue trivial

def booked (runtime : Runtime) : Machine (Server × List BanEntry) Event :=
 (machine runtime).annotate (recordBans runtime)

structure BansHold (server : Server × List BanEntry) : Prop where
 past : server.1.Past
 inForce : InForce server.1.world.clock server.1.world.state.banEnds server.2

theorem BansHold.step {server next : Server × List BanEntry} {event : Event} (holds : BansHold server)
  (spares : SparesOthers runtime server event) (taken : (booked runtime).step server event = some next) :
  BansHold next := by
 obtain ⟨stepped, noted⟩ := (machine runtime).annotate_step_some.mp taken
 change Server.step runtime server.1 event = some next.1 at stepped
 have idle (quiet : ∀ index choices, event ≠ .advance index choices) (same : next.2 = server.2) :
  BansHold next := by
  obtain idle | ⟨index, choices, _, _, _, advances, -⟩ := step_cases stepped
  · refine ⟨holds.past.idle idle, ?_⟩
    rw [same, idle.state]
    exact holds.inForce.later idle.clock
  · exact absurd advances (quiet index choices)
 cases event with
 | advance index choices =>
  obtain ⟨job, before, after, found, split, result⟩ := advance_split stepped
  have own : job ∈ server.1.jobs := by simp [jobs, split]
  obtain ⟨bans, lapses, changed⟩ := job.step_bansChange runtime choices server.1.world (holds.past job own)
  refine ⟨holds.past.step stepped, ?_⟩
  have recorded : (job.banOperations runtime server.1.world).foldl (recordBan server.1.world.state.banKeys) server.2 =
    next.2 := by
   simpa only [recordBans, found] using noted
  rw [result, <- recorded, (job.step_frame runtime choices server.1.world).clock, changed]
  exact (holds.inForce.lapse lapses).recordAll (spares job found)
 | accept session | receive request | disconnect session | take | destroy session | elapse milliseconds =>
  exact idle (by simp) noted.symm

/-- In every run in which no operation reaches into the bans of another user, every ban is in
force until the time at which its own user's ban ends. -/
theorem bans_stay_apart (runtime : Runtime) (trace : List Event) (final : Server)
  (book : List BanEntry) (ran : (booked runtime).run (empty, []) trace = some (final, book))
  (spares : (booked runtime).Guarded (SparesOthers runtime) (empty, []) trace) :
  ∀ entry ∈ book, final.world.clock < entry.expiresAt ->
   ∃ expiry ∈ final.world.state.banEnds entry.key, entry.expiresAt ≤ expiry := by
 have initially : BansHold (empty, []) := ⟨nofun, nofun⟩
 have holds := (booked runtime).run_invariant
  (fun server event next holds spares taken => BansHold.step holds spares taken) initially spares ran
 exact holds.inForce

def bobIsBanned (bob : Session) (request : ModerationRequest) : List Event :=
 [.accept firstClient, .accept bob] ++ serve (.login ⟨firstClient, "alice", ""⟩) 9 ++
   serve (.login ⟨bob, "bob", ""⟩) 9 ++
   serve (.moderate { op := .ban, targets := ["bob"], durationSec := 600, reason := "" }) 3 ++
   -- the first job taken closes the session of bob
   [.receive (.moderate request), .take, .take] ++ advanceBy 2 1

def unbanAlice : ModerationRequest where
 op := .unban
 targets := ["alice"]
 durationSec := 0
 reason := ""

def neighbour : Session := { secondClient with remoteIp := firstClient.remoteIp }

theorem bob_stays_banned :
  ∃ final book,
   (booked standalone).run (empty, []) (bobIsBanned secondClient unbanAlice) = some (final, book) /\
   ⟨"bob", .ip secondClient.remoteIp, 600000⟩ ∈ book /\
   ∃ expiry ∈ final.world.state.banEnds (.ip secondClient.remoteIp), 600000 ≤ expiry := by
 obtain ⟨⟨final, book⟩, ran, listed, now⟩ := (booked standalone).exists_final
  (show ∃ final ∈ (booked standalone).run (empty, []) (bobIsBanned secondClient unbanAlice),
    ⟨"bob", .ip secondClient.remoteIp, 600000⟩ ∈ final.2 /\ final.1.world.clock < 600000 by decide +kernel)
 have guarded : (booked standalone).Guarded (SparesOthers standalone) (empty, [])
   (bobIsBanned secondClient unbanAlice) := by
  decide +kernel
 exact ⟨final, book, ran, listed, bans_stay_apart standalone _ final book ran guarded _ listed now⟩

/-- Alice and bob share an address. Unbanning alice lifts the ban on it, and a short ban of
alice replaces the long one. -/
theorem operations_reach_other_bans :
  ¬ ∃ request ∈ [unbanAlice, { unbanAlice with op := .ban, durationSec := 10 }],
   ∀ (final : Server) (book : List BanEntry),
    (booked standalone).run (empty, []) (bobIsBanned neighbour request) = some (final, book) ->
    ∀ entry ∈ book, final.world.clock < entry.expiresAt ->
     ∃ expiry ∈ final.world.state.banEnds entry.key, entry.expiresAt ≤ expiry := by
 rintro ⟨request, among, claim⟩
 have broken : ∀ request ∈ [unbanAlice, { unbanAlice with op := .ban, durationSec := 10 }],
   ∃ final ∈ (booked standalone).run (empty, []) (bobIsBanned neighbour request),
    ∃ entry ∈ final.2, final.1.world.clock < entry.expiresAt /\
     ¬ ∃ expiry ∈ final.1.world.state.banEnds entry.key, entry.expiresAt ≤ expiry := by
  decide +kernel
 obtain ⟨⟨final, book⟩, ran, entry, listed, now, gone⟩ := broken request among
 exact gone (claim final book ran entry listed now)

end Server

end Dynaxis.Chat
