import Dynaxis.Shared.Strand
import Dynaxis.Chat.Ownership

namespace Dynaxis.Chat

open Shared Chat.Runtime Strand
open Shared.Strand (Access)

inductive Hook where
 | onLogin
 | onJoin
 | onLeave
 | onSessionEvent
 deriving DecidableEq

inductive HostCall where
 | getUserName (sessionId : Nat)
 | getUserRoom (sessionId : Nat)
 | getRoomUsers (roomName : String)
 | getRoomList
 | getRoomOwner (roomName : String)
 | isUserMuted (nickname : String)
 | isUserBanned (nickname : String)
 | getOnlineCount
 | getRoomCount
 | sendNotice (sessionId : Nat) (text : String)
 | broadcastRoom (roomName text : String)
 | broadcastAll (text : String)
 | kickUser (sessionId : Nat) (reason : String)
 | muteUser (nickname : String) (durationSec : Nat) (reason : String)
 | banUser (nickname : String) (durationSec : Nat) (reason : String)
 | logInfo (message : String)
 | logWarn (message : String)
 | logDebug (message : String)
 | hookName
 | scriptName

def HostCall.sections (found : Bool) : HostCall -> Nat
 | .getUserName _ => 1
 | .getUserRoom _ => 1
 | .getRoomUsers roomName => if roomName = "" then 0 else 1
 | .getRoomList => 1
 | .getRoomOwner roomName => if roomName = "" then 0 else 1
 | .isUserMuted nickname => if nickname = "" then 0 else 1
 | .isUserBanned nickname => if nickname = "" then 0 else 1
 | .getOnlineCount => 1
 | .getRoomCount => 1
 | .sendNotice sessionId text => if sessionId = 0 \/ text = "" then 0 else 1
 | .broadcastRoom roomName text => if roomName = "" \/ text = "" then 0 else if found then 2 else 1
 | .kickUser sessionId _ => if sessionId = 0 then 0 else 1
 -- these queue a job
 | .broadcastAll _ => 0
 | .muteUser _ _ _ => 0
 | .banUser _ _ _ => 0
 | .logInfo _ => 0
 | .logWarn _ => 0
 | .logDebug _ => 0
 | .hookName => 0
 | .scriptName => 0

def ChatServiceState.asksToLeave (state : ChatServiceState) (request : LeaveRequest) : Bool :=
 match state.curRoom.lookup request.session.pointer with
 | none => false
 | some roomToLeave =>
  request.session.pointer ∈ state.authed /\ (request.room = "" \/ roomToLeave = request.room) /\
   state.roomExists roomToLeave

def Job.access (world : World) : Job -> Access Hook
 | .login _ .resume => ⟨false, none⟩
 | .login _ (.hook _ _) => ⟨false, some .onLogin⟩
 | .login _ (.lease _) => ⟨false, none⟩
 | .login _ (.presence _) => ⟨false, none⟩
 | .login _ _ => ⟨true, none⟩
 | .join request .enter => ⟨true, if request.session.pointer ∈ world.state.authed then some .onJoin else none⟩
 | .join _ (.persist _) => ⟨false, none⟩
 | .join _ _ => ⟨true, none⟩
 | .leave request .exit => ⟨true, if world.state.asksToLeave request then some .onLeave else none⟩
 | .leave _ (.persist _) => ⟨false, none⟩
 | .leave _ _ => ⟨true, none⟩
 | .send _ (.deliver _ _ _) => ⟨false, none⟩
 | .send _ (.stop _) => ⟨false, none⟩
 | .send _ _ => ⟨true, none⟩
 | .whisper _ (.deliver _ _) => ⟨false, none⟩
 | .whisper _ _ => ⟨true, none⟩
 | .close _ .hook => ⟨false, some .onSessionEvent⟩
 | .close _ (.presence _) => ⟨false, none⟩
 | .close _ _ => ⟨true, none⟩
 | .moderate _ (.apply _) => ⟨true, none⟩
 | .moderate _ _ => ⟨false, none⟩
 | .chores _ [] => ⟨false, none⟩
 | .chores _ (_ :: _) => ⟨true, none⟩

def Job.accesses (runtime : Runtime) : Job -> List (World × Choices) -> Option (List (Access Hook))
 | _, [] => none
 | job, (world, choices) :: rest =>
  match (job.step runtime choices world).2 with
  | none => some [job.access world]
  | some continued => (accesses runtime continued rest).map (job.access world :: ·)

namespace Hooks

inductive Event where
 | serve (job : Job) (moments : List (World × Choices))
 | work (action : Strand.Action Hook)

abbrev State := Strand.State Hook HostCall

def scripts (script : Hook -> List HostCall) : Strand.Scripts Hook HostCall where
 script := script
 sections call found := call.sections found

def machine (runtime : Runtime) (script : Hook -> List HostCall) : Machine State Event where
 step state event :=
  match event with
  | .serve job moments =>
   (job.accesses runtime moments).bind fun program => step (scripts script) state (.start program)
  | .work action => (Strand.machine (scripts script)).step state action

theorem step_cases {runtime : Runtime} {script : Hook -> List HostCall} {state next : State} {event : Event}
  (taken : (machine runtime script).step state event = some next) : Strand.Step (scripts script) state next := by
 cases event with
 | serve job moments =>
  obtain ⟨program, -, started⟩ := Option.bind_eq_some_iff.mp taken
  exact step_inv (scripts script) state started
 | work action => exact Strand.machine_step (scripts script) state taken

/-- When no script calls anything that takes the lock, every job there is can be brought to its end. -/
theorem jobs_come_to_their_ends (runtime : Runtime) (script : Hook -> List HostCall)
  (harmless : ∀ hook, ∀ call ∈ script hook, ∀ found, call.sections found = 0) (trace : List Event) (state : State)
  (ran : (machine runtime script).run {} trace = some state) :
  ∃ final, (Strand.machine (scripts script)).Reaches state final /\ final.Finished := by
 have sound : Strand.Sound (scripts script) state :=
  (machine runtime script).run_keeps (fun _ _ _ sound taken => sound.step harmless (step_cases taken))
    Strand.Sound.initial ran
 exact Strand.reaches_finished harmless sound

def moments (runtime : Runtime) : World -> Job -> List Choices -> List (World × Choices)
 | _, _, [] => []
 | world, job, choices :: rest =>
  let (next, continued) := job.step runtime choices world
  (world, choices) ::
    match continued with
    | none => []
    | some continued => moments runtime next continued rest

def aliceOnline : World :=
 match (Server.machine standalone).run Server.empty
  ([.accept Server.firstClient] ++ Server.serve (.login ⟨Server.firstClient, "alice", ""⟩) 9) with
 | none => World.empty
 | some server => server.world

def joinUnderWay : List Event :=
 let job : Job := .join ⟨Server.firstClient, "den", ""⟩ .start
 [.serve job (moments standalone aliceOnline job (List.replicate 12 {})), .work (.enter 0), .work (.done 0),
   .work (.enter 0), .work (.consult 0), .work (.post 0), .work .begin, .work (.call true)]

def greeting : Hook -> List HostCall
 | .onJoin => [.logInfo "join", .broadcastAll "welcome"]
 | _ => []

theorem greeted_join_ends :
  ∃ state, (machine standalone greeting).run {} joinUnderWay = some state /\
   (state.threads 0).phase = .posted /\ state.holder = some 0 /\
   ∃ final, (Strand.machine (scripts greeting)).Reaches state final /\ final.Finished := by
 obtain ⟨state, ran, posted, held⟩ := (machine standalone greeting).exists_final
  (show ∃ state ∈ (machine standalone greeting).run {} joinUnderWay,
    (state.threads 0).phase = .posted /\ state.holder = some 0 by decide +kernel)
 refine ⟨state, ran, posted, held, jobs_come_to_their_ends standalone greeting ?_ joinUnderWay state ran⟩
 intro hook call called found
 cases hook with
 | onJoin =>
  obtain rfl | rfl : call = .logInfo "join" \/ call = .broadcastAll "welcome" := by simpa [greeting] using called
  · rfl
  · rfl
 | _ => cases called

def asksForOwner : Hook -> List HostCall
 | .onJoin => [.getRoomOwner "den"]
 | _ => []

/-- Alice joins a room whose `on_join` script asks for its owner: the job never gets its answer. -/
theorem join_waits_forever :
  ¬ ∀ (runtime : Runtime) (script : Hook -> List HostCall) (trace : List Event) (state : State),
   (machine runtime script).run {} trace = some state ->
   ∀ index, (state.threads index).phase = .posted ->
    ∃ final, (Strand.machine (scripts script)).Reaches state final /\ (final.threads index).phase ≠ .posted := by
 intro claim
 obtain ⟨state, ran, held, posted, script⟩ := (machine standalone asksForOwner).exists_final
  (show ∃ state ∈ (machine standalone asksForOwner).run {} joinUnderWay,
    state.holder = some 0 /\ (state.threads 0).phase = .posted /\
    ∃ callout ∈ state.strand.head?, callout.running = true /\ callout.sections ≠ 0 by decide +kernel)
 have consistent : state.Consistent :=
  (machine standalone asksForOwner).run_keeps
  (fun _ _ _ consistent taken => consistent.step (step_cases taken))
    .initial ran
 obtain ⟨final, reaches, answered⟩ := claim standalone asksForOwner joinUnderWay state ran 0 posted
 have deadlocked : state.Deadlocked 0 := ⟨consistent, held, posted, script⟩
 exact answered (deadlocked.reaches reaches).posted

end Hooks

end Dynaxis.Chat
