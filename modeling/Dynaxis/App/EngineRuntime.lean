import Dynaxis.Shared.Machine
import Mathlib.Logic.Function.Basic

namespace Dynaxis.App

open Shared

structure Entry where
 name : String
 hasStartup : Bool
 hasShutdown : Bool
 started : Bool := false
 shutdownRan : Bool := false

structure ShutdownStep where
 name : String
 entry : Nat
 deriving DecidableEq

/-- How far `run_shutdown_steps` has come. Only one call gets past its first exchange, so its
list and its place in it are kept with the runtime. -/
inductive Sweep
 | notBegun
 | testing
 | swapping
 | running (rest : List ShutdownStep)
 | claimed (current : ShutdownStep) (rest : List ShutdownStep)
 | calling (current : ShutdownStep) (rest : List ShutdownStep)
 | finished
 deriving DecidableEq

/-- Modules are numbered in the order of their registration. The last three fields are no part
of the source: the modules whose startup has been completed, those whose shutdown callback has
been called, in that order, and how many calls of `run_shutdown` have returned. -/
structure EngineRuntime where
 name : String := ""
 entries : List Entry := []
 startupPhaseStarted : Bool := false
 shutdownPhaseStarted : Bool := false
 stopRequested : Bool := false
 ready : Bool := false
 steps : List ShutdownStep := []
 sweep : Sweep := .notBegun
 errors : List String := []
 startups : List Nat := []
 shutdowns : List Nat := []
 returned : Nat := 0

/-- What a call has still to do. `register_module` and `start_modules` start a module in the
same way, the one with nothing left in its loop. -/
inductive Frame
 | registered (entry : Nat) (startImmediately : Bool)
 | stepAdded (entry : Nat) (startImmediately : Bool)
 | loop (rest : List Nat)
 | inStartup (entry : Nat) (rest : List Nat)
 | clearing (entry : Nat) (rest : List Nat)
 | publishing (entry : Nat) (rest : List Nat)
 | flagged
 | stopping
 | claiming
 | sweeping
 deriving DecidableEq

inductive Call
 | registerModule (name : String) (hasStartup hasShutdown : Bool)
 | startModules
 | runShutdown
 | requestStop

inductive Outcome
 | returns
 | throws (what : Option String)

namespace EngineRuntime

variable (runtime : EngineRuntime)

def field (get : Entry -> Bool) (entry : Nat) : Bool := (runtime.entries[entry]?).any get

def started (runtime : EngineRuntime) (entry : Nat) : Bool := runtime.field (·.started) entry

def shutdownRan (runtime : EngineRuntime) (entry : Nat) : Bool := runtime.field (·.shutdownRan) entry

def hasStartup (runtime : EngineRuntime) (entry : Nat) : Bool := runtime.field (·.hasStartup) entry

def hasShutdown (runtime : EngineRuntime) (entry : Nat) : Bool := runtime.field (·.hasShutdown) entry

def modify (runtime : EngineRuntime) (entry : Nat) (change : Entry -> Entry) : EngineRuntime :=
 { runtime with entries := runtime.entries.modify entry change }

def addShutdownStep (entry : Nat) : EngineRuntime :=
 match runtime.entries[entry]? with
 | some found =>
  if found.hasShutdown then { runtime with steps := runtime.steps ++ [⟨"stop module " ++ found.name, entry⟩] }
  else runtime
 | none => runtime

def enter : Call -> EngineRuntime × List Frame
 | .registerModule name hasStartup hasShutdown =>
  let name := if name.isEmpty then "(unnamed module)" else name
  let startImmediately :=
   runtime.startupPhaseStarted && !runtime.shutdownPhaseStarted && !runtime.stopRequested
  ({ runtime with entries := runtime.entries ++ [{ name, hasStartup, hasShutdown }] },
    [.registered runtime.entries.length startImmediately])
 | .startModules =>
  if runtime.startupPhaseStarted || runtime.shutdownPhaseStarted || runtime.stopRequested then (runtime, [])
  else ({ runtime with startupPhaseStarted := true }, [.loop (List.range runtime.entries.length)])
 | .runShutdown => ({ runtime with shutdownPhaseStarted := true }, [.flagged])
 | .requestStop => ({ runtime with stopRequested := true }, [])

def launch (entry : Nat) (rest : List Nat) : Frame :=
 if runtime.hasStartup entry then .inStartup entry rest else .clearing entry rest

def leave : EngineRuntime × List Frame :=
 ({ runtime with returned := runtime.returned + 1 }, [])

def runShutdownSteps : Option (EngineRuntime × List Frame) :=
 let goOn (runtime : EngineRuntime) (sweep : Sweep) : EngineRuntime × List Frame :=
  ({ runtime with sweep }, [.sweeping])
 match runtime.sweep with
 | .notBegun | .finished | .calling .. => none
 | .testing =>
  if runtime.steps.isEmpty then some { runtime with sweep := .finished }.leave
  else some (goOn runtime .swapping)
 | .swapping => some (goOn { runtime with steps := [] } (.running runtime.steps.reverse))
 | .running [] => some { runtime with sweep := .finished }.leave
 | .running (current :: rest) =>
  if runtime.started current.entry then
   some (goOn (runtime.modify current.entry ({ · with started := false })) (.claimed current rest))
  else some (goOn runtime (.running rest))
 | .claimed current rest =>
  if runtime.shutdownRan current.entry then some (goOn runtime (.running rest))
  else
   let marked := runtime.modify current.entry ({ · with shutdownRan := true })
   some (goOn { marked with shutdowns := marked.shutdowns ++ [current.entry] } (.calling current rest))

def proceed : Frame -> Option (EngineRuntime × List Frame)
 | .registered entry startImmediately => some (runtime.addShutdownStep entry, [.stepAdded entry startImmediately])
 | .stepAdded entry startImmediately =>
  if startImmediately && !runtime.stopRequested then some (runtime, [runtime.launch entry []])
  else some (runtime, [])
 | .loop [] => some (runtime, [])
 | .loop (entry :: rest) =>
  if runtime.started entry then some (runtime, [.loop rest]) else some (runtime, [runtime.launch entry rest])
 | .inStartup .. => none
 | .clearing entry rest => some (runtime.modify entry ({ · with shutdownRan := false }), [.publishing entry rest])
 | .publishing entry rest =>
  let published := runtime.modify entry ({ · with started := true })
  some ({ published with startups := published.startups ++ [entry] }, [.loop rest])
 | .flagged => some ({ runtime with stopRequested := true }, [.stopping])
 | .stopping => some ({ runtime with ready := false }, [.claiming])
 | .claiming =>
  match runtime.sweep with
  | .notBegun => some ({ runtime with sweep := .testing }, [.sweeping])
  | _ => some runtime.leave
 | .sweeping => runtime.runShutdownSteps

def stepFailed (current : ShutdownStep) : Outcome -> List String
 | .returns => []
 | .throws what => [runtime.name ++ " shutdown step failed: " ++ current.name ++ ": " ++ what.getD "unknown exception"]

def answer : Frame -> Outcome -> Option (EngineRuntime × List Frame)
 | .inStartup entry rest, .returns => some (runtime, [.clearing entry rest])
 | .inStartup .., .throws _ => some (runtime, [])
 | .sweeping, outcome =>
  match runtime.sweep with
  | .calling current rest =>
   some ({ runtime with
    sweep := .running rest, errors := runtime.errors ++ runtime.stepFailed current outcome }, [.sweeping])
  | _ => none
 | _, _ => none

def inCallback : Frame -> Bool
 | .inStartup .. => true
 | .sweeping =>
  match runtime.sweep with
  | .calling .. => true
  | _ => false
 | _ => false

end EngineRuntime

structure Process (Thread : Type) where
 runtime : EngineRuntime
 calls : Thread -> List Frame

inductive Action (Thread : Type)
 | call (thread : Thread) (call : Call)
 | proceed (thread : Thread)
 | answer (thread : Thread) (outcome : Outcome)

def Call.anyThread : Call -> Bool
 | .runShutdown | .requestStop => true
 | .registerModule .. | .startModules => false

namespace Process

variable {Thread : Type}

def create (Thread : Type) (name : String) : Process Thread where
 runtime := { name }
 calls _ := []

def mayCall (process : Process Thread) (thread : Thread) : Bool :=
 match process.calls thread with
 | [] => true
 | frame :: _ => process.runtime.inCallback frame

variable [DecidableEq Thread]

def put (process : Process Thread) (thread : Thread) (below : List Frame) (result : EngineRuntime × List Frame) :
  Process Thread where
 runtime := result.1
 calls := Function.update process.calls thread (result.2 ++ below)

def step (main : Thread) (process : Process Thread) : Action Thread -> Option (Process Thread)
 | .call thread call =>
  if process.mayCall thread && (call.anyThread || thread = main) then
   some (process.put thread (process.calls thread) (process.runtime.enter call))
  else none
 | .proceed thread =>
  match process.calls thread with
  | [] => none
  | frame :: below => (process.runtime.proceed frame).map (process.put thread below)
 | .answer thread outcome =>
  match process.calls thread with
  | [] => none
  | frame :: below => (process.runtime.answer frame outcome).map (process.put thread below)

def machine (main : Thread) : Machine (Process Thread) (Action Thread) := ⟨step main⟩

end Process

end Dynaxis.App
