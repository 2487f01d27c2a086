import Dynaxis.Shared.Machine
import Dynaxis.Chat.Jobs

/-! Connections come and go, requests are queued, and any number of workers take jobs from the queue and run them
step by step. -/

namespace Dynaxis.Chat

open Shared

inductive Request where
 | login (request : LoginRequest)
 | join (request : JoinRequest)
 | leave (request : LeaveRequest)
 | send (request : SendRequest)
 | whisper (request : WhisperRequest)
 | moderate (request : ModerationRequest)

namespace Request

def job : Request -> Job
 | .login request => .login request .start
 | .join request => .join request .start
 | .leave request => .leave request .start
 | .send request => .send request .check
 | .whisper request => .whisper request .authorize
 | .moderate request => .moderate request .start

def session : Request -> Option Session
 | .login request => some request.session
 | .join request => some request.session
 | .leave request => some request.session
 | .send request => some request.session
 | .whisper request => some request.session
 | .moderate _ => none

end Request

namespace World

/-- An address may be used again once the session at it is gone; control blocks and session
ids are never used twice. -/
abbrev Fresh (world : World) (session : Session) : Prop :=
 (∀ other ∈ world.live, other.pointer ≠ session.pointer) /\
   ∀ other ∈ world.accepted, other.block ≠ session.block /\ other.sessionId ≠ session.sessionId

def accept (world : World) (session : Session) : World :=
 { world with
   live := session :: world.live
   accepted := session :: world.accepted }

def destroy (world : World) (session : Session) : World :=
 { world with live := world.live.filter (· ≠ session) }

end World

structure Server where
 world : World
 running : List Job

namespace Server

def empty : Server where
 world := World.empty
 running := []

inductive Event where
 | accept (session : Session)
 | receive (request : Request)
 | disconnect (session : Session)
 | take
 | advance (index : Nat) (choices : Choices)
 | destroy (session : Session)
 | elapse (milliseconds : Nat)

abbrev Held (server : Server) (session : Session) : Prop :=
 ∃ job ∈ server.world.queue ++ server.running, session ∈ job.holds

def setWorld (server : Server) (world : World) : Server := { server with world }

def replaceJob (running : List Job) (index : Nat) : Option Job -> List Job
 | none => running.eraseIdx index
 | some job => running.set index job

def step (runtime : Runtime) (server : Server) : Event -> Option Server
 | .accept session => if server.world.Fresh session then some (server.setWorld (server.world.accept session)) else none
 | .receive request =>
  if ∀ session ∈ request.session, session ∈ server.world.live /\ session ∉ server.world.stopped then
   some (server.setWorld { server.world with queue := server.world.queue ++ [request.job] })
  else none
 | .disconnect session =>
  if session ∈ server.world.live then some (server.setWorld (server.world.stop session)) else none
 | .take =>
  match server.world.queue with
  | [] => none
  | job :: rest => some { world := { server.world with queue := rest }, running := server.running ++ [job] }
 | .advance index choices =>
  match server.running[index]? with
  | none => none
  | some job =>
   let (world, next) := job.step runtime choices server.world
   some { world, running := replaceJob server.running index next }
 | .destroy session =>
  if session ∈ server.world.live /\ session ∈ server.world.stopped /\ ¬ server.Held session then
   some (server.setWorld (server.world.destroy session))
  else none
 | .elapse milliseconds => some (server.setWorld { server.world with clock := server.world.clock + milliseconds })

def machine (runtime : Runtime) : Machine Server Event where
 step := step runtime

end Server

namespace World

def runJob (runtime : Runtime) : World -> Job -> List Choices -> Option World
 | _, _, [] => none
 | world, job, choices :: rest =>
  match job.step runtime choices world, rest with
  | (next, none), [] => some next
  | (_, none), _ :: _ => none
  | (next, some continued), rest => runJob runtime next continued rest

inductive Event where
 | accept (session : Session)
 | serve (request : Request) (choices : List Choices)
 | close (session : Session) (choices : List Choices)
 | destroy (session : Session)
 | elapse (milliseconds : Nat)

def step (runtime : Runtime) (world : World) : Event -> Option World
 | .accept session => if world.Fresh session then some (world.accept session) else none
 | .serve request choices =>
  if ∀ session ∈ request.session, session ∈ world.live /\ session ∉ world.closed then
   world.runJob runtime request.job choices
  else none
 | .close session choices =>
  if session ∈ world.live /\ session ∉ world.closed then
   world.runJob runtime (.close session .start) choices
  else none
 | .destroy session => if session ∈ world.live /\ session ∈ world.closed then some (world.destroy session) else none
 | .elapse milliseconds => some { world with clock := world.clock + milliseconds }

def machine (runtime : Runtime) : Machine World Event where
 step := step runtime

end World

end Dynaxis.Chat
