import Dynaxis.Shared.Turns
import Dynaxis.Chat.Delivery

namespace Dynaxis.Chat

open Shared List Chat.Runtime Option

abbrev MessageTurns := Turns Session (List ChatFrame)

namespace MessageTurns

def submitAll (turns : MessageTurns) (jobs : List Job) : MessageTurns :=
 jobs.foldl (fun turns job => turns.submit job.client) turns

def handed (turns : MessageTurns) (session receiver : Session) : List (Nat × ChatFrame) :=
 turns.log.flatMap fun work =>
  if work.client = some session then (work.output.filter (·.receiver = receiver)).map (work.number, ·) else []

end MessageTurns

namespace Server

def account (runtime : Runtime) (server : Server) (event : Event) (turns : MessageTurns) : MessageTurns :=
 match event with
 | .receive request => turns.submit request.job.client
 | .disconnect session => turns.submitAll ((server.world.stop session).queue.drop server.world.queue.length)
 | .take => turns.take
 | .advance index choices =>
  match server.running[index]? with
  | none => turns
  | some job =>
   let (world, continued) := job.step runtime choices server.world
   MessageTurns.submitAll (turns.work index job.frames continued.isNone)
    (world.queue.drop server.world.queue.length)
 | _ => turns

def accounted (runtime : Runtime) : Machine (Server × MessageTurns) Event :=
 (machine runtime).annotate (account runtime)

def Staffed (workers : Nat) (server : Server) : Event -> Prop
 | .take => server.running.length < workers
 | _ => True

instance (workers : Nat) (server : Server) : (event : Event) -> Decidable (server.Staffed workers event)
 | .take => inferInstanceAs (Decidable (_ < _))
 | .accept _ | .receive _ | .disconnect _ | .advance _ _ | .destroy _ | .elapse _ => isTrue trivial

def KeepsTurns (server : Server) : Event -> Prop
 | .take => ∀ job ∈ server.world.queue.head?, ∀ session ∈ job.client, ∀ other ∈ server.running,
  other.client ≠ some session
 | _ => True

instance (server : Server) : (event : Event) -> Decidable (server.KeepsTurns event)
 | .take => inferInstanceAs (Decidable (∀ job ∈ _, _))
 | .accept _ | .receive _ | .disconnect _ | .advance _ _ | .destroy _ | .elapse _ => isTrue trivial

theorem Staffed.keepsTurns {server : Server} {event : Event} (staffed : server.Staffed 1 event) :
  server.KeepsTurns event := by
 cases event with
 | take =>
  intro job _ session _ other busy
  have nobody : server.running = [] := length_eq_zero_iff.mp (Nat.lt_one_iff.mp staffed)
  rw [nobody] at busy
  cases busy
 | _ => trivial

structure Aligned (server : Server) (turns : MessageTurns) : Prop where
 queue : server.world.queue.map Job.client = turns.submitted.drop turns.taken
 running : server.running.map Job.client = turns.running.map (·.client)

end Server

theorem MessageTurns.submitAll_eq (turns : MessageTurns) (jobs : List Job) :
  turns.submitAll jobs = { turns with submitted := turns.submitted ++ jobs.map Job.client } := by
 induction jobs generalizing turns with
 | nil => simp [submitAll]
 | cons job rest ih =>
  rw [submitAll, foldl_cons]
  refine (ih (turns.submit job.client)).trans ?_
  simp [Turns.submit]

theorem MessageTurns.inTurn_submitAll {turns : MessageTurns} (inTurn : turns.InTurn) (jobs : List Job) :
  (turns.submitAll jobs).InTurn := by
 induction jobs generalizing turns with
 | nil => exact inTurn
 | cons job rest ih => exact ih (inTurn.submit job.client)

namespace Server

variable {runtime : Runtime} {server next : Server} {turns : MessageTurns}

theorem Aligned.submitAll (aligned : server.Aligned turns) (within : turns.taken ≤ turns.submitted.length)
  (jobs : List Job) {world : World} (queued : world.queue = server.world.queue ++ jobs) :
  (server.setWorld world).Aligned (turns.submitAll jobs) := by
 rw [MessageTurns.submitAll_eq]
 constructor
 · rw [drop_append_of_le_length within, <- aligned.queue, <- map_append, <- queued]
   rfl
 · exact aligned.running

variable {job : Job} {state : Server × MessageTurns}

theorem Aligned.work (aligned : server.Aligned turns) {index : Nat} (found : server.running[index]? = some job)
  (frames : List ChatFrame) {continued : Option Job} (client : ∀ next ∈ continued, next.client = job.client) :
  Aligned { server with running := replaceJob server.running index continued }
   (turns.work index frames continued.isNone) := by
 have same : (turns.running.map (·.client))[index]? = some job.client := by
  rw [<- aligned.running, getElem?_map, found]
  rfl
 rw [getElem?_map] at same
 obtain ⟨progress, here, served⟩ := map_eq_some_iff.mp same
 unfold Turns.work
 rw [here]
 refine ⟨aligned.queue, ?_⟩
 cases continued with
 | none =>
  show (server.running.eraseIdx index).map Job.client = (turns.running.eraseIdx index).map (·.client)
  rw [<- eraseIdx_map, <- eraseIdx_map, aligned.running]
 | some next =>
  show (server.running.set index next).map Job.client = (turns.running.set index _).map (·.client)
  rw [map_set, map_set, aligned.running, client next rfl, served]

structure Orderly (state : Server × MessageTurns) : Prop where
 aligned : state.1.Aligned state.2
 inTurn : state.2.InTurn

theorem Aligned.front (aligned : server.Aligned turns) :
  server.world.queue.head?.map Job.client = turns.submitted[turns.taken]? := by
 rw [<- head?_map, aligned.queue, head?_drop]

theorem Orderly.take {rest : List Job} (orderly : Orderly (server, turns))
  (keeps : server.KeepsTurns .take) (queued : server.world.queue = job :: rest) :
  Orderly ({ world := { server.world with queue := rest }, running := server.running ++ [job] }, turns.take) := by
 have front : turns.submitted[turns.taken]? = some job.client := by
  rw [<- orderly.aligned.front, queued]
  rfl
 have free : turns.FrontIsFree := by
  intro session isFirst progress busy served
  have isClient : job.client = some session := some.inj (front.symm.trans isFirst)
  have listed : progress.client ∈ server.running.map Job.client := by
   rw [orderly.aligned.running]
   exact mem_map_of_mem busy
  obtain ⟨other, running, same⟩ := mem_map.mp listed
  refine keeps job ?_ session isClient other running (same.trans served)
  rw [queued]
  rfl
 refine ⟨?_, orderly.inTurn.take free⟩
 have queue := orderly.aligned.queue
 have running := orderly.aligned.running
 unfold Turns.take
 rw [front]
 dsimp only at queue running ⊢
 constructor
 · rw [queued, map_cons] at queue
   dsimp only
   rw [<- tail_drop, <- queue]
   rfl
 · dsimp only
   rw [map_append, map_append, running]
   rfl

theorem Orderly.step {next : Server × MessageTurns} {event : Event} (orderly : Orderly state)
  (keeps : state.1.KeepsTurns event) (taken : (accounted runtime).step state event = some next) : Orderly next := by
 obtain ⟨server, turns⟩ := state
 obtain ⟨after, accounts⟩ := next
 obtain ⟨stepped, noted⟩ := (machine runtime).annotate_step_some.mp taken
 change step runtime server event = some after at stepped
 change account runtime server event turns = accounts at noted
 subst noted
 cases event with
 | accept session | destroy session =>
  obtain ⟨-, ⟨⟩⟩ := ite_none_right_eq_some.mp stepped
  exact ⟨⟨orderly.aligned.queue, orderly.aligned.running⟩, orderly.inTurn⟩
 | receive request =>
  obtain ⟨-, ⟨⟩⟩ := ite_none_right_eq_some.mp stepped
  exact ⟨orderly.aligned.submitAll orderly.inTurn.within [request.job] rfl, orderly.inTurn.submit _⟩
 | disconnect session =>
  obtain ⟨-, ⟨⟩⟩ := ite_none_right_eq_some.mp stepped
  obtain ⟨stops, stopped, -, -⟩ := server.world.stopAll_spec [session]
  have queued : (server.world.stop session).queue = server.world.queue ++ stops.map (.close · .start) :=
   congrArg World.queue stopped
  simp only [account, queued, drop_left]
  exact ⟨orderly.aligned.submitAll orderly.inTurn.within _ queued, MessageTurns.inTurn_submitAll orderly.inTurn _⟩
 | take =>
  simp only [step] at stepped
  split at stepped
  · cases stepped
  next job rest queued =>
   cases stepped
   exact orderly.take keeps queued
 | advance index choices =>
  simp only [step] at stepped
  split at stepped
  · cases stepped
  next job found =>
   cases stepped
   obtain ⟨stops, -, queued, -, -⟩ := (job.step_frame runtime choices server.world).stops
   simp only [account, found, queued, drop_left]
   have works := orderly.inTurn.work index job.frames (job.step runtime choices server.world).2.isNone
   have aligned := orderly.aligned.work found job.frames (job.step_continues runtime choices server.world).client
   exact ⟨aligned.submitAll works.within _ queued, MessageTurns.inTurn_submitAll works _⟩
 | elapse milliseconds =>
  cases stepped
  exact ⟨⟨orderly.aligned.queue, orderly.aligned.running⟩, orderly.inTurn⟩

theorem Orderly.handed (orderly : Orderly state) (session receiver : Session) :
  (state.2.handed session receiver).Pairwise fun first second => first.1 ≤ second.1 := by
 refine pairwise_flatMap.mpr ⟨fun work _ => ?_, orderly.inTurn.ordered.imp fun {first second} ordered => ?_⟩
 · split
   · exact pairwise_map.mpr (pairwise_of_forall fun _ _ => Nat.le_refl _)
   · exact List.Pairwise.nil
 · intro early isEarly late isLate
   split at isEarly
   next fromFirst =>
    split at isLate
    next fromSecond =>
     obtain ⟨_, -, rfl⟩ := mem_map.mp isEarly
     obtain ⟨_, -, rfl⟩ := mem_map.mp isLate
     exact ordered session fromFirst fromSecond
    · cases isLate
   · cases isEarly

/-- As long as no two jobs of a session are under way at once, its jobs begin in the order in which
they were queued, and what they send to anybody is sent in that order. -/
theorem messages_keep_their_order (runtime : Runtime) (trace : List Event)
  (final : Server × MessageTurns) (ran : (accounted runtime).run (empty, {}) trace = some final)
  (keeps : (accounted runtime).Guarded (fun state event => state.1.KeepsTurns event) (empty, {}) trace)
  (session : Session) :
  final.2.begun session <+: final.2.numbers session final.2.submitted.length /\
   ∀ receiver, (MessageTurns.handed final.2 session receiver).Pairwise fun first second => first.1 ≤ second.1 := by
 have start : Orderly (empty, {}) := ⟨⟨rfl, rfl⟩, Turns.InTurn.empty⟩
 have orderly : Orderly final :=
  (accounted runtime).run_invariant (fun _ _ _ orderly keeps taken => orderly.step keeps taken) start keeps ran
 exact ⟨orderly.inTurn.begun_prefix session, orderly.handed session⟩

theorem oneWorker_keepsTurns {trace : List Event}
  (staffed : (accounted runtime).Guarded (fun state event => state.1.Staffed 1 event) (empty, {}) trace) :
  (accounted runtime).Guarded (fun state event => state.1.KeepsTurns event) (empty, {}) trace :=
 (accounted runtime).guarded_mono (fun _ _ staffed => staffed.keepsTurns) staffed

def twoMessages : List Event :=
 [.accept firstClient, .accept secondClient] ++ serve (.login ⟨firstClient, "alice", ""⟩) 9 ++
   serve (.login ⟨secondClient, "bob", ""⟩) 9 ++
   [.receive (.send ⟨firstClient, "lobby", "one"⟩), .receive (.send ⟨firstClient, "lobby", "two"⟩)]

theorem bob_reads_in_order :
  ∃ final, (accounted standalone).run (empty, {})
   (twoMessages ++ [.take] ++ advanceBy 5 0 ++ [.take] ++ advanceBy 5 0) = some final /\
   ((MessageTurns.handed final.2 firstClient secondClient).map fun sent => (sent.1, sent.2.text)) =
     [(2, "one"), (3, "two")] /\
   final.2.begun firstClient <+: final.2.numbers firstClient final.2.submitted.length /\
   ∀ receiver, (MessageTurns.handed final.2 firstClient receiver).Pairwise fun first second =>
    first.1 ≤ second.1 := by
 obtain ⟨final, ran, texts⟩ := (accounted standalone).exists_final
  (show ∃ final ∈ (accounted standalone).run (empty, {})
     (twoMessages ++ [.take] ++ advanceBy 5 0 ++ [.take] ++ advanceBy 5 0),
    ((MessageTurns.handed final.2 firstClient secondClient).map fun sent => (sent.1, sent.2.text)) =
      [(2, "one"), (3, "two")] by decide +kernel)
 have keeps := oneWorker_keepsTurns
  (show (accounted standalone).Guarded (fun state event => state.1.Staffed 1 event) (empty, {})
    (twoMessages ++ [.take] ++ advanceBy 5 0 ++ [.take] ++ advanceBy 5 0) by decide +kernel)
 exact ⟨final, ran, texts, messages_keep_their_order standalone _ final ran keeps firstClient⟩

def overtaking : List Event := twoMessages ++ [.take, .take] ++ advanceBy 5 1 ++ advanceBy 5 0

theorem overtaking_staffed :
  (accounted standalone).Guarded (fun state event => state.1.Staffed 2 event) (empty, {}) overtaking := by
 decide +kernel

theorem second_message_overtakes_the_first :
  (¬ ∀ (runtime : Runtime) (workers : Nat) (trace : List Event) (final : Server × MessageTurns), 1 ≤ workers ->
    (accounted runtime).run (empty, {}) trace = some final ->
    (accounted runtime).Guarded (fun state event => state.1.Staffed workers event) (empty, {}) trace ->
    ∀ session, final.2.begun session <+: final.2.numbers session final.2.submitted.length) /\
  ¬ ∀ (runtime : Runtime) (workers : Nat) (trace : List Event) (final : Server × MessageTurns),
   1 ≤ workers -> (accounted runtime).run (empty, {}) trace = some final ->
   (accounted runtime).Guarded (fun state event => state.1.Staffed workers event) (empty, {}) trace ->
   ∀ session receiver,
    (MessageTurns.handed final.2 session receiver).Pairwise fun first second => first.1 ≤ second.1 := by
 obtain ⟨final, ran, begun, sent⟩ := (accounted standalone).exists_final
  (show ∃ final ∈ (accounted standalone).run (empty, {}) overtaking,
    ¬ final.2.begun firstClient <+: final.2.numbers firstClient final.2.submitted.length /\
    MessageTurns.handed final.2 firstClient secondClient =
     [(3, ⟨secondClient, "alice", "two"⟩), (2, ⟨secondClient, "alice", "one"⟩)] by decide +kernel)
 constructor
 · intro claim
   exact begun (claim standalone 2 overtaking final (by decide) ran overtaking_staffed firstClient)
 · intro claim
   have ordered := claim standalone 2 overtaking final (by decide) ran overtaking_staffed firstClient secondClient
   rw [sent] at ordered
   exact absurd ordered (by decide)

end Server

end Dynaxis.Chat
