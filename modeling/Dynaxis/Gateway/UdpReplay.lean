import Dynaxis.Gateway.UdpIngress

namespace Dynaxis.Gateway

open Shared Dynaxis.Protocol List Option

def sequencedForwards (settings : Settings) (ingress : UdpIngress) (event : IngressEvent) : List (Text × Bytes) :=
 match ingress.receiver, event with
 | .sequencedFound _ _ _ _, .proceed =>
  ((ingress.proceed settings).map fun next => next.forwarded.drop ingress.forwarded.length).getD []
 | _, _ => []

def seqsFor (sessionId : Text) (forwarded : List (Text × Bytes)) : List Nat :=
 (forwarded.filter (·.1 = sessionId)).map fun frame => (Protocol.decodeHeader frame.2).seq

def forwardedSeqs (settings : Settings) (sessionId : Text) : UdpIngress -> List IngressEvent -> List Nat
 | _, [] => []
 | ingress, event :: rest =>
  match ingress.step settings event with
  | none => []
  | some next =>
   seqsFor sessionId (sequencedForwards settings ingress event) ++ forwardedSeqs settings sessionId next rest

def issuesTicketFor (sessionId : Text) : IngressEvent -> Bool
 | .issueTicket issuedFor _ _ => issuedFor = sessionId
 | _ => false

structure SessionState.Remembers (session : SessionState) (seqs : List Nat) : Prop where
 unbound : session.udpBound = false -> seqs = [] \/ session.udpNonce = 0
 bound : session.udpBound = true ->
  ∀ seq ∈ seqs, session.udpSequencedMetrics.initialized = true /\ seq ≤ session.udpSequencedMetrics.lastSeq

def Remembered (sessions : Sessions) (sessionId : Text) (seqs : List Nat) : Prop :=
 ∀ session, sessions.lookup sessionId = some session -> session.Remembers seqs

section

variable {settings : Settings} {sessions : Sessions} {ingress next : UdpIngress} {sessionId key : Text}
 {endpoint : Endpoint} {seqs : List Nat} {session : SessionState} {now : Nat} {request : DirectBindRequest}
 {event : IngressEvent}

theorem SessionState.refusal_none (granted : session.refusal settings request endpoint now = none) :
  session.udpNonce ≠ 0 /\ (session.udpBound = true -> session.udpEndpoint = endpoint) := by
 simp only [refusal] at granted
 split_ifs at granted with _ unissued _ _ _ _ taken
 rw [not_or, not_or] at unissued
 refine ⟨unissued.2.1, fun bound => ?_⟩
 by_contra elsewhere
 exact taken ⟨bound, elsewhere⟩

abbrev NotRebound (sessionId : Text) (ingress : UdpIngress) (event : IngressEvent) : Prop :=
 ∀ request ∈ bindRequestOf event, request.1 = sessionId -> ¬ Binds ingress.sessions sessionId request.2

theorem Remembered.stays (remembered : Remembered ingress.sessions key seqs)
  (taken : ingress.step settings event = some next) (sameTicket : issuesTicketFor key event = false)
  (fresh : NotRebound key ingress event)
  (other : event = .proceed -> ∀ endpoint datagram now, ingress.receiver ≠ .sequencedFound key endpoint datagram now) :
  Remembered next.sessions key seqs := by
 intro after present
 have change := step_change taken key
 rw [present] at change
 generalize before : ingress.sessions.lookup key = earlier at change
 cases change with
 | kept => exact remembered after before
 | created => exact ⟨fun _ => .inr rfl, fun bound => Bool.noConfusion bound⟩
 | ticketed session ticket nonce issuedUnixMs issues => simp [issues, issuesTicketFor] at sameTicket
 | refused session | processed session =>
  obtain ⟨unbound, bound⟩ := remembered session before
  exact ⟨unbound, bound⟩
 | bound session request endpoint now requested granted =>
  obtain ⟨ticketed, place⟩ := SessionState.refusal_none granted
  -- the memory is lost here, so there must be nothing in it
  have unbound : session.udpBound = false := by
   by_contra bound
   rw [Bool.not_eq_false] at bound
   refine fresh _ requested rfl ⟨session, before, ?_⟩
   rw [SessionState.boundTo, bound, place bound, Bool.true_and, decide_eq_true rfl]
  obtain none | unticketed := (remembered session before).unbound unbound
  · exact ⟨fun bound => Bool.noConfusion bound, fun _ => by simp [none]⟩
  · exact absurd unticketed ticketed
 | sequenced session endpoint datagram now proceeds found => exact absurd found (other proceeds _ _ _)
 | sent session msgId frame now =>
  obtain ⟨_, _, kept⟩ := SessionState.queueDirect_keeps settings session msgId frame now
  rw [kept]
  obtain ⟨unbound, bound⟩ := remembered session before
  exact ⟨unbound, bound⟩

theorem UdpSequencedMetrics.onPacket_cases (metrics : UdpSequencedMetrics) (seq now : Nat) :
  (metrics.onPacket seq now).1 = metrics /\ (metrics.onPacket seq now).2.accepted = false \/
    (metrics.initialized = true -> metrics.lastSeq < seq) /\ (metrics.onPacket seq now).2.accepted = true /\
      (metrics.onPacket seq now).1.initialized = true /\ (metrics.onPacket seq now).1.lastSeq = seq := by
 unfold onPacket
 cases initialized : metrics.initialized with
 | false => exact .inr ⟨fun impossible => Bool.noConfusion impossible, rfl, rfl, rfl⟩
 | true =>
  by_cases same : seq = metrics.lastSeq
  · simp [same]
  · by_cases older : seq < metrics.lastSeq
    · simp [same, older]
    · have newer : metrics.lastSeq < seq := by omega
      simp [same, older, newer]

theorem sequence_cases (ingress : UdpIngress) (sessionId : Text) (endpoint : Endpoint)
  (datagram : Bytes) (now : Nat) :
  let next := ingress.sequence sessionId endpoint datagram now
  (next.sessions = ingress.sessions /\ next.forwarded = ingress.forwarded) \/
    ∃ session, ingress.sessions.lookup sessionId = some session /\ session.udpBound = true /\
     let update := session.udpSequencedMetrics.onPacket (decodeHeader datagram).seq now
     next.sessions = ingress.sessions.insert sessionId { session with udpSequencedMetrics := update.1 } /\
     next.forwarded = ingress.forwarded ++ if update.2.accepted then [(sessionId, datagram)] else [] := by
 simp only [UdpIngress.sequence]
 split
 · exact .inl ⟨rfl, rfl⟩
 next session still =>
  obtain ⟨found, bound⟩ := lookup_of_stillBound still
  refine .inr ⟨session, found, bound, ?_⟩
  split
  · exact ⟨rfl, rfl⟩
  · exact ⟨rfl, (append_nil _).symm⟩

structure Extends (sessions : Sessions) (sessionId : Text) (seqs new : List Nat) : Prop where
 remembered : Remembered sessions sessionId (seqs ++ new)
 newer : ∀ seq ∈ seqs, ∀ later ∈ new, seq < later
 ordered : new.Pairwise (· < ·)

theorem Remembered.silent (remembered : Remembered sessions key seqs) : Extends sessions key seqs [] :=
 ⟨by rwa [append_nil], fun _ _ _ none => absurd none not_mem_nil, List.Pairwise.nil⟩

variable (remembered : Remembered ingress.sessions key seqs)
include remembered

theorem Remembered.sequence {datagram : Bytes} :
  let next := ingress.sequence key endpoint datagram now
  Extends next.sessions key seqs (seqsFor key (next.forwarded.drop ingress.forwarded.length)) := by
 intro next
 obtain ⟨sessions, forwarded⟩ | ⟨session, found, bound, sessions, forwarded⟩ :=
  sequence_cases ingress key endpoint datagram now
 · rw [sessions, forwarded, drop_length]
   exact remembered.silent
 · rw [sessions, forwarded, drop_left]
   have known := (remembered session found).bound bound
   obtain ⟨unchanged, refused⟩ | ⟨older, accepted, initialized, last⟩ :=
    session.udpSequencedMetrics.onPacket_cases (decodeHeader datagram).seq now
   · rw [refused, unchanged]
     refine silent fun changed present => ?_
     rw [Table.lookup_insert_ite, if_pos rfl] at present
     cases present
     exact remembered session found
   · have below : ∀ seq ∈ seqs, seq < (decodeHeader datagram).seq := fun seq member =>
      Nat.lt_of_le_of_lt (known seq member).2 (older (known seq member).1)
     rw [accepted, if_pos rfl, show seqsFor key [(key, datagram)] = [_] by simp [seqsFor]; rfl]
     refine ⟨fun changed present => ?_, fun seq member later new => ?_, pairwise_singleton _ _⟩
     · rw [Table.lookup_insert_ite, if_pos rfl] at present
       cases present
       refine ⟨fun unbound => Bool.noConfusion (bound.symm.trans unbound), fun _ seq member => ⟨initialized, ?_⟩⟩
       rw [last]
       rcases mem_append.mp member with earlier | new
       · exact Nat.le_of_lt (below seq earlier)
       · exact Nat.le_of_eq (mem_singleton.mp new)
     · rw [mem_singleton.mp new]
       exact below seq member

theorem Remembered.step (taken : ingress.step settings event = some next)
  (sameTicket : issuesTicketFor key event = false) (fresh : NotRebound key ingress event) :
  Extends next.sessions key seqs (seqsFor key (sequencedForwards settings ingress event)) := by
 rw [sequencedForwards.eq_def]
 split
 next sessionId endpoint datagram now receiver =>
  rw [show ingress.proceed settings = some next from taken, map_some, getD_some]
  have sequenced : { ingress with receiver := .idle }.sequence sessionId endpoint datagram now = next := by
   simpa only [UdpIngress.step, UdpIngress.proceed, receiver, some.injEq] using taken
  by_cases same : sessionId = key
  · subst same sequenced
    exact sequence (show Remembered { ingress with receiver := .idle }.sessions sessionId seqs from remembered)
  · have nothing : seqsFor key (next.forwarded.drop ingress.forwarded.length) = [] := by
     rw [<- sequenced]
     obtain ⟨-, forwarded⟩ | ⟨session, -, -, -, forwarded⟩ :=
      sequence_cases { ingress with receiver := .idle } sessionId endpoint datagram now <;> rw [forwarded]
     · simp [seqsFor]
     · rw [drop_left]
       split <;> simp [seqsFor, same]
    rw [nothing]
    refine (remembered.stays taken sameTicket fresh fun _ _ _ _ found => ?_).silent
    rw [receiver] at found
    cases found
    exact same rfl
 next other =>
  refine (remembered.stays taken sameTicket fresh fun proceeds _ _ _ found => ?_).silent
  exact other _ _ _ _ found proceeds

theorem Remembered.run (ordered : seqs.Pairwise (· < ·))
  {events : List IngressEvent} (sameTicket : ∀ event ∈ events, issuesTicketFor key event = false)
  (fresh : (ingressMachine settings).Guarded (NotRebound key) ingress events) :
  (seqs ++ forwardedSeqs settings key ingress events).Pairwise (· < ·) := by
 -- the accumulator is what has been forwarded since the ticket
 induction events generalizing ingress seqs with
 | nil => simpa [forwardedSeqs] using ordered
 | cons event rest ih =>
  rw [forwardedSeqs]
  obtain ⟨here, later⟩ := fresh
  split
  · rwa [append_nil]
  next next taken =>
   have extended := remembered.step taken (sameTicket event mem_cons_self) here
   rw [<- append_assoc]
   refine ih extended.remembered ?_ (fun event member => sameTicket event (mem_cons_of_mem _ member)) (later next taken)
   exact pairwise_append.mpr ⟨ordered, extended.ordered, extended.newer⟩

omit remembered

end

instance (sessions : Sessions) (sessionId : Text) (endpoint : Endpoint) :
  Decidable (Binds sessions sessionId endpoint) :=
 decidable_of_iff ((sessions.lookup sessionId).any (·.boundTo endpoint) = true)
  (any_eq_true _ _)

/-- In every run without a ticket for the session in which no bind request for it comes from the
endpoint it is bound to: the sequenced datagrams forwarded to it are in strictly increasing order. -/
theorem sequenced_datagrams_increase (settings : Settings) (sessionId : Text) (ingress : UdpIngress)
  (events : List IngressEvent) (sameTicket : ∀ event ∈ events, issuesTicketFor sessionId event = false)
  (fresh : (ingressMachine settings).Guarded (NotRebound sessionId) ingress events) :
  (forwardedSeqs settings sessionId ingress events).Pairwise (· < ·) := by
 have remembered : Remembered ingress.sessions sessionId [] := fun session _ =>
  ⟨fun _ => .inl rfl, fun _ _ none => absurd none not_mem_nil⟩
 exact remembered.run List.Pairwise.nil sameTicket fresh

def msgFpsInput : Nat := 0x0206

def replaySettings : Settings :=
 { sampleSettings with
   opcodePolicy := fun msgId =>
    if msgId = msgFpsInput then some { transport := .both, delivery := .unreliableSequenced } else none
   udpOpcodeAllowlist := [msgFpsInput] }

def ticketed : List IngressEvent := [.createSession, .issueTicket "gw-1".toList 5 1000]

def ticketedIngress : UdpIngress := ((ingressMachine replaySettings).run {} ticketed).getD {}

def sampleInput (seq : Nat) : Bytes := Protocol.encodeHeader { msgId := msgFpsInput, seq }

def inputsReplayed : List IngressEvent :=
 [.receive sampleEndpoint (sampleBind "gw-1" 5 6000) 1100 1100,
   .receive sampleEndpoint (sampleInput 1) 1200 1200, .proceed,
   .receive sampleEndpoint (sampleInput 2) 1300 1300, .proceed,
   .receive sampleEndpoint (sampleInput 1) 1400 1400, .proceed]

theorem replayed_input_is_dropped :
  forwardedSeqs replaySettings "gw-1".toList ticketedIngress inputsReplayed = [1, 2] /\ [1, 2].Pairwise (· < ·) := by
 have seqs : forwardedSeqs replaySettings "gw-1".toList ticketedIngress inputsReplayed = [1, 2] := by decide +kernel
 refine ⟨seqs, ?_⟩
 rw [<- seqs]
 exact sequenced_datagrams_increase replaySettings "gw-1".toList ticketedIngress inputsReplayed
  (by decide +kernel) (by decide +kernel)

def bindReplayed : List IngressEvent :=
 [.receive sampleEndpoint (sampleBind "gw-1" 5 6000) 1100 1100,
   .receive sampleEndpoint (sampleInput 1) 1200 1200, .proceed,
   .receive sampleEndpoint (sampleBind "gw-1" 5 6000) 1300 1300,
   .receive sampleEndpoint (sampleInput 1) 1400 1400, .proceed]

theorem replayed_input_is_forwarded_after_rebind :
  ¬ ∀ (settings : Settings) (before : List IngressEvent) (sessionId : Text)
   (nonce issuedUnixMs : Nat) (ingress : UdpIngress) (events : List IngressEvent),
   (ingressMachine settings).run {} (before ++ [.issueTicket sessionId nonce issuedUnixMs]) = some ingress ->
     (∀ event ∈ events, issuesTicketFor sessionId event = false) ->
       (forwardedSeqs settings sessionId ingress events).Pairwise (· < ·) := by
 intro claim
 have reached : (ingressMachine replaySettings).run {} ticketed = some ticketedIngress := by
  have runs : ((ingressMachine replaySettings).run {} ticketed).isSome := by decide +kernel
  obtain ⟨ingress, ran⟩ := isSome_iff_exists.mp runs
  rw [ticketedIngress, ran, getD_some]
 have increasing := claim replaySettings [.createSession] "gw-1".toList 5 1000 ticketedIngress bindReplayed reached
  (by decide +kernel)
 have seqs : forwardedSeqs replaySettings "gw-1".toList ticketedIngress bindReplayed = [1, 1] := by decide +kernel
 rw [seqs] at increasing
 exact absurd increasing (by decide)

end Dynaxis.Gateway
