import Dynaxis.Gateway.UdpReplay

namespace Dynaxis.Gateway

open Shared UdpIngress Option List Nat

section

variable (settings : Settings) (sessionId : Text) (ingress : UdpIngress) (event : IngressEvent)

def innerForwards : List (Text × Bytes) :=
 match ingress.receiver, event with
 | .rudpForwarding _ _, .proceed =>
  ((ingress.proceed settings).map fun next => next.forwarded.drop ingress.forwarded.length).getD []
 | _, _ => []

def directFrame : IngressEvent -> Option (Nat × Bytes)
 | .sendDirect target msgId frame _ =>
  if target = sessionId /\ isDirectEgressMsg msgId /\ frame ≠ [] then some (msgId, frame) else none
 | _ => none

abbrev UsesRudp : Prop :=
 (∃ entry ∈ innerForwards settings ingress event, entry.1 = sessionId) \/
   ∃ session ∈ ingress.sessions.lookup sessionId, ∃ frame ∈ directFrame sessionId event,
    (session.evaluateDirectEgress frame.1).route = .rudp

end

abbrev FellBack (sessions : Sessions) (sessionId : Text) : Prop :=
 ∃ session ∈ sessions.lookup sessionId, session.rudpFallbackToTcp = true

abbrev StaysBack (sessions : Sessions) (sessionId : Text) : Prop :=
 ∀ session ∈ sessions.lookup sessionId, session.rudpFallbackToTcp = true

def Receiver.forwardsFor : Receiver -> Option Text
 | .rudpForwarding sessionId _ => some sessionId
 | _ => none

section

variable (sessionId : Text) (ingress : UdpIngress) (event : IngressEvent)

/-- No frame that is too long for RUDP is sent to the session while frames from inside one of
its packets are forwarded. -/
abbrev Undisturbed : Prop :=
 ingress.receiver.forwardsFor = some sessionId -> ∀ frame ∈ directFrame sessionId event,
  ∀ session ∈ ingress.sessions.lookup sessionId, ∀ engine ∈ session.rudpEngine,
   frame.2.length ≤ engine.config.mtuPayloadBytes

abbrev FromElsewhere : Prop :=
 ∀ request ∈ bindRequestOf event, request.1 = sessionId ->
  ∀ session ∈ ingress.sessions.lookup sessionId, session.udpBound = true /\ session.udpEndpoint ≠ request.2

end

inductive Clears (settings : Settings) (sessionId : Text) (ingress : UdpIngress) : IngressEvent -> Prop
 | created (same : settings.sessionIdStem ++ Text.decimal (ingress.sessionsCreated + 1) = sessionId) :
  Clears settings sessionId ingress .createSession
 | ticket {event : IngressEvent} {session : SessionState}
  (issued : issuesTicketFor sessionId event = true)
  (found : ingress.sessions.lookup sessionId = some session) : Clears settings sessionId ingress event
 | bound {event : IngressEvent} {session : SessionState} {endpoint : Endpoint}
  (requested : bindRequestOf event = some (sessionId, endpoint))
  (found : ingress.sessions.lookup sessionId = some session)
  (place : session.udpBound = true -> session.udpEndpoint = endpoint) :
  Clears settings sessionId ingress event

inductive FlagStep (settings : Settings) (sessionId : Text) (ingress : UdpIngress)
  (event : IngressEvent) (next : UdpIngress) (after : SessionState) : Prop
 | kept {session : SessionState} (found : ingress.sessions.lookup sessionId = some session)
  (same : after.rudpFallbackToTcp = session.rudpFallbackToTcp)
 | cleared (off : after.rudpFallbackToTcp = false) (cause : Clears settings sessionId ingress event)
 | raised {session : SessionState} (found : ingress.sessions.lookup sessionId = some session)
  (on : after.rudpFallbackToTcp = true)
  (calm : next.receiver.forwardsFor = some sessionId -> ¬ Undisturbed sessionId ingress event)

section

variable {settings : Settings} {ingress next : UdpIngress} {sessionId key : Text}
 {endpoint : Endpoint} {event : IngressEvent} {after : SessionState}
 {session : SessionState} {now bindNow msgId : Nat} {datagram frame : Bytes}

theorem SessionState.queueDirect_flag (given : frame ≠ [])
  (direct : (session.evaluateDirectEgress msgId).route = .rudp)
  (raised : (session.queueDirect settings msgId frame now).1.rudpFallbackToTcp ≠ session.rudpFallbackToTcp) :
  ∃ engine ∈ session.rudpEngine, engine.config.mtuPayloadBytes < frame.length := by
 obtain ⟨-, -, established⟩ := evaluateDirectDelivery_rudp direct
 obtain ⟨engine, present, running⟩ := (any_eq_true _ _).mp established
 refine ⟨engine, present, ?_⟩
 by_contra short
 refine raised ?_
 -- The engine is established and the frame has a fitting length, so it is queued.
 simp only [queueDirect, present, map_some, Rudp.RudpEngine.queueUnreliablePayload]
 rw [if_neg]
 simp only [of_decide_eq_true running, ne_eq, not_true_eq_false, given, false_or]
 exact short

theorem receiver_sendDirect (ingress : UdpIngress) (msgId now : Nat) (frame : Bytes) :
  (ingress.trySendDirectClientFrame settings key msgId frame now).1.receiver = ingress.receiver := by
 simp only [trySendDirectClientFrame]
 repeat' split
 all_goals rfl

theorem flagStep (taken : ingress.step settings event = some next)
  (present : next.sessions.lookup sessionId = some after) :
   FlagStep settings sessionId ingress event next after := by
 have change := step_change taken sessionId
 rw [present] at change
 generalize before : ingress.sessions.lookup sessionId = earlier at change
 cases change with
 | kept => exact .kept before rfl
 | refused session | sequenced session => exact .kept before rfl
 | created _ creates same =>
  subst creates
  exact .cleared rfl (.created same)
 | ticketed session ticket nonce issuedUnixMs issues =>
  exact .cleared rfl (.ticket (by simp [issues, issuesTicketFor]) before)
 | bound session request endpoint now requested granted =>
  exact .cleared rfl (.bound requested before (SessionState.refusal_none granted).2)
 | processed session rudpEngine rudpFallbackToTcp flag =>
  obtain same | ⟨on, idle⟩ := flag
  · exact .kept before same
  · refine .raised before on fun forwards => ?_
    rw [idle] at forwards
    cases forwards
 | sent session msgId frame now sends given direct =>
  subst sends
  by_cases flag : (session.queueDirect settings msgId frame now).1.rudpFallbackToTcp = session.rudpFallbackToTcp
  · exact .kept before flag
  obtain ⟨engine, running, tooLong⟩ := SessionState.queueDirect_flag given direct flag
  obtain ⟨eligible, off, -⟩ := evaluateDirectDelivery_rudp direct
  refine .raised before (Bool.eq_true_of_not_eq_false fun still => flag (still.trans off.symm))
   fun forwards calm => ?_
  cases taken
  rw [receiver_sendDirect] at forwards
  have offered : directFrame sessionId (.sendDirect sessionId msgId frame now) = some (msgId, frame) :=
   if_pos ⟨rfl, eligible, given⟩
  exact absurd tooLong (not_lt.mpr (calm forwards _ offered session before engine running))

theorem processRudp_forwards (idle : ingress.receiver = .idle) :
  let next := ingress.processRudp settings key endpoint datagram now
  next.receiver.forwardsFor = some sessionId ->
   ∃ session, next.sessions.lookup sessionId = some session /\ session.rudpFallbackToTcp = false := by
 have quiet : ingress.receiver.forwardsFor ≠ some sessionId := by simp [idle, Receiver.forwardsFor]
 simp only [processRudp]
 split
 · exact fun forwards => absurd forwards quiet
 next session still =>
  split
  · exact fun forwards => absurd forwards quiet
  next engine usable =>
   obtain ⟨-, able⟩ := filter_eq_some_iff.mp usable
   have running : session.rudpFallbackToTcp = false := by simpa using (Bool.and_eq_true_iff.mp able).2
   split
   · exact fun forwards => absurd forwards quiet
   next healthy =>
    rintro ⟨⟩
    refine ⟨_, (Table.lookup_insert_ite ..).trans (if_pos rfl), ?_⟩
    simp only [running, Bool.eq_false_iff.mpr healthy, Bool.or_false]

theorem receive_forwardsFor (idle : ingress.receiver = .idle) :
  (ingress.receive settings endpoint datagram now bindNow).receiver.forwardsFor = none := by
 simp only [receive, receiveRudp, receiveDirect, receiveBind]
 repeat' split
 all_goals first | rfl | exact congrArg Receiver.forwardsFor idle

theorem sequence_receiver (ingress : UdpIngress) :
  (ingress.sequence key endpoint datagram now).receiver = ingress.receiver := by
 simp only [UdpIngress.sequence]
 repeat' split
 all_goals rfl

theorem forwardInner_forwardsFor {frames : List Bytes}
  (forwards : ({ ingress with receiver := .idle }.forwardInner settings key frames).receiver.forwardsFor =
    some sessionId) : key = sessionId := by
 cases frames with
 | nil => cases forwards
 | cons frame rest =>
  rw [forwardInner] at forwards
  split at forwards
  · exact some.inj forwards
  · cases forwards

theorem forwardsFor_step (taken : ingress.step settings event = some next)
  (forwards : next.receiver.forwardsFor = some sessionId) :
  ingress.receiver.forwardsFor = some sessionId \/
   ∃ session, next.sessions.lookup sessionId = some session /\ session.rudpFallbackToTcp = false := by
 cases event with
 | createSession | issueTicket key nonce issuedUnixMs | closeSession key | stop => cases taken; exact .inl forwards
 | sendDirect key msgId frame now =>
  cases taken
  rw [receiver_sendDirect] at forwards
  exact .inl forwards
 | receive origin datagram now bindNow =>
  simp only [step] at taken
  split at taken
  next idle =>
   cases taken
   rw [receive_forwardsFor idle] at forwards
   cases forwards
  · cases taken
 | proceed =>
  simp only [step, proceed] at taken
  split at taken
  · cases taken
  · cases taken
    exact .inr (processRudp_forwards rfl forwards)
  next key frames found =>
   cases taken
   rw [found]
   exact .inl (congrArg some (forwardInner_forwardsFor forwards))
  · cases taken
    cases forwards
  · cases taken
    rw [sequence_receiver] at forwards
    cases forwards

theorem sessionsCreated_step (taken : ingress.step settings event = some next) :
  ingress.sessionsCreated ≤ next.sessionsCreated := by
 cases event with
 | createSession => cases taken; exact le_succ _
 | issueTicket key nonce issuedUnixMs | closeSession key | stop => cases taken; exact le_refl _
 | sendDirect key msgId frame now =>
  cases taken
  simp only [trySendDirectClientFrame]
  repeat' split
  all_goals exact le_refl _
 | receive origin datagram now bindNow =>
  simp only [step] at taken
  split at taken
  · cases taken
    simp only [receive, receiveRudp, receiveDirect, receiveBind]
    repeat' split
    all_goals exact le_refl _
  · cases taken
 | proceed =>
  simp only [step, proceed] at taken
  split at taken
  · cases taken
  · cases taken
    simp only [processRudp]
    repeat' split
    all_goals exact le_refl _
  next key frames found =>
   cases taken
   cases frames with
   | nil => exact le_refl _
   | cons frame rest =>
    rw [forwardInner]
    split <;> exact le_refl _
  · cases taken
    exact le_refl _
  · cases taken
    simp only [UdpIngress.sequence]
    repeat' split
    all_goals exact le_refl _

end

section

variable (settings : Settings) (sessionId : Text) (ingress : UdpIngress)

def Issued (sessionId : Text) : Prop :=
 ∃ number ≤ ingress.sessionsCreated, settings.sessionIdStem ++ Text.decimal number = sessionId

structure Settled : Prop where
 issued : ∀ session ∈ ingress.sessions.lookup sessionId, Issued settings ingress sessionId
 running : ingress.receiver.forwardsFor = some sessionId ->
  ∀ session ∈ ingress.sessions.lookup sessionId, session.rudpFallbackToTcp = false

structure Retired : Prop where
 issued : Issued settings ingress sessionId
 back : StaysBack ingress.sessions sessionId
 quiet : ingress.receiver.forwardsFor ≠ some sessionId

end

section

variable {settings : Settings} {ingress next : UdpIngress} {sessionId : Text} {event : IngressEvent}

theorem Issued.step (issued : Issued settings ingress sessionId) (taken : ingress.step settings event = some next) :
  Issued settings next sessionId := by
 obtain ⟨number, early, same⟩ := issued
 exact ⟨number, early.trans (sessionsCreated_step taken), same⟩

theorem Issued.not_next (issued : Issued settings ingress sessionId) :
  settings.sessionIdStem ++ Text.decimal (ingress.sessionsCreated + 1) ≠ sessionId := by
 obtain ⟨number, early, rfl⟩ := issued
 intro same
 have equal := Text.decimal_injective (append_cancel_left same)
 omega

theorem Settled.step (settled : Settled settings sessionId ingress) (calm : Undisturbed sessionId ingress event)
  (taken : ingress.step settings event = some next) : Settled settings sessionId next where
 issued := by
  intro after present
  cases flagStep taken present with
  | kept found _ | raised found _ _ => exact (settled.issued _ found).step taken
  | cleared _ cause =>
   cases cause with
   | created same =>
    cases taken
    exact ⟨ingress.sessionsCreated + 1, le_refl _, same⟩
   | ticket _ found | bound _ found _ => exact (settled.issued _ found).step taken
 running := by
  intro forwards after present
  obtain before | ⟨session, found, off⟩ := forwardsFor_step taken forwards
  · cases flagStep taken present with
    | kept found same => exact same.trans (settled.running before _ found)
    | raised _ _ disturbed => exact absurd calm (disturbed forwards)
    | cleared off _ => exact off
  · rw [found] at present
    cases present
    exact off

theorem Retired.step (retired : Retired settings sessionId ingress)
  (sameTicket : issuesTicketFor sessionId event = false) (elsewhere : FromElsewhere sessionId ingress event)
  (taken : ingress.step settings event = some next) : Retired settings sessionId next := by
 have back : StaysBack next.sessions sessionId := by
  intro after present
  cases flagStep taken present with
  | kept found same => exact same.trans (retired.back _ found)
  | raised _ on _ => exact on
  | cleared _ cause =>
   cases cause with
   | created same => exact absurd same retired.issued.not_next
   | ticket issued _ => exact Bool.noConfusion (sameTicket.symm.trans issued)
   | bound requested found place =>
    obtain ⟨bound, other⟩ := elsewhere _ requested rfl _ found
    exact absurd (place bound) other
 refine ⟨retired.issued.step taken, back, fun forwards => ?_⟩
 obtain before | ⟨session, found, off⟩ := forwardsFor_step taken forwards
 · exact retired.quiet before
 · exact Bool.noConfusion ((back session found).symm.trans off)

theorem forwardsFor_of_innerForwards {entry : Text × Bytes}
  (forwarded : entry ∈ innerForwards settings ingress event) :
  ingress.receiver.forwardsFor = some entry.1 := by
 unfold innerForwards at forwarded
 split at forwarded
 next key frames receiver =>
  rw [receiver]
  simp only [proceed, receiver, map_some, getD_some] at forwarded
  cases frames with
  | nil => simp [forwardInner] at forwarded
  | cons frame rest =>
   rw [forwardInner] at forwarded
   split at forwarded
   · simp only [forward, drop_left, mem_singleton] at forwarded
     rw [forwarded]
     rfl
   · simp at forwarded
 · exact absurd forwarded not_mem_nil

theorem Retired.not_usesRudp (retired : Retired settings sessionId ingress) :
  ¬ UsesRudp settings sessionId ingress event := by
 rintro (⟨entry, forwarded, rfl⟩ | ⟨session, found, frame, -, direct⟩)
 · exact retired.quiet (forwardsFor_of_innerForwards forwarded)
 · have off := (evaluateDirectDelivery_rudp direct).2.1
   exact Bool.noConfusion ((retired.back session found).symm.trans off)

end

/-- Once a session has fallen back it stays so for as long as it is given no new ticket and bind requests
for it come from other endpoints than its own. -/
theorem rudp_fallback_is_sticky (settings : Settings) (sessionId : Text) (before later : List IngressEvent)
  (middle final : UdpIngress) (calm : (ingressMachine settings).Guarded (Undisturbed sessionId) {} before)
  (reached : (ingressMachine settings).run {} before = some middle) (fallen : FellBack middle.sessions sessionId)
  (sameTicket : ∀ event ∈ later, issuesTicketFor sessionId event = false)
  (elsewhere : (ingressMachine settings).Guarded (FromElsewhere sessionId) middle later)
  (ran : (ingressMachine settings).run middle later = some final) :
  StaysBack final.sessions sessionId /\
   (ingressMachine settings).Guarded (fun ingress event => ¬ UsesRudp settings sessionId ingress event)
     middle later := by
 have start : Settled settings sessionId {} := by
  constructor
  · intro session absent
    cases absent
  · intro forwards
    cases forwards
 have settled : Settled settings sessionId middle :=
  (ingressMachine settings).run_invariant (fun _ _ _ settled calm taken => settled.step calm taken) start calm
    reached
 obtain ⟨session, found, on⟩ := fallen
 have retired : Retired settings sessionId middle := by
  refine ⟨settled.issued session found, fun other present => ?_, fun forwards => ?_⟩
  · cases (found : _ = _).symm.trans present
    exact on
  · exact Bool.noConfusion (on.symm.trans (settled.running forwards session found))
 have allowed := (ingressMachine settings).guarded_and
  ((ingressMachine settings).guarded_of_forall (fun event member _ => sameTicket event member) middle) elsewhere
 have kept (ingress : UdpIngress) (event : IngressEvent) (next : UdpIngress)
   (retired : Retired settings sessionId ingress)
   (allowed : issuesTicketFor sessionId event = false /\ FromElsewhere sessionId ingress event)
   (taken : (ingressMachine settings).step ingress event = some next) : Retired settings sessionId next :=
  retired.step allowed.1 allowed.2 taken
 constructor
 · exact ((ingressMachine settings).run_invariant kept retired allowed ran).back
 · exact (ingressMachine settings).guarded_of_invariant kept (fun _ _ retired _ => retired.not_usesRudp) retired
    allowed

def rudpSettings : Settings :=
 { replaySettings with
   rudpRolloutPolicy := { enabled := true, canaryPercent := 100, opcodeAllowlist := [msgFpsInput] } }

def truncatedRudp : Bytes := [0x52, 0x55]

def fallsBack : List IngressEvent :=
 ticketed ++
  [.receive sampleEndpoint (sampleBind "gw-1" 5 6000) 1100 1100,
    .receive sampleEndpoint truncatedRudp 1200 1200, .proceed]

def afterFallback : List IngressEvent :=
 [.receive { sampleEndpoint with port := 9001 } (sampleBind "gw-1" 5 6000) 1300 1300,
   .receive sampleEndpoint truncatedRudp 1400 1400, .proceed,
   .sendDirect "gw-1".toList msgFpsStateDelta (Protocol.encodeHeader { msgId := msgFpsStateDelta }) 1500]

theorem fallback_outlasts_a_foreign_bind :
  ∃ middle, (ingressMachine rudpSettings).run {} fallsBack = some middle /\
   ∃ final, (ingressMachine rudpSettings).run middle afterFallback = some final /\
    StaysBack final.sessions "gw-1".toList := by
 have calm : (ingressMachine rudpSettings).Guarded (Undisturbed "gw-1".toList) {} fallsBack := by decide +kernel
 have sameTicket : ∀ event ∈ afterFallback, issuesTicketFor "gw-1".toList event = false := by decide +kernel
 obtain ⟨middle, reached, fallen, elsewhere, runs⟩ :
   ∃ middle, (ingressMachine rudpSettings).run {} fallsBack = some middle /\
    FellBack middle.sessions "gw-1".toList /\
    (ingressMachine rudpSettings).Guarded (FromElsewhere "gw-1".toList) middle afterFallback /\
    ((ingressMachine rudpSettings).run middle afterFallback).isSome :=
  (ingressMachine rudpSettings).exists_final (by decide +kernel)
 obtain ⟨final, ran⟩ := isSome_iff_exists.mp runs
 exact ⟨middle, reached, final, ran,
  (rudp_fallback_is_sticky rudpSettings "gw-1".toList fallsBack afterFallback middle final calm reached fallen
    sameTicket elsewhere ran).1⟩

theorem fallback_is_lifted_by_a_rebind :
  ∃ middle, (ingressMachine rudpSettings).run {} fallsBack = some middle /\
   FellBack middle.sessions "gw-1".toList /\
   ∃ final ∈ (ingressMachine rudpSettings).run middle
    [.receive sampleEndpoint (sampleBind "gw-1" 5 6000) 1300 1300],
    ¬ StaysBack final.sessions "gw-1".toList :=
 (ingressMachine rudpSettings).exists_final (by decide +kernel)

end Dynaxis.Gateway
