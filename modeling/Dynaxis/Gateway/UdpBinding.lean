import Dynaxis.Gateway.UdpReplay

namespace Dynaxis.Gateway

open Shared List Option SessionState UdpBindAbuseGuard Nat

def noteTicket (settings : Settings) (ingress : UdpIngress) (event : IngressEvent)
  (latest : Text -> Option DirectBindTicket) (sessionId : Text) : Option DirectBindTicket :=
 match event with
 | .issueTicket key nonce issuedUnixMs =>
  if key = sessionId then
   (makeUdpBindTicket settings ingress.sessions key nonce issuedUnixMs).2.or (latest sessionId)
  else latest sessionId
 | _ => latest sessionId

def ticketMachine (settings : Settings) : Machine (UdpIngress × (Text -> Option DirectBindTicket)) IngressEvent :=
 (ingressMachine settings).annotate (noteTicket settings)

def SessionState.Holds (session : SessionState) (ticket : DirectBindTicket) : Prop :=
 session.udpNonce = ticket.nonce /\ session.udpExpiresUnixMs = ticket.expiresUnixMs /\
  session.udpToken = ticket.token

section

variable {settings : Settings} {ingress next : UdpIngress} {sessionId : Text} {session : SessionState}
 {event : IngressEvent} {request ticket : DirectBindRequest} {endpoint : Endpoint} {now : Nat}

theorem step_ticket (taken : ingress.step settings event = some next) {after : SessionState}
  (present : next.sessions.lookup sessionId = some after) (given : after.udpToken ≠ [])
  (sameTicket : issuesTicketFor sessionId event = false) :
  ∃ session, ingress.sessions.lookup sessionId = some session /\ session.udpToken ≠ [] /\
   (∀ ticket, session.Holds ticket -> after.Holds ticket) /\
   (after.udpBindRetryAfterUnixMs = session.udpBindRetryAfterUnixMs \/ after.udpBindRetryAfterUnixMs = 0 \/
     ∃ request endpoint now, bindAttempt event = some (request, endpoint, now) /\
      request.sessionId = sessionId /\ session.refusal settings request endpoint now ≠ none) := by
 have change := step_change taken sessionId
 rw [present] at change
 generalize ingress.sessions.lookup sessionId = before at change ⊢
 cases change with
 | kept => exact ⟨after, rfl, given, fun _ => id, .inl rfl⟩
 | created => exact absurd rfl given
 | ticketed session ticket nonce issuedUnixMs issues => simp [issues, issuesTicketFor] at sameTicket
 | refused session request endpoint now attempted named refused =>
  exact ⟨session, rfl, given, fun _ => id, .inr (.inr ⟨request, endpoint, now, attempted, named, refused⟩)⟩
 | bound session => exact ⟨session, rfl, given, fun _ => id, .inr (.inl rfl)⟩
 | sequenced session | processed session => exact ⟨session, rfl, given, fun _ => id, .inl rfl⟩
 | sent session msgId frame now =>
  obtain ⟨_, _, kept⟩ := queueDirect_keeps settings session msgId frame now
  rw [kept] at given ⊢
  exact ⟨session, rfl, given, fun _ => id, .inl rfl⟩

theorem holds_latest {events : List IngressEvent} {latest : Text -> Option DirectBindTicket}
  (ran : (ticketMachine settings).run ({}, fun _ => none) events = some (ingress, latest))
  (found : ingress.sessions.lookup sessionId = some session) (given : session.udpToken ≠ []) :
  ∃ ticket, latest sessionId = some ticket /\ ticket.sessionId = sessionId /\ session.Holds ticket := by
 have kept : ∀ (state : UdpIngress × (Text -> Option DirectBindTicket)) (event : IngressEvent)
   (next : UdpIngress × (Text -> Option DirectBindTicket)),
   (∀ session, state.1.sessions.lookup sessionId = some session -> session.udpToken ≠ [] ->
     ∃ ticket, state.2 sessionId = some ticket /\ ticket.sessionId = sessionId /\ session.Holds ticket) ->
   (ticketMachine settings).step state event = some next ->
   ∀ session, next.1.sessions.lookup sessionId = some session -> session.udpToken ≠ [] ->
    ∃ ticket, next.2 sessionId = some ticket /\ ticket.sessionId = sessionId /\ session.Holds ticket := by
  rintro state event ⟨next, note⟩ holds taken after present given
  obtain ⟨stepped, noted⟩ := (ingressMachine settings).annotate_step_some.mp taken
  subst noted
  cases issues : issuesTicketFor sessionId event with
  | false =>
   obtain ⟨session, found, given, same, -⟩ := step_ticket stepped present given issues
   obtain ⟨ticket, known, named, held⟩ := holds session found given
   refine ⟨ticket, ?_, named, same ticket held⟩
   dsimp only [noteTicket]
   split
   · exact (if_neg (of_decide_eq_false issues)).trans known
   · exact known
  | true =>
   obtain ⟨nonce, issuedUnixMs, rfl⟩ : ∃ nonce issuedUnixMs, event = .issueTicket sessionId nonce issuedUnixMs := by
    cases event with
    | issueTicket key nonce issuedUnixMs => exact ⟨nonce, issuedUnixMs, by rw [of_decide_eq_true issues]⟩
    | _ => cases issues
   cases stepped
   simp only [noteTicket, if_true]
   obtain none | ⟨session, ticket, -, issued, named, -⟩ :=
    makeUdpBindTicket_cases settings state.1.sessions sessionId nonce issuedUnixMs
   · rw [none] at present ⊢
     exact holds after present given
   · rw [issued] at present ⊢
     rw [Table.lookup_insert_ite, if_pos rfl] at present
     cases present
     exact ⟨ticket, rfl, named, rfl, rfl, rfl⟩
 refine (ticketMachine settings).run_keeps kept (fun session absent => ?_) ran session found given
 cases absent

theorem SessionState.refusal_code {code : Nat} {message : String} {counted : Bool}
  (refused : session.refusal settings request endpoint now = some (code, message, counted)) : code ≠ 0 := by
 simp only [refusal] at refused
 split_ifs at refused <;> cases refused <;> decide

theorem SessionState.refusal_eq_none : session.refusal settings request endpoint now = none ↔
   session.udpBindRetryAfterUnixMs ≤ now /\ session.udpExpiresUnixMs ≠ 0 /\ session.udpNonce ≠ 0 /\
    session.udpToken ≠ [] /\ now ≤ session.udpExpiresUnixMs /\ session.Holds request /\
    request.token = makeUdpBindToken settings request.sessionId request.nonce request.expiresUnixMs /\
    (session.udpBound = true -> session.udpEndpoint = endpoint) := by
 constructor
 · intro granted
   simp only [refusal] at granted
   split_ifs at granted with waits unissued late expired other forged elsewhere
   simp only [not_or, not_and, not_not, ne_eq, not_lt] at *
   exact ⟨waits, unissued.1, unissued.2.1, unissued.2.2, expired,
    ⟨other.2.symm, other.1.symm, forged.1.symm⟩, forged.2,
    elsewhere⟩
 · rintro ⟨ready, expires, nonce, token, early, ⟨sameNonce, sameExpiry, sameToken⟩, signed, place⟩
   have early' := sameExpiry ▸ early
   rw [refusal, if_neg (not_lt.mpr ready), if_neg (by simp [expires, nonce, token]),
    if_neg (not_lt.mpr early'), if_neg (not_lt.mpr early), if_neg (by simp [sameNonce, sameExpiry]),
    if_neg (by simp [sameToken, <- signed]), if_neg (by simpa using place)]

theorem applyUdpBindRequest_cases (settings : Settings) (sessions : Sessions)
  (request : DirectBindRequest) (endpoint : Endpoint) (now : Nat) :
  let result := applyUdpBindRequest settings sessions request endpoint now
  (result.2.code ≠ 0 /\ (result.1 = sessions \/ ∃ session, sessions.lookup request.sessionId = some session /\
    result.1 = sessions.insert request.sessionId (session.retryLater settings now))) \/
    result.2.code = 0 /\ ∃ session, sessions.lookup request.sessionId = some session /\
     session.refusal settings request endpoint now = none /\
     result.1 = sessions.insert request.sessionId (session.bind settings endpoint) := by
 simp only [applyUdpBindRequest]
 split
 · exact .inl ⟨(by decide : errInvalidPayload ≠ 0), .inl rfl⟩
 split
 · exact .inl ⟨(by decide : errUnauthorized ≠ 0), .inl rfl⟩
 next session found =>
  split
  next refused => exact .inl ⟨refusal_code refused, .inl rfl⟩
  next refused => exact .inl ⟨refusal_code refused, .inr ⟨session, found, rfl⟩⟩
  next granted => exact .inr ⟨rfl, session, found, granted, rfl⟩

end

theorem bar_notMem_decimal (value : Nat) : '|' ∉ Text.decimal value := by
 intro member
 rw [Text.decimal, toList_repr] at member
 exact absurd (isDigit_of_mem_toDigits (by decide) (by decide) member) (by decide)

theorem append_mark_injective {mark : Char} {left right tail other : Text} (unmarked : mark ∉ tail)
  (otherUnmarked : mark ∉ other) (same : left ++ mark :: tail = right ++ mark :: other) :
  left = right /\ tail = other := by
 -- read from the end, the first mark is the last one
 have backwards (text rest : Text) : (text ++ mark :: rest).reverse = writeEntry mark (rest.reverse, text.reverse) := by
  simp [writeEntry]
 have read := congrArg (readEntry mark) (congrArg reverse same)
 rw [backwards, backwards, readEntry_writeEntry (by simpa using unmarked),
  readEntry_writeEntry (by simpa using otherUnmarked)] at read
 simpa [and_comm] using read

theorem makeBindSigningInput_injective {sessionId other : Text} {nonce otherNonce expires otherExpires : Nat}
  (same : makeBindSigningInput sessionId nonce expires = makeBindSigningInput other otherNonce otherExpires) :
  sessionId = other /\ nonce = otherNonce /\ expires = otherExpires := by
 obtain ⟨front, last⟩ := append_mark_injective (bar_notMem_decimal _) (bar_notMem_decimal _) same
 obtain ⟨first, middle⟩ := append_mark_injective (bar_notMem_decimal _) (bar_notMem_decimal _) front
 exact ⟨first, Text.decimal_injective middle, Text.decimal_injective last⟩

/-- In every state of every run: a bind request succeeds only with the latest ticket of its session, in time,
without a backoff and for a session that is not bound elsewhere; one that fails changes nothing but the
backoff of the session it names; and what is signed tells session, nonce and expiry apart. -/
theorem bind_is_authorised (settings : Settings) (events : List IngressEvent) (ingress : UdpIngress)
  (latest : Text -> Option DirectBindTicket)
  (ran : (ticketMachine settings).run ({}, fun _ => none) events = some (ingress, latest))
  (request : DirectBindRequest) (endpoint : Endpoint) (now : Nat) :
  let result := applyUdpBindRequest settings ingress.sessions request endpoint now
  (result.2.code = 0 -> latest request.sessionId = some request /\ now ≤ request.expiresUnixMs /\
    ∃ session, ingress.sessions.lookup request.sessionId = some session /\
     session.udpBindRetryAfterUnixMs ≤ now /\ (session.udpBound = true -> session.udpEndpoint = endpoint)) /\
  (result.2.code ≠ 0 -> ∀ sessionId, result.1.lookup sessionId = ingress.sessions.lookup sessionId \/
    sessionId = request.sessionId /\ ∃ session udpBindFailAttempts udpBindRetryAfterUnixMs,
     ingress.sessions.lookup sessionId = some session /\
     result.1.lookup sessionId = some { session with udpBindFailAttempts, udpBindRetryAfterUnixMs }) /\
  ∀ other otherNonce otherExpires,
   makeBindSigningInput request.sessionId request.nonce request.expiresUnixMs =
    makeBindSigningInput other otherNonce otherExpires ->
   request.sessionId = other /\ request.nonce = otherNonce /\ request.expiresUnixMs = otherExpires := by
 intro result
 refine ⟨fun success => ?_, fun failure sessionId => ?_, fun _ _ _ => makeBindSigningInput_injective⟩
 · obtain ⟨failed, -⟩ | ⟨-, session, found, granted, -⟩ :=
    applyUdpBindRequest_cases settings ingress.sessions request endpoint now
   · exact absurd success failed
   obtain ⟨ready, -, -, given, early, ⟨nonce, expires, token⟩, -, place⟩ := refusal_eq_none.mp granted
   obtain ⟨ticket, known, named, held⟩ := holds_latest ran found given
   refine ⟨?_, expires ▸ early, session, found, ready, place⟩
   rw [known, show ticket = request from ?_]
   obtain ⟨heldNonce, heldExpires, heldToken⟩ := held
   cases ticket
   cases request
   simp_all
 · obtain ⟨-, same | ⟨session, found, changed⟩⟩ | ⟨success, -⟩ :=
    applyUdpBindRequest_cases settings ingress.sessions request endpoint now
   · exact .inl (by rw [same])
   · rw [changed, Table.lookup_insert_ite]
     split
     next same => exact .inr ⟨same, session, _, _, same ▸ found, rfl⟩
     · exact .inl rfl
   · exact absurd success failure

def sampleTicket : DirectBindTicket :=
 { sessionId := "gw-1".toList, nonce := 5, expiresUnixMs := 6000
   token := makeUdpBindToken sampleSettings "gw-1".toList 5 6000 }

theorem first_bind_is_authorised :
  ∃ ingress latest, (ticketMachine sampleSettings).run ({}, fun _ => none)
   [.createSession, .issueTicket "gw-1".toList 5 1000] = some (ingress, latest) /\
   latest "gw-1".toList = some sampleTicket /\ 1100 ≤ sampleTicket.expiresUnixMs := by
 have bound := (bind_is_authorised sampleSettings [.createSession, .issueTicket "gw-1".toList 5 1000] _ _ rfl
  sampleTicket sampleEndpoint 1100).1 (by decide +kernel)
 exact ⟨_, _, rfl, bound.1, bound.2.1⟩

abbrev Unrefused (settings : Settings) (sessionId : Text) (ingress : UdpIngress) (event : IngressEvent) : Prop :=
 ∀ attempt ∈ bindAttempt event, attempt.1.sessionId = sessionId -> ∀ session ∈ ingress.sessions.lookup sessionId,
  session.refusal settings attempt.1 attempt.2.1 attempt.2.2 = none

theorem nameless_is_absent {settings : Settings} {events : List IngressEvent} {ingress : UdpIngress}
  (ran : (ingressMachine settings).run {} events = some ingress) : ingress.sessions.lookup [] = none := by
 have kept : ∀ (ingress : UdpIngress) (event : IngressEvent) (next : UdpIngress),
  ingress.sessions.lookup [] = none ->
   (ingressMachine settings).step ingress event = some next -> next.sessions.lookup [] = none := by
  intro ingress event next absent taken
  have change := step_change taken []
  rw [absent] at change
  generalize next.sessions.lookup [] = after at change ⊢
  cases change with
  | kept | closed => rfl
  | created _ _ same => exact absurd (append_eq_nil_iff.mp same).2 (by simp [Text.decimal])
 exact (ingressMachine settings).run_keeps kept rfl ran

/-- A session that has got a ticket, and no other since, and for which no bind request has been refused since:
a request with that ticket binds it, from an endpoint that is not blocked and not another than it is bound to. -/
theorem unrefused_ticket_binds (settings : Settings) (sessionId : Text) (before after : List IngressEvent)
  (base ingress : UdpIngress) (nonce issuedUnixMs : Nat) (ticket : DirectBindTicket)
  (reached : (ingressMachine settings).run {} before = some base)
  (issued : (makeUdpBindTicket settings base.sessions sessionId nonce issuedUnixMs).2 = some ticket)
  (valid : ticket.nonce ≠ 0 /\ ticket.expiresUnixMs ≠ 0)
  (ran : (ingressMachine settings).run base (.issueTicket sessionId nonce issuedUnixMs :: after) = some ingress)
  (sameTicket : ∀ event ∈ after, issuesTicketFor sessionId event = false)
  (unrefused : (ingressMachine settings).Guarded (Unrefused settings sessionId) base
    (.issueTicket sessionId nonce issuedUnixMs :: after))
  (session : SessionState) (found : ingress.sessions.lookup sessionId = some session) (given : session.udpToken ≠ [])
  (endpoint : Endpoint) (place : session.udpBound = true -> session.udpEndpoint = endpoint)
  (datagram : Bytes) (header : Protocol.PacketHeader)
   (carries : classify datagram = .bindRequest header (some ticket))
  (now bindNow : Nat) (unblocked : (ingress.abuseGuard.blockState (endpointKey endpoint) now).2 = false)
  (early : bindNow ≤ ticket.expiresUnixMs) :
  let next := ingress.receive settings endpoint datagram now bindNow
  Binds next.sessions sessionId endpoint /\
   ∃ response, next.responses = ingress.responses ++ [(endpoint, header.seq, response)] /\ response.code = 0 := by
 obtain ⟨start, taken, ran⟩ := (ingressMachine settings).run_cons_some.mp ran
 obtain ⟨-, unrefused⟩ := unrefused
 obtain none | ⟨old, _, named, stored, rfl, token, signed⟩ :=
  makeUdpBindTicket_cases settings base.sessions sessionId nonce issuedUnixMs
 · rw [none] at issued
   cases issued
 rw [stored] at issued
 cases issued
 cases taken
 have held : ∀ session, ingress.sessions.lookup ticket.sessionId = some session ->
   session.udpToken ≠ [] -> session.Holds ticket /\ session.udpBindRetryAfterUnixMs = 0 := by
  have kept (ingress : UdpIngress) (event : IngressEvent) (next : UdpIngress)
    (held : ∀ session, ingress.sessions.lookup ticket.sessionId = some session -> session.udpToken ≠ [] ->
      session.Holds ticket /\ session.udpBindRetryAfterUnixMs = 0)
    (allowed : issuesTicketFor ticket.sessionId event = false /\ Unrefused settings ticket.sessionId ingress event)
    (taken : (ingressMachine settings).step ingress event = some next) (after : SessionState)
    (present : next.sessions.lookup ticket.sessionId = some after) (given : after.udpToken ≠ []) :
    after.Holds ticket /\ after.udpBindRetryAfterUnixMs = 0 := by
   obtain ⟨session, found, given, same, retry⟩ := step_ticket taken present given allowed.1
   obtain ⟨holds, ready⟩ := held session found given
   obtain unchanged | cleared | ⟨request, endpoint, now, attempted, named, refused⟩ := retry
   · exact ⟨same ticket holds, unchanged.trans ready⟩
   · exact ⟨same ticket holds, cleared⟩
   · exact absurd (allowed.2 _ attempted named session found) refused
  refine (ingressMachine settings).run_invariant kept (fun session present _ => ?_)
   ((ingressMachine settings).guarded_and ((ingressMachine settings).guarded_of_forall
     (fun event member _ => sameTicket event member) _) (unrefused _ rfl)) ran
  rw [show (makeUdpBindTicket ..).1 = _ from congrArg Prod.fst stored, Table.lookup_insert_ite,
   if_pos rfl] at present
  cases present
  exact ⟨⟨rfl, rfl, rfl⟩, rfl⟩
 obtain ⟨holds, ready⟩ := held session found given
 have granted : session.refusal settings ticket endpoint bindNow = none := by
  refine refusal_eq_none.mpr ⟨ready ▸ Nat.zero_le _, ?_, ?_, given, ?_, holds, signed, place⟩
  · rw [holds.2.1]
    exact valid.2
  · rw [holds.1]
    exact valid.1
  · rwa [holds.2.1]
 have applied : applyUdpBindRequest settings ingress.sessions ticket endpoint bindNow =
   (ingress.sessions.insert ticket.sessionId (session.bind settings endpoint),
     { code := 0, ticket, message := "bound".toList }) := by
  rw [applyUdpBindRequest, if_neg]
  · simp only [found, granted]
  · simp only [token, or_false]
    intro empty
    rw [empty] at named
    exact absurd named (by simp [nameless_is_absent reached])
 simp only [UdpIngress.receive, carries, UdpIngress.receiveBind, unblocked, applied]
 refine ⟨⟨session.bind settings endpoint, ?_, ?_⟩, _, rfl, rfl⟩
 · exact (Table.lookup_insert_ite ..).trans (if_pos rfl)
 · simp [SessionState.boundTo, SessionState.bind]

deriving instance DecidableEq for Protocol.PacketHeader, DirectBindTicket, Incoming

theorem ticket_binds_despite_a_stranger :
  let machine := ingressMachine sampleSettings
  let after := [.receive { sampleEndpoint with port := 666 } (sampleBind "gw-2" 5 6000) 1050 1050]
  let rest := .issueTicket "gw-1".toList 5 1000 :: after
  ∃ base ingress, machine.run {} [.createSession, .createSession] = some base /\
   machine.run base rest = some ingress /\
   ingress.responses.map (fun response => (response.1.port, response.2.2.code)) = [(666, errUnauthorized)] /\
   Binds (ingress.receive sampleSettings sampleEndpoint (sampleBind "gw-1" 5 6000) 1100 1100).sessions "gw-1".toList
    sampleEndpoint := by
 intro machine after rest
 have facts : ∃ base ∈ machine.run {} [.createSession, .createSession],
   machine.Guarded (Unrefused sampleSettings "gw-1".toList) base rest /\
   (makeUdpBindTicket sampleSettings base.sessions "gw-1".toList 5 1000).2 = some sampleTicket /\
   ∃ ingress ∈ machine.run base rest,
    ingress.responses.map (fun response => (response.1.port, response.2.2.code)) = [(666, errUnauthorized)] /\
    (ingress.abuseGuard.blockState (endpointKey sampleEndpoint) 1100).2 = false /\
    ∃ session ∈ ingress.sessions.lookup "gw-1".toList, session.udpToken ≠ [] /\
     (session.udpBound = true -> session.udpEndpoint = sampleEndpoint) := by
  decide +kernel
 obtain ⟨base, started, unrefused, issued, ingress, ran, refused, unblocked, session, found, given, place⟩ := facts
 exact ⟨base, ingress, started, ran, refused, (unrefused_ticket_binds sampleSettings _ _ after base ingress 5 1000
  sampleTicket started issued (by decide) ran (by simp [after, issuesTicketFor]) unrefused session found given
  sampleEndpoint place (sampleBind "gw-1" 5 6000) (Protocol.decodeHeader (sampleBind "gw-1" 5 6000))
  (by decide +kernel) 1100 1100 unblocked (by decide)).1⟩

/-- Somebody who knows no more than the identifier of the session sends a request that fails, and the client
with the right ticket is told to wait. -/
theorem stranger_delays_the_bind :
  let strangersBind :=
   let payload := encodeDirectBindRequestPayload { sessionId := "gw-1".toList, nonce := 1, token := "x".toList }
   Protocol.encodeHeader { length := payload.length, msgId := msgUdpBindReq } ++ payload
  ∃ ingress, (ingressMachine sampleSettings).run {}
   [.createSession, .issueTicket "gw-1".toList 5 1000,
     .receive { sampleEndpoint with port := 666 } strangersBind 1100 1100,
     .receive sampleEndpoint (sampleBind "gw-1" 5 6000) 1101 1101] = some ingress /\
   ingress.responses.map (fun response => (response.1.port, response.2.2.code)) =
    [(666, errUnauthorized), (9000, errServerBusy)] :=
 (ingressMachine sampleSettings).exists_final (by decide +kernel)

structure RollingWindow where
 recent : List Nat := []
 blockedUntilMs : Nat := 0

def RollingWindow.recordFailure (settings : GuardSettings) (window : RollingWindow) (now : Nat) : RollingWindow :=
 if now < window.blockedUntilMs then window
 else if (window.recent.filter (now ≤ · + settings.failWindowMs)).length + 1 < settings.failLimit then
  { window with recent := now :: window.recent }
 else { recent := [], blockedUntilMs := now + settings.blockMs }

inductive GuardCall
 | failure (now : Nat)
 | success
 | check (now : Nat)

structure GuardWatch where
 guard : UdpBindAbuseGuard := ∅
 window : RollingWindow := {}
 clock : Nat := 1

section

variable (settings : GuardSettings)

def guardMachine (key : Text) : Machine GuardWatch GuardCall where
 step watch
  | .failure now =>
   if now < watch.clock then none
   else
    some { guard := recordFailure settings watch.guard key now
           window := watch.window.recordFailure settings now
           clock := now }
  | .success =>
   some { watch with
    guard := watch.guard.recordSuccess key
    window := { watch.window with recent := [] } }
  | .check now =>
   if now < watch.clock then none else some { watch with guard := (watch.guard.blockState key now).1, clock := now }

def KeepsWindow (watch : GuardWatch) : GuardCall -> Prop
 | .failure now => watch.window.blockedUntilMs ≤ now ->
  now + settings.blockMs < 2 ^ 64 /\ ∀ time ∈ watch.window.recent, now ≤ time + settings.failWindowMs
 | _ => True

structure GuardEntry.Follows (entry : GuardEntry) (window : RollingWindow) (clock : Nat) :
  Prop where
 started : entry.windowStartedMs = window.recent.getLast?.getD 0
 counted : window.recent ≠ [] -> entry.failuresInWindow = window.recent.length
 few : window.recent.length < settings.failLimit
 past : ∀ time ∈ window.recent, 1 ≤ time /\ time ≤ clock
 blocked : ∀ now, clock ≤ now -> (now < entry.blockedUntilMs ↔ now < window.blockedUntilMs)

end

def GuardWatch.Follows (settings : GuardSettings) (key : Text) (watch : GuardWatch) : Prop :=
 1 ≤ watch.clock /\ ((watch.guard.lookup key).getD {}).Follows settings watch.window watch.clock

section

variable {settings : GuardSettings} {guard : UdpBindAbuseGuard} {key : Text}
  {window : RollingWindow} {clock now : Nat}

theorem GuardEntry.Follows.recordFailure (follows : ((guard.lookup key).getD {}).Follows settings window clock)
  (limit : 0 < settings.failLimit /\ settings.failLimit < 2 ^ 32) (positive : 1 ≤ clock) (later : clock ≤ now)
  (keeps : window.blockedUntilMs ≤ now ->
    now + settings.blockMs < 2 ^ 64 /\ ∀ time ∈ window.recent, now ≤ time + settings.failWindowMs) :
  (((recordFailure settings guard key now).lookup key).getD {}).Follows settings
    (window.recordFailure settings now) now := by
 obtain ⟨started, counted, few, past, blocked⟩ := follows
 rw [UdpBindAbuseGuard.recordFailure, RollingWindow.recordFailure]
 generalize (guard.lookup key).getD {} = entry at *
 by_cases waits : now < window.blockedUntilMs
 · simp only [if_pos waits, if_pos ((blocked now later).mpr waits), Table.lookup_insert_ite, if_true, getD_some]
   exact ⟨started, counted, few, fun time member => (past time member).imp_right (·.trans later),
    fun time after => blocked time (later.trans after)⟩
 obtain ⟨fits, inside⟩ := keeps (not_lt.mp waits)
 have all : window.recent.filter (now ≤ · + settings.failWindowMs) = window.recent :=
  filter_eq_self.mpr fun time member => decide_eq_true (inside time member)
 simp only [if_neg waits, if_neg (waits ∘ (blocked now later).mp), Table.lookup_insert_ite, if_true, getD_some, all]
 -- the window is the first failure's, which is either an earlier one or this one
 have window' : (if entry.windowStartedMs = 0 || now < entry.windowStartedMs
    || settings.failWindowMs < now - entry.windowStartedMs then
   { entry with windowStartedMs := now, failuresInWindow := 0 } else entry) =
   { entry with
     windowStartedMs := window.recent.getLast?.getD now
     failuresInWindow := window.recent.length } := by
  cases last : window.recent.getLast? with
  | none =>
   have none := getLast?_eq_none_iff.mp last
   simp [started, none]
  | some first =>
   have member := mem_of_getLast? last
   have before := past first member
   have near := inside first member
   have some : window.recent ≠ [] := ne_nil_of_mem member
   rw [if_neg]
   · simp only [<- counted some, getD_some]
     rw [show first = entry.windowStartedMs by rw [started, last]; rfl]
   · rw [started, last]
     simp
     omega
 have small : window.recent.length + 1 < 4294967296 := by omega
 rw [window', u32_of_lt small]
 split
 next fewer =>
  refine ⟨?_, fun _ => rfl, fewer, forall_mem_cons.mpr ⟨⟨positive.trans later, le_refl _⟩, fun time member =>
   (past time member).imp_right (·.trans later)⟩, fun time after => blocked time (later.trans after)⟩
  simp [getLast?_cons]
 · exact ⟨rfl, nofun, limit.1, nofun, fun time _ => by rw [u64_of_lt fits]⟩

theorem GuardEntry.Follows.blockState (follows : ((guard.lookup key).getD {}).Follows settings window clock)
  (later : clock ≤ now) :
  (guard.blockState key now).2 = decide (now < window.blockedUntilMs) /\
    (((guard.blockState key now).1.lookup key).getD {}).Follows settings window now := by
 obtain ⟨started, counted, few, past, blocked⟩ := follows
 have past (time : Nat) (member : time ∈ window.recent) := (past time member).imp_right (·.trans later)
 cases found : guard.lookup key with
 | none =>
  simp only [UdpBindAbuseGuard.blockState, found, getD_none] at started counted blocked ⊢
  refine ⟨(decide_eq_false fun waits => ?_).symm, started, counted, few, past,
   fun time after => blocked time (later.trans after)⟩
  exact absurd ((blocked now later).mpr waits) (not_lt_zero _)
 | some entry =>
  simp only [UdpBindAbuseGuard.blockState, found, getD_some] at started counted blocked ⊢
  split
  next ends =>
   refine ⟨(decide_eq_false fun waits => ?_).symm, ?_⟩
   · exact not_lt.mpr ends ((blocked now later).mpr waits)
   simp only [Table.lookup_insert_ite, if_true, getD_some]
   refine ⟨started, counted, few, past, fun time after => ?_⟩
   rw [<- blocked time (later.trans after)]
   simp only [not_lt_zero, false_iff, not_lt]
   exact ends.trans after
  next lasts =>
   rw [found]
   exact ⟨(decide_eq_true ((blocked now later).mp (not_le.mp lasts))).symm, started, counted, few, past,
    fun time after => blocked time (later.trans after)⟩

end

/-- As long as the failures that count are inside the window whenever another one is counted, the guard blocks as
the rolling window does. -/
theorem guard_follows_the_window (settings : GuardSettings) (key : Text) (calls : List GuardCall)
  (watch : GuardWatch) (limit : 0 < settings.failLimit /\ settings.failLimit < 2 ^ 32)
  (ran : (guardMachine settings key).run {} calls = some watch)
  (keeps : (guardMachine settings key).Guarded (KeepsWindow settings) {} calls) (now : Nat)
   (later : watch.clock ≤ now) :
  (watch.guard.blockState key now).2 = true ↔ now < watch.window.blockedUntilMs := by
 have kept (watch : GuardWatch) (call : GuardCall) (next : GuardWatch) (follows : watch.Follows settings key)
   (keeps : KeepsWindow settings watch call) (taken : (guardMachine settings key).step watch call = some next) :
   next.Follows settings key := by
  obtain ⟨positive, follows⟩ := follows
  cases call with
  | failure now =>
   obtain ⟨later, ⟨⟩⟩ := ite_none_left_eq_some.mp taken
   have later := Nat.not_lt.mp later
   exact ⟨positive.trans later, follows.recordFailure limit positive later keeps⟩
  | success =>
   cases taken
   refine ⟨positive, ?_⟩
   obtain ⟨-, -, -, -, blocked⟩ := follows
   simp only [recordSuccess, Table.lookup_modify, if_true]
   cases found : watch.guard.lookup key with
   | none | some entry =>
    rw [found] at blocked
    exact ⟨rfl, nofun, limit.1, nofun, blocked⟩
  | check now =>
   obtain ⟨later, ⟨⟩⟩ := ite_none_left_eq_some.mp taken
   have later := Nat.not_lt.mp later
   exact ⟨positive.trans later, (follows.blockState later).2⟩
 have initial : GuardWatch.Follows settings key {} :=
  ⟨Nat.le_refl _, rfl, nofun, limit.1, nofun, fun _ _ => Iff.rfl⟩
 have follows := (guardMachine settings key).run_invariant kept initial keeps ran
 rw [(follows.2.blockState later).1, decide_eq_true_iff]

instance (settings : GuardSettings) (watch : GuardWatch) (call : GuardCall) :
  Decidable (KeepsWindow settings watch call) := by
 cases call <;> dsimp only [KeepsWindow] <;> infer_instance

def sampleGuard : GuardSettings := { failWindowMs := 10, failLimit := 3, blockMs := 100 }

theorem third_failure_blocks :
  ∃ watch, (guardMachine sampleGuard []).run {} [.failure 1, .failure 2, .failure 11] = some watch /\
   (watch.guard.blockState [] 110).2 = true := by
 refine ⟨_, rfl, ?_⟩
 exact (guard_follows_the_window sampleGuard [] [.failure 1, .failure 2, .failure 11] _ (by decide) rfl (by decide +kernel)
  110 (by decide +kernel)).mpr (by decide +kernel)

/-- Three failures within two milliseconds of each other do not block, because the window of an older one ends
between them. -/
theorem window_starts_again_in_between :
  ∃ watch, (guardMachine sampleGuard []).run {} [.failure 1, .failure 10, .failure 12, .failure 13] = some watch /\
   watch.window.blockedUntilMs = 113 /\ (watch.guard.blockState [] 13).2 = false :=
 (guardMachine sampleGuard []).exists_final (by decide +kernel)

end Dynaxis.Gateway
