import Dynaxis.Gateway.DirectTransport
import Dynaxis.Rudp.Engine
import Dynaxis.Shared.Machine

/-! Sessions are made by the TCP side, which also issues the tickets with which a client binds a UDP endpoint to
its session. -/

namespace Dynaxis.Gateway

open Shared Dynaxis.Protocol Dynaxis.Rudp Table Bool

structure Endpoint where
 address : Text := []
 port : Nat := 0
 deriving DecidableEq

def endpointKey (endpoint : Endpoint) : Text := endpoint.address ++ ':' :: Text.decimal endpoint.port

def errUnknownMsgId : Nat := 0x0003
def errInvalidPayload : Nat := 0x0007
def errServerBusy : Nat := 0x0008
def errUnauthorized : Nat := 0x0101
def errForbidden : Nat := 0x0102

def msgUdpBindReq : Nat := 0x0012

inductive TransportMask
 | none
 | tcp
 | udp
 | both

inductive DeliveryClass
 | reliableOrdered
 | reliable
 | unreliableSequenced
 deriving DecidableEq

structure OpcodePolicy where
 transport : TransportMask := .tcp
 delivery : DeliveryClass := .reliableOrdered
 channel : Nat := 0

def TransportMask.allowsUdp : TransportMask -> Bool
 | .both | .udp => true
 | .none | .tcp => false

structure Settings where
 hmacSha256 : Hmac
 opcodePolicy : Nat -> Option OpcodePolicy
 sessionIdStem : Text := []
 udpListenPort : Nat := 0
 udpBindSecret : Text := []
 udpBindTtlMs : Nat := 5000
 udpBindRetryBackoffMs : Nat := 200
 udpBindRetryBackoffMaxMs : Nat := 2000
 udpBindRetryMaxAttempts : Nat := 6
 udpOpcodeAllowlist : List Nat := []
 rudpRolloutPolicy : DirectTransportRolloutPolicy := {}
 rudpConfig : RudpConfig := {}
 abuseGuard : GuardSettings := {}

structure SessionState where
 udpBound : Bool := false
 udpEndpoint : Endpoint := {}
 udpNonce : Nat := 0
 udpExpiresUnixMs : Nat := 0
 udpTicketIssuedUnixMs : Nat := 0
 udpBindFailAttempts : Nat := 0
 udpBindRetryAfterUnixMs : Nat := 0
 udpToken : Text := []
 udpSequencedMetrics : UdpSequencedMetrics := {}
 rudpSelected : Bool := false
 rudpFallbackToTcp : Bool := false
 rudpEngine : Option RudpEngine := none

abbrev Sessions := Table Text SessionState

def SessionState.boundTo (session : SessionState) (endpoint : Endpoint) : Bool :=
 session.udpBound && session.udpEndpoint = endpoint

def boundSession (entries : List (Sigma fun _ : Text => SessionState)) (endpoint : Endpoint) : Option Text :=
 (entries.find? fun entry => entry.2.boundTo endpoint).map Sigma.fst

def makeBindSigningInput (sessionId : Text) (nonce expiresUnixMs : Nat) : Text :=
 sessionId ++ '|' :: Text.decimal nonce ++ '|' :: Text.decimal expiresUnixMs

variable (settings : Settings)

def makeUdpBindToken (sessionId : Text) (nonce expiresUnixMs : Nat) : Text :=
 if settings.udpBindSecret = [] then []
 else
  match settings.hmacSha256 settings.udpBindSecret (makeBindSigningInput sessionId nonce expiresUnixMs) with
  | none => []
  | some digest => toHex digest

def SessionState.ticketed (session : SessionState) (ticket : DirectBindTicket)
  (issuedUnixMs : Nat) : SessionState :=
 let selected := evaluateDirectAttach settings.rudpRolloutPolicy ticket.sessionId ticket.nonce = .rudpCanary
 { session with
   udpNonce := ticket.nonce
   udpExpiresUnixMs := ticket.expiresUnixMs
   udpTicketIssuedUnixMs := issuedUnixMs
   udpBindFailAttempts := 0
   udpBindRetryAfterUnixMs := 0
   udpToken := ticket.token
   udpBound := false
   udpEndpoint := {}
   udpSequencedMetrics := {}
   rudpFallbackToTcp := false
   rudpSelected := selected
   rudpEngine := if selected then some { config := settings.rudpConfig } else none }

def makeUdpBindTicket (sessions : Sessions) (sessionId : Text)
  (nonce issuedUnixMs : Nat) : Sessions × Option DirectBindTicket :=
 if settings.udpListenPort = 0 || settings.udpBindSecret.isEmpty then (sessions, none)
 else
  match sessions.lookup sessionId with
  | none => (sessions, none)
  | some session =>
   let expiresUnixMs := u64 (issuedUnixMs + settings.udpBindTtlMs)
   let token := makeUdpBindToken settings sessionId nonce expiresUnixMs
   if token = [] then (sessions, none)
   else
    let ticket : DirectBindTicket := { sessionId, nonce, expiresUnixMs, token }
    (sessions.insert sessionId (session.ticketed settings ticket issuedUnixMs), some ticket)

def udpBindRetryDelayMs (attempt : Nat) : Nat :=
 let capped := min attempt 8
 let factor := 2 ^ (if capped = 0 then 0 else capped - 1)
 u32 (min (settings.udpBindRetryBackoffMs * factor) settings.udpBindRetryBackoffMaxMs)

section

variable (session : SessionState) (request : DirectBindRequest) (endpoint : Endpoint) (now : Nat)

def SessionState.retryLater : SessionState :=
 let nextAttempt := min (u32 (session.udpBindFailAttempts + 1)) settings.udpBindRetryMaxAttempts
 { session with
   udpBindFailAttempts := nextAttempt
   udpBindRetryAfterUnixMs := u64 (now + udpBindRetryDelayMs settings nextAttempt) }

def SessionState.refusal : Option (Nat × String × Bool) :=
 if now < session.udpBindRetryAfterUnixMs then some (errServerBusy, "bind retry backoff", false)
 else if session.udpExpiresUnixMs = 0 \/ session.udpNonce = 0 \/ session.udpToken = [] then
  some (errUnauthorized, "bind ticket not issued", true)
 else if request.expiresUnixMs < now then some (errUnauthorized, "ticket expired", true)
 else if session.udpExpiresUnixMs < now then some (errUnauthorized, "ticket expired", true)
 else if request.expiresUnixMs ≠ session.udpExpiresUnixMs \/ request.nonce ≠ session.udpNonce then
  some (errUnauthorized, "ticket mismatch", true)
 else if request.token ≠ session.udpToken \/
   request.token ≠ makeUdpBindToken settings request.sessionId request.nonce request.expiresUnixMs then
  some (errUnauthorized, "invalid token", true)
 else if session.udpBound /\ session.udpEndpoint ≠ endpoint then
  some (errForbidden, "session already bound", true)
 else none

def SessionState.bind : SessionState :=
 { session with
   udpBound := true
   udpEndpoint := endpoint
   udpSequencedMetrics := {}
   udpBindFailAttempts := 0
   udpBindRetryAfterUnixMs := 0
   rudpFallbackToTcp := false
   rudpEngine :=
    if session.rudpSelected then session.rudpEngine.or (some { config := settings.rudpConfig })
    else session.rudpEngine }

end

def applyUdpBindRequest (sessions : Sessions) (request : DirectBindRequest)
  (endpoint : Endpoint) (now : Nat) : Sessions × DirectBindResponse :=
 let refused code (message : String) : DirectBindResponse :=
  { code, ticket := request, message := message.toList }
 if request.sessionId = [] \/ request.token = [] then
  (sessions, refused errInvalidPayload "invalid bind payload")
 else
  -- no other session is looked at, so that two of them may be bound to one endpoint
  match sessions.lookup request.sessionId with
  | none => (sessions, refused errUnauthorized "unknown session")
  | some session =>
   match session.refusal settings request endpoint now with
   | some (code, message, false) => (sessions, refused code message)
   | some (code, message, true) =>
    (sessions.insert request.sessionId (session.retryLater settings now), refused code message)
   | none => (sessions.insert request.sessionId (session.bind settings endpoint), refused 0 "bound")

def SessionState.evaluateDirectEgress (session : SessionState) (msgId : Nat) : DirectDeliveryDecision :=
 evaluateDirectDelivery
  { directPathEnabledForMessage := isDirectEgressMsg msgId
    udpBound := session.udpBound
    rudpSelected := session.rudpSelected
    rudpFallbackToTcp := session.rudpFallbackToTcp
    rudpEstablished := session.rudpEngine.any fun engine => engine.state.lifecycle = .established }

def SessionState.queueDirect (session : SessionState) (msgId : Nat) (frame : Bytes) (now : Nat) :
  SessionState × Option Bytes :=
 let channel := ((settings.opcodePolicy msgId).getD {}).channel
 match session.rudpEngine.map fun engine => engine.queueUnreliablePayload frame channel now with
 | some (engine, some datagram) => ({ session with rudpEngine := some engine }, some datagram)
 | _ => ({ session with rudpFallbackToTcp := true }, none)

inductive Incoming
 | rudp
 | malformed
 | bindRequest (header : PacketHeader) (request : Option DirectBindRequest)
 | direct (header : PacketHeader)

def classify (datagram : Bytes) : Incoming :=
 if looksLikeRudp datagram then .rudp
 else if datagram.length < kHeaderBytes then .malformed
 else
  let header := Protocol.decodeHeader datagram
  if header.length ≠ datagram.length - kHeaderBytes then .malformed
  else if header.msgId = msgUdpBindReq then
   .bindRequest header (decodeDirectBindRequestPayload (datagram.drop kHeaderBytes))
  else .direct header

inductive Receiver
 | idle
 | rudpFound (sessionId : Text) (endpoint : Endpoint) (datagram : Bytes) (now : Nat)
 | rudpForwarding (sessionId : Text) (frames : List Bytes)
 | rudpRejected (sessionId : Text)
 | sequencedFound (sessionId : Text) (endpoint : Endpoint) (datagram : Bytes) (now : Nat)

structure UdpIngress where
 sessions : Sessions := ∅
 sessionsCreated : Nat := 0
 abuseGuard : UdpBindAbuseGuard := ∅
 receiver : Receiver := .idle
 responses : List (Endpoint × Nat × DirectBindResponse) := []
 datagrams : List (Endpoint × Bytes) := []
 forwarded : List (Text × Bytes) := []

namespace UdpIngress

section

variable (ingress : UdpIngress) (endpoint : Endpoint) (seq code : Nat)

def respond (response : DirectBindResponse) : UdpIngress :=
 { ingress with responses := ingress.responses ++ [(endpoint, seq, response)] }

def reject (message : String) : UdpIngress :=
 ingress.respond endpoint seq { code, message := message.toList }

end

def forward (ingress : UdpIngress) (sessionId : Text) (frame : Bytes) : UdpIngress :=
 { ingress with forwarded := ingress.forwarded ++ [(sessionId, frame)] }

variable (settings : Settings)

section

variable (ingress : UdpIngress) (endpoint : Endpoint) (header : PacketHeader) (datagram : Bytes) (now : Nat)

def receiveBind (seq : Nat) (request : Option DirectBindRequest) (now bindNow : Nat) : UdpIngress :=
 let key := endpointKey endpoint
 let (abuseGuard, blocked) := ingress.abuseGuard.blockState key now
 let ingress := { ingress with abuseGuard }
 if blocked then ingress.reject endpoint seq errServerBusy "bind temporarily blocked"
 else
  match request with
  | none =>
   { ingress with abuseGuard := abuseGuard.recordFailure settings.abuseGuard key now }.reject endpoint seq
     errInvalidPayload "invalid bind payload"
  | some request =>
   let (sessions, response) := applyUdpBindRequest settings ingress.sessions request endpoint bindNow
   let abuseGuard :=
    if response.code = 0 then abuseGuard.recordSuccess key
    else abuseGuard.recordFailure settings.abuseGuard key now
   { ingress with sessions, abuseGuard }.respond endpoint seq response

def directRefusal (msgId : Nat) : Option (Nat × String) :=
 match settings.opcodePolicy msgId with
 | none => some (errUnknownMsgId, "unknown udp msg_id")
 | some policy =>
  if msgId ∉ settings.udpOpcodeAllowlist then some (errForbidden, "opcode not in udp allowlist")
  else if !policy.transport.allowsUdp then some (errForbidden, "opcode not allowed on udp")
  else none

def isSequenced (msgId : Nat) : Bool :=
 (settings.opcodePolicy msgId).any fun policy => policy.delivery = .unreliableSequenced

def receiveDirect : UdpIngress :=
 match boundSession ingress.sessions.entries endpoint with
 | none => ingress.reject endpoint header.seq errUnauthorized "udp session not bound"
 | some sessionId =>
  match directRefusal settings header.msgId with
  | some (code, message) => ingress.reject endpoint header.seq code message
  | none =>
   if isSequenced settings header.msgId then
    { ingress with receiver := .sequencedFound sessionId endpoint datagram now }
   else ingress.forward sessionId datagram

def receiveRudp : UdpIngress :=
 match boundSession ingress.sessions.entries endpoint with
 | none => ingress
 | some sessionId => { ingress with receiver := .rudpFound sessionId endpoint datagram now }

end

def receive (ingress : UdpIngress) (endpoint : Endpoint) (datagram : Bytes)
  (now bindNow : Nat) : UdpIngress :=
 match classify datagram with
 | .rudp => ingress.receiveRudp endpoint datagram now
 | .malformed => ingress
 -- the bind path reads the clock once more
 | .bindRequest header request => ingress.receiveBind settings endpoint header.seq request now bindNow
 | .direct header => ingress.receiveDirect settings endpoint header datagram now

section

variable (ingress : UdpIngress) (sessionId : Text) (endpoint : Endpoint)

def stillBound : Option SessionState :=
 (ingress.sessions.lookup sessionId).filter fun session => session.boundTo endpoint

def sequence (ingress : UdpIngress) (sessionId : Text) (endpoint : Endpoint) (datagram : Bytes) (now : Nat) :
  UdpIngress :=
 let seq := (Protocol.decodeHeader datagram).seq
 match ingress.stillBound sessionId endpoint with
 -- closed, or bound to another endpoint, since it was found
 | none => ingress.reject endpoint seq errForbidden "stale sequenced udp packet"
 | some session =>
  let (metrics, update) := session.udpSequencedMetrics.onPacket seq now
  let ingress := { ingress with
   sessions := ingress.sessions.insert sessionId { session with udpSequencedMetrics := metrics } }
  if update.accepted then ingress.forward sessionId datagram
  else ingress.reject endpoint seq errForbidden "stale sequenced udp packet"

def innerAllowed (frame : Bytes) : Bool :=
 let header := Protocol.decodeHeader frame
 kHeaderBytes ≤ frame.length && header.length = frame.length - kHeaderBytes &&
  (settings.opcodePolicy header.msgId).any fun policy =>
    settings.rudpRolloutPolicy.opcodeAllowed header.msgId && policy.transport.allowsUdp

def disableRudp : UdpIngress :=
 { ingress with
   sessions := modify ingress.sessions sessionId fun session => { session with rudpFallbackToTcp := true } }

def forwardInner : List Bytes -> UdpIngress
 | [] => ingress
 | frame :: rest =>
  if innerAllowed settings frame then
   { ingress.forward sessionId frame with receiver := .rudpForwarding sessionId rest }
  -- the frames before this one have been forwarded all the same
  else { ingress with receiver := .rudpRejected sessionId }

def processRudp (datagram : Bytes) (now : Nat) : UdpIngress :=
 match ingress.stillBound sessionId endpoint with
 | none => ingress
 | some session =>
  let usable := settings.rudpRolloutPolicy.enabled && session.rudpSelected && !session.rudpFallbackToTcp
  match session.rudpEngine.filter fun _ => usable with
  | none => ingress.disableRudp sessionId
  | some engine =>
   let (engine, processed) := engine.processDatagram datagram now
   let (engine, polled) := engine.poll now
   let fallback := processed.fallbackRequired || polled.fallbackRequired
   let egress := processed.egressDatagrams ++ polled.egressDatagrams
   let ingress := { ingress with
    sessions := ingress.sessions.insert sessionId
     { session with rudpEngine := some engine, rudpFallbackToTcp := session.rudpFallbackToTcp || fallback }
    datagrams := ingress.datagrams ++ egress.map fun frame => (endpoint, frame) }
   if fallback then ingress
   else { ingress with receiver := .rudpForwarding sessionId processed.innerFrames }

end

variable (ingress : UdpIngress)

def proceed : Option UdpIngress :=
 match ingress.receiver with
 | .idle => none
 | .rudpFound sessionId endpoint datagram now =>
  some ({ ingress with receiver := .idle }.processRudp settings sessionId endpoint datagram now)
 | .rudpForwarding sessionId frames => some ({ ingress with receiver := .idle }.forwardInner settings sessionId frames)
 | .rudpRejected sessionId => some ({ ingress with receiver := .idle }.disableRudp sessionId)
 | .sequencedFound sessionId endpoint datagram now =>
  some ({ ingress with receiver := .idle }.sequence sessionId endpoint datagram now)

def createSession : UdpIngress :=
 let number := ingress.sessionsCreated + 1
 { ingress with
   sessions := ingress.sessions.insert (settings.sessionIdStem ++ Text.decimal number) {}
   sessionsCreated := number }

def trySendDirectClientFrame (sessionId : Text) (msgId : Nat)
  (frame : Bytes) (now : Nat) : UdpIngress × Bool :=
 if !isDirectEgressMsg msgId || frame.isEmpty then (ingress, false)
 else
  match ingress.sessions.lookup sessionId with
  | none => (ingress, false)
  | some session =>
   let send datagram := { ingress with datagrams := ingress.datagrams ++ [(session.udpEndpoint, datagram)] }
   match (session.evaluateDirectEgress msgId).route with
   | .tcpFallback => (ingress, false)
   | .udp => (send frame, true)
   | .rudp =>
    match session.queueDirect settings msgId frame now with
    | (session, some datagram) =>
     ({ send datagram with sessions := ingress.sessions.insert sessionId session }, true)
    | (session, none) => ({ ingress with sessions := ingress.sessions.insert sessionId session }, false)

end UdpIngress

inductive IngressEvent
 | createSession
 | issueTicket (sessionId : Text) (nonce issuedUnixMs : Nat)
 | closeSession (sessionId : Text)
 | stop
 | receive (endpoint : Endpoint) (datagram : Bytes) (now bindNow : Nat)
 | proceed
 | sendDirect (sessionId : Text) (msgId : Nat) (frame : Bytes) (now : Nat)

def UdpIngress.step (settings : Settings) (ingress : UdpIngress) : IngressEvent -> Option UdpIngress
 | .createSession => some (ingress.createSession settings)
 | .issueTicket sessionId nonce issuedUnixMs =>
  some { ingress with sessions := (makeUdpBindTicket settings ingress.sessions sessionId nonce issuedUnixMs).1 }
 | .closeSession sessionId => some { ingress with sessions := ingress.sessions.erase sessionId }
 | .stop => some { ingress with sessions := ∅ }
 | .receive endpoint datagram now bindNow =>
  match ingress.receiver with
  | .idle => some (ingress.receive settings endpoint datagram now bindNow)
  | _ => none
 | .proceed => ingress.proceed settings
 | .sendDirect sessionId msgId frame now =>
  some (ingress.trySendDirectClientFrame settings sessionId msgId frame now).1

def ingressMachine (settings : Settings) : Machine UdpIngress IngressEvent := ⟨UdpIngress.step settings⟩

def Binds (sessions : Sessions) (sessionId : Text) (endpoint : Endpoint) : Prop :=
 ∃ session, sessions.lookup sessionId = some session /\ session.boundTo endpoint = true

def bindRequestOf : IngressEvent -> Option (Text × Endpoint)
 | .receive endpoint datagram _ _ =>
  match classify datagram with
  | .bindRequest _ (some request) => some (request.sessionId, endpoint)
  | _ => none
 | _ => none

def bindAttempt : IngressEvent -> Option (DirectBindRequest × Endpoint × Nat)
 | .receive endpoint datagram _ bindNow =>
  match classify datagram with
  | .bindRequest _ (some request) => some (request, endpoint, bindNow)
  | _ => none
 | _ => none

inductive SessionChange (settings : Settings) (sessionId : Text) (ingress next : UdpIngress) (event : IngressEvent) :
  Option SessionState -> Option SessionState -> Prop
 | kept (before : Option SessionState) : SessionChange settings sessionId ingress next event before before
 | closed (before : Option SessionState) : SessionChange settings sessionId ingress next event before none
 | created (before : Option SessionState) (creates : event = .createSession)
  (same : settings.sessionIdStem ++ Text.decimal (ingress.sessionsCreated + 1) = sessionId) :
  SessionChange settings sessionId ingress next event before (some {})
 | ticketed (session : SessionState) (ticket : DirectBindTicket) (nonce issuedUnixMs : Nat)
  (issues : event = .issueTicket sessionId nonce issuedUnixMs)
  (issued : (makeUdpBindTicket settings ingress.sessions sessionId nonce issuedUnixMs).2 = some ticket) :
  SessionChange settings sessionId ingress next event (some session)
   (some (session.ticketed settings ticket issuedUnixMs))
 | refused (session : SessionState) (request : DirectBindRequest) (endpoint : Endpoint) (now : Nat)
  (attempted : bindAttempt event = some (request, endpoint, now)) (named : request.sessionId = sessionId)
  (refused : session.refusal settings request endpoint now ≠ none) :
  SessionChange settings sessionId ingress next event (some session) (some (session.retryLater settings now))
 | bound (session : SessionState) (request : DirectBindRequest) (endpoint : Endpoint) (now : Nat)
  (requested : bindRequestOf event = some (sessionId, endpoint))
  (granted : session.refusal settings request endpoint now = none) :
  SessionChange settings sessionId ingress next event (some session) (some (session.bind settings endpoint))
 | sequenced (session : SessionState) (endpoint : Endpoint) (datagram : Bytes) (now : Nat)
  (proceeds : event = .proceed) (found : ingress.receiver = .sequencedFound sessionId endpoint datagram now)
  (bound : session.udpBound = true) :
  SessionChange settings sessionId ingress next event (some session) (some { session with
   udpSequencedMetrics := (session.udpSequencedMetrics.onPacket (Protocol.decodeHeader datagram).seq now).1 })
 | processed (session : SessionState) (rudpEngine : Option RudpEngine) (rudpFallbackToTcp : Bool)
  (flag : rudpFallbackToTcp = session.rudpFallbackToTcp \/ rudpFallbackToTcp = true /\ next.receiver = .idle) :
  SessionChange settings sessionId ingress next event (some session)
   (some { session with rudpEngine, rudpFallbackToTcp })
 | sent (session : SessionState) (msgId : Nat) (frame : Bytes) (now : Nat)
  (sends : event = .sendDirect sessionId msgId frame now) (given : frame ≠ [])
  (direct : (session.evaluateDirectEgress msgId).route = .rudp) :
  SessionChange settings sessionId ingress next event (some session)
   (some (session.queueDirect settings msgId frame now).1)

section

variable {settings : Settings} {ingress next : UdpIngress} {sessionId key : Text}
 {endpoint : Endpoint} {session : SessionState} {event : IngressEvent} {sessions : Sessions}

theorem SessionChange.insert {changed : SessionState} (found : sessions.lookup key = some session)
  (change : key = sessionId -> SessionChange settings sessionId ingress next event (some session) (some changed)) :
  SessionChange settings sessionId ingress next event (sessions.lookup sessionId)
   ((sessions.insert key changed).lookup sessionId) := by
 rw [lookup_insert_ite]
 split
 next same =>
  subst same
  rw [found]
  exact change rfl
 · exact .kept _

theorem SessionChange.disable {found : UdpIngress} (idle : next.receiver = .idle) :
  SessionChange settings sessionId ingress next event (found.sessions.lookup sessionId)
   ((found.disableRudp key).sessions.lookup sessionId) := by
 rw [UdpIngress.disableRudp, lookup_modify]
 split
 · cases found.sessions.lookup sessionId with
   | none => exact .kept none
   | some session => exact .processed session session.rudpEngine true (.inr ⟨rfl, idle⟩)
 · exact .kept _

theorem makeUdpBindTicket_cases (settings : Settings) (sessions : Sessions) (sessionId : Text)
  (nonce issuedUnixMs : Nat) :
  makeUdpBindTicket settings sessions sessionId nonce issuedUnixMs = (sessions, none) \/
   ∃ session ticket, sessions.lookup sessionId = some session /\
    makeUdpBindTicket settings sessions sessionId nonce issuedUnixMs =
     (sessions.insert sessionId (session.ticketed settings ticket issuedUnixMs), some ticket) /\
    ticket.sessionId = sessionId /\ ticket.token ≠ [] /\
    ticket.token = makeUdpBindToken settings sessionId ticket.nonce ticket.expiresUnixMs := by
 rw [makeUdpBindTicket]
 split
 · exact .inl rfl
 split
 · exact .inl rfl
 next session found =>
  dsimp only
  split
  · exact .inl rfl
  next valid => exact .inr ⟨session, _, found, rfl, rfl, valid, rfl⟩

theorem SessionChange.ticket (nonce issuedUnixMs : Nat) :
  SessionChange settings sessionId ingress next (.issueTicket key nonce issuedUnixMs)
   (ingress.sessions.lookup sessionId)
   ((makeUdpBindTicket settings ingress.sessions key nonce issuedUnixMs).1.lookup sessionId) := by
 obtain none | ⟨session, ticket, found, issued, -⟩ :=
  makeUdpBindTicket_cases settings ingress.sessions key nonce issuedUnixMs
 · rw [none]
   exact .kept _
 · rw [issued]
   refine .insert found fun same => ?_
   subst same
   exact .ticketed session ticket nonce issuedUnixMs rfl (by rw [issued])

theorem SessionChange.bind {request : DirectBindRequest} {now : Nat}
  (attempted : bindAttempt event = some (request, endpoint, now))
  (requested : bindRequestOf event = some (request.sessionId, endpoint)) :
  SessionChange settings sessionId ingress next event (ingress.sessions.lookup sessionId)
   ((applyUdpBindRequest settings ingress.sessions request endpoint now).1.lookup sessionId) := by
 simp only [applyUdpBindRequest]
 split
 · exact .kept _
 split
 · exact .kept _
 next session found =>
  split
  · exact .kept _
  next refused => exact .insert found fun same => .refused session request endpoint now attempted same (by simp [refused])
  next granted => exact .insert found fun same => .bound session request endpoint now (same ▸ requested) granted

theorem SessionChange.receive (endpoint : Endpoint) (datagram : Bytes) (now bindNow : Nat) :
  SessionChange settings sessionId ingress next (.receive endpoint datagram now bindNow)
   (ingress.sessions.lookup sessionId)
   ((ingress.receive settings endpoint datagram now bindNow).sessions.lookup sessionId) := by
 rw [UdpIngress.receive]
 cases kind : classify datagram with
 | rudp =>
  simp only [UdpIngress.receiveRudp]
  split <;> exact .kept _
 | malformed => exact .kept _
 | direct header =>
  simp only [UdpIngress.receiveDirect]
  split
  · exact .kept _
  split
  · exact .kept _
  split <;> exact .kept _
 | bindRequest header request =>
  simp only [UdpIngress.receiveBind]
  split
  · exact .kept _
  cases request with
  | none => exact .kept _
  | some request => exact .bind (by rw [bindAttempt, kind]) (by rw [bindRequestOf, kind])

theorem lookup_of_stillBound (still : ingress.stillBound sessionId endpoint = some session) :
  ingress.sessions.lookup sessionId = some session /\ session.udpBound = true := by
 obtain ⟨found, bound⟩ := Option.filter_eq_some_iff.mp still
 rw [SessionState.boundTo, and_eq_true] at bound
 exact ⟨found, bound.1⟩

theorem SessionChange.processRudp {found : UdpIngress} (datagram : Bytes) (now : Nat)
  (idle : found.receiver = .idle) :
  let next := found.processRudp settings key endpoint datagram now
  SessionChange settings sessionId ingress next event (found.sessions.lookup sessionId)
   (next.sessions.lookup sessionId) := by
 simp only [UdpIngress.processRudp]
 split
 · exact .kept _
 next session still =>
  split
  · exact .disable idle
  next engine usable =>
   obtain ⟨-, able⟩ := Option.filter_eq_some_iff.mp usable
   have running : session.rudpFallbackToTcp = false := by simpa using (and_eq_true_iff.mp able).2
   split
   next fallback =>
    exact .insert (lookup_of_stillBound still).1 fun _ => .processed session _ _ (.inr ⟨by
     simp only [fallback, Bool.or_true], idle⟩)
   next healthy =>
    exact .insert (lookup_of_stillBound still).1 fun _ => .processed session _ _ (.inl (by
     simp only [Bool.eq_false_iff.mpr healthy, Bool.or_false]))

theorem sessions_forwardInner (frames : List Bytes) :
  (ingress.forwardInner settings sessionId frames).sessions = ingress.sessions := by
 cases frames with
 | nil => rfl
 | cons frame rest =>
  rw [UdpIngress.forwardInner]
  split <;> rfl

theorem SessionChange.sendDirect (msgId : Nat) (frame : Bytes) (now : Nat) :
  SessionChange settings sessionId ingress next (.sendDirect key msgId frame now) (ingress.sessions.lookup sessionId)
   ((ingress.trySendDirectClientFrame settings key msgId frame now).1.sessions.lookup sessionId) := by
 simp only [UdpIngress.trySendDirectClientFrame]
 split
 · exact .kept _
 next eligible =>
  have given : frame ≠ [] := by
   rintro rfl
   exact eligible (or_true _)
  split
  · exact .kept _
  next session found =>
   split
   · exact .kept _
   · exact .kept _
   next direct =>
    have sent (same : key = sessionId) : SessionChange settings sessionId ingress next
      (.sendDirect key msgId frame now) (some session) (some (session.queueDirect settings msgId frame now).1) :=
     .sent session msgId frame now (same ▸ rfl) given direct
    split
    next queued =>
     rw [queued] at sent
     exact .insert found sent
    next queued =>
     rw [queued] at sent
     exact .insert found sent

theorem step_change (taken : ingress.step settings event = some next) (sessionId : Text) :
  SessionChange settings sessionId ingress next event (ingress.sessions.lookup sessionId)
   (next.sessions.lookup sessionId) := by
 cases event with
 | createSession =>
  cases taken
  rw [UdpIngress.createSession, lookup_insert_ite]
  split
  next here => exact .created _ rfl here.symm
  · exact .kept _
 | issueTicket key nonce issuedUnixMs =>
  cases taken
  exact .ticket nonce issuedUnixMs
 | closeSession key =>
  cases taken
  rw [lookup_erase_ite]
  split
  · exact .closed _
  · exact .kept _
 | stop =>
  cases taken
  exact .closed _
 | receive origin datagram now bindNow =>
  simp only [UdpIngress.step] at taken
  split at taken
  · cases taken
    exact .receive origin datagram now bindNow
  · cases taken
 | proceed =>
  simp only [UdpIngress.step, UdpIngress.proceed] at taken
  split at taken
  · cases taken
  · cases taken
    exact .processRudp _ _ rfl
  · cases taken
    rw [sessions_forwardInner]
    exact .kept _
  · cases taken
    exact .disable rfl
  next key endpoint datagram now found =>
   cases taken
   simp only [UdpIngress.sequence]
   split
   · exact .kept _
   next session still =>
    obtain ⟨present, bound⟩ := lookup_of_stillBound still
    split
    · exact .insert present fun same => .sequenced session endpoint datagram now rfl (same ▸ found) bound
    · exact .insert present fun same => .sequenced session endpoint datagram now rfl (same ▸ found) bound
 | sendDirect key msgId frame now =>
  cases taken
  exact .sendDirect msgId frame now

theorem SessionState.queueDirect_keeps (settings : Settings) (session : SessionState) (msgId : Nat)
  (frame : Bytes) (now : Nat) :
  ∃ rudpEngine rudpFallbackToTcp, (session.queueDirect settings msgId frame now).1 =
   { session with rudpEngine, rudpFallbackToTcp } := by
 simp only [queueDirect]
 split <;> exact ⟨_, _, rfl⟩

theorem Binds.of_step (taken : ingress.step settings event = some next) (binds : Binds next.sessions key endpoint) :
  Binds ingress.sessions key endpoint \/ bindRequestOf event = some (key, endpoint) := by
 obtain ⟨after, present, holds⟩ := binds
 have change := step_change taken key
 unfold Binds
 generalize ingress.sessions.lookup key = before at change ⊢
 rw [present] at change
 cases change with
 | kept | refused | sequenced | processed => exact .inl ⟨_, rfl, holds⟩
 | created | ticketed => cases holds
 | bound session request origin now requested =>
  rw [SessionState.boundTo, SessionState.bind, Bool.true_and] at holds
  exact .inr (of_decide_eq_true holds ▸ requested)
 | sent session msgId frame now =>
  obtain ⟨_, _, kept⟩ := SessionState.queueDirect_keeps settings session msgId frame now
  rw [kept] at holds
  exact .inl ⟨_, rfl, holds⟩

end

abbrev EndpointFree (ingress : UdpIngress) (event : IngressEvent) : Prop :=
 ∀ request ∈ bindRequestOf event, ∀ entry ∈ ingress.sessions.entries,
  entry.2.boundTo request.2 = true -> entry.1 = request.1

def Exclusive (sessions : Sessions) : Prop :=
 ∀ endpoint sessionId other, Binds sessions sessionId endpoint -> Binds sessions other endpoint -> sessionId = other

theorem Exclusive.step {settings : Settings} {ingress next : UdpIngress} {event : IngressEvent}
  (exclusive : Exclusive ingress.sessions) (free : EndpointFree ingress event)
  (taken : (ingressMachine settings).step ingress event = some next) : Exclusive next.sessions := by
 -- Whoever was bound before a bind request to its endpoint is the session it names.
 have alone (sessionId named : Text) (endpoint : Endpoint) (held : Binds ingress.sessions sessionId endpoint)
   (request : bindRequestOf event = some (named, endpoint)) : sessionId = named := by
  obtain ⟨session, found, bound⟩ := held
  exact free _ request ⟨sessionId, session⟩ ((mem_entries_iff _ _ _).mpr found) bound
 intro endpoint sessionId other binds otherBinds
 obtain held | requested := Binds.of_step taken binds <;>
  obtain otherHeld | otherRequested := Binds.of_step taken otherBinds
 · exact exclusive endpoint sessionId other held otherHeld
 · exact alone sessionId other endpoint held otherRequested
 · exact (alone other sessionId endpoint otherHeld requested).symm
 · rw [requested] at otherRequested
   cases otherRequested
   rfl

theorem Exclusive.boundSession_perm {sessions : Sessions} (exclusive : Exclusive sessions) (endpoint : Endpoint)
  {entries : List (Sigma fun _ : Text => SessionState)} (same : entries.Perm sessions.entries) :
  boundSession entries endpoint = boundSession sessions.entries endpoint := by
 -- the order of iteration makes no difference where there is at most one candidate
 refine find_label_perm same ?_
 rintro ⟨sessionId, session⟩ member bound ⟨other, otherSession⟩ otherMember otherBound
 exact exclusive endpoint sessionId other ⟨session, (mem_entries_iff _ _ _).mp member, bound⟩
  ⟨otherSession, (mem_entries_iff _ _ _).mp otherMember, otherBound⟩

/-- When bind requests come from endpoints to which no other live session is bound: at most one session is
bound to an endpoint, whatever the order of the session map. -/
theorem endpoint_binding_is_exclusive (settings : Settings) (events : List IngressEvent)
  (ingress : UdpIngress) (free : (ingressMachine settings).Guarded EndpointFree {} events)
  (ran : (ingressMachine settings).run {} events = some ingress) :
  (∀ endpoint sessionId other, Binds ingress.sessions sessionId endpoint ->
    Binds ingress.sessions other endpoint -> sessionId = other) /\
    ∀ endpoint (entries : List (Sigma fun _ : Text => SessionState)), entries.Perm ingress.sessions.entries ->
     boundSession entries endpoint = boundSession ingress.sessions.entries endpoint := by
 have exclusive : Exclusive ingress.sessions :=
  (ingressMachine settings).run_invariant (fun _ _ _ held free taken => Exclusive.step held free taken)
    (fun _ _ _ ⟨_, absent, _⟩ => nomatch absent) free ran
 exact ⟨exclusive, fun endpoint _ same => exclusive.boundSession_perm endpoint same⟩

def sampleSettings : Settings where
 hmacSha256 _ message := some [UInt8.ofNat message.length]
 opcodePolicy _ := none
 sessionIdStem := "gw-".toList
 udpListenPort := 7000
 udpBindSecret := "secret".toList

def sampleEndpoint : Endpoint := { address := "10.0.0.7".toList, port := 9000 }

def sampleBind (sessionId : String) (nonce expiresUnixMs : Nat) : Bytes :=
 let payload := encodeDirectBindRequestPayload
  { sessionId := sessionId.toList, nonce, expiresUnixMs
    token := makeUdpBindToken sampleSettings sessionId.toList nonce expiresUnixMs }
 Protocol.encodeHeader { length := payload.length, msgId := msgUdpBindReq } ++ payload

def bothTicketed : List IngressEvent :=
 [.createSession, .createSession, .issueTicket "gw-1".toList 5 1000, .issueTicket "gw-2".toList 6 1000,
   .receive sampleEndpoint (sampleBind "gw-1" 5 6000) 1100 1100]

def rebound : List IngressEvent :=
 bothTicketed ++
  [.closeSession "gw-1".toList, .receive sampleEndpoint (sampleBind "gw-2" 6 6000) 1200 1200]

theorem rebind_after_close :
  ∃ ingress, (ingressMachine sampleSettings).run {} rebound = some ingress /\
   ∀ entries : List (Sigma fun _ : Text => SessionState), entries.Perm ingress.sessions.entries ->
    boundSession entries sampleEndpoint = some "gw-2".toList := by
 have free : (ingressMachine sampleSettings).Guarded EndpointFree {} rebound := by decide +kernel
 have ran : ∃ ingress, (ingressMachine sampleSettings).run {} rebound = some ingress /\
   boundSession ingress.sessions.entries sampleEndpoint = some "gw-2".toList :=
  (ingressMachine sampleSettings).exists_final (by decide +kernel)
 obtain ⟨ingress, ran, found⟩ := ran
 refine ⟨ingress, ran, fun entries same => ?_⟩
 rw [(endpoint_binding_is_exclusive sampleSettings rebound ingress free ran).2 _ entries same, found]

theorem second_session_binds_the_same_endpoint :
  ∃ ingress, (ingressMachine sampleSettings).run {}
   (bothTicketed ++ [.receive sampleEndpoint (sampleBind "gw-2" 6 6000) 1200 1200]) = some ingress /\
   boundSession ingress.sessions.entries sampleEndpoint = some "gw-2".toList /\
   boundSession ingress.sessions.entries.reverse sampleEndpoint = some "gw-1".toList :=
 (ingressMachine sampleSettings).exists_final (by decide +kernel)

end Dynaxis.Gateway
