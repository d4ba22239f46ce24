import EasyWebRtc.Rtc.WebRtcTransport.Media
import EasyWebRtc.Rtc.WebRtcTransport.Opening
import EasyWebRtc.Session.Execution

/-!
# Destinations, replies and loops along a run

`HandlePacket` routes a session to the source of any STUN packet with its
username fragment, before the packet is authenticated and before the packets of
other addresses are processed. Three properties of the packets that are sent
hold in every run whose steps find the session routed where they need it.
-/

namespace EasyWebRtc.Session

open Octets Utils Rtc Net Traced

/-- The session whose transport sends a packet of the given kind in a closure. -/
def System.sends (s : System) (env : Outcomes) (kind : PacketKind) : Task → Option SessionId
  | .enableReading _ => none
  | .onInputDataPacket session data _ =>
      match kind, s.sessions[session]? with
      | .stun, _ => if WebRtcTransport.isRequest data then some session else none
      | .dtls, some rtcSession =>
          if WebRtcTransport.branch data = .ok .dtls ∧
              rtcSession.webrtcTransport.dtlsTransport.isRunning = true ∧ env.ssl.pending ≠ [] then
            some session
          else none
      | _, _ => none
  | .encryptAndSendRtpPacket session _ => if kind = .rtp then some session else none

/-- What a packet of a closure tells about the closure and the session. -/
structure Sent (τ : List SessionEvent) (env : Outcomes) (s : System) (task : Task)
    (session : SessionId) (kind : PacketKind) (data : Bytes) (peer : SockAddrIn)
    (connectionLoop : LoopId) : Prop where
  sends : s.sends env kind task = some session
  routed : lastRouted τ session = some peer
  loop : ∃ rtcSession, s.sessions[session]? = some rtcSession ∧
    rtcSession.loop = some connectionLoop
  answers : ∀ request remoteAddress, task = .onInputDataPacket session request remoteAddress →
    StunPacket.headerClass data = some .successResponse →
    kind = .stun → StunPacket.mappedAddress data = some remoteAddress

theorem Inv.sent {τ : List SessionEvent} {s : System} (h : Inv τ s) {env : Outcomes}
    {loop loop' connectionLoop : LoopId} {task : Task} {session : SessionId} {kind : PacketKind}
    {data : Bytes} {peer : SockAddrIn}
    (he : TaskEvent env s loop task (.sent session kind data peer connectionLoop loop')) :
    loop' = loop ∧ Sent τ env s task session kind data peer connectionLoop := by
  cases task with
  | enableReading other => exact he.elim
  | onInputDataPacket session' request remoteAddress =>
      rcases he with he | ⟨rtcSession, hs, rfl, rfl, hof, address, hemitted⟩
      · cases he
      cases kind with
      | stun =>
          obtain ⟨htransport, hrequest, _, hmapped⟩ := hemitted
          obtain ⟨hroute, hloop⟩ := h.route hs htransport.symm
          refine ⟨rfl, ?_, hroute, ⟨rtcSession, hs, hloop.symm.trans hof⟩, ?_⟩
          · simp [System.sends, hrequest]
          · intro _ _ heq hclass _
            cases heq
            exact hmapped hclass
      | dtls =>
          obtain ⟨htransport, hsends⟩ := hemitted
          obtain ⟨hroute, hloop⟩ := h.route hs htransport.symm
          refine ⟨rfl, ?_, hroute, ⟨rtcSession, hs, hloop.symm.trans hof⟩, nofun⟩
          simp [System.sends, hs, hsends]
      | rtp => exact hemitted.elim
  | encryptAndSendRtpPacket session' packet =>
      obtain ⟨rtcSession, hs, rfl, rfl, hof, address, packet', heq⟩ := he
      obtain ⟨rfl, _, _, htransport⟩ := WebRtcEvent.sendPacket.inj heq
      obtain ⟨hroute, hloop⟩ := h.route hs htransport.symm
      exact ⟨rfl, rfl, hroute, ⟨rtcSession, hs, hloop.symm.trans hof⟩, nofun⟩

section Along

variable (platform : Platform) (getNextLoop : Nat → LoopId)

/-! ## Destinations -/

/-- A Binding request that `ProcessStunPacket` accepts under the credentials of the
server. Without FINGERPRINT or with a zero PRIORITY the request is answered with
400 before `CheckAuthentication`, and does not count. -/
def passesAuthentication (hmac : Crypto.HmacSha1) (iceServer : IceServer) (data : Bytes) : Bool :=
  WebRtcTransport.isOpeningRequest hmac iceServer.usernameFragment iceServer.password data

/-- The session has received an authenticated Binding request from the peer. -/
def authenticated (τ : List SessionEvent) (s : System) (session : SessionId) (peer : SockAddrIn) :
    Bool :=
  match s.sessions[session]? with
  | none => false
  | some rtcSession => τ.any fun
      | .received session' data remoteAddress =>
          session' == session && remoteAddress == peer &&
            passesAuthentication platform.hmac rtcSession.webrtcTransport.iceServer data
      | _ => false

/-- A DTLS flight or an RTP packet for an authenticated peer of its session. -/
def ToAuthenticated (τ : List SessionEvent) (s : System) : SessionEvent → Prop
  | .sent session kind _ peer _ _ => kind ≠ .stun → authenticated platform τ s session peer = true
  | _ => True

def SendsToAuthenticated (τ : List SessionEvent) (s : System) (input : Input) : Prop :=
  ∀ e ∈ (step platform getNextLoop s input).trace, ToAuthenticated platform τ s e

/-- When a closure sends a DTLS flight or an RTP packet, the last packet that
`HandlePacket` saw for the session came from an authenticated peer. -/
def RoutedToAuthenticated (τ : List SessionEvent) (s : System) (input : Input) : Prop :=
  match s.executes input with
  | none => True
  | some (env, _, task) =>
      ∀ kind ∈ [PacketKind.dtls, .rtp], ∀ session ∈ s.sends env kind task,
        ∀ peer ∈ lastRouted τ session, authenticated platform τ s session peer = true

instance (τ : List SessionEvent) (s : System) (input : Input) :
    Decidable (RoutedToAuthenticated platform τ s input) := by
  unfold RoutedToAuthenticated
  split <;> infer_instance

variable {platform getNextLoop}

theorem Inv.sendsToAuthenticated {τ : List SessionEvent} {s : System} (h : Inv τ s)
    (input : Input) (hrouted : RoutedToAuthenticated platform τ s input) :
    SendsToAuthenticated platform getNextLoop τ s input := by
  intro e he
  rcases step_events platform getNextLoop s input with
    hnil | ⟨peerAddr, hhandled⟩ | ⟨env, loop, task, hexec, htask⟩
  · rw [hnil] at he
    cases he
  · cases e with
    | routed session peer => trivial
    | received session data remoteAddress => trivial
    | sent session kind data peer connectionLoop loop =>
        intro hkind
        exact (hkind (hhandled.out _ he).1).elim
  · cases e with
    | routed session peer => trivial
    | received session data remoteAddress => trivial
    | sent session kind data peer connectionLoop loop' =>
        intro hkind
        obtain ⟨_, hsent⟩ := h.sent (htask.out _ he)
        rw [RoutedToAuthenticated, hexec] at hrouted
        refine hrouted kind ?_ session hsent.sends peer hsent.routed
        cases kind with
        | stun => exact (hkind rfl).elim
        | dtls => simp
        | rtp => simp

/-- In every run whose flights and RTP packets are due only while the session is
routed to an authenticated peer, they are all sent to authenticated peers. -/
theorem destination_authentic (platform : Platform) (getNextLoop : Nat → LoopId)
    (inputs : List Input)
    (h : Along (step platform getNextLoop) (RoutedToAuthenticated platform) [] {} inputs) :
    Along (step platform getNextLoop) (SendsToAuthenticated platform getNextLoop) [] {} inputs :=
  Along.imp (I := Inv) (fun _ _ input hs => hs.step input)
    (fun _ _ input _ hs hrouted => hs.sendsToAuthenticated input hrouted) Inv.init h

def client : SockAddrIn := ⟨40000, 0xC0A80102⟩

/-- A second address of the client. -/
def client' : SockAddrIn := ⟨40001, 0xC0A80102⟩

def stranger : SockAddrIn := ⟨50000, 0xC0A80163⟩

/-- A session with username fragment `abcd` and password `pw`. -/
def newSession : Input := .createWebRTCSession [97, 98, 99, 100] [112, 119] ⟨0, 0⟩

def binding (peer : SockAddrIn) : Input :=
  .serverRead WebRtcTransport.quiet WebRtcTransport.signedDatagram peer

def media : Input := .writeRtpCallback WebRtcTransport.plaintextRtp

def next (loop : LoopId) : Input := .pendingFunctor WebRtcTransport.quiet loop 0

theorem destination_authentic_client :
    Along (step WebRtcTransport.samplePlatform (roundRobin 0))
      (SendsToAuthenticated WebRtcTransport.samplePlatform (roundRobin 0)) [] {}
      [newSession, binding client, media, next baseLoop] :=
  destination_authentic _ _ _ (by decide +kernel)

/-- A Binding request for `abcd:zz`, signed with the password `no`. -/
def forgedDatagram : Bytes :=
  [0, 1, 0, 52, 33, 18, 164, 66, 12, 13, 14, 15, 16, 17, 18, 19, 20, 21, 22, 23,
    0, 6, 0, 7, 97, 98, 99, 100, 58, 122, 122, 0, 0, 36, 0, 4, 110, 0, 1, 255,
    0, 8, 0, 20, 25, 243, 183, 84, 23, 227, 202, 9, 98, 123, 144, 26, 24, 33, 188, 95,
    132, 91, 187, 148, 128, 40, 0, 4, 62, 111, 9, 202]

def redirect : List Input :=
  [newSession, binding client, .serverRead WebRtcTransport.quiet forgedDatagram stranger, media]

/-- The forged request moves the media of the session to its source. -/
theorem redirect_run :
    ((run (step WebRtcTransport.samplePlatform (roundRobin 0)) [] {} redirect).map fun r =>
      ((step WebRtcTransport.samplePlatform (roundRobin 0) r.2 (next baseLoop)).trace,
        authenticated WebRtcTransport.samplePlatform r.1 r.2 0 stranger)) =
    some ([.sent 0 .rtp WebRtcTransport.plaintextRtp stranger baseLoop baseLoop], false) := by
  decide +kernel

theorem destination_authentic_fails :
    ¬ Along (step WebRtcTransport.samplePlatform (roundRobin 0))
      (SendsToAuthenticated WebRtcTransport.samplePlatform (roundRobin 0)) [] {}
      (redirect ++ [next baseLoop]) := by
  intro h
  obtain ⟨r, hrun, hfacts⟩ := Option.map_eq_some_iff.mp redirect_run
  obtain ⟨htrace, hstranger⟩ := Prod.mk.inj hfacts
  have hsent := h.last hrun (.sent 0 .rtp WebRtcTransport.plaintextRtp stranger baseLoop baseLoop)
    (htrace ▸ List.mem_cons_self)
  rw [hsent (by decide)] at hstranger
  cases hstranger

/-! ## Replies -/

/-- The response goes to the source of the datagram that the step processes, and
a success response reports that address. -/
def RepliesTo (remoteAddress : SockAddrIn) : SessionEvent → Prop
  | .sent _ .stun response peer _ _ =>
      peer = remoteAddress ∧
      (StunPacket.headerClass response = some .successResponse →
        StunPacket.mappedAddress response = some peer)
  | _ => True

variable (platform getNextLoop) in
def RepliesToSource (_ : List SessionEvent) (s : System) (input : Input) : Prop :=
  ∀ session data remoteAddress,
    .received session data remoteAddress ∈ (step platform getNextLoop s input).trace →
    ∀ e ∈ (step platform getNextLoop s input).trace, RepliesTo remoteAddress e

/-- When a closure processes a request, `HandlePacket` saw the source of that
request last for the session. -/
def RoutedToSource (τ : List SessionEvent) (s : System) (input : Input) : Prop :=
  match s.executes input with
  | some (_, _, .onInputDataPacket session data remoteAddress) =>
      WebRtcTransport.isRequest data = true → lastRouted τ session = some remoteAddress
  | _ => True

instance (τ : List SessionEvent) (s : System) (input : Input) :
    Decidable (RoutedToSource τ s input) := by
  unfold RoutedToSource
  split <;> infer_instance

theorem TaskEvent.received {env : Outcomes} {s : System} {loop : LoopId} {task : Task}
    {session : SessionId} {data : Bytes} {remoteAddress : SockAddrIn}
    (h : TaskEvent env s loop task (.received session data remoteAddress)) :
    task = .onInputDataPacket session data remoteAddress := by
  cases task with
  | enableReading peer => exact h.elim
  | onInputDataPacket session' data' remoteAddress' =>
      rcases h with h | ⟨_, _, h⟩
      · cases h
        rfl
      · exact h.elim
  | encryptAndSendRtpPacket session' data' =>
      obtain ⟨_, _, h⟩ := h
      exact h.elim

theorem Inv.repliesToSource {τ : List SessionEvent} {s : System} (h : Inv τ s) (input : Input)
    (hrouted : RoutedToSource τ s input) : RepliesToSource platform getNextLoop τ s input := by
  intro session₀ data₀ remoteAddress hreceived e he
  rcases step_events platform getNextLoop s input with
    hnil | ⟨peerAddr, hhandled⟩ | ⟨env, loop, task, hexec, htask⟩
  · rw [hnil] at he
    cases he
  · have hsource : remoteAddress = peerAddr := hhandled.out _ hreceived
    subst hsource
    cases e with
    | routed session peer => trivial
    | received session data remoteAddress => trivial
    | sent session kind response peer connectionLoop loop =>
        obtain ⟨rfl, rfl, _, hmapped⟩ := hhandled.out _ he
        exact ⟨rfl, hmapped⟩
  · have htaskeq := (htask.out _ hreceived).received
    subst htaskeq
    cases e with
    | routed session peer => trivial
    | received session data remoteAddress => trivial
    | sent session kind response peer connectionLoop loop' =>
        obtain ⟨_, hsent⟩ := h.sent (htask.out _ he)
        cases kind with
        | dtls => trivial
        | rtp => trivial
        | stun =>
            rw [RoutedToSource, hexec] at hrouted
            have hsends := hsent.sends
            simp only [System.sends] at hsends
            split at hsends
            · rename_i hrequest
              cases hsends
              have hpeer : peer = remoteAddress :=
                Option.some.inj (hsent.routed.symm.trans (hrouted hrequest))
              subst hpeer
              exact ⟨rfl, fun hclass => hsent.answers _ _ rfl hclass rfl⟩
            · cases hsends

/-- In every run that processes requests only while the session is routed to
their source, the responses go back there. -/
theorem replies_to_requester (platform : Platform) (getNextLoop : Nat → LoopId)
    (inputs : List Input)
    (h : Along (step platform getNextLoop) RoutedToSource [] {} inputs) :
    Along (step platform getNextLoop) (RepliesToSource platform getNextLoop) [] {} inputs :=
  Along.imp (I := Inv) (fun _ _ input hs => hs.step input)
    (fun _ _ input _ hs hrouted => hs.repliesToSource input hrouted) Inv.init h

theorem replies_to_requester_client :
    Along (step WebRtcTransport.samplePlatform (roundRobin 1))
      (RepliesToSource WebRtcTransport.samplePlatform (roundRobin 1)) [] {}
      [newSession, binding client, next 1, next 1, binding client', next 1, next 1] :=
  replies_to_requester _ _ _ (by decide +kernel)

/-- Two requests of one client, and the first closure of its loop. -/
def twoCandidates : List Input := [newSession, binding client, binding client', next 1]

theorem twoCandidates_run :
    ((run (step WebRtcTransport.samplePlatform (roundRobin 1)) [] {} twoCandidates).map fun r =>
      let trace := (step WebRtcTransport.samplePlatform (roundRobin 1) r.2 (next 1)).trace
      (trace.contains (.received 0 WebRtcTransport.signedDatagram client), trace.any fun
        | .sent _ .stun _ peer _ _ => peer == client'
        | _ => false)) = some (true, true) := by
  decide +kernel

theorem replies_to_requester_fails :
    ¬ Along (step WebRtcTransport.samplePlatform (roundRobin 1))
      (RepliesToSource WebRtcTransport.samplePlatform (roundRobin 1)) [] {}
      (twoCandidates ++ [next 1]) := by
  intro h
  obtain ⟨r, hrun, hfacts⟩ := Option.map_eq_some_iff.mp twoCandidates_run
  obtain ⟨hreceived, hsent⟩ := Prod.mk.inj hfacts
  obtain ⟨e, he, hpeer⟩ := List.any_eq_true.mp hsent
  have hreply := h.last hrun 0 WebRtcTransport.signedDatagram client
    (List.contains_iff_mem.mp hreceived) e he
  split at hpeer
  · rw [eq_of_beq hpeer] at hreply
    exact absurd hreply.1 (by decide)
  · cases hpeer

/-! ## Loops -/

/-- `Send` is called in the loop of its connection, so that
`assertInLoopThread` passes. -/
def InOwnLoop : SessionEvent → Prop
  | .sent _ _ _ _ connectionLoop loop => connectionLoop = loop
  | _ => True

variable (platform getNextLoop) in
def SendsInOwnLoop (_ : List SessionEvent) (s : System) (input : Input) : Prop :=
  ∀ e ∈ (step platform getNextLoop s input).trace, InOwnLoop e

/-- A closure that sends a packet is run by the loop that is at that time the
loop of the session. -/
def RunsInSessionLoop (_ : List SessionEvent) (s : System) (input : Input) : Prop :=
  match s.executes input with
  | none => True
  | some (env, loop, task) =>
      ∀ kind ∈ [PacketKind.stun, .dtls, .rtp], ∀ session ∈ s.sends env kind task,
        ∀ rtcSession ∈ s.sessions[session]?, rtcSession.loop = some loop

instance (τ : List SessionEvent) (s : System) (input : Input) :
    Decidable (RunsInSessionLoop τ s input) := by
  unfold RunsInSessionLoop
  split <;> infer_instance

theorem Inv.sendsInOwnLoop {τ : List SessionEvent} {s : System} (h : Inv τ s) (input : Input)
    (hruns : RunsInSessionLoop τ s input) : SendsInOwnLoop platform getNextLoop τ s input := by
  intro e he
  rcases step_events platform getNextLoop s input with
    hnil | ⟨peerAddr, hhandled⟩ | ⟨env, loop, task, hexec, htask⟩
  · rw [hnil] at he
    cases he
  · cases e with
    | routed session peer => trivial
    | received session data remoteAddress => trivial
    | sent session kind response peer connectionLoop loop => exact (hhandled.out _ he).2.2.1
  · cases e with
    | routed session peer => trivial
    | received session data remoteAddress => trivial
    | sent session kind response peer connectionLoop loop' =>
        obtain ⟨rfl, hsent⟩ := h.sent (htask.out _ he)
        obtain ⟨rtcSession, hs, hloop⟩ := hsent.loop
        rw [RunsInSessionLoop, hexec] at hruns
        have hkind : kind ∈ [PacketKind.stun, .dtls, .rtp] := by cases kind <;> simp
        have hown := hruns kind hkind session hsent.sends rtcSession hs
        exact Option.some.inj (hloop.symm.trans hown)

/-- In every run whose sending closures run in the loop of their session, every
connection is used in its own loop. -/
theorem loop_affinity (platform : Platform) (getNextLoop : Nat → LoopId) (inputs : List Input)
    (h : Along (step platform getNextLoop) RunsInSessionLoop [] {} inputs) :
    Along (step platform getNextLoop) (SendsInOwnLoop platform getNextLoop) [] {} inputs :=
  Along.imp (I := Inv) (fun _ _ input hs => hs.step input)
    (fun _ _ input _ hs hruns => hs.sendsInOwnLoop input hruns) Inv.init h

theorem loop_affinity_client :
    Along (step WebRtcTransport.samplePlatform (roundRobin 2))
      (SendsInOwnLoop WebRtcTransport.samplePlatform (roundRobin 2)) [] {}
      [newSession, binding client, next 1, next 1, media, next 1] :=
  loop_affinity _ _ _ (by decide +kernel)

theorem twoLoops_run :
    ((run (step WebRtcTransport.samplePlatform (roundRobin 2)) [] {} twoCandidates).map fun r =>
      (step WebRtcTransport.samplePlatform (roundRobin 2) r.2 (next 1)).trace.any fun
        | .sent _ _ _ _ connectionLoop loop => connectionLoop == 2 && loop == 1
        | _ => false) = some true := by
  decide +kernel

theorem loop_affinity_fails :
    ¬ Along (step WebRtcTransport.samplePlatform (roundRobin 2))
      (SendsInOwnLoop WebRtcTransport.samplePlatform (roundRobin 2)) [] {}
      (twoCandidates ++ [next 1]) := by
  intro h
  obtain ⟨r, hrun, hsent⟩ := Option.map_eq_some_iff.mp twoLoops_run
  obtain ⟨e, he, hloops⟩ := List.any_eq_true.mp hsent
  have hown := h.last hrun e he
  split at hloops
  · rw [InOwnLoop] at hown
    rw [Bool.and_eq_true] at hloops
    have hsame := (eq_of_beq hloops.1).symm.trans (hown.trans (eq_of_beq hloops.2))
    cases hsame
  · cases hloops

end Along

end EasyWebRtc.Session
