import EasyWebRtc.Rtc.WebRtcTransport.Admission
import EasyWebRtc.Session.Queues
import EasyWebRtc.Session.Refinement

/-!
# A client is admitted

A client that knows the credentials of a session sends a Binding request to the
server socket. The datagram is parsed, its username is split, the session is found
and routed, a closure waits in the queue of the connection's loop, and the ICE
server checks and answers it: once that loop has come to the closure, the client
has got a response that it can verify.
-/

namespace EasyWebRtc.Session

open Octets Utils Rtc Net Traced

/-! ## The calls of a run -/

section Calls

variable {platform : Platform} {getNextLoop : Nat → LoopId} {env : Outcomes} {s : System}

/-- What `HandlePacket` calls on the session it finds: the second call is made at
once in the base loop, and by a closure elsewhere. -/
theorem routePacket_calls {session : SessionId} {data : Bytes} {peerAddr : SockAddrIn} :
    (s.routePacket platform getNextLoop env session data peerAddr).Post fun τ _ =>
      τ.filterMap (routedCall env session) = .setNetworkTransport ⟨peerAddr⟩ ::
        if baseLoop = (s.server.getOrCreatConnection getNextLoop peerAddr).2.loop then
          [.onInputDataPacket env data peerAddr] else [] := by
  unfold System.routePacket
  generalize s.server.getOrCreatConnection getNextLoop peerAddr = created
  rcases created with ⟨server, connection⟩
  apply Post.bind
  apply setNetworkTransport_post.mono
  rintro τ s' ⟨rfl, -, -, -⟩
  unfold System.runInLoop
  by_cases hbase : baseLoop = connection.loop
  · simp only [if_pos hbase]
    apply Post.bind
    apply Post.emit
    have honly : (s'.callTransport baseLoop session fun w =>
        w.onInputDataPacket platform env data peerAddr).Only fun e =>
          routedCall env session e = none := by
      refine (callTransport_only (E := fun _ _ => True) fun _ _ => ⟨fun _ _ => trivial⟩).mono ?_
      rintro e ⟨_, _, hsent⟩
      cases e with
      | sent _ _ _ _ _ _ => rfl
      | _ => exact hsent.elim
    constructor
    intro s'' _
    rw [List.filterMap_append, List.filterMap_append,
      List.filterMap_eq_nil_iff.mpr fun e he => honly.out e he]
    simp [routedCall]
  · simp only [if_neg hbase]
    apply Post.pure
    simp [routedCall]

theorem step_length (s : System) (input : Input) :
    (step platform getNextLoop s input).Post fun _ s' =>
      s.sessions.length ≤ s'.sessions.length := by
  by_cases hcreate : ∃ usernameFragment password uninitialised,
      input = .createWebRTCSession usernameFragment password uninitialised
  · obtain ⟨usernameFragment, password, uninitialised, rfl⟩ := hcreate
    apply Post.pure
    simp [System.createWebRTCSession]
  · apply (step_hosts fun u p a heq => hcreate ⟨u, p, a, heq⟩).mono
    intro _ s' hhosts
    exact Nat.le_of_eq hhosts.length.symm

theorem call_of_taken {inputs : List Input} {τ : List SessionEvent} {s' : System}
    {session : SessionId} {loop : LoopId} {data : Bytes} {remoteAddress : SockAddrIn}
    (hrun : Runs (step platform getNextLoop) s inputs τ s') (hlt : session < s.sessions.length)
    (h : (loop, .onInputDataPacket session data remoteAddress) ∈
      taken platform getNextLoop s inputs) :
    ∃ env, .onInputDataPacket env data remoteAddress ∈
      callsAlong platform getNextLoop session s inputs := by
  induction inputs generalizing τ s with
  | nil => cases h
  | cons input inputs ih =>
      obtain ⟨s₁, τ₁, hr, hrest, rfl⟩ := runs_cons_iff.mp hrun
      rw [callsAlong_cons hr, if_pos hlt]
      simp only [taken, collect, hr, List.mem_append, Option.mem_toList] at h
      rcases h with hnow | hlater
      · cases input with
        | pendingFunctor env loop' position =>
            obtain ⟨⟨task, pending⟩, hnext, heq⟩ := Option.map_eq_some_iff.mp hnow
            cases heq
            refine ⟨env, List.mem_append_left _ ?_⟩
            simp [calls, System.executes, hnext, taskCall]
        | _ => cases hnow
      · have hlength := (step_length s input).out s₁ hr
        obtain ⟨env, hcall⟩ := ih hrest (Nat.lt_of_lt_of_le hlt hlength) hlater
        exact ⟨env, List.mem_append_right _ hcall⟩

theorem not_taskCall {session : SessionId} {input : Input} {transport : NetworkTransport} :
    .setNetworkTransport transport ∉
      ((s.executes input).bind fun r => taskCall r.1 session r.2.2).toList := by
  intro hmem
  obtain ⟨⟨env, loop, task⟩, -, hcall⟩ := Option.bind_eq_some_iff.mp (Option.mem_toList.mp hmem)
  cases task with
  | enableReading peer => cases hcall
  | onInputDataPacket session' data remoteAddress =>
      simp only [taskCall] at hcall
      split at hcall <;> cases hcall
  | encryptAndSendRtpPacket session' data =>
      simp only [taskCall] at hcall
      split at hcall <;> cases hcall

/-- Only `HandlePacket` sets the network transport of a session, as its events say. -/
theorem routed_of_call {inputs : List Input} {τ : List SessionEvent} {s' : System}
    {session : SessionId} {transport : NetworkTransport}
    (hrun : Runs (step platform getNextLoop) s inputs τ s')
    (h : .setNetworkTransport transport ∈ callsAlong platform getNextLoop session s inputs) :
    .routed session transport.connection ∈ τ := by
  induction inputs generalizing τ s with
  | nil => cases h
  | cons input inputs ih =>
      obtain ⟨s₁, τ₁, hr, hrest, rfl⟩ := runs_cons_iff.mp hrun
      rw [callsAlong_cons hr] at h
      rcases List.mem_append.mp h with hnow | hlater
      · refine List.mem_append_left _ ?_
        split at hnow
        · cases input with
          | serverRead env data peerAddr =>
              obtain ⟨e, he, hcall⟩ := List.mem_filterMap.mp hnow
              cases e with
              | routed session' peer =>
                  simp only [routedCall] at hcall
                  split at hcall
                  · rename_i heq
                    cases hcall
                    exact heq ▸ he
                  · cases hcall
              | received session' data' remoteAddress =>
                  simp only [routedCall] at hcall
                  split at hcall <;> cases hcall
              | sent _ _ _ _ _ _ => cases hcall
          | createWebRTCSession u p a => cases hnow
          | writeRtpCallback data => cases hnow
          | setRTPChannel session' channel =>
              simp only [calls] at hnow
              split at hnow
              · cases List.mem_singleton.mp hnow
              · cases hnow
          | connectionRead env peer data => exact (not_taskCall hnow).elim
          | pendingFunctor env loop position => exact (not_taskCall hnow).elim
        · cases hnow
      · exact List.mem_append_right _ (ih hrest hlater)

end Calls

/-! ## One session -/

section Transport

variable {platform : Platform} {usernameFragment password : Bytes}

theorem runs_transport {calls : List TransportInput} {peer : SockAddrIn}
    {events : List (WebRtcEvent NetworkTransport)} {w w' : WebRtcTransport NetworkTransport}
    (hcalls : ∀ transport, .setNetworkTransport transport ∈ calls → transport = ⟨peer⟩)
    (hw : w.transport = some ⟨peer⟩) (h : Runs (WebRtcTransport.step platform) w calls events w') :
    w'.transport = some ⟨peer⟩ := by
  refine h.inv (I := fun w => w.transport = some ⟨peer⟩) ?_ hw
  intro w call hcall hw
  cases call with
  | setNetworkTransport transport =>
      exact Post.pure (congrArg some (hcalls transport hcall))
  | setRTPChannel channel => exact Post.pure hw
  | onInputDataPacket env data remoteAddress =>
      exact WebRtcTransport.onInputDataPacket_transport.mono fun _ _ hw' => hw'.trans hw
  | encryptAndSendRtpPacket env data =>
      exact WebRtcTransport.encryptAndSendRtpPacket_post.mono fun _ _ hw' => hw' ▸ hw

/-- Among the calls on a transport that is routed to a peer, a request of that peer
is answered on its connection. -/
theorem runs_answered {before after : List TransportInput} {peer : SockAddrIn} {env : Outcomes}
    {events : List (WebRtcEvent NetworkTransport)} {w w' : WebRtcTransport NetworkTransport}
    (hadmits : WebRtcTransport.Admits usernameFragment password w) (hpassword : password ≠ [])
    (r : BindingRequest usernameFragment password) (buffer : SerializeBuffer)
    (hbefore : ∀ transport, .setNetworkTransport transport ∈ before → transport = ⟨peer⟩)
    (h : Runs (WebRtcTransport.step platform) w (.setNetworkTransport ⟨peer⟩ ::
      (before ++ .onInputDataPacket env (r.datagram platform.hmac buffer) peer :: after))
      events w') :
    ∃ response, IceServer.Verifiable platform.hmac r.packet.transactionId peer password response ∧
      .sendPacket .stun response peer (some ⟨peer⟩) ∈ events ∧
      w'.iceServer.state = .completed := by
  obtain ⟨w₁, events₁, hset, hrest, rfl⟩ := runs_cons_iff.mp h
  have hadmits₁ := (hadmits.step _).out w₁ hset
  cases hset
  obtain ⟨w₂, events₂, events₃, hfirst, hlast, rfl⟩ := runs_append_iff.mp hrest
  have hadmits₂ : WebRtcTransport.Admits usernameFragment password w₂ :=
    hfirst.inv (fun w call _ hw => hw.step call) hadmits₁
  have htransport : w₂.transport = some ⟨peer⟩ := runs_transport hbefore rfl hfirst
  obtain ⟨w₃, events₄, hcall, hend, rfl⟩ := runs_cons_iff.mp hlast
  obtain ⟨response, w₃', hverifiable, hsent, hresult, hcompleted⟩ :=
    hadmits₂.answered hpassword r buffer peer
  cases hcall.symm.trans hresult
  rw [htransport] at hsent
  refine ⟨response, hverifiable, ?_, ?_⟩
  · exact List.mem_append_right _ (List.mem_append_left _ hsent)
  · have hopened : WebRtcTransport.Opened w₃.remoteSocketAddress w₃ := ⟨hcompleted, rfl⟩
    exact (hend.inv (fun w call _ hw => (hw.step call).2.mono fun _ _ hw' => hw'.1) hopened).completed

end Transport

/-! ## The server -/

section Server

variable {platform : Platform} {getNextLoop : Nat → LoopId} {usernameFragment password : Bytes}

theorem session_admits {inputs : List Input} {τ : List SessionEvent} {s : System}
    (hrun : Runs (step platform getNextLoop) {} inputs τ s) {session : SessionId}
    {rtcSession : WebRTCSession} (hs : s.sessions[session]? = some rtcSession) :
    WebRtcTransport.Admits rtcSession.webrtcTransport.iceServer.usernameFragment
      rtcSession.webrtcTransport.iceServer.password rtcSession.webrtcTransport := by
  obtain ⟨w, hw, rtcSession', events, hs', hruns, -⟩ :=
    (run_advances inputs hrun session).2 session (Nat.zero_add session).symm rtcSession hs
  cases hs.symm.trans hs'
  obtain ⟨input, -, hcreated⟩ := List.mem_filterMap.mp (List.mem_of_getElem? hw)
  cases input with
  | createWebRTCSession u p uninitialised =>
      cases hcreated
      have hadmits : WebRtcTransport.Admits u p rtcSession.webrtcTransport :=
        hruns.inv (fun w call _ hw => hw.step call) (.create u p uninitialised)
      obtain ⟨state, heq⟩ := hadmits.credentials
      rw [heq]
      exact hadmits
  | _ => cases hcreated

theorem request_addressee {s : System} {session : SessionId}
    (hregistered : s.getWebRTCSession usernameFragment = some session)
    (hcolon : 0x3A ∉ usernameFragment) (r : BindingRequest usernameFragment password)
    (buffer : SerializeBuffer) :
    s.addressee (r.datagram platform.hmac buffer) = some session := by
  have hhead := ((prefix_iff_splitOn hcolon).mp r.username).2
  unfold System.addressee
  rw [r.parse_datagram platform.hmac buffer]
  simp only
  rw [show (r.received platform.hmac buffer).username = r.packet.username from rfl, split_eq]
  cases hparts : r.packet.username.splitOn 0x3A with
  | nil =>
      rw [hparts] at hhead
      cases hhead
  | cons useName rest =>
      rw [hparts] at hhead
      cases hhead
      exact hregistered

theorem mem_taken {inputs : List Input} {τ : List SessionEvent} {s s' : System} (loop : LoopId)
    {entry : LoopId × Task} (horder : ∀ input ∈ inputs, input.InOrder)
    (hrun : Runs (step platform getNextLoop) s inputs τ s')
    (hentry : entry ∈ ofLoop loop s.pending)
    (hturns : (ofLoop loop s.pending).length ≤
      (ofLoop loop (taken platform getNextLoop s inputs)).length) :
    entry ∈ taken platform getNextLoop s inputs := by
  have hqueue := run_pending horder hrun loop
  have hstart : ofLoop loop s.pending <+: ofLoop loop (taken platform getNextLoop s inputs) :=
    List.prefix_of_prefix_length_le ⟨_, hqueue⟩ (List.prefix_append ..) hturns
  exact List.mem_of_mem_filter (hstart.subset hentry)

/-- What `HandlePacket` leads to for the session of a datagram: the session is routed
to the source, and the call follows at once or when the connection's loop has run
what waits and the closures of this datagram. -/
theorem serverRead_calls {after : List Input} {events : List SessionEvent} {s s' : System}
    {session : SessionId} {data : Bytes} {env : Outcomes} {peer : SockAddrIn} {loop : LoopId}
    (hloop : (s.server.getOrCreatConnection getNextLoop peer).2.loop = loop)
    (hlt : session < s.sessions.length) (hsize : data.length ≤ bufSize)
    (haddressee : s.addressee data = some session)
    (horder : ∀ input ∈ after, input.InOrder)
    (hafter : Runs (step platform getNextLoop) s (.serverRead env data peer :: after) events s')
    (hturns : loop = baseLoop ∨ (ofLoop loop s.pending).length + 2 ≤
      (ofLoop loop (taken platform getNextLoop s (.serverRead env data peer :: after))).length) :
    ∃ rest env', callsAlong platform getNextLoop session s (.serverRead env data peer :: after) =
        .setNetworkTransport ⟨peer⟩ :: rest ∧ .onInputDataPacket env' data peer ∈ rest := by
  obtain ⟨s₁, τ₁, hr, hrest, rfl⟩ := runs_cons_iff.mp hafter
  have htake : data.take bufSize = data := List.take_of_length_le hsize
  have hstep : step platform getNextLoop s (.serverRead env data peer) =
      s.routePacket platform getNextLoop env session data peer := by
    rw [step, htake, handlePacket_of_addressee peer haddressee]
  have hfirst : calls platform getNextLoop session s (.serverRead env data peer) =
      .setNetworkTransport ⟨peer⟩ ::
        if baseLoop = loop then [.onInputDataPacket env data peer] else [] := by
    rw [calls, hstep, ← hloop]
    exact routePacket_calls.out s₁ (hstep ▸ hr)
  rw [callsAlong_cons hr, if_pos hlt, hfirst, List.cons_append]
  by_cases hbase : baseLoop = loop
  · rw [if_pos hbase]
    exact ⟨_, env, rfl, List.mem_cons_self⟩
  · have hpending : s₁.pending = s.pending ++
        [(loop, .enableReading peer), (loop, .onInputDataPacket session data peer)] := by
      have hposted := routePacket_pending.out s₁ (hstep ▸ hr)
      simp only [hloop, if_neg hbase] at hposted
      exact hposted
    have hqueue : ofLoop loop s₁.pending = ofLoop loop s.pending ++
        [(loop, .enableReading peer), (loop, .onInputDataPacket session data peer)] := by
      rw [hpending, ofLoop_append]
      simp [ofLoop]
    have htaken : taken platform getNextLoop s (.serverRead env data peer :: after) =
        taken platform getNextLoop s₁ after := by
      simp only [taken, collect, hr, System.takes]
      rfl
    have hmem : (loop, .onInputDataPacket session data peer) ∈
        taken platform getNextLoop s₁ after := by
      apply mem_taken loop horder hrest
      · rw [hqueue]
        simp
      · rw [htaken] at hturns
        rw [hqueue, List.length_append]
        exact hturns.resolve_left fun heq => hbase heq.symm
    have hlt₁ : session < s₁.sessions.length :=
      Nat.lt_of_lt_of_le hlt ((step_length s _).out s₁ hr)
    obtain ⟨env', hcall⟩ := call_of_taken hrest hlt₁ hmem
    rw [if_neg hbase]
    exact ⟨_, env', rfl, hcall⟩

end Server

/-- A client that knows the credentials of a registered session gets its answer. In
every state that is reached its Binding request, encoded into whatever buffer and
read from whatever address, is answered on the connection of that address, in
every run that goes on until the connection's loop has run, in order, the closures
that waited and the two of this request, unless the session is routed elsewhere. The
response verifies under the client's password and names its address, and ICE is
completed. -/
theorem request_answered (platform : Platform) (getNextLoop : Nat → LoopId)
    {before after : List Input} {τ events : List SessionEvent} {s s' : System}
    (hbefore : Runs (step platform getNextLoop) {} before τ s) {session : SessionId}
    {rtcSession : WebRTCSession} (hs : s.sessions[session]? = some rtcSession)
    {usernameFragment password : Bytes}
    (husernameFragment : rtcSession.webrtcTransport.iceServer.usernameFragment = usernameFragment)
    (hpassword : rtcSession.webrtcTransport.iceServer.password = password)
    (hregistered : s.getWebRTCSession usernameFragment = some session)
    (hcolon : 0x3A ∉ usernameFragment) (hne : password ≠ [])
    (r : BindingRequest usernameFragment password) (hsize : r.packet.exactSize ≤ bufSize)
    (buffer : SerializeBuffer) (env : Outcomes) (peer : SockAddrIn)
    (horder : ∀ input ∈ after, input.InOrder)
    (hafter : Runs (step platform getNextLoop) s
      (.serverRead env (r.datagram platform.hmac buffer) peer :: after) events s') {loop : LoopId}
    (hloop : (s.server.getOrCreatConnection getNextLoop peer).2.loop = loop)
    (hturns : loop = baseLoop ∨ (ofLoop loop s.pending).length + 2 ≤
      (ofLoop loop (taken platform getNextLoop s
        (.serverRead env (r.datagram platform.hmac buffer) peer :: after))).length)
    (hroutes : ∀ other, .routed session other ∈ events → other = peer) :
    ∃ response rtcSession',
      IceServer.Verifiable platform.hmac r.packet.transactionId peer password response ∧
      ⟨.stun, response, peer⟩ ∈ events.filterMap (sentFor session) ∧
      s'.sessions[session]? = some rtcSession' ∧
      rtcSession'.webrtcTransport.iceServer.state = .completed := by
  have hadmits := session_admits hbefore hs
  rw [husernameFragment, hpassword] at hadmits
  have hlt : session < s.sessions.length := (List.getElem?_eq_some_iff.mp hs).choose
  have hlength : (r.datagram platform.hmac buffer).length ≤ bufSize := by
    rw [r.datagram_length]
    exact hsize
  have haddressee : s.addressee (r.datagram platform.hmac buffer) = some session :=
    request_addressee hregistered hcolon r buffer
  obtain ⟨rest, env', hcalls, hmem⟩ :=
    serverRead_calls hloop hlt hlength haddressee horder hafter hturns
  obtain ⟨rtcSession', transportEvents, hs', hruns, hpackets⟩ :=
    (run_advances _ hafter session).1 rtcSession hs
  have hrouted : ∀ transport, .setNetworkTransport transport ∈ rest → transport = ⟨peer⟩ := by
    intro transport htransport
    have hcall : .setNetworkTransport transport ∈ callsAlong platform getNextLoop session s
        (.serverRead env (r.datagram platform.hmac buffer) peer :: after) :=
      hcalls ▸ List.mem_cons_of_mem _ htransport
    exact congrArg NetworkTransport.mk (hroutes _ (routed_of_call hafter hcall))
  obtain ⟨first, last, rfl⟩ := List.append_of_mem hmem
  rw [hcalls] at hruns
  obtain ⟨response, hverifiable, hsent, hcompleted⟩ := runs_answered hadmits hne r buffer
    (fun transport h => hrouted transport (List.mem_append_left _ h)) hruns
  refine ⟨response, rtcSession', hverifiable, ?_, hs', hcompleted⟩
  rw [hpackets]
  exact List.mem_filterMap.mpr ⟨_, hsent, rfl⟩

def clientRequest : BindingRequest [97, 98, 99, 100] [112, 119] where
  packet := StunPacket.bindingRequest
  klass := rfl
  method := rfl
  username := by decide
  priority := by decide
  signed := rfl
  size := by decide

theorem clientRequest_datagram :
    clientRequest.datagram WebRtcTransport.samplePlatform.hmac .initial =
      WebRtcTransport.signedDatagram := by
  rw [BindingRequest.datagram_eq]
  decide +kernel

def routesToClient : SessionEvent → Bool
  | .routed _ peer => peer = client
  | _ => true

def hosting : System :=
  ({} : System).createWebRTCSession (.create [97, 98, 99, 100] [112, 119] ⟨0, 0⟩)

/-- A client binds to a fresh session, with one thread. -/
theorem request_answered_client :
    ∃ response events s',
      Runs (step WebRtcTransport.samplePlatform (roundRobin 1)) hosting
        [binding client, next 1, next 1] events s' ∧
      IceServer.Verifiable WebRtcTransport.samplePlatform.hmac
        StunPacket.bindingRequest.transactionId client [112, 119] response ∧
      ⟨.stun, response, client⟩ ∈ events.filterMap (sentFor 0) := by
  have hrun : ((run (step WebRtcTransport.samplePlatform (roundRobin 1)) [] hosting
      [binding client, next 1, next 1]).map fun r => r.1.all routesToClient) = some true := by
    decide +kernel
  have hturns : (ofLoop 1 hosting.pending).length + 2 ≤ (ofLoop 1 (taken
      WebRtcTransport.samplePlatform (roundRobin 1) hosting
      [binding client, next 1, next 1])).length := by
    decide +kernel
  obtain ⟨⟨events, s'⟩, hafter, hroutes⟩ := Option.map_eq_some_iff.mp hrun
  have hbefore : Runs (step WebRtcTransport.samplePlatform (roundRobin 1)) {} [newSession] []
      hosting := rfl
  have hs : hosting.sessions[0]? =
      some { webrtcTransport := .create [97, 98, 99, 100] [112, 119] ⟨0, 0⟩ } := rfl
  have hloop : (hosting.server.getOrCreatConnection (roundRobin 1) client).2.loop = 1 := rfl
  have hregistered : hosting.getWebRTCSession [97, 98, 99, 100] = some 0 := by decide
  have hread : binding client = .serverRead WebRtcTransport.quiet
      (clientRequest.datagram WebRtcTransport.samplePlatform.hmac .initial) client := by
    rw [clientRequest_datagram]
    rfl
  have hto : ∀ other, .routed 0 other ∈ events → other = client := by
    intro other h
    exact of_decide_eq_true (List.all_eq_true.mp hroutes _ h)
  rw [hread] at hturns hafter
  obtain ⟨response, _, hverifiable, hsent, -⟩ := request_answered WebRtcTransport.samplePlatform
    (roundRobin 1) hbefore hs rfl rfl hregistered (by decide) (by decide) clientRequest (by decide)
    .initial WebRtcTransport.quiet client (by decide) hafter hloop (.inr hturns) hto
  rw [← hread] at hafter
  exact ⟨response, events, s', hafter, hverifiable, hsent⟩

end EasyWebRtc.Session
