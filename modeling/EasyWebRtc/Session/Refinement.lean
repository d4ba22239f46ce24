import EasyWebRtc.Session.Destination

/-!
# Sessions do not disturb each other

The server interleaves the calls of all its sessions over one socket, the
connections and the queues. Seen from one session nothing of that is left: its
transport is in the state that the calls made on it give to a transport that
runs alone, and the packets sent for it are those of that run.
-/

namespace EasyWebRtc.Session

open Octets Utils Rtc Net Traced

abbrev TransportInput := WebRtcTransport.Input NetworkTransport

/-- A packet on its way to a peer. -/
structure Packet where
  kind : PacketKind
  data : Bytes
  peer : SockAddrIn
  deriving DecidableEq, Repr

/-- The packet that a transport hands to its network transport. -/
def handedOver : WebRtcEvent NetworkTransport → Option Packet
  | .sendPacket kind data _ (some transport) => some ⟨kind, data, transport.connection⟩
  | _ => none

/-- The packet that is sent for a session. -/
def sentFor (session : SessionId) : SessionEvent → Option Packet
  | .sent session' kind data peer _ _ =>
      if session' = session then some ⟨kind, data, peer⟩ else none
  | _ => none

/-! ## The calls of a step -/

/-- The call that an event of `HandlePacket` stands for. -/
def routedCall (env : Outcomes) (session : SessionId) : SessionEvent → Option TransportInput
  | .routed session' peer => if session' = session then some (.setNetworkTransport ⟨peer⟩) else none
  | .received session' data remoteAddress =>
      if session' = session then some (.onInputDataPacket env data remoteAddress) else none
  | .sent _ _ _ _ _ _ => none

/-- The call that a closure makes. -/
def taskCall (env : Outcomes) (session : SessionId) : Task → Option TransportInput
  | .enableReading _ => none
  | .onInputDataPacket session' data remoteAddress =>
      if session' = session then some (.onInputDataPacket env data remoteAddress) else none
  | .encryptAndSendRtpPacket session' data =>
      if session' = session then some (.encryptAndSendRtpPacket env data) else none

section

variable (platform : Platform) (getNextLoop : Nat → LoopId)

/-- The calls that a step makes on the transport of a session. -/
def calls (session : SessionId) (s : System) (input : Input) : List TransportInput :=
  match input with
  | .createWebRTCSession _ _ _ | .writeRtpCallback _ => []
  | .setRTPChannel session' channel =>
      if session' = session then [.setRTPChannel channel] else []
  | .serverRead env _ _ =>
      (step platform getNextLoop s input).trace.filterMap (routedCall env session)
  | .connectionRead _ _ _ | .pendingFunctor _ _ _ =>
      ((s.executes input).bind fun r => taskCall r.1 session r.2.2).toList

/-- The calls of a run, from the creation of the session on. -/
def callsAlong (session : SessionId) : System → List Input → List TransportInput
  | _, [] => []
  | s, input :: inputs =>
      (if session < s.sessions.length then calls platform getNextLoop session s input else []) ++
        match (step platform getNextLoop s input).result with
        | .ok s' => callsAlong session s' inputs
        | .error _ => []

end

/-- The transports that the inputs create, in order. -/
def createdTransports (inputs : List Input) : List (WebRtcTransport NetworkTransport) :=
  inputs.filterMap fun
    | .createWebRTCSession usernameFragment password uninitialised =>
        some (.create usernameFragment password uninitialised)
    | _ => none

/-! ## One step -/

/-- Every session of `s` takes its calls to its transport in `s'`, and the events
hold the packets of these calls. Nothing happens for a session that is not there. -/
structure Hosts (platform : Platform) (s : System) (calls : SessionId → List TransportInput)
    (τ : List SessionEvent) (s' : System) : Prop where
  runs : ∀ (session : SessionId) rtcSession, s.sessions[session]? = some rtcSession →
    ∃ rtcSession' events, s'.sessions[session]? = some rtcSession' ∧
      Runs (WebRtcTransport.step platform) rtcSession.webrtcTransport (calls session) events
        rtcSession'.webrtcTransport ∧
      τ.filterMap (sentFor session) = events.filterMap handedOver
  absent : ∀ session : SessionId, s.sessions[session]? = none →
    s'.sessions[session]? = none ∧ τ.filterMap (sentFor session) = []

section Hosts

variable {platform : Platform} {s s₁ s₂ : System} {calls calls' : SessionId → List TransportInput}
  {τ τ' : List SessionEvent}

theorem Hosts.trans (h₁ : Hosts platform s calls τ s₁) (h₂ : Hosts platform s₁ calls' τ' s₂) :
    Hosts platform s (fun session => calls session ++ calls' session) (τ ++ τ') s₂ := by
  constructor
  · intro session rtcSession hs
    obtain ⟨rtcSession₁, events₁, hs₁, hruns₁, hpackets₁⟩ := h₁.runs session rtcSession hs
    obtain ⟨rtcSession₂, events₂, hs₂, hruns₂, hpackets₂⟩ := h₂.runs session rtcSession₁ hs₁
    refine ⟨rtcSession₂, events₁ ++ events₂, hs₂, hruns₁.trans hruns₂, ?_⟩
    rw [List.filterMap_append, List.filterMap_append, hpackets₁, hpackets₂]
  · intro session hs
    obtain ⟨hs₁, hτ⟩ := h₁.absent session hs
    obtain ⟨hs₂, hτ'⟩ := h₂.absent session hs₁
    exact ⟨hs₂, by rw [List.filterMap_append, hτ, hτ']; rfl⟩

theorem Hosts.of_sessions (h : s₁.sessions = s.sessions) :
    Hosts platform s (fun _ => []) [] s₁ where
  runs := fun _ rtcSession hs => ⟨rtcSession, [], h ▸ hs, Runs.nil _, rfl⟩
  absent := fun _ hs => ⟨h ▸ hs, rfl⟩

theorem Hosts.congr (h : Hosts platform s calls τ s₁)
    (hcalls : ∀ session, calls' session = calls session)
    (hτ : ∀ session, τ'.filterMap (sentFor session) = τ.filterMap (sentFor session)) :
    Hosts platform s calls' τ' s₁ := by
  constructor
  · intro session rtcSession hs
    rw [hcalls, hτ]
    exact h.runs session rtcSession hs
  · intro session hs
    rw [hτ]
    exact h.absent session hs

theorem Hosts.of_call {session : SessionId} (input : TransportInput)
    {f : WebRTCSession → WebRTCSession} (hsessions : s₁.sessions = s.sessions.modify session f)
    (hcall : ∀ rtcSession, s.sessions[session]? = some rtcSession →
      (WebRtcTransport.step platform rtcSession.webrtcTransport input).result =
          .ok (f rtcSession).webrtcTransport ∧
        τ.filterMap (sentFor session) = (WebRtcTransport.step platform
          rtcSession.webrtcTransport input).trace.filterMap handedOver)
    (hnone : s.sessions[session]? = none → τ.filterMap (sentFor session) = [])
    (hothers : ∀ other ≠ session, τ.filterMap (sentFor other) = []) :
    Hosts platform s (fun other => if session = other then [input] else []) τ s₁ := by
  constructor
  · intro other rtcSession hs
    rw [hsessions]
    by_cases heq : session = other
    · subst heq
      obtain ⟨hresult, hτ⟩ := hcall rtcSession hs
      refine ⟨f rtcSession, _, ?_, ?_, hτ⟩
      · rw [List.getElem?_modify_eq, hs]
        rfl
      · simp only [if_true]
        exact Runs.single hresult
    · refine ⟨rtcSession, [], ?_, ?_, hothers other (Ne.symm heq)⟩
      · simp [heq, hs]
      · simp only [if_neg heq]
        exact Runs.nil _
  · intro other hs
    constructor
    · rw [hsessions, List.getElem?_modify, hs]
      rfl
    · by_cases heq : other = session
      · subst heq
        exact hnone hs
      · exact hothers other heq

end Hosts

/-! ## Calls of a transport -/

section Calls

variable {platform : Platform} {s : System} {loop : LoopId} {session : SessionId}

theorem foldlM_onTransportEvent_post (events : List (WebRtcEvent NetworkTransport)) :
    (events.foldlM (System.onTransportEvent loop session) s).Post fun τ s' => s' = s ∧
      τ.filterMap (sentFor session) = events.filterMap handedOver ∧
      ∀ other ≠ session, τ.filterMap (sentFor other) = [] := by
  induction events with
  | nil => exact Post.pure ⟨rfl, rfl, fun _ _ => rfl⟩
  | cons event events ih =>
      have hsilent : handedOver event = none → (System.onTransportEvent loop session s event) =
          Traced.pure s → ((event :: events).foldlM (System.onTransportEvent loop session) s).Post
            fun τ s' => s' = s ∧
              τ.filterMap (sentFor session) = (event :: events).filterMap handedOver ∧
              ∀ other ≠ session, τ.filterMap (sentFor other) = [] := by
        intro hnone hpure
        rw [List.foldlM_cons, hpure, List.filterMap_cons_none hnone]
        exact ih
      cases event with
      | onRtp data => exact hsilent rfl rfl
      | selectedTuple tuple => exact hsilent rfl rfl
      | dtls event => exact hsilent rfl rfl
      | sendPacket kind data remoteAddress transport =>
          cases transport with
          | none => exact hsilent rfl rfl
          | some transport =>
              rw [List.foldlM_cons]
              apply Post.bind
              apply Post.bind
              unfold System.send
              split
              · exact Post.fail
              · rename_i connectionLoop _
                apply Post.bind
                apply Post.emit
                split
                · apply Post.pure
                  apply Post.pure
                  apply ih.mono
                  rintro τ s' ⟨rfl, hτ, hothers⟩
                  refine ⟨rfl, ?_, ?_⟩
                  · simp [sentFor, handedOver, hτ]
                  · intro other hother
                    simp [sentFor, hother.symm, hothers other hother]
                · exact Post.fail

theorem callTransport_hosts (input : TransportInput) :
    (s.callTransport loop session fun w => WebRtcTransport.step platform w input).Post fun τ s' =>
      Hosts platform s (fun other => if session = other then [input] else []) τ s' := by
  unfold System.callTransport
  split
  · exact Post.fail
  · rename_i rtcSession hs
    apply Post.bind
    apply Post.handle
    constructor
    intro w' hw'
    apply (foldlM_onTransportEvent_post _).mono
    rintro τ s' ⟨rfl, hτ, hothers⟩
    apply Post.pure
    rw [List.append_nil]
    refine Hosts.of_call _ rfl ?_ ?_ hothers
    · intro rtcSession' hs'
      cases hs.symm.trans hs'
      exact ⟨hw', hτ⟩
    · intro hnone
      rw [hs] at hnone
      cases hnone

theorem Hosts.emit {τ : List SessionEvent} {s' : System}
    {calls : SessionId → List TransportInput} (h : Hosts platform s calls τ s') {e : SessionEvent}
    (he : ∀ session, sentFor session e = none) : Hosts platform s calls ([e] ++ τ) s' :=
  h.congr (fun _ => rfl) fun session => List.filterMap_cons_none (he session)

theorem perform_hosts {env : Outcomes} (task : Task) :
    (s.perform platform env loop task).Post fun τ s' =>
      Hosts platform s (fun session => (taskCall env session task).toList) τ s' := by
  cases task with
  | enableReading peer => exact Post.pure (Hosts.of_sessions rfl)
  | onInputDataPacket session data remoteAddress =>
      apply Post.bind
      apply Post.emit
      apply (callTransport_hosts (.onInputDataPacket env data remoteAddress)).mono
      intro τ s' h
      refine Hosts.emit (h.congr ?_ fun _ => rfl) fun _ => rfl
      intro other
      simp only [taskCall]
      split <;> rfl
  | encryptAndSendRtpPacket session data =>
      apply (callTransport_hosts (.encryptAndSendRtpPacket env data)).mono
      intro τ s' h
      refine h.congr ?_ fun _ => rfl
      intro other
      simp only [taskCall]
      split <;> rfl

end Calls

/-! ## The server socket -/

section Server

variable {platform : Platform} {getNextLoop : Nat → LoopId} {env : Outcomes} {s : System}

/-- The calls of `HandlePacket` are told by its events. -/
def HostsRouted (platform : Platform) (env : Outcomes) (s : System) (τ : List SessionEvent)
    (s' : System) : Prop :=
  Hosts platform s (fun session => τ.filterMap (routedCall env session)) τ s'

theorem HostsRouted.trans {s₁ s₂ : System} {τ τ' : List SessionEvent}
    (h₁ : HostsRouted platform env s τ s₁) (h₂ : HostsRouted platform env s₁ τ' s₂) :
    HostsRouted platform env s (τ ++ τ') s₂ :=
  (Hosts.trans h₁ h₂).congr (fun _ => List.filterMap_append ..) fun _ => rfl

theorem setNetworkTransport_hosts {session : SessionId} {peer : SockAddrIn}
    {connection : UdpConnection SessionId} :
    (s.setNetworkTransport platform env session peer connection).Post
      (HostsRouted platform env s) := by
  apply setNetworkTransport_post.mono
  rintro τ s' ⟨rfl, hsessions, -, -⟩
  have hcall : Hosts platform s
      (fun other => if session = other then [.setNetworkTransport ⟨peer⟩] else [])
      [.routed session peer] s' :=
    Hosts.of_call _ hsessions (fun _ _ => ⟨rfl, rfl⟩) (fun _ => rfl) fun _ _ => rfl
  refine hcall.congr ?_ fun _ => rfl
  · intro other
    by_cases heq : session = other <;> simp [routedCall, heq]

/-- The datagram is processed in the step itself or waits in a queue. -/
theorem runInLoop_hosts {loop : LoopId} {session : SessionId} {data : Bytes}
    {peerAddr : SockAddrIn} :
    (s.runInLoop platform env baseLoop loop (.onInputDataPacket session data peerAddr)).Post
      (HostsRouted platform env s) := by
  unfold System.runInLoop
  split
  · apply Post.bind
    apply Post.emit
    have hsent : (s.callTransport baseLoop session fun w =>
        WebRtcTransport.step platform w (.onInputDataPacket env data peerAddr)).Only
          fun e => ∀ other, routedCall env other e = none := by
      refine (callTransport_only (E := fun _ _ => True) fun _ _ => ⟨fun _ _ => trivial⟩).mono ?_
      rintro e ⟨_, _, he⟩ other
      cases e with
      | routed session' peer => exact he.elim
      | received session' data' remoteAddress => exact he.elim
      | sent session' kind data' peer connectionLoop loop' => rfl
    apply ((callTransport_hosts (.onInputDataPacket env data peerAddr)).with_only hsent).mono
    rintro τ s' ⟨h, hnone⟩
    refine Hosts.emit (h.congr ?_ fun _ => rfl) fun _ => rfl
    intro other
    have hrest : τ.filterMap (routedCall env other) = [] :=
      List.filterMap_eq_nil_iff.mpr fun e he => hnone e he other
    by_cases heq : session = other <;> simp [routedCall, heq, hrest]
  · exact Post.pure (Hosts.of_sessions rfl)

theorem routePacket_hosts {session : SessionId} {data : Bytes} {peerAddr : SockAddrIn} :
    (s.routePacket platform getNextLoop env session data peerAddr).Post
      (HostsRouted platform env s) := by
  apply Post.bind
  apply setNetworkTransport_hosts.mono
  intro τ s' h
  apply runInLoop_hosts.mono
  intro τ' s'' h'
  exact HostsRouted.trans ⟨h.runs, h.absent⟩ h'

theorem handlePacket_hosts {data : Bytes} {peerAddr : SockAddrIn} :
    (s.handlePacket platform getNextLoop env data peerAddr).Post (HostsRouted platform env s) := by
  have hidle : HostsRouted platform env s [] s := Hosts.of_sessions rfl
  apply Post.bind
  apply Post.lift
  intro isStun _
  split
  · apply Post.bind
    apply Post.lift
    intro parsed _
    cases parsed with
    | none => exact Post.pure hidle
    | some packet =>
        apply Post.bind
        apply Post.lift
        intro vec _
        cases vec with
        | nil => exact Post.fail
        | cons useName rest =>
            simp only
            split
            · exact Post.pure hidle
            · exact routePacket_hosts
  · exact Post.pure hidle

theorem writeRtpCallback_sessions (s : System) (data : Bytes) :
    (s.writeRtpCallback data).sessions = s.sessions := by
  unfold System.writeRtpCallback
  generalize s.getAllReadyWebRTCSession = ready
  induction ready generalizing s with
  | nil => rfl
  | cons session ready ih =>
      rw [List.foldl_cons, ih]
      split <;> rfl

/-- A step that creates no session makes its calls and no others. -/
theorem step_hosts {input : Input}
    (hcreate : ∀ usernameFragment password uninitialised,
      input ≠ .createWebRTCSession usernameFragment password uninitialised) :
    (step platform getNextLoop s input).Post fun τ s' =>
      Hosts platform s (fun session => calls platform getNextLoop session s input) τ s' := by
  cases input with
  | createWebRTCSession usernameFragment password uninitialised => exact (hcreate _ _ _ rfl).elim
  | setRTPChannel session channel =>
      apply Post.pure
      refine (Hosts.of_call (.setRTPChannel channel) rfl ?_ ?_ ?_).congr ?_ fun _ => rfl
      · exact fun _ _ => ⟨rfl, rfl⟩
      · exact fun _ => rfl
      · exact fun _ _ => rfl
      · exact fun _ => rfl
  | serverRead env data peerAddr => exact ⟨fun s' hs' => handlePacket_hosts.out s' hs'⟩
  | connectionRead env peer data =>
      simp only [step, System.handleRead]
      split
      · rename_i loop session hread
        apply (perform_hosts _).mono
        intro τ s' h
        refine h.congr (fun other => ?_) fun _ => rfl
        simp only [calls, System.executes, hread, Option.bind_some]
      · rename_i hread
        apply Post.pure
        refine (Hosts.of_sessions rfl).congr (fun other => ?_) fun _ => rfl
        simp only [calls, System.executes]
        rfl
  | pendingFunctor env loop position =>
      simp only [step, System.doPendingFunctor]
      split
      · rename_i hnext
        apply Post.pure
        refine (Hosts.of_sessions rfl).congr (fun other => ?_) fun _ => rfl
        simp [calls, System.executes, hnext]
      · rename_i task pending hnext
        apply (perform_hosts task).mono
        intro τ s' h
        have hs : Hosts platform s (fun other => (taskCall env other task).toList) τ s' :=
          ⟨h.runs, h.absent⟩
        refine hs.congr (fun other => ?_) fun _ => rfl
        simp [calls, System.executes, hnext]
  | writeRtpCallback data =>
      apply Post.pure
      exact Hosts.of_sessions (writeRtpCallback_sessions s data)

end Server

/-! ## Runs -/

section Run

variable {platform : Platform} {getNextLoop : Nat → LoopId}

theorem Hosts.length {s s' : System} {calls : SessionId → List TransportInput}
    {τ : List SessionEvent} (h : Hosts platform s calls τ s') :
    s'.sessions.length = s.sessions.length := by
  have hsame : ∀ k, s'.sessions.length ≤ k ↔ s.sessions.length ≤ k := by
    intro k
    rw [← List.getElem?_eq_none_iff, ← List.getElem?_eq_none_iff]
    constructor
    · intro hnone
      by_contra hsome
      obtain ⟨rtcSession, hs⟩ := Option.ne_none_iff_exists'.mp hsome
      obtain ⟨_, _, hs', _⟩ := h.runs k rtcSession hs
      rw [hs'] at hnone
      cases hnone
    · exact fun hnone => (h.absent k hnone).1
  have hle := (hsame s.sessions.length).mpr (Nat.le_refl _)
  have hge := (hsame s'.sessions.length).mp (Nat.le_refl _)
  omega

/-- What a run does to the transport `w` of a session. -/
def Advanced (platform : Platform) (getNextLoop : Nat → LoopId) (session : SessionId)
    (τ : List SessionEvent) (s : System) (inputs : List Input) (τ' : List SessionEvent)
    (s' : System) (w : WebRtcTransport NetworkTransport) : Prop :=
  ∃ rtcSession' events, s'.sessions[session]? = some rtcSession' ∧
    Runs (WebRtcTransport.step platform) w (callsAlong platform getNextLoop session s inputs) events
      rtcSession'.webrtcTransport ∧
    τ'.filterMap (sentFor session) = τ.filterMap (sentFor session) ++ events.filterMap handedOver

theorem callsAlong_cons {session : SessionId} {s s₁ : System} {input : Input} {inputs : List Input}
    (hr : (step platform getNextLoop s input).result = .ok s₁) :
    callsAlong platform getNextLoop session s (input :: inputs) =
      (if session < s.sessions.length then calls platform getNextLoop session s input else []) ++
        callsAlong platform getNextLoop session s₁ inputs := by
  rw [callsAlong, hr]

theorem Hosts.advanced {session : SessionId} {τ τ' : List SessionEvent} {s s₁ s' : System}
    {input : Input} {inputs : List Input}
    (hr : (step platform getNextLoop s input).result = .ok s₁)
    (h : Hosts platform s (fun session => calls platform getNextLoop session s input)
      (step platform getNextLoop s input).trace s₁)
    (hrest : ∀ rtcSession₁, s₁.sessions[session]? = some rtcSession₁ →
      Advanced platform getNextLoop session (τ ++ (step platform getNextLoop s input).trace) s₁
        inputs τ' s' rtcSession₁.webrtcTransport)
    {rtcSession : WebRTCSession} (hs : s.sessions[session]? = some rtcSession) :
    Advanced platform getNextLoop session τ s (input :: inputs) τ' s'
      rtcSession.webrtcTransport := by
  obtain ⟨rtcSession₁, events₁, hs₁, hruns₁, hpackets₁⟩ := h.runs session rtcSession hs
  obtain ⟨rtcSession', events, hs', hruns, hpackets⟩ := hrest rtcSession₁ hs₁
  have hlt : session < s.sessions.length := (List.getElem?_eq_some_iff.mp hs).choose
  refine ⟨rtcSession', events₁ ++ events, hs', ?_, ?_⟩
  · rw [callsAlong_cons hr, if_pos hlt]
    exact hruns₁.trans hruns
  · rw [hpackets, List.filterMap_append, List.filterMap_append, hpackets₁, List.append_assoc]

/-- Over a run every session of its first state advances by its calls, and every
session that it creates by those since its creation. -/
theorem run_advances (inputs : List Input) {τ τ' : List SessionEvent} {s s' : System}
    (hrun : run (step platform getNextLoop) τ s inputs = some (τ', s')) (session : SessionId) :
    (∀ rtcSession, s.sessions[session]? = some rtcSession →
      Advanced platform getNextLoop session τ s inputs τ' s' rtcSession.webrtcTransport) ∧
    (∀ n, session = s.sessions.length + n → ∀ rtcSession', s'.sessions[session]? = some rtcSession' →
      ∃ w, (createdTransports inputs)[n]? = some w ∧
        Advanced platform getNextLoop session τ s inputs τ' s' w) := by
  induction inputs generalizing τ s with
  | nil =>
      cases hrun
      constructor
      · intro rtcSession hs
        exact ⟨rtcSession, [], hs, Runs.nil _, by simp⟩
      · intro n hn rtcSession' hs'
        rw [hn, List.getElem?_eq_none (Nat.le_add_right _ _)] at hs'
        cases hs'
  | cons input inputs ih =>
      cases hr : (step platform getNextLoop s input).result with
      | error e =>
          rw [run, hr] at hrun
          cases hrun
      | ok s₁ =>
          rw [run, hr] at hrun
          obtain ⟨hold, hnew⟩ := ih hrun
          by_cases hcreate : ∃ usernameFragment password uninitialised,
              input = .createWebRTCSession usernameFragment password uninitialised
          · obtain ⟨usernameFragment, password, uninitialised, rfl⟩ := hcreate
            cases hr
            have hcalls : callsAlong platform getNextLoop session s
                (.createWebRTCSession usernameFragment password uninitialised :: inputs) =
                  callsAlong platform getNextLoop session
                    (s.createWebRTCSession (.create usernameFragment password uninitialised))
                    inputs := by
              rw [callsAlong_cons rfl]
              simp [calls]
            have htrace : (step platform getNextLoop s (.createWebRTCSession usernameFragment
                password uninitialised)).trace = [] := rfl
            unfold Advanced at hold hnew ⊢
            rw [htrace, List.append_nil] at hold hnew
            rw [hcalls]
            constructor
            · intro rtcSession hs
              have hlt : session < s.sessions.length := (List.getElem?_eq_some_iff.mp hs).choose
              refine hold rtcSession ?_
              rw [System.createWebRTCSession, List.getElem?_append_left hlt, hs]
            · intro n hn rtcSession' hs'
              cases n with
              | zero =>
                  refine ⟨.create usernameFragment password uninitialised, rfl, hold
                    { webrtcTransport := .create usernameFragment password uninitialised } ?_⟩
                  rw [System.createWebRTCSession, hn]
                  simp
              | succ n =>
                  refine hnew n ?_ rtcSession' hs'
                  rw [System.createWebRTCSession, List.length_append, hn, List.length_singleton,
                    Nat.add_assoc, Nat.add_comm 1 n]
          · have hhosts := (step_hosts fun u p a heq => hcreate ⟨u, p, a, heq⟩).out s₁ hr
            constructor
            · intro rtcSession hs
              exact hhosts.advanced hr hold hs
            · intro n hn rtcSession' hs'
              have hge : s.sessions.length ≤ session := hn ▸ Nat.le_add_right _ _
              obtain ⟨w, hw, rtcSession'', events, hs'', hruns, hpackets⟩ :=
                hnew n (by rw [hhosts.length, hn]) rtcSession' hs'
              have habsent := (hhosts.absent session (List.getElem?_eq_none hge)).2
              refine ⟨w, ?_, rtcSession'', events, hs'', ?_, ?_⟩
              · rw [← hw, createdTransports, List.filterMap_cons_none]
                · rfl
                · cases input with
                  | createWebRTCSession u p a => exact (hcreate ⟨u, p, a, rfl⟩).elim
                  | _ => rfl
              · rw [callsAlong_cons hr, if_neg (Nat.not_lt.mpr hge)]
                exact hruns
              · rw [hpackets, List.filterMap_append, habsent, List.append_nil]

/-- Sessions are isolated. After every run of the server, with any interleaving of
sockets, queues and the RTP source, the transport of a session is where the calls
made on it take a transport that runs alone, and the packets sent for the session
are, in order, the packets of that run. -/
theorem session_runs_alone (platform : Platform) (getNextLoop : Nat → LoopId)
    (inputs : List Input) {τ : List SessionEvent} {s : System}
    (hrun : run (step platform getNextLoop) [] {} inputs = some (τ, s)) {session : SessionId}
    {rtcSession : WebRTCSession} (hs : s.sessions[session]? = some rtcSession) :
    ∃ w events, (createdTransports inputs)[session]? = some w ∧
      Runs (WebRtcTransport.step platform) w
        (callsAlong platform getNextLoop session {} inputs) events rtcSession.webrtcTransport ∧
      τ.filterMap (sentFor session) = events.filterMap handedOver := by
  obtain ⟨w, hw, rtcSession', events, hs', hruns, hpackets⟩ :=
    (run_advances inputs hrun session).2 session (Nat.zero_add session).symm rtcSession hs
  cases hs.symm.trans hs'
  exact ⟨w, events, hw, hruns, hpackets⟩

/-- A client binds to the first of two sessions. -/
def bindsFirst : List Input := [newSession, newSession, binding client, next 1, next 1, media, next 1]

theorem session_runs_alone_client :
    ∃ τ s rtcSession,
      run (step WebRtcTransport.samplePlatform (roundRobin 1)) [] {} bindsFirst = some (τ, s) ∧
      s.sessions[0]? = some rtcSession ∧
      ∃ w events, (createdTransports bindsFirst)[0]? = some w ∧
        Runs (WebRtcTransport.step WebRtcTransport.samplePlatform) w
          (callsAlong WebRtcTransport.samplePlatform (roundRobin 1) 0 {} bindsFirst) events
          rtcSession.webrtcTransport ∧
        τ.filterMap (sentFor 0) = events.filterMap handedOver := by
  have hlength : ((run (step WebRtcTransport.samplePlatform (roundRobin 1)) [] {} bindsFirst).map
      fun r => r.2.sessions.length) = some 2 := by
    decide +kernel
  obtain ⟨⟨τ, s⟩, hrun, hlength⟩ := Option.map_eq_some_iff.mp hlength
  have hlt : 0 < s.sessions.length := by
    rw [hlength]
    decide
  exact ⟨τ, s, s.sessions[0], hrun, List.getElem?_eq_getElem hlt,
    session_runs_alone _ _ _ hrun (List.getElem?_eq_getElem hlt)⟩

end Run

end EasyWebRtc.Session
