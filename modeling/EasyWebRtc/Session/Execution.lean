import EasyWebRtc.Session.Routing

/-!
# The transport call of a step

A read of a connection and a queued closure make one call of a transport, on the
loop of the connection or of the queue. `HandlePacket` makes one too when the
connection lives in the base loop; it then answers on the connection that it has
just set.
-/

namespace EasyWebRtc.Session

open Octets Utils Rtc Net Traced

/-- What a step other than `HandlePacket` runs: the outcomes it finds, its loop
and the closure. -/
def System.executes (s : System) : Input → Option (Outcomes × LoopId × Task)
  | .connectionRead env peer data =>
      match s.server.connections peer with
      | some ⟨loop, some session, true⟩ =>
          some (env, loop, .onInputDataPacket session (data.take bufSize) peer)
      | _ => none
  | .pendingFunctor env loop position =>
      (System.taskAt loop position s.pending).map fun r => (env, loop, r.1)
  | _ => none

/-- An event of `HandlePacket`. -/
def HandledEvent (peerAddr : SockAddrIn) : SessionEvent → Prop
  | .routed _ _ => True
  | .received _ _ remoteAddress => remoteAddress = peerAddr
  | .sent _ kind response peer connectionLoop loop =>
      kind = .stun ∧ peer = peerAddr ∧ connectionLoop = loop ∧
      (StunPacket.headerClass response = some .successResponse →
        StunPacket.mappedAddress response = some peerAddr)

section

variable {platform : Platform} {getNextLoop : Nat → LoopId} {env : Outcomes} {s : System}

theorem branch_of_isStun {data : Bytes} (h : StunPacket.isStun data data.length = .ok true) :
    WebRtcTransport.branch data = .ok .stun := by
  rw [WebRtcTransport.branch, h]
  rfl

/-- On the base loop a STUN datagram is answered on the connection of its source,
once the session is routed there. -/
theorem TaskEvent.handled {loop : LoopId} {session : SessionId} {data : Bytes}
    {peerAddr : SockAddrIn} {e : SessionEvent}
    (h : TaskEvent env s loop (.onInputDataPacket session data peerAddr) e)
    (hstun : StunPacket.isStun data data.length = .ok true)
    (hroute : ∀ rtcSession, s.sessions[session]? = some rtcSession →
      rtcSession.webrtcTransport.transport = some ⟨peerAddr⟩)
    (hloop : s.server.loopOf peerAddr = some loop) : HandledEvent peerAddr e := by
  rcases h with rfl | ⟨rtcSession, hs, hsent⟩
  · rfl
  · cases e with
    | routed session' peer => trivial
    | received session' data' remoteAddress => exact hsent.elim
    | sent session' kind response peer connectionLoop loop' =>
        obtain ⟨rfl, rfl, hof, remoteAddress, hemitted⟩ := hsent
        cases kind with
        | stun =>
            obtain ⟨htransport, _, _, hmapped⟩ := hemitted
            rw [hroute rtcSession hs] at htransport
            cases htransport
            refine ⟨rfl, rfl, ?_, hmapped⟩
            exact Option.some.inj (hof.symm.trans hloop)
        | dtls =>
            obtain ⟨_, hbranch, _⟩ := hemitted
            rw [branch_of_isStun hstun] at hbranch
            cases hbranch
        | rtp => exact hemitted.elim

theorem setNetworkTransport_only {session : SessionId} {peer : SockAddrIn}
    {connection : UdpConnection SessionId} :
    (s.setNetworkTransport platform env session peer connection).Only
      fun e => e = .routed session peer := by
  apply Only.bind
  · exact Only.emit rfl
  apply Post.emit
  apply Only.bind
  · unfold System.runInLoop
    split
    · exact Only.pure
    · exact Only.pure
  · exact ⟨fun _ _ => Only.pure⟩

theorem routePacket_only {session : SessionId} {data : Bytes} {peerAddr : SockAddrIn}
    (hstun : StunPacket.isStun data data.length = .ok true) :
    (s.routePacket platform getNextLoop env session data peerAddr).Only
      (HandledEvent peerAddr) := by
  have hloop : (s.server.getOrCreatConnection getNextLoop peerAddr).1.loopOf peerAddr =
      some (s.server.getOrCreatConnection getNextLoop peerAddr).2.loop :=
    UdpServer.getOrCreatConnection_loop
  unfold System.routePacket
  generalize s.server.getOrCreatConnection getNextLoop peerAddr = created at hloop ⊢
  rcases created with ⟨server, connection⟩
  apply Only.bind
  · apply setNetworkTransport_only.mono
    intro e he
    subst he
    trivial
  · apply setNetworkTransport_post.mono
    intro τ s' hs'
    obtain ⟨_, hsessions, _, hserver⟩ := hs'
    unfold System.runInLoop
    split
    · rename_i hbase
      apply perform_only.mono
      intro e he
      apply he.handled hstun
      · intro rtcSession' hs'
        rw [hsessions, List.getElem?_modify_eq] at hs'
        obtain ⟨rtcSession, _, rfl⟩ := Option.map_eq_some_iff.mp hs'
        rfl
      · rw [hserver, hbase]
        exact hloop
    · exact Only.pure

theorem handlePacket_only {data : Bytes} {peerAddr : SockAddrIn} :
    (s.handlePacket platform getNextLoop env data peerAddr).Only (HandledEvent peerAddr) := by
  apply Only.bind Only.lift
  apply Post.lift
  intro isStun hstun
  split
  · rename_i htrue
    apply Only.bind Only.lift
    apply Post.lift
    intro parsed _
    cases parsed with
    | none => exact Only.pure
    | some packet =>
        apply Only.bind Only.lift
        apply Post.lift
        intro vec _
        cases vec with
        | nil => exact Only.fail
        | cons useName rest =>
            simp only
            split
            · exact Only.pure
            · exact routePacket_only (htrue ▸ hstun)
  · exact Only.pure

theorem step_events (platform : Platform) (getNextLoop : Nat → LoopId) (s : System)
    (input : Input) :
    (step platform getNextLoop s input).trace = [] ∨
    (∃ peerAddr, (step platform getNextLoop s input).Only (HandledEvent peerAddr)) ∨
    ∃ env loop task, s.executes input = some (env, loop, task) ∧
      (step platform getNextLoop s input).Only (TaskEvent env s loop task) := by
  cases input with
  | createWebRTCSession usernameFragment password uninitialised => exact .inl rfl
  | setRTPChannel session channel => exact .inl rfl
  | writeRtpCallback data => exact .inl rfl
  | serverRead env data peerAddr => exact .inr (.inl ⟨peerAddr, handlePacket_only⟩)
  | connectionRead env peer data =>
      simp only [step, System.handleRead]
      split
      · rename_i loop session hread
        exact .inr (.inr ⟨env, loop, _, by rw [System.executes, hread], perform_only⟩)
      · exact .inl rfl
  | pendingFunctor env loop position =>
      simp only [step, System.doPendingFunctor]
      split
      · exact .inl rfl
      · rename_i task pending hnext
        refine .inr (.inr ⟨env, loop, task, by rw [System.executes, hnext]; rfl, ?_⟩)
        apply perform_only.mono
        intro e he
        cases task <;> exact he

end

end EasyWebRtc.Session
