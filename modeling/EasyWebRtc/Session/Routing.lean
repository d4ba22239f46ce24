import EasyWebRtc.Rtc.WebRtcTransport.Emission
import EasyWebRtc.Session.WebRtcSession

/-!
# Where the packets of a session go

`HandlePacket` sets the network transport and the loop of a session, and nothing
else does. Over any run they belong to the connection of the address that
`HandlePacket` saw last for the session. A step that is not `HandlePacket` makes
at most one call of a transport; its packets go to that connection.
-/

namespace EasyWebRtc.Session

open Octets Utils Rtc Net Traced

/-- The address of the last `SetNetworkTransport` on a session. -/
def lastRouted (τ : List SessionEvent) (session : SessionId) : Option SockAddrIn :=
  τ.foldl (fun route event =>
    match event with
    | .routed session' peer => if session' = session then some peer else route
    | _ => route) none

def NotRouted : SessionEvent → Prop
  | .routed _ _ => False
  | _ => True

theorem lastRouted_concat (τ : List SessionEvent) (event : SessionEvent) (session : SessionId) :
    lastRouted (τ ++ [event]) session =
      match event with
      | .routed session' peer => if session' = session then some peer else lastRouted τ session
      | _ => lastRouted τ session := by
  rw [lastRouted, List.foldl_append]
  rfl

theorem lastRouted_append {τ events : List SessionEvent} (h : ∀ e ∈ events, NotRouted e)
    (session : SessionId) : lastRouted (τ ++ events) session = lastRouted τ session := by
  induction events using List.reverseRecOn with
  | nil => rw [List.append_nil]
  | append_singleton events event ih =>
      rw [← List.append_assoc, lastRouted_concat]
      split
      · exact (h _ (List.mem_append_right _ List.mem_cons_self)).elim
      · exact ih fun e he => h e (List.mem_append_left _ he)

/-! ## The invariant -/

/-- A session's transport and loop, for the address it was last routed to. -/
def Follows (server : UdpServer SessionId) (rtcSession : WebRTCSession) : Option SockAddrIn → Prop
  | none => rtcSession.webrtcTransport.transport = none ∧ rtcSession.loop = none
  | some peer => rtcSession.webrtcTransport.transport = some ⟨peer⟩ ∧
      ∃ loop, server.loopOf peer = some loop ∧ rtcSession.loop = some loop

structure Inv (τ : List SessionEvent) (s : System) : Prop where
  follows : ∀ (session : SessionId) rtcSession, s.sessions[session]? = some rtcSession →
    Follows s.server rtcSession (lastRouted τ session)
  fresh : ∀ session, s.sessions.length ≤ session → lastRouted τ session = none
  registered : ∀ entry ∈ s.rtcSessions, entry.2 < s.sessions.length

theorem Inv.init : Inv [] {} where
  follows := by simp
  fresh := fun _ _ => rfl
  registered := nofun

theorem Inv.route {τ : List SessionEvent} {s : System} (h : Inv τ s) {session : SessionId}
    {rtcSession : WebRTCSession} (hs : s.sessions[session]? = some rtcSession) {peer : SockAddrIn}
    (hp : rtcSession.webrtcTransport.transport = some ⟨peer⟩) :
    lastRouted τ session = some peer ∧ s.server.loopOf peer = rtcSession.loop := by
  have hfollows := h.follows session rtcSession hs
  cases hroute : lastRouted τ session with
  | none =>
      rw [hroute] at hfollows
      rw [hfollows.1] at hp
      cases hp
  | some peer' =>
      rw [hroute] at hfollows
      obtain ⟨htransport, loop, hof, hloop⟩ := hfollows
      rw [htransport] at hp
      cases hp
      exact ⟨rfl, hof.trans hloop.symm⟩

theorem Follows.extend {server server' : UdpServer SessionId} {rtcSession : WebRTCSession}
    {route : Option SockAddrIn} (h : Follows server rtcSession route)
    (hext : ∀ peer loop, server.loopOf peer = some loop → server'.loopOf peer = some loop) :
    Follows server' rtcSession route := by
  cases route with
  | none => exact h
  | some peer =>
      obtain ⟨htransport, loop, hof, hloop⟩ := h
      exact ⟨htransport, loop, hext peer loop hof, hloop⟩

/-- A change of the system that routes nothing: connections stay, and sessions
keep transport and loop. -/
structure Keeps (s s' : System) : Prop where
  server : ∀ peer loop, s.server.loopOf peer = some loop → s'.server.loopOf peer = some loop
  length : s'.sessions.length = s.sessions.length
  sessions : ∀ (session : SessionId) rtcSession', s'.sessions[session]? = some rtcSession' →
    ∃ rtcSession, s.sessions[session]? = some rtcSession ∧
      rtcSession'.webrtcTransport.transport = rtcSession.webrtcTransport.transport ∧
      rtcSession'.loop = rtcSession.loop
  registry : s'.rtcSessions = s.rtcSessions

theorem Keeps.of_sessions {s s' : System} (hsessions : s'.sessions = s.sessions)
    (hregistry : s'.rtcSessions = s.rtcSessions)
    (hserver : ∀ peer loop, s.server.loopOf peer = some loop →
      s'.server.loopOf peer = some loop) : Keeps s s' := by
  refine ⟨hserver, by rw [hsessions], ?_, hregistry⟩
  intro session rtcSession hs
  exact ⟨rtcSession, hsessions ▸ hs, rfl, rfl⟩

theorem Keeps.modifySession (s : System) (session : SessionId) {f : WebRTCSession → WebRTCSession}
    (hf : ∀ rtcSession, s.sessions[session]? = some rtcSession →
      (f rtcSession).webrtcTransport.transport = rtcSession.webrtcTransport.transport ∧
        (f rtcSession).loop = rtcSession.loop) : Keeps s (s.modifySession session f) := by
  refine ⟨fun _ _ h => h, List.length_modify .., ?_, rfl⟩
  intro other rtcSession' hs'
  rw [System.modifySession, List.getElem?_modify] at hs'
  obtain ⟨rtcSession, hs, heq⟩ := Option.map_eq_some_iff.mp hs'
  refine ⟨rtcSession, hs, ?_⟩
  subst heq
  split
  · rename_i hother
    subst hother
    exact hf rtcSession hs
  · exact ⟨rfl, rfl⟩

theorem Inv.keep {τ events : List SessionEvent} {s s' : System} (h : Inv τ s) (hkeeps : Keeps s s')
    (hevents : ∀ e ∈ events, NotRouted e) : Inv (τ ++ events) s' := by
  constructor
  · intro session rtcSession' hs'
    obtain ⟨rtcSession, hs, htransport, hloop⟩ := hkeeps.sessions session rtcSession' hs'
    rw [lastRouted_append hevents]
    have hfollows := (h.follows session rtcSession hs).extend hkeeps.server
    cases hroute : lastRouted τ session with
    | none =>
        rw [hroute] at hfollows
        exact ⟨htransport.trans hfollows.1, hloop.trans hfollows.2⟩
    | some peer =>
        rw [hroute] at hfollows
        obtain ⟨ht, loop, hof, hl⟩ := hfollows
        exact ⟨htransport.trans ht, loop, hof, hloop.trans hl⟩
  · intro session hlen
    rw [lastRouted_append hevents]
    exact h.fresh session (hkeeps.length ▸ hlen)
  · rw [hkeeps.registry, hkeeps.length]
    exact h.registered

/-! ## Calls of a transport -/

/-- A packet of a transport's call by a step of `loop`, where `E` holds of the
transport's events. -/
def SentBy (s : System) (loop : LoopId) (session : SessionId)
    (E : WebRtcEvent NetworkTransport → Prop) : SessionEvent → Prop
  | .sent session' kind data peer connectionLoop loop' =>
      session' = session ∧ loop' = loop ∧ s.server.loopOf peer = some connectionLoop ∧
      ∃ remoteAddress, E (.sendPacket kind data remoteAddress (some ⟨peer⟩))
  | _ => False

section Calls

variable {s : System} {loop : LoopId} {session : SessionId}

theorem onTransportEvent_post {event : WebRtcEvent NetworkTransport} :
    (System.onTransportEvent loop session s event).Post fun _ s' => s' = s := by
  cases event with
  | sendPacket kind data remoteAddress transport =>
      cases transport with
      | none => exact Post.pure rfl
      | some transport =>
          apply Post.bind
          exact ⟨fun _ _ => Post.pure rfl⟩
  | onRtp data => exact Post.pure rfl
  | selectedTuple tuple => exact Post.pure rfl
  | dtls event => exact Post.pure rfl

theorem onTransportEvent_only {event : WebRtcEvent NetworkTransport}
    {E : WebRtcEvent NetworkTransport → Prop} (h : E event) :
    (System.onTransportEvent loop session s event).Only (SentBy s loop session E) := by
  cases event with
  | sendPacket kind data remoteAddress transport =>
      cases transport with
      | none => exact Only.pure
      | some transport =>
          apply Only.bind
          · unfold System.send
            split
            · exact Only.fail
            · rename_i connectionLoop hloop
              apply Only.bind
              · exact Only.emit ⟨rfl, rfl, hloop, remoteAddress, h⟩
              · apply Post.emit
                split
                · exact Only.pure
                · exact Only.fail
          · exact ⟨fun _ _ => Only.pure⟩
  | onRtp data => exact Only.pure
  | selectedTuple tuple => exact Only.pure
  | dtls event => exact Only.pure

variable {call : WebRtcTransport NetworkTransport →
  WebRtcTransport.Call NetworkTransport (WebRtcTransport NetworkTransport)}

theorem callTransport_post {Q : WebRtcTransport NetworkTransport →
      WebRtcTransport NetworkTransport → Prop}
    (hcall : ∀ w, (call w).Post fun _ w' => Q w w') :
    (s.callTransport loop session call).Post fun _ s' =>
      ∃ rtcSession w', s.sessions[session]? = some rtcSession ∧ Q rtcSession.webrtcTransport w' ∧
        s' = s.modifySession session fun rtcSession =>
          { rtcSession with webrtcTransport := w' } := by
  unfold System.callTransport
  split
  · exact Post.fail
  · rename_i rtcSession hs
    apply Post.bind
    apply Post.handle
    apply (hcall _).mono
    intro events w' hw'
    have hfold : (events.foldlM (System.onTransportEvent loop session) s).Post
        fun _ s' => s' = s := by
      refine Post.foldlM (I := fun _ s' => s' = s) (τ := []) ?_ rfl
      intro _ s' event _ hs'
      subst hs'
      exact onTransportEvent_post
    apply hfold.mono
    intro _ s' hs'
    subst hs'
    exact Post.pure ⟨rtcSession, w', hs, hw', rfl⟩

theorem callTransport_keeps (hcall : ∀ w, (call w).Post fun _ w' => w'.transport = w.transport) :
    (s.callTransport loop session call).Post fun _ s' => Keeps s s' := by
  refine (callTransport_post (Q := fun w w' => w'.transport = w.transport) hcall).mono ?_
  rintro _ s' ⟨rtcSession, w', hs, hw', rfl⟩
  refine Keeps.modifySession s session ?_
  intro rtcSession' hs'
  cases hs.symm.trans hs'
  exact ⟨hw', rfl⟩

theorem callTransport_only {E : WebRTCSession → WebRtcEvent NetworkTransport → Prop}
    (hcall : ∀ rtcSession, s.sessions[session]? = some rtcSession →
      (call rtcSession.webrtcTransport).Only (E rtcSession)) :
    (s.callTransport loop session call).Only fun e =>
      ∃ rtcSession, s.sessions[session]? = some rtcSession ∧
        SentBy s loop session (E rtcSession) e := by
  unfold System.callTransport
  split
  · exact Only.fail
  · rename_i rtcSession hs
    apply Only.bind
    · apply Only.handle
      refine (Only.foldlM (I := fun s' => s' = s) ?_ ?_ rfl).mono
        fun e he => ⟨rtcSession, hs, he⟩
      · intro s' event hevent hs'
        subst hs'
        exact onTransportEvent_only ((hcall rtcSession hs).out event hevent)
      · intro s' event _ hs'
        subst hs'
        exact onTransportEvent_post
    · exact ⟨fun _ _ => Only.pure⟩

end Calls

/-! ## Closures -/

/-- An event of a closure run by `loop`. -/
def TaskEvent (env : Outcomes) (s : System) (loop : LoopId) : Task → SessionEvent → Prop
  | .enableReading _, _ => False
  | .onInputDataPacket session data remoteAddress, e =>
      e = .received session data remoteAddress ∨
      ∃ rtcSession, s.sessions[session]? = some rtcSession ∧ SentBy s loop session
        (WebRtcTransport.Emitted env rtcSession.webrtcTransport data remoteAddress) e
  | .encryptAndSendRtpPacket session _, e =>
      ∃ rtcSession, s.sessions[session]? = some rtcSession ∧
        SentBy s loop session (WebRtcTransport.SendsMedia rtcSession.webrtcTransport) e

theorem TaskEvent.notRouted {env : Outcomes} {s : System} {loop : LoopId} {task : Task}
    {e : SessionEvent} (h : TaskEvent env s loop task e) : NotRouted e := by
  cases e with
  | routed session peer =>
      cases task with
      | enableReading _ => exact h
      | onInputDataPacket session' data remoteAddress =>
          rcases h with h | ⟨_, _, h⟩
          · cases h
          · exact h
      | encryptAndSendRtpPacket session' data =>
          obtain ⟨_, _, h⟩ := h
          exact h
  | received session data remoteAddress => trivial
  | sent session kind data peer connectionLoop loop => trivial

section Steps

variable {platform : Platform} {getNextLoop : Nat → LoopId} {env : Outcomes} {s : System}

theorem perform_keeps {loop : LoopId} {task : Task} :
    (s.perform platform env loop task).Post fun _ s' => Keeps s s' := by
  cases task with
  | enableReading peer =>
      apply Post.pure
      apply Keeps.of_sessions
      · rfl
      · rfl
      · intro other loop hloop
        simpa using hloop
  | onInputDataPacket session data remoteAddress =>
      apply Post.bind
      apply Post.emit
      exact callTransport_keeps fun w => WebRtcTransport.onInputDataPacket_transport
  | encryptAndSendRtpPacket session data =>
      rw [System.perform]
      apply callTransport_keeps
      intro w
      apply WebRtcTransport.encryptAndSendRtpPacket_post.mono
      intro _ w' hw'
      rw [hw']

theorem perform_only {loop : LoopId} {task : Task} :
    (s.perform platform env loop task).Only (TaskEvent env s loop task) := by
  cases task with
  | enableReading peer => exact Only.pure
  | onInputDataPacket session data remoteAddress =>
      apply Only.bind
      · exact Only.emit (.inl rfl)
      · apply Post.emit
        refine (callTransport_only fun rtcSession _ =>
          WebRtcTransport.onInputDataPacket_emitted).mono ?_
        exact fun e he => .inr he
  | encryptAndSendRtpPacket session data =>
      rw [System.perform]
      exact callTransport_only fun rtcSession _ => WebRtcTransport.encryptAndSendRtpPacket_only

theorem Inv.perform {τ : List SessionEvent} (h : Inv τ s) (loop : LoopId) (task : Task) :
    (s.perform platform env loop task).Post fun τ' s' => Inv (τ ++ τ') s' := by
  apply (perform_keeps.with_only perform_only).mono
  intro τ' s' hs'
  exact h.keep hs'.1 fun e he => (hs'.2 e he).notRouted

theorem Inv.runInLoop {τ : List SessionEvent} (h : Inv τ s) (current loop : LoopId) (task : Task) :
    (s.runInLoop platform env current loop task).Post fun τ' s' => Inv (τ ++ τ') s' := by
  unfold System.runInLoop
  split
  · exact h.perform current task
  · exact Post.pure (h.keep (Keeps.of_sessions rfl rfl fun _ _ hloop => hloop) nofun)

theorem setNetworkTransport_post {session : SessionId} {peer : SockAddrIn}
    {connection : UdpConnection SessionId} :
    (s.setNetworkTransport platform env session peer connection).Post fun τ' s' =>
      τ' = [.routed session peer] ∧
      s'.sessions = s.sessions.modify session (fun rtcSession =>
        { rtcSession with
          webrtcTransport := rtcSession.webrtcTransport.setNetworkTransport ⟨peer⟩
          loop := some connection.loop
          isReady := true }) ∧
      s'.rtcSessions = s.rtcSessions ∧
      ∀ other, s'.server.loopOf other = s.server.loopOf other := by
  apply Post.bind
  apply Post.emit
  apply Post.bind
  unfold System.runInLoop
  split
  · apply Post.pure
    apply Post.pure
    refine ⟨rfl, ?_, rfl, ?_⟩
    · simp [System.modifySession, List.modify_modify_eq, Function.comp_def]
    · intro other
      simp [System.modifySession]
  · apply Post.pure
    apply Post.pure
    refine ⟨rfl, ?_, rfl, ?_⟩
    · simp [System.modifySession, System.queueInLoop, List.modify_modify_eq, Function.comp_def]
    · intro other
      simp [System.modifySession, System.queueInLoop]

theorem Inv.setNetworkTransport {τ : List SessionEvent} (h : Inv τ s) {session : SessionId}
    {peer : SockAddrIn} {connection : UdpConnection SessionId}
    (hsession : session < s.sessions.length)
    (hloop : s.server.loopOf peer = some connection.loop) :
    (s.setNetworkTransport platform env session peer connection).Post fun τ' s' =>
      Inv (τ ++ τ') s' := by
  apply setNetworkTransport_post.mono
  intro τ' s' hs'
  obtain ⟨rfl, hsessions, hregistry, hserver⟩ := hs'
  constructor
  · intro other rtcSession' hother
    rw [hsessions, List.getElem?_modify] at hother
    obtain ⟨rtcSession, hs, heq⟩ := Option.map_eq_some_iff.mp hother
    subst heq
    rw [lastRouted_concat]
    by_cases hsame : session = other
    · subst hsame
      simp only [if_true]
      exact ⟨rfl, connection.loop, by rw [hserver, hloop], rfl⟩
    · simp only [if_neg hsame]
      exact (h.follows other rtcSession hs).extend fun peer loop hof => by rw [hserver, hof]
  · intro other hlen
    rw [hsessions, List.length_modify] at hlen
    rw [lastRouted_concat]
    simp only [if_neg (Nat.ne_of_lt (Nat.lt_of_lt_of_le hsession hlen))]
    exact h.fresh other hlen
  · rw [hregistry, hsessions, List.length_modify]
    exact h.registered

theorem Inv.keep_nil {τ : List SessionEvent} {s' : System} (h : Inv τ s) (hkeeps : Keeps s s') :
    Inv τ s' := by
  have hkeep : Inv (τ ++ []) s' := h.keep hkeeps nofun
  rwa [List.append_nil] at hkeep

theorem Inv.routePacket {τ : List SessionEvent} (h : Inv τ s) {session : SessionId}
    (hsession : session < s.sessions.length) (data : Bytes) (peerAddr : SockAddrIn) :
    (s.routePacket platform getNextLoop env session data peerAddr).Post fun τ' s' =>
      Inv (τ ++ τ') s' := by
  have hcreated : Inv τ { s with
      server := (s.server.getOrCreatConnection getNextLoop peerAddr).1 } :=
    h.keep_nil (Keeps.of_sessions rfl rfl fun _ _ => UdpServer.getOrCreatConnection_loopOf)
  apply Post.bind
  apply (hcreated.setNetworkTransport hsession UdpServer.getOrCreatConnection_loop).mono
  intro τ' s' hs'
  apply (hs'.runInLoop _ _ _).mono
  intro τ'' s'' hs''
  rwa [← List.append_assoc]

theorem getWebRTCSession_mem {key : Bytes} {session : SessionId}
    (h : s.getWebRTCSession key = some session) : ∃ entry ∈ s.rtcSessions, entry.2 = session := by
  obtain ⟨entry, hfind, heq⟩ := Option.map_eq_some_iff.mp h
  exact ⟨entry, List.mem_of_find?_eq_some hfind, heq⟩

theorem Inv.handlePacket {τ : List SessionEvent} (h : Inv τ s) (data : Bytes)
    (peerAddr : SockAddrIn) :
    (s.handlePacket platform getNextLoop env data peerAddr).Post fun τ' s' => Inv (τ ++ τ') s' := by
  have hsame : Inv (τ ++ []) s := by
    rw [List.append_nil]
    exact h
  apply Post.bind
  apply Post.lift
  intro isStun _
  split
  · apply Post.bind
    apply Post.lift
    intro parsed _
    cases parsed with
    | none => exact Post.pure hsame
    | some packet =>
        apply Post.bind
        apply Post.lift
        intro vec _
        cases vec with
        | nil => exact Post.fail
        | cons useName rest =>
            simp only
            split
            · exact Post.pure hsame
            · rename_i session hsession
              obtain ⟨entry, hentry, rfl⟩ := getWebRTCSession_mem hsession
              exact h.routePacket (h.registered entry hentry) data peerAddr
  · exact Post.pure hsame

theorem Inv.handleRead {τ : List SessionEvent} (h : Inv τ s) (peer : SockAddrIn) (data : Bytes) :
    (s.handleRead platform env peer data).Post fun τ' s' => Inv (τ ++ τ') s' := by
  unfold System.handleRead
  split
  · exact h.perform _ _
  · exact Post.pure (by simpa using h)

theorem Inv.doPendingFunctor {τ : List SessionEvent} (h : Inv τ s) (loop : LoopId)
    (position : Nat) :
    (s.doPendingFunctor platform env loop position).Post fun τ' s' => Inv (τ ++ τ') s' := by
  unfold System.doPendingFunctor
  split
  · exact Post.pure (by simpa using h)
  · rename_i task pending _
    have hrest : Inv τ { s with pending } :=
      h.keep_nil (Keeps.of_sessions rfl rfl fun _ _ hloop => hloop)
    exact hrest.perform loop task

theorem Inv.writeRtpCallback {τ : List SessionEvent} (h : Inv τ s) (data : Bytes) :
    Inv τ (s.writeRtpCallback data) := by
  unfold System.writeRtpCallback
  generalize s.getAllReadyWebRTCSession = ready
  induction ready generalizing s with
  | nil => exact h
  | cons session ready ih =>
      rw [List.foldl_cons]
      apply ih
      split
      · exact h.keep_nil (Keeps.of_sessions rfl rfl fun _ _ hloop => hloop)
      · exact h

theorem mem_insertSession {key : Bytes} {session : SessionId} {entries : List (Bytes × SessionId)}
    {entry : Bytes × SessionId} (h : entry ∈ insertSession key session entries) :
    entry = (key, session) ∨ entry ∈ entries := by
  induction entries with
  | nil => exact .inl (List.mem_singleton.mp h)
  | cons first entries ih =>
      unfold insertSession at h
      split at h
      · exact .inr h
      · split at h
        · exact List.mem_cons.mp h
        · rcases List.mem_cons.mp h with h | h
          · exact .inr (h ▸ List.mem_cons_self)
          · exact (ih h).imp id (List.mem_cons_of_mem first)

theorem Inv.createWebRTCSession {τ : List SessionEvent} (h : Inv τ s)
    {webrtcTransport : WebRtcTransport NetworkTransport}
    (hnew : webrtcTransport.transport = none) : Inv τ (s.createWebRTCSession webrtcTransport) := by
  constructor
  · intro session rtcSession hs
    rcases Nat.lt_or_ge session s.sessions.length with hlt | hge
    · have hold : s.sessions[session]? = some rtcSession := by
        rwa [System.createWebRTCSession, List.getElem?_append_left hlt] at hs
      exact h.follows session rtcSession hold
    · rw [h.fresh session hge]
      rw [System.createWebRTCSession, List.getElem?_append_right hge,
        List.getElem?_singleton] at hs
      split at hs
      · cases hs
        exact ⟨hnew, rfl⟩
      · cases hs
  · intro session hlen
    apply h.fresh session
    rw [System.createWebRTCSession, List.length_append] at hlen
    exact Nat.le_trans (Nat.le_add_right _ _) hlen
  · intro entry hentry
    rw [System.createWebRTCSession, List.length_append]
    rcases mem_insertSession hentry with rfl | hentry
    · exact Nat.lt_succ_self _
    · exact Nat.lt_succ_of_lt (h.registered entry hentry)

theorem Inv.step {τ : List SessionEvent} (input : Input) (h : Inv τ s) :
    (step platform getNextLoop s input).Post fun τ' s' => Inv (τ ++ τ') s' := by
  cases input with
  | createWebRTCSession usernameFragment password uninitialised =>
      refine Post.pure ?_
      rw [List.append_nil]
      exact h.createWebRTCSession rfl
  | setRTPChannel session channel =>
      refine Post.pure ?_
      rw [List.append_nil]
      exact h.keep_nil (Keeps.modifySession s session fun _ _ => ⟨rfl, rfl⟩)
  | serverRead env data peerAddr => exact h.handlePacket _ peerAddr
  | connectionRead env peer data => exact h.handleRead peer data
  | pendingFunctor env loop position => exact h.doPendingFunctor loop position
  | writeRtpCallback data =>
      refine Post.pure ?_
      rw [List.append_nil]
      exact h.writeRtpCallback data

end Steps

end EasyWebRtc.Session
