import EasyWebRtc.Rtc.IceAnswer
import EasyWebRtc.Rtc.WebRtcTransport.Invariant

/-!
# The request that opens a transport

Until an authenticated Binding request arrives, DTLS is not started and gets no
bytes. The first such request selects its source as the peer and starts DTLS,
and nothing selects a peer again.
-/

namespace EasyWebRtc.Rtc.WebRtcTransport

open Octets Utils Traced

variable {κ : Type}

/-- The datagram is a Binding request with FINGERPRINT and PRIORITY under the
credentials. -/
def isOpeningRequest (hmac : Crypto.HmacSha1) (usernameFragment password data : Bytes) : Bool :=
  match StunPacket.parse data data.length with
  | .ok (some packet) =>
      packet.klass = .request && packet.method = Method.binding && packet.hasFingerprint &&
        packet.priority ≠ 0 && packet.authenticates hmac usernameFragment password
  | _ => false

def opening (hmac : Crypto.HmacSha1) (usernameFragment password : Bytes) :
    Input κ → Option SockAddrIn
  | .onInputDataPacket _ data remoteAddress =>
      if isOpeningRequest hmac usernameFragment password data then some remoteAddress else none
  | .encryptAndSendRtpPacket _ _ | .setNetworkTransport _ | .setRTPChannel _ => none

/-- The calls of `OnIceServerSelectedTuple` in a trace. Each one sets the remote
address and calls `Run(SERVER)`; nothing else does. -/
def selections (τ : List (WebRtcEvent κ)) : List SockAddrIn :=
  τ.filterMap fun
    | .selectedTuple tuple => some tuple
    | .sendPacket _ _ _ _ | .onRtp _ | .dtls _ => none

def IsPacket : WebRtcEvent κ → Prop
  | .sendPacket _ _ _ _ | .onRtp _ => True
  | .selectedTuple _ | .dtls _ => False

/-- Neither a selection nor the start of DTLS. -/
def StartsNothing : WebRtcEvent κ → Prop
  | .selectedTuple _ | .dtls .connecting => False
  | _ => True

theorem IsPacket.startsNothing {e : WebRtcEvent κ} (h : IsPacket e) : StartsNothing e := by
  cases e with
  | sendPacket kind data remoteAddress transport => trivial
  | onRtp data => trivial
  | selectedTuple tuple => exact h.elim
  | dtls event => exact h.elim

theorem selections_append (τ τ' : List (WebRtcEvent κ)) :
    selections (τ ++ τ') = selections τ ++ selections τ' := List.filterMap_append

theorem selections_eq_nil {τ : List (WebRtcEvent κ)} (h : ∀ e ∈ τ, StartsNothing e) :
    selections τ = [] := by
  refine List.filterMap_eq_nil_iff.mpr fun e he => ?_
  cases e with
  | sendPacket kind data remoteAddress transport => rfl
  | onRtp data => rfl
  | selectedTuple tuple => exact (h _ he).elim
  | dtls event => rfl

/-! ## Single calls -/

theorem sendPacket_eq (w : WebRtcTransport κ) (kind : PacketKind) {v : SrtpSession.View}
    (remoteAddress : SockAddrIn) (h : v.len ≤ v.data.length) :
    w.sendPacket kind v remoteAddress =
      ⟨[.sendPacket kind (v.data.take v.len) remoteAddress w.transport], .ok ()⟩ := by
  have hfits : ¬ (w.transport.isSome ∧ (v.data.take v.len).length < v.len) := by
    rw [List.length_take, Nat.min_eq_left h]
    omega
  unfold sendPacket
  rw [if_neg hfits]
  rfl

theorem run_fresh (ssl : OpenSsl) :
    ({} : DtlsTransport).run ssl .server =
      ⟨[.connecting], .ok (DtlsTransport.onSslInfo
        { state := .connecting, localRole := .server } ssl.handshakeDoneInHandshake)⟩ := rfl

section

variable {hmac : Crypto.HmacSha1} {env : Outcomes} {w : WebRtcTransport κ}

theorem size_serialized (buffer : SerializeBuffer) {response : StunPacket}
    (hsize : response.exactSize ≤ 65532) :
    (response.serialized hmac buffer).size ≤ (response.serialized hmac buffer).data.length := by
  have hlen := StunPacket.message_length hmac response
    (StunPacket.stalePadding_length (StunPacket.exactSize_le_buffer buffer hsize))
  simp only [StunPacket.serialized, List.length_append, hlen]
  omega

theorem onIceEvent_response (buffer : SerializeBuffer) {response : StunPacket}
    (hsize : response.exactSize ≤ 65532) (tuple : SockAddrIn) :
    onIceEvent env w (.sendStunPacket (response.serialized hmac buffer) tuple) =
      ⟨[.sendPacket .stun (response.serialized hmac buffer).datagram tuple w.transport],
        .ok w⟩ := by
  unfold onIceEvent
  simp only
  rw [sendPacket_eq w .stun tuple (size_serialized buffer hsize)]
  rfl

/-- The first selection, before DTLS has started. -/
theorem onIceEvent_selected (hfresh : w.dtlsTransport = {}) (tuple : SockAddrIn) :
    onIceEvent env w (.selectedTuple tuple) =
      ⟨[.selectedTuple tuple, .dtls .connecting], .ok { w with
        remoteSocketAddress := tuple
        dtlsTransport := DtlsTransport.onSslInfo
          { state := .connecting, localRole := .server } env.ssl.handshakeDoneInHandshake }⟩ := by
  unfold onIceEvent
  simp only
  rw [hfresh, run_fresh]
  rfl

/-! ## The STUN branch -/

variable {platform : Platform} (p : ParsedPacket) (remoteAddress : SockAddrIn)

def stunVerdict (platform : Platform) (w : WebRtcTransport κ) (packet : StunPacket) :
    IceServer.Verdict :=
  IceServer.verdict platform.hmac w.iceServer packet

def answers (platform : Platform) (env : Outcomes) (w : WebRtcTransport κ) (packet : StunPacket)
    (remoteAddress : SockAddrIn) : List (WebRtcEvent κ) :=
  ((stunVerdict platform w packet).response w.iceServer packet remoteAddress).toList.map
    fun response => .sendPacket .stun
      (response.serialized platform.hmac env.stunSerializeBuffer).datagram remoteAddress w.transport

theorem inputStun_eq :
    inputStun platform env w p.data remoteAddress = (do
      let w' ← ((stunVerdict platform w p.packet).events platform.hmac env.stunSerializeBuffer
        w.iceServer p.packet remoteAddress).foldlM (onIceEvent env) w
      return { w' with iceServer := (stunVerdict platform w p.packet).server w.iceServer }) := by
  unfold inputStun
  rw [p.parsed, lift_ok_bind]
  simp only
  rw [IceServer.processStunPacket_outcome, handle_ok_bind]
  rfl

theorem inputStun_unselected
    (h : (stunVerdict platform w p.packet).selection w.iceServer remoteAddress = []) :
    inputStun platform env w p.data remoteAddress =
      ⟨answers platform env w p.packet remoteAddress,
        .ok { w with iceServer := (stunVerdict platform w p.packet).server w.iceServer }⟩ := by
  rw [inputStun_eq, IceServer.Verdict.events, h, List.append_nil, answers]
  cases hresponse : (stunVerdict platform w p.packet).response w.iceServer p.packet
      remoteAddress with
  | none => rfl
  | some response =>
      have hsize := IceServer.response_exactSize platform.hmac hresponse
      simp only [Option.toList_some, List.map_cons, List.map_nil, List.foldlM_cons,
        List.foldlM_nil, onIceEvent_response env.stunSerializeBuffer hsize]
      rfl

theorem inputStun_selected (haccepted : (stunVerdict platform w p.packet).accepted = true)
    (hstate : w.iceServer.state ≠ .completed) (hfresh : w.dtlsTransport = {}) :
    inputStun platform env w p.data remoteAddress =
      ⟨answers platform env w p.packet remoteAddress ++
          [.selectedTuple remoteAddress, .dtls .connecting],
        .ok { w with
          iceServer := (stunVerdict platform w p.packet).server w.iceServer
          remoteSocketAddress := remoteAddress
          dtlsTransport := DtlsTransport.onSslInfo
            { state := .connecting, localRole := .server } env.ssl.handshakeDoneInHandshake }⟩ := by
  have hselection : (stunVerdict platform w p.packet).selection w.iceServer remoteAddress =
      [.selectedTuple remoteAddress] := if_pos ⟨haccepted, hstate⟩
  have hanswered : stunVerdict platform w p.packet ≠ .ignored := by
    intro h
    rw [h] at haccepted
    cases haccepted
  obtain ⟨response, hresponse⟩ :=
    IceServer.response_isSome w.iceServer remoteAddress p.packet hanswered
  have hsize := IceServer.response_exactSize platform.hmac hresponse
  rw [inputStun_eq, IceServer.Verdict.events, hselection, answers, hresponse]
  simp only [Option.toList_some, List.map_cons, List.map_nil, List.cons_append, List.nil_append,
    List.foldlM_cons, List.foldlM_nil, onIceEvent_response env.stunSerializeBuffer hsize,
    ok_bind, onIceEvent_selected hfresh]
  rfl

theorem branch_of_parsed : branch p.data = .ok .stun := by
  have hstun : StunPacket.isStun p.data p.data.length = .ok true := by
    rcases StunPacket.parse_cases p.data (StunPacket.length_le_of_parse p.parsed) with
      ⟨_, _, hg, _, _⟩ | ⟨_, hparse⟩
    · exact hg.isStun
    · rw [p.parsed] at hparse
      cases hparse
  unfold branch
  rw [hstun]
  rfl

theorem onInputDataPacket_parsed :
    w.onInputDataPacket platform env p.data remoteAddress =
      inputStun platform env w p.data remoteAddress := by
  rw [onInputDataPacket_eq, branch_of_parsed]
  rfl

end

theorem inputRtp_only {env : Outcomes} {w : WebRtcTransport κ} {data : Bytes}
    {E : WebRtcEvent κ → Prop} (h : ∀ bytes, E (.onRtp bytes)) : (inputRtp env w data).Only E := by
  unfold inputRtp
  split
  · split
    · exact Only.fail
    · exact Only.bind (Only.emit (h _)) (Post.emit Only.pure)
  · exact Only.pure

theorem inputRtp_post {env : Outcomes} {w : WebRtcTransport κ} {data : Bytes} :
    (inputRtp env w data).Post fun _ w' => w' = w := by
  unfold inputRtp
  split
  · split
    · exact Post.fail
    · exact Post.bind (Post.emit (Post.pure rfl))
  · exact Post.pure rfl

/-- A rule for the calls on a datagram: only packets that `Parse` accepts, the
DTLS branch and the RTP branch do anything. -/
theorem onInputDataPacket_rule {platform : Platform} {env : Outcomes} {w : WebRtcTransport κ}
    {data : Bytes} {remoteAddress : SockAddrIn} {P : Call κ (WebRtcTransport κ) → Prop}
    (hfault : ∀ e, P (Traced.fail e)) (hsame : P (Pure.pure w))
    (hstun : ∀ p : ParsedPacket, p.data = data → P (inputStun platform env w p.data remoteAddress))
    (hdtls : P (inputDtls env w data)) (hrtp : P (inputRtp env w data)) :
    P (w.onInputDataPacket platform env data remoteAddress) := by
  rw [onInputDataPacket_eq]
  cases branch data with
  | error e => exact hfault e
  | ok kind =>
      rw [lift_ok_bind]
      cases kind with
      | stun =>
          cases hparse : StunPacket.parse data data.length with
          | error e =>
              simp only [inputStun, hparse]
              exact hfault e
          | ok parsed =>
              cases parsed with
              | none =>
                  simp only [inputStun, hparse]
                  exact hsame
              | some packet => exact hstun ⟨data, packet, hparse⟩ rfl
      | dtls => exact hdtls
      | rtp => exact hrtp
      | rtcp => exact hsame
      | other => exact hsame

theorem onInputDataPacket_post {platform : Platform} {env : Outcomes} {w : WebRtcTransport κ}
    {data : Bytes} {remoteAddress : SockAddrIn} {I : WebRtcTransport κ → Prop} (hsame : I w)
    (hstun : ∀ p : ParsedPacket, p.data = data →
      (inputStun platform env w p.data remoteAddress).Post fun _ w' => I w')
    (hdtls : (inputDtls env w data).Post fun _ w' => I w') :
    (w.onInputDataPacket platform env data remoteAddress).Post fun _ w' => I w' :=
  onInputDataPacket_rule (P := fun t => t.Post fun _ w' => I w') (fun _ => Post.fail)
    (Post.pure hsame) hstun hdtls (inputRtp_post.mono fun _ _ hw' => hw' ▸ hsame)

/-! ## Credentials -/

theorem onDtlsEvent_iceServer {srtp : Libsrtp} {w : WebRtcTransport κ} {iceServer : IceServer}
    (h : w.iceServer = iceServer) (event : DtlsEvent) :
    (onDtlsEvent srtp w event).Post fun _ w' => w'.iceServer = iceServer := by
  apply onDtlsEvent_advances.mono
  intro _ w' hw'
  rw [hw'.frame, ← h]

theorem onInputDataPacket_usernameFragment {platform : Platform} {env : Outcomes}
    {w : WebRtcTransport κ} {data : Bytes} {remoteAddress : SockAddrIn} :
    (w.onInputDataPacket platform env data remoteAddress).Post fun _ w' =>
      w'.iceServer.usernameFragment = w.iceServer.usernameFragment := by
  refine onInputDataPacket_post (I := fun w' =>
    w'.iceServer.usernameFragment = w.iceServer.usernameFragment) rfl ?_ ?_
  · intro p _
    rw [inputStun_eq]
    refine Post.bind ⟨fun w' _ => Post.pure ?_⟩
    exact ((stunVerdict platform w p.packet).server_current w.iceServer).1
  · apply Post.bind
    refine (Post.handle_keeps (I := fun w' => w'.iceServer = w.iceServer) ?_ rfl).mono ?_
    · exact fun w' event hw' => onDtlsEvent_iceServer hw' event
    · intro _ r hr
      exact Post.pure (congrArg IceServer.usernameFragment hr)

/-! ## Opening requests -/

theorem parsed_of_isOpeningRequest {hmac : Crypto.HmacSha1} {usernameFragment password data : Bytes}
    (h : isOpeningRequest hmac usernameFragment password data = true) :
    ∃ packet, StunPacket.parse data data.length = .ok (some packet) := by
  unfold isOpeningRequest at h
  split at h
  · rename_i packet hparse
    exact ⟨packet, hparse⟩
  · cases h

theorem opening_eq_some {hmac : Crypto.HmacSha1} {usernameFragment password : Bytes}
    {input : Input κ} {source : SockAddrIn}
    (h : opening hmac usernameFragment password input = some source) :
    ∃ env p, input = .onInputDataPacket env (ParsedPacket.data p) source ∧
      isOpeningRequest hmac usernameFragment password p.data = true := by
  cases input with
  | encryptAndSendRtpPacket env data => cases h
  | setNetworkTransport transport => cases h
  | setRTPChannel channel => cases h
  | onInputDataPacket env data remoteAddress =>
      simp only [opening] at h
      split at h
      · rename_i hrequest
        cases h
        obtain ⟨packet, hparse⟩ := parsed_of_isOpeningRequest hrequest
        exact ⟨env, ⟨data, packet, hparse⟩, rfl, hrequest⟩
      · cases h

theorem attributes_of_authenticates {hmac : Crypto.HmacSha1} {packet : StunPacket}
    {localUsername localPassword : Bytes}
    (h : packet.authenticates hmac localUsername localPassword = true) :
    packet.messageIntegrity.isSome = true ∧ packet.username ≠ [] := by
  unfold StunPacket.authenticates StunPacket.checkAuthentication at h
  cases hmi : packet.messageIntegrity with
  | none =>
      rw [hmi] at h
      cases hk : packet.klass <;> rw [hk] at h <;> cases h
  | some mi =>
      refine ⟨rfl, ?_⟩
      intro hname
      rw [hmi] at h
      simp only [hname, if_true] at h
      cases hk : packet.klass <;> rw [hk] at h <;> cases h

/-- With no old credentials the server accepts the opening requests. -/
theorem isOpeningRequest_parsed {platform : Platform} {w : WebRtcTransport κ}
    (hold : w.iceServer.oldUsernameFragment = []) (p : ParsedPacket) :
    isOpeningRequest platform.hmac w.iceServer.usernameFragment w.iceServer.password p.data =
      (stunVerdict platform w p.packet).accepted := by
  have hnone : w.iceServer.acceptsOld platform.hmac p.packet = false := by
    simp [IceServer.acceptsOld, hold]
  rw [Bool.eq_iff_iff]
  by_cases hklass : p.packet.klass = .request
  · rw [stunVerdict, IceServer.verdict_accepted_iff platform.hmac w.iceServer hklass,
      IceServer.isComplete_iff, IceServer.accepts, hnone, Bool.or_false]
    simp only [isOpeningRequest, p.parsed, hklass, Bool.and_eq_true, decide_eq_true_eq]
    constructor
    · rintro ⟨⟨⟨⟨_, hmethod⟩, hfingerprint⟩, hpriority⟩, hauth⟩
      obtain ⟨hmi, hname⟩ := attributes_of_authenticates hauth
      exact ⟨⟨hmethod, hfingerprint, hmi, hpriority, hname⟩, hauth⟩
    · rintro ⟨⟨hmethod, hfingerprint, _, hpriority, _⟩, hauth⟩
      exact ⟨⟨⟨⟨trivial, hmethod⟩, hfingerprint⟩, hpriority⟩, hauth⟩
  · have hignored : stunVerdict platform w p.packet = .ignored := if_pos hklass
    rw [hignored]
    simp [isOpeningRequest, p.parsed, hklass, IceServer.Verdict.accepted]

/-! ## Before the opening request -/

/-- The transport as it was built, but for what the setters change. -/
structure Unopened (usernameFragment password : Bytes) (w : WebRtcTransport κ) : Prop where
  iceServer : w.iceServer = { usernameFragment, password }
  dtlsTransport : w.dtlsTransport = {}

section

variable {platform : Platform} {usernameFragment password : Bytes} {w : WebRtcTransport κ}
  {env : Outcomes} {data : Bytes} {remoteAddress : SockAddrIn}

/-- A call that only handles packets and leaves the transport unopened. -/
def StaysUnopened (usernameFragment password : Bytes) (t : Call κ (WebRtcTransport κ)) : Prop :=
  t.Only IsPacket ∧ t.Post fun _ w' => Unopened usernameFragment password w'

theorem StaysUnopened.pure (h : Unopened usernameFragment password w) :
    StaysUnopened usernameFragment password (Pure.pure w : Call κ (WebRtcTransport κ)) :=
  ⟨Only.pure, Post.pure h⟩

theorem answers_isPacket (packet : StunPacket) :
    ∀ e ∈ answers platform env w packet remoteAddress, IsPacket e := by
  intro e he
  obtain ⟨_, _, rfl⟩ := List.mem_map.mp he
  trivial

theorem Unopened.rejects (h : Unopened usernameFragment password w) (p : ParsedPacket)
    (hno : isOpeningRequest platform.hmac usernameFragment password p.data = false) :
    (stunVerdict platform w p.packet).accepted = false := by
  rw [← isOpeningRequest_parsed (by rw [h.iceServer]) p, h.iceServer]
  exact hno

theorem Unopened.inputStun (h : Unopened usernameFragment password w) (p : ParsedPacket)
    (hno : isOpeningRequest platform.hmac usernameFragment password p.data = false) :
    StaysUnopened usernameFragment password (inputStun platform env w p.data remoteAddress) := by
  have hrejected := h.rejects p hno
  have hselection : (stunVerdict platform w p.packet).selection w.iceServer remoteAddress = [] := by
    rw [IceServer.Verdict.selection, hrejected]
    rfl
  have hserver := (IceServer.unchanged_of_not_accepted platform.hmac env.stunSerializeBuffer
    w.iceServer remoteAddress p.packet hrejected).1
  rw [inputStun_unselected p remoteAddress hselection, hserver]
  refine ⟨⟨answers_isPacket p.packet⟩, ⟨?_⟩⟩
  intro w' hw'
  cases hw'
  exact ⟨h.iceServer, h.dtlsTransport⟩

theorem inputDtls_stopped (h : w.dtlsTransport.isRunning = false) :
    inputDtls env w data = Pure.pure w := by
  unfold inputDtls
  rw [DtlsTransport.processDtlsData_stopped data h]
  rfl

theorem Unopened.inputDtls (h : Unopened usernameFragment password w) :
    inputDtls env w data = Pure.pure w := by
  refine inputDtls_stopped ?_
  rw [h.dtlsTransport]
  rfl

theorem Unopened.onInputDataPacket (h : Unopened usernameFragment password w)
    (hno : isOpeningRequest platform.hmac usernameFragment password data = false) :
    StaysUnopened usernameFragment password
      (w.onInputDataPacket platform env data remoteAddress) := by
  refine onInputDataPacket_rule (fun _ => ⟨Only.fail, Post.fail⟩) (StaysUnopened.pure h) ?_ ?_ ?_
  · intro p hp
    rw [← hp] at hno
    exact h.inputStun p hno
  · rw [h.inputDtls]
    exact StaysUnopened.pure h
  · exact ⟨inputRtp_only fun _ => trivial, inputRtp_post.mono fun _ _ hw' => hw' ▸ h⟩

theorem Unopened.step (h : Unopened usernameFragment password w) {input : Input κ}
    (hno : opening platform.hmac usernameFragment password input = none) :
    StaysUnopened usernameFragment password (step platform w input) := by
  cases input with
  | onInputDataPacket env data remoteAddress =>
      refine h.onInputDataPacket ?_
      rw [← Bool.not_eq_true]
      intro hopening
      rw [opening, if_pos hopening] at hno
      cases hno
  | encryptAndSendRtpPacket env data =>
      refine ⟨encryptAndSendRtpPacket_only.mono ?_, encryptAndSendRtpPacket_post.mono ?_⟩
      · rintro e ⟨packet, rfl⟩
        trivial
      · rintro _ w' rfl
        exact h
  | setNetworkTransport transport =>
      exact StaysUnopened.pure ⟨h.iceServer, h.dtlsTransport⟩
  | setRTPChannel channel =>
      exact StaysUnopened.pure ⟨h.iceServer, h.dtlsTransport⟩

/-! ## The opening request and the rest of the run -/

/-- A peer was selected. -/
structure Opened (source : SockAddrIn) (w : WebRtcTransport κ) : Prop where
  completed : w.iceServer.state = .completed
  remoteSocketAddress : w.remoteSocketAddress = source

/-- The opening request selects its source and starts DTLS. -/
theorem Unopened.opens (h : Unopened usernameFragment password w) {input : Input κ}
    {source : SockAddrIn}
    (hopening : opening platform.hmac usernameFragment password input = some source) :
    selections (WebRtcTransport.step platform w input).trace = [source] ∧
      ∃ w', (WebRtcTransport.step platform w input).result = .ok w' ∧ Opened source w' ∧
        w'.dtlsTransport.state = .connecting ∧ w'.dtlsTransport.localRole = .server ∧
        .dtls .connecting ∈ (WebRtcTransport.step platform w input).trace := by
  obtain ⟨env, p, rfl, hrequest⟩ := opening_eq_some hopening
  have haccepted : (stunVerdict platform w p.packet).accepted = true := by
    rw [← isOpeningRequest_parsed (by rw [h.iceServer]) p, h.iceServer]
    exact hrequest
  have hstate : w.iceServer.state ≠ .completed := by
    rw [h.iceServer]
    intro hstate
    cases hstate
  have hcompleted : ((stunVerdict platform w p.packet).server w.iceServer).state = .completed := by
    cases hv : stunVerdict platform w p.packet with
    | current => rfl
    | old => rfl
    | _ =>
        rw [hv] at haccepted
        cases haccepted
  rw [WebRtcTransport.step, onInputDataPacket_parsed,
    inputStun_selected p source haccepted hstate h.dtlsTransport]
  refine ⟨?_, _, rfl, ⟨hcompleted, rfl⟩, by simp, by simp, by simp⟩
  have hanswers : selections (answers platform env w p.packet source) = [] :=
    selections_eq_nil fun e he => (answers_isPacket p.packet e he).startsNothing
  rw [selections_append, hanswers]
  rfl

/-- DTLS was not started again: once stopped it stays as it is, and it never goes
back to CONNECTING. -/
structure NotRestarted (d d' : DtlsTransport) : Prop where
  stopped : d.isRunning = false → d' = d
  connecting : d'.state = .connecting → d.state = .connecting

theorem NotRestarted.refl (d : DtlsTransport) : NotRestarted d d := ⟨fun _ => rfl, id⟩

/-- A call that starts nothing and leaves the transport opened. -/
def StaysOpened (source : SockAddrIn) (d : DtlsTransport) (t : Call κ (WebRtcTransport κ)) : Prop :=
  t.Only StartsNothing ∧ t.Post fun _ w' => Opened source w' ∧ NotRestarted d w'.dtlsTransport

theorem StaysOpened.pure {source : SockAddrIn} (h : Opened source w) :
    StaysOpened source w.dtlsTransport (Pure.pure w : Call κ (WebRtcTransport κ)) :=
  ⟨Only.pure, Post.pure ⟨h, .refl _⟩⟩

theorem Opened.onDtlsEvent {source : SockAddrIn} (h : Opened source w) {srtp : Libsrtp}
    (event : DtlsEvent) : (onDtlsEvent srtp w event).Post fun _ w' => Opened source w' := by
  apply onDtlsEvent_advances.mono
  intro _ w' hw'
  rw [hw'.frame]
  exact ⟨h.completed, h.remoteSocketAddress⟩

theorem inputDtls_startsNothing : (inputDtls env w data).Only StartsNothing := by
  refine Only.bind (handleDtls_only (DtlsTransport.processDtlsData_only.mono ?_))
    ⟨fun _ _ => Only.pure⟩
  intro event hevent
  refine ⟨?_, fun _ _ _ => trivial⟩
  cases event with
  | connecting => exact hevent
  | _ => trivial

theorem Opened.inputDtls {source : SockAddrIn} (h : Opened source w) :
    StaysOpened source w.dtlsTransport (inputDtls env w data) := by
  cases hrunning : w.dtlsTransport.isRunning with
  | false =>
      rw [inputDtls_stopped hrunning]
      exact StaysOpened.pure h
  | true =>
      refine ⟨inputDtls_startsNothing, Post.bind (Post.handle ?_)⟩
      apply DtlsTransport.processDtlsData_post.mono
      intro events d hd
      refine (Post.foldlM (I := fun _ w' => Opened source w')
        (fun _ w' event _ hw' => hw'.onDtlsEvent event) (τ := []) h).mono ?_
      intro _ w' hw'
      refine Post.pure ⟨⟨hw'.completed, hw'.remoteSocketAddress⟩, ?_, hd.connecting⟩
      intro hstopped
      rw [hrunning] at hstopped
      cases hstopped

theorem Opened.selection {source : SockAddrIn} (h : Opened source w) (p : ParsedPacket) :
    (stunVerdict platform w p.packet).selection w.iceServer remoteAddress = [] :=
  if_neg fun hselects => hselects.2 h.completed

theorem Opened.inputStun {source : SockAddrIn} (h : Opened source w) (p : ParsedPacket) :
    StaysOpened source w.dtlsTransport (inputStun platform env w p.data remoteAddress) := by
  have hcompleted : ((stunVerdict platform w p.packet).server w.iceServer).state = .completed := by
    cases stunVerdict platform w p.packet with
    | current => rfl
    | old => rfl
    | _ => exact h.completed
  rw [inputStun_unselected p remoteAddress (h.selection p)]
  refine ⟨⟨fun e he => (answers_isPacket p.packet e he).startsNothing⟩, ⟨?_⟩⟩
  intro w' hw'
  cases hw'
  exact ⟨⟨hcompleted, h.remoteSocketAddress⟩, .refl _⟩

theorem Opened.onInputDataPacket {source : SockAddrIn} (h : Opened source w) :
    StaysOpened source w.dtlsTransport
      (w.onInputDataPacket platform env data remoteAddress) := by
  refine onInputDataPacket_rule (fun _ => ⟨Only.fail, Post.fail⟩) (StaysOpened.pure h)
    (fun p _ => h.inputStun p) h.inputDtls ?_
  refine ⟨inputRtp_only fun _ => trivial, inputRtp_post.mono ?_⟩
  rintro _ w' rfl
  exact ⟨h, .refl _⟩

theorem Opened.step {source : SockAddrIn} (h : Opened source w) (input : Input κ) :
    StaysOpened source w.dtlsTransport (WebRtcTransport.step platform w input) := by
  cases input with
  | onInputDataPacket env data remoteAddress => exact h.onInputDataPacket
  | encryptAndSendRtpPacket env data =>
      refine ⟨encryptAndSendRtpPacket_only.mono ?_, encryptAndSendRtpPacket_post.mono ?_⟩
      · rintro e ⟨packet, rfl⟩
        trivial
      · rintro _ w' rfl
        exact ⟨h, .refl _⟩
  | setNetworkTransport transport =>
      exact ⟨Only.pure, Post.pure ⟨⟨h.completed, h.remoteSocketAddress⟩, .refl _⟩⟩
  | setRTPChannel channel =>
      exact ⟨Only.pure, Post.pure ⟨⟨h.completed, h.remoteSocketAddress⟩, .refl _⟩⟩

end

/-! ## Whole runs -/

/-- DTLS was not started, and OpenSSL has got no bytes. -/
def Untouched (τ : List (WebRtcEvent κ)) (w : WebRtcTransport κ) : Prop :=
  w.dtlsTransport.state = .new ∧ w.dtlsTransport.localRole = .none ∧
    ∀ data, .dtls (.bioWrite data) ∉ τ

/-- The peer and the start of DTLS are settled: the step selects nothing, does
not report CONNECTING, keeps the address and does not restart DTLS. -/
structure Settled (platform : Platform) (source : SockAddrIn) (_τ : List (WebRtcEvent κ))
    (w : WebRtcTransport κ) (input : Input κ) : Prop where
  selections : selections (step platform w input).trace = []
  connecting : .dtls .connecting ∉ (step platform w input).trace
  remoteSocketAddress : w.remoteSocketAddress = source
  kept : (step platform w input).Post fun _ w' => w'.remoteSocketAddress = source
  notRestarted : (step platform w input).Post fun _ w' =>
    NotRestarted w.dtlsTransport w'.dtlsTransport

/-- DTLS is untouched up to the first opening request, which selects its source
and starts DTLS; afterwards the selection is settled. -/
def OpensOnce (platform : Platform) (usernameFragment password : Bytes) :
    List (WebRtcEvent κ) → WebRtcTransport κ → List (Input κ) → Prop
  | τ, w, [] => Untouched τ w
  | τ, w, input :: inputs =>
      Untouched τ w ∧
        match opening platform.hmac usernameFragment password input with
        | some source =>
            selections (step platform w input).trace = [source] ∧
              ∃ w', (step platform w input).result = .ok w' ∧ w'.remoteSocketAddress = source ∧
                w'.dtlsTransport.state = .connecting ∧ w'.dtlsTransport.localRole = .server ∧
                .dtls .connecting ∈ (step platform w input).trace ∧
                Along (step platform) (Settled platform source)
                  (τ ++ (step platform w input).trace) w' inputs
        | none =>
            selections (step platform w input).trace = [] ∧
              .dtls .connecting ∉ (step platform w input).trace ∧
              (∀ data, .dtls (.bioWrite data) ∉ (step platform w input).trace) ∧
              match (step platform w input).result with
              | .ok w' =>
                  OpensOnce platform usernameFragment password
                    (τ ++ (step platform w input).trace) w' inputs
              | .error _ => True

theorem Opened.settled {platform : Platform} {source : SockAddrIn} {w : WebRtcTransport κ}
    (h : Opened source w) (τ : List (WebRtcEvent κ)) (inputs : List (Input κ)) :
    Along (WebRtcTransport.step platform) (Settled platform source) τ w inputs := by
  refine Along.of_inv (I := fun _ w => Opened source w) ?_ ?_ h
  · intro _ w input hw
    exact (hw.step input).2.mono fun _ _ hw' => hw'.1
  · intro _ w input _ hw
    have hstep : StaysOpened source w.dtlsTransport (WebRtcTransport.step platform w input) :=
      hw.step input
    obtain ⟨honly, hpost⟩ := hstep
    exact
      { selections := selections_eq_nil honly.out
        connecting := fun hmem => honly.out _ hmem
        remoteSocketAddress := hw.remoteSocketAddress
        kept := hpost.mono fun _ _ hw' => hw'.1.remoteSocketAddress
        notRestarted := hpost.mono fun _ _ hw' => hw'.2 }

theorem Unopened.untouched {usernameFragment password : Bytes} {w : WebRtcTransport κ}
    {τ : List (WebRtcEvent κ)} (h : Unopened usernameFragment password w)
    (hτ : ∀ e ∈ τ, IsPacket e) : Untouched τ w := by
  refine ⟨?_, ?_, ?_⟩
  · rw [h.dtlsTransport]
  · rw [h.dtlsTransport]
  · exact fun data hmem => hτ _ hmem

theorem Unopened.opensOnce {platform : Platform} {usernameFragment password : Bytes}
    {w : WebRtcTransport κ} {τ : List (WebRtcEvent κ)} (h : Unopened usernameFragment password w)
    (hτ : ∀ e ∈ τ, IsPacket e) (inputs : List (Input κ)) :
    OpensOnce platform usernameFragment password τ w inputs := by
  induction inputs generalizing τ w with
  | nil => exact h.untouched hτ
  | cons input inputs ih =>
      refine ⟨h.untouched hτ, ?_⟩
      cases hopening : opening platform.hmac usernameFragment password input with
      | some source =>
          obtain ⟨hselected, w', hw', hopened, hstate, hrole, hconnecting⟩ := h.opens hopening
          exact ⟨hselected, w', hw', hopened.remoteSocketAddress, hstate, hrole, hconnecting,
            hopened.settled _ inputs⟩
      | none =>
          obtain ⟨honly, hpost⟩ := h.step hopening
          refine ⟨selections_eq_nil fun e he => (honly.out e he).startsNothing,
            fun hmem => honly.out _ hmem, fun data hmem => honly.out _ hmem, ?_⟩
          cases hr : (WebRtcTransport.step platform w input).result with
          | error e => trivial
          | ok w' =>
              refine ih (hpost.out w' hr) ?_
              intro e he
              rcases List.mem_append.mp he with he | he
              · exact hτ e he
              · exact honly.out e he

/-- Nothing starts before an authenticated request, and the peer is chosen once:
over every run of a fresh transport. -/
theorem opens_once (platform : Platform) (usernameFragment password : Bytes)
    (uninitialised : SockAddrIn) (inputs : List (Input κ)) :
    OpensOnce platform usernameFragment password []
      (create usernameFragment password uninitialised) inputs := by
  have hfresh : Unopened usernameFragment password
      (create usernameFragment password uninitialised : WebRtcTransport κ) := ⟨rfl, rfl⟩
  refine hfresh.opensOnce ?_ inputs
  intro e he
  cases he

end EasyWebRtc.Rtc.WebRtcTransport
