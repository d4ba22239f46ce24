import EasyWebRtc.Rtc.IceCredentials
import EasyWebRtc.Rtc.WebRtcTransport.Opening

/-!
# The requests of a client that knows the credentials

Such a client builds a Binding request and encodes it with `Serialize`. In every
state of a transport with these credentials `OnInputDataPacket` accepts the bytes,
answers them with a response that the client can verify, and leaves ICE completed.
-/

namespace EasyWebRtc.Rtc

open Octets Utils Tlv Traced

/-! ## The request -/

/-- A Binding request under a username fragment and a password. -/
structure BindingRequest (usernameFragment password : Bytes) where
  packet : StunPacket
  klass : packet.klass = .request
  method : packet.method = Method.binding
  username : (usernameFragment ++ [0x3A]) <+: packet.username
  priority : packet.priority ≠ 0
  signed : packet.password = password
  size : packet.exactSize ≤ 65532

namespace BindingRequest

variable {usernameFragment password : Bytes} (r : BindingRequest usernameFragment password)
  (hmac : Crypto.HmacSha1) (buffer : SerializeBuffer)

def datagram : Bytes := (r.packet.serialized hmac buffer).datagram

def received : StunPacket := r.packet.received hmac (r.packet.stalePadding buffer.bytes)

theorem username_ne_nil : r.packet.username ≠ [] := by
  intro hnil
  have hlen := r.username.length_le
  rw [hnil] at hlen
  simp at hlen

theorem padding_length :
    (r.packet.stalePadding buffer.bytes).length = padLen 4 r.packet.username.length :=
  StunPacket.stalePadding_length (StunPacket.exactSize_le_buffer buffer r.size)

theorem datagram_eq :
    r.datagram hmac buffer = r.packet.message hmac (r.packet.stalePadding buffer.bytes) :=
  StunPacket.datagram_serialized hmac buffer r.size

theorem datagram_length : (r.datagram hmac buffer).length = r.packet.exactSize := by
  rw [datagram_eq]
  exact StunPacket.message_length hmac r.packet (r.padding_length buffer)

theorem parse_datagram : StunPacket.parse (r.datagram hmac buffer) (r.datagram hmac buffer).length =
    .ok (some (r.received hmac buffer)) := by
  rw [datagram_length, datagram_eq]
  refine StunPacket.parse_message hmac r.size (r.padding_length buffer)
    (StunPacket.typeField_binding (.inl r.klass) r.method) ?_
  intro herror
  exact absurd herror (StunPacket.klass_ne_errorResponse (.inl r.klass))

def parsed : ParsedPacket :=
  ⟨r.datagram hmac buffer, r.received hmac buffer, r.parse_datagram hmac buffer⟩

theorem received_authenticates (hpassword : password ≠ []) :
    (r.received hmac buffer).authenticates hmac usernameFragment password = true := by
  obtain ⟨mi, -, -, hcheck⟩ := StunPacket.checkAuthentication_received hmac (.inl r.klass) r.method
    r.username_ne_nil (r.signed.symm ▸ hpassword) r.size (r.padding_length buffer) usernameFragment
    password
  rw [StunPacket.authenticates, received, hcheck, if_pos ⟨r.username, by rw [r.signed]⟩]

theorem opens (hpassword : password ≠ []) :
    WebRtcTransport.isOpeningRequest hmac usernameFragment password (r.datagram hmac buffer) =
      true := by
  have hmethod : (r.received hmac buffer).method = Method.binding := by
    show r.packet.method &&& 0x0FFF = Method.binding
    rw [r.method]
    rfl
  have hklass : (r.received hmac buffer).klass = .request := r.klass
  have hpriority : (r.received hmac buffer).priority ≠ 0 := r.priority
  have hfingerprint : (r.received hmac buffer).hasFingerprint = true := rfl
  simp only [WebRtcTransport.isOpeningRequest, r.parse_datagram hmac buffer, hklass, hmethod,
    hfingerprint, decide_true, Bool.and_true, hpriority, ne_eq, not_false_eq_true,
    r.received_authenticates hmac buffer hpassword]

end BindingRequest

namespace WebRtcTransport

variable {κ : Type} {platform : Platform} {usernameFragment password : Bytes}
  {w : WebRtcTransport κ} {env : Outcomes}

/-! ## The states of a transport -/

/-- The transport has the given credentials and no old ones, and was not opened or
has completed ICE. -/
structure Admits (usernameFragment password : Bytes) (w : WebRtcTransport κ) : Prop where
  credentials : ∃ state, w.iceServer = { usernameFragment, password, state }
  phase : Unopened usernameFragment password w ∨ w.iceServer.state = .completed

theorem Admits.create (usernameFragment password : Bytes) (uninitialised : SockAddrIn) :
    Admits usernameFragment password
      (create usernameFragment password uninitialised : WebRtcTransport κ) :=
  ⟨⟨.new, rfl⟩, .inl ⟨rfl, rfl⟩⟩

/-- Without old credentials only the state changes. -/
theorem server_of_credentials {s : IceServer} (h : s.oldPassword = []) (v : IceServer.Verdict) :
    ∃ state, v.server s = { s with state } := by
  have hsame : s.newCredentialsApplied = s := by
    rw [IceServer.newCredentialsApplied, if_neg (not_not.mpr h)]
  cases v with
  | ignored => exact ⟨s.state, rfl⟩
  | badRequest => exact ⟨s.state, rfl⟩
  | unauthorized => exact ⟨s.state, rfl⟩
  | current => exact ⟨.completed, by rw [IceServer.Verdict.server, hsame]⟩
  | old => exact ⟨.completed, rfl⟩

theorem onInputDataPacket_credentials {data : Bytes} {remoteAddress : SockAddrIn}
    (h : ∃ state, w.iceServer = { usernameFragment, password, state }) :
    (w.onInputDataPacket platform env data remoteAddress).Post fun _ w' =>
      ∃ state, w'.iceServer = { usernameFragment, password, state } := by
  obtain ⟨state, hw⟩ := h
  apply onInputDataPacket_post (I := fun w' : WebRtcTransport κ =>
    ∃ state, w'.iceServer = { usernameFragment, password, state })
  · exact ⟨state, hw⟩
  · intro p _
    have hold : w.iceServer.oldPassword = [] := by rw [hw]
    obtain ⟨state', hserver⟩ := server_of_credentials hold (stunVerdict platform w p.packet)
    rw [inputStun_eq]
    apply Post.bind
    constructor
    intro w' _
    apply Post.pure
    exact ⟨state', by rw [hserver, hw]⟩
  · apply Post.bind
    refine (Post.handle_keeps (I := fun w' => w'.iceServer = w.iceServer) ?_ rfl).mono ?_
    · exact fun w' event hw' => onDtlsEvent_iceServer hw' event
    · intro _ r hr
      exact Post.pure ⟨state, hr.trans hw⟩

theorem Admits.step (h : Admits usernameFragment password w) (input : Input κ) :
    (step platform w input).Post fun _ w' => Admits usernameFragment password w' := by
  have hcredentials : (WebRtcTransport.step platform w input).Post fun _ w' =>
      ∃ state, w'.iceServer = { usernameFragment, password, state } := by
    cases input with
    | onInputDataPacket env data remoteAddress => exact onInputDataPacket_credentials h.credentials
    | encryptAndSendRtpPacket env data =>
        exact encryptAndSendRtpPacket_post.mono fun _ _ hw' => hw' ▸ h.credentials
    | setNetworkTransport transport => exact Post.pure h.credentials
    | setRTPChannel channel => exact Post.pure h.credentials
  have hphase : (WebRtcTransport.step platform w input).Post fun _ w' =>
      Unopened usernameFragment password w' ∨ w'.iceServer.state = .completed := by
    rcases h.phase with hunopened | hcompleted
    · cases hopening : opening platform.hmac usernameFragment password input with
      | none => exact (hunopened.step hopening).2.mono fun _ _ hw' => .inl hw'
      | some source =>
          obtain ⟨-, w', hw', hopened, -⟩ := hunopened.opens hopening
          constructor
          intro w'' hw''
          cases hw'.symm.trans hw''
          exact .inr hopened.completed
    · have hopened : Opened w.remoteSocketAddress w := ⟨hcompleted, rfl⟩
      exact (hopened.step input).2.mono fun _ _ hw' => .inr hw'.1.completed
  exact (hcredentials.and hphase).mono fun _ _ hw' => ⟨hw'.1, hw'.2⟩

/-! ## The answer -/

theorem Admits.response (platform : Platform) (h : Admits usernameFragment password w)
    (hpassword : password ≠ []) (r : BindingRequest usernameFragment password)
    (buffer : SerializeBuffer) (source : SockAddrIn) :
    (stunVerdict platform w (r.received platform.hmac buffer)).accepted = true ∧
      (stunVerdict platform w (r.received platform.hmac buffer)).response w.iceServer
        (r.received platform.hmac buffer) source =
        some (IceServer.successResponse (r.received platform.hmac buffer) source password) := by
  obtain ⟨state, hw⟩ := h.credentials
  have haccepted : (stunVerdict platform w (r.parsed platform.hmac buffer).packet).accepted =
      true := by
    rw [← isOpeningRequest_parsed (by rw [hw]) (r.parsed platform.hmac buffer), hw]
    exact r.opens platform.hmac buffer hpassword
  refine ⟨haccepted, ?_⟩
  obtain ⟨key, -, hverified, hresponse⟩ :=
    IceServer.accepted_response platform.hmac source haccepted (by rw [hw]; exact hpassword)
  have hkey : key = password := by
    rcases hverified with ⟨hkey, -⟩ | ⟨-, hfails, -⟩
    · rw [hkey, hw]
    · rw [hw] at hfails
      have hpasses := r.received_authenticates platform.hmac buffer hpassword
      rw [show (r.parsed platform.hmac buffer).packet = r.received platform.hmac buffer from rfl,
        hpasses] at hfails
      cases hfails
  rw [hkey] at hresponse
  exact hresponse

/-- The request is answered in every state, and ICE is completed. -/
theorem Admits.answered (h : Admits usernameFragment password w) (hpassword : password ≠ [])
    (r : BindingRequest usernameFragment password) (buffer : SerializeBuffer)
    (source : SockAddrIn) :
    ∃ response w', IceServer.Verifiable platform.hmac r.packet.transactionId source password
        response ∧
      .sendPacket .stun response source w.transport ∈ (WebRtcTransport.step platform w
        (.onInputDataPacket env (r.datagram platform.hmac buffer) source)).trace ∧
      (WebRtcTransport.step platform w
        (.onInputDataPacket env (r.datagram platform.hmac buffer) source)).result = .ok w' ∧
      w'.iceServer.state = .completed := by
  obtain ⟨haccepted, hresponse⟩ := h.response platform hpassword r buffer source
  have hmethod : (r.received platform.hmac buffer).method = Method.binding :=
    ((IceServer.isComplete_iff _).mp (IceServer.complete_of_verdict platform.hmac w.iceServer
      haccepted).2).1
  have hsize := IceServer.response_exactSize platform.hmac hresponse
  have hverifiable := IceServer.verifiable_message platform.hmac source hmethod hpassword
    (StunPacket.stalePadding_length (StunPacket.exactSize_le_buffer env.stunSerializeBuffer hsize))
  rw [← StunPacket.datagram_serialized platform.hmac env.stunSerializeBuffer hsize] at hverifiable
  have hanswers : .sendPacket .stun ((IceServer.successResponse (r.received platform.hmac buffer)
      source password).serialized platform.hmac env.stunSerializeBuffer).datagram source
        w.transport ∈ answers platform env w (r.received platform.hmac buffer) source := by
    rw [answers, hresponse]
    exact List.mem_singleton_self _
  have hserver : ((stunVerdict platform w (r.received platform.hmac buffer)).server
      w.iceServer).state = .completed := by
    cases hv : stunVerdict platform w (r.received platform.hmac buffer) with
    | current => rfl
    | old => rfl
    | _ =>
        rw [hv] at haccepted
        cases haccepted
  have hcall : WebRtcTransport.step platform w
      (.onInputDataPacket env (r.datagram platform.hmac buffer) source) =
      inputStun platform env w (r.parsed platform.hmac buffer).data source :=
    onInputDataPacket_parsed (r.parsed platform.hmac buffer) source
  rw [hcall]
  rcases h.phase with hunopened | hcompleted
  · have hstate : w.iceServer.state ≠ .completed := by
      rw [hunopened.iceServer]
      intro hstate
      cases hstate
    rw [inputStun_selected (r.parsed platform.hmac buffer) source haccepted hstate
      hunopened.dtlsTransport]
    exact ⟨_, _, hverifiable, List.mem_append_left _ hanswers, rfl, hserver⟩
  · have hopened : Opened w.remoteSocketAddress w := ⟨hcompleted, rfl⟩
    rw [inputStun_unselected (r.parsed platform.hmac buffer) source
      (hopened.selection (r.parsed platform.hmac buffer))]
    exact ⟨_, _, hverifiable, hanswers, rfl, hserver⟩

end WebRtcTransport

end EasyWebRtc.Rtc
