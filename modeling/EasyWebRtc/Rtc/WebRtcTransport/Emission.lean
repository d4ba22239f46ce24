import EasyWebRtc.Rtc.IceResponse
import EasyWebRtc.Rtc.WebRtcTransport.Invariant

/-!
# What a datagram makes the transport do

STUN responses answer a request and carry its source address, DTLS flights are
what OpenSSL has pending while DTLS runs, and the RTP channel gets what
`srtp_unprotect` leaves. All packets go to the network transport that the call
found.
-/

namespace EasyWebRtc.Rtc.WebRtcTransport

open Octets Utils Traced

variable {κ : Type}

/-- `Parse` accepts the datagram as a request. -/
def isRequest (data : Bytes) : Bool :=
  match StunPacket.parse data data.length with
  | .ok (some packet) => packet.klass = .request
  | _ => false

def Emitted (env : Outcomes) (w : WebRtcTransport κ) (data : Bytes) (remoteAddress : SockAddrIn) :
    WebRtcEvent κ → Prop
  | .sendPacket .stun response tuple transport =>
      transport = w.transport ∧ isRequest data = true ∧ tuple = remoteAddress ∧
      (StunPacket.headerClass response = some .successResponse →
        StunPacket.mappedAddress response = some remoteAddress)
  | .sendPacket .dtls _ _ transport =>
      transport = w.transport ∧ branch data = .ok .dtls ∧
      w.dtlsTransport.isRunning = true ∧ env.ssl.pending ≠ []
  | .sendPacket .rtp _ _ _ => False
  | .onRtp bytes =>
      branch data = .ok .rtp ∧ w.rtpChannel = true ∧
      ∃ session, w.srtpSession = some session ∧ (session.decryptSrtp env.srtp data).2 = bytes
  | .selectedTuple _ | .dtls _ => True

def SendsFlights (transport : Option κ) (flight : Prop) : WebRtcEvent κ → Prop
  | .sendPacket kind _ _ via => kind = .dtls ∧ via = transport ∧ flight
  | .onRtp _ | .selectedTuple _ => False
  | .dtls _ => True

theorem handleDtls_sends {srtp : Libsrtp} {w : WebRtcTransport κ}
    {t : DtlsTransport.Call DtlsTransport} {flight : Prop}
    (h : t.Only fun event => ∀ data, event = .sendData data → flight) :
    (handle (onDtlsEvent srtp) w t).Only (SendsFlights w.transport flight) :=
  handleDtls_only (h.mono fun _ hevent =>
    ⟨trivial, fun data _ hdata => ⟨rfl, rfl, hevent data hdata⟩⟩)

def SendsResponses (transport : Option κ) (packet : StunPacket) (remoteAddress : SockAddrIn) :
    WebRtcEvent κ → Prop
  | .sendPacket kind response tuple via =>
      kind = .stun ∧ via = transport ∧ packet.klass = .request ∧ tuple = remoteAddress ∧
      (StunPacket.headerClass response = some .successResponse →
        StunPacket.mappedAddress response = some remoteAddress)
  | .onRtp _ => False
  | .selectedTuple _ | .dtls _ => True

theorem onIceEvent_transport {env : Outcomes} {w : WebRtcTransport κ} {transport : Option κ}
    (h : w.transport = transport) (event : IceEvent) :
    (onIceEvent env w event).Post fun _ w' => w'.transport = transport := by
  cases event with
  | sendStunPacket packet tuple =>
      apply Post.bind
      exact sendPacket_post.mono fun _ _ _ => Post.pure h
  | selectedTuple tuple =>
      apply Post.bind
      apply Post.emit
      apply Post.bind
      refine (Post.handle_keeps (I := fun w' => w'.transport = transport) ?_ h).mono ?_
      · exact fun w' event hw' => onDtlsEvent_transport hw' event
      · exact fun _ _ hr => Post.pure hr

theorem onIceEvent_sends {env : Outcomes} {w : WebRtcTransport κ} {event : IceEvent}
    {packet : StunPacket} {remoteAddress : SockAddrIn}
    (h : IceServer.Answers packet remoteAddress event) :
    (onIceEvent env w event).Only (SendsResponses w.transport packet remoteAddress) := by
  cases event with
  | sendStunPacket response tuple =>
      rcases h with ⟨hklass, htuple, _, hmapped⟩
      apply Only.bind
      · exact sendPacket_only ⟨rfl, rfl, hklass, htuple, hmapped⟩
      · exact sendPacket_post.mono fun _ _ _ => Only.pure
  | selectedTuple tuple =>
      have hrun : (w.dtlsTransport.run env.ssl .server).Only fun event =>
          ∀ data, event = .sendData data → False := by
        apply DtlsTransport.run_server_only.mono
        intro e he data heq
        subst he
        cases heq
      apply Only.bind (Only.emit trivial)
      apply Post.emit
      apply Only.bind
      · apply (handleDtls_sends hrun).mono
        intro e he
        cases e with
        | sendPacket kind data remoteAddress transport => exact he.2.2.elim
        | onRtp data => exact he
        | selectedTuple tuple => exact he.elim
        | dtls event => trivial
      · exact ⟨fun _ _ => Only.pure⟩

/-! ## Branches -/

section Branches

variable {platform : Platform} {env : Outcomes} {w : WebRtcTransport κ} {data : Bytes}
  {remoteAddress : SockAddrIn}

theorem inputStun_emitted : (inputStun platform env w data remoteAddress).Only
    (Emitted env w data remoteAddress) := by
  apply Only.bind Only.lift
  apply Post.lift
  intro parsed hparsed
  cases parsed with
  | none => exact Only.pure
  | some packet =>
      apply Only.bind
      · apply Only.handle
        apply Only.foldlM (I := fun w' => w'.transport = w.transport)
        · intro w' event hevent hw'
          have hanswers := IceServer.processStunPacket_only.out event hevent
          apply (onIceEvent_sends hanswers).mono
          intro e he
          cases e with
          | sendPacket kind response tuple transport =>
              rcases he with ⟨rfl, hvia, hklass, htuple, hmapped⟩
              refine ⟨hvia.trans hw', ?_, htuple, hmapped⟩
              simp [isRequest, hparsed, hklass]
          | onRtp data => exact he.elim
          | selectedTuple tuple => trivial
          | dtls event => trivial
        · exact fun w' event _ hw' => onIceEvent_transport hw' event
        · rfl
      · exact ⟨fun _ _ => Only.pure⟩

theorem inputStun_transport : (inputStun platform env w data remoteAddress).Post fun _ w' =>
    w'.transport = w.transport := by
  apply Post.bind
  apply Post.lift
  intro parsed _
  cases parsed with
  | none => exact Post.pure rfl
  | some packet =>
      apply Post.bind
      refine (Post.handle_keeps (I := fun w' => w'.transport = w.transport) ?_ rfl).mono ?_
      · exact fun w' event hw' => onIceEvent_transport hw' event
      · exact fun _ _ hr => Post.pure hr

theorem inputDtls_emitted (hbranch : branch data = .ok .dtls) :
    (inputDtls env w data).Only (Emitted env w data remoteAddress) := by
  have hflights : (w.dtlsTransport.processDtlsData env.ssl data).Only fun event =>
      ∀ flight, event = .sendData flight →
        w.dtlsTransport.isRunning = true ∧ env.ssl.pending ≠ [] := by
    apply DtlsTransport.processDtlsData_only.mono
    intro event hevent flight heq
    subst heq
    exact hevent
  apply Only.bind
  · apply (handleDtls_sends hflights).mono
    intro e he
    cases e with
    | sendPacket kind flight tuple transport =>
        rcases he with ⟨rfl, hvia, hrunning, hpending⟩
        exact ⟨hvia, hbranch, hrunning, hpending⟩
    | onRtp data => exact he.elim
    | selectedTuple tuple => exact he.elim
    | dtls event => trivial
  · exact ⟨fun _ _ => Only.pure⟩

theorem inputDtls_transport : (inputDtls env w data).Post fun _ w' =>
    w'.transport = w.transport := by
  apply Post.bind
  refine (Post.handle_keeps (I := fun w' => w'.transport = w.transport) ?_ rfl).mono ?_
  · exact fun w' event hw' => onDtlsEvent_transport hw' event
  · exact fun _ _ hr => Post.pure hr

theorem inputRtp_emitted (hbranch : branch data = .ok .rtp) :
    (inputRtp env w data).Only (Emitted env w data remoteAddress) := by
  unfold inputRtp
  split
  · rename_i hchannel
    split
    · exact Only.fail
    · rename_i session hsession
      apply Only.bind
      · exact Only.emit ⟨hbranch, hchannel, session, hsession, rfl⟩
      · exact Post.emit Only.pure
  · exact Only.pure

theorem inputRtp_transport : (inputRtp env w data).Post fun _ w' => w'.transport = w.transport := by
  unfold inputRtp
  split
  · split
    · exact Post.fail
    · apply Post.bind
      apply Post.emit
      exact Post.pure rfl
  · exact Post.pure rfl

theorem onInputDataPacket_emitted : (w.onInputDataPacket platform env data remoteAddress).Only
    (Emitted env w data remoteAddress) := by
  rw [onInputDataPacket_eq]
  apply Only.bind Only.lift
  apply Post.lift
  intro b hb
  cases b with
  | stun => exact inputStun_emitted
  | dtls => exact inputDtls_emitted hb
  | rtp => exact inputRtp_emitted hb
  | rtcp => exact Only.pure
  | other => exact Only.pure

theorem onInputDataPacket_transport : (w.onInputDataPacket platform env data remoteAddress).Post
    fun _ w' => w'.transport = w.transport := by
  rw [onInputDataPacket_eq]
  apply Post.bind
  apply Post.lift
  intro b _
  cases b with
  | stun => exact inputStun_transport
  | dtls => exact inputDtls_transport
  | rtp => exact inputRtp_transport
  | rtcp => exact Post.pure rfl
  | other => exact Post.pure rfl

end Branches

end EasyWebRtc.Rtc.WebRtcTransport
