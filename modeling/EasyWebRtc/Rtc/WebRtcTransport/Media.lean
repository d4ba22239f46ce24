import EasyWebRtc.Rtc.WebRtcTransport.Invariant

/-!
# Outgoing media along a run

What `EncryptAndSendRtpPacket` hands over. The packets of a run are protected
exactly when its steps meet a condition on the state before them.
-/

namespace EasyWebRtc.Rtc.WebRtcTransport

open Octets Utils Traced

variable {κ : Type} {platform : Platform}

/-- The packet was handed over in state CONNECTED, after `EncryptRtp` returned
true, and is what `srtp_protect` left in the encrypt buffer. -/
def SentProtected (platform : Platform) (env : Outcomes) (w : WebRtcTransport κ) (data : Bytes) :
    WebRtcEvent κ → Prop
  | .sendPacket _ packet _ _ =>
      w.dtlsTransport.state = .connected ∧ ∃ session, w.srtpSession = some session ∧
        session.encryptRtp env.srtp platform.srtpMaxTrailerLen ⟨data, data.length⟩ =
          .ok (true, ⟨packet, packet.length⟩) ∧
        env.srtp.protect session data = .ok packet
  | _ => True

/-- `EncryptAndSendRtpPacket` hands over protected packets only. -/
def Gated (platform : Platform) (_ : List (WebRtcEvent κ)) (w : WebRtcTransport κ) :
    Input κ → Prop
  | .encryptAndSendRtpPacket env data =>
      ∀ e ∈ (w.encryptAndSendRtpPacket platform env data).trace, SentProtected platform env w data e
  | _ => True

/-- At a call of `EncryptAndSendRtpPacket` DTLS is connected, the packet and its
trailer fit the encrypt buffer, and `srtp_protect` succeeds. -/
def MediaReady (platform : Platform) (_ : List (WebRtcEvent κ)) (w : WebRtcTransport κ) :
    Input κ → Prop
  | .encryptAndSendRtpPacket env data =>
      w.dtlsTransport.state = .connected ∧
      data.length + platform.srtpMaxTrailerLen ≤ SrtpSession.kEncryptBufferSize ∧
      ∀ session, w.srtpSession = some session → ∃ packet, env.srtp.protect session data = .ok packet
  | _ => True

theorem encryptRtp_eq {srtp : Libsrtp} {maxTrailerLen : Nat} {session : SrtpSession}
    (hinit : session.isInit = true) (data : Bytes) :
    session.encryptRtp srtp maxTrailerLen ⟨data, data.length⟩ =
      if data.length + maxTrailerLen > SrtpSession.kEncryptBufferSize then
        .ok (false, ⟨data, data.length⟩)
      else
        match srtp.protect session data with
        | .ok packet => .ok (true, ⟨packet, packet.length⟩)
        | .error len => .ok (false, ⟨data, len⟩) := by
  have hread : Crypto.readPrefix data data.length = .ok data := by
    rw [Crypto.readPrefix, List.take_length, if_pos rfl]
  by_cases hfit : data.length + maxTrailerLen > SrtpSession.kEncryptBufferSize
  · simp only [SrtpSession.encryptRtp, hinit, Bool.not_true, Bool.false_eq_true, if_false,
      if_pos hfit, Exec.pure_eq_ok]
  · simp only [SrtpSession.encryptRtp, hinit, Bool.not_true, Bool.false_eq_true, if_false,
      if_neg hfit, hread, Exec.ok_bind]
    cases srtp.protect session data with
    | ok packet => rfl
    | error len => rfl

theorem sendPacket_trace (w : WebRtcTransport κ) (kind : PacketKind) (v : SrtpSession.View)
    (remoteAddress : SockAddrIn) :
    (do
      w.sendPacket kind v remoteAddress
      return w : Call κ (WebRtcTransport κ)).trace =
      [.sendPacket kind (v.data.take v.len) remoteAddress w.transport] := by
  by_cases h : w.transport.isSome = true ∧ (v.data.take v.len).length < v.len
  · simp only [sendPacket, if_pos h]
    rfl
  · simp only [sendPacket, if_neg h]
    rfl

theorem encryptAndSendRtpPacket_notReady {env : Outcomes} {w : WebRtcTransport κ}
    (h : w.isReady = false) (data : Bytes) :
    (w.encryptAndSendRtpPacket platform env data).trace =
      [.sendPacket .rtp data w.remoteSocketAddress w.transport] := by
  simp only [encryptAndSendRtpPacket, h, Bool.false_eq_true, if_false]
  have htrace := sendPacket_trace w .rtp ⟨data, data.length⟩ w.remoteSocketAddress
  rw [List.take_length] at htrace
  exact htrace

theorem encryptAndSendRtpPacket_ready {env : Outcomes} {w : WebRtcTransport κ}
    {session : SrtpSession} {ret : Bool} {v : SrtpSession.View} {data : Bytes}
    (h : w.isReady = true) (hsession : w.srtpSession = some session)
    (henc : session.encryptRtp env.srtp platform.srtpMaxTrailerLen ⟨data, data.length⟩ =
      .ok (ret, v)) :
    (w.encryptAndSendRtpPacket platform env data).trace =
      [.sendPacket .rtp (v.data.take v.len) w.remoteSocketAddress w.transport] := by
  simp only [encryptAndSendRtpPacket, h, if_true, hsession, henc]
  exact sendPacket_trace w .rtp v w.remoteSocketAddress

theorem not_sentProtected {env : Outcomes} {w : WebRtcTransport κ} {session : SrtpSession}
    {v : SrtpSession.View} {data packet : Bytes} {kind : PacketKind} {remoteAddress : SockAddrIn}
    (hsession : w.srtpSession = some session)
    (henc : session.encryptRtp env.srtp platform.srtpMaxTrailerLen ⟨data, data.length⟩ =
      .ok (false, v)) :
    ¬ SentProtected platform env w data (.sendPacket kind packet remoteAddress w.transport) := by
  rintro ⟨_, session', hs, htrue, _⟩
  rw [← Option.some.inj (hsession.symm.trans hs), henc] at htrue
  cases htrue

theorem gated_iff_of_notReady {τ : List (WebRtcEvent κ)} {w : WebRtcTransport κ} (h : Inv τ w)
    (hready : w.isReady = false) (env : Outcomes) (data : Bytes) :
    Gated platform τ w (.encryptAndSendRtpPacket env data) ↔
      MediaReady platform τ w (.encryptAndSendRtpPacket env data) := by
  simp only [Gated, MediaReady]
  have hstate : w.dtlsTransport.state ≠ .connected := by
    intro hc
    rw [h.connected hc] at hready
    cases hready
  rw [encryptAndSendRtpPacket_notReady hready]
  constructor
  · intro hall
    exact (hstate (hall _ List.mem_cons_self).1).elim
  · intro hall
    exact (hstate hall.1).elim

theorem gated_iff_of_ready {τ : List (WebRtcEvent κ)} {w : WebRtcTransport κ} (h : Inv τ w)
    (hready : w.isReady = true) (env : Outcomes) (data : Bytes) :
    Gated platform τ w (.encryptAndSendRtpPacket env data) ↔
      MediaReady platform τ w (.encryptAndSendRtpPacket env data) := by
  simp only [Gated, MediaReady]
  have hsome : (lastKeys τ).isSome = true := by rw [← h.tracks.ready, hready]
  obtain ⟨keys, hkeys⟩ := Option.isSome_iff_exists.mp hsome
  have hsession := h.session_of_keys hkeys
  have henc : keys.session.encryptRtp env.srtp platform.srtpMaxTrailerLen
      ⟨data, data.length⟩ = _ := encryptRtp_eq rfl data
  by_cases hfit : data.length + platform.srtpMaxTrailerLen > SrtpSession.kEncryptBufferSize
  · rw [if_pos hfit] at henc
    rw [encryptAndSendRtpPacket_ready hready hsession henc]
    constructor
    · intro hall
      exact (not_sentProtected hsession henc (hall _ List.mem_cons_self)).elim
    · intro hall
      exact (Nat.not_lt.mpr hall.2.1 hfit).elim
  · rw [if_neg hfit] at henc
    cases hprotect : env.srtp.protect keys.session data with
    | ok packet =>
        rw [hprotect] at henc
        rw [encryptAndSendRtpPacket_ready hready hsession henc]
        constructor
        · intro hall
          refine ⟨(hall _ List.mem_cons_self).1, by omega, ?_⟩
          intro session hs
          rw [← Option.some.inj (hsession.symm.trans hs)]
          exact ⟨packet, hprotect⟩
        · intro hall e he
          rw [List.mem_singleton.mp he, List.take_length]
          exact ⟨hall.1, keys.session, hsession, henc, hprotect⟩
    | error len =>
        rw [hprotect] at henc
        rw [encryptAndSendRtpPacket_ready hready hsession henc]
        constructor
        · intro hall
          exact (not_sentProtected hsession henc (hall _ List.mem_cons_self)).elim
        · intro hall
          obtain ⟨packet, hpacket⟩ := hall.2.2 keys.session hsession
          rw [hprotect] at hpacket
          cases hpacket

theorem gated_iff_mediaReady {τ : List (WebRtcEvent κ)} {w : WebRtcTransport κ} (h : Inv τ w)
    (input : Input κ) : Gated platform τ w input ↔ MediaReady platform τ w input := by
  cases input with
  | encryptAndSendRtpPacket env data =>
      cases hready : w.isReady with
      | false => exact gated_iff_of_notReady h hready env data
      | true => exact gated_iff_of_ready h hready env data
  | onInputDataPacket env data remoteAddress => rfl
  | setNetworkTransport transport => rfl
  | setRTPChannel channel => rfl

/-- Media gating. A run hands over protected packets only exactly when each call
of `EncryptAndSendRtpPacket` finds DTLS connected, a packet that fits and a
successful `srtp_protect`. -/
theorem media_gated_iff (platform : Platform) (usernameFragment password : Bytes)
    (uninitialised : SockAddrIn) (inputs : List (Input κ)) :
    Along (step platform) (Gated platform) []
        (create usernameFragment password uninitialised) inputs ↔
      Along (step platform) (MediaReady platform) []
        (create usernameFragment password uninitialised) inputs :=
  Along.iff (I := Inv) (fun _ _ input h => h.step input)
    (fun _ _ input _ h => gated_iff_mediaReady h input)
    (Inv.create usernameFragment password uninitialised)

/-- A libsrtp that appends the key to a packet and strips it again. -/
def keyTagSrtp : Libsrtp where
  cipherKeyLen
    | .none => 0
    | .aesCm128HmacSha1_80 | .aesCm128HmacSha1_32 => 30
    | .aeadAes256Gcm => 44
    | .aeadAes128Gcm => 28
  create _ _ _ := true
  protect s packet := .ok (packet ++ s.key)
  unprotect s packet :=
    if s.key <:+ packet then ⟨true, packet.take (packet.length - s.key.length)⟩
    else ⟨false, packet⟩

def zeroBuffer : SerializeBuffer := ⟨List.replicate 65536 0, List.length_replicate⟩

/-- An H.264 packet of a single NAL unit, in the clear. -/
def plaintextRtp : Bytes := [0x80, 0x60, 0, 1, 0, 0, 0, 2, 0, 0, 0, 3, 0x65, 0x88]

def samplePlatform : Platform := ⟨StunPacket.bindingRequestHmac, 144⟩

/-- OpenSSL reports nothing, and libsrtp works. -/
def quiet : Outcomes := ⟨zeroBuffer, {}, keyTagSrtp⟩

def freshTransport : WebRtcTransport Unit := create [97, 98, 99, 100] [112, 119] ⟨0, 0⟩

/-- A Binding request for `abcd:xy`, signed with the password of that transport. -/
def signedDatagram : Bytes := StunPacket.bindingRequestBytes

/-- A packet is sent in the clear once there is a network transport. -/
theorem media_gated_fails_before_handshake :
    ¬ Along (step samplePlatform) (Gated samplePlatform) [] freshTransport
      [.setNetworkTransport (), .encryptAndSendRtpPacket quiet plaintextRtp] := by
  intro h
  have hsent : WebRtcEvent.sendPacket .rtp plaintextRtp ⟨0, 0⟩ (some ()) ∈
      ((freshTransport.setNetworkTransport ()).encryptAndSendRtpPacket samplePlatform quiet
        plaintextRtp).trace := by
    decide
  exact absurd (h.2.1 _ hsent).1 (by decide)

end EasyWebRtc.Rtc.WebRtcTransport
