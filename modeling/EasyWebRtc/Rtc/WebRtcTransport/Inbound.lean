import EasyWebRtc.Rtc.WebRtcTransport.Emission
import EasyWebRtc.Rtc.WebRtcTransport.Media

/-!
# Incoming media along a run

The RTP branch tests the channel, uses the session and delivers what the session
leaves in the datagram. It finds a session exactly when a handshake was
completed before. The session has the local key, so that a datagram is delivered
as the packet that its sender protected exactly when both keys protect it alike.
-/

namespace EasyWebRtc.Rtc.WebRtcTransport

open Octets Utils Traced

variable {κ : Type} {platform : Platform}

/-! ## The session of the RTP branch -/

/-- The RTP branch reaches `DecryptSrtp`. -/
def CallsDecryptSrtp (w : WebRtcTransport κ) (data : Bytes) : Prop :=
  branch data = .ok .rtp ∧ w.rtpChannel = true

def SessionPresent (_ : List (WebRtcEvent κ)) (w : WebRtcTransport κ) : Input κ → Prop
  | .onInputDataPacket _ data _ => CallsDecryptSrtp w data → w.srtpSession.isSome = true
  | _ => True

/-- A datagram for the RTP branch comes after a notification of CONNECTED. -/
def HandshakeBefore (τ : List (WebRtcEvent κ)) (w : WebRtcTransport κ) : Input κ → Prop
  | .onInputDataPacket _ data _ =>
      CallsDecryptSrtp w data → ∃ cryptoSuite localKey remoteKey,
        .dtls (.connected cryptoSuite localKey remoteKey) ∈ τ
  | _ => True

theorem lastKeys_isSome_iff {τ : List (WebRtcEvent κ)} :
    (lastKeys τ).isSome = true ↔ ∃ cryptoSuite localKey remoteKey,
      .dtls (.connected cryptoSuite localKey remoteKey) ∈ τ := by
  constructor
  · intro h
    obtain ⟨keys, hkeys⟩ := Option.isSome_iff_exists.mp h
    exact ⟨_, _, _, lastKeys_mem hkeys⟩
  · intro h
    induction τ using List.reverseRecOn with
    | nil => simp at h
    | append_singleton τ event ih =>
        rw [lastKeys_concat]
        split
        · rfl
        · rename_i hother
          apply ih
          obtain ⟨cryptoSuite, localKey, remoteKey, hmem⟩ := h
          rcases List.mem_append.mp hmem with hmem | hmem
          · exact ⟨cryptoSuite, localKey, remoteKey, hmem⟩
          · exact (hother _ _ _ (List.mem_singleton.mp hmem).symm).elim

theorem sessionPresent_iff {τ : List (WebRtcEvent κ)} {w : WebRtcTransport κ} (h : Inv τ w)
    (input : Input κ) : SessionPresent τ w input ↔ HandshakeBefore τ w input := by
  cases input with
  | onInputDataPacket env data remoteAddress =>
      simp only [SessionPresent, HandshakeBefore]
      rw [h.tracks.session, Option.isSome_map, lastKeys_isSome_iff]
  | encryptAndSendRtpPacket env data => rfl
  | setNetworkTransport transport => rfl
  | setRTPChannel channel => rfl

/-- The RTP branch finds a session exactly in the runs whose RTP datagrams, with
a channel set, all come after a completed handshake. -/
theorem session_present_iff (platform : Platform) (usernameFragment password : Bytes)
    (uninitialised : SockAddrIn) (inputs : List (Input κ)) :
    Along (step platform) SessionPresent []
        (create usernameFragment password uninitialised) inputs ↔
      Along (step platform) HandshakeBefore []
        (create usernameFragment password uninitialised) inputs :=
  Along.iff (I := Inv) (fun _ _ input h => h.step input)
    (fun _ _ input _ h => sessionPresent_iff h input)
    (Inv.create usernameFragment password uninitialised)

def client : SockAddrIn := ⟨40000, 0x7F000001⟩

/-- One RTP datagram before any handshake. -/
theorem session_missing_before_handshake :
    ¬ Along (step samplePlatform) SessionPresent [] freshTransport
        [.setRTPChannel true, .onInputDataPacket quiet plaintextRtp client] ∧
      ((freshTransport.setRTPChannel true).onInputDataPacket samplePlatform quiet plaintextRtp
        client).result = .error .nullPointer := by
  constructor
  · intro h
    have hpresent := h.2.1 ⟨by decide, rfl⟩
    exact absurd hpresent (by decide)
  · rfl

/-! ## What the RTP channel gets -/

/-- libsrtp as it is documented: `srtp_unprotect` under a key inverts the
protection under that key and fails on everything else. `protects suite key
packet data` says that `data` is `packet` protected under the key. -/
structure SrtpLaws (protects : CryptoSuite → Bytes → Bytes → Bytes → Prop) (srtp : Libsrtp) :
    Prop where
  inverts : ∀ (session : SrtpSession) packet data,
    protects session.cryptoSuite session.key packet data →
    srtp.unprotect session data = ⟨true, packet⟩
  authentic : ∀ (session : SrtpSession) data, (srtp.unprotect session data).ok = true →
    ∃ packet, protects session.cryptoSuite session.key packet data

def Input.SrtpLaws (protects : CryptoSuite → Bytes → Bytes → Bytes → Prop) : Input κ → Prop
  | .onInputDataPacket env _ _ => WebRtcTransport.SrtpLaws protects env.srtp
  | _ => True

/-- The session that would unprotect what the peer protects. -/
def MasterKeys.remoteSession (keys : MasterKeys) : SrtpSession :=
  ⟨.inbound, keys.cryptoSuite, keys.remoteKey, true⟩

/-- Bytes for the RTP channel come from a successful `DecryptSrtp`, and are what
`srtp_unprotect` under the remote key of the handshake gives. -/
def Authentic (env : Outcomes) (τ : List (WebRtcEvent κ)) (w : WebRtcTransport κ) (data : Bytes) :
    WebRtcEvent κ → Prop
  | .onRtp bytes => ∃ keys session, lastKeys τ = some keys ∧
      DtlsTransport.ServerKeys keys.cryptoSuite keys.localKey keys.remoteKey ∧
      w.srtpSession = some session ∧ session.decryptSrtp env.srtp data = (true, bytes) ∧
      env.srtp.unprotect keys.remoteSession data = ⟨true, bytes⟩
  | _ => True

/-- All bytes for the channel are authentic, and a packet that the peer protects
with its own key is delivered. -/
def DeliversAuthentic (platform : Platform)
    (protects : CryptoSuite → Bytes → Bytes → Bytes → Prop) (τ : List (WebRtcEvent κ))
    (w : WebRtcTransport κ) : Input κ → Prop
  | .onInputDataPacket env data remoteAddress =>
      (∀ e ∈ (w.onInputDataPacket platform env data remoteAddress).trace,
        Authentic env τ w data e) ∧
      ∀ keys packet, lastKeys τ = some keys → CallsDecryptSrtp w data →
        protects keys.cryptoSuite keys.remoteKey packet data →
        (w.onInputDataPacket platform env data remoteAddress).trace = [.onRtp packet]
  | _ => True

/-- A datagram for the RTP branch, after a handshake, is one packet protected
under the remote key and at the same time under the local key. -/
def ProtectedAlike (protects : CryptoSuite → Bytes → Bytes → Bytes → Prop)
    (τ : List (WebRtcEvent κ)) (w : WebRtcTransport κ) : Input κ → Prop
  | .onInputDataPacket _ data _ => ∀ keys, lastKeys τ = some keys → CallsDecryptSrtp w data →
      ∃ packet, protects keys.cryptoSuite keys.remoteKey packet data ∧
        protects keys.cryptoSuite keys.localKey packet data
  | _ => True

theorem onInputDataPacket_rtp (platform : Platform) (env : Outcomes) (remoteAddress : SockAddrIn)
    {w : WebRtcTransport κ} {data : Bytes} {session : SrtpSession} (h : CallsDecryptSrtp w data)
    (hsession : w.srtpSession = some session) :
    (w.onInputDataPacket platform env data remoteAddress).trace =
      [.onRtp (env.srtp.unprotect session data).data] := by
  rw [onInputDataPacket_eq, h.1]
  show (inputRtp env w data).trace = _
  simp only [inputRtp, h.2, if_true, hsession]
  rfl

theorem deliversAuthentic_iff {protects : CryptoSuite → Bytes → Bytes → Bytes → Prop}
    {τ : List (WebRtcEvent κ)} {w : WebRtcTransport κ} (h : Inv τ w) (input : Input κ)
    (hlaws : input.SrtpLaws protects) :
    DeliversAuthentic platform protects τ w input ↔ ProtectedAlike protects τ w input := by
  cases input with
  | onInputDataPacket env data remoteAddress =>
      simp only [DeliversAuthentic, ProtectedAlike]
      constructor
      · intro hall keys hkeys hcalls
        have hsession := h.session_of_keys hkeys
        have htrace := onInputDataPacket_rtp platform env remoteAddress hcalls hsession
        obtain ⟨keys', session', hkeys', _, hsession', hdecrypt, hremote⟩ :=
          hall.1 (.onRtp _) (htrace ▸ List.mem_cons_self)
        cases hkeys.symm.trans hkeys'
        cases hsession.symm.trans hsession'
        obtain ⟨sent, hsent⟩ := hlaws.authentic keys.session data (Prod.mk.inj hdecrypt).1
        obtain ⟨packet, hpacket⟩ := hlaws.authentic keys.remoteSession data (by rw [hremote])
        have hsame : packet = sent := by
          have hunprotect := hlaws.inverts keys.remoteSession packet data hpacket
          rw [hremote, hlaws.inverts keys.session sent data hsent] at hunprotect
          exact (UnprotectResult.mk.inj hunprotect).2.symm
        subst hsame
        exact ⟨packet, hpacket, hsent⟩
      · intro hall
        have hplain : ∀ keys, lastKeys τ = some keys → CallsDecryptSrtp w data →
            ∃ packet, protects keys.cryptoSuite keys.remoteKey packet data ∧
              env.srtp.unprotect keys.session data = ⟨true, packet⟩ ∧
              env.srtp.unprotect keys.remoteSession data = ⟨true, packet⟩ := by
          intro keys hkeys hcalls
          obtain ⟨packet, hremote, hlocal⟩ := hall keys hkeys hcalls
          exact ⟨packet, hremote, hlaws.inverts keys.session packet data hlocal,
            hlaws.inverts keys.remoteSession packet data hremote⟩
        constructor
        · intro e he
          have hemitted := onInputDataPacket_emitted.out e he
          cases e with
          | sendPacket kind packet tuple transport => trivial
          | selectedTuple tuple => trivial
          | dtls event => trivial
          | onRtp bytes =>
              obtain ⟨hbranch, hchannel, session, hsession, hbytes⟩ := hemitted
              obtain ⟨keys, hkeys, rfl, hserver⟩ := h.keys_of_session hsession
              obtain ⟨packet, _, hlocal, hremote⟩ := hplain keys hkeys ⟨hbranch, hchannel⟩
              rw [SrtpSession.decryptSrtp, hlocal] at hbytes
              subst hbytes
              refine ⟨keys, keys.session, hkeys, hserver, hsession, ?_, hremote⟩
              rw [SrtpSession.decryptSrtp, hlocal]
        · intro keys packet hkeys hcalls hpacket
          obtain ⟨sent, _, hlocal, hremote⟩ := hplain keys hkeys hcalls
          have hsame := hlaws.inverts keys.remoteSession packet data hpacket
          rw [hremote] at hsame
          rw [onInputDataPacket_rtp platform env remoteAddress hcalls (h.session_of_keys hkeys),
            hlocal, (UnprotectResult.mk.inj hsame).2]
  | encryptAndSendRtpPacket env data => rfl
  | setNetworkTransport transport => rfl
  | setRTPChannel channel => rfl

/-- Inbound media is authentic exactly in the runs whose RTP datagrams, after a
handshake and with a channel set, are protected alike under both keys. -/
theorem inbound_authentic_iff (platform : Platform)
    (protects : CryptoSuite → Bytes → Bytes → Bytes → Prop) (usernameFragment password : Bytes)
    (uninitialised : SockAddrIn) (inputs : List (Input κ))
    (hlaws : ∀ input ∈ inputs, input.SrtpLaws protects) :
    Along (step platform) (DeliversAuthentic platform protects) []
        (create usernameFragment password uninitialised) inputs ↔
      Along (step platform) (ProtectedAlike protects) []
        (create usernameFragment password uninitialised) inputs :=
  Along.iff (I := Inv) (fun _ _ input h => h.step input)
    (fun _ _ input hinput h => deliversAuthentic_iff h input (hlaws input hinput))
    (Inv.create usernameFragment password uninitialised)

def keyTagProtects (_ : CryptoSuite) (key packet data : Bytes) : Prop := data = packet ++ key

theorem keyTagSrtp_laws : SrtpLaws keyTagProtects keyTagSrtp := by
  constructor
  · intro session packet data h
    simp only [keyTagProtects] at h
    subst h
    simp [keyTagSrtp]
  · intro session data h
    simp only [keyTagSrtp] at h
    split at h
    · rename_i hsuffix
      obtain ⟨packet, hpacket⟩ := hsuffix
      exact ⟨packet, hpacket.symm⟩
    · cases h

/-- The client's last flight, as far as the server looks at it. -/
def finished : Bytes := [22, 254, 253, 0, 1, 0, 0, 0, 0, 0, 0, 0, 1, 0]

/-- A channel is set, the client is authenticated, and the handshake completes
with the given keying material. -/
def connect (material : Nat → UInt8) : List (Input Unit) :=
  [.setRTPChannel true, .onInputDataPacket quiet signedDatagram client,
    .onInputDataPacket { quiet with
      ssl := {
        handshakeDoneInTransfer := true
        srtpProfile := some "SRTP_AES128_CM_SHA1_80"
        keyingMaterial := some material } } finished client]

def media (data : Bytes) : Input Unit := .onInputDataPacket quiet data client

theorem connect_laws (material : Nat → UInt8) (data : Bytes) :
    ∀ input ∈ connect material ++ [media data], input.SrtpLaws keyTagProtects := by
  intro input hinput
  simp only [connect, media, List.cons_append, List.nil_append, List.mem_cons, List.not_mem_nil,
    or_false] at hinput
  rcases hinput with rfl | rfl | rfl | rfl
  · trivial
  · exact keyTagSrtp_laws
  · exact keyTagSrtp_laws
  · exact keyTagSrtp_laws

theorem connect_constant :
    ((run (step samplePlatform) [] freshTransport (connect fun _ => 7)).map fun r =>
      (lastKeys r.1)) =
    some (some ⟨.aesCm128HmacSha1_80, List.replicate 30 7, List.replicate 30 7⟩) := by
  decide +kernel

theorem inbound_authentic_iff_constant :
    Along (step samplePlatform) (DeliversAuthentic samplePlatform keyTagProtects) []
      freshTransport (connect (fun _ => 7) ++ [media (plaintextRtp ++ List.replicate 30 7)]) := by
  apply (inbound_authentic_iff samplePlatform keyTagProtects [97, 98, 99, 100] [112, 119] ⟨0, 0⟩ _
    (connect_laws _ _)).mpr
  obtain ⟨r, hrun, hkeys⟩ := Option.map_eq_some_iff.mp connect_constant
  refine Along.concat (Along.of_forall ?_ _ _) hrun ?_
  · intro τ w input hinput
    simp only [connect, List.mem_cons, List.not_mem_nil, or_false] at hinput
    rcases hinput with rfl | rfl | rfl
    · trivial
    · intro keys _ hcalls
      exact absurd hcalls.1 (by decide +kernel)
    · intro keys _ hcalls
      exact absurd hcalls.1 (by decide +kernel)
  · intro keys hlast _
    rw [hkeys] at hlast
    cases hlast
    exact ⟨plaintextRtp, rfl, rfl⟩

/-- The remote key of a handshake whose keying material counts upwards. -/
def countingRemoteKey : Bytes :=
  [0, 1, 2, 3, 4, 5, 6, 7, 8, 9, 10, 11, 12, 13, 14, 15,
    32, 33, 34, 35, 36, 37, 38, 39, 40, 41, 42, 43, 44, 45]

/-- What the client protects reaches the channel as it came. -/
theorem connect_counting :
    ((run (step samplePlatform) [] freshTransport (connect UInt8.ofNat)).map fun r =>
      ((lastKeys r.1).map MasterKeys.remoteKey,
        (r.2.onInputDataPacket samplePlatform quiet (plaintextRtp ++ countingRemoteKey)
          client).trace)) =
    some (some countingRemoteKey, [.onRtp (plaintextRtp ++ countingRemoteKey)]) := by
  decide +kernel

theorem inbound_authentic_fails :
    (∀ input ∈ connect UInt8.ofNat ++ [media (plaintextRtp ++ countingRemoteKey)],
      input.SrtpLaws keyTagProtects) ∧
    ¬ Along (step samplePlatform) (DeliversAuthentic samplePlatform keyTagProtects) []
      freshTransport
      (connect UInt8.ofNat ++ [media (plaintextRtp ++ countingRemoteKey)]) := by
  refine ⟨connect_laws _ _, ?_⟩
  intro h
  obtain ⟨r, hrun, hfacts⟩ := Option.map_eq_some_iff.mp connect_counting
  obtain ⟨hkey, htrace⟩ := Prod.mk.inj hfacts
  obtain ⟨keys, session, hkeys, _, _, _, hremote⟩ :=
    (h.last hrun).1 (.onRtp (plaintextRtp ++ countingRemoteKey)) (by
      rw [htrace]
      exact List.mem_cons_self)
  rw [hkeys] at hkey
  have hplain := keyTagSrtp_laws.inverts keys.remoteSession plaintextRtp
    (plaintextRtp ++ countingRemoteKey) (by rw [← Option.some.inj hkey]; rfl)
  have hsame := hremote.symm.trans hplain
  exact absurd (UnprotectResult.mk.inj hsame).2 (by decide)

end EasyWebRtc.Rtc.WebRtcTransport
