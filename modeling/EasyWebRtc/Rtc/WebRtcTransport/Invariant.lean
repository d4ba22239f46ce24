import EasyWebRtc.Rtc.DtlsTransport.Keys
import EasyWebRtc.Rtc.WebRtcTransport.Basic

/-!
# The SRTP session along a run

The session pointer, the ready flag and the DTLS state are written by different
callbacks. Over any run they agree: the session is an outbound one under the
local key of the last notification of CONNECTED, the flag says whether there was
one, and CONNECTED implies it.
-/

namespace EasyWebRtc.Rtc.WebRtcTransport

open Octets Utils Traced

variable {κ : Type}

/-- Suite, local and remote master key of a notification of CONNECTED. -/
structure MasterKeys where
  cryptoSuite : CryptoSuite
  localKey : Bytes
  remoteKey : Bytes
  deriving DecidableEq, Repr

/-- The keys of the last notification of CONNECTED. -/
def lastKeys (τ : List (WebRtcEvent κ)) : Option MasterKeys :=
  τ.foldl (fun keys event =>
    match event with
    | .dtls (.connected cryptoSuite localKey remoteKey) => some ⟨cryptoSuite, localKey, remoteKey⟩
    | _ => keys) none

theorem lastKeys_concat (τ : List (WebRtcEvent κ)) (event : WebRtcEvent κ) :
    lastKeys (τ ++ [event]) =
      match event with
      | .dtls (.connected cryptoSuite localKey remoteKey) =>
          some ⟨cryptoSuite, localKey, remoteKey⟩
      | _ => lastKeys τ := by
  rw [lastKeys, List.foldl_append]
  rfl

theorem lastKeys_mem {τ : List (WebRtcEvent κ)} {keys : MasterKeys} (h : lastKeys τ = some keys) :
    .dtls (.connected keys.cryptoSuite keys.localKey keys.remoteKey) ∈ τ := by
  induction τ using List.reverseRecOn with
  | nil => cases h
  | append_singleton τ event ih =>
      rw [lastKeys_concat] at h
      split at h
      · cases h
        simp
      · exact List.mem_append_left _ (ih h)

/-- The session that `OnDtlsTransportConnected` creates. -/
def MasterKeys.session (keys : MasterKeys) : SrtpSession :=
  ⟨.outbound, keys.cryptoSuite, keys.localKey, true⟩

/-- Session and flag follow the history. -/
structure Tracks (τ : List (WebRtcEvent κ)) (w : WebRtcTransport κ) : Prop where
  session : w.srtpSession = (lastKeys τ).map MasterKeys.session
  ready : w.isReady = (lastKeys τ).isSome

theorem Tracks.append {τ : List (WebRtcEvent κ)} {w : WebRtcTransport κ} (h : Tracks τ w)
    {events : List (WebRtcEvent κ)} (hnone : ∀ e ∈ events, ∀ cryptoSuite localKey remoteKey,
      e ≠ .dtls (.connected cryptoSuite localKey remoteKey)) : Tracks (τ ++ events) w := by
  have hsame : lastKeys (τ ++ events) = lastKeys τ := by
    induction events using List.reverseRecOn with
    | nil => rw [List.append_nil]
    | append_singleton events event ih =>
        rw [← List.append_assoc, lastKeys_concat]
        split
        · exact (hnone _ (List.mem_append_right _ List.mem_cons_self) _ _ _ rfl).elim
        · exact ih fun e he => hnone e (List.mem_append_left _ he)
  exact ⟨by rw [hsame, h.session], by rw [hsame, h.ready]⟩

theorem sendPacket_post {w : WebRtcTransport κ} {kind : PacketKind} {v : SrtpSession.View}
    {remoteAddress : SockAddrIn} :
    (w.sendPacket kind v remoteAddress).Post fun τ _ =>
      τ = [.sendPacket kind (v.data.take v.len) remoteAddress w.transport] := by
  apply Post.bind
  apply Post.emit
  split
  · exact Post.fail
  · exact Post.pure rfl

/-- `w'` is `w` but for the session and the flag, which is never taken back. -/
structure Advances (w w' : WebRtcTransport κ) : Prop where
  frame : w' = { w with srtpSession := w'.srtpSession, isReady := w'.isReady }
  ready : w.isReady = true → w'.isReady = true

theorem Advances.refl (w : WebRtcTransport κ) : Advances w w := ⟨rfl, id⟩

theorem Advances.trans {w₁ w₂ w₃ : WebRtcTransport κ} (h₁ : Advances w₁ w₂) (h₂ : Advances w₂ w₃) :
    Advances w₁ w₃ := by
  refine ⟨?_, fun h => h₂.ready (h₁.ready h)⟩
  rw [h₂.frame, h₁.frame]

theorem onDtlsEvent_advances {srtp : Libsrtp} {w : WebRtcTransport κ} {event : DtlsEvent} :
    (onDtlsEvent srtp w event).Post fun _ w' => Advances w w' := by
  apply Post.bind
  apply Post.emit
  cases event with
  | connected cryptoSuite localKey remoteKey =>
      apply Post.bind
      apply Post.lift
      intro session _
      exact Post.pure ⟨rfl, fun _ => rfl⟩
  | sendData data =>
      apply Post.bind
      exact sendPacket_post.mono fun _ _ _ => Post.pure (Advances.refl w)
  | connecting => exact Post.pure (Advances.refl w)
  | failed => exact Post.pure (Advances.refl w)
  | closed => exact Post.pure (Advances.refl w)
  | applicationData data => exact Post.pure (Advances.refl w)
  | bioWrite data => exact Post.pure (Advances.refl w)

theorem onDtlsEvent_post {srtp : Libsrtp} {w : WebRtcTransport κ} {event : DtlsEvent}
    {τ : List (WebRtcEvent κ)} (h : Tracks τ w) :
    (onDtlsEvent srtp w event).Post fun τ' w' => Tracks (τ ++ τ') w' := by
  apply Post.bind
  apply Post.emit
  cases event with
  | connected cryptoSuite localKey remoteKey =>
      apply Post.bind
      apply Post.lift
      intro session hsession
      have hs := SrtpSession.create_ok hsession
      apply Post.pure
      refine ⟨?_, ?_⟩
      · simp [lastKeys_concat, MasterKeys.session, hs]
      · simp [lastKeys_concat]
  | sendData data =>
      apply Post.bind
      apply sendPacket_post.mono
      intro τ' _ hτ'
      subst hτ'
      exact Post.pure (h.append (by simp))
  | connecting => exact Post.pure (h.append (by simp))
  | failed => exact Post.pure (h.append (by simp))
  | closed => exact Post.pure (h.append (by simp))
  | applicationData data => exact Post.pure (h.append (by simp))
  | bioWrite data => exact Post.pure (h.append (by simp))

theorem onDtlsEvent_connected {srtp : Libsrtp} {w : WebRtcTransport κ} {cryptoSuite : CryptoSuite}
    {localKey remoteKey : Bytes} :
    (onDtlsEvent srtp w (.connected cryptoSuite localKey remoteKey)).Post fun _ w' =>
      w'.isReady = true := by
  apply Post.bind
  apply Post.emit
  apply Post.bind
  apply Post.lift
  intro session _
  exact Post.pure rfl

theorem handleDtls_post {srtp : Libsrtp} {w : WebRtcTransport κ} {τ : List (WebRtcEvent κ)}
    {t : DtlsTransport.Call DtlsTransport} {Q : List DtlsEvent → DtlsTransport → Prop}
    (ht : t.Post Q) (h : Tracks τ w) :
    (handle (onDtlsEvent srtp) w t).Post fun τ' r => (Tracks (τ ++ τ') r.1 ∧ Advances w r.1) ∧
      ∃ events, Q events r.2 ∧ (DtlsTransport.Connects events → r.1.isReady = true) := by
  apply Post.handle
  apply ht.mono
  intro events d hd
  have htracks : (events.foldlM (onDtlsEvent srtp) w).Post fun τ' w' =>
      Tracks (τ ++ τ') w' ∧ Advances w w' := by
    refine Post.foldlM (I := fun τ w' => Tracks τ w' ∧ Advances w w') ?_ ⟨h, Advances.refl w⟩
    intro τ w₁ event _ h₁
    apply ((onDtlsEvent_post h₁.1).and onDtlsEvent_advances).mono
    intro τ' w₂ h₂
    exact ⟨h₂.1, h₁.2.trans h₂.2⟩
  have hready : (events.foldlM (onDtlsEvent srtp) w).Post fun _ w' =>
      DtlsTransport.Connects events → w'.isReady = true := by
    by_cases hconn : DtlsTransport.Connects events
    · rcases hconn with ⟨cryptoSuite, localKey, remoteKey, hmem⟩
      have hset : (events.foldlM (onDtlsEvent srtp) w).Post fun _ w' => w'.isReady = true := by
        refine Post.foldlM_establish (f := onDtlsEvent srtp)
          (P := fun w : WebRtcTransport κ => w.isReady = true) ?_ ?_ hmem w
        · exact fun _ _ _ hs => onDtlsEvent_advances.mono fun _ _ h => h.ready hs
        · exact fun _ => onDtlsEvent_connected
      exact hset.mono fun _ _ h _ => h
    · exact ⟨fun _ _ h => (hconn h).elim⟩
  apply (htracks.and hready).mono
  intro τ' w' h'
  exact ⟨h'.1, events, hd, h'.2⟩

/-! ## The invariant -/

/-- A notification of CONNECTED in the history carries the server's keys. -/
def EventOk : WebRtcEvent κ → Prop
  | .dtls event => DtlsTransport.KeysOk event
  | _ => True

structure Inv (τ : List (WebRtcEvent κ)) (w : WebRtcTransport κ) : Prop where
  tracks : Tracks τ w
  connected : w.dtlsTransport.state = .connected → w.isReady = true
  side : w.dtlsTransport.ServerSide
  keys : ∀ e ∈ τ, EventOk e

theorem Inv.create (usernameFragment password : Bytes) (uninitialised : SockAddrIn) :
    Inv [] (create usernameFragment password uninitialised : WebRtcTransport κ) where
  tracks := ⟨rfl, rfl⟩
  connected := nofun
  side := .inl rfl
  keys := nofun

theorem Inv.session_of_keys {τ : List (WebRtcEvent κ)} {w : WebRtcTransport κ} (h : Inv τ w)
    {keys : MasterKeys} (hkeys : lastKeys τ = some keys) : w.srtpSession = some keys.session := by
  rw [h.tracks.session, hkeys]
  rfl

theorem Inv.keys_of_session {τ : List (WebRtcEvent κ)} {w : WebRtcTransport κ} (h : Inv τ w)
    {session : SrtpSession} (hsession : w.srtpSession = some session) :
    ∃ keys, lastKeys τ = some keys ∧ session = keys.session ∧
      DtlsTransport.ServerKeys keys.cryptoSuite keys.localKey keys.remoteKey := by
  rw [h.tracks.session] at hsession
  obtain ⟨keys, hkeys, heq⟩ := Option.map_eq_some_iff.mp hsession
  exact ⟨keys, hkeys, heq.symm, h.keys _ (lastKeys_mem hkeys)⟩

theorem sendPacket_only {w : WebRtcTransport κ} {kind : PacketKind} {v : SrtpSession.View}
    {remoteAddress : SockAddrIn} {E : WebRtcEvent κ → Prop}
    (h : E (.sendPacket kind (v.data.take v.len) remoteAddress w.transport)) :
    (w.sendPacket kind v remoteAddress).Only E := by
  apply Only.bind (Only.emit h)
  apply Post.emit
  split
  · exact Only.fail
  · exact Only.pure

theorem onDtlsEvent_only {srtp : Libsrtp} {w : WebRtcTransport κ} {event : DtlsEvent}
    {E : WebRtcEvent κ → Prop} (hevent : E (.dtls event))
    (hsend : ∀ data, event = .sendData data →
      E (.sendPacket .dtls data w.remoteSocketAddress w.transport)) :
    (onDtlsEvent srtp w event).Only E := by
  apply Only.bind
  · exact Only.emit hevent
  apply Post.emit
  cases event with
  | connected cryptoSuite localKey remoteKey =>
      apply Only.bind Only.lift
      apply Post.lift
      intro session _
      exact Only.pure
  | sendData data =>
      apply Only.bind
      · refine sendPacket_only ?_
        rw [List.take_length]
        exact hsend data rfl
      · exact sendPacket_post.mono fun _ _ _ => Only.pure
  | connecting => exact Only.pure
  | failed => exact Only.pure
  | closed => exact Only.pure
  | applicationData data => exact Only.pure
  | bioWrite data => exact Only.pure

theorem onDtlsEvent_transport {srtp : Libsrtp} {w : WebRtcTransport κ} {transport : Option κ}
    (h : w.transport = transport) (event : DtlsEvent) :
    (onDtlsEvent srtp w event).Post fun _ w' => w'.transport = transport := by
  apply onDtlsEvent_advances.mono
  intro _ w' hw'
  rw [hw'.frame, ← h]

theorem handleDtls_only {srtp : Libsrtp} {w : WebRtcTransport κ}
    {t : DtlsTransport.Call DtlsTransport} {E : WebRtcEvent κ → Prop}
    (h : t.Only fun event => E (.dtls event) ∧ ∀ data remoteAddress, event = .sendData data →
      E (.sendPacket .dtls data remoteAddress w.transport)) :
    (handle (onDtlsEvent srtp) w t).Only E := by
  apply Only.handle
  apply Only.foldlM (I := fun w' => w'.transport = w.transport)
  · intro w' event hevent hw'
    obtain ⟨hdtls, hsend⟩ := h.out event hevent
    refine onDtlsEvent_only hdtls ?_
    intro data hdata
    rw [hw']
    exact hsend data _ hdata
  · exact fun w' event _ hw' => onDtlsEvent_transport hw' event
  · rfl

theorem Inv.handleDtls {srtp : Libsrtp} {w : WebRtcTransport κ} {τ : List (WebRtcEvent κ)}
    {t : DtlsTransport.Call DtlsTransport} (h : Inv τ w) (honly : t.Only DtlsTransport.KeysOk)
    (ht : t.Post fun events d =>
      (d.state = .connected → w.dtlsTransport.state = .connected ∨
        DtlsTransport.Connects events) ∧ d.ServerSide) :
    (handle (onDtlsEvent srtp) w t).Post fun τ' r =>
      Inv (τ ++ τ') { r.1 with dtlsTransport := r.2 } := by
  have hevents : (handle (onDtlsEvent srtp) w t).Only EventOk :=
    handleDtls_only (honly.mono fun _ hevent => ⟨hevent, fun _ _ _ => trivial⟩)
  apply ((handleDtls_post ht h.tracks).with_only hevents).mono
  intro τ' r hr
  rcases hr with ⟨⟨⟨htracks, hadv⟩, events, ⟨hstate, hside⟩, hconn⟩, hkeys⟩
  refine ⟨⟨htracks.session, htracks.ready⟩, ?_, hside, ?_⟩
  · intro hc
    rcases hstate hc with hc | hc
    · exact hadv.ready (h.connected hc)
    · exact hconn hc
  · intro e he
    rcases List.mem_append.mp he with he | he
    · exact h.keys e he
    · exact hkeys e he

theorem Inv.append {w : WebRtcTransport κ} {τ : List (WebRtcEvent κ)} (h : Inv τ w)
    {events : List (WebRtcEvent κ)} (hnone : ∀ e ∈ events, ∀ event, e ≠ .dtls event) :
    Inv (τ ++ events) w := by
  refine ⟨h.tracks.append fun e he _ _ _ => hnone e he _, h.connected, h.side, ?_⟩
  intro e he
  rcases List.mem_append.mp he with he | he
  · exact h.keys e he
  · cases e with
    | sendPacket kind data remoteAddress transport => trivial
    | onRtp data => trivial
    | selectedTuple tuple => trivial
    | dtls event => exact (hnone _ he event rfl).elim

theorem Inv.onIceEvent {env : Outcomes} {w : WebRtcTransport κ} {τ : List (WebRtcEvent κ)}
    (h : Inv τ w) (event : IceEvent) :
    (onIceEvent env w event).Post fun τ' w' => Inv (τ ++ τ') w' := by
  cases event with
  | sendStunPacket packet tuple =>
      apply Post.bind
      apply sendPacket_post.mono
      intro τ' _ hτ'
      subst hτ'
      exact Post.pure (h.append (by simp))
  | selectedTuple tuple =>
      have hselected : Inv (τ ++ [.selectedTuple tuple]) w := h.append (by simp)
      have hw : Inv (τ ++ [.selectedTuple tuple]) { w with remoteSocketAddress := tuple } :=
        ⟨⟨hselected.tracks.session, hselected.tracks.ready⟩, h.connected, h.side, hselected.keys⟩
      apply Post.bind
      apply Post.emit
      apply Post.bind
      refine (hw.handleDtls ?_ ?_).mono ?_
      · apply DtlsTransport.run_server_only.mono
        intro e he
        subst he
        trivial
      · apply DtlsTransport.run_server_post.mono
        intro events d hd
        exact ⟨fun hc => .inl (hd.1 hc), .inr hd.2⟩
      · intro τ' r hr
        exact Post.pure (by simpa using hr)

variable {platform : Platform}

theorem Inv.inputStun {env : Outcomes} {w : WebRtcTransport κ} {τ : List (WebRtcEvent κ)}
    (h : Inv τ w) (data : Bytes) (remoteAddress : SockAddrIn) :
    (inputStun platform env w data remoteAddress).Post fun τ' w' => Inv (τ ++ τ') w' := by
  apply Post.bind
  apply Post.lift
  intro packet _
  cases packet with
  | none => exact Post.pure (by simpa using h)
  | some packet =>
      apply Post.bind
      apply Post.handle
      constructor
      intro iceServer _
      refine (Post.foldlM (I := Inv) (fun τ w event _ hw => hw.onIceEvent event) h).mono ?_
      intro τ' w' hw'
      refine Post.pure ?_
      rw [List.nil_append, List.append_nil]
      exact ⟨⟨hw'.tracks.session, hw'.tracks.ready⟩, hw'.connected, hw'.side, hw'.keys⟩

theorem Inv.inputDtls {env : Outcomes} {w : WebRtcTransport κ} {τ : List (WebRtcEvent κ)}
    (h : Inv τ w) (data : Bytes) :
    (inputDtls env w data).Post fun τ' w' => Inv (τ ++ τ') w' := by
  apply Post.bind
  refine (h.handleDtls (DtlsTransport.processDtlsData_keysOk h.side) ?_).mono ?_
  · apply DtlsTransport.processDtlsData_post.mono
    intro events d hd
    exact ⟨hd.connected, hd.side h.side⟩
  · intro τ' r hr
    exact Post.pure (by simpa using hr)

theorem Inv.inputRtp {env : Outcomes} {w : WebRtcTransport κ} {τ : List (WebRtcEvent κ)}
    (h : Inv τ w) (data : Bytes) :
    (inputRtp env w data).Post fun τ' w' => Inv (τ ++ τ') w' := by
  unfold WebRtcTransport.inputRtp
  split
  · split
    · exact Post.fail
    · apply Post.bind
      apply Post.emit
      exact Post.pure (h.append (by simp))
  · exact Post.pure (by simpa using h)

theorem Inv.onInputDataPacket {env : Outcomes} {w : WebRtcTransport κ}
    {τ : List (WebRtcEvent κ)} (h : Inv τ w) (data : Bytes) (remoteAddress : SockAddrIn) :
    (onInputDataPacket platform env w data remoteAddress).Post fun τ' w' => Inv (τ ++ τ') w' := by
  rw [onInputDataPacket_eq]
  apply Post.bind
  apply Post.lift
  intro kind _
  cases kind with
  | stun => exact h.inputStun data remoteAddress
  | dtls => exact h.inputDtls data
  | rtp => exact h.inputRtp data
  | rtcp => exact Post.pure (by simpa using h)
  | other => exact Post.pure (by simpa using h)

/-- An outgoing packet, on its way to the network transport. -/
def SendsMedia (w : WebRtcTransport κ) (e : WebRtcEvent κ) : Prop :=
  ∃ packet, e = .sendPacket .rtp packet w.remoteSocketAddress w.transport

theorem sendPacket_rtp_only {w : WebRtcTransport κ} (v : SrtpSession.View) : (do
    w.sendPacket .rtp v w.remoteSocketAddress
    return w : Call κ (WebRtcTransport κ)).Only (SendsMedia w) := by
  apply Only.bind
  · exact sendPacket_only ⟨_, rfl⟩
  · exact sendPacket_post.mono fun _ _ _ => Only.pure

theorem sendPacket_rtp_post {w : WebRtcTransport κ} (v : SrtpSession.View) : (do
    w.sendPacket .rtp v w.remoteSocketAddress
    return w : Call κ (WebRtcTransport κ)).Post fun _ w' => w' = w := by
  apply Post.bind
  exact sendPacket_post.mono fun _ _ _ => Post.pure rfl

theorem encryptAndSendRtpPacket_only {env : Outcomes} {w : WebRtcTransport κ} {data : Bytes} :
    (w.encryptAndSendRtpPacket platform env data).Only (SendsMedia w) := by
  unfold encryptAndSendRtpPacket
  split
  · split
    · exact Only.fail
    · apply Only.bind Only.lift
      apply Post.lift
      intro r _
      exact sendPacket_rtp_only r.2
  · exact sendPacket_rtp_only _

theorem encryptAndSendRtpPacket_post {env : Outcomes} {w : WebRtcTransport κ} {data : Bytes} :
    (w.encryptAndSendRtpPacket platform env data).Post fun _ w' => w' = w := by
  unfold encryptAndSendRtpPacket
  split
  · split
    · exact Post.fail
    · apply Post.bind
      apply Post.lift
      intro r _
      exact sendPacket_rtp_post r.2
  · exact sendPacket_rtp_post _

theorem Inv.encryptAndSendRtpPacket {env : Outcomes} {w : WebRtcTransport κ}
    {τ : List (WebRtcEvent κ)} (h : Inv τ w) (data : Bytes) :
    (encryptAndSendRtpPacket platform env w data).Post fun τ' w' => Inv (τ ++ τ') w' := by
  apply (encryptAndSendRtpPacket_post.with_only encryptAndSendRtpPacket_only).mono
  intro τ' w' hw'
  obtain ⟨rfl, hsends⟩ := hw'
  apply h.append
  intro e he event heq
  obtain ⟨packet, hpacket⟩ := hsends e he
  rw [hpacket] at heq
  cases heq

theorem Inv.step {w : WebRtcTransport κ} {τ : List (WebRtcEvent κ)} (input : Input κ)
    (h : Inv τ w) : (step platform w input).Post fun τ' w' => Inv (τ ++ τ') w' := by
  cases input with
  | onInputDataPacket env data remoteAddress => exact h.onInputDataPacket data remoteAddress
  | encryptAndSendRtpPacket env data => exact h.encryptAndSendRtpPacket data
  | setNetworkTransport transport =>
      refine Post.pure ?_
      rw [List.append_nil]
      exact ⟨⟨h.tracks.session, h.tracks.ready⟩, h.connected, h.side, h.keys⟩
  | setRTPChannel channel =>
      refine Post.pure ?_
      rw [List.append_nil]
      exact ⟨⟨h.tracks.session, h.tracks.ready⟩, h.connected, h.side, h.keys⟩

end EasyWebRtc.Rtc.WebRtcTransport
