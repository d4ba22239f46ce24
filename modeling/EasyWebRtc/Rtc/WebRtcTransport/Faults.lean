import EasyWebRtc.Rtc.DtlsTransport.Machine
import EasyWebRtc.Rtc.WebRtcTransport.Demux
import EasyWebRtc.Rtc.WebRtcTransport.Media
import EasyWebRtc.Rtc.WebRtcTransport.Opening

/-!
# How a transport can stop

Asserts, exceptions, null pointers and reads outside a buffer are faults of the
model. Over every run, with datagrams as UDP delivers them, they come from three
places only: the end of a DTLS handshake, an RTP datagram without an SRTP session,
and a failed `srtp_protect` that lengthens the packet. `faultOf` says which, from
the transport before the call.
-/

namespace EasyWebRtc.Rtc.WebRtcTransport

open Octets Utils Traced

variable {κ : Type}

/-! ## The end of a handshake -/

def announced : DtlsEvent → Option MasterKeys
  | .connected cryptoSuite localKey remoteKey => some ⟨cryptoSuite, localKey, remoteKey⟩
  | _ => none

/-- The handshake ends in this call of `ProcessDtlsData`. -/
def finishesHandshake (ssl : OpenSsl) (d : DtlsTransport) : Bool :=
  d.isRunning && !d.handshakeDone && (d.handshakeDoneNow || ssl.handshakeDoneInTransfer)

/-- What the end of a handshake gives the server: keys, no SRTP profile, or a fault. -/
def handshakeEnd (ssl : OpenSsl) : Exec (Option MasterKeys) := do
  let cryptoSuite ← DtlsTransport.getNegotiatedSrtpCryptoSuite ssl
  if cryptoSuite ≠ .none then
    let (keyLen, saltLen) ← DtlsTransport.masterLengths cryptoSuite
    match ssl.keyingMaterial with
    | none => .error (.abort "SSL_export_keying_material() failed")
    | some material =>
        let (localKey, remoteKey) ← DtlsTransport.splitMaterial material keyLen saltLen .server
        return some ⟨cryptoSuite, localKey, remoteKey⟩
  else return none

def announcement (ssl : OpenSsl) (d : DtlsTransport) : Exec (Option MasterKeys) :=
  if finishesHandshake ssl d then handshakeEnd ssl else return none

/-- A call announces the keys in `result`, or faults as it says before any
announcement. -/
def Announces (result : Exec (Option MasterKeys)) (τ : List DtlsEvent) (fault : Option Fault) :
    Prop :=
  match fault with
  | none => ∃ keys, result = .ok keys ∧ τ.filterMap announced = keys.toList
  | some fault => result = .error fault ∧ τ.filterMap announced = []

section Handshake

variable {ssl : OpenSsl} {d : DtlsTransport}

theorem filterMap_announced_of_silent {τ : List DtlsEvent}
    (h : ∀ e ∈ τ, DtlsTransport.notification e = none) : τ.filterMap announced = [] := by
  rw [List.filterMap_eq_nil_iff]
  intro e he
  cases e with
  | connected cryptoSuite localKey remoteKey => cases h _ he
  | _ => rfl

theorem fail_announces : (DtlsTransport.fail ssl d).Spec
    (fun τ _ => τ.filterMap announced = []) fun _ _ => False := by
  rw [DtlsTransport.fail, spec_bind, spec_emit, spec_pure]
  rfl

theorem extractSrtpKeys_announces (hrole : d.localRole = .server) {cryptoSuite : CryptoSuite}
    (hsuite : DtlsTransport.getNegotiatedSrtpCryptoSuite ssl = .ok cryptoSuite)
    (hne : cryptoSuite ≠ .none) : (DtlsTransport.extractSrtpKeys ssl d cryptoSuite).Spec
      (fun τ _ => Announces (handshakeEnd ssl) τ none)
      fun τ fault => Announces (handshakeEnd ssl) τ (some fault) := by
  obtain ⟨keyLen, saltLen, hlengths⟩ := DtlsTransport.masterLengths_of_ne_none hne
  unfold DtlsTransport.extractSrtpKeys handshakeEnd
  rw [hlengths, hsuite, hrole, spec_bind, spec_lift]
  constructor
  · intro lengths hok
    cases hok
    simp only [Exec.ok_bind, if_pos hne, hlengths]
    cases ssl.keyingMaterial with
    | none => exact spec_fail.mpr ⟨rfl, rfl⟩
    | some material =>
        rw [spec_bind, spec_lift]
        constructor
        · intro keys hkeys
          rw [spec_bind, spec_emit, spec_pure]
          exact ⟨some ⟨cryptoSuite, keys.1, keys.2⟩, by simp only [hkeys]; rfl, rfl⟩
        · intro fault hfault
          cases hfault
  · intro fault hfault
    cases hfault

theorem processHandshake_announces (hrole : d.localRole = .server)
    (hdone : d.handshakeDone = true) : (DtlsTransport.processHandshake ssl d).Spec
      (fun τ _ => Announces (handshakeEnd ssl) τ none)
      fun τ fault => Announces (handshakeEnd ssl) τ (some fault) := by
  rw [DtlsTransport.processHandshake, hdone, Bool.not_true, if_neg Bool.false_ne_true, spec_bind,
    spec_lift]
  constructor
  · intro cryptoSuite hsuite
    split
    · rename_i hne
      rw [spec_bind]
      refine (extractSrtpKeys_announces hrole hsuite hne).mono ?_ fun _ _ hfault => hfault
      intro τ d' hd'
      rw [spec_pure]
      simpa using hd'
    · rename_i hnone
      rw [spec_bind]
      refine fail_announces.mono ?_ fun _ _ hfalse => hfalse.elim
      intro τ d' hd'
      rw [spec_pure]
      refine ⟨none, ?_, by simpa using hd'⟩
      simp only [handshakeEnd, hsuite, Exec.ok_bind, if_neg hnone]
      rfl
  · intro fault hfault
    exact ⟨by simp only [handshakeEnd, hfault, Exec.error_bind], rfl⟩

theorem checkStatus_announces (hrole : d.localRole = .server) :
    (DtlsTransport.checkStatus ssl d).Spec
      (fun τ _ => Announces (if d.handshakeDoneNow && !d.handshakeDone then handshakeEnd ssl
        else return none) τ none)
      fun τ fault => Announces (if d.handshakeDoneNow && !d.handshakeDone then handshakeEnd ssl
        else return none) τ (some fault) := by
  have hsilent : Announces (return none) [] none := ⟨none, rfl, rfl⟩
  unfold DtlsTransport.checkStatus
  simp only
  by_cases hnow : d.handshakeDoneNow = true
  · rw [if_pos hnow, hnow]
    cases hdone : d.handshakeDone with
    | false =>
        exact processHandshake_announces
          (d := { d with handshakeDoneNow := false, handshakeDone := true }) hrole rfl
    | true => exact spec_pure.mpr hsilent
  · rw [if_neg hnow, Bool.eq_false_iff.mpr hnow]
    split
    · split
      · rw [spec_bind, spec_emit, spec_pure]
        exact ⟨none, rfl, rfl⟩
      · rw [spec_bind]
        refine fail_announces.mono ?_ fun _ _ hfalse => hfalse.elim
        intro τ d' hd'
        rw [spec_pure]
        exact ⟨none, rfl, by simpa using hd'⟩
    · exact spec_pure.mpr hsilent

/-- After a good status nothing is announced any more. -/
theorem readData_announces (h : DtlsTransport.Coherent d) (hrunning : d.isRunning = true) :
    (do
      let (good, d) ← DtlsTransport.setTimeout ssl d
      if !good then return d
      else if ssl.readData ≠ [] then
        if !d.handshakeDone then return d
        else
          Traced.emit (.applicationData ssl.readData)
          return d
      else return d : DtlsTransport.Call DtlsTransport).Spec
      (fun τ _ => τ.filterMap announced = []) fun _ _ => False := by
  have htimeout : (DtlsTransport.setTimeout ssl d).Spec
      (fun τ _ => τ.filterMap announced = []) fun _ _ => False := by
    refine ⟨?_, fun e he => ((DtlsTransport.setTimeout_spec h hrunning).error e he).elim⟩
    have hpost : (DtlsTransport.setTimeout ssl d).Post fun τ _ => τ.filterMap announced = [] := by
      unfold DtlsTransport.setTimeout
      split
      · exact Post.fail
      · split
        · exact Post.pure rfl
        · simp only
          split
          · exact Post.pure rfl
          · split
            · exact Post.pure rfl
            · apply Post.bind
              refine ⟨fun d' hd' => Post.pure ?_⟩
              rw [List.append_nil]
              exact fail_announces.ok d' hd'
    exact hpost.out
  rw [spec_bind]
  refine htimeout.mono ?_ fun _ _ hfalse => hfalse
  intro τ r hr
  rcases r with ⟨good, d₁⟩
  have hend : (τ ++ []).filterMap announced = [] := by
    rw [List.append_nil]
    exact hr
  simp only
  split
  · exact spec_pure.mpr hend
  · split
    · split
      · exact spec_pure.mpr hend
      · rw [spec_bind, spec_emit, spec_pure, List.append_nil, List.filterMap_append, hr]
        rfl
    · exact spec_pure.mpr hend

theorem processDtlsData_announces (h : DtlsTransport.Coherent d) (hside : d.ServerSide)
    (data : Bytes) : (DtlsTransport.processDtlsData ssl d data).Spec
      (fun τ _ => Announces (announcement ssl d) τ none)
      fun τ fault => Announces (announcement ssl d) τ (some fault) := by
  unfold DtlsTransport.processDtlsData
  split
  · rename_i hidle
    have hstopped : d.isRunning = false := by simpa using hidle
    rw [spec_pure]
    refine ⟨none, ?_, rfl⟩
    rw [announcement, finishesHandshake, hstopped]
    rfl
  · rename_i hrunning
    rw [Bool.not_eq_true, Bool.not_eq_false'] at hrunning
    have hread : DtlsTransport.Coherent (d.onSslInfo ssl.handshakeDoneInTransfer) := h.onSslInfo _
    have hstill : (d.onSslInfo ssl.handshakeDoneInTransfer).isRunning = true := by
      rw [DtlsTransport.isRunning_iff, DtlsTransport.onSslInfo_state,
        ← DtlsTransport.isRunning_iff]
      exact hrunning
    have hrole : (d.onSslInfo ssl.handshakeDoneInTransfer).localRole = .server := by
      rw [DtlsTransport.onSslInfo_localRole]
      rcases hside with hnone | hserver
      · have hrun := h.role.mpr ((DtlsTransport.isRunning_iff d).mp hrunning)
        rw [hnone] at hrun
        rcases hrun with hrun | hrun <;> cases hrun
      · exact hserver
    have hflags : announcement ssl d =
        if (d.onSslInfo ssl.handshakeDoneInTransfer).handshakeDoneNow &&
          !(d.onSslInfo ssl.handshakeDoneInTransfer).handshakeDone then handshakeEnd ssl
        else return none := by
      rw [announcement, finishesHandshake, hrunning]
      cases ssl.handshakeDoneInTransfer <;> cases hd : d.handshakeDone <;>
        simp [DtlsTransport.onSslInfo, hd]
    rw [hflags]
    rw [spec_bind, spec_emit, spec_bind]
    refine DtlsTransport.sendPendingOutgoingDtlsData_spec.mono ?_ fun _ _ hfalse => hfalse.elim
    intro τ₁ _ hsilent
    have hbefore : ∀ τ, ([DtlsEvent.bioWrite data] ++ (τ₁ ++ τ)).filterMap announced =
        τ.filterMap announced := by
      intro τ
      rw [List.filterMap_append, List.filterMap_append, filterMap_announced_of_silent hsilent]
      rfl
    rw [spec_bind]
    refine ((checkStatus_announces hrole).and (DtlsTransport.checkStatus_spec hread hstill)).mono
      ?_ ?_
    · rintro τ₂ ⟨good, d₁⟩ ⟨⟨keys, hresult, hkeys⟩, hmoves, hgood⟩
      simp only
      split
      · rw [spec_pure]
        exact ⟨keys, hresult, by rw [hbefore, List.append_nil, hkeys]⟩
      · rename_i hg
        refine (readData_announces hmoves.1 (hgood (by simpa using hg))).mono ?_
          fun _ _ hfalse => hfalse.elim
        intro τ₃ _ hτ₃
        exact ⟨keys, hresult, by rw [hbefore, List.filterMap_append, hτ₃, List.append_nil, hkeys]⟩
    · rintro τ₂ fault ⟨⟨hresult, hnone⟩, -⟩
      exact ⟨hresult, by rw [hbefore, hnone]⟩

/-- The keys of a handshake have the length of the documented policies. -/
theorem localKey_length {keys : MasterKeys} (h : handshakeEnd ssl = .ok (some keys)) :
    keys.cryptoSuite ≠ .none ∧ ∀ srtp : Libsrtp, srtp.PolicyLengths →
      keys.localKey.length = srtp.cipherKeyLen keys.cryptoSuite := by
  unfold handshakeEnd at h
  obtain ⟨cryptoSuite, -, h⟩ := Exec.bind_eq_ok.mp h
  split at h
  · rename_i hne
    obtain ⟨⟨keyLen, saltLen⟩, hlengths, h⟩ := Exec.bind_eq_ok.mp h
    cases hmaterial : ssl.keyingMaterial with
    | none =>
        rw [hmaterial] at h
        cases h
    | some material =>
        rw [hmaterial] at h
        cases h
        refine ⟨hne, ?_⟩
        intro srtp hpolicy
        have hlen : keyLen + saltLen = srtp.cipherKeyLen cryptoSuite := by
          cases cryptoSuite with
          | none => exact (hne rfl).elim
          | aesCm128HmacSha1_80 => cases hlengths; exact hpolicy.aesCm128HmacSha1_80.symm
          | aesCm128HmacSha1_32 => cases hlengths; exact hpolicy.aesCm128HmacSha1_32.symm
          | aeadAes256Gcm => cases hlengths; exact hpolicy.aeadAes256Gcm.symm
          | aeadAes128Gcm => cases hlengths; exact hpolicy.aeadAes128Gcm.symm
        simp only [List.length_append, DtlsTransport.slice, List.length_map, List.length_range]
        exact hlen
  · cases h

end Handshake

/-! ## The SRTP session of the listener -/

/-- The fault of the SRTP session for new keys, if any. -/
def sessionFault (srtp : Libsrtp) (keys : MasterKeys) : Option Fault :=
  if keys.localKey.length ≠ srtp.cipherKeyLen keys.cryptoSuite then
    some (.abort "given keyLen does not match policy.rtp.cipher_keyLen")
  else if srtp.create .outbound keys.cryptoSuite keys.localKey then none
  else some (.exception "srtp_create() failed")

/-- The fault of the handshake that a DTLS datagram ends, if any. -/
def handshakeFault (env : Outcomes) (d : DtlsTransport) : Option Fault :=
  match announcement env.ssl d with
  | .error fault => some fault
  | .ok none => none
  | .ok (some keys) => sessionFault env.srtp keys

theorem onDtlsEvent_spec {srtp : Libsrtp} {w : WebRtcTransport κ} {event : DtlsEvent} :
    (onDtlsEvent srtp w event).Spec
      (fun _ _ => ∀ keys ∈ announced event, ∃ session,
        SrtpSession.create srtp .outbound keys.cryptoSuite keys.localKey = .ok session)
      fun _ fault => ∃ keys ∈ announced event,
        SrtpSession.create srtp .outbound keys.cryptoSuite keys.localKey = .error fault := by
  unfold onDtlsEvent
  rw [spec_bind, spec_emit]
  cases event with
  | connected cryptoSuite localKey remoteKey =>
      rw [spec_bind, spec_lift]
      constructor
      · intro session hsession
        rw [spec_pure]
        intro keys hkeys
        cases hkeys
        exact ⟨session, hsession⟩
      · intro fault hfault
        exact ⟨_, rfl, hfault⟩
  | sendData data =>
      simp only
      rw [sendPacket_eq w .dtls w.remoteSocketAddress (Nat.le_refl _), spec_bind]
      exact ⟨fun _ _ => spec_pure.mpr nofun, nofun⟩
  | connecting => exact spec_pure.mpr nofun
  | failed => exact spec_pure.mpr nofun
  | closed => exact spec_pure.mpr nofun
  | applicationData data => exact spec_pure.mpr nofun
  | bioWrite data => exact spec_pure.mpr nofun

/-- The callbacks of a call fault exactly where a session cannot be made. -/
theorem foldlM_onDtlsEvent_spec {srtp : Libsrtp} (events : List DtlsEvent) (w : WebRtcTransport κ) :
    (events.foldlM (onDtlsEvent srtp) w).Spec
      (fun _ _ => ∀ keys ∈ events.filterMap announced, ∃ session,
        SrtpSession.create srtp .outbound keys.cryptoSuite keys.localKey = .ok session)
      fun _ fault => ∃ keys ∈ events.filterMap announced,
        SrtpSession.create srtp .outbound keys.cryptoSuite keys.localKey = .error fault := by
  induction events generalizing w with
  | nil => exact spec_pure.mpr nofun
  | cons event events ih =>
      rw [List.foldlM_cons, spec_bind]
      refine onDtlsEvent_spec.mono ?_ ?_
      · intro _ w' hfirst
        refine (ih w').mono ?_ ?_
        · intro _ _ hrest keys hkeys
          obtain ⟨e, he, hannounced⟩ := List.mem_filterMap.mp hkeys
          rcases List.mem_cons.mp he with rfl | he
          · exact hfirst keys hannounced
          · exact hrest keys (List.mem_filterMap.mpr ⟨e, he, hannounced⟩)
        · rintro _ fault ⟨keys, hkeys, hfault⟩
          obtain ⟨e, he, hannounced⟩ := List.mem_filterMap.mp hkeys
          exact ⟨keys, List.mem_filterMap.mpr ⟨e, List.mem_cons_of_mem event he, hannounced⟩,
            hfault⟩
      · rintro _ fault ⟨keys, hkeys, hfault⟩
        exact ⟨keys, List.mem_filterMap.mpr ⟨event, List.mem_cons_self, hkeys⟩, hfault⟩

theorem create_of_suite (srtp : Libsrtp) {keys : MasterKeys} (hsuite : keys.cryptoSuite ≠ .none) :
    SrtpSession.create srtp .outbound keys.cryptoSuite keys.localKey =
      match sessionFault srtp keys with
      | some fault => .error fault
      | none => .ok keys.session := by
  unfold SrtpSession.create sessionFault
  rw [if_neg hsuite]
  split
  · rfl
  · split <;> rfl

theorem inputDtls_spec {env : Outcomes} {w : WebRtcTransport κ}
    (h : DtlsTransport.Coherent w.dtlsTransport) (hside : w.dtlsTransport.ServerSide)
    (data : Bytes) : (inputDtls env w data).Spec
      (fun _ _ => handshakeFault env w.dtlsTransport = none)
      fun _ fault => handshakeFault env w.dtlsTransport = some fault := by
  have hcall : (w.dtlsTransport.processDtlsData env.ssl data).Spec _ _ :=
    processDtlsData_announces h hside data
  have hkeys : ∀ keys, announcement env.ssl w.dtlsTransport = .ok (some keys) →
      SrtpSession.create env.srtp .outbound keys.cryptoSuite keys.localKey =
        match sessionFault env.srtp keys with
        | some fault => .error fault
        | none => .ok keys.session := by
    intro keys hkeys
    unfold announcement at hkeys
    split at hkeys
    · exact create_of_suite env.srtp (localKey_length hkeys).1
    · cases hkeys
  unfold inputDtls
  rw [spec_bind, spec_handle]
  cases hresult : (w.dtlsTransport.processDtlsData env.ssl data).result with
  | error fault =>
      obtain ⟨hannouncement, hnone⟩ := hcall.error fault hresult
      refine (foldlM_onDtlsEvent_spec _ w).mono ?_ ?_
      · intro _ w' _
        refine ⟨nofun, ?_⟩
        intro fault' hfault'
        cases hfault'
        rw [handshakeFault, hannouncement]
      · rintro _ fault' ⟨keys, hmem, -⟩
        rw [hnone] at hmem
        cases hmem
  | ok d' =>
      obtain ⟨keys, hannouncement, hevents⟩ := hcall.ok d' hresult
      rw [handshakeFault, hannouncement]
      refine (foldlM_onDtlsEvent_spec _ w).mono ?_ ?_
      · intro _ w' hcreates
        refine ⟨?_, nofun⟩
        intro d'' _
        rw [spec_pure]
        cases keys with
        | none => rfl
        | some keys =>
            obtain ⟨session, hsession⟩ := hcreates keys (by rw [hevents]; simp)
            rw [hkeys keys hannouncement] at hsession
            cases hfault : sessionFault env.srtp keys with
            | none => exact hfault
            | some fault =>
                rw [hfault] at hsession
                cases hsession
      · rintro _ fault ⟨keys', hmem, hfault⟩
        rw [hevents] at hmem
        cases keys with
        | none => cases hmem
        | some keys =>
            have heq : keys' = keys := by simpa using hmem
            subst heq
            rw [hkeys keys' hannouncement] at hfault
            cases hpredicted : sessionFault env.srtp keys' with
            | none =>
                rw [hpredicted] at hfault
                cases hfault
            | some fault' =>
                rw [hpredicted] at hfault
                cases hfault
                exact hpredicted

theorem inputDtls_coherent {env : Outcomes} {w : WebRtcTransport κ}
    (h : DtlsTransport.Coherent w.dtlsTransport) (data : Bytes) :
    (inputDtls env w data).Post fun _ w' => DtlsTransport.Coherent w'.dtlsTransport := by
  apply Post.bind
  apply Post.handle
  constructor
  intro d' hd'
  exact ⟨fun _ _ => Post.pure ((DtlsTransport.processDtlsData_spec h data).ok d' hd').1⟩

/-! ## The STUN branch -/

/-- `Run(SERVER)` never faults, and nothing it notifies makes a session. -/
theorem onIceEvent_selected_spec {env : Outcomes} {w : WebRtcTransport κ}
    (h : DtlsTransport.Coherent w.dtlsTransport) (tuple : SockAddrIn) :
    (onIceEvent env w (.selectedTuple tuple)).Spec
      (fun _ w' => DtlsTransport.Coherent w'.dtlsTransport) fun _ _ => False := by
  have hrun : (w.dtlsTransport.run env.ssl .server).Spec _ _ := DtlsTransport.run_spec h .server
  have hnone : (w.dtlsTransport.run env.ssl .server).trace.filterMap announced = [] := by
    rw [List.filterMap_eq_nil_iff]
    intro e he
    rw [DtlsTransport.run_server_only.out e he]
    rfl
  unfold onIceEvent
  simp only
  rw [spec_bind, spec_emit, spec_bind, spec_handle]
  refine (foldlM_onDtlsEvent_spec _ _).mono ?_ ?_
  · intro _ w' _
    refine ⟨?_, fun fault hfault => (hrun.error fault hfault).1.2.2 rfl⟩
    intro d' hd'
    rw [spec_pure]
    exact (hrun.ok d' hd').1
  · rintro _ fault ⟨keys, hmem, -⟩
    rw [hnone] at hmem
    cases hmem

theorem onIceEvent_coherent {env : Outcomes} {w : WebRtcTransport κ}
    (h : DtlsTransport.Coherent w.dtlsTransport) (event : IceEvent) :
    (onIceEvent env w event).Post fun _ w' => DtlsTransport.Coherent w'.dtlsTransport := by
  cases event with
  | sendStunPacket packet tuple =>
      apply Post.bind
      exact sendPacket_post.mono fun _ _ _ => Post.pure h
  | selectedTuple tuple => exact ⟨(onIceEvent_selected_spec h tuple).ok⟩

/-- The STUN branch never faults on a datagram that UDP can carry. -/
theorem inputStun_spec {platform : Platform} {env : Outcomes} {w : WebRtcTransport κ}
    (h : DtlsTransport.Coherent w.dtlsTransport) {data : Bytes} (hlen : data.length ≤ 65535)
    (remoteAddress : SockAddrIn) :
    (inputStun platform env w data remoteAddress).Spec (fun _ _ => True) fun _ _ => False := by
  rcases StunPacket.parse_cases data hlen with ⟨base, rs, -, -, hparse⟩ | ⟨-, hparse⟩
  · rw [inputStun_eq ⟨data, _, hparse⟩, spec_bind]
    refine (Spec.foldlM (I := fun w => DtlsTransport.Coherent w.dtlsTransport) ?_ h).mono ?_
      fun _ _ hfalse => hfalse
    · intro w' event hevent hw'
      rcases List.mem_append.mp hevent with hsend | hselect
      · obtain ⟨response, hresponse, rfl⟩ := List.mem_map.mp hsend
        have hsome := Option.mem_toList.mp hresponse
        rw [onIceEvent_response _ (IceServer.response_exactSize platform.hmac hsome)]
        exact ⟨fun _ heq => Except.ok.inj heq ▸ hw', nofun⟩
      · unfold IceServer.Verdict.selection at hselect
        split at hselect
        · rw [List.mem_singleton.mp hselect]
          exact onIceEvent_selected_spec hw' remoteAddress
        · cases hselect
    · exact fun _ _ _ => spec_pure.mpr trivial
  · unfold inputStun
    rw [hparse, lift_ok_bind]
    exact spec_pure.mpr trivial

theorem inputStun_coherent {platform : Platform} {env : Outcomes} {w : WebRtcTransport κ}
    (h : DtlsTransport.Coherent w.dtlsTransport) (data : Bytes) (remoteAddress : SockAddrIn) :
    (inputStun platform env w data remoteAddress).Post fun _ w' =>
      DtlsTransport.Coherent w'.dtlsTransport := by
  apply Post.bind
  apply Post.lift
  intro packet _
  cases packet with
  | none => exact Post.pure h
  | some packet =>
      apply Post.bind
      refine (Post.handle_keeps (I := fun w => DtlsTransport.Coherent w.dtlsTransport) ?_ h).mono ?_
      · exact fun w' event hw' => onIceEvent_coherent hw' event
      · exact fun _ _ hr => Post.pure hr

/-! ## Single steps -/

/-- The fault of a call, from the transport before it. -/
def faultOf (platform : Platform) (w : WebRtcTransport κ) : Input κ → Option Fault
  | .onInputDataPacket env data _ =>
      match branch data with
      | .ok .dtls => handshakeFault env w.dtlsTransport
      | .ok .rtp => if w.rtpChannel ∧ w.srtpSession = none then some .nullPointer else none
      | _ => none
  | .encryptAndSendRtpPacket env data =>
      match w.srtpSession with
      | some session =>
          if data.length + platform.srtpMaxTrailerLen ≤ SrtpSession.kEncryptBufferSize then
            match env.srtp.protect session data with
            | .error len =>
                if w.transport.isSome ∧ data.length < len then some .outOfBounds else none
            | .ok _ => none
          else none
      | none => none
  | .setNetworkTransport _ | .setRTPChannel _ => none

section Steps

variable {platform : Platform} {env : Outcomes} {w : WebRtcTransport κ}
  {τ : List (WebRtcEvent κ)}

theorem inputRtp_spec (data : Bytes) : (inputRtp env w data).Spec
    (fun _ w' => w' = w ∧ (if w.rtpChannel ∧ w.srtpSession = none then some Fault.nullPointer
      else none) = none)
    fun _ fault => (if w.rtpChannel ∧ w.srtpSession = none then some Fault.nullPointer
      else none) = some fault := by
  unfold inputRtp
  by_cases hchannel : w.rtpChannel = true
  · cases hsession : w.srtpSession with
    | none => simp [hchannel, spec_fail]
    | some session => simp [hchannel, spec_bind, spec_emit, spec_pure]
  · simp [hchannel, spec_pure]

theorem onInputDataPacket_spec (h : Inv τ w) (hcoherent : DtlsTransport.Coherent w.dtlsTransport)
    {data : Bytes} (hlen : data.length ≤ 65535) (remoteAddress : SockAddrIn) :
    (w.onInputDataPacket platform env data remoteAddress).Spec
      (fun _ _ => faultOf platform w (.onInputDataPacket env data remoteAddress) = none)
      fun _ fault => faultOf platform w (.onInputDataPacket env data remoteAddress) = some fault := by
  obtain ⟨kind, hkind⟩ := branch_total data
  rw [onInputDataPacket_eq, hkind, lift_ok_bind, faultOf, hkind]
  cases kind with
  | stun =>
      refine (inputStun_spec hcoherent hlen remoteAddress).mono ?_ fun _ _ hfalse => hfalse.elim
      exact fun _ _ _ => rfl
  | dtls => exact inputDtls_spec hcoherent h.side data
  | rtp => exact (inputRtp_spec data).mono (fun _ _ hw' => hw'.2) fun _ _ hfault => hfault
  | rtcp => exact spec_pure.mpr rfl
  | other => exact spec_pure.mpr rfl

theorem onInputDataPacket_coherent (h : DtlsTransport.Coherent w.dtlsTransport) (data : Bytes)
    (remoteAddress : SockAddrIn) :
    (w.onInputDataPacket platform env data remoteAddress).Post fun _ w' =>
      DtlsTransport.Coherent w'.dtlsTransport := by
  rw [onInputDataPacket_eq]
  apply Post.bind
  apply Post.lift
  intro kind _
  cases kind with
  | stun => exact inputStun_coherent h data remoteAddress
  | dtls => exact inputDtls_coherent h data
  | rtp => exact ⟨fun w' hw' => ((inputRtp_spec data).ok w' hw').1 ▸ h⟩
  | rtcp => exact Post.pure h
  | other => exact Post.pure h

/-- `SendPacket` reads past the packet exactly when there is a network transport
and the length is too large. -/
theorem sendPacket_spec (kind : PacketKind) (v : SrtpSession.View) (remoteAddress : SockAddrIn) :
    (do
      w.sendPacket kind v remoteAddress
      return w : Call κ (WebRtcTransport κ)).Spec
      (fun _ w' => w' = w ∧ (if w.transport.isSome ∧ v.data.length < v.len then
        some Fault.outOfBounds else none) = none)
      fun _ fault => (if w.transport.isSome ∧ v.data.length < v.len then
        some Fault.outOfBounds else none) = some fault := by
  have htake : (v.data.take v.len).length < v.len ↔ v.data.length < v.len := by
    rw [List.length_take]
    omega
  unfold sendPacket
  rw [spec_bind, spec_bind, spec_emit]
  simp only [htake]
  split
  · exact spec_fail.mpr rfl
  · exact spec_pure.mpr (spec_pure.mpr ⟨rfl, rfl⟩)

theorem encryptAndSendRtpPacket_spec (h : Inv τ w) (data : Bytes) :
    (w.encryptAndSendRtpPacket platform env data).Spec
      (fun _ w' => w' = w ∧ faultOf platform w (.encryptAndSendRtpPacket env data) = none)
      fun _ fault => faultOf platform w (.encryptAndSendRtpPacket env data) = some fault := by
  have hplain : (if w.transport.isSome ∧ data.length < data.length then some Fault.outOfBounds
      else none) = none := if_neg fun hlt => Nat.lt_irrefl _ hlt.2
  have hsend := sendPacket_spec (w := w) .rtp ⟨data, data.length⟩ w.remoteSocketAddress
  rw [hplain] at hsend
  unfold encryptAndSendRtpPacket
  cases hkeys : lastKeys τ with
  | none =>
      have hready : w.isReady = false := by rw [h.tracks.ready, hkeys]; rfl
      have hsession : w.srtpSession = none := by rw [h.tracks.session, hkeys]; rfl
      rw [faultOf, hsession, hready]
      exact hsend
  | some keys =>
      have hready : w.isReady = true := by rw [h.tracks.ready, hkeys]; rfl
      have hsession := h.session_of_keys hkeys
      have henc : keys.session.encryptRtp env.srtp platform.srtpMaxTrailerLen
          ⟨data, data.length⟩ = _ := encryptRtp_eq rfl data
      rw [faultOf, hsession, hready]
      simp only [if_true, henc]
      by_cases hfit : data.length + platform.srtpMaxTrailerLen ≤ SrtpSession.kEncryptBufferSize
      · rw [if_neg (Nat.not_lt.mpr hfit)]
        simp only [if_pos hfit]
        cases env.srtp.protect keys.session data with
        | ok packet =>
            have hprotected := sendPacket_spec (w := w) .rtp ⟨packet, packet.length⟩
              w.remoteSocketAddress
            rw [if_neg fun hlt => Nat.lt_irrefl _ hlt.2] at hprotected
            exact hprotected
        | error len => exact sendPacket_spec .rtp ⟨data, len⟩ w.remoteSocketAddress
      · rw [if_pos (Nat.lt_of_not_le hfit), if_neg hfit]
        exact hsend

theorem step_spec (h : Inv τ w) (hcoherent : DtlsTransport.Coherent w.dtlsTransport)
    {input : Input κ} (hlen : ∀ env data remoteAddress,
      input = .onInputDataPacket env data remoteAddress → data.length ≤ 65535) :
    (step platform w input).Spec (fun _ _ => faultOf platform w input = none)
      fun _ fault => faultOf platform w input = some fault := by
  cases input with
  | onInputDataPacket env data remoteAddress =>
      exact onInputDataPacket_spec h hcoherent (hlen env data remoteAddress rfl) remoteAddress
  | encryptAndSendRtpPacket env data =>
      exact (encryptAndSendRtpPacket_spec h data).mono (fun _ _ hw' => hw'.2)
        fun _ _ hfault => hfault
  | setNetworkTransport transport => exact spec_pure.mpr rfl
  | setRTPChannel channel => exact spec_pure.mpr rfl

theorem step_coherent (h : DtlsTransport.Coherent w.dtlsTransport) (input : Input κ) :
    (step platform w input).Post fun _ w' => DtlsTransport.Coherent w'.dtlsTransport := by
  cases input with
  | onInputDataPacket env data remoteAddress =>
      exact onInputDataPacket_coherent h data remoteAddress
  | encryptAndSendRtpPacket env data =>
      exact encryptAndSendRtpPacket_post.mono fun _ _ hw' => hw' ▸ h
  | setNetworkTransport transport => exact Post.pure h
  | setRTPChannel channel => exact Post.pure h

end Steps

/-! ## The RTP channel -/

section Channel

variable {platform : Platform} {env : Outcomes} {w : WebRtcTransport κ} {channel : Bool}

end Channel

/-! ## Foreign code -/

/-- The call stops with a fault exactly when, and as, the transport before it says. -/
def FaultsAsPredicted (platform : Platform) (_ : List (WebRtcEvent κ)) (w : WebRtcTransport κ)
    (input : Input κ) : Prop :=
  ∀ fault, (step platform w input).result = .error fault ↔ faultOf platform w input = some fault

/-- Over every run of a transport, whatever the datagrams, OpenSSL and libsrtp do,
a call stops exactly with the fault that `faultOf` reads off the transport before
it. -/
theorem faults_as_predicted (platform : Platform) (usernameFragment password : Bytes)
    (uninitialised : SockAddrIn) (inputs : List (Input κ))
    (hlen : ∀ env data remoteAddress,
      .onInputDataPacket env data remoteAddress ∈ inputs → data.length ≤ 65535) :
    Along (step platform) (FaultsAsPredicted platform) []
      (create usernameFragment password uninitialised) inputs := by
  refine Along.of_inv (I := fun τ w => Inv τ w ∧ DtlsTransport.Coherent w.dtlsTransport) ?_ ?_
    ⟨Inv.create usernameFragment password uninitialised, DtlsTransport.Coherent.init⟩
  · rintro τ w input ⟨hinv, hcoherent⟩
    exact (hinv.step input).and (step_coherent hcoherent input)
  · rintro τ w input hinput ⟨hinv, hcoherent⟩
    exact (step_spec hinv hcoherent fun env data remoteAddress heq =>
      hlen env data remoteAddress (heq ▸ hinput)).error_iff

/-- A publisher's first packet, before any handshake. -/
theorem faults_as_predicted_plaintext :
    faultOf samplePlatform (freshTransport.setRTPChannel true)
        (.onInputDataPacket quiet plaintextRtp ⟨0, 0⟩) = some .nullPointer ∧
      Along (step samplePlatform) (FaultsAsPredicted samplePlatform) [] freshTransport
        [.setRTPChannel true, .onInputDataPacket quiet plaintextRtp ⟨0, 0⟩] := by
  refine ⟨by decide, faults_as_predicted samplePlatform _ _ _ _ ?_⟩
  intro env data remoteAddress hmem
  rcases List.mem_cons.mp hmem with heq | hmem
  · cases heq
  · cases List.mem_singleton.mp hmem
    decide

end EasyWebRtc.Rtc.WebRtcTransport
