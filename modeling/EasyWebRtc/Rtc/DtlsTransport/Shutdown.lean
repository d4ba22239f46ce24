import EasyWebRtc.Rtc.DtlsTransport.Machine

/-!
# Errors that `CheckStatus` does not look at

`CheckStatus` tests for a fatal error or a close alert only if no handshake has
been reported as finished. When both fall into one `SSL_read`, or when a
renegotiation was reported during an earlier `SSL_write`, the transport goes on.
-/

namespace EasyWebRtc.Rtc.DtlsTransport

open Octets Utils Traced

/-- A fatal error, or the close alert of the peer. -/
def BadStatus (ssl : OpenSsl) : Prop :=
  ssl.error = .ssl ∨ ssl.error = .syscall ∨ ssl.receivedShutdown = true

/-- The transport is FAILED or CLOSED and the listener was told so. -/
def Stopped (τ : List DtlsEvent) (d : DtlsTransport) : Prop :=
  (d.state = .failed ∧ .failed ∈ τ) ∨ (d.state = .closed ∧ .closed ∈ τ)

/-- If `CheckStatus` finds a bad status, the transport is stopped when
`ProcessDtlsData` returns. -/
def StopsOnBadStatus (ssl : OpenSsl) (d : DtlsTransport) (data : Bytes) : Prop :=
  d.isRunning = true → BadStatus ssl → (processDtlsData ssl d data).Post Stopped

/-! ## The condition -/

/-- A finished handshake is reported by this `SSL_read`, or was by an earlier call
and is not yet processed. -/
def handshakePending (ssl : OpenSsl) (d : DtlsTransport) : Bool :=
  d.handshakeDoneNow || ssl.handshakeDoneInTransfer

/-- The handshake has negotiated an offered profile, and its keys can be
exported. -/
def yieldsKeys (ssl : OpenSsl) : Bool :=
  match getNegotiatedSrtpCryptoSuite ssl with
  | .ok cryptoSuite => cryptoSuite ≠ .none && ssl.keyingMaterial.isSome
  | .error _ => false

def timeoutTooHigh (ssl : OpenSsl) : Bool :=
  match ssl.timeout with
  | none => false
  | some (tvSec, tvUsec) => !decide (tvSec * 1000 + tvUsec / 1000 < 30000)

/-- A running transport with a bad status has no finished handshake to process,
or one without keys, or a timeout that is too high. -/
def ErrorNotMissed (ssl : OpenSsl) (d : DtlsTransport) : Prop :=
  d.isRunning = true → BadStatus ssl →
    handshakePending ssl d = false ∨ (d.handshakeDone = false ∧ yieldsKeys ssl = false) ∨
      timeoutTooHigh ssl = true

/-! ## `CheckStatus` and `SetTimeout` -/

section

variable {ssl : OpenSsl} {d : DtlsTransport}

theorem Stopped.extend {τ : List DtlsEvent} (h : Stopped τ d) (before after : List DtlsEvent) :
    Stopped (before ++ τ ++ after) d := by
  rcases h with ⟨hstate, he⟩ | ⟨hstate, he⟩
  · exact .inl ⟨hstate, by simp [he]⟩
  · exact .inr ⟨hstate, by simp [he]⟩

theorem fail_stopped : (fail ssl d).Spec Stopped fun _ _ => False := by
  rw [fail, spec_bind, spec_emit]
  exact spec_pure.mpr (.inl ⟨rfl, List.mem_cons_self⟩)

theorem checkStatus_bad (hflag : d.handshakeDoneNow = false) (hbad : BadStatus ssl) :
    (checkStatus ssl d).Spec (fun τ r => r.1 = false ∧ Stopped τ r.2) fun _ _ => False := by
  have htest : ssl.receivedShutdown = true ∨ ssl.error = .ssl ∨ ssl.error = .syscall := by
    rcases hbad with h | h | h
    · exact .inr (.inl h)
    · exact .inr (.inr h)
    · exact .inl h
  unfold checkStatus
  simp only [hflag, Bool.false_eq_true, if_false, if_pos htest]
  split
  · rw [spec_bind, spec_emit]
    exact spec_pure.mpr ⟨rfl, .inr ⟨rfl, List.mem_cons_self⟩⟩
  · rw [spec_bind]
    refine fail_stopped.mono ?_ fun _ _ hfalse => hfalse
    intro τ d' hd'
    rw [spec_pure, List.append_nil]
    exact ⟨rfl, hd'⟩

theorem checkStatus_renegotiated (hflag : d.handshakeDoneNow = true)
    (hdone : d.handshakeDone = true) :
    checkStatus ssl d = pure (true, { d with handshakeDoneNow := false, handshakeDone := true }) := by
  simp [checkStatus, hflag, hdone]

theorem checkStatus_finished (hflag : d.handshakeDoneNow = true) (hdone : d.handshakeDone = false) :
    checkStatus ssl d =
      processHandshake ssl { d with handshakeDoneNow := false, handshakeDone := true } := by
  simp [checkStatus, hflag, hdone]

theorem processHandshake_noKeys (hkeys : yieldsKeys ssl = false) :
    (processHandshake ssl d).Spec (fun τ r => r.1 = false ∧ Stopped τ r.2) fun _ _ => True := by
  unfold processHandshake
  split
  · exact spec_fail.mpr trivial
  · rw [spec_bind, spec_lift]
    refine ⟨?_, fun _ _ => trivial⟩
    intro cryptoSuite hsuite
    split
    · rename_i hne
      have hmaterial : ssl.keyingMaterial = none := by
        cases hm : ssl.keyingMaterial with
        | none => rfl
        | some material => simp [yieldsKeys, hsuite, hne, hm] at hkeys
      rw [spec_bind, extractSrtpKeys, spec_bind, spec_lift]
      refine ⟨?_, fun _ _ => trivial⟩
      intro lengths _
      rw [hmaterial]
      exact spec_fail.mpr trivial
    · rw [spec_bind]
      refine fail_stopped.mono ?_ fun _ _ hfalse => hfalse.elim
      intro τ d' hd'
      rw [spec_pure, List.append_nil]
      exact ⟨rfl, hd'⟩

theorem processHandshake_keys (hrole : d.localRole = .client ∨ d.localRole = .server)
    (hdone : d.handshakeDone = true) (hkeys : yieldsKeys ssl = true) :
    (processHandshake ssl d).Spec (fun _ r => r.1 = true ∧ r.2.isRunning = true)
      fun _ _ => False := by
  unfold yieldsKeys at hkeys
  split at hkeys
  · rename_i cryptoSuite hsuite
    rw [Bool.and_eq_true, decide_eq_true_eq] at hkeys
    obtain ⟨material, hmaterial⟩ := Option.isSome_iff_exists.mp hkeys.2
    obtain ⟨keyLen, saltLen, hlengths⟩ := masterLengths_of_ne_none hkeys.1
    obtain ⟨keys, hsplit⟩ := splitMaterial_of_role material keyLen saltLen hrole
    rw [processHandshake, hdone, Bool.not_true, if_neg Bool.false_ne_true, hsuite, spec_bind,
      spec_lift]
    refine ⟨?_, by intro _ h; cases h⟩
    intro cryptoSuite' hok
    cases hok
    rw [if_pos hkeys.1, spec_bind, extractSrtpKeys, hlengths, hmaterial, spec_bind, spec_lift]
    refine ⟨?_, by intro _ h; cases h⟩
    intro lengths hok
    cases hok
    simp only [hsplit]
    rw [spec_bind, spec_lift]
    refine ⟨?_, by intro _ h; cases h⟩
    intro keys' _
    rw [spec_bind, spec_emit, spec_pure, spec_pure]
    exact ⟨rfl, rfl⟩
  · cases hkeys

theorem setTimeout_tooHigh (hrunning : d.isRunning = true) (htimeout : timeoutTooHigh ssl = true) :
    (setTimeout ssl d).Spec (fun τ r => r.1 = false ∧ Stopped τ r.2) fun _ _ => False := by
  have hstate := (isRunning_iff d).mp hrunning
  unfold timeoutTooHigh at htimeout
  split at htimeout
  · cases htimeout
  · rename_i tvSec tvUsec hvalue
    have hhigh : ¬ tvSec * 1000 + tvUsec / 1000 < 30000 := by simpa using htimeout
    have hnonzero : tvSec * 1000 + tvUsec / 1000 ≠ 0 := by
      intro hzero
      rw [hzero] at hhigh
      exact hhigh (by decide)
    rw [setTimeout, if_neg (by rw [← not_or, not_not]; exact hstate), hvalue]
    simp only [if_neg hnonzero, if_neg hhigh]
    rw [spec_bind]
    refine fail_stopped.mono ?_ fun _ _ hfalse => hfalse
    intro τ d' hd'
    rw [spec_pure, List.append_nil]
    exact ⟨rfl, hd'⟩

theorem setTimeout_low (hrunning : d.isRunning = true) (htimeout : timeoutTooHigh ssl = false) :
    setTimeout ssl d = pure (true, d) := by
  have hstate := (isRunning_iff d).mp hrunning
  rw [setTimeout, if_neg (by rw [← not_or, not_not]; exact hstate)]
  cases hvalue : ssl.timeout with
  | none => rfl
  | some value =>
      obtain ⟨tvSec, tvUsec⟩ := value
      have hlow : tvSec * 1000 + tvUsec / 1000 < 30000 := by
        simpa [timeoutTooHigh, hvalue] using htimeout
      simp only [if_pos hlow, ite_self]

/-- The bad status is looked at, or the handshake ends the round itself. -/
theorem checkStatus_stops (hbad : BadStatus ssl) (h : d.handshakeDoneNow = false ∨
      (d.handshakeDone = false ∧ yieldsKeys ssl = false)) :
    (checkStatus ssl d).Spec (fun τ r => r.1 = false ∧ Stopped τ r.2) fun _ _ => True := by
  cases hflag : d.handshakeDoneNow with
  | false => exact (checkStatus_bad hflag hbad).mono (fun _ _ hr => hr) fun _ _ _ => trivial
  | true =>
      rw [hflag] at h
      obtain hfalse | ⟨hdone, hkeys⟩ := h
      · cases hfalse
      · rw [checkStatus_finished hflag hdone]
        exact processHandshake_noKeys hkeys

/-- The bad status is passed over. -/
theorem checkStatus_goesOn (hcoherent : Coherent d) (hrunning : d.isRunning = true)
    (hflag : d.handshakeDoneNow = true) (h : d.handshakeDone = true ∨ yieldsKeys ssl = true) :
    (checkStatus ssl d).Spec (fun _ r => r.1 = true ∧ r.2.isRunning = true) fun _ _ => False := by
  cases hdone : d.handshakeDone with
  | true =>
      rw [checkStatus_renegotiated hflag hdone, spec_pure]
      exact ⟨rfl, hrunning⟩
  | false =>
      rw [hdone] at h
      obtain hfalse | hkeys := h
      · cases hfalse
      · rw [checkStatus_finished hflag hdone]
        exact processHandshake_keys (hcoherent.role.mpr ((isRunning_iff d).mp hrunning)) rfl hkeys

/-! ## `ProcessDtlsData` -/

/-- `ProcessDtlsData` ends where `CheckStatus` and `SetTimeout` end, for what
further events do not take back. -/
theorem processDtlsData_rule (hrunning : d.isRunning = true) (data : Bytes)
    {Q : List DtlsEvent → DtlsTransport → Prop} {F : Fault → Prop}
    (hextend : ∀ {τ d'}, Q τ d' → ∀ before after, Q (before ++ τ ++ after) d')
    (h : (checkStatus ssl (d.onSslInfo ssl.handshakeDoneInTransfer)).Spec
      (fun τ r => (r.1 = false ∧ Q τ r.2) ∨ (r.1 = true ∧
        (setTimeout ssl r.2).Spec (fun τ' r' => Q (τ ++ τ') r'.2) fun _ fault => F fault))
      fun _ fault => F fault) :
    (processDtlsData ssl d data).Spec Q fun _ fault => F fault := by
  rw [processDtlsData, hrunning, Bool.not_true, if_neg Bool.false_ne_true, spec_bind, spec_emit,
    spec_bind]
  refine sendPendingOutgoingDtlsData_spec.mono ?_ fun _ _ hfalse => hfalse.elim
  intro τ₁ _ _
  rw [spec_bind]
  refine h.mono ?_ fun _ _ hfault => hfault
  intro τ₂ r hr
  rcases r with ⟨good, d₁⟩
  have hat : ∀ {τ after d'}, Q τ d' →
      Q ([DtlsEvent.bioWrite data] ++ (τ₁ ++ (τ ++ after))) d' := by
    intro τ after d' hd'
    have hlong := hextend hd' ([DtlsEvent.bioWrite data] ++ τ₁) after
    simpa using hlong
  rcases hr with ⟨rfl, hq⟩ | ⟨rfl, htimeout⟩
  · exact spec_pure.mpr (hat hq)
  · simp only [Bool.not_true, Bool.false_eq_true, if_false]
    rw [spec_bind]
    refine htimeout.mono ?_ fun _ _ hfault => hfault
    intro τ₃ r₁ hr₁
    have hend : ∀ after, Q ([DtlsEvent.bioWrite data] ++ (τ₁ ++ (τ₂ ++ (τ₃ ++ after)))) r₁.2 := by
      intro after
      rw [← List.append_assoc τ₂]
      exact hat hr₁
    split
    · exact spec_pure.mpr (hend _)
    · split
      · split
        · exact spec_pure.mpr (hend _)
        · rw [spec_bind, spec_emit, spec_pure]
          exact hend _
      · exact spec_pure.mpr (hend _)

theorem onSslInfo_flag (handshakeDone : Bool) :
    (d.onSslInfo handshakeDone).handshakeDoneNow = (d.handshakeDoneNow || handshakeDone) := by
  cases handshakeDone <;> simp [onSslInfo]

theorem onSslInfo_handshakeDone (handshakeDone : Bool) :
    (d.onSslInfo handshakeDone).handshakeDone = d.handshakeDone := by
  cases handshakeDone <;> rfl

theorem onSslInfo_isRunning (handshakeDone : Bool) :
    (d.onSslInfo handshakeDone).isRunning = d.isRunning := by
  cases handshakeDone <;> rfl

theorem stops_of_errorNotMissed (hcoherent : Coherent d) (h : ErrorNotMissed ssl d) (data : Bytes) :
    StopsOnBadStatus ssl d data := by
  intro hrunning hbad
  have hread := hcoherent.onSslInfo ssl.handshakeDoneInTransfer
  have hreading := (onSslInfo_isRunning (d := d) ssl.handshakeDoneInTransfer).trans hrunning
  have hspec : (processDtlsData ssl d data).Spec Stopped fun _ _ => True := by
    refine processDtlsData_rule hrunning data Stopped.extend ?_
    by_cases hstops : (d.onSslInfo ssl.handshakeDoneInTransfer).handshakeDoneNow = false ∨
        ((d.onSslInfo ssl.handshakeDoneInTransfer).handshakeDone = false ∧ yieldsKeys ssl = false)
    · exact (checkStatus_stops hbad hstops).mono (fun _ _ hr => .inl hr) fun _ _ _ => trivial
    · -- The status is passed over, so the timeout must be too high.
      have htimeout : timeoutTooHigh ssl = true := by
        rw [onSslInfo_flag, onSslInfo_handshakeDone] at hstops
        rcases h hrunning hbad with hp | hk | ht
        · exact (hstops (.inl hp)).elim
        · exact (hstops (.inr hk)).elim
        · exact ht
      rw [not_or, not_and_or, Bool.not_eq_false, Bool.not_eq_false, Bool.not_eq_false] at hstops
      refine (checkStatus_goesOn hread hreading hstops.1 hstops.2).mono ?_
        fun _ _ hfalse => hfalse.elim
      intro τ r hr
      refine .inr ⟨hr.1, ?_⟩
      refine (setTimeout_tooHigh hr.2 htimeout).mono ?_ fun _ _ hfalse => hfalse.elim
      intro τ' r' hr'
      have hlong := hr'.2.extend τ []
      rwa [List.append_nil] at hlong
  exact ⟨hspec.ok⟩

theorem runs_of_errorMissed (hcoherent : Coherent d) (hrunning : d.isRunning = true)
    (hpending : handshakePending ssl d = true)
    (hgoes : d.handshakeDone = true ∨ yieldsKeys ssl = true) (htimeout : timeoutTooHigh ssl = false)
    (data : Bytes) :
    ∃ d', (processDtlsData ssl d data).result = .ok d' ∧ d'.isRunning = true := by
  have hread := hcoherent.onSslInfo ssl.handshakeDoneInTransfer
  have hreading := (onSslInfo_isRunning (d := d) ssl.handshakeDoneInTransfer).trans hrunning
  have hspec : (processDtlsData ssl d data).Spec (fun _ d' => d'.isRunning = true)
      fun _ _ => False := by
    refine processDtlsData_rule hrunning data (fun hd' _ _ => hd') ?_
    refine (checkStatus_goesOn hread hreading ?_ ?_).mono ?_ fun _ _ hfalse => hfalse
    · rw [onSslInfo_flag]
      exact hpending
    · rw [onSslInfo_handshakeDone]
      exact hgoes
    · intro τ r hr
      refine .inr ⟨hr.1, ?_⟩
      rw [setTimeout_low hr.2 htimeout, spec_pure]
      exact hr.2
  exact hspec.exists_ok

theorem stopsOnBadStatus_iff (hcoherent : Coherent d) (data : Bytes) :
    StopsOnBadStatus ssl d data ↔ ErrorNotMissed ssl d := by
  constructor
  · intro h hrunning hbad
    by_contra hmissed
    rw [not_or, not_or, not_and_or, Bool.not_eq_false, Bool.not_eq_false, Bool.not_eq_false,
      Bool.not_eq_true] at hmissed
    obtain ⟨hpending, hgoes, htimeout⟩ := hmissed
    obtain ⟨d', hd', hstill⟩ := runs_of_errorMissed hcoherent hrunning hpending hgoes htimeout data
    rw [isRunning_iff] at hstill
    rcases (h hrunning hbad).out d' hd' with ⟨hstate, _⟩ | ⟨hstate, _⟩
    · simp [hstate] at hstill
    · simp [hstate] at hstill
  · intro h
    exact stops_of_errorNotMissed hcoherent h data

end

/-- In every reachable state a bad status stops the transport exactly if it comes
without a pending handshake, or with one that ends the round by itself. -/
theorem bad_status_stops_iff {inputs : List Input} {τ : List DtlsEvent} {d : DtlsTransport}
    (hrun : Traced.run step [] {} inputs = some (τ, d)) (ssl : OpenSsl) (data : Bytes) :
    StopsOnBadStatus ssl d data ↔ ErrorNotMissed ssl d := by
  have hcoherent : Coherent d := by
    refine Traced.run_inv (I := fun _ d => Coherent d) ?_ Coherent.init hrun
    intro _ d input _ hd
    exact ⟨fun d' hd' => ((step_spec hd input).ok d' hd').1⟩
  exact stopsOnBadStatus_iff hcoherent data

def listening : DtlsTransport := { state := .connecting, localRole := .server }

theorem Coherent.listening : Coherent listening := by
  constructor <;> simp [DtlsTransport.listening]

theorem listening_reachable :
    Traced.run step [] {} [.run {} .server] = some ([.connecting], listening) := rfl

theorem bad_status_stops_iff_listening :
    StopsOnBadStatus { error := .ssl } listening [22] :=
  (bad_status_stops_iff listening_reachable _ _).mpr fun _ _ => .inl rfl

/-- One datagram with the last flight of the handshake and a close alert. -/
def finishedAndClosed : OpenSsl where
  handshakeDoneInTransfer := true
  error := .zeroReturn
  receivedShutdown := true
  srtpProfile := some "SRTP_AES128_CM_SHA1_80"
  keyingMaterial := some fun _ => 0

/-- The close alert is not looked at, and the transport is left connected. -/
theorem bad_status_missed :
    Traced.run step [] {} [.run {} .server] = some ([.connecting], listening) ∧
      ¬ StopsOnBadStatus finishedAndClosed listening [22] := by
  refine ⟨rfl, ?_⟩
  rw [stopsOnBadStatus_iff Coherent.listening]
  intro h
  have hseen := h rfl (.inr (.inr rfl))
  revert hseen
  decide

end EasyWebRtc.Rtc.DtlsTransport
