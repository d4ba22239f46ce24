import EasyWebRtc.Rtc.DtlsTransport.Keys

/-!
# The DTLS transport as a state machine

State, role and the handshake flags are written by functions that call each
other. Between calls they are coherent, and the notifications of a call take the
transport from the phase of its state before to the phase of its state after it.
Both follow from one specification per function.
-/

namespace EasyWebRtc.Rtc.DtlsTransport

open Octets Utils Traced

/-! ## Calls -/

inductive Input where
  | run (ssl : OpenSsl) (localRole : DtlsRole)
  | setRemoteFingerprint (ssl : OpenSsl) (fingerprint : DtlsFingerprint)
  | processDtlsData (ssl : OpenSsl) (data : Bytes)
  | sendApplicationData (ssl : OpenSsl) (data : Bytes)

def step (d : DtlsTransport) : Input → Call DtlsTransport
  | .run ssl localRole => d.run ssl localRole
  | .setRemoteFingerprint ssl fingerprint => do
      let (_, d) ← d.setRemoteFingerprint ssl fingerprint
      return d
  | .processDtlsData ssl data => d.processDtlsData ssl data
  | .sendApplicationData ssl data => d.sendApplicationData ssl data

/-! ## Phases -/

/-- How far the current round of notifications is. -/
inductive Phase where
  | idle
  | connecting
  | connected
  deriving DecidableEq, Repr

def phase (d : DtlsTransport) : Phase :=
  match d.state with
  | .connecting => .connecting
  | .connected => .connected
  | .new | .failed | .closed => .idle

inductive Notification where
  | connecting
  | connected
  | applicationData
  | failed
  | closed
  deriving DecidableEq, Repr

def notification : DtlsEvent → Option Notification
  | .connecting => some .connecting
  | .connected _ _ _ => some .connected
  | .applicationData _ => some .applicationData
  | .failed => some .failed
  | .closed => some .closed
  | .sendData _ | .bioWrite _ => none

/-- The notifications that may come next. -/
def Phase.advance : Phase → Notification → Option Phase
  | _, .connecting => some .connecting
  | .connecting, .connected => some .connected
  | .connected, .applicationData => some .connected
  | .connecting, .failed | .connected, .failed => some .idle
  | .connected, .closed => some .idle
  | _, _ => none

def Phase.after (p : Phase) (τ : List DtlsEvent) : Option Phase :=
  (τ.filterMap notification).foldlM Phase.advance p

@[simp] theorem Phase.after_nil (p : Phase) : p.after [] = some p := rfl

theorem Phase.after_append (p : Phase) (τ τ' : List DtlsEvent) :
    p.after (τ ++ τ') = (p.after τ).bind fun q => q.after τ' := by
  simp [after, List.foldlM_append]

theorem Phase.after_silent (p : Phase) {τ : List DtlsEvent}
    (h : ∀ e ∈ τ, notification e = none) : p.after τ = some p := by
  have hnone : τ.filterMap notification = [] := by simpa using h
  rw [after, hnone]
  rfl

/-! ## Coherence -/

/-- The transport has a role exactly while it runs, and the handshake is done
exactly while it is connected. -/
structure Coherent (d : DtlsTransport) : Prop where
  role : (d.localRole = .client ∨ d.localRole = .server) ↔
    (d.state = .connecting ∨ d.state = .connected)
  handshake : d.handshakeDone = true ↔ d.state = .connected

theorem Coherent.init : Coherent {} := by
  constructor <;> simp

theorem isRunning_iff (d : DtlsTransport) :
    d.isRunning = true ↔ (d.state = .connecting ∨ d.state = .connected) := by
  unfold isRunning
  cases d.state <;> simp

theorem Coherent.onSslInfo {d : DtlsTransport} (h : Coherent d) (handshakeDone : Bool) :
    Coherent (d.onSslInfo handshakeDone) := by
  unfold DtlsTransport.onSslInfo
  split
  · exact ⟨h.role, h.handshake⟩
  · exact h

@[simp] theorem phase_onSslInfo (d : DtlsTransport) (handshakeDone : Bool) :
    (d.onSslInfo handshakeDone).phase = d.phase := by
  rw [phase, phase, onSslInfo_state]

/-- What a call may do to the transport `d`: it ends in a coherent state that its
notifications lead to. -/
def Moves (d : DtlsTransport) (τ : List DtlsEvent) (d' : DtlsTransport) : Prop :=
  Coherent d' ∧ d.phase.after τ = some d'.phase

theorem Moves.trans {d d₁ d₂ : DtlsTransport} {τ τ' : List DtlsEvent} (h₁ : Moves d τ d₁)
    (h₂ : Moves d₁ τ' d₂) : Moves d (τ ++ τ') d₂ := by
  refine ⟨h₂.1, ?_⟩
  rw [Phase.after_append, h₁.2]
  exact h₂.2

theorem Moves.silent {d d' : DtlsTransport} {τ : List DtlsEvent} (hd : Coherent d')
    (hphase : d'.phase = d.phase) (h : ∀ e ∈ τ, notification e = none) : Moves d τ d' := by
  refine ⟨hd, ?_⟩
  rw [Phase.after_silent _ h, hphase]

/-! ## Specifications -/

/-- The faults of a handshake that OpenSSL does not rule out: a profile that was
not offered, or no keying material. -/
def HandshakeFault (ssl : OpenSsl) (fault : Fault) : Prop :=
  (fault = .abort "chosen SRTP crypto suite is not an available one" ∧
    ∃ name, ssl.srtpProfile = some name ∧ ∀ entry ∈ srtpCryptoSuites, entry.2 ≠ name) ∨
  (fault = .abort "SSL_export_keying_material() failed" ∧ ssl.keyingMaterial = none)

theorem getNegotiatedSrtpCryptoSuite_error {ssl : OpenSsl} {fault : Fault}
    (h : getNegotiatedSrtpCryptoSuite ssl = .error fault) : HandshakeFault ssl fault := by
  unfold getNegotiatedSrtpCryptoSuite at h
  split at h
  · cases h
  · rename_i name hname
    simp only at h
    split at h
    · rename_i hnone
      cases h
      refine .inl ⟨rfl, name, hname, ?_⟩
      intro entry hentry heq
      simp only [srtpCryptoSuites, List.mem_cons, List.not_mem_nil, or_false] at hentry
      rcases hentry with rfl | rfl | rfl | rfl
      all_goals
        subst heq
        revert hnone
        decide
    · cases h

theorem masterLengths_of_ne_none {cryptoSuite : CryptoSuite} (h : cryptoSuite ≠ .none) :
    ∃ keyLen saltLen, masterLengths cryptoSuite = .ok (keyLen, saltLen) := by
  cases cryptoSuite with
  | none => exact (h rfl).elim
  | aesCm128HmacSha1_80 => exact ⟨16, 14, rfl⟩
  | aesCm128HmacSha1_32 => exact ⟨16, 14, rfl⟩
  | aeadAes256Gcm => exact ⟨32, 12, rfl⟩
  | aeadAes128Gcm => exact ⟨16, 12, rfl⟩

theorem splitMaterial_of_role {localRole : DtlsRole} (material : Nat → UInt8) (keyLen saltLen : Nat)
    (h : localRole = .client ∨ localRole = .server) :
    ∃ keys, splitMaterial material keyLen saltLen localRole = .ok keys := by
  rcases h with rfl | rfl
  · exact ⟨_, rfl⟩
  · exact ⟨_, rfl⟩

section Specs

variable {ssl : OpenSsl} {d : DtlsTransport}

theorem reset_of_isRunning (h : d.isRunning = true) :
    d.reset ssl = { d with
      localRole := .none, state := .new, handshakeDone := false, handshakeDoneNow := false } := by
  unfold reset onSslInfo
  rw [h]
  cases ssl.handshakeDoneInShutdown <;> rfl

theorem Moves.stop (hrunning : d.isRunning = true) {d' : DtlsTransport} {e : DtlsEvent}
    (hd' : d' = { d.reset ssl with state := d'.state })
    (h : (d'.state = .failed ∧ e = .failed) ∨
      (d'.state = .closed ∧ e = .closed ∧ d.state = .connected)) :
    Moves d [e] d' := by
  rw [reset_of_isRunning hrunning] at hd'
  have hphase : d.phase = .connecting ∨ d.phase = .connected := by
    unfold phase
    rcases (isRunning_iff d).mp hrunning with hs | hs <;> simp [hs]
  have hcoherent : d'.state = .failed ∨ d'.state = .closed → Coherent d' := by
    intro hs
    rw [hd']
    rcases hs with hs | hs <;> constructor <;> simp [hs]
  rcases h with ⟨hs, rfl⟩ | ⟨hs, rfl, hstate⟩
  · refine ⟨hcoherent (.inl hs), ?_⟩
    rcases hphase with hp | hp <;> rw [hp, phase, hs] <;> rfl
  · refine ⟨hcoherent (.inr hs), ?_⟩
    rw [phase, hstate, phase, hs]
    rfl

theorem fail_spec (hrunning : d.isRunning = true) :
    (fail ssl d).Spec (fun τ d' => Moves d τ d' ∧ d'.state = .failed ∧ .failed ∈ τ)
      fun _ _ => False := by
  rw [fail, spec_bind, spec_emit, spec_pure]
  exact ⟨Moves.stop hrunning rfl (.inl ⟨rfl, rfl⟩), rfl, List.mem_cons_self⟩

theorem extractSrtpKeys_spec {cryptoSuite : CryptoSuite}
    (hrole : d.localRole = .client ∨ d.localRole = .server) (hstate : d.state = .connecting)
    (hdone : d.handshakeDone = true) (hsuite : cryptoSuite ≠ .none) :
    (extractSrtpKeys ssl d cryptoSuite).Spec (fun τ d' => Moves d τ d' ∧ d'.isRunning = true)
      fun τ fault => HandshakeFault ssl fault ∧ τ = [] := by
  obtain ⟨keyLen, saltLen, hlengths⟩ := masterLengths_of_ne_none hsuite
  unfold extractSrtpKeys
  rw [hlengths]
  rw [spec_bind, spec_lift]
  refine ⟨?_, nofun⟩
  intro lengths hok
  cases hok
  cases hmaterial : ssl.keyingMaterial with
  | none => exact spec_fail.mpr ⟨.inr ⟨rfl, hmaterial⟩, rfl⟩
  | some material =>
      obtain ⟨keys, hkeys⟩ := splitMaterial_of_role material keyLen saltLen hrole
      simp only [hkeys]
      rw [spec_bind, spec_lift]
      refine ⟨?_, nofun⟩
      intro keys' _
      rw [spec_bind, spec_emit, spec_pure]
      refine ⟨⟨⟨?_, ?_⟩, ?_⟩, rfl⟩
      · simp [hrole]
      · simp [hdone]
      · rw [phase, hstate]
        rfl

theorem processHandshake_spec (hrole : d.localRole = .client ∨ d.localRole = .server)
    (hstate : d.state = .connecting) (hdone : d.handshakeDone = true) :
    (processHandshake ssl d).Spec
      (fun τ r => Moves d τ r.2 ∧ (r.1 = true → r.2.isRunning = true))
      fun τ fault => HandshakeFault ssl fault ∧ τ = [] := by
  rw [processHandshake, hdone, Bool.not_true, if_neg Bool.false_ne_true, spec_bind, spec_lift]
  refine ⟨?_, fun fault hfault => ⟨getNegotiatedSrtpCryptoSuite_error hfault, rfl⟩⟩
  intro cryptoSuite _
  split
  · rename_i hsuite
    rw [spec_bind]
    refine (extractSrtpKeys_spec hrole hstate hdone hsuite).mono ?_ fun _ _ hfault => hfault
    intro τ d' hd'
    rw [spec_pure]
    simpa using hd'
  · rw [spec_bind]
    refine (fail_spec ((isRunning_iff d).mpr (.inl hstate))).mono ?_ fun _ _ hfalse => hfalse.elim
    intro τ d' hd'
    rw [spec_pure]
    simpa using hd'.1

theorem checkStatus_spec (h : Coherent d) (hrunning : d.isRunning = true) :
    (checkStatus ssl d).Spec
      (fun τ r => Moves d τ r.2 ∧ (r.1 = true → r.2.isRunning = true))
      fun τ fault => HandshakeFault ssl fault ∧ τ = [] := by
  have hstate := (isRunning_iff d).mp hrunning
  unfold checkStatus
  simp only
  split
  · cases hdone : d.handshakeDone with
    | false =>
        -- The handshake was not done, so the transport is still connecting.
        have hconnecting : d.state = .connecting := by
          rcases hstate with hs | hs
          · exact hs
          · rw [h.handshake.mpr hs] at hdone
            cases hdone
        exact processHandshake_spec
          (d := { d with handshakeDoneNow := false, handshakeDone := true })
          (h.role.mpr hstate) hconnecting rfl
    | true =>
        rw [Bool.not_true, if_neg Bool.false_ne_true, spec_pure]
        refine ⟨Moves.silent ⟨h.role, ?_⟩ rfl nofun, fun _ => hrunning⟩
        simp [h.handshake.mp hdone]
  · split
    · split
      · rename_i hconnected
        rw [spec_bind, spec_emit, spec_pure]
        exact ⟨Moves.stop hrunning rfl (.inr ⟨rfl, rfl, hconnected⟩), nofun⟩
      · rw [spec_bind]
        refine (fail_spec hrunning).mono ?_ fun _ _ hfalse => hfalse.elim
        intro τ d' hd'
        rw [spec_pure]
        simpa using hd'.1
    · rw [spec_pure]
      exact ⟨Moves.silent h rfl nofun, fun _ => hrunning⟩

theorem setTimeout_spec (h : Coherent d) (hrunning : d.isRunning = true) :
    (setTimeout ssl d).Spec (fun τ r => Moves d τ r.2 ∧ (r.1 = true → r.2 = d ∧ τ = []))
      fun _ _ => False := by
  have hstate := (isRunning_iff d).mp hrunning
  have hstay : Moves d [] d ∧ (true = true → d = d ∧ ([] : List DtlsEvent) = []) :=
    ⟨Moves.silent h rfl nofun, fun _ => ⟨rfl, rfl⟩⟩
  unfold setTimeout
  rw [if_neg (by rw [← not_or, not_not]; exact hstate)]
  split
  · exact spec_pure.mpr hstay
  · simp only
    split
    · exact spec_pure.mpr hstay
    · split
      · exact spec_pure.mpr hstay
      · rw [spec_bind]
        refine (fail_spec hrunning).mono ?_ fun _ _ hfalse => hfalse.elim
        intro τ d' hd'
        rw [spec_pure]
        simpa using hd'.1

theorem sendPendingOutgoingDtlsData_spec :
    (sendPendingOutgoingDtlsData ssl).Spec (fun τ _ => ∀ e ∈ τ, notification e = none)
      fun _ _ => False := by
  unfold sendPendingOutgoingDtlsData
  split
  · exact spec_pure.mpr nofun
  · rw [spec_emit]
    intro e he
    rw [List.mem_singleton.mp he]
    rfl

/-- The faults of a call, each with what it needs. -/
def Input.Faults : Input → Fault → Prop
  | .run _ localRole, fault =>
      fault = .abort "local DTLS role must be 'client' or 'server'" ∧
        localRole ≠ .client ∧ localRole ≠ .server
  | .setRemoteFingerprint _ fingerprint, fault =>
      fault = .abort "no fingerprint algorithm provided" ∧ fingerprint.algorithm = .none
  | .processDtlsData ssl _, fault | .sendApplicationData ssl _, fault => HandshakeFault ssl fault

theorem run_spec (h : Coherent d) (localRole : DtlsRole) :
    (run ssl d localRole).Spec (Moves d) fun τ fault =>
      (Input.run ssl localRole).Faults fault ∧ τ = [] := by
  unfold run
  split
  · rename_i hrole
    exact spec_fail.mpr ⟨⟨rfl, hrole⟩, rfl⟩
  · rename_i hrole
    split
    · exact spec_pure.mpr (Moves.silent h rfl nofun)
    · have hside : localRole = .client ∨ localRole = .server := by
        by_contra hno
        exact hrole (not_or.mp hno)
      -- Whatever the previous round was, the flag of its handshake is cleared.
      have hdone : (if d.localRole = .client ∨ d.localRole = .server then d.reset ssl
          else d).handshakeDone = false := by
        split
        · rename_i hprevious
          rw [reset_of_isRunning ((isRunning_iff d).mpr (h.role.mp hprevious))]
        · rename_i hprevious
          cases hd : d.handshakeDone with
          | false => rfl
          | true => exact (hprevious (h.role.mpr (.inr (h.handshake.mp hd)))).elim
      generalize (if d.localRole = .client ∨ d.localRole = .server then d.reset ssl else d) = d₀
        at hdone ⊢
      have hconnecting : Moves d [.connecting] { d₀ with localRole, state := .connecting } := by
        refine ⟨⟨?_, ?_⟩, rfl⟩
        · simp [hside]
        · simp [hdone]
      have hstarted : Moves d [.connecting] (DtlsTransport.onSslInfo
          { d₀ with localRole, state := .connecting } ssl.handshakeDoneInHandshake) := by
        refine ⟨hconnecting.1.onSslInfo _, ?_⟩
        rw [hconnecting.2, phase_onSslInfo]
      rw [spec_bind, spec_emit]
      simp only
      split
      · rw [spec_bind]
        refine sendPendingOutgoingDtlsData_spec.mono ?_ fun _ _ hfalse => hfalse.elim
        intro τ₁ _ hsilent
        rw [spec_bind]
        refine (setTimeout_spec hstarted.1 (by simp [isRunning_iff])).mono ?_
          fun _ _ hfalse => hfalse.elim
        intro τ₂ r hr
        rw [spec_pure, List.append_nil]
        exact hstarted.trans ((Moves.silent hstarted.1 rfl hsilent).trans hr.1)
      · rw [spec_pure]
        simpa using hstarted

theorem setRemoteFingerprint_spec (h : Coherent d) (fingerprint : DtlsFingerprint) :
    (setRemoteFingerprint ssl d fingerprint).Spec (fun τ r => Moves d τ r.2) fun τ fault =>
      (Input.setRemoteFingerprint ssl fingerprint).Faults fault ∧ τ = [] := by
  unfold setRemoteFingerprint
  split
  · rename_i hnone
    exact spec_fail.mpr ⟨⟨rfl, hnone⟩, rfl⟩
  · simp only
    split
    · rename_i hlate
      exact (hlate.2 (h.handshake.mp hlate.1)).elim
    · exact spec_pure.mpr (Moves.silent ⟨h.role, h.handshake⟩ rfl nofun)

theorem readData_spec (h : Coherent d) (hrunning : d.isRunning = true) :
    (do
      let (good, d) ← setTimeout ssl d
      if !good then return d
      else if ssl.readData ≠ [] then
        if !d.handshakeDone then return d
        else
          Traced.emit (.applicationData ssl.readData)
          return d
      else return d : Call DtlsTransport).Spec (Moves d) fun _ _ => False := by
  rw [spec_bind]
  refine (setTimeout_spec h hrunning).mono ?_ fun _ _ hfalse => hfalse
  intro τ r hr
  rcases r with ⟨good, d₁⟩
  have hend : Moves d (τ ++ []) d₁ := by
    rw [List.append_nil]
    exact hr.1
  simp only
  split
  · exact spec_pure.mpr hend
  · rename_i hgood
    obtain ⟨rfl, rfl⟩ := hr.2 (by simpa using hgood)
    split
    · split
      · exact spec_pure.mpr hend
      · rename_i hdone
        have hconnected : d₁.state = .connected := h.handshake.mp (by simpa using hdone)
        rw [spec_bind, spec_emit, spec_pure]
        refine ⟨h, ?_⟩
        rw [phase, hconnected]
        rfl
    · exact spec_pure.mpr hend

theorem processDtlsData_spec (h : Coherent d) (data : Bytes) :
    (processDtlsData ssl d data).Spec (Moves d) fun τ fault =>
      HandshakeFault ssl fault ∧ ∀ e ∈ τ, notification e = none := by
  unfold processDtlsData
  split
  · exact spec_pure.mpr (Moves.silent h rfl nofun)
  · rename_i hrunning
    rw [Bool.not_eq_true, Bool.not_eq_false'] at hrunning
    have hread : Coherent (d.onSslInfo ssl.handshakeDoneInTransfer) := h.onSslInfo _
    rw [spec_bind, spec_emit]
    rw [spec_bind]
    refine sendPendingOutgoingDtlsData_spec.mono ?_ fun _ _ hfalse => hfalse.elim
    intro τ₁ _ hsilent
    have hbefore : ∀ e ∈ [DtlsEvent.bioWrite data] ++ τ₁, notification e = none := by
      intro e he
      rcases List.mem_cons.mp he with rfl | he
      · rfl
      · exact hsilent e he
    have hstart := Moves.silent hread (phase_onSslInfo d _) hbefore
    rw [spec_bind]
    refine (checkStatus_spec hread ?_).mono ?_ ?_
    · rw [isRunning_iff, onSslInfo_state, ← isRunning_iff]
      exact hrunning
    · intro τ₂ r hr
      have hchecked : Moves d ([DtlsEvent.bioWrite data] ++ (τ₁ ++ τ₂)) r.2 := by
        rw [← List.append_assoc]
        exact hstart.trans hr.1
      rcases r with ⟨good, d₁⟩
      simp only
      split
      · rw [spec_pure]
        simpa using hchecked
      · rename_i hgood
        have hstill : d₁.isRunning = true := hr.2 (by simpa using hgood)
        refine (readData_spec hr.1.1 hstill).mono ?_ fun _ _ hfalse => hfalse.elim
        intro τ₃ d₂ hd₂
        simpa using hchecked.trans hd₂
    · intro τ₂ fault hfault
      refine ⟨hfault.1, ?_⟩
      rw [hfault.2, List.append_nil]
      exact hbefore

theorem sendApplicationData_spec (h : Coherent d) (data : Bytes) :
    (sendApplicationData ssl d data).Spec (Moves d) fun τ fault =>
      HandshakeFault ssl fault ∧ ∀ e ∈ τ, notification e = none := by
  have hsend : ∀ {d' : DtlsTransport} {τ : List DtlsEvent}, Moves d τ d' → (do
      sendPendingOutgoingDtlsData ssl
      return d' : Call DtlsTransport).Spec (fun τ' d'' => Moves d (τ ++ τ') d'')
        fun τ' fault => HandshakeFault ssl fault ∧ ∀ e ∈ τ ++ τ', notification e = none := by
    intro d' τ hd'
    rw [spec_bind]
    refine sendPendingOutgoingDtlsData_spec.mono ?_ fun _ _ hfalse => hfalse.elim
    intro τ' _ hsilent
    rw [spec_pure, List.append_nil]
    exact hd'.trans (Moves.silent hd'.1 rfl hsilent)
  unfold sendApplicationData
  split
  · exact spec_pure.mpr (Moves.silent h rfl nofun)
  · rename_i hstate
    rw [not_not] at hstate
    split
    · exact spec_pure.mpr (Moves.silent h rfl nofun)
    · have hwritten : Moves d [] (d.onSslInfo ssl.handshakeDoneInTransfer) := by
        exact Moves.silent (h.onSslInfo _) (phase_onSslInfo d _) nofun
      simp only
      split
      · rw [spec_bind]
        refine (checkStatus_spec hwritten.1 ?_).mono ?_ ?_
        · rw [isRunning_iff, onSslInfo_state]
          exact .inr hstate
        · intro τ r hr
          have hchecked : Moves d τ r.2 := hwritten.trans hr.1
          rcases r with ⟨good, d₁⟩
          simp only
          split
          · rw [spec_pure]
            simpa using hchecked
          · exact hsend hchecked
        · intro τ fault hfault
          exact ⟨hfault.1, by simp [hfault.2]⟩
      · exact hsend hwritten

/-- One call: it ends in a coherent state that its notifications lead to, or in a
fault that its arguments explain, before any notification. -/
theorem step_spec (h : Coherent d) (input : Input) :
    (step d input).Spec (Moves d) fun τ fault =>
      input.Faults fault ∧ ∀ e ∈ τ, notification e = none := by
  cases input with
  | run ssl localRole =>
      refine (run_spec h localRole).mono (fun _ _ hd' => hd') ?_
      exact fun τ fault hfault => ⟨hfault.1, by simp [hfault.2]⟩
  | setRemoteFingerprint ssl fingerprint =>
      rw [step, spec_bind]
      refine (setRemoteFingerprint_spec h fingerprint).mono ?_ ?_
      · intro τ r hr
        rw [spec_pure]
        simpa using hr
      · exact fun τ fault hfault => ⟨hfault.1, by simp [hfault.2]⟩
  | processDtlsData ssl data => exact processDtlsData_spec h data
  | sendApplicationData ssl data => exact sendApplicationData_spec h data

end Specs

/-- The faults that would show a broken state machine. -/
def assertions : List Fault :=
  [.abort "invalid DTLS state", .abort "handshake not done yet", .abort "no DTLS role set"]

theorem Input.Faults.not_mem_assertions {input : Input} {fault : Fault} (h : input.Faults fault) :
    fault ∉ assertions := by
  have hhandshake : ∀ ssl, HandshakeFault ssl fault → fault ∉ assertions := by
    intro ssl hfault
    rcases hfault with ⟨rfl, _⟩ | ⟨rfl, _⟩
    · decide
    · decide
  cases input with
  | run ssl localRole =>
      rw [h.1]
      decide
  | setRemoteFingerprint ssl fingerprint =>
      rw [h.1]
      decide
  | processDtlsData ssl data => exact hhandshake ssl h
  | sendApplicationData ssl data => exact hhandshake ssl h

/-- The call leaves a coherent transport, or a fault of its arguments and none
of the state machine. -/
def StaysCoherent (_ : List DtlsEvent) (d : DtlsTransport) (input : Input) : Prop :=
  (∀ d', (step d input).result = .ok d' → Coherent d') ∧
  ∀ fault, (step d input).result = .error fault → fault ∉ assertions ∧ input.Faults fault

/-- Over every run, whatever OpenSSL does, each call leaves a coherent transport
and reaches none of the assertions of the state machine. -/
theorem coherent_along (inputs : List Input) : Along step StaysCoherent [] {} inputs := by
  refine Along.of_inv (I := fun _ d => Coherent d) ?_ ?_ Coherent.init
  · intro _ d input hd
    exact ⟨fun d' hd' => ((step_spec hd input).ok d' hd').1⟩
  · intro _ d input _ hd
    refine ⟨fun d' hd' => ((step_spec hd input).ok d' hd').1, ?_⟩
    intro fault hfault
    have h := (step_spec hd input).error fault hfault
    exact ⟨h.1.not_mem_assertions, h.1⟩

end EasyWebRtc.Rtc.DtlsTransport
