import EasyWebRtc.Rtc.DtlsTransport.Basic

/-!
# States, roles and keys of the DTLS transport

CONNECTED is entered with a notification only, a transport that is run as a
server has no other role, and the notification carries the keys of the server
side.
-/

namespace EasyWebRtc.Rtc.DtlsTransport

open Octets Utils

def Connects (τ : List DtlsEvent) : Prop :=
  ∃ cryptoSuite localKey remoteKey, DtlsEvent.connected cryptoSuite localKey remoteKey ∈ τ

/-- The master keys that the server side derives from some exported material. -/
def ServerKeys (cryptoSuite : CryptoSuite) (localKey remoteKey : Bytes) : Prop :=
  ∃ material keyLen saltLen, masterLengths cryptoSuite = .ok (keyLen, saltLen) ∧
    splitMaterial material keyLen saltLen .server = .ok (localKey, remoteKey)

/-- The role of a transport that is only run as a server. -/
def ServerSide (d : DtlsTransport) : Prop := d.localRole = .none ∨ d.localRole = .server

theorem reset_serverSide {d : DtlsTransport} (ssl : OpenSsl) (h : d.ServerSide) :
    (d.reset ssl).ServerSide := by
  unfold reset
  split
  · exact h
  · exact .inl rfl

/-- What the calls other than `Run` do to state and role: CONNECTED is entered
with a notification, CONNECTING is not entered, and the side stays. -/
structure Proceeds (d : DtlsTransport) (τ : List DtlsEvent) (d' : DtlsTransport) : Prop where
  connected : d'.state = .connected → d.state = .connected ∨ Connects τ
  connecting : d'.state = .connecting → d.state = .connecting
  side : d.ServerSide → d'.ServerSide

theorem Connects.append_left {τ : List DtlsEvent} (h : Connects τ) (τ' : List DtlsEvent) :
    Connects (τ ++ τ') := by
  obtain ⟨cryptoSuite, localKey, remoteKey, hmem⟩ := h
  exact ⟨cryptoSuite, localKey, remoteKey, List.mem_append_left _ hmem⟩

theorem Connects.append_right {τ' : List DtlsEvent} (h : Connects τ') (τ : List DtlsEvent) :
    Connects (τ ++ τ') := by
  obtain ⟨cryptoSuite, localKey, remoteKey, hmem⟩ := h
  exact ⟨cryptoSuite, localKey, remoteKey, List.mem_append_right _ hmem⟩

theorem Proceeds.same {d d' : DtlsTransport} (τ : List DtlsEvent) (hstate : d'.state = d.state)
    (hrole : d'.localRole = d.localRole) : Proceeds d τ d' where
  connected := fun h => .inl (hstate.symm.trans h)
  connecting := fun h => hstate.symm.trans h
  side := by
    unfold ServerSide
    rw [hrole]
    exact id

theorem Proceeds.trans {d d₁ d₂ : DtlsTransport} {τ τ' : List DtlsEvent} (h₁ : Proceeds d τ d₁)
    (h₂ : Proceeds d₁ τ' d₂) : Proceeds d (τ ++ τ') d₂ where
  connected := by
    intro h
    rcases h₂.connected h with h | h
    · rcases h₁.connected h with h | h
      · exact .inl h
      · exact .inr (h.append_left τ')
    · exact .inr (h.append_right τ)
  connecting := fun h => h₁.connecting (h₂.connecting h)
  side := fun h => h₂.side (h₁.side h)

theorem Proceeds.stop {d : DtlsTransport} (ssl : OpenSsl) {state : DtlsState}
    (h : state = .failed ∨ state = .closed) (τ : List DtlsEvent) :
    Proceeds d τ { d.reset ssl with state } where
  connected := by
    rcases h with rfl | rfl
    · exact nofun
    · exact nofun
  connecting := by
    rcases h with rfl | rfl
    · exact nofun
    · exact nofun
  side := reset_serverSide ssl

theorem fail_post {ssl : OpenSsl} {d : DtlsTransport} :
    (fail ssl d).Post fun τ d' => Proceeds d τ d' := by
  apply Traced.Post.bind
  apply Traced.Post.emit
  exact Traced.Post.pure (Proceeds.stop ssl (.inl rfl) _)

theorem extractSrtpKeys_post {ssl : OpenSsl} {d : DtlsTransport} {cryptoSuite : CryptoSuite} :
    (extractSrtpKeys ssl d cryptoSuite).Post fun τ d' => Proceeds d τ d' := by
  apply Traced.Post.bind
  apply Traced.Post.lift
  intro lengths _
  rcases lengths with ⟨keyLen, saltLen⟩
  cases ssl.keyingMaterial with
  | none => exact Traced.Post.fail
  | some material =>
      apply Traced.Post.bind
      apply Traced.Post.lift
      intro keys _
      apply Traced.Post.bind
      apply Traced.Post.emit
      exact Traced.Post.pure ⟨fun _ => .inr ⟨cryptoSuite, keys.1, keys.2, by simp⟩, nofun, id⟩

theorem processHandshake_post {ssl : OpenSsl} {d : DtlsTransport} :
    (processHandshake ssl d).Post fun τ r => Proceeds d τ r.2 := by
  unfold processHandshake
  split
  · exact Traced.Post.fail
  · apply Traced.Post.bind
    apply Traced.Post.lift
    intro cryptoSuite _
    split
    · apply Traced.Post.bind
      apply extractSrtpKeys_post.mono
      intro τ d' h
      exact Traced.Post.pure (by simpa using h)
    · apply Traced.Post.bind
      apply fail_post.mono
      intro τ d' h
      exact Traced.Post.pure (by simpa using h)

theorem checkStatus_post {ssl : OpenSsl} {d : DtlsTransport} :
    (checkStatus ssl d).Post fun τ r => Proceeds d τ r.2 := by
  unfold checkStatus
  simp only
  split
  · split
    · apply processHandshake_post.mono
      intro τ r h
      exact ⟨h.connected, h.connecting, h.side⟩
    · exact Traced.Post.pure (Proceeds.same _ rfl rfl)
  · split
    · split
      · apply Traced.Post.bind
        apply Traced.Post.emit
        exact Traced.Post.pure (Proceeds.stop ssl (.inr rfl) _)
      · apply Traced.Post.bind
        apply fail_post.mono
        intro τ d' h
        exact Traced.Post.pure (by simpa using h)
    · exact Traced.Post.pure (Proceeds.same _ rfl rfl)

theorem setTimeout_post {ssl : OpenSsl} {d : DtlsTransport} :
    (setTimeout ssl d).Post fun τ r => Proceeds d τ r.2 := by
  unfold setTimeout
  split
  · exact Traced.Post.fail
  · split
    · exact Traced.Post.pure (Proceeds.same _ rfl rfl)
    · simp only
      split
      · exact Traced.Post.pure (Proceeds.same _ rfl rfl)
      · split
        · exact Traced.Post.pure (Proceeds.same _ rfl rfl)
        · apply Traced.Post.bind
          apply fail_post.mono
          intro τ d' h
          exact Traced.Post.pure (by simpa using h)

@[simp] theorem onSslInfo_state (d : DtlsTransport) (handshakeDone : Bool) :
    (d.onSslInfo handshakeDone).state = d.state := by
  unfold onSslInfo
  split <;> rfl

@[simp] theorem onSslInfo_localRole (d : DtlsTransport) (handshakeDone : Bool) :
    (d.onSslInfo handshakeDone).localRole = d.localRole := by
  unfold onSslInfo
  split <;> rfl

theorem sendPendingOutgoingDtlsData_post {ssl : OpenSsl} {Q : List DtlsEvent → Unit → Prop}
    (h : ∀ τ, Q τ ()) : (sendPendingOutgoingDtlsData ssl).Post Q := by
  unfold sendPendingOutgoingDtlsData
  split
  · exact Traced.Post.pure (h _)
  · exact Traced.Post.emit (h _)

theorem processDtlsData_post {ssl : OpenSsl} {d : DtlsTransport} {data : Bytes} :
    (processDtlsData ssl d data).Post fun τ d' => Proceeds d τ d' := by
  unfold processDtlsData
  split
  · exact Traced.Post.pure (Proceeds.same _ rfl rfl)
  · apply Traced.Post.bind
    apply Traced.Post.emit
    apply Traced.Post.bind
    apply sendPendingOutgoingDtlsData_post
    intro τ₀
    apply Traced.Post.bind
    apply checkStatus_post.mono
    intro τ₁ r₁ h₁
    rcases r₁ with ⟨good₁, d₁⟩
    have hread : Proceeds d ([DtlsEvent.bioWrite data] ++ τ₀)
        (d.onSslInfo ssl.handshakeDoneInTransfer) := Proceeds.same _ (by simp) (by simp)
    have hchecked := hread.trans h₁
    simp only
    split
    · exact Traced.Post.pure (by simpa using hchecked)
    · apply Traced.Post.bind
      apply setTimeout_post.mono
      intro τ₂ r₂ h₂
      rcases r₂ with ⟨good₂, d₂⟩
      have hend := hchecked.trans h₂
      simp only
      split
      · exact Traced.Post.pure (by simpa using hend)
      · split
        · split
          · exact Traced.Post.pure (by simpa using hend)
          · apply Traced.Post.bind
            apply Traced.Post.emit
            exact Traced.Post.pure (by simpa using hend.trans (Proceeds.same
              [.applicationData ssl.readData] rfl rfl))
        · exact Traced.Post.pure (by simpa using hend)

theorem processDtlsData_stopped {ssl : OpenSsl} {d : DtlsTransport} (data : Bytes)
    (h : d.isRunning = false) : processDtlsData ssl d data = pure d := by
  unfold processDtlsData
  rw [h]
  rfl

theorem run_server_post {ssl : OpenSsl} {d : DtlsTransport} :
    (run ssl d .server).Post fun _ d' =>
      (d'.state = .connected → d.state = .connected) ∧ d'.localRole = .server := by
  unfold run
  split
  · exact Traced.Post.fail
  · split
    · rename_i h
      exact Traced.Post.pure ⟨id, h.symm⟩
    · apply Traced.Post.bind
      apply Traced.Post.emit
      simp only
      split
      · rename_i h
        cases h
      · exact Traced.Post.pure ⟨by simp, by simp⟩

theorem run_server_only {ssl : OpenSsl} {d : DtlsTransport} :
    (run ssl d .server).Only fun e => e = .connecting := by
  unfold run
  split
  · exact Traced.Only.fail
  · split
    · exact Traced.Only.pure
    · apply Traced.Only.bind
      · exact Traced.Only.emit rfl
      · apply Traced.Post.emit
        simp only
        split
        · rename_i h
          cases h
        · exact Traced.Only.pure

/-- What the calls other than `Run` emit: keys of the server, if the transport is
on its side, a flight only under the condition `flight`, and never CONNECTING. -/
def Reports (side flight : Prop) : DtlsEvent → Prop
  | .connecting => False
  | .connected cryptoSuite localKey remoteKey => side → ServerKeys cryptoSuite localKey remoteKey
  | .sendData _ => flight
  | _ => True

section Reports

variable {ssl : OpenSsl} {d : DtlsTransport} {side flight : Prop}

theorem fail_only : (fail ssl d).Only (Reports side flight) := by
  apply Traced.Only.bind
  · exact Traced.Only.emit trivial
  · exact Traced.Post.emit Traced.Only.pure

theorem sendPendingOutgoingDtlsData_only (h : ssl.pending ≠ [] → flight) :
    (sendPendingOutgoingDtlsData ssl).Only (Reports side flight) := by
  unfold sendPendingOutgoingDtlsData
  split
  · exact Traced.Only.pure
  · rename_i hpending
    exact Traced.Only.emit (h hpending)

theorem extractSrtpKeys_only {cryptoSuite : CryptoSuite} (hside : side → d.ServerSide) :
    (extractSrtpKeys ssl d cryptoSuite).Only (Reports side flight) := by
  apply Traced.Only.bind Traced.Only.lift
  apply Traced.Post.lift
  intro lengths hlengths
  rcases lengths with ⟨keyLen, saltLen⟩
  cases ssl.keyingMaterial with
  | none => exact Traced.Only.fail
  | some material =>
      apply Traced.Only.bind Traced.Only.lift
      apply Traced.Post.lift
      intro keys hkeys
      apply Traced.Only.bind
      · apply Traced.Only.emit
        intro h
        rcases hside h with hrole | hrole
        · rw [hrole] at hkeys
          cases hkeys
        · rw [hrole] at hkeys
          exact ⟨material, keyLen, saltLen, hlengths, hkeys⟩
      · exact Traced.Post.emit Traced.Only.pure

theorem processHandshake_only (hside : side → d.ServerSide) :
    (processHandshake ssl d).Only (Reports side flight) := by
  unfold processHandshake
  split
  · exact Traced.Only.fail
  · apply Traced.Only.bind Traced.Only.lift
    apply Traced.Post.lift
    intro cryptoSuite _
    split
    · apply Traced.Only.bind (extractSrtpKeys_only hside)
      exact extractSrtpKeys_post.mono fun _ _ _ => Traced.Only.pure
    · apply Traced.Only.bind fail_only
      exact fail_post.mono fun _ _ _ => Traced.Only.pure

theorem checkStatus_only (hside : side → d.ServerSide) :
    (checkStatus ssl d).Only (Reports side flight) := by
  unfold checkStatus
  simp only
  split
  · split
    · exact processHandshake_only hside
    · exact Traced.Only.pure
  · split
    · split
      · apply Traced.Only.bind
        · exact Traced.Only.emit trivial
        · exact Traced.Post.emit Traced.Only.pure
      · apply Traced.Only.bind fail_only
        exact fail_post.mono fun _ _ _ => Traced.Only.pure
    · exact Traced.Only.pure

theorem setTimeout_only : (setTimeout ssl d).Only (Reports side flight) := by
  unfold setTimeout
  split
  · exact Traced.Only.fail
  · split
    · exact Traced.Only.pure
    · simp only
      split
      · exact Traced.Only.pure
      · split
        · exact Traced.Only.pure
        · apply Traced.Only.bind fail_only
          exact fail_post.mono fun _ _ _ => Traced.Only.pure

/-- A DTLS datagram makes a running transport send what OpenSSL has pending. -/
theorem processDtlsData_only {data : Bytes} :
    (processDtlsData ssl d data).Only
      (Reports d.ServerSide (d.isRunning = true ∧ ssl.pending ≠ [])) := by
  unfold processDtlsData
  split
  · exact Traced.Only.pure
  · rename_i hrunning
    apply Traced.Only.bind
    · exact Traced.Only.emit trivial
    apply Traced.Post.emit
    apply Traced.Only.bind
    · exact sendPendingOutgoingDtlsData_only fun h => ⟨by simpa using hrunning, h⟩
    apply sendPendingOutgoingDtlsData_post
    intro _
    apply Traced.Only.bind (checkStatus_only
      (Proceeds.same [] (onSslInfo_state d _) (onSslInfo_localRole d _)).side)
    apply checkStatus_post.mono
    intro _ r _
    simp only
    split
    · exact Traced.Only.pure
    · apply Traced.Only.bind setTimeout_only
      apply setTimeout_post.mono
      intro _ r _
      split
      · exact Traced.Only.pure
      · split
        · split
          · exact Traced.Only.pure
          · apply Traced.Only.bind
            · exact Traced.Only.emit trivial
            · exact Traced.Post.emit Traced.Only.pure
        · exact Traced.Only.pure

end Reports

def KeysOk : DtlsEvent → Prop
  | .connected cryptoSuite localKey remoteKey => ServerKeys cryptoSuite localKey remoteKey
  | _ => True

theorem processDtlsData_keysOk {ssl : OpenSsl} {d : DtlsTransport} {data : Bytes}
    (hside : d.ServerSide) : (processDtlsData ssl d data).Only KeysOk := by
  apply processDtlsData_only.mono
  intro e he
  cases e with
  | connected cryptoSuite localKey remoteKey => exact he hside
  | _ => trivial

end EasyWebRtc.Rtc.DtlsTransport
