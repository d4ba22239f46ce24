import EasyWebRtc.Rtc.IceAnswer

/-!
# Runs of the ICE server

The setters and `ProcessStunPacket` in any order. A success response can be
verified by the requester: it is signed with the password under which the
request was accepted.
-/

namespace EasyWebRtc.Rtc

open Octets Utils Tlv Traced

namespace IceServer

/-- A call of the server. -/
inductive Input where
  | setUsernameFragment (usernameFragment : Bytes)
  | setPassword (password : Bytes)
  | processStunPacket (buffer : SerializeBuffer) (p : ParsedPacket) (tuple : SockAddrIn)

def step (hmac : Crypto.HmacSha1) (s : IceServer) : Input → Call IceServer
  | .setUsernameFragment usernameFragment => return s.setUsernameFragment usernameFragment
  | .setPassword password => return s.setPassword password
  | .processStunPacket buffer p tuple => do
      let (s, _) ← processStunPacket hmac buffer s p.packet tuple
      return s

theorem step_processStunPacket (hmac : Crypto.HmacSha1) (s : IceServer) (buffer : SerializeBuffer)
    (p : ParsedPacket) (tuple : SockAddrIn) :
    step hmac s (.processStunPacket buffer p tuple) =
      ⟨(verdict hmac s p.packet).events hmac buffer s p.packet tuple,
        .ok ((verdict hmac s p.packet).server s)⟩ := by
  rw [step, processStunPacket_outcome, ok_bind_pure]

theorem step_processStunPacket_trace (hmac : Crypto.HmacSha1) (s : IceServer)
    (buffer : SerializeBuffer) (p : ParsedPacket) (tuple : SockAddrIn) :
    (step hmac s (.processStunPacket buffer p tuple)).trace =
      (processStunPacket hmac buffer s p.packet tuple).trace := by
  rw [step_processStunPacket, processStunPacket_outcome]

/-! ## Success responses -/

/-- The password under which the request was accepted. -/
def verifiedWith (hmac : Crypto.HmacSha1) (s : IceServer) (packet : StunPacket) (key : Bytes) :
    Prop :=
  (key = s.password ∧ packet.authenticates hmac s.usernameFragment s.password = true) ∨
  (key = s.oldPassword ∧ packet.authenticates hmac s.usernameFragment s.password = false ∧
    packet.authenticates hmac s.oldUsernameFragment s.oldPassword = true)

/-- What a requester checks in the datagram of a success response: type and
transaction id, the mapped address, MESSAGE-INTEGRITY and FINGERPRINT. -/
structure Verifiable (hmac : Crypto.HmacSha1) (transactionId : TransactionId)
    (tuple : SockAddrIn) (key data : Bytes) : Prop where
  parsed : ∃ q mi, StunPacket.parse data data.length = .ok (some q) ∧
    q.klass = .successResponse ∧ q.method = Method.binding ∧ q.transactionId = transactionId ∧
    q.messageIntegrity = some mi ∧
    (data.drop mi).take 20 =
      hmac.digest key ((StunPacket.withLength data (UInt16.ofNat mi)).take (mi - 4)) ∧
    q.hasFingerprint = true
  address : StunPacket.mappedAddress data = some tuple
  fingerprint : ∃ before, data = before ++ Record.bytes ⟨Attribute.fingerprint.code,
    be32 (Crypto.crc32 before ^^^ StunPacket.fingerprintXor), []⟩

section

variable (hmac : Crypto.HmacSha1) {packet : StunPacket} (tuple : SockAddrIn)

theorem typeField_successResponse (hmethod : packet.method = Method.binding) (password : Bytes) :
    ((successResponse packet tuple password).typeField >>> 8).toUInt8 < 3 := by
  have hfields : (successResponse packet tuple password).method = Method.binding ∧
      (successResponse packet tuple password).klass = .successResponse := ⟨hmethod, rfl⟩
  rw [StunPacket.typeField, hfields.1, hfields.2]
  decide

theorem addMessageIntegrity_successResponse {password : Bytes} (hpassword : password ≠ []) :
    (successResponse packet tuple password).addMessageIntegrity = true := by
  simp [StunPacket.addMessageIntegrity, successResponse, hpassword]

theorem verifiable_message (hmethod : packet.method = Method.binding) {password padding : Bytes}
    (hpassword : password ≠ []) (hpad : padding.length = padLen 4 0) :
    Verifiable hmac packet.transactionId tuple password
      ((successResponse packet tuple password).message hmac padding) := by
  have hsize : (successResponse packet tuple password).exactSize ≤ 65532 :=
    successResponse_exactSize hmethod password
  have hadd : (successResponse packet tuple password).addMessageIntegrity = true :=
    addMessageIntegrity_successResponse tuple hpassword
  have hlen := StunPacket.message_length hmac (successResponse packet tuple password) hpad
  have hparse := StunPacket.parse_message hmac hsize hpad
    (typeField_successResponse tuple hmethod password) (by intro h; cases h)
  have hmi : ((successResponse packet tuple password).received hmac padding).messageIntegrity =
      some (24 + (((successResponse packet tuple password).bodyRecords padding).flatMap
        Record.bytes).length) := by
    simp [StunPacket.received, hadd]
  rw [← hlen] at hparse
  refine ⟨⟨(successResponse packet tuple password).received hmac padding, _, hparse, rfl, ?_, rfl,
      hmi, ?_, rfl⟩,
    mappedAddress_successResponse hmethod password hpad,
    _, StunPacket.message_ends_with_fingerprint hmac _ padding⟩
  · show packet.method &&& 0x0FFF = Method.binding
    rw [hmethod]
    rfl
  · rw [StunPacket.received_digest hmac hadd]
    have hhash := StunPacket.hashed_message hmac hadd hpad
    rw [show 24 + (((successResponse packet tuple password).bodyRecords padding).flatMap
      Record.bytes).length - 4 = 20 + (((successResponse packet tuple password).bodyRecords
      padding).flatMap Record.bytes).length by omega, hhash]
    rfl

end

/-! ## Key agreement -/

section

variable (hmac : Crypto.HmacSha1)

theorem responsePassword_newCredentialsApplied (s : IceServer) :
    s.newCredentialsApplied.responsePassword = s.password := by
  unfold newCredentialsApplied responsePassword
  by_cases hold : s.oldPassword = [] <;> simp [hold]

/-- The response to an accepted request is signed with the password under which
it was accepted. -/
theorem accepted_response {s : IceServer} {packet : StunPacket} (tuple : SockAddrIn)
    (haccepted : (verdict hmac s packet).accepted = true) (hpassword : s.password ≠ []) :
    ∃ key, key ≠ [] ∧ verifiedWith hmac s packet key ∧
      (verdict hmac s packet).response s packet tuple =
        some (successResponse packet tuple key) := by
  have hklass := (complete_of_verdict hmac s haccepted).1
  have hcomplete := (complete_of_verdict hmac s haccepted).2
  have hverdict : verdict hmac s packet =
      if packet.authenticates hmac s.usernameFragment s.password then .current
      else if s.acceptsOld hmac packet then .old else .unauthorized := by
    rw [verdict, if_neg (not_not.mpr hklass), hcomplete]
    rfl
  cases hcurrent : packet.authenticates hmac s.usernameFragment s.password with
  | true =>
      rw [hcurrent, if_pos rfl] at hverdict
      refine ⟨s.password, hpassword, .inl ⟨rfl, hcurrent⟩, ?_⟩
      rw [hverdict, Verdict.response, responsePassword_newCredentialsApplied]
  | false =>
      rw [hcurrent, if_neg Bool.false_ne_true] at hverdict
      cases hold : s.acceptsOld hmac packet with
      | true =>
          rw [hold, if_pos rfl] at hverdict
          have hstored : (s.oldUsernameFragment ≠ [] ∧ s.oldPassword ≠ []) ∧
              packet.authenticates hmac s.oldUsernameFragment s.oldPassword = true := by
            simpa [acceptsOld] using hold
          refine ⟨s.oldPassword, hstored.1.2, .inr ⟨rfl, hcurrent, hstored.2⟩, ?_⟩
          rw [hverdict, Verdict.response, responsePassword, if_neg hstored.1.2]
      | false =>
          rw [hold, if_neg Bool.false_ne_true] at hverdict
          rw [hverdict] at haccepted
          cases haccepted

theorem sent_of_mem_events {buffer : SerializeBuffer} {s : IceServer} {packet : StunPacket}
    {tuple t : SockAddrIn} {v : Verdict} {sent : StunPacket}
    (h : .sendStunPacket sent t ∈ v.events hmac buffer s packet tuple) :
    ∃ response, v.response s packet tuple = some response ∧
      sent = response.serialized hmac buffer := by
  rcases List.mem_append.mp h with h | h
  · obtain ⟨response, hresponse, heq⟩ := List.mem_map.mp h
    cases heq
    exact ⟨response, Option.mem_toList.mp hresponse, rfl⟩
  · unfold Verdict.selection at h
    split at h
    · cases List.mem_singleton.mp h
    · cases h

theorem response_sent {s : IceServer} {p : ParsedPacket} {tuple : SockAddrIn}
    {response : StunPacket} (buffer : SerializeBuffer)
    (hresponse : (verdict hmac s p.packet).response s p.packet tuple = some response) :
    .sendStunPacket (response.serialized hmac buffer) tuple ∈
      (processStunPacket hmac buffer s p.packet tuple).trace := by
  rw [processStunPacket_outcome, Verdict.events, hresponse]
  exact List.mem_cons_self

theorem accepted_of_klass {s : IceServer} {packet response : StunPacket} {tuple : SockAddrIn}
    {v : Verdict} (hresponse : v.response s packet tuple = some response)
    (hklass : response.klass = .successResponse) : v.accepted = true := by
  cases v with
  | ignored => cases hresponse
  | badRequest =>
      cases hresponse
      cases hklass
  | unauthorized =>
      cases hresponse
      cases hklass
  | current => rfl
  | old => rfl

theorem headerClass_serialized (buffer : SerializeBuffer) {response : StunPacket}
    (hsize : response.exactSize ≤ 65532) :
    StunPacket.headerClass (response.serialized hmac buffer).datagram = some response.klass := by
  rw [StunPacket.datagram_serialized hmac buffer hsize, StunPacket.message,
    StunPacket.headerClass_encode]

theorem accepted_of_sent {buffer : SerializeBuffer} {s : IceServer} {packet sent : StunPacket}
    {tuple t : SockAddrIn}
    (hsent : .sendStunPacket sent t ∈
      (verdict hmac s packet).events hmac buffer s packet tuple)
    (hsuccess : StunPacket.headerClass sent.datagram = some .successResponse) :
    (verdict hmac s packet).accepted = true := by
  obtain ⟨response, hresponse, rfl⟩ := sent_of_mem_events hmac hsent
  rw [headerClass_serialized hmac buffer (response_exactSize hmac hresponse)] at hsuccess
  exact accepted_of_klass hresponse (Option.some.inj hsuccess)

def PasswordsSet (inputs : List Input) : Prop :=
  ∀ password, .setPassword password ∈ inputs → password ≠ []

theorem step_password {s : IceServer} {input : Input} (hs : s.password ≠ [])
    (hinput : ∀ password, input = .setPassword password → password ≠ []) :
    (step hmac s input).Post fun _ s' => s'.password ≠ [] := by
  cases input with
  | setUsernameFragment usernameFragment => exact Post.pure hs
  | setPassword password => exact Post.pure (hinput password rfl)
  | processStunPacket buffer p tuple =>
      rw [step_processStunPacket]
      constructor
      intro s' hs'
      cases hs'
      rwa [((verdict hmac s p.packet).server_current s).2]

/-- In every run every success response can be verified by the requester. -/
theorem success_verifiable {usernameFragment password : Bytes} {inputs : List Input}
    {τ : List IceEvent} {s : IceServer} (hpassword : password ≠ [])
    (hinputs : PasswordsSet inputs)
    (hrun : Traced.run (step hmac) [] { usernameFragment, password } inputs = some (τ, s))
    (buffer : SerializeBuffer) (p : ParsedPacket) (tuple : SockAddrIn) {response : StunPacket}
    {t : SockAddrIn}
    (hsent : .sendStunPacket response t ∈ (processStunPacket hmac buffer s p.packet tuple).trace)
    (hsuccess : StunPacket.headerClass response.datagram = some .successResponse) :
    ∃ key, verifiedWith hmac s p.packet key ∧
      Verifiable hmac p.packet.transactionId tuple key response.datagram := by
  have hs : s.password ≠ [] := by
    refine Traced.run_inv (I := fun _ s => s.password ≠ []) ?_ hpassword hrun
    intro _ s input hinput hs
    refine step_password hmac hs ?_
    rintro password rfl
    exact hinputs password hinput
  rw [processStunPacket_outcome] at hsent
  have haccepted := accepted_of_sent hmac hsent hsuccess
  obtain ⟨r, hr, rfl⟩ := sent_of_mem_events hmac hsent
  have hsize := response_exactSize hmac hr
  obtain ⟨key, hkey, hverified, hresponse⟩ := accepted_response hmac tuple haccepted hs
  have hmethod := ((isComplete_iff _).mp (complete_of_verdict hmac s haccepted).2).1
  rw [hr] at hresponse
  cases hresponse
  refine ⟨key, hverified, ?_⟩
  rw [StunPacket.datagram_serialized hmac buffer hsize]
  exact verifiable_message hmac tuple hmethod hkey
    (StunPacket.stalePadding_length (StunPacket.exactSize_le_buffer buffer hsize))

end

/-- The signed Binding request, parsed. -/
def signedRequest : ParsedPacket where
  data := StunPacket.signedDatagram
  packet := { StunPacket.bindingRequest with
    data := StunPacket.signedDatagram
    size := 88
    messageIntegrity := some 60
    hasFingerprint := true
    password := [] }
  parsed := by decide +kernel

def agent : IceServer := { usernameFragment := [97, 98, 99, 100], password := [112, 119] }

/-- That server with new credentials: fragment `efgh` and password `zz`. -/
def rotatedAgent : IceServer where
  usernameFragment := [101, 102, 103, 104]
  password := [122, 122]
  oldUsernameFragment := [97, 98, 99, 100]
  oldPassword := [112, 119]

theorem rotatedAgent_verdict :
    verdict StunPacket.bindingRequestHmac rotatedAgent signedRequest.packet = .old := by
  decide +kernel

/-- After a rotation the request is still accepted under the old password. -/
theorem success_verifiable_bindingRequest :
    Traced.run (step StunPacket.bindingRequestHmac) [] agent
        [.setUsernameFragment [101, 102, 103, 104], .setPassword [122, 122]] =
      some ([], rotatedAgent) ∧
    ∃ response, .sendStunPacket response ⟨40000, 0xC0A80102⟩ ∈
        (processStunPacket StunPacket.bindingRequestHmac .initial rotatedAgent
          signedRequest.packet ⟨40000, 0xC0A80102⟩).trace ∧
      ∃ key, verifiedWith StunPacket.bindingRequestHmac rotatedAgent signedRequest.packet key ∧
        Verifiable StunPacket.bindingRequestHmac signedRequest.packet.transactionId
          ⟨40000, 0xC0A80102⟩ key response.datagram := by
  have hrun : Traced.run (step StunPacket.bindingRequestHmac) [] agent
      [.setUsernameFragment [101, 102, 103, 104], .setPassword [122, 122]] =
      some ([], rotatedAgent) := rfl
  have hinputs : PasswordsSet
      [.setUsernameFragment [101, 102, 103, 104], .setPassword [122, 122]] := by
    intro password hmem
    rcases List.mem_cons.mp hmem with heq | hmem
    · cases heq
    · cases List.mem_singleton.mp hmem
      decide
  have hresponse : (verdict StunPacket.bindingRequestHmac rotatedAgent
      signedRequest.packet).response rotatedAgent signedRequest.packet ⟨40000, 0xC0A80102⟩ =
      some (successResponse signedRequest.packet ⟨40000, 0xC0A80102⟩ [112, 119]) := by
    rw [rotatedAgent_verdict]
    rfl
  have hsent := response_sent StunPacket.bindingRequestHmac .initial hresponse
  exact ⟨hrun, _, hsent, success_verifiable StunPacket.bindingRequestHmac (by decide) hinputs hrun
    .initial signedRequest _ hsent
    (headerClass_serialized _ _ (response_exactSize StunPacket.bindingRequestHmac hresponse))⟩

end IceServer

end EasyWebRtc.Rtc
