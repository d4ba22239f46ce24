import EasyWebRtc.Rtc.IceResponse

/-!
# What the ICE server answers

On a packet that `Parse` has produced, the exits of `ProcessStunPacket` are
decided by the packet and the stored credentials. One equation says so; the
responses, the selected tuple and the changes of the server are read off it.
-/

namespace EasyWebRtc.Rtc

open Octets Utils Tlv Traced

/-- A packet that `Parse` has produced, with its datagram. -/
structure ParsedPacket where
  data : Bytes
  packet : StunPacket
  parsed : StunPacket.parse data data.length = .ok (some packet)

namespace StunPacket

/-- `CheckAuthentication` returns OK. -/
def authenticates (hmac : Crypto.HmacSha1) (p : StunPacket) (localUsername localPassword : Bytes) :
    Bool :=
  match p.checkAuthentication hmac localUsername localPassword with
  | .ok (.ok, _) => true
  | _ => false

/-- The packet as `Serialize` leaves it in the given buffer. -/
def serialized (hmac : Crypto.HmacSha1) (buffer : SerializeBuffer) (p : StunPacket) : StunPacket :=
  { p with
    data := p.message hmac (p.stalePadding buffer.bytes) ++ buffer.bytes.drop p.exactSize
    size := p.exactSize
    messageIntegrity :=
      if p.addMessageIntegrity then
        some ((p.encode (p.bodyRecords (p.stalePadding buffer.bytes))).length + 4)
      else none
    hasFingerprint := true }

def datagram (p : StunPacket) : Bytes := p.data.take p.size

/-- What a message says, read without the tests of `Parse`. -/
def contents (data : Bytes) : Option StunPacket :=
  match parseHeader data data.length, splitAll 4 (data.drop 20) with
  | .ok (some base), some rs => some (withAttributes base rs)
  | _, _ => none

section

variable (hmac : Crypto.HmacSha1) (buffer : SerializeBuffer) {p : StunPacket}

theorem exactSize_le_buffer (hsize : p.exactSize ≤ 65532) :
    p.exactSize ≤ buffer.bytes.length := by
  rw [buffer.length_bytes]
  omega

theorem datagram_serialized (hsize : p.exactSize ≤ 65532) :
    (p.serialized hmac buffer).datagram = p.message hmac (p.stalePadding buffer.bytes) := by
  have hlen := message_length hmac p (stalePadding_length (exactSize_le_buffer buffer hsize))
  simp only [datagram, serialized]
  rw [← hlen, List.take_left]

theorem contents_message {padding : Bytes} (hsize : p.exactSize ≤ 65532)
    (hpad : padding.length = padLen 4 p.username.length)
    (herr : p.klass = .errorResponse → p.errorCode ≤ 25599) :
    contents (p.message hmac padding) = some (p.received hmac padding) := by
  have hlen := message_length hmac p hpad
  have hvalid := message_valid hmac hsize hpad
  have hdvd : 4 ∣ p.exactSize := by
    have hrecords := flatMap_bytes_length_dvd hvalid
    rw [message, encode_length] at hlen
    omega
  have hheader := parseHeader_encode hsize (p.messageRecords hmac padding) hlen hdvd
  have hsplit : splitAll 4 ((p.message hmac padding).drop 20) =
      some (p.messageRecords hmac padding) := by
    rw [message, encode_drop_header]
    exact splitAll_flatMap _ hvalid
  rw [← message] at hheader
  rw [contents, hheader, hsplit]
  exact congrArg some (withAttributes_messageRecords hmac hsize hpad herr)

theorem contents_serialized (hsize : p.exactSize ≤ 65532)
    (herr : p.klass = .errorResponse → p.errorCode ≤ 25599) :
    contents (p.serialized hmac buffer).datagram =
      some (p.received hmac (p.stalePadding buffer.bytes)) := by
  rw [datagram_serialized hmac buffer hsize]
  exact contents_message hmac hsize (stalePadding_length (exactSize_le_buffer buffer hsize)) herr

end

theorem msgMethod_and_0x0FFF (msgType : UInt16) :
    msgMethod msgType &&& 0x0FFF = msgMethod msgType := by
  unfold msgMethod
  apply UInt16.toBitVec_inj.mp
  apply BitVec.eq_of_getLsbD_eq
  intro i hi
  interval_cases i <;> simp

end StunPacket

namespace ParsedPacket

variable (p : ParsedPacket) (hmac : Crypto.HmacSha1)

theorem exists_header : ∃ b₀ b₁, p.data.take 2 = [b₀, b₁] ∧
    StunPacket.isStun p.data p.data.length = .ok true ∧
    p.packet.klass = Class.ofCode (StunPacket.msgClass b₀ b₁) ∧
    p.packet.method = StunPacket.msgMethod (word16 b₀ b₁) := by
  rcases StunPacket.parse_cases p.data (StunPacket.length_le_of_parse p.parsed) with
    ⟨base, rs, hg, hbase, hparse⟩ | ⟨_, hparse⟩
  · have hpacket : p.packet = StunPacket.withAttributes base rs :=
      Option.some.inj (Except.ok.inj (p.parsed.symm.trans hparse))
    obtain ⟨b₀, b₁, _, htake, _, rfl⟩ :=
      StunPacket.parseHeader_eq_some (StunPacket.length_of_isStun hg.isStun) hbase
    rw [hpacket]
    exact ⟨b₀, b₁, htake, hg.isStun, rfl, rfl⟩
  · rw [p.parsed] at hparse
    cases hparse

theorem method_and_0x0FFF : p.packet.method &&& 0x0FFF = p.packet.method := by
  obtain ⟨b₀, b₁, _, _, _, hmethod⟩ := p.exists_header
  rw [hmethod]
  exact StunPacket.msgMethod_and_0x0FFF _

theorem checkAuthentication_unchanged (localUsername localPassword : Bytes) :
    ∃ result, p.packet.checkAuthentication hmac localUsername localPassword =
      .ok (result, p.packet) :=
  StunPacket.checkAuthentication_unchanged (StunPacket.length_le_of_parse p.parsed) p.parsed hmac
    localUsername localPassword

theorem checkAuthentication_eq (hklass : p.packet.klass = .request)
    (hmi : p.packet.messageIntegrity.isSome = true) (hname : p.packet.username ≠ [])
    (localUsername localPassword : Bytes) :
    p.packet.checkAuthentication hmac localUsername localPassword =
      .ok (if p.packet.authenticates hmac localUsername localPassword then .ok else .unauthorized,
        p.packet) := by
  obtain ⟨mi, hmi⟩ := Option.isSome_iff_exists.mp hmi
  have hok : ∀ {result : Authentication}, result ≠ .badRequest →
      p.packet.checkAuthentication hmac localUsername localPassword = .ok (result, p.packet) →
      p.packet.checkAuthentication hmac localUsername localPassword =
        .ok (if p.packet.authenticates hmac localUsername localPassword then .ok
          else .unauthorized, p.packet) := by
    intro result hne hresult
    unfold StunPacket.authenticates
    rw [hresult]
    cases result with
    | ok => rfl
    | unauthorized => rfl
    | badRequest => exact (hne rfl).elim
  cases hmatch : StunPacket.usernameMatches p.packet.username localUsername with
  | false =>
      exact hok (by decide)
        (StunPacket.checkAuthentication_mismatch hmac _ hmi (.inl hklass) hname hmatch)
  | true =>
      obtain ⟨body, hsigned⟩ :=
        StunPacket.signed_of_parse (StunPacket.length_le_of_parse p.parsed) p.parsed hmi
      have hresult := hsigned.checkAuthentication_eq hmac localUsername localPassword hmi
        (.inl hklass) hname hmatch
      refine hok ?_ hresult
      split
      · decide
      · decide

end ParsedPacket

namespace IceServer

/-- The exits of `ProcessStunPacket`. -/
inductive Verdict where
  | ignored
  | badRequest
  | unauthorized
  | current
  | old
  deriving DecidableEq, Repr

/-- A Binding request with all that it needs. -/
def isComplete (packet : StunPacket) : Bool :=
  packet.method = Method.binding && packet.hasFingerprint && packet.messageIntegrity.isSome &&
    packet.priority ≠ 0 && packet.username ≠ []

section

variable (hmac : Crypto.HmacSha1)

/-- The packet authenticates under the old credentials, if both are there. -/
def acceptsOld (s : IceServer) (packet : StunPacket) : Bool :=
  s.oldUsernameFragment ≠ [] && s.oldPassword ≠ [] &&
    packet.authenticates hmac s.oldUsernameFragment s.oldPassword

/-- The packet authenticates under the current credentials or the old ones. -/
def accepts (s : IceServer) (packet : StunPacket) : Bool :=
  packet.authenticates hmac s.usernameFragment s.password || s.acceptsOld hmac packet

def verdict (s : IceServer) (packet : StunPacket) : Verdict :=
  if packet.klass ≠ .request then .ignored
  else if !isComplete packet then .badRequest
  else if packet.authenticates hmac s.usernameFragment s.password then .current
  else if s.acceptsOld hmac packet then .old
  else .unauthorized

/-- The new credentials are in use, and the old ones are dropped. -/
def newCredentialsApplied (s : IceServer) : IceServer :=
  if s.oldPassword ≠ [] then { s with oldUsernameFragment := [], oldPassword := [] } else s

variable (buffer : SerializeBuffer) (s : IceServer) (packet : StunPacket) (tuple : SockAddrIn)

/-- `ProcessStunPacket` by its exits. -/
def answer : Verdict → Call (IceServer × StunPacket)
  | .ignored => return (s, packet)
  | .badRequest => do
      replyError hmac buffer packet 400 tuple
      return (s, packet)
  | .unauthorized => do
      replyError hmac buffer packet 401 tuple
      return (s, packet)
  | .current => do
      let s ← replySuccess hmac buffer s.newCredentialsApplied packet tuple
      return (s, packet)
  | .old => do
      let s ← replySuccess hmac buffer s packet tuple
      return (s, packet)

end

section

variable (hmac : Crypto.HmacSha1) (buffer : SerializeBuffer) (s : IceServer) (p : ParsedPacket)
  (tuple : SockAddrIn)

theorem isComplete_iff (packet : StunPacket) :
    isComplete packet = true ↔ packet.method = Method.binding ∧ packet.hasFingerprint = true ∧
      packet.messageIntegrity.isSome = true ∧ packet.priority ≠ 0 ∧ packet.username ≠ [] := by
  simp [isComplete, and_assoc]

theorem checkOldCredentials_eq (hklass : p.packet.klass = .request)
    (hmi : p.packet.messageIntegrity.isSome = true) (hname : p.packet.username ≠ []) :
    checkOldCredentials hmac s p.packet = .ok (s.acceptsOld hmac p.packet, p.packet) := by
  unfold checkOldCredentials acceptsOld
  by_cases hold : s.oldUsernameFragment ≠ [] ∧ s.oldPassword ≠ []
  · rw [if_pos hold, p.checkAuthentication_eq hmac hklass hmi hname]
    cases p.packet.authenticates hmac s.oldUsernameFragment s.oldPassword <;> simp [hold]
  · rw [if_neg hold]
    have hfalse : (decide (s.oldUsernameFragment ≠ []) && decide (s.oldPassword ≠ [])) = false := by
      simpa using hold
    rw [hfalse]
    rfl

theorem processRequest_eq (hklass : p.packet.klass = .request)
    (hmethod : p.packet.method = Method.binding) (hfingerprint : p.packet.hasFingerprint = true) :
    processRequest hmac buffer s p.packet tuple =
      answer hmac buffer s p.packet tuple (verdict hmac s p.packet) := by
  unfold processRequest verdict
  rw [if_neg (not_not.mpr hklass)]
  by_cases hmissing : p.packet.messageIntegrity = none ∨ p.packet.priority = 0 ∨
      p.packet.username = []
  · have hincomplete : isComplete p.packet = false := by
      rw [← Bool.not_eq_true, isComplete_iff]
      rintro ⟨_, _, hmi, hpriority, hname⟩
      rcases hmissing with h | h | h
      · rw [h] at hmi
        cases hmi
      · exact hpriority h
      · exact hname h
    rw [if_pos hmissing, hincomplete]
    rfl
  · obtain ⟨hmi, hpriority, hname⟩ : p.packet.messageIntegrity.isSome = true ∧
        p.packet.priority ≠ 0 ∧ p.packet.username ≠ [] := by
      simpa [not_or, Option.ne_none_iff_isSome] using hmissing
    have hcomplete : isComplete p.packet = true :=
      (isComplete_iff _).mpr ⟨hmethod, hfingerprint, hmi, hpriority, hname⟩
    rw [if_neg hmissing, hcomplete, p.checkAuthentication_eq hmac hklass hmi hname, lift_ok_bind]
    cases p.packet.authenticates hmac s.usernameFragment s.password with
    | true => rfl
    | false =>
        simp only [Bool.false_eq_true, if_false, Bool.not_true,
          checkOldCredentials_eq hmac s p hklass hmi hname, lift_ok_bind]
        cases s.acceptsOld hmac p.packet <;> rfl

/-- `ProcessStunPacket` takes the exit that packet and credentials decide. -/
theorem processStunPacket_eq :
    processStunPacket hmac buffer s p.packet tuple =
      answer hmac buffer s p.packet tuple (verdict hmac s p.packet) := by
  by_cases hklass : p.packet.klass = .request
  · by_cases hmethod : p.packet.method = Method.binding
    · cases hfingerprint : p.packet.hasFingerprint with
      | true =>
          rw [processStunPacket, if_neg (not_not.mpr hmethod), if_neg (by simp [hfingerprint]),
            if_pos hklass, processRequest_eq hmac buffer s p tuple hklass hmethod hfingerprint]
      | false =>
          have hincomplete : isComplete p.packet = false := by simp [isComplete, hfingerprint]
          rw [processStunPacket, if_neg (not_not.mpr hmethod),
            if_pos ⟨by rw [hfingerprint]; rfl, by rw [hklass]; decide⟩, if_pos hklass, verdict,
            if_neg (not_not.mpr hklass), hincomplete]
          rfl
    · have hincomplete : isComplete p.packet = false := by simp [isComplete, hmethod]
      rw [processStunPacket, if_pos hmethod, if_pos hklass, verdict, if_neg (not_not.mpr hklass),
        hincomplete]
      rfl
  · rw [processStunPacket, verdict, if_pos hklass, if_neg hklass, if_neg hklass, ite_self, ite_self]
    rfl

end

/-! ## Outcomes -/

def errorResponse (packet : StunPacket) (errorCode : UInt16) : StunPacket where
  klass := .errorResponse
  method := packet.method
  transactionId := packet.transactionId
  data := []
  size := 0
  errorCode

def responsePassword (s : IceServer) : Bytes :=
  if s.oldPassword = [] then s.password else s.oldPassword

namespace Verdict

def accepted : Verdict → Bool
  | current | old => true
  | ignored | badRequest | unauthorized => false

/-- The code of the error response, 0 if it is none. -/
def errorCode : Verdict → UInt16
  | badRequest => 400
  | unauthorized => 401
  | ignored | current | old => 0

def response (s : IceServer) (packet : StunPacket) (tuple : SockAddrIn) :
    Verdict → Option StunPacket
  | ignored => none
  | badRequest => some (errorResponse packet 400)
  | unauthorized => some (errorResponse packet 401)
  | current => some (successResponse packet tuple s.newCredentialsApplied.responsePassword)
  | old => some (successResponse packet tuple s.responsePassword)

def server (s : IceServer) : Verdict → IceServer
  | current => { s.newCredentialsApplied with state := .completed }
  | old => { s with state := .completed }
  | ignored | badRequest | unauthorized => s

/-- The first accepted request selects its tuple. -/
def selection (s : IceServer) (tuple : SockAddrIn) (v : Verdict) : List IceEvent :=
  if v.accepted ∧ s.state ≠ .completed then [.selectedTuple tuple] else []

def events (hmac : Crypto.HmacSha1) (buffer : SerializeBuffer) (s : IceServer)
    (packet : StunPacket) (tuple : SockAddrIn) (v : Verdict) : List IceEvent :=
  (v.response s packet tuple).toList.map
    (fun response => .sendStunPacket (response.serialized hmac buffer) tuple) ++
    v.selection s tuple

end Verdict

section

variable (hmac : Crypto.HmacSha1) (buffer : SerializeBuffer) (s : IceServer) {packet : StunPacket}
  (tuple : SockAddrIn)

theorem errorResponse_exactSize (packet : StunPacket) (errorCode : UInt16) :
    (errorResponse packet errorCode).exactSize ≤ 65532 := by
  have herror : (if (errorResponse packet errorCode).addErrorCode then 4 + 4 else 0) ≤ 8 := by
    split <;> omega
  simp [errorResponse, StunPacket.exactSize, StunPacket.sizeWith, StunPacket.xorMappedAddressSize,
    StunPacket.addXorMappedAddress, StunPacket.addMessageIntegrity] at herror ⊢
  omega

theorem send_eq {response : StunPacket} (hsize : response.exactSize ≤ 65532) :
    send hmac buffer response tuple =
      ⟨[.sendStunPacket (response.serialized hmac buffer) tuple], .ok ()⟩ := by
  unfold send
  rw [StunPacket.serialize_eq hmac hsize (StunPacket.exactSize_le_buffer buffer hsize)]
  rfl

theorem replyError_eq (hklass : packet.klass = .request) (errorCode : UInt16) :
    replyError hmac buffer packet errorCode tuple =
      ⟨[.sendStunPacket ((errorResponse packet errorCode).serialized hmac buffer) tuple],
        .ok ()⟩ := by
  unfold replyError StunPacket.createErrorResponse
  rw [if_pos hklass, Exec.pure_eq_ok, lift_ok_bind]
  exact send_eq hmac buffer tuple (errorResponse_exactSize packet errorCode)

theorem handleTuple_eq :
    s.handleTuple tuple =
      ⟨if s.state ≠ .completed then [.selectedTuple tuple] else [],
        .ok { s with state := .completed }⟩ := by
  unfold handleTuple
  split
  · rfl
  · rename_i hstate
    rw [← not_not.mp hstate]
    rfl

theorem replySuccess_eq (hklass : packet.klass = .request)
    (hmethod : packet.method = Method.binding) :
    replySuccess hmac buffer s packet tuple =
      ⟨.sendStunPacket ((successResponse packet tuple s.responsePassword).serialized hmac buffer)
          tuple :: (if s.state ≠ .completed then [.selectedTuple tuple] else []),
        .ok { s with state := .completed }⟩ := by
  have hsize : (successResponse packet tuple s.responsePassword).exactSize ≤ 65532 :=
    successResponse_exactSize hmethod s.responsePassword
  have hsend := send_eq hmac buffer tuple hsize
  unfold replySuccess StunPacket.createSuccessResponse
  rw [if_pos hklass, Exec.pure_eq_ok, lift_ok_bind, handleTuple_eq]
  show (send hmac buffer (successResponse packet tuple s.responsePassword) tuple >>= _) = _
  rw [hsend]
  rfl

end

section

variable (hmac : Crypto.HmacSha1) (buffer : SerializeBuffer) (s : IceServer) (p : ParsedPacket)
  (tuple : SockAddrIn)

theorem complete_of_verdict {packet : StunPacket}
    (h : (verdict hmac s packet).accepted = true) :
    packet.klass = .request ∧ isComplete packet = true := by
  unfold verdict at h
  split at h
  · cases h
  · rename_i hklass
    refine ⟨not_not.mp hklass, ?_⟩
    split at h
    · cases h
    · rename_i hcomplete
      simpa using hcomplete

theorem request_of_verdict {packet : StunPacket} (h : verdict hmac s packet ≠ .ignored) :
    packet.klass = .request := by
  by_contra hklass
  exact h (if_pos hklass)

theorem Verdict.server_current (s : IceServer) (v : Verdict) :
    (v.server s).usernameFragment = s.usernameFragment ∧ (v.server s).password = s.password := by
  cases v with
  | ignored => exact ⟨rfl, rfl⟩
  | badRequest => exact ⟨rfl, rfl⟩
  | unauthorized => exact ⟨rfl, rfl⟩
  | current =>
      simp only [Verdict.server, newCredentialsApplied]
      split <;> exact ⟨rfl, rfl⟩
  | old => exact ⟨rfl, rfl⟩

/-- `ProcessStunPacket` returns, with the events and the server of its exit. -/
theorem processStunPacket_outcome :
    processStunPacket hmac buffer s p.packet tuple =
      ⟨(verdict hmac s p.packet).events hmac buffer s p.packet tuple,
        .ok ((verdict hmac s p.packet).server s, p.packet)⟩ := by
  rw [processStunPacket_eq]
  have hrequest : verdict hmac s p.packet ≠ .ignored → p.packet.klass = .request :=
    request_of_verdict hmac s
  have haccepted : (verdict hmac s p.packet).accepted = true →
      p.packet.klass = .request ∧ isComplete p.packet = true := complete_of_verdict hmac s
  have hstate : s.newCredentialsApplied.state = s.state := by
    unfold newCredentialsApplied
    split <;> rfl
  cases hv : verdict hmac s p.packet with
  | ignored => rfl
  | badRequest =>
      rw [answer, replyError_eq hmac buffer tuple (hrequest (by rw [hv]; decide))]
      rfl
  | unauthorized =>
      rw [answer, replyError_eq hmac buffer tuple (hrequest (by rw [hv]; decide))]
      rfl
  | current =>
      obtain ⟨hklass, hcomplete⟩ := haccepted (by rw [hv]; rfl)
      rw [answer, replySuccess_eq hmac buffer _ tuple hklass ((isComplete_iff _).mp hcomplete).1,
        hstate, ok_bind_pure]
      simp [Verdict.events, Verdict.response, Verdict.selection, Verdict.accepted, Verdict.server]
  | old =>
      obtain ⟨hklass, hcomplete⟩ := haccepted (by rw [hv]; rfl)
      rw [answer, replySuccess_eq hmac buffer _ tuple hklass ((isComplete_iff _).mp hcomplete).1,
        ok_bind_pure]
      simp [Verdict.events, Verdict.response, Verdict.selection, Verdict.accepted, Verdict.server]

end

/-! ## Answers to requests -/

def responses (τ : List IceEvent) : List (StunPacket × SockAddrIn) :=
  τ.filterMap fun
    | .sendStunPacket response tuple => some (response, tuple)
    | .selectedTuple _ => none

section

variable (hmac : Crypto.HmacSha1) (buffer : SerializeBuffer) (s : IceServer) (p : ParsedPacket)
  (tuple : SockAddrIn)

theorem responses_events (packet : StunPacket) (v : Verdict) :
    responses (v.events hmac buffer s packet tuple) =
      (v.response s packet tuple).toList.map fun r => (r.serialized hmac buffer, tuple) := by
  have hselection : responses (v.selection s tuple) = [] := by
    unfold Verdict.selection
    split <;> rfl
  unfold Verdict.events responses at *
  rw [List.filterMap_append, hselection, List.append_nil]
  cases v.response s packet tuple <;> rfl

theorem response_exactSize {s : IceServer} {packet response : StunPacket} {tuple : SockAddrIn}
    (hresponse : (verdict hmac s packet).response s packet tuple = some response) :
    response.exactSize ≤ 65532 := by
  have hmethod : (verdict hmac s packet).accepted = true → packet.method = Method.binding := by
    intro haccepted
    exact ((isComplete_iff _).mp (complete_of_verdict hmac s haccepted).2).1
  cases hv : verdict hmac s packet with
  | ignored =>
      rw [hv] at hresponse
      cases hresponse
  | badRequest =>
      rw [hv] at hresponse
      cases hresponse
      exact errorResponse_exactSize packet 400
  | unauthorized =>
      rw [hv] at hresponse
      cases hresponse
      exact errorResponse_exactSize packet 401
  | current =>
      rw [hv] at hresponse hmethod
      cases hresponse
      exact successResponse_exactSize (hmethod rfl) _
  | old =>
      rw [hv] at hresponse hmethod
      cases hresponse
      exact successResponse_exactSize (hmethod rfl) _

theorem contents_response {response : StunPacket}
    (hresponse : (verdict hmac s p.packet).response s p.packet tuple = some response) :
    ∃ q, StunPacket.contents (response.serialized hmac buffer).datagram = some q ∧
      q.method = p.packet.method ∧ q.transactionId = p.packet.transactionId ∧
      q.klass = (if (verdict hmac s p.packet).accepted then .successResponse
        else .errorResponse) ∧
      q.errorCode = (verdict hmac s p.packet).errorCode := by
  have hsize := response_exactSize hmac hresponse
  have hmethod := p.method_and_0x0FFF
  cases hv : verdict hmac s p.packet with
  | ignored =>
      rw [hv] at hresponse
      cases hresponse
  | badRequest =>
      rw [hv] at hresponse
      cases hresponse
      have hcode : (400 : UInt16) ≤ 25599 := by decide
      exact ⟨_, StunPacket.contents_serialized hmac buffer hsize fun _ => hcode, hmethod, rfl, rfl,
        rfl⟩
  | unauthorized =>
      rw [hv] at hresponse
      cases hresponse
      have hcode : (401 : UInt16) ≤ 25599 := by decide
      exact ⟨_, StunPacket.contents_serialized hmac buffer hsize fun _ => hcode, hmethod, rfl, rfl,
        rfl⟩
  | current =>
      rw [hv] at hresponse
      cases hresponse
      exact ⟨_, StunPacket.contents_serialized hmac buffer hsize (by intro h; cases h), hmethod,
        rfl, rfl, rfl⟩
  | old =>
      rw [hv] at hresponse
      cases hresponse
      exact ⟨_, StunPacket.contents_serialized hmac buffer hsize (by intro h; cases h), hmethod,
        rfl, rfl, rfl⟩

theorem verdict_ignored_iff (packet : StunPacket) :
    verdict hmac s packet = .ignored ↔ packet.klass ≠ .request := by
  unfold verdict
  repeat' split
  all_goals simp_all

theorem verdict_accepted_iff {packet : StunPacket} (hklass : packet.klass = .request) :
    (verdict hmac s packet).accepted = true ↔
      isComplete packet = true ∧ s.accepts hmac packet = true := by
  unfold verdict accepts
  rw [if_neg (not_not.mpr hklass)]
  cases isComplete packet <;>
    cases packet.authenticates hmac s.usernameFragment s.password <;>
    cases s.acceptsOld hmac packet <;> decide

theorem verdict_unauthorized_iff {packet : StunPacket} (hklass : packet.klass = .request) :
    verdict hmac s packet = .unauthorized ↔
      isComplete packet = true ∧ s.accepts hmac packet = false := by
  unfold verdict accepts
  rw [if_neg (not_not.mpr hklass)]
  cases isComplete packet <;>
    cases packet.authenticates hmac s.usernameFragment s.password <;>
    cases s.acceptsOld hmac packet <;> decide

theorem verdict_badRequest_iff {packet : StunPacket} (hklass : packet.klass = .request) :
    verdict hmac s packet = .badRequest ↔ isComplete packet = false := by
  unfold verdict
  rw [if_neg (not_not.mpr hklass)]
  cases isComplete packet <;>
    cases packet.authenticates hmac s.usernameFragment s.password <;>
    cases s.acceptsOld hmac packet <;> decide

theorem response_isSome {v : Verdict} (packet : StunPacket) (hv : v ≠ .ignored) :
    ∃ response, v.response s packet tuple = some response := by
  cases v with
  | ignored => exact (hv rfl).elim
  | badRequest => exact ⟨_, rfl⟩
  | unauthorized => exact ⟨_, rfl⟩
  | current => exact ⟨_, rfl⟩
  | old => exact ⟨_, rfl⟩

theorem unchanged_of_not_accepted {v : Verdict} (packet : StunPacket) (hv : v.accepted = false) :
    v.server s = s ∧ ∀ t, .selectedTuple t ∉ v.events hmac buffer s packet tuple := by
  have hselection : v.selection s tuple = [] := by
    rw [Verdict.selection, hv]
    rfl
  constructor
  · cases v with
    | ignored => rfl
    | badRequest => rfl
    | unauthorized => rfl
    | current => cases hv
    | old => cases hv
  · intro t ht
    rw [Verdict.events, hselection, List.append_nil] at ht
    obtain ⟨_, _, h⟩ := List.mem_map.mp ht
    cases h

/-- Every request is answered once, and what is not answered with success changes
nothing. -/
theorem request_answered_once :
    ∃ s' packet' τ, processStunPacket hmac buffer s p.packet tuple = ⟨τ, .ok (s', packet')⟩ ∧
      (p.packet.klass ≠ .request → responses τ = []) ∧
      (p.packet.klass = .request → ∃ response q,
        responses τ = [(response, tuple)] ∧
        StunPacket.contents response.datagram = some q ∧
        q.method = p.packet.method ∧ q.transactionId = p.packet.transactionId ∧
        (q.klass = .successResponse ↔
          isComplete p.packet = true ∧ s.accepts hmac p.packet = true) ∧
        (q.klass = .errorResponse ∧ q.errorCode = 401 ↔
          isComplete p.packet = true ∧ s.accepts hmac p.packet = false) ∧
        (q.klass = .errorResponse ∧ q.errorCode = 400 ↔ isComplete p.packet = false)) ∧
      ((∀ r ∈ responses τ, ∀ q, StunPacket.contents r.1.datagram = some q →
          q.klass ≠ .successResponse) →
        s' = s ∧ packet' = p.packet ∧ ∀ t, .selectedTuple t ∉ τ) := by
  refine ⟨_, _, _, processStunPacket_outcome hmac buffer s p tuple, ?_, ?_, ?_⟩
  · intro hklass
    rw [responses_events, (verdict_ignored_iff hmac s p.packet).mpr hklass]
    rfl
  · intro hklass
    have hne : verdict hmac s p.packet ≠ .ignored := by
      rw [ne_eq, verdict_ignored_iff]
      exact not_not.mpr hklass
    obtain ⟨response, hresponse⟩ := response_isSome s tuple p.packet hne
    obtain ⟨q, hq, hmethod, hid, hk, hcode⟩ := contents_response hmac buffer s p tuple hresponse
    refine ⟨response.serialized hmac buffer, q, ?_, hq, hmethod, hid, ?_, ?_, ?_⟩
    · rw [responses_events, hresponse]
      rfl
    · rw [← verdict_accepted_iff hmac s hklass, hk]
      cases verdict hmac s p.packet <;> decide
    · rw [← verdict_unauthorized_iff hmac s hklass, hk, hcode]
      cases verdict hmac s p.packet <;> decide
    · rw [← verdict_badRequest_iff hmac s hklass, hk, hcode]
      cases verdict hmac s p.packet <;> decide
  · intro hnone
    have hv : (verdict hmac s p.packet).accepted = false := by
      by_contra haccepted
      rw [Bool.not_eq_false] at haccepted
      have hne : verdict hmac s p.packet ≠ .ignored := by
        intro h
        rw [h] at haccepted
        cases haccepted
      obtain ⟨response, hresponse⟩ := response_isSome s tuple p.packet hne
      obtain ⟨q, hq, _, _, hk, _⟩ := contents_response hmac buffer s p tuple hresponse
      refine hnone (response.serialized hmac buffer, tuple) ?_ q hq (by rw [hk, haccepted]; rfl)
      rw [responses_events, hresponse]
      exact List.mem_singleton_self _
    obtain ⟨hserver, hselected⟩ := unchanged_of_not_accepted hmac buffer s tuple p.packet hv
    exact ⟨hserver, rfl, hselected⟩

end

end IceServer

end EasyWebRtc.Rtc
