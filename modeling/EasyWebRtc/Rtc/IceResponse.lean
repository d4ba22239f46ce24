import EasyWebRtc.Rtc.IceServer

/-!
# Responses of the ICE server

`ProcessStunPacket` answers requests only, at the tuple it was given, and a
success response reports that tuple in XOR-MAPPED-ADDRESS.
-/

namespace EasyWebRtc.Rtc

open Octets Utils Tlv Traced

namespace StunPacket

def headerClass : Bytes → Option Class
  | b₀ :: b₁ :: _ => some (Class.ofCode (msgClass b₀ b₁))
  | _ => none

/-- The IPv4 address that an XOR-MAPPED-ADDRESS value stands for. -/
def readXorMappedAddress : Bytes → Option SockAddrIn
  | [_, family, p₁, p₀, a₃, a₂, a₁, a₀] =>
      if family = 0x01 then
        some ⟨word16 (p₁ ^^^ 0x21) (p₀ ^^^ 0x12),
          word32 (a₃ ^^^ 0x21) (a₂ ^^^ 0x12) (a₁ ^^^ 0xA4) (a₀ ^^^ 0x42)⟩
      else none
  | _ => none

/-- The address in the last XOR-MAPPED-ADDRESS of a message. -/
def mappedAddress (data : Bytes) : Option SockAddrIn := do
  let rs ← splitAll 4 (data.drop 20)
  let value ← lastValue rs Attribute.xorMappedAddress.code
  readXorMappedAddress value

theorem readXorMappedAddress_value (transactionId : TransactionId) (tuple : SockAddrIn) :
    readXorMappedAddress (xorMappedAddressValue transactionId tuple.toSockAddr) = some tuple := by
  rcases tuple with ⟨port, addr⟩
  have hport := word16_be16 port
  have haddr := word32_be32 addr
  simp only [xorMappedAddressValue, SockAddrIn.toSockAddr, be16, be32, magicCookie,
    List.zipWith_cons_cons, List.zipWith_nil_left, List.cons_append, List.nil_append,
    readXorMappedAddress, if_true, UInt8.xor_assoc, UInt8.xor_self, UInt8.xor_zero, hport, haddr]

theorem headerClass_encode (p : StunPacket) (rs : List Record) :
    headerClass (p.encode rs) = some p.klass := by
  rw [encode_eq, headerClass, msgClass_typeField]

theorem mappedAddress_message (hmac : Crypto.HmacSha1) {p : StunPacket} {padding : Bytes}
    (hsize : p.exactSize ≤ 65532) (hpad : padding.length = padLen 4 p.username.length) :
    mappedAddress (p.message hmac padding) =
      (lastValue (p.messageRecords hmac padding) Attribute.xorMappedAddress.code).bind
        readXorMappedAddress := by
  have hsplit : splitAll 4 ((p.message hmac padding).drop 20) =
      some (p.messageRecords hmac padding) := by
    rw [message, encode_drop_header]
    exact splitAll_flatMap _ (message_valid hmac hsize hpad)
  rw [mappedAddress, hsplit]
  rfl

theorem checkAuthentication_packet {hmac : Crypto.HmacSha1} {p p' : StunPacket}
    {localUsername localPassword : Bytes} {result : Authentication}
    (h : checkAuthentication hmac p localUsername localPassword = .ok (result, p')) :
    ∃ data, p' = { p with data } := by
  have hsame : ∀ r, (.ok (r, p) : Exec (Authentication × StunPacket)) = .ok (result, p') →
      ∃ data, p' = { p with data } := by
    intro r hr
    cases hr
    exact ⟨p.data, rfl⟩
  unfold checkAuthentication at h
  split at h
  · exact hsame _ h
  · exact hsame _ h
  · exact hsame _ h
  · exact hsame _ h
  all_goals
    split at h
    · exact hsame _ h
    · split at h
      · exact hsame _ h
      · obtain ⟨_, _, h⟩ := Exec.bind_eq_ok.mp h
        obtain ⟨_, _, h⟩ := Exec.bind_eq_ok.mp h
        dsimp only at h
        split at h
        all_goals
          obtain ⟨data, _, h⟩ := Exec.bind_eq_ok.mp h
          cases h
          exact ⟨data, rfl⟩

end StunPacket

namespace IceServer

/-- What an event of `ProcessStunPacket` is, for the packet and its source. -/
def Answers (packet : StunPacket) (tuple : SockAddrIn) : IceEvent → Prop
  | .sendStunPacket response t =>
      packet.klass = .request ∧ t = tuple ∧ response.size ≤ response.data.length ∧
      (StunPacket.headerClass (response.data.take response.size) = some .successResponse →
        StunPacket.mappedAddress (response.data.take response.size) = some tuple)
  | .selectedTuple t => t = tuple

section

variable {hmac : Crypto.HmacSha1} {buffer : SerializeBuffer} {packet : StunPacket}
  {tuple : SockAddrIn}

theorem send_only {response : StunPacket} (hklass : packet.klass = .request)
    (hsize : response.exactSize ≤ 65532)
    (hmapped : response.klass = .successResponse → ∀ padding : Bytes,
      padding.length = padLen 4 response.username.length →
      StunPacket.mappedAddress (response.message hmac padding) = some tuple) :
    (send hmac buffer response tuple).Only (Answers packet tuple) := by
  have hfit : response.exactSize ≤ buffer.bytes.length := by
    rw [buffer.length_bytes]
    omega
  have hpad := StunPacket.stalePadding_length hfit
  have hlen := StunPacket.message_length hmac response hpad
  have htake : (response.message hmac (response.stalePadding buffer.bytes) ++
      buffer.bytes.drop response.exactSize).take response.exactSize =
      response.message hmac (response.stalePadding buffer.bytes) := by
    rw [← hlen, List.take_left]
  unfold send
  rw [StunPacket.serialize_eq hmac hsize hfit]
  apply Only.bind Only.lift
  apply Post.lift
  intro r hr
  cases hr
  refine Only.emit ⟨hklass, rfl, ?_, ?_⟩
  · simp only [List.length_append, hlen]
    omega
  · simp only [htake]
    intro hclass
    rw [StunPacket.message, StunPacket.headerClass_encode] at hclass
    exact hmapped (Option.some.inj hclass) _ hpad

theorem replyError_only (packet : StunPacket) {errorCode : UInt16} :
    (replyError hmac buffer packet errorCode tuple).Only (Answers packet tuple) := by
  apply Only.bind Only.lift
  apply Post.lift
  intro response hresponse
  unfold StunPacket.createErrorResponse at hresponse
  split at hresponse
  · rename_i hklass
    cases hresponse
    apply send_only hklass
    · simp [StunPacket.exactSize, StunPacket.sizeWith, StunPacket.xorMappedAddressSize,
        StunPacket.addXorMappedAddress, StunPacket.addMessageIntegrity]
      split <;> omega
    · intro hsuccess
      cases hsuccess
  · cases hresponse

theorem handleTuple_only {s : IceServer} : (s.handleTuple tuple).Only (Answers packet tuple) := by
  unfold handleTuple
  split
  · apply Only.bind
    · exact Only.emit rfl
    apply Post.emit
    exact Only.pure
  · exact Only.pure

def successResponse (packet : StunPacket) (tuple : SockAddrIn) (password : Bytes) : StunPacket where
  klass := .successResponse
  method := packet.method
  transactionId := packet.transactionId
  data := []
  size := 0
  xorMappedAddress := some tuple.toSockAddr
  password

theorem addXorMappedAddress_successResponse (hmethod : packet.method = Method.binding)
    (password : Bytes) :
    (successResponse packet tuple password).addXorMappedAddress = some tuple.toSockAddr := by
  unfold StunPacket.addXorMappedAddress
  rw [if_pos ⟨hmethod, rfl⟩]
  rfl

theorem bodyRecords_successResponse (hmethod : packet.method = Method.binding)
    (password padding : Bytes) :
    (successResponse packet tuple password).bodyRecords padding =
      [⟨Attribute.xorMappedAddress.code,
        StunPacket.xorMappedAddressValue packet.transactionId tuple.toSockAddr, []⟩] := by
  unfold StunPacket.bodyRecords StunPacket.plainRecords StunPacket.xorMappedAddressRecords
  rw [addXorMappedAddress_successResponse hmethod]
  simp [successResponse, StunPacket.recordIf, StunPacket.addErrorCode]

theorem successResponse_exactSize (hmethod : packet.method = Method.binding) (password : Bytes) :
    (successResponse packet tuple password).exactSize ≤ 65532 := by
  have hmi : (if (successResponse packet tuple password).addMessageIntegrity then 4 + 20 else 0) ≤
      24 := by
    split <;> omega
  have hvalue : (StunPacket.xorMappedAddressValue packet.transactionId
      tuple.toSockAddr).length = 8 := rfl
  rw [StunPacket.exactSize_eq _ (show ([] : Bytes).length = padLen 4 0 from rfl),
    bodyRecords_successResponse hmethod]
  simp only [List.flatMap_cons, List.flatMap_nil, List.append_nil, Record.bytes_length, hvalue,
    List.length_nil]
  omega

theorem mappedAddress_successResponse (hmethod : packet.method = Method.binding)
    (password : Bytes) {padding : Bytes} (hpad : padding.length = padLen 4 0) :
    StunPacket.mappedAddress ((successResponse packet tuple password).message hmac padding) =
      some tuple := by
  have hother : lastValue (StunPacket.recordIf
      ((successResponse packet tuple password).addMessageIntegrity = true) .messageIntegrity
      (hmac.digest (successResponse packet tuple password).password
        ((successResponse packet tuple password).signedPrefix padding)) [])
      Attribute.xorMappedAddress.code = none := by
    unfold StunPacket.recordIf
    split <;> rfl
  rw [StunPacket.mappedAddress_message hmac (successResponse_exactSize hmethod password) hpad,
    StunPacket.messageRecords, StunPacket.signedRecords, bodyRecords_successResponse hmethod,
    lastValue_concat,
    if_neg (show Attribute.fingerprint.code ≠ Attribute.xorMappedAddress.code by decide),
    lastValue_append, hother]
  exact StunPacket.readXorMappedAddress_value packet.transactionId tuple

theorem replySuccess_only (packet : StunPacket) {s : IceServer}
    (hmethod : packet.method = Method.binding) :
    (replySuccess hmac buffer s packet tuple).Only (Answers packet tuple) := by
  apply Only.bind Only.lift
  apply Post.lift
  intro response hresponse
  unfold StunPacket.createSuccessResponse at hresponse
  split at hresponse
  · rename_i hklass
    cases hresponse
    have hsend : ∀ password, (send hmac buffer (successResponse packet tuple password) tuple).Only
        (Answers packet tuple) := by
      intro password
      apply send_only hklass
      · exact successResponse_exactSize hmethod password
      · intro _ padding hpad
        exact mappedAddress_successResponse hmethod password hpad
    apply Only.bind
    · exact hsend _
    · constructor
      intro _ _
      exact handleTuple_only
  · cases hresponse

theorem checkOldCredentials_packet {s : IceServer} {packet packet' : StunPacket} {accepted : Bool}
    (h : checkOldCredentials hmac s packet = .ok (accepted, packet')) :
    ∃ data, packet' = { packet with data } := by
  unfold checkOldCredentials at h
  split at h
  · cases hcheck : packet.checkAuthentication hmac s.oldUsernameFragment s.oldPassword with
    | error e =>
        rw [hcheck] at h
        cases h
    | ok r =>
        rw [hcheck] at h
        cases h
        exact StunPacket.checkAuthentication_packet hcheck
  · cases h
    exact ⟨packet.data, rfl⟩

theorem processRequest_only {s : IceServer} (hmethod : packet.method = Method.binding) :
    (processRequest hmac buffer s packet tuple).Only (Answers packet tuple) := by
  unfold processRequest
  split
  · apply Only.bind (replyError_only packet)
    exact ⟨fun _ _ => Only.pure⟩
  · apply Only.bind Only.lift
    apply Post.lift
    intro r hr
    rcases r with ⟨result, packet'⟩
    obtain ⟨data, rfl⟩ := StunPacket.checkAuthentication_packet hr
    cases result with
    | ok =>
        apply Only.bind
        · exact replySuccess_only { packet with data } hmethod
        · exact ⟨fun _ _ => Only.pure⟩
    | unauthorized =>
        apply Only.bind Only.lift
        apply Post.lift
        rintro ⟨accepted, packet'⟩ hold
        obtain ⟨data', rfl⟩ := checkOldCredentials_packet hold
        simp only
        split
        · apply Only.bind
          · exact replySuccess_only { packet with data := data' } hmethod
          · exact ⟨fun _ _ => Only.pure⟩
        · apply Only.bind
          · exact replyError_only { packet with data := data' }
          · exact ⟨fun _ _ => Only.pure⟩
    | badRequest =>
        apply Only.bind
        · exact replyError_only { packet with data }
        · exact ⟨fun _ _ => Only.pure⟩

/-- `ProcessStunPacket` answers requests, at the tuple they came from. -/
theorem processStunPacket_only {s : IceServer} :
    (processStunPacket hmac buffer s packet tuple).Only (Answers packet tuple) := by
  have hreply : (do
      replyError hmac buffer packet 400 tuple
      return (s, packet) : Call (IceServer × StunPacket)).Only (Answers packet tuple) := by
    apply Only.bind (replyError_only packet)
    exact ⟨fun _ _ => Only.pure⟩
  unfold processStunPacket
  split
  · split
    · exact hreply
    · exact Only.pure
  · rename_i hmethod
    split
    · split
      · exact hreply
      · exact Only.pure
    · split
      · exact processRequest_only (not_not.mp hmethod)
      · exact Only.pure

end

end IceServer

end EasyWebRtc.Rtc
