import EasyWebRtc.Rtc.IceAnswer

/-!
# Error replies as STUN messages

The response class sets the lowest bit of the first byte, and `IsStun` wants
that byte below 3. A request whose first byte is 2 has a method with bit 7 set,
and its error reply begins with 3: the server sends a message that it would not
take for STUN itself.
-/

namespace EasyWebRtc.Rtc

open Octets Utils Tlv

/-- The server replies with an error response that `Parse` accepts and that
answers the request. -/
def ErrorReplyParses (hmac : Crypto.HmacSha1) (buffer : SerializeBuffer) (packet : StunPacket)
    (errorCode : UInt16) (tuple : SockAddrIn) : Prop :=
  ∃ sent received,
    IceServer.replyError hmac buffer packet errorCode tuple =
      ⟨[.sendStunPacket sent tuple], .ok ()⟩ ∧
    StunPacket.parse sent.datagram sent.datagram.length = .ok (some received) ∧
    received.klass = .errorResponse ∧ received.method = packet.method ∧
    received.transactionId = packet.transactionId ∧ received.errorCode = errorCode

namespace StunPacket

/-! ## The first byte -/

theorem isStun_encode_eq {p : StunPacket} (rs : List Record) :
    isStun (p.encode rs) (p.encode rs).length = .ok (decide ((p.typeField >>> 8).toUInt8 < 3)) := by
  by_cases htype : (p.typeField >>> 8).toUInt8 < 3
  · rw [isStun_encode rs htype, decide_eq_true htype]
  · have h20 : 20 ≤ (p.encode rs).length := by
      rw [encode_length]
      omega
    rw [isStun, if_pos h20, encode_eq]
    simp [Byte.get1Byte, load, htype]

theorem errorResponse_firstByte (b₀ b₁ : UInt8) {p : StunPacket} (hklass : p.klass = .errorResponse)
    (hmethod : p.method = msgMethod (word16 b₀ b₁)) :
    (p.typeField >>> 8).toUInt8 = (b₀ &&& 0x3E) ||| 1 := by
  unfold typeField
  rw [hklass, hmethod]
  unfold msgMethod word16
  apply UInt8.toBitVec_inj.mp
  apply BitVec.eq_of_getLsbD_eq
  intro i hi
  interval_cases i <;> simp [Class.code]

theorem firstByte_of_isStun {data : Bytes} {len : Nat} {b₀ : UInt8} (h₀ : data.head? = some b₀)
    (h : isStun data len = .ok true) : b₀ < 3 := by
  have hread : Byte.get1Byte data 0 = .ok b₀ := by
    rw [Byte.get1Byte, load, ← List.head?_eq_getElem?, h₀]
  rw [isStun, if_pos (length_of_isStun h), hread, Exec.ok_bind] at h
  by_contra hbig
  rw [if_neg hbig] at h
  cases h

theorem not_request_of_firstByte_one (b₁ : UInt8) : Class.ofCode (msgClass 1 b₁) ≠ .request := by
  have hne : msgClass 1 b₁ ≠ 0 := by
    intro hzero
    have hbit := congrArg (fun v : UInt16 => v.toBitVec.getLsbD 1) hzero
    simp [msgClass] at hbit
  unfold Class.ofCode
  rw [if_neg hne]
  split
  · decide
  · split <;> decide

theorem lt_three_cases {b : UInt8} (h : b < 3) : b = 0 ∨ b = 1 ∨ b = 2 := by
  have hlt : b.toNat < 3 := UInt8.lt_iff_toNat_lt.mp h
  simp only [← UInt8.toNat_inj]
  have h₀ : (0 : UInt8).toNat = 0 := rfl
  have h₁ : (1 : UInt8).toNat = 1 := rfl
  have h₂ : (2 : UInt8).toNat = 2 := rfl
  omega

end StunPacket

namespace ParsedPacket

variable (p : ParsedPacket)

theorem request_firstByte (hklass : p.packet.klass = .request) :
    ∃ b₀ b₁, p.data.head? = some b₀ ∧ (b₀ = 0 ∨ b₀ = 2) ∧
      p.packet.method = StunPacket.msgMethod (word16 b₀ b₁) := by
  obtain ⟨b₀, b₁, htake, hstun, hclass, hmethod⟩ := p.exists_header
  have hhead : p.data.head? = some b₀ := by
    have h := congrArg List.head? htake
    rwa [List.head?_take, if_neg (by decide), List.head?_cons] at h
  refine ⟨b₀, b₁, hhead, ?_, hmethod⟩
  rw [hclass] at hklass
  rcases StunPacket.lt_three_cases (StunPacket.firstByte_of_isStun hhead hstun) with
    rfl | rfl | rfl
  · exact .inl rfl
  · exact absurd hklass (StunPacket.not_request_of_firstByte_one b₁)
  · exact .inr rfl

theorem errorReply_firstByte (errorCode : UInt16) {b₀ b₁ : UInt8}
    (hmethod : p.packet.method = StunPacket.msgMethod (word16 b₀ b₁)) :
    ((IceServer.errorResponse p.packet errorCode).typeField >>> 8).toUInt8 = (b₀ &&& 0x3E) ||| 1 :=
  StunPacket.errorResponse_firstByte b₀ b₁ rfl hmethod

end ParsedPacket

/-! ## Replies -/

section

variable (hmac : Crypto.HmacSha1) (buffer : SerializeBuffer) (tuple : SockAddrIn)
  (p : ParsedPacket) {errorCode : UInt16}

theorem errorReplyParses_of_zero (hklass : p.packet.klass = .request)
    (hcode : errorCode ≤ 25599) (h₀ : p.data.head? = some 0) :
    ErrorReplyParses hmac buffer p.packet errorCode tuple := by
  obtain ⟨b₀, b₁, hhead, _, hmethod⟩ := p.request_firstByte hklass
  have hb₀ : b₀ = 0 := Option.some.inj (hhead.symm.trans h₀)
  have hsize := IceServer.errorResponse_exactSize p.packet errorCode
  have hpad := StunPacket.stalePadding_length (StunPacket.exactSize_le_buffer buffer hsize)
  have htype := p.errorReply_firstByte errorCode hmethod
  have hparse := StunPacket.parse_message hmac hsize hpad
    (by rw [htype, hb₀]; decide) (fun _ => hcode)
  rw [← StunPacket.message_length hmac _ hpad, ← StunPacket.datagram_serialized hmac buffer hsize]
    at hparse
  exact ⟨_, _, IceServer.replyError_eq hmac buffer tuple hklass errorCode, hparse, rfl,
    p.method_and_0x0FFF, rfl, rfl⟩

theorem not_errorReplyParses_of_two (hklass : p.packet.klass = .request)
    (h₂ : p.data.head? = some 2) : ¬ ErrorReplyParses hmac buffer p.packet errorCode tuple := by
  rintro ⟨sent, received, hreply, hparse, _⟩
  obtain ⟨b₀, b₁, hhead, _, hmethod⟩ := p.request_firstByte hklass
  have hb₀ : b₀ = 2 := Option.some.inj (hhead.symm.trans h₂)
  have hsize := IceServer.errorResponse_exactSize p.packet errorCode
  have htype := p.errorReply_firstByte errorCode hmethod
  rw [IceServer.replyError_eq hmac buffer tuple hklass errorCode] at hreply
  cases hreply
  rw [StunPacket.datagram_serialized hmac buffer hsize, StunPacket.message] at hparse
  have hstun := StunPacket.isStun_encode_eq (p := IceServer.errorResponse p.packet errorCode)
    ((IceServer.errorResponse p.packet errorCode).messageRecords hmac
      ((IceServer.errorResponse p.packet errorCode).stalePadding buffer.bytes))
  rw [htype, hb₀] at hstun
  rw [StunPacket.parse, hstun] at hparse
  cases hparse

/-- The error reply to an accepted request is valid STUN and answers it exactly
if the request begins with 0. -/
theorem error_reply_parses_iff (hklass : p.packet.klass = .request)
    (hcode : errorCode = 400 ∨ errorCode = 401) :
    ErrorReplyParses hmac buffer p.packet errorCode tuple ↔ p.data.head? = some 0 := by
  have hle : errorCode ≤ 25599 := by
    rcases hcode with rfl | rfl
    · decide
    · decide
  constructor
  · intro hparses
    obtain ⟨b₀, _, hhead, hb₀ | hb₀, _⟩ := p.request_firstByte hklass
    · rw [hhead, hb₀]
    · rw [hb₀] at hhead
      exact absurd hparses (not_errorReplyParses_of_two hmac buffer tuple p hklass hhead)
  · exact errorReplyParses_of_zero hmac buffer tuple p hklass hle

end

def sharedSecretRequest : Bytes :=
  [0x00, 0x02, 0x00, 0x00, 0x21, 0x12, 0xA4, 0x42, 1, 2, 3, 4, 5, 6, 7, 8, 9, 10, 11, 12]

/-- A request of method 0x81 without attributes. -/
def highMethodRequest : Bytes :=
  [0x02, 0x01, 0x00, 0x00, 0x21, 0x12, 0xA4, 0x42, 1, 2, 3, 4, 5, 6, 7, 8, 9, 10, 11, 12]

def requestOf (data : Bytes) (method : UInt16) : StunPacket where
  klass := .request
  method
  transactionId := ⟨[1, 2, 3, 4, 5, 6, 7, 8, 9, 10, 11, 12], rfl⟩
  data
  size := 20

theorem error_reply_parses_iff_sharedSecretRequest :
    ErrorReplyParses StunPacket.bindingRequestHmac .initial (requestOf sharedSecretRequest 2) 400
      ⟨5000, 0x7F000001⟩ :=
  (error_reply_parses_iff StunPacket.bindingRequestHmac .initial ⟨5000, 0x7F000001⟩
    ⟨sharedSecretRequest, requestOf sharedSecretRequest 2, rfl⟩ rfl (.inl rfl)).mpr rfl

/-- The request of method 0x81 is accepted, and the reply to it is not STUN. -/
theorem highMethodRequest_reply :
    StunPacket.parse highMethodRequest highMethodRequest.length =
      .ok (some (requestOf highMethodRequest 0x81)) ∧
    (requestOf highMethodRequest 0x81).klass = .request ∧
    ¬ ErrorReplyParses StunPacket.bindingRequestHmac .initial (requestOf highMethodRequest 0x81) 400
      ⟨5000, 0x7F000001⟩ :=
  ⟨rfl, rfl, not_errorReplyParses_of_two StunPacket.bindingRequestHmac .initial ⟨5000, 0x7F000001⟩
    ⟨highMethodRequest, requestOf highMethodRequest 0x81, rfl⟩ rfl rfl⟩

end EasyWebRtc.Rtc
