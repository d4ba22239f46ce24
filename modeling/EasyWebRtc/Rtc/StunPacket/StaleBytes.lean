import EasyWebRtc.Rtc.StunPacket.RoundTrip

/-!
# Bytes of the buffer in a datagram

`Serialize` writes every byte of a message but the padding of USERNAME. A
datagram is a function of the packet exactly if there is no such padding;
otherwise it carries up to three bytes of what the buffer held before, and they
go into MESSAGE-INTEGRITY and FINGERPRINT.
-/

namespace EasyWebRtc.Rtc.StunPacket

open Octets Utils Tlv

def serializedBytes (hmac : Crypto.HmacSha1) (p : StunPacket) (buffer : Bytes) : Exec Bytes := do
  let (p, buffer) ← serialize hmac p buffer
  return buffer.take p.size

/-- Two buffers with room for the message get the same one. -/
def BufferIndependent (hmac : Crypto.HmacSha1) (p : StunPacket) : Prop :=
  ∀ buffer₁ buffer₂ : Bytes, p.exactSize ≤ buffer₁.length → p.exactSize ≤ buffer₂.length →
    ∃ message, serializedBytes hmac p buffer₁ = .ok message ∧
      serializedBytes hmac p buffer₂ = .ok message

section

variable (hmac : Crypto.HmacSha1) {p : StunPacket}

theorem serializedBytes_eq {buffer : Bytes} (hsize : p.exactSize ≤ 65532)
    (hfit : p.exactSize ≤ buffer.length) :
    serializedBytes hmac p buffer = .ok (p.message hmac (p.stalePadding buffer)) := by
  have hlen := message_length hmac p (stalePadding_length hfit)
  simp only [serializedBytes, serialize_eq hmac hsize hfit, Exec.ok_bind, Exec.pure_eq_ok]
  rw [← hlen, List.take_left]

theorem messageRecords_cons (padding : Bytes) (hne : p.username ≠ []) :
    ∃ records, p.messageRecords hmac padding =
      ⟨Attribute.username.code, p.username, padding⟩ :: records := by
  have hfirst : recordIf (p.username ≠ []) .username p.username padding =
      [⟨Attribute.username.code, p.username, padding⟩] := if_pos hne
  rw [messageRecords, signedRecords, bodyRecords, hfirst, List.singleton_append, List.cons_append,
    List.cons_append]
  exact ⟨_, rfl⟩

theorem padding_of_message {padding₁ padding₂ : Bytes} (hsize : p.exactSize ≤ 65532)
    (hne : p.username ≠ []) (h₁ : padding₁.length = padLen 4 p.username.length)
    (h₂ : padding₂.length = padLen 4 p.username.length)
    (heq : p.message hmac padding₁ = p.message hmac padding₂) : padding₁ = padding₂ := by
  have hsplit : ∀ {padding : Bytes}, padding.length = padLen 4 p.username.length →
      splitAll 4 ((p.message hmac padding).drop 20) = some (p.messageRecords hmac padding) := by
    intro padding hpad
    rw [message, encode_drop_header]
    exact splitAll_flatMap _ (message_valid hmac hsize hpad)
  have hrecords : p.messageRecords hmac padding₁ = p.messageRecords hmac padding₂ := by
    have h := hsplit h₁
    rw [heq, hsplit h₂] at h
    exact (Option.some.inj h).symm
  obtain ⟨records₁, hcons₁⟩ := messageRecords_cons hmac padding₁ hne
  obtain ⟨records₂, hcons₂⟩ := messageRecords_cons hmac padding₂ hne
  rw [hcons₁, hcons₂, List.cons.injEq, Record.mk.injEq] at hrecords
  exact hrecords.1.2.2

theorem stalePadding_replicate (n : Nat) (b : UInt8) (hfit : p.exactSize ≤ n) :
    p.stalePadding (List.replicate n b) = List.replicate (padLen 4 p.username.length) b := by
  have hlen : (p.stalePadding (List.replicate n b)).length = padLen 4 p.username.length := by
    apply stalePadding_length
    rw [List.length_replicate]
    exact hfit
  rw [List.eq_replicate_iff]
  refine ⟨hlen, ?_⟩
  intro c hc
  exact List.eq_of_mem_replicate (List.mem_of_mem_drop (List.mem_of_mem_take hc))

theorem bufferIndependent_of_dvd (hsize : p.exactSize ≤ 65532) (h : 4 ∣ p.username.length) :
    BufferIndependent hmac p := by
  intro buffer₁ buffer₂ h₁ h₂
  have hnone : padLen 4 p.username.length = 0 := by
    rw [padLen_four]
    omega
  have hstale : ∀ {buffer : Bytes}, p.exactSize ≤ buffer.length → p.stalePadding buffer = [] := by
    intro buffer hfit
    apply List.eq_nil_of_length_eq_zero
    rw [stalePadding_length hfit, hnone]
  refine ⟨p.message hmac [], ?_, ?_⟩
  · rw [serializedBytes_eq hmac hsize h₁, hstale h₁]
  · rw [serializedBytes_eq hmac hsize h₂, hstale h₂]

theorem not_bufferIndependent (hsize : p.exactSize ≤ 65532) (h : ¬ 4 ∣ p.username.length) :
    ¬ BufferIndependent hmac p := by
  intro hindependent
  have hpad : padLen 4 p.username.length ≠ 0 := by
    rw [padLen_four]
    omega
  have hne : p.username ≠ [] := by
    intro hnil
    rw [hnil] at h
    exact h (Nat.dvd_zero 4)
  have hfit : ∀ b : UInt8, p.exactSize ≤ (List.replicate p.exactSize b).length := by
    intro b
    rw [List.length_replicate]
  obtain ⟨message, h₀, h₁⟩ := hindependent _ _ (hfit 0) (hfit 1)
  rw [serializedBytes_eq hmac hsize (hfit 0)] at h₀
  rw [serializedBytes_eq hmac hsize (hfit 1), ← h₀] at h₁
  have hsame := padding_of_message hmac hsize hne (stalePadding_length (hfit 1))
    (stalePadding_length (hfit 0)) (Except.ok.inj h₁)
  rw [stalePadding_replicate _ _ (Nat.le_refl _), stalePadding_replicate _ _ (Nat.le_refl _),
    List.replicate_inj] at hsame
  rcases hsame.2 with hzero | hbyte
  · exact hpad hzero
  · exact absurd hbyte (by decide)

/-- A datagram is a function of the packet exactly if its USERNAME has no
padding. -/
theorem buffer_independent_iff (hsize : p.exactSize ≤ 65532) :
    BufferIndependent hmac p ↔ 4 ∣ p.username.length := by
  constructor
  · intro h
    by_contra hdvd
    exact not_bufferIndependent hmac hsize hdvd h
  · intro h
    exact bufferIndependent_of_dvd hmac hsize h

end

def alignedRequest : StunPacket :=
  { bindingRequest with username := [97, 98, 99, 100, 58, 120, 121, 122] }

theorem buffer_independent_iff_aligned : BufferIndependent bindingRequestHmac alignedRequest :=
  (buffer_independent_iff bindingRequestHmac (by decide)).mpr (by decide)

/-- The request with a USERNAME of seven bytes sends the byte behind it. -/
theorem stale_byte_sent :
    bindingRequest.exactSize ≤ 65532 ∧ ¬ BufferIndependent bindingRequestHmac bindingRequest :=
  ⟨by decide, not_bufferIndependent bindingRequestHmac (by decide) (by decide)⟩

end EasyWebRtc.Rtc.StunPacket
