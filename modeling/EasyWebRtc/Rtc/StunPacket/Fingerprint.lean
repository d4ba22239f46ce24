import EasyWebRtc.Common.Crc32
import EasyWebRtc.Rtc.StunPacket.SerializeProof
import EasyWebRtc.Rtc.StunPacket.ParseProof

/-!
# FINGERPRINT is a CRC-32

The value of the attribute is the CRC-32 of the message before it, xor
`0x5354554e`. `Parse` discards exactly the packets with another value, and
`Serialize` ends every message with this one.
-/

namespace EasyWebRtc.Rtc.StunPacket

open Octets Utils Tlv

/-- The FINGERPRINT value of a message, with CRC-32 taken bit by bit. -/
def bitwiseFingerprint (message : Bytes) : UInt32 :=
  Crypto.bitwiseCrc32 message ^^^ 0x5354554e

theorem crc32_xor_eq (message : Bytes) :
    Crypto.crc32 message ^^^ fingerprintXor = bitwiseFingerprint message := by
  rw [Crypto.crc32_eq_bitwiseCrc32]
  rfl

/-! ## What `Parse` checks -/

/-- The packet ends where the loop stopped, and its FINGERPRINT, if there is one,
is that of `message`. -/
def EndOk (message : Bytes) (len : Nat) (st : ParseState) : Prop :=
  st.pos = len ∧ (st.hasFingerprint = true → st.fingerprint = bitwiseFingerprint message)

instance (message : Bytes) (len : Nat) (st : ParseState) : Decidable (EndOk message len st) := by
  unfold EndOk
  infer_instance

theorem parseEnd_eq (message rest : Bytes) (len : Nat) (st : ParseState) :
    parseEnd (message ++ rest) len { st with fingerprintAttrPos := message.length } =
      .ok (if EndOk message len st then some st.packet else none) := by
  unfold parseEnd EndOk
  by_cases hpos : st.pos = len
  · by_cases hfp : st.hasFingerprint = true
    · simp only [Crypto.getCRC32_append, Exec.ok_bind, crc32_xor_eq]
      by_cases hvalue : st.fingerprint = bitwiseFingerprint message
      · simp [hpos, hfp, hvalue]
      · simp [hpos, hfp, hvalue]
    · simp [hpos, hfp]
  · simp [hpos]

/-- `GetCRC32` of a message is its CRC-32 bit by bit, whatever lies behind the
message, and `Parse` compares FINGERPRINT with the value that this gives. -/
theorem getCRC32_bit_by_bit (message rest : Bytes) :
    Crypto.getCRC32 (message ++ rest) message.length = .ok (Crypto.bitwiseCrc32 message) ∧
    ∀ len st, parseEnd (message ++ rest) len { st with fingerprintAttrPos := message.length } =
      .ok (if EndOk message len st then some st.packet else none) := by
  constructor
  · rw [Crypto.getCRC32_append, Crypto.crc32_eq_bitwiseCrc32]
  · exact parseEnd_eq message rest

theorem fingerprint_of_parse {data : Bytes} {p : StunPacket}
    (h : parse data data.length = .ok (some p)) :
    ∃ rs, Grammar data rs ∧ ∀ n r, lastAt rs Attribute.fingerprint.code = some (n, r) →
      read32 r.value = bitwiseFingerprint (data.take (20 + n)) := by
  rcases parse_cases data (length_le_of_parse h) with ⟨base, rs, hg, -, -⟩ | ⟨-, hnone⟩
  · refine ⟨rs, hg, fun n r hlast => ?_⟩
    rw [← crc32_xor_eq]
    exact hg.fingerprint n r hlast
  · rw [h] at hnone
    cases hnone

/-! ## What `Serialize` writes -/

theorem fingerprint_of_serialize (hmac : Crypto.HmacSha1) {p : StunPacket} {buffer : Bytes}
    (hsize : p.exactSize ≤ 65532) (hfit : p.exactSize ≤ buffer.length) :
    ∃ p' before, serialize hmac p buffer =
      .ok (p', before ++ Record.bytes ⟨Attribute.fingerprint.code,
        be32 (bitwiseFingerprint before), []⟩ ++ buffer.drop p.exactSize) := by
  have hserialize := serialize_eq hmac hsize hfit
  simp only [message_ends_with_fingerprint, crc32_xor_eq] at hserialize
  exact ⟨_, _, hserialize⟩

end EasyWebRtc.Rtc.StunPacket
