import Mathlib.Tactic.IntervalCases
import EasyWebRtc.Rtc.StunPacket.ParseProof
import EasyWebRtc.Rtc.StunPacket.SerializeProof

/-!
# `Parse` undoes `Serialize`

The message of a packet lies in the grammar, so `Parse` accepts it; its last
attribute of each type is the one that the packet carries. The 14 bits behind
the two leading zeros of the type field hold 12 bits of the method and the
class.
-/

namespace EasyWebRtc.Rtc.StunPacket

open Octets Utils Tlv

/-! ## Type field and error code -/

theorem msgMethod_typeField (p : StunPacket) : msgMethod p.typeField = p.method &&& 0x0FFF := by
  unfold msgMethod typeField
  apply UInt16.toBitVec_inj.mp
  apply BitVec.eq_of_getLsbD_eq
  intro i hi
  interval_cases i <;> simp

theorem msgClass_word (v : UInt16) :
    msgClass (v >>> 8).toUInt8 v.toUInt8 = ((v &&& 0x100) >>> 7) ||| ((v &&& 0x10) >>> 4) := by
  unfold msgClass
  apply UInt16.toBitVec_inj.mp
  apply BitVec.eq_of_getLsbD_eq
  intro i hi
  interval_cases i <;> simp [-UInt16.toUInt16_toUInt8]

theorem msgClass_typeField (p : StunPacket) :
    Class.ofCode (msgClass (p.typeField >>> 8).toUInt8 p.typeField.toUInt8) = p.klass := by
  have h : msgClass (p.typeField >>> 8).toUInt8 p.typeField.toUInt8 = p.klass.code &&& 3 := by
    rw [msgClass_word]
    unfold typeField
    apply UInt16.toBitVec_inj.mp
    apply BitVec.eq_of_getLsbD_eq
    intro i hi
    interval_cases i <;> simp
  rw [h]
  cases p.klass <;> rfl

theorem and_0x0FFF_of_lt {method : UInt16} (h : method < 0x1000) : method &&& 0x0FFF = method := by
  apply UInt16.toNat_inj.mp
  rw [UInt16.toNat_and]
  have hlt : method.toNat < 4096 := UInt16.lt_iff_toNat_lt.mp h
  have hmask := Nat.and_two_pow_sub_one_eq_mod method.toNat 12
  rw [Nat.mod_eq_of_lt hlt] at hmask
  exact hmask

/-- Up to 25599 the class of an error code fits into its byte, and the 8-bit
subtraction gives the remainder. -/
theorem errorCodeOf_value {errorCode : UInt16} (h : errorCode ≤ 25599) :
    errorCodeOf [0, 0, codeClass errorCode, codeNumber errorCode] = errorCode := by
  have hle : errorCode.toNat ≤ 25599 := UInt16.le_iff_toNat_le.mp h
  have hclass : (codeClass errorCode).toNat = errorCode.toNat / 100 := by
    simp [codeClass]
    omega
  have hnumber : (codeNumber errorCode).toNat = errorCode.toNat % 100 := by
    simp only [codeNumber, UInt8.toNat_sub, UInt8.toNat_mul, hclass, UInt16.toNat_toUInt8]
    simp
    omega
  apply UInt16.toNat_inj.mp
  simp only [errorCodeOf, UInt16.toNat_add, UInt16.toNat_mul, UInt8.toNat_toUInt16, hclass,
    hnumber]
  simp
  omega

/-! ## The message lies in the grammar -/

theorem mem_recordIf {c : Prop} [Decidable c] {attrType : Attribute} {value padding : Bytes}
    {r : Record} :
    r ∈ recordIf c attrType value padding ↔ c ∧ r = ⟨attrType.code, value, padding⟩ := by
  unfold recordIf
  split <;> simp [*]

theorem mem_xorMappedAddressRecords {p : StunPacket} {r : Record} :
    r ∈ p.xorMappedAddressRecords ↔ ∃ address, p.addXorMappedAddress = some address ∧
      r = ⟨Attribute.xorMappedAddress.code, xorMappedAddressValue p.transactionId address, []⟩ := by
  unfold xorMappedAddressRecords
  cases p.addXorMappedAddress <;> simp

theorem username_length_lt {p : StunPacket} (h : p.exactSize ≤ 65532) :
    p.username.length < 2 ^ 16 := by
  by_cases hne : p.username ≠ []
  · unfold exactSize sizeWith at h
    rw [if_pos hne] at h
    omega
  · simp [not_not.mp hne]

theorem flatMap_bytes_length_dvd {rs : List Record} (h : ∀ r ∈ rs, r.Valid 4) :
    4 ∣ (rs.flatMap Record.bytes).length := by
  induction rs with
  | nil => simp
  | cons r rs ih =>
      rw [List.flatMap_cons, List.length_append]
      have hhead := bytes_length_dvd (h r List.mem_cons_self)
      have htail := ih fun r' hr' => h r' (List.mem_cons_of_mem r hr')
      exact Nat.dvd_add hhead htail

/-- What the grammar asks of an attribute before MESSAGE-INTEGRITY. -/
structure PlainRecord (r : Record) : Prop where
  valid : r.Valid 4
  lengthOk : LengthOk r
  notIntegrity : r.tag ≠ Attribute.messageIntegrity.code
  notFingerprint : r.tag ≠ Attribute.fingerprint.code

theorem plainRecord_of_aligned {attrType : Attribute} {value : Bytes}
    (hlt : value.length < 2 ^ 16) (halign : padLen 4 value.length = 0)
    (hlen : LengthOk ⟨attrType.code, value, []⟩)
    (hmi : attrType.code ≠ Attribute.messageIntegrity.code)
    (hfp : attrType.code ≠ Attribute.fingerprint.code) :
    PlainRecord ⟨attrType.code, value, []⟩ :=
  ⟨⟨hlt, halign.symm⟩, hlen, hmi, hfp⟩

theorem bodyRecords_plain {p : StunPacket} {padding : Bytes} (h : p.exactSize ≤ 65532)
    (hpad : padding.length = padLen 4 p.username.length) {r : Record}
    (hr : r ∈ p.bodyRecords padding) : PlainRecord r := by
  simp only [bodyRecords, plainRecords, List.mem_append, mem_recordIf,
    mem_xorMappedAddressRecords] at hr
  rcases hr with ⟨_, rfl⟩ | ⟨_, rfl⟩ | ⟨_, rfl⟩ | ⟨_, rfl⟩ | ⟨_, rfl⟩ | ⟨address, hadd, rfl⟩ |
    ⟨_, rfl⟩
  · refine ⟨⟨username_length_lt h, hpad⟩, ?_, ?_, ?_⟩
    all_goals simp [LengthOk, Attribute.code]
  · apply plainRecord_of_aligned <;> simp [LengthOk, Attribute.code, padLen]
  · apply plainRecord_of_aligned <;> simp [LengthOk, Attribute.code, padLen]
  · apply plainRecord_of_aligned <;> simp [LengthOk, Attribute.code, padLen]
  · apply plainRecord_of_aligned <;> simp [LengthOk, Attribute.code, padLen]
  · have hlen := xorMappedAddressValue_length p.transactionId (addXorMappedAddress_known hadd)
    have haligned : (xorMappedAddressPaddedLen address).toNat < 2 ^ 16 ∧
        padLen 4 (xorMappedAddressPaddedLen address).toNat = 0 := by
      cases address <;> simp [xorMappedAddressPaddedLen, padLen]
    rw [← hlen] at haligned
    apply plainRecord_of_aligned haligned.1 haligned.2 <;> simp [LengthOk, Attribute.code]
  · apply plainRecord_of_aligned <;> simp [LengthOk, Attribute.code, padLen]

theorem ofNat_sub_20_toNat {n : Nat} (h : n ≤ 65535) (h20 : 20 ≤ n) :
    (UInt16.ofNat n - 20).toNat = n - 20 := by
  have hn : (UInt16.ofNat n).toNat = n := by
    rw [UInt16.toNat_ofNat', Nat.mod_eq_of_lt (by omega)]
  have hle : (20 : UInt16) ≤ UInt16.ofNat n := by
    rw [UInt16.le_iff_toNat_le, hn]
    exact h20
  rw [UInt16.toNat_sub_of_le _ _ hle, hn]
  rfl

section Message

variable (hmac : Crypto.HmacSha1) {p : StunPacket} {padding : Bytes}

theorem message_valid (h : p.exactSize ≤ 65532)
    (hpad : padding.length = padLen 4 p.username.length) :
    ∀ r ∈ p.messageRecords hmac padding, r.Valid 4 := by
  intro r hr
  simp only [messageRecords, signedRecords, List.mem_append, mem_recordIf,
    List.mem_singleton] at hr
  rcases hr with (hr | ⟨_, rfl⟩) | rfl
  · exact (bodyRecords_plain h hpad hr).valid
  · constructor <;> simp [hmac.digest_length, padLen]
  · constructor <;> simp [padLen]

theorem message_lengths (h : p.exactSize ≤ 65532)
    (hpad : padding.length = padLen 4 p.username.length) :
    ∀ r ∈ p.messageRecords hmac padding, LengthOk r := by
  intro r hr
  simp only [messageRecords, signedRecords, List.mem_append, mem_recordIf,
    List.mem_singleton] at hr
  rcases hr with (hr | ⟨_, rfl⟩) | rfl
  · exact (bodyRecords_plain h hpad hr).lengthOk
  · simp [LengthOk, Attribute.code, hmac.digest_length]
  · simp [LengthOk, Attribute.code]

theorem message_order (h : p.exactSize ≤ 65532)
    (hpad : padding.length = padLen 4 p.username.length) :
    (p.messageRecords hmac padding).Pairwise MayPrecede := by
  have hbody : ∀ a ∈ p.bodyRecords padding, ∀ b, MayPrecede a b := by
    intro a ha b
    have hplain := bodyRecords_plain h hpad ha
    exact ⟨hplain.notFingerprint, fun ht => (hplain.notIntegrity ht).elim⟩
  rw [messageRecords, List.pairwise_append]
  refine ⟨?_, List.pairwise_singleton _ _, ?_⟩
  · rw [signedRecords, List.pairwise_append]
    refine ⟨?_, ?_, fun a ha b _ => hbody a ha b⟩
    · exact List.pairwise_of_forall_mem_list fun a ha b _ => hbody a ha b
    · unfold recordIf
      split <;> simp
  · intro a ha b hb
    rw [List.mem_singleton] at hb
    subst hb
    rw [signedRecords, List.mem_append, mem_recordIf] at ha
    rcases ha with ha | ⟨_, rfl⟩
    · exact hbody a ha _
    · exact ⟨show Attribute.messageIntegrity.code ≠ _ by decide, fun _ => rfl⟩

theorem encode_drop_header (rs : List Record) :
    (p.encode rs).drop 20 = rs.flatMap Record.bytes := by
  rw [encode, List.drop_append, headerBytes_length, List.drop_eq_nil_of_le (by simp)]
  simp

theorem message_fingerprint : FingerprintOk (p.message hmac padding)
    (p.messageRecords hmac padding) := by
  intro n r hlast
  rw [messageRecords, lastAt_concat, if_pos rfl] at hlast
  cases hlast
  have htake : (p.message hmac padding).take
      (20 + ((p.signedRecords hmac padding).flatMap Record.bytes).length) =
      p.encode (p.signedRecords hmac padding) := by
    rw [message, messageRecords, encode_append, ← encode_length, List.take_left]
  rw [htake, read32_be32]

theorem encode_eq (rs : List Record) : p.encode rs =
    (p.typeField >>> 8).toUInt8 :: p.typeField.toUInt8 ::
      ((UInt16.ofNat p.exactSize - 20) >>> 8).toUInt8 :: (UInt16.ofNat p.exactSize - 20).toUInt8 ::
      0x21 :: 0x12 :: 0xA4 :: 0x42 :: (p.transactionId.bytes ++ rs.flatMap Record.bytes) := by
  simp [encode, headerBytes, be16, magicCookie]

theorem isStun_encode (rs : List Record) (htype : (p.typeField >>> 8).toUInt8 < 3) :
    isStun (p.encode rs) (p.encode rs).length = .ok true := by
  have h20 : 20 ≤ (p.encode rs).length := by rw [encode_length]; omega
  rw [isStun, if_pos h20, encode_eq]
  simp [Byte.get1Byte, load, htype]

theorem get2Bytes_lengthField (rs : List Record) :
    Byte.get2Bytes (p.encode rs) 2 = .ok (UInt16.ofNat p.exactSize - 20) := by
  have hdrop : (p.encode rs).drop 2 = ((UInt16.ofNat p.exactSize - 20) >>> 8).toUInt8 ::
      (UInt16.ofNat p.exactSize - 20).toUInt8 :: (p.encode rs).drop 4 := by
    rw [encode_eq]
    rfl
  rw [Byte.get2Bytes_of_drop hdrop, word16_be16]

theorem message_grammar (h : p.exactSize ≤ 65532)
    (hpad : padding.length = padLen 4 p.username.length)
    (htype : (p.typeField >>> 8).toUInt8 < 3) :
    Grammar (p.message hmac padding) (p.messageRecords hmac padding) where
  isStun := isStun_encode _ htype
  lengthField := by
    have hlen := message_length hmac p hpad
    have hrecords := hlen
    rw [message, encode_length] at hrecords
    have hdvd := flatMap_bytes_length_dvd (message_valid hmac h hpad)
    have hfield := ofNat_sub_20_toNat (show p.exactSize ≤ 65535 by omega) (by omega)
    refine ⟨UInt16.ofNat p.exactSize - 20, get2Bytes_lengthField _, ?_, ?_⟩
    · rw [hfield, hlen]
    · omega
  valid := message_valid hmac h hpad
  split := encode_drop_header _
  lengths := message_lengths hmac h hpad
  order := message_order hmac h hpad
  fingerprint := message_fingerprint hmac

/-! ## The parsed packet -/

theorem parseHeader_encode (h : p.exactSize ≤ 65532) (rs : List Record)
    (hlen : (p.encode rs).length = p.exactSize) (hdvd : 4 ∣ p.exactSize) :
    parseHeader (p.encode rs) (p.encode rs).length = .ok (some {
      klass := p.klass
      method := p.method &&& 0x0FFF
      transactionId := p.transactionId
      data := p.encode rs
      size := p.exactSize }) := by
  have h20 : 20 ≤ p.exactSize := by
    rw [← hlen, encode_length]
    omega
  have hfield := ofNat_sub_20_toNat (show p.exactSize ≤ 65535 by omega) h20
  have hmask : (UInt16.ofNat p.exactSize - 20) &&& 0x03 = 0 := by
    apply UInt16.toNat_inj.mp
    rw [Byte.and_0x03_toNat, hfield]
    exact Nat.mod_eq_zero_of_dvd (by omega)
  have htype : Byte.get2Bytes (p.encode rs) 0 = .ok p.typeField := by
    rw [encode_eq, Byte.get2Bytes_of_drop List.drop_zero, word16_be16]
  have h₀ : Byte.get1Byte (p.encode rs) 0 = .ok (p.typeField >>> 8).toUInt8 := by
    rw [encode_eq]
    rfl
  have h₁ : Byte.get1Byte (p.encode rs) 1 = .ok p.typeField.toUInt8 := by
    rw [encode_eq]
    rfl
  have htid : readTransactionId (p.encode rs) 8 = .ok p.transactionId := by
    have htake : ((p.encode rs).drop 8).take 12 = p.transactionId.bytes := by
      rw [encode_eq]
      simp [p.transactionId.length_bytes]
    simp only [readTransactionId, htake]
    rw [dif_pos p.transactionId.length_bytes]
  simp only [parseHeader, htype, get2Bytes_lengthField, h₀, h₁, htid, hfield, hmask, hlen,
    Exec.ok_bind, Exec.pure_eq_ok, ne_eq, not_true_eq_false, or_self, if_false,
    msgMethod_typeField, msgClass_typeField]

/-- The packet that `Parse` returns for the message. -/
def received (hmac : Crypto.HmacSha1) (p : StunPacket) (padding : Bytes) : StunPacket where
  klass := p.klass
  method := p.method &&& 0x0FFF
  transactionId := p.transactionId
  data := p.message hmac padding
  size := p.exactSize
  username := p.username
  priority := p.priority
  iceControlling := p.iceControlling
  iceControlled := p.iceControlled
  hasUseCandidate := p.hasUseCandidate
  messageIntegrity :=
    if p.addMessageIntegrity then
      some (24 + ((p.bodyRecords padding).flatMap Record.bytes).length)
    else none
  hasFingerprint := true
  errorCode := if p.klass = .errorResponse then p.errorCode else 0

theorem lastAt_recordIf (c : Prop) [Decidable c] (attrType : Attribute) (value pad : Bytes)
    (tag : UInt16) :
    lastAt (recordIf c attrType value pad) tag =
      if c ∧ attrType.code = tag then some (0, ⟨attrType.code, value, pad⟩) else none := by
  unfold recordIf
  by_cases hc : c
  · have h := lastAt_concat [] ⟨attrType.code, value, pad⟩ tag
    simpa [hc] using h
  · simp [hc]

theorem lastValue_recordIf (c : Prop) [Decidable c] (attrType : Attribute) (value pad : Bytes)
    (tag : UInt16) :
    lastValue (recordIf c attrType value pad) tag =
      if c ∧ attrType.code = tag then some value else none := by
  rw [lastValue, lastAt_recordIf]
  split <;> rfl

theorem lastValue_xorMappedAddressRecords {tag : UInt16}
    (htag : Attribute.xorMappedAddress.code ≠ tag) :
    lastValue p.xorMappedAddressRecords tag = none := by
  rw [lastValue, lastAt_eq_none_of_forall, Option.map_none]
  intro r hr
  obtain ⟨address, _, rfl⟩ := mem_xorMappedAddressRecords.mp hr
  exact htag

/-- The last value of an attribute that is neither MESSAGE-INTEGRITY nor
FINGERPRINT stands among the attributes before them. -/
theorem lastValue_messageRecords (tag : UInt16)
    (hmi : Attribute.messageIntegrity.code ≠ tag) (hfp : Attribute.fingerprint.code ≠ tag) :
    lastValue (p.messageRecords hmac padding) tag = lastValue (p.bodyRecords padding) tag := by
  rw [messageRecords, lastValue_concat, if_neg hfp, signedRecords, lastValue_append,
    lastValue_recordIf, if_neg (fun h => hmi h.2), Option.none_or]

theorem lastValue_username :
    (lastValue (p.bodyRecords padding) Attribute.username.code).getD [] = p.username := by
  simp only [bodyRecords, plainRecords, lastValue_append, lastValue_recordIf]
  rw [lastValue_xorMappedAddressRecords (by decide)]
  by_cases h : p.username = [] <;> simp [Attribute.code, h]

theorem lastValue_priority :
    ((lastValue (p.bodyRecords padding) Attribute.priority.code).map read32).getD 0 =
      p.priority := by
  simp only [bodyRecords, plainRecords, lastValue_append, lastValue_recordIf]
  rw [lastValue_xorMappedAddressRecords (by decide)]
  by_cases h : p.priority = 0 <;> simp [Attribute.code, h]

theorem lastValue_iceControlling :
    ((lastValue (p.bodyRecords padding) Attribute.iceControlling.code).map read64).getD 0 =
      p.iceControlling := by
  simp only [bodyRecords, plainRecords, lastValue_append, lastValue_recordIf]
  rw [lastValue_xorMappedAddressRecords (by decide)]
  by_cases h : p.iceControlling = 0 <;> simp [Attribute.code, h]

theorem lastValue_iceControlled :
    ((lastValue (p.bodyRecords padding) Attribute.iceControlled.code).map read64).getD 0 =
      p.iceControlled := by
  simp only [bodyRecords, plainRecords, lastValue_append, lastValue_recordIf]
  rw [lastValue_xorMappedAddressRecords (by decide)]
  by_cases h : p.iceControlled = 0 <;> simp [Attribute.code, h]

theorem lastValue_useCandidate :
    (lastValue (p.bodyRecords padding) Attribute.useCandidate.code).isSome =
      p.hasUseCandidate := by
  simp only [bodyRecords, plainRecords, lastValue_append, lastValue_recordIf]
  rw [lastValue_xorMappedAddressRecords (by decide)]
  cases h : p.hasUseCandidate <;> simp [Attribute.code]

theorem lastValue_errorCode (herr : p.klass = .errorResponse → p.errorCode ≤ 25599) :
    ((lastValue (p.bodyRecords padding) Attribute.errorCode.code).map errorCodeOf).getD 0 =
      if p.klass = .errorResponse then p.errorCode else 0 := by
  simp only [bodyRecords, plainRecords, lastValue_append, lastValue_recordIf]
  rw [lastValue_xorMappedAddressRecords (by decide)]
  by_cases hk : p.klass = .errorResponse
  · by_cases he : p.errorCode = 0 <;>
      simp [Attribute.code, addErrorCode, hk, he, errorCodeOf_value (herr hk)]
  · simp [Attribute.code, addErrorCode, hk]

theorem lastOffset_messageIntegrity (h : p.exactSize ≤ 65532)
    (hpad : padding.length = padLen 4 p.username.length) :
    lastOffset (p.messageRecords hmac padding) Attribute.messageIntegrity.code =
      if p.addMessageIntegrity then some ((p.bodyRecords padding).flatMap Record.bytes).length
      else none := by
  rw [messageRecords, lastOffset_concat, if_neg (show Attribute.fingerprint.code ≠ _ by decide),
    signedRecords]
  cases hadd : p.addMessageIntegrity with
  | true =>
      rw [recordIf, if_pos rfl, lastOffset_concat, if_pos rfl]
      rfl
  | false =>
      have hnone : lastAt (p.bodyRecords padding) Attribute.messageIntegrity.code = none :=
        lastAt_eq_none_of_forall fun r hr => (bodyRecords_plain h hpad hr).notIntegrity
      simp [recordIf, lastOffset, hnone]

theorem withAttributes_messageRecords (h : p.exactSize ≤ 65532)
    (hpad : padding.length = padLen 4 p.username.length)
    (herr : p.klass = .errorResponse → p.errorCode ≤ 25599) :
    withAttributes {
      klass := p.klass
      method := p.method &&& 0x0FFF
      transactionId := p.transactionId
      data := p.message hmac padding
      size := p.exactSize } (p.messageRecords hmac padding) = p.received hmac padding := by
  have huse : (lastAt (p.messageRecords hmac padding) Attribute.useCandidate.code).isSome =
      p.hasUseCandidate := by
    have hbody : (lastValue (p.bodyRecords padding) Attribute.useCandidate.code).isSome =
        p.hasUseCandidate := lastValue_useCandidate
    rw [← hbody, ← lastValue_messageRecords hmac _ (by decide) (by decide), lastValue,
      Option.isSome_map]
  have hfp : (lastAt (p.messageRecords hmac padding) Attribute.fingerprint.code).isSome = true := by
    rw [messageRecords, lastAt_concat, if_pos rfl]
    rfl
  simp only [withAttributes, received, huse, hfp, lastOffset_messageIntegrity hmac h hpad,
    lastValue_messageRecords hmac Attribute.username.code (by decide) (by decide),
    lastValue_messageRecords hmac Attribute.priority.code (by decide) (by decide),
    lastValue_messageRecords hmac Attribute.iceControlling.code (by decide) (by decide),
    lastValue_messageRecords hmac Attribute.iceControlled.code (by decide) (by decide),
    lastValue_messageRecords hmac Attribute.errorCode.code (by decide) (by decide),
    lastValue_username, lastValue_priority, lastValue_iceControlling, lastValue_iceControlled,
    lastValue_errorCode herr]
  cases p.addMessageIntegrity <;> simp

theorem parse_message (h : p.exactSize ≤ 65532)
    (hpad : padding.length = padLen 4 p.username.length)
    (htype : (p.typeField >>> 8).toUInt8 < 3)
    (herr : p.klass = .errorResponse → p.errorCode ≤ 25599) :
    parse (p.message hmac padding) p.exactSize = .ok (some (p.received hmac padding)) := by
  have hlen := message_length hmac p hpad
  have hg := message_grammar hmac h hpad htype
  have hdvd : 4 ∣ p.exactSize := by
    have hrecords := flatMap_bytes_length_dvd (message_valid hmac h hpad)
    rw [message, encode_length] at hlen
    omega
  have hheader := parseHeader_encode h (p.messageRecords hmac padding) hlen hdvd
  rcases parse_cases (p.message hmac padding) (by omega) with ⟨base, rs, hg', hbase, hparse⟩ |
    ⟨hno, _⟩
  · have hrs : rs = p.messageRecords hmac padding := Grammar.unique hg' hg
    have hbase' := Option.some.inj (Except.ok.inj (hbase.symm.trans hheader))
    rw [hlen, hrs, hbase', ← message, withAttributes_messageRecords hmac h hpad herr] at hparse
    exact hparse
  · exact (hno _ hg).elim

end Message

theorem parse_serialized (hmac : Crypto.HmacSha1) (p : StunPacket) (buffer : Bytes)
    (hsize : p.exactSize ≤ 65532) (hfit : p.exactSize ≤ buffer.length)
    (htype : (p.typeField >>> 8).toUInt8 < 3)
    (herr : p.klass = .errorResponse → p.errorCode ≤ 25599) :
    ∃ p' out, serialize hmac p buffer = .ok (p', out) ∧ p'.size = p.exactSize ∧
      parse (out.take p'.size) p'.size =
        .ok (some (p.received hmac (p.stalePadding buffer))) := by
  have hpad := stalePadding_length hfit
  have hparse := parse_message hmac hsize hpad htype herr
  have hlen := message_length hmac p hpad
  refine ⟨_, _, serialize_eq hmac hsize hfit, rfl, ?_⟩
  show parse ((p.message hmac (p.stalePadding buffer) ++ buffer.drop p.exactSize).take
    p.exactSize) p.exactSize = _
  rw [← hlen, List.take_left, hlen]
  exact hparse

/-- `Parse` undoes `Serialize`: whatever the buffer held before, the encoder
completes and the decoder returns the packet, with the 12 method bits that the
type field has room for. -/
theorem parse_serialize (hmac : Crypto.HmacSha1) (p : StunPacket) (buffer : Bytes)
    (hsize : p.exactSize ≤ 65532) (hfit : p.exactSize ≤ buffer.length)
    (htype : (p.typeField >>> 8).toUInt8 < 3) (herr : p.errorCode ≤ 25599) :
    ∃ p' out q, serialize hmac p buffer = .ok (p', out) ∧ p'.size = p.exactSize ∧
      parse (out.take p'.size) p'.size = .ok (some q) ∧
      q.klass = p.klass ∧ q.method = p.method &&& 0x0FFF ∧
      (p.method < 0x1000 → q.method = p.method) ∧
      q.transactionId = p.transactionId ∧ q.username = p.username ∧
      q.priority = p.priority ∧ q.iceControlling = p.iceControlling ∧
      q.iceControlled = p.iceControlled ∧ q.hasUseCandidate = p.hasUseCandidate ∧
      q.errorCode = (if p.klass = .errorResponse then p.errorCode else 0) ∧
      (q.messageIntegrity.isSome ↔ p.klass ≠ .errorResponse ∧ p.password ≠ []) ∧
      q.hasFingerprint = true := by
  obtain ⟨p', out, hser, hout, hparse⟩ := parse_serialized hmac p buffer hsize hfit htype (fun _ => herr)
  refine ⟨p', out, _, hser, hout, hparse, rfl, rfl, and_0x0FFF_of_lt, rfl, rfl, rfl, rfl, rfl,
    rfl, rfl, ?_, rfl⟩
  simp [received, addMessageIntegrity]

/-- A Binding request of an ICE controlling agent, signed with the password `pw`. -/
def bindingRequest : StunPacket where
  klass := .request
  method := Method.binding
  transactionId := ⟨[0, 1, 2, 3, 4, 5, 6, 7, 8, 9, 10, 11], rfl⟩
  data := []
  size := 0
  username := [97, 98, 99, 100, 58, 120, 121]
  priority := 0x6e0001ff
  iceControlling := 7
  hasUseCandidate := true
  password := [112, 119]

/-- HMAC-SHA1 of that request. -/
def bindingRequestHmac : Crypto.HmacSha1 :=
  Crypto.hmacAt [112, 119] (bindingRequest.signedPrefix [0])
    [89, 227, 137, 49, 153, 251, 160, 190, 138, 41, 137, 133, 131, 25, 48, 45, 219, 35, 6, 13] rfl

theorem parse_serialize_bindingRequest :
    bindingRequest.exactSize = 88 ∧
    ∃ p' out q, serialize bindingRequestHmac bindingRequest (List.replicate 88 0) = .ok (p', out) ∧
      parse (out.take p'.size) p'.size = .ok (some q) ∧ q.username = bindingRequest.username := by
  obtain ⟨p', out, q, hser, _, hparse, _, _, _, _, huser, _⟩ :=
    parse_serialize bindingRequestHmac bindingRequest (List.replicate 88 0) (by decide) (by decide)
      (by decide) (by decide)
  exact ⟨by decide, p', out, q, hser, hparse, huser⟩

/-- A 13-bit method: `Serialize` drops its top bit, and the message is a Binding
request. -/
def wideMethod : StunPacket where
  klass := .request
  method := 0x1001
  transactionId := ⟨[0, 1, 2, 3, 4, 5, 6, 7, 8, 9, 10, 11], rfl⟩
  data := []
  size := 0

theorem parse_serialize_wideMethod :
    wideMethod.exactSize ≤ 65532 ∧ (wideMethod.typeField >>> 8).toUInt8 < 3 ∧
    wideMethod.errorCode ≤ 25599 ∧
    ∃ p' out q, serialize bindingRequestHmac wideMethod (List.replicate 28 0) = .ok (p', out) ∧
      parse (out.take p'.size) p'.size = .ok (some q) ∧ q.method ≠ wideMethod.method := by
  obtain ⟨p', out, hser, _, hparse⟩ := parse_serialized bindingRequestHmac wideMethod
    (List.replicate 28 0) (by decide) (by decide) (by decide) (by decide)
  exact ⟨by decide, by decide, by decide, p', out, _, hser, hparse, by decide⟩

end EasyWebRtc.Rtc.StunPacket
