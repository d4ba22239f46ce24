import EasyWebRtc.Rtc.StunPacket.Basic

/-!
# The STUN grammar that `Parse` accepts

A declarative description of the accepted byte strings over the records of the
message, and of the packet that is returned for them. The middle layer reads
the attribute loop as a fold over records: `acceptRecord` is one turn of the
loop on a record, and a fold of it succeeds exactly on well-formed sequences,
where it leaves the last value of every attribute.
-/

namespace EasyWebRtc.Rtc.StunPacket

open Octets Utils Tlv

/-! ## Declarative description -/

/-- Attributes with a prescribed length have it. -/
def LengthOk (r : Record) : Prop :=
  (r.tag = Attribute.priority.code → r.value.length = 4) ∧
  (r.tag = Attribute.iceControlling.code → r.value.length = 8) ∧
  (r.tag = Attribute.iceControlled.code → r.value.length = 8) ∧
  (r.tag = Attribute.useCandidate.code → r.value.length = 0) ∧
  (r.tag = Attribute.messageIntegrity.code → r.value.length = 20) ∧
  (r.tag = Attribute.fingerprint.code → r.value.length = 4) ∧
  (r.tag = Attribute.errorCode.code → 4 ≤ r.value.length)

instance (r : Record) : Decidable (LengthOk r) := by
  unfold LengthOk
  infer_instance

/-- Nothing follows a FINGERPRINT and only a FINGERPRINT follows a
MESSAGE-INTEGRITY. -/
def MayPrecede (a b : Record) : Prop :=
  a.tag ≠ Attribute.fingerprint.code ∧
    (a.tag = Attribute.messageIntegrity.code → b.tag = Attribute.fingerprint.code)

instance (a b : Record) : Decidable (MayPrecede a b) := by
  unfold MayPrecede
  infer_instance

def WellFormed (rs : List Record) : Prop :=
  (∀ r ∈ rs, LengthOk r) ∧ rs.Pairwise MayPrecede

instance (rs : List Record) : Decidable (WellFormed rs) := by
  unfold WellFormed
  infer_instance

/-- A FINGERPRINT value is the CRC-32 of everything before the attribute, xor
the constant of the RFC. -/
def FingerprintOk (data : Bytes) (rs : List Record) : Prop :=
  ∀ n r, lastAt rs Attribute.fingerprint.code = some (n, r) →
    read32 r.value = Crypto.crc32 (data.take (20 + n)) ^^^ fingerprintXor

/-- `data` is a STUN message with exactly the attributes `rs`. -/
structure Grammar (data : Bytes) (rs : List Record) : Prop where
  isStun : StunPacket.isStun data data.length = .ok true
  lengthField : ∃ msgLength, Byte.get2Bytes data 2 = .ok msgLength ∧
    msgLength.toNat = data.length - 20 ∧ 4 ∣ msgLength.toNat
  valid : ∀ r ∈ rs, r.Valid 4
  split : data.drop 20 = rs.flatMap Record.bytes
  lengths : ∀ r ∈ rs, LengthOk r
  order : rs.Pairwise MayPrecede
  fingerprint : FingerprintOk data rs

theorem Grammar.splitAll_eq {data : Bytes} {rs : List Record} (h : Grammar data rs) :
    splitAll 4 (data.drop 20) = some rs :=
  (splitAll_eq_some_iff _ _).mpr ⟨h.valid, h.split⟩

theorem Grammar.unique {data : Bytes} {rs rs' : List Record} (h : Grammar data rs)
    (h' : Grammar data rs') : rs = rs' :=
  Option.some.inj (h.splitAll_eq.symm.trans h'.splitAll_eq)

def errorCodeOf : Bytes → UInt16
  | _ :: _ :: errorClass :: errorNumber :: _ => errorClass.toUInt16 * 100 + errorNumber.toUInt16
  | _ => 0

/-- The packet of a message: the header's packet with the last occurrence of
each attribute. -/
def withAttributes (base : StunPacket) (rs : List Record) : StunPacket :=
  { base with
    username := (lastValue rs Attribute.username.code).getD base.username
    priority := ((lastValue rs Attribute.priority.code).map read32).getD base.priority
    iceControlling :=
      ((lastValue rs Attribute.iceControlling.code).map read64).getD base.iceControlling
    iceControlled :=
      ((lastValue rs Attribute.iceControlled.code).map read64).getD base.iceControlled
    hasUseCandidate := (lastAt rs Attribute.useCandidate.code).isSome || base.hasUseCandidate
    messageIntegrity :=
      ((lastOffset rs Attribute.messageIntegrity.code).map (24 + ·)).or base.messageIntegrity
    hasFingerprint := (lastAt rs Attribute.fingerprint.code).isSome || base.hasFingerprint
    errorCode := ((lastValue rs Attribute.errorCode.code).map errorCodeOf).getD base.errorCode }

/-! ## The loop as a fold over records -/

/-- What the `switch` does with a record of acceptable length. -/
def applyRecord (st : ParseState) (r : Record) : ParseState :=
  { st with
    packet := { st.packet with
      username := if r.tag = Attribute.username.code then r.value else st.packet.username
      priority := if r.tag = Attribute.priority.code then read32 r.value else st.packet.priority
      iceControlling :=
        if r.tag = Attribute.iceControlling.code then read64 r.value
        else st.packet.iceControlling
      iceControlled :=
        if r.tag = Attribute.iceControlled.code then read64 r.value
        else st.packet.iceControlled
      hasUseCandidate :=
        if r.tag = Attribute.useCandidate.code then true else st.packet.hasUseCandidate
      messageIntegrity :=
        if r.tag = Attribute.messageIntegrity.code then some (st.pos + 4)
        else st.packet.messageIntegrity
      hasFingerprint :=
        if r.tag = Attribute.fingerprint.code then true else st.packet.hasFingerprint
      errorCode :=
        if r.tag = Attribute.errorCode.code then errorCodeOf r.value else st.packet.errorCode }
    hasMessageIntegrity :=
      if r.tag = Attribute.messageIntegrity.code then true else st.hasMessageIntegrity
    hasFingerprint := if r.tag = Attribute.fingerprint.code then true else st.hasFingerprint
    fingerprintAttrPos :=
      if r.tag = Attribute.fingerprint.code then st.pos else st.fingerprintAttrPos
    fingerprint := if r.tag = Attribute.fingerprint.code then read32 r.value else st.fingerprint }

/-- One turn of the loop on a record that lies inside the message. -/
def acceptRecord (st : ParseState) (r : Record) : Option ParseState :=
  if st.hasFingerprint = false ∧
      (st.hasMessageIntegrity = true → r.tag = Attribute.fingerprint.code) ∧ LengthOk r then
    some { applyRecord st r with pos := st.pos + r.bytes.length }
  else none

/-- The loop variables after the records `rs`. -/
def stateAfter (base : StunPacket) (rs : List Record) : ParseState where
  pos := 20 + (rs.flatMap Record.bytes).length
  packet := withAttributes base rs
  hasMessageIntegrity := (lastAt rs Attribute.messageIntegrity.code).isSome
  hasFingerprint := (lastAt rs Attribute.fingerprint.code).isSome
  fingerprintAttrPos := ((lastOffset rs Attribute.fingerprint.code).map (20 + ·)).getD 0
  fingerprint := ((lastValue rs Attribute.fingerprint.code).map read32).getD 0

theorem stateAfter_nil (base : StunPacket) : stateAfter base [] = { pos := 20, packet := base } := by
  simp [stateAfter, withAttributes]

theorem withAttributes_concat (base : StunPacket) (rs : List Record) (r : Record) :
    withAttributes base (rs ++ [r]) = (applyRecord (stateAfter base rs) r).packet := by
  simp only [withAttributes, applyRecord, stateAfter, lastValue_concat, lastOffset_concat,
    lastAt_concat]
  congr 1
  all_goals split <;> simp <;> omega

theorem stateAfter_concat (base : StunPacket) (rs : List Record) (r : Record) :
    stateAfter base (rs ++ [r]) =
      { applyRecord (stateAfter base rs) r with
        pos := (stateAfter base rs).pos + r.bytes.length } := by
  have hpacket := withAttributes_concat base rs r
  rw [stateAfter, hpacket]
  simp only [applyRecord, stateAfter, lastValue_concat, lastOffset_concat, lastAt_concat,
    List.flatMap_append, List.flatMap_cons, List.flatMap_nil, List.append_nil, List.length_append]
  congr 1
  · omega
  all_goals split <;> rfl

theorem wellFormed_concat (rs : List Record) (r : Record) :
    WellFormed (rs ++ [r]) ↔ WellFormed rs ∧ (∀ a ∈ rs, MayPrecede a r) ∧ LengthOk r := by
  simp only [WellFormed, List.pairwise_append, List.mem_append, List.mem_singleton,
    List.pairwise_singleton, forall_eq]
  constructor
  · rintro ⟨hlen, hord, _, hprec⟩
    exact ⟨⟨fun a ha => hlen a (.inl ha), hord⟩, hprec, hlen r (.inr rfl)⟩
  · rintro ⟨⟨hlen, hord⟩, hprec, hr⟩
    refine ⟨?_, hord, trivial, hprec⟩
    rintro a (ha | rfl)
    · exact hlen a ha
    · exact hr

/-- The flags of the loop say exactly which records may still come. -/
theorem stateAfter_flags (base : StunPacket) (rs : List Record) (r : Record) :
    ((stateAfter base rs).hasFingerprint = false ∧
      ((stateAfter base rs).hasMessageIntegrity = true →
        r.tag = Attribute.fingerprint.code)) ↔ ∀ a ∈ rs, MayPrecede a r := by
  simp only [stateAfter, lastAt_isSome_iff, ← Bool.not_eq_true, MayPrecede]
  constructor
  · rintro ⟨hfp, hmi⟩ a ha
    exact ⟨fun ht => hfp ⟨a, ha, ht⟩, fun ht => hmi ⟨a, ha, ht⟩⟩
  · intro h
    refine ⟨?_, ?_⟩
    · rintro ⟨a, ha, ht⟩
      exact (h a ha).1 ht
    · rintro ⟨a, ha, ht⟩
      exact (h a ha).2 ht

/-- The fold accepts exactly the well-formed sequences. -/
theorem foldlM_acceptRecord (base : StunPacket) (rs : List Record) :
    rs.foldlM acceptRecord { pos := 20, packet := base } =
      if WellFormed rs then some (stateAfter base rs) else none := by
  induction rs using List.reverseRecOn with
  | nil =>
      have hnil : WellFormed [] := by simp [WellFormed]
      rw [if_pos hnil, stateAfter_nil]
      rfl
  | append_singleton rs r ih =>
      rw [List.foldlM_append, ih]
      by_cases hw : WellFormed rs
      · rw [if_pos hw]
        simp only [Option.bind_eq_bind, Option.bind_some, List.foldlM_cons, List.foldlM_nil]
        have hiff : ((stateAfter base rs).hasFingerprint = false ∧
            ((stateAfter base rs).hasMessageIntegrity = true →
              r.tag = Attribute.fingerprint.code) ∧ LengthOk r) ↔ WellFormed (rs ++ [r]) := by
          rw [wellFormed_concat, ← and_assoc, stateAfter_flags]
          exact ⟨fun h => ⟨hw, h⟩, fun h => h.2⟩
        by_cases hnext : WellFormed (rs ++ [r])
        · rw [if_pos hnext, acceptRecord, if_pos (hiff.mpr hnext), stateAfter_concat]
          rfl
        · rw [if_neg hnext, acceptRecord, if_neg (fun h => hnext (hiff.mp h))]
          rfl
      · have hnext : ¬ WellFormed (rs ++ [r]) := by
          rw [wellFormed_concat]
          exact fun h => hw h.1
        rw [if_neg hw, if_neg hnext]
        rfl

end EasyWebRtc.Rtc.StunPacket
