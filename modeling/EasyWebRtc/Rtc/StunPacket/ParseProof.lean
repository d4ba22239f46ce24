import EasyWebRtc.Rtc.StunPacket.Grammar

/-!
# `Parse` decides the STUN grammar

Every read of `Parse` on a message of at most 65535 bytes lies inside it, the
loop ends, and the result is decided by the records of the message: split the
bytes behind the header, fold the loop body over the records, compare the
FINGERPRINT.
-/

namespace EasyWebRtc.Rtc.StunPacket

open Octets Utils Tlv

/-! ## Reads of one attribute -/

theorem readBytes_of_drop {data v rest : Bytes} {i : Nat} (h : data.drop i = v ++ rest) :
    readBytes data i v.length = .ok v := by
  simp [readBytes, h]

theorem get4Bytes_of_value {data v rest : Bytes} {i : Nat} (h : data.drop i = v ++ rest)
    (hv : v.length = 4) : Byte.get4Bytes data i = .ok (read32 v) := by
  match v, hv with
  | [_, _, _, _], _ => exact Byte.get4Bytes_of_drop h

theorem get8Bytes_of_value {data v rest : Bytes} {i : Nat} (h : data.drop i = v ++ rest)
    (hv : v.length = 8) : Byte.get8Bytes data i = .ok (read64 v) := by
  match v, hv with
  | [_, _, _, _, b₄, b₅, b₆, b₇], _ =>
      have hhi := Byte.get4Bytes_of_drop h
      have hdrop : data.drop (i + 4) = b₄ :: b₅ :: b₆ :: b₇ :: rest := by
        rw [← List.drop_drop, h]
        rfl
      have hlo := Byte.get4Bytes_of_drop hdrop
      simp only [Byte.get8Bytes, hhi, hlo]
      rfl

theorem get1Byte_errorCode {data v rest : Bytes} {i : Nat} (h : data.drop i = v ++ rest)
    (hv : 4 ≤ v.length) : ∃ errorClass errorNumber,
      Byte.get1Byte data (i + 2) = .ok errorClass ∧ Byte.get1Byte data (i + 3) = .ok errorNumber ∧
      errorClass.toUInt16 * 100 + errorNumber.toUInt16 = errorCodeOf v := by
  match v, hv with
  | a :: b :: c :: d :: v, _ =>
      have h₂ : data.drop (i + 2) = c :: d :: (v ++ rest) := by
        rw [← List.drop_drop, h]
        rfl
      have h₃ : data.drop (i + 3) = d :: (v ++ rest) := by
        rw [← List.drop_drop, h]
        rfl
      exact ⟨c, d, Byte.get1Byte_of_drop h₂, Byte.get1Byte_of_drop h₃, rfl⟩

theorem ofNat_eq_iff {n : Nat} (h : n < 2 ^ 16) (k : UInt16) :
    UInt16.ofNat n = k ↔ n = k.toNat := by
  rw [← UInt16.toNat_inj, UInt16.toNat_ofNat', Nat.mod_eq_of_lt h]

theorem parseValue_of_record {data rest : Bytes} {st : ParseState} {r : Record}
    (hv : r.Valid 4) (hd : data.drop (st.pos + 4) = r.value ++ rest) :
    parseValue data st r.tag (UInt16.ofNat r.value.length) =
      .ok (if LengthOk r then some (applyRecord st r) else none) := by
  have hlen : (UInt16.ofNat r.value.length).toNat = r.value.length := by
    rw [UInt16.toNat_ofNat', Nat.mod_eq_of_lt hv.value_length]
  have heq := ofNat_eq_iff hv.value_length
  have hlt : UInt16.ofNat r.value.length < 4 ↔ r.value.length < 4 := by
    rw [UInt16.lt_iff_toNat_lt, hlen]
    rfl
  unfold parseValue
  by_cases h₁ : r.tag = Attribute.username.code
  · simp [h₁, LengthOk, applyRecord, Attribute.code, hlen, readBytes_of_drop hd]
  by_cases h₂ : r.tag = Attribute.priority.code
  · by_cases hl : r.value.length = 4
    · simp [h₂, LengthOk, applyRecord, Attribute.code, hl, get4Bytes_of_value hd hl]
    · simp [h₂, LengthOk, Attribute.code, heq, hl]
  by_cases h₃ : r.tag = Attribute.iceControlling.code
  · by_cases hl : r.value.length = 8
    · simp [h₃, LengthOk, applyRecord, Attribute.code, hl, get8Bytes_of_value hd hl]
    · simp [h₃, LengthOk, Attribute.code, heq, hl]
  by_cases h₄ : r.tag = Attribute.iceControlled.code
  · by_cases hl : r.value.length = 8
    · simp [h₄, LengthOk, applyRecord, Attribute.code, hl, get8Bytes_of_value hd hl]
    · simp [h₄, LengthOk, Attribute.code, heq, hl]
  by_cases h₅ : r.tag = Attribute.useCandidate.code
  · by_cases hl : r.value.length = 0
    · simp [h₅, LengthOk, applyRecord, Attribute.code, hl]
    · simp [h₅, LengthOk, Attribute.code, heq, hl]
  by_cases h₆ : r.tag = Attribute.messageIntegrity.code
  · by_cases hl : r.value.length = 20
    · simp [h₆, LengthOk, applyRecord, Attribute.code, hl]
    · simp [h₆, LengthOk, Attribute.code, heq, hl]
  by_cases h₇ : r.tag = Attribute.fingerprint.code
  · by_cases hl : r.value.length = 4
    · simp [h₇, LengthOk, applyRecord, Attribute.code, hl, get4Bytes_of_value hd hl]
    · simp [h₇, LengthOk, Attribute.code, heq, hl]
  by_cases h₈ : r.tag = Attribute.errorCode.code
  · by_cases hl : 4 ≤ r.value.length
    · obtain ⟨errorClass, errorNumber, hc, hn, he⟩ := get1Byte_errorCode hd hl
      have hl' : ¬ r.value.length < 4 := by omega
      simp [h₈, LengthOk, applyRecord, Attribute.code, hlt, hl, hl', hc, hn, he]
    · have hl' : r.value.length < 4 := by omega
      simp [h₈, LengthOk, Attribute.code, hlt, hl']
  simp [h₁, h₂, h₃, h₄, h₅, h₆, h₇, h₈, LengthOk, applyRecord]

/-! ## One turn of the loop -/

theorem padLen_four (n : Nat) : padLen 4 n = (4 - n % 4) % 4 := rfl

theorem bytes_length_dvd {r : Record} (hv : r.Valid 4) : 4 ∣ r.bytes.length := by
  rw [Record.bytes_length, hv.padding_length, padLen_four]
  omega

theorem next_pos {pos : Nat} {r : Record} (hv : r.Valid 4) (hpos : 4 ∣ pos) :
    (Byte.padTo4Bytes (UInt16.ofNat (pos + 4 + r.value.length))).toNat =
      (pos + r.bytes.length) % 65536 := by
  have hp := hv.padding_length
  rw [padLen_four] at hp
  rw [Byte.padTo4Bytes_toNat_mod, UInt16.toNat_ofNat', padLen_four, Record.bytes_length]
  omega

/-- A turn of the loop on a record inside the message, of any length. The
position after it is what 16 bits hold of it. -/
theorem parseAttribute_record {data rest : Bytes} {st : ParseState} {r : Record}
    (hv : r.Valid 4) (hd : data.drop st.pos = r.bytes ++ rest) (hpos : 4 ∣ st.pos) :
    parseAttribute data data.length st = .ok ((acceptRecord st r).map fun st' =>
      { st' with pos := (st.pos + r.bytes.length) % 65536 }) := by
  have hsize : st.pos + r.bytes.length + rest.length = data.length := by
    have h := congrArg List.length hd
    have hne : 0 < r.bytes.length := List.length_pos_of_ne_nil r.bytes_ne_nil
    rw [List.length_drop, List.length_append] at h
    omega
  have hb := Record.bytes_length r
  simp only [Record.bytes, be16, List.append_assoc, List.cons_append, List.nil_append] at hd
  have htag := Byte.get2Bytes_of_drop hd
  have hd₂ := drop_succ_of_drop (drop_succ_of_drop hd)
  have hlength := Byte.get2Bytes_of_drop hd₂
  have hd₄ := drop_succ_of_drop (drop_succ_of_drop hd₂)
  have hn : (UInt16.ofNat r.value.length).toNat = r.value.length := by
    rw [UInt16.toNat_ofNat', Nat.mod_eq_of_lt hv.value_length]
  rw [word16_be16] at htag hlength
  have hin : ¬ data.length < st.pos + 4 + r.value.length := by omega
  simp only [parseAttribute, htag, hlength, hn, parseValue_of_record hv hd₄,
    next_pos hv hpos, Exec.ok_bind, Exec.pure_eq_ok, if_neg hin]
  unfold acceptRecord
  by_cases hfp : st.hasFingerprint = true
  · simp [hfp]
  · by_cases hmi : st.hasMessageIntegrity = true ∧ r.tag ≠ Attribute.fingerprint.code
    · simp [hfp, hmi]
    · have hmi' : st.hasMessageIntegrity = true → r.tag = Attribute.fingerprint.code := by
        intro h
        by_contra hne
        exact hmi ⟨h, hne⟩
      rw [if_neg hfp, if_neg hmi]
      by_cases hl : LengthOk r
      · rw [if_pos hl, if_pos ⟨by simpa using hfp, hmi', hl⟩]
        rfl
      · rw [if_neg hl, if_neg (fun h => hl h.2.2)]

theorem acceptRecord_pos {st st' : ParseState} {r : Record} (h : acceptRecord st r = some st') :
    st'.pos = st.pos + r.bytes.length := by
  unfold acceptRecord at h
  split at h
  · cases h
    rfl
  · cases h

theorem parseAttribute_of_record_end {data rest : Bytes} {st : ParseState} {r : Record}
    (hv : r.Valid 4) (hd : data.drop st.pos = r.bytes ++ rest) (hpos : 4 ∣ st.pos)
    (hfit : st.pos + r.bytes.length ≤ 65535) :
    parseAttribute data data.length st = .ok (acceptRecord st r) := by
  rw [parseAttribute_record hv hd hpos, Nat.mod_eq_of_lt (by omega)]
  cases ha : acceptRecord st r with
  | none => rfl
  | some st' => rw [Option.map_some, ← acceptRecord_pos ha]

theorem parseAttribute_of_record {data rest : Bytes} {st : ParseState} {r : Record}
    (hv : r.Valid 4) (hd : data.drop st.pos = r.bytes ++ rest) (hpos : 4 ∣ st.pos)
    (hlen : data.length ≤ 65535) :
    parseAttribute data data.length st = .ok (acceptRecord st r) := by
  apply parseAttribute_of_record_end hv hd hpos
  have hsize := congrArg List.length hd
  have hne : 0 < r.bytes.length := List.length_pos_of_ne_nil r.bytes_ne_nil
  rw [List.length_drop, List.length_append] at hsize
  omega

theorem parseAttribute_of_no_record {data : Bytes} {st : ParseState}
    (hs : splitOne 4 (data.drop st.pos) = none) (hpos : 4 ∣ st.pos) (hdvd : 4 ∣ data.length)
    (hroom : st.pos + 4 ≤ data.length) :
    parseAttribute data data.length st = .ok none := by
  have hlong : 4 ≤ (data.drop st.pos).length := by
    rw [List.length_drop]
    omega
  match hd : data.drop st.pos, hlong with
  | t₁ :: t₀ :: l₁ :: l₀ :: rest, _ =>
      have htag := Byte.get2Bytes_of_drop hd
      have hd₂ := drop_succ_of_drop (drop_succ_of_drop hd)
      have hlength := Byte.get2Bytes_of_drop hd₂
      have hrest : data.length = st.pos + 4 + rest.length := by
        have h := congrArg List.length hd
        simp only [List.length_drop, List.length_cons] at h
        omega
      have hout : data.length < st.pos + 4 + (word16 l₁ l₀).toNat := by
        by_contra hin
        have hfit : (word16 l₁ l₀).toNat + padLen 4 (word16 l₁ l₀).toNat ≤ rest.length :=
          padLen_dvd (by decide) (by omega) (by omega)
        rw [hd] at hs
        simp [splitOne, hfit] at hs
      simp [parseAttribute, htag, hlength, hout]

/-! ## The whole loop -/

theorem parseLoop_eq (data : Bytes) (hlen : data.length ≤ 65535) (hdvd : 4 ∣ data.length)
    (fuel : Nat) (st : ParseState) (hpos : 4 ∣ st.pos) (hle : st.pos ≤ data.length)
    (hfuel : data.length ≤ st.pos + fuel) :
    parseLoop data data.length fuel st =
      .ok ((splitAll 4 (data.drop st.pos)).bind fun rs => rs.foldlM acceptRecord st) := by
  induction fuel generalizing st with
  | zero =>
      have hdrop : data.drop st.pos = [] := List.drop_eq_nil_iff.mpr (by omega)
      have hend : ¬ st.pos + 4 ≤ data.length := by omega
      simp [parseLoop, hend, hdrop]
  | succ fuel ih =>
      by_cases hroom : st.pos + 4 ≤ data.length
      · cases hs : splitOne 4 (data.drop st.pos) with
        | none =>
            have hne : data.drop st.pos ≠ [] := by
              intro h
              have := List.drop_eq_nil_iff.mp h
              omega
            rw [splitAll_of_splitOne_none hne hs]
            simp [parseLoop, hroom, parseAttribute_of_no_record hs hpos hdvd hroom]
        | some pair =>
            rcases pair with ⟨r, rest⟩
            obtain ⟨hv, hd⟩ := splitOne_sound hs
            have hbl := bytes_length_dvd hv
            have hbp : 4 ≤ r.bytes.length := by
              rw [Record.bytes_length]
              omega
            have hrest : data.drop (st.pos + r.bytes.length) = rest := by
              rw [← List.drop_drop, hd, List.drop_left]
            have hsize : st.pos + r.bytes.length ≤ data.length := by
              have h := congrArg List.length hd
              rw [List.length_drop, List.length_append] at h
              omega
            rw [splitAll_of_splitOne hs]
            simp only [parseLoop, if_pos hroom, parseAttribute_of_record hv hd hpos hlen,
              Exec.ok_bind]
            cases ha : acceptRecord st r with
            | none =>
                cases splitAll 4 rest with
                | none => rfl
                | some rs => simp [ha]
            | some st' =>
                have hpos' := acceptRecord_pos ha
                simp only
                rw [ih st' (by omega) (by omega) (by omega), hpos', hrest]
                cases splitAll 4 rest with
                | none => rfl
                | some rs => simp [ha]
      · have hdrop : data.drop st.pos = [] := List.drop_eq_nil_iff.mpr (by omega)
        simp [parseLoop, hroom, hdrop]

/-! ## Header and end -/

theorem exists_get1Byte {data : Bytes} {i : Nat} (h : i < data.length) :
    ∃ b, Byte.get1Byte data i = .ok b := ⟨data[i], load_ok_of_lt _ h⟩

theorem isStun_total (data : Bytes) : ∃ b, isStun data data.length = .ok b := by
  unfold isStun
  by_cases hlen : 20 ≤ data.length
  · obtain ⟨b₀, h₀⟩ := exists_get1Byte (show 0 < data.length by omega)
    obtain ⟨b₄, h₄⟩ := exists_get1Byte (show 4 < data.length by omega)
    obtain ⟨b₅, h₅⟩ := exists_get1Byte (show 5 < data.length by omega)
    obtain ⟨b₆, h₆⟩ := exists_get1Byte (show 6 < data.length by omega)
    obtain ⟨b₇, h₇⟩ := exists_get1Byte (show 7 < data.length by omega)
    simp only [hlen, if_true, h₀, h₄, h₅, h₆, h₇, Exec.ok_bind, Exec.pure_eq_ok]
    repeat' split
    all_goals exact ⟨_, rfl⟩
  · exact ⟨false, by simp [hlen]⟩

theorem length_of_isStun {data : Bytes} {len : Nat} (h : isStun data len = .ok true) :
    20 ≤ len := by
  by_contra hlen
  simp [isStun, hlen] at h

def LengthFieldOk (data : Bytes) : Prop :=
  ∃ msgLength, Byte.get2Bytes data 2 = .ok msgLength ∧
    msgLength.toNat = data.length - 20 ∧ 4 ∣ msgLength.toNat

theorem exists_get2Bytes {data : Bytes} {i : Nat} (h : i + 1 < data.length) :
    ∃ w, Byte.get2Bytes data i = .ok w := by
  obtain ⟨lo, hlo⟩ := exists_get1Byte h
  obtain ⟨hi, hhi⟩ := exists_get1Byte (show i < data.length by omega)
  exact ⟨word16 hi lo, by simp [Byte.get2Bytes, hlo, hhi]⟩

theorem parseHeader_of_lengthField {data : Bytes} (hlen : 20 ≤ data.length)
    (h : LengthFieldOk data) : ∃ base, parseHeader data data.length = .ok (some base) := by
  obtain ⟨msgLength, hget, hsize, hdvd⟩ := h
  obtain ⟨msgType, htype⟩ := exists_get2Bytes (show 0 + 1 < data.length by omega)
  obtain ⟨b₀, h₀⟩ := exists_get1Byte (show 0 < data.length by omega)
  obtain ⟨b₁, h₁⟩ := exists_get1Byte (show 1 < data.length by omega)
  have hmask : msgLength &&& 0x03 = 0 := by
    apply UInt16.toNat_inj.mp
    rw [Byte.and_0x03_toNat]
    exact Nat.mod_eq_zero_of_dvd hdvd
  have htid : ((data.drop 8).take 12).length = 12 := by
    rw [List.length_take, List.length_drop]
    omega
  simp only [parseHeader, htype, hget, h₀, h₁, hsize, hmask, readTransactionId, dif_pos htid,
    Exec.ok_bind, Exec.pure_eq_ok, ne_eq, not_true_eq_false, or_self, if_false]
  exact ⟨_, rfl⟩

theorem parseHeader_of_not_lengthField {data : Bytes} (hlen : 20 ≤ data.length)
    (h : ¬ LengthFieldOk data) : parseHeader data data.length = .ok none := by
  obtain ⟨msgType, htype⟩ := exists_get2Bytes (show 0 + 1 < data.length by omega)
  obtain ⟨msgLength, hget⟩ := exists_get2Bytes (show 2 + 1 < data.length by omega)
  have hbad : msgLength.toNat ≠ data.length - 20 ∨ msgLength &&& 0x03 ≠ 0 := by
    by_contra hgood
    simp only [not_or, not_not] at hgood
    apply h
    refine ⟨msgLength, hget, hgood.1, ?_⟩
    apply Nat.dvd_of_mod_eq_zero
    rw [← Byte.and_0x03_toNat, hgood.2]
    rfl
  simp only [parseHeader, htype, hget, Exec.ok_bind, if_pos hbad, Exec.pure_eq_ok]

theorem parseEnd_stateAfter {data : Bytes} (base : StunPacket) {rs : List Record}
    (hlen : 20 ≤ data.length) (hs : data.drop 20 = rs.flatMap Record.bytes) :
    (FingerprintOk data rs →
      parseEnd data data.length (stateAfter base rs) = .ok (some (withAttributes base rs))) ∧
    (¬ FingerprintOk data rs →
      parseEnd data data.length (stateAfter base rs) = .ok none) := by
  have hpos : (stateAfter base rs).pos = data.length := by
    have h := congrArg List.length hs
    rw [List.length_drop] at h
    simp only [stateAfter]
    omega
  unfold parseEnd
  simp only [hpos, ne_eq, not_true_eq_false, if_false]
  cases hfp : lastAt rs Attribute.fingerprint.code with
  | none =>
      have hok : FingerprintOk data rs := by
        intro n r h
        rw [hfp] at h
        cases h
      simp [stateAfter, hfp, hok]
  | some pair =>
      rcases pair with ⟨n, r⟩
      have hn : 20 + n ≤ data.length := by
        have h := lastAt_le hfp
        rw [← hs, List.length_drop] at h
        omega
      have hcrc : Crypto.getCRC32 data (20 + n) = .ok (Crypto.crc32 (data.take (20 + n))) := by
        have h := Crypto.getCRC32_append (data.take (20 + n)) (data.drop (20 + n))
        rwa [List.take_append_drop, List.length_take, Nat.min_eq_left hn] at h
      have hiff : FingerprintOk data rs ↔
          read32 r.value = Crypto.crc32 (data.take (20 + n)) ^^^ fingerprintXor := by
        constructor
        · intro h
          exact h n r hfp
        · intro h n' r' h'
          rw [hfp] at h'
          cases h'
          exact h
      simp only [stateAfter, lastOffset, lastValue, hfp, Option.map_some, Option.isSome_some,
        Option.getD_some, if_true, hcrc, Exec.ok_bind, Exec.pure_eq_ok]
      rw [hiff]
      constructor
      · intro h
        rw [if_neg (not_not.mpr h)]
      · intro h
        rw [if_pos h]

/-! ## The whole parser -/

/-- On at most 65535 bytes `Parse` returns, and what it returns is given by the
records of the message. -/
theorem parse_cases (data : Bytes) (hlen : data.length ≤ 65535) :
    (∃ base rs, Grammar data rs ∧ parseHeader data data.length = .ok (some base) ∧
      parse data data.length = .ok (some (withAttributes base rs))) ∨
    ((∀ rs, ¬ Grammar data rs) ∧ parse data data.length = .ok none) := by
  obtain ⟨b, hstun⟩ := isStun_total data
  cases b with
  | false =>
      right
      refine ⟨fun rs hg => ?_, by simp [parse, hstun]⟩
      rw [hg.isStun] at hstun
      cases hstun
  | true =>
      have h20 := length_of_isStun hstun
      by_cases hfield : LengthFieldOk data
      · obtain ⟨base, hbase⟩ := parseHeader_of_lengthField h20 hfield
        obtain ⟨msgLength, hget, hsize, hdvd⟩ := id hfield
        have hloop := parseLoop_eq data hlen (by omega) data.length { pos := 20, packet := base }
          (show 4 ∣ 20 by decide) h20 (by simp)
        simp only [foldlM_acceptRecord] at hloop
        cases hsplit : splitAll 4 (data.drop 20) with
        | none =>
            right
            refine ⟨fun rs hg => ?_, by simp [parse, hstun, hbase, hloop, hsplit]⟩
            rw [hg.splitAll_eq] at hsplit
            cases hsplit
        | some rs =>
            obtain ⟨hvalid, hbytes⟩ := splitAll_sound _ _ hsplit
            have hunique : ∀ rs', Grammar data rs' → rs' = rs := by
              intro rs' hg
              rw [hg.splitAll_eq] at hsplit
              exact Option.some.inj hsplit
            obtain ⟨hgood, hbad⟩ := parseEnd_stateAfter base h20 hbytes
            by_cases hw : WellFormed rs
            · by_cases hfp : FingerprintOk data rs
              · left
                refine ⟨base, rs, ⟨hstun, hfield, hvalid, hbytes, hw.1, hw.2, hfp⟩, hbase, ?_⟩
                simp [parse, hstun, hbase, hloop, hsplit, hw, hgood hfp]
              · right
                refine ⟨fun rs' hg => ?_, ?_⟩
                · exact hfp (hunique rs' hg ▸ hg.fingerprint)
                · simp [parse, hstun, hbase, hloop, hsplit, hw, hbad hfp]
            · right
              refine ⟨fun rs' hg => ?_, by simp [parse, hstun, hbase, hloop, hsplit, hw]⟩
              exact hw (hunique rs' hg ▸ ⟨hg.lengths, hg.order⟩)
      · right
        refine ⟨fun rs hg => hfield hg.lengthField, ?_⟩
        simp [parse, hstun, parseHeader_of_not_lengthField h20 hfield]

theorem parseAttribute_pos {data : Bytes} {len : Nat} {st st' : ParseState}
    (h : parseAttribute data len st = .ok (some st')) : st'.pos < 65536 := by
  obtain ⟨attrType, _, h⟩ := Exec.bind_eq_ok.mp h
  obtain ⟨attrLength, _, h⟩ := Exec.bind_eq_ok.mp h
  split at h
  · cases h
  · split at h
    · cases h
    · split at h
      · cases h
      · obtain ⟨updated, _, h⟩ := Exec.bind_eq_ok.mp h
        obtain ⟨st₁, _, rfl⟩ := Option.map_eq_some_iff.mp (Except.ok.inj h)
        exact UInt16.toNat_lt _

theorem parseLoop_pos {data : Bytes} {len fuel : Nat} {st st' : ParseState}
    (h : parseLoop data len fuel st = .ok (some st')) (hpos : st.pos < 65536) :
    st'.pos < 65536 := by
  induction fuel generalizing st with
  | zero =>
      unfold parseLoop at h
      split at h
      · cases h
      · cases h
        exact hpos
  | succ fuel ih =>
      unfold parseLoop at h
      split at h
      · obtain ⟨next, hnext, h⟩ := Exec.bind_eq_ok.mp h
        cases next with
        | none => cases h
        | some st₁ => exact ih h (parseAttribute_pos hnext)
      · cases h
        exact hpos

/-- `Parse` accepts no message whose positions do not fit into 16 bits. -/
theorem length_le_of_parse {data : Bytes} {len : Nat} {p : StunPacket}
    (h : parse data len = .ok (some p)) : len ≤ 65535 := by
  obtain ⟨stun, _, h⟩ := Exec.bind_eq_ok.mp h
  cases stun with
  | false => cases h
  | true =>
      obtain ⟨base, _, h⟩ := Exec.bind_eq_ok.mp h
      cases base with
      | none => cases h
      | some base =>
          obtain ⟨st, hloop, h⟩ := Exec.bind_eq_ok.mp h
          cases st with
          | none => cases h
          | some st =>
              have hpos := parseLoop_pos hloop (show 20 < 65536 by decide)
              by_cases hend : st.pos = len
              · omega
              · simp [parseEnd, hend] at h

/-- States of the loop variables at the loop head. -/
inductive LoopReaches (data : Bytes) (len : Nat) (st : ParseState) : ParseState → Prop where
  | start : LoopReaches data len st st
  | turn {st₁ st₂ : ParseState} (before : LoopReaches data len st st₁)
      (room : st₁.pos + 4 ≤ len) (body : parseAttribute data len st₁ = .ok (some st₂)) :
      LoopReaches data len st st₂

theorem loopReaches_pos {data : Bytes} (hlen : data.length ≤ 65535) (hdvd : 4 ∣ data.length)
    {st st' : ParseState} (hpos : 4 ∣ st.pos) (hle : st.pos ≤ data.length)
    (h : LoopReaches data data.length st st') : 4 ∣ st'.pos ∧ st'.pos ≤ data.length := by
  induction h with
  | start => exact ⟨hpos, hle⟩
  | @turn st₁ st₂ before room body ih =>
      obtain ⟨hpos₁, hle₁⟩ := ih
      cases hs : splitOne 4 (data.drop st₁.pos) with
      | none =>
          rw [parseAttribute_of_no_record hs hpos₁ hdvd room] at body
          cases body
      | some pair =>
          rcases pair with ⟨r, rest⟩
          obtain ⟨hv, hd⟩ := splitOne_sound hs
          rw [parseAttribute_of_record hv hd hpos₁ hlen] at body
          have hnext := acceptRecord_pos (Except.ok.inj body)
          have hbl := bytes_length_dvd hv
          have hsize := congrArg List.length hd
          rw [List.length_drop, List.length_append] at hsize
          constructor
          · omega
          · omega

/-- `Parse` accepts exactly the grammar. On at most 65535 bytes it returns
without reading outside the message, it returns a packet exactly when the bytes
are a STUN message of the grammar, the packet has the last occurrence of each
attribute, and at the loop head the position is a multiple of 4 not above the
length, so that the loop can only be left at the end of the message. -/
theorem parse_decides_grammar (data : Bytes) (hlen : data.length ≤ 65535) :
    (∃ result, parse data data.length = .ok result) ∧
    ((∃ p, parse data data.length = .ok (some p)) ↔ ∃ rs, Grammar data rs) ∧
    (∀ p rs, parse data data.length = .ok (some p) → Grammar data rs →
      ∃ base, parseHeader data data.length = .ok (some base) ∧ p = withAttributes base rs) ∧
    (∀ base st, isStun data data.length = .ok true →
      parseHeader data data.length = .ok (some base) →
      LoopReaches data data.length { pos := 20, packet := base } st →
      4 ∣ st.pos ∧ st.pos ≤ data.length ∧
        (¬ st.pos + 4 ≤ data.length → st.pos = data.length)) := by
  refine ⟨?_, ?_, ?_, ?_⟩
  · rcases parse_cases data hlen with ⟨base, rs, _, _, hparse⟩ | ⟨_, hparse⟩
    · exact ⟨_, hparse⟩
    · exact ⟨_, hparse⟩
  · rcases parse_cases data hlen with ⟨base, rs, hg, _, hparse⟩ | ⟨hno, hparse⟩
    · exact ⟨fun _ => ⟨rs, hg⟩, fun _ => ⟨_, hparse⟩⟩
    · refine ⟨fun ⟨p, hp⟩ => ?_, fun ⟨rs, hg⟩ => (hno rs hg).elim⟩
      rw [hparse] at hp
      cases hp
  · intro p rs hp hg
    rcases parse_cases data hlen with ⟨base, rs', hg', hbase, hparse⟩ | ⟨hno, _⟩
    · have hrs : rs' = rs := Grammar.unique hg' hg
      rw [hparse, hrs] at hp
      exact ⟨base, hbase, (Option.some.inj (Except.ok.inj hp)).symm⟩
    · exact (hno rs hg).elim
  · intro base st hstun hbase hreach
    have h20 := length_of_isStun hstun
    have hdvd : 4 ∣ data.length := by
      by_contra hnot
      have hfield : ¬ LengthFieldOk data := by
        rintro ⟨msgLength, _, hsize, hdiv⟩
        omega
      rw [parseHeader_of_not_lengthField h20 hfield] at hbase
      cases hbase
    obtain ⟨hpos, hle⟩ := loopReaches_pos hlen hdvd (show 4 ∣ 20 by decide) h20 hreach
    exact ⟨hpos, hle, by omega⟩

/-- A Binding request with USERNAME `abcd:xy`, PRIORITY, ICE-CONTROLLING,
USE-CANDIDATE, MESSAGE-INTEGRITY and FINGERPRINT. -/
def bindingRequestBytes : Bytes :=
  [0, 1, 0, 68, 33, 18, 164, 66, 0, 1, 2, 3, 4, 5, 6, 7, 8, 9, 10, 11,
    0, 6, 0, 7, 97, 98, 99, 100, 58, 120, 121, 0, 0, 36, 0, 4, 110, 0, 1, 255,
    128, 42, 0, 8, 0, 0, 0, 0, 0, 0, 0, 7, 0, 37, 0, 0,
    0, 8, 0, 20, 89, 227, 137, 49, 153, 251, 160, 190, 138, 41, 137, 133, 131, 25, 48, 45,
    219, 35, 6, 13, 128, 40, 0, 4, 253, 181, 94, 100]

theorem parse_decides_grammar_bindingRequest :
    ∃ p rs base, parse bindingRequestBytes bindingRequestBytes.length = .ok (some p) ∧
      p.messageIntegrity = some 60 ∧ p.hasFingerprint = true ∧ Grammar bindingRequestBytes rs ∧
      p = withAttributes base rs := by
  have hfields : (parse bindingRequestBytes bindingRequestBytes.length).map (fun result =>
      result.map fun p => (p.messageIntegrity, p.hasFingerprint)) =
      .ok (some (some 60, true)) := by decide +kernel
  obtain ⟨-, hgrammar, hlast, -⟩ := parse_decides_grammar bindingRequestBytes (by decide)
  cases hparse : parse bindingRequestBytes bindingRequestBytes.length with
  | error e =>
      rw [hparse] at hfields
      cases hfields
  | ok result =>
      cases result with
      | none =>
          rw [hparse] at hfields
          cases hfields
      | some p =>
          rw [hparse] at hfields
          obtain ⟨hmi, hfingerprint⟩ :=
            Prod.mk.inj (Option.some.inj (Except.ok.inj hfields))
          obtain ⟨rs, hrs⟩ := hgrammar.mp ⟨p, hparse⟩
          obtain ⟨base, -, hp⟩ := hlast p rs hparse hrs
          exact ⟨p, rs, base, rfl, hmi, hfingerprint, hrs, hp⟩

end EasyWebRtc.Rtc.StunPacket
