import EasyWebRtc.Lib.Framed
import EasyWebRtc.Rtp.Depacketizer

/-!
# Aggregated and single NAL units

An aggregation payload is accepted exactly if the bytes behind its header are
units behind their lengths, none of them empty or itself an aggregation or a
fragmentation unit. The two loops of the source agree: the offsets that the
first one collects are those between which the second one finds the units.
-/

namespace EasyWebRtc.Rtp

open Octets Guarded Framed H264

def nalType (unit : Bytes) : UInt8 := unit.getD 0 0 &&& kTypeMask

/-- A unit that may stand in an aggregation payload, or alone. -/
structure PlainUnit (unit : Bytes) : Prop where
  nonempty : 1 ≤ unit.length
  notStapA : nalType unit ≠ 24
  notFuA : nalType unit ≠ 28

theorem plainUnit_iff (unit : Bytes) :
    PlainUnit unit ↔ 1 ≤ unit.length ∧ nalType unit ≠ 24 ∧ nalType unit ≠ 28 :=
  ⟨fun h => ⟨h.nonempty, h.notStapA, h.notFuA⟩, fun h => ⟨h.1, h.2.1, h.2.2⟩⟩

instance (unit : Bytes) : Decidable (PlainUnit unit) := decidable_of_iff' _ (plainUnit_iff unit)

/-- `bs` consists of the units behind their lengths. -/
structure Aggregates (units : List Bytes) (bs : Bytes) : Prop extends IsFraming units bs where
  nonempty : units ≠ []
  plain : ∀ u ∈ units, PlainUnit u

theorem Aggregates.length_le {units : List Bytes} {bs : Bytes} (h : Aggregates units bs) :
    3 ≤ bs.length := by
  cases units with
  | nil => exact absurd rfl h.nonempty
  | cons u units =>
      have hu := (h.plain u List.mem_cons_self).nonempty
      rw [h.bytes, List.flatMap_cons, List.length_append, frame_length]
      omega

/-- The result for every accepted payload that is not a fragment. -/
def deltaPayload : ParsedRtpPayload := { videoHeader := { frameType := .videoFrameDelta } }

namespace VideoRtpDepacketizerH264

variable {p : RtpPacket} {payload : Bytes}

/-! ## The two loops -/

theorem parseStapAStartOffsets_turn (hp : p.Holds payload) (fuel : Nat) {naluPtr : Nat} (offset : Nat)
    (offsets : List Nat) {b₀ b₁ : UInt8} {rest : Bytes}
    (hd : payload.drop naluPtr = b₀ :: b₁ :: rest) :
    parseStapAStartOffsets p (fuel + 1) naluPtr (rest.length + 2) offset offsets =
      if rest.length < (word16 b₀ b₁).toNat then .ok (false, offsets)
      else parseStapAStartOffsets p fuel (naluPtr + 2 + (word16 b₀ b₁).toNat)
        (rest.length - (word16 b₀ b₁).toNat)
        (offset + (kLengthFieldSize + (word16 b₀ b₁).toNat))
        (offsets ++ [offset + kStapAHeaderSize]) := by
  have hread₀ : p.payloadAt naluPtr = .ok b₀ := by
    rw [hp.payloadAt_eq, byteAt_of_drop hd]
  have hread₁ : p.payloadAt (naluPtr + 1) = .ok b₁ := by
    rw [hp.payloadAt_eq, byteAt_of_drop (drop_succ_of_drop hd)]
  rw [parseStapAStartOffsets, if_pos (by omega), if_neg (by omega), hread₀, ok_bind, hread₁,
    ok_bind, sub_of_le (by omega), ok_bind, Nat.add_sub_cancel]
  by_cases hlong : rest.length < (word16 b₀ b₁).toNat
  · rw [if_pos hlong, if_pos hlong]
    rfl
  · rw [if_neg hlong, if_neg hlong, sub_of_le (Nat.not_lt.mp hlong), ok_bind]

/-- The first loop, at `naluPtr` before the bytes `bs`, finds the framing of `bs`
and adds its offsets, or there is none. -/
def FindsFraming (bs : Bytes) (naluPtr : Nat) (offsets : List Nat)
    (x : Guarded (Bool × List Nat)) : Prop :=
  (∃ units, IsFraming units bs ∧ x = .ok (true, offsets ++ starts naluPtr units)) ∨
    ((∀ units, ¬ IsFraming units bs) ∧ ∃ offsets', x = .ok (false, offsets'))

theorem FindsFraming.nil (naluPtr : Nat) (offsets : List Nat) :
    FindsFraming [] naluPtr offsets (.ok (true, offsets)) := by
  left
  refine ⟨[], isFraming_nil_iff.mpr rfl, ?_⟩
  rw [starts, List.append_nil]

theorem FindsFraming.unit {b₀ b₁ : UInt8} {rest : Bytes} {naluPtr : Nat} {offsets : List Nat}
    {x : Guarded (Bool × List Nat)} (hle : (word16 b₀ b₁).toNat ≤ rest.length)
    (h : FindsFraming (rest.drop (word16 b₀ b₁).toNat) (naluPtr + 2 + (word16 b₀ b₁).toNat)
      (offsets ++ [naluPtr + 2]) x) :
    FindsFraming (b₀ :: b₁ :: rest) naluPtr offsets x := by
  rcases h with ⟨units, hunits, hx⟩ | ⟨hnone, hx⟩
  · left
    refine ⟨rest.take (word16 b₀ b₁).toNat :: units,
      isFraming_cons_iff.mpr ⟨hle, units, rfl, hunits⟩, ?_⟩
    have hlength : (rest.take (word16 b₀ b₁).toNat).length = (word16 b₀ b₁).toNat := by
      rw [List.length_take]
      omega
    rw [hx, starts, hlength, List.append_assoc, List.singleton_append, Nat.add_assoc]
  · right
    refine ⟨?_, hx⟩
    intro units hunits
    obtain ⟨_, later, _, hlater⟩ := isFraming_cons_iff.mp hunits
    exact hnone later hlater

theorem parseStapAStartOffsets_findsFraming (hp : p.Holds payload)
    (fuel naluPtr lengthRemaining offset : Nat) (offsets : List Nat)
    (hrest : (payload.drop naluPtr).length = lengthRemaining)
    (hptr : naluPtr = offset + kNalHeaderSize) (hfuel : lengthRemaining ≤ fuel) :
    FindsFraming (payload.drop naluPtr) naluPtr offsets
      (parseStapAStartOffsets p fuel naluPtr lengthRemaining offset offsets) := by
  -- The fuel bounds the bytes left, and each turn takes at least a length field off them.
  induction fuel generalizing naluPtr lengthRemaining offset offsets with
  | zero =>
      have hnil : payload.drop naluPtr = [] := List.eq_nil_of_length_eq_zero (by omega)
      have hzero : lengthRemaining = 0 := by omega
      rw [hnil, hzero]
      exact .nil naluPtr offsets
  | succ fuel ih =>
      match hd : payload.drop naluPtr with
      | [] =>
          have hzero : lengthRemaining = 0 := by rw [← hrest, hd]; rfl
          rw [hzero]
          exact .nil naluPtr offsets
      | [b] =>
          have hone : lengthRemaining = 1 := by rw [← hrest, hd]; rfl
          rw [hone]
          exact .inr ⟨fun units => not_isFraming_singleton b, offsets, rfl⟩
      | b₀ :: b₁ :: rest =>
          have htwo : lengthRemaining = rest.length + 2 := by rw [← hrest, hd]; rfl
          rw [htwo, parseStapAStartOffsets_turn hp fuel offset offsets hd]
          by_cases hlong : rest.length < (word16 b₀ b₁).toNat
          · rw [if_pos hlong]
            refine .inr ⟨?_, offsets, rfl⟩
            intro units h
            have hle := (isFraming_cons_iff.mp h).1
            omega
          · rw [if_neg hlong]
            apply FindsFraming.unit (Nat.not_lt.mp hlong)
            have hnext : payload.drop (naluPtr + 2 + (word16 b₀ b₁).toNat) =
                rest.drop (word16 b₀ b₁).toNat := by
              rw [← List.drop_drop, drop_succ_of_drop (drop_succ_of_drop hd)]
            have hstart : offset + kStapAHeaderSize = naluPtr + 2 := by
              rw [hptr, kStapAHeaderSize, kLengthFieldSize]
              omega
            rw [← hnext, hstart]
            apply ih
            · rw [hnext, List.length_drop]
            · rw [hptr, kLengthFieldSize]
              omega
            · omega

theorem checkNalus_turn (hp : p.Holds payload) {startOffset nextOffset : Nat} (offsets : List Nat)
    {unit rest : Bytes} (hd : payload.drop startOffset = unit ++ rest)
    (hnext : nextOffset = startOffset + unit.length + 2) :
    checkNalus p (startOffset :: nextOffset :: offsets) =
      if PlainUnit unit then checkNalus p (nextOffset :: offsets) else .ok false := by
  have hend : sub nextOffset kLengthFieldSize = .ok (startOffset + unit.length) := by
    rw [hnext, kLengthFieldSize, sub_of_le (by omega), Nat.add_sub_cancel]
  have hlength : sub (startOffset + unit.length) startOffset = .ok unit.length := by
    rw [sub_of_le (by omega), Nat.add_sub_cancel_left]
  rw [checkNalus, hend, ok_bind, hlength, ok_bind, kNaluTypeSize]
  cases unit with
  | nil =>
      have hplain : ¬ PlainUnit [] := fun h => absurd h.nonempty (by decide)
      rw [if_neg hplain]
      rfl
  | cons b unit =>
      have hread : p.payloadAt startOffset = .ok b := by
        rw [hp.payloadAt_eq, byteAt_of_drop hd]
      have hplain : PlainUnit (b :: unit) ↔ ¬ refused (b &&& kTypeMask) = true := by
        rw [plainUnit_iff, refused_iff, not_or]
        exact and_iff_right (Nat.le_add_left 1 unit.length)
      rw [if_neg (by simp), hread, ok_bind]
      by_cases hrefused : refused (b &&& kTypeMask) = true
      · rw [if_pos hrefused, if_neg (fun h => hplain.mp h hrefused)]
        rfl
      · rw [if_neg hrefused, if_pos (hplain.mpr hrefused)]

theorem checkNalus_starts (hp : p.Holds payload) {offset : Nat} {units : List Bytes}
    (hle : offset ≤ payload.length) (h : payload.drop offset = units.flatMap frame) :
    checkNalus p (starts offset units ++ [payload.length + 2]) =
      .ok (decide (∀ u ∈ units, PlainUnit u)) := by
  induction units generalizing offset with
  | nil => rfl
  | cons u units ih =>
      rw [List.flatMap_cons] at h
      have hle' := offset_le_of_drop h
      have hrest := drop_frame h
      obtain ⟨later, hlater⟩ := starts_end hle' hrest
      have ih' := ih hle' hrest
      rw [hlater] at ih'
      rw [starts, List.cons_append, hlater,
        checkNalus_turn hp later (drop_unit h) (by omega), ih']
      by_cases hu : PlainUnit u
      · rw [if_pos hu]
        simp [hu]
      · rw [if_neg hu]
        simp [hu]

/-! ## The payloads that are not fragments -/

theorem payloadAt_zero {b : UInt8} {tail : Bytes} (hp : p.Holds (b :: tail)) :
    p.payloadAt 0 = .ok b := by
  rw [hp.payloadAt_eq]
  rfl

theorem payloadSize_cons {b : UInt8} {tail : Bytes} (hp : p.Holds (b :: tail)) :
    p.payloadSize = tail.length + 1 := hp.length.symm

theorem parse_eq_process {b : UInt8} {tail : Bytes} (hp : p.Holds (b :: tail))
    (hfua : b &&& kTypeMask ≠ NaluType.fuA.code) : parse p = processStapAOrSingleNalu p := by
  have hsize := payloadSize_cons hp
  rw [parse, if_neg (by omega), payloadAt_zero hp, ok_bind, if_neg hfua]

theorem parse_of_no_offsets {b : UInt8} {tail : Bytes} (hp : p.Holds (b :: tail))
    (hfua : b &&& kTypeMask ≠ NaluType.fuA.code)
    (hoffsets : naluStartOffsets p (b &&& kTypeMask) tail.length = .ok none) :
    parse p = .ok none := by
  have hlength : sub p.payloadSize kNalHeaderSize = .ok tail.length := by
    rw [payloadSize_cons hp, kNalHeaderSize, sub_of_le (by omega), Nat.add_sub_cancel]
  rw [parse_eq_process hp hfua, processStapAOrSingleNalu, hlength, ok_bind, payloadAt_zero hp,
    ok_bind, hoffsets, ok_bind]
  rfl

theorem parse_of_offsets {b : UInt8} {tail : Bytes} (hp : p.Holds (b :: tail))
    (hfua : b &&& kTypeMask ≠ NaluType.fuA.code) {offsets : List Nat} {plain : Bool}
    (hoffsets : naluStartOffsets p (b &&& kTypeMask) tail.length = .ok (some offsets))
    (hcheck : checkNalus p (offsets ++ [(b :: tail).length + 2]) = .ok plain) :
    parse p = .ok (if plain then some deltaPayload else none) := by
  have hsize := payloadSize_cons hp
  have hlength : sub p.payloadSize kNalHeaderSize = .ok tail.length := by
    rw [hsize, kNalHeaderSize, sub_of_le (by omega), Nat.add_sub_cancel]
  have hcheck' : checkNalus p (offsets ++ [p.payloadSize + kLengthFieldSize]) = .ok plain := by
    rw [hsize]
    exact hcheck
  rw [parse_eq_process hp hfua, processStapAOrSingleNalu, hlength, ok_bind, payloadAt_zero hp,
    ok_bind, hoffsets, ok_bind]
  simp only [hcheck', ok_bind]
  cases plain with
  | false => rfl
  | true => rfl

/-- The end offset behind a single unit is that of its payload. -/
theorem parse_single (hp : p.Holds payload) (hplain : PlainUnit payload) :
    parse p = .ok (some deltaPayload) := by
  cases payload with
  | nil => exact absurd hplain.nonempty (by decide)
  | cons b tail =>
      have hoffsets : naluStartOffsets p (b &&& kTypeMask) tail.length = .ok (some [0]) := by
        have hstapA : b &&& kTypeMask ≠ NaluType.stapA.code := hplain.notStapA
        rw [naluStartOffsets, if_neg hstapA]
        rfl
      have hcheck : checkNalus p [0, (b :: tail).length + 2] = .ok true := by
        have hd : (b :: tail).drop 0 = (b :: tail) ++ [] := by rw [List.append_nil, List.drop_zero]
        rw [checkNalus_turn hp [] hd (by omega), if_pos hplain]
        rfl
      exact parse_of_offsets hp hplain.notFuA hoffsets hcheck

theorem ne_fuA_of_stapA {b : UInt8} (htype : b &&& kTypeMask = NaluType.stapA.code) :
    b &&& kTypeMask ≠ NaluType.fuA.code := by
  rw [htype]
  decide

section

variable {b : UInt8} {tail : Bytes} (hp : p.Holds (b :: tail))
  (htype : b &&& kTypeMask = NaluType.stapA.code)

include hp htype

theorem parse_stapA_short (hshort : p.payloadSize ≤ kStapAHeaderSize) : parse p = .ok none := by
  apply parse_of_no_offsets hp (ne_fuA_of_stapA htype)
  rw [naluStartOffsets, if_pos htype, if_pos hshort]
  rfl

variable (hlong : ¬ p.payloadSize ≤ kStapAHeaderSize)

include hlong

theorem parse_stapA_framing {units : List Bytes} (hunits : IsFraming units tail)
    (hloop : parseStapAStartOffsets p tail.length kNalHeaderSize tail.length 0 [] =
      .ok (true, starts kNalHeaderSize units)) :
    parse p = .ok (if ∀ u ∈ units, PlainUnit u then some deltaPayload else none) := by
  have hread : p.payloadAt kStapAHeaderSize = .ok ((b :: tail).getD kStapAHeaderSize 0) := by
    rw [hp.payloadAt_eq]
    apply byteAt_of_lt
    rw [hp.length]
    omega
  have hoffsets : naluStartOffsets p (b &&& kTypeMask) tail.length =
      .ok (some (starts kNalHeaderSize units)) := by
    rw [naluStartOffsets, if_pos htype, if_neg hlong, hloop, ok_bind]
    simp only [Bool.not_true, Bool.false_eq_true, if_false, hread, ok_bind, pure_eq_ok]
  have hle : kNalHeaderSize ≤ (b :: tail).length := Nat.le_add_left 1 tail.length
  have hcheck := checkNalus_starts hp hle hunits.bytes
  rw [parse_of_offsets hp (ne_fuA_of_stapA htype) hoffsets hcheck]
  simp only [decide_eq_true_eq]

theorem parse_stapA_no_framing {offsets : List Nat}
    (hloop : parseStapAStartOffsets p tail.length kNalHeaderSize tail.length 0 [] =
      .ok (false, offsets)) : parse p = .ok none := by
  apply parse_of_no_offsets hp (ne_fuA_of_stapA htype)
  rw [naluStartOffsets, if_pos htype, if_neg hlong, hloop]
  rfl

end

/-- An aggregation payload is accepted if its bytes are units behind their
lengths, and refused otherwise. -/
theorem parse_stapA_cases (hp : p.Holds payload) (htype : nalType payload = 24) :
    ((∃ units, Aggregates units payload.tail) ∧ parse p = .ok (some deltaPayload)) ∨
    ((∀ units, ¬ Aggregates units payload.tail) ∧ parse p = .ok none) := by
  cases payload with
  | nil => exact absurd htype (by decide)
  | cons b tail =>
      have hsize := payloadSize_cons hp
      have hheader : kStapAHeaderSize = 3 := rfl
      by_cases hshort : p.payloadSize ≤ kStapAHeaderSize
      · right
        refine ⟨?_, parse_stapA_short hp htype hshort⟩
        intro units h
        have hlen : 3 ≤ tail.length := h.length_le
        omega
      · rcases parseStapAStartOffsets_findsFraming hp tail.length kNalHeaderSize tail.length 0 []
          rfl rfl (Nat.le_refl _) with ⟨units, hunits, hloop⟩ | ⟨hnone, offsets, hloop⟩
        · rw [parse_stapA_framing hp htype hshort hunits hloop]
          by_cases hplain : ∀ u ∈ units, PlainUnit u
          · left
            rw [if_pos hplain]
            refine ⟨⟨units, hunits, ?_, hplain⟩, rfl⟩
            rintro rfl
            have hlen : tail.length = 0 := congrArg List.length hunits.bytes
            omega
          · right
            rw [if_neg hplain]
            refine ⟨?_, rfl⟩
            intro units' h
            have hsame : units' = units := h.toIsFraming.unique hunits
            exact hplain (hsame ▸ h.plain)
        · right
          refine ⟨?_, parse_stapA_no_framing hp htype hshort hloop⟩
          intro units h
          exact hnone units h.toIsFraming

/-- `Parse` accepts exactly the aggregations of plain units. A payload has its
units in one way, and the collected offsets with the end offset delimit them. -/
theorem stap_a_exact (hp : p.Holds payload) (htype : nalType payload = 24) :
    (∃ result, parse p = .ok result ∧
      (result.isSome = true ↔ ∃ units, Aggregates units payload.tail)) ∧
    (∀ units units', Aggregates units payload.tail → Aggregates units' payload.tail →
      units = units') ∧
    ∀ units, Aggregates units payload.tail → ∃ offsets,
      parseStapAStartOffsets p (payload.length - 1) kNalHeaderSize (payload.length - 1) 0 [] =
        .ok (true, offsets) ∧
      cut payload (offsets ++ [payload.length + kLengthFieldSize]) = units := by
  refine ⟨?_, ?_, ?_⟩
  · rcases parse_stapA_cases hp htype with ⟨hunits, hparse⟩ | ⟨hnone, hparse⟩
    · exact ⟨_, hparse, fun _ => hunits, fun _ => rfl⟩
    · refine ⟨none, hparse, ?_, fun ⟨units, hunits⟩ => absurd hunits (hnone units)⟩
      intro h
      cases h
  · intro units units' h h'
    exact h.toIsFraming.unique h'.toIsFraming
  · intro units h
    have htail : payload.drop kNalHeaderSize = payload.tail := List.drop_one
    have hle : kNalHeaderSize ≤ payload.length := by
      have hlen := h.length_le
      rw [List.length_tail] at hlen
      rw [kNalHeaderSize]
      omega
    rcases parseStapAStartOffsets_findsFraming hp (payload.length - 1) kNalHeaderSize
      (payload.length - 1) 0 [] List.length_drop rfl (Nat.le_refl _) with
      ⟨units', hunits', hloop⟩ | ⟨hnone, _⟩
    · rw [htail] at hunits'
      have hsame : units' = units := hunits'.unique h.toIsFraming
      refine ⟨_, hloop, ?_⟩
      rw [hsame]
      exact cut_starts hle (htail.trans h.bytes)
    · rw [htail] at hnone
      exact absurd h.toIsFraming (hnone units)

/-- An SPS of two bytes and an IDR slice of two bytes. -/
def stapAPayload : Bytes := [0x78, 0, 2, 0x67, 0x42, 0, 2, 0x65, 0x88]

theorem stap_a_exact_stapAPayload :
    nalType stapAPayload = 24 ∧ ∃ units, Aggregates units stapAPayload.tail := by
  have htype : nalType stapAPayload = 24 := by decide
  obtain ⟨⟨result, hparse, hiff⟩, _⟩ := stap_a_exact (RtpPacket.carrying_holds stapAPayload) htype
  cases hparse
  exact ⟨htype, hiff.mp rfl⟩

end VideoRtpDepacketizerH264

end EasyWebRtc.Rtp
