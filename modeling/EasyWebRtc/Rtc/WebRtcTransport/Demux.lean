import EasyWebRtc.Rtc.StunPacket.ParseProof
import EasyWebRtc.Rtc.WebRtcTransport.Basic

/-!
# One port for STUN, DTLS, RTCP and RTP

`OnInputDataPacket` asks four tests one after the other. They never read outside
the datagram and no two of them accept the same one: the first two bytes already
say which of them can. So their order does not matter.
-/

namespace EasyWebRtc.Rtc.WebRtcTransport

open Octets Utils

/-- A test of `OnInputDataPacket` with the kind it stands for. -/
abbrev Test := Branch × (Bytes → Nat → Exec Bool)

/-- The tests in the order of the source. -/
def tests : List Test :=
  [(.stun, StunPacket.isStun), (.dtls, DtlsTransport.isDtls), (.rtcp, Rtp.isRtcpPacket),
    (.rtp, Rtp.isRtpPacket)]

/-- The kind of the first test that accepts the datagram. -/
def classify (data : Bytes) : List Test → Exec Branch
  | [] => return .other
  | (kind, test) :: order => do
      if ← test data data.length then return kind else classify data order

theorem tests_kind_injective {t t' : Test} (ht : t ∈ tests) (ht' : t' ∈ tests) (h : t.1 = t'.1) :
    t = t' := by
  simp only [tests, List.mem_cons, List.not_mem_nil, or_false] at ht ht'
  rcases ht with rfl | rfl | rfl | rfl <;> rcases ht' with rfl | rfl | rfl | rfl <;>
    first | rfl | cases h

theorem tests_kind_ne_other {t : Test} (ht : t ∈ tests) : t.1 ≠ .other := by
  simp only [tests, List.mem_cons, List.not_mem_nil, or_false] at ht
  rcases ht with rfl | rfl | rfl | rfl <;> decide

theorem branch_eq_classify (data : Bytes) : branch data = classify data tests := rfl

/-- The kind that the first two bytes leave possible. -/
def leading (b₀ b₁ : UInt8) : Branch :=
  if b₀ < 3 then .stun
  else if 19 < b₀ ∧ b₀ < 64 then .dtls
  else if b₀ >>> 6 = Rtp.kRtpVersion then
    if Rtp.payloadTypeIsReservedForRtcp (b₁ &&& 0x7F) then .rtcp else .rtp
  else .other

theorem leading_of_version {b₀ : UInt8} (b₁ : UInt8) (h : b₀ >>> 6 = Rtp.kRtpVersion) :
    leading b₀ b₁ =
      if Rtp.payloadTypeIsReservedForRtcp (b₁ &&& 0x7F) then .rtcp else .rtp := by
  have hbig : 128 ≤ b₀.toNat := by
    have hshift := congrArg UInt8.toNat h
    rw [UInt8.toNat_shiftRight, Nat.shiftRight_eq_div_pow] at hshift
    have hversion : b₀.toNat / 64 = 2 := hshift
    omega
  have hstun : ¬ b₀ < 3 := by
    rw [UInt8.lt_iff_toNat_lt]
    exact Nat.not_lt.mpr (Nat.le_trans (by decide) hbig)
  have hdtls : ¬ (19 < b₀ ∧ b₀ < 64) := by
    rw [UInt8.lt_iff_toNat_lt, UInt8.lt_iff_toNat_lt]
    exact fun hd => Nat.not_lt.mpr (Nat.le_trans (by decide) hbig) hd.2
  rw [leading, if_neg hstun, if_neg hdtls, if_pos h]

theorem leading_of_lt_three {b₀ : UInt8} (b₁ : UInt8) (h : b₀ < 3) : leading b₀ b₁ = .stun :=
  if_pos h

theorem leading_of_dtls {b₀ : UInt8} (b₁ : UInt8) (h : 19 < b₀ ∧ b₀ < 64) :
    leading b₀ b₁ = .dtls := by
  have hstun : ¬ b₀ < 3 := by
    have hlow := UInt8.lt_iff_toNat_lt.mp h.1
    rw [UInt8.lt_iff_toNat_lt]
    exact fun hb => absurd (Nat.lt_trans hlow hb) (by decide)
  rw [leading, if_neg hstun, if_pos h]

/-! ## The four tests -/

/-- A test returns, and accepts only what the first two bytes leave possible. -/
def Decides (data : Bytes) (t : Test) : Prop :=
  ∃ accepted, t.2 data data.length = .ok accepted ∧
    (accepted = true → ∃ b₀ b₁, Byte.get1Byte data 0 = .ok b₀ ∧ Byte.get1Byte data 1 = .ok b₁ ∧
      leading b₀ b₁ = t.1)

section

variable (data : Bytes)

theorem decides_isStun : Decides data (.stun, StunPacket.isStun) := by
  obtain ⟨accepted, haccepted⟩ := StunPacket.isStun_total data
  refine ⟨accepted, haccepted, ?_⟩
  rintro rfl
  have hlen := StunPacket.length_of_isStun haccepted
  obtain ⟨b₀, h₀⟩ := StunPacket.exists_get1Byte (show 0 < data.length by omega)
  obtain ⟨b₁, h₁⟩ := StunPacket.exists_get1Byte (show 1 < data.length by omega)
  refine ⟨b₀, b₁, h₀, h₁, leading_of_lt_three b₁ ?_⟩
  simp only [StunPacket.isStun, hlen, if_true, h₀, Exec.ok_bind] at haccepted
  by_contra hb
  rw [if_neg hb] at haccepted
  cases haccepted

theorem decides_isDtls : Decides data (.dtls, DtlsTransport.isDtls) := by
  unfold Decides DtlsTransport.isDtls
  by_cases hlen : 13 ≤ data.length
  · obtain ⟨b₀, h₀⟩ := StunPacket.exists_get1Byte (show 0 < data.length by omega)
    obtain ⟨b₁, h₁⟩ := StunPacket.exists_get1Byte (show 1 < data.length by omega)
    refine ⟨decide (19 < b₀ ∧ b₀ < 64), by simp only [hlen, if_true, h₀]; rfl, ?_⟩
    intro hb
    exact ⟨b₀, b₁, h₀, h₁, leading_of_dtls b₁ (of_decide_eq_true hb)⟩
  · exact ⟨false, by simp only [hlen, if_false]; rfl, nofun⟩

theorem decides_matchesPacket {kind : Branch} {minLen : Nat} {payloadOk : UInt8 → Bool}
    (hmin : 2 ≤ minLen) (hkind : ∀ b₁, payloadOk (b₁ &&& 0x7F) = true →
      (if Rtp.payloadTypeIsReservedForRtcp (b₁ &&& 0x7F) then Branch.rtcp else .rtp) = kind) :
    Decides data (kind, fun packet size => Rtp.matchesPacket packet size minLen payloadOk) := by
  unfold Decides Rtp.matchesPacket Rtp.hasCorrectRtpVersion
  by_cases hlen : minLen ≤ data.length
  · obtain ⟨b₀, h₀⟩ := StunPacket.exists_get1Byte (show 0 < data.length by omega)
    obtain ⟨b₁, h₁⟩ := StunPacket.exists_get1Byte (show 1 < data.length by omega)
    by_cases hversion : b₀ >>> 6 = Rtp.kRtpVersion
    · refine ⟨payloadOk (b₁ &&& 0x7F), by simp [hlen, h₀, h₁, hversion], ?_⟩
      intro hpayload
      exact ⟨b₀, b₁, h₀, h₁, by rw [leading_of_version b₁ hversion, hkind b₁ hpayload]⟩
    · exact ⟨false, by simp [hlen, h₀, hversion], nofun⟩
  · exact ⟨false, by simp [hlen], nofun⟩

theorem decides_tests : ∀ t ∈ tests, Decides data t := by
  intro t ht
  simp only [tests, List.mem_cons, List.not_mem_nil, or_false] at ht
  rcases ht with rfl | rfl | rfl | rfl
  · exact decides_isStun data
  · exact decides_isDtls data
  · exact decides_matchesPacket data (by decide) fun b₁ hb => by rw [if_pos hb]
  · exact decides_matchesPacket data (by decide) fun b₁ hb => by
      rw [if_neg (by simpa using hb)]

theorem Decides.unique {data : Bytes} {t t' : Test} (h : Decides data t) (h' : Decides data t')
    (ht : t.2 data data.length = .ok true) (ht' : t'.2 data data.length = .ok true) :
    t.1 = t'.1 := by
  obtain ⟨accepted, hresult, hlead⟩ := h
  obtain ⟨accepted', hresult', hlead'⟩ := h'
  cases ht.symm.trans hresult
  cases ht'.symm.trans hresult'
  obtain ⟨b₀, b₁, h₀, h₁, hk⟩ := hlead rfl
  obtain ⟨b₀', b₁', h₀', h₁', hk'⟩ := hlead' rfl
  cases h₀.symm.trans h₀'
  cases h₁.symm.trans h₁'
  exact hk.symm.trans hk'

/-! ## Any order -/

theorem classify_of_accepts {data : Bytes} {order : List Test} (hall : ∀ t ∈ order, Decides data t)
    {t : Test} (ht : t ∈ order) (haccepts : t.2 data data.length = .ok true) :
    classify data order = .ok t.1 := by
  induction order with
  | nil => cases ht
  | cons first order ih =>
      obtain ⟨accepted, hresult, -⟩ := hall first List.mem_cons_self
      cases accepted with
      | true =>
          have hsame := (hall first List.mem_cons_self).unique (hall t ht) hresult haccepts
          rw [classify, hresult, ← hsame]
          rfl
      | false =>
          have hrest : t ∈ order := by
            rcases List.mem_cons.mp ht with rfl | hrest
            · rw [hresult] at haccepts
              cases haccepts
            · exact hrest
          rw [classify, hresult]
          exact ih (fun u hu => hall u (List.mem_cons_of_mem first hu)) hrest

theorem classify_of_rejects {data : Bytes} {order : List Test}
    (h : ∀ t ∈ order, t.2 data data.length = .ok false) : classify data order = .ok .other := by
  induction order with
  | nil => rfl
  | cons first order ih =>
      rw [classify, h first List.mem_cons_self]
      exact ih fun t ht => h t (List.mem_cons_of_mem first ht)

theorem accepts_or_rejects {t : Test} (ht : t ∈ tests) :
    t.2 data data.length = .ok true ∨ t.2 data data.length = .ok false := by
  obtain ⟨accepted, hresult, -⟩ := decides_tests data t ht
  cases accepted with
  | true => exact .inl hresult
  | false => exact .inr hresult

theorem exists_kind : ∃ kind, (∀ t ∈ tests, t.2 data data.length = .ok (decide (kind = t.1))) ∧
    ∀ order : List Test, order.Perm tests → classify data order = .ok kind := by
  by_cases hsome : ∃ t ∈ tests, t.2 data data.length = .ok true
  · obtain ⟨t, ht, haccepts⟩ := hsome
    refine ⟨t.1, ?_, ?_⟩
    · intro u hu
      rcases accepts_or_rejects data hu with hu' | hu'
      · rw [hu', decide_eq_true ((decides_tests data t ht).unique (decides_tests data u hu)
          haccepts hu')]
      · have hne : t.1 ≠ u.1 := by
          intro heq
          rw [← tests_kind_injective ht hu heq, haccepts] at hu'
          cases hu'
        rw [hu', decide_eq_false hne]
    · intro order horder
      exact classify_of_accepts (fun u hu => decides_tests data u (horder.mem_iff.mp hu))
        (horder.mem_iff.mpr ht) haccepts
  · have hrejects : ∀ t ∈ tests, t.2 data data.length = .ok false := by
      intro t ht
      exact (accepts_or_rejects data ht).resolve_left fun h => hsome ⟨t, ht, h⟩
    refine ⟨.other, ?_, ?_⟩
    · intro t ht
      rw [hrejects t ht, decide_eq_false (tests_kind_ne_other ht).symm]
    · intro order horder
      exact classify_of_rejects fun t ht => hrejects t (horder.mem_iff.mp ht)

theorem branch_total : ∃ kind, branch data = .ok kind := by
  obtain ⟨kind, -, horder⟩ := exists_kind data
  exact ⟨kind, horder tests (List.Perm.refl tests)⟩

/-- The demultiplexer is a function of the datagram and not of the order of its
tests: all four return on every datagram, each accepts exactly the datagrams of
its kind, and any order of them finds the same kind. -/
theorem demultiplex_any_order (order : List Test) (horder : order.Perm tests) :
    ∃ kind, branch data = .ok kind ∧ classify data order = .ok kind ∧
      ∀ t ∈ tests, t.2 data data.length = .ok (decide (kind = t.1)) := by
  obtain ⟨kind, htests, hall⟩ := exists_kind data
  refine ⟨kind, ?_, hall order horder, htests⟩
  rw [branch_eq_classify]
  exact hall tests (List.Perm.refl tests)

/-- The header of a DTLS record, in the reversed order. -/
theorem demultiplex_any_order_handshake :
    tests.reverse.Perm tests ∧
      ∃ kind, branch [22, 254, 253, 0, 0, 0, 0, 0, 0, 0, 0, 0, 1] = .ok kind ∧
        classify [22, 254, 253, 0, 0, 0, 0, 0, 0, 0, 0, 0, 1] tests.reverse = .ok kind ∧
        ∀ t ∈ tests, t.2 [22, 254, 253, 0, 0, 0, 0, 0, 0, 0, 0, 0, 1] 13 =
          .ok (decide (kind = t.1)) :=
  ⟨tests.reverse_perm, demultiplex_any_order _ tests.reverse tests.reverse_perm⟩

end

end EasyWebRtc.Rtc.WebRtcTransport
