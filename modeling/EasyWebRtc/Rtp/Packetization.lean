import EasyWebRtc.Rtp.FuA

/-!
# One unit, two packetizations

A unit sent alone and the same unit sent in fragments do not get the same
description. `ProcessStapAOrSingleNalu` sets neither the packet nor a range, and
its case for IDR slices is empty, where `ParseFuaNalu` reports a key frame.
-/

namespace EasyWebRtc.Rtp.VideoRtpDepacketizerH264

open Octets Guarded

def SameFrameType (single : RtpPacket) (packets : List RtpPacket) : Prop :=
  ∃ (parsed : ParsedRtpPayload) (results : List ParsedRtpPayload),
    parse single = .ok (some parsed) ∧ packets.mapM parse = .ok (results.map some) ∧
    ∀ r ∈ results, r.videoHeader.frameType = parsed.videoHeader.frameType

def SingleDescribes (single : RtpPacket) (unit : Bytes) : Prop :=
  ∃ parsed, parse single = .ok (some parsed) ∧ parsed.described = some unit

def FragmentsDescribe (packets : List RtpPacket) (unit : Bytes) : Prop :=
  ∃ results, packets.mapM parse = .ok (results.map some) ∧ reassembled results = some unit

/-- The description does not show how the unit was sent. -/
structure Independent (unit : Bytes) (single : RtpPacket) (packets : List RtpPacket) : Prop where
  frameType : SameFrameType single packets
  single : SingleDescribes single unit
  fragments : FragmentsDescribe packets unit

/-- An aggregation is a key frame exactly if one of its units is an IDR slice. -/
def KeyExactlyIfIdr (p : RtpPacket) (units : List Bytes) : Prop :=
  ∃ parsed, parse p = .ok (some parsed) ∧
    (parsed.videoHeader.frameType = .videoFrameKey ↔ ∃ u ∈ units, nalType u = 5)

section

variable {header : UInt8} {body : Bytes} {fragments : List Bytes} {single : RtpPacket}
  {packets : List RtpPacket}

/-- The packet pointer of the result is never set. -/
theorem not_singleDescribes {unit : Bytes} (hplain : PlainUnit unit) (hsingle : single.Holds unit) :
    ¬ SingleDescribes single unit := by
  rintro ⟨parsed, hparse, hdescribed⟩
  rw [parse_single hsingle hplain] at hparse
  cases hparse
  cases hdescribed

theorem fragmentsDescribe (hcut : fragments.flatten = body) (hne : fragments ≠ [])
    (hpackets : List.Forall₂ RtpPacket.Holds packets (fuaPayloads header true fragments)) :
    FragmentsDescribe packets (header :: body) := by
  obtain ⟨results, hparse, _, hbytes, _⟩ := parse_fragments hne hpackets
  rw [hcut] at hbytes
  exact ⟨results, hparse, hbytes⟩

theorem sameFrameType_iff (hplain : PlainUnit (header :: body)) (hne : fragments ≠ [])
    (hsingle : single.Holds (header :: body))
    (hpackets : List.Forall₂ RtpPacket.Holds packets (fuaPayloads header true fragments)) :
    SameFrameType single packets ↔ nalType (header :: body) ≠ 5 := by
  obtain ⟨results, hparse, _, _, hflags, htypes⟩ := parse_fragments hne hpackets
  have hdelta := parse_single hsingle hplain
  constructor
  · rintro ⟨parsed, results', hparsed, hparse', hsame⟩ hidr
    have hresults : results' = results := by
      have heq := hparse'.symm.trans hparse
      exact List.map_injective_iff.mpr (Option.some_injective _) (Except.ok.inj heq)
    subst hresults
    rw [hdelta] at hparsed
    cases hparsed
    cases results' with
    | nil => cases hflags
    | cons r results =>
        have hidr' : header &&& 0x1F = 5 := hidr
        have hkey := htypes r List.mem_cons_self
        rw [if_pos hidr', hsame r List.mem_cons_self] at hkey
        cases hkey
  · intro hidr
    refine ⟨deltaPayload, results, hdelta, hparse, ?_⟩
    intro r hr
    have hidr' : ¬ header &&& 0x1F = 5 := hidr
    rw [htypes r hr, if_neg hidr']
    rfl

end

theorem keyExactlyIfIdr_iff {p : RtpPacket} {payload : Bytes} {units : List Bytes}
    (hp : p.Holds payload) (htype : nalType payload = 24) (hunits : Aggregates units payload.tail) :
    KeyExactlyIfIdr p units ↔ ∀ u ∈ units, nalType u ≠ 5 := by
  have hparse : parse p = .ok (some deltaPayload) := by
    rcases parse_stapA_cases hp htype with ⟨_, hparse⟩ | ⟨hnone, _⟩
    · exact hparse
    · exact absurd hunits (hnone units)
  constructor
  · rintro ⟨parsed, hparsed, hkey⟩ u hu hidr
    rw [hparse] at hparsed
    cases hparsed
    have hframe := hkey.mpr ⟨u, hu, hidr⟩
    cases hframe
  · intro hnone
    refine ⟨deltaPayload, hparse, ?_⟩
    constructor
    · intro hframe
      cases hframe
    · rintro ⟨u, hu, hidr⟩
      exact absurd hidr (hnone u hu)

/-- No unit gets one description for both packetizations: alone it is not
described at all. The frame types agree exactly if the unit is no IDR slice. -/
theorem unit_packetization_differs {header : UInt8} {body : Bytes} {fragments : List Bytes}
    {single : RtpPacket} {packets : List RtpPacket} (hplain : PlainUnit (header :: body))
    (hcut : fragments.flatten = body) (hne : fragments ≠ [])
    (hsingle : single.Holds (header :: body))
    (hpackets : List.Forall₂ RtpPacket.Holds packets (fuaPayloads header true fragments)) :
    ¬ Independent (header :: body) single packets ∧ FragmentsDescribe packets (header :: body) ∧
      (SameFrameType single packets ↔ nalType (header :: body) ≠ 5) := by
  refine ⟨?_, ?_, ?_⟩
  · intro hindependent
    exact not_singleDescribes hplain hsingle hindependent.single
  · exact fragmentsDescribe hcut hne hpackets
  · exact sameFrameType_iff hplain hne hsingle hpackets

/-- The description of a packet shows how its unit was sent, and that of an
aggregation is right exactly if none of its units is an IDR slice. -/
theorem packetization_differs (p : RtpPacket) (payload : Bytes) (hp : p.Holds payload) :
    (∀ (header : UInt8) (body : Bytes) (fragments : List Bytes) (packets : List RtpPacket),
      payload = header :: body → PlainUnit payload → fragments.flatten = body → fragments ≠ [] →
      List.Forall₂ RtpPacket.Holds packets (fuaPayloads header true fragments) →
      ¬ Independent payload p packets ∧ FragmentsDescribe packets payload ∧
        (SameFrameType p packets ↔ nalType payload ≠ 5)) ∧
    (∀ units : List Bytes, nalType payload = 24 → Aggregates units payload.tail →
      (KeyExactlyIfIdr p units ↔ ∀ u ∈ units, nalType u ≠ 5)) := by
  constructor
  · rintro header body fragments packets rfl hplain hcut hne hpackets
    exact unit_packetization_differs hplain hcut hne hp hpackets
  · intro units htype hunits
    exact keyExactlyIfIdr_iff hp htype hunits

/-- An IDR slice of two bytes, and the payload of its only fragment. -/
def idrUnit : Bytes := [0x65, 0x88]

def idrFragment : Bytes := [0x7C, 0xC5, 0x88]

theorem idrFragment_holds : List.Forall₂ RtpPacket.Holds [RtpPacket.carrying idrFragment]
    (fuaPayloads 0x65 true [[0x88]]) :=
  .cons (RtpPacket.carrying_holds idrFragment) .nil

theorem stapAPayload_aggregates : Aggregates [[0x67, 0x42], [0x65, 0x88]] stapAPayload.tail where
  bytes := rfl
  short := by decide
  nonempty := by decide
  plain := by decide

theorem packetization_differs_idrUnit :
    PlainUnit idrUnit ∧
    ¬ Independent idrUnit (RtpPacket.carrying idrUnit) [RtpPacket.carrying idrFragment] ∧
    ¬ KeyExactlyIfIdr (RtpPacket.carrying stapAPayload) [[0x67, 0x42], [0x65, 0x88]] := by
  have hplain : PlainUnit idrUnit := by decide
  obtain ⟨hunit, -⟩ := packetization_differs (RtpPacket.carrying idrUnit) idrUnit
    (RtpPacket.carrying_holds idrUnit)
  obtain ⟨-, haggregation⟩ := packetization_differs (RtpPacket.carrying stapAPayload) stapAPayload
    (RtpPacket.carrying_holds stapAPayload)
  refine ⟨hplain, ?_, ?_⟩
  · exact (hunit 0x65 [0x88] [[0x88]] _ rfl hplain rfl (by decide) idrFragment_holds).1
  · rw [haggregation _ (by decide) stapAPayload_aggregates]
    decide

/-- The IDR slice sent alone is a delta frame without a described range, in its
fragment a key frame; aggregated with an SPS it is a delta frame. -/
theorem idrUnit_packetizations :
    ¬ Independent idrUnit (RtpPacket.carrying idrUnit) [RtpPacket.carrying idrFragment] ∧
    ¬ SameFrameType (RtpPacket.carrying idrUnit) [RtpPacket.carrying idrFragment] ∧
    ¬ KeyExactlyIfIdr (RtpPacket.carrying stapAPayload) [[0x67, 0x42], [0x65, 0x88]] := by
  have hplain : PlainUnit idrUnit := by decide
  have hholds := RtpPacket.carrying_holds idrUnit
  refine ⟨?_, ?_, ?_⟩
  · intro h
    exact not_singleDescribes hplain hholds h.single
  · intro h
    have hidr := (sameFrameType_iff hplain (by decide) hholds idrFragment_holds).mp h
    exact hidr rfl
  · rw [keyExactlyIfIdr_iff (RtpPacket.carrying_holds stapAPayload) (by decide)
      stapAPayload_aggregates]
    decide

end EasyWebRtc.Rtp.VideoRtpDepacketizerH264
