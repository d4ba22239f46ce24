import Mathlib.Tactic.IntervalCases
import EasyWebRtc.Rtp.StapA

/-!
# Fragmented NAL units

The sender's side of FU-A for one unit: its body is cut into fragments, and
the header byte is taken apart into the bits of two bytes. The depacketizer puts
it together on the first fragment, and what it describes over all fragments is
the unit.
-/

namespace EasyWebRtc.Rtp

open Octets Guarded H264

/-! ## Fragments -/

/-- The payload of one fragment: indicator, FU header, fragment. -/
def fuaPayload (header : UInt8) (first last : Bool) (fragment : Bytes) : Bytes :=
  ((header &&& 0xE0) ||| 28) ::
    ((if first then 0x80 else 0) ||| (if last then 0x40 else 0) ||| (header &&& 0x1F)) :: fragment

/-- The payloads of consecutive fragments of a unit. The S bit is on the first of
them if the unit begins there, the E bit on the last. -/
def fuaPayloads (header : UInt8) : Bool → List Bytes → List Bytes
  | _, [] => []
  | first, fragment :: fragments =>
      fuaPayload header first fragments.isEmpty fragment :: fuaPayloads header false fragments

/-! ## Descriptions -/

/-- The bytes that a result describes: the header, then a range of the payload of
the packet it refers to. -/
def ParsedRtpPayload.described (parsed : ParsedRtpPayload) : Option Bytes :=
  parsed.packet.map fun p =>
    parsed.playloadHeader ++
      (p.payloadBytes.drop parsed.parsedPlayloadOffset).take parsed.playloadSize

def reassembled : List ParsedRtpPayload → Option Bytes
  | [] => some []
  | parsed :: results => do
      let described ← parsed.described
      let later ← reassembled results
      return described ++ later

def fuaResult (header : UInt8) (first : Bool) (p : RtpPacket) : ParsedRtpPayload where
  packet := some p
  videoHeader := {
    isFirstPacketInFrame := first
    frameType := if header &&& 0x1F = 5 then .videoFrameKey else .videoFrameDelta }
  parsedPlayloadOffset := 2
  playloadSize := p.payloadSize - 2
  hasPlayloadHeader := first
  playloadHeader := if first then [header] else []

namespace VideoRtpDepacketizerH264

/-! ## One fragment -/

theorem byte_eq_of_bits {a b : UInt8}
    (h : ∀ i, i < 8 → a.toBitVec.getLsbD i = b.toBitVec.getLsbD i) : a = b :=
  UInt8.toBitVec_inj.mp (BitVec.eq_of_getLsbD_eq h)

theorem fnri_or_type (indicator header : UInt8) :
    ((indicator &&& 0xE0) ||| (header &&& 0x1F)) &&& 0x1F = header &&& 0x1F := by
  apply byte_eq_of_bits
  intro i hi
  interval_cases i <;> simp

section

variable (header : UInt8) (first last : Bool)

theorem indicator_type : ((header &&& 0xE0) ||| 28) &&& kTypeMask = NaluType.fuA.code := by
  apply byte_eq_of_bits
  intro i hi
  interval_cases i <;> simp [kTypeMask, NaluType.code]

/-- The header byte from the bits of indicator and FU header. -/
theorem rebuilt_header :
    (((header &&& 0xE0) ||| 28) &&& 0xE0) |||
      (((if first then 0x80 else 0) ||| (if last then 0x40 else 0) ||| (header &&& 0x1F)) &&& 0x1F) =
      header := by
  apply byte_eq_of_bits
  intro i hi
  cases first <;> cases last <;> interval_cases i <;> simp

theorem fuHeader_sBit :
    ((if first then 0x80 else 0) ||| (if last then 0x40 else 0) ||| (header &&& 0x1F)) &&& kSBit =
      if first then 0x80 else 0 := by
  apply byte_eq_of_bits
  intro i hi
  cases first <;> cases last <;> interval_cases i <;> simp [kSBit]

variable {header first last} {p : RtpPacket} {fragment : Bytes}

theorem parse_fuA {indicator fuHeader : UInt8} {rest : Bytes}
    (hp : p.Holds (indicator :: fuHeader :: rest))
    (htype : indicator &&& kTypeMask = NaluType.fuA.code) :
    parse p = .ok (some (fuaResult ((indicator &&& 0xE0) ||| (fuHeader &&& 0x1F))
      (decide (0 < fuHeader &&& kSBit)) p)) := by
  have hsize : p.payloadSize = rest.length + 2 := hp.length.symm
  have hindicator : p.payloadAt 0 = .ok indicator := by
    rw [hp.payloadAt_eq]
    rfl
  have hheader : p.payloadAt 1 = .ok fuHeader := by
    rw [hp.payloadAt_eq]
    rfl
  have hlong : ¬ p.payloadSize < kFuAHeaderSize := by
    rw [kFuAHeaderSize]
    omega
  have hrest : sub p.payloadSize kFuAHeaderSize = .ok (p.payloadSize - 2) :=
    sub_of_le (Nat.not_lt.mp hlong)
  rw [parse, if_neg (by omega), hindicator, ok_bind, if_pos htype, parseFuaNalu, if_neg hlong,
    hindicator, ok_bind, hheader, ok_bind, hrest, ok_bind, fuaResult, fnri_or_type]
  rfl

theorem parse_fuA_short {indicator : UInt8} (hp : p.Holds [indicator])
    (htype : indicator &&& kTypeMask = NaluType.fuA.code) : parse p = .ok none := by
  have hone : p.payloadSize = 1 := hp.length.symm
  have hshort : p.payloadSize < kFuAHeaderSize := by
    rw [hone, kFuAHeaderSize]
    omega
  rw [parse, if_neg (by omega), payloadAt_zero hp, ok_bind, if_pos htype, parseFuaNalu,
    if_pos hshort]
  rfl

theorem parse_fragment (hp : p.Holds (fuaPayload header first last fragment)) :
    parse p = .ok (some (fuaResult header first p)) := by
  have hfirst : decide (0 < (if first then (0x80 : UInt8) else 0)) = first := by
    cases first with
    | false => rfl
    | true => rfl
  rw [parse_fuA hp (indicator_type header), rebuilt_header, fuHeader_sBit, hfirst]

theorem described_fragment (hp : p.Holds (fuaPayload header first last fragment)) :
    (fuaResult header first p).described = some ((if first then [header] else []) ++ fragment) := by
  have hsize : p.payloadSize - 2 = fragment.length := by
    rw [← hp.length]
    rfl
  have hdrop : p.payloadBytes.drop 2 = fragment := by
    rw [hp.bytes]
    rfl
  simp only [ParsedRtpPayload.described, fuaResult, Option.map_some, hsize, hdrop, List.take_length]

end

/-! ## All fragments of a unit -/

section

variable {header : UInt8} {packets : List RtpPacket} {fragments : List Bytes}

theorem parse_later_fragments
    (hp : List.Forall₂ RtpPacket.Holds packets (fuaPayloads header false fragments)) :
    packets.mapM parse = .ok (packets.map fun p => some (fuaResult header false p)) ∧
      packets.length = fragments.length ∧
      reassembled (packets.map (fuaResult header false)) = some fragments.flatten := by
  induction fragments generalizing packets with
  | nil =>
      cases hp
      exact ⟨rfl, rfl, rfl⟩
  | cons fragment fragments ih =>
      cases hp with
      | cons hfirst hlater =>
          obtain ⟨hparse, hlength, hbytes⟩ := ih hlater
          refine ⟨?_, ?_, ?_⟩
          · rw [List.mapM_cons, parse_fragment hfirst, ok_bind, hparse]
            rfl
          · rw [List.length_cons, List.length_cons, hlength]
          · rw [List.map_cons, reassembled, described_fragment hfirst, hbytes]
            rfl

theorem parse_fragments (hne : fragments ≠ [])
    (hp : List.Forall₂ RtpPacket.Holds packets (fuaPayloads header true fragments)) :
    ∃ results, packets.mapM parse = .ok (results.map some) ∧
      results.map (·.packet) = packets.map some ∧
      reassembled results = some (header :: fragments.flatten) ∧
      results.map (·.videoHeader.isFirstPacketInFrame) =
        true :: List.replicate (fragments.length - 1) false ∧
      ∀ r ∈ results, r.videoHeader.frameType =
        if header &&& 0x1F = 5 then .videoFrameKey else .videoFrameDelta := by
  cases fragments with
  | nil => exact absurd rfl hne
  | cons fragment fragments =>
      cases hp with
      | @cons p _ packets _ hfirst hlater =>
          obtain ⟨hparse, hlength, hbytes⟩ := parse_later_fragments hlater
          refine ⟨fuaResult header true p :: packets.map (fuaResult header false), ?_, ?_, ?_, ?_, ?_⟩
          · rw [List.mapM_cons, parse_fragment hfirst, ok_bind, hparse, List.map_cons, List.map_map]
            rfl
          · rw [List.map_cons, List.map_map, List.map_cons]
            rfl
          · rw [reassembled, described_fragment hfirst, hbytes]
            rfl
          · rw [List.map_cons, List.map_map, List.length_cons, Nat.add_sub_cancel, ← hlength,
              ← List.map_const']
            rfl
          · intro r hr
            rcases List.mem_cons.mp hr with rfl | hr
            · rfl
            · obtain ⟨q, _, rfl⟩ := List.mem_map.mp hr
              rfl

/-- Every way of cutting the body of a unit: each fragment gets a result, the
descriptions in their order are the unit, and only the first fragment is marked
as first. -/
theorem fu_a_reassembles (header : UInt8) (body : Bytes) {fragments : List Bytes}
    (hcut : fragments.flatten = body) (hne : fragments ≠ []) {packets : List RtpPacket}
    (hp : List.Forall₂ RtpPacket.Holds packets (fuaPayloads header true fragments)) :
    ∃ results, packets.mapM parse = .ok (results.map some) ∧
      results.map (·.packet) = packets.map some ∧
      reassembled results = some (header :: body) ∧
      results.map (·.videoHeader.isFirstPacketInFrame) =
        true :: List.replicate (fragments.length - 1) false := by
  obtain ⟨results, hparse, hpackets, hbytes, hflags, _⟩ := parse_fragments hne hp
  rw [hcut] at hbytes
  exact ⟨results, hparse, hpackets, hbytes, hflags⟩

end

/-- An IDR slice in three fragments, one of them empty. -/
theorem fu_a_reassembles_idr :
    ∃ results, ([[0x7C, 0x85, 1], [0x7C, 0x05], [0x7C, 0x45, 2, 3]].map RtpPacket.carrying).mapM parse =
        .ok (results.map some) ∧
      reassembled results = some [0x65, 1, 2, 3] := by
  have hp : List.Forall₂ RtpPacket.Holds
      ([[0x7C, 0x85, 1], [0x7C, 0x05], [0x7C, 0x45, 2, 3]].map RtpPacket.carrying)
      (fuaPayloads 0x65 true [[1], [], [2, 3]]) :=
    .cons (RtpPacket.carrying_holds _) (.cons (RtpPacket.carrying_holds _)
      (.cons (RtpPacket.carrying_holds _) .nil))
  obtain ⟨results, hparse, _, hbytes, _⟩ :=
    fu_a_reassembles 0x65 [1, 2, 3] (by decide) (by decide) hp
  exact ⟨results, hparse, hbytes⟩

end VideoRtpDepacketizerH264

end EasyWebRtc.Rtp
