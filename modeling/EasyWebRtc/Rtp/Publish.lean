import EasyWebRtc.Rtp.FuA
import EasyWebRtc.Rtp.Reuse

/-!
# The publish example

`RTPChannel::OnRTP` of `example/publish.cc` gives every datagram to a new packet
and the packet to the depacketizer, whether it was accepted or not. A rejected
datagram leaves an empty payload, an accepted one a payload inside the buffer.
-/

namespace EasyWebRtc.Rtp

open Octets Guarded H264

/-- `OnRTP`, with the packet object as its constructor leaves it. -/
def RTPChannel.onRTP (rtpPacket : RtpPacket) (data : Bytes) : Guarded (Option ParsedRtpPayload) := do
  let (_, rtpPacket) ← RtpPacket.parse rtpPacket data data.length
  VideoRtpDepacketizerH264.parse rtpPacket

namespace VideoRtpDepacketizerH264

variable {p : RtpPacket} {payload : Bytes}

theorem parse_total (hp : p.Holds payload) : ∃ result, parse p = .ok result := by
  cases payload with
  | nil => exact ⟨none, if_pos hp.length.symm⟩
  | cons b tail =>
      by_cases hfua : nalType (b :: tail) = 28
      · cases tail with
        | nil => exact ⟨none, parse_fuA_short hp hfua⟩
        | cons c rest => exact ⟨_, parse_fuA hp hfua⟩
      · by_cases hstapA : nalType (b :: tail) = 24
        · rcases parse_stapA_cases hp hstapA with ⟨_, hparse⟩ | ⟨_, hparse⟩
          · exact ⟨_, hparse⟩
          · exact ⟨_, hparse⟩
        · exact ⟨_, parse_single hp ⟨Nat.le_add_left 1 tail.length, hstapA, hfua⟩⟩

theorem parse_fuA_range (hp : p.Holds payload) (htype : nalType payload = 28)
    {parsed : ParsedRtpPayload} (h : parse p = .ok (some parsed)) :
    parsed.packet = some p ∧ parsed.parsedPlayloadOffset + parsed.playloadSize = p.payloadSize := by
  match payload, hp, htype with
  | [], _, htype => exact absurd htype (by decide)
  | [b], hp, htype =>
      rw [parse_fuA_short hp htype] at h
      cases h
  | b :: c :: rest, hp, htype =>
      rw [parse_fuA hp htype] at h
      cases h
      have htwo : p.payloadSize = rest.length + 2 := hp.length.symm
      refine ⟨rfl, ?_⟩
      show 2 + (p.payloadSize - 2) = p.payloadSize
      omega

end VideoRtpDepacketizerH264

/-- For every datagram both parsers return, so that no read leaves the datagram
or the payload, no unsigned subtraction goes below zero and the loops end. The
range of a fragment ends with the payload. -/
theorem publish_pipeline_safe (rtpPacket : RtpPacket) (data : Bytes) :
    ∃ value p result, RtpPacket.parse rtpPacket data data.length = .ok (value, p) ∧
      VideoRtpDepacketizerH264.parse p = .ok result ∧
      RTPChannel.onRTP rtpPacket data = .ok result ∧
      ∀ parsed, result = some parsed → nalType p.payloadBytes = 28 → parsed.packet = some p ∧
        parsed.parsedPlayloadOffset + parsed.playloadSize = p.payloadSize := by
  by_cases h : RtpPacket.Accepts data
  · obtain ⟨p, hparse, hbuffer, hsize⟩ := RtpPacket.parse_of_accepts rtpPacket h
    have hinside : p.payloadOffset + p.payloadSize ≤ p.buffer.length := by
      rw [hbuffer, ← hsize, RtpPacket.size]
      omega
    have hp := RtpPacket.holds_payloadBytes hinside
    obtain ⟨result, hresult⟩ := VideoRtpDepacketizerH264.parse_total hp
    refine ⟨none, p, result, hparse, hresult, ?_, ?_⟩
    · rw [RTPChannel.onRTP, hparse, ok_bind]
      exact hresult
    · rintro parsed rfl htype
      exact VideoRtpDepacketizerH264.parse_fuA_range hp htype hresult
  · have hparse := RtpPacket.parse_of_not_accepts rtpPacket h
    have hresult : VideoRtpDepacketizerH264.parse rtpPacket.clear = .ok none := if_pos rfl
    refine ⟨some false, rtpPacket.clear, none, hparse, hresult, ?_, ?_⟩
    · rw [RTPChannel.onRTP, hparse, ok_bind]
      exact hresult
    · intro parsed hnone
      cases hnone

end EasyWebRtc.Rtp
