import EasyWebRtc.Common.Utils

/-!
# RTP and RTCP recognition of `rtp/rtp_util.h`
-/

namespace EasyWebRtc.Rtp

open Octets Utils

def kRtpVersion : UInt8 := 2

def kMinRtpPacketLen : Nat := 12

def kMinRtcpPacketLen : Nat := 4

def hasCorrectRtpVersion (packet : Bytes) : Exec Bool := do
  let b ← Byte.get1Byte packet 0
  return decide (b >>> 6 = kRtpVersion)

def payloadTypeIsReservedForRtcp (payloadType : UInt8) : Bool :=
  decide (64 ≤ payloadType ∧ payloadType < 96)

/-- The common part of the two tests, with the payload type test of the caller. -/
def matchesPacket (packet : Bytes) (size minLen : Nat) (payloadOk : UInt8 → Bool) : Exec Bool := do
  if minLen ≤ size then
    if ← hasCorrectRtpVersion packet then
      let b ← Byte.get1Byte packet 1
      return payloadOk (b &&& 0x7F)
    else return false
  else return false

def isRtpPacket (packet : Bytes) (size : Nat) : Exec Bool :=
  matchesPacket packet size kMinRtpPacketLen fun payloadType =>
    !payloadTypeIsReservedForRtcp payloadType

def isRtcpPacket (packet : Bytes) (size : Nat) : Exec Bool :=
  matchesPacket packet size kMinRtcpPacketLen payloadTypeIsReservedForRtcp

end EasyWebRtc.Rtp
