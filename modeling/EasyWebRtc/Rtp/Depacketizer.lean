import EasyWebRtc.Rtp.RtpPacket

/-!
# H.264 depacketizer of `rtp/video_rtp_depacketizer_h264.h`

`payload_data` and `nalu_ptr` are indices into the payload. A read must lie in
the payload, as the packet's fields delimit it, and in the packet's buffer.
-/

namespace EasyWebRtc.Rtp

open Octets Guarded

namespace H264

def kNaluTypeSize : Nat := 1

inductive NaluType where
  | slice
  | idr
  | sei
  | sps
  | pps
  | aud
  | endOfSequence
  | endOfStream
  | filler
  | prefixNalu
  | stapA
  | fuA
  deriving DecidableEq, Repr

def NaluType.code : NaluType → UInt8
  | slice => 1
  | idr => 5
  | sei => 6
  | sps => 7
  | pps => 8
  | aud => 9
  | endOfSequence => 10
  | endOfStream => 11
  | filler => 12
  | prefixNalu => 14
  | stapA => 24
  | fuA => 28

/-- The enumerator of a five-bit type, if it has one. -/
def NaluType.ofCode (c : UInt8) : Option NaluType :=
  [slice, idr, sei, sps, pps, aud, endOfSequence, endOfStream, filler, prefixNalu, stapA,
    fuA].find? fun type => type.code = c

end H264

open H264

def kNalHeaderSize : Nat := 1

def kFuAHeaderSize : Nat := 2

def kLengthFieldSize : Nat := 2

def kStapAHeaderSize : Nat := kNalHeaderSize + kLengthFieldSize

def kFBit : UInt8 := 0x80

def kNriMask : UInt8 := 0x60

def kTypeMask : UInt8 := 0x1F

def kSBit : UInt8 := 0x80

inductive VideoFrameType where
  | emptyFrame
  | videoFrameKey
  | videoFrameDelta
  deriving DecidableEq, Repr

structure RtpVideoHeader where
  isFirstPacketInFrame : Bool := false
  isLastPacketInFrame : Bool := false
  frameType : VideoFrameType := .emptyFrame
  deriving DecidableEq, Repr

/-- `packet` has no initialiser; `none` is the pointer before it is set. -/
structure ParsedRtpPayload where
  packet : Option RtpPacket := none
  videoHeader : RtpVideoHeader := {}
  parsedPlayloadOffset : Nat := 0
  playloadSize : Nat := 0
  hasPlayloadHeader : Bool := false
  playloadHeader : Bytes := []
  deriving DecidableEq, Repr

def RtpPacket.payloadAt (p : RtpPacket) (i : Nat) : Guarded UInt8 :=
  if i < p.payloadSize then byteAt p.buffer (p.payloadOffset + i) else .error .outOfBounds

namespace VideoRtpDepacketizerH264

/-- The loop of `ParseStapAStartOffsets`. -/
def parseStapAStartOffsets (p : RtpPacket) :
    Nat → Nat → Nat → Nat → List Nat → Guarded (Bool × List Nat)
  | 0, _, lengthRemaining, _, offsets =>
      if 0 < lengthRemaining then .error .diverged else return (true, offsets)
  | fuel + 1, naluPtr, lengthRemaining, offset, offsets =>
      if 0 < lengthRemaining then
        if lengthRemaining < 2 then return (false, offsets)
        else do
          let b₀ ← p.payloadAt naluPtr
          let b₁ ← p.payloadAt (naluPtr + 1)
          let naluSize := (word16 b₀ b₁).toNat
          let naluPtr := naluPtr + 2
          let lengthRemaining ← sub lengthRemaining 2
          if lengthRemaining < naluSize then return (false, offsets)
          else
            let naluPtr := naluPtr + naluSize
            let lengthRemaining ← sub lengthRemaining naluSize
            parseStapAStartOffsets p fuel naluPtr lengthRemaining
              (offset + (kLengthFieldSize + naluSize)) (offsets ++ [offset + kStapAHeaderSize])
      else return (true, offsets)

/-- The `switch` over the type of a unit: whether the payload is refused. All
cases but the last two are empty. -/
def refused (type : UInt8) : Bool :=
  match NaluType.ofCode type with
  | some .sps | some .pps => false
  | some .idr => false
  | some .aud | some .endOfSequence | some .endOfStream | some .filler | some .sei => false
  | some .stapA | some .fuA => true
  | some .slice | some .prefixNalu | none => false

/-- The loop over the start offsets. A unit ends two bytes before the next one
starts; aggregated aggregation and fragmentation units are refused. -/
def checkNalus (p : RtpPacket) : List Nat → Guarded Bool
  | startOffset :: nextOffset :: offsets => do
      let endOffset ← sub nextOffset kLengthFieldSize
      let length ← sub endOffset startOffset
      if length < kNaluTypeSize then return false
      else
        let b ← p.payloadAt startOffset
        let type := b &&& kTypeMask
        if refused type then return false
        else checkNalus p (nextOffset :: offsets)
  | _ => return true

def naluStartOffsets (p : RtpPacket) (nalType : UInt8) (naluLength : Nat) :
    Guarded (Option (List Nat)) :=
  if nalType = NaluType.stapA.code then
    if p.payloadSize ≤ kStapAHeaderSize then return none
    else do
      let (ok, offsets) ←
        parseStapAStartOffsets p naluLength kNalHeaderSize naluLength 0 []
      if !ok then return none
      else
        let _nalType ← p.payloadAt kStapAHeaderSize
        return some offsets
  else return some [0]

def processStapAOrSingleNalu (p : RtpPacket) : Guarded (Option ParsedRtpPayload) := do
  let naluLength ← sub p.payloadSize kNalHeaderSize
  let b ← p.payloadAt 0
  match ← naluStartOffsets p (b &&& kTypeMask) naluLength with
  | none => return none
  | some offsets =>
      let parsedPayload : ParsedRtpPayload :=
        { videoHeader := { frameType := .videoFrameDelta } }
      if ← checkNalus p (offsets ++ [p.payloadSize + kLengthFieldSize]) then
        return some parsedPayload
      else return none

def parseFuaNalu (p : RtpPacket) : Guarded (Option ParsedRtpPayload) :=
  if p.payloadSize < kFuAHeaderSize then return none
  else do
    let indicator ← p.payloadAt 0
    let header ← p.payloadAt 1
    let fnri := indicator &&& (kFBit ||| kNriMask)
    let originalNalType := header &&& kTypeMask
    let firstFragment := decide (0 < header &&& kSBit)
    let playloadSize ← sub p.payloadSize kFuAHeaderSize
    return some {
      packet := some p
      videoHeader := {
        isFirstPacketInFrame := firstFragment
        frameType :=
          if originalNalType = NaluType.idr.code then .videoFrameKey else .videoFrameDelta }
      parsedPlayloadOffset := kFuAHeaderSize
      playloadSize
      hasPlayloadHeader := firstFragment
      playloadHeader := if firstFragment then [fnri ||| originalNalType] else [] }

def parse (p : RtpPacket) : Guarded (Option ParsedRtpPayload) :=
  if p.payloadSize = 0 then return none
  else do
    let b ← p.payloadAt 0
    if b &&& kTypeMask = NaluType.fuA.code then parseFuaNalu p
    else processStapAOrSingleNalu p

theorem refused_iff (type : UInt8) : refused type = true ↔ type = 24 ∨ type = 28 := by
  unfold refused NaluType.ofCode
  by_cases h₂₄ : type = 24
  · subst h₂₄
    simp [NaluType.code]
  by_cases h₂₈ : type = 28
  · subst h₂₈
    simp [NaluType.code]
  simp only [h₂₄, h₂₈, or_self, iff_false]
  cases hfind : List.find? (fun nalu : NaluType => decide (nalu.code = type)) _ with
  | none => simp
  | some nalu =>
      have hcode : nalu.code = type := by simpa using List.find?_some hfind
      subst hcode
      cases nalu with
      | stapA => exact absurd rfl h₂₄
      | fuA => exact absurd rfl h₂₈
      | _ => simp

end VideoRtpDepacketizerH264

/-! ## The payload of a packet -/

namespace RtpPacket

def payloadBytes (p : RtpPacket) : Bytes := p.payload.take p.payloadSize

/-- The packet's payload is `payload`, and it lies in the buffer. -/
structure Holds (p : RtpPacket) (payload : Bytes) : Prop where
  bytes : p.payloadBytes = payload
  length : payload.length = p.payloadSize

theorem holds_payloadBytes {p : RtpPacket} (h : p.payloadOffset + p.payloadSize ≤ p.buffer.length) :
    p.Holds p.payloadBytes where
  bytes := rfl
  length := by
    rw [payloadBytes, payload, List.length_take, List.length_drop]
    omega

theorem Holds.payloadAt_eq {p : RtpPacket} {payload : Bytes} (h : p.Holds payload) (i : Nat) :
    p.payloadAt i = byteAt payload i := by
  by_cases hi : i < p.payloadSize
  · have hget : p.buffer[p.payloadOffset + i]? = payload[i]? := by
      rw [← h.bytes, payloadBytes, RtpPacket.payload, List.getElem?_take_of_lt hi,
        List.getElem?_drop]
    rw [payloadAt, if_pos hi, byteAt, byteAt, load, load, hget]
  · have hnone : payload[i]? = none := List.getElem?_eq_none (by rw [h.length]; omega)
    rw [payloadAt, if_neg hi, byteAt, load, hnone]

/-- A packet that carries the payload, without padding. -/
def carrying (payload : Bytes) : RtpPacket where
  marker := false
  payloadType := 96
  paddingSize := 0
  sequenceNumber := 1
  timestamp := 0
  ssrc := 1
  payloadOffset := 12
  payloadSize := payload.length
  buffer := [0x80, 96, 0, 1, 0, 0, 0, 0, 0, 0, 0, 1] ++ payload

theorem carrying_holds (payload : Bytes) : (carrying payload).Holds payload where
  bytes := List.take_length
  length := rfl

end RtpPacket

end EasyWebRtc.Rtp
