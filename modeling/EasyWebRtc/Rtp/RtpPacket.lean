import EasyWebRtc.Lib.Guarded
import EasyWebRtc.Rtp.RtpUtil

/-!
# RTP packets of `rtp/rtp_packet.h`

`ParseBuffer` writes the fields of its object while it reads, so a failed parse
has changed some of them. Each part of the function returns whether parsing goes
on, and the object as it is then.
-/

namespace EasyWebRtc.Rtp

open Octets Guarded

def kFixedHeaderSize : Nat := 12

/-- The reads of `rtp/byte_io.h` that are used. -/
def ByteReader.readBigEndian16 (data : Bytes) (i : Nat) : Guarded UInt16 := word16At data i

def ByteReader.readBigEndian32 (data : Bytes) (i : Nat) : Guarded UInt32 := word32At data i

/-- The default constructor leaves every field but `buffer` undetermined. -/
structure RtpPacket where
  marker : Bool
  payloadType : UInt8
  paddingSize : UInt8
  sequenceNumber : UInt16
  timestamp : UInt32
  ssrc : UInt32
  payloadOffset : Nat
  payloadSize : Nat
  buffer : Bytes
  deriving DecidableEq, Repr

namespace RtpPacket

def size (p : RtpPacket) : Nat := p.payloadOffset + p.payloadSize + p.paddingSize.toNat

/-- `has_padding()`, which reads the buffer and not a field. -/
def hasPadding (p : RtpPacket) : Guarded Bool := do
  let b₀ ← byteAt p.buffer 0
  return decide (b₀ &&& 0x20 ≠ 0)

/-- What `payload()` points to. -/
def payload (p : RtpPacket) : Bytes := p.buffer.drop p.payloadOffset

/-! ## Parsing -/

/-- Go on with `f` unless parsing has failed. -/
def andThen (x : Guarded (Bool × RtpPacket)) (f : RtpPacket → Guarded (Bool × RtpPacket)) :
    Guarded (Bool × RtpPacket) := do
  let (ok, p) ← x
  if ok then f p else return (false, p)

def parseFixedHeader (p : RtpPacket) (buffer : Bytes) : Guarded RtpPacket := do
  let b₁ ← byteAt buffer 1
  let p := { p with marker := decide (b₁ &&& 0x80 ≠ 0), payloadType := b₁ &&& 0x7F }
  let sequenceNumber ← ByteReader.readBigEndian16 buffer 2
  let timestamp ← ByteReader.readBigEndian32 buffer 4
  let ssrc ← ByteReader.readBigEndian32 buffer 8
  return { p with sequenceNumber, timestamp, ssrc }

def parseCsrcs (p : RtpPacket) (size numberOfCrcs : Nat) : Guarded (Bool × RtpPacket) :=
  if size < kFixedHeaderSize + numberOfCrcs * 4 then return (false, p)
  else return (true, { p with payloadOffset := kFixedHeaderSize + numberOfCrcs * 4 })

/-- The profile is read and compared, to no effect. -/
def parseExtension (p : RtpPacket) (buffer : Bytes) (size : Nat) : Guarded (Bool × RtpPacket) :=
  let extensionOffset := p.payloadOffset + 4
  if size < extensionOffset then return (false, p)
  else do
    let _profile ← ByteReader.readBigEndian16 buffer p.payloadOffset
    let length ← ByteReader.readBigEndian16 buffer (p.payloadOffset + 2)
    let extensionsCapacity := length.toNat * 4
    if size < extensionOffset + extensionsCapacity then return (false, p)
    else return (true, { p with payloadOffset := extensionOffset + extensionsCapacity })

def parsePadding (p : RtpPacket) (buffer : Bytes) (size : Nat) (hasPadding : Bool) :
    Guarded (Bool × RtpPacket) :=
  if hasPadding ∧ p.payloadOffset < size then do
    let last ← sub size 1
    let paddingSize ← byteAt buffer last
    return (decide (paddingSize ≠ 0), { p with paddingSize })
  else return (true, { p with paddingSize := 0 })

def parsePayload (p : RtpPacket) (size : Nat) : Guarded (Bool × RtpPacket) :=
  if size < p.payloadOffset + p.paddingSize.toNat then return (false, p)
  else do
    let remaining ← sub size p.payloadOffset
    let payloadSize ← sub remaining p.paddingSize.toNat
    return (true, { p with payloadSize })

def parseBuffer (p : RtpPacket) (buffer : Bytes) (size : Nat) : Guarded (Bool × RtpPacket) :=
  if size < kFixedHeaderSize then return (false, p)
  else do
    let b₀ ← byteAt buffer 0
    if b₀ >>> 6 ≠ kRtpVersion then return (false, p)
    else
      let hasPadding := decide (b₀ &&& 0x20 ≠ 0)
      let hasExtension := decide (b₀ &&& 0x10 ≠ 0)
      let numberOfCrcs := b₀ &&& 0x0F
      let p ← parseFixedHeader p buffer
      andThen (parseCsrcs p size numberOfCrcs.toNat) fun p =>
        andThen (if hasExtension then parseExtension p buffer size else return (true, p)) fun p =>
          andThen (parsePadding p buffer size hasPadding) fun p =>
            parsePayload p size

def clear (p : RtpPacket) : RtpPacket :=
  { p with
    marker := false
    payloadType := 0
    sequenceNumber := 0
    timestamp := 0
    ssrc := 0
    payloadOffset := kFixedHeaderSize
    payloadSize := 0
    paddingSize := 0 }

/-- `Parse`. On success control reaches the end of the function without a
`return`: the value `none`. -/
def parse (p : RtpPacket) (buffer : Bytes) (bufferSize : Nat) :
    Guarded (Option Bool × RtpPacket) := do
  let (ok, p) ← parseBuffer p buffer bufferSize
  if !ok then return (some false, p.clear)
  else
    let buffer ← takeBytes buffer bufferSize
    return (none, { p with buffer })

/-! ## Accepted byte strings -/

section

variable (data : Bytes)

def csrcsEnd : Nat := 12 + 4 * (data.getD 0 0 &&& 0x0F).toNat

def HasExtension : Prop := data.getD 0 0 &&& 0x10 ≠ 0

def HasPadding : Prop := data.getD 0 0 &&& 0x20 ≠ 0

instance : Decidable (HasExtension data) := inferInstanceAs (Decidable (_ ≠ _))

instance : Decidable (HasPadding data) := inferInstanceAs (Decidable (_ ≠ _))

/-- The length that the extension header announces, in units of 4 bytes. -/
def extensionLength : Nat :=
  (word16 (data.getD (csrcsEnd data + 2) 0) (data.getD (csrcsEnd data + 3) 0)).toNat

def headersEnd : Nat :=
  if HasExtension data then csrcsEnd data + 4 + 4 * extensionLength data else csrcsEnd data

def lastByte : UInt8 := data.getD (data.length - 1) 0

def paddingLength : UInt8 :=
  if HasPadding data ∧ headersEnd data < data.length then lastByte data else 0

/-- The byte strings that are RTP packets for `ParseBuffer`. -/
structure Accepts : Prop where
  fixedHeader : 12 ≤ data.length
  version : data.getD 0 0 >>> 6 = 2
  csrcs : csrcsEnd data ≤ data.length
  extensionHeader : HasExtension data → csrcsEnd data + 4 ≤ data.length
  extension : HasExtension data → csrcsEnd data + 4 + 4 * extensionLength data ≤ data.length
  padding : HasPadding data → headersEnd data < data.length →
    lastByte data ≠ 0 ∧ (lastByte data).toNat ≤ data.length - headersEnd data

/-- The fields of an accepted packet. -/
structure Describes (p : RtpPacket) : Prop where
  marker : p.marker = decide (data.getD 1 0 &&& 0x80 ≠ 0)
  payloadType : p.payloadType = data.getD 1 0 &&& 0x7F
  sequenceNumber : p.sequenceNumber = word16 (data.getD 2 0) (data.getD 3 0)
  timestamp : p.timestamp =
    word32 (data.getD 4 0) (data.getD 5 0) (data.getD 6 0) (data.getD 7 0)
  ssrc : p.ssrc = word32 (data.getD 8 0) (data.getD 9 0) (data.getD 10 0) (data.getD 11 0)
  headers : p.payloadOffset = headersEnd data
  padding : p.paddingSize = paddingLength data
  partition : p.payloadOffset + p.payloadSize + p.paddingSize.toNat = data.length

end

/-! ## The parts of `ParseBuffer` -/

section

variable {data : Bytes} (p : RtpPacket)

def withFixedHeader (data : Bytes) : RtpPacket :=
  { p with
    marker := decide (data.getD 1 0 &&& 0x80 ≠ 0)
    payloadType := data.getD 1 0 &&& 0x7F
    sequenceNumber := word16 (data.getD 2 0) (data.getD 3 0)
    timestamp := word32 (data.getD 4 0) (data.getD 5 0) (data.getD 6 0) (data.getD 7 0)
    ssrc := word32 (data.getD 8 0) (data.getD 9 0) (data.getD 10 0) (data.getD 11 0) }

theorem parseFixedHeader_eq (h : 12 ≤ data.length) :
    parseFixedHeader p data = .ok (p.withFixedHeader data) := by
  have h₁ : byteAt data 1 = .ok (data.getD 1 0) := byteAt_of_lt (by omega)
  have h₂ := word16At_of_lt (show 2 + 1 < data.length by omega)
  have h₄ := word32At_of_lt (show 4 + 3 < data.length by omega)
  have h₈ := word32At_of_lt (show 8 + 3 < data.length by omega)
  rw [parseFixedHeader, ByteReader.readBigEndian16, ByteReader.readBigEndian32,
    ByteReader.readBigEndian32, h₁, h₂, h₄, h₈]
  rfl

theorem parseCsrcs_eq :
    parseCsrcs p data.length (data.getD 0 0 &&& 0x0F).toNat =
      .ok (if csrcsEnd data ≤ data.length then (true, { p with payloadOffset := csrcsEnd data })
        else (false, p)) := by
  have hend : kFixedHeaderSize + (data.getD 0 0 &&& 0x0F).toNat * 4 = csrcsEnd data := by
    rw [csrcsEnd, kFixedHeaderSize, Nat.mul_comm]
  rw [parseCsrcs, hend]
  by_cases h : csrcsEnd data ≤ data.length
  · rw [if_pos h, if_neg (Nat.not_lt.mpr h)]
    rfl
  · rw [if_neg h, if_pos (Nat.not_le.mp h)]
    rfl

def ExtensionFits (data : Bytes) : Prop :=
  HasExtension data → csrcsEnd data + 4 + 4 * extensionLength data ≤ data.length

instance : Decidable (ExtensionFits data) := inferInstanceAs (Decidable (_ → _))

theorem parseExtension_eq (hoffset : p.payloadOffset = csrcsEnd data) :
    (if decide (HasExtension data) then parseExtension p data data.length
      else return (true, p)) =
      .ok (if ExtensionFits data then (true, { p with payloadOffset := headersEnd data })
        else (false, p)) := by
  by_cases hext : HasExtension data
  · rw [if_pos (decide_eq_true hext), headersEnd, if_pos hext]
    by_cases hheader : data.length < csrcsEnd data + 4
    · have hfits : ¬ ExtensionFits data := fun h => by
        have := h hext
        omega
      rw [parseExtension, hoffset, if_pos hheader, if_neg hfits]
      rfl
    · have hprofile := word16At_of_lt (show csrcsEnd data + 1 < data.length by omega)
      have hlength := word16At_of_lt (show csrcsEnd data + 2 + 1 < data.length by omega)
      have hcapacity : (word16 (data.getD (csrcsEnd data + 2) 0)
          (data.getD (csrcsEnd data + 2 + 1) 0)).toNat * 4 = 4 * extensionLength data := by
        rw [extensionLength, Nat.mul_comm]
      simp only [parseExtension, hoffset, if_neg hheader, ByteReader.readBigEndian16, hprofile,
        hlength, hcapacity, ok_bind, pure_eq_ok]
      by_cases hfits : ExtensionFits data
      · rw [if_pos hfits, if_neg (Nat.not_lt.mpr (hfits hext))]
      · have hlong : data.length < csrcsEnd data + 4 + 4 * extensionLength data := by
          by_contra hle
          exact hfits fun _ => Nat.not_lt.mp hle
        rw [if_neg hfits, if_pos hlong]
  · have hfits : ExtensionFits data := fun h => absurd h hext
    rw [if_neg (by simpa using hext), if_pos hfits, headersEnd, if_neg hext, ← hoffset]
    rfl

def PaddingAnnounced (data : Bytes) : Prop :=
  HasPadding data ∧ headersEnd data < data.length → lastByte data ≠ 0

instance : Decidable (PaddingAnnounced data) := inferInstanceAs (Decidable (_ → _))

theorem parsePadding_eq (hlen : 12 ≤ data.length) (hoffset : p.payloadOffset = headersEnd data) :
    parsePadding p data data.length (decide (HasPadding data)) =
      .ok (if PaddingAnnounced data then (true, { p with paddingSize := paddingLength data })
        else (false, { p with paddingSize := paddingLength data })) := by
  by_cases hpad : HasPadding data ∧ headersEnd data < data.length
  · have hlast : byteAt data (data.length - 1) = .ok (lastByte data) := byteAt_of_lt (by omega)
    have hiff : PaddingAnnounced data ↔ lastByte data ≠ 0 := ⟨fun h => h hpad, fun h _ => h⟩
    have hlength : paddingLength data = lastByte data := if_pos hpad
    rw [parsePadding, hoffset, if_pos ⟨decide_eq_true hpad.1, hpad.2⟩,
      sub_of_le (show 1 ≤ data.length by omega), ok_bind, hlast, hlength]
    by_cases hzero : lastByte data = 0
    · simp [hzero, hiff]
    · simp [hzero, hiff]
  · have hiff : PaddingAnnounced data := fun h => absurd h hpad
    rw [parsePadding, hoffset, if_neg (by simpa using hpad), if_pos hiff, paddingLength,
      if_neg hpad]
    rfl

theorem parsePayload_eq {size : Nat} :
    parsePayload p size =
      .ok (if p.payloadOffset + p.paddingSize.toNat ≤ size then
        (true, { p with payloadSize := size - p.payloadOffset - p.paddingSize.toNat })
        else (false, p)) := by
  by_cases h : p.payloadOffset + p.paddingSize.toNat ≤ size
  · rw [parsePayload, if_neg (Nat.not_lt.mpr h), if_pos h, sub_of_le (by omega), ok_bind,
      sub_of_le (by omega)]
    rfl
  · rw [parsePayload, if_pos (Nat.not_le.mp h), if_neg h]
    rfl

end

/-! ## The whole function -/

theorem accepts_iff (data : Bytes) :
    Accepts data ↔ 12 ≤ data.length ∧ data.getD 0 0 >>> 6 = 2 ∧ csrcsEnd data ≤ data.length ∧
      ExtensionFits data ∧ PaddingAnnounced data ∧
      headersEnd data + (paddingLength data).toNat ≤ data.length := by
  constructor
  · intro h
    have hheaders : headersEnd data ≤ data.length := by
      unfold headersEnd
      split
      next hext => exact h.extension hext
      next => exact h.csrcs
    refine ⟨h.fixedHeader, h.version, h.csrcs, h.extension, fun hpad => (h.padding hpad.1 hpad.2).1,
      ?_⟩
    unfold paddingLength
    split
    next hpad =>
      have hle := (h.padding hpad.1 hpad.2).2
      omega
    next => exact hheaders
  · rintro ⟨hlen, hversion, hcsrcs, hext, hann, hfit⟩
    refine ⟨hlen, hversion, hcsrcs, fun h => ?_, hext, fun hpad hmore => ⟨hann ⟨hpad, hmore⟩, ?_⟩⟩
    · have := hext h
      omega
    · rw [paddingLength, if_pos ⟨hpad, hmore⟩] at hfit
      omega

/-- A part returns: it goes on exactly if `Ok`, then with an object as `Post`
says, and it leaves the buffer alone. -/
def Yields (x : Guarded (Bool × RtpPacket)) (buffer : Bytes) (Ok : Prop)
    (Post : RtpPacket → Prop) : Prop :=
  ∃ ok p', x = .ok (ok, p') ∧ p'.buffer = buffer ∧ (ok = true ↔ Ok) ∧ (ok = true → Post p')

section

variable {buffer : Bytes} {Ok : Prop} {Post : RtpPacket → Prop} {p : RtpPacket}

theorem Yields.reject (hbuffer : p.buffer = buffer) (h : ¬ Ok) :
    Yields (.ok (false, p)) buffer Ok Post := by
  refine ⟨false, p, rfl, hbuffer, ?_, ?_⟩
  · simp [h]
  · intro hfalse
    cases hfalse

theorem Yields.accept (hbuffer : p.buffer = buffer) (h : Ok) (hpost : Post p) :
    Yields (.ok (true, p)) buffer Ok Post := by
  refine ⟨true, p, rfl, hbuffer, ?_, ?_⟩
  · simp [h]
  · intro _
    exact hpost

theorem Yields.andThen {c : Prop} [Decidable c] {x : Guarded (Bool × RtpPacket)}
    {f : RtpPacket → Guarded (Bool × RtpPacket)} {p₀ p₁ : RtpPacket}
    (hx : x = .ok (if c then (true, p₁) else (false, p₀))) (hbuffer : p₀.buffer = buffer)
    (hf : c → Yields (f p₁) buffer Ok Post) : Yields (andThen x f) buffer (c ∧ Ok) Post := by
  rw [hx]
  by_cases hc : c
  · obtain ⟨ok, p', heq, hkeep, hiff, hpost⟩ := hf hc
    rw [if_pos hc]
    refine ⟨ok, p', heq, hkeep, ?_, hpost⟩
    rw [hiff, and_iff_right hc]
  · rw [if_neg hc]
    exact .reject hbuffer fun h => hc h.1

end

theorem parseBuffer_yields (p : RtpPacket) (data : Bytes) :
    Yields (parseBuffer p data data.length) p.buffer (Accepts data) (Describes data) := by
  rw [accepts_iff]
  by_cases hlen : data.length < 12
  · rw [parseBuffer, kFixedHeaderSize, if_pos hlen]
    exact .reject rfl fun h => by omega
  have hbyte : byteAt data 0 = .ok (data.getD 0 0) := byteAt_of_lt (by omega)
  have hlen' : 12 ≤ data.length := Nat.not_lt.mp hlen
  rw [parseBuffer, kFixedHeaderSize, if_neg hlen, hbyte, ok_bind, kRtpVersion]
  by_cases hversion : data.getD 0 0 >>> 6 = 2
  · rw [if_neg (not_not.mpr hversion), and_iff_right hlen', and_iff_right hversion,
      parseFixedHeader_eq p hlen', ok_bind]
    apply Yields.andThen (parseCsrcs_eq _) rfl
    intro _
    apply Yields.andThen (parseExtension_eq _ rfl) rfl
    intro _
    apply Yields.andThen (parsePadding_eq _ hlen' rfl) rfl
    intro _
    rw [parsePayload_eq]
    by_cases hfit : headersEnd data + (paddingLength data).toNat ≤ data.length
    · rw [if_pos hfit]
      refine .accept rfl hfit ⟨rfl, rfl, rfl, rfl, rfl, rfl, rfl, ?_⟩
      show headersEnd data + (data.length - headersEnd data - (paddingLength data).toNat) +
        (paddingLength data).toNat = data.length
      omega
    · rw [if_neg hfit]
      exact .reject rfl hfit
  · rw [if_pos hversion]
    exact .reject rfl fun h => hversion h.2.1

/-- `ParseBuffer` reads inside its string and accepts exactly the byte strings of
`Accepts`. On success the headers, the payload and the padding partition the
string, and the fields are those of the header. -/
theorem parse_buffer_exact (p : RtpPacket) (data : Bytes) :
    ∃ ok p', parseBuffer p data data.length = .ok (ok, p') ∧ (ok = true ↔ Accepts data) ∧
      (ok = true → Describes data p') := by
  obtain ⟨ok, p', heq, _, hiff, hpost⟩ := parseBuffer_yields p data
  exact ⟨ok, p', heq, hiff, hpost⟩

end RtpPacket

end EasyWebRtc.Rtp
