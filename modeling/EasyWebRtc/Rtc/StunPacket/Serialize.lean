import EasyWebRtc.Rtc.StunPacket.Basic

/-!
# `StunPacket::Serialize`

The encoder computes the size in one pass and writes the message in a second
one, over a buffer with arbitrary earlier content. Its specification says which
bytes the second pass leaves: a header, one record per attribute that the
packet carries, and the rest of the buffer as it was. The padding of USERNAME
is never written, so it is whatever the buffer held there.
-/

namespace EasyWebRtc.Rtc.StunPacket

open Octets Utils Tlv

/-! ## Model -/

/-- The address that XOR-MAPPED-ADDRESS carries: the flag `addXorMappedAddress`
as the size pass leaves it. An unknown family clears it. -/
def addXorMappedAddress (p : StunPacket) : Option SockAddr :=
  if p.method = Method.binding ∧ p.klass = .successResponse then
    match p.xorMappedAddress with
    | some (.other _) => none
    | address => address
  else none

def addErrorCode (p : StunPacket) : Bool := p.errorCode ≠ 0 ∧ p.klass = .errorResponse

def addMessageIntegrity (p : StunPacket) : Bool := p.klass ≠ .errorResponse ∧ p.password ≠ []

def usernamePaddedLen (p : StunPacket) : UInt16 :=
  if p.username ≠ [] then Byte.padTo4Bytes (UInt16.ofNat p.username.length) else 0

def xorMappedAddressPaddedLen : SockAddr → UInt16
  | .inet _ _ => 8
  | .inet6 _ _ _ => 20
  | .other _ => 0

def xorMappedAddressSize (p : StunPacket) : Nat :=
  match p.addXorMappedAddress with
  | some address => 4 + (xorMappedAddressPaddedLen address).toNat
  | none => 0

/-- The size pass, for a padded username of the given length. -/
def sizeWith (p : StunPacket) (usernameLen : Nat) : Nat :=
  20 + (if p.username ≠ [] then 4 + usernameLen else 0) +
    (if p.priority ≠ 0 then 4 + 4 else 0) +
    (if p.iceControlling ≠ 0 then 4 + 8 else 0) +
    (if p.iceControlled ≠ 0 then 4 + 8 else 0) +
    (if p.hasUseCandidate then 4 else 0) +
    p.xorMappedAddressSize +
    (if p.addErrorCode then 4 + 4 else 0) +
    (if p.addMessageIntegrity then 4 + 20 else 0) +
    (4 + 4)

/-- The size that `Serialize` computes: the username is padded in 16 bits. -/
def requiredSize (p : StunPacket) : Nat := p.sizeWith p.usernamePaddedLen.toNat

def typeField (p : StunPacket) : UInt16 :=
  ((p.method &&& (0x0f80 : UInt16)) <<< (2 : UInt16)) |||
    ((p.method &&& (0x0070 : UInt16)) <<< (1 : UInt16)) |||
    (p.method &&& (0x000f : UInt16)) |||
    ((p.klass.code &&& (0x02 : UInt16)) <<< (7 : UInt16)) |||
    ((p.klass.code &&& (0x01 : UInt16)) <<< (4 : UInt16))

/-- The output buffer and the position of the next attribute. -/
structure Cursor where
  buffer : Bytes
  pos : Nat
  deriving DecidableEq, Repr

def putAttribute (c : Cursor) (attrType : Attribute) (attrLength : UInt16) : Exec Bytes := do
  let buffer ← Byte.set2Bytes c.buffer c.pos attrType.code
  Byte.set2Bytes buffer (c.pos + 2) attrLength

def putUsername (p : StunPacket) (c : Cursor) : Exec Cursor :=
  if p.usernamePaddedLen ≠ 0 then do
    let buffer ← putAttribute c .username (UInt16.ofNat p.username.length)
    let buffer ← Byte.memcpy buffer (c.pos + 4) p.username
    return ⟨buffer, c.pos + (4 + p.usernamePaddedLen.toNat)⟩
  else return c

def putPriority (p : StunPacket) (c : Cursor) : Exec Cursor :=
  if p.priority ≠ 0 then do
    let buffer ← putAttribute c .priority 4
    let buffer ← Byte.set4Bytes buffer (c.pos + 4) p.priority
    return ⟨buffer, c.pos + (4 + 4)⟩
  else return c

def putIceControlling (p : StunPacket) (c : Cursor) : Exec Cursor :=
  if p.iceControlling ≠ 0 then do
    let buffer ← putAttribute c .iceControlling 8
    let buffer ← Byte.set8Bytes buffer (c.pos + 4) p.iceControlling
    return ⟨buffer, c.pos + (4 + 8)⟩
  else return c

def putIceControlled (p : StunPacket) (c : Cursor) : Exec Cursor :=
  if p.iceControlled ≠ 0 then do
    let buffer ← putAttribute c .iceControlled 8
    let buffer ← Byte.set8Bytes buffer (c.pos + 4) p.iceControlled
    return ⟨buffer, c.pos + (4 + 8)⟩
  else return c

def putUseCandidate (p : StunPacket) (c : Cursor) : Exec Cursor :=
  if p.hasUseCandidate then do
    let buffer ← putAttribute c .useCandidate 0
    return ⟨buffer, c.pos + 4⟩
  else return c

/-- The attribute value: a zero byte, the family, and port and address xored
with the magic cookie and, for IPv6, the transaction id. -/
def xorMappedAddressValue (transactionId : TransactionId) : SockAddr → Bytes
  | .inet port addr =>
      [0, 0x01] ++ List.zipWith (· ^^^ ·) (be16 port) magicCookie ++
        List.zipWith (· ^^^ ·) (be32 addr) magicCookie
  | .inet6 port addrHi addrLo =>
      [0, 0x02] ++ List.zipWith (· ^^^ ·) (be16 port) magicCookie ++
        List.zipWith (· ^^^ ·) (be64 addrHi ++ be64 addrLo) (magicCookie ++ transactionId.bytes)
  | .other _ => []

def putXorMappedAddress (p : StunPacket) (c : Cursor) : Exec Cursor :=
  match p.addXorMappedAddress with
  | some address => do
      let buffer ← putAttribute c .xorMappedAddress (xorMappedAddressPaddedLen address)
      let buffer ← Byte.memcpy buffer (c.pos + 4) (xorMappedAddressValue p.transactionId address)
      return ⟨buffer, c.pos + (4 + (xorMappedAddressPaddedLen address).toNat)⟩
  | none => return c

def codeClass (errorCode : UInt16) : UInt8 := (errorCode / 100).toUInt8

/-- The number is computed in 8 bits and wraps. -/
def codeNumber (errorCode : UInt16) : UInt8 := errorCode.toUInt8 - codeClass errorCode * 100

def putErrorCode (p : StunPacket) (c : Cursor) : Exec Cursor :=
  if p.addErrorCode then do
    let buffer ← putAttribute c .errorCode 4
    let buffer ← Byte.set2Bytes buffer (c.pos + 4) 0
    let buffer ← Byte.set1Byte buffer (c.pos + 6) (codeClass p.errorCode)
    let buffer ← Byte.set1Byte buffer (c.pos + 7) (codeNumber p.errorCode)
    return ⟨buffer, c.pos + (4 + 4)⟩
  else return c

/-- MESSAGE-INTEGRITY is computed with the length field ending at it, as if there
were no FINGERPRINT. The second result is the pointer to the value. -/
def putMessageIntegrity (hmac : Crypto.HmacSha1) (p : StunPacket) (size : Nat) (c : Cursor) :
    Exec (Cursor × Option Nat) :=
  if p.addMessageIntegrity then do
    let buffer ← Byte.set2Bytes c.buffer 2 (UInt16.ofNat size - 20 - 8)
    let computed ← Crypto.getHmacShA1 hmac p.password buffer c.pos
    let buffer ← putAttribute ⟨buffer, c.pos⟩ .messageIntegrity 20
    let buffer ← Byte.memcpy buffer (c.pos + 4) computed
    let buffer ← Byte.set2Bytes buffer 2 (UInt16.ofNat size - 20)
    return (⟨buffer, c.pos + (4 + 20)⟩, some (c.pos + 4))
  else return (c, none)

def putFingerprint (c : Cursor) : Exec Cursor := do
  let crc ← Crypto.getCRC32 c.buffer c.pos
  let buffer ← putAttribute c .fingerprint 4
  let buffer ← Byte.set4Bytes buffer (c.pos + 4) (crc ^^^ fingerprintXor)
  return ⟨buffer, c.pos + (4 + 4)⟩

def putHeader (p : StunPacket) (size : Nat) (buffer : Bytes) : Exec Cursor := do
  let buffer ← Byte.set2Bytes buffer 0 p.typeField
  let buffer ← Byte.set2Bytes buffer 2 (UInt16.ofNat size - 20)
  let buffer ← Byte.memcpy buffer 4 magicCookie
  let buffer ← Byte.memcpy buffer 8 p.transactionId.bytes
  return ⟨buffer, 20⟩

/-- The attributes before MESSAGE-INTEGRITY, in the order of the source. -/
def putAttributes (p : StunPacket) (c : Cursor) : Exec Cursor := do
  let c ← p.putUsername c
  let c ← p.putPriority c
  let c ← p.putIceControlling c
  let c ← p.putIceControlled c
  let c ← p.putUseCandidate c
  let c ← p.putXorMappedAddress c
  p.putErrorCode c

/-- `Serialize`: the updated packet and the buffer it was written to. FINGERPRINT
is always added. -/
def serialize (hmac : Crypto.HmacSha1) (p : StunPacket) (buffer : Bytes) :
    Exec (StunPacket × Bytes) := do
  let size := p.requiredSize
  let c ← p.putHeader size buffer
  let c ← p.putAttributes c
  let (c, messageIntegrity) ← p.putMessageIntegrity hmac size c
  let c ← putFingerprint c
  if c.pos = size then
    return ({ p with data := c.buffer, size, messageIntegrity, hasFingerprint := true }, c.buffer)
  else .error (.abort "pos != this->size")

end EasyWebRtc.Rtc.StunPacket
