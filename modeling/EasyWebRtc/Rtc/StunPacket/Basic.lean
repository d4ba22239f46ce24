import EasyWebRtc.Common.Utils

/-!
# STUN packets of `rtc/stun_packet.h`

The data model and the operations of `StunPacket`: recognising, parsing,
checking and creating messages. The attribute loop of `Parse` is one function
for the loop body and one for the loop, with fuel: the source computes the next
position in 16 bits, and beyond 65535 bytes the loop need not end.
-/

namespace EasyWebRtc.Rtc

open Octets Utils

/-! ## Data model -/

inductive Class where
  | request
  | indication
  | successResponse
  | errorResponse
  deriving DecidableEq, Repr

namespace Class

def code : Class → UInt16
  | request => 0
  | indication => 1
  | successResponse => 2
  | errorResponse => 3

/-- The cast of a two-bit class value to the enumeration. -/
def ofCode (c : UInt16) : Class :=
  if c = 0 then request
  else if c = 1 then indication
  else if c = 2 then successResponse
  else errorResponse

end Class

/-- The only method the server knows. Other values of the 16-bit enumeration
come from received messages. -/
def Method.binding : UInt16 := 1

inductive Attribute where
  | mappedAddress
  | username
  | messageIntegrity
  | errorCode
  | unknownAttributes
  | realm
  | nonce
  | xorMappedAddress
  | priority
  | useCandidate
  | software
  | alternateServer
  | fingerprint
  | iceControlled
  | iceControlling
  deriving DecidableEq, Repr

namespace Attribute

def code : Attribute → UInt16
  | mappedAddress => 0x0001
  | username => 0x0006
  | messageIntegrity => 0x0008
  | errorCode => 0x0009
  | unknownAttributes => 0x000A
  | realm => 0x0014
  | nonce => 0x0015
  | xorMappedAddress => 0x0020
  | priority => 0x0024
  | useCandidate => 0x0025
  | software => 0x8022
  | alternateServer => 0x8023
  | fingerprint => 0x8028
  | iceControlled => 0x8029
  | iceControlling => 0x802A

end Attribute

inductive Authentication where
  | ok
  | unauthorized
  | badRequest
  deriving DecidableEq, Repr

/-- The 12 bytes behind the magic cookie. -/
structure TransactionId where
  bytes : Bytes
  length_bytes : bytes.length = 12
  deriving DecidableEq, Repr

/-- A socket address as `Serialize` reads it: port and address as numbers for the
two families it knows, only the family for any other. -/
inductive SockAddr where
  | inet (port : UInt16) (addr : UInt32)
  | inet6 (port : UInt16) (addrHi addrLo : UInt64)
  | other (family : UInt16)
  deriving DecidableEq, Repr

/-- `messageIntegrity` is the offset of the 20-byte value in `data`. -/
structure StunPacket where
  klass : Class
  method : UInt16
  transactionId : TransactionId
  data : Bytes
  size : Nat
  username : Bytes := []
  priority : UInt32 := 0
  iceControlling : UInt64 := 0
  iceControlled : UInt64 := 0
  hasUseCandidate : Bool := false
  messageIntegrity : Option Nat := none
  hasFingerprint : Bool := false
  xorMappedAddress : Option SockAddr := none
  errorCode : UInt16 := 0
  password : Bytes := []
  deriving DecidableEq, Repr

namespace StunPacket

def magicCookie : Bytes := [0x21, 0x12, 0xA4, 0x42]

def fingerprintXor : UInt32 := 0x5354554e

/-! ## Recognition and parsing -/

/-- `IsStun`, with the short-circuit order of the source. -/
def isStun (data : Bytes) (len : Nat) : Exec Bool := do
  if 20 ≤ len then
    if (← Byte.get1Byte data 0) < 3 then
      if (← Byte.get1Byte data 4) = 0x21 then
        if (← Byte.get1Byte data 5) = 0x12 then
          if (← Byte.get1Byte data 6) = 0xA4 then
            return decide ((← Byte.get1Byte data 7) = 0x42)
          else return false
        else return false
      else return false
    else return false
  else return false

def readBytes (data : Bytes) (i n : Nat) : Exec Bytes :=
  if ((data.drop i).take n).length = n then .ok ((data.drop i).take n) else .error .outOfBounds

def readTransactionId (data : Bytes) (i : Nat) : Exec TransactionId :=
  if h : ((data.drop i).take 12).length = 12 then .ok ⟨(data.drop i).take 12, h⟩
  else .error .outOfBounds

def msgMethod (msgType : UInt16) : UInt16 :=
  (msgType &&& (0x000f : UInt16)) ||| ((msgType &&& (0x00e0 : UInt16)) >>> (1 : UInt16)) |||
    ((msgType &&& (0x3E00 : UInt16)) >>> (2 : UInt16))

def msgClass (b₀ b₁ : UInt8) : UInt16 :=
  ((b₀ &&& 0x01).toUInt16 <<< 1) ||| ((b₁ &&& 0x10).toUInt16 >>> 4)

/-- The variables that live across turns of the attribute loop. The two
FINGERPRINT variables are uninitialised in the source until the attribute is
seen, and read only then. -/
structure ParseState where
  pos : Nat
  packet : StunPacket
  hasMessageIntegrity : Bool := false
  hasFingerprint : Bool := false
  fingerprintAttrPos : Nat := 0
  fingerprint : UInt32 := 0
  deriving DecidableEq, Repr

/-- The `switch` over the attribute type. `none` discards the packet. -/
def parseValue (data : Bytes) (st : ParseState) (attrType attrLength : UInt16) :
    Exec (Option ParseState) :=
  let attrValuePos := st.pos + 4
  if attrType = Attribute.username.code then do
    let username ← readBytes data attrValuePos attrLength.toNat
    return some { st with packet := { st.packet with username } }
  else if attrType = Attribute.priority.code then
    if attrLength ≠ 4 then return none
    else do
      let priority ← Byte.get4Bytes data attrValuePos
      return some { st with packet := { st.packet with priority } }
  else if attrType = Attribute.iceControlling.code then
    if attrLength ≠ 8 then return none
    else do
      let iceControlling ← Byte.get8Bytes data attrValuePos
      return some { st with packet := { st.packet with iceControlling } }
  else if attrType = Attribute.iceControlled.code then
    if attrLength ≠ 8 then return none
    else do
      let iceControlled ← Byte.get8Bytes data attrValuePos
      return some { st with packet := { st.packet with iceControlled } }
  else if attrType = Attribute.useCandidate.code then
    if attrLength ≠ 0 then return none
    else return some { st with packet := { st.packet with hasUseCandidate := true } }
  else if attrType = Attribute.messageIntegrity.code then
    if attrLength ≠ 20 then return none
    else return some { st with
      hasMessageIntegrity := true
      packet := { st.packet with messageIntegrity := some attrValuePos } }
  else if attrType = Attribute.fingerprint.code then
    if attrLength ≠ 4 then return none
    else do
      let fingerprint ← Byte.get4Bytes data attrValuePos
      return some { st with
        hasFingerprint := true
        fingerprintAttrPos := st.pos
        fingerprint
        packet := { st.packet with hasFingerprint := true } }
  else if attrType = Attribute.errorCode.code then
    if attrLength < 4 then return none
    else do
      let errorClass ← Byte.get1Byte data (attrValuePos + 2)
      let errorNumber ← Byte.get1Byte data (attrValuePos + 3)
      let errorCode := errorClass.toUInt16 * 100 + errorNumber.toUInt16
      return some { st with packet := { st.packet with errorCode } }
  else return some st

def parseAttribute (data : Bytes) (len : Nat) (st : ParseState) : Exec (Option ParseState) := do
  let attrType ← Byte.get2Bytes data st.pos
  let attrLength ← Byte.get2Bytes data (st.pos + 2)
  if len < st.pos + 4 + attrLength.toNat then return none
  else if st.hasFingerprint then return none
  else if st.hasMessageIntegrity ∧ attrType ≠ Attribute.fingerprint.code then return none
  else
    let updated ← parseValue data st attrType attrLength
    let next := Byte.padTo4Bytes (UInt16.ofNat (st.pos + 4 + attrLength.toNat))
    return updated.map fun st => { st with pos := next.toNat }

def parseLoop (data : Bytes) (len : Nat) : Nat → ParseState → Exec (Option ParseState)
  | 0, st => if st.pos + 4 ≤ len then .error .diverged else return some st
  | fuel + 1, st =>
      if st.pos + 4 ≤ len then do
        match ← parseAttribute data len st with
        | none => return none
        | some st => parseLoop data len fuel st
      else return some st

/-- What follows the loop: the position test and the FINGERPRINT test. -/
def parseEnd (data : Bytes) (len : Nat) (st : ParseState) : Exec (Option StunPacket) :=
  if st.pos ≠ len then return none
  else if st.hasFingerprint then do
    let crc ← Crypto.getCRC32 data st.fingerprintAttrPos
    if st.fingerprint ≠ crc ^^^ fingerprintXor then return none
    else return some st.packet
  else return some st.packet

/-- The packet that the header alone describes. -/
def parseHeader (data : Bytes) (len : Nat) : Exec (Option StunPacket) := do
  let msgType ← Byte.get2Bytes data 0
  let msgLength ← Byte.get2Bytes data 2
  if msgLength.toNat ≠ len - 20 ∨ msgLength &&& 0x03 ≠ 0 then return none
  else
    let b₀ ← Byte.get1Byte data 0
    let b₁ ← Byte.get1Byte data 1
    let transactionId ← readTransactionId data 8
    return some {
      klass := Class.ofCode (msgClass b₀ b₁)
      method := msgMethod msgType
      transactionId
      data
      size := len }

/-- `StunPacket::Parse`; `none` is the null pointer. A turn of the loop that does
not reject leaves the flags clear or is followed by at most one more turn, so a
run longer than `len` turns visits a position twice and never ends. -/
def parse (data : Bytes) (len : Nat) : Exec (Option StunPacket) := do
  if ← isStun data len then
    match ← parseHeader data len with
    | none => return none
    | some packet =>
        match ← parseLoop data len len { pos := 20, packet } with
        | none => return none
        | some st => parseEnd data len st
  else return none

/-! ## Authentication -/

/-- The buffer with the length field ending at MESSAGE-INTEGRITY, and its prefix
up to that attribute: what `CheckAuthentication` feeds to HMAC-SHA1. -/
def signedMessage (p : StunPacket) (messageIntegrity : Nat) : Exec (Bytes × Bytes) := do
  let data ← if p.hasFingerprint then Byte.set2Bytes p.data 2 (UInt16.ofNat p.size - 20 - 8)
    else .ok p.data
  let message ← Crypto.readPrefix data (messageIntegrity - 4)
  return (data, message)

def usernameMatches (username localUsername : Bytes) : Bool :=
  !(decide (username.length ≤ localUsername.length) ||
    username[localUsername.length]? != some 0x3A ||
    username.take localUsername.length != localUsername)

/-- `CheckAuthentication`. The packet returned carries the datagram as the call
leaves it. -/
def checkAuthentication (hmac : Crypto.HmacSha1) (p : StunPacket)
    (localUsername localPassword : Bytes) : Exec (Authentication × StunPacket) :=
  match p.klass, p.messageIntegrity with
  | .successResponse, _ | .errorResponse, _ => return (.badRequest, p)
  | .request, none | .indication, none => return (.badRequest, p)
  | .request, some messageIntegrity | .indication, some messageIntegrity =>
      if p.username = [] then return (.badRequest, p)
      else if !usernameMatches p.username localUsername then return (.unauthorized, p)
      else do
        let (data, message) ← signedMessage p messageIntegrity
        let computedMessageIntegrity := hmac.digest localPassword message
        let received ← readBytes data messageIntegrity 20
        let result :=
          if received = computedMessageIntegrity then Authentication.ok else .unauthorized
        let data ← if p.hasFingerprint then Byte.set2Bytes data 2 (UInt16.ofNat p.size - 20)
          else .ok data
        return (result, { p with data })

/-! ## Responses -/

def createSuccessResponse (p : StunPacket) : Exec StunPacket :=
  if p.klass = .request then
    return {
      klass := .successResponse
      method := p.method
      transactionId := p.transactionId
      data := []
      size := 0 }
  else .error (.abort "attempt to create a success response for a non Request STUN packet")

def createErrorResponse (p : StunPacket) (errorCode : UInt16) : Exec StunPacket :=
  if p.klass = .request then
    return {
      klass := .errorResponse
      method := p.method
      transactionId := p.transactionId
      data := []
      size := 0
      errorCode }
  else .error (.abort "attempt to create an error response for a non Request STUN packet")

def authenticate (p : StunPacket) (password : Bytes) : StunPacket :=
  if p.klass = .errorResponse then p else { p with password }

end StunPacket

end EasyWebRtc.Rtc
