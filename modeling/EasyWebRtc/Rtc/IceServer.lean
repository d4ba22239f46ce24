import EasyWebRtc.Lib.Traced
import EasyWebRtc.Rtc.StunPacket.Authentication

/-!
# ICE server of `rtc/ice_server.h`

`ProcessStunPacket` answers Binding requests and reports the selected tuple.
Responses are encoded into one static buffer with whatever content earlier
responses left there, so its content is an argument of the call.
-/

namespace EasyWebRtc.Rtc

open Octets Utils Tlv

/-- `sockaddr_in`: port and address as numbers. -/
structure SockAddrIn where
  port : UInt16
  addr : UInt32
  deriving DecidableEq, Repr

def SockAddrIn.toSockAddr (a : SockAddrIn) : SockAddr := .inet a.port a.addr

inductive IceState where
  | new
  | connected
  | completed
  | disconnected
  deriving DecidableEq, Repr

structure IceServer where
  usernameFragment : Bytes
  password : Bytes
  oldUsernameFragment : Bytes := []
  oldPassword : Bytes := []
  state : IceState := .new
  deriving DecidableEq, Repr

/-- The callbacks of the listener that are used. -/
inductive IceEvent where
  | sendStunPacket (packet : StunPacket) (tuple : SockAddrIn)
  | selectedTuple (tuple : SockAddrIn)
  deriving DecidableEq, Repr

/-- A content of `StunSerializeBuffer`. -/
structure SerializeBuffer where
  bytes : Bytes
  length_bytes : bytes.length = 65536

theorem length_zeros : (List.replicate 65536 (0 : UInt8)).length = 65536 := List.length_replicate

def SerializeBuffer.initial : SerializeBuffer := ⟨List.replicate 65536 0, length_zeros⟩

namespace IceServer

abbrev Call (α : Type) := Traced Fault IceEvent α

def setUsernameFragment (s : IceServer) (usernameFragment : Bytes) : IceServer :=
  { s with oldUsernameFragment := s.usernameFragment, usernameFragment }

def setPassword (s : IceServer) (password : Bytes) : IceServer :=
  { s with oldPassword := s.password, password }

section

variable (hmac : Crypto.HmacSha1) (buffer : SerializeBuffer)

/-- `Serialize` into the static buffer and `OnIceServerSendStunPacket`. -/
def send (response : StunPacket) (tuple : SockAddrIn) : Call Unit := do
  let (response, _) ← Traced.lift (StunPacket.serialize hmac response buffer.bytes)
  Traced.emit (.sendStunPacket response tuple)

def replyError (packet : StunPacket) (errorCode : UInt16) (tuple : SockAddrIn) : Call Unit := do
  let response ← Traced.lift (packet.createErrorResponse errorCode)
  send hmac buffer response tuple

def handleTuple (s : IceServer) (tuple : SockAddrIn) : Call IceServer :=
  if s.state ≠ .completed then do
    Traced.emit (.selectedTuple tuple)
    return { s with state := .completed }
  else return s

/-- The success path: answer with XOR-MAPPED-ADDRESS and handle the tuple. -/
def replySuccess (s : IceServer) (packet : StunPacket) (tuple : SockAddrIn) : Call IceServer := do
  let response ← Traced.lift packet.createSuccessResponse
  let response := { response with xorMappedAddress := some tuple.toSockAddr }
  let response := response.authenticate (if s.oldPassword = [] then s.password else s.oldPassword)
  send hmac buffer response tuple
  s.handleTuple tuple

/-- The check under the old credentials, if there are any. -/
def checkOldCredentials (s : IceServer) (packet : StunPacket) : Exec (Bool × StunPacket) :=
  if s.oldUsernameFragment ≠ [] ∧ s.oldPassword ≠ [] then do
    let (result, packet) ← packet.checkAuthentication hmac s.oldUsernameFragment s.oldPassword
    return (decide (result = .ok), packet)
  else return (false, packet)

/-- The server after a Binding request with FINGERPRINT, and the packet: the checks
write to its datagram. -/
def processRequest (s : IceServer) (packet : StunPacket) (tuple : SockAddrIn) :
    Call (IceServer × StunPacket) :=
  if packet.messageIntegrity = none ∨ packet.priority = 0 ∨ packet.username = [] then do
    replyError hmac buffer packet 400 tuple
    return (s, packet)
  else do
    let (result, packet) ←
      Traced.lift (packet.checkAuthentication hmac s.usernameFragment s.password)
    match result with
    | .ok =>
        let s := if s.oldPassword ≠ [] then { s with oldUsernameFragment := [], oldPassword := [] }
          else s
        let s ← replySuccess hmac buffer s packet tuple
        return (s, packet)
    | .unauthorized =>
        let (accepted, packet) ← Traced.lift (checkOldCredentials hmac s packet)
        if accepted then
          let s ← replySuccess hmac buffer s packet tuple
          return (s, packet)
        else
          replyError hmac buffer packet 401 tuple
          return (s, packet)
    | .badRequest =>
        replyError hmac buffer packet 400 tuple
        return (s, packet)

/-- The server and the packet as `ProcessStunPacket` leaves them. -/
def processStunPacket (s : IceServer) (packet : StunPacket) (tuple : SockAddrIn) :
    Call (IceServer × StunPacket) :=
  if packet.method ≠ Method.binding then
    if packet.klass = .request then do
      replyError hmac buffer packet 400 tuple
      return (s, packet)
    else return (s, packet)
  else if !packet.hasFingerprint ∧ packet.klass ≠ .indication then
    if packet.klass = .request then do
      replyError hmac buffer packet 400 tuple
      return (s, packet)
    else return (s, packet)
  else if packet.klass = .request then processRequest hmac buffer s packet tuple
  else return (s, packet)

end

end IceServer

end EasyWebRtc.Rtc
