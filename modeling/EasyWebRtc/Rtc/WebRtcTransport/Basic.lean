import EasyWebRtc.Rtc.DtlsTransport.Basic
import EasyWebRtc.Rtc.IceServer
import EasyWebRtc.Rtp.RtpUtil

/-!
# `WebRtcTransport` of `rtc/webrtc_transport.h`

The listener of the ICE server and of the DTLS transport: it classifies
datagrams, keeps the SRTP session and hands packets to the network transport.
`κ` is the type of network transports. The outcomes of the foreign code during
one call come with the input.
-/

namespace EasyWebRtc.Rtc

open Octets Utils

/-- Which function of the transport calls `SendPacket`. -/
inductive PacketKind where
  | stun
  | dtls
  | rtp
  deriving DecidableEq, Repr

/-- `sendPacket` is a call of `SendPacket` with the network transport that it
finds; `onRtp` is a call of the RTP channel; `selectedTuple` is the callback
`OnIceServerSelectedTuple`, which stores the address and calls `Run(SERVER)`;
`dtls` is a notification or an action of the DTLS transport. -/
inductive WebRtcEvent (κ : Type) where
  | sendPacket (kind : PacketKind) (data : Bytes) (remoteAddress : SockAddrIn)
      (transport : Option κ)
  | onRtp (data : Bytes)
  | selectedTuple (tuple : SockAddrIn)
  | dtls (event : DtlsEvent)
  deriving DecidableEq, Repr

structure WebRtcTransport (κ : Type) where
  iceServer : IceServer
  dtlsTransport : DtlsTransport := {}
  srtpSession : Option SrtpSession := none
  transport : Option κ := none
  rtpChannel : Bool := false
  isReady : Bool := false
  remoteSocketAddress : SockAddrIn
  deriving DecidableEq, Repr

/-- What is fixed for a build: HMAC-SHA1 and `SRTP_MAX_TRAILER_LEN`. -/
structure Platform where
  hmac : Crypto.HmacSha1
  srtpMaxTrailerLen : Nat

/-- What one call finds: the content of the encoder's buffer and the answers of
OpenSSL and libsrtp. -/
structure Outcomes where
  stunSerializeBuffer : SerializeBuffer
  ssl : OpenSsl
  srtp : Libsrtp

namespace WebRtcTransport

abbrev Call (κ α : Type) := Traced Fault (WebRtcEvent κ) α

variable {κ : Type}

/-- The constructor. The remote address is not initialised. -/
def create (usernameFragment password : Bytes) (uninitialised : SockAddrIn) : WebRtcTransport κ where
  iceServer := { usernameFragment, password }
  remoteSocketAddress := uninitialised

def setNetworkTransport (w : WebRtcTransport κ) (transport : κ) : WebRtcTransport κ :=
  { w with transport := some transport }

def setRTPChannel (w : WebRtcTransport κ) (channel : Bool) : WebRtcTransport κ :=
  { w with rtpChannel := channel }

/-- `SendPacket`. The network transport reads `len` bytes at the pointer. -/
def sendPacket (w : WebRtcTransport κ) (kind : PacketKind) (v : SrtpSession.View)
    (remoteAddress : SockAddrIn) : Call κ Unit := do
  Traced.emit (.sendPacket kind (v.data.take v.len) remoteAddress w.transport)
  if w.transport.isSome ∧ (v.data.take v.len).length < v.len then Traced.fail .outOfBounds
  else return ()

/-- The callbacks `OnDtlsTransport...`. -/
def onDtlsEvent (srtp : Libsrtp) (w : WebRtcTransport κ) (event : DtlsEvent) :
    Call κ (WebRtcTransport κ) := do
  Traced.emit (.dtls event)
  match event with
  | .connected cryptoSuite localKey _ =>
      let session ← Traced.lift (SrtpSession.create srtp .outbound cryptoSuite localKey)
      return { w with srtpSession := some session, isReady := true }
  | .sendData data =>
      w.sendPacket .dtls ⟨data, data.length⟩ w.remoteSocketAddress
      return w
  | .connecting | .failed | .closed | .applicationData _ | .bioWrite _ => return w

/-- The callbacks `OnIceServer...`. -/
def onIceEvent (env : Outcomes) (w : WebRtcTransport κ) (event : IceEvent) :
    Call κ (WebRtcTransport κ) :=
  match event with
  | .sendStunPacket packet tuple => do
      w.sendPacket .stun ⟨packet.data, packet.size⟩ tuple
      return w
  | .selectedTuple tuple => do
      Traced.emit (.selectedTuple tuple)
      let w := { w with remoteSocketAddress := tuple }
      let (w, dtlsTransport) ← Traced.handle (onDtlsEvent env.srtp) w
        (w.dtlsTransport.run env.ssl .server)
      return { w with dtlsTransport }

variable (platform : Platform)

def inputStun (env : Outcomes) (w : WebRtcTransport κ) (data : Bytes) (remoteAddress : SockAddrIn) :
    Call κ (WebRtcTransport κ) := do
  match ← Traced.lift (StunPacket.parse data data.length) with
  | none => return w
  | some packet =>
      let (w, iceServer, _) ← Traced.handle (onIceEvent env) w
        (w.iceServer.processStunPacket platform.hmac env.stunSerializeBuffer packet remoteAddress)
      return { w with iceServer }

def inputDtls (env : Outcomes) (w : WebRtcTransport κ) (data : Bytes) :
    Call κ (WebRtcTransport κ) := do
  let (w, dtlsTransport) ← Traced.handle (onDtlsEvent env.srtp) w
    (w.dtlsTransport.processDtlsData env.ssl data)
  return { w with dtlsTransport }

/-- The RTP branch. It tests the channel and uses the session. -/
def inputRtp (env : Outcomes) (w : WebRtcTransport κ) (data : Bytes) :
    Call κ (WebRtcTransport κ) :=
  if w.rtpChannel then
    match w.srtpSession with
    | none => Traced.fail .nullPointer
    | some session => do
        let (_, decrypted) := session.decryptSrtp env.srtp data
        Traced.emit (.onRtp decrypted)
        return w
  else return w

def onInputDataPacket (env : Outcomes) (w : WebRtcTransport κ) (data : Bytes)
    (remoteAddress : SockAddrIn) : Call κ (WebRtcTransport κ) := do
  if ← Traced.lift (StunPacket.isStun data data.length) then
    inputStun platform env w data remoteAddress
  else if ← Traced.lift (DtlsTransport.isDtls data data.length) then
    inputDtls env w data
  else if ← Traced.lift (Rtp.isRtcpPacket data data.length) then
    return w
  else if ← Traced.lift (Rtp.isRtpPacket data data.length) then
    inputRtp env w data
  else return w

/-- The result of `EncryptRtp` is not used. -/
def encryptAndSendRtpPacket (env : Outcomes) (w : WebRtcTransport κ) (data : Bytes) :
    Call κ (WebRtcTransport κ) := do
  let (_, v) ←
    if w.isReady then
      match w.srtpSession with
      | none => Traced.fail .nullPointer
      | some session =>
          Traced.lift (session.encryptRtp env.srtp platform.srtpMaxTrailerLen ⟨data, data.length⟩)
    else pure (false, ⟨data, data.length⟩)
  w.sendPacket .rtp v w.remoteSocketAddress
  return w

/-! ## Kinds of datagrams -/

inductive Branch where
  | stun
  | dtls
  | rtcp
  | rtp
  | other
  deriving DecidableEq, Repr

/-- The tests of `OnInputDataPacket` in their order. -/
def branch (data : Bytes) : Exec Branch := do
  if ← StunPacket.isStun data data.length then return .stun
  else if ← DtlsTransport.isDtls data data.length then return .dtls
  else if ← Rtp.isRtcpPacket data data.length then return .rtcp
  else if ← Rtp.isRtpPacket data data.length then return .rtp
  else return .other

theorem onInputDataPacket_eq (env : Outcomes) (w : WebRtcTransport κ) (data : Bytes)
    (remoteAddress : SockAddrIn) : w.onInputDataPacket platform env data remoteAddress = (do
    match ← Traced.lift (branch data) with
    | .stun => inputStun platform env w data remoteAddress
    | .dtls => inputDtls env w data
    | .rtp => inputRtp env w data
    | .rtcp | .other => return w) := by
  unfold onInputDataPacket branch
  cases StunPacket.isStun data data.length with
  | error e => rfl
  | ok isStun =>
      cases isStun with
      | true => rfl
      | false =>
          cases DtlsTransport.isDtls data data.length with
          | error e => rfl
          | ok isDtls =>
              cases isDtls with
              | true => rfl
              | false =>
                  cases Rtp.isRtcpPacket data data.length with
                  | error e => rfl
                  | ok isRtcp =>
                      cases isRtcp with
                      | true => rfl
                      | false =>
                          cases Rtp.isRtpPacket data data.length with
                          | error e => rfl
                          | ok isRtp => cases isRtp <;> rfl

/-! ## Runs -/

inductive Input (κ : Type) where
  | onInputDataPacket (env : Outcomes) (data : Bytes) (remoteAddress : SockAddrIn)
  | encryptAndSendRtpPacket (env : Outcomes) (data : Bytes)
  | setNetworkTransport (transport : κ)
  | setRTPChannel (channel : Bool)

def step (w : WebRtcTransport κ) : Input κ → Call κ (WebRtcTransport κ)
  | .onInputDataPacket env data remoteAddress => w.onInputDataPacket platform env data remoteAddress
  | .encryptAndSendRtpPacket env data => w.encryptAndSendRtpPacket platform env data
  | .setNetworkTransport transport => return w.setNetworkTransport transport
  | .setRTPChannel channel => return w.setRTPChannel channel

end WebRtcTransport

end EasyWebRtc.Rtc
