import EasyWebRtc.Lib.Traced
import EasyWebRtc.Rtc.SrtpSession

/-!
# DTLS transport of `rtc/dtls_transport.h`

The state machine around one OpenSSL object. OpenSSL is outside the repository:
what its functions answer during one call of the transport is a value of
`OpenSsl`. The trace of a call is what the transport tells its listener and what
it feeds to OpenSSL, in order.
-/

namespace EasyWebRtc.Rtc

open Octets Utils

inductive DtlsState where
  | new
  | connecting
  | connected
  | failed
  | closed
  deriving DecidableEq, Repr

inductive DtlsRole where
  | none
  | auto
  | client
  | server
  deriving DecidableEq, Repr

inductive FingerprintAlgorithm where
  | none
  | sha1
  | sha224
  | sha256
  | sha384
  | sha512
  deriving DecidableEq, Repr

structure DtlsFingerprint where
  algorithm : FingerprintAlgorithm := .none
  value : String := ""
  deriving DecidableEq, Repr

structure DtlsTransport where
  state : DtlsState := .new
  localRole : DtlsRole := .none
  remoteFingerprint : DtlsFingerprint := {}
  handshakeDone : Bool := false
  handshakeDoneNow : Bool := false
  remoteCert : Bytes := []
  deriving DecidableEq, Repr

/-- The notifications of the listener, and `bioWrite` for the bytes given to
OpenSSL. -/
inductive DtlsEvent where
  | connecting
  | connected (cryptoSuite : CryptoSuite) (localKey remoteKey : Bytes)
  | failed
  | closed
  | sendData (data : Bytes)
  | applicationData (data : Bytes)
  | bioWrite (data : Bytes)
  deriving DecidableEq, Repr

inductive SslError where
  | none
  | ssl
  | wantRead
  | wantWrite
  | wantX509Lookup
  | syscall
  | zeroReturn
  | wantConnect
  | wantAccept
  | other
  deriving DecidableEq, Repr

/-- The answers of OpenSSL during one call. The three `handshakeDone` flags say
whether the info callback reported a finished handshake inside the call of
`SSL_do_handshake`, of `SSL_read` or `SSL_write`, and of `SSL_shutdown`. -/
structure OpenSsl where
  handshakeDoneInHandshake : Bool := false
  handshakeDoneInTransfer : Bool := false
  handshakeDoneInShutdown : Bool := false
  /-- What `SSL_read` puts into the read buffer; empty for a return value of at most 0. -/
  readData : Bytes := []
  /-- The return value of `SSL_write`. -/
  written : Int := 0
  error : SslError := .wantRead
  receivedShutdown : Bool := false
  /-- The bytes waiting in the outgoing BIO. -/
  pending : Bytes := []
  /-- Seconds and microseconds of `DTLSv1_get_timeout`, if it returns non-zero. -/
  timeout : Option (UInt64 × UInt64) := none
  /-- The name of the negotiated SRTP profile. -/
  srtpProfile : Option String := none
  /-- The exported keying material, if the export succeeds. -/
  keyingMaterial : Option (Nat → UInt8) := none

namespace DtlsTransport

abbrev Call (α : Type) := Traced Fault DtlsEvent α

def isDtls (data : Bytes) (len : Nat) : Exec Bool :=
  if 13 ≤ len then do
    let b ← Byte.get1Byte data 0
    return decide (19 < b ∧ b < 64)
  else return false

def isRunning (d : DtlsTransport) : Bool :=
  match d.state with
  | .new => false
  | .connecting | .connected => true
  | .failed | .closed => false

/-- `OnSslInfo`, as far as it changes the transport. -/
def onSslInfo (d : DtlsTransport) (handshakeDone : Bool) : DtlsTransport :=
  if handshakeDone then { d with handshakeDoneNow := true } else d

def reset (ssl : OpenSsl) (d : DtlsTransport) : DtlsTransport :=
  if !d.isRunning then d
  else
    let d := d.onSslInfo ssl.handshakeDoneInShutdown
    { d with localRole := .none, state := .new, handshakeDone := false, handshakeDoneNow := false }

/-- `Reset()`, then the state FAILED and its notification. -/
def fail (ssl : OpenSsl) (d : DtlsTransport) : Call DtlsTransport := do
  let d := { d.reset ssl with state := .failed }
  Traced.emit .failed
  return d

def sendPendingOutgoingDtlsData (ssl : OpenSsl) : Call Unit :=
  if ssl.pending = [] then return ()
  else Traced.emit (.sendData ssl.pending)

def srtpCryptoSuites : List (CryptoSuite × String) :=
  [(.aeadAes256Gcm, "SRTP_AEAD_AES_256_GCM"), (.aeadAes128Gcm, "SRTP_AEAD_AES_128_GCM"),
    (.aesCm128HmacSha1_80, "SRTP_AES128_CM_SHA1_80"),
    (.aesCm128HmacSha1_32, "SRTP_AES128_CM_SHA1_32")]

/-- The last entry of the table with the negotiated name. -/
def getNegotiatedSrtpCryptoSuite (ssl : OpenSsl) : Exec CryptoSuite :=
  match ssl.srtpProfile with
  | none => .ok .none
  | some name =>
      let negotiated := srtpCryptoSuites.foldl
        (fun suite entry => if name = entry.2 then entry.1 else suite) .none
      if negotiated = .none then
        .error (.abort "chosen SRTP crypto suite is not an available one")
      else .ok negotiated

def masterLengths : CryptoSuite → Exec (Nat × Nat)
  | .aesCm128HmacSha1_80 | .aesCm128HmacSha1_32 => .ok (16, 14)
  | .aeadAes256Gcm => .ok (32, 12)
  | .aeadAes128Gcm => .ok (16, 12)
  | .none => .error (.abort "unknown SRTP crypto suite")

def slice (material : Nat → UInt8) (i n : Nat) : Bytes := (List.range n).map fun k => material (i + k)

/-- Local and remote master key: key, then salt, of each side. The client's parts
come first in the material. -/
def splitMaterial (material : Nat → UInt8) (keyLen saltLen : Nat) : DtlsRole → Exec (Bytes × Bytes)
  | .server =>
      let remote := slice material 0 keyLen ++ slice material (keyLen + keyLen) saltLen
      let loc := slice material keyLen keyLen ++ slice material (keyLen + keyLen + saltLen) saltLen
      .ok (loc, remote)
  | .client =>
      let loc := slice material 0 keyLen ++ slice material (keyLen + keyLen) saltLen
      let remote := slice material keyLen keyLen ++ slice material (keyLen + keyLen + saltLen) saltLen
      .ok (loc, remote)
  | .none | .auto => .error (.abort "no DTLS role set")

def extractSrtpKeys (ssl : OpenSsl) (d : DtlsTransport) (cryptoSuite : CryptoSuite) :
    Call DtlsTransport := do
  let (keyLen, saltLen) ← Traced.lift (masterLengths cryptoSuite)
  match ssl.keyingMaterial with
  | none => Traced.fail (.abort "SSL_export_keying_material() failed")
  | some material =>
      let (localKey, remoteKey) ← Traced.lift (splitMaterial material keyLen saltLen d.localRole)
      Traced.emit (.connected cryptoSuite localKey remoteKey)
      return { d with state := .connected }

def processHandshake (ssl : OpenSsl) (d : DtlsTransport) : Call (Bool × DtlsTransport) :=
  if !d.handshakeDone then Traced.fail (.abort "handshake not done yet")
  else do
    let cryptoSuite ← Traced.lift (getNegotiatedSrtpCryptoSuite ssl)
    if cryptoSuite ≠ .none then
      let d ← extractSrtpKeys ssl d cryptoSuite
      return (true, d)
    else
      let d ← fail ssl d
      return (false, d)

/-- `CheckStatus`, given the status that `SSL_get_error` returns. -/
def checkStatus (ssl : OpenSsl) (d : DtlsTransport) : Call (Bool × DtlsTransport) :=
  let wasHandshakeDone := d.handshakeDone
  if d.handshakeDoneNow then
    let d := { d with handshakeDoneNow := false, handshakeDone := true }
    if !wasHandshakeDone then processHandshake ssl d
    else return (true, d)
  else if ssl.receivedShutdown ∨ ssl.error = .ssl ∨ ssl.error = .syscall then
    if d.state = .connected then do
      let d := { d.reset ssl with state := .closed }
      Traced.emit .closed
      return (false, d)
    else do
      let d ← fail ssl d
      return (false, d)
  else return (true, d)

def setTimeout (ssl : OpenSsl) (d : DtlsTransport) : Call (Bool × DtlsTransport) :=
  if d.state ≠ .connecting ∧ d.state ≠ .connected then
    Traced.fail (.abort "invalid DTLS state")
  else
    match ssl.timeout with
    | none => return (true, d)
    | some (tvSec, tvUsec) =>
        let timeoutMs := tvSec * 1000 + tvUsec / 1000
        if timeoutMs = 0 then return (true, d)
        else if timeoutMs < 30000 then return (true, d)
        else do
          let d ← fail ssl d
          return (false, d)

def run (ssl : OpenSsl) (d : DtlsTransport) (localRole : DtlsRole) : Call DtlsTransport :=
  if localRole ≠ .client ∧ localRole ≠ .server then
    Traced.fail (.abort "local DTLS role must be 'client' or 'server'")
  else if localRole = d.localRole then return d
  else do
    let d := if d.localRole = .client ∨ d.localRole = .server then d.reset ssl else d
    let d := { d with localRole, state := .connecting }
    Traced.emit .connecting
    let d := d.onSslInfo ssl.handshakeDoneInHandshake
    if localRole = .client then
      sendPendingOutgoingDtlsData ssl
      let (_, d) ← setTimeout ssl d
      return d
    else return d

def setRemoteFingerprint (ssl : OpenSsl) (d : DtlsTransport) (fingerprint : DtlsFingerprint) :
    Call (Bool × DtlsTransport) :=
  if fingerprint.algorithm = .none then
    Traced.fail (.abort "no fingerprint algorithm provided")
  else
    let d := { d with remoteFingerprint := fingerprint }
    if d.handshakeDone ∧ d.state ≠ .connected then processHandshake ssl d
    else return (true, d)

def processDtlsData (ssl : OpenSsl) (d : DtlsTransport) (data : Bytes) : Call DtlsTransport :=
  if !d.isRunning then return d
  else do
    Traced.emit (.bioWrite data)
    let d := d.onSslInfo ssl.handshakeDoneInTransfer
    sendPendingOutgoingDtlsData ssl
    let (good, d) ← checkStatus ssl d
    if !good then return d
    else
      let (good, d) ← setTimeout ssl d
      if !good then return d
      else if ssl.readData ≠ [] then
        if !d.handshakeDone then return d
        else
          Traced.emit (.applicationData ssl.readData)
          return d
      else return d

def sendApplicationData (ssl : OpenSsl) (d : DtlsTransport) (data : Bytes) : Call DtlsTransport :=
  if d.state ≠ .connected then return d
  else if data = [] then return d
  else do
    let d := d.onSslInfo ssl.handshakeDoneInTransfer
    if ssl.written < 0 then
      let (good, d) ← checkStatus ssl d
      if !good then return d
      else
        sendPendingOutgoingDtlsData ssl
        return d
    else
      sendPendingOutgoingDtlsData ssl
      return d

end DtlsTransport

end EasyWebRtc.Rtc
