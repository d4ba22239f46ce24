import EasyWebRtc.Common.Utils

/-!
# SRTP sessions of `rtc/srtp_session.h`

A session is a direction, a crypto suite and a master key. libsrtp is outside
the repository: its answers to one call of the server are a value of `Libsrtp`,
and a run may get a different value for every call.
-/

namespace EasyWebRtc.Rtc

open Octets Utils

inductive CryptoSuite where
  | none
  | aesCm128HmacSha1_80
  | aesCm128HmacSha1_32
  | aeadAes256Gcm
  | aeadAes128Gcm
  deriving DecidableEq, Repr

inductive SrtpSession.Direction where
  | inbound
  | outbound
  deriving DecidableEq, Repr

structure SrtpSession where
  type : SrtpSession.Direction
  cryptoSuite : CryptoSuite
  key : Bytes
  isInit : Bool
  deriving DecidableEq, Repr

/-- `srtp_protect`: the protected packet in the buffer, or an error and the
length it leaves. -/
inductive ProtectResult where
  | ok (packet : Bytes)
  | error (len : Nat)
  deriving DecidableEq, Repr

/-- `srtp_unprotect` works in place: the status and the bytes that the buffer
and the length variable then describe. -/
structure UnprotectResult where
  ok : Bool
  data : Bytes
  deriving DecidableEq, Repr

structure Libsrtp where
  /-- `policy.rtp.cipher_key_len` after `srtp_crypto_policy_set_...` for the suite. -/
  cipherKeyLen : CryptoSuite → Nat
  create : SrtpSession.Direction → CryptoSuite → Bytes → Bool
  protect : SrtpSession → Bytes → ProtectResult
  unprotect : SrtpSession → Bytes → UnprotectResult

/-- The lengths of key and salt that libsrtp documents for its policies. -/
structure Libsrtp.PolicyLengths (srtp : Libsrtp) : Prop where
  aesCm128HmacSha1_80 : srtp.cipherKeyLen .aesCm128HmacSha1_80 = 30
  aesCm128HmacSha1_32 : srtp.cipherKeyLen .aesCm128HmacSha1_32 = 30
  aeadAes256Gcm : srtp.cipherKeyLen .aeadAes256Gcm = 44
  aeadAes128Gcm : srtp.cipherKeyLen .aeadAes128Gcm = 28

namespace SrtpSession

def kEncryptBufferSize : Nat := 65536

def create (srtp : Libsrtp) (type : Direction) (cryptoSuite : CryptoSuite) (key : Bytes) :
    Exec SrtpSession :=
  if cryptoSuite = .none then .error (.abort "unknown SRTP crypto suite")
  else if key.length ≠ srtp.cipherKeyLen cryptoSuite then
    .error (.abort "given keyLen does not match policy.rtp.cipher_keyLen")
  else if srtp.create type cryptoSuite key then .ok ⟨type, cryptoSuite, key, true⟩
  else .error (.exception "srtp_create() failed")

/-- A pointer to bytes and the length that goes with it. -/
structure View where
  data : Bytes
  len : Nat
  deriving DecidableEq, Repr

/-- `EncryptRtp`: the result and the caller's pointer and length afterwards. A
failed call leaves the pointer at the plaintext. -/
def encryptRtp (srtp : Libsrtp) (maxTrailerLen : Nat) (s : SrtpSession) (v : View) :
    Exec (Bool × View) :=
  if !s.isInit then return (false, v)
  else if v.len + maxTrailerLen > kEncryptBufferSize then return (false, v)
  else do
    let packet ← Crypto.readPrefix v.data v.len
    match srtp.protect s packet with
    | .ok encrypted => return (true, ⟨encrypted, encrypted.length⟩)
    | .error len => return (false, { v with len })

/-- `DecryptSrtp`, on the buffer that it overwrites. -/
def decryptSrtp (srtp : Libsrtp) (s : SrtpSession) (data : Bytes) : Bool × Bytes :=
  let result := srtp.unprotect s data
  (result.ok, result.data)

theorem create_ok {srtp : Libsrtp} {type : Direction} {cryptoSuite : CryptoSuite} {key : Bytes}
    {s : SrtpSession} (h : create srtp type cryptoSuite key = .ok s) :
    s = ⟨type, cryptoSuite, key, true⟩ := by
  unfold create at h
  split at h
  · cases h
  · split at h
    · cases h
    · split at h
      · cases h
        rfl
      · cases h

end SrtpSession

end EasyWebRtc.Rtc
