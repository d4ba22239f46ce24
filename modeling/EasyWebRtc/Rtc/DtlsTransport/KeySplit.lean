import EasyWebRtc.Rtc.DtlsTransport.Machine
import EasyWebRtc.Rtc.StunPacket.ParseProof

/-!
# The split of the keying material

`ExtractSrtpKeys` with its pointers: four offsets into the exported material,
each computed from the one before, and four copies. Every copy stays inside the
material and inside the master key it fills. Both ends derive the same pair of
master keys, each from its side.
-/

namespace EasyWebRtc.Rtc.DtlsTransport

open Octets Utils

/-- Offsets of the four pointers into the material. -/
structure KeyOffsets where
  localKey : Nat
  localSalt : Nat
  remoteKey : Nat
  remoteSalt : Nat
  deriving DecidableEq, Repr

def keyOffsets (keyLen saltLen : Nat) : DtlsRole → Exec KeyOffsets
  | .server =>
      let remoteKey := 0
      let localKey := remoteKey + keyLen
      let remoteSalt := localKey + keyLen
      let localSalt := remoteSalt + saltLen
      .ok { localKey, localSalt, remoteKey, remoteSalt }
  | .client =>
      let localKey := 0
      let remoteKey := localKey + keyLen
      let localSalt := remoteKey + keyLen
      let remoteSalt := localSalt + saltLen
      .ok { localKey, localSalt, remoteKey, remoteSalt }
  | .none | .auto => .error (.abort "no DTLS role set")

/-- One master key: key and salt are copied into a new array, whose bytes are
those of `fresh` before. -/
def masterKey (fresh : Nat → UInt8) (material : Bytes) (keyLen saltLen key salt : Nat) :
    Exec Bytes := do
  let master := slice fresh 0 (keyLen + saltLen)
  let keyBytes ← StunPacket.readBytes material key keyLen
  let master ← Byte.memcpy master 0 keyBytes
  let saltBytes ← StunPacket.readBytes material salt saltLen
  Byte.memcpy master keyLen saltBytes

/-- Local and remote master key, every access checked. -/
def masterKeys (fresh : Nat → UInt8) (material : Bytes) (keyLen saltLen : Nat)
    (localRole : DtlsRole) : Exec (Bytes × Bytes) := do
  let o ← keyOffsets keyLen saltLen localRole
  let localMasterKey ← masterKey fresh material keyLen saltLen o.localKey o.localSalt
  let remoteMasterKey ← masterKey fresh material keyLen saltLen o.remoteKey o.remoteSalt
  return (localMasterKey, remoteMasterKey)

/-- The bytes of the material that the four copies read. -/
def KeyOffsets.indices (o : KeyOffsets) (keyLen saltLen : Nat) : List Nat :=
  List.range' o.localKey keyLen ++ List.range' o.localSalt saltLen ++
    (List.range' o.remoteKey keyLen ++ List.range' o.remoteSalt saltLen)

/-- The layout of RFC 5764. -/
structure Layout (material : Bytes) (keyLen saltLen : Nat) where
  clientKey : Bytes
  serverKey : Bytes
  clientSalt : Bytes
  serverSalt : Bytes
  parts : material = clientKey ++ (serverKey ++ (clientSalt ++ serverSalt))
  clientKey_length : clientKey.length = keyLen
  serverKey_length : serverKey.length = keyLen
  clientSalt_length : clientSalt.length = saltLen
  serverSalt_length : serverSalt.length = saltLen

def Layout.client {material : Bytes} {keyLen saltLen : Nat} (l : Layout material keyLen saltLen) :
    Bytes := l.clientKey ++ l.clientSalt

def Layout.server {material : Bytes} {keyLen saltLen : Nat} (l : Layout material keyLen saltLen) :
    Bytes := l.serverKey ++ l.serverSalt

theorem exists_layout {material : Bytes} {keyLen saltLen : Nat}
    (h : material.length = 2 * (keyLen + saltLen)) : Nonempty (Layout material keyLen saltLen) := by
  have hrest : (material.drop keyLen).length = keyLen + 2 * saltLen := by
    rw [List.length_drop]
    omega
  have hsalts : ((material.drop keyLen).drop keyLen).length = 2 * saltLen := by
    rw [List.length_drop]
    omega
  refine ⟨material.take keyLen, (material.drop keyLen).take keyLen,
    ((material.drop keyLen).drop keyLen).take saltLen,
    ((material.drop keyLen).drop keyLen).drop saltLen, ?_, ?_, ?_, ?_, ?_⟩
  · rw [List.take_append_drop, List.take_append_drop, List.take_append_drop]
  · rw [List.length_take]
    omega
  · rw [List.length_take]
    omega
  · rw [List.length_take]
    omega
  · rw [List.length_drop]
    omega

theorem slice_length (material : Nat → UInt8) (i n : Nat) : (slice material i n).length = n := by
  rw [slice, List.length_map, List.length_range]

theorem masterKey_eq (fresh : Nat → UInt8) {material key salt rest rest' : Bytes} {i j : Nat}
    (hkey : material.drop i = key ++ rest) (hsalt : material.drop j = salt ++ rest') :
    masterKey fresh material key.length salt.length i j = .ok (key ++ salt) := by
  have hlen := slice_length fresh 0 (key.length + salt.length)
  have hfirst := storeAll_fresh Fault.outOfBounds [] (slice fresh 0 (key.length + salt.length)) key
    (by omega)
  have hsecond := storeAll_fresh Fault.outOfBounds key
    ((slice fresh 0 (key.length + salt.length)).drop key.length) salt
    (by rw [List.length_drop]; omega)
  have hnone : ((slice fresh 0 (key.length + salt.length)).drop key.length).drop salt.length = [] :=
    List.drop_eq_nil_of_le (by rw [List.length_drop]; omega)
  rw [List.nil_append, List.nil_append, List.length_nil] at hfirst
  rw [hnone, List.append_nil] at hsecond
  simp only [masterKey, Byte.memcpy, StunPacket.readBytes_of_drop hkey,
    StunPacket.readBytes_of_drop hsalt, hfirst, hsecond, Exec.ok_bind]

section

variable {material : Bytes} {keyLen saltLen : Nat} (l : Layout material keyLen saltLen)
  (fresh : Nat → UInt8)

theorem Layout.drop_serverKey :
    material.drop keyLen = l.serverKey ++ (l.clientSalt ++ l.serverSalt) := by
  have h : (l.clientKey ++ (l.serverKey ++ (l.clientSalt ++ l.serverSalt))).drop keyLen = _ :=
    List.drop_left' l.clientKey_length
  rwa [← l.parts] at h

theorem Layout.drop_clientSalt :
    material.drop (keyLen + keyLen) = l.clientSalt ++ l.serverSalt := by
  rw [← List.drop_drop, l.drop_serverKey]
  exact List.drop_left' l.serverKey_length

theorem Layout.drop_serverSalt :
    material.drop (keyLen + keyLen + saltLen) = l.serverSalt ++ [] := by
  rw [← List.drop_drop, l.drop_clientSalt, List.append_nil]
  exact List.drop_left' l.clientSalt_length

theorem masterKey_client :
    masterKey fresh material keyLen saltLen 0 (keyLen + keyLen) = .ok l.client := by
  have h := masterKey_eq fresh (show material.drop 0 = _ from l.parts) l.drop_clientSalt
  rwa [l.clientKey_length, l.clientSalt_length] at h

theorem masterKey_server :
    masterKey fresh material keyLen saltLen keyLen (keyLen + keyLen + saltLen) = .ok l.server := by
  have h := masterKey_eq fresh l.drop_serverKey l.drop_serverSalt
  rwa [l.serverKey_length, l.serverSalt_length] at h

theorem masterKeys_server :
    masterKeys fresh material keyLen saltLen .server = .ok (l.server, l.client) := by
  simp only [masterKeys, keyOffsets, Nat.zero_add, masterKey_server l, masterKey_client l,
    Exec.ok_bind, Exec.pure_eq_ok]

theorem masterKeys_client :
    masterKeys fresh material keyLen saltLen .client = .ok (l.client, l.server) := by
  simp only [masterKeys, keyOffsets, Nat.zero_add, masterKey_server l, masterKey_client l,
    Exec.ok_bind, Exec.pure_eq_ok]

end

/-! ## The transport -/

theorem slice_add (material : Nat → UInt8) (i m n : Nat) :
    slice material i (m + n) = slice material i m ++ slice material (i + m) n := by
  simp only [slice, List.range_add, List.map_append, List.map_map]
  congr 1
  apply List.map_congr_left
  intro k _
  exact congrArg material (Nat.add_assoc i m k).symm

/-- The layout of the material that OpenSSL exports. -/
def exportedLayout (material : Nat → UInt8) (keyLen saltLen : Nat) :
    Layout (slice material 0 (2 * (keyLen + saltLen))) keyLen saltLen where
  clientKey := slice material 0 keyLen
  serverKey := slice material keyLen keyLen
  clientSalt := slice material (keyLen + keyLen) saltLen
  serverSalt := slice material (keyLen + keyLen + saltLen) saltLen
  parts := by
    have htotal : 2 * (keyLen + saltLen) = keyLen + (keyLen + (saltLen + saltLen)) := by omega
    rw [htotal, slice_add, slice_add, slice_add, Nat.zero_add]
  clientKey_length := slice_length _ _ _
  serverKey_length := slice_length _ _ _
  clientSalt_length := slice_length _ _ _
  serverSalt_length := slice_length _ _ _

theorem splitMaterial_eq (fresh material : Nat → UInt8) (keyLen saltLen : Nat)
    (localRole : DtlsRole) :
    splitMaterial material keyLen saltLen localRole =
      masterKeys fresh (slice material 0 (2 * (keyLen + saltLen))) keyLen saltLen localRole := by
  cases localRole with
  | none => rfl
  | auto => rfl
  | client => exact (masterKeys_client (exportedLayout material keyLen saltLen) fresh).symm
  | server => exact (masterKeys_server (exportedLayout material keyLen saltLen) fresh).symm

theorem extractSrtpKeys_eq {ssl : OpenSsl} {d : DtlsTransport} {cryptoSuite : CryptoSuite}
    {keyLen saltLen : Nat} (hlengths : masterLengths cryptoSuite = .ok (keyLen, saltLen))
    {exported : Nat → UInt8} (hexport : ssl.keyingMaterial = some exported) {localKey remoteKey : Bytes}
    (hkeys : splitMaterial exported keyLen saltLen d.localRole = .ok (localKey, remoteKey)) :
    extractSrtpKeys ssl d cryptoSuite =
      ⟨[.connected cryptoSuite localKey remoteKey], .ok { d with state := .connected }⟩ := by
  unfold extractSrtpKeys
  rw [hlengths, hexport]
  simp only [hkeys, Traced.lift_ok_bind]
  rfl

theorem indices_perm {keyLen saltLen : Nat} {localRole : DtlsRole} {o : KeyOffsets}
    (h : keyOffsets keyLen saltLen localRole = .ok o) :
    (o.indices keyLen saltLen).Perm (List.range (2 * (keyLen + saltLen))) := by
  have htotal : 2 * (keyLen + saltLen) = keyLen + (keyLen + (saltLen + saltLen)) := by omega
  have hrange : List.range (2 * (keyLen + saltLen)) =
      List.range' 0 keyLen ++ (List.range' keyLen keyLen ++
        (List.range' (keyLen + keyLen) saltLen ++
          List.range' (keyLen + keyLen + saltLen) saltLen)) := by
    rw [List.range'_append_1, List.range'_append_1, List.range_eq_range', htotal,
      ← List.range'_append_1, Nat.zero_add]
  rw [List.perm_iff_count, hrange]
  intro i
  cases localRole with
  | none => cases h
  | auto => cases h
  | client =>
      cases h
      simp only [KeyOffsets.indices, Nat.zero_add, List.count_append]
      omega
  | server =>
      cases h
      simp only [KeyOffsets.indices, Nat.zero_add, List.count_append]
      omega

/-- For every suite and material the roles derive the same two master keys with
local and remote exchanged. Each is the key followed by the salt of one side,
no copy leaves its arrays, and each byte of the material is used once. -/
theorem srtp_keys_symmetric {cryptoSuite : CryptoSuite} (hsuite : cryptoSuite ≠ .none) :
    ∃ keyLen saltLen, masterLengths cryptoSuite = .ok (keyLen, saltLen) ∧
      ∀ material : Bytes, material.length = 2 * (keyLen + saltLen) →
        ∃ l : Layout material keyLen saltLen,
          (∀ fresh, masterKeys fresh material keyLen saltLen .server = .ok (l.server, l.client) ∧
            masterKeys fresh material keyLen saltLen .client = .ok (l.client, l.server)) ∧
          (∀ localRole o, keyOffsets keyLen saltLen localRole = .ok o →
            (o.indices keyLen saltLen).Perm (List.range material.length)) ∧
          ∀ (ssl : OpenSsl) (d : DtlsTransport) exported, ssl.keyingMaterial = some exported →
            slice exported 0 material.length = material →
            (d.localRole = .server → extractSrtpKeys ssl d cryptoSuite =
              ⟨[.connected cryptoSuite l.server l.client], .ok { d with state := .connected }⟩) ∧
            (d.localRole = .client → extractSrtpKeys ssl d cryptoSuite =
              ⟨[.connected cryptoSuite l.client l.server], .ok { d with state := .connected }⟩) := by
  obtain ⟨keyLen, saltLen, hlengths⟩ := masterLengths_of_ne_none hsuite
  refine ⟨keyLen, saltLen, hlengths, ?_⟩
  intro material hmaterial
  obtain ⟨l⟩ := exists_layout hmaterial
  refine ⟨l, ?_, ?_, ?_⟩
  · intro fresh
    exact ⟨masterKeys_server l fresh, masterKeys_client l fresh⟩
  · intro localRole o ho
    rw [hmaterial]
    exact indices_perm ho
  · intro ssl d exported hexport hslice
    have hsplit := splitMaterial_eq (fun _ => 0) exported keyLen saltLen d.localRole
    rw [← hmaterial, hslice] at hsplit
    constructor
    · intro hrole
      apply extractSrtpKeys_eq hlengths hexport
      rw [hsplit, hrole, masterKeys_server l]
    · intro hrole
      apply extractSrtpKeys_eq hlengths hexport
      rw [hsplit, hrole, masterKeys_client l]

/-- The material 0, 1, 2, … for AES-GCM with 128 bits. -/
def countingMaterial : Bytes := (List.range 56).map UInt8.ofNat

theorem srtp_keys_symmetric_aes128Gcm :
    CryptoSuite.aeadAes128Gcm ≠ .none ∧ ∃ l : Layout countingMaterial 16 12,
      masterKeys (fun _ => 0) countingMaterial 16 12 .server = .ok (l.server, l.client) ∧
      masterKeys (fun _ => 0) countingMaterial 16 12 .client = .ok (l.client, l.server) := by
  have hsuite : CryptoSuite.aeadAes128Gcm ≠ .none := by decide
  obtain ⟨keyLen, saltLen, hlengths, hkeys⟩ := srtp_keys_symmetric hsuite
  cases hlengths
  obtain ⟨l, hroles, _⟩ := hkeys countingMaterial rfl
  exact ⟨hsuite, l, hroles _⟩

end EasyWebRtc.Rtc.DtlsTransport
