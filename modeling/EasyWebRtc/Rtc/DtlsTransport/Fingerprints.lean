import EasyWebRtc.Lib.Text
import EasyWebRtc.Rtc.DtlsTransport.Basic

/-!
# Fingerprints of `rtc/dtls_transport.cc`

`GenerateFingerprints` announces the digests of the local certificate and
`CheckRemoteFingerprint` compares an announced one with the certificate of the
peer, both as hexadecimal digits in a buffer on the stack. The digests are
OpenSSL's. A fingerprint is accepted exactly for the digest it was made from.
-/

namespace EasyWebRtc.Rtc.DtlsTransport

open Octets Utils Text

def digestSize : FingerprintAlgorithm → Nat
  | .none => 0
  | .sha1 => 20
  | .sha224 => 28
  | .sha256 => 32
  | .sha384 => 48
  | .sha512 => 64

/-- A certificate by what `X509_digest` answers for it. -/
structure X509 where
  digest : FingerprintAlgorithm → Option Bytes
  digest_length : ∀ algorithm binary, digest algorithm = some binary →
    binary.length = digestSize algorithm

/-- The array `hexFingerprint` before it is written; `EVP_MAX_MD_SIZE` is 64. -/
abbrev HexBuffer := { bs : Bytes // bs.length = 64 * 3 + 1 }

/-! ## Hexadecimal digits -/

def hexDigit (n : UInt8) : UInt8 := if n < 10 then 0x30 + n else 0x37 + n

/-- The characters of `"%.2X:"`. -/
def hexByte (b : UInt8) : Bytes := [hexDigit (b / 16), hexDigit (b % 16), 0x3A]

/-- The loop from index `i`. Each `sprintf` ends with a NUL. -/
def writeHex (hexFingerprint : Bytes) (i : Nat) : Bytes → Exec Bytes
  | [] => return hexFingerprint
  | b :: binaryFingerprint => do
      let hexFingerprint ← Byte.memcpy hexFingerprint (i * 3) (hexByte b ++ [0])
      writeHex hexFingerprint (i + 1) binaryFingerprint

/-- The conversion that `GenerateFingerprints` and `CheckRemoteFingerprint` share.
The last colon is overwritten. -/
def toHexFingerprint (hexFingerprint : HexBuffer) (binaryFingerprint : Bytes) : Exec String := do
  let hexFingerprint ← writeHex hexFingerprint 0 binaryFingerprint
  let size := UInt32.ofNat binaryFingerprint.length
  let hexFingerprint ← Byte.set1Byte hexFingerprint (size * 3 - 1).toNat 0
  return ofAscii (cString hexFingerprint)

/-! ## Fingerprints -/

def string2FingerprintAlgorithm : List (String × FingerprintAlgorithm) :=
  [("sha-1", .sha1), ("sha-224", .sha224), ("sha-256", .sha256), ("sha-384", .sha384),
    ("sha-512", .sha512)]

def getFingerprintAlgorithm (fingerprint : String) : FingerprintAlgorithm :=
  (string2FingerprintAlgorithm.lookup fingerprint).getD .none

/-- One pass of the loop of `GenerateFingerprints`. -/
def generateFingerprint (certificate : X509) (hexFingerprint : HexBuffer) (algorithmString : String)
    (algorithm : FingerprintAlgorithm) : Exec DtlsFingerprint :=
  match algorithm with
  | .none => .error (.exception "unknown algorithm")
  | .sha1 | .sha224 | .sha256 | .sha384 | .sha512 =>
      match certificate.digest algorithm with
      | none => .error (.exception "Fingerprints generation failed")
      | some binaryFingerprint => do
          let value ← toHexFingerprint hexFingerprint binaryFingerprint
          return { algorithm := getFingerprintAlgorithm algorithmString, value }

/-- `GenerateFingerprints`: the fingerprints that it appends. The array is another
one in each pass. -/
def generateFingerprints (certificate : X509) (hexFingerprint : FingerprintAlgorithm → HexBuffer) :
    Exec (List DtlsFingerprint) :=
  string2FingerprintAlgorithm.mapM fun kv =>
    generateFingerprint certificate (hexFingerprint kv.2) kv.1 kv.2

/-- The certificate of the peer, with its PEM text if OpenSSL writes one. -/
structure PeerCertificate where
  x509 : X509
  pem : Option Bytes

/-- `CheckRemoteFingerprint`, given what `SSL_get_peer_certificate` returns. -/
def checkRemoteFingerprint (d : DtlsTransport) (peer : Option PeerCertificate)
    (hexFingerprint : HexBuffer) : Exec (Bool × DtlsTransport) :=
  if d.remoteFingerprint.algorithm = .none then .error (.abort "remote fingerprint not set")
  else
    match peer with
    | none => return (false, d)
    | some certificate =>
        match certificate.x509.digest d.remoteFingerprint.algorithm with
        | none => return (false, d)
        | some binaryFingerprint => do
            let value ← toHexFingerprint hexFingerprint binaryFingerprint
            if d.remoteFingerprint.value ≠ value then return (false, d)
            else
              match certificate.pem with
              | none => return (false, d)
              | some remoteCert => return (true, { d with remoteCert })

/-! ## The text of a digest -/

/-- The digits of a digest, with a colon after each pair. -/
def hexText (binary : Bytes) : Bytes := binary.flatMap hexByte

theorem hexText_concat (binary : Bytes) (b : UInt8) :
    hexText (binary ++ [b]) = hexText binary ++ hexByte b := by
  simp [hexText]

theorem hexText_length (binary : Bytes) : (hexText binary).length = 3 * binary.length := by
  induction binary with
  | nil => rfl
  | cons b binary ih =>
      rw [hexText, List.flatMap_cons, List.length_append, ← hexText, ih, List.length_cons]
      change 3 + _ = _
      omega

def unhex (c : UInt8) : UInt8 := if c ≤ 0x39 then c - 0x30 else c - 0x37

theorem unhex_hexByte (b : UInt8) :
    16 * unhex (hexDigit (b / 16)) + unhex (hexDigit (b % 16)) = b :=
  forall_byte (P := fun b => 16 * unhex (hexDigit (b / 16)) + unhex (hexDigit (b % 16)) = b)
    (by decide +kernel) b

theorem hexByte_injective {b b' : UInt8} (h : hexByte b = hexByte b') : b = b' := by
  simp only [hexByte, List.cons.injEq, and_true] at h
  rw [← unhex_hexByte b, h.1, h.2, unhex_hexByte]

theorem hexText_injective {binary binary' : Bytes} (h : hexText binary = hexText binary') :
    binary = binary' := by
  induction binary generalizing binary' with
  | nil =>
      have hlength := congrArg List.length h
      rw [hexText_length, hexText_length] at hlength
      exact (List.length_eq_zero_iff.mp (by simpa using hlength.symm)).symm
  | cons b binary ih =>
      cases binary' with
      | nil =>
          have hlength := congrArg List.length h
          rw [hexText_length, hexText_length] at hlength
          simp at hlength
      | cons b' binary' =>
          obtain ⟨hbyte, hrest⟩ := List.append_inj (h : hexByte b ++ hexText binary =
            hexByte b' ++ hexText binary') rfl
          rw [hexByte_injective hbyte, ih hrest]

theorem le_of_mem_hexByte {b c : UInt8} (h : c ∈ hexByte b) : 48 ≤ c.toNat := by
  have hdigits : 48 ≤ (hexDigit (b / 16)).toNat ∧ 48 ≤ (hexDigit (b % 16)).toNat :=
    forall_byte (P := fun b => 48 ≤ (hexDigit (b / 16)).toNat ∧ 48 ≤ (hexDigit (b % 16)).toNat)
      (by decide +kernel) b
  rcases List.mem_cons.mp h with rfl | h
  · exact hdigits.1
  · rcases List.mem_cons.mp h with rfl | h
    · exact hdigits.2
    · cases List.mem_singleton.mp h
      decide

theorem le_of_mem_hexText {binary : Bytes} {c : UInt8} (h : c ∈ hexText binary) :
    48 ≤ c.toNat := by
  obtain ⟨b, -, hb⟩ := List.mem_flatMap.mp h
  exact le_of_mem_hexByte hb

theorem dropLast_hexText {binary : Bytes} (h : binary ≠ []) :
    hexText binary = (hexText binary).dropLast ++ [0x3A] := by
  obtain ⟨init, b, hconcat⟩ := (List.eq_nil_or_concat binary).resolve_left h
  have htext : hexText binary =
      (hexText init ++ [hexDigit (b / 16), hexDigit (b % 16)]) ++ [0x3A] := by
    rw [hconcat, List.concat_eq_append, hexText_concat]
    simp [hexByte]
  rw [htext, List.dropLast_concat]

theorem dropLast_hexText_injective {binary binary' : Bytes} (h : binary ≠ []) (h' : binary' ≠ [])
    (heq : (hexText binary).dropLast = (hexText binary').dropLast) : binary = binary' := by
  apply hexText_injective
  rw [dropLast_hexText h, dropLast_hexText h', heq]

/-! ## The buffer -/

theorem writeHex_eq (pre rest : Bytes) {i : Nat} (hi : pre.length = i * 3) (binary : Bytes)
    (hrest : 3 * binary.length + 1 ≤ rest.length) :
    ∃ rest', writeHex (pre ++ rest) i binary = .ok (pre ++ hexText binary ++ rest') := by
  induction binary generalizing pre rest i with
  | nil => exact ⟨rest, by simp [writeHex, hexText]⟩
  | cons b binary ih =>
      rw [List.length_cons] at hrest
      have hfour : (hexByte b ++ [0]).length = 4 := rfl
      have hwrite := Byte.memcpy_fresh pre rest (hexByte b ++ [0]) (by omega)
      rw [hi] at hwrite
      have hpre : (pre ++ hexByte b).length = (i + 1) * 3 := by
        rw [List.length_append, hi]
        change i * 3 + 3 = _
        omega
      -- the next pass starts at the NUL of this one
      have hnext : pre ++ (hexByte b ++ [0]) ++ rest.drop (hexByte b ++ [0]).length =
          pre ++ hexByte b ++ (0 :: rest.drop 4) := by
        rw [hfour, List.append_assoc, List.append_assoc, List.append_assoc]
        rfl
      obtain ⟨rest', hrest'⟩ := ih (pre ++ hexByte b) (0 :: rest.drop 4) hpre (by
        rw [List.length_cons, List.length_drop]
        omega)
      refine ⟨rest', ?_⟩
      rw [writeHex, hwrite, hnext, Exec.ok_bind, hrest', hexText, hexText, List.flatMap_cons,
        ← List.append_assoc]

theorem lastColon_toNat {binary : Bytes} (hne : binary ≠ []) (hlength : binary.length ≤ 64) :
    (UInt32.ofNat binary.length * 3 - 1).toNat = (hexText binary).dropLast.length := by
  have hpos : 0 < binary.length := List.length_pos_iff.mpr hne
  have hmul : (UInt32.ofNat binary.length * 3).toNat = binary.length * 3 := by
    rw [UInt32.toNat_mul, UInt32.toNat_ofNat']
    simp only [UInt32.reduceToNat]
    omega
  rw [UInt32.toNat_sub_of_le, hmul, List.length_dropLast, hexText_length]
  · simp only [UInt32.reduceToNat]
    omega
  · rw [UInt32.le_iff_toNat_le, hmul]
    simp only [UInt32.reduceToNat]
    omega

/-- The conversion stays inside the buffer and leaves the digits without the last
colon. -/
theorem toHexFingerprint_eq (hexFingerprint : HexBuffer) {binary : Bytes} (hne : binary ≠ [])
    (hlength : binary.length ≤ 64) :
    toHexFingerprint hexFingerprint binary = .ok (ofAscii (hexText binary).dropLast) := by
  obtain ⟨rest, hwrite⟩ := writeHex_eq [] hexFingerprint.val (i := 0) rfl binary (by
    rw [hexFingerprint.property]
    omega)
  have hzero : 0 ∉ (hexText binary).dropLast := by
    intro hmem
    have hle := le_of_mem_hexText (List.dropLast_subset _ hmem)
    revert hle
    decide
  rw [List.nil_append, List.nil_append, dropLast_hexText hne, List.append_assoc] at hwrite
  have hstore : Byte.set1Byte ((hexText binary).dropLast ++ ([0x3A] ++ rest))
      (UInt32.ofNat binary.length * 3 - 1).toNat 0 = .ok ((hexText binary).dropLast ++ 0 :: rest) := by
    rw [lastColon_toNat hne hlength]
    exact store_append Fault.outOfBounds _ rest 0x3A 0
  simp only [toHexFingerprint, hwrite, Exec.ok_bind, hstore, cString_append hzero,
    Exec.pure_eq_ok]

/-! ## The announced fingerprints -/

section

variable {certificate : X509} {fingerprint : DtlsFingerprint}

/-- The fingerprint is the text of the certificate's digest. -/
def X509.Announces (certificate : X509) (fingerprint : DtlsFingerprint) : Prop :=
  fingerprint.algorithm ≠ .none ∧
    ∃ binary, certificate.digest fingerprint.algorithm = some binary ∧
      fingerprint.value = ofAscii (hexText binary).dropLast

theorem digestSize_range {algorithm : FingerprintAlgorithm} (h : algorithm ≠ .none) :
    0 < digestSize algorithm ∧ digestSize algorithm ≤ 64 := by
  cases algorithm with
  | none => exact (h rfl).elim
  | _ => decide

theorem X509.ne_nil_of_digest {algorithm : FingerprintAlgorithm} (hsome : algorithm ≠ .none)
    {binary : Bytes} (h : certificate.digest algorithm = some binary) : binary ≠ [] := by
  rw [← List.length_pos_iff, certificate.digest_length algorithm binary h]
  exact (digestSize_range hsome).1

theorem X509.toHexFingerprint_digest (hexFingerprint : HexBuffer)
    {algorithm : FingerprintAlgorithm} (hsome : algorithm ≠ .none) {binary : Bytes}
    (h : certificate.digest algorithm = some binary) :
    toHexFingerprint hexFingerprint binary = .ok (ofAscii (hexText binary).dropLast) := by
  apply toHexFingerprint_eq hexFingerprint (ne_nil_of_digest hsome h)
  rw [certificate.digest_length algorithm binary h]
  exact (digestSize_range hsome).2

theorem generateFingerprint_announces {hexFingerprint : HexBuffer}
    {kv : String × FingerprintAlgorithm} (hkv : kv ∈ string2FingerprintAlgorithm)
    (h : generateFingerprint certificate hexFingerprint kv.1 kv.2 = .ok fingerprint) :
    fingerprint.algorithm = kv.2 ∧ certificate.Announces fingerprint := by
  have htable : ∀ kv ∈ string2FingerprintAlgorithm,
      getFingerprintAlgorithm kv.1 = kv.2 ∧ kv.2 ≠ .none := by
    decide +kernel
  obtain ⟨hname, hsome⟩ := htable kv hkv
  have hpass : generateFingerprint certificate hexFingerprint kv.1 kv.2 =
      match certificate.digest kv.2 with
      | none => .error (.exception "Fingerprints generation failed")
      | some binary => (toHexFingerprint hexFingerprint binary).map fun value =>
          { algorithm := getFingerprintAlgorithm kv.1, value } := by
    unfold generateFingerprint
    cases halgorithm : kv.2 with
    | none => exact (hsome halgorithm).elim
    | _ => rfl
  rw [hpass] at h
  cases hdigest : certificate.digest kv.2 with
  | none =>
      rw [hdigest] at h
      cases h
  | some binary =>
      rw [hdigest] at h
      simp only [X509.toHexFingerprint_digest hexFingerprint hsome hdigest, Except.map] at h
      cases h
      simp only [X509.Announces, hname]
      exact ⟨trivial, hsome, binary, hdigest, rfl⟩

theorem mapM_announces {hexFingerprint : FingerprintAlgorithm → HexBuffer}
    {table : List (String × FingerprintAlgorithm)} (htable : table ⊆ string2FingerprintAlgorithm)
    {fingerprints : List DtlsFingerprint}
    (h : (table.mapM fun kv => generateFingerprint certificate (hexFingerprint kv.2) kv.1 kv.2) =
      .ok fingerprints) :
    fingerprints.map DtlsFingerprint.algorithm = table.map Prod.snd ∧
      ∀ fingerprint ∈ fingerprints, certificate.Announces fingerprint := by
  induction table generalizing fingerprints with
  | nil =>
      cases h
      exact ⟨rfl, fun _ hmem => (List.not_mem_nil hmem).elim⟩
  | cons kv table ih =>
      rw [List.mapM_cons, Exec.bind_eq_ok] at h
      obtain ⟨first, hfirst, h⟩ := h
      obtain ⟨rest, hrest, h⟩ := Exec.bind_eq_ok.mp h
      cases h
      obtain ⟨halgorithm, hannounces⟩ :=
        generateFingerprint_announces (htable List.mem_cons_self) hfirst
      obtain ⟨hmap, hall⟩ := ih (List.subset_of_cons_subset htable) hrest
      refine ⟨by rw [List.map_cons, List.map_cons, halgorithm, hmap], ?_⟩
      intro fingerprint hmem
      rcases List.mem_cons.mp hmem with rfl | hmem
      · exact hannounces
      · exact hall fingerprint hmem

theorem X509.Announces.check (h : certificate.Announces fingerprint) {d : DtlsTransport}
    (hd : d.remoteFingerprint = fingerprint) (peer : X509) (remoteCert : Bytes)
    (hexFingerprint : HexBuffer) :
    d.checkRemoteFingerprint (some ⟨peer, some remoteCert⟩) hexFingerprint =
      .ok (if peer.digest fingerprint.algorithm = certificate.digest fingerprint.algorithm then
        (true, { d with remoteCert }) else (false, d)) := by
  obtain ⟨hsome, binary, hdigest, hvalue⟩ := h
  rw [checkRemoteFingerprint, hd, if_neg hsome, hdigest]
  cases hpeer : peer.digest fingerprint.algorithm with
  | none => rfl
  | some binary' =>
      have hsame : fingerprint.value = ofAscii (hexText binary').dropLast ↔ binary' = binary := by
        rw [hvalue]
        constructor
        · intro heq
          exact (dropLast_hexText_injective (X509.ne_nil_of_digest hsome hdigest)
            (X509.ne_nil_of_digest hsome hpeer) (ofAscii_injective heq)).symm
        · rintro rfl
          rfl
      simp only [X509.toHexFingerprint_digest hexFingerprint hsome hpeer, Exec.ok_bind, Option.some.injEq,
        ne_eq, hsame]
      by_cases heq : binary' = binary
      · rw [if_pos heq, if_neg (not_not_intro heq)]
        rfl
      · rw [if_neg heq, if_pos heq]
        rfl

end

/-- A fingerprint names one digest. The server announces one fingerprint for each
algorithm, and whoever is given one of them accepts with it exactly the
certificates that have the digest of the server's certificate. -/
theorem fingerprint_names_digest (certificate : X509)
    (hexFingerprint : FingerprintAlgorithm → HexBuffer) {localFingerprints : List DtlsFingerprint}
    (h : generateFingerprints certificate hexFingerprint = .ok localFingerprints) :
    localFingerprints.map DtlsFingerprint.algorithm = [.sha1, .sha224, .sha256, .sha384, .sha512] ∧
      ∀ fingerprint ∈ localFingerprints, ∀ (d : DtlsTransport) (peer : X509) (remoteCert : Bytes)
        (peerFingerprint : HexBuffer), d.remoteFingerprint = fingerprint →
        d.checkRemoteFingerprint (some ⟨peer, some remoteCert⟩) peerFingerprint =
          .ok (if peer.digest fingerprint.algorithm = certificate.digest fingerprint.algorithm then
            (true, { d with remoteCert }) else (false, d)) := by
  obtain ⟨hmap, hannounces⟩ := mapM_announces (fun _ hkv => hkv) h
  refine ⟨hmap, ?_⟩
  intro fingerprint hmem d peer remoteCert peerFingerprint hd
  exact (hannounces fingerprint hmem).check hd peer remoteCert peerFingerprint

/-- A certificate whose digests count up from zero. -/
def sampleCertificate : X509 where
  digest algorithm := some ((List.range (digestSize algorithm)).map UInt8.ofNat)
  digest_length := by simp

def clearBuffer : HexBuffer := ⟨List.replicate 193 0, rfl⟩

theorem sampleCertificate_fingerprints :
    ∃ localFingerprints, generateFingerprints sampleCertificate (fun _ => clearBuffer) =
      .ok localFingerprints := by
  have hvalue : ∀ {algorithm}, algorithm ≠ .none →
      toHexFingerprint clearBuffer ((List.range (digestSize algorithm)).map UInt8.ofNat) =
        .ok (ofAscii (hexText ((List.range (digestSize algorithm)).map UInt8.ofNat)).dropLast) := by
    intro algorithm hsome
    have hdigest : sampleCertificate.digest algorithm =
      some ((List.range (digestSize algorithm)).map UInt8.ofNat) := rfl
    exact X509.toHexFingerprint_digest clearBuffer hsome hdigest
  simp only [generateFingerprints, string2FingerprintAlgorithm, List.mapM_cons, List.mapM_nil,
    generateFingerprint, sampleCertificate]
  rw [hvalue (by decide), hvalue (by decide), hvalue (by decide), hvalue (by decide),
    hvalue (by decide)]
  exact ⟨_, rfl⟩

theorem fingerprint_names_digest_sample :
    ∃ localFingerprints, generateFingerprints sampleCertificate (fun _ => clearBuffer) =
        .ok localFingerprints ∧
      localFingerprints.map DtlsFingerprint.algorithm =
        [.sha1, .sha224, .sha256, .sha384, .sha512] ∧
      ∀ fingerprint ∈ localFingerprints, ∀ (d : DtlsTransport) (peer : X509) (remoteCert : Bytes)
        (peerFingerprint : HexBuffer), d.remoteFingerprint = fingerprint →
        d.checkRemoteFingerprint (some ⟨peer, some remoteCert⟩) peerFingerprint =
          .ok (if peer.digest fingerprint.algorithm =
              sampleCertificate.digest fingerprint.algorithm then
            (true, { d with remoteCert }) else (false, d)) := by
  obtain ⟨localFingerprints, hlocal⟩ := sampleCertificate_fingerprints
  exact ⟨localFingerprints, hlocal, fingerprint_names_digest sampleCertificate _ hlocal⟩

end EasyWebRtc.Rtc.DtlsTransport
