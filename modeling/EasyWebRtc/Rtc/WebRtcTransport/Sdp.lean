import EasyWebRtc.Rtc.DtlsTransport.Fingerprints
import EasyWebRtc.Rtc.WebRtcTransport.Basic

/-!
# Session descriptions of `rtc/webrtc_transport.cc`

`GetLocalSdp` and `GetPublishSdp` print the description of a session into an
array on the stack. Nothing checks the length of the address, so the array has a
limit. Below it a reader finds the credentials, the fingerprint and the candidate
of the session, each once.
-/

namespace EasyWebRtc.Rtc.WebRtcTransport

open Octets Utils Text

/-- `ip_` and `port_`, which every transport of a process is given. -/
structure Host where
  ip : Bytes
  port : UInt16
  deriving DecidableEq, Repr

/-- `GetSHA256Fingerprint`: the first one, or the empty string. -/
def getSHA256Fingerprint (localFingerprints : List DtlsFingerprint) : String :=
  match localFingerprints.find? fun fingerprint => fingerprint.algorithm = .sha256 with
  | some fingerprint => fingerprint.value
  | none => ""

/-! ## The text -/

/-- The values of the line `a=candidate:%s 1 udp %u %s %d typ %s`. -/
def candidate (host : Host) : List Bytes :=
  [ascii "4", ascii "1", ascii "udp", decimal 12345678, cString host.ip, decimal host.port.toNat,
    ascii "typ", ascii "host"]

/-- The lines that both functions print, each as the text before its first value
and the rest. -/
def sdpLines (direction : String) (ssrcLines : List (String × Bytes)) (host : Host)
    (iceServer : IceServer) (fingerprint : String) : List (String × Bytes) :=
  [("v=0", []),
    ("o=- 1495799811084970 1495799811084970 IN IP4 ", cString host.ip),
    ("s=Streaming Test", []),
    ("t=0 0", []),
    ("a=group:BUNDLE 0", []),
    ("a=msid-semantic: WMS janus", []),
    ("m=video 1 RTP/SAVPF 96", []),
    ("c=IN IP4 ", cString host.ip),
    ("a=mid:0", []),
    (direction, []),
    ("a=rtcp-mux", []),
    ("a=ice-ufrag:", cString iceServer.usernameFragment),
    ("a=ice-pwd:", cString iceServer.password),
    ("a=ice-options:trickle", []),
    ("a=fingerprint:sha-256 ", cString (ascii fingerprint)),
    ("a=setup:actpass", []),
    ("a=connection:new", []),
    ("a=rtpmap:96 H264/90000", [])] ++ ssrcLines ++
  [("a=candidate:", [0x20].intercalate (candidate host))]

def localLines : Host → IceServer → String → List (String × Bytes) :=
  sdpLines "a=sendonly"
    [("a=ssrc:", decimal 12345678 ++ ascii " cname:janusvideo"),
      ("a=ssrc:", decimal 12345678 ++ ascii " msid:janus janusv0"),
      ("a=ssrc:", decimal 12345678 ++ ascii " mslabel:janus"),
      ("a=ssrc:", decimal 12345678 ++ ascii " label:janusv0")]

def publishLines : Host → IceServer → String → List (String × Bytes) := sdpLines "a=recvonly" []

/-- `sprintf` into `szsdp`, and the string made of it. -/
def printSdp (lines : List (String × Bytes)) : Exec Bytes := do
  let szsdp ← Byte.memcpy (List.replicate (1024 * 10) 0) 0 (unlines (labelled lines) ++ [0])
  return cString szsdp

section

variable {κ : Type}

def getLocalSdp (w : WebRtcTransport κ) (host : Host) (localFingerprints : List DtlsFingerprint) :
    Exec Bytes :=
  printSdp (localLines host w.iceServer (getSHA256Fingerprint localFingerprints))

def getPublishSdp (w : WebRtcTransport κ) (host : Host) (localFingerprints : List DtlsFingerprint) :
    Exec Bytes :=
  printSdp (publishLines host w.iceServer (getSHA256Fingerprint localFingerprints))

end

/-! ## A reader -/

/-- What a peer takes from a description: the values of its attributes and the
address and the port of its candidates. -/
structure Description where
  usernameFragments : List Bytes
  passwords : List Bytes
  fingerprints : List Bytes
  candidates : List (Bytes × Nat)
  deriving DecidableEq, Repr

/-- Address and port stand fifth and sixth. -/
def readCandidate (value : Bytes) : Bytes × Nat :=
  let words := value.splitOn 0x20
  (words.getD 4 [], ofDecimal (words.getD 5 []))

def readLines (ls : List Bytes) : Description where
  usernameFragments := values (ascii "a=ice-ufrag:") ls
  passwords := values (ascii "a=ice-pwd:") ls
  fingerprints := values (ascii "a=fingerprint:sha-256 ") ls
  candidates := (values (ascii "a=candidate:") ls).map readCandidate

def readSdp (sdp : Bytes) : Description := readLines (lines sdp)

def keys : List String := ["a=ice-ufrag:", "a=ice-pwd:", "a=fingerprint:sha-256 ", "a=candidate:"]

/-- A text that ends neither a string nor a line. -/
def Printable (bs : Bytes) : Prop := 0 ∉ bs ∧ 0x0A ∉ bs

instance (bs : Bytes) : Decidable (Printable bs) := inferInstanceAs (Decidable (_ ∧ _))

/-- The texts in a description are printable, and the address is one word. -/
structure SdpArguments (host : Host) (iceServer : IceServer) (fingerprint : String) : Prop where
  ip : Printable host.ip
  word : 0x20 ∉ host.ip
  usernameFragment : Printable iceServer.usernameFragment
  password : Printable iceServer.password
  fingerprint : Printable (ascii fingerprint)

/-- The result is a text of this size that a peer reads so, or the array is too
short for it. -/
def Prints (result : Exec Bytes) (size : Nat) (description : Description) : Prop :=
  if size < 1024 * 10 then
    ∃ sdp, result = .ok sdp ∧ sdp.length = size ∧ readSdp sdp = description
  else result = .error .outOfBounds

/-! ## Printing -/

section

variable {fields : List (String × Bytes)}

theorem not_mem_labelled {b : UInt8} (hfields : ∀ f ∈ fields, b ∉ ascii f.1 ∧ b ∉ f.2) :
    ∀ l ∈ labelled fields, b ∉ l := by
  intro l hl
  obtain ⟨f, hf, rfl⟩ := List.mem_map.mp hl
  rw [List.mem_append, not_or]
  exact hfields f hf

theorem printSdp_prints (hfields : ∀ f ∈ fields, Printable (ascii f.1) ∧ Printable f.2) :
    Prints (printSdp fields) (unlines (labelled fields)).length (readLines (labelled fields)) := by
  have hzero : 0 ∉ unlines (labelled fields) := by
    intro hmem
    rcases mem_unlines hmem with ⟨l, hl, hb⟩ | hb
    · exact not_mem_labelled (fun f hf => ⟨(hfields f hf).1.1, (hfields f hf).2.1⟩) l hl hb
    · revert hb
      decide
  have hlines : lines (unlines (labelled fields)) = labelled fields :=
    lines_unlines (not_mem_labelled fun f hf => ⟨(hfields f hf).1.2, (hfields f hf).2.2⟩)
  rw [Prints]
  split
  · rename_i hsize
    refine ⟨unlines (labelled fields), ?_, rfl, by rw [readSdp, hlines]⟩
    have hwrite := Byte.memcpy_fresh [] (List.replicate (1024 * 10) 0)
      (unlines (labelled fields) ++ [0])
      (by rw [List.length_append, List.length_singleton, List.length_replicate]; exact hsize)
    rw [List.nil_append, List.nil_append, List.length_nil, List.append_assoc] at hwrite
    rw [printSdp, hwrite, Exec.ok_bind, List.singleton_append, cString_append hzero]
    rfl
  · rename_i hsize
    have hwrite := storeAll_overflow Fault.outOfBounds (List.replicate (1024 * 10) 0)
      (unlines (labelled fields) ++ [0]) (Nat.zero_le _) (by
        rw [List.length_append, List.length_singleton, List.length_replicate]
        omega)
    rw [printSdp, Byte.memcpy, hwrite]
    rfl

/-- A reader tells the attributes that it looks for from all others. -/
theorem readLines_labelled
    (h : ∀ key ∈ keys, ∀ label ∈ fields.map Prod.fst,
      label = key ∨ Apart (ascii key) (ascii label) = true) :
    readLines (labelled fields) = {
      usernameFragments := (fields.filter fun f => f.1 = "a=ice-ufrag:").map Prod.snd
      passwords := (fields.filter fun f => f.1 = "a=ice-pwd:").map Prod.snd
      fingerprints := (fields.filter fun f => f.1 = "a=fingerprint:sha-256 ").map Prod.snd
      candidates := ((fields.filter fun f => f.1 = "a=candidate:").map Prod.snd).map
        readCandidate } := by
  simp only [keys, List.forall_mem_cons] at h
  obtain ⟨hufrag, hpwd, hfingerprint, hcandidate, -⟩ := h
  rw [readLines, values_labelled hufrag, values_labelled hpwd, values_labelled hfingerprint,
    values_labelled hcandidate]

end

section

variable {host : Host} {iceServer : IceServer} {fingerprint : String}

theorem printable_decimal (n : Nat) : Printable (decimal n) := by
  constructor
  · intro hmem
    have hdigit := (digit_of_mem_decimal hmem).1
    revert hdigit
    decide
  · intro hmem
    have hdigit := (digit_of_mem_decimal hmem).1
    revert hdigit
    decide

theorem printable_candidate (hip : Printable host.ip) :
    Printable ([0x20].intercalate (candidate host)) := by
  have hwords : ∀ word ∈ candidate host, Printable word := by
    simp only [candidate, List.forall_mem_cons, cString_of_not_mem hip.1]
    exact ⟨by decide +kernel, by decide +kernel, by decide +kernel, printable_decimal _, hip,
      printable_decimal _, by decide +kernel, by decide +kernel,
      fun _ hmem => (List.not_mem_nil hmem).elim⟩
  exact ⟨not_mem_intercalate (by decide) fun word hword => (hwords word hword).1,
    not_mem_intercalate (by decide) fun word hword => (hwords word hword).2⟩

/-- The bytes that the values take, apart from those of the SSRC lines. -/
def valuesSize (host : Host) (iceServer : IceServer) (fingerprint : String) : Nat :=
  3 * host.ip.length + iceServer.usernameFragment.length + iceServer.password.length +
    (ascii fingerprint).length + (decimal host.port.toNat).length

theorem candidate_length (hip : Printable host.ip) :
    ([0x20].intercalate (candidate host)).length =
      27 + host.ip.length + (decimal host.port.toNat).length := by
  have hnumber : (decimal 12345678).length = 8 := by decide +kernel
  have htexts : (ascii "4").length = 1 ∧ (ascii "1").length = 1 ∧ (ascii "udp").length = 3 ∧
      (ascii "typ").length = 3 ∧ (ascii "host").length = 4 := by
    decide +kernel
  simp only [candidate, List.intercalate_cons_cons, List.intercalate_singleton, List.length_append,
    List.length_singleton, cString_of_not_mem hip.1, hnumber, htexts]
  omega

theorem readCandidate_candidate (h : SdpArguments host iceServer fingerprint) :
    readCandidate ([0x20].intercalate (candidate host)) = (host.ip, host.port.toNat) := by
  have hip : cString host.ip = host.ip := cString_of_not_mem h.ip.1
  have hwords : ∀ word ∈ candidate host, (0x20 : UInt8) ∉ word := by
    have hport : (0x20 : UInt8) ∉ decimal host.port.toNat := by
      intro hmem
      have hdigit := (digit_of_mem_decimal hmem).1
      revert hdigit
      decide
    simp only [candidate, List.forall_mem_cons, hip]
    exact ⟨by decide +kernel, by decide +kernel, by decide +kernel, by decide +kernel, h.word, hport,
      by decide +kernel, by decide +kernel, fun _ hmem => (List.not_mem_nil hmem).elim⟩
  rw [readCandidate, List.splitOn_intercalate 0x20 hwords (List.cons_ne_nil _ _)]
  simp [candidate, hip]

def description (host : Host) (iceServer : IceServer) (fingerprint : String) : Description where
  usernameFragments := [iceServer.usernameFragment]
  passwords := [iceServer.password]
  fingerprints := [ascii fingerprint]
  candidates := [(host.ip, host.port.toNat)]

/-- Nothing in the lines in which the two functions differ is read for one of the
attributes. -/
structure OtherLines (direction : String) (ssrcLines : List (String × Bytes)) : Prop where
  printable : Printable (ascii direction)
  ssrcPrintable : ∀ f ∈ ssrcLines, Printable (ascii f.1) ∧ Printable f.2
  apart : ∀ key ∈ keys, ∀ label ∈ direction :: ssrcLines.map Prod.fst,
    Apart (ascii key) (ascii label) = true

def commonLabels : List String :=
  ["v=0", "o=- 1495799811084970 1495799811084970 IN IP4 ", "s=Streaming Test", "t=0 0",
    "a=group:BUNDLE 0", "a=msid-semantic: WMS janus", "m=video 1 RTP/SAVPF 96", "c=IN IP4 ",
    "a=mid:0", "a=rtcp-mux", "a=ice-ufrag:", "a=ice-pwd:", "a=ice-options:trickle",
    "a=fingerprint:sha-256 ", "a=setup:actpass", "a=connection:new", "a=rtpmap:96 H264/90000",
    "a=candidate:"]

variable {direction : String} {ssrcLines : List (String × Bytes)}

theorem labels_sdpLines :
    (sdpLines direction ssrcLines host iceServer fingerprint).map Prod.fst =
      commonLabels.take 9 ++ direction :: (commonLabels.drop 9).take 8 ++ ssrcLines.map Prod.fst ++
        commonLabels.drop 17 := by
  rw [sdpLines, List.map_append, List.map_append]
  rfl

theorem sdpLines_printable (hother : OtherLines direction ssrcLines)
    (h : SdpArguments host iceServer fingerprint) :
    ∀ f ∈ sdpLines direction ssrcLines host iceServer fingerprint,
      Printable (ascii f.1) ∧ Printable f.2 := by
  have hnil : Printable [] := by decide
  have hlabels : ∀ label ∈ commonLabels, Printable (ascii label) := by decide +kernel
  simp only [commonLabels, List.forall_mem_cons] at hlabels
  simp only [sdpLines, List.forall_mem_append, List.forall_mem_cons, hlabels, hnil,
    hother.printable, cString_of_not_mem h.ip.1, cString_of_not_mem h.usernameFragment.1,
    cString_of_not_mem h.password.1, cString_of_not_mem h.fingerprint.1, h.ip, h.usernameFragment,
    h.password, h.fingerprint, printable_candidate h.ip, true_and, and_true]
  exact ⟨⟨fun _ hmem => (List.not_mem_nil hmem).elim, hother.ssrcPrintable⟩,
    fun _ hmem => (List.not_mem_nil hmem).elim⟩

theorem sdpLines_size (h : SdpArguments host iceServer fingerprint) :
    (unlines (labelled (sdpLines direction ssrcLines host iceServer fingerprint))).length =
      (354 + (ascii direction).length +
        (ssrcLines.map fun f => (ascii f.1).length + f.2.length + 2).sum) +
      valuesSize host iceServer fingerprint := by
  have hlabels : (commonLabels.map fun label => (ascii label).length) =
      [3, 45, 16, 5, 16, 26, 22, 9, 7, 10, 12, 10, 21, 22, 15, 16, 22, 12] := by
    decide +kernel
  simp only [commonLabels, List.map_cons, List.map_nil, List.cons.injEq] at hlabels
  simp only [unlines_labelled_length, sdpLines, List.map_append, List.map_cons, List.map_nil,
    List.sum_append, List.sum_cons, List.sum_nil, List.length_nil, hlabels, candidate_length h.ip,
    cString_of_not_mem h.ip.1, cString_of_not_mem h.usernameFragment.1,
    cString_of_not_mem h.password.1, cString_of_not_mem h.fingerprint.1, valuesSize]
  omega

theorem readLines_sdpLines (hother : OtherLines direction ssrcLines)
    (h : SdpArguments host iceServer fingerprint) :
    readLines (labelled (sdpLines direction ssrcLines host iceServer fingerprint)) =
      description host iceServer fingerprint := by
  have hcommon : ∀ key ∈ keys, ∀ label ∈ commonLabels,
      label = key ∨ Apart (ascii key) (ascii label) = true := by
    decide +kernel
  have hne : ∀ key ∈ keys, ∀ label ∈ direction :: ssrcLines.map Prod.fst, label ≠ key := by
    rintro key hkey label hlabel rfl
    have hself := hother.apart label hkey label hlabel
    rw [not_apart_self] at hself
    cases hself
  have hssrc : ∀ key ∈ keys, ssrcLines.filter (fun f => f.1 = key) = [] := by
    intro key hkey
    rw [List.filter_eq_nil_iff]
    intro f hf
    simpa using hne key hkey f.1 (List.mem_cons_of_mem _ (List.mem_map_of_mem hf))
  have hdirection : ∀ key ∈ keys, direction ≠ key := fun key hkey =>
    hne key hkey direction List.mem_cons_self
  simp only [keys, List.forall_mem_cons] at hssrc hdirection
  rw [readLines_labelled]
  · simp [sdpLines, description, readCandidate_candidate h, hssrc, hdirection,
      cString_of_not_mem h.usernameFragment.1, cString_of_not_mem h.password.1,
      cString_of_not_mem h.fingerprint.1]
  · intro key hkey label hlabel
    rw [labels_sdpLines, List.mem_append, List.mem_append, List.mem_append] at hlabel
    rcases hlabel with ((hlabel | hlabel) | hlabel) | hlabel
    · exact hcommon key hkey label (List.mem_of_mem_take hlabel)
    · rcases List.mem_cons.mp hlabel with rfl | hlabel
      · exact .inr (hother.apart key hkey label List.mem_cons_self)
      · exact hcommon key hkey label (List.mem_of_mem_drop (List.mem_of_mem_take hlabel))
    · exact .inr (hother.apart key hkey label (List.mem_cons_of_mem _ hlabel))
    · exact hcommon key hkey label (List.mem_of_mem_drop hlabel)

theorem sdpLines_prints (hother : OtherLines direction ssrcLines)
    (h : SdpArguments host iceServer fingerprint) :
    Prints (printSdp (sdpLines direction ssrcLines host iceServer fingerprint))
      ((354 + (ascii direction).length +
        (ssrcLines.map fun f => (ascii f.1).length + f.2.length + 2).sum) +
        valuesSize host iceServer fingerprint)
      (description host iceServer fingerprint) := by
  rw [← sdpLines_size h, ← readLines_sdpLines hother h]
  exact printSdp_prints (sdpLines_printable hother h)

end

theorem Prints.read {result : Exec Bytes} {size : Nat} {description : Description} {sdp : Bytes}
    (h : Prints result size description) (hsdp : result = .ok sdp) :
    readSdp sdp = description := by
  rw [Prints] at h
  split at h
  · obtain ⟨sdp', hsdp', -, hread⟩ := h
    cases hsdp.symm.trans hsdp'
    exact hread
  · cases hsdp.symm.trans h

theorem Prints.ok {result : Exec Bytes} {size : Nat} {description : Description}
    (h : Prints result size description) (hsize : size < 1024 * 10) : ∃ sdp, result = .ok sdp := by
  rw [Prints, if_pos hsize] at h
  exact ⟨h.choose, h.choose_spec.1⟩

section

variable {κ : Type} {w : WebRtcTransport κ} {host : Host}
  {localFingerprints : List DtlsFingerprint} {fingerprint : String}

theorem getLocalSdp_prints (hfingerprint : getSHA256Fingerprint localFingerprints = fingerprint)
    (h : SdpArguments host w.iceServer fingerprint) :
    Prints (w.getLocalSdp host localFingerprints) (496 + valuesSize host w.iceServer fingerprint)
      (description host w.iceServer fingerprint) := by
  rw [getLocalSdp, hfingerprint]
  exact sdpLines_prints ⟨by decide +kernel, by decide +kernel, by decide +kernel⟩ h

theorem getPublishSdp_prints (hfingerprint : getSHA256Fingerprint localFingerprints = fingerprint)
    (h : SdpArguments host w.iceServer fingerprint) :
    Prints (w.getPublishSdp host localFingerprints) (364 + valuesSize host w.iceServer fingerprint)
      (description host w.iceServer fingerprint) := by
  rw [getPublishSdp, hfingerprint]
  exact sdpLines_prints ⟨by decide +kernel, by decide +kernel, by decide +kernel⟩ h

/-- Of the announced fingerprints the one for SHA-256 is printed. -/
theorem getSHA256Fingerprint_eq {certificate : DtlsTransport.X509}
    {hexFingerprint : FingerprintAlgorithm → DtlsTransport.HexBuffer}
    (h : DtlsTransport.generateFingerprints certificate hexFingerprint = .ok localFingerprints) :
    ∃ binary, certificate.digest .sha256 = some binary ∧
      (DtlsTransport.hexText binary).dropLast.length = 95 ∧
      getSHA256Fingerprint localFingerprints = ofAscii (DtlsTransport.hexText binary).dropLast := by
  obtain ⟨halgorithms, hannounces⟩ := DtlsTransport.mapM_announces (fun _ hkv => hkv) h
  have hsha256 : FingerprintAlgorithm.sha256 ∈ localFingerprints.map DtlsFingerprint.algorithm := by
    rw [halgorithms]
    decide
  obtain ⟨announced, hmem, halgorithm⟩ := List.mem_map.mp hsha256
  cases hfind : localFingerprints.find? fun fingerprint => fingerprint.algorithm = .sha256 with
  | none =>
      have hno := List.find?_eq_none.mp hfind announced hmem
      exact (hno (decide_eq_true halgorithm)).elim
  | some fingerprint =>
      have hfound : fingerprint.algorithm = .sha256 := by simpa using List.find?_some hfind
      obtain ⟨-, binary, hdigest, hvalue⟩ :=
        hannounces fingerprint (List.mem_of_find?_eq_some hfind)
      rw [hfound] at hdigest
      refine ⟨binary, hdigest, ?_, ?_⟩
      · rw [List.length_dropLast, DtlsTransport.hexText_length,
          certificate.digest_length .sha256 binary hdigest]
        rfl
      · rw [getSHA256Fingerprint, hfind]
        exact hvalue

theorem printable_hexText (binary : Bytes) :
    Printable (DtlsTransport.hexText binary).dropLast := by
  constructor
  · intro hmem
    exact absurd (DtlsTransport.le_of_mem_hexText (List.dropLast_subset _ hmem)) (by decide)
  · intro hmem
    exact absurd (DtlsTransport.le_of_mem_hexText (List.dropLast_subset _ hmem)) (by decide)

end

/-- Descriptions are read back. `GetLocalSdp` and `GetPublishSdp` print texts in
which a peer finds the credentials, the digest of the certificate and the address
of the session, each once, or overflow their array, exactly if the address and the
credentials are too long for it. -/
theorem sdp_read_back {κ : Type} (w : WebRtcTransport κ) (host : Host)
    (certificate : DtlsTransport.X509)
    (hexFingerprint : FingerprintAlgorithm → DtlsTransport.HexBuffer)
    {localFingerprints : List DtlsFingerprint}
    (hfingerprints :
      DtlsTransport.generateFingerprints certificate hexFingerprint = .ok localFingerprints)
    (hip : Printable host.ip) (hword : 0x20 ∉ host.ip)
    (husernameFragment : Printable w.iceServer.usernameFragment)
    (hpassword : Printable w.iceServer.password) :
    ∃ binary, certificate.digest .sha256 = some binary ∧
      Prints (w.getLocalSdp host localFingerprints)
        (591 + 3 * host.ip.length + w.iceServer.usernameFragment.length +
          w.iceServer.password.length + (decimal host.port.toNat).length)
        ⟨[w.iceServer.usernameFragment], [w.iceServer.password],
          [(DtlsTransport.hexText binary).dropLast], [(host.ip, host.port.toNat)]⟩ ∧
      Prints (w.getPublishSdp host localFingerprints)
        (459 + 3 * host.ip.length + w.iceServer.usernameFragment.length +
          w.iceServer.password.length + (decimal host.port.toNat).length)
        ⟨[w.iceServer.usernameFragment], [w.iceServer.password],
          [(DtlsTransport.hexText binary).dropLast], [(host.ip, host.port.toNat)]⟩ := by
  obtain ⟨binary, hdigest, hlength, hvalue⟩ := getSHA256Fingerprint_eq hfingerprints
  have harguments : SdpArguments host w.iceServer
      (ofAscii (DtlsTransport.hexText binary).dropLast) :=
    ⟨hip, hword, husernameFragment, hpassword, by
      rw [ascii_ofAscii]
      exact printable_hexText binary⟩
  have hlocal := getLocalSdp_prints hvalue harguments
  have hpublish := getPublishSdp_prints hvalue harguments
  rw [valuesSize, description, ascii_ofAscii, hlength] at hlocal hpublish
  refine ⟨binary, hdigest, ?_, ?_⟩
  · convert hlocal using 1
    omega
  · convert hpublish using 1
    omega

/-- The default address of the programs under `example/`. -/
def loopback : Host := ⟨ascii "127.0.0.1", 10000⟩

def sampleTransport : WebRtcTransport Unit := create (ascii "9x3k") (ascii "p4ssw0rd") ⟨0, 0⟩

theorem sdp_read_back_loopback :
    ∃ localFingerprints binary sdp,
      DtlsTransport.generateFingerprints DtlsTransport.sampleCertificate
        (fun _ => DtlsTransport.clearBuffer) = .ok localFingerprints ∧
      DtlsTransport.sampleCertificate.digest .sha256 = some binary ∧
      sampleTransport.getLocalSdp loopback localFingerprints = .ok sdp ∧
      readSdp sdp = ⟨[ascii "9x3k"], [ascii "p4ssw0rd"],
        [(DtlsTransport.hexText binary).dropLast], [(ascii "127.0.0.1", 10000)]⟩ := by
  obtain ⟨localFingerprints, hlocal⟩ := DtlsTransport.sampleCertificate_fingerprints
  obtain ⟨binary, hdigest, hprints, -⟩ := sdp_read_back sampleTransport loopback
    DtlsTransport.sampleCertificate _ hlocal (by decide +kernel) (by decide +kernel)
    (by decide +kernel) (by decide +kernel)
  obtain ⟨sdp, hsdp⟩ := hprints.ok (by decide +kernel)
  exact ⟨localFingerprints, binary, sdp, hlocal, hdigest, hsdp, hprints.read hsdp⟩

end EasyWebRtc.Rtc.WebRtcTransport
