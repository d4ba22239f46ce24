import EasyWebRtc.Rtc.WebRtcTransport.Admission
import EasyWebRtc.Rtc.WebRtcTransport.Sdp
import EasyWebRtc.Session.Fragments
import EasyWebRtc.Session.Refinement

/-!
# Signalling

The programs under `example/` answer each HTTP request for `/webrtc` with the
description of a new session. Whoever reads such an answer knows the credentials of
that session, whatever happens to the server afterwards, and the name in it leads
to the session unless an older answer has the same name.
-/

namespace EasyWebRtc.Session

open Octets Utils Rtc Net Traced Text

/-! ## Lookup -/

def Sorted (entries : List (Bytes × SessionId)) : Prop :=
  entries.Pairwise fun entry entry' => entry.1 < entry'.1

theorem Sorted.insertSession {key : Bytes} {session : SessionId}
    {entries : List (Bytes × SessionId)} (h : Sorted entries) :
    Sorted (insertSession key session entries) := by
  induction entries with
  | nil => exact List.pairwise_singleton _ _
  | cons first entries ih =>
      obtain ⟨hfirst, hrest⟩ := List.pairwise_cons.mp h
      unfold Session.insertSession
      split
      · exact h
      · rename_i hne
        split
        · rename_i hlt
          refine List.pairwise_cons.mpr ⟨?_, h⟩
          intro entry hentry
          rcases List.mem_cons.mp hentry with rfl | hentry
          · exact hlt
          · exact List.lt_trans hlt (hfirst entry hentry)
        · rename_i hle
          refine List.pairwise_cons.mpr ⟨?_, ih hrest⟩
          intro entry hentry
          rcases mem_insertSession hentry with rfl | hentry
          · exact Std.lt_of_le_of_ne hle fun heq => hne heq.symm
          · exact hfirst entry hentry

/-- `std::map::find`. -/
def lookup (entries : List (Bytes × SessionId)) (key : Bytes) : Option SessionId :=
  (entries.find? fun entry => entry.1 = key).map Prod.snd

theorem lookup_cons (entry : Bytes × SessionId) (entries : List (Bytes × SessionId)) (key : Bytes) :
    lookup (entry :: entries) key = if entry.1 = key then some entry.2 else lookup entries key := by
  unfold lookup
  rw [List.find?_cons]
  by_cases h : entry.1 = key <;> simp [h]

theorem lookup_eq_none {entries : List (Bytes × SessionId)} {key : Bytes}
    (h : ∀ entry ∈ entries, key < entry.1) : lookup entries key = none := by
  have hfind : (entries.find? fun entry => entry.1 = key) = none := by
    rw [List.find?_eq_none]
    intro entry hentry heq
    have hlt := h entry hentry
    rw [of_decide_eq_true heq] at hlt
    exact List.lt_irrefl key hlt
  rw [lookup, hfind]
  rfl

theorem lookup_insertSession {entries : List (Bytes × SessionId)} (h : Sorted entries)
    (key : Bytes) (session : SessionId) (other : Bytes) :
    lookup (insertSession key session entries) other =
      (lookup entries other).or (if key = other then some session else none) := by
  induction entries with
  | nil =>
      unfold insertSession
      rw [lookup_cons]
      rfl
  | cons first entries ih =>
      obtain ⟨hfirst, hrest⟩ := List.pairwise_cons.mp h
      unfold insertSession
      split
      · rename_i heq
        rw [lookup_cons]
        by_cases hother : first.1 = other
        · rw [if_pos hother]
          rfl
        · rw [if_neg hother, if_neg (heq.trans_ne hother), Option.or_none]
      · rename_i hne
        split
        · rename_i hlt
          rw [lookup_cons]
          by_cases hother : key = other
          · have hnone : lookup (first :: entries) other = none := by
              apply lookup_eq_none
              intro entry hentry
              rw [← hother]
              rcases List.mem_cons.mp hentry with rfl | hentry
              · exact hlt
              · exact List.lt_trans hlt (hfirst entry hentry)
            rw [if_pos hother, hnone, if_pos hother]
            rfl
          · rw [if_neg hother, if_neg hother, Option.or_none]
        · rw [lookup_cons, lookup_cons, ih hrest]
          by_cases hother : first.1 = other
          · rw [if_pos hother, if_pos hother]
            rfl
          · rw [if_neg hother, if_neg hother]

theorem sorted_registry (keys : List Bytes) : Sorted (registry keys) := by
  induction keys using List.reverseRecOn with
  | nil => exact List.Pairwise.nil
  | append_singleton keys key ih =>
      rw [registry_concat]
      exact ih.insertSession

/-- Of the sessions with one key the map finds the oldest. -/
theorem lookup_registry (keys : List Bytes) (key : Bytes) :
    lookup (registry keys) key = keys.findIdx? fun other => other = key := by
  induction keys using List.reverseRecOn with
  | nil => rfl
  | append_singleton keys last ih =>
      rw [registry_concat, lookup_insertSession (sorted_registry keys), ih, List.findIdx?_append]
      by_cases h : last = key <;> simp [h]

theorem getWebRTCSession_eq_some_iff {s : System} (hregistry : s.rtcSessions = registry s.keys)
    {session : SessionId} {key : Bytes} (hkey : s.keys[session]? = some key) :
    s.getWebRTCSession key = some session ↔ key ∉ s.keys.take session := by
  have hfind : s.getWebRTCSession key = s.keys.findIdx? fun other => other = key := by
    rw [← lookup_registry, ← hregistry]
    rfl
  obtain ⟨hlt, hget⟩ := List.getElem?_eq_some_iff.mp hkey
  rw [hfind, List.findIdx?_eq_some_iff_getElem]
  constructor
  · rintro ⟨_, -, hno⟩ hmem
    obtain ⟨j, hj, hsame⟩ := List.mem_take_iff_getElem.mp hmem
    exact hno j (by omega) (by simpa using hsame)
  · intro hno
    refine ⟨hlt, by simpa using hget, ?_⟩
    intro j hj
    have hne : s.keys[j] ≠ key := fun hsame =>
      hno (List.mem_take_iff_getElem.mpr ⟨j, by omega, hsame⟩)
    simpa using hne

/-! ## Random credentials -/

theorem randomChars_spec (n : Nat) (seed : UInt32) :
    (Crypto.randomChars n seed).1.length = n ∧
      ∀ b ∈ (Crypto.randomChars n seed).1, b ∈ Crypto.chars.toList := by
  have hall : ∀ i < 36, Crypto.chars.getD i 0 ∈ Crypto.chars.toList := by decide
  obtain ⟨indices, htext⟩ := exists_textAt n seed
  rw [htext, textAt]
  refine ⟨List.length_ofFn, ?_⟩
  intro b hb
  obtain ⟨i, rfl⟩ := List.mem_ofFn.mp hb
  exact hall (indices i) (indices i).isLt

/-- Credentials as the generator draws them. -/
structure Drawn (usernameFragment password : Bytes) : Prop where
  usernameFragment_length : usernameFragment.length = 4
  password_length : password.length = 24
  usernameFragment_chars : ∀ b ∈ usernameFragment, b ∈ Crypto.chars.toList
  password_chars : ∀ b ∈ password, b ∈ Crypto.chars.toList

theorem drawn_randomCredentials (order : ArgumentOrder) (seed : UInt32) :
    Drawn (randomCredentials order seed).usernameFragment
      (randomCredentials order seed).password := by
  have hfour : ∀ seed, Crypto.getRandomString seed 4 = Crypto.randomChars 4 seed := fun _ => rfl
  have htwenty : ∀ seed, Crypto.getRandomString seed 24 = Crypto.randomChars 24 seed :=
    fun _ => rfl
  cases order with
  | leftToRight =>
      simp only [randomCredentials, hfour, htwenty]
      exact ⟨(randomChars_spec 4 _).1, (randomChars_spec 24 _).1, (randomChars_spec 4 _).2,
        (randomChars_spec 24 _).2⟩
  | rightToLeft =>
      simp only [randomCredentials, hfour, htwenty]
      exact ⟨(randomChars_spec 4 _).1, (randomChars_spec 24 _).1, (randomChars_spec 4 _).2,
        (randomChars_spec 24 _).2⟩

theorem printable_of_chars {bs : Bytes} (h : ∀ b ∈ bs, b ∈ Crypto.chars.toList) :
    WebRtcTransport.Printable bs :=
  ⟨fun hmem => absurd (h _ hmem) (by decide), fun hmem => absurd (h _ hmem) (by decide)⟩

/-! ## The programs -/

/-- `example/rtp_src_example.cc` and `example/publish.cc`. -/
inductive Program where
  | rtpSrcExample
  | publish
  deriving DecidableEq, Repr

/-- What does not change while the program runs. -/
structure Settings where
  program : Program
  host : WebRtcTransport.Host
  localFingerprints : List DtlsFingerprint
  platform : Platform
  getNextLoop : Nat → LoopId
  order : ArgumentOrder

/-- The process and the bodies of its HTTP answers, oldest first. -/
structure Server where
  process : Process
  bodies : List Bytes := []

/-- An HTTP request, or any input that creates no session. -/
inductive ServerInput where
  | httpRequest (path : String) (uninitialised : SockAddrIn)
  | other (input : Input) (h : input.creates = false)

/-- The callback for `/webrtc`. The description is printed for the answer and once
more for the console. -/
def Settings.answer (settings : Settings) (p : Process) (uninitialised : SockAddrIn) :
    Call (Process × Bytes) := do
  let session := p.system.sessions.length
  let p ← p.step settings.platform settings.getNextLoop settings.order
    (.createWebRTCSession uninitialised)
  match p.system.sessions[session]? with
  | none => Traced.fail .nullPointer
  | some rtcSession =>
      match settings.program with
      | .rtpSrcExample =>
          let body ← Traced.lift (rtcSession.webrtcTransport.getLocalSdp settings.host
            settings.localFingerprints)
          return (p, body)
      | .publish =>
          let body ← Traced.lift (rtcSession.webrtcTransport.getPublishSdp settings.host
            settings.localFingerprints)
          let p ← p.step settings.platform settings.getNextLoop settings.order
            (.other (.setRTPChannel session true) rfl)
          return (p, body)

def Server.step (settings : Settings) (s : Server) : ServerInput → Call Server
  | .httpRequest path uninitialised => do
      if path = "/webrtc" then
        let (process, body) ← settings.answer s.process uninitialised
        return { process, bodies := s.bodies ++ [body] }
      else return s
  | .other input h => do
      let process ← s.process.step settings.platform settings.getNextLoop settings.order
        (.other input h)
      return { s with process }

/-! ## Answers -/

/-- A server that prints what a peer can read. -/
structure Settings.Printable (settings : Settings) : Prop where
  ip : WebRtcTransport.Printable settings.host.ip
  word : 0x20 ∉ settings.host.ip
  fingerprint : WebRtcTransport.Printable
    (ascii (WebRtcTransport.getSHA256Fingerprint settings.localFingerprints))

theorem Settings.printable {settings : Settings} {certificate : DtlsTransport.X509}
    {hexFingerprint : FingerprintAlgorithm → DtlsTransport.HexBuffer}
    (hfingerprints : DtlsTransport.generateFingerprints certificate hexFingerprint =
      .ok settings.localFingerprints)
    (hip : WebRtcTransport.Printable settings.host.ip) (hword : 0x20 ∉ settings.host.ip) :
    settings.Printable := by
  obtain ⟨binary, -, -, hvalue⟩ := WebRtcTransport.getSHA256Fingerprint_eq hfingerprints
  refine ⟨hip, hword, ?_⟩
  rw [hvalue, ascii_ofAscii]
  exact WebRtcTransport.printable_hexText binary

def Tells (settings : Settings) (body : Bytes) (rtcSession : WebRTCSession) : Prop :=
  ∃ usernameFragment password, Drawn usernameFragment password ∧
    WebRtcTransport.Admits usernameFragment password rtcSession.webrtcTransport ∧
    WebRtcTransport.readSdp body = {
      usernameFragments := [usernameFragment]
      passwords := [password]
      fingerprints := [ascii (WebRtcTransport.getSHA256Fingerprint settings.localFingerprints)]
      candidates := [(settings.host.ip, settings.host.port.toNat)] }

/-- There is one answer for each session and it tells its credentials. -/
structure Answered (settings : Settings) (seed : UInt32) (s : Server) : Prop where
  built : Built settings.order seed s.process
  length : s.bodies.length = s.process.system.sessions.length
  tells : ∀ (session : SessionId) body rtcSession, s.bodies[session]? = some body →
    s.process.system.sessions[session]? = some rtcSession → Tells settings body rtcSession

section

variable {settings : Settings} {seed : UInt32}

theorem Tells.runs {body : Bytes} {rtcSession rtcSession' : WebRTCSession}
    {calls : List TransportInput} {events : List (WebRtcEvent NetworkTransport)}
    (h : Tells settings body rtcSession)
    (hruns : Runs (WebRtcTransport.step settings.platform) rtcSession.webrtcTransport calls events
      rtcSession'.webrtcTransport) : Tells settings body rtcSession' := by
  obtain ⟨usernameFragment, password, hdrawn, hadmits, hread⟩ := h
  exact ⟨usernameFragment, password, hdrawn, hruns.inv (fun w call _ hw => hw.step call) hadmits,
    hread⟩

theorem Answered.other {s : Server} (h : Answered settings seed s) {input : Input}
    (hinput : input.creates = false) :
    (s.process.step settings.platform settings.getNextLoop settings.order
      (.other input hinput)).Post fun _ process => Answered settings seed { s with process } := by
  have hhosts : (s.process.step settings.platform settings.getNextLoop settings.order
      (.other input hinput)).Post fun _ process =>
        ∃ calls τ, Hosts settings.platform s.process.system calls τ process.system := by
    refine Post.bind ((step_hosts ?_).mono ?_)
    · rintro usernameFragment password uninitialised rfl
      cases hinput
    · intro τ s' hs'
      exact Post.pure ⟨_, τ, hs'⟩
  refine ((h.built.step (.other input hinput)).and hhosts).mono ?_
  rintro _ process ⟨hbuilt, calls, τ, hhosts⟩
  refine ⟨hbuilt, h.length.trans hhosts.length.symm, ?_⟩
  intro session body rtcSession' hbody hs'
  cases hs : s.process.system.sessions[session]? with
  | none =>
      rw [(hhosts.absent session hs).1] at hs'
      cases hs'
  | some rtcSession =>
      obtain ⟨rtcSession'', events, hs'', hruns, -⟩ := hhosts.runs session rtcSession hs
      cases hs'.symm.trans hs''
      exact (h.tells session body rtcSession hbody hs).runs hruns

def Settings.drawTransport (settings : Settings) (p : Process) (uninitialised : SockAddrIn) :
    WebRtcTransport NetworkTransport :=
  .create (randomCredentials settings.order p.seed).usernameFragment
    (randomCredentials settings.order p.seed).password uninitialised

def Settings.created (settings : Settings) (p : Process) (uninitialised : SockAddrIn) : Process where
  system := p.system.createWebRTCSession (settings.drawTransport p uninitialised)
  seed := (randomCredentials settings.order p.seed).seed

/-- The callback prints the description of the session that it creates. -/
theorem answer_eq (settings : Settings) (p : Process) (uninitialised : SockAddrIn) :
    settings.answer p uninitialised =
      match settings.program with
      | .rtpSrcExample =>
          Traced.lift ((settings.drawTransport p uninitialised).getLocalSdp settings.host
            settings.localFingerprints) >>= fun body =>
              return (settings.created p uninitialised, body)
      | .publish =>
          Traced.lift ((settings.drawTransport p uninitialised).getPublishSdp settings.host
            settings.localFingerprints) >>= fun body =>
              (settings.created p uninitialised).step settings.platform settings.getNextLoop
                settings.order (.other (.setRTPChannel p.system.sessions.length true) rfl) >>=
                  fun p => return (p, body) := by
  have hnew : (settings.created p uninitialised).system.sessions[p.system.sessions.length]? =
      some { webrtcTransport := settings.drawTransport p uninitialised } := by
    simp [Settings.created, System.createWebRTCSession]
  have hcreate : p.step settings.platform settings.getNextLoop settings.order
      (.createWebRTCSession uninitialised) = pure (settings.created p uninitialised) := rfl
  have hpure : ∀ f : Process → Call (Process × Bytes),
      (pure (settings.created p uninitialised) >>= f) = f (settings.created p uninitialised) :=
    fun _ => rfl
  unfold Settings.answer
  rw [hcreate, hpure, hnew]

theorem Settings.Printable.arguments (h : settings.Printable) (p : Process)
    (uninitialised : SockAddrIn) :
    WebRtcTransport.SdpArguments settings.host
      (settings.drawTransport p uninitialised).iceServer
      (WebRtcTransport.getSHA256Fingerprint settings.localFingerprints) where
  ip := h.ip
  word := h.word
  usernameFragment := printable_of_chars (drawn_randomCredentials settings.order p.seed).3
  password := printable_of_chars (drawn_randomCredentials settings.order p.seed).4
  fingerprint := h.fingerprint

theorem valuesSize_drawTransport (settings : Settings) (p : Process) (uninitialised : SockAddrIn)
    (fingerprint : String) :
    WebRtcTransport.valuesSize settings.host (settings.drawTransport p uninitialised).iceServer
        fingerprint =
      28 + 3 * settings.host.ip.length + (ascii fingerprint).length +
        (decimal settings.host.port.toNat).length := by
  have hdrawn := drawn_randomCredentials settings.order p.seed
  rw [WebRtcTransport.valuesSize, Settings.drawTransport, WebRtcTransport.create,
    hdrawn.usernameFragment_length, hdrawn.password_length]
  omega

theorem Answered.create {s : Server} (h : Answered settings seed s) (uninitialised : SockAddrIn)
    {body : Bytes}
    (hread : WebRtcTransport.readSdp body = WebRtcTransport.description settings.host
      (settings.drawTransport s.process uninitialised).iceServer
      (WebRtcTransport.getSHA256Fingerprint settings.localFingerprints)) :
    Answered settings seed {
      process := settings.created s.process uninitialised
      bodies := s.bodies ++ [body] } where
  built := h.built.create uninitialised
  length := by simp [Settings.created, System.createWebRTCSession, h.length]
  tells := by
    intro session body' rtcSession hbody hs
    rcases Nat.lt_or_ge session s.bodies.length with hlt | hge
    · rw [List.getElem?_append_left hlt] at hbody
      rw [Settings.created, System.createWebRTCSession,
        List.getElem?_append_left (h.length ▸ hlt)] at hs
      exact h.tells session body' rtcSession hbody hs
    · rw [List.getElem?_append_right hge] at hbody
      rw [Settings.created, System.createWebRTCSession,
        List.getElem?_append_right (h.length ▸ hge)] at hs
      have hzero : session - s.bodies.length = 0 := by
        obtain ⟨hlt, -⟩ := List.getElem?_eq_some_iff.mp hbody
        exact Nat.lt_one_iff.mp hlt
      rw [hzero] at hbody
      rw [← h.length, hzero] at hs
      cases hbody
      cases hs
      exact ⟨_, _, drawn_randomCredentials settings.order s.process.seed,
        WebRtcTransport.Admits.create _ _ uninitialised, hread⟩

theorem answer_returns (hprintable : settings.Printable) (p : Process)
    (uninitialised : SockAddrIn)
    (hsize : 524 + 3 * settings.host.ip.length +
      (ascii (WebRtcTransport.getSHA256Fingerprint settings.localFingerprints)).length +
      (decimal settings.host.port.toNat).length < 1024 * 10) :
    ∃ r, (settings.answer p uninitialised).result = .ok r := by
  have harguments := hprintable.arguments p uninitialised
  have hvalues := valuesSize_drawTransport settings p uninitialised
    (WebRtcTransport.getSHA256Fingerprint settings.localFingerprints)
  rw [answer_eq]
  cases settings.program with
  | rtpSrcExample =>
      obtain ⟨body, hbody⟩ := (WebRtcTransport.getLocalSdp_prints rfl harguments).ok (by omega)
      simp only [hbody]
      exact ⟨_, rfl⟩
  | publish =>
      obtain ⟨body, hbody⟩ := (WebRtcTransport.getPublishSdp_prints rfl harguments).ok (by omega)
      simp only [hbody]
      exact ⟨_, rfl⟩

theorem Answered.answer (hprintable : settings.Printable) {s : Server}
    (h : Answered settings seed s) (uninitialised : SockAddrIn) :
    (settings.answer s.process uninitialised).Post fun _ r =>
      Answered settings seed { process := r.1, bodies := s.bodies ++ [r.2] } := by
  have harguments := hprintable.arguments s.process uninitialised
  rw [answer_eq]
  cases settings.program with
  | rtpSrcExample =>
      refine Post.bind (Post.lift fun body hbody => Post.pure ?_)
      exact h.create uninitialised
        ((WebRtcTransport.getLocalSdp_prints rfl harguments).read hbody)
  | publish =>
      refine Post.bind (Post.lift fun body hbody => Post.bind ?_)
      refine ((h.create uninitialised
        ((WebRtcTransport.getPublishSdp_prints rfl harguments).read hbody)).other rfl).mono ?_
      intro _ process hanswered
      exact Post.pure hanswered

theorem Answered.step (hprintable : settings.Printable) {s : Server}
    (h : Answered settings seed s) (input : ServerInput) :
    (s.step settings input).Post fun _ s' => Answered settings seed s' := by
  cases input with
  | httpRequest path uninitialised =>
      simp only [Server.step]
      split
      · refine Post.bind ((h.answer hprintable uninitialised).mono ?_)
        intro _ r hr
        exact Post.pure hr
      · exact Post.pure h
  | other input hinput =>
      refine Post.bind ((h.other hinput).mono ?_)
      intro _ process hprocess
      exact Post.pure hprocess

theorem httpRequest_result {s : Server} {uninitialised : SockAddrIn} {r : Process × Bytes}
    (h : (settings.answer s.process uninitialised).result = .ok r) :
    (s.step settings (.httpRequest "/webrtc" uninitialised)).result =
      .ok { process := r.1, bodies := s.bodies ++ [r.2] } := by
  rw [Server.step, if_pos rfl]
  change (Traced.bind _ _).result = _
  rw [Traced.bind, h]
  rfl

theorem Answered.init (settings : Settings) (seed : UInt32) :
    Answered settings seed { process := { seed } } where
  built := Built.init settings.order seed
  length := rfl
  tells := by
    intro session body rtcSession hbody
    cases hbody

theorem Answered.keys {s : Server} (h : Answered settings seed s) {session : SessionId}
    {usernameFragment : Bytes} (hkey : s.process.system.keys[session]? = some usernameFragment) :
    ∃ body, s.bodies[session]? = some body ∧
      (WebRtcTransport.readSdp body).usernameFragments = [usernameFragment] := by
  rw [System.keys, List.getElem?_map, Option.map_eq_some_iff] at hkey
  obtain ⟨rtcSession, hs, rfl⟩ := hkey
  have hlt : session < s.bodies.length := by
    rw [h.length]
    exact (List.getElem?_eq_some_iff.mp hs).choose
  have hbody := List.getElem?_eq_getElem hlt
  obtain ⟨usernameFragment, password, -, hadmits, hread⟩ := h.tells session _ rtcSession hbody hs
  obtain ⟨state, hserver⟩ := hadmits.credentials
  refine ⟨_, hbody, ?_⟩
  rw [hread, WebRTCSession.identifyID, hserver]

theorem Answered.found_iff {s : Server} (h : Answered settings seed s) {session : SessionId}
    {usernameFragment : Bytes} (hkey : s.process.system.keys[session]? = some usernameFragment) :
    s.process.system.getWebRTCSession usernameFragment = some session ↔
      ∀ older ∈ s.bodies.take session,
        (WebRtcTransport.readSdp older).usernameFragments ≠ [usernameFragment] := by
  have hlength : s.process.system.keys.length = s.bodies.length := by
    rw [System.keys, List.length_map, h.length]
  rw [getWebRTCSession_eq_some_iff h.built.registry hkey]
  constructor
  · intro hno older holder hsame
    obtain ⟨j, hj, rfl⟩ := List.mem_take_iff_getElem.mp holder
    obtain ⟨body, hbody, hread⟩ := h.keys (List.getElem?_eq_getElem (by omega : j < _))
    cases (List.getElem?_eq_getElem (by omega : j < s.bodies.length)).symm.trans hbody
    rw [hread] at hsame
    exact hno (List.mem_take_iff_getElem.mpr ⟨j, by omega, List.singleton_inj.mp hsame⟩)
  · intro hno hmem
    obtain ⟨j, hj, hsame⟩ := List.mem_take_iff_getElem.mp hmem
    obtain ⟨body, hbody, hread⟩ := h.keys (List.getElem?_eq_getElem (by omega : j < _))
    rw [hsame] at hread
    refine hno body ?_ hread
    obtain ⟨hlt, hget⟩ := List.getElem?_eq_some_iff.mp hbody
    exact List.mem_take_iff_getElem.mpr ⟨j, by omega, hget⟩

end

/-- Answers name sessions. After every run, with HTTP requests between any other
inputs, the server has answered once for each session. From the answer a client
reads the credentials that the session still has, the digest of the server's
certificate and its address, and the name in it is looked up to that session
exactly if no older answer has the same name. -/
theorem answers_name_sessions (settings : Settings) (certificate : DtlsTransport.X509)
    (hexFingerprint : FingerprintAlgorithm → DtlsTransport.HexBuffer)
    (hfingerprints : DtlsTransport.generateFingerprints certificate hexFingerprint =
      .ok settings.localFingerprints)
    (hip : WebRtcTransport.Printable settings.host.ip) (hword : 0x20 ∉ settings.host.ip)
    (seed : UInt32) {inputs : List ServerInput} {τ : List SessionEvent} {s : Server}
    (hrun : Runs (Server.step settings) { process := { seed } } inputs τ s) :
    s.bodies.length = s.process.system.sessions.length ∧
      ∀ (session : SessionId) rtcSession,
        s.process.system.sessions[session]? = some rtcSession →
        ∃ body binary, s.bodies[session]? = some body ∧
          certificate.digest .sha256 = some binary ∧
          WebRtcTransport.readSdp body = {
            usernameFragments := [rtcSession.webrtcTransport.iceServer.usernameFragment]
            passwords := [rtcSession.webrtcTransport.iceServer.password]
            fingerprints := [(DtlsTransport.hexText binary).dropLast]
            candidates := [(settings.host.ip, settings.host.port.toNat)] } ∧
          0x3A ∉ rtcSession.webrtcTransport.iceServer.usernameFragment ∧
          rtcSession.webrtcTransport.iceServer.password.length = 24 ∧
          (s.process.system.getWebRTCSession rtcSession.identifyID = some session ↔
            ∀ older ∈ s.bodies.take session,
              (WebRtcTransport.readSdp older).usernameFragments ≠ [rtcSession.identifyID]) := by
  obtain ⟨binary, hdigest, -, hvalue⟩ := WebRtcTransport.getSHA256Fingerprint_eq hfingerprints
  have hprintable := Settings.printable hfingerprints hip hword
  have h : Answered settings seed s :=
    hrun.inv (fun s input _ hs => hs.step hprintable input) (Answered.init settings seed)
  refine ⟨h.length, ?_⟩
  intro session rtcSession hs
  have hlt : session < s.bodies.length := by
    rw [h.length]
    exact (List.getElem?_eq_some_iff.mp hs).choose
  have hbody := List.getElem?_eq_getElem hlt
  have hfound := h.found_iff (System.keys_getElem? hs)
  obtain ⟨usernameFragment, password, hdrawn, hadmits, hread⟩ := h.tells session _ rtcSession hbody hs
  obtain ⟨state, hserver⟩ := hadmits.credentials
  refine ⟨_, binary, hbody, hdigest, ?_, ?_, ?_, hfound⟩
  · rw [hread, hserver, hvalue, ascii_ofAscii]
  · rw [hserver]
    intro hmem
    exact absurd (hdrawn.usernameFragment_chars _ hmem) (by decide)
  · rw [hserver]
    exact hdrawn.password_length

/-- The publishing program on its default address. -/
def sampleSettings (localFingerprints : List DtlsFingerprint) : Settings where
  program := .publish
  host := WebRtcTransport.loopback
  localFingerprints := localFingerprints
  platform := WebRtcTransport.samplePlatform
  getNextLoop := roundRobin 2
  order := .leftToRight

/-- The first request is answered. -/
theorem answers_name_sessions_first :
    ∃ localFingerprints τ s,
      DtlsTransport.generateFingerprints DtlsTransport.sampleCertificate
        (fun _ => DtlsTransport.clearBuffer) = .ok localFingerprints ∧
      Runs (Server.step (sampleSettings localFingerprints)) { process := { seed := 7696 } }
        [.httpRequest "/webrtc" ⟨0, 0⟩] τ s ∧
      s.bodies.length = 1 ∧
      ∀ rtcSession, s.process.system.sessions[0]? = some rtcSession →
        ∃ body, s.bodies[0]? = some body ∧
          (WebRtcTransport.readSdp body).passwords =
            [rtcSession.webrtcTransport.iceServer.password] ∧
          s.process.system.getWebRTCSession rtcSession.identifyID = some 0 := by
  obtain ⟨localFingerprints, hlocal⟩ := DtlsTransport.sampleCertificate_fingerprints
  obtain ⟨binary, -, hlength, hvalue⟩ := WebRtcTransport.getSHA256Fingerprint_eq hlocal
  have hip : WebRtcTransport.Printable (sampleSettings localFingerprints).host.ip := by
    change WebRtcTransport.Printable WebRtcTransport.loopback.ip
    decide +kernel
  have hword : 0x20 ∉ (sampleSettings localFingerprints).host.ip := by
    change 0x20 ∉ WebRtcTransport.loopback.ip
    decide +kernel
  have hsize : 524 + 3 * WebRtcTransport.loopback.ip.length +
      (ascii (WebRtcTransport.getSHA256Fingerprint localFingerprints)).length +
      (decimal WebRtcTransport.loopback.port.toNat).length < 1024 * 10 := by
    rw [hvalue, ascii_ofAscii, hlength]
    decide +kernel
  have hprintable : (sampleSettings localFingerprints).Printable :=
    Settings.printable hlocal hip hword
  obtain ⟨⟨process, body⟩, hanswer⟩ := answer_returns hprintable { seed := 7696 } ⟨0, 0⟩ hsize
  have hstep := httpRequest_result (s := { process := { seed := 7696 } }) hanswer
  obtain ⟨-, hsessions⟩ := answers_name_sessions (sampleSettings localFingerprints)
    DtlsTransport.sampleCertificate _ hlocal hip hword 7696 (Runs.single hstep)
  refine ⟨localFingerprints, _, _, hlocal, Runs.single hstep, rfl, ?_⟩
  intro rtcSession hs
  obtain ⟨body', _, hbody, -, hread, -, -, hfound⟩ := hsessions 0 rtcSession hs
  exact ⟨body', hbody, by rw [hread], hfound.mpr fun older holder => absurd holder (by simp)⟩

end EasyWebRtc.Session
