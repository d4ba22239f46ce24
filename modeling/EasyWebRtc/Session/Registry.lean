import Mathlib.Data.List.Nodup
import EasyWebRtc.Rtc.WebRtcTransport.Opening
import EasyWebRtc.Session.Routing

/-!
# The registry of the sessions

A session is registered under the username fragment that its transport has drawn
from the global generator, and the map keeps the older session of two with one
key. Every session is found again exactly if the fragments drawn are distinct.
-/

namespace EasyWebRtc.Session

open Octets Utils Rtc Net Traced

/-! ## Random credentials -/

/-- The order in which the arguments of the `IceServer` constructor are
evaluated; the compiler chooses it. -/
inductive ArgumentOrder where
  | leftToRight
  | rightToLeft
  deriving DecidableEq, Repr

structure RandomCredentials where
  usernameFragment : Bytes
  password : Bytes
  /-- The seed afterwards. -/
  seed : UInt32
  deriving DecidableEq, Repr

/-- The two calls of `GetRandomString` in the constructor of `WebRtcTransport`. -/
def randomCredentials (order : ArgumentOrder) (seed : UInt32) : RandomCredentials :=
  match order with
  | .leftToRight =>
      let (usernameFragment, seed) := Crypto.getRandomString seed 4
      let (password, seed) := Crypto.getRandomString seed 24
      ⟨usernameFragment, password, seed⟩
  | .rightToLeft =>
      let (password, seed) := Crypto.getRandomString seed 24
      let (usernameFragment, seed) := Crypto.getRandomString seed 4
      ⟨usernameFragment, password, seed⟩

section

variable (order : ArgumentOrder)

def fragments : Nat → UInt32 → List Bytes
  | 0, _ => []
  | n + 1, seed =>
      (randomCredentials order seed).usernameFragment ::
        fragments n (randomCredentials order seed).seed

def seedAfter : Nat → UInt32 → UInt32
  | 0, seed => seed
  | n + 1, seed => seedAfter n (randomCredentials order seed).seed

theorem fragments_succ (n : Nat) (seed : UInt32) :
    fragments order (n + 1) seed =
      fragments order n seed ++
        [(randomCredentials order (seedAfter order n seed)).usernameFragment] := by
  induction n generalizing seed with
  | zero => rfl
  | succ n ih =>
      rw [fragments, ih, fragments]
      rfl

theorem seedAfter_succ (n : Nat) (seed : UInt32) :
    seedAfter order (n + 1) seed = (randomCredentials order (seedAfter order n seed)).seed := by
  induction n generalizing seed with
  | zero => rfl
  | succ n ih =>
      rw [seedAfter, ih]
      rfl

end

/-! ## The process -/

def WebRTCSession.identifyID (rtcSession : WebRTCSession) : Bytes :=
  rtcSession.webrtcTransport.iceServer.usernameFragment

/-- The sessions and the seed of the generator. -/
structure Process where
  system : System := {}
  seed : UInt32

def Input.creates : Input → Bool
  | .createWebRTCSession _ _ _ => true
  | _ => false

/-- `CreateWebRTCSession`, with credentials at random, or any other input. -/
inductive Request where
  | createWebRTCSession (uninitialised : SockAddrIn)
  | other (input : Input) (h : input.creates = false)

def Process.step (platform : Platform) (getNextLoop : Nat → LoopId) (order : ArgumentOrder)
    (p : Process) : Request → Call Process
  | .createWebRTCSession uninitialised =>
      let drawn := randomCredentials order p.seed
      return {
        system := p.system.createWebRTCSession
          (.create drawn.usernameFragment drawn.password uninitialised)
        seed := drawn.seed }
  | .other input _ => do
      let system ← Session.step platform getNextLoop p.system input
      return { p with system }

/-- Every session is found under its identifier and, once it is ready, listed
once. -/
def Registered (s : System) : Prop :=
  ∀ (session : SessionId) rtcSession, s.sessions[session]? = some rtcSession →
    s.getWebRTCSession rtcSession.identifyID = some session ∧
      (rtcSession.isReady = true → s.getAllReadyWebRTCSession.count session = 1)

/-! ## The map -/

/-- The map after the keys were inserted for the sessions 0, 1, 2 and so on. -/
def registry (keys : List Bytes) : List (Bytes × SessionId) :=
  keys.zipIdx.foldl (fun entries entry => insertSession entry.1 entry.2 entries) []

theorem registry_concat (keys : List Bytes) (key : Bytes) :
    registry (keys ++ [key]) = insertSession key keys.length (registry keys) := by
  rw [registry, List.zipIdx_append, List.foldl_append]
  simp [registry]

theorem insertSession_perm {key : Bytes} (session : SessionId)
    {entries : List (Bytes × SessionId)} (h : ∀ entry ∈ entries, entry.1 ≠ key) :
    (insertSession key session entries).Perm ((key, session) :: entries) := by
  induction entries with
  | nil => exact List.Perm.refl _
  | cons entry entries ih =>
      have hne := h entry List.mem_cons_self
      unfold insertSession
      rw [if_neg fun heq => hne heq.symm]
      split
      · exact List.Perm.refl _
      · have hrest := ih fun e he => h e (List.mem_cons_of_mem entry he)
        exact (hrest.cons entry).trans (List.Perm.swap _ _ _)

theorem registry_perm {keys : List Bytes} (h : keys.Nodup) : (registry keys).Perm keys.zipIdx := by
  induction keys using List.reverseRecOn with
  | nil => exact List.Perm.refl _
  | append_singleton keys key ih =>
      obtain ⟨hkeys, _, hdisjoint⟩ := List.nodup_append.mp h
      have hperm := ih hkeys
      have hnew : ∀ entry ∈ registry keys, entry.1 ≠ key := by
        intro entry hentry
        have hmem := List.fst_mem_of_mem_zipIdx (hperm.mem_iff.mp hentry)
        exact hdisjoint entry.1 hmem key (List.mem_singleton_self key)
      have hinsert := insertSession_perm keys.length hnew
      have hlast : ((key, keys.length) :: registry keys).Perm
          (keys.zipIdx ++ [(key, keys.length)]) :=
        (hperm.cons _).trans (List.perm_append_singleton _ _).symm
      rw [registry_concat, List.zipIdx_append]
      simpa using hinsert.trans hlast

def System.keys (s : System) : List Bytes := s.sessions.map WebRTCSession.identifyID

theorem System.keys_getElem? {s : System} {session : SessionId} {rtcSession : WebRTCSession}
    (h : s.sessions[session]? = some rtcSession) :
    s.keys[session]? = some rtcSession.identifyID := by
  rw [System.keys, List.getElem?_map, h]
  rfl

theorem getWebRTCSession_of_nodup {s : System} (hregistry : s.rtcSessions = registry s.keys)
    (hnodup : s.keys.Nodup) {session : SessionId} {key : Bytes}
    (hkey : s.keys[session]? = some key) : s.getWebRTCSession key = some session := by
  have hperm := registry_perm hnodup
  rw [← hregistry] at hperm
  have hmem : (key, session) ∈ s.rtcSessions :=
    hperm.mem_iff.mpr (List.mk_mem_zipIdx_iff_getElem?.mpr hkey)
  unfold System.getWebRTCSession
  cases hfind : s.rtcSessions.find? fun entry => entry.1 = key with
  | none =>
      have hno := List.find?_eq_none.mp hfind _ hmem
      simp at hno
  | some entry =>
      have hentry := hperm.mem_iff.mp (List.mem_of_find?_eq_some hfind)
      have hsame : entry.1 = key := by simpa using List.find?_some hfind
      have hindex : s.keys[entry.2]? = some key := by
        rw [← hsame]
        exact List.mem_zipIdx_iff_getElem?.mp hentry
      have heq : entry.2 = session := by
        obtain ⟨hlt, _⟩ := List.getElem?_eq_some_iff.mp hindex
        exact (List.getElem?_inj hlt hnodup).mp (hindex.trans hkey.symm)
      rw [Option.map_some, heq]

theorem count_registry {keys : List Bytes} (hnodup : keys.Nodup) {session : SessionId}
    (h : session < keys.length) : ((registry keys).map Prod.snd).count session = 1 := by
  have hperm := (registry_perm hnodup).map Prod.snd
  rw [hperm.count_eq, List.zipIdx_map_snd]
  refine List.count_eq_one_of_mem (List.nodup_range' ..) ?_
  simpa using h

/-- The registry serves every session exactly if the keys are distinct. -/
theorem registered_iff_nodup {s : System} (hregistry : s.rtcSessions = registry s.keys) :
    Registered s ↔ s.keys.Nodup := by
  constructor
  · intro h
    rw [List.nodup_iff_getElem?_ne_getElem?]
    intro i j hij hj heq
    have hlen : s.keys.length = s.sessions.length := List.length_map _
    have hi := List.getElem?_eq_getElem (l := s.sessions) (show i < s.sessions.length by omega)
    have hj := List.getElem?_eq_getElem (l := s.sessions) (show j < s.sessions.length by omega)
    have hkeys : some (s.sessions[i]).identifyID = some (s.sessions[j]).identifyID := by
      rw [← System.keys_getElem? hi, ← System.keys_getElem? hj, heq]
    have hfound := (h i _ hi).1
    rw [Option.some.inj hkeys, (h j _ hj).1] at hfound
    cases hfound
    omega
  · intro hnodup session rtcSession hs
    have hkey := System.keys_getElem? hs
    refine ⟨getWebRTCSession_of_nodup hregistry hnodup hkey, ?_⟩
    intro hready
    obtain ⟨hlt, _⟩ := List.getElem?_eq_some_iff.mp hkey
    unfold System.getAllReadyWebRTCSession
    rw [List.count_filter (by simp [hs, hready]), hregistry]
    exact count_registry hnodup hlt

/-! ## Steps that create no session -/

structure SameKeys (s s' : System) : Prop where
  keys : s'.keys = s.keys
  registry : s'.rtcSessions = s.rtcSessions

theorem SameKeys.refl (s : System) : SameKeys s s := ⟨rfl, rfl⟩

theorem SameKeys.trans {s₁ s₂ s₃ : System} (h₁ : SameKeys s₁ s₂) (h₂ : SameKeys s₂ s₃) :
    SameKeys s₁ s₃ :=
  ⟨h₂.keys.trans h₁.keys, h₂.registry.trans h₁.registry⟩

theorem keys_modify {sessions : List WebRTCSession} {session : SessionId}
    {f : WebRTCSession → WebRTCSession}
    (hf : ∀ rtcSession, sessions[session]? = some rtcSession →
      (f rtcSession).identifyID = rtcSession.identifyID) :
    (sessions.modify session f).map WebRTCSession.identifyID =
      sessions.map WebRTCSession.identifyID := by
  apply List.ext_getElem?
  intro i
  rw [List.getElem?_map, List.getElem?_map, List.getElem?_modify]
  by_cases hi : session = i
  · subst hi
    cases hs : sessions[session]? with
    | none => rfl
    | some rtcSession => simp [hf rtcSession hs]
  · simp [hi]

section Steps

variable {platform : Platform} {getNextLoop : Nat → LoopId} {env : Outcomes} {s : System}

theorem callTransport_sameKeys {loop : LoopId} {session : SessionId}
    {call : WebRtcTransport NetworkTransport →
      WebRtcTransport.Call NetworkTransport (WebRtcTransport NetworkTransport)}
    (hcall : ∀ w, (call w).Post fun _ w' =>
      w'.iceServer.usernameFragment = w.iceServer.usernameFragment) :
    (s.callTransport loop session call).Post fun _ s' => SameKeys s s' := by
  refine (callTransport_post (Q := fun w w' =>
    w'.iceServer.usernameFragment = w.iceServer.usernameFragment) hcall).mono ?_
  rintro _ s' ⟨rtcSession, w', hs, hw', rfl⟩
  refine ⟨keys_modify ?_, rfl⟩
  intro rtcSession' hs'
  cases hs.symm.trans hs'
  exact hw'

theorem perform_sameKeys {loop : LoopId} {task : Task} :
    (s.perform platform env loop task).Post fun _ s' => SameKeys s s' := by
  cases task with
  | enableReading peer => exact Post.pure ⟨rfl, rfl⟩
  | onInputDataPacket session data remoteAddress =>
      refine Post.bind (Post.emit ?_)
      exact callTransport_sameKeys fun w => WebRtcTransport.onInputDataPacket_usernameFragment
  | encryptAndSendRtpPacket session data =>
      rw [System.perform]
      refine callTransport_sameKeys fun w => ?_
      apply WebRtcTransport.encryptAndSendRtpPacket_post.mono
      intro _ w' hw'
      rw [hw']

theorem runInLoop_sameKeys {current loop : LoopId} {task : Task} :
    (s.runInLoop platform env current loop task).Post fun _ s' => SameKeys s s' := by
  unfold System.runInLoop
  split
  · exact perform_sameKeys
  · exact Post.pure ⟨rfl, rfl⟩

theorem routePacket_sameKeys {session : SessionId} {data : Bytes} {peerAddr : SockAddrIn} :
    (s.routePacket platform getNextLoop env session data peerAddr).Post fun _ s' =>
      SameKeys s s' := by
  refine Post.bind (setNetworkTransport_post.mono ?_)
  rintro _ s' ⟨_, hsessions, hregistry, _⟩
  have hset : SameKeys s s' := by
    refine ⟨?_, hregistry⟩
    rw [System.keys, hsessions]
    exact keys_modify fun _ _ => rfl
  apply runInLoop_sameKeys.mono
  intro _ s'' hs''
  exact hset.trans hs''

theorem handlePacket_sameKeys {data : Bytes} {peerAddr : SockAddrIn} :
    (s.handlePacket platform getNextLoop env data peerAddr).Post fun _ s' => SameKeys s s' := by
  refine Post.bind (Post.lift fun isStun _ => ?_)
  split
  · refine Post.bind (Post.lift fun parsed _ => ?_)
    cases parsed with
    | none => exact Post.pure (SameKeys.refl s)
    | some packet =>
        refine Post.bind (Post.lift fun vec _ => ?_)
        cases vec with
        | nil => exact Post.fail
        | cons useName rest =>
            simp only
            split
            · exact Post.pure (SameKeys.refl s)
            · exact routePacket_sameKeys
  · exact Post.pure (SameKeys.refl s)

theorem writeRtpCallback_sameKeys (data : Bytes) : SameKeys s (s.writeRtpCallback data) := by
  unfold System.writeRtpCallback
  generalize s.getAllReadyWebRTCSession = ready
  induction ready generalizing s with
  | nil => exact SameKeys.refl s
  | cons session ready ih =>
      rw [List.foldl_cons]
      refine SameKeys.trans ?_ ih
      split
      · exact ⟨rfl, rfl⟩
      · exact SameKeys.refl s

theorem step_sameKeys {input : Input} (h : input.creates = false) :
    (step platform getNextLoop s input).Post fun _ s' => SameKeys s s' := by
  cases input with
  | createWebRTCSession usernameFragment password uninitialised => cases h
  | setRTPChannel session channel => exact Post.pure ⟨keys_modify fun _ _ => rfl, rfl⟩
  | serverRead env data peerAddr => exact handlePacket_sameKeys
  | connectionRead env peer data =>
      rw [step, System.handleRead]
      split
      · exact perform_sameKeys
      · exact Post.pure (SameKeys.refl s)
  | pendingFunctor env loop position =>
      rw [step, System.doPendingFunctor]
      split
      · exact Post.pure (SameKeys.refl s)
      · exact perform_sameKeys.mono fun _ _ hs' => ⟨hs'.keys, hs'.registry⟩
  | writeRtpCallback data => exact Post.pure (writeRtpCallback_sameKeys data)

end Steps

/-! ## Runs -/

/-- The keys are those that the generator gives, and the map is built from
them. -/
structure Built (order : ArgumentOrder) (seed : UInt32) (p : Process) : Prop where
  keys : p.system.keys = fragments order p.system.sessions.length seed
  seed : p.seed = seedAfter order p.system.sessions.length seed
  registry : p.system.rtcSessions = registry p.system.keys

theorem Built.init (order : ArgumentOrder) (seed : UInt32) : Built order seed { seed } :=
  ⟨rfl, rfl, rfl⟩

theorem Built.create {order : ArgumentOrder} {seed : UInt32} {p : Process}
    (h : Built order seed p) (uninitialised : SockAddrIn) :
    Built order seed {
      system := p.system.createWebRTCSession (.create
        (randomCredentials order p.seed).usernameFragment
        (randomCredentials order p.seed).password uninitialised)
      seed := (randomCredentials order p.seed).seed } := by
  have hlength : p.system.keys.length = p.system.sessions.length := List.length_map _
  have hkeys : ∀ w, (p.system.createWebRTCSession w).keys =
      p.system.keys ++ [w.iceServer.usernameFragment] := by
    intro w
    simp [System.keys, System.createWebRTCSession, WebRTCSession.identifyID]
  constructor
  · rw [hkeys, h.keys, h.seed, System.createWebRTCSession, List.length_append,
      List.length_singleton, fragments_succ]
    rfl
  · rw [System.createWebRTCSession, List.length_append, List.length_singleton, seedAfter_succ,
      ← h.seed]
  · rw [hkeys, registry_concat, hlength, ← h.registry]
    rfl

theorem Built.step {platform : Platform} {getNextLoop : Nat → LoopId} {order : ArgumentOrder}
    {seed : UInt32} {p : Process} (h : Built order seed p) (request : Request) :
    (p.step platform getNextLoop order request).Post fun _ p' => Built order seed p' := by
  cases request with
  | createWebRTCSession uninitialised => exact Post.pure (h.create uninitialised)
  | other input hinput =>
      refine Post.bind ((step_sameKeys hinput).mono ?_)
      intro _ s' hs'
      have hlength : s'.sessions.length = p.system.sessions.length := by
        have hlen := congrArg List.length hs'.keys
        simpa [System.keys] using hlen
      refine Post.pure ⟨?_, ?_, ?_⟩
      · rw [hs'.keys, h.keys, hlength]
      · rw [h.seed, hlength]
      · rw [hs'.registry, hs'.keys, h.registry]

def Request.creates : Request → Bool
  | .createWebRTCSession _ => true
  | .other _ _ => false

theorem Process.step_length {platform : Platform} {getNextLoop : Nat → LoopId}
    {order : ArgumentOrder} {p : Process} (request : Request) :
    (p.step platform getNextLoop order request).Post fun _ p' =>
      p'.system.sessions.length =
        p.system.sessions.length + if request.creates then 1 else 0 := by
  cases request with
  | createWebRTCSession uninitialised =>
      refine Post.pure ?_
      simp [System.createWebRTCSession, Request.creates]
  | other input hinput =>
      refine Post.bind ((step_sameKeys hinput).mono ?_)
      intro _ s' hs'
      have hlen := congrArg List.length hs'.keys
      refine Post.pure ?_
      simpa [System.keys, Request.creates] using hlen

theorem run_length {platform : Platform} {getNextLoop : Nat → LoopId} {order : ArgumentOrder}
    {requests : List Request} {τ τ' : List SessionEvent} {p p' : Process}
    (hrun : Traced.run (Process.step platform getNextLoop order) τ p requests = some (τ', p')) :
    p'.system.sessions.length =
      p.system.sessions.length + requests.countP Request.creates := by
  induction requests generalizing τ p with
  | nil =>
      cases hrun
      rfl
  | cons request requests ih =>
      rw [Traced.run] at hrun
      cases hr : (p.step platform getNextLoop order request).result with
      | error e =>
          rw [hr] at hrun
          cases hrun
      | ok p₁ =>
          rw [hr] at hrun
          have hstep := (Process.step_length request).out p₁ hr
          rw [ih hrun, hstep, List.countP_cons]
          omega

section

variable {platform : Platform} {getNextLoop : Nat → LoopId} {order : ArgumentOrder} {seed : UInt32}
  {requests : List Request} {τ : List SessionEvent} {p : Process}

theorem run_built
    (hrun : Traced.run (Process.step platform getNextLoop order) [] { seed } requests =
      some (τ, p)) : Built order seed p := by
  refine Traced.run_inv (I := fun _ p => Built order seed p) ?_ (Built.init order seed) hrun
  intro _ p request _ hp
  exact hp.step request

theorem run_keys
    (hrun : Traced.run (Process.step platform getNextLoop order) [] { seed } requests =
      some (τ, p)) : p.system.keys = fragments order (requests.countP Request.creates) seed := by
  have hlength : p.system.sessions.length = requests.countP Request.creates := by
    rw [run_length hrun]
    exact Nat.zero_add _
  rw [(run_built hrun).keys, hlength]

/-- In every state of every run the registry serves all sessions exactly if the
fragments that the generator draws from the seed for them are distinct. -/
theorem registered_iff
    (hrun : Traced.run (Process.step platform getNextLoop order) [] { seed } requests =
      some (τ, p)) :
    Registered p.system ↔ (fragments order (requests.countP Request.creates) seed).Nodup := by
  rw [registered_iff_nodup (run_built hrun).registry, run_keys hrun]

end

def examplePlatform : Platform := ⟨StunPacket.bindingRequestHmac, 148⟩

def creations (n : Nat) : List Request := List.replicate n (.createWebRTCSession ⟨0, 0⟩)

theorem run_creations (order : ArgumentOrder) (n : Nat) (p : Process) :
    ∃ p', Traced.run (Process.step examplePlatform (roundRobin 2) order) [] p (creations n) =
      some ([], p') := by
  induction n generalizing p with
  | zero => exact ⟨p, rfl⟩
  | succ n ih => exact ih _

theorem countP_creations (n : Nat) : (creations n).countP Request.creates = n := by
  rw [creations, List.countP_replicate]
  rfl

theorem registered_iff_two :
    ∃ p, Traced.run (Process.step examplePlatform (roundRobin 2) .leftToRight) [] { seed := 7696 }
        (creations 2) = some ([], p) ∧ Registered p.system := by
  obtain ⟨p, hrun⟩ := run_creations .leftToRight 2 { seed := 7696 }
  refine ⟨p, hrun, (registered_iff hrun).mpr ?_⟩
  rw [countP_creations]
  decide +kernel

theorem not_registered_of_repeat {order : ArgumentOrder} {seed : UInt32} {n : Nat}
    (h : ¬ (fragments order n seed).Nodup) :
    ∃ p, Traced.run (Process.step examplePlatform (roundRobin 2) order) [] { seed }
      (creations n) = some ([], p) ∧ ¬ Registered p.system := by
  obtain ⟨p, hrun⟩ := run_creations order n { seed }
  refine ⟨p, hrun, ?_⟩
  rwa [registered_iff_nodup (run_built hrun).registry, run_keys hrun, countP_creations]

/-- After 17 sessions one is lost, in either order of the draws. -/
theorem session_lost :
    (∃ p, Traced.run (Process.step examplePlatform (roundRobin 2) .leftToRight) []
      { seed := 7696 } (creations 17) = some ([], p) ∧ ¬ Registered p.system) ∧
    (∃ p, Traced.run (Process.step examplePlatform (roundRobin 2) .rightToLeft) []
      { seed := 4708 } (creations 17) = some ([], p) ∧ ¬ Registered p.system) :=
  ⟨not_registered_of_repeat (by decide +kernel), not_registered_of_repeat (by decide +kernel)⟩

end EasyWebRtc.Session
