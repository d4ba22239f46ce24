import Mathlib.Data.Int.CardIntervalMod
import EasyWebRtc.Session.Queues

/-!
# The connections of the server

A connection is made for an address when the first datagram from there names a
session, and its loop is the next one of the pool. Over any run there is one
connection for each address that a session was routed to and none for any other,
and a pool that hands out its threads in turn shares them evenly.
-/

namespace EasyWebRtc.Session

open Octets Utils Rtc Net Traced

/-! ## The server of a step -/

structure SameConnections (s s' : System) : Prop where
  loopOf : ∀ peer, s'.server.loopOf peer = s.server.loopOf peer
  created : s'.server.created = s.server.created

theorem SameConnections.of_server {s s' : System} (h : s'.server = s.server) :
    SameConnections s s' :=
  ⟨fun peer => by rw [h], by rw [h]⟩

theorem SameConnections.trans {s₁ s₂ s₃ : System} (h₁ : SameConnections s₁ s₂)
    (h₂ : SameConnections s₂ s₃) : SameConnections s₁ s₃ :=
  ⟨fun peer => (h₂.loopOf peer).trans (h₁.loopOf peer), h₂.created.trans h₁.created⟩

section Step

variable {platform : Platform} {getNextLoop : Nat → LoopId} {env : Outcomes} {s : System}

theorem perform_connections {loop : LoopId} {task : Task} :
    (s.perform platform env loop task).Post fun τ s' =>
      SameConnections s s' ∧ ∀ e ∈ τ, NotRouted e := by
  have hsame : (s.perform platform env loop task).Post fun _ s' => SameConnections s s' := by
    have hcall : ∀ {session call}, (s.callTransport loop session call).Post fun _ s' =>
        SameConnections s s' := by
      intro session call
      refine (callTransport_post (Q := fun _ _ => True) fun _ => ⟨fun _ _ => trivial⟩).mono ?_
      rintro _ s' ⟨_, _, _, _, rfl⟩
      exact .of_server rfl
    cases task with
    | enableReading peer =>
        exact Post.pure ⟨fun other => s.server.loopOf_enableReading peer other, rfl⟩
    | onInputDataPacket session data remoteAddress =>
        apply Post.bind
        apply Post.emit
        exact hcall
    | encryptAndSendRtpPacket session data =>
        rw [System.perform]
        exact hcall
  apply (hsame.with_only perform_only).mono
  intro τ s' h
  exact ⟨h.1, fun e he => (h.2 e he).notRouted⟩

theorem runInLoop_connections {current loop : LoopId} {task : Task} :
    (s.runInLoop platform env current loop task).Post fun τ s' =>
      SameConnections s s' ∧ ∀ e ∈ τ, NotRouted e := by
  unfold System.runInLoop
  split
  · exact perform_connections
  · exact Post.pure ⟨.of_server rfl, by simp⟩

theorem routePacket_connections {session : SessionId} {data : Bytes} {peerAddr : SockAddrIn} :
    (s.routePacket platform getNextLoop env session data peerAddr).Post fun τ s' =>
      SameConnections { s with
        server := (s.server.getOrCreatConnection getNextLoop peerAddr).1 } s' ∧
      ∃ rest, τ = .routed session peerAddr :: rest ∧ ∀ e ∈ rest, NotRouted e := by
  unfold System.routePacket
  generalize s.server.getOrCreatConnection getNextLoop peerAddr = created
  rcases created with ⟨server, connection⟩
  apply Post.bind
  apply Post.bind
  apply Post.emit
  apply Post.bind
  apply runInLoop_connections.mono
  rintro τ₁ s₁ ⟨hsame₁, hquiet₁⟩
  apply Post.pure
  apply runInLoop_connections.mono
  rintro τ₂ s₂ ⟨hsame₂, hquiet₂⟩
  have hset : SameConnections { s with server } s₁ := by
    refine ⟨?_, hsame₁.created⟩
    intro other
    exact (hsame₁.loopOf other).trans (server.loopOf_setPacketCallback peerAddr session other)
  refine ⟨hset.trans ⟨hsame₂.loopOf, hsame₂.created⟩, τ₁ ++ τ₂, by simp, ?_⟩
  intro e he
  rcases List.mem_append.mp he with he | he
  · exact hquiet₁ e he
  · exact hquiet₂ e he

theorem writeRtpCallback_server (s : System) (data : Bytes) :
    (s.writeRtpCallback data).server = s.server := by
  unfold System.writeRtpCallback
  generalize s.getAllReadyWebRTCSession = ready
  induction ready generalizing s with
  | nil => rfl
  | cons session ready ih =>
      rw [List.foldl_cons, ih]
      split <;> rfl

/-- Nothing is routed and the connections stay, or one session is routed and the
connection of its peer is made. -/
inductive ConnectionsStep (getNextLoop : Nat → LoopId) (s : System) (events : List SessionEvent)
    (s' : System) : Prop where
  | quiet (hsame : SameConnections s s') (hquiet : ∀ e ∈ events, NotRouted e)
  | route (session : SessionId) (peerAddr : SockAddrIn) (rest : List SessionEvent)
      (hevents : events = .routed session peerAddr :: rest) (hquiet : ∀ e ∈ rest, NotRouted e)
      (hsame : SameConnections { s with
        server := (s.server.getOrCreatConnection getNextLoop peerAddr).1 } s')

theorem step_connections (input : Input) :
    (step platform getNextLoop s input).Post (ConnectionsStep getNextLoop s) := by
  cases input with
  | createWebRTCSession usernameFragment password uninitialised =>
      exact Post.pure (.quiet (.of_server rfl) (by simp))
  | setRTPChannel session channel => exact Post.pure (.quiet (.of_server rfl) (by simp))
  | serverRead env data peerAddr =>
      rw [Session.step]
      cases haddressee : s.addressee (data.take bufSize) with
      | none =>
          apply (handlePacket_of_no_addressee haddressee).mono
          rintro events s' ⟨rfl, rfl⟩
          exact .quiet (.of_server rfl) (by simp)
      | some session =>
          rw [handlePacket_of_addressee peerAddr haddressee]
          apply routePacket_connections.mono
          rintro events s' ⟨hsame, rest, hevents, hquiet⟩
          exact .route session peerAddr rest hevents hquiet hsame
  | connectionRead env peer data =>
      simp only [Session.step, System.handleRead]
      split
      · exact perform_connections.mono fun _ _ h => .quiet h.1 h.2
      · exact Post.pure (.quiet (.of_server rfl) (by simp))
  | pendingFunctor env loop position =>
      simp only [Session.step, System.doPendingFunctor]
      split
      · exact Post.pure (.quiet (.of_server rfl) (by simp))
      · exact perform_connections.mono fun _ _ h => .quiet ⟨h.1.loopOf, h.1.created⟩ h.2
  | writeRtpCallback data =>
      exact Post.pure (.quiet (.of_server (writeRtpCallback_server s data)) (by simp))

theorem step_loopOf (input : Input) {peer : SockAddrIn} {loop : LoopId}
    (h : s.server.loopOf peer = some loop) :
    (step platform getNextLoop s input).Post fun _ s' => s'.server.loopOf peer = some loop := by
  apply (step_connections input).mono
  intro events s' hstep
  cases hstep with
  | quiet hsame _ => rw [hsame.loopOf, h]
  | route session peerAddr rest _ _ hsame =>
      rw [hsame.loopOf]
      exact UdpServer.getOrCreatConnection_loopOf h

end Step

/-! ## The addresses in the order of their connections -/

/-- The connections are those of `peers`, made in this order, which are the
addresses that a session was routed to. -/
structure Pooled (getNextLoop : Nat → LoopId) (τ : List SessionEvent) (s : System)
    (peers : List SockAddrIn) : Prop where
  nodup : peers.Nodup
  routed : ∀ peer, peer ∈ peers ↔ ∃ session, .routed session peer ∈ τ
  loops : ∀ (i : Nat) peer, peers[i]? = some peer → s.server.loopOf peer = some (getNextLoop i)
  absent : ∀ peer, peer ∉ peers → s.server.loopOf peer = none
  created : s.server.created = peers.length

section Pooled

variable {platform : Platform} {getNextLoop : Nat → LoopId} {s s' : System}
  {τ events : List SessionEvent} {peers : List SockAddrIn}

theorem Pooled.init (getNextLoop : Nat → LoopId) : Pooled getNextLoop [] {} [] where
  nodup := List.nodup_nil
  routed := by simp
  loops := by simp
  absent := fun _ _ => rfl
  created := rfl

theorem Pooled.quiet (h : Pooled getNextLoop τ s peers) (hsame : SameConnections s s')
    (hquiet : ∀ e ∈ events, NotRouted e) : Pooled getNextLoop (τ ++ events) s' peers := by
  refine ⟨h.nodup, ?_, ?_, ?_, hsame.created.trans h.created⟩
  · intro peer
    rw [h.routed peer]
    constructor
    · rintro ⟨session, hmem⟩
      exact ⟨session, List.mem_append_left _ hmem⟩
    · rintro ⟨session, hmem⟩
      rcases List.mem_append.mp hmem with hmem | hmem
      · exact ⟨session, hmem⟩
      · exact (hquiet _ hmem).elim
  · intro i peer hpeer
    rw [hsame.loopOf, h.loops i peer hpeer]
  · intro peer hpeer
    rw [hsame.loopOf, h.absent peer hpeer]

/-- Routing a session to an address makes it the last one, if it is new. -/
theorem Pooled.route (h : Pooled getNextLoop τ s peers) (session : SessionId)
    (peerAddr : SockAddrIn) : ∃ peers', Pooled getNextLoop (τ ++ [.routed session peerAddr])
      { s with server := (s.server.getOrCreatConnection getNextLoop peerAddr).1 } peers' := by
  have hrouted : ∀ peers' : List SockAddrIn,
      (∀ peer, peer ∈ peers' ↔ peer ∈ peers ∨ peer = peerAddr) → ∀ peer, peer ∈ peers' ↔
        ∃ session', .routed session' peer ∈ τ ++ [.routed session peerAddr] := by
    intro peers' hmem peer
    rw [hmem, h.routed peer]
    constructor
    · rintro (⟨session', hold⟩ | rfl)
      · exact ⟨session', List.mem_append_left _ hold⟩
      · exact ⟨session, List.mem_append_right _ List.mem_cons_self⟩
    · rintro ⟨session', hnew⟩
      rcases List.mem_append.mp hnew with hold | hnew
      · exact .inl ⟨session', hold⟩
      · cases List.mem_singleton.mp hnew
        exact .inr rfl
  by_cases hknown : peerAddr ∈ peers
  · obtain ⟨i, hi⟩ := List.mem_iff_getElem?.mp hknown
    have hloop := h.loops i peerAddr hi
    have hserver : (s.server.getOrCreatConnection getNextLoop peerAddr).1 = s.server := by
      unfold UdpServer.getOrCreatConnection
      cases hc : s.server.connections peerAddr with
      | some connection => rfl
      | none =>
          rw [UdpServer.loopOf, hc] at hloop
          cases hloop
    rw [hserver]
    refine ⟨peers, h.nodup, hrouted peers fun peer => ?_, h.loops, h.absent, h.created⟩
    constructor
    · exact .inl
    · rintro (hold | rfl)
      · exact hold
      · exact hknown
  · have hnone : s.server.connections peerAddr = none := by
      have habsent := h.absent peerAddr hknown
      rwa [UdpServer.loopOf, Option.map_eq_none_iff] at habsent
    have hserver : (s.server.getOrCreatConnection getNextLoop peerAddr).1 =
        { connections := Function.update s.server.connections peerAddr
            (some { loop := getNextLoop peers.length })
          created := peers.length + 1 } := by
      simp only [UdpServer.getOrCreatConnection, hnone, h.created]
    have hother : ∀ peer ≠ peerAddr, (s.server.getOrCreatConnection getNextLoop
        peerAddr).1.loopOf peer = s.server.loopOf peer := by
      intro peer hne
      simp only [hserver, UdpServer.loopOf, Function.update_of_ne hne]
    refine ⟨peers ++ [peerAddr], ?_, hrouted _ fun peer => ?_, ?_, ?_, ?_⟩
    · rw [List.nodup_append]
      refine ⟨h.nodup, by simp, ?_⟩
      intro peer hpeer other hother heq
      rw [List.mem_singleton.mp hother] at heq
      exact hknown (heq ▸ hpeer)
    · rw [List.mem_append, List.mem_singleton]
    · intro i peer hpeer
      rcases Nat.lt_trichotomy i peers.length with hlt | rfl | hgt
      · rw [List.getElem?_append_left hlt] at hpeer
        have hne : peer ≠ peerAddr := fun heq => hknown (heq ▸ List.mem_of_getElem? hpeer)
        rw [hother peer hne]
        exact h.loops i peer hpeer
      · rw [List.getElem?_concat_length] at hpeer
        cases hpeer
        rw [hserver]
        simp [UdpServer.loopOf]
      · rw [List.getElem?_eq_none (by rw [List.length_append, List.length_singleton]; omega)]
          at hpeer
        cases hpeer
    · intro peer hpeer
      rw [List.mem_append, List.mem_singleton, not_or] at hpeer
      rw [hother peer hpeer.2]
      exact h.absent peer hpeer.1
    · rw [hserver, List.length_append]
      rfl

theorem Pooled.step (h : Pooled getNextLoop τ s peers) (input : Input) :
    (step platform getNextLoop s input).Post fun events s' =>
      ∃ peers', Pooled getNextLoop (τ ++ events) s' peers' := by
  apply (step_connections input).mono
  intro events s' hstep
  cases hstep with
  | quiet hsame hquiet => exact ⟨peers, h.quiet hsame hquiet⟩
  | route session peerAddr rest hevents hquiet hsame =>
      obtain ⟨peers', h'⟩ := h.route session peerAddr
      refine ⟨peers', ?_⟩
      have hrest := h'.quiet hsame hquiet
      rwa [List.append_assoc, List.singleton_append, ← hevents] at hrest

end Pooled

/-! ## Runs -/

theorem runs_pooled {platform : Platform} {getNextLoop : Nat → LoopId} {inputs : List Input}
    {τ : List SessionEvent} {s : System}
    (hrun : Runs (step platform getNextLoop) {} inputs τ s) :
    ∃ peers, Pooled getNextLoop τ s peers := by
  refine run_inv (I := fun τ s => ∃ peers, Pooled getNextLoop τ s peers) ?_
    ⟨[], Pooled.init getNextLoop⟩ hrun
  rintro τ s input - ⟨peers, h⟩
  exact h.step input

/-! ## Shares of the threads -/

/-- What muduo documents of `EventLoopThreadPool::getNextLoop` with the given number
of threads: it is round-robin. A pool without threads always returns the base
loop, which is the case of one. -/
structure RoundRobin (getNextLoop : Nat → LoopId) (threads : Nat) : Prop where
  pos : 0 < threads
  distinct : ∀ i < threads, ∀ j < threads, getNextLoop i = getNextLoop j → i = j
  turn : ∀ n, getNextLoop (n + threads) = getNextLoop n

section RoundRobin

variable {getNextLoop : Nat → LoopId} {threads : Nat}

theorem RoundRobin.mod (h : RoundRobin getNextLoop threads) (n : Nat) :
    getNextLoop (n % threads) = getNextLoop n := by
  have hturns : ∀ i k, getNextLoop (i + k * threads) = getNextLoop i := by
    intro i k
    induction k with
    | zero => rw [Nat.zero_mul, Nat.add_zero]
    | succ k ih => rw [Nat.succ_mul, ← Nat.add_assoc, h.turn, ih]
  calc
    getNextLoop (n % threads) = getNextLoop (n % threads + n / threads * threads) :=
      (hturns _ _).symm
    _ = getNextLoop n := by rw [Nat.mod_add_div']

theorem RoundRobin.eq_iff (h : RoundRobin getNextLoop threads) {thread : Nat}
    (hthread : thread < threads) (n : Nat) :
    getNextLoop n = getNextLoop thread ↔ n ≡ thread [MOD threads] := by
  rw [Nat.ModEq, Nat.mod_eq_of_lt hthread, ← h.mod n]
  constructor
  · exact h.distinct _ (Nat.mod_lt n h.pos) _ hthread
  · exact fun heq => by rw [heq]

/-- The share of a thread in the first `n` connections. -/
theorem RoundRobin.countP (h : RoundRobin getNextLoop threads) {thread : Nat}
    (hthread : thread < threads) (n : Nat) :
    (List.range n).countP (fun i => getNextLoop i = getNextLoop thread) =
      n / threads + if thread < n % threads then 1 else 0 := by
  have hcount : (List.range n).countP (fun i => getNextLoop i = getNextLoop thread) =
      n.count (· ≡ thread [MOD threads]) := by
    induction n with
    | zero => rfl
    | succ n ih =>
        rw [List.range_succ, List.countP_append, ih, Nat.count_succ]
        simp [h.eq_iff hthread]
  rw [hcount, Nat.count_modEq_card _ h.pos, Nat.mod_eq_of_lt hthread]

end RoundRobin

/-- There is one connection for each address that a session was routed to, and no
other, and a round-robin pool shares them evenly: after every run each thread has
as many as any other, or one more if its turn came once more. -/
theorem connections_balanced (platform : Platform) (getNextLoop : Nat → LoopId) (threads : Nat)
    (hpool : RoundRobin getNextLoop threads) (inputs : List Input)
    {τ : List SessionEvent} {s : System}
    (hrun : Runs (step platform getNextLoop) {} inputs τ s) :
    ∃ peers : List SockAddrIn, peers.Nodup ∧
      (∀ peer, peer ∈ peers ↔ s.server.connections peer ≠ none) ∧
      (∀ peer, peer ∈ peers ↔ ∃ session, .routed session peer ∈ τ) ∧
      ∀ thread < threads,
        peers.countP (fun peer => s.server.loopOf peer = some (getNextLoop thread)) =
          peers.length / threads + if thread < peers.length % threads then 1 else 0 := by
  obtain ⟨peers, h⟩ := runs_pooled hrun
  refine ⟨peers, h.nodup, ?_, h.routed, ?_⟩
  · intro peer
    constructor
    · intro hmem hnone
      obtain ⟨i, hi⟩ := List.mem_iff_getElem?.mp hmem
      have hloop := h.loops i peer hi
      rw [UdpServer.loopOf, hnone] at hloop
      cases hloop
    · intro hsome
      by_contra hmem
      have habsent := h.absent peer hmem
      rw [UdpServer.loopOf, Option.map_eq_none_iff] at habsent
      exact hsome habsent
  · intro thread hthread
    rw [← hpool.countP hthread]
    have hmap : peers.map (fun peer => s.server.loopOf peer) =
        (List.range peers.length).map fun i => some (getNextLoop i) := by
      apply List.ext_getElem?
      intro i
      rw [List.getElem?_map, List.getElem?_map]
      rcases Nat.lt_or_ge i peers.length with hlt | hge
      · rw [List.getElem?_range hlt, List.getElem?_eq_getElem hlt, Option.map_some,
          Option.map_some, h.loops i _ (List.getElem?_eq_getElem hlt)]
      · rw [List.getElem?_eq_none hge, List.getElem?_eq_none (by simpa using hge)]
        rfl
    have hcount := congrArg (List.countP fun x => x = some (getNextLoop thread)) hmap
    rw [List.countP_map, List.countP_map] at hcount
    simpa [Function.comp_def] using hcount

theorem roundRobin_two : RoundRobin (roundRobin 2) 2 where
  pos := by decide
  distinct := by decide
  turn := fun n => by simp [roundRobin]

/-- Two threads and three addresses. -/
theorem connections_balanced_clients :
    ∃ τ s, Runs (step WebRtcTransport.samplePlatform (roundRobin 2)) {}
        [newSession, binding client, binding client', binding client, binding stranger] τ s ∧
      ∃ peers : List SockAddrIn, peers.Nodup ∧
        (∀ peer, peer ∈ peers ↔ ∃ session, .routed session peer ∈ τ) ∧
        ∀ thread < 2, peers.countP (fun peer => s.server.loopOf peer = some (1 + thread)) =
          peers.length / 2 + if thread < peers.length % 2 then 1 else 0 := by
  have hcreated : ((run (step WebRtcTransport.samplePlatform (roundRobin 2)) [] {}
      [newSession, binding client, binding client', binding client, binding stranger]).map
      fun r => r.2.server.created) = some 3 := by
    decide +kernel
  obtain ⟨⟨τ, s⟩, hrun, -⟩ := Option.map_eq_some_iff.mp hcreated
  obtain ⟨peers, hnodup, -, hrouted, hshare⟩ :=
    connections_balanced _ (roundRobin 2) 2 roundRobin_two _ hrun
  refine ⟨τ, s, hrun, peers, hnodup, hrouted, ?_⟩
  intro thread hthread
  have hloop : roundRobin 2 thread = 1 + thread := by
    rw [roundRobin, if_neg (by decide), Nat.mod_eq_of_lt hthread]
  rw [← hshare thread hthread, hloop]

end EasyWebRtc.Session
