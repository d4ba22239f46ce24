import EasyWebRtc.Session.Admission
import EasyWebRtc.Session.Connections

/-!
# Media for every session

`WriteRtpCallback` offers each packet of the RTP source to the sessions that are
registered and ready, by one closure for each. Over any run the packets offered to
a session are those that were handed to its transport and those whose closures
still wait: none is lost and none is sent twice. While the connections of a
session live in one loop, and it runs its closures in order, they are handed over
in the order of the source.
-/

namespace EasyWebRtc.Session

open Octets Utils Rtc Net Traced

/-! ## Primitive changes of a system -/

/-- A predicate that the changes a step is made of keep. -/
structure Primitive (I : System → Prop) : Prop where
  transport : ∀ s session (f : WebRTCSession → WebRtcTransport NetworkTransport), I s →
    I (s.modifySession session fun rtcSession => { rtcSession with webrtcTransport := f rtcSession })
  route : ∀ s session loop, I s → I (s.modifySession session fun rtcSession =>
    { rtcSession with loop := some loop, isReady := true })
  server : ∀ (s : System) server, I s → I { s with server }
  pending : ∀ (s : System) pending, I s → I { s with pending }
  create : ∀ s webrtcTransport, I s → I (s.createWebRTCSession webrtcTransport)

namespace Primitive

variable {platform : Platform} {getNextLoop : Nat → LoopId} {env : Outcomes} {s : System}
  {I : System → Prop}

theorem callTransport (h : Primitive I) (hs : I s) {loop : LoopId} {session : SessionId}
    {call : WebRtcTransport NetworkTransport →
      WebRtcTransport.Call NetworkTransport (WebRtcTransport NetworkTransport)} :
    (s.callTransport loop session call).Post fun _ s' => I s' := by
  refine (callTransport_post (Q := fun _ _ => True) fun _ => ⟨fun _ _ => trivial⟩).mono ?_
  rintro _ s' ⟨_, w', _, _, rfl⟩
  exact h.transport s session (fun _ => w') hs

theorem perform (h : Primitive I) (hs : I s) {loop : LoopId} {task : Task} :
    (s.perform platform env loop task).Post fun _ s' => I s' := by
  cases task with
  | enableReading peer => exact Post.pure (h.server s _ hs)
  | onInputDataPacket session data remoteAddress =>
      apply Post.bind
      apply Post.emit
      exact h.callTransport hs
  | encryptAndSendRtpPacket session data =>
      rw [System.perform]
      exact h.callTransport hs

theorem runInLoop (h : Primitive I) (hs : I s) {current loop : LoopId} {task : Task} :
    (s.runInLoop platform env current loop task).Post fun _ s' => I s' := by
  unfold System.runInLoop
  split
  · exact h.perform hs
  · exact Post.pure (h.pending s _ hs)

theorem routePacket (h : Primitive I) (hs : I s) {session : SessionId} {data : Bytes}
    {peerAddr : SockAddrIn} :
    (s.routePacket platform getNextLoop env session data peerAddr).Post fun _ s' => I s' := by
  unfold System.routePacket
  generalize s.server.getOrCreatConnection getNextLoop peerAddr = created
  rcases created with ⟨server, connection⟩
  apply Post.bind
  apply Post.bind
  apply Post.emit
  apply Post.bind
  refine (h.runInLoop (h.server _ _ (h.transport _ session
    (fun rtcSession => rtcSession.webrtcTransport.setNetworkTransport ⟨peerAddr⟩)
    (h.server s server hs)))).mono ?_
  intro _ s₁ hs₁
  apply Post.pure
  exact h.runInLoop (h.route s₁ session connection.loop hs₁)

theorem writeRtpCallback (h : Primitive I) (hs : I s) (data : Bytes) :
    I (s.writeRtpCallback data) := by
  unfold System.writeRtpCallback
  generalize s.getAllReadyWebRTCSession = ready
  induction ready generalizing s with
  | nil => exact hs
  | cons session ready ih =>
      rw [List.foldl_cons]
      apply ih
      split
      · exact h.pending s _ hs
      · exact hs

theorem step (h : Primitive I) (hs : I s) (input : Input) :
    (step platform getNextLoop s input).Post fun _ s' => I s' := by
  cases input with
  | createWebRTCSession usernameFragment password uninitialised => exact Post.pure (h.create s _ hs)
  | setRTPChannel session channel => exact Post.pure (h.transport s session _ hs)
  | serverRead env data peerAddr =>
      rw [Session.step]
      cases haddressee : s.addressee (data.take bufSize) with
      | none =>
          apply (handlePacket_of_no_addressee haddressee).mono
          rintro _ s' ⟨-, rfl⟩
          exact hs
      | some session =>
          rw [handlePacket_of_addressee peerAddr haddressee]
          exact h.routePacket hs
  | connectionRead env peer data =>
      simp only [Session.step, System.handleRead]
      split
      · exact h.perform hs
      · exact Post.pure hs
  | pendingFunctor env loop position =>
      simp only [Session.step, System.doPendingFunctor]
      split
      · exact Post.pure hs
      · exact h.perform (h.pending s _ hs)
  | writeRtpCallback data => exact Post.pure (h.writeRtpCallback hs data)

end Primitive

/-! ## The sessions that media is offered to -/

/-- A ready session has a loop, and the map has every session once. -/
structure Offers (s : System) : Prop where
  loops : ∀ (session : SessionId) rtcSession, s.sessions[session]? = some rtcSession →
    rtcSession.isReady = true → rtcSession.loop ≠ none
  nodup : (s.rtcSessions.map Prod.snd).Nodup
  registered : ∀ entry ∈ s.rtcSessions, entry.2 < s.sessions.length

theorem insertSession_nodup {key : Bytes} {session : SessionId}
    {entries : List (Bytes × SessionId)} (h : (entries.map Prod.snd).Nodup)
    (hnew : session ∉ entries.map Prod.snd) :
    ((insertSession key session entries).map Prod.snd).Nodup := by
  induction entries with
  | nil => simp [insertSession]
  | cons entry entries ih =>
      unfold insertSession
      split
      · exact h
      · split
        · exact List.nodup_cons.mpr ⟨hnew, h⟩
        · rw [List.map_cons, List.nodup_cons] at h ⊢
          rw [List.map_cons, List.mem_cons, not_or] at hnew
          refine ⟨?_, ih h.2 hnew.2⟩
          intro hmem
          obtain ⟨entry', hentry', heq⟩ := List.mem_map.mp hmem
          rcases mem_insertSession hentry' with rfl | hold
          · exact hnew.1 heq
          · exact h.1 (heq ▸ List.mem_map_of_mem hold)

/-- A change of one session that keeps loop and flag together. -/
theorem Offers.modifySession {s : System} (h : Offers s) (session : SessionId)
    {f : WebRTCSession → WebRTCSession}
    (hf : ∀ rtcSession, (rtcSession.isReady = true → rtcSession.loop ≠ none) →
      (f rtcSession).isReady = true → (f rtcSession).loop ≠ none) :
    Offers (s.modifySession session f) := by
  refine ⟨?_, h.nodup, ?_⟩
  · intro other rtcSession' hs'
    rw [System.modifySession, List.getElem?_modify] at hs'
    obtain ⟨rtcSession, hs, rfl⟩ := Option.map_eq_some_iff.mp hs'
    have hold := h.loops other rtcSession hs
    split
    · exact hf rtcSession hold
    · exact hold
  · intro entry hentry
    rw [System.modifySession, List.length_modify]
    exact h.registered entry hentry

theorem offers_primitive : Primitive Offers where
  transport := fun s session f h => h.modifySession session fun _ hold => hold
  route := fun s session loop h => h.modifySession session fun _ _ _ => Option.some_ne_none loop
  server := fun s server h => ⟨h.loops, h.nodup, h.registered⟩
  pending := fun s pending h => ⟨h.loops, h.nodup, h.registered⟩
  create := by
    intro s webrtcTransport h
    refine ⟨?_, insertSession_nodup h.nodup ?_, ?_⟩
    · intro session rtcSession hs hready
      rcases List.mem_append.mp (List.mem_of_getElem? hs) with hold | hnew
      · obtain ⟨i, hi⟩ := List.mem_iff_getElem?.mp hold
        exact h.loops i rtcSession hi hready
      · rw [List.mem_singleton.mp hnew] at hready
        cases hready
    · intro hmem
      obtain ⟨entry, hentry, heq⟩ := List.mem_map.mp hmem
      exact absurd (h.registered entry hentry) (heq ▸ Nat.lt_irrefl _)
    · intro entry hentry
      rw [System.createWebRTCSession, List.length_append]
      rcases mem_insertSession hentry with rfl | hold
      · exact Nat.lt_succ_self _
      · exact Nat.lt_succ_of_lt (h.registered entry hold)

theorem Offers.init : Offers {} := ⟨by simp, List.nodup_nil, by simp⟩

/-! ## What is offered, handed over and waits -/

def mediaFor (session : SessionId) : LoopId × Task → Option Bytes
  | (_, .encryptAndSendRtpPacket session' data) => if session' = session then some data else none
  | _ => none

def mediaCall : TransportInput → Option Bytes
  | .encryptAndSendRtpPacket _ data => some data
  | _ => none

/-- The packet that a step offers to a session. -/
def System.offer (session : SessionId) (s : System) : Input → List Bytes
  | .writeRtpCallback data => if session ∈ s.getAllReadyWebRTCSession then [data] else []
  | _ => []

/-- The packets that the source writes while the session is registered and ready. -/
def offered (platform : Platform) (getNextLoop : Nat → LoopId) (session : SessionId) (s : System)
    (inputs : List Input) : List Bytes :=
  collect platform getNextLoop (System.offer session) s inputs

def handed (platform : Platform) (getNextLoop : Nat → LoopId) (session : SessionId) (s : System)
    (inputs : List Input) : List Bytes :=
  (callsAlong platform getNextLoop session s inputs).filterMap mediaCall

def waiting (session : SessionId) (s : System) : List Bytes := s.pending.filterMap (mediaFor session)

section Step

variable {platform : Platform} {getNextLoop : Nat → LoopId} {s s' : System} {session : SessionId}

theorem filterMap_mediaFor {ready : List SessionId} {loopOf : SessionId → Option LoopId}
    (data : Bytes) (hnodup : ready.Nodup) (hloops : ∀ other ∈ ready, loopOf other ≠ none) :
    (ready.filterMap fun other => (loopOf other).map fun loop =>
        (loop, Task.encryptAndSendRtpPacket other data)).filterMap (mediaFor session) =
      if session ∈ ready then [data] else [] := by
  induction ready with
  | nil => rfl
  | cons other ready ih =>
      obtain ⟨hnot, hrest⟩ := List.nodup_cons.mp hnodup
      obtain ⟨loop, hloop⟩ := Option.ne_none_iff_exists'.mp (hloops other List.mem_cons_self)
      have hih := ih hrest fun x hx => hloops x (List.mem_cons_of_mem other hx)
      rw [List.filterMap_cons_some (b := (loop, Task.encryptAndSendRtpPacket other data))
        (by rw [hloop]; rfl)]
      by_cases heq : other = session
      · subst heq
        rw [if_neg hnot] at hih
        rw [List.filterMap_cons_some (b := data) (by simp [mediaFor]), hih]
        simp
      · rw [List.filterMap_cons_none (by simp [mediaFor, heq]), hih]
        simp [List.mem_cons, Ne.symm heq]

theorem posts_media (h : Offers s) (input : Input) :
    (s.posts getNextLoop input).filterMap (mediaFor session) = s.offer session input := by
  cases input with
  | writeRtpCallback data =>
      rw [System.posts, System.offer]
      apply filterMap_mediaFor
      · exact h.nodup.filter _
      · intro other hother
        obtain ⟨-, hready⟩ := List.mem_filter.mp hother
        cases hs : s.sessions[other]? with
        | none =>
            rw [hs] at hready
            cases hready
        | some rtcSession =>
            rw [hs] at hready
            exact h.loops other rtcSession hs hready
  | serverRead env data peerAddr =>
      simp only [System.posts, System.offer]
      split
      · rfl
      · split <;> rfl
  | createWebRTCSession usernameFragment password uninitialised => rfl
  | setRTPChannel session' channel => rfl
  | connectionRead env peer data => rfl
  | pendingFunctor env loop position => rfl

theorem takes_media {input : Input} (hr : (step platform getNextLoop s input).result = .ok s') :
    (s.takes input).toList.filterMap (mediaFor session) =
      (if session < s.sessions.length then calls platform getNextLoop session s input
        else []).filterMap mediaCall := by
  have hnone : ∀ {cs : List TransportInput}, (∀ c ∈ cs, mediaCall c = none) →
      [] = (if session < s.sessions.length then cs else []).filterMap mediaCall := by
    intro cs hcs
    split
    · exact (List.filterMap_eq_nil_iff.mpr hcs).symm
    · rfl
  cases input with
  | createWebRTCSession usernameFragment password uninitialised => exact hnone (by simp [calls])
  | writeRtpCallback data => exact hnone (by simp [calls])
  | setRTPChannel session' channel =>
      apply hnone
      intro c hc
      simp only [calls] at hc
      split at hc
      · rw [List.mem_singleton.mp hc]
        rfl
      · cases hc
  | serverRead env data peerAddr =>
      apply hnone
      intro c hc
      obtain ⟨e, -, hcall⟩ := List.mem_filterMap.mp hc
      cases e with
      | routed session' peer =>
          simp only [routedCall] at hcall
          split at hcall <;> cases hcall
          rfl
      | received session' data' remoteAddress =>
          simp only [routedCall] at hcall
          split at hcall <;> cases hcall
          rfl
      | sent _ _ _ _ _ _ => cases hcall
  | connectionRead env peer data =>
      apply hnone
      intro c hc
      obtain ⟨⟨env', loop, task⟩, hexec, hcall⟩ :=
        Option.bind_eq_some_iff.mp (Option.mem_toList.mp hc)
      simp only [System.executes] at hexec
      split at hexec
      · cases hexec
        simp only [taskCall] at hcall
        split at hcall <;> cases hcall
        rfl
      · cases hexec
  | pendingFunctor env loop position =>
      simp only [System.takes, calls, System.executes]
      cases hnext : System.taskAt loop position s.pending with
      | none => simp
      | some r =>
          obtain ⟨task, pending⟩ := r
          cases task with
          | enableReading peer => exact hnone (by simp [taskCall])
          | onInputDataPacket session' data remoteAddress =>
              apply hnone
              intro c hc
              simp only [Option.map_some, Option.bind_some, taskCall, Option.mem_toList] at hc
              split at hc
              · cases hc
                rfl
              · cases hc
          | encryptAndSendRtpPacket session' data =>
              simp only [Option.map_some, Option.bind_some, taskCall, Option.toList_some,
                List.filterMap_cons, mediaFor, List.filterMap_nil]
              by_cases heq : session' = session
              · subst heq
                -- The closure has run, so that the session is there.
                simp only [step, System.doPendingFunctor, hnext, System.perform] at hr
                obtain ⟨rtcSession, _, hs, -⟩ := (callTransport_post (Q := fun _ _ => True)
                  fun _ => ⟨fun _ _ => trivial⟩).out s' hr
                rw [if_pos (List.getElem?_eq_some_iff.mp hs).choose]
                simp [mediaCall]
              · simp [heq]

end Step

/-! ## Runs -/

section Run

variable {platform : Platform} {getNextLoop : Nat → LoopId} {s s' : System}
  {inputs : List Input} {τ : List SessionEvent}

theorem posted_media (h : Offers s) (hrun : Runs (step platform getNextLoop) s inputs τ s')
    (session : SessionId) : (posted platform getNextLoop s inputs).filterMap (mediaFor session) =
      offered platform getNextLoop session s inputs := by
  induction inputs generalizing s τ with
  | nil => rfl
  | cons input inputs ih =>
      obtain ⟨s₁, τ₁, hr, hrest, -⟩ := runs_cons_iff.mp hrun
      have hih := ih ((offers_primitive.step h input).out s₁ hr) hrest
      simp only [posted, offered, collect, hr, List.filterMap_append, posts_media h] at hih ⊢
      rw [hih]

theorem taken_media (hrun : Runs (step platform getNextLoop) s inputs τ s')
    (session : SessionId) : (taken platform getNextLoop s inputs).filterMap (mediaFor session) =
      handed platform getNextLoop session s inputs := by
  induction inputs generalizing s τ with
  | nil => rfl
  | cons input inputs ih =>
      obtain ⟨s₁, τ₁, hr, hrest, -⟩ := runs_cons_iff.mp hrun
      have hih := ih hrest
      simp only [taken, collect, hr, List.filterMap_append, takes_media hr] at hih ⊢
      rw [hih, handed, handed, callsAlong_cons hr, List.filterMap_append]

/-- Every closure for the media of a session is posted to the loop that the session
has throughout. -/
theorem posts_loop {session : SessionId} {loop : LoopId}
    (h : ∀ rtcSession, s.sessions[session]? = some rtcSession →
      rtcSession.loop = none ∨ rtcSession.loop = some loop) (input : Input)
    {entry : LoopId × Task} (hentry : entry ∈ s.posts getNextLoop input)
    (hmedia : mediaFor session entry ≠ none) : entry.1 = loop := by
  cases input with
  | writeRtpCallback data =>
      obtain ⟨other, -, hsome⟩ := List.mem_filterMap.mp hentry
      obtain ⟨loop', hloop, rfl⟩ := Option.map_eq_some_iff.mp hsome
      obtain ⟨rtcSession, hs, hof⟩ := Option.bind_eq_some_iff.mp hloop
      by_cases heq : other = session
      · subst heq
        rcases h rtcSession hs with hnone | hsame
        · rw [hnone] at hof
          cases hof
        · exact Option.some.inj (hof.symm.trans hsame)
      · exact (hmedia (if_neg heq)).elim
  | serverRead env data peerAddr =>
      simp only [System.posts] at hentry
      split at hentry
      · cases hentry
      · split at hentry
        · cases hentry
        · rcases List.mem_cons.mp hentry with rfl | hentry
          · exact (hmedia rfl).elim
          · rw [List.mem_singleton.mp hentry] at hmedia
            exact (hmedia rfl).elim
  | createWebRTCSession usernameFragment password uninitialised => cases hentry
  | setRTPChannel session' channel => cases hentry
  | connectionRead env peer data => cases hentry
  | pendingFunctor env loop' position => cases hentry

theorem lastRouted_mem {session : SessionId} {peer : SockAddrIn}
    (h : lastRouted τ session = some peer) : .routed session peer ∈ τ := by
  induction τ using List.reverseRecOn with
  | nil => cases h
  | append_singleton τ event ih =>
      rw [lastRouted_concat] at h
      split at h
      · split at h
        · rename_i heq
          cases h
          rw [heq]
          simp
        · exact List.mem_append_left _ (ih h)
      · exact List.mem_append_left _ (ih h)

theorem runs_loopOf {τ₀ : List SessionEvent} (h : Inv τ₀ s)
    (hrun : Runs (step platform getNextLoop) s inputs τ s') {peer : SockAddrIn} {loop : LoopId}
    (hloop : s.server.loopOf peer = some loop) : s'.server.loopOf peer = some loop := by
  induction inputs generalizing s τ τ₀ with
  | nil =>
      cases hrun
      exact hloop
  | cons input inputs ih =>
      obtain ⟨s₁, τ₁, hr, hrest, -⟩ := runs_cons_iff.mp hrun
      exact ih ((h.step input).out s₁ hr) hrest ((step_loopOf input hloop).out s₁ hr)

theorem posted_loop {τ₀ : List SessionEvent} (h : Inv τ₀ s)
    (hrun : Runs (step platform getNextLoop) s inputs τ s') {session : SessionId} {loop : LoopId}
    (hroutes : ∀ peer, .routed session peer ∈ τ₀ ++ τ → s'.server.loopOf peer = some loop)
    {entry : LoopId × Task} (hentry : entry ∈ posted platform getNextLoop s inputs)
    (hmedia : mediaFor session entry ≠ none) : entry.1 = loop := by
  induction inputs generalizing s τ τ₀ with
  | nil => cases hentry
  | cons input inputs ih =>
      obtain ⟨s₁, τ₁, hr, hrest, rfl⟩ := runs_cons_iff.mp hrun
      simp only [posted, collect, hr, List.mem_append] at hentry
      rcases hentry with hnow | hlater
      · refine posts_loop ?_ input hnow hmedia
        intro rtcSession hs
        have hfollows := h.follows session rtcSession hs
        cases hroute : lastRouted τ₀ session with
        | none =>
            rw [hroute] at hfollows
            exact .inl hfollows.2
        | some peer =>
            rw [hroute] at hfollows
            obtain ⟨-, loop', hof, hloop⟩ := hfollows
            have hend := runs_loopOf h hrun hof
            rw [hroutes peer (List.mem_append_left _ (lastRouted_mem hroute))] at hend
            exact .inr (hloop.trans hend.symm)
      · refine ih ((h.step input).out s₁ hr) hrest ?_ hlater
        rw [List.append_assoc]
        exact hroutes

theorem filterMap_ofLoop {session : SessionId} {loop : LoopId} {entries : List (LoopId × Task)}
    (h : ∀ entry ∈ entries, mediaFor session entry ≠ none → entry.1 = loop) :
    (ofLoop loop entries).filterMap (mediaFor session) = entries.filterMap (mediaFor session) := by
  induction entries with
  | nil => rfl
  | cons entry entries ih =>
      have hih := ih fun e he => h e (List.mem_cons_of_mem entry he)
      by_cases hloop : entry.1 = loop
      · rw [ofLoop, List.filter_cons_of_pos (by simpa using hloop)]
        simp only [List.filterMap_cons]
        rw [← ofLoop, hih]
      · have hnone : mediaFor session entry = none := by
          by_contra hsome
          exact hloop (h entry List.mem_cons_self hsome)
        rw [ofLoop, List.filter_cons_of_neg (by simpa using hloop), ← ofLoop, hih,
          List.filterMap_cons_none hnone]

end Run

/-- Media is not lost, not sent twice and not reordered. After every run, in whatever
order the closures were run, the packets that were offered to a session are those
handed to its transport together with those whose closures wait; if the loops run
their closures in order and the session was only routed to connections of one
loop, they are so in this order. -/
theorem media_in_order (platform : Platform) (getNextLoop : Nat → LoopId) (inputs : List Input)
    {τ : List SessionEvent} {s : System}
    (hrun : Runs (step platform getNextLoop) {} inputs τ s) (session : SessionId) :
    (offered platform getNextLoop session {} inputs).Perm
        (handed platform getNextLoop session {} inputs ++ waiting session s) ∧
      ((∀ input ∈ inputs, input.InOrder) →
        (∃ loop, ∀ peer, .routed session peer ∈ τ → s.server.loopOf peer = some loop) →
        offered platform getNextLoop session {} inputs =
          handed platform getNextLoop session {} inputs ++ waiting session s) := by
  have hperm : (posted platform getNextLoop {} inputs).Perm
      (taken platform getNextLoop {} inputs ++ s.pending) := run_pending_perm hrun
  rw [← posted_media Offers.init hrun, ← taken_media hrun, waiting, ← List.filterMap_append]
  refine ⟨hperm.filterMap _, ?_⟩
  rintro horder ⟨loop, hroutes⟩
  have hqueue : ofLoop loop (posted platform getNextLoop {} inputs) =
      ofLoop loop (taken platform getNextLoop {} inputs ++ s.pending) := by
    rw [ofLoop_append]
    exact run_pending horder hrun loop
  have hloop : ∀ entry ∈ posted platform getNextLoop {} inputs,
      mediaFor session entry ≠ none → entry.1 = loop := by
    intro entry hentry hmedia
    exact posted_loop Inv.init hrun hroutes hentry hmedia
  rw [← filterMap_ofLoop hloop, hqueue, filterMap_ofLoop]
  intro entry hentry
  exact hloop entry (hperm.mem_iff.mpr hentry)

/-- One thread, a client and two packets of the source, the second of which waits. -/
def twoPackets : List Input :=
  [newSession, binding client, media, next 1, next 1, next 1, media]

theorem media_in_order_client :
    ∃ τ s, Runs (step WebRtcTransport.samplePlatform (roundRobin 1)) {} twoPackets τ s ∧
      offered WebRtcTransport.samplePlatform (roundRobin 1) 0 {} twoPackets =
        handed WebRtcTransport.samplePlatform (roundRobin 1) 0 {} twoPackets ++ waiting 0 s ∧
      (waiting 0 s).length = 1 := by
  have hends : ((run (step WebRtcTransport.samplePlatform (roundRobin 1)) [] {} twoPackets).map
      fun r => (r.1.all routesToClient, r.2.server.loopOf client, (waiting 0 r.2).length)) =
        some (true, some 1, 1) := by
    decide +kernel
  obtain ⟨⟨τ, s⟩, hrun, hend⟩ := Option.map_eq_some_iff.mp hends
  obtain ⟨hroutes, hloop, hone⟩ : τ.all routesToClient = true ∧
      s.server.loopOf client = some 1 ∧ (waiting 0 s).length = 1 := by
    simpa only [Prod.mk.injEq] using hend
  refine ⟨τ, s, hrun, (media_in_order _ _ _ hrun 0).2 (by decide) ⟨1, ?_⟩, hone⟩
  intro peer hpeer
  have hclient : peer = client := of_decide_eq_true (List.all_eq_true.mp hroutes _ hpeer)
  rw [hclient]
  exact hloop

end EasyWebRtc.Session
