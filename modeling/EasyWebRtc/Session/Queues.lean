import EasyWebRtc.Session.Destination
import EasyWebRtc.Session.Split

/-!
# The queues of the loops

`HandlePacket` and the RTP source post closures to loops that run at their own
pace: what each step posts and takes, and how a run changes the queue of a loop.
-/

namespace EasyWebRtc.Session

open Octets Utils Rtc Net Traced

/-! ## What a step posts and runs -/

/-- The session that `HandlePacket` finds for a datagram. -/
def System.addressee (s : System) (data : Bytes) : Option SessionId :=
  match StunPacket.parse data data.length with
  | .ok (some packet) =>
      match split packet.username [0x3A] with
      | .ok (useName :: _) => s.getWebRTCSession useName
      | _ => none
  | _ => none

section

variable (getNextLoop : Nat → LoopId)

/-- The closures that a step posts to loops other than its own. -/
def System.posts (s : System) : Input → List (LoopId × Task)
  | .serverRead _ data peerAddr =>
      match s.addressee (data.take bufSize) with
      | none => []
      | some session =>
          let loop := (s.server.getOrCreatConnection getNextLoop peerAddr).2.loop
          if baseLoop = loop then []
          else [(loop, .enableReading peerAddr),
            (loop, .onInputDataPacket session (data.take bufSize) peerAddr)]
  | .writeRtpCallback data =>
      s.getAllReadyWebRTCSession.filterMap fun session =>
        ((s.sessions[session]?).bind (·.loop)).map fun loop =>
          (loop, .encryptAndSendRtpPacket session data)
  | .createWebRTCSession _ _ _ | .setRTPChannel _ _ | .connectionRead _ _ _
  | .pendingFunctor _ _ _ => []

end

/-- The closure that a step takes from a queue. -/
def System.takes (s : System) : Input → Option (LoopId × Task)
  | .pendingFunctor _ loop position => (taskAt loop position s.pending).map fun r => (loop, r.1)
  | _ => none

/-- The closures that a step leaves in the queues, apart from those that it posts. -/
def System.remaining (s : System) : Input → List (LoopId × Task)
  | .pendingFunctor _ loop position =>
      match taskAt loop position s.pending with
      | some (_, pending) => pending
      | none => s.pending
  | _ => s.pending

section Along

variable (platform : Platform) (getNextLoop : Nat → LoopId)

/-- A list of what each step of a run does. -/
def collect {α : Type} (f : System → Input → List α) : System → List Input → List α
  | _, [] => []
  | s, input :: inputs =>
      f s input ++
        match (step platform getNextLoop s input).result with
        | .ok s' => collect f s' inputs
        | .error _ => []

def posted (s : System) (inputs : List Input) : List (LoopId × Task) :=
  collect platform getNextLoop (fun s input => s.posts getNextLoop input) s inputs

def taken (s : System) (inputs : List Input) : List (LoopId × Task) :=
  collect platform getNextLoop (fun s input => (s.takes input).toList) s inputs

end Along

def ofLoop (loop : LoopId) (entries : List (LoopId × Task)) : List (LoopId × Task) :=
  entries.filter fun entry => entry.1 = loop

@[simp] theorem ofLoop_append (loop : LoopId) (entries entries' : List (LoopId × Task)) :
    ofLoop loop (entries ++ entries') = ofLoop loop entries ++ ofLoop loop entries' :=
  List.filter_append ..

/-! ## One step -/

theorem taskAt_perm {loop : LoopId} {position : Nat} {pending rest : List (LoopId × Task)}
    {task : Task} (h : System.taskAt loop position pending = some (task, rest)) :
    pending.Perm ((loop, task) :: rest) := by
  induction pending generalizing position rest with
  | nil => cases h
  | cons entry entries ih =>
      have hlater : ∀ {position'}, (System.taskAt loop position' entries).map
          (fun r => (r.1, entry :: r.2)) = some (task, rest) →
          (entry :: entries).Perm ((loop, task) :: rest) := by
        intro position' hmap
        obtain ⟨⟨task', rest'⟩, hnext, heq⟩ := Option.map_eq_some_iff.mp hmap
        cases heq
        exact ((ih hnext).cons entry).trans (List.Perm.swap ..)
      unfold System.taskAt at h
      split at h
      · rename_i hloop
        cases position with
        | zero =>
            cases h
            exact hloop ▸ List.Perm.refl _
        | succ position => exact hlater h
      · exact hlater h

theorem taskAt_zero_ofLoop {loop : LoopId} {pending rest : List (LoopId × Task)} {task : Task}
    (h : System.taskAt loop 0 pending = some (task, rest)) (other : LoopId) :
    ofLoop other pending = ofLoop other [(loop, task)] ++ ofLoop other rest := by
  induction pending generalizing rest with
  | nil => cases h
  | cons entry entries ih =>
      unfold System.taskAt at h
      split at h
      · rename_i hloop
        cases h
        rw [← ofLoop_append, ← hloop]
        rfl
      · rename_i hloop
        obtain ⟨⟨task', rest'⟩, hnext, heq⟩ := Option.map_eq_some_iff.mp h
        cases heq
        have hrest := ih hnext
        by_cases hentry : entry.1 = other
        · -- The entry waits in the queue of `other`, which then is not `loop`.
          have hne : loop ≠ other := fun heq => hloop (hentry.trans heq.symm)
          simp only [ofLoop, List.filter_cons, hentry, hne, decide_true, decide_false, if_true,
            List.filter_nil] at hrest ⊢
          rw [hrest]
          rfl
        · simp only [ofLoop, List.filter_cons, hentry, decide_false] at hrest ⊢
          exact hrest

theorem takes_perm (s : System) (input : Input) :
    s.pending.Perm ((s.takes input).toList ++ s.remaining input) := by
  cases input with
  | pendingFunctor env loop position =>
      simp only [System.takes, System.remaining]
      cases hnext : System.taskAt loop position s.pending with
      | none => exact List.Perm.refl _
      | some r => exact taskAt_perm hnext
  | _ => exact List.Perm.refl _

/-- A step in order takes the first closure of a loop and leaves the others as they
were. -/
theorem takes_ofLoop (s : System) {input : Input} (h : input.InOrder) (loop : LoopId) :
    ofLoop loop s.pending =
      ofLoop loop (s.takes input).toList ++ ofLoop loop (s.remaining input) := by
  cases input with
  | pendingFunctor env loop' position =>
      cases h
      simp only [System.takes, System.remaining]
      cases hnext : System.taskAt loop' 0 s.pending with
      | none => rfl
      | some r => exact taskAt_zero_ofLoop hnext loop
  | _ => rfl

section Step

variable {platform : Platform} {getNextLoop : Nat → LoopId} {env : Outcomes} {s : System}

theorem callTransport_pending {loop : LoopId} {session : SessionId}
    {call : WebRtcTransport NetworkTransport →
      WebRtcTransport.Call NetworkTransport (WebRtcTransport NetworkTransport)} :
    (s.callTransport loop session call).Post fun _ s' => s'.pending = s.pending := by
  refine (callTransport_post (Q := fun _ _ => True) fun _ => ⟨fun _ _ => trivial⟩).mono ?_
  rintro _ s' ⟨_, _, _, _, rfl⟩
  rfl

theorem perform_pending {loop : LoopId} {task : Task} :
    (s.perform platform env loop task).Post fun _ s' => s'.pending = s.pending := by
  cases task with
  | enableReading peer => exact Post.pure rfl
  | onInputDataPacket session data remoteAddress =>
      apply Post.bind
      apply Post.emit
      exact callTransport_pending
  | encryptAndSendRtpPacket session data =>
      rw [System.perform]
      exact callTransport_pending

theorem runInLoop_pending {current loop : LoopId} {task : Task} :
    (s.runInLoop platform env current loop task).Post fun _ s' =>
      s'.pending = s.pending ++ if current = loop then [] else [(loop, task)] := by
  unfold System.runInLoop
  split
  · apply perform_pending.mono
    intro _ s' hs'
    rw [hs', List.append_nil]
  · exact Post.pure rfl

theorem routePacket_pending {session : SessionId} {data : Bytes} {peerAddr : SockAddrIn} :
    (s.routePacket platform getNextLoop env session data peerAddr).Post fun _ s' =>
      s'.pending = s.pending ++
        let loop := (s.server.getOrCreatConnection getNextLoop peerAddr).2.loop
        if baseLoop = loop then []
        else [(loop, .enableReading peerAddr), (loop, .onInputDataPacket session data peerAddr)] := by
  unfold System.routePacket
  generalize s.server.getOrCreatConnection getNextLoop peerAddr = created
  rcases created with ⟨server, connection⟩
  apply Post.bind
  apply Post.bind
  apply Post.emit
  apply Post.bind
  apply runInLoop_pending.mono
  intro _ s₁ hs₁
  apply Post.pure
  apply runInLoop_pending.mono
  intro _ s₂ hs₂
  have hpending : s₁.pending = s.pending ++
      if baseLoop = connection.loop then [] else [(connection.loop, .enableReading peerAddr)] := hs₁
  have hpending₂ : s₂.pending = s₁.pending ++ if baseLoop = connection.loop then []
      else [(connection.loop, .onInputDataPacket session data peerAddr)] := hs₂
  rw [hpending₂, hpending]
  by_cases hbase : baseLoop = connection.loop
  · simp only [if_pos hbase, List.append_nil]
  · simp only [if_neg hbase, List.append_assoc, List.singleton_append]

theorem handlePacket_of_addressee {data : Bytes} {session : SessionId} (peerAddr : SockAddrIn)
    (h : s.addressee data = some session) :
    s.handlePacket platform getNextLoop env data peerAddr =
      s.routePacket platform getNextLoop env session data peerAddr := by
  unfold System.addressee at h
  split at h
  · rename_i packet hparse
    split at h
    · rename_i useName rest hsplit
      have hstun : StunPacket.isStun data data.length = .ok true := by
        rcases StunPacket.parse_cases data (StunPacket.length_le_of_parse hparse) with
          ⟨_, _, hg, _, _⟩ | ⟨_, hno⟩
        · exact hg.isStun
        · rw [hparse] at hno
          cases hno
      simp only [System.handlePacket, hstun, hparse, hsplit, lift_ok_bind, if_true, h]
    · cases h
  · cases h

theorem handlePacket_of_no_addressee {data : Bytes} {peerAddr : SockAddrIn}
    (h : s.addressee data = none) :
    (s.handlePacket platform getNextLoop env data peerAddr).Post fun τ s' => τ = [] ∧ s' = s := by
  apply Post.bind
  apply Post.lift
  intro isStun hstun
  split
  · apply Post.bind
    apply Post.lift
    intro parsed hparsed
    cases parsed with
    | none => exact Post.pure ⟨rfl, rfl⟩
    | some packet =>
        apply Post.bind
        apply Post.lift
        intro vec hvec
        cases vec with
        | nil => exact Post.fail
        | cons useName rest =>
            have hsession : s.getWebRTCSession useName = none := by
              simpa only [System.addressee, hparsed, hvec] using h
            simp only [hsession]
            exact Post.pure ⟨rfl, rfl⟩
  · exact Post.pure ⟨rfl, rfl⟩

theorem handlePacket_pending {data : Bytes} {peerAddr : SockAddrIn} :
    (s.handlePacket platform getNextLoop env data peerAddr).Post fun _ s' =>
      s'.pending = s.pending ++
        match s.addressee data with
        | none => []
        | some session =>
            let loop := (s.server.getOrCreatConnection getNextLoop peerAddr).2.loop
            if baseLoop = loop then []
            else [(loop, .enableReading peerAddr),
              (loop, .onInputDataPacket session data peerAddr)] := by
  cases haddressee : s.addressee data with
  | none =>
      apply (handlePacket_of_no_addressee haddressee).mono
      rintro _ s' ⟨-, rfl⟩
      exact (List.append_nil _).symm
  | some session =>
      rw [handlePacket_of_addressee peerAddr haddressee]
      exact routePacket_pending

theorem writeRtpCallback_pending (s : System) (data : Bytes) :
    (s.writeRtpCallback data).pending = s.pending ++ s.posts getNextLoop (.writeRtpCallback data) := by
  simp only [System.posts, System.writeRtpCallback]
  generalize s.getAllReadyWebRTCSession = ready
  induction ready generalizing s with
  | nil => simp
  | cons session ready ih =>
      rw [List.foldl_cons, ih]
      cases hloop : (s.sessions[session]?).bind (·.loop) with
      | none =>
          rw [List.filterMap_cons_none]
          rw [hloop]
          rfl
      | some loop =>
          rw [List.filterMap_cons_some (b := (loop, .encryptAndSendRtpPacket session data))]
          · simp only [System.queueInLoop, List.append_assoc]
            rfl
          · rw [hloop]
            rfl

/-- A step appends what it posts, after taking what it runs. -/
theorem step_pending (input : Input) :
    (step platform getNextLoop s input).Post fun _ s' =>
      s'.pending = s.remaining input ++ s.posts getNextLoop input := by
  cases input with
  | createWebRTCSession usernameFragment password uninitialised =>
      exact Post.pure (List.append_nil _).symm
  | setRTPChannel session channel => exact Post.pure (List.append_nil _).symm
  | serverRead env data peerAddr => exact handlePacket_pending
  | connectionRead env peer data =>
      simp only [step, System.handleRead]
      split
      · apply perform_pending.mono
        intro _ s' hs'
        exact hs'.trans (List.append_nil _).symm
      · exact Post.pure (List.append_nil _).symm
  | pendingFunctor env loop position =>
      simp only [step, System.doPendingFunctor, System.remaining, System.posts]
      split
      · rename_i hnext
        rw [hnext, List.append_nil]
        exact Post.pure rfl
      · rename_i task pending hnext
        rw [hnext, List.append_nil]
        exact perform_pending
  | writeRtpCallback data => exact Post.pure (writeRtpCallback_pending s data)

end Step

/-! ## Runs -/

section Run

variable {platform : Platform} {getNextLoop : Nat → LoopId} {inputs : List Input}
  {τ τ' : List SessionEvent} {s s' : System}

/-- A measure of the queues that adds up balances over a run, if it does over what
each step takes. -/
theorem run_balance {β : Type} {f : List (LoopId × Task) → β} {op : β → β → β}
    [Std.Associative op] (happend : ∀ l l', f (l ++ l') = op (f l) (f l'))
    (htakes : ∀ s : System, ∀ input ∈ inputs,
      f s.pending = op (f (s.takes input).toList) (f (s.remaining input)))
    (hrun : run (step platform getNextLoop) τ s inputs = some (τ', s')) :
    op (f s.pending) (f (posted platform getNextLoop s inputs)) =
      op (f (taken platform getNextLoop s inputs)) (f s'.pending) := by
  induction inputs generalizing τ s with
  | nil =>
      cases hrun
      rw [← happend, ← happend]
      simp [posted, taken, collect]
  | cons input inputs ih =>
      cases hr : (step platform getNextLoop s input).result with
      | error e =>
          rw [run, hr] at hrun
          cases hrun
      | ok s₁ =>
          rw [run, hr] at hrun
          have hstep := congrArg f ((step_pending input).out s₁ hr)
          have hrest := ih (fun s input' h => htakes s input' (List.mem_cons_of_mem _ h)) hrun
          simp only [posted, taken, collect, hr, happend] at hstep hrest ⊢
          calc op (f s.pending) (op (f (s.posts getNextLoop input)) _)
              = op (op (f (s.takes input).toList) (f (s.remaining input)))
                  (op (f (s.posts getNextLoop input)) _) := by
                rw [htakes s input List.mem_cons_self]
            _ = op (f (s.takes input).toList) (op (f s₁.pending) _) := by
                rw [hstep]
                ac_rfl
            _ = op (op (f (s.takes input).toList) _) (f s'.pending) := by
                rw [hrest]
                ac_rfl

theorem run_pending_perm
    (hrun : run (step platform getNextLoop) τ s inputs = some (τ', s')) :
    (s.pending ++ posted platform getNextLoop s inputs).Perm
      (taken platform getNextLoop s inputs ++ s'.pending) := by
  rw [List.perm_iff_count]
  intro entry
  rw [List.count_append, List.count_append]
  refine run_balance (f := List.count entry) (fun _ _ => List.count_append) ?_ hrun
  intro s input _
  rw [(takes_perm s input).count_eq, List.count_append]

/-- What waits before a run and what it posts is what it takes and what waits
afterwards, in this order. -/
theorem run_pending (horder : ∀ input ∈ inputs, input.InOrder)
    (hrun : run (step platform getNextLoop) τ s inputs = some (τ', s')) (loop : LoopId) :
    ofLoop loop s.pending ++ ofLoop loop (posted platform getNextLoop s inputs) =
      ofLoop loop (taken platform getNextLoop s inputs) ++ ofLoop loop s'.pending :=
  run_balance (f := ofLoop loop) (ofLoop_append loop)
    (fun s input hinput => takes_ofLoop s (horder input hinput) loop) hrun

end Run

end EasyWebRtc.Session
