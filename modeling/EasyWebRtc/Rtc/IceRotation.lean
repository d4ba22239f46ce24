import EasyWebRtc.Rtc.IceCredentials

/-!
# Rotation of the credentials

Each setter saves the value that it replaces, and the saved values are checked as
one pair of credentials. The pair is one that was in force if the setters are
called in turns, and is a mixture otherwise.
-/

namespace EasyWebRtc.Rtc.IceServer

open Octets Utils Tlv Traced

structure Credentials where
  usernameFragment : Bytes
  password : Bytes
  deriving DecidableEq, Repr

/-- The pair in force. -/
def credentials (s : IceServer) : Credentials := ⟨s.usernameFragment, s.password⟩

def Credentials.authenticate (hmac : Crypto.HmacSha1) (c : Credentials) (packet : StunPacket) :
    Bool :=
  packet.authenticates hmac c.usernameFragment c.password

/-- What happens to the credentials: a setter replaces the pair in force, or a
request is accepted under it. -/
inductive Change where
  | usernameFragment (replaced : Credentials)
  | password (replaced : Credentials)
  | accepted
  deriving DecidableEq, Repr

def Change.replaced : Change → Option Credentials
  | usernameFragment c | password c => some c
  | accepted => none

section

variable (hmac : Crypto.HmacSha1)

def changes (s : IceServer) : Input → List Change
  | .setUsernameFragment _ => [.usernameFragment s.credentials]
  | .setPassword _ => [.password s.credentials]
  | .processStunPacket _ p _ =>
      if verdict hmac s p.packet = .current then [.accepted] else []

/-- The step with the history of the credentials for its trace. -/
def logged (s : IceServer) (input : Input) : Traced Fault Change IceServer :=
  ⟨changes hmac s input, (step hmac s input).result⟩

/-- The pair was in force as a whole, and no request has been accepted under the
pair then in force since it was replaced. -/
def Outgoing (history : List Change) (c : Credentials) : Prop :=
  ∃ earlier change later, history = earlier ++ change :: later ∧ change.replaced = some c ∧
    .accepted ∉ later

/-- A success response goes to a request under the pair in force or an outgoing
one. -/
def Justified (history : List Change) (s : IceServer) : Input → Prop
  | .processStunPacket buffer p tuple =>
      ∀ response t, .sendStunPacket response t ∈
          (step hmac s (.processStunPacket buffer p tuple)).trace →
        StunPacket.headerClass response.datagram = some .successResponse →
        s.credentials.authenticate hmac p.packet = true ∨
          ∃ c, Outgoing history c ∧ c.authenticate hmac p.packet = true
  | .setUsernameFragment _ | .setPassword _ => True

def afterUsernameFragment (history : List Change) : Bool :=
  match history.getLast? with
  | some (.usernameFragment _) => true
  | _ => false

def afterPassword (history : List Change) : Bool :=
  match history.getLast? with
  | some (.password _) => true
  | _ => false

/-- A setter is called in turn: the other one's saved value is empty or still in
force, or the other one was called last, with no request accepted in between. -/
def InTurn (history : List Change) (s : IceServer) : Input → Prop
  | .setUsernameFragment _ =>
      s.oldPassword = [] ∨ s.usernameFragment = [] ∨ s.oldPassword = s.password ∨
        afterPassword history = true
  | .setPassword _ =>
      s.oldUsernameFragment = [] ∨ s.password = [] ∨
        s.oldUsernameFragment = s.usernameFragment ∨ afterUsernameFragment history = true
  | .processStunPacket _ _ _ => True

/-! ## The saved pair -/

/-- What the history says about the saved values. -/
structure Saved (history : List Change) (s : IceServer) : Prop where
  usernameFragment : ∀ c, history.getLast? = some (.usernameFragment c) →
    c = ⟨s.oldUsernameFragment, s.password⟩
  password : ∀ c, history.getLast? = some (.password c) → c = ⟨s.usernameFragment, s.oldPassword⟩
  pair : s.oldUsernameFragment ≠ [] → s.oldPassword ≠ [] →
    Outgoing history ⟨s.oldUsernameFragment, s.oldPassword⟩

theorem Saved.init (usernameFragment password : Bytes) :
    Saved [] { usernameFragment, password } where
  usernameFragment := by
    intro c h
    cases h
  password := by
    intro c h
    cases h
  pair := by
    intro h
    exact (h rfl).elim

variable {hmac} {history : List Change} {s : IceServer}

theorem outgoing_concat {change : Change} {c : Credentials} (h : change.replaced = some c) :
    Outgoing (history ++ [change]) c :=
  ⟨history, change, [], rfl, h, List.not_mem_nil⟩

/-- A replacement leaves outgoing what the change before it made outgoing. -/
theorem outgoing_of_getLast {last change : Change} {c d : Credentials}
    (hlast : history.getLast? = some last) (hc : last.replaced = some c)
    (hd : change.replaced = some d) : Outgoing (history ++ [change]) c := by
  obtain ⟨earlier, rfl⟩ := List.getLast?_eq_some_iff.mp hlast
  refine ⟨earlier, last, [change], by simp, hc, ?_⟩
  intro hmem
  rw [List.mem_singleton] at hmem
  rw [← hmem] at hd
  cases hd

theorem afterUsernameFragment_iff :
    afterUsernameFragment history = true ↔
      ∃ c, history.getLast? = some (.usernameFragment c) := by
  unfold afterUsernameFragment
  cases history.getLast? with
  | none => simp
  | some last => cases last <;> simp

theorem afterPassword_iff :
    afterPassword history = true ↔ ∃ c, history.getLast? = some (.password c) := by
  unfold afterPassword
  cases history.getLast? with
  | none => simp
  | some last => cases last <;> simp

theorem Saved.setUsernameFragment (h : Saved history s) {usernameFragment : Bytes}
    (hturn : InTurn history s (.setUsernameFragment usernameFragment)) :
    Saved (history ++ [.usernameFragment s.credentials])
      (s.setUsernameFragment usernameFragment) where
  usernameFragment := by
    intro c hc
    rw [List.getLast?_concat] at hc
    cases hc
    rfl
  password := by
    intro c hc
    rw [List.getLast?_concat] at hc
    cases hc
  pair := by
    intro hname hold
    rcases hturn with hempty | hempty | hsame | hlast
    · exact (hold hempty).elim
    · exact (hname hempty).elim
    · have hpair : (⟨s.usernameFragment, s.oldPassword⟩ : Credentials) = s.credentials := by
        rw [hsame]
        rfl
      show Outgoing _ ⟨s.usernameFragment, s.oldPassword⟩
      rw [hpair]
      exact outgoing_concat rfl
    · obtain ⟨c, hc⟩ := afterPassword_iff.mp hlast
      have hpair := h.password c hc
      rw [hpair] at hc
      exact outgoing_of_getLast hc rfl rfl

theorem Saved.setPassword (h : Saved history s) {password : Bytes}
    (hturn : InTurn history s (.setPassword password)) :
    Saved (history ++ [.password s.credentials]) (s.setPassword password) where
  usernameFragment := by
    intro c hc
    rw [List.getLast?_concat] at hc
    cases hc
  password := by
    intro c hc
    rw [List.getLast?_concat] at hc
    cases hc
    rfl
  pair := by
    intro hname hold
    rcases hturn with hempty | hempty | hsame | hlast
    · exact (hname hempty).elim
    · exact (hold hempty).elim
    · have hpair : (⟨s.oldUsernameFragment, s.password⟩ : Credentials) = s.credentials := by
        rw [hsame]
        rfl
      show Outgoing _ ⟨s.oldUsernameFragment, s.password⟩
      rw [hpair]
      exact outgoing_concat rfl
    · obtain ⟨c, hc⟩ := afterUsernameFragment_iff.mp hlast
      have hpair := h.usernameFragment c hc
      rw [hpair] at hc
      exact outgoing_of_getLast hc rfl rfl

theorem Verdict.server_credentials {v : Verdict} (hv : v ≠ .current) :
    v.server s = { s with state := (v.server s).state } := by
  cases v with
  | current => exact (hv rfl).elim
  | ignored => rfl
  | badRequest => rfl
  | unauthorized => rfl
  | old => rfl

theorem Saved.accepted (history : List Change) (s : IceServer) :
    Saved (history ++ [.accepted]) (Verdict.current.server s) where
  usernameFragment := by
    intro c hc
    rw [List.getLast?_concat] at hc
    cases hc
  password := by
    intro c hc
    rw [List.getLast?_concat] at hc
    cases hc
  pair := by
    intro _ hold
    have hnone : (Verdict.current.server s).oldPassword = [] := by
      simp only [Verdict.server, newCredentialsApplied]
      by_cases h : s.oldPassword = [] <;> simp [h]
    exact (hold hnone).elim

theorem Saved.step (h : Saved history s) {input : Input} (hturn : InTurn history s input) :
    (logged hmac s input).Post fun made s' => Saved (history ++ made) s' := by
  constructor
  intro s' hs'
  cases input with
  | setUsernameFragment usernameFragment =>
      cases hs'
      exact h.setUsernameFragment hturn
  | setPassword password =>
      cases hs'
      exact h.setPassword hturn
  | processStunPacket buffer p tuple =>
      simp only [logged, step_processStunPacket] at hs'
      cases hs'
      by_cases hv : verdict hmac s p.packet = .current
      · simp only [logged, changes, if_pos hv]
        rw [hv]
        exact Saved.accepted history s
      · simp only [logged, changes, if_neg hv, List.append_nil]
        rw [Verdict.server_credentials hv]
        exact ⟨h.usernameFragment, h.password, h.pair⟩

theorem Saved.justified (h : Saved history s) (input : Input) : Justified hmac history s input := by
  cases input with
  | setUsernameFragment usernameFragment => trivial
  | setPassword password => trivial
  | processStunPacket buffer p tuple =>
      intro response t hsent hsuccess
      rw [step_processStunPacket] at hsent
      have haccepted := accepted_of_sent hmac hsent hsuccess
      have hklass := (complete_of_verdict hmac s haccepted).1
      have haccepts := ((verdict_accepted_iff hmac s hklass).mp haccepted).2
      rcases Bool.or_eq_true_iff.mp haccepts with hcurrent | hold
      · exact .inl hcurrent
      · obtain ⟨⟨hname, hpassword⟩, hauth⟩ : (s.oldUsernameFragment ≠ [] ∧ s.oldPassword ≠ []) ∧
            p.packet.authenticates hmac s.oldUsernameFragment s.oldPassword = true := by
          simpa [acceptsOld] using hold
        exact .inr ⟨_, h.pair hname hpassword, hauth⟩

/-- In every run whose setters are called in turn, a success response goes to a
request under the pair in force or under one that was in force as a whole, with
no request accepted since it was replaced. -/
theorem rotation_justified (hmac : Crypto.HmacSha1) (usernameFragment password : Bytes)
    (inputs : List Input)
    (h : Along (logged hmac) InTurn [] { usernameFragment, password } inputs) :
    Along (logged hmac) (Justified hmac) [] { usernameFragment, password } inputs :=
  Along.imp_of_keeps (I := Saved) (fun _ _ _ _ hs hturn => hs.step hturn)
    (fun _ _ input _ hs _ => hs.justified input) (Saved.init usernameFragment password) h

end

/-- New credentials, and a request under the old ones. -/
def rotation : List Input :=
  [.setUsernameFragment [101, 102, 103, 104], .setPassword [122, 122],
    .processStunPacket .initial signedRequest ⟨40000, 0xC0A80102⟩]

theorem rotation_justified_inTurn :
    Along (logged StunPacket.bindingRequestHmac) InTurn [] agent rotation ∧
      Along (logged StunPacket.bindingRequestHmac) (Justified StunPacket.bindingRequestHmac) []
        agent rotation := by
  have hturn : Along (logged StunPacket.bindingRequestHmac) InTurn [] agent rotation := by
    refine ⟨.inl rfl, .inr (.inr (.inr rfl)), trivial, ?_⟩
    split <;> trivial
  exact ⟨hturn, rotation_justified _ _ _ _ hturn⟩

/-- A server with the fragment of the signed request and another password. -/
def otherAgent : IceServer := { usernameFragment := [97, 98, 99, 100], password := [120] }

/-- New credentials, among them the password of the signed request, and a second
new password. -/
def secondPassword : List Input :=
  [.setUsernameFragment [101, 102, 103, 104], .setPassword [112, 119], .setPassword [122, 122]]

/-- The changes they make. The server then is `rotatedAgent`: it has saved the first
fragment with the second password. -/
def mixedHistory : List Change :=
  [.usernameFragment ⟨[97, 98, 99, 100], [120]⟩, .password ⟨[101, 102, 103, 104], [120]⟩,
    .password ⟨[101, 102, 103, 104], [112, 119]⟩]

/-- The request is answered with success under a pair that was never in force. -/
theorem mixture_accepted :
    ¬ Along (logged StunPacket.bindingRequestHmac) (Justified StunPacket.bindingRequestHmac) []
      otherAgent (secondPassword ++
        [.processStunPacket .initial signedRequest ⟨40000, 0xC0A80102⟩]) := by
  intro h
  have hrun : Traced.run (logged StunPacket.bindingRequestHmac) [] otherAgent secondPassword =
      some (mixedHistory, rotatedAgent) := rfl
  have hresponse : (verdict StunPacket.bindingRequestHmac rotatedAgent signedRequest.packet).response
      rotatedAgent signedRequest.packet ⟨40000, 0xC0A80102⟩ =
      some (successResponse signedRequest.packet ⟨40000, 0xC0A80102⟩ [112, 119]) := by
    rw [rotatedAgent_verdict]
    rfl
  have hsent := response_sent StunPacket.bindingRequestHmac .initial hresponse
  rw [← step_processStunPacket_trace] at hsent
  have hsuccess := headerClass_serialized StunPacket.bindingRequestHmac .initial
    (response_exactSize StunPacket.bindingRequestHmac hresponse)
  rcases h.last hrun _ _ hsent hsuccess with hcurrent | ⟨c, houtgoing, hauth⟩
  · revert hcurrent
    decide +kernel
  · have hnone : ∀ change ∈ mixedHistory, ∀ c, change.replaced = some c →
        c.authenticate StunPacket.bindingRequestHmac signedRequest.packet = false := by
      have hfalse : mixedHistory.all (fun change => match change.replaced with
          | some c => !c.authenticate StunPacket.bindingRequestHmac signedRequest.packet
          | none => true) = true := by decide +kernel
      intro change hchange c hc
      have := List.all_eq_true.mp hfalse change hchange
      rw [hc] at this
      simpa using this
    obtain ⟨earlier, change, later, hhistory, hc, _⟩ := houtgoing
    have hmem : change ∈ mixedHistory := by
      rw [hhistory]
      simp
    rw [hnone change hmem c hc] at hauth
    cases hauth

end EasyWebRtc.Rtc.IceServer
