import Mathlib.Computability.RegularExpressions
import EasyWebRtc.Rtc.DtlsTransport.Machine

/-!
# The order of the DTLS notifications

The notifications of a run come in rounds. A round starts with CONNECTING, may
go on to CONNECTED with application data, and may end with FAILED or, once
connected, with CLOSED. The phase of the transport says where in a round the
history is.
-/

namespace EasyWebRtc.Rtc.DtlsTransport

open Traced RegularExpression

/-- How a round ends after CONNECTED, if it does. -/
def ending : RegularExpression Notification := 1 + char .failed + char .closed

/-- CONNECTED and what follows it in a round. -/
def established : RegularExpression Notification :=
  char .connected * (star (char .applicationData) * ending)

def round : RegularExpression Notification :=
  char .connecting * (1 + char .failed + established)

def rounds : RegularExpression Notification := star round

theorem append_mem_rounds {u v : List Notification} (hu : u ∈ rounds.matches')
    (hv : v ∈ round.matches') : u ++ v ∈ rounds.matches' := by
  rw [rounds, matches'_star, Language.mem_kstar] at hu ⊢
  obtain ⟨words, rfl, hwords⟩ := hu
  refine ⟨words ++ [v], by simp, ?_⟩
  intro w hw
  rcases List.mem_append.mp hw with hw | hw
  · exact hwords w hw
  · rw [List.mem_singleton.mp hw]
    exact hv

theorem connecting_mem_round {rest : List Notification} (h : rest = [] ∨ rest = [.failed]) :
    .connecting :: rest ∈ round.matches' := by
  rw [← rmatch_iff_matches']
  rcases h with rfl | rfl
  · decide
  · decide

theorem connected_mem_round (n : Nat) {rest : List Notification}
    (h : rest = [] ∨ rest = [.failed] ∨ rest = [.closed]) :
    .connecting :: .connected :: (List.replicate n .applicationData ++ rest) ∈ round.matches' := by
  have hdata : List.replicate n Notification.applicationData ∈
      (star (char Notification.applicationData)).matches' := by
    rw [matches'_star, Language.mem_kstar]
    refine ⟨List.replicate n [.applicationData], by simp, ?_⟩
    intro w hw
    rw [List.eq_of_mem_replicate hw]
    exact rfl
  have hend : rest ∈ ending.matches' := by
    rw [← rmatch_iff_matches']
    rcases h with rfl | rfl | rfl
    · decide
    · decide
    · decide
  have hestablished : [.connected] ++ (List.replicate n .applicationData ++ rest) ∈
      established.matches' := by
    rw [established, matches'_mul, matches'_mul]
    exact Language.append_mem_mul rfl (Language.append_mem_mul hdata hend)
  rw [round, matches'_mul]
  exact Language.append_mem_mul (a := [Notification.connecting]) rfl (.inr hestablished)

/-- A history that ends in the given phase. -/
def Reached (w : List Notification) : Phase → Prop
  | .idle => w ∈ rounds.matches'
  | .connecting => ∃ u ∈ rounds.matches', w = u ++ [.connecting]
  | .connected => ∃ u ∈ rounds.matches', ∃ n,
      w = u ++ .connecting :: .connected :: List.replicate n .applicationData

theorem Reached.mem_rounds {w : List Notification} {p : Phase} (h : Reached w p) :
    w ∈ rounds.matches' := by
  cases p with
  | idle => exact h
  | connecting =>
      obtain ⟨u, hu, rfl⟩ := h
      exact append_mem_rounds hu (connecting_mem_round (.inl rfl))
  | connected =>
      obtain ⟨u, hu, n, rfl⟩ := h
      have hround := connected_mem_round n (.inl rfl)
      rw [List.append_nil] at hround
      exact append_mem_rounds hu hround

theorem Reached.advance {w : List Notification} {p q : Phase} (h : Reached w p) {e : Notification}
    (he : p.advance e = some q) : Reached (w ++ [e]) q := by
  cases e with
  | connecting =>
      cases p <;> cases he <;> exact ⟨w, h.mem_rounds, rfl⟩
  | connected =>
      cases p with
      | connecting =>
          cases he
          obtain ⟨u, hu, rfl⟩ := h
          exact ⟨u, hu, 0, by simp⟩
      | idle => cases he
      | connected => cases he
  | applicationData =>
      cases p with
      | connected =>
          cases he
          obtain ⟨u, hu, n, rfl⟩ := h
          exact ⟨u, hu, n + 1, by simp [List.replicate_succ']⟩
      | idle => cases he
      | connecting => cases he
  | failed =>
      cases p with
      | connecting =>
          cases he
          obtain ⟨u, hu, rfl⟩ := h
          rw [List.append_assoc]
          exact append_mem_rounds hu (connecting_mem_round (.inr rfl))
      | connected =>
          cases he
          obtain ⟨u, hu, n, rfl⟩ := h
          rw [List.append_assoc]
          exact append_mem_rounds hu (connected_mem_round n (.inr (.inl rfl)))
      | idle => cases he
  | closed =>
      cases p with
      | connected =>
          cases he
          obtain ⟨u, hu, n, rfl⟩ := h
          rw [List.append_assoc]
          exact append_mem_rounds hu (connected_mem_round n (.inr (.inr rfl)))
      | idle => cases he
      | connecting => cases he

theorem Reached.advances {w v : List Notification} {p q : Phase} (h : Reached w p)
    (hv : v.foldlM Phase.advance p = some q) : Reached (w ++ v) q := by
  induction v generalizing w p with
  | nil =>
      cases hv
      rwa [List.append_nil]
  | cons e v ih =>
      rw [List.foldlM_cons] at hv
      obtain ⟨p', he, hrest⟩ := Option.bind_eq_some_iff.mp hv
      rw [List.append_cons]
      exact ih (h.advance he) hrest

theorem eq_connecting_of_advance {p : Phase} {e : Notification}
    (h : p.advance e = some .connecting) : e = .connecting := by
  cases e with
  | connecting => rfl
  | _ => cases p <;> cases h

/-- Outside the phase CONNECTING, CONNECTED is notified only after a new
CONNECTING. -/
theorem connecting_mem_of_connected {v : List Notification} {p q : Phase} (hp : p ≠ .connecting)
    (hv : (v ++ [Notification.connected]).foldlM Phase.advance p = some q) : .connecting ∈ v := by
  induction v generalizing p with
  | nil =>
      cases p with
      | connecting => exact (hp rfl).elim
      | idle => cases hv
      | connected => cases hv
  | cons e v ih =>
      rw [List.cons_append, List.foldlM_cons] at hv
      obtain ⟨p', he, hrest⟩ := Option.bind_eq_some_iff.mp hv
      by_cases hp' : p' = .connecting
      · subst hp'
        rw [eq_connecting_of_advance he]
        exact List.mem_cons_self
      · exact List.mem_cons_of_mem e (ih hp' hrest)

/-- What a listener may rely on: the notifications form rounds, and between a
notification that ends a handshake, or a round, and the next CONNECTED there is
a CONNECTING. -/
structure Ordered (w : List Notification) : Prop where
  rounds : ∃ word ∈ rounds.matches', w <+: word
  once : ∀ before between after e, e ∈ [Notification.connected, .failed, .closed] →
    w = before ++ e :: (between ++ .connected :: after) → .connecting ∈ between

theorem ordered_of_advances {w : List Notification} {q : Phase}
    (h : w.foldlM Phase.advance .idle = some q) : Ordered w := by
  constructor
  · have hempty : Reached [] .idle := by
      rw [Reached, DtlsTransport.rounds, ← rmatch_iff_matches']
      rfl
    exact ⟨w, (hempty.advances h).mem_rounds, List.prefix_rfl⟩
  · intro before between after e he hw
    rw [hw, List.foldlM_append] at h
    obtain ⟨p, _, h⟩ := Option.bind_eq_some_iff.mp h
    rw [List.foldlM_cons] at h
    obtain ⟨p', hp', h⟩ := Option.bind_eq_some_iff.mp h
    rw [List.append_cons, List.foldlM_append] at h
    obtain ⟨p'', hp'', _⟩ := Option.bind_eq_some_iff.mp h
    refine connecting_mem_of_connected (p := p') ?_ hp''
    rintro rfl
    rw [eq_connecting_of_advance hp'] at he
    revert he
    decide

/-- The notifications up to the end of a call, which may fault. -/
def NotifiesInOrder (τ : List DtlsEvent) (d : DtlsTransport) (input : Input) : Prop :=
  Ordered ((τ ++ (step d input).trace).filterMap notification)

/-- Over every run, whatever OpenSSL does, the notifications come in order. -/
theorem notifications_in_order (inputs : List Input) :
    Along step NotifiesInOrder [] {} inputs := by
  refine Along.of_inv
    (I := fun τ d => Coherent d ∧ Phase.idle.after τ = some d.phase) ?_ ?_ ⟨Coherent.init, rfl⟩
  · intro τ d input hd
    constructor
    intro d' hd'
    obtain ⟨hcoherent, hafter⟩ := (step_spec hd.1 input).ok d' hd'
    refine ⟨hcoherent, ?_⟩
    rw [Phase.after_append, hd.2]
    exact hafter
  · intro τ d input _ hd
    have hcall : ∃ q, d.phase.after (step d input).trace = some q := by
      cases hr : (step d input).result with
      | ok d' => exact ⟨_, ((step_spec hd.1 input).ok d' hr).2⟩
      | error fault => exact ⟨_, Phase.after_silent _ ((step_spec hd.1 input).error fault hr).2⟩
    obtain ⟨q, hq⟩ := hcall
    apply ordered_of_advances (q := q)
    show Phase.idle.after (τ ++ (step d input).trace) = some q
    rw [Phase.after_append, hd.2]
    exact hq

end EasyWebRtc.Rtc.DtlsTransport
