import Mathlib.Tactic.Common

/-!
# Computations with a trace

A computation returns a value or a fault, and a trace of events that is kept
when it faults. Components are composed by handling the trace of one with the
callbacks of another. `Post` and `Only` are rules for what a computation returns
and for what it may emit, `Spec` also for how it faults. A system is a step
function; `Along` says that a relation holds at every step of a run, and follows
from invariants.
-/

structure Traced (φ ω α : Type) where
  trace : List ω
  result : Except φ α

namespace Traced

variable {φ ω ω' α β σ ι : Type}

protected def pure (a : α) : Traced φ ω α := ⟨[], .ok a⟩

protected def bind (t : Traced φ ω α) (f : α → Traced φ ω β) : Traced φ ω β :=
  match t.result with
  | .ok a => ⟨t.trace ++ (f a).trace, (f a).result⟩
  | .error e => ⟨t.trace, .error e⟩

instance : Monad (Traced φ ω) where
  pure := Traced.pure
  bind := Traced.bind

def emit (e : ω) : Traced φ ω Unit := ⟨[e], .ok ()⟩

def fail (e : φ) : Traced φ ω α := ⟨[], .error e⟩

/-- A computation without events. -/
def lift (x : Except φ α) : Traced φ ω α := ⟨[], x⟩

/-- `f` handles the events in order; the value is returned after the last one. -/
def handle (f : σ → ω → Traced φ ω' σ) (s : σ) (t : Traced φ ω α) : Traced φ ω' (σ × α) := do
  let s ← t.trace.foldlM f s
  let a ← lift t.result
  return (s, a)

theorem ok_bind (τ : List ω) (a : α) (f : α → Traced φ ω β) :
    ((⟨τ, .ok a⟩ : Traced φ ω α) >>= f) = ⟨τ ++ (f a).trace, (f a).result⟩ := rfl

theorem ok_bind_pure (τ : List ω) (a : α) (g : α → β) :
    ((⟨τ, .ok a⟩ : Traced φ ω α) >>= fun a => pure (g a)) = ⟨τ, .ok (g a)⟩ := by
  rw [ok_bind]
  exact congrArg (Traced.mk · (.ok (g a))) (List.append_nil τ)

theorem lift_ok_bind (a : α) (f : α → Traced φ ω β) : (lift (.ok a) >>= f) = f a := rfl

theorem handle_ok_bind (f : σ → ω → Traced φ ω' σ) (s : σ) (τ : List ω) (a : α)
    (g : σ × α → Traced φ ω' β) :
    (handle f s ⟨τ, .ok a⟩ >>= g) = (τ.foldlM f s >>= fun s' => g (s', a)) := by
  show Traced.bind (Traced.bind (τ.foldlM f s) fun s' => Traced.pure (s', a)) g =
    Traced.bind (τ.foldlM f s) fun s' => g (s', a)
  cases hr : (τ.foldlM f s).result with
  | error e => simp only [Traced.bind, hr]
  | ok s' => simp only [Traced.bind, Traced.pure, hr, List.append_nil]

/-! ## Rules -/

/-- If the computation returns, its trace and value satisfy `Q`. -/
structure Post (t : Traced φ ω α) (Q : List ω → α → Prop) : Prop where
  out : ∀ a, t.result = .ok a → Q t.trace a

/-- Every event satisfies `E`, also when the computation faults. -/
structure Only (t : Traced φ ω α) (E : ω → Prop) : Prop where
  out : ∀ e ∈ t.trace, E e

theorem Post.mono {t : Traced φ ω α} {P Q : List ω → α → Prop} (h : t.Post P)
    (hpq : ∀ τ a, P τ a → Q τ a) : t.Post Q :=
  ⟨fun a ha => hpq _ a (h.out a ha)⟩

theorem Post.and {t : Traced φ ω α} {P Q : List ω → α → Prop} (hp : t.Post P) (hq : t.Post Q) :
    t.Post fun τ a => P τ a ∧ Q τ a :=
  ⟨fun a ha => ⟨hp.out a ha, hq.out a ha⟩⟩

theorem Post.with_only {t : Traced φ ω α} {Q : List ω → α → Prop} {E : ω → Prop} (h : t.Post Q)
    (honly : t.Only E) : t.Post fun τ a => Q τ a ∧ ∀ e ∈ τ, E e :=
  ⟨fun a ha => ⟨h.out a ha, honly.out⟩⟩

theorem Post.pure {a : α} {Q : List ω → α → Prop} (h : Q [] a) :
    (Pure.pure a : Traced φ ω α).Post Q := by
  constructor
  intro b hb
  cases hb
  exact h

theorem Post.fail {e : φ} {Q : List ω → α → Prop} : (fail e : Traced φ ω α).Post Q := by
  constructor
  intro a ha
  cases ha

theorem Post.emit {e : ω} {Q : List ω → Unit → Prop} (h : Q [e] ()) :
    (emit e : Traced φ ω Unit).Post Q :=
  ⟨fun _ _ => h⟩

theorem Post.lift {x : Except φ α} {Q : List ω → α → Prop} (h : ∀ a, x = .ok a → Q [] a) :
    (lift x : Traced φ ω α).Post Q :=
  ⟨h⟩

theorem Post.bind {t : Traced φ ω α} {f : α → Traced φ ω β} {Q : List ω → β → Prop}
    (h : t.Post fun τ a => (f a).Post fun τ' b => Q (τ ++ τ') b) : (t >>= f).Post Q := by
  rcases t with ⟨τ, result⟩
  constructor
  intro b hb
  cases result with
  | error e => cases hb
  | ok a => exact (h.out a rfl).out b hb

theorem Only.mono {t : Traced φ ω α} {E F : ω → Prop} (h : t.Only E) (hef : ∀ e, E e → F e) :
    t.Only F :=
  ⟨fun e he => hef e (h.out e he)⟩

theorem Only.pure {a : α} {E : ω → Prop} : (Pure.pure a : Traced φ ω α).Only E := by
  constructor
  intro e he
  cases he

theorem Only.fail {e : φ} {E : ω → Prop} : (fail e : Traced φ ω α).Only E := by
  constructor
  intro e he
  cases he

theorem Only.emit {e : ω} {E : ω → Prop} (h : E e) : (emit e : Traced φ ω Unit).Only E := by
  constructor
  intro e' he
  rw [List.mem_singleton.mp he]
  exact h

theorem Only.lift {x : Except φ α} {E : ω → Prop} : (lift x : Traced φ ω α).Only E := by
  constructor
  intro e he
  cases he

theorem Only.bind {t : Traced φ ω α} {f : α → Traced φ ω β} {E : ω → Prop} (h : t.Only E)
    (hf : t.Post fun _ a => (f a).Only E) : (t >>= f).Only E := by
  rcases t with ⟨τ, result⟩
  constructor
  intro e he
  cases result with
  | error e => exact h.out _ he
  | ok a =>
      rcases List.mem_append.mp he with he | he
      · exact h.out e he
      · exact (hf.out a rfl).out e he

/-- What holds of trace and value if the computation returns, and of trace and
fault if it does not. -/
structure Spec (t : Traced φ ω α) (Q : List ω → α → Prop) (F : List ω → φ → Prop) : Prop where
  ok : ∀ a, t.result = .ok a → Q t.trace a
  error : ∀ e, t.result = .error e → F t.trace e

theorem Spec.mono {t : Traced φ ω α} {P Q : List ω → α → Prop} {F G : List ω → φ → Prop}
    (h : t.Spec P F) (hpq : ∀ τ a, P τ a → Q τ a) (hfg : ∀ τ e, F τ e → G τ e) : t.Spec Q G :=
  ⟨fun a ha => hpq _ a (h.ok a ha), fun e he => hfg _ e (h.error e he)⟩

theorem Spec.and {t : Traced φ ω α} {P Q : List ω → α → Prop} {F G : List ω → φ → Prop}
    (hp : t.Spec P F) (hq : t.Spec Q G) :
    t.Spec (fun τ a => P τ a ∧ Q τ a) fun τ e => F τ e ∧ G τ e :=
  ⟨fun a ha => ⟨hp.ok a ha, hq.ok a ha⟩, fun e he => ⟨hp.error e he, hq.error e he⟩⟩

section Spec

variable {F : List ω → φ → Prop}

theorem spec_pure {a : α} {Q : List ω → α → Prop} :
    (Pure.pure a : Traced φ ω α).Spec Q F ↔ Q [] a :=
  ⟨fun h => h.ok a rfl, fun h => ⟨(Post.pure h).out, nofun⟩⟩

theorem spec_fail {e : φ} {Q : List ω → α → Prop} :
    (fail e : Traced φ ω α).Spec Q F ↔ F [] e := by
  constructor
  · intro h
    exact h.error e rfl
  · intro h
    refine ⟨nofun, ?_⟩
    intro e' he'
    cases he'
    exact h

theorem spec_emit {e : ω} {Q : List ω → Unit → Prop} :
    (emit e : Traced φ ω Unit).Spec Q F ↔ Q [e] () :=
  ⟨fun h => h.ok () rfl, fun h => ⟨fun _ _ => h, nofun⟩⟩

theorem spec_lift {x : Except φ α} {Q : List ω → α → Prop} :
    (lift x : Traced φ ω α).Spec Q F ↔
      (∀ a, x = .ok a → Q [] a) ∧ ∀ e, x = .error e → F [] e :=
  ⟨fun h => ⟨h.ok, h.error⟩, fun h => ⟨h.1, h.2⟩⟩

theorem spec_bind {t : Traced φ ω α} {f : α → Traced φ ω β} {Q : List ω → β → Prop} :
    (t >>= f).Spec Q F ↔
      t.Spec (fun τ a => (f a).Spec (fun τ' b => Q (τ ++ τ') b) fun τ' e => F (τ ++ τ') e) F := by
  rcases t with ⟨τ, result⟩
  cases result with
  | error e =>
      constructor
      · intro h
        refine ⟨nofun, ?_⟩
        intro e' he'
        cases he'
        exact h.error e rfl
      · intro h
        refine ⟨nofun, ?_⟩
        intro e' he'
        cases he'
        exact h.error e rfl
  | ok a =>
      constructor
      · intro h
        refine ⟨?_, nofun⟩
        intro a' ha'
        cases ha'
        exact ⟨h.ok, h.error⟩
      · intro h
        exact ⟨(h.ok a rfl).ok, (h.ok a rfl).error⟩

end Spec

theorem Spec.exists_ok {t : Traced φ ω α} {Q : List ω → α → Prop}
    (h : t.Spec Q fun _ _ => False) : ∃ a, t.result = .ok a ∧ Q t.trace a := by
  cases hr : t.result with
  | ok a => exact ⟨a, rfl, h.ok a hr⟩
  | error e => exact (h.error e hr).elim

theorem Spec.error_iff {t : Traced φ ω α} {fault : Option φ}
    (h : t.Spec (fun _ _ => fault = none) fun _ e => fault = some e) (e : φ) :
    t.result = .error e ↔ fault = some e := by
  constructor
  · exact h.error e
  · intro he
    cases hr : t.result with
    | ok a =>
        rw [h.ok a hr] at he
        cases he
    | error e' =>
        rw [h.error e' hr] at he
        exact congrArg Except.error (Option.some.inj he)

/-- An invariant of state and history through a fold. -/
theorem Post.foldlM {f : σ → ι → Traced φ ω σ} {I : List ω → σ → Prop} {l : List ι}
    (h : ∀ τ s, ∀ i ∈ l, I τ s → (f s i).Post fun τ' s' => I (τ ++ τ') s')
    {τ : List ω} {s : σ} (hs : I τ s) : (l.foldlM f s).Post fun τ' s' => I (τ ++ τ') s' := by
  induction l generalizing τ s with
  | nil => exact Post.pure (by simpa using hs)
  | cons i l ih =>
      rw [List.foldlM_cons]
      apply Post.bind
      apply (h τ s i List.mem_cons_self hs).mono
      intro τ' s' hs'
      apply (ih (fun τ s j hj => h τ s j (List.mem_cons_of_mem i hj)) hs').mono
      intro τ'' s'' hs''
      rwa [← List.append_assoc]

theorem Only.foldlM {f : σ → ι → Traced φ ω σ} {I : σ → Prop} {E : ω → Prop} {l : List ι}
    (honly : ∀ s, ∀ i ∈ l, I s → (f s i).Only E)
    (hpost : ∀ s, ∀ i ∈ l, I s → (f s i).Post fun _ s' => I s') {s : σ} (hs : I s) :
    (l.foldlM f s).Only E := by
  induction l generalizing s with
  | nil => exact Only.pure
  | cons i l ih =>
      rw [List.foldlM_cons]
      apply Only.bind (honly s i List.mem_cons_self hs)
      apply (hpost s i List.mem_cons_self hs).mono
      intro _ s' hs'
      exact ih (fun s j hj => honly s j (List.mem_cons_of_mem i hj))
        (fun s j hj => hpost s j (List.mem_cons_of_mem i hj)) hs'

theorem Spec.foldlM {f : σ → ι → Traced φ ω σ} {I : σ → Prop} {F : φ → Prop} {l : List ι}
    (h : ∀ s, ∀ i ∈ l, I s → (f s i).Spec (fun _ s' => I s') fun _ e => F e) {s : σ} (hs : I s) :
    (l.foldlM f s).Spec (fun _ s' => I s') fun _ e => F e := by
  induction l generalizing s with
  | nil => exact spec_pure.mpr hs
  | cons i l ih =>
      rw [List.foldlM_cons, spec_bind]
      refine (h s i List.mem_cons_self hs).mono ?_ fun _ _ he => he
      intro _ s' hs'
      exact ih (fun s j hj => h s j (List.mem_cons_of_mem i hj)) hs'

/-- What every callback keeps and one callback establishes holds at the end. -/
theorem Post.foldlM_establish {f : σ → ι → Traced φ ω σ} {P : σ → Prop} {l : List ι} {i : ι}
    (hkeep : ∀ s, ∀ j ∈ l, P s → (f s j).Post fun _ s' => P s')
    (hset : ∀ s, (f s i).Post fun _ s' => P s') (hi : i ∈ l) (s : σ) :
    (l.foldlM f s).Post fun _ s' => P s' := by
  induction l generalizing s with
  | nil => cases hi
  | cons j l ih =>
      rw [List.foldlM_cons]
      apply Post.bind
      rcases List.mem_cons.mp hi with rfl | hi
      · apply (hset s).mono
        intro τ s' hs'
        exact Post.foldlM (I := fun _ s => P s) (τ := τ)
          (fun _ s k hk => hkeep s k (List.mem_cons_of_mem i hk)) hs'
      · constructor
        intro s' _
        exact ih (fun s k hk => hkeep s k (List.mem_cons_of_mem j hk)) hi s'

theorem Post.handle {f : σ → ω → Traced φ ω' σ} {s : σ} {t : Traced φ ω α}
    {Q : List ω' → σ × α → Prop}
    (h : t.Post fun τ a => (τ.foldlM f s).Post fun τ' s' => Q τ' (s', a)) :
    (handle f s t).Post Q := by
  apply Post.bind
  constructor
  intro s' hs'
  apply Post.bind
  apply Post.lift
  intro a ha
  apply Post.pure
  simpa using (h.out a ha).out s' hs'

/-- A handled computation faults in a callback, or with its own fault after the
last one. -/
theorem spec_handle {f : σ → ω → Traced φ ω' σ} {s : σ} {t : Traced φ ω α}
    {Q : List ω' → σ × α → Prop} {F : List ω' → φ → Prop} :
    (handle f s t).Spec Q F ↔
      (t.trace.foldlM f s).Spec (fun τ s' => (∀ a, t.result = .ok a → Q τ (s', a)) ∧
        ∀ e, t.result = .error e → F τ e) F := by
  have hrest : ∀ s' (Q : List ω' → σ × α → Prop) (F : List ω' → φ → Prop),
      (do
        let a ← lift t.result
        return (s', a) : Traced φ ω' (σ × α)).Spec Q F ↔
          (∀ a, t.result = .ok a → Q [] (s', a)) ∧ ∀ e, t.result = .error e → F [] e := by
    intro s' Q F
    simp only [spec_bind, spec_lift, spec_pure, List.append_nil]
  unfold handle
  rw [spec_bind]
  simp only [hrest, List.append_nil]

theorem Post.handle_keeps {f : σ → ω → Traced φ ω' σ} {s : σ} {t : Traced φ ω α} {I : σ → Prop}
    (h : ∀ s e, I s → (f s e).Post fun _ s' => I s') (hs : I s) :
    (Traced.handle f s t).Post fun _ r => I r.1 := by
  apply Post.handle
  constructor
  intro a _
  exact Post.foldlM (I := fun _ s => I s) (τ := []) (fun _ s e _ => h s e) hs

theorem Only.handle {f : σ → ω → Traced φ ω' σ} {s : σ} {t : Traced φ ω α} {E : ω' → Prop}
    (h : (t.trace.foldlM f s).Only E) : (handle f s t).Only E := by
  apply Only.bind h
  constructor
  intro s' _
  apply Only.bind Only.lift
  constructor
  intro a _
  exact Only.pure

/-! ## Runs -/

section Run

variable (step : σ → ι → Traced φ ω σ)

/-- `R` holds at every step of the run: of the history before it, the state and
the input. A fault ends the run. -/
def Along (R : List ω → σ → ι → Prop) : List ω → σ → List ι → Prop
  | _, _, [] => True
  | τ, s, i :: is =>
      R τ s i ∧
        match (step s i).result with
        | .ok s' => Along R (τ ++ (step s i).trace) s' is
        | .error _ => True

instance Along.decidable (R : List ω → σ → ι → Prop) [∀ τ s i, Decidable (R τ s i)] :
    ∀ τ s is, Decidable (Along step R τ s is)
  | _, _, [] => inferInstanceAs (Decidable True)
  | τ, s, i :: is =>
      match h : (step s i).result with
      | .ok s' =>
          have := Along.decidable R (τ ++ (step s i).trace) s' is
          decidable_of_iff (R τ s i ∧ Along step R (τ ++ (step s i).trace) s' is)
            (by simp only [Along, h])
      | .error e => decidable_of_iff (R τ s i) (by simp only [Along, h, and_true])

/-- History and state after a run without fault. -/
def run : List ω → σ → List ι → Option (List ω × σ)
  | τ, s, [] => some (τ, s)
  | τ, s, i :: is =>
      match (step s i).result with
      | .ok s' => run (τ ++ (step s i).trace) s' is
      | .error _ => none

variable {step}

/-- An invariant that the steps of a run keep turns one relation along the run
into another. -/
theorem Along.imp_of_keeps {I : List ω → σ → Prop} {P Q : List ω → σ → ι → Prop} {is : List ι}
    (hstep : ∀ τ s, ∀ i ∈ is, I τ s → P τ s i → (step s i).Post fun τ' s' => I (τ ++ τ') s')
    (himp : ∀ τ s, ∀ i ∈ is, I τ s → P τ s i → Q τ s i) {τ : List ω} {s : σ} (hs : I τ s)
    (h : Along step P τ s is) : Along step Q τ s is := by
  induction is generalizing τ s with
  | nil => trivial
  | cons i is ih =>
      refine ⟨himp τ s i List.mem_cons_self hs h.1, ?_⟩
      have hrest := h.2
      cases hr : (step s i).result with
      | error e => trivial
      | ok s' =>
          rw [hr] at hrest
          exact ih (fun τ s j hj => hstep τ s j (List.mem_cons_of_mem i hj))
            (fun τ s j hj => himp τ s j (List.mem_cons_of_mem i hj))
            ((hstep τ s i List.mem_cons_self hs h.1).out s' hr) hrest

theorem Along.imp {I : List ω → σ → Prop} {P Q : List ω → σ → ι → Prop} {is : List ι}
    (hstep : ∀ τ s i, I τ s → (step s i).Post fun τ' s' => I (τ ++ τ') s')
    (himp : ∀ τ s, ∀ i ∈ is, I τ s → P τ s i → Q τ s i) {τ : List ω} {s : σ} (hs : I τ s)
    (h : Along step P τ s is) : Along step Q τ s is :=
  Along.imp_of_keeps (fun τ s i _ hI _ => hstep τ s i hI) himp hs h

theorem Along.iff {I : List ω → σ → Prop} {P Q : List ω → σ → ι → Prop} {is : List ι}
    (hstep : ∀ τ s i, I τ s → (step s i).Post fun τ' s' => I (τ ++ τ') s')
    (hiff : ∀ τ s, ∀ i ∈ is, I τ s → (P τ s i ↔ Q τ s i)) {τ : List ω} {s : σ}
    (hs : I τ s) : Along step P τ s is ↔ Along step Q τ s is :=
  ⟨Along.imp hstep (fun τ s i hi hI => (hiff τ s i hi hI).mp) hs,
    Along.imp hstep (fun τ s i hi hI => (hiff τ s i hi hI).mpr) hs⟩

/-- What holds along a run holds at the step after a prefix of it. -/
theorem Along.last {R : List ω → σ → ι → Prop} {is : List ι} {i : ι} {τ τ' : List ω} {s s' : σ}
    (h : Along step R τ s (is ++ [i])) (hrun : run step τ s is = some (τ', s')) : R τ' s' i := by
  induction is generalizing τ s with
  | nil =>
      cases hrun
      exact h.1
  | cons j is ih =>
      have hrest := h.2
      cases hr : (step s j).result with
      | error e =>
          rw [run, hr] at hrun
          cases hrun
      | ok s₁ =>
          rw [run, hr] at hrun
          rw [hr] at hrest
          exact ih hrest hrun

theorem Along.concat {R : List ω → σ → ι → Prop} {is : List ι} {i : ι} {τ τ' : List ω} {s s' : σ}
    (h : Along step R τ s is) (hrun : run step τ s is = some (τ', s')) (hi : R τ' s' i) :
    Along step R τ s (is ++ [i]) := by
  induction is generalizing τ s with
  | nil =>
      cases hrun
      refine ⟨hi, ?_⟩
      cases (step s' i).result <;> trivial
  | cons j is ih =>
      refine ⟨h.1, ?_⟩
      have hrest := h.2
      cases hr : (step s j).result with
      | error e => trivial
      | ok s₁ =>
          rw [run, hr] at hrun
          rw [hr] at hrest
          exact ih hrest hrun

theorem Along.of_forall {R : List ω → σ → ι → Prop} {is : List ι} (h : ∀ τ s, ∀ i ∈ is, R τ s i)
    (τ : List ω) (s : σ) : Along step R τ s is := by
  induction is generalizing τ s with
  | nil => trivial
  | cons i is ih =>
      refine ⟨h τ s i List.mem_cons_self, ?_⟩
      cases (step s i).result with
      | error e => trivial
      | ok s' => exact ih (fun τ s j hj => h τ s j (List.mem_cons_of_mem i hj)) _ _

/-- What an invariant implies holds along every run. -/
theorem Along.of_inv {I : List ω → σ → Prop} {R : List ω → σ → ι → Prop} {is : List ι}
    (hstep : ∀ τ s i, I τ s → (step s i).Post fun τ' s' => I (τ ++ τ') s')
    (hR : ∀ τ s, ∀ i ∈ is, I τ s → R τ s i) {τ : List ω} {s : σ} (hs : I τ s) :
    Along step R τ s is :=
  Along.imp (P := fun _ _ _ => True) hstep (fun τ s i hi hI _ => hR τ s i hi hI) hs
    (Along.of_forall (fun _ _ _ _ => trivial) τ s)

theorem run_inv {I : List ω → σ → Prop} {is : List ι}
    (hstep : ∀ τ s, ∀ i ∈ is, I τ s → (step s i).Post fun τ' s' => I (τ ++ τ') s')
    {τ τ' : List ω} {s s' : σ} (hs : I τ s) (hrun : run step τ s is = some (τ', s')) : I τ' s' := by
  induction is generalizing τ s with
  | nil =>
      cases hrun
      exact hs
  | cons i is ih =>
      cases hr : (step s i).result with
      | error e =>
          rw [run, hr] at hrun
          cases hrun
      | ok s₁ =>
          rw [run, hr] at hrun
          exact ih (fun τ s j hj => hstep τ s j (List.mem_cons_of_mem i hj))
            ((hstep τ s i List.mem_cons_self hs).out s₁ hr) hrun

theorem run_history (τ : List ω) (s : σ) (is : List ι) :
    run step τ s is = (run step [] s is).map fun r => (τ ++ r.1, r.2) := by
  induction is generalizing τ s with
  | nil => simp [run]
  | cons i is ih =>
      cases hr : (step s i).result with
      | error e => simp only [run, hr, Option.map_none]
      | ok s' =>
          simp only [run, hr, List.nil_append]
          rw [ih (τ ++ (step s i).trace), ih (step s i).trace, Option.map_map]
          congr 1
          funext r
          simp

variable (step) in
/-- The run from `s` ends in `s'`, with the events `τ`. -/
def Runs (s : σ) (is : List ι) (τ : List ω) (s' : σ) : Prop := run step [] s is = some (τ, s')

theorem Runs.nil (s : σ) : Runs step s [] [] s := rfl

theorem Runs.single {s s' : σ} {i : ι} (h : (step s i).result = .ok s') :
    Runs step s [i] (step s i).trace s' := by
  simp only [Runs, run, h, List.nil_append]

theorem Runs.inv {I : σ → Prop} {is : List ι}
    (hstep : ∀ s, ∀ i ∈ is, I s → (step s i).Post fun _ s' => I s') {s s' : σ} {τ : List ω}
    (hs : I s) (h : Runs step s is τ s') : I s' :=
  run_inv (I := fun _ s => I s) (fun _ s i hi hI => hstep s i hi hI) hs h

theorem runs_cons_iff {s s' : σ} {i : ι} {is : List ι} {τ : List ω} :
    Runs step s (i :: is) τ s' ↔ ∃ s₁ τ₁, (step s i).result = .ok s₁ ∧ Runs step s₁ is τ₁ s' ∧
      τ = (step s i).trace ++ τ₁ := by
  cases hr : (step s i).result with
  | error e => simp [Runs, run, hr]
  | ok s₁ =>
      simp only [Runs, run, hr, List.nil_append]
      rw [run_history]
      constructor
      · intro h
        obtain ⟨⟨τ₁, s₁'⟩, hrest, heq⟩ := Option.map_eq_some_iff.mp h
        cases heq
        exact ⟨s₁, τ₁, rfl, hrest, rfl⟩
      · rintro ⟨s₁', τ₁, heq, hrest, rfl⟩
        cases heq
        rw [hrest]
        rfl

theorem Runs.trans {s s₁ s₂ : σ} {is js : List ι} {τ₁ τ₂ : List ω} (h₁ : Runs step s is τ₁ s₁)
    (h₂ : Runs step s₁ js τ₂ s₂) : Runs step s (is ++ js) (τ₁ ++ τ₂) s₂ := by
  induction is generalizing s τ₁ with
  | nil =>
      cases h₁
      exact h₂
  | cons i is ih =>
      obtain ⟨s', τ, hr, hrest, rfl⟩ := runs_cons_iff.mp h₁
      rw [List.cons_append, List.append_assoc]
      exact runs_cons_iff.mpr ⟨s', τ ++ τ₂, hr, ih hrest, rfl⟩

theorem runs_append_iff {s s' : σ} {is js : List ι} {τ : List ω} :
    Runs step s (is ++ js) τ s' ↔ ∃ s₁ τ₁ τ₂, Runs step s is τ₁ s₁ ∧ Runs step s₁ js τ₂ s' ∧
      τ = τ₁ ++ τ₂ := by
  constructor
  · intro h
    induction is generalizing s τ with
    | nil => exact ⟨s, [], τ, Runs.nil s, h, rfl⟩
    | cons i is ih =>
        obtain ⟨s₁, τ₁, hr, hrest, rfl⟩ := runs_cons_iff.mp h
        obtain ⟨s₂, τ₂, τ₃, hfirst, hlast, rfl⟩ := ih hrest
        refine ⟨s₂, (step s i).trace ++ τ₂, τ₃, ?_, hlast, (List.append_assoc ..).symm⟩
        exact runs_cons_iff.mpr ⟨s₁, τ₂, hr, hfirst, rfl⟩
  · rintro ⟨s₁, τ₁, τ₂, h₁, h₂, rfl⟩
    exact h₁.trans h₂

end Run

end Traced
