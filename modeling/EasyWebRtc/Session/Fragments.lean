import Mathlib.Data.Fintype.BigOperators
import Mathlib.Dynamics.PeriodicPts.Defs
import EasyWebRtc.Session.Registry

/-!
# How many sessions the registry holds

The low six bits of the seed run on their own, and the index of a character
modulo 4 is bits 4 and 5. A transport takes 28 draws, under which these bits have
period 16, so that two sessions share a fragment only if the difference of their
numbers is a multiple of 16. On the other hand there are 36⁴ fragments only.
-/

namespace EasyWebRtc.Session

open Octets Utils Rtc Net

/-! ## The low bits of the generator -/

/-- `GetRandomUInt` on the seed modulo 64. -/
def lowStep (x : Nat) : Nat := (61 * x + 3) % 64

/-- Bits 4 and 5 of the next `n` seeds. -/
def lowDigits : Nat → Nat → List Nat
  | 0, _ => []
  | n + 1, x => lowStep x / 16 :: lowDigits n (lowStep x)

/-- The position of a character in `chars`, modulo 4. -/
def digit (c : UInt8) : Nat := Crypto.chars.toList.idxOf c % 4

theorem digit_chars {index : Nat} (h : index < 36) :
    digit (Crypto.chars.getD index 0) = index % 4 := by
  have hall : ∀ i < 36, digit (Crypto.chars.getD i 0) = i % 4 := by decide +kernel
  exact hall index h

theorem getRandomUInt_seed (seed min max : UInt32) :
    (Crypto.getRandomUInt seed min max).2.toNat % 64 = lowStep (seed.toNat % 64) := by
  have hseed : (Crypto.getRandomUInt seed min max).2.toNat =
      (214013 * seed.toNat % 2 ^ 32 + 2531011) % 2 ^ 32 := by
    simp [Crypto.getRandomUInt]
  rw [hseed, lowStep]
  omega

theorem getRandomUInt_index (seed : UInt32) :
    (Crypto.getRandomUInt seed 0 35).1.toNat < 36 ∧
      (Crypto.getRandomUInt seed 0 35).1.toNat % 4 = lowStep (seed.toNat % 64) / 16 := by
  have hindex : (Crypto.getRandomUInt seed 0 35).1.toNat =
      (((Crypto.getRandomUInt seed 0 35).2.toNat / 2 ^ 4) &&& 0x7FFF7FFF) % 36 := by
    simp [Crypto.getRandomUInt, Nat.shiftRight_eq_div_pow]
  have hmask : ∀ x : Nat, (x &&& 0x7FFF7FFF) % 4 = x % 4 := by
    intro x
    have hmod := Nat.and_mod_two_pow (a := x) (b := 0x7FFF7FFF) (n := 2)
    have hlow : x % 2 ^ 2 &&& 3 = x % 4 % 4 := Nat.and_two_pow_sub_one_eq_mod _ 2
    rw [show 0x7FFF7FFF % 2 ^ 2 = 3 from rfl, hlow] at hmod
    omega
  have hseed := getRandomUInt_seed seed 0 35
  have hlow := hmask ((Crypto.getRandomUInt seed 0 35).2.toNat / 2 ^ 4)
  rw [hindex]
  omega

theorem randomChars_succ (n : Nat) (seed : UInt32) :
    Crypto.randomChars (n + 1) seed =
      (Crypto.chars.getD (Crypto.getRandomUInt seed 0 35).1.toNat 0 ::
        (Crypto.randomChars n (Crypto.getRandomUInt seed 0 35).2).1,
        (Crypto.randomChars n (Crypto.getRandomUInt seed 0 35).2).2) := rfl

theorem randomChars_low (n : Nat) (seed : UInt32) :
    (Crypto.randomChars n seed).1.map digit = lowDigits n (seed.toNat % 64) ∧
      (Crypto.randomChars n seed).2.toNat % 64 = lowStep^[n] (seed.toNat % 64) := by
  induction n generalizing seed with
  | zero => exact ⟨rfl, rfl⟩
  | succ n ih =>
      have hseed := getRandomUInt_seed seed 0 35
      obtain ⟨hlt, hmod⟩ := getRandomUInt_index seed
      obtain ⟨hdigits, hafter⟩ := ih (Crypto.getRandomUInt seed 0 35).2
      rw [hseed] at hdigits hafter
      refine ⟨?_, ?_⟩
      · rw [randomChars_succ, List.map_cons, digit_chars hlt, hmod, hdigits, lowDigits]
      · rw [randomChars_succ, hafter, Function.iterate_succ_apply]

/-! ## Sessions that share a fragment -/

/-- The low bits after the 28 draws of one transport. -/
def lowTransport (x : Nat) : Nat := (49 * x + 28) % 64

/-- The low bits when its fragment is drawn, after no draw or after 24. -/
def lowStart : ArgumentOrder → Nat → Nat
  | .leftToRight, x => x
  | .rightToLeft, x => (33 * x + 24) % 64

theorem iterate_lowStep : ∀ x < 64,
    lowStep^[24] x = (33 * x + 24) % 64 ∧ lowStep^[28] x = (49 * x + 28) % 64 := by
  decide +kernel

theorem lowTransport_period : ∀ x < 64, Function.IsPeriodicPt lowTransport 16 x := by
  have hall : ∀ x < 64, lowTransport^[16] x = x := by decide +kernel
  exact hall

def fragmentAt (order : ArgumentOrder) (seed : UInt32) (i : Nat) : Bytes :=
  (randomCredentials order (seedAfter order i seed)).usernameFragment

section

variable (order : ArgumentOrder)

theorem lowDigits_ne : ∀ x < 64, ∀ d < 16, d ≠ 0 →
    lowDigits 4 (lowStart order (lowTransport^[d] x)) ≠ lowDigits 4 (lowStart order x) := by
  cases order <;> decide +kernel

theorem randomCredentials_low (seed : UInt32) :
    (randomCredentials order seed).usernameFragment.map digit =
        lowDigits 4 (lowStart order (seed.toNat % 64)) ∧
      (randomCredentials order seed).seed.toNat % 64 = lowTransport (seed.toNat % 64) := by
  obtain ⟨hstart, htransport⟩ := iterate_lowStep (seed.toNat % 64) (Nat.mod_lt _ (by decide))
  cases order with
  | leftToRight =>
      have hfragment := randomChars_low 4 seed
      have hpassword := randomChars_low 24 (Crypto.randomChars 4 seed).2
      rw [hfragment.2, ← Function.iterate_add_apply, htransport] at hpassword
      exact ⟨hfragment.1, hpassword.2⟩
  | rightToLeft =>
      have hpassword := randomChars_low 24 seed
      have hfragment := randomChars_low 4 (Crypto.randomChars 24 seed).2
      rw [hpassword.2, ← Function.iterate_add_apply, htransport, hstart] at hfragment
      exact hfragment

theorem seedAfter_low (n : Nat) (seed : UInt32) :
    (seedAfter order n seed).toNat % 64 = lowTransport^[n] (seed.toNat % 64) := by
  induction n with
  | zero => rfl
  | succ n ih =>
      rw [seedAfter_succ, (randomCredentials_low order _).2, ih, Function.iterate_succ_apply']

theorem fragmentAt_digits (seed : UInt32) (i : Nat) :
    (fragmentAt order seed i).map digit =
      lowDigits 4 (lowStart order (lowTransport^[i] (seed.toNat % 64))) := by
  rw [fragmentAt, (randomCredentials_low order _).1, seedAfter_low]

theorem fragments_eq_map (n : Nat) (seed : UInt32) :
    fragments order n seed = (List.range n).map (fragmentAt order seed) := by
  induction n with
  | zero => rfl
  | succ n ih =>
      rw [fragments_succ, ih, List.range_succ, List.map_append]
      rfl

end

section

variable {order : ArgumentOrder} {seed : UInt32}

theorem dvd_of_fragmentAt_eq {i d : Nat}
    (h : fragmentAt order seed (i + d) = fragmentAt order seed i) : 16 ∣ d := by
  have hlt : lowTransport^[i] (seed.toNat % 64) < 64 := by
    rw [← seedAfter_low order]
    exact Nat.mod_lt _ (by decide)
  have hperiod := (lowTransport_period _ hlt).iterate_mod_apply d
  have hdigits := congrArg (List.map digit) h
  rw [fragmentAt_digits, fragmentAt_digits, Nat.add_comm, Function.iterate_add_apply, ← hperiod]
    at hdigits
  by_contra hd
  exact lowDigits_ne order _ hlt (d % 16) (by omega) (by omega) hdigits

/-- The first sixteen fragments are distinct, whatever the seed. -/
theorem fragments_nodup {n : Nat} (h : n ≤ 16) : (fragments order n seed).Nodup := by
  rw [fragments_eq_map]
  refine List.Nodup.map_on ?_ List.nodup_range
  intro i hi j hj heq
  rw [List.mem_range] at hi hj
  rcases Nat.le_total i j with hij | hij
  · obtain ⟨d, rfl⟩ := Nat.exists_eq_add_of_le hij
    have hd := dvd_of_fragmentAt_eq heq.symm
    omega
  · obtain ⟨d, rfl⟩ := Nat.exists_eq_add_of_le hij
    have hd := dvd_of_fragmentAt_eq heq
    omega

/-! ## The number of fragments -/

def textAt {n : Nat} (indices : Fin n → Fin 36) : Bytes :=
  List.ofFn fun i => Crypto.chars.getD (indices i) 0

theorem exists_textAt (n : Nat) (seed : UInt32) :
    ∃ indices : Fin n → Fin 36, (Crypto.randomChars n seed).1 = textAt indices := by
  induction n generalizing seed with
  | zero => exact ⟨Fin.elim0, rfl⟩
  | succ n ih =>
      obtain ⟨indices, hrest⟩ := ih (Crypto.getRandomUInt seed 0 35).2
      refine ⟨Fin.cons ⟨_, (getRandomUInt_index seed).1⟩ indices, ?_⟩
      rw [randomChars_succ, hrest, textAt, textAt, List.ofFn_succ]
      rfl

theorem exists_fragmentAt (order : ArgumentOrder) (seed : UInt32) (i : Nat) :
    ∃ indices : Fin 4 → Fin 36, fragmentAt order seed i = textAt indices := by
  cases order with
  | leftToRight => exact exists_textAt 4 _
  | rightToLeft => exact exists_textAt 4 _

theorem le_of_fragments_nodup {n : Nat} (h : (fragments order n seed).Nodup) : n ≤ 36 ^ 4 := by
  choose indices hindices using fun i : Fin n => exists_fragmentAt order seed i
  have hinj : Function.Injective indices := by
    intro i j hij
    have heq : fragmentAt order seed i = fragmentAt order seed j := by
      rw [hindices, hindices, hij]
    rw [fragments_eq_map] at h
    apply Fin.ext
    exact List.inj_on_of_nodup_map h (List.mem_range.mpr i.isLt) (List.mem_range.mpr j.isLt) heq
  have hcard := Fintype.card_le_of_injective indices hinj
  rwa [Fintype.card_fin, Fintype.card_fun, Fintype.card_fin, Fintype.card_fin] at hcard

/-! ## Runs -/

variable {platform : Platform} {getNextLoop : Nat → LoopId} {requests : List Request}
  {τ : List SessionEvent} {p : Process}

theorem registered_of_le
    (hrun : Traced.run (Process.step platform getNextLoop order) [] { seed } requests =
      some (τ, p)) (h : requests.countP Request.creates ≤ 16) : Registered p.system := by
  rw [registered_iff_nodup (run_built hrun).registry, run_keys hrun]
  exact fragments_nodup h

theorem not_registered_of_lt
    (hrun : Traced.run (Process.step platform getNextLoop order) [] { seed } requests =
      some (τ, p)) (h : 36 ^ 4 < requests.countP Request.creates) : ¬ Registered p.system := by
  rw [registered_iff_nodup (run_built hrun).registry, run_keys hrun]
  intro hnodup
  have hle := le_of_fragments_nodup hnodup
  omega

end

end EasyWebRtc.Session
