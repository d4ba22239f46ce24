import Mathlib.Algebra.Ring.Nat
import Mathlib.Logic.Function.Iterate
import Mathlib.Tactic.Common

/-!
# Reflected cyclic redundancy checks

A reflected CRC of any width as a shift register that takes one bit at a time,
and the register that takes a word of `n` bits in one step from a table of
`2 ^ n` entries. A shift is linear in exclusive or and a state whose low `n`
bits are clear only moves down in `n` shifts, so that the table needs one entry
for each value of the low bits.
-/

namespace Crc

variable {w : Nat}

/-! ## The register, bit by bit -/

/-- One shift, reduced by the polynomial when a one leaves the register. -/
def shift (poly crc : BitVec w) : BitVec w :=
  if crc.getLsbD 0 then (crc >>> 1) ^^^ poly else crc >>> 1

/-- One bit of the message, compared with the bit that leaves the register. -/
def feed (poly crc : BitVec w) (bit : Bool) : BitVec w :=
  if (crc.getLsbD 0 ^^ bit) then (crc >>> 1) ^^^ poly else crc >>> 1

/-- The bits of a word, lowest first. -/
def bits {n : Nat} (word : BitVec n) : List Bool := (List.range n).map word.getLsbD

structure Reflected (w : Nat) where
  poly : BitVec w
  init : BitVec w
  xorOut : BitVec w

def Reflected.checksum (C : Reflected w) (message : List Bool) : BitVec w :=
  message.foldl (feed C.poly) C.init ^^^ C.xorOut

/-! ## Shifts are linear -/

section

variable (poly : BitVec w)

/-- What a shift adds to the register for the bit that leaves it. -/
def reduction (bit : Bool) : BitVec w := if bit then poly else 0#w

theorem reduction_xor (a b : Bool) :
    reduction poly (a ^^ b) = reduction poly a ^^^ reduction poly b := by
  cases a <;> cases b <;> simp [reduction]

theorem shift_eq (crc : BitVec w) :
    shift poly crc = (crc >>> 1) ^^^ reduction poly (crc.getLsbD 0) := by
  unfold shift reduction
  cases crc.getLsbD 0 <;> simp

theorem feed_eq (crc : BitVec w) (bit : Bool) :
    feed poly crc bit = shift poly crc ^^^ reduction poly bit := by
  have h : feed poly crc bit = (crc >>> 1) ^^^ reduction poly (crc.getLsbD 0 ^^ bit) := by
    unfold feed reduction
    cases (crc.getLsbD 0 ^^ bit) <;> simp
  rw [h, reduction_xor, shift_eq, BitVec.xor_assoc]

theorem shift_xor (a b : BitVec w) : shift poly (a ^^^ b) = shift poly a ^^^ shift poly b := by
  rw [shift_eq, shift_eq, shift_eq, BitVec.getLsbD_xor, reduction_xor,
    BitVec.ushiftRight_xor_distrib]
  ac_rfl

theorem iterate_shift_xor (k : Nat) (a b : BitVec w) :
    (shift poly)^[k] (a ^^^ b) = (shift poly)^[k] a ^^^ (shift poly)^[k] b := by
  induction k generalizing a b with
  | zero => rfl
  | succ k ih =>
      rw [Function.iterate_succ_apply, shift_xor, ih]
      rfl

/-- Without a one in its low `k` bits the register only moves down. -/
theorem iterate_shift_of_clear {a : BitVec w} {k : Nat} (h : ∀ i < k, a.getLsbD i = false) :
    (shift poly)^[k] a = a >>> k := by
  induction k with
  | zero => simp
  | succ k ih =>
      have hlow : (a >>> k).getLsbD 0 = false := by
        rw [BitVec.getLsbD_ushiftRight]
        exact h k (by omega)
      rw [Function.iterate_succ_apply', ih fun i hi => h i (by omega), shift_eq, hlow,
        ← BitVec.shiftRight_add]
      simp [reduction]

def bitAt (w k : Nat) (bit : Bool) : BitVec w := (BitVec.ofBool bit).setWidth w <<< k

theorem getLsbD_bitAt (w k i : Nat) (bit : Bool) :
    (bitAt w k bit).getLsbD i = (decide (i = k ∧ k < w) && bit) := by
  unfold bitAt
  rw [BitVec.getLsbD_shiftLeft, BitVec.getLsbD_setWidth, BitVec.getLsbD_ofBool]
  rcases Nat.lt_trichotomy i k with hlt | rfl | hgt
  · simp [hlt, Nat.ne_of_lt hlt]
  · by_cases hw : i < w
    · simp [hw, Nat.zero_lt_of_lt hw]
    · simp [hw]
  · have hsub : i - k ≠ 0 := by omega
    simp [hsub, Nat.ne_of_gt hgt]

/-- A bit leaves the register one shift after it has come down to the lowest
position. -/
theorem iterate_shift_bitAt {k : Nat} (hk : k < w) (bit : Bool) :
    (shift poly)^[k + 1] (bitAt w k bit) = reduction poly bit := by
  have hclear : ∀ i < k, (bitAt w k bit).getLsbD i = false := by
    intro i hi
    have hne : i ≠ k := Nat.ne_of_lt hi
    simp [getLsbD_bitAt, hne]
  have hbit : (bitAt w k bit >>> k).getLsbD 0 = bit := by
    rw [BitVec.getLsbD_ushiftRight, getLsbD_bitAt]
    simp [hk]
  have hrest : bitAt w k bit >>> k >>> 1 = 0#w := by
    apply BitVec.eq_of_getLsbD_eq
    intro i hi
    simp [getLsbD_bitAt]
  rw [Function.iterate_succ_apply', iterate_shift_of_clear poly hclear, shift_eq, hbit, hrest,
    BitVec.zero_xor]

end

/-! ## A word at a time -/

section

variable (poly : BitVec w) {n : Nat}

def low (w k : Nat) (word : BitVec n) : BitVec w := (word.setWidth k).setWidth w

theorem getLsbD_low (w k i : Nat) (word : BitVec n) :
    (low w k word).getLsbD i = (decide (i < w ∧ i < k) && word.getLsbD i) := by
  simp [low, Bool.and_assoc]

theorem low_succ (k : Nat) (word : BitVec n) :
    low w (k + 1) word = low w k word ^^^ bitAt w k (word.getLsbD k) := by
  apply BitVec.eq_of_getLsbD_eq
  intro i hi
  rw [BitVec.getLsbD_xor, getLsbD_low, getLsbD_low, getLsbD_bitAt]
  rcases Nat.lt_trichotomy i k with hlt | rfl | hgt
  · simp [hi, hlt, Nat.lt_succ_of_lt hlt, Nat.ne_of_lt hlt]
  · simp [hi]
  · have hnot : ¬ i < k ∧ ¬ i < k + 1 := by omega
    simp [hnot, Nat.ne_of_gt hgt]

theorem foldl_feed_low (crc : BitVec w) (word : BitVec n) {k : Nat} (hk : k ≤ w) :
    ((List.range k).map word.getLsbD).foldl (feed poly) crc =
      (shift poly)^[k] (crc ^^^ low w k word) := by
  induction k with
  | zero =>
      have hlow : low w 0 word = 0#w := by
        apply BitVec.eq_of_getLsbD_eq
        intro i hi
        simp [getLsbD_low]
      simp [hlow]
  | succ k ih =>
      -- Bit `k` may enter the register `k` shifts early: it is then `k` places higher up.
      rw [List.range_succ, List.map_append, List.foldl_append, ih (by omega), low_succ,
        ← BitVec.xor_assoc, iterate_shift_xor poly (k + 1), iterate_shift_bitAt poly hk,
        Function.iterate_succ_apply']
      exact feed_eq poly _ _

/-- The bits of a word that fits in the register can all be added to it at once. -/
theorem foldl_feed_bits (crc : BitVec w) (word : BitVec n) (hn : n ≤ w) :
    (bits word).foldl (feed poly) crc = (shift poly)^[n] (crc ^^^ word.setWidth w) := by
  have hlow : low w n word = word.setWidth w := by simp [low]
  rw [bits, foldl_feed_low poly crc word hn, hlow]

/-- The low bits go through the register, the others only move down. -/
theorem iterate_shift_eq (n : Nat) (crc : BitVec w) :
    (shift poly)^[n] crc = (shift poly)^[n] (low w n crc) ^^^ (crc >>> n) := by
  have hclear : ∀ i < n, (crc ^^^ low w n crc).getLsbD i = false := by
    intro i hi
    rw [BitVec.getLsbD_xor, getLsbD_low]
    by_cases hw : i < w
    · simp [hi, hw]
    · simp [hw, BitVec.getLsbD_of_ge crc i (by omega)]
  have hhigh : (crc ^^^ low w n crc) >>> n = crc >>> n := by
    apply BitVec.eq_of_getLsbD_eq
    intro i hi
    have hnot : ¬ n + i < n := by omega
    simp [getLsbD_low, hnot]
  calc
    (shift poly)^[n] crc
        = (shift poly)^[n] (low w n crc ^^^ (crc ^^^ low w n crc)) := by
          congr 1
          rw [BitVec.xor_comm crc, ← BitVec.xor_assoc, BitVec.xor_self, BitVec.zero_xor]
    _ = (shift poly)^[n] (low w n crc) ^^^ (crc >>> n) := by
          rw [iterate_shift_xor, iterate_shift_of_clear poly hclear, hhigh]

/-! ## The table -/

/-- `table` has the register after `n` shifts for every value of its low bits. -/
def IsTable (n : Nat) (table : Nat → BitVec w) : Prop :=
  ∀ i < 2 ^ n, table i = (shift poly)^[n] (BitVec.ofNat w i)

/-- A word of the message in one step. -/
def tableStep (table : Nat → BitVec w) (crc : BitVec w) (word : BitVec n) : BitVec w :=
  table ((crc ^^^ word.setWidth w).toNat % 2 ^ n) ^^^ (crc >>> n)

variable {poly} {table : Nat → BitVec w}

theorem IsTable.tableStep_eq (h : IsTable poly n table) (hn : n ≤ w) (crc : BitVec w)
    (word : BitVec n) : tableStep table crc word = (bits word).foldl (feed poly) crc := by
  have hindex : BitVec.ofNat w ((crc ^^^ word.setWidth w).toNat % 2 ^ n) =
      low w n (crc ^^^ word.setWidth w) := by
    apply BitVec.eq_of_toNat_eq
    rw [low, BitVec.toNat_setWidth, BitVec.toNat_setWidth, BitVec.toNat_ofNat]
  have hword : word.setWidth w >>> n = 0#w := by
    apply BitVec.eq_of_getLsbD_eq
    intro i hi
    simp
  rw [tableStep, h _ (Nat.mod_lt _ (Nat.two_pow_pos n)), hindex, foldl_feed_bits poly crc word hn,
    iterate_shift_eq poly n (crc ^^^ word.setWidth w), BitVec.ushiftRight_xor_distrib, hword,
    BitVec.xor_zero]

theorem IsTable.foldl_tableStep (h : IsTable poly n table) (hn : n ≤ w) (crc : BitVec w)
    (message : List (BitVec n)) :
    message.foldl (tableStep table) crc = (message.flatMap bits).foldl (feed poly) crc := by
  induction message generalizing crc with
  | nil => rfl
  | cons word message ih =>
      rw [List.foldl_cons, List.flatMap_cons, List.foldl_append, h.tableStep_eq hn, ih]

end

/-! ## Bursts

A polynomial with its highest bit makes every shift invertible: a one that has
left the register shows at its upper end. Messages that differ only within `w`
consecutive bits then have different checksums. -/

section

variable {poly : BitVec w}

theorem shift_injective (hpoly : poly.getLsbD (w - 1) = true) :
    Function.Injective (shift poly) := by
  have hw : w - 1 < w := BitVec.lt_of_getLsbD hpoly
  have htop : ∀ a : BitVec w, (shift poly a).getLsbD (w - 1) = a.getLsbD 0 := by
    intro a
    have hshifted : (a >>> 1).getLsbD (w - 1) = false := by
      rw [BitVec.getLsbD_ushiftRight]
      exact BitVec.getLsbD_of_ge a _ (by omega)
    rw [shift_eq, BitVec.getLsbD_xor, hshifted, reduction]
    cases a.getLsbD 0 <;> simp [hpoly]
  intro a b h
  have hlow : a.getLsbD 0 = b.getLsbD 0 := by
    rw [← htop a, ← htop b, h]
  have hhigh : a >>> 1 = b >>> 1 := by
    rw [shift_eq, shift_eq, hlow] at h
    exact (BitVec.xor_left_inj _).mp h
  apply BitVec.eq_of_getLsbD_eq
  intro i hi
  cases i with
  | zero => exact hlow
  | succ i =>
      have hbit := congrArg (fun v => BitVec.getLsbD v i) hhigh
      simpa only [BitVec.getLsbD_ushiftRight, Nat.add_comm 1 i] using hbit

theorem foldl_feed_injective (hpoly : poly.getLsbD (w - 1) = true) (message : List Bool) :
    Function.Injective fun crc => message.foldl (feed poly) crc := by
  induction message with
  | nil => exact fun _ _ h => h
  | cons bit message ih =>
      intro a b h
      have hfeed : feed poly a bit = feed poly b bit := ih h
      rw [feed_eq, feed_eq] at hfeed
      exact shift_injective hpoly ((BitVec.xor_left_inj _).mp hfeed)

theorem exists_bits {message : List Bool} {n : Nat} (h : message.length = n) :
    ∃ word : BitVec n, bits word = message := by
  subst h
  refine ⟨BitVec.ofBoolListLE message, ?_⟩
  apply List.ext_getElem
  · simp [bits]
  · intro i _ hi
    simp only [bits, List.getElem_map, List.getElem_range, BitVec.getLsbD_ofBoolListLE,
      List.getD_eq_getElem?_getD, List.getElem?_eq_getElem hi, Option.getD_some]

/-- Different messages of the same length, if it fits in the register, take it to
different states. -/
theorem foldl_feed_burst (hpoly : poly.getLsbD (w - 1) = true) (crc : BitVec w)
    {burst burst' : List Bool} (hlen : burst.length = burst'.length) (hw : burst.length ≤ w)
    (h : burst.foldl (feed poly) crc = burst'.foldl (feed poly) crc) : burst = burst' := by
  obtain ⟨word, hbits⟩ := exists_bits (rfl : burst.length = burst.length)
  obtain ⟨word', hbits'⟩ := exists_bits hlen.symm
  rw [← hbits, ← hbits', foldl_feed_bits poly crc word hw, foldl_feed_bits poly crc word' hw] at h
  have hstate := (shift_injective hpoly).iterate burst.length h
  have hwide : word.setWidth w = word'.setWidth w := (BitVec.xor_right_inj _).mp hstate
  have hsame : word = word' := by
    have hback := congrArg (BitVec.setWidth burst.length) hwide
    simpa [BitVec.setWidth_setWidth_of_le _ hw] using hback
  rw [← hbits, ← hbits', hsame]

/-- A burst of at most `w` bits changes the checksum. -/
theorem Reflected.checksum_burst (C : Reflected w) (hpoly : C.poly.getLsbD (w - 1) = true)
    {before burst burst' after : List Bool} (hlen : burst.length = burst'.length)
    (hw : burst.length ≤ w)
    (h : C.checksum (before ++ burst ++ after) = C.checksum (before ++ burst' ++ after)) :
    burst = burst' := by
  have hstate := (BitVec.xor_left_inj _).mp h
  rw [List.foldl_append, List.foldl_append, List.foldl_append, List.foldl_append] at hstate
  exact foldl_feed_burst hpoly _ hlen hw (foldl_feed_injective hpoly after hstate)

end

end Crc
