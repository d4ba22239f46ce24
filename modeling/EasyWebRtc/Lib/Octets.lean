import Mathlib.Algebra.Ring.Nat
import Mathlib.Data.List.Basic
import Mathlib.Tactic.Common

/-!
# Octet strings with checked access

Byte strings are lists of `UInt8`. Loads and stores are partial: an access
outside the string is the caller's fault value, so that "every access is in
range" is a theorem about a program and never a convention of the model.
Big-endian words are related to the bytes that carry them in both directions.
-/

namespace Octets

abbrev Bytes := List UInt8

theorem forall_byte {P : UInt8 → Prop} (h : ∀ n < 256, P (UInt8.ofNat n)) (b : UInt8) : P b := by
  have hb := h b.toNat b.toNat_lt
  rwa [UInt8.ofNat_toNat] at hb

/-! ## Big-endian words -/

def be16 (v : UInt16) : Bytes := [(v >>> 8).toUInt8, v.toUInt8]

def be32 (v : UInt32) : Bytes :=
  [(v >>> 24).toUInt8, (v >>> 16).toUInt8, (v >>> 8).toUInt8, v.toUInt8]

def be64 (v : UInt64) : Bytes :=
  [(v >>> 56).toUInt8, (v >>> 48).toUInt8, (v >>> 40).toUInt8, (v >>> 32).toUInt8,
    (v >>> 24).toUInt8, (v >>> 16).toUInt8, (v >>> 8).toUInt8, v.toUInt8]

@[simp] theorem be16_length (v : UInt16) : (be16 v).length = 2 := rfl

@[simp] theorem be32_length (v : UInt32) : (be32 v).length = 4 := rfl

@[simp] theorem be64_length (v : UInt64) : (be64 v).length = 8 := rfl

def word16 (hi lo : UInt8) : UInt16 := lo.toUInt16 ||| hi.toUInt16 <<< 8

def word32 (b₀ b₁ b₂ b₃ : UInt8) : UInt32 :=
  b₃.toUInt32 ||| b₂.toUInt32 <<< 8 ||| b₁.toUInt32 <<< 16 ||| b₀.toUInt32 <<< 24

def word64 (hi lo : UInt32) : UInt64 := hi.toUInt64 <<< 32 ||| lo.toUInt64

def read32 : Bytes → UInt32
  | [b₀, b₁, b₂, b₃] => word32 b₀ b₁ b₂ b₃
  | _ => 0

def read64 : Bytes → UInt64
  | [b₀, b₁, b₂, b₃, b₄, b₅, b₆, b₇] => word64 (word32 b₀ b₁ b₂ b₃) (word32 b₄ b₅ b₆ b₇)
  | _ => 0

/-- Disjoint bit ranges add. -/
theorem or_shiftLeft_eq (a b k : Nat) (h : b < 2 ^ k) : b ||| a <<< k = a * 2 ^ k + b := by
  rw [Nat.or_comm, ← Nat.shiftLeft_add_eq_or_of_lt h, Nat.shiftLeft_eq]

theorem word16_toNat (hi lo : UInt8) : (word16 hi lo).toNat = hi.toNat * 2 ^ 8 + lo.toNat := by
  have hhi := hi.toNat_lt
  have hlo := lo.toNat_lt
  have hs : (hi.toUInt16 <<< 8).toNat = hi.toNat <<< 8 := by
    simp [UInt16.toNat_shiftLeft, Nat.shiftLeft_eq]
    omega
  rw [word16, UInt16.toNat_or, hs, UInt8.toNat_toUInt16, or_shiftLeft_eq _ _ 8 hlo]

theorem word32_toNat (b₀ b₁ b₂ b₃ : UInt8) :
    (word32 b₀ b₁ b₂ b₃).toNat =
      ((b₀.toNat * 2 ^ 8 + b₁.toNat) * 2 ^ 8 + b₂.toNat) * 2 ^ 8 + b₃.toNat := by
  have h₀ := b₀.toNat_lt
  have h₁ := b₁.toNat_lt
  have h₂ := b₂.toNat_lt
  have h₃ := b₃.toNat_lt
  have s₂ : (b₂.toUInt32 <<< 8).toNat = b₂.toNat <<< 8 := by
    simp [UInt32.toNat_shiftLeft, Nat.shiftLeft_eq]
    omega
  have s₁ : (b₁.toUInt32 <<< 16).toNat = b₁.toNat <<< 16 := by
    simp [UInt32.toNat_shiftLeft, Nat.shiftLeft_eq]
    omega
  have s₀ : (b₀.toUInt32 <<< 24).toNat = b₀.toNat <<< 24 := by
    simp [UInt32.toNat_shiftLeft, Nat.shiftLeft_eq]
    omega
  rw [word32, UInt32.toNat_or, UInt32.toNat_or, UInt32.toNat_or, s₂, s₁, s₀,
    UInt8.toNat_toUInt32, or_shiftLeft_eq _ _ 8 h₃, or_shiftLeft_eq _ _ 16 (by omega),
    or_shiftLeft_eq _ _ 24 (by omega)]
  omega

theorem word64_toNat (hi lo : UInt32) : (word64 hi lo).toNat = hi.toNat * 2 ^ 32 + lo.toNat := by
  have hhi := hi.toNat_lt
  have hlo := lo.toNat_lt
  have hs : (hi.toUInt64 <<< 32).toNat = hi.toNat <<< 32 := by
    simp [UInt64.toNat_shiftLeft, Nat.shiftLeft_eq]
    omega
  rw [word64, UInt64.toNat_or, hs, Nat.or_comm, UInt32.toNat_toUInt64,
    or_shiftLeft_eq _ _ 32 hlo]

theorem word16_be16 (v : UInt16) : word16 (v >>> 8).toUInt8 v.toUInt8 = v := by
  apply UInt16.toNat_inj.mp
  have hv := v.toNat_lt
  rw [word16_toNat]
  simp [Nat.shiftRight_eq_div_pow]
  omega

theorem low_bytes (n : Nat) :
    ((n / 2 ^ 24 % 2 ^ 8 * 2 ^ 8 + n / 2 ^ 16 % 2 ^ 8) * 2 ^ 8 + n / 2 ^ 8 % 2 ^ 8) * 2 ^ 8 +
      n % 2 ^ 8 = n % 2 ^ 32 := by
  omega

theorem word32_be32 (v : UInt32) :
    word32 (v >>> 24).toUInt8 (v >>> 16).toUInt8 (v >>> 8).toUInt8 v.toUInt8 = v := by
  apply UInt32.toNat_inj.mp
  have hv := v.toNat_lt
  have hbytes := low_bytes v.toNat
  rw [word32_toNat]
  simp only [UInt32.toNat_toUInt8, UInt32.toNat_shiftRight, Nat.shiftRight_eq_div_pow]
  exact hbytes.trans (Nat.mod_eq_of_lt hv)

theorem word64_be64 (v : UInt64) :
    word64 (word32 (v >>> 56).toUInt8 (v >>> 48).toUInt8 (v >>> 40).toUInt8 (v >>> 32).toUInt8)
      (word32 (v >>> 24).toUInt8 (v >>> 16).toUInt8 (v >>> 8).toUInt8 v.toUInt8) = v := by
  apply UInt64.toNat_inj.mp
  have hv := v.toNat_lt
  have hword : ∀ hi lo, hi = v.toNat / 2 ^ 32 % 2 ^ 32 → lo = v.toNat % 2 ^ 32 →
      hi * 2 ^ 32 + lo = v.toNat := by
    intro hi lo hhi hlo
    omega
  rw [word64_toNat, word32_toNat, word32_toNat]
  apply hword
  · rw [← low_bytes (v.toNat / 2 ^ 32)]
    simp [Nat.shiftRight_eq_div_pow, Nat.div_div_eq_div_mul]
  · rw [← low_bytes v.toNat]
    simp [Nat.shiftRight_eq_div_pow]

@[simp] theorem read32_be32 (v : UInt32) : read32 (be32 v) = v := word32_be32 v

@[simp] theorem read64_be64 (v : UInt64) : read64 (be64 v) = v := word64_be64 v

theorem be16_word16 (hi lo : UInt8) : be16 (word16 hi lo) = [hi, lo] := by
  have hn := word16_toNat hi lo
  have hhi := hi.toNat_lt
  have hlo := lo.toNat_lt
  have h₁ : (word16 hi lo >>> 8).toUInt8 = hi := by
    apply UInt8.toNat_inj.mp
    simp [Nat.shiftRight_eq_div_pow, hn]
    omega
  have h₂ : (word16 hi lo).toUInt8 = lo := by
    apply UInt8.toNat_inj.mp
    simp [hn]
  rw [be16, h₁, h₂]

theorem be32_word32 (b₀ b₁ b₂ b₃ : UInt8) : be32 (word32 b₀ b₁ b₂ b₃) = [b₀, b₁, b₂, b₃] := by
  have hn := word32_toNat b₀ b₁ b₂ b₃
  have h₀ := b₀.toNat_lt
  have h₁ := b₁.toNat_lt
  have h₂ := b₂.toNat_lt
  have h₃ := b₃.toNat_lt
  have hbyte : ∀ (v : UInt8) (shifted : UInt32), shifted.toNat % 256 = v.toNat →
      shifted.toUInt8 = v := by
    intro v shifted h
    apply UInt8.toNat_inj.mp
    rw [UInt32.toNat_toUInt8]
    exact h
  rw [be32, hbyte b₀, hbyte b₁, hbyte b₂, hbyte b₃]
  · omega
  · simp only [UInt32.toNat_shiftRight, Nat.shiftRight_eq_div_pow, hn]
    simp
    omega
  · simp only [UInt32.toNat_shiftRight, Nat.shiftRight_eq_div_pow, hn]
    simp
    omega
  · simp only [UInt32.toNat_shiftRight, Nat.shiftRight_eq_div_pow, hn]
    simp
    omega

theorem be32_read32 {bs : Bytes} (h : bs.length = 4) : be32 (read32 bs) = bs := by
  match bs, h with
  | [b₀, b₁, b₂, b₃], _ => exact be32_word32 b₀ b₁ b₂ b₃

/-! ## Checked loads and stores -/

section Access

variable {φ : Type} (oob : φ)

def load (data : Bytes) (i : Nat) : Except φ UInt8 :=
  match data[i]? with
  | some b => .ok b
  | none => .error oob

def store (data : Bytes) (i : Nat) (b : UInt8) : Except φ Bytes :=
  match data[i]? with
  | some _ => .ok (data.set i b)
  | none => .error oob

def storeAll : Bytes → Nat → Bytes → Except φ Bytes
  | data, _, [] => .ok data
  | data, i, b :: bs => do
      let data ← store oob data i b
      storeAll data (i + 1) bs

theorem load_drop (data : Bytes) (i j : Nat) :
    load oob (data.drop i) j = load oob data (i + j) := by
  simp [load]

theorem load_of_drop {data rest : Bytes} {i : Nat} {b : UInt8} (h : data.drop i = b :: rest) :
    load oob data i = .ok b := by
  have hload := load_drop oob data i 0
  rw [h] at hload
  exact hload.symm

theorem drop_succ_of_drop {data rest : Bytes} {i : Nat} {b : UInt8}
    (h : data.drop i = b :: rest) : data.drop (i + 1) = rest := by
  rw [← List.drop_drop, h, List.drop_one, List.tail_cons]

theorem load_ok_of_lt {data : Bytes} {i : Nat} (h : i < data.length) :
    load oob data i = .ok data[i] := by
  simp [load, List.getElem?_eq_getElem h]

theorem store_cons_zero (a b : UInt8) (post : Bytes) :
    store oob (a :: post) 0 b = .ok (b :: post) := rfl

theorem store_cons_succ (a b : UInt8) (post : Bytes) (i : Nat) :
    store oob (a :: post) (i + 1) b = (store oob post i b).map (a :: ·) := by
  unfold store
  rw [List.getElem?_cons_succ]
  cases post[i]? <;> rfl

theorem store_append_right (pre post : Bytes) (i : Nat) (b : UInt8) :
    store oob (pre ++ post) (pre.length + i) b = (store oob post i b).map (pre ++ ·) := by
  have hget : (pre ++ post)[pre.length + i]? = post[i]? := by
    simp [List.getElem?_append_right]
  unfold store
  rw [hget]
  cases post[i]? with
  | none => rfl
  | some old => simp [Except.map, List.set_append_right]

theorem store_append (pre post : Bytes) (old b : UInt8) :
    store oob (pre ++ old :: post) pre.length b = .ok (pre ++ b :: post) := by
  simp [store]

theorem storeAll_append (pre old post bs : Bytes) (h : old.length = bs.length) :
    storeAll oob (pre ++ (old ++ post)) pre.length bs = .ok (pre ++ (bs ++ post)) := by
  induction bs generalizing pre old with
  | nil =>
      have hold : old = [] := List.length_eq_zero_iff.mp h
      simp [storeAll, hold]
  | cons b bs ih =>
      cases old with
      | nil => simp at h
      | cons o old =>
          have hrest := ih (pre ++ [b]) old (by simpa using h)
          simp only [List.append_assoc, List.cons_append, List.nil_append,
            List.length_append, List.length_cons, List.length_nil] at hrest
          simp only [storeAll, List.cons_append, store_append]
          exact hrest

/-- Writing into the unwritten tail of a buffer: the written prefix grows. -/
theorem storeAll_fresh (pre rest bs : Bytes) (h : bs.length ≤ rest.length) :
    storeAll oob (pre ++ rest) pre.length bs =
      .ok (pre ++ bs ++ rest.drop bs.length) := by
  have hsplit : rest = rest.take bs.length ++ rest.drop bs.length :=
    (List.take_append_drop _ _).symm
  have hlen : (rest.take bs.length).length = bs.length := by simp [h]
  calc
    storeAll oob (pre ++ rest) pre.length bs
        = storeAll oob (pre ++ (rest.take bs.length ++ rest.drop bs.length)) pre.length bs := by
          rw [← hsplit]
    _ = .ok (pre ++ bs ++ rest.drop bs.length) := by
          rw [storeAll_append oob pre _ _ bs hlen, List.append_assoc]

theorem storeAll_overflow (data bs : Bytes) {i : Nat} (hi : i ≤ data.length)
    (h : data.length < i + bs.length) : storeAll oob data i bs = .error oob := by
  induction bs generalizing data i with
  | nil =>
      rw [List.length_nil] at h
      omega
  | cons b bs ih =>
      rw [List.length_cons] at h
      rcases Nat.lt_or_ge i data.length with hlt | hge
      · have hstore : store oob data i b = .ok (data.set i b) := by
          rw [store, List.getElem?_eq_getElem hlt]
        rw [storeAll, hstore]
        apply ih (data.set i b)
        · rw [List.length_set]
          exact hlt
        · rw [List.length_set]
          omega
      · rw [storeAll, store, List.getElem?_eq_none hge]
        rfl

end Access

end Octets
