import EasyWebRtc.Lib.Octets

/-!
# Guarded computations

Code that walks over a byte string by indices and unsigned lengths goes wrong in
three ways, and each has a value here. A computation that returns has read
inside its strings, has not subtracted below zero and has ended.
-/

open Octets

inductive Hazard where
  | outOfBounds
  | underflow
  | diverged
  deriving DecidableEq, Repr

abbrev Guarded (α : Type) := Except Hazard α

namespace Guarded

@[simp] theorem ok_bind {α β : Type} (a : α) (f : α → Guarded β) : (Except.ok a >>= f) = f a := rfl

@[simp] theorem pure_eq_ok {α : Type} (a : α) : (pure a : Guarded α) = .ok a := rfl

theorem bind_eq_ok {α β : Type} {x : Guarded α} {f : α → Guarded β} {b : β} :
    (x >>= f) = .ok b ↔ ∃ a, x = .ok a ∧ f a = .ok b := by
  cases x with
  | error hazard =>
      constructor
      · intro h
        cases h
      · rintro ⟨a, h, _⟩
        cases h
  | ok a =>
      constructor
      · intro h
        exact ⟨a, rfl, h⟩
      · rintro ⟨a', h, hf⟩
        cases h
        exact hf

/-! ## Unsigned subtraction -/

def sub (a b : Nat) : Guarded Nat := if b ≤ a then .ok (a - b) else .error .underflow

theorem sub_of_le {a b : Nat} (h : b ≤ a) : sub a b = .ok (a - b) := if_pos h

/-! ## Reads -/

def byteAt (data : Bytes) (i : Nat) : Guarded UInt8 := load .outOfBounds data i

/-- The word of two bytes, the high one first. -/
def word16At (data : Bytes) (i : Nat) : Guarded UInt16 := do
  let b₀ ← byteAt data i
  let b₁ ← byteAt data (i + 1)
  return word16 b₀ b₁

def word32At (data : Bytes) (i : Nat) : Guarded UInt32 := do
  let b₀ ← byteAt data i
  let b₁ ← byteAt data (i + 1)
  let b₂ ← byteAt data (i + 2)
  let b₃ ← byteAt data (i + 3)
  return word32 b₀ b₁ b₂ b₃

def takeBytes (data : Bytes) (n : Nat) : Guarded Bytes :=
  if n ≤ data.length then .ok (data.take n) else .error .outOfBounds

section

variable {data : Bytes} {i : Nat}

theorem byteAt_of_lt (h : i < data.length) : byteAt data i = .ok (data.getD i 0) := by
  rw [byteAt, load_ok_of_lt _ h, List.getD, List.getElem?_eq_getElem h, Option.getD_some]

theorem byteAt_of_drop {b : UInt8} {rest : Bytes} (h : data.drop i = b :: rest) :
    byteAt data i = .ok b :=
  load_of_drop _ h

theorem word16At_of_lt (h : i + 1 < data.length) :
    word16At data i = .ok (word16 (data.getD i 0) (data.getD (i + 1) 0)) := by
  rw [word16At, byteAt_of_lt (Nat.lt_of_succ_lt h), byteAt_of_lt h]
  rfl

theorem word32At_of_lt (h : i + 3 < data.length) :
    word32At data i = .ok (word32 (data.getD i 0) (data.getD (i + 1) 0) (data.getD (i + 2) 0)
      (data.getD (i + 3) 0)) := by
  rw [word32At, byteAt_of_lt (show i < data.length by omega),
    byteAt_of_lt (show i + 1 < data.length by omega),
    byteAt_of_lt (show i + 2 < data.length by omega), byteAt_of_lt h]
  rfl

theorem takeBytes_length : takeBytes data data.length = .ok data := by
  rw [takeBytes, if_pos (Nat.le_refl _), List.take_length]

end

end Guarded
