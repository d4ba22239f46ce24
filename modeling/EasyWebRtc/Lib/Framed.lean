import Mathlib.Data.List.Induction
import EasyWebRtc.Lib.Octets

/-!
# Units behind a 16-bit length

A byte string that is a sequence of units, each behind its length in two bytes,
is so in one way only. The units can be recovered from the offsets at which they
start: each ends where the length field of the next one begins.
-/

namespace Framed

open Octets

def frame (unit : Bytes) : Bytes := be16 (UInt16.ofNat unit.length) ++ unit

@[simp] theorem frame_length (unit : Bytes) : (frame unit).length = 2 + unit.length := by
  rw [frame, List.length_append, be16_length]

/-- `bs` is the concatenation of the units behind their lengths. -/
structure IsFraming (units : List Bytes) (bs : Bytes) : Prop where
  bytes : bs = units.flatMap frame
  short : ∀ u ∈ units, u.length < 2 ^ 16

section

variable {units : List Bytes}

theorem isFraming_nil_iff : IsFraming units [] ↔ units = [] := by
  constructor
  · intro h
    cases units with
    | nil => rfl
    | cons u units =>
        have hlen := congrArg List.length h.bytes
        simp only [List.flatMap_cons, List.length_append, frame_length, List.length_nil] at hlen
        omega
  · rintro rfl
    exact ⟨rfl, fun u hu => by cases hu⟩

theorem not_isFraming_singleton (b : UInt8) : ¬ IsFraming units [b] := by
  intro h
  have hlen := congrArg List.length h.bytes
  cases units with
  | nil => simp at hlen
  | cons u units =>
      simp only [List.flatMap_cons, List.length_append, frame_length, List.length_singleton] at hlen
      omega

theorem frame_eq_cons {u : Bytes} (h : u.length < 2 ^ 16) :
    ∃ b₀ b₁, frame u = b₀ :: b₁ :: u ∧ (word16 b₀ b₁).toNat = u.length := by
  refine ⟨_, _, rfl, ?_⟩
  rw [word16_be16, UInt16.toNat_ofNat', Nat.mod_eq_of_lt h]

theorem frame_take {b₀ b₁ : UInt8} {rest : Bytes} (h : (word16 b₀ b₁).toNat ≤ rest.length) :
    frame (rest.take (word16 b₀ b₁).toNat) = b₀ :: b₁ :: rest.take (word16 b₀ b₁).toNat := by
  rw [frame, List.length_take, Nat.min_eq_left h, UInt16.ofNat_toNat, be16_word16]
  rfl

theorem isFraming_cons_iff {b₀ b₁ : UInt8} {rest : Bytes} :
    IsFraming units (b₀ :: b₁ :: rest) ↔
      (word16 b₀ b₁).toNat ≤ rest.length ∧ ∃ later,
        units = rest.take (word16 b₀ b₁).toNat :: later ∧
        IsFraming later (rest.drop (word16 b₀ b₁).toNat) := by
  constructor
  · intro h
    cases units with
    | nil => cases h.bytes
    | cons u later =>
        obtain ⟨c₀, c₁, hframe, hlength⟩ := frame_eq_cons (h.short u List.mem_cons_self)
        have hbytes := h.bytes
        rw [List.flatMap_cons, hframe, List.cons_append, List.cons_append] at hbytes
        simp only [List.cons.injEq] at hbytes
        obtain ⟨rfl, rfl, rfl⟩ := hbytes
        rw [hlength, List.take_left, List.drop_left, List.length_append]
        refine ⟨Nat.le_add_right _ _, later, rfl, rfl, ?_⟩
        intro v hv
        exact h.short v (List.mem_cons_of_mem u hv)
  · rintro ⟨hle, later, rfl, hlater⟩
    constructor
    · rw [List.flatMap_cons, frame_take hle, ← hlater.bytes, List.cons_append, List.cons_append,
        List.take_append_drop]
    · intro u hu
      rcases List.mem_cons.mp hu with rfl | hu
      · rw [List.length_take, Nat.min_eq_left hle]
        exact UInt16.toNat_lt _
      · exact hlater.short u hu

theorem IsFraming.unique {units' : List Bytes} {bs : Bytes} (h : IsFraming units bs)
    (h' : IsFraming units' bs) : units = units' := by
  induction units generalizing units' bs with
  | nil =>
      rw [h.bytes] at h'
      exact (isFraming_nil_iff.mp h').symm
  | cons u units ih =>
      match bs, h, h' with
      | [], h, _ => exact absurd (isFraming_nil_iff.mp h) (List.cons_ne_nil u units)
      | [b], h, _ => exact absurd h (not_isFraming_singleton b)
      | b₀ :: b₁ :: rest, h, h' =>
          obtain ⟨_, later, hcons, hlater⟩ := isFraming_cons_iff.mp h
          obtain ⟨_, later', hcons', hlater'⟩ := isFraming_cons_iff.mp h'
          cases hcons
          rw [hcons', ih hlater hlater']

end

/-! ## Offsets -/

/-- Where the units start, the first length field being at `offset`. -/
def starts : Nat → List Bytes → List Nat
  | _, [] => []
  | offset, u :: units => (offset + 2) :: starts (offset + (2 + u.length)) units

/-- The pieces of a string between consecutive offsets, each without the two
bytes before the next offset. -/
def cut (bs : Bytes) : List Nat → List Bytes
  | start :: next :: offsets => (bs.drop start).take (next - 2 - start) :: cut bs (next :: offsets)
  | _ => []

/-- Behind the last unit follows the end of the string, as if a length field
followed. -/
theorem starts_end {bs : Bytes} {offset : Nat} {units : List Bytes} (hle : offset ≤ bs.length)
    (h : bs.drop offset = units.flatMap frame) :
    ∃ later, starts offset units ++ [bs.length + 2] = (offset + 2) :: later := by
  cases units with
  | nil =>
      have hlen := congrArg List.length h
      rw [List.length_drop, List.flatMap_nil, List.length_nil] at hlen
      have hend : bs.length = offset := by omega
      exact ⟨[], by rw [starts, hend]; rfl⟩
  | cons u units => exact ⟨_, rfl⟩

theorem drop_unit {bs u rest : Bytes} {offset : Nat} (h : bs.drop offset = frame u ++ rest) :
    bs.drop (offset + 2) = u ++ rest := by
  rw [← List.drop_drop, h, frame, List.append_assoc]
  exact List.drop_left' (be16_length _)

theorem drop_frame {bs u rest : Bytes} {offset : Nat} (h : bs.drop offset = frame u ++ rest) :
    bs.drop (offset + (2 + u.length)) = rest := by
  rw [← List.drop_drop, h, ← frame_length u, List.drop_left]

theorem offset_le_of_drop {bs u rest : Bytes} {offset : Nat}
    (h : bs.drop offset = frame u ++ rest) : offset + (2 + u.length) ≤ bs.length := by
  have hlen := congrArg List.length h
  rw [List.length_drop, List.length_append, frame_length] at hlen
  omega

theorem cut_starts {bs : Bytes} {offset : Nat} {units : List Bytes} (hle : offset ≤ bs.length)
    (h : bs.drop offset = units.flatMap frame) :
    cut bs (starts offset units ++ [bs.length + 2]) = units := by
  induction units generalizing offset with
  | nil => rfl
  | cons u units ih =>
      rw [List.flatMap_cons] at h
      have hle' := offset_le_of_drop h
      have hrest := drop_frame h
      obtain ⟨later, hlater⟩ := starts_end hle' hrest
      have ih' := ih hle' hrest
      have hunit : (bs.drop (offset + 2)).take (offset + (2 + u.length) + 2 - 2 - (offset + 2)) = u := by
        have hlen : offset + (2 + u.length) + 2 - 2 - (offset + 2) = u.length := by omega
        rw [drop_unit h, hlen, List.take_left]
      rw [hlater] at ih'
      rw [starts, List.cons_append, hlater, cut, hunit, ih']

end Framed
