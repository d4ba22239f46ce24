import Mathlib.Data.List.Induction
import EasyWebRtc.Lib.Octets

/-!
# Tag-length-value sequences

A record is a 16-bit tag, a 16-bit length, the value and the padding that
brings the value to a multiple of `align`. Padding bytes are part of a record:
a sender may leave anything there, so a byte string determines its records but
not the other way round. `splitAll` decides whether a byte string is a sequence
of records and returns the only sequence there is.
-/

namespace Tlv

open Octets

structure Record where
  tag : UInt16
  value : Bytes
  padding : Bytes
  deriving DecidableEq, Repr

/-- Bytes missing to the next multiple of `align`. -/
def padLen (align n : Nat) : Nat := (align - n % align) % align

theorem padLen_dvd {align n total : Nat} (ha : 0 < align) (hd : align ∣ total) (hn : n ≤ total) :
    n + padLen align n ≤ total := by
  obtain ⟨k, rfl⟩ := hd
  have hlt := Nat.mod_lt n ha
  have hdm := Nat.div_add_mod n align
  by_cases hz : n % align = 0
  · simp [padLen, hz, hn]
  · have hp : padLen align n = align - n % align := Nat.mod_eq_of_lt (by omega)
    have hq : n / align < k := by
      apply Nat.div_lt_of_lt_mul
      rcases Nat.lt_or_ge n (align * k) with h | h
      · exact h
      · have he : n = align * k := by omega
        simp [he] at hz
    have hmul : align * (n / align + 1) ≤ align * k := Nat.mul_le_mul_left align hq
    rw [Nat.mul_add] at hmul
    omega

structure Record.Valid (align : Nat) (r : Record) : Prop where
  value_length : r.value.length < 2 ^ 16
  padding_length : r.padding.length = padLen align r.value.length

def Record.bytes (r : Record) : Bytes :=
  be16 r.tag ++ (be16 (UInt16.ofNat r.value.length) ++ (r.value ++ r.padding))

@[simp] theorem Record.bytes_length (r : Record) :
    r.bytes.length = 4 + r.value.length + r.padding.length := by
  simp [Record.bytes]
  omega

theorem Record.bytes_ne_nil (r : Record) : r.bytes ≠ [] := by
  simp [Record.bytes, be16]

/-! ## Splitting -/

def splitOne (align : Nat) : Bytes → Option (Record × Bytes)
  | t₁ :: t₀ :: l₁ :: l₀ :: rest =>
      let n := (word16 l₁ l₀).toNat
      let p := padLen align n
      if n + p ≤ rest.length then
        some (⟨word16 t₁ t₀, rest.take n, (rest.drop n).take p⟩, rest.drop (n + p))
      else none
  | _ => none

def split (align : Nat) : Nat → Bytes → Option (List Record)
  | _, [] => some []
  | 0, _ :: _ => none
  | fuel + 1, b :: bs => do
      let (r, rest) ← splitOne align (b :: bs)
      let rs ← split align fuel rest
      some (r :: rs)

def splitAll (align : Nat) (bs : Bytes) : Option (List Record) := split align bs.length bs

theorem splitOne_bytes {align : Nat} {r : Record} (h : r.Valid align) (rest : Bytes) :
    splitOne align (r.bytes ++ rest) = some (r, rest) := by
  have hn : (UInt16.ofNat r.value.length).toNat = r.value.length := by
    rw [UInt16.toNat_ofNat', Nat.mod_eq_of_lt h.value_length]
  have hp := h.padding_length
  have hlen : r.value.length + padLen align r.value.length ≤
      (r.value ++ (r.padding ++ rest)).length := by
    simp only [List.length_append]
    omega
  simp only [Record.bytes, be16, List.append_assoc, List.cons_append, List.nil_append, splitOne,
    word16_be16, hn, if_pos hlen]
  simp [← hp, ← List.drop_drop]

theorem splitOne_sound {align : Nat} {bs rest : Bytes} {r : Record}
    (h : splitOne align bs = some (r, rest)) : r.Valid align ∧ bs = r.bytes ++ rest := by
  unfold splitOne at h
  split at h
  · rename_i t₁ t₀ l₁ l₀ tail
    simp only at h
    split at h
    · rename_i hle
      simp only [Option.some.injEq, Prod.mk.injEq] at h
      obtain ⟨rfl, rfl⟩ := h
      have hv : (tail.take (word16 l₁ l₀).toNat).length = (word16 l₁ l₀).toNat := by
        rw [List.length_take]
        omega
      refine ⟨⟨?_, ?_⟩, ?_⟩
      · rw [hv]
        exact UInt16.toNat_lt _
      · rw [hv, List.length_take, List.length_drop]
        omega
      · simp only [Record.bytes, hv, UInt16.ofNat_toNat, be16_word16, List.append_assoc,
          List.cons_append, List.nil_append]
        rw [← List.drop_drop, List.take_append_drop, List.take_append_drop]
    · cases h
  · cases h

theorem splitOne_length {align : Nat} {bs rest : Bytes} {r : Record}
    (h : splitOne align bs = some (r, rest)) : rest.length < bs.length := by
  obtain ⟨_, rfl⟩ := splitOne_sound h
  simp only [List.length_append, Record.bytes_length]
  omega

/-- Any fuel above the length gives the same answer. -/
theorem split_eq_splitAll (align fuel : Nat) (bs : Bytes) (h : bs.length ≤ fuel) :
    split align fuel bs = splitAll align bs := by
  suffices hgen : ∀ n (bs : Bytes) (f g : Nat), bs.length ≤ n → bs.length ≤ f → bs.length ≤ g →
      split align f bs = split align g bs from 
        hgen _ bs fuel bs.length (Nat.le_refl _) h (Nat.le_refl _)
  intro n
  induction n with
  | zero =>
      intro bs f g hn _ _
      have hnil : bs = [] := List.length_eq_zero_iff.mp (by omega)
      subst hnil
      simp [split]
  | succ n ih =>
      intro bs f g hn hf hg
      cases bs with
      | nil => simp [split]
      | cons b bs =>
          cases f with
          | zero => simp at hf
          | succ f =>
              cases g with
              | zero => simp at hg
              | succ g =>
                  simp only [split]
                  cases hs : splitOne align (b :: bs) with
                  | none => rfl
                  | some pair =>
                      rcases pair with ⟨r, rest⟩
                      have hl := splitOne_length hs
                      simp only [List.length_cons] at hl hn hf hg
                      simp only [Option.bind_eq_bind, Option.bind_some]
                      rw [ih rest f g (by omega) (by omega) (by omega)]

@[simp] theorem splitAll_nil (align : Nat) : splitAll align [] = some [] := rfl

theorem splitAll_of_splitOne {align : Nat} {bs rest : Bytes} {r : Record}
    (h : splitOne align bs = some (r, rest)) :
    splitAll align bs = (splitAll align rest).map (r :: ·) := by
  have hl := splitOne_length h
  cases bs with
  | nil => simp [splitOne] at h
  | cons b bs =>
      simp only [List.length_cons] at hl
      rw [splitAll, List.length_cons]
      simp only [split, h, Option.bind_eq_bind, Option.bind_some]
      rw [split_eq_splitAll align _ rest (by omega)]
      cases splitAll align rest <;> rfl

theorem splitAll_of_splitOne_none {align : Nat} {bs : Bytes} (hne : bs ≠ [])
    (h : splitOne align bs = none) : splitAll align bs = none := by
  cases bs with
  | nil => exact (hne rfl).elim
  | cons b bs => simp [splitAll, split, h]

theorem splitAll_flatMap {align : Nat} (rs : List Record) (h : ∀ r ∈ rs, r.Valid align) :
    splitAll align (rs.flatMap Record.bytes) = some rs := by
  induction rs with
  | nil => rfl
  | cons r rs ih =>
      have hone := splitOne_bytes (h r List.mem_cons_self) (rs.flatMap Record.bytes)
      rw [List.flatMap_cons, splitAll_of_splitOne hone,
        ih (fun r' hr' => h r' (List.mem_cons_of_mem r hr'))]
      rfl

theorem splitAll_sound {align : Nat} (bs : Bytes) (rs : List Record)
    (h : splitAll align bs = some rs) :
    (∀ r ∈ rs, r.Valid align) ∧ bs = rs.flatMap Record.bytes := by
  induction rs generalizing bs with
  | nil =>
      cases bs with
      | nil => simp
      | cons b bs =>
          cases hs : splitOne align (b :: bs) with
          | none => simp [splitAll_of_splitOne_none (List.cons_ne_nil b bs) hs] at h
          | some pair =>
              rcases pair with ⟨r, rest⟩
              rw [splitAll_of_splitOne hs] at h
              simp at h
  | cons r rs ih =>
      cases hs : splitOne align bs with
      | none =>
          have hne : bs ≠ [] := by
            rintro rfl
            simp at h
          simp [splitAll_of_splitOne_none hne hs] at h
      | some pair =>
          rcases pair with ⟨r', rest⟩
          rw [splitAll_of_splitOne hs, Option.map_eq_some_iff] at h
          obtain ⟨rs', hrest, heq⟩ := h
          cases heq
          obtain ⟨hvalid, hbytes⟩ := ih rest hrest
          obtain ⟨hv, rfl⟩ := splitOne_sound hs
          exact ⟨List.forall_mem_cons.mpr ⟨hv, hvalid⟩, by rw [List.flatMap_cons, ← hbytes]⟩

/-- A byte string is a sequence of records in at most one way. -/
theorem splitAll_eq_some_iff {align : Nat} (bs : Bytes) (rs : List Record) :
    splitAll align bs = some rs ↔ (∀ r ∈ rs, r.Valid align) ∧ bs = rs.flatMap Record.bytes :=
  ⟨splitAll_sound bs rs, fun ⟨hv, hb⟩ => hb ▸ splitAll_flatMap rs hv⟩

/-! ## Lookup of the last record of a tag -/

/-- The last record with the given tag, and where it starts. -/
def lastAt (rs : List Record) (tag : UInt16) : Option (Nat × Record) :=
  (rs.foldl (fun acc r =>
    (acc.1 + r.bytes.length, if r.tag = tag then some (acc.1, r) else acc.2)) (0, none)).2

def lastValue (rs : List Record) (tag : UInt16) : Option Bytes :=
  (lastAt rs tag).map (·.2.value)

def lastOffset (rs : List Record) (tag : UInt16) : Option Nat :=
  (lastAt rs tag).map (·.1)

private theorem lastAt_position (rs : List Record) (tag : UInt16) (n : Nat)
    (acc : Option (Nat × Record)) :
    (rs.foldl (fun acc r =>
      (acc.1 + r.bytes.length, if r.tag = tag then some (acc.1, r) else acc.2)) (n, acc)).1 =
      n + (rs.flatMap Record.bytes).length := by
  induction rs generalizing n acc with
  | nil => simp
  | cons r rs ih =>
      rw [List.foldl_cons, ih, List.flatMap_cons, List.length_append]
      omega

theorem lastAt_concat (rs : List Record) (r : Record) (tag : UInt16) :
    lastAt (rs ++ [r]) tag =
      if r.tag = tag then some ((rs.flatMap Record.bytes).length, r) else lastAt rs tag := by
  have hpos := lastAt_position rs tag 0 none
  rw [Nat.zero_add] at hpos
  unfold lastAt
  rw [List.foldl_append, List.foldl_cons, List.foldl_nil, hpos]

@[simp] theorem lastAt_nil (tag : UInt16) : lastAt [] tag = none := rfl

@[simp] theorem lastValue_nil (tag : UInt16) : lastValue [] tag = none := rfl

@[simp] theorem lastOffset_nil (tag : UInt16) : lastOffset [] tag = none := rfl

theorem lastValue_concat (rs : List Record) (r : Record) (tag : UInt16) :
    lastValue (rs ++ [r]) tag = if r.tag = tag then some r.value else lastValue rs tag := by
  rw [lastValue, lastAt_concat]
  split <;> rfl

theorem lastOffset_concat (rs : List Record) (r : Record) (tag : UInt16) :
    lastOffset (rs ++ [r]) tag =
      if r.tag = tag then some (rs.flatMap Record.bytes).length else lastOffset rs tag := by
  rw [lastOffset, lastAt_concat]
  split <;> rfl

theorem lastValue_append (xs ys : List Record) (tag : UInt16) :
    lastValue (xs ++ ys) tag = (lastValue ys tag).or (lastValue xs tag) := by
  induction ys using List.reverseRecOn with
  | nil => simp
  | append_singleton ys r ih =>
      rw [← List.append_assoc, lastValue_concat, lastValue_concat, ih]
      split <;> rfl

theorem lastAt_mem {rs : List Record} {tag : UInt16} {n : Nat} {r : Record}
    (h : lastAt rs tag = some (n, r)) : r ∈ rs ∧ r.tag = tag := by
  induction rs using List.reverseRecOn with
  | nil => simp at h
  | append_singleton rs r' ih =>
      rw [lastAt_concat] at h
      split at h
      · rename_i ht
        cases h
        exact ⟨by simp, ht⟩
      · obtain ⟨hr, ht⟩ := ih h
        exact ⟨by simp [hr], ht⟩

theorem lastAt_le {rs : List Record} {tag : UInt16} {n : Nat} {r : Record}
    (h : lastAt rs tag = some (n, r)) : n ≤ (rs.flatMap Record.bytes).length := by
  induction rs using List.reverseRecOn with
  | nil => simp at h
  | append_singleton rs r' ih =>
      rw [lastAt_concat] at h
      rw [List.flatMap_append, List.length_append]
      split at h
      · cases h
        omega
      · have := ih h
        omega

theorem lastAt_isSome_iff (rs : List Record) (tag : UInt16) :
    (lastAt rs tag).isSome = true ↔ ∃ r ∈ rs, r.tag = tag := by
  induction rs using List.reverseRecOn with
  | nil => simp
  | append_singleton rs r ih =>
      rw [lastAt_concat]
      by_cases ht : r.tag = tag
      · simp [ht]
      · simp [ht, ih]

theorem lastAt_eq_none_of_forall {rs : List Record} {tag : UInt16}
    (h : ∀ r ∈ rs, r.tag ≠ tag) : lastAt rs tag = none := by
  have hnot : ¬ (lastAt rs tag).isSome = true := by
    rw [lastAt_isSome_iff]
    rintro ⟨r, hr, ht⟩
    exact h r hr ht
  simpa using hnot

end Tlv
