import EasyWebRtc.Lib.Octets

/-!
# Text in octets

C strings in buffers, and texts made of lines that end with CR LF. A reader that
ends a line at LF, with or without a CR before it, finds the lines again if none
of them contains LF, and finds a field by the text in front of it.
-/

namespace Text

open Octets

/-! ## Literals -/

/-- The octets of an ASCII literal. -/
def ascii (s : String) : Bytes := s.toList.map fun c => c.toNat.toUInt8

def ofAscii (bs : Bytes) : String := String.ofList (bs.map fun b => Char.ofNat b.toNat)

@[simp] theorem ascii_ofAscii (bs : Bytes) : ascii (ofAscii bs) = bs := by
  have hbyte : ∀ b ∈ bs, ((fun c => c.toNat.toUInt8) ∘ fun b => Char.ofNat b.toNat) b = id b := by
    intro b _
    exact forall_byte (P := fun b => (Char.ofNat b.toNat).toNat.toUInt8 = b) (by decide +kernel) b
  rw [ascii, ofAscii, String.toList_ofList, List.map_map, List.map_congr_left hbyte, List.map_id]

theorem ofAscii_injective {bs bs' : Bytes} (h : ofAscii bs = ofAscii bs') : bs = bs' := by
  rw [← ascii_ofAscii bs, h, ascii_ofAscii]

/-! ## C strings -/

/-- What a reader of a C string finds in a buffer. -/
def cString (buffer : Bytes) : Bytes := buffer.takeWhile (· ≠ 0)

theorem cString_append {s : Bytes} (h : 0 ∉ s) (rest : Bytes) : cString (s ++ 0 :: rest) = s := by
  have hall : ∀ b ∈ s, decide (b ≠ 0) = true := by
    intro b hb
    exact decide_eq_true fun hzero => h (hzero ▸ hb)
  rw [cString, List.takeWhile_append_of_pos hall]
  simp

theorem cString_of_not_mem {s : Bytes} (h : 0 ∉ s) : cString s = s := by
  induction s with
  | nil => rfl
  | cons b s ih =>
      have hb : b ≠ 0 := fun hzero => h (hzero ▸ List.mem_cons_self)
      have hs : cString s = s := ih fun hs => h (List.mem_cons_of_mem b hs)
      rw [cString, List.takeWhile_cons, if_pos (decide_eq_true hb), ← cString, hs]

/-! ## Decimal numbers -/

def decimal (n : Nat) : Bytes := (Nat.toDigits 10 n).map fun c => c.toNat.toUInt8

def ofDecimal (bs : Bytes) : Nat := Nat.ofDigitChars 10 (bs.map fun b => Char.ofNat b.toNat) 0

theorem toNat_of_mem_toDigits {n : Nat} {c : Char} (h : c ∈ Nat.toDigits 10 n) :
    c.toNat.toUInt8.toNat = c.toNat ∧ 48 ≤ c.toNat ∧ c.toNat ≤ 57 := by
  have hdigit := Nat.isDigit_of_mem_toDigits (by decide) (by decide) h
  rw [Char.isDigit, Bool.and_eq_true, decide_eq_true_eq, decide_eq_true_eq] at hdigit
  have hlo : 48 ≤ c.toNat := UInt32.le_iff_toNat_le.mp hdigit.1
  have hhi : c.toNat ≤ 57 := UInt32.le_iff_toNat_le.mp hdigit.2
  refine ⟨?_, hlo, hhi⟩
  rw [Nat.toUInt8_eq, UInt8.toNat_ofNat']
  omega

theorem digit_of_mem_decimal {n : Nat} {b : UInt8} (h : b ∈ decimal n) :
    48 ≤ b.toNat ∧ b.toNat ≤ 57 := by
  obtain ⟨c, hc, rfl⟩ := List.mem_map.mp h
  obtain ⟨hbyte, hrange⟩ := toNat_of_mem_toDigits hc
  rwa [hbyte]

@[simp] theorem ofDecimal_decimal (n : Nat) : ofDecimal (decimal n) = n := by
  have hchar : ∀ c ∈ Nat.toDigits 10 n,
      ((fun b => Char.ofNat b.toNat) ∘ fun c : Char => c.toNat.toUInt8) c = id c := by
    intro c hc
    change Char.ofNat c.toNat.toUInt8.toNat = c
    rw [(toNat_of_mem_toDigits hc).1, Char.ofNat_toNat]
  rw [ofDecimal, decimal, List.map_map, List.map_congr_left hchar, List.map_id,
    Nat.ofDigitChars_ten_toDigits]

/-! ## Lines -/

/-- The lines, each with CR LF. -/
def unlines (ls : List Bytes) : Bytes := ls.flatMap (· ++ [0x0D, 0x0A])

/-- A line without the CR of its end. -/
def stripCr (l : Bytes) : Bytes := if l.getLast? = some 0x0D then l.dropLast else l

/-- The lines of a text. What follows the last LF is no line. -/
def lines (text : Bytes) : List Bytes := (text.splitOn 0x0A).dropLast.map stripCr

theorem stripCr_concat (l : Bytes) : stripCr (l ++ [0x0D]) = l := by
  simp [stripCr]

theorem lines_unlines {ls : List Bytes} (h : ∀ l ∈ ls, 0x0A ∉ l) : lines (unlines ls) = ls := by
  have hsplit : (unlines ls).splitOn 0x0A = ls.map (· ++ [0x0D]) ++ [[]] := by
    induction ls with
    | nil => rfl
    | cons l ls ih =>
        have hl : (0x0A : UInt8) ∉ l ++ [0x0D] := by
          simpa using h l List.mem_cons_self
        have htext : unlines (l :: ls) = (l ++ [0x0D]) ++ 0x0A :: unlines ls := by
          simp [unlines]
        rw [htext, List.splitOn_append_cons_self_of_not_mem hl,
          ih fun l' hl' => h l' (List.mem_cons_of_mem l hl')]
        rfl
  rw [lines, hsplit, List.dropLast_concat, List.map_map]
  exact (List.map_congr_left fun l _ => stripCr_concat l).trans (List.map_id ls)

theorem mem_unlines {ls : List Bytes} {b : UInt8} (h : b ∈ unlines ls) :
    (∃ l ∈ ls, b ∈ l) ∨ b = 0x0D ∨ b = 0x0A := by
  obtain ⟨l, hl, hb⟩ := List.mem_flatMap.mp h
  rcases List.mem_append.mp hb with hb | hb
  · exact .inl ⟨l, hl, hb⟩
  · exact .inr (by simpa using hb)

theorem not_mem_intercalate {b sep : UInt8} (hsep : b ≠ sep) {words : List Bytes}
    (h : ∀ word ∈ words, b ∉ word) : b ∉ [sep].intercalate words := by
  induction words with
  | nil => exact List.not_mem_nil
  | cons word words ih =>
      have hrest := ih fun w hw => h w (List.mem_cons_of_mem word hw)
      cases words with
      | nil => simpa using h word List.mem_cons_self
      | cons word' words =>
          rw [List.intercalate_cons_cons, List.mem_append, List.mem_append, List.mem_singleton,
            not_or, not_or]
          exact ⟨⟨h word List.mem_cons_self, hsep⟩, hrest⟩

/-! ## Fields -/

/-- What follows the key in a line that starts with it. -/
def field (key l : Bytes) : Option Bytes :=
  if key.isPrefixOf l then some (l.drop key.length) else none

def values (key : Bytes) (ls : List Bytes) : List Bytes := ls.filterMap (field key)

@[simp] theorem field_append (key value : Bytes) : field key (key ++ value) = some value := by
  simp [field]

/-- Neither of the two texts is the start of the other. -/
def Apart (key label : Bytes) : Bool := !key.isPrefixOf label && !label.isPrefixOf key

theorem not_apart_self (key : Bytes) : Apart key key = false := by
  have hself : key.isPrefixOf key = true := List.isPrefixOf_iff_prefix.mpr (List.prefix_refl key)
  simp [Apart, hself]

theorem field_of_apart {key label : Bytes} (h : Apart key label = true) (value : Bytes) :
    field key (label ++ value) = none := by
  rw [Apart, Bool.and_eq_true, Bool.not_eq_true', Bool.not_eq_true'] at h
  have hnot : ¬ key <+: label ++ value := by
    intro hkey
    rcases List.prefix_or_prefix_of_prefix hkey (List.prefix_append label value) with hle | hle
    · rw [List.isPrefixOf_iff_prefix.mpr hle] at h
      cases h.1
    · rw [List.isPrefixOf_iff_prefix.mpr hle] at h
      cases h.2
  rw [field, if_neg]
  rwa [List.isPrefixOf_iff_prefix]

/-- Lines of a label and a value. -/
def labelled (fields : List (String × Bytes)) : List Bytes := fields.map fun f => ascii f.1 ++ f.2

theorem unlines_labelled_length (fields : List (String × Bytes)) :
    (unlines (labelled fields)).length =
      (fields.map fun f => (ascii f.1).length + f.2.length + 2).sum := by
  induction fields with
  | nil => rfl
  | cons f fields ih =>
      have hcons : unlines (labelled (f :: fields)) =
          (ascii f.1 ++ f.2) ++ [0x0D, 0x0A] ++ unlines (labelled fields) := rfl
      rw [hcons, List.length_append, List.length_append, List.length_append, ih, List.map_cons,
        List.sum_cons]
      rfl

/-- The values of a label, if it is told apart from the other ones. -/
theorem values_labelled {key : String} {fields : List (String × Bytes)}
    (h : ∀ label ∈ fields.map Prod.fst, label = key ∨ Apart (ascii key) (ascii label) = true) :
    values (ascii key) (labelled fields) = (fields.filter fun f => f.1 = key).map Prod.snd := by
  induction fields with
  | nil => rfl
  | cons f fields ih =>
      have hrest := ih fun label hlabel => h label (List.mem_cons_of_mem _ hlabel)
      rw [values, labelled] at hrest
      rw [values, labelled, List.map_cons, List.filterMap_cons, hrest]
      by_cases hkey : f.1 = key
      · rw [hkey, field_append, List.filter_cons_of_pos (by simpa using hkey)]
        rfl
      · have happart := (h f.1 List.mem_cons_self).resolve_left hkey
        rw [field_of_apart happart, List.filter_cons_of_neg (by simpa using hkey)]

end Text
