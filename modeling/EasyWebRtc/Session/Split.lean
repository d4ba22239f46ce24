import EasyWebRtc.Session.WebRtcSession

/-!
# `Split` and the username test

`HandlePacket` finds a session by the first part of the username, and
`CheckAuthentication` compares the username with the fragment of that session.
Both read the same bytes. `Split` is the library's `splitOn`, and for a fragment
without a colon the two tests agree.
-/

namespace EasyWebRtc.Session

open Octets Utils Rtc

theorem isPrefixOf_singleton_drop (c : UInt8) (s : Bytes) (i : Nat) :
    ([c].isPrefixOf (s.drop i)) = true ↔ s[i]? = some c := by
  rw [List.isPrefixOf_iff_prefix, List.singleton_prefix_iff_head?_eq_some, List.head?_drop]

theorem find_eq_none {s : Bytes} {c : UInt8} {pos : Nat} (h : find s [c] pos = none) :
    c ∉ s.drop pos := by
  intro hc
  obtain ⟨j, hj, hget⟩ := List.mem_iff_getElem.mp hc
  have hat : s[pos + j]? = some c := by
    rw [← List.getElem?_drop, List.getElem?_eq_getElem hj, hget]
  rw [find, List.find?_range'_eq_none] at h
  rw [List.length_drop] at hj
  have hno := h (pos + j) (by omega) (by omega)
  rw [(isPrefixOf_singleton_drop c s (pos + j)).mpr hat] at hno
  cases hno

theorem find_eq_some {s : Bytes} {c : UInt8} {pos index : Nat} (h : find s [c] pos = some index) :
    pos ≤ index ∧ index < s.length ∧ c ∉ (s.drop pos).take (index - pos) ∧
      s.drop pos = (s.drop pos).take (index - pos) ++ c :: s.drop (index + 1) := by
  rw [find, List.find?_range'_eq_some] at h
  obtain ⟨hcolon, hrange, hfirst⟩ := h
  have hat := (isPrefixOf_singleton_drop c s index).mp hcolon
  obtain ⟨hlen, hget⟩ := List.getElem?_eq_some_iff.mp hat
  have hpos : pos ≤ index := (List.mem_range'_1.mp hrange).1
  refine ⟨hpos, hlen, ?_, ?_⟩
  · intro hc
    obtain ⟨j, hj, hgetj⟩ := List.mem_iff_getElem.mp hc
    rw [List.length_take] at hj
    rw [List.getElem_take, List.getElem_drop] at hgetj
    have hno := hfirst (pos + j) (by omega) (by omega)
    rw [(isPrefixOf_singleton_drop c s (pos + j)).mpr
      (List.getElem?_eq_some_iff.mpr ⟨_, hgetj⟩)] at hno
    cases hno
  · have hrest : (s.drop pos).drop (index - pos) = c :: s.drop (index + 1) := by
      rw [List.drop_drop, Nat.add_sub_cancel' hpos, List.drop_eq_getElem_cons hlen, hget]
    rw [← hrest, List.take_append_drop]

/-- The loop splits what is left of the string. Each turn but the last one moves
behind a delimiter, so that the fuel suffices. -/
theorem splitLoop_eq (s : Bytes) (c : UInt8) {fuel last : Nat} (hlast : last ≤ s.length)
    (hfuel : s.length < last + fuel) :
    splitLoop s [c] fuel last = .ok ((s.drop last).splitOn c) := by
  induction fuel generalizing last with
  | zero => omega
  | succ fuel ih =>
      rw [splitLoop]
      cases hfind : find s [c] last with
      | none =>
          rw [List.splitOn_eq_singleton (find_eq_none hfind)]
          rfl
      | some index =>
          obtain ⟨hpos, hlen, hfree, hrest⟩ := find_eq_some hfind
          have hnext := @ih (index + 1) (by omega) (by omega)
          rw [hrest, List.splitOn_append_cons_self_of_not_mem hfree]
          simp only [List.length_singleton, hnext, ← hrest]
          rfl

theorem split_eq (s : Bytes) (c : UInt8) : split s [c] = .ok (s.splitOn c) := by
  rw [split, splitLoop_eq s c (Nat.zero_le _) (by omega), List.drop_zero]

theorem not_mem_of_mem_splitOn {s part : Bytes} {c : UInt8} (h : part ∈ s.splitOn c) :
    c ∉ part := by
  induction s generalizing part with
  | nil =>
      rw [List.splitOn_nil, List.mem_singleton] at h
      rw [h]
      exact List.not_mem_nil
  | cons x s ih =>
      rw [List.splitOn_cons_eq_if_modifyHead] at h
      split at h
      · rcases List.mem_cons.mp h with rfl | h
        · exact List.not_mem_nil
        · exact ih h
      · rename_i hx
        cases hparts : s.splitOn c with
        | nil => exact (List.splitOn_ne_nil c s hparts).elim
        | cons first rest =>
            rw [hparts, List.modifyHead_cons] at h
            rcases List.mem_cons.mp h with rfl | h
            · rw [List.mem_cons, not_or]
              refine ⟨?_, ih (hparts ▸ List.mem_cons_self)⟩
              rintro rfl
              exact hx (beq_self_eq_true c)
            · exact ih (hparts ▸ List.mem_cons_of_mem first h)

/-- A string begins with a fragment and a delimiter exactly if the fragment is the
first of several parts. -/
theorem prefix_iff_splitOn {s fragment : Bytes} {c : UInt8} (hfree : c ∉ fragment) :
    (fragment ++ [c]) <+: s ↔ 2 ≤ (s.splitOn c).length ∧ (s.splitOn c).head? = some fragment := by
  constructor
  · rintro ⟨rest, rfl⟩
    rw [List.append_assoc, List.singleton_append, List.splitOn_append_cons_self_of_not_mem hfree]
    have hpos := List.length_pos_of_ne_nil (List.splitOn_ne_nil c rest)
    exact ⟨by rw [List.length_cons]; omega, rfl⟩
  · rintro ⟨hlen, hhead⟩
    have hjoin : [c].intercalate (s.splitOn c) = s := List.intercalate_splitOn c
    match hparts : s.splitOn c, hlen with
    | first :: second :: rest, _ =>
        rw [hparts] at hhead hjoin
        cases hhead
        rw [List.intercalate_cons_cons] at hjoin
        exact ⟨_, hjoin⟩

/-- Routing agrees with authentication. `Split` returns for every string, with at
least one part, none of which contains a colon, and the parts joined with colons
are the string. For a fragment without a colon the username test of
`CheckAuthentication` passes exactly if there are two parts and the first one,
by which `HandlePacket` finds the session, is the fragment. -/
theorem split_agrees_with_username_test (username : Bytes) :
    ∃ parts, split username [0x3A] = .ok parts ∧ parts ≠ [] ∧ (∀ part ∈ parts, 0x3A ∉ part) ∧
      [0x3A].intercalate parts = username ∧
      ∀ fragment, 0x3A ∉ fragment →
        (StunPacket.usernameMatches username fragment = true ↔
          2 ≤ parts.length ∧ parts.head? = some fragment) := by
  refine ⟨username.splitOn 0x3A, split_eq username 0x3A, List.splitOn_ne_nil 0x3A username, ?_,
    List.intercalate_splitOn 0x3A, ?_⟩
  · intro part hpart
    exact not_mem_of_mem_splitOn hpart
  · intro fragment hfree
    rw [StunPacket.usernameMatches_iff]
    exact prefix_iff_splitOn hfree

/-- The username `ab:` has an empty second part. -/
theorem split_agrees_with_username_test_trailing :
    ∃ parts, split [97, 98, 0x3A] [0x3A] = .ok parts ∧
      (StunPacket.usernameMatches [97, 98, 0x3A] [97, 98] = true ↔
        2 ≤ parts.length ∧ parts.head? = some [97, 98]) := by
  obtain ⟨parts, hsplit, _, _, _, hagree⟩ := split_agrees_with_username_test [97, 98, 0x3A]
  exact ⟨parts, hsplit, hagree [97, 98] (by decide)⟩

end EasyWebRtc.Session
