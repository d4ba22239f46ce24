import EasyWebRtc.Rtc.StunPacket.Authentication
import EasyWebRtc.Rtc.StunPacket.Fingerprint

/-!
# Damaged packets

`Parse` needs no key to notice damage: a datagram with FINGERPRINT ends with the
CRC-32 of what comes before, and that CRC notices every change of up to four
bytes in a row. Whatever is changed elsewhere has no effect on the argument, and
a change cannot reach both the message and its checksum, which are four bytes
apart.
-/

namespace EasyWebRtc.Rtc.StunPacket

open Octets Utils Tlv

/-- A datagram that ends with the FINGERPRINT of its beginning. -/
def sealed (message : Bytes) : Bytes :=
  message ++ Record.bytes ⟨Attribute.fingerprint.code, be32 (bitwiseFingerprint message), []⟩

def fingerprintHeader : Bytes := be16 Attribute.fingerprint.code ++ be16 4

theorem sealed_eq (message : Bytes) :
    sealed message = message ++ fingerprintHeader ++ be32 (bitwiseFingerprint message) := by
  simp only [sealed, Record.bytes, be32_length, fingerprintHeader, List.append_assoc,
    List.append_nil]
  rfl

theorem fingerprintHeader_length : fingerprintHeader.length = 4 := rfl

theorem sealed_length (message : Bytes) : (sealed message).length = message.length + 8 := by
  rw [sealed_eq, List.length_append, List.length_append, fingerprintHeader_length, be32_length]

theorem sealed_take (message : Bytes) : (sealed message).take message.length = message := by
  rw [sealed_eq, List.append_assoc, List.take_left]

theorem sealed_drop (message : Bytes) :
    (sealed message).drop (message.length + 4) = be32 (bitwiseFingerprint message) := by
  rw [sealed_eq, ← fingerprintHeader_length, ← List.length_append, List.drop_left]

theorem fingerprint_last {rs : List Record} (horder : rs.Pairwise MayPrecede) {r : Record}
    (hmem : r ∈ rs) (htag : r.tag = Attribute.fingerprint.code) : ∃ body, rs = body ++ [r] := by
  obtain ⟨body, tail, rfl⟩ := List.append_of_mem hmem
  cases tail with
  | nil => exact ⟨body, rfl⟩
  | cons next tail =>
      rw [List.pairwise_append, List.pairwise_cons] at horder
      exact ((horder.2.1.1 next List.mem_cons_self).1 htag).elim

/-- An accepted datagram with FINGERPRINT ends with the one of its beginning. -/
theorem sealed_of_parse {data : Bytes} {p : StunPacket}
    (h : parse data data.length = .ok (some p)) (hfingerprint : p.hasFingerprint = true) :
    ∃ message, data = sealed message := by
  rcases parse_cases data (length_le_of_parse h) with ⟨base, rs, hg, hbase, hparse⟩ | ⟨-, hnone⟩
  · have hp : p = withAttributes base rs := Option.some.inj (Except.ok.inj (h.symm.trans hparse))
    obtain ⟨_, _, _, -, -, hheader⟩ := parseHeader_eq_some (length_of_isStun hg.isStun) hbase
    have hsome : (lastAt rs Attribute.fingerprint.code).isSome = true := by
      rw [hp, withAttributes, hheader] at hfingerprint
      simpa using hfingerprint
    obtain ⟨r, hmem, htag⟩ := (lastAt_isSome_iff rs _).mp hsome
    obtain ⟨body, rfl⟩ := fingerprint_last hg.order hmem htag
    have hlast : lastAt (body ++ [r]) Attribute.fingerprint.code =
        some ((body.flatMap Record.bytes).length, r) := by
      rw [lastAt_concat, if_pos htag]
    have hlength : r.value.length = 4 := (hg.lengths r hmem).2.2.2.2.2.1 htag
    have hpadding : r.padding = [] := by
      apply List.eq_nil_of_length_eq_zero
      rw [(hg.valid r hmem).padding_length, hlength]
      rfl
    have hvalue := hg.fingerprint _ r hlast
    rw [crc32_xor_eq] at hvalue
    have hsplit := hg.split
    rw [List.flatMap_append, List.flatMap_singleton] at hsplit
    have htake : data.take (20 + (body.flatMap Record.bytes).length) =
        data.take 20 ++ body.flatMap Record.bytes := by
      rw [List.take_add, hsplit, List.take_left]
    refine ⟨data.take (20 + (body.flatMap Record.bytes).length), ?_⟩
    have hrecord : (⟨Attribute.fingerprint.code, be32 (bitwiseFingerprint
        (data.take (20 + (body.flatMap Record.bytes).length))), []⟩ : Record) = r := by
      rw [← hvalue, be32_read32 hlength, ← htag, ← hpadding]
    rw [sealed, hrecord, htake, List.append_assoc, ← hsplit, List.take_append_drop]
  · rw [h] at hnone
    cases hnone

theorem sealed_burst {before burst burst' after message message' : Bytes}
    (hlen : burst.length = burst'.length) (hshort : burst.length ≤ 4)
    (h : before ++ burst ++ after = sealed message)
    (h' : before ++ burst' ++ after = sealed message') : message = message' := by
  have hsize := congrArg List.length h
  have hsize' := congrArg List.length h'
  simp only [sealed_length, List.length_append] at hsize hsize'
  have hlength : message'.length = message.length := by omega
  have hmessage := sealed_take message
  have hmessage' := sealed_take message'
  have hvalue := sealed_drop message
  have hvalue' := sealed_drop message'
  rw [← h] at hmessage hvalue
  rw [← h', hlength] at hmessage' hvalue'
  by_cases hinside : before.length ≤ message.length
  · -- The change does not reach the values, so that the checksums are the same.
    have hend : ∀ {b : Bytes}, b.length = burst.length →
        (before ++ b ++ after).drop (message.length + 4) =
          after.drop (message.length + 4 - (before.length + burst.length)) := by
      intro b hb
      rw [List.drop_append, List.drop_of_length_le (by rw [List.length_append]; omega),
        List.length_append, hb, List.nil_append]
    have hfingerprint : bitwiseFingerprint message = bitwiseFingerprint message' := by
      rw [hend rfl] at hvalue
      rw [hend hlen.symm] at hvalue'
      rw [← read32_be32 (bitwiseFingerprint message), ← hvalue, hvalue', read32_be32]
    have hcrc : Crypto.bitwiseCrc32 message = Crypto.bitwiseCrc32 message' :=
      (UInt32.xor_left_inj _).mp hfingerprint
    have hbegin : ∀ {b : Bytes}, b.length = burst.length →
        (before ++ b ++ after).take message.length =
          before ++ b.take (message.length - before.length) ++
            after.take (message.length - (before.length + burst.length)) := by
      intro b hb
      rw [List.take_append, List.take_append, List.take_of_length_le hinside, List.length_append, hb]
    rw [hbegin rfl] at hmessage
    rw [hbegin hlen.symm] at hmessage'
    rw [← hmessage, ← hmessage'] at hcrc ⊢
    rw [Crypto.bitwiseCrc32_burst (by simp [hlen]) (by rw [List.length_take]; omega) hcrc]
  · have hbefore : ∀ b : Bytes, (before ++ b ++ after).take message.length =
        before.take message.length := by
      intro b
      rw [List.append_assoc, List.take_append_of_le_length (by omega)]
    rw [← hmessage, ← hmessage', hbefore, hbefore]

/-- `Parse` notices damage. Of the datagrams that differ only in up to four bytes in
a row, wherever these lie, it accepts at most one with a FINGERPRINT. -/
theorem burst_detected {before burst burst' after : Bytes} (hlen : burst.length = burst'.length)
    (hshort : burst.length ≤ 4) {p p' : StunPacket}
    (h : parse (before ++ burst ++ after) (before ++ burst ++ after).length = .ok (some p))
    (h' : parse (before ++ burst' ++ after) (before ++ burst' ++ after).length = .ok (some p'))
    (hfingerprint : p.hasFingerprint = true) (hfingerprint' : p'.hasFingerprint = true) :
    burst = burst' := by
  obtain ⟨message, hmessage⟩ := sealed_of_parse h hfingerprint
  obtain ⟨message', hmessage'⟩ := sealed_of_parse h' hfingerprint'
  have hsame := sealed_burst hlen hshort hmessage hmessage'
  have hdata : before ++ burst ++ after = before ++ burst' ++ after := by
    rw [hmessage, hmessage', hsame]
  exact List.append_cancel_left (List.append_cancel_right hdata)

def indication (part : Bytes) : Bytes :=
  [0x00, 0x11, 0x00, 0x08, 0x21, 0x12, 0xA4, 0x42] ++ part ++
    [4, 5, 6, 7, 8, 9, 10, 11, 0x80, 0x28, 0x00, 0x04, 0x48, 0x4D, 0xCD, 0xF6]

theorem burst_detected_indication :
    ∃ p, parse (indication [0, 1, 2, 3]) 28 = .ok (some p) ∧ p.hasFingerprint = true ∧
      ∀ part p', part.length = 4 →
        parse (indication part) (indication part).length = .ok (some p') →
        p'.hasFingerprint = true → [0, 1, 2, 3] = part := by
  have hparse : parse (indication [0, 1, 2, 3]) 28 = .ok (some {
      klass := .indication
      method := Method.binding
      transactionId := ⟨[0, 1, 2, 3, 4, 5, 6, 7, 8, 9, 10, 11], rfl⟩
      data := indication [0, 1, 2, 3]
      size := 28
      hasFingerprint := true }) := by
    decide +kernel
  refine ⟨_, hparse, rfl, ?_⟩
  intro part p' hlen h' hfingerprint'
  exact burst_detected hlen.symm (by decide) hparse h' rfl hfingerprint'

end EasyWebRtc.Rtc.StunPacket
