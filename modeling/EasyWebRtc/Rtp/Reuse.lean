import EasyWebRtc.Rtp.RtpPacket

/-!
# One packet object for many datagrams

What a sequence of `Parse` calls leaves in an object. `Parse` has no `return` on
its successful path, and `Clear` resets the fields but not the buffer: after a
failed call the bytes of the last accepted packet are still there.
-/

namespace EasyWebRtc.Rtp.RtpPacket

open Octets Guarded

/-- One call of `Parse` on the object: its input, its value and the object
afterwards. -/
structure ParseCall where
  input : Bytes
  result : Option Bool
  packet : RtpPacket

def calls : RtpPacket → List Bytes → Guarded (List ParseCall)
  | _, [] => return []
  | p, data :: inputs => do
      let (result, p) ← parse p data data.length
      let later ← calls p inputs
      return ⟨data, result, p⟩ :: later

/-- The bytes that `has_padding()` and `payload()` show. -/
def visible (p : RtpPacket) : Bytes := p.buffer.take 1 ++ p.payload

namespace ParseCall

/-- What a call owes its caller, its value apart. -/
structure StateCorrect (c : ParseCall) : Prop where
  success : Accepts c.input →
    c.packet.buffer = c.input ∧ c.packet.size = c.packet.buffer.length
  failure : ¬ Accepts c.input → c.packet = c.packet.clear ∧ c.packet.visible = []
  bound : c.packet.payloadSize ≠ 0 ∨ c.packet.paddingSize ≠ 0 →
    c.packet.size ≤ c.packet.buffer.length

/-- It returns true exactly if the input is accepted. -/
structure Correct (c : ParseCall) : Prop extends StateCorrect c where
  result : c.result = some true ↔ Accepts c.input
  returns : c.result ≠ none

end ParseCall

/-! ## One call -/

theorem parse_of_accepts (p : RtpPacket) {data : Bytes} (h : Accepts data) :
    ∃ p', parse p data data.length = .ok (none, p') ∧ p'.buffer = data ∧
      p'.size = data.length := by
  obtain ⟨ok, p', heq, _, hiff, hpost⟩ := parseBuffer_yields p data
  have hok : ok = true := hiff.mpr h
  subst hok
  have hparse : parse p data data.length = .ok (none, { p' with buffer := data }) := by
    rw [parse, heq]
    simp [takeBytes_length]
  exact ⟨_, hparse, rfl, (hpost rfl).partition⟩

/-- `Clear` undoes what a failed parse has written, so that only the buffer of
the object before is left. -/
theorem parse_of_not_accepts (p : RtpPacket) {data : Bytes} (h : ¬ Accepts data) :
    parse p data data.length = .ok (some false, p.clear) := by
  obtain ⟨ok, p', heq, hbuffer, hiff, _⟩ := parseBuffer_yields p data
  have hok : ok = false := by
    cases ok with
    | false => rfl
    | true => exact absurd (hiff.mp rfl) h
  subst hok
  have hclear : p'.clear = p.clear := by
    rw [clear, clear, hbuffer]
  rw [parse, heq]
  simp [hclear]

theorem ne_nil_of_accepts {data : Bytes} (h : Accepts data) : data ≠ [] := by
  intro hnil
  have hlen := h.fixedHeader
  rw [hnil] at hlen
  exact absurd hlen (by decide)

theorem visible_clear_eq_nil {p : RtpPacket} : p.clear.visible = [] ↔ p.buffer = [] := by
  constructor
  · intro h
    have htake : p.buffer.take 1 = [] := (List.append_eq_nil_iff.mp h).1
    cases hbuffer : p.buffer with
    | nil => rfl
    | cons b rest =>
        rw [hbuffer] at htake
        cases htake
  · intro h
    simp [visible, payload, clear, h]

theorem stateCorrect_of_accepts {data : Bytes} (result : Option Bool) {p : RtpPacket}
    (h : Accepts data) (hbuffer : p.buffer = data) (hsize : p.size = data.length) :
    (ParseCall.mk data result p).StateCorrect where
  success := fun _ => ⟨hbuffer, by rw [hsize, hbuffer]⟩
  failure := fun hnot => absurd h hnot
  bound := fun _ => by rw [hsize, hbuffer]

theorem stateCorrect_of_not_accepts {data : Bytes} (result : Option Bool) (p : RtpPacket)
    (h : ¬ Accepts data) :
    (ParseCall.mk data result p.clear).StateCorrect ↔ p.buffer = [] := by
  constructor
  · intro hcorrect
    exact visible_clear_eq_nil.mp (hcorrect.failure h).2
  · intro hbuffer
    refine ⟨fun hacc => absurd hacc h, fun _ => ⟨rfl, visible_clear_eq_nil.mpr hbuffer⟩, ?_⟩
    rintro (hpayload | hpadding)
    · exact absurd rfl hpayload
    · exact absurd rfl hpadding

/-! ## Whole sequences -/

theorem calls_total (p : RtpPacket) (inputs : List Bytes) : ∃ cs, calls p inputs = .ok cs := by
  induction inputs generalizing p with
  | nil => exact ⟨[], rfl⟩
  | cons data inputs ih =>
      by_cases h : Accepts data
      · obtain ⟨p', hparse, _, _⟩ := parse_of_accepts p h
        obtain ⟨cs, hcs⟩ := ih p'
        refine ⟨⟨data, none, p'⟩ :: cs, ?_⟩
        simp only [calls, hparse, hcs, ok_bind, pure_eq_ok]
      · obtain ⟨cs, hcs⟩ := ih p.clear
        refine ⟨⟨data, some false, p.clear⟩ :: cs, ?_⟩
        simp only [calls, parse_of_not_accepts p h, hcs, ok_bind, pure_eq_ok]

theorem calls_cons {p : RtpPacket} {data : Bytes} {inputs : List Bytes} {cs : List ParseCall}
    (hcs : calls p (data :: inputs) = .ok cs) :
    ∃ result p' later, cs = ⟨data, result, p'⟩ :: later ∧ calls p' inputs = .ok later ∧
      (Accepts data ∧ result = none ∧ p'.buffer = data ∧ p'.size = data.length ∨
        ¬ Accepts data ∧ result = some false ∧ p' = p.clear) := by
  by_cases h : Accepts data
  · obtain ⟨p', hparse, hbuffer, hsize⟩ := parse_of_accepts p h
    rw [calls, hparse, ok_bind] at hcs
    obtain ⟨later, hlater, hcs⟩ := bind_eq_ok.mp hcs
    cases hcs
    exact ⟨none, p', later, rfl, hlater, .inl ⟨h, rfl, hbuffer, hsize⟩⟩
  · rw [calls, parse_of_not_accepts p h, ok_bind] at hcs
    obtain ⟨later, hlater, hcs⟩ := bind_eq_ok.mp hcs
    cases hcs
    exact ⟨some false, p.clear, later, rfl, hlater, .inr ⟨h, rfl, rfl⟩⟩

/-- From an object that holds a packet, the states are right as long as every
input is accepted. -/
theorem stateCorrect_iff_of_used {p : RtpPacket} (hused : p.buffer ≠ []) {inputs : List Bytes}
    {cs : List ParseCall} (hcs : calls p inputs = .ok cs) :
    (∀ c ∈ cs, c.StateCorrect) ↔ ∀ data ∈ inputs, Accepts data := by
  induction inputs generalizing p cs with
  | nil =>
      cases hcs
      simp
  | cons data inputs ih =>
      obtain ⟨result, p', later, rfl, hlater, hcall⟩ := calls_cons hcs
      rw [List.forall_mem_cons, List.forall_mem_cons]
      rcases hcall with ⟨h, _, hbuffer, hsize⟩ | ⟨h, _, rfl⟩
      · have hrest := ih (by rw [hbuffer]; exact ne_nil_of_accepts h) hlater
        rw [hrest, and_iff_right (stateCorrect_of_accepts result h hbuffer hsize),
          and_iff_right h]
      · constructor
        · intro hall
          exact absurd ((stateCorrect_of_not_accepts result p h).mp hall.1) hused
        · intro hall
          exact absurd hall.1 h

/-- From a fresh object they are right as long as no rejected input follows an
accepted one. -/
theorem stateCorrect_iff_of_fresh {p : RtpPacket} (hfresh : p.buffer = []) {inputs : List Bytes}
    {cs : List ParseCall} (hcs : calls p inputs = .ok cs) :
    (∀ c ∈ cs, c.StateCorrect) ↔ inputs.Pairwise fun a b => Accepts a → Accepts b := by
  induction inputs generalizing p cs with
  | nil =>
      cases hcs
      simp
  | cons data inputs ih =>
      obtain ⟨result, p', later, rfl, hlater, hcall⟩ := calls_cons hcs
      rw [List.forall_mem_cons, List.pairwise_cons]
      rcases hcall with ⟨h, _, hbuffer, hsize⟩ | ⟨h, _, rfl⟩
      · have hused : p'.buffer ≠ [] := by
          rw [hbuffer]
          exact ne_nil_of_accepts h
        rw [and_iff_right (stateCorrect_of_accepts result h hbuffer hsize),
          stateCorrect_iff_of_used hused hlater]
        constructor
        · intro hall
          refine ⟨fun b hb _ => hall b hb, ?_⟩
          exact List.pairwise_of_forall_mem_list fun _ _ b hb _ => hall b hb
        · intro hpair b hb
          exact hpair.1 b hb h
      · have hclear : p.clear.buffer = [] := hfresh
        rw [and_iff_right ((stateCorrect_of_not_accepts result p h).mpr hfresh), ih hclear hlater]
        exact (and_iff_right fun _ _ hacc => absurd hacc h).symm

theorem result_of_mem {p : RtpPacket} {inputs : List Bytes} {cs : List ParseCall}
    (hcs : calls p inputs = .ok cs) {c : ParseCall} (hc : c ∈ cs) :
    c.input ∈ inputs ∧ (Accepts c.input ∧ c.result = none ∨
      ¬ Accepts c.input ∧ c.result = some false) := by
  induction inputs generalizing p cs with
  | nil =>
      cases hcs
      cases hc
  | cons data inputs ih =>
      obtain ⟨result, p', later, rfl, hlater, hcall⟩ := calls_cons hcs
      rcases List.mem_cons.mp hc with rfl | hc
      · refine ⟨List.mem_cons_self, ?_⟩
        rcases hcall with ⟨h, hresult, _⟩ | ⟨h, hresult, _⟩
        · exact .inl ⟨h, hresult⟩
        · exact .inr ⟨h, hresult⟩
      · obtain ⟨hmem, hresult⟩ := ih hlater hc
        exact ⟨List.mem_cons_of_mem _ hmem, hresult⟩

theorem exists_call {p : RtpPacket} {inputs : List Bytes} {cs : List ParseCall}
    (hcs : calls p inputs = .ok cs) {data : Bytes} (hdata : data ∈ inputs) :
    ∃ c ∈ cs, c.input = data := by
  induction inputs generalizing p cs with
  | nil => cases hdata
  | cons first inputs ih =>
      obtain ⟨result, p', later, rfl, hlater, _⟩ := calls_cons hcs
      rcases List.mem_cons.mp hdata with rfl | hdata
      · exact ⟨_, List.mem_cons_self, rfl⟩
      · obtain ⟨c, hc, hinput⟩ := ih hlater hdata
        exact ⟨c, List.mem_cons_of_mem _ hc, hinput⟩

/-- All calls are correct exactly if none of them succeeds. Apart from the value
that is never returned they are, exactly if no rejected input follows an accepted
one. -/
theorem reuse_correct_iff {p : RtpPacket} (hfresh : p.buffer = []) (inputs : List Bytes) :
    ∃ cs, calls p inputs = .ok cs ∧
      ((∀ c ∈ cs, c.Correct) ↔ ∀ data ∈ inputs, ¬ Accepts data) ∧
      ((∀ c ∈ cs, c.StateCorrect) ↔ inputs.Pairwise fun a b => Accepts a → Accepts b) := by
  obtain ⟨cs, hcs⟩ := calls_total p inputs
  have hstate := stateCorrect_iff_of_fresh hfresh hcs
  refine ⟨cs, hcs, ?_, hstate⟩
  constructor
  · intro hall data hdata hacc
    obtain ⟨c, hc, rfl⟩ := exists_call hcs hdata
    rcases (result_of_mem hcs hc).2 with ⟨_, hnone⟩ | ⟨hnot, _⟩
    · exact (hall c hc).returns hnone
    · exact hnot hacc
  · intro hnone c hc
    have hpair : inputs.Pairwise fun a b => Accepts a → Accepts b :=
      List.pairwise_of_forall_mem_list fun a ha _ _ hacc => absurd hacc (hnone a ha)
    obtain ⟨hmem, hresult⟩ := result_of_mem hcs hc
    have hnot := hnone c.input hmem
    rcases hresult with ⟨hacc, _⟩ | ⟨_, hfalse⟩
    · exact absurd hacc hnot
    · refine ⟨hstate.mpr hpair c hc, ?_, ?_⟩
      · rw [hfalse]
        constructor
        · intro h
          cases h
        · intro hacc
          exact absurd hacc hnot
      · rw [hfalse]
        intro h
        cases h

/-- A packet object as a constructor may leave it. -/
def freshPacket : RtpPacket where
  marker := false
  payloadType := 0
  paddingSize := 0
  sequenceNumber := 0
  timestamp := 0
  ssrc := 0
  payloadOffset := 0
  payloadSize := 0
  buffer := []

theorem not_accepts_short {data : Bytes} (h : data.length < 12) : ¬ Accepts data :=
  fun hacc => absurd hacc.fixedHeader (Nat.not_le.mpr h)

/-- A packet of one payload byte and one padding byte. -/
def paddedPacket : Bytes := [0xA0, 96, 0, 1, 0, 0, 0, 0, 0, 0, 0, 1, 0x65, 1]

/-- Two rejected inputs; and a rejected one before the same packet twice. -/
theorem reuse_correct_iff_samples :
    freshPacket.buffer = [] ∧
    (∃ cs, calls freshPacket [[], [0x80]] = .ok cs ∧ ∀ c ∈ cs, c.Correct) ∧
    (∃ cs, calls freshPacket [[0x80], paddedPacket, paddedPacket] = .ok cs ∧
      cs.map (·.result) = [some false, none, none] ∧ (∀ c ∈ cs, c.StateCorrect) ∧
      ¬ ∀ c ∈ cs, c.Correct) := by
  have hfresh : freshPacket.buffer = [] := rfl
  refine ⟨hfresh, ?_, ?_⟩
  · obtain ⟨cs, hcs, hcorrect, _⟩ := reuse_correct_iff hfresh [[], [0x80]]
    refine ⟨cs, hcs, hcorrect.mpr ?_⟩
    intro data hdata
    rcases List.mem_cons.mp hdata with rfl | hdata
    · exact not_accepts_short (by decide)
    · rw [List.mem_singleton.mp hdata]
      exact not_accepts_short (by decide)
  · obtain ⟨cs, hcs, _, hstate⟩ := reuse_correct_iff hfresh [[0x80], paddedPacket, paddedPacket]
    have hresults : cs.map (·.result) = [some false, none, none] := by
      have heval : (calls freshPacket [[0x80], paddedPacket, paddedPacket]).map
          (fun cs => cs.map (·.result)) = .ok [some false, none, none] := rfl
      rw [hcs] at heval
      exact Except.ok.inj heval
    refine ⟨cs, hcs, hresults, hstate.mpr ?_, ?_⟩
    · refine .cons ?_ (.cons ?_ (.cons (by simp) .nil))
      · exact fun _ _ hacc => absurd hacc (not_accepts_short (by decide))
      · intro data hdata hacc
        rwa [List.mem_singleton.mp hdata]
    · intro hall
      have hmem : (none : Option Bool) ∈ cs.map (·.result) := by
        rw [hresults]
        decide
      obtain ⟨c, hc, hnone⟩ := List.mem_map.mp hmem
      exact (hall c hc).returns hnone

/-- The accepted packet gets no value, and after the rejected one its padding bit
still shows. -/
theorem reuse_shows_earlier_packet :
    ∃ first second, calls freshPacket [paddedPacket, []] = .ok [first, second] ∧
      first.result = none ∧ ¬ first.Correct ∧
      second.result = some false ∧ second.packet.hasPadding = .ok true ∧ ¬ second.StateCorrect := by
  refine ⟨_, _, rfl, rfl, ?_, rfl, rfl, ?_⟩
  · intro h
    exact h.returns rfl
  · intro h
    exact absurd (h.failure (not_accepts_short (by decide))).2 (by decide)

end EasyWebRtc.Rtp.RtpPacket
