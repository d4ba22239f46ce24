import EasyWebRtc.Rtc.StunPacket.RoundTrip

/-!
# When the attribute loop of `Parse` ends

The position is kept in 16 bits and the length is not. A message of 65536 to
65552 bytes passes the header check, and once its attributes reach byte 65536
the position falls back into the header. Everywhere else each turn that does
not reject moves forward, and the loop ends.
-/

namespace EasyWebRtc.Rtc.StunPacket

open Octets Utils Tlv

/-- Each turn of the attribute loop that does not reject increases the
position. -/
def Advances (data : Bytes) : Prop :=
  ∀ base st st', isStun data data.length = .ok true →
    parseHeader data data.length = .ok (some base) →
    LoopReaches data data.length { pos := 20, packet := base } st →
    st.pos + 4 ≤ data.length → parseAttribute data data.length st = .ok (some st') →
    st.pos < st'.pos

def Terminates (data : Bytes) : Prop :=
  Advances data ∧ ∃ result, parse data data.length = .ok result

/-- Records at the begin of the attributes, none of which the loop rejects. -/
structure AcceptedStart (data : Bytes) (rs : List Record) : Prop where
  valid : ∀ r ∈ rs, r.Valid 4
  wellFormed : WellFormed rs
  starts : rs.flatMap Record.bytes <+: data.drop 20

/-- The header is accepted and the attributes `rs` reach byte 65536. -/
structure WrapsAround (data : Bytes) (rs : List Record) : Prop extends AcceptedStart data rs where
  isStun : StunPacket.isStun data data.length = .ok true
  lengthField : LengthFieldOk data
  reaches : 65536 ≤ 20 + (rs.flatMap Record.bytes).length

/-! ## One turn -/

section

variable {data : Bytes} {rs : List Record} {r : Record} (base : StunPacket)

theorem stateAfter_pos : (stateAfter base rs).pos = 20 + (rs.flatMap Record.bytes).length := rfl

theorem stateAfter_pos_concat :
    (stateAfter base (rs ++ [r])).pos = (stateAfter base rs).pos + r.bytes.length := by
  simp only [stateAfter_pos, List.flatMap_append, List.flatMap_singleton, List.length_append]
  omega

theorem stateAfter_pos_dvd (h : AcceptedStart data rs) : 4 ∣ (stateAfter base rs).pos := by
  have hdvd := flatMap_bytes_length_dvd h.valid
  rw [stateAfter_pos]
  omega

theorem AcceptedStart.length_le (h : AcceptedStart data rs) (h20 : 20 ≤ data.length) :
    20 + (rs.flatMap Record.bytes).length ≤ data.length := by
  have hle := h.starts.length_le
  rw [List.length_drop] at hle
  omega

theorem AcceptedStart.nil (data : Bytes) : AcceptedStart data [] where
  valid := by simp
  wellFormed := by simp [WellFormed]
  starts := List.nil_prefix

theorem AcceptedStart.of_concat (h : AcceptedStart data (rs ++ [r])) : AcceptedStart data rs where
  valid := fun a ha => h.valid a (List.mem_append_left _ ha)
  wellFormed := ((wellFormed_concat rs r).mp h.wellFormed).1
  starts := by
    have hstarts := h.starts
    rw [List.flatMap_append] at hstarts
    exact (List.prefix_append _ _).trans hstarts

theorem acceptRecord_stateAfter (h : WellFormed rs) :
    acceptRecord (stateAfter base rs) r =
      if WellFormed (rs ++ [r]) then some (stateAfter base (rs ++ [r])) else none := by
  have hfold := foldlM_acceptRecord base (rs ++ [r])
  rw [List.foldlM_append, foldlM_acceptRecord, if_pos h] at hfold
  simpa using hfold

/-- The position after a turn is what 16 bits hold of the end of the record. -/
def wrapped (st : ParseState) : ParseState := { st with pos := st.pos % 65536 }

theorem wrapped_of_le {st : ParseState} (h : st.pos ≤ 65535) : wrapped st = st := by
  rw [wrapped, Nat.mod_eq_of_lt (by omega)]

theorem parseAttribute_stateAfter {rest : Bytes} (h : AcceptedStart data rs) (hv : r.Valid 4)
    (hd : data.drop (stateAfter base rs).pos = r.bytes ++ rest) :
    parseAttribute data data.length (stateAfter base rs) =
      .ok (if WellFormed (rs ++ [r]) then some (wrapped (stateAfter base (rs ++ [r]))) else none) := by
  rw [parseAttribute_record hv hd (stateAfter_pos_dvd base h),
    acceptRecord_stateAfter base h.wellFormed]
  by_cases hw : WellFormed (rs ++ [r])
  · rw [if_pos hw, if_pos hw, Option.map_some, wrapped, stateAfter_pos_concat]
  · rw [if_neg hw, if_neg hw, Option.map_none]

theorem parseAttribute_next (h : AcceptedStart data (rs ++ [r])) :
    parseAttribute data data.length (stateAfter base rs) =
      .ok (some (wrapped (stateAfter base (rs ++ [r])))) := by
  obtain ⟨rest, hrest⟩ := h.starts
  have hd : data.drop (stateAfter base rs).pos = r.bytes ++ rest := by
    rw [stateAfter_pos, ← List.drop_drop, ← hrest, List.flatMap_append, List.flatMap_singleton,
      List.append_assoc, List.drop_left]
  have hv : r.Valid 4 := h.valid r (List.mem_append_right _ (List.mem_singleton_self r))
  rw [parseAttribute_stateAfter base h.of_concat hv hd, if_pos h.wellFormed]

theorem parseAttribute_cases (h : AcceptedStart data rs) (hdvd : 4 ∣ data.length)
    (hroom : (stateAfter base rs).pos + 4 ≤ data.length) :
    parseAttribute data data.length (stateAfter base rs) = .ok none ∨
      ∃ r, AcceptedStart data (rs ++ [r]) := by
  cases hs : splitOne 4 (data.drop (stateAfter base rs).pos) with
  | none =>
      left
      exact parseAttribute_of_no_record hs (stateAfter_pos_dvd base h) hdvd hroom
  | some pair =>
      rcases pair with ⟨r, rest⟩
      obtain ⟨hv, hd⟩ := splitOne_sound hs
      by_cases hw : WellFormed (rs ++ [r])
      · right
        refine ⟨r, ?_, hw, ?_⟩
        · intro a ha
          rcases List.mem_append.mp ha with ha | ha
          · exact h.valid a ha
          · rw [List.mem_singleton.mp ha]
            exact hv
        · obtain ⟨tail, htail⟩ := h.starts
          have hcut : tail = r.bytes ++ rest := by
            rw [← hd, stateAfter_pos, ← List.drop_drop, ← htail, List.drop_left]
          refine ⟨rest, ?_⟩
          rw [← htail, hcut, List.flatMap_append, List.flatMap_singleton, List.append_assoc]
      · left
        rw [parseAttribute_stateAfter base h hv hd, if_neg hw]

end

/-! ## Messages that wrap around -/

section

variable {data : Bytes} {rs : List Record} (base : StunPacket)

/-- Up to byte 65535 the loop comes to the end of every record of a start. -/
theorem loopReaches_stateAfter (h : AcceptedStart data rs) (h20 : 20 ≤ data.length)
    (hle : (stateAfter base rs).pos ≤ 65535) :
    LoopReaches data data.length { pos := 20, packet := base } (stateAfter base rs) := by
  induction rs using List.reverseRecOn with
  | nil =>
      rw [stateAfter_nil]
      exact .start
  | append_singleton rs r ih =>
      have hb := Record.bytes_length r
      have hend := h.length_le h20
      rw [← stateAfter_pos base, stateAfter_pos_concat] at hend
      rw [stateAfter_pos_concat] at hle
      have hbefore := ih h.of_concat (by omega)
      have hturn := parseAttribute_next base h
      rw [wrapped_of_le (by rw [stateAfter_pos_concat]; exact hle)] at hturn
      exact .turn hbefore (by omega) hturn

theorem exists_crossing (h : AcceptedStart data rs) (hreach : 65536 ≤ (stateAfter base rs).pos) :
    ∃ ys r, AcceptedStart data (ys ++ [r]) ∧ (stateAfter base ys).pos ≤ 65535 ∧
      65536 ≤ (stateAfter base (ys ++ [r])).pos := by
  induction rs using List.reverseRecOn with
  | nil => simp [stateAfter_pos] at hreach
  | append_singleton rs r ih =>
      by_cases hcross : 65536 ≤ (stateAfter base rs).pos
      · exact ih h.of_concat hcross
      · exact ⟨rs, r, h, by omega, hreach⟩

theorem not_advances_of_wrapsAround (h : WrapsAround data rs) : ¬ Advances data := by
  intro hadvances
  have h20 := length_of_isStun h.isStun
  obtain ⟨msgLength, hget, hsize, hdvd⟩ := h.lengthField
  obtain ⟨base, hbase⟩ := parseHeader_of_lengthField h20 h.lengthField
  obtain ⟨ys, r, hstart, hbelow, habove⟩ := exists_crossing base h.toAcceptedStart h.reaches
  have hend := hstart.length_le h20
  rw [← stateAfter_pos base] at hend
  have hb := Record.bytes_length r
  have hconcat : (stateAfter base (ys ++ [r])).pos = (stateAfter base ys).pos + r.bytes.length :=
    stateAfter_pos_concat base
  have hmax := msgLength.toNat_lt
  have hreach := loopReaches_stateAfter base hstart.of_concat h20 hbelow
  have hgrows := hadvances base _ _ h.isStun hbase hreach (by omega) (parseAttribute_next base hstart)
  -- The message ends at byte 65552 at the latest, so the position is below 20 now.
  have hstay : 20 ≤ (stateAfter base ys).pos := Nat.le_add_right 20 _
  simp only [wrapped] at hgrows
  omega

end

/-! ## All other messages -/

section

variable {data : Bytes} {base : StunPacket} (hdvd : 4 ∣ data.length)
  (hbelow : ∀ rs, AcceptedStart data rs → (stateAfter base rs).pos ≤ 65535)

include hdvd hbelow

theorem loopReaches_start {st : ParseState}
    (h : LoopReaches data data.length { pos := 20, packet := base } st) :
    ∃ rs, AcceptedStart data rs ∧ st = stateAfter base rs := by
  induction h with
  | start => exact ⟨[], .nil data, (stateAfter_nil base).symm⟩
  | turn before room body ih =>
      obtain ⟨rs, hstart, rfl⟩ := ih
      rcases parseAttribute_cases base hstart hdvd room with hreject | ⟨r, hnext⟩
      · rw [hreject] at body
        cases body
      · rw [parseAttribute_next base hnext, wrapped_of_le (hbelow _ hnext)] at body
        exact ⟨rs ++ [r], hnext, (Option.some.inj (Except.ok.inj body)).symm⟩

theorem parseLoop_returns (fuel : Nat) {rs : List Record} (h : AcceptedStart data rs)
    (hfuel : data.length ≤ (stateAfter base rs).pos + fuel) :
    ∃ result, parseLoop data data.length fuel (stateAfter base rs) = .ok result := by
  induction fuel generalizing rs with
  | zero =>
      have hend : ¬ (stateAfter base rs).pos + 4 ≤ data.length := by omega
      exact ⟨_, if_neg hend⟩
  | succ fuel ih =>
      by_cases hroom : (stateAfter base rs).pos + 4 ≤ data.length
      · rcases parseAttribute_cases base h hdvd hroom with hreject | ⟨r, hnext⟩
        · exact ⟨none, by simp [parseLoop, hroom, hreject]⟩
        · have hturn := parseAttribute_next base hnext
          rw [wrapped_of_le (hbelow _ hnext)] at hturn
          have hb := Record.bytes_length r
          have hpos : (stateAfter base (rs ++ [r])).pos =
              (stateAfter base rs).pos + r.bytes.length := stateAfter_pos_concat base
          obtain ⟨result, hresult⟩ := ih hnext (by omega)
          exact ⟨result, by simp [parseLoop, hroom, hturn, hresult]⟩
      · exact ⟨_, if_neg hroom⟩

end

theorem parse_returns {data : Bytes} {base : StunPacket}
    (hstun : isStun data data.length = .ok true)
    (hbase : parseHeader data data.length = .ok (some base))
    (hloop : ∃ result, parseLoop data data.length data.length { pos := 20, packet := base } =
      .ok result) :
    ∃ result, parse data data.length = .ok result := by
  by_cases hlen : data.length ≤ 65535
  · rcases parse_cases data hlen with ⟨_, _, _, _, hparse⟩ | ⟨_, hparse⟩
    · exact ⟨_, hparse⟩
    · exact ⟨_, hparse⟩
  · obtain ⟨result, hresult⟩ := hloop
    refine ⟨none, ?_⟩
    cases result with
    | none => simp [parse, hstun, hbase, hresult]
    | some st =>
        -- The loop is left with a position of 16 bits, which is not the length.
        have hpos := parseLoop_pos hresult (show 20 < 65536 by decide)
        have hend : st.pos ≠ data.length := by omega
        simp [parse, hstun, hbase, hresult, parseEnd, hend]

theorem advances_of_below {data : Bytes} (hdvd : 4 ∣ data.length)
    (hbelow : ∀ (base : StunPacket) rs, AcceptedStart data rs → (stateAfter base rs).pos ≤ 65535) :
    Advances data := by
  intro base st st' _ _ hreach hroom hbody
  obtain ⟨rs, hstart, rfl⟩ := loopReaches_start hdvd (hbelow base) hreach
  rcases parseAttribute_cases base hstart hdvd hroom with hreject | ⟨r, hnext⟩
  · rw [hreject] at hbody
    cases hbody
  · rw [parseAttribute_next base hnext, wrapped_of_le (hbelow base _ hnext)] at hbody
    cases hbody
    have hb := Record.bytes_length r
    rw [stateAfter_pos_concat]
    omega

theorem terminates_of_not_wrapsAround {data : Bytes} (h : ¬ ∃ rs, WrapsAround data rs) :
    Terminates data := by
  obtain ⟨stun, hstun⟩ := isStun_total data
  cases stun with
  | false =>
      refine ⟨?_, none, by simp [parse, hstun]⟩
      intro base st st' htrue
      rw [hstun] at htrue
      cases htrue
  | true =>
      have h20 := length_of_isStun hstun
      by_cases hfield : LengthFieldOk data
      · have hbelow : ∀ (base : StunPacket) rs, AcceptedStart data rs →
            (stateAfter base rs).pos ≤ 65535 := by
          intro base rs hstart
          by_contra habove
          rw [stateAfter_pos] at habove
          exact h ⟨rs, hstart, hstun, hfield, by omega⟩
        obtain ⟨base, hbase⟩ := parseHeader_of_lengthField h20 hfield
        obtain ⟨msgLength, hget, hsize, hdiv⟩ := id hfield
        have hdvd : 4 ∣ data.length := by omega
        have hloop := parseLoop_returns hdvd (hbelow base) data.length (.nil data) (by omega)
        rw [stateAfter_nil] at hloop
        exact ⟨advances_of_below hdvd hbelow, parse_returns hstun hbase hloop⟩
      · have hreject := parseHeader_of_not_lengthField h20 hfield
        refine ⟨?_, none, by simp [parse, hstun, hreject]⟩
        intro base st st' _ hbase
        rw [hreject] at hbase
        cases hbase

/-- `Parse` moves forward in every turn and returns, on every byte string but
those of which the attributes reach byte 65536. -/
theorem terminates_iff (data : Bytes) : Terminates data ↔ ¬ ∃ rs, WrapsAround data rs := by
  constructor
  · rintro ⟨hadvances, _⟩ ⟨rs, hwraps⟩
    exact not_advances_of_wrapsAround hwraps hadvances
  · exact terminates_of_not_wrapsAround

/-! ## A message without end -/

theorem parseLoop_diverges {data : Bytes} {len : Nat} (Cycle : ParseState → Prop)
    (hstep : ∀ st, Cycle st → st.pos + 4 ≤ len ∧
      ∃ st', parseAttribute data len st = .ok (some st') ∧ Cycle st')
    (fuel : Nat) {st : ParseState} (h : Cycle st) :
    parseLoop data len fuel st = .error .diverged := by
  induction fuel generalizing st with
  | zero => rw [parseLoop, if_pos (hstep st h).1]
  | succ fuel ih =>
      obtain ⟨hroom, st', hbody, hnext⟩ := hstep st h
      rw [parseLoop, if_pos hroom, hbody]
      exact ih hnext

def longRecord : Record := ⟨0x8000, List.replicate 65528 0, []⟩

def cyclicHeader : Bytes :=
  [0x00, 0x01, 0xFF, 0xFC, 0x21, 0x12, 0xA4, 0x42, 1, 2, 3, 4, 5, 6, 7, 8, 0, 0, 0, 0]

/-- The last four bytes of the transaction id read as an empty attribute. -/
def cyclicMessage : Bytes := cyclicHeader ++ longRecord.bytes

theorem longRecord_value_length : longRecord.value.length = 65528 := List.length_replicate

theorem longRecord_bytes_length : longRecord.bytes.length = 65532 := by
  have hpadding : longRecord.padding.length = 0 := rfl
  rw [Record.bytes_length, longRecord_value_length, hpadding]

theorem longRecord_valid : longRecord.Valid 4 where
  value_length := by
    rw [longRecord_value_length]
    decide
  padding_length := by
    rw [longRecord_value_length]
    rfl

theorem cyclicMessage_length : cyclicMessage.length = 65552 := by
  rw [cyclicMessage, List.length_append, longRecord_bytes_length]
  rfl

theorem cyclicMessage_drop_header : cyclicMessage.drop 20 = longRecord.bytes :=
  List.drop_left' rfl

theorem cyclicMessage_drop_back :
    cyclicMessage.drop 16 = (Record.mk 0 [] []).bytes ++ longRecord.bytes := by
  have hheader : cyclicHeader.drop 16 = (Record.mk 0 [] []).bytes := rfl
  rw [cyclicMessage, List.drop_append_of_le_length (by decide), hheader]

theorem longRecord_tag : longRecord.tag = 0x8000 := rfl

theorem longRecord_lengthOk : LengthOk longRecord := by
  simp [LengthOk, longRecord_tag, Attribute.code]

theorem cyclicMessage_wrapsAround : WrapsAround cyclicMessage [longRecord] where
  valid := by
    intro r hr
    rw [List.mem_singleton.mp hr]
    exact longRecord_valid
  wellFormed := by
    refine ⟨?_, List.pairwise_singleton _ _⟩
    intro r hr
    rw [List.mem_singleton.mp hr]
    exact longRecord_lengthOk
  starts := by
    refine ⟨[], ?_⟩
    rw [List.append_nil, List.flatMap_singleton, cyclicMessage_drop_header]
  isStun := by
    rw [cyclicMessage_length]
    rfl
  lengthField := by
    refine ⟨0xFFFC, rfl, ?_, by decide⟩
    rw [cyclicMessage_length]
    rfl
  reaches := by
    rw [List.flatMap_singleton, longRecord_bytes_length]
    decide

theorem acceptRecord_of_clear {st : ParseState} {r : Record} (hfp : st.hasFingerprint = false)
    (hmi : st.hasMessageIntegrity = false) (hlen : LengthOk r) :
    acceptRecord st r = some { applyRecord st r with pos := st.pos + r.bytes.length } := by
  rw [acceptRecord, if_pos ⟨hfp, by simp [hmi], hlen⟩]

/-- The states between which the loop goes back and forth. -/
def CyclicState (st : ParseState) : Prop :=
  (st.pos = 16 ∨ st.pos = 20) ∧ st.hasFingerprint = false ∧ st.hasMessageIntegrity = false

theorem cyclicMessage_turn (st : ParseState) (h : CyclicState st) :
    st.pos + 4 ≤ cyclicMessage.length ∧
      ∃ st', parseAttribute cyclicMessage cyclicMessage.length st = .ok (some st') ∧
        CyclicState st' := by
  obtain ⟨hpos, hfp, hmi⟩ := h
  constructor
  · rw [cyclicMessage_length]
    omega
  · rcases hpos with hpos | hpos
    · have hd : cyclicMessage.drop st.pos = (Record.mk 0 [] []).bytes ++ longRecord.bytes := by
        rw [hpos, cyclicMessage_drop_back]
      rw [parseAttribute_record ⟨by decide, rfl⟩ hd (by omega),
        acceptRecord_of_clear hfp hmi (by decide)]
      refine ⟨_, rfl, .inr ?_, ?_, ?_⟩
      · simp [hpos]
      · simp [applyRecord, hfp, Attribute.code]
      · simp [applyRecord, hmi, Attribute.code]
    · have hd : cyclicMessage.drop st.pos = longRecord.bytes ++ [] := by
        rw [hpos, cyclicMessage_drop_header, List.append_nil]
      rw [parseAttribute_record longRecord_valid hd (by omega),
        acceptRecord_of_clear hfp hmi longRecord_lengthOk]
      refine ⟨_, rfl, .inl ?_, ?_, ?_⟩
      · rw [hpos, longRecord_bytes_length]
      · simp [applyRecord, hfp, longRecord_tag, Attribute.code]
      · simp [applyRecord, hmi, longRecord_tag, Attribute.code]

/-- `Parse` goes back on this message, and never returns. -/
theorem cyclicMessage_diverges :
    ¬ Terminates cyclicMessage ∧ ¬ Advances cyclicMessage ∧
      (∀ fuel base, parseLoop cyclicMessage cyclicMessage.length fuel { pos := 20, packet := base } =
        .error .diverged) ∧
      parse cyclicMessage cyclicMessage.length = .error .diverged := by
  have hback := not_advances_of_wrapsAround cyclicMessage_wrapsAround
  have hloop : ∀ fuel base, parseLoop cyclicMessage cyclicMessage.length fuel
      { pos := 20, packet := base } = .error .diverged := fun fuel base =>
    parseLoop_diverges CyclicState cyclicMessage_turn fuel ⟨.inr rfl, rfl, rfl⟩
  have h20 := length_of_isStun cyclicMessage_wrapsAround.isStun
  obtain ⟨base, hbase⟩ := parseHeader_of_lengthField h20 cyclicMessage_wrapsAround.lengthField
  refine ⟨fun h => hback h.1, hback, hloop, ?_⟩
  simp only [parse, cyclicMessage_wrapsAround.isStun, hbase, hloop, Exec.ok_bind, Exec.error_bind,
    if_true]

end EasyWebRtc.Rtc.StunPacket
