import EasyWebRtc.Rtc.StunPacket.RoundTrip

/-!
# What MESSAGE-INTEGRITY covers

An accepted message with a MESSAGE-INTEGRITY is a header, attributes that are
neither MESSAGE-INTEGRITY nor FINGERPRINT, the MESSAGE-INTEGRITY, and at most a
FINGERPRINT. `CheckAuthentication` patches the length field, hashes the message
up to the attribute and restores the field. Every field that the server acts on
is determined by the hashed bytes.
-/

namespace EasyWebRtc.Rtc.StunPacket

open Octets Utils Tlv

/-! ## The length field -/

def withLength (data : Bytes) (msgLength : UInt16) : Bytes :=
  data.take 2 ++ be16 msgLength ++ data.drop 4

theorem withLength_length {data : Bytes} (h : 4 ≤ data.length) (msgLength : UInt16) :
    (withLength data msgLength).length = data.length := by
  simp only [withLength, List.length_append, List.length_take, List.length_drop, be16_length]
  omega

theorem withLength_take {data : Bytes} (h : 4 ≤ data.length) (msgLength : UInt16) :
    (withLength data msgLength).take 2 = data.take 2 := by
  have htwo : (data.take 2).length = 2 := by
    rw [List.length_take]
    omega
  rw [withLength, List.append_assoc, List.take_append, htwo]
  simp [List.take_take]

theorem withLength_drop {data : Bytes} (h : 4 ≤ data.length) (msgLength : UInt16) (i : Nat) :
    (withLength data msgLength).drop (4 + i) = data.drop (4 + i) := by
  have hfour : (data.take 2 ++ be16 msgLength).length = 4 := by
    rw [List.length_append, List.length_take, be16_length]
    omega
  rw [withLength, List.drop_append, hfour, List.drop_eq_nil_of_le (by omega), List.nil_append,
    List.drop_drop]
  congr 1
  omega

theorem set2Bytes_withLength {data : Bytes} (h : 4 ≤ data.length) (msgLength : UInt16) :
    Byte.set2Bytes data 2 msgLength = .ok (withLength data msgLength) := by
  have hfresh := Byte.set2Bytes_fresh (data.take 2) (data.drop 2) msgLength
    (by rw [List.length_drop]; omega)
  rw [List.take_append_drop, List.length_take, Nat.min_eq_left (by omega), List.drop_drop]
    at hfresh
  exact hfresh

theorem withLength_withLength {data : Bytes} (h : 4 ≤ data.length) (v w : UInt16) :
    withLength (withLength data v) w = withLength data w := by
  have hdrop := withLength_drop h v 0
  rw [withLength, withLength_take h, hdrop]
  rfl

theorem withLength_of_get2Bytes {data : Bytes} {msgLength : UInt16} (h : 4 ≤ data.length)
    (hget : Byte.get2Bytes data 2 = .ok msgLength) : withLength data msgLength = data := by
  have hlong : 2 ≤ (data.drop 2).length := by
    rw [List.length_drop]
    omega
  match hd : data.drop 2, hlong with
  | hi :: lo :: rest, _ =>
      have hword := Byte.get2Bytes_of_drop hd
      rw [hget] at hword
      have hfour : data.drop 4 = rest := by
        have h₁ := drop_succ_of_drop hd
        exact drop_succ_of_drop h₁
      rw [withLength, Except.ok.inj hword, be16_word16, hfour, List.append_assoc]
      calc
        data.take 2 ++ ([hi, lo] ++ rest) = data.take 2 ++ data.drop 2 := by rw [hd]; rfl
        _ = data := List.take_append_drop 2 data

/-! ## Messages with a MESSAGE-INTEGRITY -/

theorem records_split {rs : List Record} (horder : rs.Pairwise MayPrecede) {n : Nat} {r : Record}
    (hlast : lastAt rs Attribute.messageIntegrity.code = some (n, r)) :
    ∃ body tail, rs = body ++ r :: tail ∧ n = (body.flatMap Record.bytes).length ∧
      (∀ a ∈ body, a.tag ≠ Attribute.fingerprint.code) ∧
      (tail = [] ∨ ∃ f, tail = [f] ∧ f.tag = Attribute.fingerprint.code) := by
  obtain ⟨hmem, htag⟩ := lastAt_mem hlast
  obtain ⟨body, tail, rfl⟩ := List.append_of_mem hmem
  rw [List.pairwise_append, List.pairwise_cons] at horder
  obtain ⟨_, ⟨hafter, htail⟩, hbefore⟩ := horder
  have hfp : ∀ f ∈ tail, f.tag = Attribute.fingerprint.code := fun f hf => (hafter f hf).2 htag
  have hends : tail = [] ∨ ∃ f, tail = [f] ∧ f.tag = Attribute.fingerprint.code := by
    match tail with
    | [] => exact .inl rfl
    | [f] => exact .inr ⟨f, rfl, hfp f (by simp)⟩
    | f :: g :: more =>
        have hfg : MayPrecede f g := (List.pairwise_cons.mp htail).1 g (by simp)
        exact (hfg.1 (hfp f (by simp))).elim
  refine ⟨body, tail, rfl, ?_, fun a ha => (hbefore a ha r List.mem_cons_self).1, hends⟩
  rcases hends with rfl | ⟨f, rfl, hf⟩
  · rw [lastAt_concat, if_pos htag] at hlast
    cases hlast
    rfl
  · rw [show body ++ [r, f] = (body ++ [r]) ++ [f] by simp, lastAt_concat,
      if_neg (by rw [hf]; decide), lastAt_concat, if_pos htag] at hlast
    cases hlast
    rfl

theorem parseHeader_eq_some {data : Bytes} {len : Nat} {base : StunPacket}
    (h20 : 20 ≤ data.length) (h : parseHeader data len = .ok (some base)) :
    ∃ b₀ b₁ transactionId, data.take 2 = [b₀, b₁] ∧
      transactionId.bytes = (data.drop 8).take 12 ∧
      base = {
        klass := Class.ofCode (msgClass b₀ b₁)
        method := msgMethod (word16 b₀ b₁)
        transactionId
        data
        size := len } := by
  match data, h20 with
  | b₀ :: b₁ :: rest, h20 =>
      have htype : Byte.get2Bytes (b₀ :: b₁ :: rest) 0 = .ok (word16 b₀ b₁) :=
        Byte.get2Bytes_of_drop List.drop_zero
      have htid : (((b₀ :: b₁ :: rest).drop 8).take 12).length = 12 := by
        rw [List.length_take, List.length_drop]
        omega
      obtain ⟨msgLength, hget⟩ := exists_get2Bytes (show 2 + 1 < (b₀ :: b₁ :: rest).length by omega)
      have hread₀ : Byte.get1Byte (b₀ :: b₁ :: rest) 0 = .ok b₀ := rfl
      have hread₁ : Byte.get1Byte (b₀ :: b₁ :: rest) 1 = .ok b₁ := rfl
      simp only [parseHeader, htype, hget, hread₀, hread₁, readTransactionId, dif_pos htid,
        Exec.ok_bind, Exec.pure_eq_ok] at h
      split at h
      · cases h
      · exact ⟨b₀, b₁, ⟨_, htid⟩, rfl, rfl, (Option.some.inj (Except.ok.inj h)).symm⟩

/-- What the server acts on. -/
structure Covered where
  klass : Class
  method : UInt16
  transactionId : TransactionId
  username : Bytes
  priority : UInt32
  iceControlling : UInt64
  iceControlled : UInt64
  hasUseCandidate : Bool
  errorCode : UInt16
  deriving DecidableEq, Repr

def covered (p : StunPacket) : Covered where
  klass := p.klass
  method := p.method
  transactionId := p.transactionId
  username := p.username
  priority := p.priority
  iceControlling := p.iceControlling
  iceControlled := p.iceControlled
  hasUseCandidate := p.hasUseCandidate
  errorCode := p.errorCode

theorem covered_withAttributes (base : StunPacket) {body tail : List Record}
    (htail : ∀ r ∈ tail, r.tag = Attribute.messageIntegrity.code ∨
      r.tag = Attribute.fingerprint.code) :
    (withAttributes base (body ++ tail)).covered = (withAttributes base body).covered := by
  have hlast : ∀ tag, tag ≠ Attribute.messageIntegrity.code → tag ≠ Attribute.fingerprint.code →
      lastValue (body ++ tail) tag = lastValue body tag := by
    intro tag hmi hfp
    have hnone : lastAt tail tag = none := by
      apply lastAt_eq_none_of_forall
      intro r hr ht
      rcases htail r hr with h | h
      · exact hmi (ht.symm.trans h)
      · exact hfp (ht.symm.trans h)
    rw [lastValue_append, lastValue, hnone, Option.map_none, Option.none_or]
  have huse : (lastAt (body ++ tail) Attribute.useCandidate.code).isSome =
      (lastAt body Attribute.useCandidate.code).isSome := by
    have h := congrArg Option.isSome (hlast Attribute.useCandidate.code (by decide) (by decide))
    rwa [lastValue, lastValue, Option.isSome_map, Option.isSome_map] at h
  simp only [covered, withAttributes, huse, hlast Attribute.username.code (by decide) (by decide),
    hlast Attribute.priority.code (by decide) (by decide),
    hlast Attribute.iceControlling.code (by decide) (by decide),
    hlast Attribute.iceControlled.code (by decide) (by decide),
    hlast Attribute.errorCode.code (by decide) (by decide)]

/-- An accepted message with its MESSAGE-INTEGRITY value at `mi`, behind the
attributes `body`. -/
structure Signed (data : Bytes) (p : StunPacket) (mi : Nat) (body : List Record) : Prop where
  bound : data.length ≤ 65535
  packet_data : p.data = data
  packet_size : p.size = data.length
  lengthField : Byte.get2Bytes data 2 = .ok (UInt16.ofNat data.length - 20)
  offset : mi = 24 + (body.flatMap Record.bytes).length
  size : data.length = mi + 20 + if p.hasFingerprint then 8 else 0
  valid : ∀ r ∈ body, r.Valid 4
  bytes : (data.drop 20).take (body.flatMap Record.bytes).length = body.flatMap Record.bytes
  fields : ∃ base, parseHeader data data.length = .ok (some base) ∧
    p.covered = (withAttributes base body).covered

theorem bytes_length_of_aligned {r : Record} (h : r.Valid 4) {n : Nat}
    (hvalue : r.value.length = 4 * n) : r.bytes.length = 4 + 4 * n := by
  have hpad : padLen 4 (4 * n) = 0 := by simp [padLen]
  have hpadding := h.padding_length
  rw [hvalue, hpad] at hpadding
  rw [Record.bytes_length, hvalue, hpadding, Nat.add_zero]

theorem length_tail {data : Bytes} {rs body tail : List Record} {r : Record} (hg : Grammar data rs)
    (hrs : rs = body ++ r :: tail) (htag : r.tag = Attribute.messageIntegrity.code)
    (hnofp : ∀ a ∈ body, a.tag ≠ Attribute.fingerprint.code)
    (htail : tail = [] ∨ ∃ f, tail = [f] ∧ f.tag = Attribute.fingerprint.code) :
    (tail.flatMap Record.bytes).length =
      if (lastAt rs Attribute.fingerprint.code).isSome then 8 else 0 := by
  rcases htail with rfl | ⟨f, rfl, hf⟩
  · have hnone : lastAt rs Attribute.fingerprint.code = none := by
      apply lastAt_eq_none_of_forall
      intro a ha
      rw [hrs] at ha
      rcases List.mem_append.mp ha with ha | ha
      · exact hnofp a ha
      · rw [List.mem_singleton.mp ha, htag]
        decide
    rw [hnone]
    rfl
  · have hmem : f ∈ rs := by
      rw [hrs]
      simp
    have hsome : (lastAt rs Attribute.fingerprint.code).isSome = true :=
      (lastAt_isSome_iff rs _).mpr ⟨f, hmem, hf⟩
    have hvalue : f.value.length = 4 * 1 := (hg.lengths f hmem).2.2.2.2.2.1 hf
    rw [List.flatMap_cons, List.flatMap_nil, List.append_nil, hsome, if_pos rfl]
    exact bytes_length_of_aligned (hg.valid f hmem) hvalue

theorem signed_of_parse {data : Bytes} {p : StunPacket} {mi : Nat} (hlen : data.length ≤ 65535)
    (hparse : parse data data.length = .ok (some p)) (hmi : p.messageIntegrity = some mi) :
    ∃ body, Signed data p mi body := by
  rcases parse_cases data hlen with ⟨base, rs, hg, hbase, hparse'⟩ | ⟨_, hparse'⟩
  · rw [hparse] at hparse'
    have hp := Option.some.inj (Except.ok.inj hparse')
    have h20 := length_of_isStun hg.isStun
    obtain ⟨b₀, b₁, transactionId, _, _, hbaseEq⟩ := parseHeader_eq_some h20 hbase
    have hoffset : (lastOffset rs Attribute.messageIntegrity.code).map (24 + ·) = some mi := by
      have h : (withAttributes base rs).messageIntegrity = some mi := hp ▸ hmi
      simpa [withAttributes, hbaseEq] using h
    rw [lastOffset, Option.map_map] at hoffset
    obtain ⟨⟨n, r⟩, hlast, hn⟩ := Option.map_eq_some_iff.mp hoffset
    obtain ⟨body, tail, hrs, hbody, hnofp, htail⟩ := records_split hg.order hlast
    have htag := (lastAt_mem hlast).2
    have hr : r ∈ rs := (lastAt_mem hlast).1
    have hvalue : r.value.length = 4 * 5 := (hg.lengths r hr).2.2.2.2.1 htag
    have hrlen := bytes_length_of_aligned (hg.valid r hr) hvalue
    have hbytes : data.drop 20 =
        body.flatMap Record.bytes ++ (r.bytes ++ tail.flatMap Record.bytes) := by
      rw [hg.split, hrs, List.flatMap_append, List.flatMap_cons]
    have htotal := congrArg List.length hbytes
    rw [List.length_drop, List.length_append, List.length_append, hrlen] at htotal
    refine ⟨body, hlen, ?_, ?_, ?_, ?_, ?_, ?_, ?_, base, hbase, ?_⟩
    · rw [hp, hbaseEq]
      rfl
    · rw [hp, hbaseEq]
      rfl
    · obtain ⟨msgLength, hget, hsize, _⟩ := hg.lengthField
      have hfield : msgLength = UInt16.ofNat data.length - 20 := by
        apply UInt16.toNat_inj.mp
        rw [ofNat_sub_20_toNat hlen h20, hsize]
      rw [hget, hfield]
    · rw [← hn, hbody]
      rfl
    · have hfp : p.hasFingerprint = (lastAt rs Attribute.fingerprint.code).isSome := by
        rw [hp, hbaseEq]
        simp [withAttributes]
      have hmiOffset : mi = 24 + n := hn.symm
      rw [length_tail hg hrs htag hnofp htail, ← hfp] at htotal
      omega
    · exact fun a ha => hg.valid a (by rw [hrs]; exact List.mem_append_left _ ha)
    · rw [hbytes, List.take_left]
    · rw [hp, hrs]
      apply covered_withAttributes
      intro a ha
      rcases List.mem_cons.mp ha with rfl | ha
      · exact .inl htag
      · rcases htail with rfl | ⟨f, rfl, hf⟩
        · cases ha
        · rw [List.mem_singleton.mp ha]
          exact .inr hf
  · rw [hparse] at hparse'
    cases hparse'

theorem ofNat_add_sub_20 (n : Nat) : UInt16.ofNat (n + 20) - 20 = UInt16.ofNat n := by
  rw [UInt16.ofNat_add]
  exact UInt16.add_sub_cancel _ _

section

variable {data : Bytes} {p : StunPacket} {mi : Nat} {body : List Record}

/-- What is hashed: the message up to MESSAGE-INTEGRITY, with the length field
of a message that ends with that attribute. -/
theorem Signed.signedMessage_eq (h : Signed data p mi body) :
    signedMessage p mi = .ok (withLength data (UInt16.ofNat mi),
      (withLength data (UInt16.ofNat mi)).take (mi - 4)) := by
  have hsize := h.size
  have hoff := h.offset
  have h4 : 4 ≤ data.length := by omega
  have hread : Crypto.readPrefix (withLength data (UInt16.ofNat mi)) (mi - 4) =
      .ok ((withLength data (UInt16.ofNat mi)).take (mi - 4)) := by
    rw [Crypto.readPrefix, if_pos]
    rw [List.length_take, withLength_length h4]
    omega
  unfold signedMessage
  rw [h.packet_data, h.packet_size]
  cases hfp : p.hasFingerprint with
  | true =>
      rw [hfp, if_pos rfl] at hsize
      have hvalue : UInt16.ofNat data.length - 20 - 8 = UInt16.ofNat mi := by
        rw [hsize, Nat.add_right_comm, ofNat_add_sub_20, UInt16.ofNat_add]
        exact UInt16.add_sub_cancel _ _
      simp only [if_true, set2Bytes_withLength h4, hvalue, hread, Exec.ok_bind, Exec.pure_eq_ok]
  | false =>
      rw [hfp, if_neg Bool.false_ne_true, Nat.add_zero] at hsize
      have hsame := withLength_of_get2Bytes h4 h.lengthField
      rw [hsize, ofNat_add_sub_20] at hsame
      rw [hsame] at hread ⊢
      simp only [Bool.false_eq_true, if_false, hread, Exec.ok_bind, Exec.pure_eq_ok]

theorem Signed.received_eq (h : Signed data p mi body) :
    readBytes (withLength data (UInt16.ofNat mi)) mi 20 = .ok ((data.drop mi).take 20) := by
  have hsize := h.size
  have hoff := h.offset
  have hdrop : (withLength data (UInt16.ofNat mi)).drop mi = data.drop mi := by
    have hd := withLength_drop (show 4 ≤ data.length by omega) (UInt16.ofNat mi) (mi - 4)
    rwa [Nat.add_sub_cancel' (by omega)] at hd
  rw [readBytes, hdrop, if_pos]
  rw [List.length_take, List.length_drop]
  omega

theorem Signed.restored_eq (h : Signed data p mi body) (result : Authentication) :
    (if p.hasFingerprint then do
      let data ← Byte.set2Bytes (withLength data (UInt16.ofNat mi)) 2 (UInt16.ofNat p.size - 20)
      return (result, { p with data })
    else return (result, { p with data := withLength data (UInt16.ofNat mi) })) =
      Except.ok (result, p) := by
  have hsize := h.size
  have hoff := h.offset
  have h4 : 4 ≤ data.length := by omega
  have hsame := withLength_of_get2Bytes h4 h.lengthField
  have hpacket : { p with data := data } = p := by rw [← h.packet_data]
  cases hfp : p.hasFingerprint with
  | true =>
      rw [← h.packet_size] at hsame
      rw [if_pos rfl, set2Bytes_withLength (by rw [withLength_length h4]; exact h4),
        withLength_withLength h4, hsame, Exec.ok_bind, ← hfp, hpacket]
      rfl
  | false =>
      rw [hfp, if_neg Bool.false_ne_true, Nat.add_zero] at hsize
      rw [hsize, ofNat_add_sub_20] at hsame
      rw [if_neg Bool.false_ne_true, hsame, ← hfp, hpacket]
      rfl

theorem Signed.checkAuthentication_eq (h : Signed data p mi body) (hmac : Crypto.HmacSha1)
    (localUsername localPassword : Bytes) (hmi : p.messageIntegrity = some mi)
    (hklass : p.klass = .request ∨ p.klass = .indication) (hname : p.username ≠ [])
    (hmatch : usernameMatches p.username localUsername = true) :
    checkAuthentication hmac p localUsername localPassword =
      .ok (if (data.drop mi).take 20 =
        hmac.digest localPassword ((withLength data (UInt16.ofNat mi)).take (mi - 4))
        then .ok else .unauthorized, p) := by
  have hbranch : ∀ mi', p.messageIntegrity = some mi' → mi' = mi := by
    intro mi' hmi'
    exact Option.some.inj (hmi'.symm.trans hmi)
  unfold checkAuthentication
  split
  · rename_i hk
    simp [hk] at hklass
  · rename_i hk
    simp [hk] at hklass
  · rename_i hnone
    rw [hmi] at hnone
    cases hnone
  · rename_i hnone
    rw [hmi] at hnone
    cases hnone
  · rename_i mi' _ hmi'
    simp only [hbranch mi' hmi', hname, hmatch, if_false, Bool.not_true, Bool.false_eq_true,
      h.signedMessage_eq, Exec.ok_bind, h.received_eq]
    exact h.restored_eq _
  · rename_i mi' _ hmi'
    simp only [hbranch mi' hmi', hname, hmatch, if_false, Bool.not_true, Bool.false_eq_true,
      h.signedMessage_eq, Exec.ok_bind, h.received_eq]
    exact h.restored_eq _

end

theorem checkAuthentication_mismatch {p : StunPacket} {mi : Nat} {localUsername : Bytes}
    (hmac : Crypto.HmacSha1) (localPassword : Bytes) (hmi : p.messageIntegrity = some mi)
    (hklass : p.klass = .request ∨ p.klass = .indication) (hname : p.username ≠ [])
    (hmatch : usernameMatches p.username localUsername = false) :
    checkAuthentication hmac p localUsername localPassword = .ok (.unauthorized, p) := by
  rcases hklass with hk | hk
  · simp only [checkAuthentication, hk, hmi, if_neg hname, hmatch]
    rfl
  · simp only [checkAuthentication, hk, hmi, if_neg hname, hmatch]
    rfl

/-- `CheckAuthentication` on an accepted message returns and leaves the datagram
as it was, whatever its result. -/
theorem checkAuthentication_unchanged {data : Bytes} {p : StunPacket} (hlen : data.length ≤ 65535)
    (hparse : parse data data.length = .ok (some p)) (hmac : Crypto.HmacSha1)
    (localUsername localPassword : Bytes) :
    ∃ result, checkAuthentication hmac p localUsername localPassword = .ok (result, p) := by
  cases hmi : p.messageIntegrity with
  | none => cases hk : p.klass <;> exact ⟨_, by simp only [checkAuthentication, hk, hmi]; rfl⟩
  | some mi =>
      obtain ⟨body, hsigned⟩ := signed_of_parse hlen hparse hmi
      by_cases hklass : p.klass = .request ∨ p.klass = .indication
      · by_cases hname : p.username = []
        · rcases hklass with hk | hk <;>
            exact ⟨_, by simp only [checkAuthentication, hk, hmi, if_pos hname]; rfl⟩
        · cases hmatch : usernameMatches p.username localUsername with
          | true =>
              exact ⟨_, hsigned.checkAuthentication_eq hmac localUsername localPassword hmi hklass
                hname hmatch⟩
          | false => exact ⟨_, checkAuthentication_mismatch hmac _ hmi hklass hname hmatch⟩
      · cases hk : p.klass with
        | request => exact (hklass (.inl hk)).elim
        | indication => exact (hklass (.inr hk)).elim
        | successResponse => exact ⟨_, by simp only [checkAuthentication, hk]; rfl⟩
        | errorResponse => exact ⟨_, by simp only [checkAuthentication, hk]; rfl⟩

/-- Equal hashed bytes come from packets that agree on what the server acts on. -/
theorem Signed.covered_eq {d₁ d₂ : Bytes} {p₁ p₂ : StunPacket} {mi₁ mi₂ : Nat}
    {body₁ body₂ : List Record} (h₁ : Signed d₁ p₁ mi₁ body₁) (h₂ : Signed d₂ p₂ mi₂ body₂)
    (heq : (withLength d₁ (UInt16.ofNat mi₁)).take (mi₁ - 4) =
      (withLength d₂ (UInt16.ofNat mi₂)).take (mi₂ - 4)) : p₁.covered = p₂.covered := by
  have hsize₁ := h₁.size
  have hsize₂ := h₂.size
  have hoff₁ := h₁.offset
  have hoff₂ := h₂.offset
  have hfour₁ : 4 ≤ d₁.length := by omega
  have hfour₂ : 4 ≤ d₂.length := by omega
  have hmi : mi₁ = mi₂ := by
    have h := congrArg List.length heq
    rw [List.length_take, List.length_take, withLength_length hfour₁, withLength_length hfour₂] at h
    omega
  subst hmi
  have htype : d₁.take 2 = d₂.take 2 := by
    have h := congrArg (List.take 2) heq
    rwa [List.take_take, List.take_take, Nat.min_eq_left (by omega), withLength_take hfour₁,
      withLength_take hfour₂] at h
  have hdrop : ∀ i, (d₁.drop (4 + i)).take (mi₁ - 4 - (4 + i)) =
      (d₂.drop (4 + i)).take (mi₁ - 4 - (4 + i)) := by
    intro i
    have h := congrArg (List.drop (4 + i)) heq
    rwa [List.drop_take, List.drop_take, withLength_drop hfour₁, withLength_drop hfour₂] at h
  have htid : (d₁.drop 8).take 12 = (d₂.drop 8).take 12 := by
    have h := congrArg (List.take 12) (hdrop 4)
    rwa [List.take_take, List.take_take, Nat.min_eq_left (by omega)] at h
  have hbody : body₁ = body₂ := by
    have hbytes₁ := h₁.bytes
    have hbytes₂ := h₂.bytes
    rw [show (body₁.flatMap Record.bytes).length = mi₁ - 4 - (4 + 16) by omega] at hbytes₁
    rw [show (body₂.flatMap Record.bytes).length = mi₁ - 4 - (4 + 16) by omega] at hbytes₂
    have hsame := hbytes₁.symm.trans ((hdrop 16).trans hbytes₂)
    have hsplit₁ := splitAll_flatMap body₁ h₁.valid
    rw [hsame, splitAll_flatMap body₂ h₂.valid] at hsplit₁
    exact (Option.some.inj hsplit₁).symm
  obtain ⟨base₁, hbase₁, hcov₁⟩ := h₁.fields
  obtain ⟨base₂, hbase₂, hcov₂⟩ := h₂.fields
  obtain ⟨b₀, b₁, tid₁, htake₁, htid₁, rfl⟩ := parseHeader_eq_some (by omega) hbase₁
  obtain ⟨c₀, c₁, tid₂, htake₂, htid₂, rfl⟩ := parseHeader_eq_some (by omega) hbase₂
  have hbytes : [b₀, b₁] = [c₀, c₁] := htake₁.symm.trans (htype.trans htake₂)
  have htids : tid₁ = tid₂ := by
    cases tid₁
    cases tid₂
    simp only [TransactionId.mk.injEq]
    exact htid₁.trans (htid.trans htid₂.symm)
  cases hbytes
  rw [hcov₁, hcov₂, hbody, htids]
  rfl

/-- MESSAGE-INTEGRITY covers everything the server acts on. The bytes that
`CheckAuthentication` hashes are the message up to the attribute, with a length
field that ends with it; equal hashed bytes come from packets that differ in
nothing but the MESSAGE-INTEGRITY value and the FINGERPRINT; the check leaves the
datagram as it was; and its result is whether the attribute holds the digest of
these bytes. -/
theorem integrity_covers_packet {d₁ d₂ : Bytes} {p₁ p₂ : StunPacket} {mi₁ mi₂ : Nat}
    (hlen₁ : d₁.length ≤ 65535) (hlen₂ : d₂.length ≤ 65535)
    (hparse₁ : parse d₁ d₁.length = .ok (some p₁)) (hparse₂ : parse d₂ d₂.length = .ok (some p₂))
    (hmi₁ : p₁.messageIntegrity = some mi₁) (hmi₂ : p₂.messageIntegrity = some mi₂) :
    ((signedMessage p₁ mi₁).map Prod.snd = (signedMessage p₂ mi₂).map Prod.snd →
      p₁.klass = p₂.klass ∧ p₁.method = p₂.method ∧ p₁.transactionId = p₂.transactionId ∧
      p₁.username = p₂.username ∧ p₁.priority = p₂.priority ∧
      p₁.iceControlling = p₂.iceControlling ∧ p₁.iceControlled = p₂.iceControlled ∧
      p₁.hasUseCandidate = p₂.hasUseCandidate ∧ p₁.errorCode = p₂.errorCode) ∧
    (24 ≤ mi₁ ∧ mi₁ + 20 ≤ d₁.length ∧
      (signedMessage p₁ mi₁).map Prod.snd =
        .ok ((withLength d₁ (UInt16.ofNat (mi₁ + 20 - 20))).take (mi₁ - 4))) ∧
    (p₁.data = d₁ ∧ ∀ hmac localUsername localPassword, ∃ result,
      checkAuthentication hmac p₁ localUsername localPassword = .ok (result, p₁)) ∧
    (p₁.klass = .request ∨ p₁.klass = .indication → p₁.username ≠ [] →
      ∃ message, (signedMessage p₁ mi₁).map Prod.snd = .ok message ∧
        ∀ hmac localUsername localPassword, usernameMatches p₁.username localUsername = true →
          checkAuthentication hmac p₁ localUsername localPassword =
            .ok (if (d₁.drop mi₁).take 20 = hmac.digest localPassword message
              then .ok else .unauthorized, p₁)) := by
  obtain ⟨body₁, hsigned₁⟩ := signed_of_parse hlen₁ hparse₁ hmi₁
  obtain ⟨body₂, hsigned₂⟩ := signed_of_parse hlen₂ hparse₂ hmi₂
  have hhash₁ := hsigned₁.signedMessage_eq
  have hhash₂ := hsigned₂.signedMessage_eq
  refine ⟨?_, ⟨?_, ?_, ?_⟩, ⟨hsigned₁.packet_data, ?_⟩, ?_⟩
  · intro heq
    rw [hhash₁, hhash₂] at heq
    have hcov := hsigned₁.covered_eq hsigned₂ (Except.ok.inj heq)
    exact ⟨congrArg Covered.klass hcov, congrArg Covered.method hcov,
      congrArg Covered.transactionId hcov, congrArg Covered.username hcov,
      congrArg Covered.priority hcov, congrArg Covered.iceControlling hcov,
      congrArg Covered.iceControlled hcov, congrArg Covered.hasUseCandidate hcov,
      congrArg Covered.errorCode hcov⟩
  · have := hsigned₁.offset
    omega
  · have := hsigned₁.size
    omega
  · rw [hhash₁, Nat.add_sub_cancel]
    rfl
  · intro hmac localUsername localPassword
    exact checkAuthentication_unchanged hlen₁ hparse₁ hmac localUsername localPassword
  · intro hklass hname
    refine ⟨_, by rw [hhash₁]; rfl, ?_⟩
    intro hmac localUsername localPassword hmatch
    exact hsigned₁.checkAuthentication_eq hmac localUsername localPassword hmi₁ hklass hname hmatch

/-- The signed request as it travels. -/
def signedDatagram : Bytes := bindingRequest.message bindingRequestHmac [0]

/-- The same request from a sender that adds no FINGERPRINT. -/
def unsealedDatagram : Bytes := withLength (signedDatagram.take 80) 60

theorem integrity_covers_packet_bindingRequest :
    signedDatagram ≠ unsealedDatagram ∧ ∃ p₁ p₂,
      parse signedDatagram signedDatagram.length = .ok (some p₁) ∧
      parse unsealedDatagram unsealedDatagram.length = .ok (some p₂) ∧
      p₁.username = p₂.username := by
  have hparse₁ : parse signedDatagram signedDatagram.length = .ok (some { bindingRequest with
      data := signedDatagram
      size := 88
      messageIntegrity := some 60
      hasFingerprint := true
      password := [] }) := by decide +kernel
  have hparse₂ : parse unsealedDatagram unsealedDatagram.length = .ok (some { bindingRequest with
      data := unsealedDatagram
      size := 80
      messageIntegrity := some 60
      password := [] }) := by decide +kernel
  have hcovered := integrity_covers_packet (by decide +kernel) (by decide +kernel) hparse₁ hparse₂
    rfl rfl
  exact ⟨by decide +kernel, _, _, hparse₁, hparse₂,
    (hcovered.1 (by decide +kernel)).2.2.2.1⟩

/-! ## Signing and checking -/

theorem usernameMatches_iff (username localUsername : Bytes) :
    usernameMatches username localUsername = true ↔ (localUsername ++ [0x3A]) <+: username := by
  simp only [usernameMatches, Bool.not_eq_true', Bool.or_eq_false_iff, bne_eq_false_iff_eq,
    decide_eq_false_iff_not, Nat.not_le]
  constructor
  · intro h
    rcases h with ⟨⟨hlt, hcolon⟩, htake⟩
    refine ⟨username.drop (localUsername.length + 1), ?_⟩
    calc
      localUsername ++ [0x3A] ++ username.drop (localUsername.length + 1)
          = username.take localUsername.length ++
              (0x3A :: username.drop (localUsername.length + 1)) := by
            rw [htake, List.append_assoc]
            rfl
      _ = username.take localUsername.length ++ username.drop localUsername.length := by
            rw [List.getElem?_eq_getElem hlt] at hcolon
            rw [List.drop_eq_getElem_cons hlt, Option.some.inj hcolon]
      _ = username := List.take_append_drop _ _
  · intro h
    rcases h with ⟨rest, rfl⟩
    simp

theorem withLength_encode (p : StunPacket) (rs : List Record) (msgLength : UInt16) :
    withLength (p.encode rs) msgLength =
      headerBytes p.typeField msgLength p.transactionId ++ rs.flatMap Record.bytes := by
  rw [withLength, encode_eq]
  simp [headerBytes, be16, magicCookie]

theorem typeField_binding {p : StunPacket} (hklass : p.klass = .request ∨ p.klass = .indication)
    (hmethod : p.method = Method.binding) : (p.typeField >>> 8).toUInt8 < 3 := by
  rcases hklass with hk | hk
  · rw [typeField, hk, hmethod]
    decide
  · rw [typeField, hk, hmethod]
    decide

theorem klass_ne_errorResponse {p : StunPacket}
    (hklass : p.klass = .request ∨ p.klass = .indication) : p.klass ≠ .errorResponse := by
  rcases hklass with hk | hk
  · rw [hk]
    decide
  · rw [hk]
    decide

section

variable (hmac : Crypto.HmacSha1) {p : StunPacket} {padding : Bytes}

/-- The bytes that the checker hashes are those that the signer hashed. -/
theorem hashed_message (hadd : p.addMessageIntegrity = true)
    (hpad : padding.length = padLen 4 p.username.length) :
    (withLength (p.message hmac padding) (UInt16.ofNat
        (24 + ((p.bodyRecords padding).flatMap Record.bytes).length))).take
      (20 + ((p.bodyRecords padding).flatMap Record.bytes).length) = p.signedPrefix padding := by
  have hsize := exactSize_eq p hpad
  rw [hadd, if_pos rfl] at hsize
  have hfield : UInt16.ofNat p.exactSize - 20 - 8 =
      UInt16.ofNat (24 + ((p.bodyRecords padding).flatMap Record.bytes).length) := by
    rw [show p.exactSize = 24 + ((p.bodyRecords padding).flatMap Record.bytes).length + 8 + 20 by
      omega, ofNat_add_sub_20, UInt16.ofNat_add]
    exact UInt16.add_sub_cancel _ _
  rw [message, withLength_encode, messageRecords, signedRecords, List.flatMap_append,
    List.flatMap_append, List.append_assoc, ← List.append_assoc, ← hfield, ← signedPrefix]
  have hlen : (p.signedPrefix padding).length =
      20 + ((p.bodyRecords padding).flatMap Record.bytes).length := by
    rw [signedPrefix, List.length_append, headerBytes_length]
  rw [← hlen, List.take_left]

theorem received_digest (hadd : p.addMessageIntegrity = true) :
    ((p.message hmac padding).drop
        (24 + ((p.bodyRecords padding).flatMap Record.bytes).length)).take 20 =
      hmac.digest p.password (p.signedPrefix padding) := by
  have hdigest := hmac.digest_length p.password (p.signedPrefix padding)
  rw [message, messageRecords, signedRecords, recordIf, if_pos hadd, List.append_assoc,
    encode_append]
  have hlen : (p.encode (p.bodyRecords padding)).length =
      20 + ((p.bodyRecords padding).flatMap Record.bytes).length := encode_length _ _
  rw [show 24 + ((p.bodyRecords padding).flatMap Record.bytes).length =
    (p.encode (p.bodyRecords padding)).length + 4 by omega, ← List.drop_drop, List.drop_left]
  simp [Record.bytes, be16, hdigest]

theorem checkAuthentication_received (hklass : p.klass = .request ∨ p.klass = .indication)
    (hmethod : p.method = Method.binding) (hname : p.username ≠ []) (hpassword : p.password ≠ [])
    (hsize : p.exactSize ≤ 65532) (hpad : padding.length = padLen 4 p.username.length)
    (localUsername localPassword : Bytes) :
    ∃ mi, (p.received hmac padding).messageIntegrity = some mi ∧
      (signedMessage (p.received hmac padding) mi).map Prod.snd =
        .ok (p.signedPrefix padding) ∧
      checkAuthentication hmac (p.received hmac padding) localUsername localPassword =
        .ok (if (localUsername ++ [0x3A]) <+: p.username ∧
          hmac.digest localPassword (p.signedPrefix padding) =
            hmac.digest p.password (p.signedPrefix padding) then .ok else .unauthorized,
          p.received hmac padding) := by
  have hadd : p.addMessageIntegrity = true := by
    rcases hklass with hk | hk <;> simp [addMessageIntegrity, hk, hpassword]
  have hlen := message_length hmac p hpad
  have hparse := parse_message hmac hsize hpad (typeField_binding hklass hmethod)
    fun h => absurd h (klass_ne_errorResponse hklass)
  rw [← hlen] at hparse
  have hmi : (p.received hmac padding).messageIntegrity =
      some (24 + ((p.bodyRecords padding).flatMap Record.bytes).length) := by
    simp [received, hadd]
  obtain ⟨body, hsigned⟩ := signed_of_parse (by omega) hparse hmi
  have hhash := hashed_message hmac hadd hpad
  have hstart : 24 + ((p.bodyRecords padding).flatMap Record.bytes).length - 4 =
      20 + ((p.bodyRecords padding).flatMap Record.bytes).length := by omega
  refine ⟨_, hmi, ?_, ?_⟩
  · rw [hsigned.signedMessage_eq, hstart, hhash]
    rfl
  · cases hmatch : usernameMatches p.username localUsername with
    | true =>
        have hcheck := hsigned.checkAuthentication_eq hmac localUsername localPassword hmi hklass
          hname hmatch
        rw [hstart, hhash, received_digest hmac hadd] at hcheck
        rw [hcheck]
        simp only [(usernameMatches_iff _ _).mp hmatch, true_and, eq_comm]
    | false =>
        have hno : ¬ (localUsername ++ [0x3A]) <+: p.username := by
          rw [← usernameMatches_iff, hmatch]
          exact Bool.false_ne_true
        rw [checkAuthentication_mismatch hmac localPassword hmi hklass hname hmatch,
          if_neg fun h => hno h.1]

end

/-- Signing and checking agree: a Binding request or indication that was signed
with `password`, encoded and parsed again, passes the check exactly for the
local usernames in front of its colon and the passwords of the same digest. -/
theorem checkAuthentication_serialize (hmac : Crypto.HmacSha1) (p : StunPacket)
    (password localUsername localPassword buffer : Bytes)
    (hklass : p.klass = .request ∨ p.klass = .indication) (hmethod : p.method = Method.binding)
    (hname : p.username ≠ []) (hpassword : password ≠ [])
    (hsize : (p.authenticate password).exactSize ≤ 65532)
    (hfit : (p.authenticate password).exactSize ≤ buffer.length) :
    ∃ p' out r mi message result,
      serialize hmac (p.authenticate password) buffer = .ok (p', out) ∧
      parse (out.take p'.size) p'.size = .ok (some r) ∧
      r.messageIntegrity = some mi ∧
      (signedMessage r mi).map Prod.snd = .ok message ∧
      checkAuthentication hmac r localUsername localPassword = .ok (result, r) ∧
      (result = .ok ↔ (localUsername ++ [0x3A]) <+: p.username ∧
        hmac.digest localPassword message = hmac.digest password message) ∧
      (result = .ok ∨ result = .unauthorized) := by
  have hauth : p.authenticate password = { p with password } := by
    rcases hklass with hk | hk <;> simp [authenticate, hk]
  rw [hauth] at hsize hfit ⊢
  obtain ⟨p', out, hser, _, hparse⟩ := parse_serialized hmac { p with password } buffer hsize hfit
    (typeField_binding hklass hmethod) fun h => absurd h (klass_ne_errorResponse hklass)
  obtain ⟨mi, hmi, hmessage, hcheck⟩ := checkAuthentication_received hmac
    (p := { p with password }) hklass hmethod hname hpassword hsize (stalePadding_length hfit)
    localUsername localPassword
  refine ⟨p', out, _, mi, _, _, hser, hparse, hmi, hmessage, hcheck, ?_, ?_⟩
  · constructor
    · intro h
      by_contra hno
      rw [if_neg hno] at h
      cases h
    · intro h
      exact if_pos h
  · split
    · exact .inl rfl
    · exact .inr rfl

theorem checkAuthentication_serialize_bindingRequest :
    bindingRequest.username ≠ [] ∧ ∃ p' out r,
      serialize bindingRequestHmac (bindingRequest.authenticate [112, 119])
        (List.replicate 88 0) = .ok (p', out) ∧
      parse (out.take p'.size) p'.size = .ok (some r) ∧
      checkAuthentication bindingRequestHmac r [97, 98, 99, 100] [112, 119] = .ok (.ok, r) := by
  obtain ⟨p', out, r, mi, message, result, hser, hparse, _, _, hcheck, hiff, _⟩ :=
    checkAuthentication_serialize bindingRequestHmac bindingRequest [112, 119] [97, 98, 99, 100]
      [112, 119] (List.replicate 88 0) (.inl rfl) rfl (by decide) (by decide) (by decide)
      (by decide)
  have hok : result = .ok := hiff.mpr ⟨by decide, rfl⟩
  rw [hok] at hcheck
  exact ⟨by decide, p', out, r, hser, hparse, hcheck⟩

end EasyWebRtc.Rtc.StunPacket
