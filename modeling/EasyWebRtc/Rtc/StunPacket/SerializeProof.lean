import EasyWebRtc.Rtc.StunPacket.Serialize

/-!
# What `Serialize` writes

Each attribute writer extends the written prefix of the buffer by the bytes of
the records it stands for; the writers compose. The specification of the whole
encoder gives the message as header and records.
-/

namespace EasyWebRtc.Rtc.StunPacket

open Octets Utils Tlv

/-! ## Encoded form -/

def headerBytes (msgType msgLength : UInt16) (transactionId : TransactionId) : Bytes :=
  be16 msgType ++ be16 msgLength ++ magicCookie ++ transactionId.bytes

@[simp] theorem headerBytes_length (msgType msgLength : UInt16) (transactionId : TransactionId) :
    (headerBytes msgType msgLength transactionId).length = 20 := by
  simp [headerBytes, magicCookie, transactionId.length_bytes]

def recordIf (c : Prop) [Decidable c] (attrType : Attribute) (value padding : Bytes) :
    List Record :=
  if c then [⟨attrType.code, value, padding⟩] else []

def xorMappedAddressRecords (p : StunPacket) : List Record :=
  match p.addXorMappedAddress with
  | some address =>
      [⟨Attribute.xorMappedAddress.code, xorMappedAddressValue p.transactionId address, []⟩]
  | none => []

/-- The attributes other than USERNAME, MESSAGE-INTEGRITY and FINGERPRINT. -/
def plainRecords (p : StunPacket) : List Record :=
  recordIf (p.priority ≠ 0) .priority (be32 p.priority) [] ++
    (recordIf (p.iceControlling ≠ 0) .iceControlling (be64 p.iceControlling) [] ++
    (recordIf (p.iceControlled ≠ 0) .iceControlled (be64 p.iceControlled) [] ++
    (recordIf (p.hasUseCandidate = true) .useCandidate [] [] ++
    (p.xorMappedAddressRecords ++
    recordIf (p.addErrorCode = true) .errorCode
      [0, 0, codeClass p.errorCode, codeNumber p.errorCode] []))))

/-- The attributes before MESSAGE-INTEGRITY; `padding` is the padding of USERNAME. -/
def bodyRecords (p : StunPacket) (padding : Bytes) : List Record :=
  recordIf (p.username ≠ []) .username p.username padding ++ p.plainRecords

/-! ## Writers -/

/-- `f` extends the written part `pre` of a buffer by the records `rs`. -/
def EmitsAt (pre rest : Bytes) (f : Cursor → Exec Cursor) (rs : List Record) : Prop :=
  f ⟨pre ++ rest, pre.length⟩ =
    .ok ⟨pre ++ rs.flatMap Record.bytes ++ rest.drop (rs.flatMap Record.bytes).length,
      (pre ++ rs.flatMap Record.bytes).length⟩

theorem EmitsAt.comp {pre rest : Bytes} {f g : Cursor → Exec Cursor} {rs rs' : List Record}
    (hf : EmitsAt pre rest f rs)
    (hg : EmitsAt (pre ++ rs.flatMap Record.bytes) (rest.drop (rs.flatMap Record.bytes).length)
      g rs') :
    EmitsAt pre rest (fun c => f c >>= g) (rs ++ rs') := by
  unfold EmitsAt at hf hg ⊢
  simp only [hf, Exec.ok_bind, hg]
  simp [List.flatMap_append, List.append_assoc, List.drop_drop]

/-- `f` appends the records `rs` wherever they fit. -/
def Emits (f : Cursor → Exec Cursor) (rs : List Record) : Prop :=
  ∀ pre rest : Bytes, (rs.flatMap Record.bytes).length ≤ rest.length → EmitsAt pre rest f rs

theorem Emits.nil : Emits (fun c => .ok c) [] := by
  intro pre rest _
  simp [EmitsAt]

theorem Emits.comp {f g : Cursor → Exec Cursor} {rs rs' : List Record} (hf : Emits f rs)
    (hg : Emits g rs') : Emits (fun c => f c >>= g) (rs ++ rs') := by
  intro pre rest hlen
  rw [List.flatMap_append, List.length_append] at hlen
  apply EmitsAt.comp
  · exact hf pre rest (by omega)
  · exact hg _ _ (by rw [List.length_drop]; omega)

theorem putAttribute_fresh (pre rest : Bytes) (attrType : Attribute) (attrLength : UInt16)
    (h : 4 ≤ rest.length) :
    putAttribute ⟨pre ++ rest, pre.length⟩ attrType attrLength =
      .ok (pre ++ (be16 attrType.code ++ be16 attrLength) ++ rest.drop 4) := by
  have htype := Byte.set2Bytes_fresh pre rest attrType.code (by omega)
  have hlength := Byte.set2Bytes_fresh (pre ++ be16 attrType.code) (rest.drop 2) attrLength
    (by rw [List.length_drop]; omega)
  rw [List.length_append, be16_length] at hlength
  simp only [putAttribute, htype, Exec.ok_bind, hlength]
  simp [List.append_assoc, List.drop_drop]

theorem putAttribute_write_fresh (attrType : Attribute) (value : Bytes)
    (write : Bytes → Nat → Exec Bytes)
    (hwrite : ∀ pre rest : Bytes, value.length ≤ rest.length →
      write (pre ++ rest) pre.length = .ok (pre ++ value ++ rest.drop value.length))
    (attrLength : UInt16) (hlength : attrLength = UInt16.ofNat value.length) (pre rest : Bytes)
    (hroom : 4 + value.length ≤ rest.length) :
    (putAttribute ⟨pre ++ rest, pre.length⟩ attrType attrLength >>= fun buffer =>
        write buffer (pre.length + 4)) =
      .ok (pre ++ Record.bytes ⟨attrType.code, value, []⟩ ++ rest.drop (4 + value.length)) := by
  subst hlength
  have hput := putAttribute_fresh pre rest attrType (UInt16.ofNat value.length) (by omega)
  have hval := hwrite (pre ++ (be16 attrType.code ++ be16 (UInt16.ofNat value.length)))
    (rest.drop 4) (by rw [List.length_drop]; omega)
  rw [show (pre ++ (be16 attrType.code ++ be16 (UInt16.ofNat value.length))).length =
    pre.length + 4 by simp] at hval
  rw [hput, Exec.ok_bind, hval]
  simp [Record.bytes, List.append_assoc, List.drop_drop]

theorem emits_write (attrType : Attribute) (value : Bytes) (write : Bytes → Nat → Exec Bytes)
    (hwrite : ∀ pre rest : Bytes, value.length ≤ rest.length →
      write (pre ++ rest) pre.length = .ok (pre ++ value ++ rest.drop value.length))
    (next : Nat) (hnext : next = 4 + value.length)
    (attrLength : UInt16) (hlength : attrLength = UInt16.ofNat value.length) :
    Emits (fun c => do
      let buffer ← putAttribute c attrType attrLength
      let buffer ← write buffer (c.pos + 4)
      return ⟨buffer, c.pos + next⟩) [⟨attrType.code, value, []⟩] := by
  intro pre rest hlen
  subst hnext
  simp only [EmitsAt, List.flatMap_cons, List.flatMap_nil, List.append_nil, Record.bytes_length,
    List.length_nil, Nat.add_zero, List.length_append] at hlen ⊢
  have h := putAttribute_write_fresh attrType value write hwrite attrLength hlength pre rest hlen
  rw [← bind_assoc, h]
  rfl

theorem emits_if {c : Prop} [Decidable c] {f : Cursor → Exec Cursor} {attrType : Attribute}
    {value padding : Bytes} (h : Emits f [⟨attrType.code, value, padding⟩]) :
    Emits (fun cur => if c then f cur else .ok cur) (recordIf c attrType value padding) := by
  by_cases hc : c
  · simpa [recordIf, hc] using h
  · simpa [recordIf, hc] using Emits.nil

theorem putPriority_emits (p : StunPacket) :
    Emits p.putPriority (recordIf (p.priority ≠ 0) .priority (be32 p.priority) []) :=
  emits_if (emits_write .priority (be32 p.priority) (Byte.set4Bytes · · p.priority)
    (fun pre rest h => Byte.set4Bytes_fresh pre rest p.priority h) _ rfl 4 rfl)

theorem putIceControlling_emits (p : StunPacket) :
    Emits p.putIceControlling
      (recordIf (p.iceControlling ≠ 0) .iceControlling (be64 p.iceControlling) []) :=
  emits_if (emits_write .iceControlling (be64 p.iceControlling)
    (Byte.set8Bytes · · p.iceControlling)
    (fun pre rest h => Byte.set8Bytes_fresh pre rest p.iceControlling h) _ rfl 8 rfl)

theorem putIceControlled_emits (p : StunPacket) :
    Emits p.putIceControlled
      (recordIf (p.iceControlled ≠ 0) .iceControlled (be64 p.iceControlled) []) :=
  emits_if (emits_write .iceControlled (be64 p.iceControlled)
    (Byte.set8Bytes · · p.iceControlled)
    (fun pre rest h => Byte.set8Bytes_fresh pre rest p.iceControlled h) _ rfl 8 rfl)

theorem putUseCandidate_emits (p : StunPacket) :
    Emits p.putUseCandidate (recordIf (p.hasUseCandidate = true) .useCandidate [] []) :=
  emits_if (emits_write .useCandidate [] (fun buffer _ => .ok buffer)
    (fun pre rest _ => by simp) _ rfl 0 rfl)

theorem xorMappedAddressValue_length (transactionId : TransactionId) {address : SockAddr}
    (h : ∀ family, address ≠ .other family) :
    (xorMappedAddressValue transactionId address).length =
      (xorMappedAddressPaddedLen address).toNat := by
  cases address with
  | inet port addr => rfl
  | inet6 port addrHi addrLo =>
      simp [xorMappedAddressValue, xorMappedAddressPaddedLen, magicCookie,
        transactionId.length_bytes]
  | other family => exact (h family rfl).elim

theorem addXorMappedAddress_known {p : StunPacket} {address : SockAddr}
    (h : p.addXorMappedAddress = some address) : ∀ family, address ≠ .other family := by
  intro family heq
  subst heq
  unfold addXorMappedAddress at h
  split at h
  · split at h
    · cases h
    · rename_i hne
      exact hne family h
  · cases h

theorem putXorMappedAddress_emits (p : StunPacket) :
    Emits p.putXorMappedAddress p.xorMappedAddressRecords := by
  unfold putXorMappedAddress xorMappedAddressRecords
  cases h : p.addXorMappedAddress with
  | none => exact Emits.nil
  | some address =>
      have hlen := xorMappedAddressValue_length p.transactionId (addXorMappedAddress_known h)
      apply emits_write .xorMappedAddress (xorMappedAddressValue p.transactionId address)
        (Byte.memcpy · · (xorMappedAddressValue p.transactionId address))
        (fun pre rest hrest => Byte.memcpy_fresh pre rest _ hrest) _ (by rw [hlen])
      rw [hlen, UInt16.ofNat_toNat]

theorem set1Byte_fresh (pre rest : Bytes) (value : UInt8) (h : 1 ≤ rest.length) :
    Byte.set1Byte (pre ++ rest) pre.length value = .ok (pre ++ [value] ++ rest.drop 1) := by
  match rest, h with
  | old :: rest, _ => simp [Byte.set1Byte, store_append]

def putErrorCodeValue (errorCode : UInt16) (buffer : Bytes) (pos : Nat) : Exec Bytes := do
  let buffer ← Byte.set2Bytes buffer pos 0
  let buffer ← Byte.set1Byte buffer (pos + 2) (codeClass errorCode)
  Byte.set1Byte buffer (pos + 3) (codeNumber errorCode)

theorem putErrorCodeValue_fresh (errorCode : UInt16) (pre rest : Bytes) (h : 4 ≤ rest.length) :
    putErrorCodeValue errorCode (pre ++ rest) pre.length =
      .ok (pre ++ [0, 0, codeClass errorCode, codeNumber errorCode] ++ rest.drop 4) := by
  have h₀ := Byte.set2Bytes_fresh pre rest 0 (by omega)
  have h₂ := set1Byte_fresh (pre ++ be16 0) (rest.drop 2) (codeClass errorCode)
    (by rw [List.length_drop]; omega)
  have h₃ := set1Byte_fresh (pre ++ be16 0 ++ [codeClass errorCode]) ((rest.drop 2).drop 1)
    (codeNumber errorCode) (by rw [List.length_drop, List.length_drop]; omega)
  simp only [List.length_append, be16_length, List.length_singleton] at h₂ h₃
  simp only [putErrorCodeValue, h₀, h₂, h₃, Exec.ok_bind]
  simp [be16, List.drop_drop]

theorem putErrorCode_emits (p : StunPacket) :
    Emits p.putErrorCode (recordIf (p.addErrorCode = true) .errorCode
      [0, 0, codeClass p.errorCode, codeNumber p.errorCode] []) := by
  have h := emits_write .errorCode [0, 0, codeClass p.errorCode, codeNumber p.errorCode]
    (putErrorCodeValue p.errorCode)
    (fun pre rest h => putErrorCodeValue_fresh p.errorCode pre rest h) _ rfl 4 rfl
  have hif := emits_if (c := p.addErrorCode = true) h
  intro pre rest hlen
  rw [EmitsAt, ← hif pre rest hlen]
  simp only [putErrorCode, putErrorCodeValue]
  split
  · simp [bind_assoc]
  · rfl

theorem plain_emits (p : StunPacket) :
    Emits (fun c => do
      let c ← p.putPriority c
      let c ← p.putIceControlling c
      let c ← p.putIceControlled c
      let c ← p.putUseCandidate c
      let c ← p.putXorMappedAddress c
      p.putErrorCode c) p.plainRecords :=
  (putPriority_emits p).comp <| (putIceControlling_emits p).comp <|
    (putIceControlled_emits p).comp <| (putUseCandidate_emits p).comp <|
    (putXorMappedAddress_emits p).comp (putErrorCode_emits p)

/-! ## USERNAME -/

/-- The encoded size, without the wrap-around of the 16-bit padding. -/
def exactSize (p : StunPacket) : Nat :=
  p.sizeWith (p.username.length + padLen 4 p.username.length)

theorem usernamePaddedLen_toNat {p : StunPacket} (hne : p.username ≠ [])
    (h : p.exactSize ≤ 65532) :
    p.usernamePaddedLen.toNat = p.username.length + padLen 4 p.username.length := by
  unfold exactSize sizeWith at h
  rw [if_pos hne] at h
  have hn : (UInt16.ofNat p.username.length).toNat = p.username.length := by
    rw [UInt16.toNat_ofNat', Nat.mod_eq_of_lt (by omega)]
  rw [usernamePaddedLen, if_pos hne, Byte.padTo4Bytes_toNat _ (by omega), hn]

theorem requiredSize_eq {p : StunPacket} (h : p.exactSize ≤ 65532) :
    p.requiredSize = p.exactSize := by
  by_cases hne : p.username ≠ []
  · rw [requiredSize, exactSize, usernamePaddedLen_toNat hne h]
  · simp [requiredSize, exactSize, sizeWith, not_not.mp hne]

theorem flatMap_recordIf_length (c : Prop) [Decidable c] (attrType : Attribute)
    (value padding : Bytes) :
    ((recordIf c attrType value padding).flatMap Record.bytes).length =
      if c then 4 + (value.length + padding.length) else 0 := by
  unfold recordIf
  split
  · simp [Nat.add_assoc]
  · rfl

theorem xorMappedAddressRecords_length (p : StunPacket) :
    (p.xorMappedAddressRecords.flatMap Record.bytes).length = p.xorMappedAddressSize := by
  unfold xorMappedAddressRecords xorMappedAddressSize
  cases h : p.addXorMappedAddress with
  | none => rfl
  | some address =>
      have hlen := xorMappedAddressValue_length p.transactionId (addXorMappedAddress_known h)
      simp [hlen]

theorem exactSize_eq (p : StunPacket) {padding : Bytes}
    (hpad : padding.length = padLen 4 p.username.length) :
    p.exactSize = 20 + ((p.bodyRecords padding).flatMap Record.bytes).length +
      (if p.addMessageIntegrity then 4 + 20 else 0) + (4 + 4) := by
  simp only [bodyRecords, plainRecords, List.flatMap_append, List.length_append,
    flatMap_recordIf_length, xorMappedAddressRecords_length, hpad, be32_length, be64_length,
    List.length_nil, List.length_cons, exactSize, sizeWith, Nat.add_zero, Nat.zero_add,
    Nat.reduceAdd]
  omega

/-- The bytes of the buffer that become the padding of USERNAME. -/
def stalePadding (p : StunPacket) (buffer : Bytes) : Bytes :=
  (buffer.drop (24 + p.username.length)).take (padLen 4 p.username.length)

theorem stalePadding_length {p : StunPacket} {buffer : Bytes} (hfit : p.exactSize ≤ buffer.length) :
    (p.stalePadding buffer).length = padLen 4 p.username.length := by
  by_cases hne : p.username ≠ []
  · unfold exactSize sizeWith at hfit
    rw [if_pos hne] at hfit
    rw [stalePadding, List.length_take, List.length_drop]
    omega
  · simp [stalePadding, not_not.mp hne, padLen]

theorem putUsername_emitsAt {p : StunPacket} (hsize : p.exactSize ≤ 65532) (pre rest : Bytes)
    (hpre : pre.length = 20) (hfit : p.exactSize ≤ (pre ++ rest).length) :
    EmitsAt pre rest p.putUsername
      (recordIf (p.username ≠ []) .username p.username (p.stalePadding (pre ++ rest))) := by
  have hlen := stalePadding_length hfit
  by_cases hne : p.username ≠ []
  · have hpadded := usernamePaddedLen_toNat hne hsize
    have hroom : 4 + (p.username.length + padLen 4 p.username.length) ≤ rest.length := by
      rw [List.length_append, hpre] at hfit
      unfold exactSize sizeWith at hfit
      rw [if_pos hne] at hfit
      omega
    have hpos : 0 < p.username.length := List.length_pos_of_ne_nil hne
    have hnz : p.usernamePaddedLen ≠ 0 := by
      intro h
      rw [h] at hpadded
      simp at hpadded
      omega
    have hstale : p.stalePadding (pre ++ rest) =
        ((rest.drop 4).drop p.username.length).take (padLen 4 p.username.length) := by
      rw [stalePadding, List.drop_drop, List.drop_append, hpre,
        List.drop_eq_nil_of_le (by omega), List.nil_append]
      congr 2
      omega
    have hput := putAttribute_fresh pre rest .username (UInt16.ofNat p.username.length) (by omega)
    have hcopy := Byte.memcpy_fresh
      (pre ++ (be16 Attribute.username.code ++ be16 (UInt16.ofNat p.username.length)))
      (rest.drop 4) p.username (by rw [List.length_drop]; omega)
    rw [show (pre ++ (be16 Attribute.username.code ++
      be16 (UInt16.ofNat p.username.length))).length = pre.length + 4 by simp] at hcopy
    have hsplit : (rest.drop 4).drop p.username.length =
        p.stalePadding (pre ++ rest) ++
          rest.drop (4 + p.username.length + padLen 4 p.username.length) := by
      rw [hstale, ← List.drop_drop, ← List.drop_drop, List.take_append_drop]
    simp only [EmitsAt, putUsername, if_pos hnz, hput, Exec.ok_bind, hcopy, Exec.pure_eq_ok, hpadded]
    rw [hsplit]
    simp [recordIf, hne, Record.bytes, hlen]
    omega
  · have hnil : p.username = [] := not_not.mp hne
    simp [EmitsAt, putUsername, usernamePaddedLen, recordIf, hnil]

/-! ## The whole message -/

/-- The bytes that MESSAGE-INTEGRITY is computed over. -/
def signedPrefix (p : StunPacket) (padding : Bytes) : Bytes :=
  headerBytes p.typeField (UInt16.ofNat p.exactSize - 20 - 8) p.transactionId ++
    (p.bodyRecords padding).flatMap Record.bytes

def signedRecords (hmac : Crypto.HmacSha1) (p : StunPacket) (padding : Bytes) : List Record :=
  p.bodyRecords padding ++ recordIf (p.addMessageIntegrity = true) .messageIntegrity
    (hmac.digest p.password (p.signedPrefix padding)) []

/-- A message of the packet's type and size with the given attributes. -/
def encode (p : StunPacket) (rs : List Record) : Bytes :=
  headerBytes p.typeField (UInt16.ofNat p.exactSize - 20) p.transactionId ++
    rs.flatMap Record.bytes

def messageRecords (hmac : Crypto.HmacSha1) (p : StunPacket) (padding : Bytes) : List Record :=
  p.signedRecords hmac padding ++ [⟨Attribute.fingerprint.code,
    be32 (Crypto.crc32 (p.encode (p.signedRecords hmac padding)) ^^^ fingerprintXor), []⟩]

/-- What `Serialize` encodes, given the padding of USERNAME. -/
def message (hmac : Crypto.HmacSha1) (p : StunPacket) (padding : Bytes) : Bytes :=
  p.encode (p.messageRecords hmac padding)

theorem encode_length (p : StunPacket) (rs : List Record) :
    (p.encode rs).length = 20 + (rs.flatMap Record.bytes).length := by
  rw [encode, List.length_append, headerBytes_length]

theorem encode_append (p : StunPacket) (rs rs' : List Record) :
    p.encode (rs ++ rs') = p.encode rs ++ rs'.flatMap Record.bytes := by
  rw [encode, encode, List.flatMap_append, List.append_assoc]

theorem message_ends_with_fingerprint (hmac : Crypto.HmacSha1) (p : StunPacket) (padding : Bytes) :
    p.message hmac padding = p.encode (p.signedRecords hmac padding) ++
      Record.bytes ⟨Attribute.fingerprint.code,
        be32 (Crypto.crc32 (p.encode (p.signedRecords hmac padding)) ^^^ fingerprintXor), []⟩ := by
  simp [message, messageRecords, encode_append]

theorem message_length (hmac : Crypto.HmacSha1) (p : StunPacket) {padding : Bytes}
    (hpad : padding.length = padLen 4 p.username.length) :
    (p.message hmac padding).length = p.exactSize := by
  rw [message, encode_length, exactSize_eq p hpad, messageRecords, signedRecords]
  simp only [List.flatMap_append, List.length_append, flatMap_recordIf_length, List.flatMap_cons,
    List.flatMap_nil, List.append_nil, Record.bytes_length, hmac.digest_length, be32_length,
    List.length_nil, Nat.add_zero]
  omega

theorem putHeader_fresh (p : StunPacket) (size : Nat) (buffer : Bytes) (h : 20 ≤ buffer.length) :
    p.putHeader size buffer =
      .ok ⟨headerBytes p.typeField (UInt16.ofNat size - 20) p.transactionId ++ buffer.drop 20,
        20⟩ := by
  have htid := p.transactionId.length_bytes
  have h₀ := Byte.set2Bytes_fresh [] buffer p.typeField (by omega)
  have h₂ := Byte.set2Bytes_fresh (be16 p.typeField) (buffer.drop 2) (UInt16.ofNat size - 20)
    (by rw [List.length_drop]; omega)
  have h₄ := Byte.memcpy_fresh (be16 p.typeField ++ be16 (UInt16.ofNat size - 20))
    ((buffer.drop 2).drop 2) magicCookie (by simp [magicCookie]; omega)
  have h₈ := Byte.memcpy_fresh
    (be16 p.typeField ++ be16 (UInt16.ofNat size - 20) ++ magicCookie)
    (((buffer.drop 2).drop 2).drop 4) p.transactionId.bytes
    (by simp only [List.length_drop, htid]; omega)
  simp only [List.nil_append, List.length_nil] at h₀
  simp only [List.length_append, be16_length, show magicCookie.length = 4 from rfl,
    Nat.reduceAdd, htid, List.drop_drop] at h₂ h₄ h₈
  simp only [putHeader, h₀, h₂, h₄, h₈, Exec.ok_bind, Exec.pure_eq_ok, headerBytes]

theorem set2Bytes_length (msgType old value : UInt16) (transactionId : TransactionId)
    (rest : Bytes) :
    Byte.set2Bytes (headerBytes msgType old transactionId ++ rest) 2 value =
      .ok (headerBytes msgType value transactionId ++ rest) := by
  have h := Byte.set2Bytes_append (be16 msgType) (magicCookie ++ transactionId.bytes ++ rest)
    old value
  simpa [headerBytes, List.append_assoc] using h

theorem putMessageIntegrity_fresh (hmac : Crypto.HmacSha1) (p : StunPacket) (padding rest : Bytes)
    (hroom : (if p.addMessageIntegrity then 4 + 20 else 0) ≤ rest.length) :
    p.putMessageIntegrity hmac p.exactSize
        ⟨p.encode (p.bodyRecords padding) ++ rest, (p.encode (p.bodyRecords padding)).length⟩ =
      .ok (⟨p.encode (p.signedRecords hmac padding) ++
          rest.drop (if p.addMessageIntegrity then 4 + 20 else 0),
          (p.encode (p.signedRecords hmac padding)).length⟩,
        if p.addMessageIntegrity then some ((p.encode (p.bodyRecords padding)).length + 4)
        else none) := by
  cases hadd : p.addMessageIntegrity with
  | false => simp [putMessageIntegrity, hadd, signedRecords, recordIf]
  | true =>
      rw [hadd, if_pos rfl] at hroom
      have hlen : (p.encode (p.bodyRecords padding)).length = (p.signedPrefix padding).length := by
        simp [encode, signedPrefix]
      have hpatch : Byte.set2Bytes (p.encode (p.bodyRecords padding) ++ rest) 2
          (UInt16.ofNat p.exactSize - 20 - 8) = .ok (p.signedPrefix padding ++ rest) := by
        rw [encode, signedPrefix, List.append_assoc, List.append_assoc]
        exact set2Bytes_length _ _ _ _ _
      have hhmac := Crypto.getHmacShA1_append hmac p.password (p.signedPrefix padding) rest
      have hdigest := hmac.digest_length p.password (p.signedPrefix padding)
      have hattr := putAttribute_write_fresh .messageIntegrity
        (hmac.digest p.password (p.signedPrefix padding))
        (Byte.memcpy · · (hmac.digest p.password (p.signedPrefix padding)))
        (fun pre rest h => Byte.memcpy_fresh pre rest _ h) 20 (by rw [hdigest]; rfl)
        (p.signedPrefix padding) rest (by rw [hdigest]; omega)
      have hrestore : Byte.set2Bytes (p.signedPrefix padding ++
          Record.bytes ⟨Attribute.messageIntegrity.code,
            hmac.digest p.password (p.signedPrefix padding), []⟩ ++ rest.drop (4 + 20)) 2
          (UInt16.ofNat p.exactSize - 20) =
          .ok (p.encode (p.signedRecords hmac padding) ++ rest.drop (4 + 20)) := by
        rw [signedRecords, encode_append, recordIf, if_pos hadd, encode, signedPrefix]
        simp only [List.append_assoc, List.flatMap_cons, List.flatMap_nil, List.append_nil]
        exact set2Bytes_length _ _ _ _ _
      rw [← hlen, hdigest] at hattr
      rw [← hlen] at hhmac
      simp only [putMessageIntegrity, hadd, if_true, hpatch, hhmac, Exec.ok_bind]
      rw [← bind_assoc, hattr, Exec.ok_bind, hrestore]
      simp [signedRecords, encode_append, recordIf, hadd, hdigest]

theorem putFingerprint_fresh (pre rest : Bytes) (hroom : 4 + 4 ≤ rest.length) :
    putFingerprint ⟨pre ++ rest, pre.length⟩ =
      .ok ⟨pre ++ Record.bytes ⟨Attribute.fingerprint.code,
        be32 (Crypto.crc32 pre ^^^ fingerprintXor), []⟩ ++ rest.drop (4 + 4),
        pre.length + (4 + 4)⟩ := by
  have hattr := putAttribute_write_fresh .fingerprint
    (be32 (Crypto.crc32 pre ^^^ fingerprintXor))
    (Byte.set4Bytes · · (Crypto.crc32 pre ^^^ fingerprintXor))
    (fun pre' rest h => Byte.set4Bytes_fresh pre' rest _ h) 4 rfl pre rest hroom
  simp only [putFingerprint, Crypto.getCRC32_append, Exec.ok_bind]
  rw [← bind_assoc, hattr]
  rfl

theorem putAttributes_emitsAt {p : StunPacket} (hsize : p.exactSize ≤ 65532) (pre rest : Bytes)
    (hpre : pre.length = 20) (hfit : p.exactSize ≤ (pre ++ rest).length) :
    EmitsAt pre rest p.putAttributes (p.bodyRecords (p.stalePadding (pre ++ rest))) := by
  have hall := exactSize_eq p (stalePadding_length hfit)
  have hroom := hfit
  rw [List.length_append, hpre, hall, bodyRecords, List.flatMap_append, List.length_append]
    at hroom
  apply EmitsAt.comp (putUsername_emitsAt hsize pre rest hpre hfit)
  apply plain_emits p
  rw [List.length_drop]
  omega

/-- `Serialize` fills the buffer with the message of the packet and leaves what
lies behind it. -/
theorem serialize_eq (hmac : Crypto.HmacSha1) {p : StunPacket} {buffer : Bytes}
    (hsize : p.exactSize ≤ 65532) (hfit : p.exactSize ≤ buffer.length) :
    serialize hmac p buffer =
      let data := p.message hmac (p.stalePadding buffer) ++ buffer.drop p.exactSize
      .ok ({ p with
        data
        size := p.exactSize
        messageIntegrity :=
          if p.addMessageIntegrity then
            some ((p.encode (p.bodyRecords (p.stalePadding buffer))).length + 4)
          else none
        hasFingerprint := true }, data) := by
  have hpad := stalePadding_length hfit
  have hall := exactSize_eq p hpad
  have hheader := putHeader_fresh p p.exactSize buffer (by omega)
  have hstale : p.stalePadding (headerBytes p.typeField (UInt16.ofNat p.exactSize - 20)
      p.transactionId ++ buffer.drop 20) = p.stalePadding buffer := by
    rw [stalePadding, List.drop_append, headerBytes_length, List.drop_eq_nil_of_le (by simp; omega),
      List.nil_append, List.drop_drop, stalePadding]
    congr 2
    omega
  have hbody := putAttributes_emitsAt hsize
    (headerBytes p.typeField (UInt16.ofNat p.exactSize - 20) p.transactionId)
    (buffer.drop 20) (headerBytes_length _ _ _)
    (by rw [List.length_append, headerBytes_length, List.length_drop]; omega)
  rw [hstale, EmitsAt, headerBytes_length] at hbody
  have hmi := putMessageIntegrity_fresh hmac p (p.stalePadding buffer)
    ((buffer.drop 20).drop
      ((p.bodyRecords (p.stalePadding buffer)).flatMap Record.bytes).length)
    (by simp only [List.length_drop]; omega)
  have hfp := putFingerprint_fresh (p.encode (p.signedRecords hmac (p.stalePadding buffer)))
    (((buffer.drop 20).drop
      ((p.bodyRecords (p.stalePadding buffer)).flatMap Record.bytes).length).drop
      (if p.addMessageIntegrity then 4 + 20 else 0))
    (by simp only [List.length_drop]; omega)
  have hmessage := (message_ends_with_fingerprint hmac p (p.stalePadding buffer)).symm
  have hend : (p.encode (p.signedRecords hmac (p.stalePadding buffer))).length + (4 + 4) =
      p.exactSize := by
    have hlen := message_length hmac p hpad
    rw [← hmessage, List.length_append, Record.bytes_length] at hlen
    simpa using hlen
  rw [serialize, requiredSize_eq hsize]
  simp only [hheader, Exec.ok_bind, hbody]
  rw [← encode, hmi]
  simp only [Exec.ok_bind, hfp, hmessage, hend, if_true, Exec.pure_eq_ok]
  rw [List.drop_drop, List.drop_drop, List.drop_drop, ← Nat.add_assoc, ← Nat.add_assoc, ← hall]

end EasyWebRtc.Rtc.StunPacket
