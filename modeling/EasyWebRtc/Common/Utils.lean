import EasyWebRtc.Lib.Tlv

/-!
# Byte access, padding, CRC-32, HMAC and random strings of `common/utils.h`

`Fault` collects the ways in which an entry point of the server stops instead
of returning. Every read and write of the sources is checked against the string
it is made on. HMAC-SHA1 comes from OpenSSL and is a parameter: any function of
key and message with 20-byte results.
-/

namespace EasyWebRtc

open Octets

/-- How a call can fail to return: an access outside its buffer, an `MS_ASSERT`
or `MS_ABORT` with its text, the dereference of a null pointer, an exception
that nothing on the call path catches, a call of a connection outside its own
event loop, or a loop that does not end. -/
inductive Fault where
  | outOfBounds
  | abort (desc : String)
  | nullPointer
  | exception (desc : String)
  | notInLoopThread
  | diverged
  deriving DecidableEq, Repr

abbrev Exec (α : Type) := Except Fault α

@[simp] theorem Exec.ok_bind {α β : Type} (a : α) (f : α → Exec β) :
    (Except.ok a >>= f) = f a := rfl

@[simp] theorem Exec.error_bind {α β : Type} (e : Fault) (f : α → Exec β) :
    ((Except.error e : Exec α) >>= f) = .error e := rfl

@[simp] theorem Exec.pure_eq_ok {α : Type} (a : α) : (pure a : Exec α) = .ok a := rfl

theorem Exec.bind_eq_ok {α β : Type} {x : Exec α} {f : α → Exec β} {b : β} :
    (x >>= f) = .ok b ↔ ∃ a, x = .ok a ∧ f a = .ok b := by
  cases x <;> simp

namespace Utils

/-! ## `Utils::Byte` -/

namespace Byte

def get1Byte (data : Bytes) (i : Nat) : Exec UInt8 := load .outOfBounds data i

def get2Bytes (data : Bytes) (i : Nat) : Exec UInt16 := do
  let lo ← get1Byte data (i + 1)
  let hi ← get1Byte data i
  return word16 hi lo

def get4Bytes (data : Bytes) (i : Nat) : Exec UInt32 := do
  let b₃ ← get1Byte data (i + 3)
  let b₂ ← get1Byte data (i + 2)
  let b₁ ← get1Byte data (i + 1)
  let b₀ ← get1Byte data i
  return word32 b₀ b₁ b₂ b₃

def get8Bytes (data : Bytes) (i : Nat) : Exec UInt64 := do
  let hi ← get4Bytes data i
  let lo ← get4Bytes data (i + 4)
  return word64 hi lo

def set1Byte (data : Bytes) (i : Nat) (value : UInt8) : Exec Bytes :=
  store .outOfBounds data i value

def set2Bytes (data : Bytes) (i : Nat) (value : UInt16) : Exec Bytes := do
  let data ← set1Byte data (i + 1) value.toUInt8
  set1Byte data i (value >>> 8).toUInt8

def set4Bytes (data : Bytes) (i : Nat) (value : UInt32) : Exec Bytes := do
  let data ← set1Byte data (i + 3) value.toUInt8
  let data ← set1Byte data (i + 2) (value >>> 8).toUInt8
  let data ← set1Byte data (i + 1) (value >>> 16).toUInt8
  set1Byte data i (value >>> 24).toUInt8

def set8Bytes (data : Bytes) (i : Nat) (value : UInt64) : Exec Bytes := do
  let data ← set1Byte data (i + 7) value.toUInt8
  let data ← set1Byte data (i + 6) (value >>> 8).toUInt8
  let data ← set1Byte data (i + 5) (value >>> 16).toUInt8
  let data ← set1Byte data (i + 4) (value >>> 24).toUInt8
  let data ← set1Byte data (i + 3) (value >>> 32).toUInt8
  let data ← set1Byte data (i + 2) (value >>> 40).toUInt8
  let data ← set1Byte data (i + 1) (value >>> 48).toUInt8
  set1Byte data i (value >>> 56).toUInt8

def memcpy (data : Bytes) (i : Nat) (src : Bytes) : Exec Bytes :=
  storeAll .outOfBounds data i src

/-- The 16-bit overload: the sum wraps at the top of the range. -/
def padTo4Bytes (size : UInt16) : UInt16 :=
  if size &&& 0x03 ≠ 0 then (size &&& 0xFFFC) + 4 else size

theorem get1Byte_of_drop {data rest : Bytes} {i : Nat} {b : UInt8}
    (h : data.drop i = b :: rest) : get1Byte data i = .ok b :=
  load_of_drop _ h

theorem get2Bytes_of_drop {data rest : Bytes} {i : Nat} {hi lo : UInt8}
    (h : data.drop i = hi :: lo :: rest) : get2Bytes data i = .ok (word16 hi lo) := by
  have h₁ := drop_succ_of_drop h
  simp only [get2Bytes, get1Byte_of_drop h, get1Byte_of_drop h₁]
  rfl

theorem get4Bytes_of_drop {data rest : Bytes} {i : Nat} {b₀ b₁ b₂ b₃ : UInt8}
    (h : data.drop i = b₀ :: b₁ :: b₂ :: b₃ :: rest) :
    get4Bytes data i = .ok (word32 b₀ b₁ b₂ b₃) := by
  have h₁ := drop_succ_of_drop h
  have h₂ := drop_succ_of_drop h₁
  have h₃ := drop_succ_of_drop h₂
  simp only [get4Bytes, get1Byte_of_drop h, get1Byte_of_drop h₁, get1Byte_of_drop h₂,
    get1Byte_of_drop h₃]
  rfl

theorem set2Bytes_fresh (pre rest : Bytes) (value : UInt16) (h : 2 ≤ rest.length) :
    set2Bytes (pre ++ rest) pre.length value = .ok (pre ++ be16 value ++ rest.drop 2) := by
  match rest, h with
  | _ :: _ :: rest, _ =>
      simp only [set2Bytes, set1Byte, store_append_right, store_append, store_cons_succ,
        store_cons_zero, Except.map, Exec.ok_bind]
      simp [be16]

theorem set4Bytes_fresh (pre rest : Bytes) (value : UInt32) (h : 4 ≤ rest.length) :
    set4Bytes (pre ++ rest) pre.length value = .ok (pre ++ be32 value ++ rest.drop 4) := by
  match rest, h with
  | _ :: _ :: _ :: _ :: rest, _ =>
      simp only [set4Bytes, set1Byte, store_append_right, store_append, store_cons_succ,
        store_cons_zero, Except.map, Exec.ok_bind]
      simp [be32]

theorem set8Bytes_fresh (pre rest : Bytes) (value : UInt64) (h : 8 ≤ rest.length) :
    set8Bytes (pre ++ rest) pre.length value = .ok (pre ++ be64 value ++ rest.drop 8) := by
  match rest, h with
  | _ :: _ :: _ :: _ :: _ :: _ :: _ :: _ :: rest, _ =>
      simp only [set8Bytes, set1Byte, store_append_right, store_append, store_cons_succ,
        store_cons_zero, Except.map, Exec.ok_bind]
      simp [be64]

theorem memcpy_fresh (pre rest src : Bytes) (h : src.length ≤ rest.length) :
    memcpy (pre ++ rest) pre.length src = .ok (pre ++ src ++ rest.drop src.length) :=
  storeAll_fresh Fault.outOfBounds pre rest src h

theorem set2Bytes_append (pre post : Bytes) (old value : UInt16) :
    set2Bytes (pre ++ be16 old ++ post) pre.length value = .ok (pre ++ be16 value ++ post) := by
  rw [List.append_assoc, set2Bytes_fresh pre _ value (by simp)]
  rfl

theorem and_0x03_toNat (size : UInt16) : (size &&& 0x03).toNat = size.toNat % 4 := by
  rw [UInt16.toNat_and]
  exact Nat.and_two_pow_sub_one_eq_mod size.toNat 2

theorem and_0xFFFC_toNat (size : UInt16) :
    (size &&& 0xFFFC).toNat = size.toNat - size.toNat % 4 := by
  have hlt := size.toNat_lt
  have hmask : (0xFFFC : UInt16).toNat = (2 ^ 14 - 1) <<< 2 := rfl
  have hrhs : size.toNat - size.toNat % 4 = (size.toNat >>> 2) <<< 2 := by
    rw [Nat.shiftLeft_eq, Nat.shiftRight_eq_div_pow]
    omega
  apply Nat.eq_of_testBit_eq
  intro i
  rw [UInt16.toNat_and, hrhs, hmask, Nat.testBit_and, Nat.testBit_shiftLeft,
    Nat.testBit_shiftLeft, Nat.testBit_two_pow_sub_one, Nat.testBit_shiftRight]
  by_cases hi : 2 ≤ i
  · by_cases hj : i - 2 < 14
    · simp [hi, hj, Nat.add_sub_cancel' hi]
    · have hbig : size.toNat.testBit i = false :=
        Nat.testBit_lt_two_pow (Nat.lt_of_lt_of_le hlt (Nat.pow_le_pow_right (by decide) (by omega)))
      simp [hj, Nat.add_sub_cancel' hi, hbig]
  · simp [hi]

theorem padTo4Bytes_toNat_mod (size : UInt16) :
    (padTo4Bytes size).toNat = (size.toNat + Tlv.padLen 4 size.toNat) % 65536 := by
  have hlt := size.toNat_lt
  unfold padTo4Bytes Tlv.padLen
  by_cases hz : size &&& 0x03 = 0
  · have h0 : size.toNat % 4 = 0 := by
      rw [← and_0x03_toNat, hz]
      rfl
    simp [hz, h0]
  · have h0 : size.toNat % 4 ≠ 0 := by
      intro h0
      apply hz
      apply UInt16.toNat_inj.mp
      rw [and_0x03_toNat, h0]
      rfl
    have h4 : (4 : UInt16).toNat = 4 := rfl
    rw [if_pos hz, UInt16.toNat_add, and_0xFFFC_toNat, h4]
    omega

theorem padTo4Bytes_toNat (size : UInt16) (h : size.toNat ≤ 65532) :
    (padTo4Bytes size).toNat = size.toNat + Tlv.padLen 4 size.toNat := by
  have hpad : Tlv.padLen 4 size.toNat = (4 - size.toNat % 4) % 4 := rfl
  rw [padTo4Bytes_toNat_mod, Nat.mod_eq_of_lt (by omega)]

end Byte

/-! ## `Utils::Crypto` -/

namespace Crypto

def crc32Table : Array UInt32 := #[
    0x00000000, 0x77073096, 0xee0e612c, 0x990951ba, 0x076dc419, 0x706af48f, 0xe963a535, 0x9e6495a3,
    0x0edb8832, 0x79dcb8a4, 0xe0d5e91e, 0x97d2d988, 0x09b64c2b, 0x7eb17cbd, 0xe7b82d07, 0x90bf1d91,
    0x1db71064, 0x6ab020f2, 0xf3b97148, 0x84be41de, 0x1adad47d, 0x6ddde4eb, 0xf4d4b551, 0x83d385c7,
    0x136c9856, 0x646ba8c0, 0xfd62f97a, 0x8a65c9ec, 0x14015c4f, 0x63066cd9, 0xfa0f3d63, 0x8d080df5,
    0x3b6e20c8, 0x4c69105e, 0xd56041e4, 0xa2677172, 0x3c03e4d1, 0x4b04d447, 0xd20d85fd, 0xa50ab56b,
    0x35b5a8fa, 0x42b2986c, 0xdbbbc9d6, 0xacbcf940, 0x32d86ce3, 0x45df5c75, 0xdcd60dcf, 0xabd13d59,
    0x26d930ac, 0x51de003a, 0xc8d75180, 0xbfd06116, 0x21b4f4b5, 0x56b3c423, 0xcfba9599, 0xb8bda50f,
    0x2802b89e, 0x5f058808, 0xc60cd9b2, 0xb10be924, 0x2f6f7c87, 0x58684c11, 0xc1611dab, 0xb6662d3d,
    0x76dc4190, 0x01db7106, 0x98d220bc, 0xefd5102a, 0x71b18589, 0x06b6b51f, 0x9fbfe4a5, 0xe8b8d433,
    0x7807c9a2, 0x0f00f934, 0x9609a88e, 0xe10e9818, 0x7f6a0dbb, 0x086d3d2d, 0x91646c97, 0xe6635c01,
    0x6b6b51f4, 0x1c6c6162, 0x856530d8, 0xf262004e, 0x6c0695ed, 0x1b01a57b, 0x8208f4c1, 0xf50fc457,
    0x65b0d9c6, 0x12b7e950, 0x8bbeb8ea, 0xfcb9887c, 0x62dd1ddf, 0x15da2d49, 0x8cd37cf3, 0xfbd44c65,
    0x4db26158, 0x3ab551ce, 0xa3bc0074, 0xd4bb30e2, 0x4adfa541, 0x3dd895d7, 0xa4d1c46d, 0xd3d6f4fb,
    0x4369e96a, 0x346ed9fc, 0xad678846, 0xda60b8d0, 0x44042d73, 0x33031de5, 0xaa0a4c5f, 0xdd0d7cc9,
    0x5005713c, 0x270241aa, 0xbe0b1010, 0xc90c2086, 0x5768b525, 0x206f85b3, 0xb966d409, 0xce61e49f,
    0x5edef90e, 0x29d9c998, 0xb0d09822, 0xc7d7a8b4, 0x59b33d17, 0x2eb40d81, 0xb7bd5c3b, 0xc0ba6cad,
    0xedb88320, 0x9abfb3b6, 0x03b6e20c, 0x74b1d29a, 0xead54739, 0x9dd277af, 0x04db2615, 0x73dc1683,
    0xe3630b12, 0x94643b84, 0x0d6d6a3e, 0x7a6a5aa8, 0xe40ecf0b, 0x9309ff9d, 0x0a00ae27, 0x7d079eb1,
    0xf00f9344, 0x8708a3d2, 0x1e01f268, 0x6906c2fe, 0xf762575d, 0x806567cb, 0x196c3671, 0x6e6b06e7,
    0xfed41b76, 0x89d32be0, 0x10da7a5a, 0x67dd4acc, 0xf9b9df6f, 0x8ebeeff9, 0x17b7be43, 0x60b08ed5,
    0xd6d6a3e8, 0xa1d1937e, 0x38d8c2c4, 0x4fdff252, 0xd1bb67f1, 0xa6bc5767, 0x3fb506dd, 0x48b2364b,
    0xd80d2bda, 0xaf0a1b4c, 0x36034af6, 0x41047a60, 0xdf60efc3, 0xa867df55, 0x316e8eef, 0x4669be79,
    0xcb61b38c, 0xbc66831a, 0x256fd2a0, 0x5268e236, 0xcc0c7795, 0xbb0b4703, 0x220216b9, 0x5505262f,
    0xc5ba3bbe, 0xb2bd0b28, 0x2bb45a92, 0x5cb36a04, 0xc2d7ffa7, 0xb5d0cf31, 0x2cd99e8b, 0x5bdeae1d,
    0x9b64c2b0, 0xec63f226, 0x756aa39c, 0x026d930a, 0x9c0906a9, 0xeb0e363f, 0x72076785, 0x05005713,
    0x95bf4a82, 0xe2b87a14, 0x7bb12bae, 0x0cb61b38, 0x92d28e9b, 0xe5d5be0d, 0x7cdcefb7, 0x0bdbdf21,
    0x86d3d2d4, 0xf1d4e242, 0x68ddb3f8, 0x1fda836e, 0x81be16cd, 0xf6b9265b, 0x6fb077e1, 0x18b74777,
    0x88085ae6, 0xff0f6a70, 0x66063bca, 0x11010b5c, 0x8f659eff, 0xf862ae69, 0x616bffd3, 0x166ccf45,
    0xa00ae278, 0xd70dd2ee, 0x4e048354, 0x3903b3c2, 0xa7672661, 0xd06016f7, 0x4969474d, 0x3e6e77db,
    0xaed16a4a, 0xd9d65adc, 0x40df0b66, 0x37d83bf0, 0xa9bcae53, 0xdebb9ec5, 0x47b2cf7f, 0x30b5ffe9,
    0xbdbdf21c, 0xcabac28a, 0x53b39330, 0x24b4a3a6, 0xbad03605, 0xcdd70693, 0x54de5729, 0x23d967bf,
    0xb3667a2e, 0xc4614ab8, 0x5d681b02, 0x2a6f2b94, 0xb40bbe37, 0xc30c8ea1, 0x5a05df1b, 0x2d02ef8d]

/-- One turn of the loop of `GetCRC32`. The index is below 256. -/
def crcStep (crc : UInt32) (b : UInt8) : UInt32 :=
  crc32Table.getD ((crc ^^^ b.toUInt32) &&& 0xFF).toNat 0 ^^^ (crc >>> 8)

def crc32 (message : Bytes) : UInt32 := message.foldl crcStep 0xFFFFFFFF ^^^ 0xFFFFFFFF

/-- The first `size` bytes of a buffer, which must all be there. -/
def readPrefix (data : Bytes) (size : Nat) : Exec Bytes :=
  if (data.take size).length = size then .ok (data.take size) else .error .outOfBounds

def getCRC32 (data : Bytes) (size : Nat) : Exec UInt32 := do
  let message ← readPrefix data size
  return crc32 message

/-- `GetRandomUInt` with the global seed: the number and the seed afterwards. -/
def getRandomUInt (seed min max : UInt32) : UInt32 × UInt32 :=
  let seed := 214013 * seed + 2531011
  let max := if max = 4294967295 then max - 1 else max
  let min := if min > max then max else min
  (((seed >>> 4) &&& 0x7FFF7FFF) % (max - min + 1) + min, seed)

def chars : Array UInt8 := #[
    0x30, 0x31, 0x32, 0x33, 0x34, 0x35, 0x36, 0x37, 0x38, 0x39, 0x61, 0x62,
    0x63, 0x64, 0x65, 0x66, 0x67, 0x68, 0x69, 0x6a, 0x6b, 0x6c, 0x6d, 0x6e,
    0x6f, 0x70, 0x71, 0x72, 0x73, 0x74, 0x75, 0x76, 0x77, 0x78, 0x79, 0x7a]

/-- The loop of `GetRandomString`. The index is below 36. -/
def randomChars : Nat → UInt32 → Bytes × UInt32
  | 0, seed => ([], seed)
  | n + 1, seed =>
      let (index, seed) := getRandomUInt seed 0 35
      let (rest, seed) := randomChars n seed
      (chars.getD index.toNat 0 :: rest, seed)

def getRandomString (seed : UInt32) (len : Nat) : Bytes × UInt32 :=
  randomChars (if len > 64 then 64 else len) seed

/-- HMAC-SHA1 as OpenSSL computes it, by key and message. -/
structure HmacSha1 where
  digest : Bytes → Bytes → Bytes
  digest_length : ∀ key message, (digest key message).length = 20

/-- The function with one known digest, zero elsewhere. -/
def hmacAt (key message digest : Bytes) (h : digest.length = 20) : HmacSha1 where
  digest key' message' :=
    if key' = key ∧ message' = message then digest else List.replicate 20 0
  digest_length key' message' := by
    split
    · exact h
    · rfl

def getHmacShA1 (hmac : HmacSha1) (key data : Bytes) (len : Nat) : Exec Bytes := do
  let message ← readPrefix data len
  return hmac.digest key message

theorem readPrefix_append (pre post : Bytes) : readPrefix (pre ++ post) pre.length = .ok pre := by
  simp [readPrefix]

theorem getCRC32_append (pre post : Bytes) :
    getCRC32 (pre ++ post) pre.length = .ok (crc32 pre) := by
  rw [getCRC32, readPrefix_append]
  rfl

theorem getHmacShA1_append (hmac : HmacSha1) (key pre post : Bytes) :
    getHmacShA1 hmac key (pre ++ post) pre.length = .ok (hmac.digest key pre) := by
  rw [getHmacShA1, readPrefix_append]
  rfl

end Crypto

end Utils

end EasyWebRtc
