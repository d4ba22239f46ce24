import EasyWebRtc.Lib.Crc
import EasyWebRtc.Common.Utils

/-!
# The table of `common/crypto.cc` is that of CRC-32

The reflected CRC-32 with polynomial `0xEDB88320`, taken one bit of the message
at a time, and `GetCRC32`, which takes a byte at a time from `crc32Table`.
-/

namespace EasyWebRtc.Utils.Crypto

open Octets

def crc32Reflected : Crc.Reflected 32 where
  poly := 0xEDB88320#32
  init := 0xFFFFFFFF#32
  xorOut := 0xFFFFFFFF#32

/-- CRC-32 bit by bit, the lowest bit of every byte first. -/
def bitwiseCrc32 (message : Bytes) : UInt32 :=
  .ofBitVec (crc32Reflected.checksum ((message.map UInt8.toBitVec).flatMap Crc.bits))

/-! ## The table -/

theorem crc32Table_toList : crc32Table.toList = (List.range 256).map fun i =>
    .ofBitVec ((Crc.shift crc32Reflected.poly)^[8] (BitVec.ofNat 32 i)) := by
  decide +kernel

theorem crc32Table_size : crc32Table.size = 256 := by
  rw [← Array.length_toList, crc32Table_toList, List.length_map, List.length_range]

theorem crc32Table_isTable :
    Crc.IsTable crc32Reflected.poly 8 fun i => (crc32Table.getD i 0).toBitVec := by
  intro i hi
  have hi : i < 256 := hi
  have hentry : crc32Table[i]? =
      some (.ofBitVec ((Crc.shift crc32Reflected.poly)^[8] (BitVec.ofNat 32 i))) := by
    rw [← Array.getElem?_toList, crc32Table_toList, List.getElem?_map, List.getElem?_range hi]
    rfl
  simp only [Array.getD_eq_getD_getElem?, hentry, Option.getD_some]

/-! ## The loop -/

theorem crcIndex_toNat (crc : UInt32) (b : UInt8) :
    ((crc ^^^ b.toUInt32) &&& 0xFF).toNat =
      (crc.toBitVec ^^^ b.toBitVec.setWidth 32).toNat % 2 ^ 8 := by
  rw [UInt32.toNat_and]
  exact Nat.and_two_pow_sub_one_eq_mod _ 8

/-- No turn of the loop reads outside the table. -/
theorem crcIndex_lt (crc : UInt32) (b : UInt8) :
    ((crc ^^^ b.toUInt32) &&& 0xFF).toNat < crc32Table.size := by
  rw [crcIndex_toNat, crc32Table_size]
  exact Nat.mod_lt _ (by decide)

theorem crcStep_toBitVec (crc : UInt32) (b : UInt8) :
    (crcStep crc b).toBitVec =
      Crc.tableStep (fun i => (crc32Table.getD i 0).toBitVec) crc.toBitVec b.toBitVec := by
  rw [crcStep, UInt32.toBitVec_xor, crcIndex_toNat]
  rfl

theorem foldl_crcStep_toBitVec (crc : UInt32) (message : Bytes) :
    (message.foldl crcStep crc).toBitVec =
      ((message.map UInt8.toBitVec).flatMap Crc.bits).foldl (Crc.feed crc32Reflected.poly)
        crc.toBitVec := by
  rw [← crc32Table_isTable.foldl_tableStep (by decide), List.foldl_map]
  symm
  apply List.foldl_hom UInt32.toBitVec
  intro crc b
  exact (crcStep_toBitVec crc b).symm

theorem crc32_eq_bitwiseCrc32 (message : Bytes) : crc32 message = bitwiseCrc32 message := by
  apply UInt32.toBitVec_inj.mp
  rw [crc32, UInt32.toBitVec_xor, foldl_crcStep_toBitVec]
  rfl

/-! ## Changes of a message -/

theorem flatMap_bits_length (message : Bytes) :
    ((message.map UInt8.toBitVec).flatMap Crc.bits).length = 8 * message.length := by
  induction message with
  | nil => rfl
  | cons b message ih =>
      rw [List.map_cons, List.flatMap_cons, List.length_append, ih, List.length_cons]
      simp only [Crc.bits, List.length_map, List.length_range]
      omega

theorem bits_injective : Function.Injective fun b : UInt8 => Crc.bits b.toBitVec := by
  intro b b' h
  apply UInt8.toBitVec_inj.mp
  apply BitVec.eq_of_getLsbD_eq
  intro i hi
  have hbit := congrArg (fun l : List Bool => l[i]?) h
  simpa [Crc.bits, hi] using hbit

theorem flatMap_bits_injective {message message' : Bytes} (hlen : message.length = message'.length)
    (h : (message.map UInt8.toBitVec).flatMap Crc.bits =
      (message'.map UInt8.toBitVec).flatMap Crc.bits) : message = message' := by
  induction message generalizing message' with
  | nil => exact (List.eq_nil_of_length_eq_zero hlen.symm).symm
  | cons b message ih =>
      cases message' with
      | nil => cases hlen
      | cons b' message' =>
          rw [List.map_cons, List.flatMap_cons, List.map_cons, List.flatMap_cons] at h
          obtain ⟨hfirst, hrest⟩ := List.append_inj h (by simp [Crc.bits])
          rw [bits_injective hfirst, ih (Nat.succ.inj hlen) hrest]

/-- Up to four bytes cannot be changed without changing the CRC-32. -/
theorem bitwiseCrc32_burst {before burst burst' after : Bytes}
    (hlen : burst.length = burst'.length) (hshort : burst.length ≤ 4)
    (h : bitwiseCrc32 (before ++ burst ++ after) = bitwiseCrc32 (before ++ burst' ++ after)) :
    burst = burst' := by
  have hchecksum := UInt32.toBitVec_inj.mpr h
  simp only [bitwiseCrc32, List.map_append, List.flatMap_append] at hchecksum
  apply flatMap_bits_injective hlen
  apply crc32Reflected.checksum_burst (by decide) ?_ ?_ hchecksum
  · rw [flatMap_bits_length, flatMap_bits_length, hlen]
  · rw [flatMap_bits_length]
    omega

-- The check value of CRC-32, for the ASCII string "123456789".
example : bitwiseCrc32 [0x31, 0x32, 0x33, 0x34, 0x35, 0x36, 0x37, 0x38, 0x39] = 0xCBF43926 := by
  decide +kernel

end EasyWebRtc.Utils.Crypto
