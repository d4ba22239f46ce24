import EasyWebRtc.Net.UdpServer
import EasyWebRtc.Rtc.StunPacket.ParseProof
import EasyWebRtc.Rtc.WebRtcTransport.Basic

/-!
# Reading from a socket

`HandleRead` of `UdpServer` and of `UdpConnection` read into one buffer of their
object and store the signed result of `recvfrom` as an unsigned length. A read
that fails leaves the buffer, and the callback is called with the old content
and a length of 2⁶⁴ - 1.
-/

namespace EasyWebRtc.Net

open Octets Utils Rtc

/-- The content of `buf_`. -/
structure ReadBuffer where
  bytes : Bytes
  length_bytes : bytes.length = bufSize

/-- What `recvfrom` finds: a datagram and its source, or an error, which leaves
the address as it was. -/
inductive Arrival where
  | datagram (data : Bytes) (remoteAddr : SockAddrIn)
  | error (uninitialised : SockAddrIn)
  deriving DecidableEq, Repr

/-- `recvfrom`: the buffer and the result. A datagram is cut off at the size of
the buffer. -/
def recvfrom (buf : ReadBuffer) : Arrival → ReadBuffer × Int
  | .datagram data _ =>
      ({ bytes := data.take bufSize ++ buf.bytes.drop (data.take bufSize).length
         length_bytes := by
          have hlen := buf.length_bytes
          simp only [List.length_append, List.length_take, List.length_drop]
          omega },
        (data.take bufSize).length)
  | .error _ => (buf, -1)

def Arrival.remoteAddr : Arrival → SockAddrIn
  | datagram _ remoteAddr => remoteAddr
  | error uninitialised => uninitialised

/-- The arguments of the packet callback. -/
structure Dispatch where
  buf : ReadBuffer
  recvLen : UInt64
  remoteAddr : SockAddrIn

/-- `HandleRead`: the buffer afterwards and the call of the callback, if there is
one. -/
def handleRead (callback : Bool) (buf : ReadBuffer) (arrival : Arrival) :
    ReadBuffer × List Dispatch :=
  let (buf, result) := recvfrom buf arrival
  let recvLen := UInt64.ofInt result
  (buf, if callback then [⟨buf, recvLen, arrival.remoteAddr⟩] else [])

/-- The calls of the callback during a sequence of reads. -/
def handleReads (callback : Bool) : ReadBuffer → List Arrival → List Dispatch
  | _, [] => []
  | buf, arrival :: arrivals =>
      (handleRead callback buf arrival).2 ++
        handleReads callback (handleRead callback buf arrival).1 arrivals

/-! ## What a callback sees -/

def Dispatch.bytes (d : Dispatch) : Bytes := d.buf.bytes.take d.recvLen.toNat

/-- The tests of `OnInputDataPacket` on a pointer and a length. -/
def branchAt (data : Bytes) (len : Nat) : Exec WebRtcTransport.Branch := do
  if ← StunPacket.isStun data len then return .stun
  else if ← DtlsTransport.isDtls data len then return .dtls
  else if ← Rtp.isRtcpPacket data len then return .rtcp
  else if ← Rtp.isRtpPacket data len then return .rtp
  else return .other

def Dispatch.branch (d : Dispatch) : Exec WebRtcTransport.Branch :=
  branchAt d.buf.bytes d.recvLen.toNat

/-- The call passes on the datagram of its read, and the datagram decides the
branch. -/
def Passes (arrival : Arrival) (d : Dispatch) : Prop :=
  ∃ data remoteAddr, arrival = .datagram data remoteAddr ∧ d.bytes = data.take bufSize ∧
    d.recvLen.toNat = (data.take bufSize).length ∧ d.remoteAddr = remoteAddr ∧
    d.branch = WebRtcTransport.branch (data.take bufSize)

def received (arrivals : List Arrival) : List (Bytes × Nat) :=
  arrivals.filterMap fun
    | .datagram data _ => some (data.take bufSize, (data.take bufSize).length)
    | .error _ => none

def Arrival.isReceived : Arrival → Bool
  | .datagram _ _ => true
  | .error _ => false

/-- Each datagram received is dispatched once, with its own length, and whatever
takes a branch of the demultiplexer is such a datagram. -/
structure DispatchedOnce (arrivals : List Arrival) (ds : List Dispatch) : Prop where
  received : ds.map (fun d => (d.bytes, d.recvLen.toNat)) = received arrivals
  bounded : ∀ d ∈ ds, d.recvLen.toNat ≤ bufSize
  fresh : List.Forall₂ (fun arrival d => d.branch ≠ .ok .other → Passes arrival d)
    (arrivals.filter Arrival.isReceived) ds

theorem get1Byte_take {data : Bytes} {len i : Nat} (h : i < len) :
    Byte.get1Byte (data.take len) i = Byte.get1Byte data i := by
  unfold Byte.get1Byte load
  rw [List.getElem?_take_of_lt h]

/-- The tests read nothing behind the length. -/
theorem branchAt_take (data : Bytes) (len : Nat) :
    branchAt (data.take len) len = branchAt data len := by
  have hstun : StunPacket.isStun (data.take len) len = StunPacket.isStun data len := by
    unfold StunPacket.isStun
    split
    · rw [get1Byte_take (by omega), get1Byte_take (by omega), get1Byte_take (by omega),
        get1Byte_take (by omega), get1Byte_take (by omega)]
    · rfl
  have hdtls : DtlsTransport.isDtls (data.take len) len = DtlsTransport.isDtls data len := by
    unfold DtlsTransport.isDtls
    split
    · rw [get1Byte_take (by omega)]
    · rfl
  have hmatches : ∀ (minLen : Nat) (payloadOk : UInt8 → Bool), 2 ≤ minLen →
      Rtp.matchesPacket (data.take len) len minLen payloadOk =
        Rtp.matchesPacket data len minLen payloadOk := by
    intro minLen payloadOk hmin
    unfold Rtp.matchesPacket Rtp.hasCorrectRtpVersion
    split
    · rw [get1Byte_take (by omega), get1Byte_take (by omega)]
    · rfl
  unfold branchAt Rtp.isRtcpPacket Rtp.isRtpPacket
  rw [hstun, hdtls, hmatches _ _ (by decide), hmatches _ _ (by decide)]

/-! ## Reads -/

def dispatchOf (buf : ReadBuffer) (arrival : Arrival) : Dispatch :=
  ⟨(recvfrom buf arrival).1, UInt64.ofInt (recvfrom buf arrival).2, arrival.remoteAddr⟩

theorem handleReads_cons (buf : ReadBuffer) (arrival : Arrival) (arrivals : List Arrival) :
    handleReads true buf (arrival :: arrivals) =
      dispatchOf buf arrival :: handleReads true (recvfrom buf arrival).1 arrivals := rfl

theorem toNat_ofInt_of_le {n : Nat} (h : n ≤ bufSize) : (UInt64.ofInt n).toNat = n := by
  have hlt : n < 2 ^ 64 := by
    unfold bufSize at h
    omega
  have hmod : ((n : Int) % 2 ^ 64).toNat = n := by omega
  rw [UInt64.ofInt, hmod, UInt64.toNat_ofNat']
  exact Nat.mod_eq_of_lt hlt

theorem length_take_bufSize (data : Bytes) : (data.take bufSize).length ≤ bufSize := by
  rw [List.length_take]
  omega

theorem dispatchOf_passes (buf : ReadBuffer) (data : Bytes) (remoteAddr : SockAddrIn) :
    Passes (.datagram data remoteAddr) (dispatchOf buf (.datagram data remoteAddr)) := by
  have hlen : (dispatchOf buf (.datagram data remoteAddr)).recvLen.toNat =
      (data.take bufSize).length := toNat_ofInt_of_le (length_take_bufSize data)
  have hbytes : (dispatchOf buf (.datagram data remoteAddr)).bytes = data.take bufSize := by
    rw [Dispatch.bytes, hlen]
    exact List.take_left
  refine ⟨data, remoteAddr, rfl, hbytes, hlen, rfl, ?_⟩
  calc
    (dispatchOf buf (.datagram data remoteAddr)).branch
        = branchAt (dispatchOf buf (.datagram data remoteAddr)).bytes
            (dispatchOf buf (.datagram data remoteAddr)).recvLen.toNat :=
          (branchAt_take _ _).symm
    _ = branchAt (data.take bufSize) (data.take bufSize).length := by rw [hbytes, hlen]
    _ = WebRtcTransport.branch (data.take bufSize) := rfl

theorem dispatchOf_error (buf : ReadBuffer) (uninitialised : SockAddrIn) :
    (dispatchOf buf (.error uninitialised)).buf = buf ∧
      (dispatchOf buf (.error uninitialised)).recvLen.toNat = 2 ^ 64 - 1 := ⟨rfl, by rfl⟩

/-- The old content may take the STUN branch again, but no length field matches the
length of a read that fails, so that `Parse` discards it. -/
theorem parse_error (buf : ReadBuffer) (uninitialised : SockAddrIn) :
    StunPacket.parse (dispatchOf buf (.error uninitialised)).buf.bytes
      (dispatchOf buf (.error uninitialised)).recvLen.toNat = .ok none := by
  rw [(dispatchOf_error buf uninitialised).1, (dispatchOf_error buf uninitialised).2]
  have hsize : buf.bytes.length = 4096 := buf.length_bytes
  have hisStun : StunPacket.isStun buf.bytes (2 ^ 64 - 1) =
      StunPacket.isStun buf.bytes buf.bytes.length := by
    unfold StunPacket.isStun
    rw [if_pos (by omega), if_pos (by omega)]
  obtain ⟨isStun, htotal⟩ := StunPacket.isStun_total buf.bytes
  obtain ⟨msgType, htype⟩ :=
    StunPacket.exists_get2Bytes (show 0 + 1 < buf.bytes.length by omega)
  obtain ⟨msgLength, hget⟩ :=
    StunPacket.exists_get2Bytes (show 2 + 1 < buf.bytes.length by omega)
  have hfield : msgLength.toNat ≠ 2 ^ 64 - 1 - 20 := by
    have hlt := msgLength.toNat_lt
    omega
  have hheader : StunPacket.parseHeader buf.bytes (2 ^ 64 - 1) = .ok none := by
    simp only [StunPacket.parseHeader, htype, hget, Exec.ok_bind, if_pos (Or.inl hfield),
      Exec.pure_eq_ok]
  unfold StunPacket.parse
  rw [hisStun, htotal, hheader]
  cases isStun <;> rfl

theorem dispatched_of_datagrams {arrivals : List Arrival}
    (h : ∀ arrival ∈ arrivals, ∀ uninitialised, arrival ≠ .error uninitialised)
    (buf : ReadBuffer) : DispatchedOnce arrivals (handleReads true buf arrivals) := by
  induction arrivals generalizing buf with
  | nil =>
      refine ⟨rfl, ?_, .nil⟩
      intro d hd
      cases hd
  | cons arrival arrivals ih =>
      cases arrival with
      | error uninitialised => exact (h _ List.mem_cons_self uninitialised rfl).elim
      | datagram data remoteAddr =>
          have hrest := ih (fun a ha => h a (List.mem_cons_of_mem _ ha))
            (recvfrom buf (.datagram data remoteAddr)).1
          obtain ⟨_, _, heq, hbytes, hlen, -, -⟩ := dispatchOf_passes buf data remoteAddr
          cases heq
          rw [handleReads_cons]
          refine ⟨?_, ?_, .cons (fun _ => dispatchOf_passes buf data remoteAddr) hrest.fresh⟩
          · rw [List.map_cons, hrest.received, hbytes, hlen]
            rfl
          · intro d hd
            rcases List.mem_cons.mp hd with rfl | hd
            · rw [hlen]
              exact length_take_bufSize data
            · exact hrest.bounded d hd

theorem exists_unbounded {arrivals : List Arrival} {uninitialised : SockAddrIn}
    (h : .error uninitialised ∈ arrivals) (buf : ReadBuffer) :
    ∃ d ∈ handleReads true buf arrivals, d.recvLen.toNat = 2 ^ 64 - 1 := by
  induction arrivals generalizing buf with
  | nil => cases h
  | cons arrival arrivals ih =>
      rw [handleReads_cons]
      rcases List.mem_cons.mp h with rfl | h
      · exact ⟨_, List.mem_cons_self, (dispatchOf_error buf uninitialised).2⟩
      · obtain ⟨d, hd, hlen⟩ := ih h (recvfrom buf arrival).1
        exact ⟨d, List.mem_cons_of_mem _ hd, hlen⟩

theorem not_dispatchedOnce_of_error {arrivals : List Arrival} {uninitialised : SockAddrIn}
    (h : .error uninitialised ∈ arrivals) (buf : ReadBuffer) :
    ¬ DispatchedOnce arrivals (handleReads true buf arrivals) := by
  intro honce
  obtain ⟨d, hd, hlen⟩ := exists_unbounded h buf
  have hbounded := honce.bounded d hd
  rw [hlen] at hbounded
  exact absurd hbounded (by decide)

/-- Over every sequence of reads, each datagram is dispatched once and with its
own length exactly if no read fails. -/
theorem dispatched_once_iff (buf : ReadBuffer) (arrivals : List Arrival) :
    DispatchedOnce arrivals (handleReads true buf arrivals) ↔
      ∀ arrival ∈ arrivals, ∀ uninitialised, arrival ≠ .error uninitialised := by
  constructor
  · rintro h arrival harrival uninitialised rfl
    exact not_dispatchedOnce_of_error harrival buf h
  · intro h
    exact dispatched_of_datagrams h buf

/-- A DTLS record, and a read that fails. -/
def failedRead : List Arrival :=
  [.datagram [22, 254, 253, 0, 0, 0, 0, 0, 0, 0, 0, 0, 0] ⟨40000, 0xC0A80102⟩, .error ⟨0, 0⟩]

def zeroReadBuffer : ReadBuffer := ⟨List.replicate bufSize 0, List.length_replicate⟩

/-- The record takes the DTLS branch twice, the second time with the length of the
failed read. -/
theorem stale_record_dispatched :
    ¬ DispatchedOnce failedRead (handleReads true zeroReadBuffer failedRead) ∧
      (handleReads true zeroReadBuffer failedRead).map (fun d => (d.branch, d.recvLen)) =
        [(.ok .dtls, 13), (.ok .dtls, 18446744073709551615)] := by
  have herror : .error ⟨0, 0⟩ ∈ failedRead := by decide
  refine ⟨not_dispatchedOnce_of_error herror zeroReadBuffer, ?_⟩
  decide +kernel

end EasyWebRtc.Net
