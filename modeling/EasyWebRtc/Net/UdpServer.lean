import EasyWebRtc.Rtc.IceServer

/-!
# UDP server of `net/udp_server.h` and connections of `net/udp_connection.h`

Event loops come from muduo and are numbers here: `baseLoop` runs the server
socket, and `getNextLoop n` is what the thread pool returns at its call `n`. A
connection is named by its peer address, the key of the server's map, and is
never removed from it. `σ` is what a packet callback captures.
-/

namespace EasyWebRtc.Net

open Octets Rtc

abbrev LoopId := Nat

def baseLoop : LoopId := 0

/-- A sample of `getNextLoop` for a pool with the given number of threads: in turn,
or the base loop without any. -/
def roundRobin (threads n : Nat) : LoopId := if threads = 0 then baseLoop else 1 + n % threads

def bufSize : Nat := 4 * 1024

structure UdpConnection (σ : Type) where
  loop : LoopId
  callback : Option σ := none
  /-- Whether `enableReading` was called on the channel. -/
  reading : Bool := false

structure UdpServer (σ : Type) where
  connections : SockAddrIn → Option (UdpConnection σ) := fun _ => none
  /-- The calls of `getNextLoop` so far. -/
  created : Nat := 0

namespace UdpServer

variable {σ : Type}

/-- The server after `GetOrCreatConnection`, and the connection. -/
def getOrCreatConnection (getNextLoop : Nat → LoopId) (s : UdpServer σ) (remoteAddr : SockAddrIn) :
    UdpServer σ × UdpConnection σ :=
  match s.connections remoteAddr with
  | some connection => (s, connection)
  | none =>
      let connection : UdpConnection σ := { loop := getNextLoop s.created }
      ({ connections := Function.update s.connections remoteAddr (some connection)
         created := s.created + 1 }, connection)

def modify (s : UdpServer σ) (peer : SockAddrIn) (f : UdpConnection σ → UdpConnection σ) :
    UdpServer σ :=
  { s with connections := Function.update s.connections peer ((s.connections peer).map f) }

def setPacketCallback (s : UdpServer σ) (peer : SockAddrIn) (callback : σ) : UdpServer σ :=
  s.modify peer fun connection => { connection with callback := some callback }

def enableReading (s : UdpServer σ) (peer : SockAddrIn) : UdpServer σ :=
  s.modify peer fun connection => { connection with reading := true }

def loopOf (s : UdpServer σ) (peer : SockAddrIn) : Option LoopId := (s.connections peer).map (·.loop)

theorem loopOf_modify (s : UdpServer σ) (peer : SockAddrIn) {f : UdpConnection σ → UdpConnection σ}
    (hf : ∀ connection, (f connection).loop = connection.loop) (other : SockAddrIn) :
    (s.modify peer f).loopOf other = s.loopOf other := by
  unfold loopOf modify
  by_cases h : other = peer
  · subst h
    cases s.connections other <;> simp [hf]
  · simp [Function.update_of_ne h]

@[simp] theorem loopOf_setPacketCallback (s : UdpServer σ) (peer : SockAddrIn) (callback : σ)
    (other : SockAddrIn) : (s.setPacketCallback peer callback).loopOf other = s.loopOf other := by
  apply loopOf_modify
  intro connection
  rfl

@[simp] theorem loopOf_enableReading (s : UdpServer σ) (peer other : SockAddrIn) :
    (s.enableReading peer).loopOf other = s.loopOf other := by
  apply loopOf_modify
  intro connection
  rfl

section GetOrCreat

variable {getNextLoop : Nat → LoopId} {s : UdpServer σ} {remoteAddr : SockAddrIn}

theorem getOrCreatConnection_loop :
    (s.getOrCreatConnection getNextLoop remoteAddr).1.loopOf remoteAddr =
      some (s.getOrCreatConnection getNextLoop remoteAddr).2.loop := by
  unfold getOrCreatConnection loopOf
  cases h : s.connections remoteAddr <;> simp [h]

theorem getOrCreatConnection_loopOf {peer : SockAddrIn} {loop : LoopId}
    (h : s.loopOf peer = some loop) :
    (s.getOrCreatConnection getNextLoop remoteAddr).1.loopOf peer = some loop := by
  unfold getOrCreatConnection
  cases hc : s.connections remoteAddr with
  | some connection => exact h
  | none =>
      have hne : peer ≠ remoteAddr := by
        intro heq
        subst heq
        rw [loopOf, hc] at h
        cases h
      simpa [loopOf, Function.update_of_ne hne] using h

end GetOrCreat

end UdpServer

end EasyWebRtc.Net
