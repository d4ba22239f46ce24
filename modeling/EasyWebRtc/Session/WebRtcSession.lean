import EasyWebRtc.Net.HandleRead
import EasyWebRtc.Rtc.WebRtcTransport.Basic

/-!
# Sessions of `session/webrtc_session.h`

The server socket, the connections, the sessions and the queues of the event
loops as one system. A step is one callback of one loop: a datagram read by the
server or by a connection, or a closure that waits for a loop. The RTP source
of `example/rtp_src_example.cc` runs on a thread of its own and only queues.
Sessions are numbered in the order of their creation.

A callback is one atomic step: races of two loops on the static buffers of the
encoder and of SRTP, and on the session's fields, are outside the model. The
event loops are muduo's: `runInLoop` runs a closure at once on the loop's own
thread and queues it elsewhere, as documented. A step may run any closure that
waits for its loop; that it is always the oldest is the hypothesis
`Input.InOrder` of the results that need it. `recvfrom` on a socket of a session
succeeds in these steps (failed reads are in `Net.HandleRead`), and a new
connection gets its socket.
-/

namespace EasyWebRtc.Session

open Octets Utils Rtc Net

abbrev SessionId := Nat

/-- `NetworkTransport`, by the peer address of its connection. -/
structure NetworkTransport where
  connection : SockAddrIn
  deriving DecidableEq, Repr

structure WebRTCSession where
  webrtcTransport : WebRtcTransport NetworkTransport
  /-- Not initialised by the constructor. -/
  loop : Option LoopId := none
  isReady : Bool := false

/-- A closure for `runInLoop`. -/
inductive Task where
  | enableReading (peer : SockAddrIn)
  | onInputDataPacket (session : SessionId) (data : Bytes) (remoteAddress : SockAddrIn)
  | encryptAndSendRtpPacket (session : SessionId) (data : Bytes)
  deriving DecidableEq, Repr

structure System where
  server : UdpServer SessionId := {}
  sessions : List WebRTCSession := []
  /-- The map of the factory, in the order of its keys. -/
  rtcSessions : List (Bytes × SessionId) := []
  /-- The queued closures, oldest first, each with its loop. -/
  pending : List (LoopId × Task) := []

/-- `routed` is `SetNetworkTransport` on a session, `received` a call of
`OnInputDataPacket`, `sent` a call of `UdpConnection::Send` with the loop of the
connection and the loop that makes the call. -/
inductive SessionEvent where
  | routed (session : SessionId) (peer : SockAddrIn)
  | received (session : SessionId) (data : Bytes) (remoteAddress : SockAddrIn)
  | sent (session : SessionId) (kind : PacketKind) (data : Bytes) (peer : SockAddrIn)
      (connectionLoop loop : LoopId)
  deriving DecidableEq, Repr

abbrev Call (α : Type) := Traced Fault SessionEvent α

/-! ## `Split` -/

/-- `std::string::find`. -/
def find (s delim : Bytes) (pos : Nat) : Option Nat :=
  (List.range' pos (s.length + 1 - pos)).find? fun i => delim.isPrefixOf (s.drop i)

/-- The loop of `Split` from position `last`. The tests of differences of
unsigned numbers against 0 are always true. An empty delimiter never ends. -/
def splitLoop (s delim : Bytes) : Nat → Nat → Exec (List Bytes)
  | 0, _ => .error .diverged
  | fuel + 1, last =>
      match find s delim last with
      | none => return [s.drop last]
      | some index => do
          let ret ← splitLoop s delim fuel (index + delim.length)
          return (s.drop last).take (index - last) :: ret

def split (s delim : Bytes) : Exec (List Bytes) := splitLoop s delim (s.length + 2) 0

/-! ## The factory's map -/

/-- `std::map::insert`: an existing key keeps its value. -/
def insertSession (key : Bytes) (session : SessionId) :
    List (Bytes × SessionId) → List (Bytes × SessionId)
  | [] => [(key, session)]
  | entry :: entries =>
      if key = entry.1 then entry :: entries
      else if key < entry.1 then (key, session) :: entry :: entries
      else entry :: insertSession key session entries

namespace System

def createWebRTCSession (s : System) (webrtcTransport : WebRtcTransport NetworkTransport) : System :=
  { s with
    sessions := s.sessions ++ [{ webrtcTransport }]
    rtcSessions := insertSession webrtcTransport.iceServer.usernameFragment s.sessions.length
      s.rtcSessions }

def getWebRTCSession (s : System) (key : Bytes) : Option SessionId :=
  (s.rtcSessions.find? fun entry => entry.1 = key).map Prod.snd

/-- The sessions of the map that are ready, in its order. -/
def getAllReadyWebRTCSession (s : System) : List SessionId :=
  (s.rtcSessions.map Prod.snd).filter fun session =>
    match s.sessions[session]? with
    | some rtcSession => rtcSession.isReady
    | none => false

def modifySession (s : System) (session : SessionId) (f : WebRTCSession → WebRTCSession) : System :=
  { s with sessions := s.sessions.modify session f }

def queueInLoop (s : System) (loop : LoopId) (task : Task) : System :=
  { s with pending := s.pending ++ [(loop, task)] }

/-! ## Calls of a transport -/

/-- `UdpConnection::Send` by a step of `loop`. -/
def send (s : System) (loop : LoopId) (session : SessionId) (kind : PacketKind) (data : Bytes)
    (peer : SockAddrIn) : Call Unit :=
  match s.server.loopOf peer with
  | none => Traced.fail .nullPointer
  | some connectionLoop => do
      Traced.emit (.sent session kind data peer connectionLoop loop)
      if connectionLoop = loop then return () else Traced.fail .notInLoopThread

/-- What an event of a transport does outside it. `NetworkTransport::SendPacket`
ignores the remote address. It is declared to return `bool` and has no return
statement, which is undefined in C++; here it returns after `Send`, so that a run
says which packets are handed to `Send` up to there, not that the process lives on. -/
def onTransportEvent (loop : LoopId) (session : SessionId) (s : System) :
    WebRtcEvent NetworkTransport → Call System
  | .sendPacket kind data _ (some transport) => do
      s.send loop session kind data transport.connection
      return s
  | .sendPacket _ _ _ none | .onRtp _ | .selectedTuple _ | .dtls _ => return s

def callTransport (s : System) (loop : LoopId) (session : SessionId)
    (call : WebRtcTransport NetworkTransport →
      WebRtcTransport.Call NetworkTransport (WebRtcTransport NetworkTransport)) : Call System :=
  match s.sessions[session]? with
  | none => Traced.fail .nullPointer
  | some rtcSession => do
      let (s, webrtcTransport) ← Traced.handle (onTransportEvent loop session) s
        (call rtcSession.webrtcTransport)
      return s.modifySession session fun rtcSession => { rtcSession with webrtcTransport }

section Steps

variable (platform : Platform) (getNextLoop : Nat → LoopId)

def perform (env : Outcomes) (s : System) (loop : LoopId) : Task → Call System
  | .enableReading peer => return { s with server := s.server.enableReading peer }
  | .onInputDataPacket session data remoteAddress => do
      Traced.emit (.received session data remoteAddress)
      s.callTransport loop session fun w => w.onInputDataPacket platform env data remoteAddress
  | .encryptAndSendRtpPacket session data =>
      s.callTransport loop session fun w => w.encryptAndSendRtpPacket platform env data

/-- `EventLoop::runInLoop`, called by a step of the loop `current`. -/
def runInLoop (env : Outcomes) (s : System) (current loop : LoopId) (task : Task) : Call System :=
  if current = loop then perform platform env s current task else return s.queueInLoop loop task

/-- `WebRTCSession::SetNetworkTransport` by a step of the base loop. -/
def setNetworkTransport (env : Outcomes) (s : System) (session : SessionId) (peer : SockAddrIn)
    (connection : UdpConnection SessionId) : Call System := do
  Traced.emit (.routed session peer)
  let s := s.modifySession session fun rtcSession =>
    { rtcSession with webrtcTransport := rtcSession.webrtcTransport.setNetworkTransport ⟨peer⟩ }
  let s := { s with server := s.server.setPacketCallback peer session }
  let s ← runInLoop platform env s baseLoop connection.loop (.enableReading peer)
  return s.modifySession session fun rtcSession =>
    { rtcSession with loop := some connection.loop, isReady := true }

/-- The part of `HandlePacket` after the session is found. -/
def routePacket (env : Outcomes) (s : System) (session : SessionId) (data : Bytes)
    (peerAddr : SockAddrIn) : Call System := do
  let (server, connection) := s.server.getOrCreatConnection getNextLoop peerAddr
  let s ← setNetworkTransport platform env { s with server } session peerAddr connection
  -- `session->loop()` is the loop that `SetLoop` has just stored.
  runInLoop platform env s baseLoop connection.loop (.onInputDataPacket session data peerAddr)

def handlePacket (env : Outcomes) (s : System) (data : Bytes) (peerAddr : SockAddrIn) :
    Call System := do
  if ← Traced.lift (StunPacket.isStun data data.length) then
    match ← Traced.lift (StunPacket.parse data data.length) with
    | none => return s
    | some packet =>
        match ← Traced.lift (split packet.username [0x3A]) with
        | [] => Traced.fail .outOfBounds
        | useName :: _ =>
            match s.getWebRTCSession useName with
            | none => return s
            | some session => routePacket platform getNextLoop env s session data peerAddr
  else return s

/-- `UdpConnection::HandleRead`. The socket is connected, so that the datagram
comes from the peer. -/
def handleRead (env : Outcomes) (s : System) (peer : SockAddrIn) (data : Bytes) : Call System :=
  match s.server.connections peer with
  | some ⟨loop, some session, true⟩ =>
      perform platform env s loop (.onInputDataPacket session (data.take bufSize) peer)
  | _ => return s

/-- The closure at a position in the queue of a loop, and the queues without it. -/
def taskAt (loop : LoopId) : Nat → List (LoopId × Task) → Option (Task × List (LoopId × Task))
  | _, [] => none
  | position, entry :: entries =>
      if entry.1 = loop then
        match position with
        | 0 => some (entry.2, entries)
        | position + 1 => (taskAt loop position entries).map fun r => (r.1, entry :: r.2)
      else (taskAt loop position entries).map fun r => (r.1, entry :: r.2)

def doPendingFunctor (env : Outcomes) (s : System) (loop : LoopId) (position : Nat) :
    Call System :=
  match taskAt loop position s.pending with
  | none => return s
  | some (task, pending) => perform platform env { s with pending } loop task

/-- `WriteRtpCallback`. -/
def writeRtpCallback (s : System) (data : Bytes) : System :=
  s.getAllReadyWebRTCSession.foldl (fun s session =>
    match (s.sessions[session]?).bind (·.loop) with
    | some loop => s.queueInLoop loop (.encryptAndSendRtpPacket session data)
    | none => s) s

end Steps

end System

inductive Input where
  | createWebRTCSession (usernameFragment password : Bytes) (uninitialised : SockAddrIn)
  | setRTPChannel (session : SessionId) (channel : Bool)
  | serverRead (env : Outcomes) (data : Bytes) (peerAddr : SockAddrIn)
  | connectionRead (env : Outcomes) (peer : SockAddrIn) (data : Bytes)
  | pendingFunctor (env : Outcomes) (loop : LoopId) (position : Nat)
  | writeRtpCallback (data : Bytes)

def step (platform : Platform) (getNextLoop : Nat → LoopId) (s : System) : Input → Call System
  | .createWebRTCSession usernameFragment password uninitialised =>
      return s.createWebRTCSession (.create usernameFragment password uninitialised)
  | .setRTPChannel session channel =>
      return s.modifySession session fun rtcSession =>
        { rtcSession with webrtcTransport := rtcSession.webrtcTransport.setRTPChannel channel }
  | .serverRead env data peerAddr =>
      s.handlePacket platform getNextLoop env (data.take bufSize) peerAddr
  | .connectionRead env peer data => s.handleRead platform env peer data
  | .pendingFunctor env loop position => s.doPendingFunctor platform env loop position
  | .writeRtpCallback data => return s.writeRtpCallback data

/-- What muduo documents of `queueInLoop`: a loop runs its closures in the order in
which they were queued. -/
def Input.InOrder : Input → Prop
  | .pendingFunctor _ _ position => position = 0
  | .createWebRTCSession _ _ _ | .setRTPChannel _ _ | .serverRead _ _ _
  | .connectionRead _ _ _ | .writeRtpCallback _ => True

instance (input : Input) : Decidable input.InOrder :=
  match input with
  | .pendingFunctor _ _ position => inferInstanceAs (Decidable (position = 0))
  | .createWebRTCSession _ _ _ | .setRTPChannel _ _ | .serverRead _ _ _
  | .connectionRead _ _ _ | .writeRtpCallback _ => inferInstanceAs (Decidable True)

/-! ## Reads of the sockets -/

section Reads

variable {platform : Platform} {getNextLoop : Nat → LoopId} {d : Dispatch} {data : Bytes}
  {peer : SockAddrIn}

theorem step_serverRead_of_passes (h : Passes (.datagram data peer) d) (s : System)
    (env : Outcomes) : step platform getNextLoop s (.serverRead env data peer) =
      s.handlePacket platform getNextLoop env d.bytes d.remoteAddr := by
  obtain ⟨_, _, heq, hbytes, -, haddr, -⟩ := h
  cases heq
  rw [hbytes, haddr]
  rfl

theorem step_connectionRead_of_passes (h : Passes (.datagram data peer) d) {s : System}
    {loop : LoopId} {session : SessionId}
    (hc : s.server.connections peer = some ⟨loop, some session, true⟩) (env : Outcomes) :
    step platform getNextLoop s (.connectionRead env peer data) =
      System.perform platform env s loop (.onInputDataPacket session d.bytes d.remoteAddr) := by
  obtain ⟨_, _, heq, hbytes, -, haddr, -⟩ := h
  cases heq
  rw [hbytes, haddr]
  simp only [step, System.handleRead, hc]

end Reads

end EasyWebRtc.Session
