/-
# `UdpSocket` — udp_socket.h, udp_socket.cpp

The socket of a transport: the search for a port, and the queue of messages
from which one at a time is handed to `async_send_to`.  A send that was
handed over is outstanding until its completion runs `HandSend`.  When it
failed, `HandSend` first calls the listener, which may call back.

All of it runs on the message loop of the transport.  Which ports can be
bound is a parameter, and port 0 stands for the one the system picks.
Receiving has no state besides its buffer and is left out.
-/
import WebrtcServer.ByteBuffer
import WebrtcServer.Lib.Loop
import WebrtcServer.StunMessage

namespace WebrtcServer

open Lib

structure UdpMessage where
  data : ByteString
  endpoint : Endpoint
deriving DecidableEq

structure UdpSocket where
  /-- The port that `socket_` was bound with. -/
  socket : Option UInt16
  isClosing : Bool
  sendQueue : List UdpMessage
  minPort : UInt16
  maxPort : UInt16

namespace UdpSocket

def new : UdpSocket where
  socket := none
  isClosing := false
  sendQueue := []
  minPort := 0
  maxPort := 65535

def setMinMaxPort (s : UdpSocket) (min max : UInt16) : UdpSocket :=
  { s with minPort := min, maxPort := max }

/-! ## `Listen` -/

/-- How the loop of `Listen` ends: the port that was bound, and the ports
that were tried, in order. -/
structure Listened where
  port : Option UInt16
  tried : List UInt16
deriving DecidableEq

/-- What the loop works on: its counter and the ports tried. -/
structure ListenState where
  i : UInt16
  tried : List UInt16
deriving DecidableEq

def ListenState.more (maxPort : UInt16) (st : ListenState) : Bool := st.i ≤ maxPort

/-- One turn: the exception of a busy port continues, a bound port breaks. -/
def listenTurn (available : UInt16 → Bool) (st : ListenState) : Except Listened ListenState :=
  if available st.i then .error { port := some st.i, tried := st.tried ++ [st.i] }
  else .ok { i := st.i + 1, tried := st.tried ++ [st.i] }

/-- The loop, unless it is still running after `fuel` turns. -/
def listenLoop (s : UdpSocket) (available : UInt16 → Bool) (fuel : Nat) : Option Listened :=
  match whileLoop (ListenState.more s.maxPort) (listenTurn available) fuel ⟨s.minPort, []⟩ with
  | .error r => some r
  | .ok st => if st.more s.maxPort then none else some { port := none, tried := st.tried }

/-- The socket, what `Listen` returns, and the ports that were tried.  A
socket from before stays when no port could be bound. -/
def listen (s : UdpSocket) (available : UInt16 → Bool) (fuel : Nat) :
    Option (UdpSocket × Bool × List UInt16) :=
  (s.listenLoop available fuel).map fun r =>
    let s := { s with socket := r.port.or s.socket }
    (s, s.socket.isSome, r.tried)

/-! ## Sending

The outputs are the messages handed to `async_send_to`. -/

/-- `socket_` is there once `Listen` has returned true. -/
def doSend (s : UdpSocket) : Except Fault (UdpSocket × List UdpMessage) :=
  if s.isClosing then .ok (s, [])
  else
    match s.sendQueue, s.socket with
    | data :: _, some _ => .ok (s, [data])
    | [], _ => .error .outOfBounds
    | _, none => .error .nullComponent

def push (s : UdpSocket) (data : UdpMessage) : UdpSocket :=
  { s with sendQueue := s.sendQueue ++ [data] }

def sendData (s : UdpSocket) (data : UdpMessage) : Except Fault (UdpSocket × List UdpMessage) :=
  if (s.push data).sendQueue.length = 1 then (s.push data).doSend else .ok (s.push data, [])

def close (s : UdpSocket) : UdpSocket := { s with isClosing := true }

/-- What the listener may call while `HandSend` calls it. -/
inductive Call where
  | sendData (data : UdpMessage)
  | close
deriving DecidableEq

def call (s : UdpSocket) : Call → Except Fault (UdpSocket × List UdpMessage)
  | .sendData data => s.sendData data
  | .close => .ok (s.close, [])

def calls : UdpSocket → List Call → Except Fault (UdpSocket × List UdpMessage)
  | s, [] => .ok (s, [])
  | s, c :: cs => do
    let (s, out) ← s.call c
    let (s, out') ← s.calls cs
    return (s, out ++ out')

/-- The listener is called when the send failed; `inside` is what it calls. -/
def onError (s : UdpSocket) (failed : Bool) (inside : List Call) :
    Except Fault (UdpSocket × List UdpMessage) :=
  if failed then s.calls inside else .ok (s, [])

def pop (s : UdpSocket) : UdpSocket := { s with sendQueue := s.sendQueue.tail }

/-- The rest of `HandSend`, from its `assert` on. -/
def sendNext (s : UdpSocket) : Except Fault (UdpSocket × List UdpMessage) :=
  if s.sendQueue.length = 0 then .error .assertFailed
  else if 0 < s.pop.sendQueue.length then s.pop.doSend
  else .ok (s.pop, [])

def handSend (s : UdpSocket) (failed : Bool) (inside : List Call) :
    Except Fault (UdpSocket × List UdpMessage) :=
  if s.isClosing then .ok (s, [])
  else do
    let (s, out) ← s.onError failed inside
    let (s, out') ← s.sendNext
    return (s, out ++ out')

end UdpSocket

/-! ## The socket with its outstanding sends -/

/-- `outstanding` are the messages handed over whose completion has not run. -/
structure SendingSocket where
  socket : UdpSocket
  outstanding : List UdpMessage

namespace SendingSocket

inductive Event where
  | call (c : UdpSocket.Call)
  /-- The completion of the outstanding send at a place. -/
  | complete (i : Nat) (failed : Bool) (inside : List UdpSocket.Call)

/-- What a call to the socket leaves, with the sends that it started. -/
def after (outstanding : List UdpMessage) (r : UdpSocket × List UdpMessage) :
    SendingSocket × List UdpMessage :=
  (⟨r.1, outstanding ++ r.2⟩, r.2)

def step (s : SendingSocket) : Event → Except Fault (SendingSocket × List UdpMessage)
  | .call c => (s.socket.call c).map (after s.outstanding)
  | .complete i failed inside =>
      (s.socket.handSend failed inside).map (after (s.outstanding.eraseIdx i))

/-- Only an outstanding send completes. -/
def Enabled (s : SendingSocket) : Event → Prop
  | .call _ => True
  | .complete i _ _ => i < s.outstanding.length

/-- The socket when `Listen` has returned true. -/
def listening (port minPort maxPort : UInt16) : SendingSocket where
  socket := { UdpSocket.new with socket := some port, minPort := minPort, maxPort := maxPort }
  outstanding := []

end SendingSocket

end WebrtcServer
