/-
# `TransportStop` — webrtc_transport.cpp, dtls_transport.cpp,
media_stream.cpp, timer.cpp, udp_socket.cpp

The manager's thread stops a transport while a handler may be running on the
transport's own message loop.  `message_loop_.stop()` lets no other handler
begin, but does not wait for this one; the `join` that does comes last,
behind the statements that release `ssl_` with its BIOs, `timer_` and
`rtcp_timer_`.

Both threads go statement by statement, one statement at a time.  Of the
shared state the model has what the two threads tell each other: the flags
`is_closing_` and `inited_`, and what has become of the three objects.  What
OpenSSL returns and how often it calls back, what a datagram says, and the
role of the remote end are choices of the handler.  A statement that works
on none of the three objects is `other`.
-/
import WebrtcServer.Lib.Runs
import WebrtcServer.Lib.Statements

namespace WebrtcServer

open Lib

namespace TransportStop

/-! ## What is shared -/

/-- `timer_` and `rtcp_timer_`. -/
inductive TimerName where
  | dtls
  | senderReport
deriving DecidableEq

/-- `ssl` stands for `ssl_`, `read_bio_` and `write_bio_`. -/
inductive SharedObject where
  | ssl
  | timer (t : TimerName)
deriving DecidableEq

/-- A pointer, and what has become of its object. -/
inductive Handle where
  /-- Null, and no object has been made. -/
  | absent
  | live
  /-- The object is released; the pointer still has its address. -/
  | freed
  /-- The object is released, and the pointer is null. -/
  | cleared
deriving DecidableEq

namespace Handle

def isNull : Handle → Bool
  | absent | cleared => true
  | live | freed => false

def isReleased : Handle → Bool
  | freed | cleared => true
  | absent | live => false

/-- `SSL_free(p)` -/
def free : Handle → Handle
  | live => freed
  | h => h

/-- `p = NULL` -/
def clear (h : Handle) : Handle := if h.isReleased then cleared else absent

/-- `p.reset()` -/
def reset (h : Handle) : Handle := h.free.clear

end Handle

structure Shared where
  isClosing : Bool
  inited : Bool
  ssl : Handle
  timer : Handle
  rtcpTimer : Handle
deriving DecidableEq

def Shared.handle (sh : Shared) : SharedObject → Handle
  | .ssl => sh.ssl
  | .timer .dtls => sh.timer
  | .timer .senderReport => sh.rtcpTimer

/-! ## The handlers -/

inductive Statement where
  | other
  /-- `UdpSocket::HandleReceive`, at the test of `is_closing_`. -/
  | handleReceive
  | processStunMessage
  /-- The branch for DTLS, at the test of `dtls_ready_`. -/
  | receiveDtls
  /-- `DtlsTransport::Start`, at the look-up of the remote role. -/
  | start
  | startTestSsl
  | setConnectState
  | setInited
  | newTimer
  /-- Inside a call of OpenSSL that may call back. -/
  | inSsl
  | onSSLInfo
  | getPeerCertificate
  | getSelectedSrtpProfile
  | exportKeyingMaterial
  /-- `TrySendPendingData`, at `BIO_ctrl_pending(write_bio_)`. -/
  | bioCtrlPending
  | bioRead
  /-- `SetTimeout`, at `timer_ && DTLSv1_get_timeout(ssl_, &timeout)`. -/
  | getTimeout
  /-- `Timer::AsyncWait`, at its first statement. -/
  | expiresFromNow (t : TimerName)
  | asyncWait (t : TimerName)
  /-- `ProcessDataFromPeer`, at `BIO_write(read_bio_, …)`. -/
  | bioWrite
  /-- `if (read_len < 0)` -/
  | readError
  | getShutdown
  | clearSsl
  /-- `Timer::OnTimeout`, at the test of `ec`. -/
  | onTimeout (t : TimerName)
  /-- `if (listener_)` -/
  | testListener (t : TimerName)
  /-- `DtlsTransport::OnTimerTimeout`, at the test of `inited_`. -/
  | onTimerTimeout
  /-- `if (ret < 0)` -/
  | timeoutError
  /-- The loop of `MediaStream::OnTimerTimeout`. -/
  | sendReports
deriving DecidableEq

/-- The handlers that may be running. -/
inductive Handler where
  | datagram
  | senderReportTimer
  | dtlsTimer
  | mediaPacket

def Handler.entry : Handler → Statement
  | .datagram => .handleReceive
  | .senderReportTimer => .onTimeout .senderReport
  | .dtlsTimer => .onTimeout .dtls
  | .mediaPacket => .other

/-- A statement that works on no object and changes nothing. -/
def quiet (sh : Shared) (next : List Statement) : Outcome Shared Statement SharedObject :=
  ⟨[], sh, next⟩

/-- A statement that works on `o`. -/
def use (o : SharedObject) (sh : Shared) (next : List Statement) :
    Outcome Shared Statement SharedObject :=
  ⟨[o], sh, next⟩

/-- `listener_->OnTimerTimeout()` -/
def TimerName.listener : TimerName → Statement
  | .dtls => .onTimerTimeout
  | .senderReport => .sendReports

/-- `CheckPending`, and the same two calls in the other functions. -/
def sendAndSetTimeout : List Statement := [.bioCtrlPending, .getTimeout]

def outcomes (sh : Shared) : Statement → List (Outcome Shared Statement SharedObject)
  | .other => [quiet sh []]
  | .handleReceive =>
      if sh.isClosing then [quiet sh []]
      else
        [quiet sh [.processStunMessage, .other], quiet sh [.receiveDtls, .other],
          quiet sh [.other]]
  | .processStunMessage => [quiet sh [.other], quiet sh [.start, .other]]
  | .receiveDtls => [quiet sh [], quiet sh [.bioWrite]]
  | .start => [quiet sh [], quiet sh [.startTestSsl]]
  | .startTestSsl => if sh.ssl.isNull then [quiet sh []] else [quiet sh [.setConnectState]]
  | .setConnectState => [use .ssl sh [.setInited]]
  | .setInited => [quiet { sh with inited := true } [.inSsl, .newTimer]]
  | .newTimer => [quiet { sh with timer := .live } [.getTimeout]]
  | .inSsl => [use .ssl sh [], use .ssl sh [.onSSLInfo, .inSsl]]
  | .onSSLInfo =>
      [quiet sh sendAndSetTimeout, use .ssl sh sendAndSetTimeout,
        quiet sh (.getPeerCertificate :: sendAndSetTimeout)]
  | .getPeerCertificate => [use .ssl sh [.getSelectedSrtpProfile]]
  | .getSelectedSrtpProfile => [use .ssl sh [], use .ssl sh [.exportKeyingMaterial]]
  | .exportKeyingMaterial => [use .ssl sh [], use .ssl sh [.other]]
  | .bioCtrlPending => [use .ssl sh [], use .ssl sh [.bioRead]]
  | .bioRead => [use .ssl sh [.other]]
  | .getTimeout =>
      if sh.timer.isNull then [quiet sh []]
      else [use .ssl sh [], use .ssl sh [.expiresFromNow .dtls]]
  | .expiresFromNow t => [use (.timer t) sh [.asyncWait t]]
  | .asyncWait t => [use (.timer t) sh []]
  | .bioWrite => [use .ssl sh (.inSsl :: sendAndSetTimeout ++ [.readError])]
  | .readError => [quiet sh [.getShutdown], use .ssl sh [.getShutdown]]
  | .getShutdown => [use .ssl sh [], use .ssl sh [.clearSsl]]
  | .clearSsl => [use .ssl sh [.other]]
  | .onTimeout t => [quiet sh [], quiet sh [.testListener t]]
  | .testListener t => [use (.timer t) sh [t.listener]]
  | .onTimerTimeout =>
      if sh.inited then [quiet sh [.inSsl, .timeoutError]] else [quiet sh []]
  | .timeoutError => [quiet sh sendAndSetTimeout, use .ssl sh [], use .ssl sh sendAndSetTimeout]
  | .sendReports => [quiet sh [.sendReports], quiet sh [.expiresFromNow .senderReport]]

/-! ## `WebrtcTransport::Stop` -/

inductive StopStatement where
  | stopLoop
  | closeSocket
  | clearInited
  | testTimer
  | resetTimer
  | testSsl
  | freeSsl
  | clearSsl
  | clearBios
  | resetRtcpTimer
  | join
deriving DecidableEq

/-- The shared state after a statement, and what is to be executed next. -/
def stopOutcome (sh : Shared) : StopStatement → Shared × List StopStatement
  | .stopLoop => (sh, [])
  | .closeSocket => ({ sh with isClosing := true }, [])
  | .clearInited => ({ sh with inited := false }, [])
  | .testTimer => (sh, if sh.timer.isNull then [] else [.resetTimer])
  | .resetTimer => ({ sh with timer := sh.timer.reset }, [])
  | .testSsl => (sh, if sh.ssl.isNull then [] else [.freeSsl, .clearSsl, .clearBios])
  | .freeSsl => ({ sh with ssl := sh.ssl.free }, [])
  | .clearSsl => ({ sh with ssl := sh.ssl.clear }, [])
  | .clearBios => (sh, [])
  | .resetRtcpTimer => ({ sh with rtcpTimer := sh.rtcpTimer.reset }, [])
  | .join => (sh, [])

/-- What is left to be executed of `Stop` and of the handler. -/
structure State where
  shared : Shared
  stop : List StopStatement
  handler : List Statement
deriving DecidableEq

/-- The thread whose turn it is, and the outcome that the handler's statement
has. -/
inductive Move where
  | stop
  | handler (choice : Nat)
deriving DecidableEq

/-- A use of an object by the handler, with what has become of the object. -/
structure Access where
  object : SharedObject
  handle : Handle
deriving DecidableEq

/-- An error is a thread that has to wait or is through. -/
def stepStop (s : State) : Except Unit (State × List Access) :=
  match s.stop with
  | [] => .error ()
  | p :: rest =>
      if p = .join ∧ s.handler ≠ [] then .error ()
      else
        .ok ({ s with
          shared := (stopOutcome s.shared p).1, stop := (stopOutcome s.shared p).2 ++ rest }, [])

def stepHandler (s : State) (choice : Nat) : Except Unit (State × List Access) :=
  match s.handler with
  | [] => .error ()
  | p :: rest =>
      match (outcomes s.shared p)[choice]? with
      | none => .error ()
      | some oc =>
          .ok ({ s with shared := oc.shared, handler := oc.next ++ rest },
            oc.uses.map fun o => ⟨o, s.shared.handle o⟩)

def step (s : State) : Move → Except Unit (State × List Access)
  | .stop => stepStop s
  | .handler choice => stepHandler s choice

def sslAhead (sh : Shared) : Statement → Bool
  | .other | .expiresFromNow _ | .asyncWait _ | .sendReports => false
  | .handleReceive => !sh.isClosing
  | .getTimeout => !sh.timer.isNull
  | .onTimeout .senderReport | .testListener .senderReport => false
  | .onTimeout .dtls | .testListener .dtls | .onTimerTimeout => sh.inited
  | _ => true

def timerAhead (t : TimerName) : Statement → Bool
  | .onTimeout t' | .testListener t' | .expiresFromNow t' | .asyncWait t' => decide (t' = t)
  | .sendReports => decide (t = .senderReport)
  | _ => false

def ahead (sh : Shared) : SharedObject → Statement → Bool
  | .ssl, p => sslAhead sh p
  | .timer t, p => timerAhead t p

/-- The handler has no use of the object ahead. -/
def Quiet (s : State) (o : SharedObject) : Prop := ∀ p ∈ s.handler, ahead s.shared o p = false

section Statements

variable {sh : Shared} {o : SharedObject} {p q : Statement}
  {oc : Outcome Shared Statement SharedObject}

/-- A `unique_ptr` has no address of a released object. -/
def Owned (sh : Shared) : Prop := ∀ t, sh.handle (.timer t) ≠ .freed

end Statements

/-! ## Steps -/

section Steps

variable {s s' : State} {out : List Access} {choice : Nat}

/-- Of what is released the handler has no use ahead. -/
structure Guarded (s : State) : Prop where
  owned : Owned s.shared
  quiet : ∀ o, (s.shared.handle o).isReleased = true → Quiet s o

end Steps

/-! ## What a release exposes

The condition leaves out only releases that go wrong in some continuation:
if a use is ahead, the handler can come to it before `Stop` goes on. -/

section Exposure

variable {sh sh' : Shared} {o : SharedObject} {p : Statement} {s : State}
  {oc : Outcome Shared Statement SharedObject}

end Exposure

section Samples

end Samples

end TransportStop

end WebrtcServer
