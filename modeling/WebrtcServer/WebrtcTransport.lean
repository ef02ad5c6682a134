/-
# `WebrtcTransport` — webrtc_transport.h, webrtc_transport.cpp

The component that puts the others together: it sorts the datagrams that
come in, starts DTLS when ICE is through, sets the SRTP sessions up when
DTLS is, and protects and sends what the media stream gives it.  All of it
runs on one message loop, so the handlers are the steps of one system.

A run begins where `Start` has returned.  What ICE, DTLS and the answer were
configured with by then is in the state; `CreateAnswer` enters as the event
that makes the media stream with its two tracks.  The UDP socket exists from
`Start` on, so a send is an output, and so is the request to the manager to
remove the transport.
-/
import WebrtcServer.DtlsTransport
import WebrtcServer.IceLite
import WebrtcServer.Lib.Loop
import WebrtcServer.MediaStream

namespace WebrtcServer

open Lib

/-- What the transport is built on: the libraries, and the computation of RTP
timestamps in doubles. -/
structure Platform (Ctx Ssl Cert : Type) where
  hmac : HmacSha1
  rtpTimestamp : Int → UInt32 → UInt32
  srtp : SrtpLib Ctx
  ssl : SslLib Ssl Cert

structure WebrtcTransport (Ctx Ssl : Type) where
  sendSrtpSession : Option (SrtpSession Ctx)
  recvSrtpSession : Option (SrtpSession Ctx)
  iceLite : Option IceLite
  dtlsTransport : Option (DtlsTransport Ssl)
  selectedEndpoint : Endpoint
  protectBuffer : Memory
  connectionEstablished : Bool
  dtlsReady : Bool
  mediaStream : Option MediaStream
  rtpH264Payload : Int
  rtpH264RtxPayload : Int
  rtpOpusPayload : Int
  remoteSetup : String

/-- What leaves the transport. -/
inductive TransportOutput where
  | udpSend (data : ByteString) (ep : Endpoint)
  | removeFromManager
deriving DecidableEq

namespace WebrtcTransport

variable {Ctx Ssl Cert : Type}

/-- The state when `Start` has returned, for a transport with this agent and
this DTLS endpoint. -/
def started (iceLite : IceLite) (dtls : DtlsTransport Ssl)
    (rtpH264Payload rtpH264RtxPayload rtpOpusPayload : Int) (remoteSetup : String)
    (protectBuffer : Memory) : WebrtcTransport Ctx Ssl where
  sendSrtpSession := some .new
  recvSrtpSession := some .new
  iceLite := some iceLite
  dtlsTransport := some dtls
  selectedEndpoint := default
  protectBuffer := protectBuffer
  connectionEstablished := false
  dtlsReady := false
  mediaStream := none
  rtpH264Payload := rtpH264Payload
  rtpH264RtxPayload := rtpH264RtxPayload
  rtpOpusPayload := rtpOpusPayload
  remoteSetup := remoteSetup

/-! ## Sending -/

def kProtectBuffer : Nat := 65536

/-- The shared part of `OnRtpPacketSend` and `OnRtcpPacketSend`: copy,
protect, send what `length` says. -/
def sendProtected (protect : SrtpSession Ctx → Memory → Nat → Nat → Nat → SrtpCall Ctx)
    (w : WebrtcTransport Ctx Ssl) (data : ByteString) :
    Except Fault (WebrtcTransport Ctx Ssl × List TransportOutput) :=
  if kProtectBuffer < data.length then .error .outOfBounds
  else
    match w.sendSrtpSession with
    | none => .error .nullComponent
    | some session =>
        let r := protect session (poke w.protectBuffer 0 data) data.length kProtectBuffer 0
        .ok ({ w with sendSrtpSession := some r.session, protectBuffer := r.data },
          [.udpSend (window r.data 0 r.outLen) w.selectedEndpoint])

def onRtpPacketSend (p : Platform Ctx Ssl Cert) (w : WebrtcTransport Ctx Ssl) (data : ByteString) :
    Except Fault (WebrtcTransport Ctx Ssl × List TransportOutput) :=
  sendProtected (SrtpSession.protectRtp p.srtp) w data

def onRtcpPacketSend (p : Platform Ctx Ssl Cert) (w : WebrtcTransport Ctx Ssl) (data : ByteString) :
    Except Fault (WebrtcTransport Ctx Ssl × List TransportOutput) :=
  sendProtected (SrtpSession.protectRtcp p.srtp) w data

/-- Take the calls `calls` of a component one after the other. -/
def onEach {α : Type} (on : WebrtcTransport Ctx Ssl → α →
      Except Fault (WebrtcTransport Ctx Ssl × List TransportOutput)) :
    WebrtcTransport Ctx Ssl → List α →
      Except Fault (WebrtcTransport Ctx Ssl × List TransportOutput)
  | w, [] => .ok (w, [])
  | w, call :: calls =>
      match on w call with
      | .error e => .error e
      | .ok (w', out) =>
          match onEach on w' calls with
          | .error e => .error e
          | .ok (w'', out') => .ok (w'', out ++ out')

section

variable {α : Type} {w w' : WebrtcTransport Ctx Ssl} {out : List TransportOutput} {calls : List α}
  {on : WebrtcTransport Ctx Ssl → α →
    Except Fault (WebrtcTransport Ctx Ssl × List TransportOutput)}
  {P : WebrtcTransport Ctx Ssl → Prop} {Q : Fault → Prop}

/-- What every call leaves behind, all of them leave behind. -/
theorem onEach_leaves (hon : ∀ v call, P v → Leaves (fun s => P s.1) Q (on v call)) (hw : P w)
    (calls : List α) : Leaves (fun s => P s.1) Q (onEach on w calls) := by
  induction calls generalizing w with
  | nil => exact hw
  | cons call calls ih =>
      have hfirst := hon w call hw
      rw [onEach]
      cases h₁ : on w call with
      | error f =>
          rw [h₁] at hfirst
          exact hfirst
      | ok next =>
          rw [h₁] at hfirst
          have hrest := ih hfirst
          cases h₂ : onEach on next.1 calls with
          | error f =>
              rw [h₂] at hrest
              simp only [h₂]
              exact hrest
          | ok last =>
              rw [h₂] at hrest
              simp only [h₂]
              exact hrest

theorem onEach_ok (hon : ∀ v call v' out, P v → on v call = .ok (v', out) → P v') (hw : P w)
    (h : onEach on w calls = .ok (w', out)) : P w' := by
  have hleaves : Leaves (fun s => P s.1) (fun _ => True) (onEach on w calls) := by
    refine onEach_leaves (fun v call hv => ?_) hw calls
    cases hc : on v call with
    | error f => trivial
    | ok next => exact hon v call next.1 next.2 hv hc
  rw [h] at hleaves
  exact hleaves

/-- Calls taken in order fault as one of them does. -/
theorem onEach_fault (hon : ∀ v call f, on v call = .error f → Q f) {f : Fault}
    (h : onEach on w calls = .error f) : Q f := by
  have hleaves : Leaves (fun _ => True) Q (onEach on w calls) := by
    refine onEach_leaves (P := fun _ => True) (fun v call _ => ?_) trivial calls
    cases hc : on v call with
    | error f => exact hon v call f hc
    | ok next => trivial
  rw [h] at hleaves
  exact hleaves

end

def onMediaOutput (p : Platform Ctx Ssl Cert) (w : WebrtcTransport Ctx Ssl) :
    MediaOutput → Except Fault (WebrtcTransport Ctx Ssl × List TransportOutput)
  | .rtpPacketSend data => onRtpPacketSend p w data
  | .rtcpPacketSend data => onRtcpPacketSend p w data

/-- Run a method of the media stream; it does not see what its calls do to
the transport. -/
def callMediaStream (p : Platform Ctx Ssl Cert) (w : WebrtcTransport Ctx Ssl)
    (call : MediaStream → Except Fault (MediaStream × List MediaOutput)) :
    Except Fault (WebrtcTransport Ctx Ssl × List TransportOutput) :=
  match w.mediaStream with
  | none => .error .nullComponent
  | some m =>
      match call m with
      | .error e => .error e
      | .ok (m', out) => onEach (onMediaOutput p) { w with mediaStream := some m' } out

/-! ## DTLS -/

/-- `OnDtlsTransportSetup`. -/
def onDtlsTransportSetup (p : Platform Ctx Ssl Cert) (w : WebrtcTransport Ctx Ssl)
    (suite : CipherSuite) (localMasterKey remoteMasterKey : List UInt8) :
    Except Fault (WebrtcTransport Ctx Ssl × List TransportOutput) :=
  match w.sendSrtpSession, w.recvSrtpSession with
  | some send, some recv =>
      .ok ({ w with
              sendSrtpSession := some (send.init p.srtp false suite localMasterKey).2
              recvSrtpSession := some (recv.init p.srtp true suite remoteMasterKey).2
              connectionEstablished := true }, [])
  | _, _ => .error .nullComponent

def onDtlsOutput (p : Platform Ctx Ssl Cert) (w : WebrtcTransport Ctx Ssl) :
    DtlsOutput → Except Fault (WebrtcTransport Ctx Ssl × List TransportOutput)
  | .setup suite localMasterKey remoteMasterKey =>
      onDtlsTransportSetup p w suite localMasterKey remoteMasterKey
  | .error => .ok (w, [.removeFromManager])
  | .shutdown => .ok (w, [.removeFromManager])
  | .sendData data => .ok (w, [.udpSend data w.selectedEndpoint])

/-! ## ICE -/

/-- `OnIceConnectionCompleted`. -/
def onIceConnectionCompleted (p : Platform Ctx Ssl Cert) (w : WebrtcTransport Ctx Ssl) :
    Except Fault (WebrtcTransport Ctx Ssl × List TransportOutput) :=
  match w.iceLite, w.dtlsTransport with
  | some ice, some dtls =>
      let w := { w with selectedEndpoint := ice.favoredCandidate }
      let r := dtls.start p.ssl w.remoteSetup
      match onEach (onDtlsOutput p) { w with dtlsTransport := some r.2.1 } r.2.2 with
      | .error e => .error e
      | .ok (w', out) => .ok (if r.1 then { w' with dtlsReady := true } else w', out)
  | _, _ => .error .nullComponent

def onIceOutput (p : Platform Ctx Ssl Cert) (w : WebrtcTransport Ctx Ssl) :
    IceOutput → Except Fault (WebrtcTransport Ctx Ssl × List TransportOutput)
  | .stunMessageSend data ep => .ok (w, [.udpSend data ep])
  | .iceConnectionCompleted => onIceConnectionCompleted p w
  | .iceConnectionError => .ok (w, [.removeFromManager])

/-! ## Receiving -/

def receiveStun (p : Platform Ctx Ssl Cert) (w : WebrtcTransport Ctx Ssl) (d : Datagram) :
    Except Fault (WebrtcTransport Ctx Ssl × List TransportOutput) :=
  match w.iceLite with
  | none => .error .nullComponent
  | some ice =>
      let r := ice.processStunMessage p.hmac d
      onEach (onIceOutput p) { w with iceLite := some r.1 } r.2

def receiveDtls (p : Platform Ctx Ssl Cert) (w : WebrtcTransport Ctx Ssl) (d : Datagram) :
    Except Fault (WebrtcTransport Ctx Ssl × List TransportOutput) :=
  if w.dtlsReady then
    match w.dtlsTransport with
    | none => .error .nullComponent
    | some dtls =>
        match dtls.processDataFromPeer p.ssl (window d.data 0 d.len) with
        | .error e => .error e
        | .ok (dtls', out) => onEach (onDtlsOutput p) { w with dtlsTransport := some dtls' } out
  else .ok (w, [])

/-- The RTCP branch of `OnUdpSocketDataReceive`: when `UnprotectRtcp` fails,
that is logged, and the media stream gets what is in the buffer. -/
def receiveRtcp (p : Platform Ctx Ssl Cert) (w : WebrtcTransport Ctx Ssl) (d : Datagram)
    (clock : Nat → Nat → UInt64) : Except Fault (WebrtcTransport Ctx Ssl × List TransportOutput) :=
  match w.recvSrtpSession with
  | none => .error .nullComponent
  | some session =>
      let r := session.unprotectRtcp p.srtp d.data d.len 0
      callMediaStream p { w with recvSrtpSession := some r.session } fun m =>
        m.receiveRctp clock r.data r.outLen

/-- The kinds of datagrams that the transport tells apart. -/
inductive DatagramKind where
  | stun
  | dtls
  | rtcp
  | other
deriving DecidableEq

def kindOf (d : Datagram) : DatagramKind :=
  if StunMessage.isStun d.data d.len then .stun
  else if DtlsContext.isDtls d.data d.len then .dtls
  else if RtcpPacket.isRtcp d.data d.len then .rtcp
  else .other

def onUdpSocketDataReceive (p : Platform Ctx Ssl Cert) (w : WebrtcTransport Ctx Ssl) (d : Datagram)
    (clock : Nat → Nat → UInt64) : Except Fault (WebrtcTransport Ctx Ssl × List TransportOutput) :=
  match kindOf d with
  | .stun => receiveStun p w d
  | .dtls => receiveDtls p w d
  | .rtcp => receiveRtcp p w d clock
  | .other => .ok (w, [])

/-! ## The answer -/

/-- The parameters of the video track; the payload types are `int32_t` and
are cut to a byte. -/
def videoRtpParams (w : WebrtcTransport Ctx Ssl) : RtpParams where
  mediaType := .video
  ssrc := 12345678
  clockRate := 90000
  payloadType := UInt8.ofInt w.rtpH264Payload
  rtxSsrc := 9527
  rtxPayloadType := UInt8.ofInt w.rtpH264RtxPayload
  isRtxEnabled := true
  isNackEnable := true

def audioRtpParams (w : WebrtcTransport Ctx Ssl) : RtpParams where
  mediaType := .audio
  ssrc := 87654321
  clockRate := 48000
  payloadType := UInt8.ofInt w.rtpOpusPayload
  rtxSsrc := 0
  rtxPayloadType := 0
  isRtxEnabled := false
  isNackEnable := true

/-- The end of `CreateAnswer`, which makes the media stream. -/
def createMediaStream (w : WebrtcTransport Ctx Ssl) (rtpBuf : Memory) :
    WebrtcTransport Ctx Ssl :=
  { w with
    mediaStream := some ((MediaStream.new.addStreamTrack w.videoRtpParams rtpBuf).addStreamTrack
      w.audioRtpParams rtpBuf) }

/-! ## The transport as a system -/

inductive Event where
  | createAnswer (rtpBuf : Memory)
  | udpSocketDataReceive (d : Datagram) (clock : Nat → Nat → UInt64)
  | udpSocketError
  | incomingH264Packet (heap : Memory) (clock : Nat → UInt64) (packet : MediaPacket)
  | incomingOpusPacket (heap : Memory) (clock : Nat → UInt64) (packet : MediaPacket)
  | rtcpTimerTimeout (buffer : Memory) (nowMillis : UInt64)
  | dtlsTimerTimeout
  | mediaSourceEnd

def step (p : Platform Ctx Ssl Cert) (w : WebrtcTransport Ctx Ssl) :
    Event → Except Fault (WebrtcTransport Ctx Ssl × List TransportOutput)
  | .createAnswer rtpBuf => .ok (w.createMediaStream rtpBuf, [])
  | .udpSocketDataReceive d clock => onUdpSocketDataReceive p w d clock
  | .udpSocketError => .ok (w, [.removeFromManager])
  | .incomingH264Packet heap clock packet =>
      callMediaStream p w fun m => m.receiveH264Packet p.rtpTimestamp heap clock packet
  | .incomingOpusPacket heap clock packet =>
      callMediaStream p w fun m => m.receiveOpusPacket p.rtpTimestamp heap clock packet
  | .rtcpTimerTimeout buffer nowMillis =>
      callMediaStream p w fun m => m.onTimerTimeout buffer nowMillis
  | .dtlsTimerTimeout =>
      match w.dtlsTransport with
      | none => .error .nullComponent
      | some dtls =>
          match dtls.onTimerTimeout p.ssl with
          | .error e => .error e
          | .ok (dtls', out) => onEach (onDtlsOutput p) { w with dtlsTransport := some dtls' } out
  | .mediaSourceEnd => .ok (w, [.removeFromManager])

end WebrtcTransport

end WebrtcServer
