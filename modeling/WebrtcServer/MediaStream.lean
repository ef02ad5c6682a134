/-
# `MediaStream` — media_stream.h, media_stream.cpp: the tracks together

The media stream keeps its tracks by SSRC, packs the media packets it is
given, sends every RTP packet and hands it to its track, and acts on the
RTCP that comes in.  A tick of the sender-report timer is an event; the
timer itself, which every tick arms again, is left out.  The entries of
the map are pointers, so an entry may be null: `operator[]` makes one when
the key is not there.

The observer is the transport and its calls are the outputs of a step.
-/
import Mathlib.Data.List.AList
import WebrtcServer.StreamTrack

namespace WebrtcServer

open Lib

/-- `std::unordered_map<uint32_t, std::unique_ptr<StreamTrack>>`. -/
abbrev StreamTracks := AList fun _ : UInt32 => Option StreamTrack

/-- The calls of `MediaStream::Observer`, with the bytes handed over. -/
inductive MediaOutput where
  | rtcpPacketSend (data : ByteString)
  | rtpPacketSend (data : ByteString)
deriving DecidableEq

structure MediaStream where
  streamTracks : StreamTracks
  h264Packetizer : Option H264RtpPacketizer
  opusPacketizer : Option RtpPacketizer

namespace MediaStream

def new : MediaStream where
  streamTracks := ∅
  h264Packetizer := none
  opusPacketizer := none

/-- `operator[]`: the entry, and the map, which has the key afterwards. -/
def index (tracks : StreamTracks) (ssrc : UInt32) : StreamTracks × Option StreamTrack :=
  match tracks.lookup ssrc with
  | some entry => (tracks, entry)
  | none => (tracks.insert ssrc none, none)

/-- `rtpBuf` is what the memory of the new packetizer holds. -/
def addStreamTrack (s : MediaStream) (params : RtpParams) (rtpBuf : Memory) : MediaStream :=
  let s :=
    match params.mediaType with
    | .video =>
        { s with
          h264Packetizer := some (H264RtpPacketizer.new params.ssrc params.payloadType
            params.clockRate rtpBuf) }
    | .audio =>
        { s with
          opusPacketizer := some (RtpPacketizer.new params.ssrc params.payloadType
            params.clockRate rtpBuf) }
  { s with streamTracks := s.streamTracks.insert params.ssrc (some (StreamTrack.new params)) }

/-- `OnStreamTrackResendPacket`. -/
def onStreamTrackResendPacket (r : Resent) : MediaOutput :=
  .rtpPacketSend (window r.pkt.data 0 r.pkt.size.toNat)

/-- Call the track that `operator[]` finds. -/
def callTrack (s : MediaStream) (ssrc : UInt32)
    (call : StreamTrack → Except Fault (StreamTrack × List Resent)) :
    Except Fault (MediaStream × List MediaOutput) :=
  let entry := index s.streamTracks ssrc
  match entry.2 with
  | none => .error .nullTrack
  | some t =>
      match call t with
      | .error e => .error e
      | .ok (t', out) =>
          .ok ({ s with streamTracks := entry.1.insert ssrc (some t') },
            out.map onStreamTrackResendPacket)

/-! ## Sending -/

/-- `OnRtpPacketGenerated`: send the packet, then hand it to its track
(`RtpPacketSent`). -/
def onRtpPacketGenerated (s : MediaStream) (heap : Memory) (now : UInt64) (pkt : RtpPacket) :
    Except Fault (MediaStream × List MediaOutput) :=
  match s.callTrack pkt.ssrc fun t => t.step (.receivePacket heap now pkt) with
  | .error e => .error e
  | .ok (s', out) => .ok (s', .rtpPacketSend (window pkt.data 0 pkt.size.toNat) :: out)

/-- The packets of one `Pack`, in order. -/
def onRtpPacketsGenerated (heap : Memory) : (clock : Nat → UInt64) → MediaStream →
    List RtpPacket → Except Fault (MediaStream × List MediaOutput)
  | _, s, [] => .ok (s, [])
  | clock, s, pkt :: pkts =>
      match s.onRtpPacketGenerated heap (clock 0) pkt with
      | .error e => .error e
      | .ok (s', out) =>
          match onRtpPacketsGenerated heap (fun i => clock (i + 1)) s' pkts with
          | .error e => .error e
          | .ok (s'', out') => .ok (s'', out ++ out')

def receiveH264Packet (rtpTimestamp : Int → UInt32 → UInt32) (s : MediaStream) (heap : Memory)
    (clock : Nat → UInt64) (packet : MediaPacket) : Except Fault (MediaStream × List MediaOutput) :=
  match s.h264Packetizer with
  | none => .error .nullPacketizer
  | some k =>
      match k.pack rtpTimestamp packet with
      | .error e => .error e
      | .ok (k', pkts) => onRtpPacketsGenerated heap clock { s with h264Packetizer := some k' } pkts

def receiveOpusPacket (rtpTimestamp : Int → UInt32 → UInt32) (s : MediaStream) (heap : Memory)
    (clock : Nat → UInt64) (packet : MediaPacket) : Except Fault (MediaStream × List MediaOutput) :=
  match s.opusPacketizer with
  | none => .error .nullPacketizer
  | some k =>
      match OpusRtpPacketizer.pack rtpTimestamp k packet with
      | .error e => .error e
      | .ok (k', pkts) => onRtpPacketsGenerated heap clock { s with opusPacketizer := some k' } pkts

/-! ## Receiving RTCP -/

/-- One report block: only a track that `find` finds gets it. -/
def receiveReportBlock (s : MediaStream) (now : UInt64) (block : ReportBlock) :
    Except Fault MediaStream :=
  match s.streamTracks.lookup block.sourceSsrc with
  | none => .ok s
  | some none => .error .nullTrack
  | some (some t) =>
      .ok { s with
            streamTracks :=
              s.streamTracks.insert block.sourceSsrc (some (t.receiveReceiverReport now block)) }

def receiveReportBlocks : (clock : Nat → UInt64) → MediaStream → List ReportBlock →
    Except Fault MediaStream
  | _, s, [] => .ok s
  | clock, s, block :: blocks =>
      match s.receiveReportBlock (clock 0) block with
      | .error e => .error e
      | .ok s' => receiveReportBlocks (fun i => clock (i + 1)) s' blocks

/-- The body of the loop of `ReceiveRctp`. -/
def receivePacket (s : MediaStream) (clock : Nat → UInt64) (p : RtcpPacket) :
    Except Fault (MediaStream × List MediaOutput) :=
  if p.type = kRtcpTypeRtpfb then
    if p.format = 1 then
      match p.asNack with
      | none => .error .nullPacket
      | some nack => s.callTrack nack.mediaSsrc fun t => t.receiveNack clock nack
    else .ok (s, [])
  else if p.type = kRtcpTypeRr then
    match p.asReceiverReport with
    | none => .error .nullPacket
    | some rr =>
        match receiveReportBlocks clock s rr.reportBlocks with
        | .error e => .error e
        | .ok s' => .ok (s', [])
  else .ok (s, [])

/-- The loop; each packet reads the clock for itself. -/
def receivePackets : (clock : Nat → Nat → UInt64) → MediaStream → List RtcpPacket →
    Except Fault (MediaStream × List MediaOutput)
  | _, s, [] => .ok (s, [])
  | clock, s, p :: ps =>
      match s.receivePacket (clock 0) p with
      | .error e => .error e
      | .ok (s', out) =>
          match receivePackets (fun i => clock (i + 1)) s' ps with
          | .error e => .error e
          | .ok (s'', out') => .ok (s'', out ++ out')

def receiveRctp (s : MediaStream) (clock : Nat → Nat → UInt64) (data : Memory) (len : Nat) :
    Except Fault (MediaStream × List MediaOutput) :=
  match RtcpCompound.parse data len with
  | none => .ok (s, [])
  | some packets => receivePackets clock s packets

/-! ## Sender reports -/

def kSenderReportBuffer : Nat := 1500

/-- One turn of the loop of `OnTimerTimeout`; `buffer` is the array on the
stack. -/
def sendReport (buffer : Memory) (nowMillis : UInt64) (entry : Option StreamTrack) :
    Except Fault (List MediaOutput) :=
  match entry with
  | none => .error .nullTrack
  | some t =>
      match t.createRtcpSenderReport nowMillis with
      | none => .ok []
      | some sr =>
          match sr.serialize (ByteWriter.ofBuffer buffer kSenderReportBuffer) with
          | none => .ok []
          | some w => .ok [.rtcpPacketSend w.written]

def sendReports (buffer : Memory) (nowMillis : UInt64) :
    List (Option StreamTrack) → Except Fault (List MediaOutput)
  | [] => .ok []
  | entry :: entries =>
      match sendReport buffer nowMillis entry with
      | .error e => .error e
      | .ok out =>
          match sendReports buffer nowMillis entries with
          | .error e => .error e
          | .ok out' => .ok (out ++ out')

def onTimerTimeout (s : MediaStream) (buffer : Memory) (nowMillis : UInt64) :
    Except Fault (MediaStream × List MediaOutput) :=
  match sendReports buffer nowMillis (s.streamTracks.entries.map Sigma.snd) with
  | .error e => .error e
  | .ok out => .ok (s, out)

/-! ## The media stream as a system -/

inductive Event where
  | addStreamTrack (params : RtpParams) (rtpBuf : Memory)
  | receiveH264Packet (heap : Memory) (clock : Nat → UInt64) (packet : MediaPacket)
  | receiveOpusPacket (heap : Memory) (clock : Nat → UInt64) (packet : MediaPacket)
  | receiveRctp (clock : Nat → Nat → UInt64) (data : Memory) (len : Nat)
  | timerTimeout (buffer : Memory) (nowMillis : UInt64)

def step (rtpTimestamp : Int → UInt32 → UInt32) (s : MediaStream) :
    Event → Except Fault (MediaStream × List MediaOutput)
  | .addStreamTrack params rtpBuf => .ok (s.addStreamTrack params rtpBuf, [])
  | .receiveH264Packet heap clock packet => s.receiveH264Packet rtpTimestamp heap clock packet
  | .receiveOpusPacket heap clock packet => s.receiveOpusPacket rtpTimestamp heap clock packet
  | .receiveRctp clock data len => s.receiveRctp clock data len
  | .timerTimeout buffer nowMillis => s.onTimerTimeout buffer nowMillis

end MediaStream

end WebrtcServer
