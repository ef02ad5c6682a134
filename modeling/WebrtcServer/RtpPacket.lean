/-
# `RtpPacket` — rtp_packet.h, rtp_packet.cpp

The fixed RTP header with its bit-fields, RTP packets and the two
packetizers.  A packetizer builds every packet in one buffer and hands it
to its listener, which has to copy what it wants to keep; the listener is
the media stream and is always set, and since it does not touch the
packetizer its calls are the list of packets that a `Pack` emits.  The
computation of the RTP timestamp from the presentation time, in doubles,
is the parameter `rtpTimestamp`.  `PackStapA`, which nothing calls, is left
out.
-/
import WebrtcServer.ByteBuffer
import WebrtcServer.Lib.BitField
import WebrtcServer.Lib.Loop

namespace WebrtcServer

open Lib

def kMaxRtpPayloadSize : Nat := 1200

def kRtpHeaderFixedSize : Nat := 12

/-! ## `FixedRtpHeader`

A header is written through a pointer; a bit-field keeps the low bits of
what it is given. -/

namespace FixedRtpHeader

def setCC (hdr : Memory) (cc : UInt8) : Memory := poke hdr 0 [setBits (hdr 0) 0 4 cc]

def setHasExtension (hdr : Memory) (hasExtension : UInt8) : Memory :=
  poke hdr 0 [setBits (hdr 0) 4 1 hasExtension]

def setPadding (hdr : Memory) (padding : UInt8) : Memory :=
  poke hdr 0 [setBits (hdr 0) 5 1 padding]

def setVersion (hdr : Memory) (version : UInt8) : Memory :=
  poke hdr 0 [setBits (hdr 0) 6 2 version]

def setPayloadType (hdr : Memory) (payloadType : UInt8) : Memory :=
  poke hdr 1 [setBits (hdr 1) 0 7 payloadType]

def setMarker (hdr : Memory) (marker : UInt8) : Memory := poke hdr 1 [setBits (hdr 1) 7 1 marker]

def setSeqNum (hdr : Memory) (seqnum : UInt16) : Memory := poke hdr 2 (storeUInt16BE seqnum)

def setTimestamp (hdr : Memory) (timestamp : UInt32) : Memory :=
  poke hdr 4 (storeUInt32BE timestamp)

def setSSrc (hdr : Memory) (ssrc : UInt32) : Memory := poke hdr 8 (storeUInt32BE ssrc)

end FixedRtpHeader

/-! ## The header on the wire

What RFC 3550 reads in the first twelve bytes, and how long it makes the
header. -/

structure RtpHeader where
  version : Nat
  padding : Nat
  extension : Nat
  csrcCount : Nat
  marker : Nat
  payloadType : Nat
  sequenceNumber : UInt16
  timestamp : UInt32
  ssrc : UInt32
deriving DecidableEq

namespace RtpHeader

def decode (data : Memory) : RtpHeader where
  version := getBits (data 0) 6 2
  padding := getBits (data 0) 5 1
  extension := getBits (data 0) 4 1
  csrcCount := getBits (data 0) 0 4
  marker := getBits (data 1) 7 1
  payloadType := getBits (data 1) 0 7
  sequenceNumber := loadUInt16BE (data.shift 2)
  timestamp := loadUInt32BE (data.shift 4)
  ssrc := loadUInt32BE (data.shift 8)

/-- The fixed header, the CSRC list and the header extension. -/
def wireLength (data : Memory) : Nat :=
  let fixed := kRtpHeaderFixedSize + 4 * (decode data).csrcCount
  if (decode data).extension = 1 then
    fixed + 4 + 4 * (loadUInt16BE (data.shift (fixed + 2))).toNat
  else fixed

/-- The fixed part is twelve bytes. -/
theorem decode_congr {data data' : Memory} (h : ∀ i < kRtpHeaderFixedSize, data i = data' i) :
    decode data = decode data' := by
  simp only [kRtpHeaderFixedSize] at h
  have hseq : loadUInt16BE (data.shift 2) = loadUInt16BE (data'.shift 2) :=
    loadUInt16BE_congr (h _ (by omega)) (h _ (by omega))
  have hts : loadUInt32BE (data.shift 4) = loadUInt32BE (data'.shift 4) :=
    loadUInt32BE_congr fun i hi => h _ (by omega)
  have hssrc : loadUInt32BE (data.shift 8) = loadUInt32BE (data'.shift 8) :=
    loadUInt32BE_congr fun i hi => h _ (by omega)
  simp only [decode, h 0 (by omega), h 1 (by omega), hseq, hts, hssrc]

theorem fixed_le_wireLength (data : Memory) :
    kRtpHeaderFixedSize + 4 * (decode data).csrcCount ≤ wireLength data := by
  simp only [wireLength]
  split <;> omega

/-- The length of the header depends on its first byte and on what follows
the fixed part. -/
theorem wireLength_congr {data data' : Memory} (h0 : data 0 = data' 0)
    (h : ∀ i, kRtpHeaderFixedSize ≤ i → i < wireLength data → data i = data' i) :
    wireLength data = wireLength data' := by
  have hcc : (decode data).csrcCount = (decode data').csrcCount := by
    simp only [decode, h0]
  have hx : (decode data).extension = (decode data').extension := by
    simp only [decode, h0]
  by_cases hext : (decode data).extension = 1
  · have hlen : wireLength data = kRtpHeaderFixedSize + 4 * (decode data).csrcCount + 4
        + 4 * (loadUInt16BE
          (data.shift (kRtpHeaderFixedSize + 4 * (decode data).csrcCount + 2))).toNat := by
      simp only [wireLength, if_pos hext]
    have hsame : loadUInt16BE
          (data.shift (kRtpHeaderFixedSize + 4 * (decode data).csrcCount + 2)) =
        loadUInt16BE (data'.shift (kRtpHeaderFixedSize + 4 * (decode data).csrcCount + 2)) :=
      loadUInt16BE_congr (h _ (by omega) (by omega)) (h _ (by omega) (by omega))
    simp only [wireLength, ← hx, ← hcc, if_pos hext, hsame]
  · simp only [wireLength, ← hx, ← hcc, if_neg hext]

/-! ## What each setter changes: its own field and no other -/

section Setters

open FixedRtpHeader

variable (hdr : Memory)

theorem decode_poke_first (b : UInt8) :
    decode (poke hdr 0 [b]) =
      { decode hdr with
        version := getBits b 6 2, padding := getBits b 5 1, extension := getBits b 4 1
        csrcCount := getBits b 0 4 } := by
  simp [decode, poke, loadUInt16BE, loadUInt32BE]

theorem decode_poke_second (b : UInt8) :
    decode (poke hdr 1 [b]) =
      { decode hdr with marker := getBits b 7 1, payloadType := getBits b 0 7 } := by
  simp [decode, poke, loadUInt16BE, loadUInt32BE]

@[simp] theorem decode_setCC (v : UInt8) :
    decode (setCC hdr v) = { decode hdr with csrcCount := v.toNat % 16 } := by
  rw [setCC, decode_poke_first]
  simp [decode, getBits_setBits_self, getBits_setBits_of_disjoint]

@[simp] theorem decode_setHasExtension (v : UInt8) :
    decode (setHasExtension hdr v) = { decode hdr with extension := v.toNat % 2 } := by
  rw [setHasExtension, decode_poke_first]
  simp [decode, getBits_setBits_self, getBits_setBits_of_disjoint]

@[simp] theorem decode_setPadding (v : UInt8) :
    decode (setPadding hdr v) = { decode hdr with padding := v.toNat % 2 } := by
  rw [setPadding, decode_poke_first]
  simp [decode, getBits_setBits_self, getBits_setBits_of_disjoint]

@[simp] theorem decode_setVersion (v : UInt8) :
    decode (setVersion hdr v) = { decode hdr with version := v.toNat % 4 } := by
  rw [setVersion, decode_poke_first]
  simp [decode, getBits_setBits_self, getBits_setBits_of_disjoint]

@[simp] theorem decode_setPayloadType (v : UInt8) :
    decode (setPayloadType hdr v) = { decode hdr with payloadType := v.toNat % 128 } := by
  rw [setPayloadType, decode_poke_second]
  simp [decode, getBits_setBits_self, getBits_setBits_of_disjoint]

@[simp] theorem decode_setMarker (v : UInt8) :
    decode (setMarker hdr v) = { decode hdr with marker := v.toNat % 2 } := by
  rw [setMarker, decode_poke_second]
  simp [decode, getBits_setBits_self, getBits_setBits_of_disjoint]

@[simp] theorem decode_setSeqNum (v : UInt16) :
    decode (setSeqNum hdr v) = { decode hdr with sequenceNumber := v } := by
  have hload : loadUInt16BE ((setSeqNum hdr v).shift 2) = v :=
    loadUInt16BE_of_bytes (by simp [setSeqNum, poke, storeUInt16BE])
      (by simp [setSeqNum, poke, storeUInt16BE])
  simp only [decode, hload]
  simp [setSeqNum, poke, loadUInt32BE, storeUInt16BE]

@[simp] theorem decode_setTimestamp (v : UInt32) :
    decode (setTimestamp hdr v) = { decode hdr with timestamp := v } := by
  have hload : loadUInt32BE ((setTimestamp hdr v).shift 4) = v := by
    apply loadUInt32BE_of_bytes <;> simp [setTimestamp, poke, storeUInt32BE]
  simp only [decode, hload]
  simp [setTimestamp, poke, loadUInt16BE, loadUInt32BE, storeUInt32BE]

@[simp] theorem decode_setSSrc (v : UInt32) :
    decode (setSSrc hdr v) = { decode hdr with ssrc := v } := by
  have hload : loadUInt32BE ((setSSrc hdr v).shift 8) = v := by
    apply loadUInt32BE_of_bytes <;> simp [setSSrc, poke, storeUInt32BE]
  simp only [decode, hload]
  simp [setSSrc, poke, loadUInt16BE, loadUInt32BE, storeUInt32BE]

end Setters

end RtpHeader

/-! ## `RtpPacket` -/

structure RtpPacket where
  ssrc : UInt32
  sequenceNumber : UInt16
  timestamp : UInt32
  headerOffset : UInt32
  data : Memory
  size : UInt32

/-- The fields repeat what the bytes say, and the payload begins where the
header ends. -/
structure RtpPacket.WellFormed (pkt : RtpPacket) : Prop where
  ssrc_eq : (RtpHeader.decode pkt.data).ssrc = pkt.ssrc
  sequenceNumber_eq : (RtpHeader.decode pkt.data).sequenceNumber = pkt.sequenceNumber
  timestamp_eq : (RtpHeader.decode pkt.data).timestamp = pkt.timestamp
  headerOffset_eq : pkt.headerOffset.toNat = RtpHeader.wireLength pkt.data
  headerOffset_le : pkt.headerOffset.toNat ≤ pkt.size.toNat
  size_lt : pkt.size.toNat < 2147483648

/-- The payload, behind the header. -/
def RtpPacket.payload (pkt : RtpPacket) : List UInt8 :=
  window pkt.data pkt.headerOffset.toNat (pkt.size.toNat - pkt.headerOffset.toNat)

/-! ## `MediaPacket`

What a packetizer reads of an `AVPacket`: its bytes, their number, an
`int`, and the presentation time. -/

structure MediaPacket where
  data : Memory
  size : Nat
  timestampMillis : Int
  size_lt : size < 2147483648

/-- The RTP timestamp without the doubles: the product with the clock rate,
exact. -/
def exactTimestamp (millis : Int) (clockRate : UInt32) : UInt32 :=
  UInt32.ofNat (millis.toNat * clockRate.toNat / 1000)

/-! ## `RtpPacketizer` -/

def kRtpBufferSize : Nat := 5000

structure RtpPacketizer where
  seqnum : UInt16
  payloadType : UInt8
  clockRate : UInt32
  ssrc : UInt32
  rtpBuf : Memory

namespace RtpPacketizer

/-- The constructor; `rtp_buf_` is left as memory has it. -/
def new (ssrc : UInt32) (payloadType : UInt8) (clockRate : UInt32) (rtpBuf : Memory) :
    RtpPacketizer :=
  { seqnum := 0, payloadType, clockRate, ssrc, rtpBuf }

/-- The header of the next packet. -/
def header (k : RtpPacketizer) (timestamp : UInt32) (marker : UInt8) : Memory :=
  let hdr := FixedRtpHeader.setPayloadType k.rtpBuf k.payloadType
  let hdr := FixedRtpHeader.setSSrc hdr k.ssrc
  let hdr := FixedRtpHeader.setTimestamp hdr timestamp
  let hdr := FixedRtpHeader.setSeqNum hdr k.seqnum
  let hdr := FixedRtpHeader.setMarker hdr marker
  let hdr := FixedRtpHeader.setVersion hdr 2
  let hdr := FixedRtpHeader.setCC hdr 0
  let hdr := FixedRtpHeader.setHasExtension hdr 0
  FixedRtpHeader.setPadding hdr 0

/-- One packet: the header, `body` behind it, and the call of the listener. -/
def emit (k : RtpPacketizer) (timestamp : UInt32) (marker : UInt8) (body : List UInt8) :
    Except Fault (RtpPacketizer × RtpPacket) :=
  if kRtpHeaderFixedSize + body.length ≤ kRtpBufferSize then
    let buf := poke (k.header timestamp marker) kRtpHeaderFixedSize body
    .ok ({ k with rtpBuf := buf, seqnum := k.seqnum + 1 },
      { ssrc := k.ssrc, sequenceNumber := k.seqnum, timestamp
        headerOffset := UInt32.ofNat kRtpHeaderFixedSize, data := buf
        size := UInt32.ofNat (kRtpHeaderFixedSize + body.length) })
  else .error .outOfBounds

end RtpPacketizer

/-! ## `H264RtpPacketizer` -/

def kNalTypeMask : UInt8 := 0x1F
def kFuA : UInt8 := 28
def kFuStart : UInt8 := 0x80
def kFuEnd : UInt8 := 0x40

/-- `NaluePosition`: where the unit begins in the buffer and its length. -/
abbrev NaluPosition := Nat × Nat

structure H264RtpPacketizer extends RtpPacketizer where
  frameEndMarker : UInt8

namespace H264RtpPacketizer

def new (ssrc : UInt32) (payloadType : UInt8) (clockRate : UInt32) (rtpBuf : Memory) :
    H264RtpPacketizer :=
  { RtpPacketizer.new ssrc payloadType clockRate rtpBuf with frameEndMarker := 0 }

/-- Set the length of the last entry, which ends at `stop`. -/
def updateLast (sequences : List NaluPosition) (stop : Nat) : List NaluPosition :=
  match sequences.getLast? with
  | none => sequences
  | some last => sequences.dropLast ++ [(last.1, toSizeT (stop - last.1))]

/-- One turn of the scan at `i`: the next `i` and the entries. -/
def scanTurn (buffer : Memory) (i : Nat) (sequences : List NaluPosition) :
    Nat × List NaluPosition :=
  if 1 < buffer (i + 2) then (i + 3, sequences)
  else if buffer (i + 2) = 1 then
    if buffer (i + 1) = 0 ∧ buffer i = 0 then
      -- a start code of three bytes, or of four with the zero in front of it
      let startOffset := if 0 < i ∧ buffer (i - 1) = 0 then i - 1 else i
      (i + 3, updateLast sequences startOffset ++ [(i + 3, 0)])
    else (i + 3, sequences)
  else (i + 1, sequences)

/-- The scan from `i` on, for `fuel` turns at most. -/
def scan (buffer : Memory) (stop : Nat) : Nat → Nat → List NaluPosition → List NaluPosition
  | 0, _, sequences => sequences
  | fuel + 1, i, sequences =>
      if i < stop then
        let next := scanTurn buffer i sequences
        scan buffer stop fuel next.1 next.2
      else sequences

/-- Every turn moves on, so `bufferSize` turns are enough. -/
def parseNaluPositions (buffer : Memory) (bufferSize : Nat) : List NaluPosition :=
  if bufferSize < 3 then []
  else updateLast (scan buffer (bufferSize - 3) bufferSize 0 []) bufferSize

/-- `data` is the unit, `size` its length as an `int`. -/
def packSingNalu (k : H264RtpPacketizer) (data : Memory) (size : Int) (timestamp : UInt32) :
    Except Fault (H264RtpPacketizer × List RtpPacket) := do
  let (base, pkt) ← k.toRtpPacketizer.emit timestamp k.frameEndMarker (window data 0 (toSizeT size))
  .ok ({ k with toRtpPacketizer := base }, [pkt])

/-- What the loop of `PackFuA` works on. -/
structure FuState where
  packetizer : RtpPacketizer
  start : Bool
  end_ : Bool
  data : Memory
  size : Int
  out : List RtpPacket

def fuIndicate (naluHeader : UInt8) : UInt8 := kFuA ||| (naluHeader &&& ~~~kNalTypeMask)

def fuHeader (naluHeader : UInt8) (start end_ : Bool) : UInt8 :=
  (naluHeader &&& kNalTypeMask) ||| (if start then kFuStart else 0) |||
    (if end_ then kFuEnd else 0)

def FuState.more (s : FuState) : Bool := !s.end_

/-- One turn of the loop: one fragment. -/
def fuTurn (naluHeader frameEndMarker : UInt8) (timestamp : UInt32) (s : FuState) :
    Except Fault FuState :=
  let end_ := s.end_ || decide (toUInt32 s.size ≤ kMaxRtpPayloadSize - 2)
  let dataLen : Int := if end_ then s.size else kMaxRtpPayloadSize - 2
  let marker := if end_ then frameEndMarker else 0
  let body := fuIndicate naluHeader :: fuHeader naluHeader s.start end_ ::
    window s.data 0 (toSizeT dataLen)
  match s.packetizer.emit timestamp marker body with
  | .error e => .error e
  | .ok (base, pkt) =>
      .ok { packetizer := base, start := false, end_, data := s.data.shift (toSizeT dataLen)
            size := s.size - dataLen, out := s.out ++ [pkt] }

/-- Every fragment but the last takes `kMaxRtpPayloadSize - 2` bytes, so
`size` turns are more than enough. -/
def packFuA (k : H264RtpPacketizer) (data : Memory) (size : Int) (timestamp : UInt32) :
    Except Fault (H264RtpPacketizer × List RtpPacket) := do
  let s ← whileLoop FuState.more (fuTurn (data 0) k.frameEndMarker timestamp) size.toNat
    { packetizer := k.toRtpPacketizer, start := true, end_ := false, data := data.shift 1
      size := size - 1, out := [] }
  if s.size = 0 then .ok ({ k with toRtpPacketizer := s.packetizer }, s.out)
  else .error .assertFailed

/-- The body of the loop of `Pack`. -/
def packUnit (data : Memory) (timestamp : UInt32) (k : H264RtpPacketizer) (nalu : NaluPosition) :
    Except Fault (H264RtpPacketizer × List RtpPacket) :=
  if nalu.2 ≤ kMaxRtpPayloadSize then
    k.packSingNalu (data.shift nalu.1) (toInt nalu.2) timestamp
  else k.packFuA (data.shift nalu.1) (toInt nalu.2) timestamp

/-- The loop of `Pack` over the units that are left. -/
def packEach (data : Memory) (timestamp : UInt32) :
    H264RtpPacketizer → List NaluPosition → Except Fault (H264RtpPacketizer × List RtpPacket)
  | k, [] => .ok (k, [])
  | k, nalu :: nalus => do
      let k := if nalus.length + 1 = 1 then { k with frameEndMarker := 1 } else k
      let (k, pkts) ← packUnit data timestamp k nalu
      let (k, rest) ← packEach data timestamp k nalus
      .ok (k, pkts ++ rest)

def pack (rtpTimestamp : Int → UInt32 → UInt32) (k : H264RtpPacketizer) (packet : MediaPacket) :
    Except Fault (H264RtpPacketizer × List RtpPacket) :=
  packEach packet.data (rtpTimestamp packet.timestampMillis k.clockRate)
    { k with frameEndMarker := 0 } (parseNaluPositions packet.data packet.size)

end H264RtpPacketizer

/-! ## `OpusRtpPacketizer` -/

namespace OpusRtpPacketizer

def pack (rtpTimestamp : Int → UInt32 → UInt32) (k : RtpPacketizer) (packet : MediaPacket) :
    Except Fault (RtpPacketizer × List RtpPacket) := do
  let (k, pkt) ← k.emit (rtpTimestamp packet.timestampMillis k.clockRate) 1
    (window packet.data 0 packet.size)
  .ok (k, [pkt])

end OpusRtpPacketizer

end WebrtcServer
