/-
# `RtcpPacket` — rtcp_packet.h, rtcp_packet.cpp

The RTCP packets that the server reads, NACKs and receiver reports, the
compound that contains them, and the sender report that it writes.  The
class of a packet, chosen when the compound is parsed, is the constructor
of its body, and a `dynamic_cast` asks for the constructor.  `RtpfbPacket`
is only ever a base class and has no body of its own.
-/
import WebrtcServer.ByteBuffer
import WebrtcServer.Lib.BitField
import WebrtcServer.Lib.Loop

namespace WebrtcServer

open Lib

def kRtcpExpectedVersion : UInt8 := 2
def kRtcpMinHeaderLength : Nat := 4

def kRtcpTypeSr : UInt8 := 200
def kRtcpTypeRr : UInt8 := 201
def kRtcpTypeRtpfb : UInt8 := 205

/-! ## The common header -/

structure RtcpCommonHeader where
  countOrFormat : Nat
  padding : Nat
  version : Nat
  packetType : UInt8
  length : UInt16
deriving DecidableEq

namespace RtcpCommonHeader

/-- The bit-fields as they lie in memory. -/
def load (data : Memory) : RtcpCommonHeader where
  countOrFormat := getBits (data 0) 0 5
  padding := getBits (data 0) 5 1
  version := getBits (data 0) 6 2
  packetType := data 1
  length := loadUInt16BE (data.shift 2)

def store (hdr : RtcpCommonHeader) : List UInt8 :=
  let first := setBits 0 0 5 (UInt8.ofNat hdr.countOrFormat)
  let first := setBits first 5 1 (UInt8.ofNat hdr.padding)
  let first := setBits first 6 2 (UInt8.ofNat hdr.version)
  first :: hdr.packetType :: storeUInt16BE hdr.length

end RtcpCommonHeader

def parseCommonHeader (r : ByteReader) : Option (RtcpCommonHeader × ByteReader) :=
  match r.readBytes 4 with
  | none => none
  | some (_, r') => some (RtcpCommonHeader.load r.currentData, r')

/-! ## Packets -/

structure ReportBlock where
  sourceSsrc : UInt32
  fractionLost : UInt8
  cumulativeLost : UInt32
  extendedHighSeqNum : UInt32
  jitter : UInt32
  lastSr : UInt32
  delaySinceLastSr : UInt32
deriving DecidableEq

structure NackPacket where
  senderSsrc : UInt32
  mediaSsrc : UInt32
  /-- `packet_lost_sequence_numbers_`. -/
  lost : List UInt16
deriving DecidableEq

structure ReceiverReportPacket where
  senderSsrc : UInt32
  reportBlocks : List ReportBlock
deriving DecidableEq

/-- What the class of a packet adds to its header. -/
inductive RtcpBody where
  | generic
  | nack (packet : NackPacket)
  | receiverReport (packet : ReceiverReportPacket)
deriving DecidableEq

structure RtcpPacket where
  header : RtcpCommonHeader
  body : RtcpBody
deriving DecidableEq

namespace RtcpPacket

def type (p : RtcpPacket) : UInt8 := p.header.packetType

def format (p : RtcpPacket) : Nat := p.header.countOrFormat

/-- `dynamic_cast<NackPacket*>`. -/
def asNack (p : RtcpPacket) : Option NackPacket :=
  match p.body with
  | .nack packet => some packet
  | _ => none

/-- `dynamic_cast<ReceiverReportPacket*>`. -/
def asReceiverReport (p : RtcpPacket) : Option ReceiverReportPacket :=
  match p.body with
  | .receiverReport packet => some packet
  | _ => none

def isRtcp (data : Memory) (size : Nat) : Bool :=
  if size < kRtcpMinHeaderLength then false
  else if data 0 >>> 6 ≠ kRtcpExpectedVersion then false
  else [192, 195, 200, 201, 202, 203, 204, 205, 206, 207].contains (data 1)

/-- `RtcpPacket::Parse`: skip the payload. -/
def parseGeneric (r : ByteReader) : Option (RtcpPacket × ByteReader) := do
  let (header, r) ← parseCommonHeader r
  let r ← r.consume (header.length.toNat * 4)
  some (⟨header, .generic⟩, r)

end RtcpPacket

/-! ## Generic NACK -/

/-- The numbers that the bits of `blp` name, from `pid` on; a 16-bit mask
has run out after `bits = 16` steps. -/
def lostOfBitmask : Nat → UInt16 → UInt16 → List UInt16
  | 0, _, _ => []
  | bits + 1, pid, bitmask =>
      if bitmask = 0 then []
      else (if bitmask &&& 1 = 1 then [pid] else []) ++ lostOfBitmask bits (pid + 1) (bitmask >>> 1)

/-- The FCI items; `items` counts down. -/
def parseNackItems : Nat → ByteReader → List UInt16 → Option (List UInt16 × ByteReader)
  | 0, r, lost => some (lost, r)
  | items + 1, r, lost => do
      let (pid, r) ← r.readUInt16
      let (blp, r) ← r.readUInt16
      parseNackItems items r (lost ++ pid :: lostOfBitmask 16 (pid + 1) blp)

/-- `NackPacket::Parse`; a length below 2 makes the number of items huge. -/
def NackPacket.parse (r : ByteReader) : Option (RtcpPacket × ByteReader) := do
  let (header, r) ← parseCommonHeader r
  let (senderSsrc, r) ← r.readUInt32
  let (mediaSsrc, r) ← r.readUInt32
  let items := toSizeT ((header.length.toNat * 4 : Nat) - (8 : Int)) / 4
  let (lost, r) ← parseNackItems items r []
  some (⟨header, .nack { senderSsrc, mediaSsrc, lost }⟩, r)

/-! ## Receiver reports -/

def ReportBlock.parse (r : ByteReader) : Option (ReportBlock × ByteReader) := do
  let (sourceSsrc, r) ← r.readUInt32
  let (fractionLost, r) ← r.readUInt8
  let (cumulativeLost, r) ← r.readUInt24
  let (extendedHighSeqNum, r) ← r.readUInt32
  let (jitter, r) ← r.readUInt32
  let (lastSr, r) ← r.readUInt32
  let (delaySinceLastSr, r) ← r.readUInt32
  some ({ sourceSsrc, fractionLost, cumulativeLost, extendedHighSeqNum, jitter, lastSr
          delaySinceLastSr }, r)

def parseReportBlocks : Nat → ByteReader → List ReportBlock → Option (List ReportBlock × ByteReader)
  | 0, r, blocks => some (blocks, r)
  | count + 1, r, blocks => do
      let (block, r) ← ReportBlock.parse r
      parseReportBlocks count r (blocks ++ [block])

def ReceiverReportPacket.parse (r : ByteReader) : Option (RtcpPacket × ByteReader) := do
  let (header, r) ← parseCommonHeader r
  let (senderSsrc, r) ← r.readUInt32
  let (reportBlocks, r) ← parseReportBlocks header.countOrFormat r []
  some (⟨header, .receiverReport { senderSsrc, reportBlocks }⟩, r)

/-! ## Compounds -/

namespace RtcpCompound

structure State where
  reader : ByteReader
  rtcps : List RtcpPacket

def State.more (s : State) : Bool := decide (2 ≤ s.reader.left)

/-- Choose the class by the first two bytes and let it parse. -/
def parsePacket (r : ByteReader) : Option (RtcpPacket × ByteReader) :=
  let header := RtcpCommonHeader.load r.currentData
  let r := r.touch r.start 2
  if header.packetType = kRtcpTypeRtpfb then
    if header.countOrFormat = 1 then NackPacket.parse r else RtcpPacket.parseGeneric r
  else if header.packetType = kRtcpTypeRr then ReceiverReportPacket.parse r
  else RtcpPacket.parseGeneric r

def turn (s : State) : Except Unit State :=
  match parsePacket s.reader with
  | none => .error ()
  | some (packet, reader) => .ok { reader, rtcps := s.rtcps ++ [packet] }

/-- The packets, or nothing if one of them does not parse.  A packet takes
four bytes at least, so `size` turns are enough. -/
def parse (data : Memory) (size : Nat) : Option (List RtcpPacket) :=
  match whileLoop State.more turn size { reader := .ofData data size, rtcps := [] } with
  | .error _ => none
  | .ok s => some s.rtcps

end RtcpCompound

/-! ## Sender reports -/

structure SenderReportPacket where
  senderSsrc : UInt32
  ntpSeconds : UInt32
  ntpFractions : UInt32
  rtpTimestamp : UInt32
  sendPacketCount : UInt32
  sendOctets : UInt32
deriving DecidableEq

def kSenderBaseLength : Nat := 24

def SenderReportPacket.header : RtcpCommonHeader where
  countOrFormat := 0
  padding := 0
  version := 2
  packetType := kRtcpTypeSr
  length := UInt16.ofNat ((4 + kSenderBaseLength) / 4 - 1)

def SenderReportPacket.serialize (sr : SenderReportPacket) (w : ByteWriter) :
    Option ByteWriter := do
  let w ← w.writeBytes SenderReportPacket.header.store
  let w ← w.writeUInt32 sr.senderSsrc
  let w ← w.writeUInt32 sr.ntpSeconds
  let w ← w.writeUInt32 sr.ntpFractions
  let w ← w.writeUInt32 sr.rtpTimestamp
  let w ← w.writeUInt32 sr.sendPacketCount
  w.writeUInt32 sr.sendOctets

end WebrtcServer
