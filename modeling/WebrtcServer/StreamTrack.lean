/-
# `StreamTrack` — media_stream.h, media_stream.cpp: one track

A track keeps the packets it sent in a ring of 1000 slots, the slot of a
packet being its sequence number modulo 1000, and resends from there what a
NACK lists.  A packet that is resent over RTX is rewritten where it is
stored, once; later resends only renumber it.

The observer is the media stream and is always set, so its calls are the
outputs of a step; an output also names the listed number that caused it.
Every reading of the clock is an input, and so is what fresh heap memory
holds.  The TWCC parameters, which nothing reads, are left out.
-/
import Mathlib.Logic.Function.Basic
import WebrtcServer.Lib.Runs
import WebrtcServer.RtcpPacket
import WebrtcServer.RtpPacket

namespace WebrtcServer

open Lib

/-! ## `RtpStoragePacket` -/

def kRtxExtraSize : UInt32 := 2

structure RtpStoragePacket where
  ssrc : UInt32
  sequenceNumber : UInt16
  timestamp : UInt32
  headerOffset : UInt32
  data : Memory
  size_ : UInt32
  resentMillisecs : UInt64
  isRtx : Bool

namespace RtpStoragePacket

/-- The bytes allocated for `data_`. -/
def capacity (pkt : RtpStoragePacket) : Nat := (pkt.size_ + kRtxExtraSize).toNat

/-- The constructor, which copies the packet into `heap`. -/
def new (pkt : RtpPacket) (heap : Memory) : Except Fault RtpStoragePacket :=
  if pkt.size.toNat ≤ (pkt.size + kRtxExtraSize).toNat then
    .ok { ssrc := pkt.ssrc, sequenceNumber := pkt.sequenceNumber, timestamp := pkt.timestamp
          headerOffset := pkt.headerOffset, data := poke heap 0 (window pkt.data 0 pkt.size.toNat)
          size_ := pkt.size, resentMillisecs := 0, isRtx := false }
  else .error .outOfBounds

/-- `Size()`. -/
def size (pkt : RtpStoragePacket) : UInt32 :=
  if pkt.isRtx then pkt.size_ + kRtxExtraSize else pkt.size_

/-- The payload length as `memmove` gets it, by way of an `int`. -/
def payloadLen (pkt : RtpStoragePacket) : Nat :=
  toSizeT (toInt (pkt.size_ - pkt.headerOffset).toNat)

/-- The blocks that `MakeRtxPacket` writes: the payload, the OSN, the SSRC,
the sequence number and the payload type, or the sequence number alone. -/
def rtxWrites (pkt : RtpStoragePacket) : List Span :=
  if pkt.isRtx then [(2, 2)]
  else [(pkt.headerOffset.toNat + 2, pkt.payloadLen), (pkt.headerOffset.toNat, 2), (8, 4), (2, 2),
    (1, 1)]

/-- The bytes after `MakeRtxPacket`. -/
def rtxData (pkt : RtpStoragePacket) (ssrc : UInt32) (sequenceNumber : UInt16)
    (payloadType : UInt8) : Memory :=
  if pkt.isRtx then FixedRtpHeader.setSeqNum pkt.data sequenceNumber
  else
    let off := pkt.headerOffset.toNat
    let data := poke pkt.data (off + 2) (window pkt.data off pkt.payloadLen)
    let data := poke data off (window data 2 2)
    let data := FixedRtpHeader.setSSrc data ssrc
    let data := FixedRtpHeader.setSeqNum data sequenceNumber
    FixedRtpHeader.setPayloadType data payloadType

def makeRtxPacket (pkt : RtpStoragePacket) (ssrc : UInt32) (sequenceNumber : UInt16)
    (payloadType : UInt8) : Except Fault RtpStoragePacket :=
  if AllWithin pkt.capacity pkt.rtxWrites then
    .ok { pkt with data := pkt.rtxData ssrc sequenceNumber payloadType, isRtx := true }
  else .error .outOfBounds

end RtpStoragePacket

/-! ## `StreamTrack` -/

def kDefaultRttMillis : UInt64 := 100
def kSendBufferCapacity : Nat := 1000

inductive MediaType where
  | video
  | audio
deriving DecidableEq

structure RtpParams where
  mediaType : MediaType
  ssrc : UInt32
  clockRate : UInt32
  payloadType : UInt8
  rtxSsrc : UInt32
  rtxPayloadType : UInt8
  isRtxEnabled : Bool
  isNackEnable : Bool
deriving DecidableEq

abbrev Slot := Fin kSendBufferCapacity

/-- The slot that a sequence number is stored in and looked up in. -/
def slotOf (sequenceNumber : UInt16) : Slot :=
  ⟨sequenceNumber.toNat % kSendBufferCapacity, Nat.mod_lt _ (by decide)⟩

structure StreamTrack where
  maxRtpTimestamp : UInt32
  maxPacketMillis : UInt32
  rtt : UInt64
  sendBuffer : Slot → Option RtpStoragePacket
  params : RtpParams
  maxResendDelayInClockRate : UInt32
  sendPacketCount : UInt32
  sendOctets : UInt32
  rtxSequenceNumber : UInt16

/-- A call of `OnStreamTrackResendPacket`: the packet as it is then, and the
listed number that it answers. -/
structure Resent where
  listed : UInt16
  pkt : RtpStoragePacket

namespace StreamTrack

def new (params : RtpParams) : StreamTrack where
  maxRtpTimestamp := 0
  maxPacketMillis := 0
  rtt := kDefaultRttMillis
  sendBuffer := fun _ => none
  params := params
  maxResendDelayInClockRate := params.clockRate * 2
  sendPacketCount := 0
  sendOctets := 0
  rtxSequenceNumber := 0

def createRtcpSenderReport (t : StreamTrack) (nowMillis : UInt64) : Option SenderReportPacket :=
  if t.sendPacketCount = 0 then none
  else
    let ntp := NtpTime.createFromMillis nowMillis
    let diffInMillis := nowMillis - t.maxPacketMillis.toUInt64
    let diffInClockrate := diffInMillis * t.params.clockRate.toUInt64 / 1000
    some { senderSsrc := t.params.ssrc, ntpSeconds := ntp.seconds, ntpFractions := ntp.fractions
           rtpTimestamp := (t.maxRtpTimestamp.toUInt64 + diffInClockrate).toUInt32
           sendPacketCount := t.sendPacketCount, sendOctets := t.sendOctets }

def receiveReceiverReport (t : StreamTrack) (now : UInt64) (block : ReportBlock) : StreamTrack :=
  let compactNtp := (NtpTime.createFromMillis now).toCompactNtp
  if block.lastSr ≠ 0 then
    let rtpCompactNtp := compactNtp - block.delaySinceLastSr - block.lastSr
    { t with rtt := UInt64.ofInt (NtpTime.createFromCompactNtp rtpCompactNtp).toMillis }
  else t

/-- The age filter. -/
def tooOld (t : StreamTrack) (pkt : RtpStoragePacket) : Bool :=
  t.maxRtpTimestamp - pkt.timestamp > t.maxResendDelayInClockRate

/-- The rtt filter. -/
def tooRecent (t : StreamTrack) (pkt : RtpStoragePacket) (now : UInt64) : Bool :=
  pkt.resentMillisecs ≠ 0 && now - pkt.resentMillisecs ≤ t.rtt

/-- Put `pkt` back into the slot that it was found in. -/
def setSlot (t : StreamTrack) (slot : Slot) (pkt : RtpStoragePacket) : StreamTrack :=
  { t with sendBuffer := Function.update t.sendBuffer slot (some pkt) }

/-- Resend the packet found in a slot. -/
def resend (t : StreamTrack) (now : UInt64) (seqNum : UInt16) (pkt : RtpStoragePacket) :
    Except Fault (StreamTrack × List Resent) :=
  let pkt := { pkt with resentMillisecs := now }
  if t.params.isRtxEnabled then
    match pkt.makeRtxPacket t.params.rtxSsrc t.rtxSequenceNumber t.params.rtxPayloadType with
    | .error e => .error e
    | .ok pkt =>
        .ok ({ t.setSlot (slotOf seqNum) pkt with rtxSequenceNumber := t.rtxSequenceNumber + 1 },
          [⟨seqNum, pkt⟩])
  else .ok (t.setSlot (slotOf seqNum) pkt, [⟨seqNum, pkt⟩])

/-- The body of the loop of `ReceiveNack`. -/
def resendListed (t : StreamTrack) (now : UInt64) (seqNum : UInt16) :
    Except Fault (StreamTrack × List Resent) :=
  match t.sendBuffer (slotOf seqNum) with
  | none => .ok (t, [])
  | some pkt =>
      if t.tooOld pkt then .ok (t, [])
      else if t.tooRecent pkt now then .ok (t, [])
      else t.resend now seqNum pkt

/-- The loop of `ReceiveNack`; `clock` is read once for each number. -/
def resendEach : (clock : Nat → UInt64) → StreamTrack → List UInt16 →
    Except Fault (StreamTrack × List Resent)
  | _, t, [] => .ok (t, [])
  | clock, t, seqNum :: lost =>
      match t.resendListed (clock 0) seqNum with
      | .error e => .error e
      | .ok (t', out) =>
          match resendEach (fun i => clock (i + 1)) t' lost with
          | .error e => .error e
          | .ok (t'', out') => .ok (t'', out ++ out')

def receiveNack (t : StreamTrack) (clock : Nat → UInt64) (nack : NackPacket) :
    Except Fault (StreamTrack × List Resent) :=
  if nack.mediaSsrc ≠ t.params.ssrc ∨ t.params.isNackEnable = false then .ok (t, [])
  else resendEach clock t nack.lost

def receivePacket (t : StreamTrack) (heap : Memory) (now : UInt64) (pkt : RtpPacket) :
    Except Fault StreamTrack :=
  if pkt.ssrc ≠ t.params.ssrc then .ok t
  else
    let t :=
      { t with
        sendPacketCount := t.sendPacketCount + 1, sendOctets := t.sendOctets + pkt.size
        maxRtpTimestamp := pkt.timestamp, maxPacketMillis := now.toUInt32 }
    if t.params.isNackEnable then
      match RtpStoragePacket.new pkt heap with
      | .error e => .error e
      | .ok stored => .ok (t.setSlot (slotOf pkt.sequenceNumber) stored)
    else .ok t

/-! ## What a call comes to -/

section Calls

variable {t t' : StreamTrack} {out : List Resent}

/-- The packet is stamped with the time and put back into its slot. -/
theorem resend_eq_ok {now : UInt64} {seqNum : UInt16} {pkt : RtpStoragePacket}
    (h : t.resend now seqNum pkt = .ok (t', out)) :
    ∃ pkt' rtxSequenceNumber, out = [⟨seqNum, pkt'⟩] ∧
      t' = { t.setSlot (slotOf seqNum) pkt' with rtxSequenceNumber := rtxSequenceNumber } ∧
      pkt'.resentMillisecs = now ∧ pkt'.sequenceNumber = pkt.sequenceNumber ∧
      pkt'.timestamp = pkt.timestamp := by
  simp only [resend, RtpStoragePacket.makeRtxPacket] at h
  split at h
  · split at h
    · cases h
    next hmake =>
      split at hmake
      · cases hmake
        cases h
        exact ⟨_, _, rfl, rfl, rfl, rfl, rfl⟩
      · cases hmake
  · cases h
    exact ⟨_, t.rtxSequenceNumber, rfl, rfl, rfl, rfl, rfl⟩

/-- A listed number does nothing, or the packet in its slot passes both
filters and is resent. -/
theorem resendListed_eq_ok {now : UInt64} {seqNum : UInt16}
    (h : t.resendListed now seqNum = .ok (t', out)) :
    (t' = t ∧ out = []) ∨ ∃ pkt, t.sendBuffer (slotOf seqNum) = some pkt ∧
      t.tooOld pkt = false ∧ t.tooRecent pkt now = false ∧
      t.resend now seqNum pkt = .ok (t', out) := by
  simp only [resendListed] at h
  split at h
  · cases h
    exact Or.inl ⟨rfl, rfl⟩
  next pkt hpkt =>
    split at h
    · cases h
      exact Or.inl ⟨rfl, rfl⟩
    next hold =>
      split at h
      · cases h
        exact Or.inl ⟨rfl, rfl⟩
      next hrecent =>
        exact Or.inr ⟨pkt, hpkt, eq_false_of_ne_true hold, eq_false_of_ne_true hrecent, h⟩

theorem resendEach_cons_eq_ok {clock : Nat → UInt64} {seqNum : UInt16} {lost : List UInt16}
    (h : resendEach clock t (seqNum :: lost) = .ok (t', out)) :
    ∃ t₁ out₁ out₂, t.resendListed (clock 0) seqNum = .ok (t₁, out₁) ∧
      resendEach (fun i => clock (i + 1)) t₁ lost = .ok (t', out₂) ∧ out = out₁ ++ out₂ := by
  simp only [resendEach] at h
  split at h
  · cases h
  next t₁ out₁ hfirst =>
    split at h
    · cases h
    next t₂ out₂ hrest =>
      cases h
      exact ⟨t₁, out₁, out₂, hfirst, hrest, rfl⟩

/-- A packet of the track is counted, and a copy of it that was never resent
goes into the send buffer where there is one. -/
theorem receivePacket_eq_ok {heap : Memory} {now : UInt64} {pkt : RtpPacket}
    (h : t.receivePacket heap now pkt = .ok t') :
    (pkt.ssrc ≠ t.params.ssrc ∧ t' = t) ∨
    (pkt.ssrc = t.params.ssrc ∧ ∃ sendBuffer,
      ((t.params.isNackEnable = false ∧ sendBuffer = t.sendBuffer) ∨
        (t.params.isNackEnable = true ∧ ∃ stored, stored.resentMillisecs = 0 ∧
          sendBuffer =
            Function.update t.sendBuffer (slotOf pkt.sequenceNumber) (some stored))) ∧
      t' =
        { t with
          sendPacketCount := t.sendPacketCount + 1, sendOctets := t.sendOctets + pkt.size
          maxRtpTimestamp := pkt.timestamp, maxPacketMillis := now.toUInt32
          sendBuffer := sendBuffer }) := by
  simp only [receivePacket, RtpStoragePacket.new] at h
  split at h
  next hssrc =>
    cases h
    exact Or.inl ⟨hssrc, rfl⟩
  next hssrc =>
    refine Or.inr ⟨not_not.mp hssrc, ?_⟩
    split at h
    next hnack =>
      split at h
      · cases h
      next hnew =>
        split at hnew
        · cases hnew
          cases h
          exact ⟨_, Or.inr ⟨hnack, _, rfl, rfl⟩, rfl⟩
        · cases hnew
    next hnack =>
      cases h
      exact ⟨t.sendBuffer, Or.inl ⟨eq_false_of_ne_true hnack, rfl⟩, rfl⟩

end Calls

/-! ## A track as a system -/

inductive Event where
  | receivePacket (heap : Memory) (now : UInt64) (pkt : RtpPacket)
  | receiveNack (clock : Nat → UInt64) (nack : NackPacket)
  | receiveReceiverReport (now : UInt64) (block : ReportBlock)

def step (t : StreamTrack) : Event → Except Fault (StreamTrack × List Resent)
  | .receivePacket heap now pkt =>
      match t.receivePacket heap now pkt with
      | .error e => .error e
      | .ok t' => .ok (t', [])
  | .receiveNack clock nack => t.receiveNack clock nack
  | .receiveReceiverReport now block => .ok (t.receiveReceiverReport now block, [])

end StreamTrack

end WebrtcServer
