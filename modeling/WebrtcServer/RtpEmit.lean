/-
# `RtpEmit` — packets from one packetizer

Every packet leaves a packetizer through `emit`, so `Emits` says once what a
sequence of packets from one is, and their numbers, headers and sizes
follow from it for everything that is sent.
-/
import WebrtcServer.RtpPacket

namespace WebrtcServer

open Lib

/-- The marker bit, as a receiver reads it. -/
def RtpPacket.marker (pkt : RtpPacket) : Nat := (RtpHeader.decode pkt.data).marker

/-- The last of the packets has the marker bit `m`, the others have none. -/
inductive Marked (m : Nat) : List RtpPacket → Prop
  | last {pkt : RtpPacket} : pkt.marker = m → Marked m [pkt]
  | more {pkt : RtpPacket} {pkts : List RtpPacket} :
      pkt.marker = 0 → Marked m pkts → Marked m (pkt :: pkts)

namespace Marked

variable {m : Nat} {pkts qkts : List RtpPacket}

theorem append (h : Marked 0 pkts) (h' : Marked m qkts) : Marked m (pkts ++ qkts) := by
  induction h with
  | last hlast => exact .more hlast h'
  | more hfirst _ ih => exact .more hfirst ih

theorem length_pos (h : Marked m pkts) : 0 < pkts.length := by
  cases h <;> exact Nat.succ_pos _

theorem getElem (h : Marked m pkts) (i : Nat) (hi : i < pkts.length) :
    pkts[i].marker = if i + 1 = pkts.length then m else 0 := by
  induction h generalizing i with
  | last hlast =>
      obtain rfl : i = 0 := Nat.lt_one_iff.mp hi
      exact hlast
  | @more pkt pkts hfirst hrest ih =>
      have hpos := hrest.length_pos
      cases i with
      | zero =>
          rw [List.length_cons, if_neg (by omega)]
          exact hfirst
      | succ i =>
          rw [List.getElem_cons_succ, ih i (Nat.lt_of_succ_lt_succ hi), List.length_cons]
          simp only [Nat.add_right_cancel_iff]

end Marked

namespace RtpPacketizer

variable {k k' : RtpPacketizer} {timestamp : UInt32} {marker : UInt8} {body : List UInt8}
  {pkt : RtpPacket}

theorem emit_eq_ok : k.emit timestamp marker body = .ok (k', pkt) ↔
    kRtpHeaderFixedSize + body.length ≤ kRtpBufferSize ∧
      k' = { k with
        rtpBuf := poke (k.header timestamp marker) kRtpHeaderFixedSize body
        seqnum := k.seqnum + 1 } ∧
      pkt = { ssrc := k.ssrc, sequenceNumber := k.seqnum, timestamp
              headerOffset := UInt32.ofNat kRtpHeaderFixedSize
              data := poke (k.header timestamp marker) kRtpHeaderFixedSize body
              size := UInt32.ofNat (kRtpHeaderFixedSize + body.length) } := by
  by_cases h : kRtpHeaderFixedSize + body.length ≤ kRtpBufferSize
  · rw [emit, if_pos h]
    simp only [Except.ok.injEq, Prod.mk.injEq, h, true_and, eq_comm]
  · rw [emit, if_neg h]
    simp only [reduceCtorEq, h, false_and]

theorem emit_ok (k : RtpPacketizer) (timestamp : UInt32) (marker : UInt8) {body : List UInt8}
    (h : body.length ≤ kMaxRtpPayloadSize) :
    ∃ k' pkt, k.emit timestamp marker body = .ok (k', pkt) := by
  have hfits : kRtpHeaderFixedSize + body.length ≤ kRtpBufferSize := by
    simp only [kMaxRtpPayloadSize, kRtpHeaderFixedSize, kRtpBufferSize] at h ⊢
    omega
  exact ⟨_, _, emit_eq_ok.mpr ⟨hfits, rfl, rfl⟩⟩

/-- The header of a packet, as a receiver reads it. -/
theorem decode_header (k : RtpPacketizer) (timestamp : UInt32) (marker : UInt8) :
    RtpHeader.decode (k.header timestamp marker) =
      { version := 2, padding := 0, extension := 0, csrcCount := 0, marker := marker.toNat % 2
        payloadType := k.payloadType.toNat % 128, sequenceNumber := k.seqnum, timestamp
        ssrc := k.ssrc } := by
  simp [header]

/-- The body of a packet lies behind its header. -/
theorem decode_emitted (k : RtpPacketizer) (timestamp : UInt32) (marker : UInt8)
    (body : List UInt8) :
    RtpHeader.decode (poke (k.header timestamp marker) kRtpHeaderFixedSize body) =
      RtpHeader.decode (k.header timestamp marker) :=
  RtpHeader.decode_congr fun _ hi => poke_lt hi

theorem emit_marker (h : k.emit timestamp marker body = .ok (k', pkt)) :
    pkt.marker = marker.toNat % 2 := by
  obtain ⟨-, -, rfl⟩ := emit_eq_ok.mp h
  rw [RtpPacket.marker, decode_emitted, decode_header]

theorem emit_payload (h : k.emit timestamp marker body = .ok (k', pkt)) :
    pkt.payload = body := by
  obtain ⟨hfits, -, rfl⟩ := emit_eq_ok.mp h
  simp only [kRtpHeaderFixedSize, kRtpBufferSize] at hfits
  have hsize : (UInt32.ofNat (12 + body.length)).toNat = 12 + body.length := by
    rw [UInt32.toNat_ofNat', Nat.mod_eq_of_lt (by omega)]
  rw [RtpPacket.payload]
  simp only [kRtpHeaderFixedSize, hsize]
  change window _ 12 (12 + body.length - 12) = body
  rw [Nat.add_sub_cancel_left]
  exact window_poke_same _ _ _

/-- The packets `pkts`, one after the other, come from `k` and leave it as
`k'`; they share one timestamp. -/
inductive Emits (timestamp : UInt32) : RtpPacketizer → List RtpPacket → RtpPacketizer → Prop
  | nil (k : RtpPacketizer) : Emits timestamp k [] k
  | cons {k k' k'' : RtpPacketizer} {marker : UInt8} {body : List UInt8} {pkt : RtpPacket}
      {pkts : List RtpPacket} :
      k.emit timestamp marker body = .ok (k', pkt) → Emits timestamp k' pkts k'' →
      Emits timestamp k (pkt :: pkts) k''

namespace Emits

variable {pkts qkts : List RtpPacket} {k'' : RtpPacketizer}

theorem single (h : k.emit timestamp marker body = .ok (k', pkt)) :
    Emits timestamp k [pkt] k' :=
  .cons h (.nil k')

theorem append (h : Emits timestamp k pkts k') (h' : Emits timestamp k' qkts k'') :
    Emits timestamp k (pkts ++ qkts) k'' := by
  induction h with
  | nil => exact h'
  | cons hemit _ ih => exact .cons hemit (ih h')

/-- What a receiver may rely on in every packet. -/
theorem wellFormed (h : Emits timestamp k pkts k') :
    ∀ pkt ∈ pkts, pkt.WellFormed ∧ pkt.ssrc = k.ssrc ∧ pkt.size.toNat ≤ kRtpBufferSize := by
  induction h with
  | nil => simp
  | @cons k k' _ marker body pkt pkts hemit _ ih =>
      obtain ⟨hfits, rfl, rfl⟩ := emit_eq_ok.mp hemit
      refine List.forall_mem_cons.mpr ⟨?_, ih⟩
      have hdec := (decode_emitted k timestamp marker body).trans
        (decode_header k timestamp marker)
      simp only [kRtpHeaderFixedSize, kRtpBufferSize] at hfits hdec ⊢
      have hsize : (UInt32.ofNat (12 + body.length)).toNat = 12 + body.length := by
        rw [UInt32.toNat_ofNat', Nat.mod_eq_of_lt (by omega)]
      refine ⟨⟨?_, ?_, ?_, ?_, ?_, ?_⟩, trivial, ?_⟩
      · rw [hdec]
      · rw [hdec]
      · rw [hdec]
      · simp [RtpHeader.wireLength, hdec, kRtpHeaderFixedSize]
      · rw [hsize]
        simp
      · simp only [hsize]
        omega
      · simp only [hsize]
        omega

/-- The header of every packet. -/
theorem headers (h : Emits timestamp k pkts k') :
    ∀ pkt ∈ pkts, RtpHeader.decode pkt.data =
      { version := 2, padding := 0, extension := 0, csrcCount := 0, marker := pkt.marker
        payloadType := k.payloadType.toNat % 128, sequenceNumber := pkt.sequenceNumber
        timestamp, ssrc := k.ssrc } := by
  induction h with
  | nil => simp
  | @cons k k' _ marker body pkt pkts hemit _ ih =>
      have hmarker := emit_marker hemit
      obtain ⟨-, rfl, rfl⟩ := emit_eq_ok.mp hemit
      refine List.forall_mem_cons.mpr ⟨?_, ih⟩
      rw [hmarker, decode_emitted, decode_header]

theorem sizes (h : Emits timestamp k pkts k') :
    ∀ pkt ∈ pkts, pkt.size.toNat = kRtpHeaderFixedSize + pkt.payload.length := by
  induction h with
  | nil => simp
  | cons hemit _ ih =>
      have hpayload := emit_payload hemit
      obtain ⟨hfits, -, rfl⟩ := emit_eq_ok.mp hemit
      simp only [kRtpHeaderFixedSize, kRtpBufferSize] at hfits
      refine List.forall_mem_cons.mpr ⟨?_, ih⟩
      rw [hpayload, UInt32.toNat_ofNat']
      exact Nat.mod_eq_of_lt (Nat.lt_of_le_of_lt hfits (by decide))

theorem timestamps (h : Emits timestamp k pkts k') : ∀ pkt ∈ pkts, pkt.timestamp = timestamp := by
  induction h with
  | nil => simp
  | cons hemit _ ih =>
      obtain ⟨-, -, rfl⟩ := emit_eq_ok.mp hemit
      exact List.forall_mem_cons.mpr ⟨rfl, ih⟩

/-- The packets are numbered one after the other, modulo `2 ^ 16`. -/
theorem numbered (h : Emits timestamp k pkts k') :
    ∀ i (hi : i < pkts.length), pkts[i].sequenceNumber = k.seqnum + UInt16.ofNat i := by
  induction h with
  | nil => intro i hi; exact absurd hi (by simp)
  | cons hemit _ ih =>
      obtain ⟨-, rfl, rfl⟩ := emit_eq_ok.mp hemit
      intro i hi
      cases i with
      | zero => simp
      | succ i =>
          have hnext := ih i (by simpa using hi)
          rw [List.getElem_cons_succ, hnext, UInt16.ofNat_add, UInt16.add_assoc,
            UInt16.add_comm 1]
          rfl

theorem ssrc_eq (h : Emits timestamp k pkts k') : k'.ssrc = k.ssrc := by
  induction h with
  | nil => rfl
  | cons hemit _ ih =>
      obtain ⟨-, rfl, rfl⟩ := emit_eq_ok.mp hemit
      exact ih

theorem payloadType_eq (h : Emits timestamp k pkts k') : k'.payloadType = k.payloadType := by
  induction h with
  | nil => rfl
  | cons hemit _ ih =>
      obtain ⟨-, rfl, rfl⟩ := emit_eq_ok.mp hemit
      exact ih

theorem clockRate_eq (h : Emits timestamp k pkts k') : k'.clockRate = k.clockRate := by
  induction h with
  | nil => rfl
  | cons hemit _ ih =>
      obtain ⟨-, rfl, rfl⟩ := emit_eq_ok.mp hemit
      exact ih

theorem seqnum_eq (h : Emits timestamp k pkts k') :
    k'.seqnum = k.seqnum + UInt16.ofNat pkts.length := by
  induction h with
  | nil => simp
  | cons hemit _ ih =>
      obtain ⟨-, rfl, rfl⟩ := emit_eq_ok.mp hemit
      rw [ih, List.length_cons, UInt16.ofNat_add, UInt16.add_assoc, UInt16.add_comm 1]
      rfl

end Emits

end RtpPacketizer

end WebrtcServer
