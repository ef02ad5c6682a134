/-
# `PackStream` — the RTP stream of one packetizer

Over all calls of `Pack` the packets of one packetizer are one stream: they
are numbered from 0 on, modulo `2 ^ 16`, under the SSRC and payload type of
the packetizer, and the packets of one call are a frame with its own
timestamp and a marker at its end.  The buffer that the headers are written
in holds whatever the packets before have left there.
-/
import WebrtcServer.H264Pack
import WebrtcServer.Lib.Runs

namespace WebrtcServer

open Lib

/-- The two classes derived from `RtpPacketizer`. -/
inductive AnyPacketizer where
  | h264 (k : H264RtpPacketizer)
  | opus (k : RtpPacketizer)

inductive Codec where
  | h264
  | opus

namespace AnyPacketizer

def new (codec : Codec) (ssrc : UInt32) (payloadType : UInt8) (clockRate : UInt32)
    (rtpBuf : Memory) : AnyPacketizer :=
  match codec with
  | .h264 => .h264 (H264RtpPacketizer.new ssrc payloadType clockRate rtpBuf)
  | .opus => .opus (RtpPacketizer.new ssrc payloadType clockRate rtpBuf)

def base : AnyPacketizer → RtpPacketizer
  | .h264 k => k.toRtpPacketizer
  | .opus k => k

def pack (rtpTimestamp : Int → UInt32 → UInt32) (k : AnyPacketizer) (packet : MediaPacket) :
    Except Fault (AnyPacketizer × List RtpPacket) :=
  match k with
  | .h264 k => (k.pack rtpTimestamp packet).map fun r => (.h264 r.1, r.2)
  | .opus k => (OpusRtpPacketizer.pack rtpTimestamp k packet).map fun r => (.opus r.1, r.2)

def codec : AnyPacketizer → Codec
  | .h264 _ => .h264
  | .opus _ => .opus

/-- What the packets of a call carry: the units of the buffer, each whole or
in fragments, or all of the buffer at once. -/
def Carries (codec : Codec) (packet : MediaPacket) (pkts : List RtpPacket) : Prop :=
  match codec with
  | .h264 => ∃ groups, pkts = groups.flatten ∧
      List.Forall₂ (fun unit group => H264RtpPacketizer.SentAs unit (group.map RtpPacket.payload))
        (H264RtpPacketizer.units packet) groups
  | .opus => pkts.map RtpPacket.payload = [window packet.data 0 packet.size]

/-- An Opus frame goes into `rtp_buf_` as it is. -/
def Fits (codec : Codec) (packet : MediaPacket) : Prop :=
  match codec with
  | .h264 => True
  | .opus => kRtpHeaderFixedSize + packet.size ≤ kRtpBufferSize

/-- A frame: packets of one timestamp, the last of which has the marker. -/
structure Frame (pkts : List RtpPacket) : Prop where
  timestamp : ∃ timestamp, ∀ pkt ∈ pkts, pkt.timestamp = timestamp
  marker : ∀ i (hi : i < pkts.length), pkts[i].marker = if i + 1 = pkts.length then 1 else 0

/-! ## One call -/

section Call

variable {rtpTimestamp : Int → UInt32 → UInt32} {k k' : AnyPacketizer} {packet : MediaPacket}
  {pkts : List RtpPacket}

/-- What a `Pack` that returns has emitted. -/
structure Packed (timestamp : UInt32) (k : AnyPacketizer) (packet : MediaPacket)
    (pkts : List RtpPacket) (k' : AnyPacketizer) : Prop where
  emits : RtpPacketizer.Emits timestamp k.base pkts k'.base
  marked : pkts = [] ∨ Marked 1 pkts
  carries : Carries k.codec packet pkts
  codec_eq : k'.codec = k.codec

theorem pack_of_fits (rtpTimestamp : Int → UInt32 → UInt32) (hfits : Fits k.codec packet) :
    ∃ k' pkts, k.pack rtpTimestamp packet = .ok (k', pkts) := by
  cases k with
  | h264 k =>
      obtain ⟨k', groups, hpack, -⟩ := H264RtpPacketizer.pack_spec rtpTimestamp k packet
      exact ⟨.h264 k', groups.flatten, by rw [pack, hpack]; rfl⟩
  | opus k =>
      have hlen : kRtpHeaderFixedSize + (window packet.data 0 packet.size).length
          ≤ kRtpBufferSize := by
        rw [window_length]
        exact hfits
      obtain ⟨k', pkt, hemit⟩ : ∃ k' pkt, k.emit
          (rtpTimestamp packet.timestampMillis k.clockRate) 1
          (window packet.data 0 packet.size) = .ok (k', pkt) :=
        ⟨_, _, RtpPacketizer.emit_eq_ok.mpr ⟨hlen, rfl, rfl⟩⟩
      exact ⟨.opus k', [pkt], by rw [pack, OpusRtpPacketizer.pack, hemit]; rfl⟩

theorem packed_of_ok (h : k.pack rtpTimestamp packet = .ok (k', pkts)) :
    Packed (rtpTimestamp packet.timestampMillis k.base.clockRate) k packet pkts k' := by
  cases k with
  | h264 k =>
      obtain ⟨k₁, groups, hpack, hemits, hall, hmarked⟩ :=
        H264RtpPacketizer.pack_spec rtpTimestamp k packet
      rw [pack, hpack] at h
      cases h
      exact ⟨hemits, hmarked, ⟨groups, rfl, hall⟩, rfl⟩
  | opus k =>
      simp only [pack, OpusRtpPacketizer.pack, bind, Except.bind] at h
      split at h
      · cases h
      next next hemit =>
        cases h
        refine ⟨.single hemit, Or.inr (.last (RtpPacketizer.emit_marker hemit)), ?_, rfl⟩
        show [RtpPacket.payload _] = _
        rw [RtpPacketizer.emit_payload hemit]

theorem Packed.frame {timestamp : UInt32} (h : Packed timestamp k packet pkts k') :
    Frame pkts := by
  refine ⟨⟨timestamp, h.emits.timestamps⟩, ?_⟩
  rcases h.marked with rfl | hmarked
  · intro i hi
    exact absurd hi (Nat.not_lt_zero i)
  · exact hmarked.getElem

end Call

/-! ## The stream -/

/-- The packet is the `n`-th of its stream. -/
structure Nth (ssrc : UInt32) (payloadType : UInt8) (n : ℕ) (pkt : RtpPacket) : Prop where
  header : RtpHeader.decode pkt.data =
    { version := 2, padding := 0, extension := 0, csrcCount := 0, marker := pkt.marker
      payloadType := payloadType.toNat % 128, sequenceNumber := UInt16.ofNat n
      timestamp := pkt.timestamp, ssrc }
  wellFormed : pkt.WellFormed
  size : pkt.size.toNat = kRtpHeaderFixedSize + pkt.payload.length
  size_le : pkt.size.toNat ≤ kRtpBufferSize

/-- The packets of one call continue the stream. -/
theorem Packed.nth {timestamp : UInt32} {k k' : AnyPacketizer} {packet : MediaPacket}
    {pkts : List RtpPacket} (h : Packed timestamp k packet pkts k') {n : ℕ}
    (hseq : k.base.seqnum = UInt16.ofNat n) (i : ℕ) (hi : i < pkts.length) :
    Nth k.base.ssrc k.base.payloadType (n + i) pkts[i] := by
  have hmem : pkts[i] ∈ pkts := List.getElem_mem hi
  obtain ⟨hwf, -, hle⟩ := h.emits.wellFormed _ hmem
  refine ⟨?_, hwf, h.emits.sizes _ hmem, hle⟩
  rw [h.emits.headers _ hmem, h.emits.numbered i hi, h.emits.timestamps _ hmem, hseq,
    UInt16.ofNat_add]

/-- Every packet of the history is the one its place says, and every call
sent the frame of its media packet. -/
structure Stream (codec : Codec) (ssrc : UInt32) (payloadType : UInt8)
    (h : List (MediaPacket × List RtpPacket)) : Prop where
  nth : ∀ n (hn : n < (outputs h).length), Nth ssrc payloadType n (outputs h)[n]
  frames : ∀ x ∈ h, Frame x.2 ∧ Carries codec x.1 x.2

/-- The packetizer at the end of the stream. -/
structure Continues (codec : Codec) (ssrc : UInt32) (payloadType : UInt8) (n : ℕ)
    (k : AnyPacketizer) : Prop where
  codec_eq : k.codec = codec
  ssrc_eq : k.base.ssrc = ssrc
  payloadType_eq : k.base.payloadType = payloadType
  seqnum_eq : k.base.seqnum = UInt16.ofNat n

section Stream

variable {rtpTimestamp : Int → UInt32 → UInt32} {codec : Codec} {ssrc : UInt32}
  {payloadType : UInt8} {timestamp : UInt32} {k k' : AnyPacketizer} {packet : MediaPacket}
  {pkts : List RtpPacket} {h : List (MediaPacket × List RtpPacket)}

theorem Packed.continues (hp : Packed timestamp k packet pkts k') {n : ℕ}
    (hk : Continues codec ssrc payloadType n k) :
    Continues codec ssrc payloadType (n + pkts.length) k' := by
  refine ⟨hp.codec_eq.trans hk.codec_eq, hp.emits.ssrc_eq.trans hk.ssrc_eq,
    hp.emits.payloadType_eq.trans hk.payloadType_eq, ?_⟩
  rw [hp.emits.seqnum_eq, hk.seqnum_eq, UInt16.ofNat_add]

/-- One more call. -/
theorem Stream.snoc (hs : Stream codec ssrc payloadType h)
    (hk : Continues codec ssrc payloadType (outputs h).length k)
    (hp : Packed timestamp k packet pkts k') :
    Stream codec ssrc payloadType (h ++ [(packet, pkts)]) := by
  refine ⟨?_, ?_⟩
  · intro n hn
    simp only [outputs_snoc] at hn ⊢
    rcases Nat.lt_or_ge n (outputs h).length with hlt | hge
    · rw [List.getElem_append_left hlt]
      exact hs.nth n hlt
    · rw [List.getElem_append_right hge]
      have hi : n - (outputs h).length < pkts.length := by
        rw [List.length_append] at hn
        omega
      have hnth := hp.nth hk.seqnum_eq _ hi
      rwa [hk.ssrc_eq, hk.payloadType_eq, Nat.add_sub_cancel' hge] at hnth
  · intro x hx
    rcases List.mem_append.mp hx with hx | hx
    · exact hs.frames x hx
    · rw [List.mem_singleton.mp hx]
      exact ⟨hp.frame, hk.codec_eq ▸ hp.carries⟩

theorem run_stream {clockRate : UInt32} {rtpBuf : Memory}
    (hr : Run (pack rtpTimestamp) (fun _ _ => True) (new codec ssrc payloadType clockRate rtpBuf)
      h k) :
    Stream codec ssrc payloadType h ∧
      Continues codec ssrc payloadType (outputs h).length k := by
  refine hr.invariant (I := fun h k => Stream codec ssrc payloadType h ∧
    Continues codec ssrc payloadType (outputs h).length k) ?_ ?_
  · refine ⟨⟨fun n hn => absurd hn (Nat.not_lt_zero n), by simp⟩, ?_⟩
    cases codec <;> exact ⟨rfl, rfl, rfl, rfl⟩
  · rintro h k packet k' pkts ⟨hs, hk⟩ - hpack
    have hp := packed_of_ok hpack
    refine ⟨hs.snoc hk hp, ?_⟩
    rw [outputs_snoc, List.length_append]
    exact hp.continues hk

/-- In every run of `Pack` the packets emitted are one stream, numbered from
0 on, of one frame a call; and the next `Pack` returns, for Opus whenever
the frame fits. -/
theorem pack_stream {clockRate : UInt32} {rtpBuf : Memory}
    (hr : Run (pack rtpTimestamp) (fun _ _ => True) (new codec ssrc payloadType clockRate rtpBuf)
      h k) :
    (∀ n (hn : n < (outputs h).length), Nth ssrc payloadType n (outputs h)[n]) ∧
    (∀ x ∈ h, Frame x.2 ∧ Carries codec x.1 x.2) ∧
    ∀ packet, Fits codec packet →
      ∃ k' pkts, k.pack rtpTimestamp packet = .ok (k', pkts) := by
  obtain ⟨hstream, hk⟩ := run_stream hr
  refine ⟨hstream.nth, hstream.frames, ?_⟩
  intro packet hfits
  exact pack_of_fits rtpTimestamp (hk.codec_eq.symm ▸ hfits)

/-- The sample frame, packed once. -/
theorem pack_stream_sampleFrame :
    ∃ k pkts, Run (pack exactTimestamp) (fun _ _ => True) (new .h264 12345678 102 90000 fun _ => 0)
        [(H264RtpPacketizer.sampleFrame, pkts)] k ∧
      ∀ n (hn : n < (outputs [(H264RtpPacketizer.sampleFrame, pkts)]).length),
        Nth 12345678 102 n (outputs [(H264RtpPacketizer.sampleFrame, pkts)])[n] := by
  obtain ⟨k, pkts, hpack⟩ : ∃ k pkts, (new .h264 12345678 102 90000 fun _ => 0).pack
      exactTimestamp H264RtpPacketizer.sampleFrame = .ok (k, pkts) :=
    pack_of_fits exactTimestamp trivial
  have hr : Run (pack exactTimestamp) (fun _ _ => True) (new .h264 12345678 102 90000 fun _ => 0)
      [(H264RtpPacketizer.sampleFrame, pkts)] k := .snoc .nil trivial hpack
  exact ⟨k, pkts, hr, (pack_stream hr).1⟩

end Stream

end AnyPacketizer

end WebrtcServer
