/-
# `SenderCounts` — what every event does to the counters

A media packet goes through the packetizer of its kind, and each RTP packet
that comes out is counted by the track that has its SSRC; no other event
changes a packetizer or a counter (`step_cases`).
-/
import WebrtcServer.MediaTracks
import WebrtcServer.PackStream
import WebrtcServer.ReportTimestamp

namespace WebrtcServer

open Lib

/-! ## Counters -/

/-- The total size of the packets. -/
def totalSize (pkts : List RtpPacket) : Nat := (pkts.map fun pkt => pkt.size.toNat).sum

/-- The total length of their payloads. -/
def payloadOctets (pkts : List RtpPacket) : Nat := (pkts.map fun pkt => pkt.payload.length).sum

theorem totalSize_append (pkts qkts : List RtpPacket) :
    totalSize (pkts ++ qkts) = totalSize pkts + totalSize qkts := by
  simp [totalSize]

/-- Every packet has a header of twelve bytes. -/
theorem totalSize_eq {pkts : List RtpPacket}
    (h : ∀ pkt ∈ pkts, pkt.size.toNat = kRtpHeaderFixedSize + pkt.payload.length) :
    totalSize pkts = kRtpHeaderFixedSize * pkts.length + payloadOctets pkts := by
  induction pkts with
  | nil => rfl
  | cons pkt pkts ih =>
      obtain ⟨hpkt, hrest⟩ := List.forall_mem_cons.mp h
      have htail := ih hrest
      simp only [totalSize, payloadOctets, List.map_cons, List.sum_cons, List.length_cons]
        at htail ⊢
      rw [htail, hpkt]
      ring

/-- The twelve bytes a packet cancel modulo `2 ^ 32`. -/
theorem headers_cancel_iff (n octets : Nat) :
    UInt32.ofNat (kRtpHeaderFixedSize * n + octets) = UInt32.ofNat octets ↔ 2 ^ 30 ∣ n := by
  have hmod : kRtpHeaderFixedSize * n + octets ≡ octets [MOD 2 ^ 32] ↔ 2 ^ 32 ∣ 12 * n := by
    rw [Nat.ModEq.comm, Nat.modEq_iff_dvd' (Nat.le_add_left _ _), Nat.add_sub_cancel]
    rfl
  have hdvd : 2 ^ 32 ∣ 12 * n ↔ 2 ^ 30 ∣ n := by
    rw [show 2 ^ 32 = 4 * 2 ^ 30 by norm_num, show 12 * n = 4 * (3 * n) by ring,
      Nat.mul_dvd_mul_iff_left (by decide)]
    exact (Nat.Coprime.pow_left 30 (by decide)).dvd_mul_left
  rw [← UInt32.toNat_inj, UInt32.toNat_ofNat', UInt32.toNat_ofNat', ← hdvd, ← hmod]
  rfl

namespace SenderInfo

/-- The counters stand at the packets `pkts`. -/
structure Counts (params : RtpParams) (pkts : List RtpPacket) (i : SenderInfo) : Prop where
  params_eq : i.params = params
  packets : i.sendPacketCount = UInt32.ofNat pkts.length
  octets : i.sendOctets = UInt32.ofNat (totalSize pkts)

theorem Counts.receive {params : RtpParams} {pkts : List RtpPacket} {i : SenderInfo}
    (h : Counts params pkts i) (now : UInt64) (pkt : RtpPacket) :
    Counts params (pkts ++ [pkt]) (i.receive now pkt) := by
  refine ⟨h.params_eq, ?_, ?_⟩
  · show i.sendPacketCount + 1 = _
    rw [h.packets, List.length_append, UInt32.ofNat_add]
    rfl
  · show i.sendOctets + pkt.size = _
    rw [h.octets, totalSize_append, UInt32.ofNat_add]
    simp [totalSize]

end SenderInfo

namespace MediaStream

/-! ## The senders of a media stream -/

/-- What the track of an SSRC would report. -/
def senderInfo (s : MediaStream) (ssrc : UInt32) : Option SenderInfo :=
  (s.streamTracks.lookup ssrc).join.map StreamTrack.senderInfo

def packetizer (s : MediaStream) : MediaType → Option AnyPacketizer
  | .video => s.h264Packetizer.map .h264
  | .audio => s.opusPacketizer.map .opus

/-- The packetizers and the counters of all tracks are as before. -/
structure SameSenders (s s' : MediaStream) : Prop where
  packetizer : s'.packetizer = s.packetizer
  senderInfo : s'.senderInfo = s.senderInfo

theorem SameSenders.refl (s : MediaStream) : SameSenders s s := ⟨rfl, rfl⟩

theorem SameSenders.trans {s s' s'' : MediaStream} (h : SameSenders s s')
    (h' : SameSenders s' s'') : SameSenders s s'' :=
  ⟨h'.packetizer.trans h.packetizer, h'.senderInfo.trans h.senderInfo⟩

section Steps

variable {s s' : MediaStream} {out : List MediaOutput} {ssrc : UInt32}

theorem senderInfo_insert_self (s : MediaStream) (ssrc : UInt32) (t : StreamTrack) :
    senderInfo { s with streamTracks := s.streamTracks.insert ssrc (some t) } ssrc =
      some t.senderInfo := by
  simp [senderInfo]

theorem senderInfo_insert_ne (s : MediaStream) {ssrc ssrc' : UInt32} (hne : ssrc' ≠ ssrc)
    (entry : Option StreamTrack) :
    senderInfo { s with streamTracks := s.streamTracks.insert ssrc entry } ssrc' =
      s.senderInfo ssrc' := by
  simp [senderInfo, AList.lookup_insert_ne hne]

/-- A track that reports the same is put back. -/
theorem sameSenders_insert {t t' : StreamTrack}
    (hlookup : s.streamTracks.lookup ssrc = some (some t)) (ht : t'.senderInfo = t.senderInfo) :
    SameSenders s { s with streamTracks := s.streamTracks.insert ssrc (some t') } := by
  refine ⟨rfl, ?_⟩
  funext ssrc'
  by_cases heq : ssrc' = ssrc
  · subst heq
    rw [senderInfo_insert_self, ht, senderInfo, hlookup]
    rfl
  · exact senderInfo_insert_ne s heq _

theorem callTrack_eq_ok {call : StreamTrack → Except Fault (StreamTrack × List Resent)}
    (h : s.callTrack ssrc call = .ok (s', out)) :
    ∃ t t' resent, s.streamTracks.lookup ssrc = some (some t) ∧ call t = .ok (t', resent) ∧
      s' = { s with streamTracks := s.streamTracks.insert ssrc (some t') } := by
  simp only [callTrack, index] at h
  cases hlookup : s.streamTracks.lookup ssrc with
  | none =>
      simp only [hlookup] at h
      cases h
  | some entry =>
      simp only [hlookup] at h
      cases entry with
      | none => cases h
      | some t =>
          simp only at h
          split at h
          · cases h
          next t' resent hcall =>
            cases h
            exact ⟨t, t', resent, rfl, hcall, rfl⟩

/-! ## Sending -/

theorem onRtpPacketGenerated_eq_ok {heap : Memory} {now : UInt64} {pkt : RtpPacket}
    (h : s.onRtpPacketGenerated heap now pkt = .ok (s', out)) :
    ∃ t t' resent, s.streamTracks.lookup pkt.ssrc = some (some t) ∧
      t.step (.receivePacket heap now pkt) = .ok (t', resent) ∧
      s' = { s with streamTracks := s.streamTracks.insert pkt.ssrc (some t') } := by
  simp only [onRtpPacketGenerated] at h
  split at h
  · cases h
  next s₁ out₁ hcall =>
    cases h
    exact callTrack_eq_ok hcall

/-- A packet is counted under its SSRC and nowhere else. -/
theorem onRtpPacketGenerated_senderInfo {heap : Memory} {now : UInt64} {pkt : RtpPacket}
    (h : s.onRtpPacketGenerated heap now pkt = .ok (s', out)) :
    s'.packetizer = s.packetizer ∧
      (∀ ssrc, ssrc ≠ pkt.ssrc → s'.senderInfo ssrc = s.senderInfo ssrc) ∧
      ∀ i, s.senderInfo pkt.ssrc = some i → i.params.ssrc = pkt.ssrc →
        s'.senderInfo pkt.ssrc = some (i.receive now pkt) := by
  obtain ⟨t, t', resent, hlookup, hstep, rfl⟩ := onRtpPacketGenerated_eq_ok h
  refine ⟨rfl, ?_, ?_⟩
  · intro ssrc hne
    exact senderInfo_insert_ne s hne _
  · intro i hi hssrc
    have hti : t.senderInfo = i := by
      rw [senderInfo, hlookup] at hi
      exact Option.some.inj hi
    rw [senderInfo_insert_self, StreamTrack.step_senderInfo hstep, hti]
    exact congrArg some (if_pos hssrc.symm)

theorem onRtpPacketsGenerated_cons_eq_ok {heap : Memory} {clock : Nat → UInt64} {pkt : RtpPacket}
    {pkts : List RtpPacket}
    (h : onRtpPacketsGenerated heap clock s (pkt :: pkts) = .ok (s', out)) :
    ∃ s₁ out₁ out₂, s.onRtpPacketGenerated heap (clock 0) pkt = .ok (s₁, out₁) ∧
      onRtpPacketsGenerated heap (fun i => clock (i + 1)) s₁ pkts = .ok (s', out₂) := by
  simp only [onRtpPacketsGenerated] at h
  split at h
  · cases h
  next s₁ out₁ hfirst =>
    split at h
    · cases h
    next s₂ out₂ hrest =>
      cases h
      exact ⟨s₁, out₁, out₂, hfirst, hrest⟩

/-- Packets with other SSRCs leave a track alone. -/
theorem onRtpPacketsGenerated_other {heap : Memory} {clock : Nat → UInt64}
    {pkts : List RtpPacket} (h : onRtpPacketsGenerated heap clock s pkts = .ok (s', out))
    (hother : ∀ pkt ∈ pkts, pkt.ssrc ≠ ssrc) : s'.senderInfo ssrc = s.senderInfo ssrc := by
  induction pkts generalizing clock s out with
  | nil =>
      cases h
      rfl
  | cons pkt pkts ih =>
      obtain ⟨hpkt, hrest⟩ := List.forall_mem_cons.mp hother
      obtain ⟨s₁, out₁, out₂, hfirst, hpkts⟩ := onRtpPacketsGenerated_cons_eq_ok h
      rw [ih hpkts hrest]
      exact (onRtpPacketGenerated_senderInfo hfirst).2.1 ssrc hpkt.symm

/-- The track of an SSRC counts the packets `ws`. -/
def Counts (s : MediaStream) (params : RtpParams) (ws : List RtpPacket) : Prop :=
  ∃ i, s.senderInfo params.ssrc = some i ∧ i.Counts params ws

/-- Packets with the SSRC of a track are counted one by one. -/
theorem onRtpPacketsGenerated_own {heap : Memory} {clock : Nat → UInt64}
    {pkts : List RtpPacket} (h : onRtpPacketsGenerated heap clock s pkts = .ok (s', out))
    {params : RtpParams} (hown : ∀ pkt ∈ pkts, pkt.ssrc = params.ssrc) {ws : List RtpPacket}
    (hc : s.Counts params ws) : s'.Counts params (ws ++ pkts) := by
  induction pkts generalizing clock s out ws with
  | nil =>
      cases h
      rwa [List.append_nil]
  | cons pkt pkts ih =>
      obtain ⟨hpkt, hrest⟩ := List.forall_mem_cons.mp hown
      obtain ⟨s₁, out₁, out₂, hfirst, hpkts⟩ := onRtpPacketsGenerated_cons_eq_ok h
      obtain ⟨i, hi, hcounts⟩ := hc
      have hssrc : i.params.ssrc = pkt.ssrc := by rw [hcounts.params_eq, hpkt]
      have hnext := (onRtpPacketGenerated_senderInfo hfirst).2.2 i (hpkt ▸ hi) hssrc
      have hc₁ : s₁.Counts params (ws ++ [pkt]) :=
        ⟨_, hpkt ▸ hnext, hcounts.receive (clock 0) pkt⟩
      have hall := ih hpkts hrest hc₁
      rwa [List.append_assoc] at hall

theorem onRtpPacketsGenerated_packetizer {heap : Memory} {clock : Nat → UInt64}
    {pkts : List RtpPacket} (h : onRtpPacketsGenerated heap clock s pkts = .ok (s', out)) :
    s'.packetizer = s.packetizer := by
  induction pkts generalizing clock s out with
  | nil =>
      cases h
      rfl
  | cons pkt pkts ih =>
      obtain ⟨s₁, out₁, out₂, hfirst, hpkts⟩ := onRtpPacketsGenerated_cons_eq_ok h
      rw [ih hpkts, (onRtpPacketGenerated_senderInfo hfirst).1]

/-! ## Receiving RTCP -/

theorem receiveReportBlock_sameSenders {now : UInt64} {block : ReportBlock}
    (h : s.receiveReportBlock now block = .ok s') : SameSenders s s' := by
  simp only [receiveReportBlock] at h
  split at h
  · cases h
    exact .refl _
  · cases h
  next t hlookup =>
    cases h
    exact sameSenders_insert hlookup (StreamTrack.receiveReceiverReport_senderInfo t now block)

theorem receiveReportBlocks_sameSenders {clock : Nat → UInt64} {blocks : List ReportBlock}
    (h : receiveReportBlocks clock s blocks = .ok s') : SameSenders s s' := by
  induction blocks generalizing clock s with
  | nil =>
      cases h
      exact .refl _
  | cons block blocks ih =>
      simp only [receiveReportBlocks] at h
      split at h
      · cases h
      next s₁ hfirst => exact (receiveReportBlock_sameSenders hfirst).trans (ih h)

theorem receivePacket_sameSenders {clock : Nat → UInt64} {p : RtcpPacket}
    (h : s.receivePacket clock p = .ok (s', out)) : SameSenders s s' := by
  simp only [receivePacket] at h
  split at h
  · split at h
    · split at h
      · cases h
      next nack _ =>
        obtain ⟨t, t', resent, hlookup, hnack, rfl⟩ := callTrack_eq_ok h
        exact sameSenders_insert hlookup (StreamTrack.receiveNack_senderInfo hnack)
    · cases h
      exact .refl _
  · split at h
    · split at h
      · cases h
      · split at h
        · cases h
        next hblocks =>
          cases h
          exact receiveReportBlocks_sameSenders hblocks
    · cases h
      exact .refl _

theorem receivePackets_sameSenders {clock : Nat → Nat → UInt64} {ps : List RtcpPacket}
    (h : receivePackets clock s ps = .ok (s', out)) : SameSenders s s' := by
  induction ps generalizing clock s out with
  | nil =>
      cases h
      exact .refl _
  | cons p ps ih =>
      simp only [receivePackets] at h
      split at h
      · cases h
      next s₁ out₁ hfirst =>
        split at h
        · cases h
        next s₂ out₂ hrest =>
          cases h
          exact (receivePacket_sameSenders hfirst).trans (ih hrest)

theorem receiveRctp_sameSenders {clock : Nat → Nat → UInt64} {data : Memory} {len : Nat}
    (h : s.receiveRctp clock data len = .ok (s', out)) : SameSenders s s' := by
  simp only [receiveRctp] at h
  split at h
  · cases h
    exact .refl _
  · exact receivePackets_sameSenders h

theorem onTimerTimeout_state {buffer : Memory} {now : UInt64}
    (h : s.onTimerTimeout buffer now = .ok (s', out)) : s' = s := by
  simp only [onTimerTimeout] at h
  split at h
  · cases h
  · cases h
    rfl

/-! ## Every event -/

/-- The media packet of a kind that an event brings. -/
def mediaPacket (kind : MediaType) : Event → Option MediaPacket
  | .receiveH264Packet _ _ packet => if kind = .video then some packet else none
  | .receiveOpusPacket _ _ packet => if kind = .audio then some packet else none
  | _ => none

variable {rtpTimestamp : Int → UInt32 → UInt32}

/-- A media packet goes through the packetizer of its kind, and the packets
are handed on from `s₁`, where the new packetizer is in place. -/
structure Packs (rtpTimestamp : Int → UInt32 → UInt32) (kind : MediaType) (heap : Memory)
    (clock : Nat → UInt64) (packet : MediaPacket) (pkts : List RtpPacket) (k k' : AnyPacketizer)
    (s s₁ s' : MediaStream) (out : List MediaOutput) : Prop where
  before : s.packetizer kind = some k
  packs : k.pack rtpTimestamp packet = .ok (k', pkts)
  after : s₁.packetizer kind = some k'
  otherKind : ∀ kind', kind' ≠ kind → s₁.packetizer kind' = s.packetizer kind'
  tracks : s₁.streamTracks = s.streamTracks
  handedOn : onRtpPacketsGenerated heap clock s₁ pkts = .ok (s', out)

section Packets

variable {kind : MediaType} {heap : Memory} {clock : Nat → UInt64} {packet : MediaPacket}
  {pkts : List RtpPacket} {k k' : AnyPacketizer} {s₁ : MediaStream}

theorem Packs.senderInfo_eq
    (hp : Packs rtpTimestamp kind heap clock packet pkts k k' s s₁ s' out) :
    s₁.senderInfo = s.senderInfo := by
  funext ssrc
  rw [senderInfo, hp.tracks]
  rfl

theorem receiveH264Packet_packs
    (h : s.receiveH264Packet rtpTimestamp heap clock packet = .ok (s', out)) :
    ∃ pkts k k' s₁, Packs rtpTimestamp .video heap clock packet pkts k k' s s₁ s' out := by
  simp only [receiveH264Packet] at h
  split at h
  · cases h
  next k hk =>
    split at h
    · cases h
    next k' pkts hpack =>
      refine ⟨pkts, .h264 k, .h264 k', { s with h264Packetizer := some k' },
        ⟨?_, ?_, rfl, ?_, rfl, h⟩⟩
      · rw [packetizer, hk]
        rfl
      · rw [AnyPacketizer.pack, hpack]
        rfl
      · rintro (_ | _) hne
        · exact absurd rfl hne
        · rfl

theorem receiveOpusPacket_packs
    (h : s.receiveOpusPacket rtpTimestamp heap clock packet = .ok (s', out)) :
    ∃ pkts k k' s₁, Packs rtpTimestamp .audio heap clock packet pkts k k' s s₁ s' out := by
  simp only [receiveOpusPacket] at h
  split at h
  · cases h
  next k hk =>
    split at h
    · cases h
    next k' pkts hpack =>
      refine ⟨pkts, .opus k, .opus k', { s with opusPacketizer := some k' },
        ⟨?_, ?_, rfl, ?_, rfl, h⟩⟩
      · rw [packetizer, hk]
        rfl
      · rw [AnyPacketizer.pack, hpack]
        rfl
      · rintro (_ | _) hne
        · rfl
        · exact absurd rfl hne

end Packets

/-- A media packet goes through the packetizer of its kind, and what comes
out is counted. -/
structure Sends (rtpTimestamp : Int → UInt32 → UInt32) (kind : MediaType) (packet : MediaPacket)
    (pkts : List RtpPacket) (k k' : AnyPacketizer) (s s' : MediaStream) : Prop where
  before : s.packetizer kind = some k
  packs : k.pack rtpTimestamp packet = .ok (k', pkts)
  after : s'.packetizer kind = some k'
  otherKind : ∀ kind', kind' ≠ kind → s'.packetizer kind' = s.packetizer kind'
  own : ∀ params ws, (∀ pkt ∈ pkts, pkt.ssrc = params.ssrc) → s.Counts params ws →
    s'.Counts params (ws ++ pkts)
  other : ∀ ssrc, (∀ pkt ∈ pkts, pkt.ssrc ≠ ssrc) → s'.senderInfo ssrc = s.senderInfo ssrc

theorem Packs.sends {kind : MediaType} {heap : Memory} {clock : Nat → UInt64}
    {packet : MediaPacket} {pkts : List RtpPacket} {k k' : AnyPacketizer} {s₁ : MediaStream}
    (hp : Packs rtpTimestamp kind heap clock packet pkts k k' s s₁ s' out) :
    Sends rtpTimestamp kind packet pkts k k' s s' := by
  have hkeeps := onRtpPacketsGenerated_packetizer hp.handedOn
  refine ⟨hp.before, hp.packs, by rw [hkeeps, hp.after], ?_, ?_, ?_⟩
  · intro kind' hne
    rw [hkeeps, hp.otherKind kind' hne]
  · intro params ws hown hc
    exact onRtpPacketsGenerated_own hp.handedOn hown (by rwa [Counts, hp.senderInfo_eq])
  · intro ssrc hssrc
    rw [onRtpPacketsGenerated_other hp.handedOn hssrc, hp.senderInfo_eq]

/-- An event that adds no track brings a media packet, which is packed and
counted, or it changes no packetizer and no counter. -/
theorem step_cases {e : Event} (he : adds e = none)
    (h : s.step rtpTimestamp e = .ok (s', out)) :
    (∃ kind packet pkts k k',
      (∀ kind', mediaPacket kind' e = if kind' = kind then some packet else none) ∧
      Sends rtpTimestamp kind packet pkts k k' s s') ∨
    ((∀ kind, mediaPacket kind e = none) ∧ SameSenders s s') := by
  cases e with
  | addStreamTrack params rtpBuf => cases he
  | receiveH264Packet heap clock packet =>
      obtain ⟨pkts, k, k', s₁, hp⟩ := receiveH264Packet_packs h
      exact Or.inl ⟨.video, packet, pkts, k, k', fun _ => rfl, hp.sends⟩
  | receiveOpusPacket heap clock packet =>
      obtain ⟨pkts, k, k', s₁, hp⟩ := receiveOpusPacket_packs h
      exact Or.inl ⟨.audio, packet, pkts, k, k', fun _ => rfl, hp.sends⟩
  | receiveRctp clock data len =>
      exact Or.inr ⟨fun _ => rfl, receiveRctp_sameSenders h⟩
  | timerTimeout buffer now =>
      obtain rfl : s' = s := onTimerTimeout_state h
      exact Or.inr ⟨fun _ => rfl, .refl s'⟩

end Steps

end MediaStream

end WebrtcServer
