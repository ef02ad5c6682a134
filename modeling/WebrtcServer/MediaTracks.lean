/-
# `MediaTracks` — the track map over every run

The keys of the map are the SSRCs that tracks were added for, and every
entry is a track with the SSRC of its key whose buffer is in order.  Every
event keeps that as long as it runs to its end.  What can stop it is a NACK:
it is handed to the entry that `operator[]` finds under the SSRC that the
peer wrote into it, and `operator[]` makes a null entry for an SSRC that no
track was added for (`NacksKnown`).
-/
import WebrtcServer.H264Pack
import WebrtcServer.MediaStream
import WebrtcServer.SendBuffer

namespace WebrtcServer

open Lib

/-! ## The class of a packet fits its header -/

/-- Where the loop of `ReceiveRctp` casts a packet, it has the class asked
for. -/
structure RtcpPacket.Castable (p : RtcpPacket) : Prop where
  nack : p.type = kRtcpTypeRtpfb → p.format = 1 → ∃ nack, p.asNack = some nack
  receiverReport : p.type = kRtcpTypeRr → ∃ rr, p.asReceiverReport = some rr

section Parse

variable {r r' : ByteReader} {p : RtcpPacket}

theorem parseCommonHeader_eq_some {hdr : RtcpCommonHeader}
    (h : parseCommonHeader r = some (hdr, r')) : hdr = RtcpCommonHeader.load r.currentData := by
  simp only [parseCommonHeader] at h
  split at h
  · cases h
  · cases h
    rfl

theorem parseGeneric_header (h : RtcpPacket.parseGeneric r = some (p, r')) :
    p.header = RtcpCommonHeader.load r.currentData := by
  simp only [RtcpPacket.parseGeneric, Option.bind_eq_bind, Option.bind_eq_some_iff] at h
  obtain ⟨⟨hdr, r₁⟩, hhdr, r₂, -, heq⟩ := h
  cases heq
  exact parseCommonHeader_eq_some hhdr

theorem nack_parse_header (h : NackPacket.parse r = some (p, r')) :
    p.header = RtcpCommonHeader.load r.currentData ∧ ∃ nack, p.asNack = some nack := by
  simp only [NackPacket.parse, Option.bind_eq_bind, Option.bind_eq_some_iff] at h
  obtain ⟨⟨hdr, r₁⟩, hhdr, ⟨_, _⟩, -, ⟨_, _⟩, -, ⟨_, _⟩, -, heq⟩ := h
  cases heq
  exact ⟨parseCommonHeader_eq_some hhdr, _, rfl⟩

theorem receiverReport_parse_header (h : ReceiverReportPacket.parse r = some (p, r')) :
    p.header = RtcpCommonHeader.load r.currentData ∧ ∃ rr, p.asReceiverReport = some rr := by
  simp only [ReceiverReportPacket.parse, Option.bind_eq_bind, Option.bind_eq_some_iff] at h
  obtain ⟨⟨hdr, r₁⟩, hhdr, ⟨_, _⟩, -, ⟨_, _⟩, -, heq⟩ := h
  cases heq
  exact ⟨parseCommonHeader_eq_some hhdr, _, rfl⟩

/-- The class chosen by the first two bytes is the one that the parsed
header asks for. -/
theorem parsePacket_castable (h : RtcpCompound.parsePacket r = some (p, r')) : p.Castable := by
  simp only [RtcpCompound.parsePacket] at h
  split at h
  next hfb =>
    split at h
    next =>
      obtain ⟨hhdr, hnack⟩ := nack_parse_header h
      refine ⟨fun _ _ => hnack, ?_⟩
      intro hrr
      have htype : p.type = kRtcpTypeRtpfb := by
        rw [RtcpPacket.type, hhdr]
        exact hfb
      rw [htype] at hrr
      exact absurd hrr (by decide)
    next hfmt =>
      have hhdr := parseGeneric_header h
      refine ⟨fun _ hf => absurd ?_ hfmt, ?_⟩
      · rw [RtcpPacket.format, hhdr] at hf
        exact hf
      · intro hrr
        rw [RtcpPacket.type, hhdr] at hrr
        exact absurd (hfb.symm.trans hrr) (by decide)
  next hfb =>
    split at h
    next =>
      obtain ⟨hhdr, hrr⟩ := receiverReport_parse_header h
      refine ⟨fun ht _ => absurd ?_ hfb, fun _ => hrr⟩
      rw [RtcpPacket.type, hhdr] at ht
      exact ht
    next hrr =>
      have hhdr := parseGeneric_header h
      refine ⟨fun ht _ => absurd ?_ hfb, fun ht => absurd ?_ hrr⟩ <;>
        · rw [RtcpPacket.type, hhdr] at ht
          exact ht

/-- All packets of a compound can be cast. -/
theorem parse_castable {data : Memory} {len : Nat} {ps : List RtcpPacket}
    (h : RtcpCompound.parse data len = some ps) : ∀ p ∈ ps, p.Castable := by
  simp only [RtcpCompound.parse] at h
  split at h
  · cases h
  next s hloop =>
    cases h
    refine whileLoop_invariant (I := fun s => ∀ p ∈ s.rtcps, p.Castable) ?_ (by simp) hloop
    rintro s t hs ⟨-, hturn⟩
    simp only [RtcpCompound.turn] at hturn
    split at hturn
    · cases hturn
    next packet reader hpacket =>
      cases hturn
      intro p hp
      rcases List.mem_append.mp hp with hp | hp
      · exact hs p hp
      · rw [List.mem_singleton.mp hp]
        exact parsePacket_castable hpacket

end Parse

namespace MediaStream

/-! ## The invariant -/

/-- A track with the SSRC `ssrc` whose buffer holds what it was sent. -/
def TrackOk (ssrc : UInt32) (t : StreamTrack) : Prop :=
  t.params.ssrc = ssrc ∧ ∃ ws, t.Buffered t.params ws

/-- The map has the keys `keys`, with a track under each, and a packetizer
packs for one of them. -/
structure Inv (keys : List UInt32) (s : MediaStream) : Prop where
  keys_iff : ∀ ssrc, ssrc ∈ s.streamTracks ↔ ssrc ∈ keys
  tracks : ∀ ssrc entry, s.streamTracks.lookup ssrc = some entry →
    ∃ t, entry = some t ∧ TrackOk ssrc t
  h264 : ∀ k, s.h264Packetizer = some k → k.ssrc ∈ keys
  opus : ∀ k, s.opusPacketizer = some k → k.ssrc ∈ keys

section Steps

variable {keys : List UInt32} {s : MediaStream} {ssrc : UInt32}

theorem inv_new : Inv [] new :=
  ⟨by simp [new], by simp [new], by simp [new], by simp [new]⟩

theorem Inv.lookup (hi : Inv keys s) (hk : ssrc ∈ keys) :
    ∃ t, s.streamTracks.lookup ssrc = some (some t) ∧ TrackOk ssrc t := by
  have hsome := AList.lookup_isSome.mpr ((hi.keys_iff ssrc).mpr hk)
  obtain ⟨entry, hentry⟩ := Option.isSome_iff_exists.mp hsome
  obtain ⟨t, rfl, hok⟩ := hi.tracks ssrc entry hentry
  exact ⟨t, hentry, hok⟩

/-- A track put back under its key leaves the map in order. -/
theorem Inv.insert (hi : Inv keys s) (hk : ssrc ∈ keys) {t : StreamTrack} (ht : TrackOk ssrc t) :
    Inv keys { s with streamTracks := s.streamTracks.insert ssrc (some t) } := by
  refine ⟨?_, ?_, hi.h264, hi.opus⟩
  · intro ssrc'
    rw [AList.mem_insert, hi.keys_iff]
    exact ⟨fun hor => hor.elim (fun heq => heq ▸ hk) id, Or.inr⟩
  · intro ssrc' entry hentry
    by_cases heq : ssrc' = ssrc
    · subst heq
      rw [AList.lookup_insert] at hentry
      cases hentry
      exact ⟨t, rfl, ht⟩
    · rw [AList.lookup_insert_ne heq] at hentry
      exact hi.tracks ssrc' entry hentry

/-- A call that keeps a track in order keeps the map in order. -/
theorem callTrack_spec (hi : Inv keys s) (hk : ssrc ∈ keys)
    {call : StreamTrack → Except Fault (StreamTrack × List Resent)}
    (hcall : ∀ t, TrackOk ssrc t → ∃ t' out, call t = .ok (t', out) ∧ TrackOk ssrc t') :
    ∃ s' out, s.callTrack ssrc call = .ok (s', out) ∧ Inv keys s' := by
  obtain ⟨t, hlookup, ht⟩ := hi.lookup hk
  obtain ⟨t', out, hok, ht'⟩ := hcall t ht
  refine ⟨_, out.map onStreamTrackResendPacket, ?_, hi.insert hk ht'⟩
  simp only [callTrack, index, hlookup, hok]

/-- An SSRC that no track was added for is a null entry. -/
theorem callTrack_unknown (hi : Inv keys s) (hk : ssrc ∉ keys)
    (call : StreamTrack → Except Fault (StreamTrack × List Resent)) :
    s.callTrack ssrc call = .error .nullTrack := by
  have hnone : s.streamTracks.lookup ssrc = none :=
    AList.lookup_eq_none.mpr fun hmem => hk ((hi.keys_iff ssrc).mp hmem)
  simp only [callTrack, index, hnone]

theorem addStreamTrack_inv (hi : Inv keys s) (params : RtpParams) (rtpBuf : Memory) :
    Inv (keys ++ [params.ssrc]) (s.addStreamTrack params rtpBuf) := by
  have hold : Inv (keys ++ [params.ssrc])
      { s with streamTracks := s.streamTracks.insert params.ssrc (some (.new params)) } := by
    refine ⟨?_, ?_, ?_, ?_⟩
    · intro ssrc'
      rw [AList.mem_insert, hi.keys_iff, List.mem_append, List.mem_singleton, Or.comm]
    · intro ssrc' entry hentry
      by_cases heq : ssrc' = params.ssrc
      · subst heq
        rw [AList.lookup_insert] at hentry
        cases hentry
        exact ⟨_, rfl, rfl, [], StreamTrack.buffered_new params⟩
      · rw [AList.lookup_insert_ne heq] at hentry
        exact hi.tracks ssrc' entry hentry
    · intro k hk
      exact List.mem_append_left _ (hi.h264 k hk)
    · intro k hk
      exact List.mem_append_left _ (hi.opus k hk)
  simp only [addStreamTrack]
  split
  · refine ⟨hold.keys_iff, hold.tracks, ?_, hold.opus⟩
    intro k hk
    cases hk
    simp [H264RtpPacketizer.new, RtpPacketizer.new]
  · refine ⟨hold.keys_iff, hold.tracks, hold.h264, ?_⟩
    intro k hk
    cases hk
    simp [RtpPacketizer.new]

/-! ## Sending -/

theorem onRtpPacketGenerated_spec (hi : Inv keys s) (heap : Memory) (now : UInt64)
    {pkt : RtpPacket} (hwf : pkt.WellFormed) (hk : pkt.ssrc ∈ keys) :
    ∃ s' out, s.onRtpPacketGenerated heap now pkt = .ok (s', out) ∧ Inv keys s' := by
  have hcall : ∀ t, TrackOk pkt.ssrc t → ∃ t' out,
      t.step (.receivePacket heap now pkt) = .ok (t', out) ∧ TrackOk pkt.ssrc t' := by
    rintro t ⟨hssrc, ws, hb⟩
    have hsend : StreamTrack.SendsWellFormed t (.receivePacket heap now pkt) := by
      rintro _ _ _ ⟨⟩
      exact hwf
    obtain ⟨t', out, hstep, hb', -, -⟩ := StreamTrack.step_spec hb _ hsend
    exact ⟨t', out, hstep, by rw [hb'.params_eq, hssrc], _, hb'.params_eq ▸ hb'⟩
  obtain ⟨s', out, hok, hi'⟩ := callTrack_spec hi hk hcall
  refine ⟨s', .rtpPacketSend (window pkt.data 0 pkt.size.toNat) :: out, ?_, hi'⟩
  simp only [onRtpPacketGenerated, hok]

theorem onRtpPacketsGenerated_spec (hi : Inv keys s) (heap : Memory) (clock : Nat → UInt64)
    {pkts : List RtpPacket} (hpkts : ∀ pkt ∈ pkts, pkt.WellFormed ∧ pkt.ssrc ∈ keys) :
    ∃ s' out, onRtpPacketsGenerated heap clock s pkts = .ok (s', out) ∧ Inv keys s' := by
  induction pkts generalizing clock s with
  | nil => exact ⟨s, [], rfl, hi⟩
  | cons pkt pkts ih =>
      obtain ⟨⟨hwf, hk⟩, hrest⟩ := List.forall_mem_cons.mp hpkts
      obtain ⟨s₁, out₁, h₁, hi₁⟩ := onRtpPacketGenerated_spec hi heap (clock 0) hwf hk
      obtain ⟨s₂, out₂, h₂, hi₂⟩ := ih hi₁ (fun i => clock (i + 1)) hrest
      exact ⟨s₂, out₁ ++ out₂, by simp only [onRtpPacketsGenerated, h₁, h₂], hi₂⟩

/-- A packetizer in place packs, and its packets go to a track. -/
theorem receiveH264Packet_spec (rtpTimestamp : Int → UInt32 → UInt32) (hi : Inv keys s)
    {k : H264RtpPacketizer} (hk : s.h264Packetizer = some k) (heap : Memory)
    (clock : Nat → UInt64) (packet : MediaPacket) :
    ∃ s' out, s.receiveH264Packet rtpTimestamp heap clock packet = .ok (s', out) ∧
      Inv keys s' := by
  obtain ⟨k', groups, hpack, hemits, -⟩ := H264RtpPacketizer.pack_spec rtpTimestamp k packet
  have hssrc := hi.h264 k hk
  have hi' : Inv keys { s with h264Packetizer := some k' } := by
    refine ⟨hi.keys_iff, hi.tracks, ?_, hi.opus⟩
    intro k'' hk''
    cases hk''
    rwa [hemits.ssrc_eq]
  obtain ⟨s', out, hok, hi''⟩ := onRtpPacketsGenerated_spec hi' heap clock fun pkt hp => by
    obtain ⟨hwf, heq, -⟩ := hemits.wellFormed pkt hp
    exact ⟨hwf, heq ▸ hssrc⟩
  exact ⟨s', out, by simp only [receiveH264Packet, hk, hpack, hok], hi''⟩

theorem opusPack_eq_ok {rtpTimestamp : Int → UInt32 → UInt32} {k k' : RtpPacketizer}
    {packet : MediaPacket} {pkts : List RtpPacket}
    (h : OpusRtpPacketizer.pack rtpTimestamp k packet = .ok (k', pkts)) :
    RtpPacketizer.Emits (rtpTimestamp packet.timestampMillis k.clockRate) k pkts k' := by
  simp only [OpusRtpPacketizer.pack, bind, Except.bind] at h
  split at h
  · cases h
  next next hemit =>
    cases h
    exact .single hemit

theorem receiveOpusPacket_spec (rtpTimestamp : Int → UInt32 → UInt32) (hi : Inv keys s)
    (heap : Memory) (clock : Nat → UInt64) (packet : MediaPacket) :
    (∃ s' out, s.receiveOpusPacket rtpTimestamp heap clock packet = .ok (s', out) ∧
      Inv keys s') ∨
    ∃ f, s.receiveOpusPacket rtpTimestamp heap clock packet = .error f ∧
      (f = .nullPacketizer ∨ f = .outOfBounds) := by
  cases hk : s.opusPacketizer with
  | none => exact Or.inr ⟨_, by simp only [receiveOpusPacket, hk], Or.inl rfl⟩
  | some k =>
      cases hpack : OpusRtpPacketizer.pack rtpTimestamp k packet with
      | error f =>
          refine Or.inr ⟨f, by simp only [receiveOpusPacket, hk, hpack], Or.inr ?_⟩
          simp only [OpusRtpPacketizer.pack, RtpPacketizer.emit, bind, Except.bind] at hpack
          split at hpack
          next e hemit =>
            split at hemit
            · cases hemit
            · cases hemit
              cases hpack
              rfl
          next => cases hpack
      | ok next =>
          obtain ⟨k', pkts⟩ := next
          have hemits := opusPack_eq_ok hpack
          have hssrc := hi.opus k hk
          have hi' : Inv keys { s with opusPacketizer := some k' } := by
            refine ⟨hi.keys_iff, hi.tracks, hi.h264, ?_⟩
            intro k'' hk''
            cases hk''
            rwa [hemits.ssrc_eq]
          obtain ⟨s', out, hok, hi''⟩ := onRtpPacketsGenerated_spec hi' heap clock fun pkt hp => by
            obtain ⟨hwf, heq, -⟩ := hemits.wellFormed pkt hp
            exact ⟨hwf, heq ▸ hssrc⟩
          exact Or.inl ⟨s', out, by simp only [receiveOpusPacket, hk, hpack, hok], hi''⟩

/-! ## Receiving RTCP -/

theorem receiveReportBlock_spec (hi : Inv keys s) (now : UInt64) (block : ReportBlock) :
    ∃ s', s.receiveReportBlock now block = .ok s' ∧ Inv keys s' := by
  by_cases hk : block.sourceSsrc ∈ keys
  · obtain ⟨t, hlookup, hssrc, ws, hb⟩ := hi.lookup hk
    refine ⟨_, ?_, hi.insert hk (t := t.receiveReceiverReport now block) ?_⟩
    · simp only [receiveReportBlock, hlookup]
    simp only [TrackOk, StreamTrack.receiveReceiverReport]
    split
    · exact ⟨hssrc, ws, hb.params_eq, hb.wellFormed, hb.buffer⟩
    · exact ⟨hssrc, ws, hb⟩
  · have hnone : s.streamTracks.lookup block.sourceSsrc = none :=
      AList.lookup_eq_none.mpr fun hmem => hk ((hi.keys_iff _).mp hmem)
    exact ⟨s, by simp only [receiveReportBlock, hnone], hi⟩

theorem receiveReportBlocks_spec (hi : Inv keys s) (clock : Nat → UInt64)
    (blocks : List ReportBlock) :
    ∃ s', receiveReportBlocks clock s blocks = .ok s' ∧ Inv keys s' := by
  induction blocks generalizing clock s with
  | nil => exact ⟨s, rfl, hi⟩
  | cons block blocks ih =>
      obtain ⟨s₁, h₁, hi₁⟩ := receiveReportBlock_spec hi (clock 0) block
      obtain ⟨s₂, h₂, hi₂⟩ := ih hi₁ (fun i => clock (i + 1))
      exact ⟨s₂, by simp only [receiveReportBlocks, h₁, h₂], hi₂⟩

/-- If the packet is a NACK that is handed to a track, there is one for it. -/
def NackKnown (keys : List UInt32) (p : RtcpPacket) : Prop :=
  p.type = kRtcpTypeRtpfb → p.format = 1 → ∀ nack, p.asNack = some nack → nack.mediaSsrc ∈ keys

theorem receivePacket_known (hi : Inv keys s) (clock : Nat → UInt64) {p : RtcpPacket}
    (hp : p.Castable) (hk : NackKnown keys p) :
    ∃ s' out, s.receivePacket clock p = .ok (s', out) ∧ Inv keys s' := by
  simp only [receivePacket]
  split
  next hfb =>
    split
    next hfmt =>
      obtain ⟨nack, hnack⟩ := hp.nack hfb hfmt
      simp only [hnack]
      refine callTrack_spec hi (hk hfb hfmt nack hnack) ?_
      rintro t ⟨hssrc, ws, hb⟩
      obtain ⟨t', out, hok, hb', -, -⟩ := StreamTrack.receiveNack_spec hb clock nack
      exact ⟨t', out, hok, by rw [hb'.params_eq, hssrc], ws, hb'.params_eq ▸ hb'⟩
    next => exact ⟨s, [], rfl, hi⟩
  next =>
    split
    next hrr =>
      obtain ⟨rr, hcast⟩ := hp.receiverReport hrr
      obtain ⟨s', hok, hi'⟩ := receiveReportBlocks_spec hi clock rr.reportBlocks
      exact ⟨s', [], by simp only [hcast, hok], hi'⟩
    next => exact ⟨s, [], rfl, hi⟩

theorem receivePacket_unknown (hi : Inv keys s) (clock : Nat → UInt64) {p : RtcpPacket}
    (hk : ¬ NackKnown keys p) : s.receivePacket clock p = .error .nullTrack := by
  simp only [NackKnown, not_forall] at hk
  obtain ⟨hfb, hfmt, nack, hnack, hssrc⟩ := hk
  simp only [receivePacket, hfb, hfmt, if_true, hnack]
  exact callTrack_unknown hi hssrc _

theorem receivePackets_known (hi : Inv keys s) (clock : Nat → Nat → UInt64)
    {ps : List RtcpPacket} (hcast : ∀ p ∈ ps, p.Castable) (hk : ∀ p ∈ ps, NackKnown keys p) :
    ∃ s' out, receivePackets clock s ps = .ok (s', out) ∧ Inv keys s' := by
  induction ps generalizing clock s with
  | nil => exact ⟨s, [], rfl, hi⟩
  | cons p ps ih =>
      obtain ⟨hp, hps⟩ := List.forall_mem_cons.mp hcast
      obtain ⟨hkp, hkps⟩ := List.forall_mem_cons.mp hk
      obtain ⟨s₁, out₁, h₁, hi₁⟩ := receivePacket_known hi (clock 0) hp hkp
      obtain ⟨s₂, out₂, h₂, hi₂⟩ := ih hi₁ (fun i => clock (i + 1)) hps hkps
      exact ⟨s₂, out₁ ++ out₂, by simp only [receivePackets, h₁, h₂], hi₂⟩

/-- The packets in front of the first NACK for an unknown SSRC go through. -/
theorem receivePackets_unknown (hi : Inv keys s) (clock : Nat → Nat → UInt64)
    {ps : List RtcpPacket} (hcast : ∀ p ∈ ps, p.Castable) (hk : ¬ ∀ p ∈ ps, NackKnown keys p) :
    receivePackets clock s ps = .error .nullTrack := by
  induction ps generalizing clock s with
  | nil => exact absurd (by simp) hk
  | cons p ps ih =>
      obtain ⟨hp, hps⟩ := List.forall_mem_cons.mp hcast
      by_cases hkp : NackKnown keys p
      · obtain ⟨s₁, out₁, h₁, hi₁⟩ := receivePacket_known hi (clock 0) hp hkp
        have hrest : ¬ ∀ p ∈ ps, NackKnown keys p := fun hall =>
          hk (List.forall_mem_cons.mpr ⟨hkp, hall⟩)
        simp only [receivePackets, h₁, ih hi₁ (fun i => clock (i + 1)) hps hrest]
      · simp only [receivePackets, receivePacket_unknown hi (clock 0) hkp]

/-! ## Sender reports -/

theorem sendReports_ok (buffer : Memory) (nowMillis : UInt64) {entries : List (Option StreamTrack)}
    (h : ∀ entry ∈ entries, ∃ t, entry = some t) :
    ∃ out, sendReports buffer nowMillis entries = .ok out := by
  induction entries with
  | nil => exact ⟨[], rfl⟩
  | cons entry entries ih =>
      obtain ⟨⟨t, rfl⟩, hrest⟩ := List.forall_mem_cons.mp h
      obtain ⟨out, hout⟩ := ih hrest
      have hone : ∃ out₁, sendReport buffer nowMillis (some t) = .ok out₁ := by
        simp only [sendReport]
        split
        · exact ⟨[], rfl⟩
        · split
          · exact ⟨[], rfl⟩
          · exact ⟨_, rfl⟩
      obtain ⟨out₁, h₁⟩ := hone
      exact ⟨out₁ ++ out, by simp only [sendReports, h₁, hout]⟩

theorem onTimerTimeout_spec (hi : Inv keys s) (buffer : Memory) (nowMillis : UInt64) :
    ∃ out, s.onTimerTimeout buffer nowMillis = .ok (s, out) := by
  have hentries : ∀ entry ∈ s.streamTracks.entries.map Sigma.snd, ∃ t, entry = some t := by
    intro entry hentry
    obtain ⟨⟨ssrc, e⟩, hmem, rfl⟩ := List.mem_map.mp hentry
    obtain ⟨t, ht, -⟩ := hi.tracks ssrc e (AList.mem_lookup_iff.mpr hmem)
    exact ⟨t, ht⟩
  obtain ⟨out, hout⟩ := sendReports_ok buffer nowMillis hentries
  exact ⟨out, by simp only [onTimerTimeout, hout]⟩

/-! ## Every event -/

/-- The SSRC that an event adds a track for. -/
def adds : Event → Option UInt32
  | .addStreamTrack params _ => some params.ssrc
  | _ => none

/-- Every NACK that the event hands to a track names an SSRC of the map. -/
def NacksKnown (s : MediaStream) : Event → Prop
  | .receiveRctp _ data len =>
      ∀ ps, RtcpCompound.parse data len = some ps → ∀ p ∈ ps,
        p.type = kRtcpTypeRtpfb → p.format = 1 →
          ∀ nack, p.asNack = some nack → nack.mediaSsrc ∈ s.streamTracks
  | _ => True

/-- A null track or a null packet is dereferenced. -/
def DereferencesNull (result : Except Fault (MediaStream × List MediaOutput)) : Prop :=
  result = .error .nullTrack ∨ result = .error .nullPacket

theorem receiveRctp_spec (hi : Inv keys s) (clock : Nat → Nat → UInt64) (data : Memory)
    (len : Nat) :
    (NacksKnown s (.receiveRctp clock data len) ∧
      ∃ s' out, s.receiveRctp clock data len = .ok (s', out) ∧ Inv keys s') ∨
    (¬ NacksKnown s (.receiveRctp clock data len) ∧
      s.receiveRctp clock data len = .error .nullTrack) := by
  simp only [receiveRctp, NacksKnown, hi.keys_iff]
  cases hparse : RtcpCompound.parse data len with
  | none => exact Or.inl ⟨by simp, s, [], rfl, hi⟩
  | some ps =>
      have hcast := parse_castable hparse
      simp only [Option.some.injEq, forall_eq']
      by_cases hk : ∀ p ∈ ps, NackKnown keys p
      · exact Or.inl ⟨hk, receivePackets_known hi clock hcast hk⟩
      · exact Or.inr ⟨hk, receivePackets_unknown hi clock hcast hk⟩

/-- An event runs to its end and keeps the map in order, or it faults: with
a null track exactly when it has a NACK for an unknown SSRC, and otherwise
for want of a packetizer or of room in its buffer. -/
theorem step_spec (rtpTimestamp : Int → UInt32 → UInt32) (hi : Inv keys s) (e : Event) :
    (NacksKnown s e ∧ ∃ s' out, s.step rtpTimestamp e = .ok (s', out) ∧
      Inv (keys ++ (adds e).toList) s') ∨
    (NacksKnown s e ∧ ∃ f, s.step rtpTimestamp e = .error f ∧
      (f = .nullPacketizer ∨ f = .outOfBounds)) ∨
    (¬ NacksKnown s e ∧ s.step rtpTimestamp e = .error .nullTrack) := by
  cases e with
  | addStreamTrack params rtpBuf =>
      exact Or.inl ⟨trivial, _, [], rfl, addStreamTrack_inv hi params rtpBuf⟩
  | receiveH264Packet heap clock packet =>
      cases hk : s.h264Packetizer with
      | none =>
          exact Or.inr (Or.inl ⟨trivial, _, by simp only [step, receiveH264Packet, hk],
            Or.inl rfl⟩)
      | some k =>
          obtain ⟨s', out, hok, hi'⟩ :=
            receiveH264Packet_spec rtpTimestamp hi hk heap clock packet
          exact Or.inl ⟨trivial, s', out, hok, by simpa [adds] using hi'⟩
  | receiveOpusPacket heap clock packet =>
      rcases receiveOpusPacket_spec rtpTimestamp hi heap clock packet with
        ⟨s', out, hok, hi'⟩ | hfault
      · exact Or.inl ⟨trivial, s', out, hok, by simpa [adds] using hi'⟩
      · exact Or.inr (Or.inl ⟨trivial, hfault⟩)
  | receiveRctp clock data len =>
      rcases receiveRctp_spec hi clock data len with ⟨hk, s', out, hok, hi'⟩ | hunknown
      · exact Or.inl ⟨hk, s', out, hok, by simpa [adds] using hi'⟩
      · exact Or.inr (Or.inr hunknown)
  | timerTimeout buffer nowMillis =>
      obtain ⟨out, hok⟩ := onTimerTimeout_spec hi buffer nowMillis
      exact Or.inl ⟨trivial, s, out, hok, by simpa [adds] using hi⟩

end Steps

/-! ## Runs -/

/-- The SSRCs that tracks were added for. -/
def added (h : List (Event × List MediaOutput)) : List UInt32 := h.filterMap fun x => adds x.1

/-- The map is as `AddStreamTrack` built it, with a track of the right SSRC
under every key. -/
structure TracksIntact (keys : List UInt32) (s : MediaStream) : Prop where
  keys_iff : ∀ ssrc, ssrc ∈ s.streamTracks ↔ ssrc ∈ keys
  tracks : ∀ ssrc entry, s.streamTracks.lookup ssrc = some entry →
    ∃ t, entry = some t ∧ t.params.ssrc = ssrc

section Runs

variable {rtpTimestamp : Int → UInt32 → UInt32} {h : List (Event × List MediaOutput)}
  {s : MediaStream}

theorem Inv.step {keys : List UInt32} {s' : MediaStream} {e : Event} {out : List MediaOutput}
    (hi : Inv keys s) (hstep : s.step rtpTimestamp e = .ok (s', out)) :
    Inv (keys ++ (adds e).toList) s' := by
  rcases step_spec rtpTimestamp hi e with ⟨-, s₁, out₁, hok, hi'⟩ | ⟨-, f, herr, -⟩ | ⟨-, herr⟩
  · rw [hstep] at hok
    cases hok
    exact hi'
  · rw [hstep] at herr
    cases herr
  · rw [hstep] at herr
    cases herr

theorem run_inv (hr : Run (step rtpTimestamp) (fun _ _ => True) new h s) : Inv (added h) s := by
  refine hr.invariant (I := fun h s => Inv (added h) s) inv_new ?_
  intro h s e s' out hi _ hstep
  have hadded : added (h ++ [(e, out)]) = added h ++ (adds e).toList := by
    simp only [added, List.filterMap_append, List.filterMap_cons, List.filterMap_nil]
    cases adds e <;> rfl
  rw [hadded]
  exact hi.step hstep

/-- In every state that is reached the map is intact, and an event
dereferences no null track and no null packet exactly when its NACKs name
known SSRCs. -/
theorem noNull_iff (hr : Run (step rtpTimestamp) (fun _ _ => True) new h s) :
    TracksIntact (added h) s ∧
      ∀ e, ¬ DereferencesNull (s.step rtpTimestamp e) ↔ NacksKnown s e := by
  have hi := run_inv hr
  refine ⟨⟨hi.keys_iff, ?_⟩, ?_⟩
  · intro ssrc entry hentry
    obtain ⟨t, ht, hssrc, -⟩ := hi.tracks ssrc entry hentry
    exact ⟨t, ht, hssrc⟩
  · intro e
    rcases step_spec rtpTimestamp hi e with ⟨hk, s', out, hok, -⟩ | ⟨hk, f, herr, hf⟩ | ⟨hk, herr⟩
    · simp [DereferencesNull, hok, hk]
    · rcases hf with rfl | rfl <;> simp [DereferencesNull, herr, hk]
    · simp [DereferencesNull, herr, hk]

end Runs

section Samples

/-- The video track of an answer has been added. -/
theorem videoTrack_added :
    Run (step exactTimestamp) (fun _ _ => True) new
      ([] ++ [(.addStreamTrack StreamTrack.videoParams fun _ => 0, [])])
      (new.addStreamTrack StreamTrack.videoParams fun _ => 0) :=
  .snoc .nil trivial rfl

theorem noNull_iff_videoTrack :
    ∃ h s, Run (step exactTimestamp) (fun _ _ => True) new h s ∧ added h = [12345678] ∧
      TracksIntact (added h) s ∧
      ∀ e, ¬ DereferencesNull (s.step exactTimestamp e) ↔ NacksKnown s e :=
  ⟨_, _, videoTrack_added, rfl, noNull_iff videoTrack_added⟩

/-- A NACK of the packet 5 of the SSRC 9. -/
def strayNack : ByteString := [0x81, 205, 0, 3, 0, 0, 0, 1, 0, 0, 0, 9, 0, 5, 0, 0]

/-- Sixteen bytes from the peer that name an SSRC of no track. -/
theorem strayNack_dereferencesNull :
    ∃ h s, Run (step exactTimestamp) (fun _ _ => True) new h s ∧ added h = [12345678] ∧
      DereferencesNull (s.step exactTimestamp
        (.receiveRctp (fun _ _ => 0) (Memory.ofList strayNack) strayNack.length)) :=
  ⟨_, _, videoTrack_added, rfl, Or.inl rfl⟩

end Samples

end MediaStream

end WebrtcServer
