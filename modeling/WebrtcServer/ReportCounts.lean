/-
# `ReportCounts` — what the sender reports count, over every run

After every run the counters of a track say how many packets its packetizer
has emitted and how long they were, modulo `2 ^ 32`.  The length is that of
the whole packet, though, where the octet count of a report leaves out the
headers: twelve bytes a packet, and they only cancel where the number of
packets is a multiple of `2 ^ 30`.
-/
import WebrtcServer.SenderCounts
import WebrtcServer.SenderReport

namespace WebrtcServer

open Lib

namespace MediaStream

/-! ## The reports of a tick -/

/-- A sender report for a track: an SR of 28 bytes with its SSRC, that counts
the packets `pkts` and `octets` octets. -/
structure Reports (params : RtpParams) (pkts : List RtpPacket) (octets : Nat)
    (data : ByteString) : Prop where
  isSenderReport : SenderReportPacket.IsSenderReport data
  ssrc : (SenderReportPacket.decode (Memory.ofList data)).senderSsrc = params.ssrc
  packets : (SenderReportPacket.decode (Memory.ofList data)).sendPacketCount =
    UInt32.ofNat pkts.length
  octets : (SenderReportPacket.decode (Memory.ofList data)).sendOctets = UInt32.ofNat octets

/-- Everything that is sent is a report for one of the tracks, with the
octets of the payloads as RFC 3550 has it. -/
def RightReports (tracks : List (RtpParams × List RtpPacket)) (out : List MediaOutput) : Prop :=
  ∀ o ∈ out, ∃ x ∈ tracks, ∃ data, o = .rtcpPacketSend data ∧
    Reports x.1 x.2 (payloadOctets x.2) data

section Ticks

variable {s s' : MediaStream} {out : List MediaOutput} {tracks : List (RtpParams × List RtpPacket)}
  {params : RtpParams} {pkts : List RtpPacket} {buffer : Memory} {now : UInt64}

/-- The state counts the packets of all its tracks. -/
structure CountsAll (tracks : List (RtpParams × List RtpPacket)) (s : MediaStream) : Prop where
  inv : Inv (tracks.map fun x => x.1.ssrc) s
  distinct : (tracks.map fun x => x.1.ssrc).Nodup
  counts : ∀ x ∈ tracks, s.Counts x.1 x.2
  sizes : ∀ x ∈ tracks, ∀ pkt ∈ x.2, pkt.size.toNat = kRtpHeaderFixedSize + pkt.payload.length

/-- The octets that the code reports are those of whole packets. -/
theorem reports_of_create {t : StreamTrack} (hc : t.senderInfo.Counts params pkts)
    {sr : SenderReportPacket} (hsr : t.createRtcpSenderReport now = some sr) :
    Reports params pkts (totalSize pkts) sr.bytes := by
  have hparams : t.params = params := hc.params_eq
  have hpackets : t.sendPacketCount = UInt32.ofNat pkts.length := hc.packets
  have hoctets : t.sendOctets = UInt32.ofNat (totalSize pkts) := hc.octets
  simp only [StreamTrack.createRtcpSenderReport] at hsr
  split at hsr
  · cases hsr
  · cases hsr
    refine ⟨SenderReportPacket.bytes_isSenderReport _, ?_, ?_, ?_⟩ <;>
      rw [SenderReportPacket.decode_bytes]
    · exact congrArg RtpParams.ssrc hparams
    · exact hpackets
    · exact hoctets

/-- A track makes a report unless its counter is at zero. -/
theorem create_of_counts {t : StreamTrack} (hc : t.senderInfo.Counts params pkts)
    (hne : UInt32.ofNat pkts.length ≠ 0) (now : UInt64) :
    ∃ sr, t.createRtcpSenderReport now = some sr := by
  have hpackets : t.sendPacketCount = UInt32.ofNat pkts.length := hc.packets
  simp only [StreamTrack.createRtcpSenderReport, hpackets, if_neg hne]
  exact ⟨_, rfl⟩

theorem Counts.lookup (hc : s.Counts params pkts) : ∃ t,
    s.streamTracks.lookup params.ssrc = some (some t) ∧ t.senderInfo.Counts params pkts := by
  obtain ⟨i, hi, hcounts⟩ := hc
  rw [senderInfo, Option.map_eq_some_iff] at hi
  obtain ⟨t, ht, rfl⟩ := hi
  exact ⟨t, Option.join_eq_some_iff.mp ht, hcounts⟩

/-- What a tick sends are reports of the tracks. -/
theorem CountsAll.reports (ha : CountsAll tracks s)
    (h : s.onTimerTimeout buffer now = .ok (s', out)) :
    ∀ o ∈ out, ∃ x ∈ tracks, ∃ data, o = .rtcpPacketSend data ∧
      Reports x.1 x.2 (totalSize x.2) data := by
  intro o ho
  obtain ⟨ssrc, t, sr, hlookup, hsr, rfl⟩ := (mem_onTimerTimeout h).mp ho
  have hmem : ssrc ∈ s.streamTracks :=
    AList.lookup_isSome.mp (Option.isSome_iff_exists.mpr ⟨_, hlookup⟩)
  obtain ⟨x, hx, rfl⟩ := List.mem_map.mp ((ha.inv.keys_iff ssrc).mp hmem)
  obtain ⟨t', hlookup', hcounts⟩ := (ha.counts x hx).lookup
  rw [hlookup] at hlookup'
  cases hlookup'
  exact ⟨x, hx, sr.bytes, rfl, reports_of_create hcounts hsr⟩

/-- A track that has counted packets is reported. -/
theorem CountsAll.reported (ha : CountsAll tracks s)
    (h : s.onTimerTimeout buffer now = .ok (s', out)) {x : RtpParams × List RtpPacket}
    (hx : x ∈ tracks) (hne : UInt32.ofNat x.2.length ≠ 0) :
    ∃ data, .rtcpPacketSend data ∈ out ∧ Reports x.1 x.2 (totalSize x.2) data := by
  obtain ⟨t, hlookup, hcounts⟩ := (ha.counts x hx).lookup
  obtain ⟨sr, hsr⟩ := create_of_counts hcounts hne now
  exact ⟨sr.bytes, (mem_onTimerTimeout h).mpr ⟨_, t, sr, hlookup, hsr, rfl⟩,
    reports_of_create hcounts hsr⟩

/-- The octets of a track are right exactly when its headers cancel. -/
theorem CountsAll.octets_iff (ha : CountsAll tracks s) {x : RtpParams × List RtpPacket}
    (hx : x ∈ tracks) :
    UInt32.ofNat (totalSize x.2) = UInt32.ofNat (payloadOctets x.2) ↔ 2 ^ 30 ∣ x.2.length := by
  rw [totalSize_eq (ha.sizes x hx)]
  exact headers_cancel_iff _ _

theorem CountsAll.rightReports_iff (ha : CountsAll tracks s)
    (h : s.onTimerTimeout buffer now = .ok (s', out)) :
    RightReports tracks out ↔ ∀ x ∈ tracks, 2 ^ 30 ∣ x.2.length := by
  constructor
  · intro hright x hx
    by_cases hzero : UInt32.ofNat x.2.length = 0
    · -- nothing is sent, and the number of packets is even a multiple of `2 ^ 32`
      have hmod : x.2.length % 2 ^ 32 = 0 := by
        rw [← UInt32.toNat_ofNat', hzero]
        rfl
      exact Dvd.dvd.trans (by decide) (Nat.dvd_of_mod_eq_zero hmod)
    · obtain ⟨data, hmem, hreport⟩ := ha.reported h hx hzero
      obtain ⟨y, hy, data', heq, hdata⟩ := hright _ hmem
      cases heq
      have hssrc : y.1.ssrc = x.1.ssrc := hdata.ssrc.symm.trans hreport.ssrc
      obtain rfl : y = x := List.inj_on_of_nodup_map ha.distinct hy hx hssrc
      exact (ha.octets_iff hx).mp (hreport.octets.symm.trans hdata.octets)
  · intro hall o ho
    obtain ⟨x, hx, data, rfl, hreport⟩ := ha.reports h o ho
    refine ⟨x, hx, data, rfl, hreport.isSenderReport, hreport.ssrc, hreport.packets, ?_⟩
    rw [hreport.octets, (ha.octets_iff hx).mpr (hall x hx)]

end Ticks

/-! ## The tracks over a run -/

/-- The packetizer that is built for a track. -/
def packetizerOf (params : RtpParams) (rtpBuf : Memory) : AnyPacketizer :=
  match params.mediaType with
  | .video => .new .h264 params.ssrc params.payloadType params.clockRate rtpBuf
  | .audio => .new .opus params.ssrc params.payloadType params.clockRate rtpBuf

/-- The media packets of a kind, in the order of their events. -/
def fed (kind : MediaType) (h : List (Event × List MediaOutput)) : List MediaPacket :=
  h.filterMap fun x => mediaPacket kind x.1

/-- The RTP packets that the packetizer of a track emits for media packets. -/
def emitted (rtpTimestamp : Int → UInt32 → UInt32) (params : RtpParams) (rtpBuf : Memory)
    (packets : List MediaPacket) : Except Fault (List RtpPacket) :=
  (runAll (AnyPacketizer.pack rtpTimestamp) (packetizerOf params rtpBuf) packets).map
    fun r => outputs r.1

theorem fed_snoc (kind : MediaType) (h : List (Event × List MediaOutput)) (e : Event)
    (out : List MediaOutput) :
    fed kind (h ++ [(e, out)]) = fed kind h ++ (mediaPacket kind e).toList := by
  simp only [fed, List.filterMap_append, List.filterMap_cons, List.filterMap_nil]
  cases mediaPacket kind e <;> rfl

/-- The packetizer and the counters of a track are where its media packets
have brought them. -/
structure Follows (rtpTimestamp : Int → UInt32 → UInt32) (params : RtpParams) (rtpBuf : Memory)
    (h : List (Event × List MediaOutput)) (s : MediaStream)
    (packed : List (MediaPacket × List RtpPacket)) (k : AnyPacketizer) : Prop where
  packs : runAll (AnyPacketizer.pack rtpTimestamp) (packetizerOf params rtpBuf)
    (fed params.mediaType h) = .ok (packed, k)
  packetizer : s.packetizer params.mediaType = some k
  counts : s.Counts params (outputs packed)

section Runs

variable {rtpTimestamp : Int → UInt32 → UInt32} {params : RtpParams} {rtpBuf : Memory}
  {h : List (Event × List MediaOutput)} {s s' : MediaStream} {e : Event} {out : List MediaOutput}
  {packed : List (MediaPacket × List RtpPacket)} {k : AnyPacketizer}

/-- The packetizer keeps the SSRC, and its packets are a header and a
payload. -/
theorem Follows.stream (hf : Follows rtpTimestamp params rtpBuf h s packed k) :
    k.base.ssrc = params.ssrc ∧
      ∀ pkt ∈ outputs packed, pkt.size.toNat = kRtpHeaderFixedSize + pkt.payload.length := by
  have hr := (run_of_runAll _ _ _ hf.packs).1
  have hstream : ∃ codec, AnyPacketizer.Stream codec params.ssrc params.payloadType packed ∧
      AnyPacketizer.Continues codec params.ssrc params.payloadType (outputs packed).length k := by
    simp only [packetizerOf] at hr
    split at hr
    · exact ⟨.h264, AnyPacketizer.run_stream hr⟩
    · exact ⟨.opus, AnyPacketizer.run_stream hr⟩
  obtain ⟨codec, hnth, hcontinues⟩ := hstream
  refine ⟨hcontinues.ssrc_eq, ?_⟩
  intro pkt hmem
  obtain ⟨n, hn, rfl⟩ := List.getElem_of_mem hmem
  exact (hnth.nth n hn).size

theorem Follows.emitted (hf : Follows rtpTimestamp params rtpBuf h s packed k) :
    MediaStream.emitted rtpTimestamp params rtpBuf (fed params.mediaType h) =
      .ok (outputs packed) := by
  rw [MediaStream.emitted, hf.packs]
  rfl

/-- One more event; the packetizer of the other kind has another SSRC. -/
theorem Follows.step (hf : Follows rtpTimestamp params rtpBuf h s packed k)
    (hother : ∀ kind, kind ≠ params.mediaType → ∀ k', s.packetizer kind = some k' →
      k'.base.ssrc ≠ params.ssrc)
    (he : adds e = none) (hstep : s.step rtpTimestamp e = .ok (s', out)) :
    ∃ packed' k', Follows rtpTimestamp params rtpBuf (h ++ [(e, out)]) s' packed' k' := by
  rcases step_cases he hstep with
    ⟨kind, packet, pkts, k₁, k₂, hmedia, hsends⟩ | ⟨hmedia, hsame⟩
  · have hssrc : ∀ pkt ∈ pkts, pkt.ssrc = k₁.base.ssrc := fun pkt hpkt =>
      ((AnyPacketizer.packed_of_ok hsends.packs).emits.wellFormed pkt hpkt).2.1
    by_cases hkind : kind = params.mediaType
    · subst hkind
      obtain rfl : k = k₁ := Option.some.inj (hf.packetizer.symm.trans hsends.before)
      have hown : ∀ pkt ∈ pkts, pkt.ssrc = params.ssrc := fun pkt hpkt =>
        (hssrc pkt hpkt).trans hf.stream.1
      refine ⟨packed ++ [(packet, pkts)], k₂, ?_, hsends.after, ?_⟩
      · rw [fed_snoc, hmedia, if_pos rfl]
        exact runAll_snoc hf.packs hsends.packs
      · rw [outputs_snoc]
        exact hsends.own params _ hown hf.counts
    · have hnone : mediaPacket params.mediaType e = none :=
        (hmedia _).trans (if_neg (Ne.symm hkind))
      have hne : ∀ pkt ∈ pkts, pkt.ssrc ≠ params.ssrc := fun pkt hpkt =>
        hssrc pkt hpkt ▸ hother kind hkind k₁ hsends.before
      refine ⟨packed, k, ?_, ?_, ?_⟩
      · rw [fed_snoc, hnone, Option.toList_none, List.append_nil]
        exact hf.packs
      · rw [hsends.otherKind _ (Ne.symm hkind)]
        exact hf.packetizer
      · rw [Counts, hsends.other _ hne]
        exact hf.counts
  · refine ⟨packed, k, ?_, ?_, ?_⟩
    · rw [fed_snoc, hmedia, Option.toList_none, List.append_nil]
      exact hf.packs
    · rw [hsame.packetizer]
      exact hf.packetizer
    · rw [Counts, hsame.senderInfo]
      exact hf.counts

end Runs

/-! ## The two tracks of an answer -/

/-- A media stream with a video and an audio track. -/
def withTracks (video audio : RtpParams) (videoBuf audioBuf : Memory) : MediaStream :=
  (new.addStreamTrack video videoBuf).addStreamTrack audio audioBuf

/-- The tracks stay as they were added. -/
def KeepsTracks (_ : MediaStream) (e : Event) : Prop := adds e = none

section TwoTracks

variable {rtpTimestamp : Int → UInt32 → UInt32} {video audio : RtpParams}
  {videoBuf audioBuf : Memory} {h : List (Event × List MediaOutput)} {s : MediaStream}

theorem follows_new (hv : video.mediaType = .video) (ha : audio.mediaType = .audio)
    (hne : video.ssrc ≠ audio.ssrc) :
    Follows rtpTimestamp video videoBuf [] (withTracks video audio videoBuf audioBuf) []
        (packetizerOf video videoBuf) ∧
      Follows rtpTimestamp audio audioBuf [] (withTracks video audio videoBuf audioBuf) []
        (packetizerOf audio audioBuf) := by
  have hzero (params : RtpParams) :
      SenderInfo.Counts params [] (StreamTrack.new params).senderInfo := ⟨rfl, rfl, rfl⟩
  refine ⟨⟨rfl, ?_, _, ?_, hzero video⟩, ⟨rfl, ?_, _, ?_, hzero audio⟩⟩
  · simp [withTracks, addStreamTrack, packetizer, packetizerOf, AnyPacketizer.new, hv, ha]
  · simp [withTracks, addStreamTrack, senderInfo, hv, ha, AList.lookup_insert_ne hne]
  · simp [withTracks, addStreamTrack, packetizer, packetizerOf, AnyPacketizer.new, hv, ha]
  · simp [withTracks, addStreamTrack, senderInfo, hv, ha]

/-- After every run both tracks count what their packetizers emitted. -/
theorem run_follows (hv : video.mediaType = .video) (ha : audio.mediaType = .audio)
    (hne : video.ssrc ≠ audio.ssrc)
    (hr : Run (step rtpTimestamp) KeepsTracks (withTracks video audio videoBuf audioBuf) h s) :
    Inv [video.ssrc, audio.ssrc] s ∧
      (∃ packed k, Follows rtpTimestamp video videoBuf h s packed k) ∧
      ∃ packed k, Follows rtpTimestamp audio audioBuf h s packed k := by
  refine hr.invariant (I := fun h s => Inv [video.ssrc, audio.ssrc] s ∧
    (∃ packed k, Follows rtpTimestamp video videoBuf h s packed k) ∧
      ∃ packed k, Follows rtpTimestamp audio audioBuf h s packed k) ?_ ?_
  · obtain ⟨hvideo, haudio⟩ := follows_new hv ha hne
    exact ⟨addStreamTrack_inv (addStreamTrack_inv inv_new _ _) _ _, ⟨_, _, hvideo⟩, _, _, haudio⟩
  · rintro h s e s' out ⟨hi, ⟨vpacked, vk, hvideo⟩, apacked, ak, haudio⟩ he hstep
    have hi' := hi.step hstep
    rw [show adds e = none from he, Option.toList_none, List.append_nil] at hi'
    refine ⟨hi', hvideo.step ?_ he hstep, haudio.step ?_ he hstep⟩
    · rintro (_ | _) hkind k hk
      · exact absurd hv.symm hkind
      · obtain rfl : ak = k := by
          have hak := haudio.packetizer
          rw [ha, hk] at hak
          exact (Option.some.inj hak).symm
        rw [haudio.stream.1]
        exact hne.symm
    · rintro (_ | _) hkind k hk
      · obtain rfl : vk = k := by
          have hvk := hvideo.packetizer
          rw [hv, hk] at hvk
          exact (Option.some.inj hvk).symm
        rw [hvideo.stream.1]
        exact hne
      · exact absurd ha.symm hkind

theorem run_countsAll (hv : video.mediaType = .video) (ha : audio.mediaType = .audio)
    (hne : video.ssrc ≠ audio.ssrc)
    (hr : Run (step rtpTimestamp) KeepsTracks (withTracks video audio videoBuf audioBuf) h s) :
    ∃ videoPkts audioPkts,
      emitted rtpTimestamp video videoBuf (fed .video h) = .ok videoPkts ∧
      emitted rtpTimestamp audio audioBuf (fed .audio h) = .ok audioPkts ∧
      CountsAll [(video, videoPkts), (audio, audioPkts)] s := by
  obtain ⟨hi, ⟨vpacked, vk, hvideo⟩, apacked, ak, haudio⟩ := run_follows hv ha hne hr
  refine ⟨outputs vpacked, outputs apacked, hv ▸ hvideo.emitted, ha ▸ haudio.emitted, hi, ?_,
    ?_, ?_⟩
  · simpa using hne
  · rintro x (_ | ⟨_, _ | ⟨_, ⟨⟩⟩⟩)
    · exact hvideo.counts
    · exact haudio.counts
  · rintro x (_ | ⟨_, _ | ⟨_, ⟨⟩⟩⟩)
    · exact hvideo.stream.2
    · exact haudio.stream.2

/-- In every run the reports of a tick are right, with the octets of the
payloads alone, exactly when the number of packets that each track's
packetizer has emitted is a multiple of `2 ^ 30`. -/
theorem run_senderReports_iff (hv : video.mediaType = .video) (ha : audio.mediaType = .audio)
    (hne : video.ssrc ≠ audio.ssrc)
    (hr : Run (step rtpTimestamp) KeepsTracks (withTracks video audio videoBuf audioBuf) h s) :
    ∃ videoPkts audioPkts,
      emitted rtpTimestamp video videoBuf (fed .video h) = .ok videoPkts ∧
      emitted rtpTimestamp audio audioBuf (fed .audio h) = .ok audioPkts ∧
      ∀ buffer now, ∃ out, s.step rtpTimestamp (.timerTimeout buffer now) = .ok (s, out) ∧
        (RightReports [(video, videoPkts), (audio, audioPkts)] out ↔
          2 ^ 30 ∣ videoPkts.length ∧ 2 ^ 30 ∣ audioPkts.length) := by
  obtain ⟨videoPkts, audioPkts, hvideo, haudio, hall⟩ := run_countsAll hv ha hne hr
  refine ⟨videoPkts, audioPkts, hvideo, haudio, ?_⟩
  intro buffer now
  obtain ⟨out, hout⟩ := onTimerTimeout_spec hall.inv buffer now
  refine ⟨out, hout, (hall.rightReports_iff hout).trans ?_⟩
  simp

end TwoTracks

section Samples

/-- The parameters of the audio track in an answer. -/
def opusParams : RtpParams where
  mediaType := .audio
  ssrc := 87654321
  clockRate := 48000
  payloadType := 111
  rtxSsrc := 0
  rtxPayloadType := 0
  isRtxEnabled := false
  isNackEnable := true

/-- An Opus frame of three bytes. -/
def opusFrame : MediaPacket where
  data := Memory.ofList [0xFC, 0xFF, 0xFE]
  size := 3
  timestampMillis := 20
  size_lt := by decide

def bothTracks : MediaStream :=
  withTracks StreamTrack.videoParams opusParams (fun _ => 0) fun _ => 0

/-- The frame, sent at 1000. -/
def sendFrame : Event := .receiveOpusPacket (fun _ => 0) (fun _ => 1000) opusFrame

/-- Its one packet: a header of twelve bytes and the frame. -/
def framePacket : ByteString :=
  [0x80, 0xEF, 0, 0, 0, 0, 3, 0xC0, 5, 0x39, 0x7F, 0xB1, 0xFC, 0xFF, 0xFE]

theorem sendFrame_run :
    ∃ s, Run (step exactTimestamp) KeepsTracks bothTracks
      ([] ++ [(sendFrame, [.rtpPacketSend framePacket])]) s :=
  ⟨_, .snoc .nil rfl rfl⟩

/-- The frame has been sent. -/
theorem run_senderReports_iff_sendFrame :
    ∃ h s videoPkts audioPkts, Run (step exactTimestamp) KeepsTracks bothTracks h s ∧
      emitted exactTimestamp StreamTrack.videoParams (fun _ => 0) (fed .video h) = .ok videoPkts ∧
      emitted exactTimestamp opusParams (fun _ => 0) (fed .audio h) = .ok audioPkts ∧
      ∀ buffer now, ∃ out, s.step exactTimestamp (.timerTimeout buffer now) = .ok (s, out) ∧
        (RightReports [(StreamTrack.videoParams, videoPkts), (opusParams, audioPkts)] out ↔
          2 ^ 30 ∣ videoPkts.length ∧ 2 ^ 30 ∣ audioPkts.length) := by
  obtain ⟨s, hr⟩ := sendFrame_run
  obtain ⟨videoPkts, audioPkts, hvideo, haudio, hticks⟩ :=
    run_senderReports_iff rfl rfl (by decide) hr
  exact ⟨_, s, videoPkts, audioPkts, hr, hvideo, haudio, hticks⟩

/-- The report of the tick at 1200: one packet, and fifteen octets. -/
def frameReport : ByteString :=
  [0x80, 200, 0, 6, 5, 0x39, 0x7F, 0xB1, 0, 0, 0, 1, 0x33, 0x33, 0x33, 0x33, 0, 0, 0x29, 0x40,
    0, 0, 0, 1, 0, 0, 0, 15]

/-- One packet with a payload of three octets is reported with fifteen. -/
theorem frameReport_not_right :
    ∃ h s pkt, Run (step exactTimestamp) KeepsTracks bothTracks h s ∧
      emitted exactTimestamp StreamTrack.videoParams (fun _ => 0) (fed .video h) = .ok [] ∧
      emitted exactTimestamp opusParams (fun _ => 0) (fed .audio h) = .ok [pkt] ∧
      pkt.payload = [0xFC, 0xFF, 0xFE] ∧
      s.step exactTimestamp (.timerTimeout (fun _ => 0) 1200) =
        .ok (s, [.rtcpPacketSend frameReport]) ∧
      ¬ RightReports [(StreamTrack.videoParams, []), (opusParams, [pkt])]
        [.rtcpPacketSend frameReport] := by
  refine ⟨_, _, _, .snoc .nil (show KeepsTracks bothTracks sendFrame from rfl) rfl, rfl, rfl,
    by decide, rfl, ?_⟩
  intro hright
  obtain ⟨x, hx, data, heq, hdata⟩ := hright _ List.mem_cons_self
  cases heq
  rcases List.mem_cons.mp hx with rfl | hx
  · exact absurd hdata.ssrc (by decide)
  · obtain rfl := List.mem_singleton.mp hx
    exact absurd hdata.octets (by decide)

end Samples

end MediaStream

end WebrtcServer
