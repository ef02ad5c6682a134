/-
# `LossRecovery` — what reaches a receiver over a lossy network

The receiver gets some of the packets that a media stream sends, in any
order.  Whatever it gets, in any run and resent packets included, it reads
as a packet that a packetizer emitted, for the one track that it is of
(`run_genuine`).  And what it missed of a frame it can ask for: the answer
to its NACKs together with what arrived gives back the units of the frame
(`frame_recovered`).
-/
import WebrtcServer.RtpReceiver

namespace WebrtcServer

open Lib

/-! ## Putting a frame together -/

/-- The payload kept under a number. -/
def payloadOf (got : List KeptPacket) (number : UInt16) : Option ByteString :=
  (got.find? fun k => k.number = number).map KeptPacket.payload

/-- The payloads of `n` packets, numbered from `first` on. -/
def reassemble (got : List KeptPacket) (first : UInt16) : Nat → Option (List ByteString)
  | 0 => some []
  | n + 1 => do
      let payload ← payloadOf got first
      let rest ← reassemble got (first + 1) n
      some (payload :: rest)

theorem payloadOf_eq {got : List KeptPacket} {p : RtpPacket} (hkept : p.kept ∈ got)
    (hown : ∀ k ∈ got, k.number = p.sequenceNumber → k = p.kept) :
    payloadOf got p.sequenceNumber = some p.payload := by
  have hsome : (got.find? fun k => k.number = p.sequenceNumber).isSome = true := by
    rw [List.find?_isSome]
    exact ⟨_, hkept, by simp [RtpPacket.kept]⟩
  obtain ⟨k, hk⟩ := Option.isSome_iff_exists.mp hsome
  have hnumber : k.number = p.sequenceNumber := by simpa using List.find?_some hk
  rw [payloadOf, hk, hown k (List.mem_of_find?_eq_some hk) hnumber]
  rfl

/-- A frame is put together if all its packets are kept and nothing else is
kept under their numbers. -/
theorem reassemble_eq {got : List KeptPacket} {first : UInt16} {frame : List RtpPacket}
    (hnum : ∀ i (hi : i < frame.length), frame[i].sequenceNumber = first + UInt16.ofNat i)
    (hall : ∀ p ∈ frame, p.kept ∈ got)
    (hown : ∀ k ∈ got, ∀ p ∈ frame, k.number = p.sequenceNumber → k = p.kept) :
    reassemble got first frame.length = some (frame.map RtpPacket.payload) := by
  induction frame generalizing first with
  | nil => rfl
  | cons p frame ih =>
      obtain ⟨hp, hrest⟩ := List.forall_mem_cons.mp hall
      have hfirst : p.sequenceNumber = first := by
        simpa using hnum 0 (Nat.succ_pos _)
      have hpayload := payloadOf_eq hp fun k hk => hown k hk p List.mem_cons_self
      have hnext := @ih (first + 1) (fun i hi => by
          have hi' := hnum (i + 1) (Nat.succ_lt_succ hi)
          rw [List.getElem_cons_succ] at hi'
          rw [hi', UInt16.ofNat_add, UInt16.add_assoc, UInt16.add_comm 1]
          rfl) hrest fun k hk q hq => hown k hk q (List.mem_cons_of_mem p hq)
      rw [hfirst] at hpayload
      simp only [List.length_cons, reassemble, hpayload, hnext]
      rfl

namespace StreamTrack

/-- A recent packet is the latest of its slot. -/
theorem latest_recent {params : RtpParams} {ws : List RtpPacket} {t : StreamTrack} {s₀ : UInt16}
    (hb : Buffered params ws t) (hn : Numbered s₀ ws) (hwrap : ¬ WrapCollides s₀ ws.length)
    {i : Nat} (hi : i < ws.length) (hlast : ws.length ≤ i + kSendBufferCapacity) :
    latest ws (slotOf ws[i].sequenceNumber) = some ws[i] ∧
      ∃ pkt, t.sendBuffer (slotOf ws[i].sequenceNumber) = some pkt ∧ Stores params ws[i] pkt := by
  obtain ⟨pkt, hpkt, hstores⟩ := (hb.holdsRecent_iff hn).mpr hwrap i hi (by omega)
  obtain ⟨q, hq, -, hstores'⟩ := hb.some_of_slot hpkt
  refine ⟨?_, pkt, hpkt, hstores⟩
  obtain ⟨m, hm, rfl, -, hlater⟩ := latestIn_eq_some_iff_getElem.mp hq
  have hseq : ws[m].sequenceNumber = ws[i].sequenceNumber := by
    rw [← hstores'.sequenceNumber, hstores.sequenceNumber]
  -- a later packet of the slot would have another number
  have hmi : m = i := by
    rcases Nat.lt_trichotomy m i with hlt | heq | hgt
    · exact absurd rfl (hlater i hi hlt)
    · exact heq
    · refine absurd hseq (hn.ne hgt hm ?_)
      simp only [kSendBufferCapacity] at hlast
      omega
  subst hmi
  exact hq

end StreamTrack

namespace MediaStream

section Genuine

variable {rtpTimestamp : Int → UInt32 → UInt32} {video audio : RtpParams}
  {videoBuf audioBuf : Memory} {h : List (Event × List MediaOutput)} {s : MediaStream}
  {log : List TrackCall} {out : List MediaOutput} {s₀ : MediaStream} {params : RtpParams}

theorem family_withTracks (video audio : RtpParams) (videoBuf audioBuf : Memory) :
    family (withTracks video audio videoBuf audioBuf) =
      Function.update (Function.update (fun _ => none) video.ssrc (some (.new video)))
        audio.ssrc (some (.new audio)) := by
  have hadd : ∀ (s : MediaStream) (params : RtpParams) (rtpBuf : Memory),
      family (s.addStreamTrack params rtpBuf) =
        Function.update s.family params.ssrc (some (.new params)) := by
    intro s params rtpBuf
    cases hkind : params.mediaType <;>
      · simp only [addStreamTrack, hkind]
        exact family_insert _ _ _
  rw [withTracks, hadd, hadd]
  rfl

theorem family_video (hne : video.ssrc ≠ audio.ssrc) :
    family (withTracks video audio videoBuf audioBuf) video.ssrc = some (.new video) := by
  rw [family_withTracks, Function.update_of_ne hne, Function.update_self]

theorem family_audio :
    family (withTracks video audio videoBuf audioBuf) audio.ssrc = some (.new audio) := by
  rw [family_withTracks, Function.update_self]

/-- The two tracks are all members. -/
theorem key_of_member {ssrc : UInt32}
    (h : (family (withTracks video audio videoBuf audioBuf) ssrc).isSome = true) :
    ssrc = video.ssrc ∨ ssrc = audio.ssrc := by
  by_contra hnone
  obtain ⟨hvideo, haudio⟩ := not_or.mp hnone
  rw [family_withTracks, Function.update_of_ne haudio, Function.update_of_ne hvideo] at h
  cases h

theorem sent_subset_received (params : RtpParams)
    (h : List (StreamTrack.Event × List Resent)) :
    ∀ p ∈ StreamTrack.sent params h, p ∈ StreamTrack.received h := by
  intro p hp
  obtain ⟨⟨e, out⟩, hmem, he⟩ := List.mem_filterMap.mp hp
  refine List.mem_filterMap.mpr ⟨_, hmem, ?_⟩
  cases e with
  | receivePacket heap now pkt =>
      simp only [StreamTrack.accepted] at he
      split at he
      · exact he
      · cases he
  | receiveNack clock nack => cases he
  | receiveReceiverReport now block => cases he

/-- The packets of a track reach the wire in their order. -/
theorem own_sublist (log : List TrackCall) (ssrc : UInt32) :
    ((StreamTrack.received (own ssrc log)).map RtpPacket.bytes).Sublist (log.flatMap wire) := by
  induction log with
  | nil => exact List.Sublist.slnil
  | cons c log ih =>
      obtain ⟨key, e, resent⟩ := c
      rw [List.flatMap_cons]
      by_cases heq : key = ssrc
      · subst heq
        rw [own_cons_self]
        cases hh : StreamTrack.handed e with
        | none =>
            simp only [StreamTrack.received, List.filterMap_cons, hh]
            exact List.sublist_append_of_sublist_right ih
        | some pkt =>
            simp only [StreamTrack.received, List.filterMap_cons, hh, List.map_cons, wire,
              Option.map_some, Option.toList_some, List.cons_append]
            exact (List.sublist_append_of_sublist_right ih).cons_cons _
      · rw [own_cons_ne heq]
        exact List.sublist_append_of_sublist_right ih

/-- What a call of a track puts on the wire is read as a packet handed to
it. -/
theorem Plays.reads (hplays : Plays s₀ log out s) (hnew : s₀.family params.ssrc = some (.new params))
    (hne : params.isRtxEnabled = true → params.rtxSsrc ≠ params.ssrc) {c : TrackCall}
    (hc : c ∈ log) (hkey : c.key = params.ssrc) {data : ByteString} (hdata : data ∈ wire c) :
    ∃ p ∈ StreamTrack.received (own params.ssrc log), receive params data = some p.kept := by
  obtain ⟨t, -, hr⟩ := hplays.calls.run hnew
  have hown := mem_own hc
  rw [hkey] at hown
  rcases List.mem_append.mp hdata with hfirst | hagain
  · obtain ⟨pkt, hpkt, rfl⟩ := Option.map_eq_some_iff.mp (Option.mem_toList.mp hfirst)
    have hssrc := (hplays.keys c hc pkt hpkt).trans hkey
    obtain ⟨before, after, hsplit⟩ := List.append_of_mem hown
    have hwf : pkt.WellFormed := by
      obtain ⟨u, u', -, he, -⟩ := (hsplit ▸ hr).step_at
      cases hev : c.event with
      | receivePacket heap now pkt' =>
          rw [hev] at hpkt he
          cases hpkt
          exact he heap now pkt rfl
      | receiveNack clock nack =>
          rw [hev] at hpkt
          cases hpkt
      | receiveReceiverReport now block =>
          rw [hev] at hpkt
          cases hpkt
    exact ⟨pkt, List.mem_filterMap.mpr ⟨_, hown, hpkt⟩, receive_original hwf hssrc⟩
  · obtain ⟨r, hrmem, rfl⟩ := List.mem_map.mp hagain
    have hrout : r ∈ outputs (own params.ssrc log) := List.mem_flatMap.mpr ⟨_, hown, hrmem⟩
    obtain ⟨p, hp, hread⟩ := StreamTrack.run_reads hne hr r hrout
    exact ⟨p, sent_subset_received _ _ p hp, hread⟩

/-- The SSRCs of the two tracks and of the RTX streams that they have differ. -/
def SsrcsDiffer (video audio : RtpParams) : Prop := (video.ssrcs ++ audio.ssrcs).Nodup

theorem SsrcsDiffer.disjoint (h : SsrcsDiffer video audio) :
    video.ssrcs.Disjoint audio.ssrcs :=
  List.disjoint_of_nodup_append h

theorem SsrcsDiffer.ssrc_ne (h : SsrcsDiffer video audio) : video.ssrc ≠ audio.ssrc := by
  intro heq
  refine h.disjoint (a := video.ssrc) List.mem_cons_self ?_
  rw [heq]
  exact List.mem_cons_self

/-- A track with RTX has two SSRCs. -/
theorem rtxSsrc_ne (hnodup : params.ssrcs.Nodup) (hrtx : params.isRtxEnabled = true) :
    params.rtxSsrc ≠ params.ssrc := by
  rw [RtpParams.ssrcs, if_pos hrtx, List.nodup_cons, List.mem_singleton] at hnodup
  exact fun heq => hnodup.1 heq.symm

theorem SsrcsDiffer.rtx_ne (h : SsrcsDiffer video audio) :
    (video.isRtxEnabled = true → video.rtxSsrc ≠ video.ssrc) ∧
      (audio.isRtxEnabled = true → audio.rtxSsrc ≠ audio.ssrc) :=
  ⟨rtxSsrc_ne h.of_append_left, rtxSsrc_ne h.of_append_right⟩

/-- What is read for one track is not read for the other. -/
theorem SsrcsDiffer.receive_one (h : SsrcsDiffer video audio) (data : ByteString) :
    receive video data = none ∨ receive audio data = none := by
  simp only [receive_eq_none_iff]
  by_contra hboth
  obtain ⟨hvideo, haudio⟩ := not_or.mp hboth
  exact h.disjoint (not_not.mp hvideo) (not_not.mp haudio)

/-- Everything on the wire is read as a packet handed to the one track that
it is of. -/
theorem Plays.reads_one (hssrcs : SsrcsDiffer video audio)
    (hplays : Plays (withTracks video audio videoBuf audioBuf) log out s) {c : TrackCall}
    (hc : c ∈ log) {data : ByteString} (hdata : data ∈ wire c) :
    (c.key = video.ssrc ∧ receive audio data = none ∧
      ∃ p ∈ StreamTrack.received (own video.ssrc log), receive video data = some p.kept) ∨
    (c.key = audio.ssrc ∧ receive video data = none ∧
      ∃ p ∈ StreamTrack.received (own audio.ssrc log), receive audio data = some p.kept) := by
  rcases key_of_member (hplays.calls.member c hc) with hkey | hkey
  · obtain ⟨p, hp, hread⟩ := hplays.reads (family_video hssrcs.ssrc_ne)
      hssrcs.rtx_ne.1 hc hkey hdata
    refine Or.inl ⟨hkey, ?_, p, hp, hread⟩
    exact (hssrcs.receive_one data).resolve_left (by simp [hread])
  · obtain ⟨p, hp, hread⟩ := hplays.reads family_audio hssrcs.rtx_ne.2 hc hkey hdata
    refine Or.inr ⟨hkey, ?_, p, hp, hread⟩
    exact (hssrcs.receive_one data).resolve_right (by simp [hread])

/-- The packets handed to the tracks are sent in their order, and everything
that is sent is read as one of them. -/
theorem Plays.genuine (hssrcs : SsrcsDiffer video audio)
    (hplays : Plays (withTracks video audio videoBuf audioBuf) log out s) :
    ((StreamTrack.received (own video.ssrc log)).map RtpPacket.bytes).Sublist (rtpSends out) ∧
      ((StreamTrack.received (own audio.ssrc log)).map RtpPacket.bytes).Sublist (rtpSends out) ∧
      ∀ data ∈ rtpSends out,
        (receive audio data = none ∧
          ∃ p ∈ StreamTrack.received (own video.ssrc log), receive video data = some p.kept) ∨
        (receive video data = none ∧
          ∃ p ∈ StreamTrack.received (own audio.ssrc log), receive audio data = some p.kept) := by
  rw [hplays.sends]
  refine ⟨own_sublist log _, own_sublist log _, fun data hdata => ?_⟩
  obtain ⟨c, hc, hwire⟩ := List.mem_flatMap.mp hdata
  exact (hplays.reads_one hssrcs hc hwire).imp And.right And.right

/-- In every run the packets that the packetizers emit are sent in their
order, and everything that is sent, resent packets included, is read as a
packet emitted for the one track that it is of. -/
theorem run_genuine (hv : video.mediaType = .video) (ha : audio.mediaType = .audio)
    (hssrcs : SsrcsDiffer video audio)
    (hr : Run (step rtpTimestamp) KeepsTracks (withTracks video audio videoBuf audioBuf) h s) :
    ∃ videoPkts audioPkts,
      emitted rtpTimestamp video videoBuf (fed .video h) = .ok videoPkts ∧
      emitted rtpTimestamp audio audioBuf (fed .audio h) = .ok audioPkts ∧
      (videoPkts.map RtpPacket.bytes).Sublist (rtpSends (outputs h)) ∧
      (audioPkts.map RtpPacket.bytes).Sublist (rtpSends (outputs h)) ∧
      ∀ data ∈ rtpSends (outputs h),
        (receive audio data = none ∧ ∃ p ∈ videoPkts, receive video data = some p.kept) ∨
        (receive video data = none ∧ ∃ p ∈ audioPkts, receive audio data = some p.kept) := by
  obtain ⟨log, hplays, hvideo, haudio⟩ := run_plays hv ha hssrcs.ssrc_ne hr
  exact ⟨_, _, hvideo, haudio, hplays.genuine hssrcs⟩

end Genuine

/-! ## A frame asked for again -/

section Frames

variable {rtpTimestamp : Int → UInt32 → UInt32} {video audio : RtpParams}
  {videoBuf audioBuf : Memory} {h pre post : List (Event × List MediaOutput)} {s : MediaStream}

theorem receiveH264Packet_rtpSends {s' : MediaStream} {heap : Memory} {clock : Nat → UInt64}
    {packet : MediaPacket} {out : List MediaOutput} {k : AnyPacketizer}
    (hk : s.packetizer .video = some k)
    (h : s.receiveH264Packet rtpTimestamp heap clock packet = .ok (s', out)) :
    ∃ k' pkts, k.pack rtpTimestamp packet = .ok (k', pkts) ∧
      rtpSends out = pkts.map RtpPacket.bytes ∧ k.codec = .h264 := by
  obtain ⟨pkts, k₁, k', s₁, hp⟩ := receiveH264Packet_packs h
  obtain rfl : k₁ = k := Option.some.inj (hp.before.symm.trans hk)
  have hcodec : k₁.codec = .h264 := by
    have hmap : s.h264Packetizer.map .h264 = some k₁ := hk
    obtain ⟨_, -, rfl⟩ := Option.map_eq_some_iff.mp hmap
    rfl
  exact ⟨k', pkts, hp.packs, hp.plays.1, hcodec⟩

/-- The packets of a frame among all that are emitted in a run: where they
stand, how they are numbered, and what they carry. -/
theorem run_frame (hv : video.mediaType = .video) (ha : audio.mediaType = .audio)
    (hne : video.ssrc ≠ audio.ssrc)
    (hr : Run (step rtpTimestamp) KeepsTracks (withTracks video audio videoBuf audioBuf) h s)
    {heap : Memory} {clock : Nat → UInt64} {packet : MediaPacket} {frameOut : List MediaOutput}
    (hh : h = pre ++ (.receiveH264Packet heap clock packet, frameOut) :: post) :
    ∃ before frame after,
      emitted rtpTimestamp video videoBuf (fed .video h) = .ok (before ++ frame ++ after) ∧
      StreamTrack.Numbered 0 (before ++ frame ++ after) ∧
      rtpSends frameOut = frame.map RtpPacket.bytes ∧
      AnyPacketizer.Carries .h264 packet frame := by
  subst hh
  obtain ⟨u, u', hu, -, hstep⟩ := hr.step_at
  obtain ⟨-, ⟨packed, k, hf⟩, -⟩ := run_follows hv ha hne hu
  obtain ⟨-, ⟨packed', k', hf'⟩, -⟩ := run_follows hv ha hne hr
  have hpacks := hf.packs
  have hpacks' := hf'.packs
  have hk := hf.packetizer
  rw [hv] at hpacks hpacks' hk
  obtain ⟨k₁, pkts, hpack, hsends, hcodec⟩ := receiveH264Packet_rtpSends hk hstep
  -- the packetizer packs the media packets before the frame, the frame, and the rest
  have hfed : fed .video (pre ++ (.receiveH264Packet heap clock packet, frameOut) :: post) =
      (fed .video pre ++ [packet]) ++ fed .video post := by
    simp [fed, mediaPacket]
  rw [hfed] at hpacks'
  obtain ⟨h₁, h₂, k₂, hfirst, -, rfl⟩ := runAll_append hpacks'
  rw [runAll_snoc hpacks hpack] at hfirst
  cases hfirst
  have hr' := (run_of_runAll _ _ _ hf'.packs).1
  have hnew : packetizerOf video videoBuf =
      .new .h264 video.ssrc video.payloadType video.clockRate videoBuf := by
    rw [packetizerOf, hv]
  rw [hnew] at hr'
  obtain ⟨hstream, -⟩ := AnyPacketizer.run_stream hr'
  have houts : outputs (packed ++ [(packet, pkts)] ++ h₂) =
      outputs packed ++ pkts ++ outputs h₂ := by
    rw [outputs_append, outputs_snoc]
  refine ⟨outputs packed, pkts, outputs h₂, ?_, ?_, hsends, ?_⟩
  · rw [← houts]
    exact hv ▸ hf'.emitted
  · rw [← houts]
    intro i hi
    obtain ⟨hheader, hwf, -, -⟩ := hstream.nth i hi
    rw [← hwf.sequenceNumber_eq, hheader, UInt16.zero_add]
  · exact hcodec ▸ (AnyPacketizer.packed_of_ok hpack).carries

/-- The packet `p` is asked for by a NACK among `ps`, and what is stored of
it was never resent and is not too old. -/
structure AskedFor (video : RtpParams) (t : StreamTrack) (ps : List RtcpPacket)
    (p : RtpPacket) : Prop where
  listed : ∃ rtcp ∈ ps, ∃ nack, IsNack rtcp nack ∧ nack.mediaSsrc = video.ssrc ∧
    p.sequenceNumber ∈ nack.lost
  ready : ∀ pkt, t.sendBuffer (slotOf p.sequenceNumber) = some pkt →
    pkt.resentMillisecs = 0 ∧ t.tooOld pkt = false

/-- The `i`-th packet of a frame among all packets. -/
theorem getElem_frame (before after : List RtpPacket) {frame : List RtpPacket} {i : Nat}
    (hi : i < frame.length) :
    ∃ hlt : before.length + i < (before ++ frame ++ after).length,
      (before ++ frame ++ after)[before.length + i] = frame[i] := by
  refine ⟨by simp only [List.length_append]; omega, ?_⟩
  rw [List.getElem_append_left (by simp [hi]), List.getElem_append_right (by omega)]
  simp

/-- The video track after a run: it has been handed, and has kept, what was
emitted. -/
theorem run_video (hv : video.mediaType = .video) (ha : audio.mediaType = .audio)
    (hne : video.ssrc ≠ audio.ssrc) (hnack : video.isNackEnable = true)
    (hr : Run (step rtpTimestamp) KeepsTracks (withTracks video audio videoBuf audioBuf) h s)
    {ws : List RtpPacket}
    (hws : emitted rtpTimestamp video videoBuf (fed .video h) = .ok ws) :
    ∃ log t, Plays (withTracks video audio videoBuf audioBuf) log (outputs h) s ∧
      s.family video.ssrc = some t ∧
      Run StreamTrack.step StreamTrack.SendsWellFormed (.new video) (own video.ssrc log) t ∧
      StreamTrack.sent video (own video.ssrc log) = ws := by
  obtain ⟨log, hplays, hvideo, -⟩ := run_plays hv ha hne hr
  obtain ⟨t, ht, hrun⟩ := hplays.calls.run (family_video hne)
  refine ⟨log, t, hplays, ht, hrun, ?_⟩
  rw [← Except.ok.inj (hvideo.symm.trans hws)]
  refine StreamTrack.sent_eq_received hnack fun pkt hpkt => ?_
  rw [hplays.received_own] at hpkt
  simpa using (List.mem_filter.mp hpkt).2

/-- What a compound of RTCP packets makes of the video track: it answers
every NACK for it, with packets that stood in its buffer, and nothing is
handed to it meanwhile. -/
theorem receiveRctp_answers {log : List TrackCall} {t : StreamTrack} {ws : List RtpPacket}
    (hrtx : video.isRtxEnabled = true → video.rtxSsrc ≠ video.ssrc)
    (hnack : video.isNackEnable = true) (ht : s.family video.ssrc = some t)
    (hrun : Run StreamTrack.step StreamTrack.SendsWellFormed (.new video)
      (own video.ssrc log) t)
    (hsent : StreamTrack.sent video (own video.ssrc log) = ws) {clocks : Nat → Nat → UInt64}
    {data : Memory} {len : Nat} {s' : MediaStream} {out : List MediaOutput}
    (hstep : s.receiveRctp clocks data len = .ok (s', out)) :
    ∃ log', Plays s log' out s' ∧
      (∀ c ∈ log', wire c = c.out.map Resent.bytes) ∧
      (∀ c ∈ log', c.key = video.ssrc → ∀ r ∈ c.out, StreamTrack.ReadsLatest video ws r) ∧
      ∀ ps, RtcpCompound.parse data len = some ps → ∀ p, AskedFor video t ps p →
        ∀ pkt, t.sendBuffer (slotOf p.sequenceNumber) = some pkt →
          ∃ c ∈ log', c.key = video.ssrc ∧
            ∃ r ∈ c.out, r.pkt.sequenceNumber = pkt.sequenceNumber := by
  obtain ⟨log', hplays', hgen, hcalled⟩ := receiveRctp_plays hstep
  obtain ⟨t', -, hrun'⟩ := hplays'.calls.run ht
  have hhanded : ∀ c ∈ log', StreamTrack.handed c.event = none :=
    List.filterMap_eq_nil_iff.mp hgen
  have hquiet : StreamTrack.Quiet (own video.ssrc log') := by
    intro x hx
    obtain ⟨c, hc, heq⟩ := List.mem_filterMap.mp hx
    obtain ⟨-, heq⟩ := Option.ite_none_right_eq_some.mp heq
    cases heq
    exact hhanded c hc
  have hparams := (StreamTrack.run_buffered hrun).1.params_eq
  have hreads := StreamTrack.run_readsLatest hrtx (hrun.trans hrun') hquiet
  refine ⟨log', hplays', ?_, ?_, ?_⟩
  · intro c hc
    simp [wire, hhanded c hc]
  · intro c hc hkey r hr
    exact hsent ▸ hreads r (mem_outputs_own.mpr ⟨c, hc, hkey, hr⟩)
  · rintro ps hparse p ⟨⟨rtcp, hrtcp, nack, hisNack, hmedia, hlost⟩, hready⟩ pkt hpkt
    obtain ⟨hfresh, hage⟩ := hready pkt hpkt
    obtain ⟨clock, resent, hcall⟩ := hcalled ps hparse rtcp hrtcp nack hisNack
    have hown := mem_own hcall
    simp only [hmedia] at hown
    obtain ⟨r, hr, hseq⟩ := StreamTrack.run_answers hrun' hquiet hpkt hfresh hage
      (hparams ▸ hnack) hown (hparams ▸ hmedia) hlost
    obtain ⟨c, hc, hkey, hrc⟩ := mem_outputs_own.mp hr
    exact ⟨c, hc, hkey, r, hrc, hseq⟩

/-- A video frame that a receiver gets in part is complete after one round
of NACKs, as long as it is among the last `kSendBufferCapacity` packets of
the track and their numbers share no slot: what arrived and the answer,
read and put together by number, give its units. -/
theorem frame_recovered (hv : video.mediaType = .video) (ha : audio.mediaType = .audio)
    (hssrcs : SsrcsDiffer video audio) (hnack : video.isNackEnable = true)
    (hr : Run (step rtpTimestamp) KeepsTracks (withTracks video audio videoBuf audioBuf) h s)
    {heap : Memory} {clock : Nat → UInt64} {packet : MediaPacket} {frameOut : List MediaOutput}
    (hh : h = pre ++ (.receiveH264Packet heap clock packet, frameOut) :: post)
    (hunits : ∀ unit ∈ H264RtpPacketizer.units packet, IsNalUnit unit) :
    ∃ before frame after,
      emitted rtpTimestamp video videoBuf (fed .video h) = .ok (before ++ frame ++ after) ∧
      rtpSends frameOut = frame.map RtpPacket.bytes ∧
      (frame.length + after.length ≤ kSendBufferCapacity →
        ¬ StreamTrack.WrapCollides 0 (before ++ frame ++ after).length →
        ∀ (arrived : List ByteString) (clocks : Nat → Nat → UInt64) (data : Memory) (len : Nat)
          (ps : List RtcpPacket),
          (∀ bytes ∈ arrived, bytes ∈ rtpSends frameOut) →
          RtcpCompound.parse data len = some ps → NacksKnown s (.receiveRctp clocks data len) →
          (∀ t, s.family video.ssrc = some t → ∀ p ∈ frame, p.bytes ∉ arrived →
            AskedFor video t ps p) →
          ∃ s' out, s.step rtpTimestamp (.receiveRctp clocks data len) = .ok (s', out) ∧
            (reassemble ((arrived ++ rtpSends out).filterMap (receive video))
              (UInt16.ofNat before.length) frame.length).bind depacketize =
                some (H264RtpPacketizer.units packet)) := by
  have hne := hssrcs.ssrc_ne
  obtain ⟨before, frame, after, hemitted, hnumbered, hsends, groups, hgroups, hcarries⟩ :=
    run_frame hv ha hne hr hh
  refine ⟨before, frame, after, hemitted, hsends, ?_⟩
  intro hlast hwrap arrived clocks data len ps harrived hparse hknown hasked
  obtain ⟨log, t, hplays, ht, hrun, hsent⟩ := run_video hv ha hne hnack hr hemitted
  have hb := (StreamTrack.run_buffered hrun).1
  rw [hsent] at hb
  obtain ⟨s', out, hstep⟩ : ∃ s' out, s.receiveRctp clocks data len = .ok (s', out) := by
    rcases receiveRctp_spec (run_follows hv ha hne hr).1 clocks data len with
      ⟨-, s', out, hok, -⟩ | ⟨hunknown, -⟩
    · exact ⟨s', out, hok⟩
    · exact absurd hknown hunknown
  obtain ⟨log', hplays', hwires, hreads, hanswers⟩ :=
    receiveRctp_answers hssrcs.rtx_ne.1 hnack ht hrun hsent hstep
  -- the packets of the frame are recent, and a packet with such a number is the one
  have hrecent : ∀ p ∈ frame, receive video p.bytes = some p.kept ∧
      StreamTrack.latest (before ++ frame ++ after) (slotOf p.sequenceNumber) = some p ∧
      ∃ pkt, t.sendBuffer (slotOf p.sequenceNumber) = some pkt ∧
        pkt.sequenceNumber = p.sequenceNumber := by
    intro p hp
    have hmem : p ∈ before ++ frame ++ after := by simp [hp]
    obtain ⟨i, hi, rfl⟩ := List.getElem_of_mem hp
    obtain ⟨hlt, hget⟩ := getElem_frame before after hi
    obtain ⟨hlatest, pkt, hpkt, hstores⟩ := StreamTrack.latest_recent hb hnumbered hwrap hlt (by
      simp only [List.length_append]
      omega)
    rw [hget] at hlatest hpkt hstores
    have hssrc := StreamTrack.sent_ssrc (h := own video.ssrc log) (hsent ▸ hmem)
    exact ⟨receive_original (hb.wellFormed _ hmem) hssrc, hlatest, pkt, hpkt,
      hstores.sequenceNumber⟩
  have hsame : ∀ p ∈ frame, ∀ q, StreamTrack.latest (before ++ frame ++ after)
      (slotOf q.sequenceNumber) = some q → q.sequenceNumber = p.sequenceNumber → q = p := by
    intro p hp q hq hseq
    rw [hseq, (hrecent p hp).2.1] at hq
    exact (Option.some.inj hq).symm
  refine ⟨s', out, hstep, ?_⟩
  have hassembled : reassemble ((arrived ++ rtpSends out).filterMap (receive video))
      (UInt16.ofNat before.length) frame.length = some (frame.map RtpPacket.payload) :=
    reassemble_eq ?number ?complete ?sound
  · rw [hassembled, Option.bind_some, hgroups]
    simp only [depacketize, Depacketizer.start,
      H264RtpPacketizer.feedAll_units hcarries hunits, List.nil_append]
  case number =>
    intro i hi
    obtain ⟨hlt, hget⟩ := getElem_frame before after hi
    rw [← hget, hnumbered _ hlt, UInt16.zero_add, UInt16.ofNat_add]
  case complete =>
    intro p hp
    obtain ⟨hread, -, pkt, hpkt, hseq⟩ := hrecent p hp
    by_cases harr : p.bytes ∈ arrived
    · exact List.mem_filterMap.mpr ⟨_, List.mem_append_left _ harr, hread⟩
    · obtain ⟨c, hc, hkey, r, hr, hrseq⟩ :=
        hanswers ps hparse p (hasked t ht p hp harr) pkt hpkt
      obtain ⟨q, hq, hqseq, hread'⟩ := hreads c hc hkey r hr
      obtain rfl := hsame p hp q hq (by rw [← hqseq, hrseq, hseq])
      refine List.mem_filterMap.mpr ⟨r.bytes, List.mem_append_right _ ?_, hread'⟩
      rw [hplays'.sends]
      exact List.mem_flatMap.mpr ⟨c, hc, hwires c hc ▸ List.mem_map_of_mem hr⟩
  case sound =>
    intro k hk p hp hnumber
    obtain ⟨bytes, hbytes, hread⟩ := List.mem_filterMap.mp hk
    rcases List.mem_append.mp hbytes with hfirst | hagain
    · obtain ⟨q, hq, rfl⟩ := List.mem_map.mp (hsends ▸ harrived bytes hfirst)
      obtain ⟨hread', hlatest, -⟩ := hrecent q hq
      rw [hread'] at hread
      cases hread
      rw [hsame p hp q hlatest hnumber]
    · rw [hplays'.sends] at hagain
      obtain ⟨c, hc, hwire⟩ := List.mem_flatMap.mp hagain
      rcases (hplays.trans hplays').reads_one hssrcs (List.mem_append_right _ hc) hwire with
        ⟨hkey, -⟩ | ⟨-, hnone, -⟩
      · rw [hwires c hc] at hwire
        obtain ⟨r, hr, rfl⟩ := List.mem_map.mp hwire
        obtain ⟨q, hq, -, hread'⟩ := hreads c hc hkey r hr
        rw [hread'] at hread
        cases hread
        rw [hsame p hp q hq hnumber]
      · rw [hnone] at hread
        cases hread

end Frames

section Samples

theorem bothTracks_ssrcs : SsrcsDiffer StreamTrack.videoParams opusParams := by
  simp [SsrcsDiffer, RtpParams.ssrcs, StreamTrack.videoParams, opusParams]

/-- The one packet of a run is read by the receiver. -/
theorem run_genuine_sendFrame :
    ∃ h s videoPkts audioPkts, Run (step exactTimestamp) KeepsTracks bothTracks h s ∧
      emitted exactTimestamp StreamTrack.videoParams (fun _ => 0) (fed .video h) = .ok videoPkts ∧
      emitted exactTimestamp opusParams (fun _ => 0) (fed .audio h) = .ok audioPkts ∧
      ∀ data ∈ rtpSends (outputs h),
        (receive opusParams data = none ∧
          ∃ p ∈ videoPkts, receive StreamTrack.videoParams data = some p.kept) ∨
        (receive StreamTrack.videoParams data = none ∧
          ∃ p ∈ audioPkts, receive opusParams data = some p.kept) := by
  obtain ⟨s, hr⟩ := sendFrame_run
  obtain ⟨videoPkts, audioPkts, hvideo, haudio, -, -, hall⟩ :=
    run_genuine rfl rfl bothTracks_ssrcs hr
  exact ⟨_, s, videoPkts, audioPkts, hr, hvideo, haudio, hall⟩

def sendSample : Event :=
  .receiveH264Packet (fun _ => 0) (fun _ => 1000) H264RtpPacketizer.sampleFrame

/-- A NACK of the packets 0 and 1 of the video track. -/
def nackBoth : ByteString := [0x81, 205, 0, 3, 0, 0, 0, 1, 0, 0xBC, 0x61, 0x4E, 0, 0, 0, 1]

/-- The video track after the sample frame: two packets, never resent. -/
theorem sendSample_run : ∃ s t frameOut p q,
    Run (step exactTimestamp) KeepsTracks bothTracks ([] ++ [(sendSample, frameOut)]) s ∧
      emitted exactTimestamp StreamTrack.videoParams (fun _ => 0)
        (fed .video ([] ++ [(sendSample, frameOut)])) = .ok [p, q] ∧
      p.sequenceNumber = 0 ∧ q.sequenceNumber = 1 ∧ (rtpSends frameOut).length = 2 ∧
      s.family StreamTrack.videoParams.ssrc = some t ∧
      (∀ pkt, t.sendBuffer (slotOf 0) = some pkt →
        pkt.resentMillisecs = 0 ∧ t.tooOld pkt = false) ∧
      ∀ pkt, t.sendBuffer (slotOf 1) = some pkt →
        pkt.resentMillisecs = 0 ∧ t.tooOld pkt = false := by
  refine ⟨_, _, _, _, _, .snoc .nil rfl rfl, rfl, rfl, rfl, rfl, rfl, ?_, ?_⟩
  · rintro _ ⟨⟩
    exact ⟨rfl, rfl⟩
  · rintro _ ⟨⟩
    exact ⟨rfl, rfl⟩

theorem nackBoth_parses : ∃ p nack, RtcpCompound.parse (Memory.ofList nackBoth) 16 = some [p] ∧
    IsNack p nack ∧ nack.mediaSsrc = StreamTrack.videoParams.ssrc ∧ nack.lost = [0, 1] :=
  ⟨_, _, rfl, ⟨rfl, rfl, rfl⟩, rfl, rfl⟩

/-- Both packets of the frame are lost, and the answer to one NACK gives it
back. -/
theorem frame_recovered_sampleFrame :
    ∃ h s s' out, Run (step exactTimestamp) KeepsTracks bothTracks h s ∧
      h.map Prod.fst = [sendSample] ∧
      s.step exactTimestamp (.receiveRctp (fun _ _ => 2000) (Memory.ofList nackBoth) 16) =
        .ok (s', out) ∧
      (reassemble ((rtpSends out).filterMap (receive StreamTrack.videoParams)) 0 2).bind
        depacketize = some [[0x67, 0x42], [0x65, 0x88]] := by
  obtain ⟨s, t, frameOut, p, q, hr, hpkts, hp, hq, hlen, ht, hready₀, hready₁⟩ := sendSample_run
  have hunits : ∀ unit ∈ H264RtpPacketizer.units H264RtpPacketizer.sampleFrame,
      IsNalUnit unit := by
    rw [H264RtpPacketizer.sampleFrame_units]
    intro unit hu
    rcases List.mem_pair.mp hu with rfl | rfl
    · exact ⟨0x67, [0x42], rfl, by decide⟩
    · exact ⟨0x65, [0x88], rfl, by decide⟩
  obtain ⟨before, frame, after, hemitted, hsends, hrecovers⟩ :=
    frame_recovered rfl rfl bothTracks_ssrcs rfl hr
      (show [] ++ [(sendSample, frameOut)] = [] ++ (sendSample, frameOut) :: [] from rfl) hunits
  -- the frame is the two packets
  have hall : before ++ frame ++ after = [p, q] := Except.ok.inj (hemitted.symm.trans hpkts)
  have hframe : frame.length = 2 := by rw [← hlen, hsends, List.length_map]
  have htotal := congrArg List.length hall
  simp only [List.length_append, List.length_cons, List.length_nil] at htotal
  obtain rfl : before = [] := List.length_eq_zero_iff.mp (by omega)
  obtain rfl : after = [] := List.length_eq_zero_iff.mp (by omega)
  obtain rfl : frame = [p, q] := by simpa using hall
  obtain ⟨rtcp, nack, hparse, hisNack, hmedia, hlost⟩ := nackBoth_parses
  have hkeys := (run_follows rfl rfl (by decide) hr).1.keys_iff
  have hknown : NacksKnown s (.receiveRctp (fun _ _ => 2000) (Memory.ofList nackBoth) 16) := by
    intro ps hps r hr' _ _ nack' hnack'
    obtain rfl := Option.some.inj (hparse.symm.trans hps)
    obtain rfl := List.mem_singleton.mp hr'
    obtain rfl := Option.some.inj (hisNack.2.2.symm.trans hnack')
    rw [hkeys, hmedia]
    exact List.mem_cons_self
  have hasked : ∀ r ∈ [p, q], AskedFor StreamTrack.videoParams t [rtcp] r := by
    intro r hr'
    refine ⟨⟨rtcp, List.mem_singleton_self _, nack, hisNack, hmedia, ?_⟩, ?_⟩
    · rcases List.mem_pair.mp hr' with rfl | rfl
      · simp [hlost, hp]
      · simp [hlost, hq]
    · rcases List.mem_pair.mp hr' with rfl | rfl
      · rwa [hp]
      · rwa [hq]
  have hsmall : ¬ StreamTrack.WrapCollides 0 ([] ++ [p, q] ++ []).length := by
    show ¬ StreamTrack.WrapCollides 0 2
    rintro ⟨hlt, -⟩
    exact absurd hlt (by decide)
  have hcap : [p, q].length + ([] : List RtpPacket).length ≤ kSendBufferCapacity := by
    show 2 ≤ 1000
    decide
  obtain ⟨s', out, hstep, hresult⟩ := hrecovers hcap hsmall [] (fun _ _ => 2000)
    (Memory.ofList nackBoth) 16 [rtcp] (by simp) hparse hknown fun t' ht' r hr' _ => by
      obtain rfl := Option.some.inj (ht.symm.trans ht')
      exact hasked r hr'
  refine ⟨_, s, s', out, hr, rfl, hstep, ?_⟩
  rw [← H264RtpPacketizer.sampleFrame_units]
  exact hresult

end Samples

end MediaStream

end WebrtcServer
