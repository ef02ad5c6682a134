/-
# `MediaTakes` — what a media stream takes, and how long what it sends is

The packetizers keep within their buffer and a resent packet grows by its
OSN at most, so nothing that leaves a media stream is longer than 5002
bytes; only a tick of the timer sends RTCP, and a sender report is short.

With its two packetizers in place a media stream can fail in two ways: a
NACK names no track, or an Opus frame does not fit.  `Takes` excludes these
and nothing else.
-/
import WebrtcServer.LossRecovery

namespace WebrtcServer

open Lib

namespace MediaStream

section Sizes

variable {rtpTimestamp : Int → UInt32 → UInt32} {params : RtpParams} {rtpBuf : Memory}

/-- What a packetizer emits fits into its buffer. -/
theorem emitted_size {packets : List MediaPacket} {pkts : List RtpPacket}
    (h : emitted rtpTimestamp params rtpBuf packets = .ok pkts) :
    ∀ pkt ∈ pkts, pkt.size.toNat ≤ kRtpBufferSize := by
  simp only [emitted] at h
  cases hrun : runAll (AnyPacketizer.pack rtpTimestamp) (packetizerOf params rtpBuf) packets with
  | error f =>
      rw [hrun] at h
      cases h
  | ok r =>
      obtain ⟨packed, k⟩ := r
      rw [hrun] at h
      cases h
      refine (run_of_runAll _ _ _ hrun).1.invariant
        (I := fun h _ => ∀ pkt ∈ outputs h, pkt.size.toNat ≤ kRtpBufferSize) (by simp) ?_
      intro h k k' packet pkts hall _ hpack pkt hpkt
      rw [outputs_snoc] at hpkt
      rcases List.mem_append.mp hpkt with hpkt | hpkt
      · exact hall pkt hpkt
      · exact ((AnyPacketizer.packed_of_ok hpack).emits.wellFormed pkt hpkt).2.2

/-- A packet resent has at most two bytes more than a packet that the track
was handed. -/
theorem resent_size {h : List (StreamTrack.Event × List Resent)} {t : StreamTrack}
    (hr : Run StreamTrack.step StreamTrack.SendsWellFormed (.new params) h t)
    (hsizes : ∀ pkt ∈ StreamTrack.received h, pkt.size.toNat ≤ kRtpBufferSize) {r : Resent}
    (hr' : r ∈ outputs h) : r.pkt.size.toNat ≤ kRtpBufferSize + 2 := by
  obtain ⟨⟨e, out⟩, hmem, hrout⟩ := List.mem_flatMap.mp hr'
  obtain ⟨pre, post, rfl⟩ := List.append_of_mem hmem
  obtain ⟨seq, hanswered, -⟩ := StreamTrack.run_answered hr rfl
  obtain ⟨i, hi, rfl⟩ := List.getElem_of_mem hrout
  obtain ⟨p, hp, hstores, -⟩ := hanswered i hi
  have hreceived : p ∈ StreamTrack.received pre :=
    sent_subset_received _ _ p (latestIn_mem hp).1
  have hsize := hsizes p (by
    rw [StreamTrack.received, List.filterMap_append]
    exact List.mem_append_left _ hreceived)
  simp only [kRtpBufferSize] at hsize ⊢
  simp only [RtpStoragePacket.size, hstores.size]
  split
  · rw [UInt32.toNat_add, show kRtxExtraSize.toNat = 2 from rfl]
    omega
  · omega

end Sizes

section TwoTracks

variable {rtpTimestamp : Int → UInt32 → UInt32} {video audio : RtpParams}
  {videoBuf audioBuf : Memory} {h : List (Event × List MediaOutput)} {s s' : MediaStream}

/-- What a call of a track puts on the wire is not much longer than what the
packetizers emit. -/
theorem Plays.wire_length {log : List TrackCall} {out : List MediaOutput} {s₀ : MediaStream}
    (hplays : Plays s₀ log out s) {params : RtpParams}
    (hnew : s₀.family params.ssrc = some (.new params))
    (hsizes : ∀ pkt ∈ StreamTrack.received (own params.ssrc log),
      pkt.size.toNat ≤ kRtpBufferSize) {c : TrackCall} (hc : c ∈ log)
    (hkey : c.key = params.ssrc) {data : ByteString} (hdata : data ∈ wire c) :
    data.length ≤ kRtpBufferSize + 2 := by
  obtain ⟨t, -, hr⟩ := hplays.calls.run hnew
  have hown := mem_own hc
  rw [hkey] at hown
  rcases List.mem_append.mp hdata with hfirst | hagain
  · obtain ⟨pkt, hpkt, rfl⟩ := Option.map_eq_some_iff.mp (Option.mem_toList.mp hfirst)
    have hsize := hsizes pkt (List.mem_filterMap.mpr ⟨_, hown, hpkt⟩)
    rw [RtpPacket.bytes, window_length]
    omega
  · obtain ⟨r, hrmem, rfl⟩ := List.mem_map.mp hagain
    rw [Resent.bytes, window_length]
    exact resent_size hr hsizes (List.mem_flatMap.mpr ⟨_, hown, hrmem⟩)

/-- Nothing that leaves the media stream is longer than the packetizers'
buffer, with room for the OSN. -/
theorem run_lengths (hv : video.mediaType = .video) (ha : audio.mediaType = .audio)
    (hne : video.ssrc ≠ audio.ssrc)
    (hr : Run (step rtpTimestamp) KeepsTracks (withTracks video audio videoBuf audioBuf) h s) :
    ∀ data ∈ rtpSends (outputs h), data.length ≤ kRtpBufferSize + 2 := by
  obtain ⟨log, hplays, hvideo, haudio⟩ := run_plays hv ha hne hr
  intro data hdata
  rw [hplays.sends] at hdata
  obtain ⟨c, hc, hwire⟩ := List.mem_flatMap.mp hdata
  have hmember := hplays.calls.member c hc
  by_cases hkey : c.key = video.ssrc
  · exact hplays.wire_length (family_video hne) (emitted_size hvideo) hc hkey hwire
  · have hkey' : c.key = audio.ssrc := by
      by_contra hnot
      rw [family_withTracks, Function.update_of_ne hnot, Function.update_of_ne hkey] at hmember
      exact absurd hmember (by simp)
    exact hplays.wire_length family_audio (emitted_size haudio) hc hkey' hwire

/-- The bytes that an output hands over. -/
def outputData : MediaOutput → ByteString
  | .rtcpPacketSend data => data
  | .rtpPacketSend data => data

end TwoTracks

/-! ## Only a tick sends RTCP -/

section Ticks

variable {rtpTimestamp : Int → UInt32 → UInt32} {s s' : MediaStream} {out : List MediaOutput}

/-- All that is sent are RTP packets. -/
def AllRtp (out : List MediaOutput) : Prop := ∀ o ∈ out, o = .rtpPacketSend (outputData o)

theorem AllRtp.append {out out' : List MediaOutput} (h : AllRtp out) (h' : AllRtp out') :
    AllRtp (out ++ out') :=
  fun o ho => (List.mem_append.mp ho).elim (h o) (h' o)

theorem AllRtp.mem_rtpSends (h : AllRtp out) {o : MediaOutput} (ho : o ∈ out) :
    outputData o ∈ rtpSends out :=
  List.mem_filterMap.mpr ⟨o, ho, by rw [h o ho]; rfl⟩

theorem callTrack_allRtp {ssrc : UInt32}
    {call : StreamTrack → Except Fault (StreamTrack × List Resent)}
    (h : s.callTrack ssrc call = .ok (s', out)) : AllRtp out := by
  simp only [callTrack] at h
  split at h
  · cases h
  · split at h
    · cases h
    · cases h
      intro o ho
      obtain ⟨r, -, rfl⟩ := List.mem_map.mp ho
      rfl

theorem onRtpPacketsGenerated_allRtp {heap : Memory} {clock : Nat → UInt64}
    {pkts : List RtpPacket} (h : onRtpPacketsGenerated heap clock s pkts = .ok (s', out)) :
    AllRtp out := by
  induction pkts generalizing clock s out with
  | nil =>
      cases h
      exact fun o ho => by cases ho
  | cons pkt pkts ih =>
      simp only [onRtpPacketsGenerated, onRtpPacketGenerated] at h
      split at h
      · cases h
      next s₁ out₁ hfirst =>
        split at h
        · cases h
        next s₂ out₂ hrest =>
          cases h
          refine AllRtp.append ?_ (ih hrest)
          split at hfirst
          · cases hfirst
          next hcall =>
            cases hfirst
            exact List.forall_mem_cons.mpr ⟨rfl, callTrack_allRtp hcall⟩

theorem receivePackets_allRtp {clock : Nat → Nat → UInt64} {ps : List RtcpPacket}
    (h : receivePackets clock s ps = .ok (s', out)) : AllRtp out := by
  induction ps generalizing clock s out with
  | nil =>
      cases h
      exact fun o ho => by cases ho
  | cons p ps ih =>
      simp only [receivePackets] at h
      split at h
      · cases h
      next s₁ out₁ hfirst =>
        split at h
        · cases h
        next s₂ out₂ hrest =>
          cases h
          refine AllRtp.append ?_ (ih hrest)
          have hnone : AllRtp [] := fun o ho => by cases ho
          simp only [receivePacket] at hfirst
          split at hfirst
          · split at hfirst
            · split at hfirst
              · cases hfirst
              · exact callTrack_allRtp hfirst
            · cases hfirst
              exact hnone
          · split at hfirst
            · split at hfirst
              · cases hfirst
              · split at hfirst <;> cases hfirst
                exact hnone
            · cases hfirst
              exact hnone

/-- A step that is no tick sends RTP packets. -/
theorem step_allRtp {e : Event} (he : adds e = none)
    (htick : ∀ buffer now, e ≠ .timerTimeout buffer now)
    (h : s.step rtpTimestamp e = .ok (s', out)) : AllRtp out := by
  cases e with
  | addStreamTrack params rtpBuf => cases he
  | timerTimeout buffer now => exact absurd rfl (htick buffer now)
  | receiveH264Packet heap clock packet =>
      obtain ⟨_, _, _, _, hp⟩ := receiveH264Packet_packs h
      exact onRtpPacketsGenerated_allRtp hp.handedOn
  | receiveOpusPacket heap clock packet =>
      obtain ⟨_, _, _, _, hp⟩ := receiveOpusPacket_packs h
      exact onRtpPacketsGenerated_allRtp hp.handedOn
  | receiveRctp clock data len =>
      simp only [step, receiveRctp] at h
      split at h
      · cases h
        exact fun o ho => by cases ho
      · exact receivePackets_allRtp h

end Ticks

section TwoTracks

variable {rtpTimestamp : Int → UInt32 → UInt32} {video audio : RtpParams}
  {videoBuf audioBuf : Memory} {h : List (Event × List MediaOutput)} {s s' : MediaStream}

/-- Whatever a step sends is not much longer than what the packetizers
emit. -/
theorem run_step_length (hv : video.mediaType = .video) (ha : audio.mediaType = .audio)
    (hne : video.ssrc ≠ audio.ssrc)
    (hr : Run (step rtpTimestamp) KeepsTracks (withTracks video audio videoBuf audioBuf) h s)
    {e : Event} {out : List MediaOutput} (he : adds e = none)
    (hstep : s.step rtpTimestamp e = .ok (s', out)) :
    ∀ o ∈ out, (outputData o).length ≤ kRtpBufferSize + 2 := by
  intro o ho
  by_cases htick : ∃ buffer now, e = .timerTimeout buffer now
  · obtain ⟨buffer, now, rfl⟩ := htick
    obtain ⟨ssrc, t, sr, -, -, rfl⟩ := (mem_onTimerTimeout hstep).mp ho
    rw [outputData, sr.bytes_length]
    decide
  · have hrtp := step_allRtp he (fun buffer now h => htick ⟨buffer, now, h⟩) hstep
    have hsends := run_lengths hv ha hne (hr.snoc he hstep) (outputData o)
    rw [outputs_snoc, rtpSends_append] at hsends
    exact hsends (List.mem_append_right _ (hrtp.mem_rtpSends ho))

/-- What a media stream with both packetizers takes: NACKs for its tracks,
and Opus frames that fit. -/
def Takes (s : MediaStream) : Event → Prop
  | .receiveOpusPacket _ _ packet => AnyPacketizer.Fits .opus packet
  | e => NacksKnown s e

theorem opusPack_ok_iff (rtpTimestamp : Int → UInt32 → UInt32) (k : RtpPacketizer)
    (packet : MediaPacket) :
    (∃ k' pkts, OpusRtpPacketizer.pack rtpTimestamp k packet = .ok (k', pkts)) ↔
      AnyPacketizer.Fits .opus packet := by
  rw [show AnyPacketizer.Fits .opus packet ↔ kRtpHeaderFixedSize +
    (window packet.data 0 packet.size).length ≤ kRtpBufferSize by rw [window_length]; rfl]
  constructor
  · rintro ⟨k', pkts, hpack⟩
    simp only [OpusRtpPacketizer.pack, bind, Except.bind] at hpack
    split at hpack
    · cases hpack
    next next hemit => exact (RtpPacketizer.emit_eq_ok.mp hemit).1
  · intro hfits
    obtain ⟨k', pkt, hemit⟩ : ∃ k' pkt, k.emit (rtpTimestamp packet.timestampMillis k.clockRate) 1
        (window packet.data 0 packet.size) = .ok (k', pkt) :=
      ⟨_, _, RtpPacketizer.emit_eq_ok.mpr ⟨hfits, rfl, rfl⟩⟩
    exact ⟨k', [pkt], by rw [OpusRtpPacketizer.pack, hemit]; rfl⟩

theorem receiveOpusPacket_of_pack {keys : List UInt32} (hi : Inv keys s) {k k' : RtpPacketizer}
    (hk : s.opusPacketizer = some k) {packet : MediaPacket} {pkts : List RtpPacket}
    (hpack : OpusRtpPacketizer.pack rtpTimestamp k packet = .ok (k', pkts)) (heap : Memory)
    (clock : Nat → UInt64) :
    ∃ s' out, s.receiveOpusPacket rtpTimestamp heap clock packet = .ok (s', out) := by
  have hemits := opusPack_eq_ok hpack
  have hssrc := hi.opus k hk
  have hi' : Inv keys { s with opusPacketizer := some k' } := by
    refine ⟨hi.keys_iff, hi.tracks, hi.h264, ?_⟩
    intro k'' hk''
    cases hk''
    rwa [hemits.ssrc_eq]
  obtain ⟨s', out, hok, -⟩ := onRtpPacketsGenerated_spec hi' heap clock fun pkt hp => by
    obtain ⟨hwf, heq, -⟩ := hemits.wellFormed pkt hp
    exact ⟨hwf, heq ▸ hssrc⟩
  exact ⟨s', out, by simp only [receiveOpusPacket, hk, hpack, hok]⟩

/-- A media stream with its two tracks runs every method to its end that it
takes, and no other. -/
theorem step_ok_iff (hv : video.mediaType = .video) (ha : audio.mediaType = .audio)
    (hne : video.ssrc ≠ audio.ssrc)
    (hr : Run (step rtpTimestamp) KeepsTracks (withTracks video audio videoBuf audioBuf) h s)
    {e : Event} (he : adds e = none) :
    (∃ s' out, s.step rtpTimestamp e = .ok (s', out)) ↔ s.Takes e := by
  obtain ⟨hi, ⟨vpacked, vk, hvideo⟩, apacked, ak, haudio⟩ := run_follows hv ha hne hr
  have hvk := hvideo.packetizer
  have hak := haudio.packetizer
  rw [hv] at hvk
  rw [ha] at hak
  cases e with
  | addStreamTrack params rtpBuf => cases he
  | receiveH264Packet heap clock packet =>
      obtain ⟨k, hk, -⟩ := Option.map_eq_some_iff.mp hvk
      obtain ⟨s', out, hok, -⟩ := receiveH264Packet_spec rtpTimestamp hi hk heap clock packet
      exact iff_of_true ⟨s', out, hok⟩ trivial
  | receiveOpusPacket heap clock packet =>
      obtain ⟨k, hk, -⟩ := Option.map_eq_some_iff.mp hak
      rw [show s.Takes (.receiveOpusPacket heap clock packet) ↔
        AnyPacketizer.Fits .opus packet from Iff.rfl, ← opusPack_ok_iff rtpTimestamp k packet]
      constructor
      · rintro ⟨s', out, hok⟩
        simp only [step, receiveOpusPacket, hk] at hok
        split at hok
        · cases hok
        next k' pkts hpack => exact ⟨k', pkts, hpack⟩
      · rintro ⟨k', pkts, hpack⟩
        exact receiveOpusPacket_of_pack hi hk hpack heap clock
  | receiveRctp clock data len =>
      rcases receiveRctp_spec hi clock data len with ⟨hk, s', out, hok, -⟩ | ⟨hk, hfault⟩
      · exact iff_of_true ⟨s', out, hok⟩ hk
      · refine iff_of_false ?_ hk
        rintro ⟨s', out, hok⟩
        rw [show s.step rtpTimestamp (.receiveRctp clock data len) = _ from hfault] at hok
        cases hok
  | timerTimeout buffer now =>
      obtain ⟨out, hok⟩ := onTimerTimeout_spec hi buffer now
      exact iff_of_true ⟨s, out, hok⟩ trivial

end TwoTracks

end MediaStream

end WebrtcServer
