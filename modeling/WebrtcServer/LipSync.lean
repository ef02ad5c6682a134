/-
# `LipSync` — where a viewer places the frames of the two tracks

The RTP times of two tracks have nothing to do with each other.  A viewer
puts them on one clock by the sender reports: each gives an RTP time of its
track, and the server's time that goes with it.  The server takes the RTP
time of the last packet and moves it on by what has passed since the packet
was sent.

So a viewer plays every frame with the delay of the last packet, the time at
which it was sent less the time of its frame; and picture and sound are
apart by the difference of the two delays.
-/
import WebrtcServer.Lib.Serial
import WebrtcServer.DoubleTimes
import WebrtcServer.MediaCalls
import Mathlib.Algebra.Order.Field.Rat
import Mathlib.Algebra.Order.Ring.Abs
import Mathlib.Tactic.FieldSimp
import Mathlib.Tactic.Linarith

namespace WebrtcServer

open Lib

namespace MediaStream

/-! ## The last packet of a track -/

/-- When the last packet of a frame was sent, and the time of the frame; a
frame without a unit makes no packet. -/
def sentFrame (kind : MediaType) (x : Event × List MediaOutput) : Option (UInt64 × Int) :=
  match x.1 with
  | .receiveH264Packet _ clock packet =>
      if kind = .video ∧ rtpSends x.2 ≠ [] then
        some (clock ((rtpSends x.2).length - 1), packet.timestampMillis)
      else none
  | .receiveOpusPacket _ clock packet =>
      if kind = .audio ∧ rtpSends x.2 ≠ [] then
        some (clock ((rtpSends x.2).length - 1), packet.timestampMillis)
      else none
  | _ => none

def lastFrame (kind : MediaType) (h : List (Event × List MediaOutput)) : Option (UInt64 × Int) :=
  (h.filterMap (sentFrame kind)).getLast?

theorem lastFrame_snoc (kind : MediaType) (h : List (Event × List MediaOutput))
    (x : Event × List MediaOutput) :
    lastFrame kind (h ++ [x]) = (sentFrame kind x).or (lastFrame kind h) := by
  simp only [lastFrame, List.filterMap_append, List.filterMap_cons, List.filterMap_nil]
  cases sentFrame kind x with
  | none => rw [List.append_nil, Option.none_or]
  | some y => simp

section Steps

variable {rtpTimestamp : Int → UInt32 → UInt32} {s s₁ s' : MediaStream} {out : List MediaOutput}
  {params : RtpParams} {h : List (Event × List MediaOutput)} {e : Event}

/-- Of a frame's packets the last one stays in the track. -/
theorem onRtpPacketsGenerated_last {heap : Memory} {clock : Nat → UInt64}
    {pkts : List RtpPacket} (h : onRtpPacketsGenerated heap clock s pkts = .ok (s', out))
    {i : SenderInfo} (hi : s.senderInfo params.ssrc = some i) (hparams : i.params = params)
    {timestamp : UInt32}
    (hpkts : ∀ pkt ∈ pkts, pkt.ssrc = params.ssrc ∧ pkt.timestamp = timestamp) :
    ∃ i', s'.senderInfo params.ssrc = some i' ∧ i'.params = params ∧
      (pkts = [] → i' = i) ∧
      (pkts ≠ [] → i'.maxRtpTimestamp = timestamp ∧
        i'.maxPacketMillis = (clock (pkts.length - 1)).toUInt32) := by
  induction pkts generalizing clock s out i with
  | nil =>
      cases h
      exact ⟨i, hi, hparams, fun _ => rfl, fun hne => absurd rfl hne⟩
  | cons pkt pkts ih =>
      obtain ⟨⟨hssrc, hts⟩, hrest⟩ := List.forall_mem_cons.mp hpkts
      obtain ⟨s₁, out₁, out₂, hfirst, hgen⟩ := onRtpPacketsGenerated_cons_eq_ok h
      have hown : i.params.ssrc = pkt.ssrc := by rw [hparams, hssrc]
      have hi₁ := (onRtpPacketGenerated_senderInfo hfirst).2.2 i (hssrc ▸ hi) hown
      rw [hssrc] at hi₁
      obtain ⟨i', hi', hparams', hnone, hlast⟩ := ih hgen hi₁ hparams hrest
      refine ⟨i', hi', hparams', fun heq => absurd heq (List.cons_ne_nil _ _), fun _ => ?_⟩
      by_cases hmore : pkts = []
      · rw [hnone hmore, hmore]
        exact ⟨hts, rfl⟩
      · obtain ⟨hts', hmillis⟩ := hlast hmore
        have hpos : pkts.length - 1 + 1 = pkts.length :=
          Nat.sub_add_cancel (List.length_pos_iff.mpr hmore)
        rw [hpos] at hmillis
        exact ⟨hts', hmillis⟩

/-- A track and its packetizer, with the last packet of the history. -/
structure Dated (rtpTimestamp : Int → UInt32 → UInt32) (params : RtpParams)
    (h : List (Event × List MediaOutput)) (s : MediaStream) : Prop where
  packetizer : ∃ k, s.packetizer params.mediaType = some k ∧ k.base.ssrc = params.ssrc ∧
    k.base.clockRate = params.clockRate
  info : ∃ i, s.senderInfo params.ssrc = some i ∧ i.params = params ∧
    ∀ t last, lastFrame params.mediaType h = some (t, last) →
      i.maxRtpTimestamp = rtpTimestamp last params.clockRate ∧ i.maxPacketMillis = t.toUInt32

theorem Dated.keep (hd : Dated rtpTimestamp params h s) (hsame : SameSenders s s')
    (hnone : sentFrame params.mediaType (e, out) = none) :
    Dated rtpTimestamp params (h ++ [(e, out)]) s' := by
  refine ⟨?_, ?_⟩
  · rw [hsame.packetizer]
    exact hd.packetizer
  · rw [hsame.senderInfo, lastFrame_snoc, hnone, Option.none_or]
    exact hd.info

/-- A frame is packed, and another track's frame changes nothing. -/
theorem Dated.packs (hd : Dated rtpTimestamp params h s) {kind : MediaType}
    {packet : MediaPacket} {k k' : AnyPacketizer} {pkts : List RtpPacket} {heap : Memory}
    {clock : Nat → UInt64} (hp : Packs rtpTimestamp kind heap clock packet pkts k k' s s₁ s' out)
    (hforeign : kind ≠ params.mediaType → k.base.ssrc ≠ params.ssrc)
    (hsent : sentFrame params.mediaType (e, out) =
      if params.mediaType = kind ∧ rtpSends out ≠ [] then
        some (clock ((rtpSends out).length - 1), packet.timestampMillis) else none) :
    Dated rtpTimestamp params (h ++ [(e, out)]) s' := by
  have hemits := (AnyPacketizer.packed_of_ok hp.packs).emits
  have hssrc : ∀ pkt ∈ pkts, pkt.ssrc = k.base.ssrc := fun pkt hpkt =>
    (hemits.wellFormed pkt hpkt).2.1
  have hsends := hp.sends
  obtain ⟨i, hi, hparams, hlast⟩ := hd.info
  by_cases hkind : kind = params.mediaType
  · subst hkind
    obtain ⟨k₀, hk₀, hkssrc, hkrate⟩ := hd.packetizer
    obtain rfl : k₀ = k := Option.some.inj (hk₀.symm.trans hp.before)
    refine ⟨⟨k', hsends.after, hemits.ssrc_eq.trans hkssrc, hemits.clockRate_eq.trans hkrate⟩, ?_⟩
    have hpkts : ∀ pkt ∈ pkts, pkt.ssrc = params.ssrc ∧
        pkt.timestamp = rtpTimestamp packet.timestampMillis params.clockRate := fun pkt hpkt =>
      ⟨(hssrc pkt hpkt).trans hkssrc, by rw [hemits.timestamps pkt hpkt, hkrate]⟩
    obtain ⟨i', hi', hparams', hnone, hsome⟩ :=
      onRtpPacketsGenerated_last hp.handedOn (hp.senderInfo_eq ▸ hi) hparams hpkts
    refine ⟨i', hi', hparams', ?_⟩
    rw [lastFrame_snoc, hsent, hp.plays.1, List.length_map]
    by_cases hpacked : pkts = []
    · rw [if_neg (by simp [hpacked]), Option.none_or, hnone hpacked]
      exact hlast
    · rw [if_pos ⟨rfl, by simpa using hpacked⟩]
      rintro t last ⟨⟩
      exact hsome hpacked
  · refine ⟨?_, i, ?_, hparams, ?_⟩
    · rw [hsends.otherKind _ (Ne.symm hkind)]
      exact hd.packetizer
    · rw [hsends.other _ fun pkt hpkt => hssrc pkt hpkt ▸ hforeign hkind]
      exact hi
    · rw [lastFrame_snoc, hsent, if_neg fun h => hkind h.1.symm, Option.none_or]
      exact hlast

theorem Dated.step (hd : Dated rtpTimestamp params h s)
    (hforeign : ∀ kind, kind ≠ params.mediaType → ∀ k, s.packetizer kind = some k →
      k.base.ssrc ≠ params.ssrc)
    (he : adds e = none) (hstep : s.step rtpTimestamp e = .ok (s', out)) :
    Dated rtpTimestamp params (h ++ [(e, out)]) s' := by
  cases e with
  | addStreamTrack added rtpBuf => cases he
  | receiveH264Packet heap clock packet =>
      obtain ⟨pkts, k, k', s₁, hp⟩ := receiveH264Packet_packs hstep
      exact hd.packs hp (fun hne => hforeign _ hne _ hp.before) rfl
  | receiveOpusPacket heap clock packet =>
      obtain ⟨pkts, k, k', s₁, hp⟩ := receiveOpusPacket_packs hstep
      exact hd.packs hp (fun hne => hforeign _ hne _ hp.before) rfl
  | receiveRctp clock data len => exact hd.keep (receiveRctp_sameSenders hstep) rfl
  | timerTimeout buffer now =>
      obtain rfl : s' = s := onTimerTimeout_state hstep
      exact hd.keep (.refl s') rfl

end Steps

section TwoTracks

variable {rtpTimestamp : Int → UInt32 → UInt32} {video audio : RtpParams}
  {videoBuf audioBuf : Memory} {h : List (Event × List MediaOutput)} {s : MediaStream}

/-- After every run both tracks know the last frame of which they have sent. -/
theorem run_dated (hv : video.mediaType = .video) (ha : audio.mediaType = .audio)
    (hne : video.ssrc ≠ audio.ssrc)
    (hr : Run (step rtpTimestamp) KeepsTracks (withTracks video audio videoBuf audioBuf) h s) :
    Dated rtpTimestamp video h s ∧ Dated rtpTimestamp audio h s := by
  induction hr with
  | nil =>
      have hfollows : Follows rtpTimestamp video videoBuf []
            (withTracks video audio videoBuf audioBuf) [] (packetizerOf video videoBuf) ∧
          Follows rtpTimestamp audio audioBuf [] (withTracks video audio videoBuf audioBuf) []
            (packetizerOf audio audioBuf) := follows_new hv ha hne
      obtain ⟨hvideo, haudio⟩ := hfollows
      have hnone : ∀ kind t last, lastFrame kind [] ≠ some (t, last) := by
        intro kind t last heq
        cases heq
      obtain ⟨i, hi, hci⟩ := hvideo.counts
      obtain ⟨j, hj, hcj⟩ := haudio.counts
      refine ⟨⟨⟨_, hvideo.packetizer, hvideo.stream.1, ?_⟩, i, hi, hci.params_eq,
          fun t last heq => absurd heq (hnone _ t last)⟩,
        ⟨⟨_, haudio.packetizer, haudio.stream.1, ?_⟩, j, hj, hcj.params_eq,
          fun t last heq => absurd heq (hnone _ t last)⟩⟩
      · rw [packetizerOf, hv]
        rfl
      · rw [packetizerOf, ha]
        rfl
  | snoc hr he hstep ih =>
      obtain ⟨hotherV, hotherA⟩ := run_others hv ha hne hr
      exact ⟨ih.1.step hotherV he hstep, ih.2.step hotherA he hstep⟩

end TwoTracks

end MediaStream

/-! ## The times of a report -/

/-- Where a viewer places an RTP time on the server's clock, in milliseconds. -/
def SenderReportPacket.plays (sr : SenderReportPacket) (clockRate timestamp : UInt32) : ℚ :=
  NtpTime.toMillis ⟨sr.ntpSeconds, sr.ntpFractions⟩ +
    ahead timestamp sr.rtpTimestamp * 1000 / clockRate.toNat

namespace StreamTrack

/-- A number that wraps, moved on. -/
theorem extrapolate_ofInt {x : Int} {t now : UInt64} {clockRate : UInt32} (hle : t ≤ now)
    (hrate : 1000 ∣ clockRate.toNat) :
    extrapolate (UInt32.ofInt x) t now clockRate =
      UInt32.ofInt (x + (now.toNat - t.toNat) * (clockRate.toNat / 1000 : ℕ)) := by
  have hsub : (now.toNat : Int) - t.toNat = (now.toNat - t.toNat : ℕ) :=
    (Nat.cast_sub (UInt64.le_iff_toNat_le.mp hle)).symm
  rw [extrapolate, UInt32.ofNat_add, UInt32.ofNat_toNat, Nat.mul_div_assoc _ hrate,
    ← ofInt_natCast, hsub, UInt32.ofInt_add, Nat.cast_mul]

end StreamTrack

namespace MediaStream

/-- The times for which the RTP times say where a frame belongs: the last
frame, whose last packet was sent at `t`, and the frame `q` fit into 32 bits,
and `q` is less than half a cycle away from the report. -/
structure Placeable (clockRate : UInt32) (t now : UInt64) (last q : Int) : Prop where
  thousands : 1000 ∣ clockRate.toNat
  positive : 0 < clockRate.toNat
  bounded : clockRate.toNat ≤ 131072
  sent : t ≤ now
  clock : now.toNat < 4294967296000
  last_nonneg : 0 ≤ last
  last_fits : last * clockRate.toNat < 1000 * 4294967296
  nonneg : 0 ≤ q
  fits : q * clockRate.toNat < 1000 * 4294967296
  near : |q + (t.toNat - last) - now.toNat| * clockRate.toNat < 1000 * 2147483647

/-- What a viewer reads in the report of a track among the packets of a tick. -/
def Reported (params : RtpParams) (out : List MediaOutput) (sr : SenderReportPacket) : Prop :=
  sr.senderSsrc = params.ssrc ∧
    ∃ data, .rtcpPacketSend data ∈ out ∧ SenderReportPacket.decode (Memory.ofList data) = sr

section Reports

variable {params : RtpParams} {t now : UInt64} {last q : Int} {sr : SenderReportPacket}

/-- The report of a track goes on from its last frame. -/
theorem Dated.report {rtpTimestamp : Int → UInt32 → UInt32}
    {h : List (Event × List MediaOutput)} {s s' : MediaStream} {keys : List UInt32}
    {out : List MediaOutput} {buffer : Memory} (hd : Dated rtpTimestamp params h s)
    (hi : Inv keys s) (hlast : lastFrame params.mediaType h = some (t, last))
    (htick : s.onTimerTimeout buffer now = .ok (s', out)) (hsr : Reported params out sr)
    (hp : Placeable params.clockRate t now last q) :
    NtpTime.mk sr.ntpSeconds sr.ntpFractions = NtpTime.createFromMillis now ∧
      sr.rtpTimestamp =
        StreamTrack.extrapolate (rtpTimestamp last params.clockRate) t now params.clockRate := by
  obtain ⟨hssrc, data, hdata, rfl⟩ := hsr
  obtain ⟨ssrc, track, sr, hlookup, hcreate, hbytes⟩ := (mem_onTimerTimeout htick).mp hdata
  obtain rfl := MediaOutput.rtcpPacketSend.inj hbytes
  rw [SenderReportPacket.decode_bytes] at hssrc ⊢
  obtain ⟨_, ⟨⟩, hown, -⟩ := hi.tracks ssrc _ hlookup
  simp only [StreamTrack.createRtcpSenderReport] at hcreate
  split at hcreate
  · cases hcreate
  · cases hcreate
    obtain rfl : ssrc = params.ssrc := hown.symm.trans hssrc
    obtain ⟨i, hinfo, hparams, hfields⟩ := hd.info
    rw [senderInfo, hlookup] at hinfo
    obtain rfl : track.senderInfo = i := Option.some.inj hinfo
    obtain ⟨hts, hmillis⟩ := hfields t last hlast
    have hts' : track.maxRtpTimestamp = rtpTimestamp last params.clockRate := hts
    have hmillis' : track.maxPacketMillis = t.toUInt32 := hmillis
    have hparams' : track.params = params := hparams
    refine ⟨rfl, ?_⟩
    rw [hts', hmillis', hparams']
    refine (StreamTrack.rtpTimestamp_eq_iff _ hp.sent hp.thousands).mpr ?_
    rw [StreamTrack.wraps_eq_zero (hp.clock.trans (by decide)) hp.bounded]
    exact Nat.dvd_zero 125

/-- A frame plays at its time and the delay of the last packet, up to a tick
of the RTP clock. -/
theorem plays_near (hp : Placeable params.clockRate t now last q)
    (hntp : NtpTime.mk sr.ntpSeconds sr.ntpFractions = NtpTime.createFromMillis now)
    (hrtp : sr.rtpTimestamp =
      StreamTrack.extrapolate (doubleTimestamp last params.clockRate) t now params.clockRate) :
    |sr.plays params.clockRate (doubleTimestamp q params.clockRate) - (q + (t.toNat - last))| ≤
      1000 / params.clockRate.toNat := by
  obtain ⟨short, hshort, hshort', hlast⟩ :=
    doubleTimestamp_near hp.last_nonneg hp.thousands hp.last_fits
  obtain ⟨short₂, hshort₂, hshort₂', hq⟩ := doubleTimestamp_near hp.nonneg hp.thousands hp.fits
  have hnear := hp.near
  have hpos := hp.positive
  rw [hlast, StreamTrack.extrapolate_ofInt hp.sent hp.thousands] at hrtp
  obtain ⟨r, hr⟩ := hp.thousands
  have hdiv : params.clockRate.toNat / 1000 = r := by
    rw [hr, Nat.mul_div_cancel_left _ (by decide)]
  rw [hdiv] at hrtp hq
  rw [hr] at hnear hpos
  have hrpos : 0 < r := Nat.pos_of_mul_pos_left hpos
  -- how far the frame lies ahead of the report, in ticks
  have hahead : ahead (doubleTimestamp q params.clockRate) sr.rtpTimestamp =
      (q + (t.toNat - last) - now.toNat) * r + (short - short₂) := by
    have hdiff : q * r - short₂ - (last * r - short + (now.toNat - t.toNat) * r) =
        (q + (t.toNat - last) - now.toNat) * r + (short - short₂) := by ring
    obtain ⟨hlow, hhigh⟩ := abs_lt.mp (abs_ticks_lt hnear)
    rw [hrtp, hq, ahead_ofInt (by rw [hdiff]; omega) (by rw [hdiff]; omega), hdiff]
  have hmillis : (NtpTime.createFromMillis now).toMillis = now.toNat := by
    have hclock := hp.clock
    rw [NtpTime.toMillis_createFromMillis, Nat.cast_inj]
    omega
  have hshift : sr.plays params.clockRate (doubleTimestamp q params.clockRate) -
      (q + (t.toNat - last)) = (short - short₂ : Int) * (1000 / params.clockRate.toNat : ℚ) := by
    rw [SenderReportPacket.plays, hntp, hmillis, hahead, hr]
    push_cast
    field_simp
    ring
  have hone : |((short - short₂ : Int) : ℚ)| ≤ 1 := by
    rw [← Int.cast_abs]
    exact_mod_cast abs_le.mpr ⟨by omega, by omega⟩
  have htick : (0 : ℚ) ≤ 1000 / params.clockRate.toNat :=
    div_nonneg (by norm_num) (Nat.cast_nonneg _)
  rw [hshift, abs_mul, abs_of_nonneg htick]
  exact mul_le_of_le_one_left htick hone

end Reports

/-- In every run, when a viewer has read the reports of a tick for both
tracks, it places each frame at its time and the delay of the last packet of
its track, up to a tick of the RTP clock: picture and sound of one time are
apart by the difference of the two delays. -/
theorem lip_sync {video audio : RtpParams} {videoBuf audioBuf buffer : Memory}
    {h : List (Event × List MediaOutput)} {s s' : MediaStream} {out : List MediaOutput}
    {tv ta now : UInt64} {lv la q : Int} {vsr asr : SenderReportPacket}
    (hv : video.mediaType = .video) (ha : audio.mediaType = .audio)
    (hne : video.ssrc ≠ audio.ssrc)
    (hr : Run (step doubleTimestamp) KeepsTracks (withTracks video audio videoBuf audioBuf) h s)
    (hstep : s.step doubleTimestamp (.timerTimeout buffer now) = .ok (s', out))
    (hlastV : lastFrame .video h = some (tv, lv)) (hlastA : lastFrame .audio h = some (ta, la))
    (hvsr : Reported video out vsr) (hasr : Reported audio out asr)
    (hpv : Placeable video.clockRate tv now lv q) (hpa : Placeable audio.clockRate ta now la q) :
    |vsr.plays video.clockRate (doubleTimestamp q video.clockRate) - (q + (tv.toNat - lv))| ≤
        1000 / video.clockRate.toNat ∧
      |asr.plays audio.clockRate (doubleTimestamp q audio.clockRate) - (q + (ta.toNat - la))| ≤
        1000 / audio.clockRate.toNat ∧
      |vsr.plays video.clockRate (doubleTimestamp q video.clockRate) -
          asr.plays audio.clockRate (doubleTimestamp q audio.clockRate) -
          ((tv.toNat - lv) - (ta.toNat - la))| ≤
        1000 / video.clockRate.toNat + 1000 / audio.clockRate.toNat := by
  obtain ⟨hdv, hda⟩ := run_dated hv ha hne hr
  have hi := (run_follows hv ha hne hr).1
  obtain ⟨hntpV, hrtpV⟩ := hdv.report hi (hv ▸ hlastV) hstep hvsr hpv
  obtain ⟨hntpA, hrtpA⟩ := hda.report hi (ha ▸ hlastA) hstep hasr hpa
  have hvideo := plays_near hpv hntpV hrtpV
  have haudio := plays_near hpa hntpA hrtpA
  refine ⟨hvideo, haudio, ?_⟩
  obtain ⟨hlowV, hhighV⟩ := abs_le.mp hvideo
  obtain ⟨hlowA, hhighA⟩ := abs_le.mp haudio
  exact abs_le.mpr ⟨by linarith, by linarith⟩

section Samples

/-- The picture of 40, sent at 1100. -/
def sendLate : Event :=
  .receiveH264Packet (fun _ => 0) (fun _ => 1100) H264RtpPacketizer.sampleFrame

/-- The sound is sent 980 after its time, the picture 1060 after. -/
theorem sendLate_run : ∃ h s videoPkts audioPkts,
    Run (step doubleTimestamp) KeepsTracks bothTracks h s ∧
      h.map Prod.fst = [sendFrame, sendLate] ∧
      lastFrame .video h = some (1100, 40) ∧ lastFrame .audio h = some (1000, 20) ∧
      emitted doubleTimestamp StreamTrack.videoParams (fun _ => 0) (fed .video h) =
        .ok videoPkts ∧
      emitted doubleTimestamp opusParams (fun _ => 0) (fed .audio h) = .ok audioPkts ∧
      videoPkts.length = 2 ∧ audioPkts.length = 1 :=
  ⟨_, _, _, _, .snoc (.snoc .nil (show KeepsTracks bothTracks sendFrame from rfl) rfl)
    (show adds sendLate = none from rfl) rfl, rfl, rfl, rfl, rfl, rfl, rfl, rfl⟩

theorem Reports.reported {params : RtpParams} {pkts : List RtpPacket} {octets : Nat}
    {data : ByteString} {out : List MediaOutput} (h : Reports params pkts octets data)
    (hmem : .rtcpPacketSend data ∈ out) :
    Reported params out (SenderReportPacket.decode (Memory.ofList data)) :=
  ⟨h.ssrc, data, hmem, rfl⟩

/-- The picture of a time plays 80 milliseconds after the sound of that time. -/
theorem lip_sync_lateFrame :
    ∃ h s out vsr asr, Run (step doubleTimestamp) KeepsTracks bothTracks h s ∧
      h.map Prod.fst = [sendFrame, sendLate] ∧
      s.step doubleTimestamp (.timerTimeout (fun _ => 0) 1200) = .ok (s, out) ∧
      Reported StreamTrack.videoParams out vsr ∧ Reported opusParams out asr ∧
      |vsr.plays 90000 (doubleTimestamp 40 90000) - asr.plays 48000 (doubleTimestamp 40 48000) -
        80| ≤ 1000 / 90000 + 1000 / 48000 := by
  obtain ⟨h, s, videoPkts, audioPkts, hr, hevents, hlastV, hlastA, hvideo, haudio, hv, ha⟩ :=
    sendLate_run
  obtain ⟨videoPkts', audioPkts', hvideo', haudio', hall⟩ := run_countsAll rfl rfl (by decide) hr
  obtain rfl := Except.ok.inj (hvideo.symm.trans hvideo')
  obtain rfl := Except.ok.inj (haudio.symm.trans haudio')
  obtain ⟨out, htick⟩ := onTimerTimeout_spec hall.inv (fun _ => 0) 1200
  obtain ⟨vdata, hvmem, hvreport⟩ := hall.reported htick (x := (StreamTrack.videoParams, videoPkts))
    (by simp) (by simp [hv])
  obtain ⟨adata, hamem, hareport⟩ := hall.reported htick (x := (opusParams, audioPkts))
    (by simp) (by simp [ha])
  have hvplace : Placeable StreamTrack.videoParams.clockRate 1100 1200 40 40 := by
    constructor <;> decide
  have haplace : Placeable opusParams.clockRate 1000 1200 20 40 := by
    constructor <;> decide
  obtain ⟨-, -, hskew⟩ := lip_sync rfl rfl (by decide) hr htick hlastV hlastA
    (hvreport.reported hvmem) (hareport.reported hamem) hvplace haplace
  refine ⟨h, s, out, _, _, hr, hevents, htick, hvreport.reported hvmem,
    hareport.reported hamem, ?_⟩
  have hdelays : ((1100 : UInt64).toNat - (40 : Int) : ℚ) - ((1000 : UInt64).toNat - (20 : Int)) =
      80 := by
    rw [show (1100 : UInt64).toNat = 1100 from rfl, show (1000 : UInt64).toNat = 1000 from rfl]
    norm_num
  rw [← hdelays]
  exact hskew

end Samples

end MediaStream

end WebrtcServer
