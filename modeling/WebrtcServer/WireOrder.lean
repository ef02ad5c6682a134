/-
# `WireOrder` — the order in which the packets of a media stream go out

A receiver that gets all packets of a media stream, in the order in which
they are sent, gets the packets of each SSRC by number: those that are sent
for the first time one after the other from 0 on, and so the packets of an
RTX stream.  What is sent again without RTX repeats a number of its SSRC,
and none that is far behind, since the slots of the send buffer are used
again.  That is all that goes out (`run_orderly`), and what a receiver keeps
of it are the packets that were emitted, and the packets of the RTX streams.
-/
import WebrtcServer.Lib.Numbering
import WebrtcServer.MediaTakes

namespace WebrtcServer

open Lib

/-! ## RTP packets by their numbers -/

def rtpHeader (data : ByteString) : RtpHeader := RtpHeader.decode (Memory.ofList data)

theorem ofNat_ne {j n : ℕ} (hlt : j < n) (hle : n ≤ j + 32768) :
    UInt16.ofNat j ≠ UInt16.ofNat n := by
  intro heq
  have hnat := congrArg UInt16.toNat heq
  simp only [UInt16.toNat_ofNat'] at hnat
  omega

/-- A sequence number is told apart from those half a cycle behind. -/
def rtpNumbers : Numbering ByteString UInt32 UInt16 where
  stream data := (rtpHeader data).ssrc
  number data := (rtpHeader data).sequenceNumber
  nth := UInt16.ofNat
  window := 32768
  nth_ne := ofNat_ne

/-- A packet with the fixed header and nothing else in front of the payload. -/
structure IsRtp (data : ByteString) : Prop where
  fixed_le : kRtpHeaderFixedSize ≤ data.length
  version : (rtpHeader data).version = 2
  extension : (rtpHeader data).extension = 0
  csrcCount : (rtpHeader data).csrcCount = 0

/-- What `data` is, as an RTP packet. -/
structure Sent (ssrc : UInt32) (number : UInt16) (data : ByteString) : Prop where
  isRtp : IsRtp data
  stream : rtpNumbers.stream data = ssrc
  number : rtpNumbers.number data = number

section Packets

variable {params : RtpParams} {p : RtpPacket} {r : Resent} {seq : UInt16} {n : ℕ}
  {payloadType : UInt8}

theorem RtpPacket.WellFormed.bytes_header (hp : p.WellFormed) :
    rtpHeader p.bytes = RtpHeader.decode p.data :=
  (decode_sent p.data p.size.toNat (hp.headerOffset_eq ▸ hp.headerOffset_le)).1

theorem AnyPacketizer.Nth.sent {ssrc : UInt32} (h : AnyPacketizer.Nth ssrc payloadType n p) :
    Sent ssrc (UInt16.ofNat n) p.bytes := by
  have hheader := h.wellFormed.bytes_header.trans h.header
  have hlen : kRtpHeaderFixedSize ≤ p.bytes.length := by
    rw [RtpPacket.bytes, window_length, h.size]
    exact Nat.le_add_right _ _
  exact ⟨⟨hlen, by rw [hheader], by rw [hheader], by rw [hheader]⟩,
    congrArg RtpHeader.ssrc hheader, congrArg RtpHeader.sequenceNumber hheader⟩

theorem StreamTrack.Carries.sent {ssrc : UInt32} (hp : AnyPacketizer.Nth ssrc payloadType n p)
    (h : StreamTrack.Carries params p seq r) : Sent params.rtxSsrc seq r.bytes := by
  have hle := hp.wellFormed.headerOffset_le
  have hheader : rtpHeader r.bytes = RtpHeader.decode r.pkt.data :=
    (decode_sent r.pkt.data r.pkt.size.toNat (by rw [h.form.wireLength, h.size]; omega)).1
  rw [h.form.header, hp.header] at hheader
  have hlen : kRtpHeaderFixedSize ≤ r.bytes.length := by
    rw [Resent.bytes, window_length, h.size, hp.size]
    omega
  exact ⟨⟨hlen, by rw [hheader], by rw [hheader], by rw [hheader]⟩,
    congrArg RtpHeader.ssrc hheader, congrArg RtpHeader.sequenceNumber hheader⟩

end Packets

/-! ## What is sent again -/

namespace StreamTrack

variable {params : RtpParams} {ws : List RtpPacket} {p : RtpPacket} {slot : Slot}

/-- A packet that is still the latest of its slot is none of the oldest. -/
theorem Numbered.recent (hn : Numbered 0 ws) (hp : latest ws slot = some p) :
    ∃ j, ∃ hj : j < ws.length, ws[j] = p ∧ ws.length ≤ j + 2 * kSendBufferCapacity := by
  obtain ⟨j, hj, rfl, hslot, hlater⟩ := latestIn_eq_some_iff_getElem.mp hp
  refine ⟨j, hj, rfl, ?_⟩
  by_contra hold
  simp only [kSendBufferCapacity, not_le] at hold
  -- the slot comes again within 1000 numbers, or within 1000 after the wrap
  obtain ⟨i, hlt, hle, hagain⟩ : ∃ i, j < i ∧ i ≤ j + 2000 ∧
      i % 65536 % 1000 = j % 65536 % 1000 := by
    by_cases hwrap : j % 65536 + 1000 < 65536
    · exact ⟨j + 1000, by omega, by omega, by omega⟩
    · exact ⟨j + (65536 - j % 65536) + j % 65536 % 1000, by omega, by omega, by omega⟩
  have hi : i < ws.length := by omega
  refine hlater i hi hlt ?_
  rw [← hslot]
  refine Fin.ext ?_
  rw [hn.slot hi, hn.slot hj]
  simpa [ringSlot, kSendBufferCapacity] using hagain

end StreamTrack

namespace StreamTrack

/-- The packets are the stream of the track. -/
def IsStream (params : RtpParams) (ws : List RtpPacket) : Prop :=
  ∀ n (hn : n < ws.length), AnyPacketizer.Nth params.ssrc params.payloadType n ws[n]

/-- What a receiver has of the streams of a track: the packets handed to the
track, and the packets of its RTX stream. -/
structure Kept (params : RtpParams) (h : List (Event × List Resent)) (had : List ByteString) :
    Prop where
  originals : rtpNumbers.ofStream had params.ssrc = (received h).map RtpPacket.bytes
  rtx : params.isRtxEnabled = true →
    rtpNumbers.ofStream had params.rtxSsrc = (outputs h).map Resent.bytes

/-- The packets of a call are of the track, come in order, and are kept. -/
structure GoesOut (params : RtpParams) (h : List (Event × List Resent))
    (had sent : List ByteString) : Prop where
  isRtp : ∀ data ∈ sent, IsRtp data
  ssrcs : ∀ data ∈ sent, rtpNumbers.stream data ∈ params.ssrcs
  orderly : rtpNumbers.Orderly had sent
  kept : Kept params h (sent.foldl rtpNumbers.keep had)

section Calls

variable {params : RtpParams} {ws : List RtpPacket} {h : List (Event × List Resent)}
  {t t' : StreamTrack} {e : Event} {out : List Resent} {had : List ByteString} {pkt : RtpPacket}

theorem IsStream.of_append {ws' : List RtpPacket} (hs : IsStream params (ws ++ ws')) :
    IsStream params ws := by
  intro n hn
  have hnth := hs n (by rw [List.length_append]; omega)
  rwa [List.getElem_append_left hn] at hnth

theorem IsStream.last (hs : IsStream params (ws ++ [pkt])) :
    AnyPacketizer.Nth params.ssrc params.payloadType ws.length pkt := by
  have hnth := hs ws.length (by simp)
  rwa [List.getElem_concat_length rfl] at hnth

theorem IsStream.mem (hs : IsStream params ws) (hp : pkt ∈ ws) :
    ∃ n, AnyPacketizer.Nth params.ssrc params.payloadType n pkt := by
  obtain ⟨n, hn, rfl⟩ := List.getElem_of_mem hp
  exact ⟨n, hs n hn⟩

theorem IsStream.ssrc_eq (hs : IsStream params ws) (hp : pkt ∈ ws) : pkt.ssrc = params.ssrc := by
  obtain ⟨n, hn⟩ := hs.mem hp
  rw [← hn.wellFormed.ssrc_eq, hn.header]

theorem IsStream.numbered (hs : IsStream params ws) : Numbered 0 ws := by
  intro i hi
  have hnth := hs i hi
  rw [← hnth.wellFormed.sequenceNumber_eq, hnth.header, UInt16.zero_add]

theorem ssrc_mem (params : RtpParams) : params.ssrc ∈ params.ssrcs := List.mem_cons_self

theorem rtxSsrc_mem (hrtx : params.isRtxEnabled = true) : params.rtxSsrc ∈ params.ssrcs := by
  simp [RtpParams.ssrcs, hrtx]

/-- A packet that is handed over goes out as the next one. -/
theorem goesOut_first (hne : params.isRtxEnabled = true → params.rtxSsrc ≠ params.ssrc)
    (hk : Kept params h had)
    (hnth : AnyPacketizer.Nth params.ssrc params.payloadType (received h).length pkt)
    {heap : Memory} {now : UInt64} :
    GoesOut params (h ++ [(.receivePacket heap now pkt, [])]) had [pkt.bytes] := by
  have hsent := hnth.sent
  have hstream : ∀ data ∈ [pkt.bytes], rtpNumbers.stream data = params.ssrc := by
    intro data hdata
    rw [List.mem_singleton.mp hdata, hsent.stream]
  have hcount : (rtpNumbers.ofStream had params.ssrc).length = (received h).length := by
    rw [hk.originals, List.length_map]
  obtain ⟨horderly, hkept⟩ := Numbering.orderly_of_next had hstream fun i hi => by
    obtain rfl : i = 0 := by simpa using hi
    rw [hcount, Nat.add_zero]
    exact hsent.number
  refine ⟨?_, ?_, horderly, ?_, ?_⟩
  · intro data hdata
    rw [List.mem_singleton.mp hdata]
    exact hsent.isRtp
  · intro data hdata
    rw [hstream data hdata]
    exact ssrc_mem params
  · rw [hkept, Numbering.ofStream_append_self hstream, hk.originals]
    simp [received, handed]
  · intro hrtx
    rw [hkept, Numbering.ofStream_append_other hstream (hne hrtx).symm, hk.rtx hrtx]
    simp

/-- What is resent over RTX goes out as the next packets of the RTX stream. -/
theorem goesOut_rtx (hrtx : params.isRtxEnabled = true) (hne : params.rtxSsrc ≠ params.ssrc)
    (hk : Kept params h had) (he : handed e = none)
    (hsent : ∀ i (hi : i < out.length),
      Sent params.rtxSsrc (UInt16.ofNat ((outputs h).length + i)) out[i].bytes) :
    GoesOut params (h ++ [(e, out)]) had (out.map Resent.bytes) := by
  have hall : ∀ data ∈ out.map Resent.bytes, ∃ number, Sent params.rtxSsrc number data := by
    intro data hdata
    obtain ⟨r, hr, rfl⟩ := List.mem_map.mp hdata
    obtain ⟨i, hi, rfl⟩ := List.getElem_of_mem hr
    exact ⟨_, hsent i hi⟩
  have hstream : ∀ data ∈ out.map Resent.bytes, rtpNumbers.stream data = params.rtxSsrc := by
    intro data hdata
    obtain ⟨number, hdata⟩ := hall data hdata
    exact hdata.stream
  have hcount : (rtpNumbers.ofStream had params.rtxSsrc).length = (outputs h).length := by
    rw [hk.rtx hrtx, List.length_map]
  obtain ⟨horderly, hkept⟩ := Numbering.orderly_of_next had hstream fun i hi => by
    rw [hcount, List.getElem_map]
    exact (hsent i (by simpa using hi)).number
  refine ⟨?_, ?_, horderly, ?_, ?_⟩
  · intro data hdata
    obtain ⟨number, hdata⟩ := hall data hdata
    exact hdata.isRtp
  · intro data hdata
    rw [hstream data hdata]
    exact rtxSsrc_mem hrtx
  · rw [hkept, Numbering.ofStream_append_other hstream hne, hk.originals]
    simp [received, he]
  · intro _
    rw [hkept, Numbering.ofStream_append_self hstream, hk.rtx hrtx, outputs_snoc, List.map_append]

/-- What is resent without RTX repeats packets that were handed over. -/
theorem goesOut_plain (hoff : params.isRtxEnabled = false) (hk : Kept params h had)
    (hs : IsStream params (received h)) (he : handed e = none)
    (hagain : ∀ r ∈ out, ∃ j, ∃ hj : j < (received h).length, r.bytes = (received h)[j].bytes ∧
      (received h).length ≤ j + 2 * kSendBufferCapacity) :
    GoesOut params (h ++ [(e, out)]) had (out.map Resent.bytes) := by
  have hall : ∀ data ∈ out.map Resent.bytes, IsRtp data ∧
      rtpNumbers.stream data = params.ssrc ∧ rtpNumbers.IsAgain had data := by
    intro data hdata
    obtain ⟨r, hr, rfl⟩ := List.mem_map.mp hdata
    obtain ⟨j, hj, hbytes, hle⟩ := hagain r hr
    have hsent := (hs j hj).sent
    have hcount : (rtpNumbers.ofStream had params.ssrc).length = (received h).length := by
      rw [hk.originals, List.length_map]
    rw [hbytes]
    refine ⟨hsent.isRtp, hsent.stream, j, ?_, ?_, hsent.number⟩
    · rwa [hsent.stream, hcount]
    · rw [hsent.stream, hcount]
      exact hle.trans (Nat.add_le_add_left (by decide) j)
  obtain ⟨horderly, hkept⟩ := Numbering.orderly_of_again fun data hdata => (hall data hdata).2.2
  refine ⟨fun data hdata => (hall data hdata).1, ?_, horderly, ?_, ?_⟩
  · intro data hdata
    rw [(hall data hdata).2.1]
    exact ssrc_mem params
  · rw [hkept, hk.originals]
    simp [received, he]
  · intro hrtx
    rw [hoff] at hrtx
    cases hrtx

/-- What a call of the track puts on the wire. -/
theorem step_goesOut (hnack : params.isNackEnable = true)
    (hne : params.isRtxEnabled = true → params.rtxSsrc ≠ params.ssrc)
    (hr : Run step SendsWellFormed (new params) h t) (he : SendsWellFormed t e)
    (hstep : step t e = .ok (t', out)) (hs : IsStream params (received (h ++ [(e, out)])))
    (hk : Kept params h had) :
    GoesOut params (h ++ [(e, out)]) had
      (((handed e).map RtpPacket.bytes).toList ++ out.map Resent.bytes) := by
  have hreceived : received (h ++ [(e, out)]) = received h ++ (handed e).toList := by
    cases hh : handed e <;> simp [received, hh]
  rw [hreceived] at hs
  have hsent : sent params h = received h :=
    sent_eq_received hnack fun pkt hpkt => hs.of_append.ssrc_eq hpkt
  obtain ⟨hb, hcount⟩ := run_buffered hr
  obtain ⟨t₁, out₁, hok, -, -, hans⟩ := step_spec hb e he
  rw [hstep] at hok
  cases hok
  cases hh : handed e with
  | some pkt =>
      rw [hh] at hs
      cases e with
      | receivePacket heap now pkt' =>
          cases hh
          simp only [step] at hstep
          split at hstep
          · cases hstep
          · cases hstep
            exact goesOut_first hne hk hs.last
      | receiveNack clock nack => cases hh
      | receiveReceiverReport now block => cases hh
  | none =>
      rw [hh, Option.toList_none, List.append_nil] at hs
      simp only [Option.map_none, Option.toList_none, List.nil_append]
      by_cases hrtx : params.isRtxEnabled = true
      · refine goesOut_rtx hrtx (hne hrtx) hk hh ?_
        intro i hi
        obtain ⟨p, hp, hcarries⟩ := (hans i hi).carries hrtx hb.wellFormed
        obtain ⟨n, hnth⟩ := hs.mem (hsent ▸ (latestIn_mem hp).1)
        rw [hcount hrtx, ← UInt16.ofNat_add] at hcarries
        exact hcarries.sent hnth
      · have hoff : params.isRtxEnabled = false := eq_false_of_ne_true hrtx
        refine goesOut_plain hoff hk hs hh ?_
        intro r hrmem
        obtain ⟨i, hi, rfl⟩ := List.getElem_of_mem hrmem
        obtain ⟨p, hp, hstores, -⟩ := hans i hi
        have hplain := (step_plain (run_plain hr) hstep).2.2 (hb.params_eq ▸ hoff) _ hrmem
        rw [hsent] at hp
        obtain ⟨j, hj, rfl, hle⟩ := hs.numbered.recent hp
        exact ⟨j, hj, hstores.bytes_eq hplain, hle⟩

end Calls

end StreamTrack

namespace StreamTrack

/-- Packets of other streams change nothing. -/
theorem Kept.append {params : RtpParams} {h : List (Event × List Resent)}
    {had new : List ByteString} (hk : Kept params h had)
    (hother : ∀ data ∈ new, rtpNumbers.stream data ∉ params.ssrcs) :
    Kept params h (had ++ new) := by
  have hnone : ∀ ssrc ∈ params.ssrcs, rtpNumbers.ofStream new ssrc = [] := by
    intro ssrc hssrc
    refine Numbering.ofStream_other ?_
    rintro data hdata rfl
    exact hother data hdata hssrc
  refine ⟨?_, ?_⟩
  · rw [Numbering.ofStream_append, hk.originals, hnone _ (ssrc_mem params), List.append_nil]
  · intro hrtx
    rw [Numbering.ofStream_append, hk.rtx hrtx, hnone _ (rtxSsrc_mem hrtx), List.append_nil]

end StreamTrack

/-! ## Runs -/

namespace MediaStream

section Wires

variable {rtpTimestamp : Int → UInt32 → UInt32} {video audio params params' : RtpParams}
  {videoBuf audioBuf rtpBuf : Memory} {h : List (Event × List MediaOutput)} {s s' : MediaStream}
  {log : List TrackCall} {out : List MediaOutput} {e : Event} {g : UInt32 → Option StreamTrack}

/-- One of the two. -/
def IsTrack (video audio params : RtpParams) : Prop := params = video ∨ params = audio

theorem IsTrack.family (hp : IsTrack video audio params) (hssrcs : SsrcsDiffer video audio) :
    family (withTracks video audio videoBuf audioBuf) params.ssrc = some (.new params) := by
  rcases hp with rfl | rfl
  · exact family_video hssrcs.ssrc_ne
  · exact family_audio

theorem IsTrack.nodup (hp : IsTrack video audio params) (hssrcs : SsrcsDiffer video audio) :
    params.ssrcs.Nodup := by
  rcases hp with rfl | rfl
  · exact hssrcs.of_append_left
  · exact hssrcs.of_append_right

/-- It is the same track, or its SSRCs are others. -/
theorem IsTrack.eq_or_disjoint (hp : IsTrack video audio params)
    (hp' : IsTrack video audio params') (hssrcs : SsrcsDiffer video audio) :
    params = params' ∨ (params.ssrc ≠ params'.ssrc ∧ params.ssrcs.Disjoint params'.ssrcs) := by
  have hne := hssrcs.ssrc_ne
  rcases hp with rfl | rfl <;> rcases hp' with rfl | rfl
  · exact Or.inl rfl
  · exact Or.inr ⟨hne, hssrcs.disjoint⟩
  · exact Or.inr ⟨hne.symm, List.disjoint_symm hssrcs.disjoint⟩
  · exact Or.inl rfl

/-- What the calls have put on the wire. -/
structure Wired (video audio : RtpParams) (log : List TrackCall) : Prop where
  isRtp : ∀ data ∈ log.flatMap wire, IsRtp data
  orderly : rtpNumbers.Orderly [] (log.flatMap wire)
  kept : ∀ params, IsTrack video audio params → StreamTrack.Kept params (own params.ssrc log)
    (rtpNumbers.unrepeated (log.flatMap wire))

/-- The next call puts packets of one track on the wire, and they come in
order behind all others. -/
theorem Wired.snoc (hssrcs : SsrcsDiffer video audio) (hw : Wired video audio log)
    {c : TrackCall} (hp : IsTrack video audio params) (hkey : c.key = params.ssrc)
    (hgo : StreamTrack.GoesOut params (own params.ssrc log ++ [(c.event, c.out)])
      (rtpNumbers.unrepeated (log.flatMap wire)) (wire c)) :
    Wired video audio (log ++ [c]) := by
  have hwire : (log ++ [c]).flatMap wire = log.flatMap wire ++ wire c := by simp
  obtain ⟨key, e, out⟩ := c
  refine ⟨?_, ?_, ?_⟩
  · intro data hdata
    rw [hwire] at hdata
    rcases List.mem_append.mp hdata with hdata | hdata
    · exact hw.isRtp data hdata
    · exact hgo.isRtp data hdata
  · rw [hwire]
    exact Numbering.orderly_append.mpr ⟨hw.orderly, hgo.orderly⟩
  · intro params' hp'
    rw [hwire, Numbering.unrepeated_append, own_append]
    rcases hp.eq_or_disjoint hp' hssrcs with rfl | ⟨hne, hdisjoint⟩
    · have hkey : key = params.ssrc := hkey
      subst hkey
      rw [own_cons_self, own_nil]
      exact hgo.kept
    · have hother : key ≠ params'.ssrc := fun hkey' => hne (hkey.symm.trans hkey')
      obtain ⟨new, hnew, hsub⟩ := Numbering.foldl_keep_sublist (k := rtpNumbers)
        (rtpNumbers.unrepeated (log.flatMap wire)) (wire ⟨key, e, out⟩)
      rw [own_cons_ne hother, own_nil, List.append_nil, hnew]
      refine (hw.kept params' hp').append ?_
      intro data hdata hmem
      exact hdisjoint (hgo.ssrcs data (hsub.subset hdata)) hmem

/-- All calls put on the wire, of each track, the packets handed to it and
repeats; the induction is on the last call. -/
theorem calls_wired (hssrcs : SsrcsDiffer video audio)
    (hnack : ∀ params, IsTrack video audio params → params.isNackEnable = true)
    (hcalls : Calls StreamTrack.step StreamTrack.SendsWellFormed
      (family (withTracks video audio videoBuf audioBuf)) log g)
    (hstreams : ∀ params, IsTrack video audio params →
      StreamTrack.IsStream params (StreamTrack.received (own params.ssrc log))) :
    Wired video audio log := by
  induction log using List.reverseRecOn generalizing g with
  | nil => exact ⟨by simp, trivial, fun _ _ => ⟨rfl, fun _ => rfl⟩⟩
  | append_singleton log c ih =>
      obtain ⟨k, hbefore, hlast⟩ := hcalls.cut
      have hw := ih hbefore fun params hp => by
        have hstream := hstreams params hp
        rw [own_append, StreamTrack.received, List.filterMap_append] at hstream
        exact hstream.of_append
      obtain ⟨params, hp, hkey⟩ : ∃ params, IsTrack video audio params ∧ c.key = params.ssrc := by
        rcases key_of_member (hcalls.member c (by simp)) with hkey | hkey
        · exact ⟨video, Or.inl rfl, hkey⟩
        · exact ⟨audio, Or.inr rfl, hkey⟩
      obtain ⟨t, ht, hrun⟩ := hbefore.run (hp.family hssrcs)
      cases hlast with
      | @cons f _ key t₁ t' e resent _ ht₁ he hstep _ =>
          have hkey : key = params.ssrc := hkey
          subst hkey
          obtain rfl : t = t₁ := Option.some.inj (ht.symm.trans ht₁)
          refine hw.snoc hssrcs hp rfl ?_
          have hstream := hstreams params hp
          rw [own_append, own_cons_self, own_nil] at hstream
          exact StreamTrack.step_goesOut (hnack params hp) (rtxSsrc_ne (hp.nodup hssrcs)) hrun he
            hstep hstream (hw.kept params hp)

/-- What the packetizer of a track emits is its stream. -/
theorem emitted_isStream {packets : List MediaPacket} {pkts : List RtpPacket}
    (h : emitted rtpTimestamp params rtpBuf packets = .ok pkts) :
    StreamTrack.IsStream params pkts := by
  simp only [emitted] at h
  cases hall : runAll (AnyPacketizer.pack rtpTimestamp) (packetizerOf params rtpBuf) packets with
  | error f =>
      rw [hall] at h
      cases h
  | ok r =>
      rw [hall] at h
      cases h
      have hr := (run_of_runAll _ _ _ hall).1
      simp only [packetizerOf] at hr
      split at hr <;> exact (AnyPacketizer.run_stream hr).1.nth

/-- In every run the RTP packets go out in order, and what a receiver keeps
of them is, under the SSRC of each track, what its packetizer emits. -/
theorem run_orderly (hv : video.mediaType = .video) (ha : audio.mediaType = .audio)
    (hssrcs : SsrcsDiffer video audio)
    (hnack : ∀ params, IsTrack video audio params → params.isNackEnable = true)
    (hr : Run (step rtpTimestamp) KeepsTracks (withTracks video audio videoBuf audioBuf) h s) :
    (∀ data ∈ rtpSends (outputs h), IsRtp data) ∧
    rtpNumbers.Orderly [] (rtpSends (outputs h)) ∧
    ∃ videoPkts audioPkts,
      emitted rtpTimestamp video videoBuf (fed .video h) = .ok videoPkts ∧
      emitted rtpTimestamp audio audioBuf (fed .audio h) = .ok audioPkts ∧
      rtpNumbers.ofStream (rtpNumbers.unrepeated (rtpSends (outputs h))) video.ssrc =
        videoPkts.map RtpPacket.bytes ∧
      rtpNumbers.ofStream (rtpNumbers.unrepeated (rtpSends (outputs h))) audio.ssrc =
        audioPkts.map RtpPacket.bytes := by
  obtain ⟨log, hplays, hvideo, haudio⟩ := run_plays hv ha hssrcs.ssrc_ne hr
  have hstreams : ∀ params, IsTrack video audio params →
      StreamTrack.IsStream params (StreamTrack.received (own params.ssrc log)) := by
    rintro params (rfl | rfl)
    · exact emitted_isStream hvideo
    · exact emitted_isStream haudio
  have hw := calls_wired hssrcs hnack hplays.calls hstreams
  rw [hplays.sends]
  exact ⟨hw.isRtp, hw.orderly, _, _, hvideo, haudio,
    (hw.kept video (Or.inl rfl)).originals, (hw.kept audio (Or.inr rfl)).originals⟩

/-- The RTCP packets that are sent are sender reports. -/
theorem step_reports (he : adds e = none) (hstep : s.step rtpTimestamp e = .ok (s', out))
    {data : ByteString} (hdata : .rtcpPacketSend data ∈ out) :
    SenderReportPacket.IsSenderReport data := by
  by_cases htick : ∃ buffer now, e = .timerTimeout buffer now
  · obtain ⟨buffer, now, rfl⟩ := htick
    obtain ⟨ssrc, t, sr, -, -, hsr⟩ := (mem_onTimerTimeout hstep).mp hdata
    cases hsr
    exact sr.bytes_isSenderReport
  · have hrtp := step_allRtp he (fun buffer now h => htick ⟨buffer, now, h⟩) hstep
    cases hrtp _ hdata

/-- What a step gives out, behind the RTP packets that a receiver has. -/
structure GoOut (had : List ByteString) (out : List MediaOutput) : Prop where
  isRtp : ∀ data ∈ rtpSends out, IsRtp data
  orderly : rtpNumbers.Orderly had (rtpSends out)
  reports : ∀ data, .rtcpPacketSend data ∈ out → SenderReportPacket.IsSenderReport data
  length_le : ∀ o ∈ out, (outputData o).length ≤ kRtpBufferSize + 2

theorem GoOut.tail {had : List ByteString} {o : MediaOutput} (h : GoOut had (o :: out)) :
    GoOut ((rtpSends [o]).foldl rtpNumbers.keep had) out := by
  have hlength := (List.forall_mem_cons.mp h.length_le).2
  have hreports : ∀ data, .rtcpPacketSend data ∈ out → SenderReportPacket.IsSenderReport data :=
    fun data hdata => h.reports data (List.mem_cons_of_mem o hdata)
  have hisRtp := h.isRtp
  have horderly := h.orderly
  rw [← List.singleton_append, rtpSends_append] at hisRtp horderly
  exact ⟨fun data hdata => hisRtp data (List.mem_append_right _ hdata),
    (Numbering.orderly_append.mp horderly).2, hreports, hlength⟩

/-- A step of a run goes on where the run has ended. -/
theorem run_goOut (hv : video.mediaType = .video) (ha : audio.mediaType = .audio)
    (hssrcs : SsrcsDiffer video audio)
    (hnack : ∀ params, IsTrack video audio params → params.isNackEnable = true)
    (hr : Run (step rtpTimestamp) KeepsTracks (withTracks video audio videoBuf audioBuf) h s)
    (he : adds e = none) (hstep : s.step rtpTimestamp e = .ok (s', out)) :
    GoOut (rtpNumbers.unrepeated (rtpSends (outputs h))) out := by
  obtain ⟨hisRtp, horderly, -⟩ := run_orderly hv ha hssrcs hnack (hr.snoc he hstep)
  rw [outputs_snoc, rtpSends_append] at hisRtp horderly
  exact ⟨fun data hdata => hisRtp data (List.mem_append_right _ hdata),
    (Numbering.orderly_append.mp horderly).2, fun data => step_reports he hstep,
    run_step_length hv ha hssrcs.ssrc_ne hr he hstep⟩

end Wires

end MediaStream

end WebrtcServer
