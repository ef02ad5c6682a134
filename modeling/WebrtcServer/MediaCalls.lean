/-
# `MediaCalls` — a media stream as a family of tracks

Whatever a media stream does, it does by calls of its tracks: a packet that
was generated goes to the track of its SSRC, a NACK to the track of the
media SSRC, a report block to the track of the source.  `step_calls` gives
the calls of one step and `run_calls` those of a run; the RTP packets that
are sent are what the calls put on the wire, and each track lives a run of
its own among them.
-/
import WebrtcServer.Lib.Family
import WebrtcServer.ReportCounts

namespace WebrtcServer

open Lib

abbrev TrackCall := Call UInt32 StreamTrack.Event Resent

namespace StreamTrack

/-- The packet that an event hands to the track. -/
def handed : Event → Option RtpPacket
  | .receivePacket _ _ pkt => some pkt
  | _ => none

/-- The packets handed to the track, in order. -/
def received (h : List (Event × List Resent)) : List RtpPacket := h.filterMap fun x => handed x.1

/-- A track that keeps packets keeps all that have its SSRC. -/
theorem sent_eq_received {params : RtpParams} (hnack : params.isNackEnable = true)
    {h : List (Event × List Resent)} (hssrc : ∀ pkt ∈ received h, pkt.ssrc = params.ssrc) :
    sent params h = received h := by
  refine List.filterMap_congr ?_
  rintro ⟨e, out⟩ hmem
  cases e with
  | receivePacket heap now pkt =>
      have hpkt := hssrc pkt (List.mem_filterMap.mpr ⟨_, hmem, rfl⟩)
      exact if_pos ⟨hpkt, hnack⟩
  | receiveNack clock nack => rfl
  | receiveReceiverReport now block => rfl

end StreamTrack

/-- The bytes of a packet, as they are sent. -/
def RtpPacket.bytes (pkt : RtpPacket) : ByteString := window pkt.data 0 pkt.size.toNat

def Resent.bytes (r : Resent) : ByteString := window r.pkt.data 0 r.pkt.size.toNat

namespace MediaStream

/-- The tracks by their SSRC. -/
def family (s : MediaStream) (ssrc : UInt32) : Option StreamTrack :=
  (s.streamTracks.lookup ssrc).join

/-- The RTP packets among what is sent. -/
def rtpSends (out : List MediaOutput) : List ByteString :=
  out.filterMap fun
    | .rtpPacketSend data => some data
    | .rtcpPacketSend _ => none

@[simp] theorem rtpSends_append (out out' : List MediaOutput) :
    rtpSends (out ++ out') = rtpSends out ++ rtpSends out' := List.filterMap_append

/-- What a call puts on the wire: the packet handed over, and the packets
resent. -/
def wire (c : TrackCall) : List ByteString :=
  ((StreamTrack.handed c.event).map RtpPacket.bytes).toList ++ c.out.map Resent.bytes

/-- The packets handed to the tracks, in order. -/
def generated (log : List TrackCall) : List RtpPacket :=
  log.filterMap fun c => StreamTrack.handed c.event

@[simp] theorem generated_append (log log' : List TrackCall) :
    generated (log ++ log') = generated log ++ generated log' := List.filterMap_append

section Steps

variable {s s' : MediaStream} {out : List MediaOutput} {ssrc : UInt32}

theorem family_insert (s : MediaStream) (ssrc : UInt32) (t : StreamTrack) :
    family { s with streamTracks := s.streamTracks.insert ssrc (some t) } =
      Function.update s.family ssrc (some t) := by
  funext ssrc'
  by_cases heq : ssrc' = ssrc
  · subst heq
    simp [family]
  · simp [family, heq, AList.lookup_insert_ne]

/-- The calls of the tracks that lead from `s` to `s'`, with the packets
sent. -/
structure Plays (s : MediaStream) (log : List TrackCall) (out : List MediaOutput)
    (s' : MediaStream) : Prop where
  calls : Calls StreamTrack.step StreamTrack.SendsWellFormed s.family log s'.family
  sends : rtpSends out = log.flatMap wire
  keys : ∀ c ∈ log, ∀ pkt, StreamTrack.handed c.event = some pkt → pkt.ssrc = c.key

theorem Plays.nil (s : MediaStream) : Plays s [] [] s := ⟨.nil _, rfl, by simp⟩

theorem Plays.trans {s'' : MediaStream} {log log' : List TrackCall} {out' : List MediaOutput}
    (h : Plays s log out s') (h' : Plays s' log' out' s'') :
    Plays s (log ++ log') (out ++ out') s'' := by
  refine ⟨h.calls.trans h'.calls, ?_, ?_⟩
  · rw [rtpSends_append, h.sends, h'.sends, List.flatMap_append]
  · intro c hc
    rcases List.mem_append.mp hc with hc | hc
    · exact h.keys c hc
    · exact h'.keys c hc

/-- Calls that hand over no packet. -/
theorem Plays.of_quiet {log : List TrackCall}
    (hcalls : Calls StreamTrack.step StreamTrack.SendsWellFormed s.family log s'.family)
    (hsends : rtpSends out = log.flatMap wire) (hquiet : generated log = []) :
    Plays s log out s' := by
  refine ⟨hcalls, hsends, ?_⟩
  intro c hc pkt hpkt
  exact absurd hpkt (by simp [List.filterMap_eq_nil_iff.mp hquiet c hc])

/-- The packets handed to a track are those generated with its SSRC. -/
theorem Plays.received_own {log : List TrackCall} (h : Plays s log out s') (ssrc : UInt32) :
    StreamTrack.received (own ssrc log) = (generated log).filter fun pkt => pkt.ssrc = ssrc := by
  have hkeys := h.keys
  clear h
  induction log with
  | nil => rfl
  | cons c log ih =>
      obtain ⟨hc, hrest⟩ := List.forall_mem_cons.mp hkeys
      obtain ⟨key, e, resent⟩ := c
      have hnext := ih hrest
      simp only [StreamTrack.received, generated] at hnext hc ⊢
      by_cases heq : key = ssrc
      · subst heq
        rw [own_cons_self]
        cases hh : StreamTrack.handed e with
        | none => simpa [hh] using hnext
        | some pkt => simpa [hh, hc pkt hh] using hnext
      · rw [own_cons_ne heq, hnext]
        cases hh : StreamTrack.handed e with
        | none => simp [hh]
        | some pkt => simp [hh, hc pkt hh, heq]

theorem rtpSends_resent (resent : List Resent) :
    rtpSends (resent.map onStreamTrackResendPacket) = resent.map Resent.bytes := by
  rw [rtpSends, List.filterMap_map]
  exact congrFun List.filterMap_eq_map resent

/-- One call of a track. -/
theorem callTrack_calls {e : StreamTrack.Event}
    (h : s.callTrack ssrc (fun t => t.step e) = .ok (s', out))
    (he : ∀ t, StreamTrack.SendsWellFormed t e) :
    ∃ resent, out = resent.map onStreamTrackResendPacket ∧
      Calls StreamTrack.step StreamTrack.SendsWellFormed s.family [⟨ssrc, e, resent⟩] s'.family := by
  simp only [callTrack, index] at h
  cases hlookup : s.streamTracks.lookup ssrc with
  | none =>
      simp only [hlookup] at h
      cases h
  | some entry =>
      simp only [hlookup] at h
      cases entry with
      | none => cases h
      | some t =>
          simp only at h
          split at h
          · cases h
          next t' resent hstep =>
            cases h
            refine ⟨resent, rfl, ?_⟩
            rw [family_insert]
            exact .single (by rw [family, hlookup]; rfl) (he t) hstep

/-! ## Sending -/

/-- A packet that was generated is sent, and nothing is resent for it. -/
theorem onRtpPacketGenerated_plays {heap : Memory} {now : UInt64} {pkt : RtpPacket}
    (hwf : pkt.WellFormed) (h : s.onRtpPacketGenerated heap now pkt = .ok (s', out)) :
    Plays s [⟨pkt.ssrc, .receivePacket heap now pkt, []⟩] out s' := by
  simp only [onRtpPacketGenerated] at h
  split at h
  · cases h
  next s₁ out₁ hcall =>
    cases h
    obtain ⟨resent, rfl, hcalls⟩ := callTrack_calls hcall fun _ => by
      rintro _ _ _ ⟨⟩
      exact hwf
    obtain rfl : resent = [] := by
      cases hcalls with
      | cons _ _ hstep _ =>
          simp only [StreamTrack.step] at hstep
          split at hstep
          · cases hstep
          · cases hstep
            rfl
    refine ⟨hcalls, rfl, ?_⟩
    intro c hc
    rw [List.mem_singleton.mp hc]
    rintro _ ⟨⟩
    rfl

/-- The packets of one `Pack` go to their tracks one by one. -/
theorem onRtpPacketsGenerated_plays {heap : Memory} {clock : Nat → UInt64}
    {pkts : List RtpPacket} (hwf : ∀ pkt ∈ pkts, pkt.WellFormed)
    (h : onRtpPacketsGenerated heap clock s pkts = .ok (s', out)) :
    ∃ log, Plays s log out s' ∧ generated log = pkts ∧
      rtpSends out = pkts.map RtpPacket.bytes := by
  induction pkts generalizing clock s out with
  | nil =>
      cases h
      exact ⟨[], .nil _, rfl, rfl⟩
  | cons pkt pkts ih =>
      obtain ⟨hpkt, hrest⟩ := List.forall_mem_cons.mp hwf
      simp only [onRtpPacketsGenerated] at h
      split at h
      · cases h
      next s₁ out₁ hfirst =>
        split at h
        · cases h
        next s₂ out₂ hpkts =>
          cases h
          have hplays := onRtpPacketGenerated_plays hpkt hfirst
          obtain ⟨log, hplays', hgen, hsends⟩ := ih hrest hpkts
          refine ⟨_, hplays.trans hplays', ?_, ?_⟩
          · rw [generated_append, hgen]
            rfl
          · rw [rtpSends_append, hplays.sends, hsends]
            rfl

/-! ## Receiving RTCP -/

theorem receiveReportBlock_calls {now : UInt64} {block : ReportBlock}
    (h : s.receiveReportBlock now block = .ok s') :
    ∃ log, Calls StreamTrack.step StreamTrack.SendsWellFormed s.family log s'.family ∧
      log.flatMap wire = [] ∧ generated log = [] := by
  simp only [receiveReportBlock] at h
  split at h
  · cases h
    exact ⟨[], .nil _, rfl, rfl⟩
  · cases h
  next t hlookup =>
    cases h
    refine ⟨[⟨block.sourceSsrc, .receiveReceiverReport now block, []⟩], ?_, rfl, rfl⟩
    rw [family_insert]
    refine .single (by rw [family, hlookup]; rfl) ?_ rfl
    rintro _ _ _ ⟨⟩

theorem receiveReportBlocks_calls {clock : Nat → UInt64} {blocks : List ReportBlock}
    (h : receiveReportBlocks clock s blocks = .ok s') :
    ∃ log, Calls StreamTrack.step StreamTrack.SendsWellFormed s.family log s'.family ∧
      log.flatMap wire = [] ∧ generated log = [] := by
  induction blocks generalizing clock s with
  | nil =>
      cases h
      exact ⟨[], .nil _, rfl, rfl⟩
  | cons block blocks ih =>
      simp only [receiveReportBlocks] at h
      split at h
      · cases h
      next s₁ hfirst =>
        obtain ⟨log, hcalls, hwire, hgen⟩ := receiveReportBlock_calls hfirst
        obtain ⟨log', hcalls', hwire', hgen'⟩ := ih h
        refine ⟨log ++ log', hcalls.trans hcalls', ?_, ?_⟩
        · rw [List.flatMap_append, hwire, hwire', List.append_nil]
        · rw [generated_append, hgen, hgen', List.append_nil]

/-- `p` is a NACK with these contents. -/
def IsNack (p : RtcpPacket) (nack : NackPacket) : Prop :=
  p.type = kRtcpTypeRtpfb ∧ p.format = 1 ∧ p.asNack = some nack

/-- If `p` is a NACK, the track of its media SSRC gets it. -/
def NackCalled (log : List TrackCall) (p : RtcpPacket) : Prop :=
  ∀ nack, IsNack p nack →
    ∃ clock resent, ⟨nack.mediaSsrc, .receiveNack clock nack, resent⟩ ∈ log

theorem receivePacket_plays {clock : Nat → UInt64} {p : RtcpPacket}
    (h : s.receivePacket clock p = .ok (s', out)) :
    ∃ log, Plays s log out s' ∧ generated log = [] ∧ NackCalled log p := by
  simp only [receivePacket] at h
  split at h
  next =>
    split at h
    next =>
      split at h
      · cases h
      next nack hnack =>
        obtain ⟨resent, rfl, hcalls⟩ :=
          callTrack_calls (e := .receiveNack clock nack) h fun _ => by rintro _ _ _ ⟨⟩
        refine ⟨_, .of_quiet hcalls ?_ rfl, rfl, ?_⟩
        · rw [rtpSends_resent]
          simp [wire, StreamTrack.handed]
        · rintro nack' ⟨-, -, hnack'⟩
          obtain rfl := Option.some.inj (hnack.symm.trans hnack')
          exact ⟨clock, resent, List.mem_singleton_self _⟩
    next hformat =>
      cases h
      exact ⟨[], .nil _, rfl, fun nack hn => absurd hn.2.1 hformat⟩
  next htype =>
    have hcalled : ∀ log, NackCalled log p := fun log nack hn => absurd hn.1 htype
    split at h
    next =>
      split at h
      · cases h
      · split at h
        · cases h
        next hblocks =>
          cases h
          obtain ⟨log, hcalls, hwire, hgen⟩ := receiveReportBlocks_calls hblocks
          exact ⟨log, .of_quiet hcalls hwire.symm hgen, hgen, hcalled log⟩
    next =>
      cases h
      exact ⟨[], .nil _, rfl, hcalled []⟩

theorem receivePackets_plays {clock : Nat → Nat → UInt64} {ps : List RtcpPacket}
    (h : receivePackets clock s ps = .ok (s', out)) :
    ∃ log, Plays s log out s' ∧ generated log = [] ∧ ∀ p ∈ ps, NackCalled log p := by
  induction ps generalizing clock s out with
  | nil =>
      cases h
      exact ⟨[], .nil _, rfl, by simp⟩
  | cons p ps ih =>
      simp only [receivePackets] at h
      split at h
      · cases h
      next s₁ out₁ hfirst =>
        split at h
        · cases h
        next s₂ out₂ hrest =>
          cases h
          obtain ⟨log, hplays, hgen, hcalled⟩ := receivePacket_plays hfirst
          obtain ⟨log', hplays', hgen', hcalled'⟩ := ih hrest
          refine ⟨_, hplays.trans hplays', ?_, List.forall_mem_cons.mpr ⟨?_, ?_⟩⟩
          · rw [generated_append, hgen, hgen', List.append_nil]
          · intro nack hn
            obtain ⟨clock', resent, hmem⟩ := hcalled nack hn
            exact ⟨clock', resent, List.mem_append_left _ hmem⟩
          · intro q hq nack hn
            obtain ⟨clock', resent, hmem⟩ := hcalled' q hq nack hn
            exact ⟨clock', resent, List.mem_append_right _ hmem⟩

theorem receiveRctp_plays {clock : Nat → Nat → UInt64} {data : Memory} {len : Nat}
    (h : s.receiveRctp clock data len = .ok (s', out)) :
    ∃ log, Plays s log out s' ∧ generated log = [] ∧
      ∀ ps, RtcpCompound.parse data len = some ps → ∀ p ∈ ps, NackCalled log p := by
  simp only [receiveRctp] at h
  split at h
  next hnone =>
    cases h
    exact ⟨[], .nil _, rfl, by simp [hnone]⟩
  next ps hps =>
    obtain ⟨log, hplays, hgen, hcalled⟩ := receivePackets_plays h
    refine ⟨log, hplays, hgen, ?_⟩
    intro ps' hps'
    obtain rfl := Option.some.inj (hps.symm.trans hps')
    exact hcalled

/-- The reports of a tick are no RTP packets. -/
theorem onTimerTimeout_rtpSends {buffer : Memory} {now : UInt64}
    (h : s.onTimerTimeout buffer now = .ok (s', out)) : rtpSends out = [] := by
  refine List.filterMap_eq_nil_iff.mpr ?_
  intro o ho
  obtain ⟨ssrc, t, sr, -, -, rfl⟩ := (mem_onTimerTimeout h).mp ho
  rfl

/-! ## Every event -/

variable {rtpTimestamp : Int → UInt32 → UInt32}

/-- The packets generated in a step: those that the packetizer of a kind
makes of the media packet of the event, or none. -/
inductive Generates (rtpTimestamp : Int → UInt32 → UInt32) (s : MediaStream) (e : Event) :
    List RtpPacket → Prop
  | quiet : (∀ kind, mediaPacket kind e = none) → Generates rtpTimestamp s e []
  | packs {kind : MediaType} {packet : MediaPacket} {k k' : AnyPacketizer}
      {pkts : List RtpPacket} :
      (∀ kind', mediaPacket kind' e = if kind' = kind then some packet else none) →
      s.packetizer kind = some k → k.pack rtpTimestamp packet = .ok (k', pkts) →
      Generates rtpTimestamp s e pkts

theorem Packs.plays {kind : MediaType} {heap : Memory} {clock : Nat → UInt64}
    {packet : MediaPacket} {pkts : List RtpPacket} {k k' : AnyPacketizer} {s₁ : MediaStream}
    (hp : Packs rtpTimestamp kind heap clock packet pkts k k' s s₁ s' out) :
    rtpSends out = pkts.map RtpPacket.bytes ∧
      ∃ log, Plays s log out s' ∧ generated log = pkts := by
  obtain ⟨log, hplays, hgen, hsends⟩ := onRtpPacketsGenerated_plays
    (fun pkt hpkt => ((AnyPacketizer.packed_of_ok hp.packs).emits.wellFormed pkt hpkt).1)
    hp.handedOn
  have hfamily : s₁.family = s.family := by
    funext ssrc
    rw [family, hp.tracks]
    rfl
  exact ⟨hsends, log, ⟨hfamily ▸ hplays.calls, hplays.sends, hplays.keys⟩, hgen⟩

/-- A step of the media stream is calls of its tracks. -/
theorem step_plays {e : Event} (he : adds e = none)
    (h : s.step rtpTimestamp e = .ok (s', out)) :
    ∃ log, Plays s log out s' ∧ Generates rtpTimestamp s e (generated log) := by
  cases e with
  | addStreamTrack params rtpBuf => cases he
  | receiveH264Packet heap clock packet =>
      obtain ⟨pkts, k, k', s₁, hp⟩ := receiveH264Packet_packs h
      obtain ⟨-, log, hplays, rfl⟩ := hp.plays
      exact ⟨log, hplays, .packs (fun _ => rfl) hp.before hp.packs⟩
  | receiveOpusPacket heap clock packet =>
      obtain ⟨pkts, k, k', s₁, hp⟩ := receiveOpusPacket_packs h
      obtain ⟨-, log, hplays, rfl⟩ := hp.plays
      exact ⟨log, hplays, .packs (fun _ => rfl) hp.before hp.packs⟩
  | receiveRctp clock data len =>
      obtain ⟨log, hplays, hgen, -⟩ := receiveRctp_plays h
      exact ⟨log, hplays, hgen ▸ .quiet fun _ => rfl⟩
  | timerTimeout buffer now =>
      obtain rfl : s' = s := onTimerTimeout_state h
      exact ⟨[], ⟨.nil _, onTimerTimeout_rtpSends h, by simp⟩, .quiet fun _ => rfl⟩

end Steps

/-! ## Runs -/

section Runs

variable {rtpTimestamp : Int → UInt32 → UInt32} {params : RtpParams} {rtpBuf : Memory}
  {h : List (Event × List MediaOutput)} {s s' : MediaStream} {e : Event} {out : List MediaOutput}
  {packed packed' : List (MediaPacket × List RtpPacket)} {k k' : AnyPacketizer}

/-- The packets generated in a step, as far as they are of the track, are
those that its packetizer emits for the event. -/
theorem Follows.generates (hf : Follows rtpTimestamp params rtpBuf h s packed k)
    (hother : ∀ kind, kind ≠ params.mediaType → ∀ k', s.packetizer kind = some k' →
      k'.base.ssrc ≠ params.ssrc)
    (hf' : Follows rtpTimestamp params rtpBuf (h ++ [(e, out)]) s' packed' k')
    {pkts : List RtpPacket} (hg : Generates rtpTimestamp s e pkts) :
    outputs packed' = outputs packed ++ pkts.filter fun pkt => pkt.ssrc = params.ssrc := by
  have hpacks := hf'.packs
  rw [fed_snoc] at hpacks
  cases hg with
  | quiet hnone =>
      rw [hnone, Option.toList_none, List.append_nil, hf.packs] at hpacks
      cases hpacks
      simp
  | @packs kind packet k₁ k₂ pkts hmedia hbefore hpack =>
      have hssrc : ∀ pkt ∈ pkts, pkt.ssrc = k₁.base.ssrc := fun pkt hpkt =>
        ((AnyPacketizer.packed_of_ok hpack).emits.wellFormed pkt hpkt).2.1
      by_cases hkind : kind = params.mediaType
      · subst hkind
        obtain rfl : k = k₁ := Option.some.inj (hf.packetizer.symm.trans hbefore)
        rw [hmedia, if_pos rfl, Option.toList_some, runAll_snoc hf.packs hpack] at hpacks
        cases hpacks
        rw [outputs_snoc, List.filter_eq_self.mpr]
        intro pkt hpkt
        exact decide_eq_true ((hssrc pkt hpkt).trans hf.stream.1)
      · rw [hmedia, if_neg (Ne.symm hkind), Option.toList_none, List.append_nil, hf.packs]
          at hpacks
        cases hpacks
        rw [List.filter_eq_nil_iff.mpr, List.append_nil]
        intro pkt hpkt
        rw [hssrc pkt hpkt]
        simpa using hother kind hkind k₁ hbefore

end Runs

section TwoTracks

variable {rtpTimestamp : Int → UInt32 → UInt32} {video audio : RtpParams}
  {videoBuf audioBuf : Memory} {h : List (Event × List MediaOutput)} {s : MediaStream}

/-- The packetizer of the other kind packs for the other track. -/
theorem run_others (hv : video.mediaType = .video) (ha : audio.mediaType = .audio)
    (hne : video.ssrc ≠ audio.ssrc)
    (hr : Run (step rtpTimestamp) KeepsTracks (withTracks video audio videoBuf audioBuf) h s) :
    (∀ kind, kind ≠ video.mediaType → ∀ k, s.packetizer kind = some k →
      k.base.ssrc ≠ video.ssrc) ∧
    ∀ kind, kind ≠ audio.mediaType → ∀ k, s.packetizer kind = some k →
      k.base.ssrc ≠ audio.ssrc := by
  obtain ⟨-, ⟨vpacked, vk, hvideo⟩, apacked, ak, haudio⟩ := run_follows hv ha hne hr
  have hvk := hvideo.packetizer
  have hak := haudio.packetizer
  rw [hv] at hvk
  rw [ha] at hak
  constructor
  · rintro (_ | _) hkind k hk
    · exact absurd hv.symm hkind
    · obtain rfl : ak = k := Option.some.inj (hak.symm.trans hk)
      exact haudio.stream.1 ▸ hne.symm
  · rintro (_ | _) hkind k hk
    · obtain rfl : vk = k := Option.some.inj (hvk.symm.trans hk)
      exact hvideo.stream.1 ▸ hne
    · exact absurd ha.symm hkind

/-- A run of the media stream is calls of its tracks, and each track is
handed, in order, what its packetizer emits for the media packets of its
kind. -/
theorem run_plays (hv : video.mediaType = .video) (ha : audio.mediaType = .audio)
    (hne : video.ssrc ≠ audio.ssrc)
    (hr : Run (step rtpTimestamp) KeepsTracks (withTracks video audio videoBuf audioBuf) h s) :
    ∃ log, Plays (withTracks video audio videoBuf audioBuf) log (outputs h) s ∧
      emitted rtpTimestamp video videoBuf (fed .video h) =
        .ok (StreamTrack.received (own video.ssrc log)) ∧
      emitted rtpTimestamp audio audioBuf (fed .audio h) =
        .ok (StreamTrack.received (own audio.ssrc log)) := by
  induction hr with
  | nil => exact ⟨[], .nil _, rfl, rfl⟩
  | @snoc h s s' e out hr he hstep ih =>
      obtain ⟨log, hplays, hvideo, haudio⟩ := ih
      obtain ⟨hotherV, hotherA⟩ := run_others hv ha hne hr
      obtain ⟨-, ⟨vpacked, vk, hvf⟩, apacked, ak, haf⟩ := run_follows hv ha hne hr
      obtain ⟨-, ⟨vpacked', vk', hvf'⟩, apacked', ak', haf'⟩ :=
        run_follows hv ha hne (hr.snoc he hstep)
      obtain ⟨log', hplays', hgen⟩ := step_plays he hstep
      have hv' := hvf.emitted
      have ha' := haf.emitted
      rw [hv] at hv'
      rw [ha] at ha'
      refine ⟨log ++ log', by simpa using hplays.trans hplays', ?_, ?_⟩
      · have hnext := hvf'.emitted
        rw [hv, hvf.generates hotherV hvf' hgen] at hnext
        rw [hnext, (hplays.trans hplays').received_own, generated_append, List.filter_append,
          ← hplays.received_own, Except.ok.inj (hvideo.symm.trans hv')]
      · have hnext := haf'.emitted
        rw [ha, haf.generates hotherA haf' hgen] at hnext
        rw [hnext, (hplays.trans hplays').received_own, generated_append, List.filter_append,
          ← hplays.received_own, Except.ok.inj (haudio.symm.trans ha')]

end TwoTracks

end MediaStream

end WebrtcServer
