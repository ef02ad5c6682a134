/-
# `ViewerStream` — what the viewer makes of the datagrams

The viewer is at the other end of SRTP: with the key that DTLS exported it
unprotects what the transport sends.  libsrtp and its peer are parameters,
and `Agrees` is what is relied on: of the RTP packets of an SSRC the one
whose turn it is comes through, and one whose number has been used is
refused, as a replay.  A session need not come about, and may wear out.

The theorem is about the whole way of a packet.  Media packets are posted to
the transport, the media stream packs and keeps them, resends some, and
reports; the SRTP session of the handshake protects what comes out.  From
the datagrams, in their order, the viewer reads each packet that the
packetizers emitted for the posted media packets once, and the packets of
the RTX stream; it refuses what is resent without RTX.
-/
import WebrtcServer.SessionKeys
import WebrtcServer.WireOrder

namespace WebrtcServer

open Lib

/-! ## The viewer -/

/-- The receiving end of SRTP, as the viewer's library has it. -/
structure SrtpViewer (View : Type) where
  join : SrtpPolicy → View
  unprotect : View → ByteString → Option (ByteString × View)
  unprotectRtcp : View → ByteString → Option (ByteString × View)

namespace SrtpViewer

variable {Ctx View : Type}

/-- What is relied on of libsrtp, set up to protect repeats as well, and of
the viewer's end.  `Synced` holds when the viewer has been given all that was
protected, in its order, and has read the RTP packets `had`.  A context is
`Exhausted` once a call has failed for another reason than its packet: the
key is used up, or there is no memory for another stream. -/
structure Agrees (lib : SrtpLib Ctx) (viewer : SrtpViewer View) (Exhausted : Ctx → Prop)
    (Synced : Ctx → View → List ByteString → Prop) : Prop where
  /-- A session that has been created is in step with a viewer that joins. -/
  create : ∀ policy ctx, lib.create policy = some ctx →
    Synced ctx (viewer.join { policy with inbound := true }) []
  /-- The next packet of an SSRC is protected, if it fits the buffer, and read. -/
  next : ∀ ctx v had data len, Synced ctx v had → IsRtp (window data 0 len) →
    len ≤ kProtectBuffer → rtpNumbers.IsNext had (window data 0 len) →
    let r := lib.protect ctx data len
    ¬ Exhausted r.ctx → r.ok = true ∧
      ∃ v', viewer.unprotect v (window r.data 0 r.len) = some (window data 0 len, v') ∧
        Synced r.ctx v' (had ++ [window data 0 len])
  /-- A packet with a number that has been used is refused, whatever became
  of it. -/
  again : ∀ ctx v had data len, Synced ctx v had → IsRtp (window data 0 len) →
    rtpNumbers.IsAgain had (window data 0 len) →
    let r := lib.protect ctx data len
    ¬ Exhausted r.ctx →
      viewer.unprotect v (window r.data 0 r.len) = none ∧ Synced r.ctx v had
  /-- The header stays in the clear. -/
  header : ∀ ctx data len, IsRtp (window data 0 len) →
    let r := lib.protect ctx data len
    rtpHeader (window r.data 0 r.len) = rtpHeader (window data 0 len)
  /-- A report is protected, under an index of its own, and read. -/
  report : ∀ ctx v had data len, Synced ctx v had →
    SenderReportPacket.IsSenderReport (window data 0 len) →
    let r := lib.protectRtcp ctx data len
    ¬ Exhausted r.ctx → r.ok = true ∧
      ∃ v', viewer.unprotectRtcp v (window r.data 0 r.len) = some (window data 0 len, v') ∧
        Synced r.ctx v' had
  exhausted : ∀ ctx data len, Exhausted ctx → Exhausted (lib.protect ctx data len).ctx
  exhaustedRtcp : ∀ ctx data len, Exhausted ctx → Exhausted (lib.protectRtcp ctx data len).ctx
  tagLen : ∀ policy, lib.authTagLen policy ≤ 16

/-- From these datagrams the viewer, which joined as `v₀`, reads these
packets.  It refuses a datagram only if its header repeats that of a packet
that it has read. -/
inductive Reads (viewer : SrtpViewer View) (v₀ : View) :
    List ByteString → List MediaOutput → View → Prop
  | nil : Reads viewer v₀ [] [] v₀
  | rtp {v v' : View} {data datagram : ByteString} {packets : List MediaOutput}
      {datagrams : List ByteString} :
      Reads viewer v₀ datagrams packets v → viewer.unprotect v datagram = some (data, v') →
      Reads viewer v₀ (datagrams ++ [datagram]) (packets ++ [.rtpPacketSend data]) v'
  | refused {v : View} {datagram : ByteString} {packets : List MediaOutput}
      {datagrams : List ByteString} :
      Reads viewer v₀ datagrams packets v → viewer.unprotect v datagram = none →
      rtpNumbers.IsAgain (MediaStream.rtpSends packets) datagram →
      Reads viewer v₀ (datagrams ++ [datagram]) packets v
  | rtcp {v v' : View} {data datagram : ByteString} {packets : List MediaOutput}
      {datagrams : List ByteString} :
      Reads viewer v₀ datagrams packets v → viewer.unprotectRtcp v datagram = some (data, v') →
      Reads viewer v₀ (datagrams ++ [datagram]) (packets ++ [.rtcpPacketSend data]) v'

end SrtpViewer

/-! ## A media stream that was fed nothing -/

namespace MediaStream

section Idle

variable {rtpTimestamp : Int → UInt32 → UInt32} {video audio : RtpParams}
  {videoBuf audioBuf : Memory} {h : List (Event × List MediaOutput)} {s s' : MediaStream}
  {out : List MediaOutput}

theorem emitted_nil (rtpTimestamp : Int → UInt32 → UInt32) (params : RtpParams)
    (rtpBuf : Memory) : emitted rtpTimestamp params rtpBuf [] = .ok [] := rfl

/-- Tracks that have counted no packet are not reported. -/
theorem CountsAll.tick_idle {tracks : List (RtpParams × List RtpPacket)}
    (ha : CountsAll tracks s) (hnone : ∀ x ∈ tracks, x.2 = []) {buffer : Memory} {now : UInt64}
    (h : s.onTimerTimeout buffer now = .ok (s', out)) : out = [] := by
  refine List.eq_nil_iff_forall_not_mem.mpr fun o ho => ?_
  obtain ⟨ssrc, t, sr, hlookup, hsr, rfl⟩ := (mem_onTimerTimeout h).mp ho
  have hmem : ssrc ∈ s.streamTracks :=
    AList.lookup_isSome.mp (Option.isSome_iff_exists.mpr ⟨_, hlookup⟩)
  obtain ⟨x, hx, rfl⟩ := List.mem_map.mp ((ha.inv.keys_iff ssrc).mp hmem)
  obtain ⟨t', hlookup', hcounts⟩ := (ha.counts x hx).lookup
  rw [hlookup] at hlookup'
  cases hlookup'
  have hpackets : t.sendPacketCount = UInt32.ofNat x.2.length := hcounts.packets
  rw [hnone x hx] at hpackets
  simp only [StreamTrack.createRtcpSenderReport, hpackets] at hsr
  cases hsr

/-- Until the first media packet nothing is sent, whatever RTCP comes in. -/
theorem run_idle (hv : video.mediaType = .video) (ha : audio.mediaType = .audio)
    (hssrcs : SsrcsDiffer video audio)
    (hr : Run (step rtpTimestamp) KeepsTracks (withTracks video audio videoBuf audioBuf) h s)
    (hfed : ∀ kind, fed kind h = []) : outputs h = [] := by
  induction hr with
  | nil => rfl
  | @snoc h s s' e out hr he hstep ih =>
      have hne := hssrcs.ssrc_ne
      have hbefore : ∀ kind, fed kind h = [] := fun kind => by
        have hkind := hfed kind
        rw [fed_snoc] at hkind
        exact (List.append_eq_nil_iff.mp hkind).1
      rw [outputs_snoc, ih hbefore, List.nil_append]
      obtain ⟨log, hplays, hvideo, haudio⟩ := run_plays hv ha hne (hr.snoc he hstep)
      obtain ⟨-, -, hgenuine⟩ := hplays.genuine hssrcs
      rw [hfed, emitted_nil] at hvideo haudio
      rw [outputs_snoc, rtpSends_append, ← Except.ok.inj hvideo, ← Except.ok.inj haudio]
        at hgenuine
      by_cases htick : ∃ buffer now, e = .timerTimeout buffer now
      · obtain ⟨buffer, now, rfl⟩ := htick
        obtain ⟨videoPkts, audioPkts, hvideo, haudio, hcounts⟩ := run_countsAll hv ha hne hr
        rw [hbefore, emitted_nil] at hvideo haudio
        cases hvideo
        cases haudio
        exact hcounts.tick_idle (by simp) hstep
      · have hrtp := step_allRtp he (fun buffer now h => htick ⟨buffer, now, h⟩) hstep
        refine List.eq_nil_iff_forall_not_mem.mpr fun o ho => ?_
        rcases hgenuine _ (List.mem_append_right _ (hrtp.mem_rtpSends ho)) with
          ⟨-, p, hp, -⟩ | ⟨-, p, hp, -⟩ <;> cases hp

end Idle

end MediaStream

namespace WebrtcTransport

variable {Ctx Ssl Cert View : Type} {p : Platform Ctx Ssl Cert} {w w' : WebrtcTransport Ctx Ssl}
  {out : List TransportOutput}

/-! ## Media on the wire -/

/-- The datagrams that are sent. -/
def datagrams (out : List TransportOutput) : List ByteString :=
  out.filterMap fun
    | .udpSend data _ => some data
    | .removeFromManager => none

theorem datagrams_append (out out' : List TransportOutput) :
    datagrams (out ++ out') = datagrams out ++ datagrams out' := List.filterMap_append

instance : DecidablePred UsesMediaStream
  | .udpSocketDataReceive d _ => inferInstanceAs (Decidable (kindOf d = .rtcp))
  | .incomingH264Packet _ _ _ | .incomingOpusPacket _ _ _ | .rtcpTimerTimeout _ _ =>
      .isTrue trivial
  | .createAnswer _ | .udpSocketError | .dtlsTimerTimeout | .mediaSourceEnd => .isFalse id

/-- The datagrams that a run has sent for the media stream. -/
def mediaSends (h : List (Event × List TransportOutput)) : List ByteString :=
  h.flatMap fun x => if UsesMediaStream x.1 then datagrams x.2 else []

theorem mediaSends_snoc (h : List (Event × List TransportOutput)) (e : Event)
    (out : List TransportOutput) : mediaSends (h ++ [(e, out)]) =
      mediaSends h ++ if UsesMediaStream e then datagrams out else [] := by
  simp [mediaSends]

theorem usesMediaStream_of_mediaCall {e : Event} {call : MediaStream.Event}
    (h : mediaCall p w e = some call) : UsesMediaStream e := by
  cases e with
  | udpSocketDataReceive d clock =>
      simp only [mediaCall] at h
      split at h
      next hkind => exact hkind
      · cases h
  | incomingH264Packet _ _ _ | incomingOpusPacket _ _ _ | rtcpTimerTimeout _ _ => trivial
  | createAnswer _ | udpSocketError | dtlsTimerTimeout | mediaSourceEnd => cases h

theorem not_usesMediaStream {e : Event} (hw : Assembled w) (h : mediaCall p w e = none) :
    ¬ UsesMediaStream e := by
  cases e with
  | udpSocketDataReceive d clock =>
      obtain ⟨session, hsession⟩ := Option.isSome_iff_exists.mp hw.recv
      intro hkind
      have hkind : kindOf d = .rtcp := hkind
      simp [mediaCall, hkind, hsession] at h
  | incomingH264Packet _ _ _ | incomingOpusPacket _ _ _ | rtcpTimerTimeout _ _ => cases h
  | createAnswer _ | udpSocketError | dtlsTimerTimeout | mediaSourceEnd => exact id

/-! ## Protecting -/

section Sending

variable {viewer : SrtpViewer View} {Exhausted : Ctx → Prop}
  {Synced : Ctx → View → List ByteString → Prop}

/-- There is a session, and it is not exhausted. -/
def SrtpReady (Exhausted : Ctx → Prop) (w : WebrtcTransport Ctx Ssl) : Prop :=
  ∃ session ctx, w.sendSrtpSession = some session ∧ session.session = some ctx ∧ ¬ Exhausted ctx

theorem sendProtected_eq_ok
    {protect : SrtpSession Ctx → Memory → Nat → Nat → Nat → SrtpCall Ctx} {data : ByteString}
    (h : sendProtected protect w data = .ok (w', out)) :
    ∃ session, w.sendSrtpSession = some session ∧
      let r := protect session (poke w.protectBuffer 0 data) data.length kProtectBuffer 0
      w'.sendSrtpSession = some r.session ∧ datagrams out = [window r.data 0 r.outLen] := by
  simp only [sendProtected] at h
  split at h
  · cases h
  · split at h
    · cases h
    next session hsession =>
      cases h
      exact ⟨session, hsession, rfl, rfl⟩

/-- A session that is good after a call was good before it. -/
theorem ready_of_call {protect : Ctx → Memory → Nat → SrtpResult Ctx}
    (hexhausted : ∀ ctx data len, Exhausted ctx → Exhausted (protect ctx data len).ctx)
    {session : SrtpSession Ctx} {room : Bool} {data : Memory} {inLen outLen : Nat} {ctx : Ctx}
    (hctx : (session.call protect room data inLen outLen).session.session = some ctx)
    (hnot : ¬ Exhausted ctx) : ∃ ctx, session.session = some ctx ∧ ¬ Exhausted ctx := by
  simp only [SrtpSession.call] at hctx
  split at hctx
  · exact ⟨ctx, hctx, hnot⟩
  next ctx₁ hctx₁ =>
    split at hctx
    · cases hctx
      exact ⟨ctx₁, hctx₁, fun h => hnot (hexhausted _ _ _ h)⟩
    · exact ⟨ctx, hctx, hnot⟩

theorem onMediaOutput_ready (ha : viewer.Agrees p.srtp Exhausted Synced) {o : MediaOutput}
    (hready : SrtpReady Exhausted w') (h : onMediaOutput p w o = .ok (w', out)) :
    SrtpReady Exhausted w := by
  obtain ⟨session', ctx', hsession', hctx', hnot⟩ := hready
  cases o with
  | rtpPacketSend data =>
      obtain ⟨session, hsession, hnext, -⟩ := sendProtected_eq_ok h
      obtain rfl := Option.some.inj (hnext.symm.trans hsession')
      obtain ⟨ctx, hctx, hnot⟩ := ready_of_call ha.exhausted hctx' hnot
      exact ⟨session, ctx, hsession, hctx, hnot⟩
  | rtcpPacketSend data =>
      obtain ⟨session, hsession, hnext, -⟩ := sendProtected_eq_ok h
      obtain rfl := Option.some.inj (hnext.symm.trans hsession')
      obtain ⟨ctx, hctx, hnot⟩ := ready_of_call ha.exhaustedRtcp hctx' hnot
      exact ⟨session, ctx, hsession, hctx, hnot⟩

theorem onMediaOutputs_ready (ha : viewer.Agrees p.srtp Exhausted Synced)
    {outs : List MediaOutput} (hready : SrtpReady Exhausted w')
    (h : onEach (onMediaOutput p) w outs = .ok (w', out)) : SrtpReady Exhausted w := by
  induction outs generalizing w out with
  | nil =>
      cases h
      exact hready
  | cons o outs ih =>
      simp only [onEach] at h
      split at h
      · cases h
      next hfirst =>
        split at h
        · cases h
        next hrest =>
          cases h
          exact onMediaOutput_ready ha (ih hrest) hfirst

/-- The sending session is in step with the viewer, and its tags are small. -/
def InStepWith (Synced : Ctx → View → List ByteString → Prop) (w : WebrtcTransport Ctx Ssl)
    (v : View) (had : List ByteString) : Prop :=
  ∃ session ctx, w.sendSrtpSession = some session ∧ session.session = some ctx ∧
    Synced ctx v had ∧ session.rtpAuthTagLen ≤ 16 ∧ session.rtcpAuthTagLen ≤ 16

/-- The viewer has read these packets from these datagrams, and is in step. -/
structure HasRead (viewer : SrtpViewer View) (Synced : Ctx → View → List ByteString → Prop)
    (v₀ : View) (w : WebrtcTransport Ctx Ssl) (datagrams : List ByteString)
    (packets : List MediaOutput) (v : View) : Prop where
  reads : viewer.Reads v₀ datagrams packets v
  inStep : InStepWith Synced w v (MediaStream.rtpSends packets)
  reports : ∀ data, .rtcpPacketSend data ∈ packets → SenderReportPacket.IsSenderReport data

/-- A datagram repeats what the packet repeats. -/
theorem isAgain_congr {had : List ByteString} {data data' : ByteString}
    (hheader : rtpHeader data = rtpHeader data') (h : rtpNumbers.IsAgain had data') :
    rtpNumbers.IsAgain had data := by
  simp only [Numbering.IsAgain, rtpNumbers] at h ⊢
  rwa [hheader]

/-- A session that has room makes the library's call, and is not exhausted
by it if it is good afterwards. -/
theorem sendProtected_calls
    {protect : SrtpSession Ctx → Memory → Nat → Nat → Nat → SrtpCall Ctx}
    {lib : Ctx → Memory → Nat → SrtpResult Ctx} {session : SrtpSession Ctx} {ctx : Ctx}
    {data : ByteString} (hsession : w.sendSrtpSession = some session)
    (hctx : session.session = some ctx)
    (hcall : ∀ buffer, protect session buffer data.length kProtectBuffer 0 =
      session.call lib true buffer data.length 0)
    (h : sendProtected protect w data = .ok (w', out)) (hready : SrtpReady Exhausted w') :
    let r := lib ctx (poke w.protectBuffer 0 data) data.length
    w'.sendSrtpSession = some { session with session := some r.ctx } ∧ ¬ Exhausted r.ctx ∧
      datagrams out = [window r.data 0 r.len] := by
  obtain ⟨session₁, hsession₁, hnext, hout⟩ := sendProtected_eq_ok h
  obtain rfl := Option.some.inj (hsession.symm.trans hsession₁)
  rw [hcall] at hnext hout
  simp only [SrtpSession.call, hctx, if_true] at hnext hout
  obtain ⟨session', ctx', hsession', hctx', hnot⟩ := hready
  obtain rfl := Option.some.inj (hnext.symm.trans hsession')
  cases hctx'
  exact ⟨hnext, hnot, hout⟩

/-- An RTP packet is read if it is the next one, and refused if not. -/
theorem onRtpPacketSend_reads (ha : viewer.Agrees p.srtp Exhausted Synced) {v₀ v : View}
    {before : List ByteString} {packets : List MediaOutput} {data : ByteString}
    (hv : HasRead viewer Synced v₀ w before packets v) (hisRtp : IsRtp data)
    (horder : rtpNumbers.IsNext (MediaStream.rtpSends packets) data ∨
      rtpNumbers.IsAgain (MediaStream.rtpSends packets) data)
    (hlen : data.length ≤ kRtpBufferSize + 2) (h : onRtpPacketSend p w data = .ok (w', out))
    (hready : SrtpReady Exhausted w') :
    ∃ v' packets', HasRead viewer Synced v₀ w' (before ++ datagrams out) packets' v' ∧
      MediaStream.rtpSends packets' =
        rtpNumbers.keep (MediaStream.rtpSends packets) data := by
  obtain ⟨hreads, ⟨session, ctx, hsession, hctx, hsynced, hrtp, hrtcp⟩, hreports⟩ := hv
  have hroom : data.length + session.rtpAuthTagLen ≤ kProtectBuffer := by
    simp only [kRtpBufferSize] at hlen
    simp only [kProtectBuffer]
    omega
  obtain ⟨hnext, hnot, hout⟩ := sendProtected_calls hsession hctx
    (fun buffer => by rw [SrtpSession.protectRtp, decide_eq_true hroom]) h hready
  rw [hout]
  have hwindow := window_poke_same w.protectBuffer 0 data
  rcases horder with hfresh | hagain
  · have hfits : data.length ≤ kProtectBuffer := (Nat.le_add_right _ _).trans hroom
    obtain ⟨hok, v', hread, hsynced'⟩ := ha.next ctx v _ (poke w.protectBuffer 0 data) data.length
      hsynced (by rwa [hwindow]) hfits (by rwa [hwindow]) hnot
    rw [hwindow] at hread hsynced'
    have hsends : MediaStream.rtpSends (packets ++ [.rtpPacketSend data]) =
        MediaStream.rtpSends packets ++ [data] := by
      rw [MediaStream.rtpSends_append]
      rfl
    refine ⟨v', packets ++ [.rtpPacketSend data], ⟨hreads.rtp hread,
      ⟨_, _, hnext, rfl, ?_, hrtp, hrtcp⟩, ?_⟩, ?_⟩
    · rwa [hsends]
    · intro report hmem
      rcases List.mem_append.mp hmem with hmem | hmem
      · exact hreports report hmem
      · cases List.mem_singleton.mp hmem
    · rw [hsends, Numbering.keep_of_next hfresh]
  · obtain ⟨hrefused, hsynced'⟩ := ha.again ctx v _ (poke w.protectBuffer 0 data) data.length
      hsynced (by rwa [hwindow]) (by rwa [hwindow]) hnot
    have hheader := ha.header ctx (poke w.protectBuffer 0 data) data.length (by rwa [hwindow])
    rw [hwindow] at hheader
    exact ⟨v, packets, ⟨hreads.refused hrefused (isAgain_congr hheader hagain),
      ⟨_, _, hnext, rfl, hsynced', hrtp, hrtcp⟩, hreports⟩, (Numbering.keep_of_again hagain).symm⟩

/-- A report is read. -/
theorem onRtcpPacketSend_reads (ha : viewer.Agrees p.srtp Exhausted Synced) {v₀ v : View}
    {before : List ByteString} {packets : List MediaOutput} {data : ByteString}
    (hv : HasRead viewer Synced v₀ w before packets v)
    (hreport : SenderReportPacket.IsSenderReport data)
    (h : onRtcpPacketSend p w data = .ok (w', out)) (hready : SrtpReady Exhausted w') :
    ∃ v' packets', HasRead viewer Synced v₀ w' (before ++ datagrams out) packets' v' ∧
      MediaStream.rtpSends packets' = MediaStream.rtpSends packets := by
  obtain ⟨hreads, ⟨session, ctx, hsession, hctx, hsynced, hrtp, hrtcp⟩, hreports⟩ := hv
  have hroom : data.length + 4 + session.rtcpAuthTagLen ≤ kProtectBuffer := by
    have hlen := hreport.length_eq
    simp only [kProtectBuffer]
    omega
  obtain ⟨hnext, hnot, hout⟩ := sendProtected_calls hsession hctx
    (fun buffer => by rw [SrtpSession.protectRtcp, decide_eq_true hroom]) h hready
  rw [hout]
  have hwindow := window_poke_same w.protectBuffer 0 data
  obtain ⟨hok, v', hread, hsynced'⟩ := ha.report ctx v _ (poke w.protectBuffer 0 data) data.length
    hsynced (by rwa [hwindow]) hnot
  rw [hwindow] at hread
  have hsends : MediaStream.rtpSends (packets ++ [.rtcpPacketSend data]) =
      MediaStream.rtpSends packets := by
    rw [MediaStream.rtpSends_append]
    exact List.append_nil _
  refine ⟨v', packets ++ [.rtcpPacketSend data], ⟨hreads.rtcp hread,
    ⟨_, _, hnext, rfl, ?_, hrtp, hrtcp⟩, ?_⟩, hsends⟩
  · rwa [hsends]
  · intro report hmem
    rcases List.mem_append.mp hmem with hmem | hmem
    · exact hreports report hmem
    · cases List.mem_singleton.mp hmem
      exact hreport

/-- What a step of the media stream gives out is read, but for the repeats. -/
theorem onMediaOutputs_reads (ha : viewer.Agrees p.srtp Exhausted Synced) {v₀ v : View}
    {before : List ByteString} {packets outs : List MediaOutput}
    (hv : HasRead viewer Synced v₀ w before packets v)
    (hout : MediaStream.GoOut (MediaStream.rtpSends packets) outs)
    (h : onEach (onMediaOutput p) w outs = .ok (w', out)) (hready : SrtpReady Exhausted w') :
    ∃ v' packets', HasRead viewer Synced v₀ w' (before ++ datagrams out) packets' v' ∧
      MediaStream.rtpSends packets' =
        (MediaStream.rtpSends outs).foldl rtpNumbers.keep (MediaStream.rtpSends packets) := by
  induction outs generalizing w v before packets out with
  | nil =>
      cases h
      exact ⟨v, packets, by simpa [datagrams] using hv, rfl⟩
  | cons o outs ih =>
      simp only [onEach] at h
      split at h
      · cases h
      next w₁ out₁ hfirst =>
        split at h
        · cases h
        next w₂ out₂ hrest =>
          cases h
          have hready₁ := onMediaOutputs_ready ha hready hrest
          have htail := hout.tail
          obtain ⟨v₁, packets₁, hv₁, hsends₁⟩ : ∃ v₁ packets₁,
              HasRead viewer Synced v₀ w₁ (before ++ datagrams out₁) packets₁ v₁ ∧
              MediaStream.rtpSends packets₁ = (MediaStream.rtpSends [o]).foldl rtpNumbers.keep
                (MediaStream.rtpSends packets) := by
            cases o with
            | rtpPacketSend data =>
                exact onRtpPacketSend_reads ha hv (hout.isRtp data List.mem_cons_self)
                  hout.orderly.1 (hout.length_le _ List.mem_cons_self) hfirst hready₁
            | rtcpPacketSend data =>
                exact onRtcpPacketSend_reads ha hv (hout.reports data List.mem_cons_self) hfirst
                  hready₁
          rw [← hsends₁] at htail
          obtain ⟨v₂, packets₂, hv₂, hsends₂⟩ := ih hv₁ htail hrest
          refine ⟨v₂, packets₂, ?_, ?_⟩
          · rw [datagrams_append, ← List.append_assoc]
            exact hv₂
          · rw [hsends₂, hsends₁, ← List.foldl_append, ← MediaStream.rtpSends_append]
            rfl

/-- Sending leaves the connection alone. -/
theorem onMediaOutputs_connection {outs : List MediaOutput}
    (h : onEach (onMediaOutput p) w outs = .ok (w', out)) :
    w'.connectionEstablished = w.connectionEstablished := by
  refine onEach_ok (P := fun v => v.connectionEstablished = w.connectionEstablished) ?_ rfl h
  intro v o v' out hv ho
  cases o with
  | rtpPacketSend data | rtcpPacketSend data => exact (sendProtected_connection ho).trans hv

end Sending

/-! ## Runs -/

/-- The answer is created once, media packets come when the transport is
connected, and DTLS hands keys over once. -/
structure Connects (p : Platform Ctx Ssl Cert) (w : WebrtcTransport Ctx Ssl) (e : Event) :
    Prop where
  answer : AnswersOnce w e
  enabled : Enabled w e
  keys : w.connectionEstablished = true → mediaCall p w e = none →
    ∀ w' out, step p w e = .ok (w', out) → w'.sendSrtpSession = w.sendSrtpSession

/-- A policy for a key that DTLS exported, at the viewer's end. -/
def Negotiated (p : Platform Ctx Ssl Cert) (policy : SrtpPolicy) : Prop :=
  policy.inbound = true ∧ ∃ suite, DtlsTransport.Exported p.ssl suite policy.key ∧
    SrtpSession.suitePolicies suite = some (policy.rtp, policy.rtcp)

section Runs

variable {viewer : SrtpViewer View} {Exhausted : Ctx → Prop}
  {Synced : Ctx → View → List ByteString → Prop} {w₀ : WebrtcTransport Ctx Ssl}
  {h : List (Event × List TransportOutput)} {e : Event}

/-- From all that was sent for the media stream the viewer has read what a
receiver keeps of what the media stream gave out on its way. -/
structure Viewing (p : Platform Ctx Ssl Cert) (viewer : SrtpViewer View) (Exhausted : Ctx → Prop)
    (Synced : Ctx → View → List ByteString → Prop) (w₀ w : WebrtcTransport Ctx Ssl)
    (h : List (Event × List TransportOutput))
    (history : List (MediaStream.Event × List MediaOutput)) : Prop where
  offer : SameOffer w₀ w
  before : w.mediaStream = none → history = [] ∧ ∀ kind, posted kind h = []
  after : ∀ m, w.mediaStream = some m → Streams p w₀ h m history
  idle : w.connectionEstablished = false → mediaSends h = [] ∧ ∀ kind, posted kind h = []
  reads : w.connectionEstablished = true → SrtpReady Exhausted w →
    ∃ policy v packets, Negotiated p policy ∧
      HasRead viewer Synced (viewer.join policy) w (mediaSends h) packets v ∧
      MediaStream.rtpSends packets =
        rtpNumbers.unrepeated (MediaStream.rtpSends (outputs history))

/-- The tracks of a transport, and the RTX stream of its video, have SSRCs
of their own. -/
theorem ssrcsDiffer (w : WebrtcTransport Ctx Ssl) :
    MediaStream.SsrcsDiffer w.videoRtpParams w.audioRtpParams := by
  simp [MediaStream.SsrcsDiffer, RtpParams.ssrcs, videoRtpParams, audioRtpParams]

theorem tracks_nack (w : WebrtcTransport Ctx Ssl) (params : RtpParams)
    (hp : MediaStream.IsTrack w.videoRtpParams w.audioRtpParams params) :
    params.isNackEnable = true := by
  rcases hp with rfl | rfl <;> rfl

/-- A media stream that was fed nothing has given out nothing. -/
theorem Viewing.outputs_idle
    {history : List (MediaStream.Event × List MediaOutput)}
    (hw : Viewing p viewer Exhausted Synced w₀ w h history) (hposted : ∀ kind, posted kind h = []) :
    outputs history = [] := by
  cases hm : w.mediaStream with
  | none => rw [(hw.before hm).1, outputs_nil]
  | some m =>
      obtain ⟨⟨rtpBuf, hr⟩, hfed⟩ := hw.after m hm
      exact MediaStream.run_idle rfl rfl (ssrcsDiffer w₀) hr
        fun kind => (hfed kind).trans (hposted kind)

/-- The session of a handshake, if it came about, is in step with a viewer
that joins with its key. -/
theorem KeyedBy.hasRead (ha : viewer.Agrees p.srtp Exhausted Synced) (hw : KeyedBy p w)
    (hready : SrtpReady Exhausted w) : ∃ policy, Negotiated p policy ∧
      HasRead viewer Synced (viewer.join policy) w [] [] (viewer.join policy) := by
  obtain ⟨send, suite, key, hkey, hsession⟩ := hw
  obtain ⟨session, ctx, hsession', hctx, -⟩ := hready
  obtain rfl := Option.some.inj (hsession.symm.trans hsession')
  cases hpolicies : SrtpSession.suitePolicies suite with
  | none =>
      refine absurd ?_ hkey.1
      cases suite with
      | none => rfl
      | aesCm128HmacSha1_80 | aesCm128HmacSha1_32 | aeadAes128Gcm | aeadAes256Gcm =>
          cases hpolicies
  | some policies =>
      obtain ⟨rtp, rtcp⟩ := policies
      simp only [SrtpSession.init, hpolicies] at hsession hctx
      cases hcreate : p.srtp.create { rtp, rtcp, inbound := false, key } with
      | none =>
          simp only [hcreate] at hctx
          cases hctx
      | some ctx' =>
          simp only [hcreate] at hsession hctx
          cases hctx
          exact ⟨{ rtp, rtcp, inbound := true, key }, ⟨rfl, suite, hkey, hpolicies⟩, .nil,
            ⟨_, ctx, hsession, rfl, ha.create _ ctx hcreate, ha.tagLen rtp, ha.tagLen rtcp⟩,
            fun _ hmem => by cases hmem⟩

section Steps

variable {history : List (MediaStream.Event × List MediaOutput)}

/-- When the transport is connected, what the media stream gives out is sent,
and the viewer goes on reading. -/
theorem Viewing.mediaReads (ha : viewer.Agrees p.srtp Exhausted Synced)
    (hw : Viewing p viewer Exhausted Synced w₀ w h history)
    (hconn : w.connectionEstablished = true) {m m' : MediaStream} {call : MediaStream.Event}
    {outs : List MediaOutput} {session : Option (SrtpSession Ctx)}
    (hs : Streams p w₀ h m history) (hadds : MediaStream.adds call = none)
    (hmstep : m.step p.rtpTimestamp call = .ok (m', outs))
    (hsend : onEach (onMediaOutput p)
      { w with recvSrtpSession := session, mediaStream := some m' } outs = .ok (w', out))
    (hready : SrtpReady Exhausted w') :
    ∃ policy v packets, Negotiated p policy ∧
      HasRead viewer Synced (viewer.join policy) w' (mediaSends h ++ datagrams out) packets v ∧
      MediaStream.rtpSends packets =
        rtpNumbers.unrepeated (MediaStream.rtpSends (outputs (history ++ [(call, outs)]))) := by
  have hready₁ : SrtpReady Exhausted
      { w with recvSrtpSession := session, mediaStream := some m' } :=
    onMediaOutputs_ready ha hready hsend
  obtain ⟨policy, v, packets, hpolicy, ⟨hreads, ⟨s, ctx, hv⟩, hreports⟩, hkept⟩ :=
    hw.reads hconn hready₁
  obtain ⟨rtpBuf, hr⟩ := hs.run
  have hout := MediaStream.run_goOut rfl rfl (ssrcsDiffer w₀) (tracks_nack w₀) hr hadds hmstep
  rw [← hkept] at hout
  have hv₁ : HasRead viewer Synced (viewer.join policy)
      { w with recvSrtpSession := session, mediaStream := some m' } (mediaSends h) packets v :=
    ⟨hreads, ⟨s, ctx, hv⟩, hreports⟩
  obtain ⟨v', packets', hv', hkept'⟩ := onMediaOutputs_reads ha hv₁ hout hsend hready
  refine ⟨policy, v', packets', hpolicy, hv', ?_⟩
  rw [hkept', hkept, outputs_snoc, MediaStream.rtpSends_append, Numbering.unrepeated_append]

/-- Media packets are not posted before the transport is connected. -/
theorem posted_unconnected (henabled : Enabled w e) (hconn : w.connectionEstablished = false)
    (hposted : ∀ kind, posted kind h = []) (kind : MediaType) :
    posted kind (h ++ [(e, out)]) = [] := by
  rw [posted_snoc, hposted, List.nil_append]
  cases e with
  | incomingH264Packet _ _ _ | incomingOpusPacket _ _ _ =>
      rw [show w.connectionEstablished = true from henabled] at hconn
      cases hconn
  | createAnswer _ | udpSocketDataReceive _ _ | udpSocketError | rtcpTimerTimeout _ _
    | dtlsTimerTimeout | mediaSourceEnd => rfl

/-- A step that calls the media stream sends, when connected, what it gives
out, and before gives out nothing. -/
theorem Viewing.mediaStep (ha : viewer.Agrees p.srtp Exhausted Synced)
    (hw : Viewing p viewer Exhausted Synced w₀ w h history) (henabled : Enabled w e)
    {call : MediaStream.Event} (hcall : mediaCall p w e = some call)
    (hok : step p w e = .ok (w', out)) :
    ∃ history', Viewing p viewer Exhausted Synced w₀ w' (h ++ [(e, out)]) history' := by
  cases hm : w.mediaStream with
  | none =>
      obtain ⟨session, -, hstep⟩ := step_of_mediaCall hcall
      simp only [hstep, callMediaStream, hm] at hok
      cases hok
  | some m =>
      have hoffer := hw.offer.trans (step_sameOffer hok)
      have hs := hw.after m hm
      obtain ⟨m', outs, session, hmstep, hsend, hm', hs'⟩ := hs.step hm hcall hok
      have hafter : ∀ m'', w'.mediaStream = some m'' →
          Streams p w₀ (h ++ [(e, out)]) m'' (history ++ [(call, outs)]) := by
        intro m'' hm''
        obtain rfl := Option.some.inj (hm'.symm.trans hm'')
        exact hs'
      have hbefore : w'.mediaStream = none → history ++ [(call, outs)] = [] ∧
          ∀ kind, posted kind (h ++ [(e, out)]) = [] := by
        intro hnone
        rw [hm'] at hnone
        cases hnone
      have hsends : mediaSends (h ++ [(e, out)]) = mediaSends h ++ datagrams out := by
        rw [mediaSends_snoc, if_pos (usesMediaStream_of_mediaCall hcall)]
      have hconn' : w'.connectionEstablished = w.connectionEstablished :=
        (onMediaOutputs_connection hsend).trans rfl
      cases hconn : w.connectionEstablished with
      | true =>
          refine ⟨_, hoffer, hbefore, hafter, ?_, ?_⟩
          · intro hidle
            rw [hconn', hconn] at hidle
            cases hidle
          · intro _ hready
            rw [hsends]
            exact hw.mediaReads ha hconn hs (mediaCall_adds hcall) hmstep hsend hready
      | false =>
          obtain ⟨hnothing, hposted⟩ := hw.idle hconn
          have hposted' : ∀ kind, posted kind (h ++ [(e, out)]) = [] :=
            posted_unconnected henabled hconn hposted
          obtain ⟨rtpBuf, hr⟩ := hs'.run
          have hnone := MediaStream.run_idle rfl rfl (ssrcsDiffer w₀) hr
            fun kind => (hs'.fed kind).trans (hposted' kind)
          rw [outputs_snoc] at hnone
          obtain rfl : outs = [] := (List.append_eq_nil_iff.mp hnone).2
          cases hsend
          refine ⟨_, hoffer, hbefore, hafter, ?_, ?_⟩
          · intro _
            refine ⟨?_, hposted'⟩
            rw [hsends, hnothing]
            rfl
          · intro hyes _
            rw [show w.connectionEstablished = true from hyes] at hconn
            cases hconn

/-- Any other step leaves the media stream alone, or makes it. -/
theorem Viewing.otherMedia (hw : Viewing p viewer Exhausted Synced w₀ w h history)
    (hc : Connects p w e) (hcall : mediaCall p w e = none) (hok : step p w e = .ok (w', out))
    (hposted : ∀ kind, posted kind (h ++ [(e, out)]) = posted kind h) :
    (w'.mediaStream = none → history = [] ∧ ∀ kind, posted kind h = []) ∧
      ∀ m, w'.mediaStream = some m → Streams p w₀ (h ++ [(e, out)]) m history := by
  by_cases hanswer : ∃ rtpBuf, e = .createAnswer rtpBuf
  · obtain ⟨rtpBuf, rfl⟩ := hanswer
    obtain ⟨rfl, hnone⟩ := hw.before (hc.answer rtpBuf rfl)
    cases hok
    refine ⟨?_, ?_⟩
    · intro h'
      cases h'
    · intro m hm
      cases hm
      obtain ⟨hv, ha⟩ := hw.offer.params
      refine ⟨⟨rtpBuf, ?_⟩, ?_⟩
      · rw [← hv, ← ha]
        exact .nil
      · intro kind
        rw [hposted, hnone]
        rfl
  · have hkeep := step_keeps_media hcall (fun rtpBuf he => hanswer ⟨rtpBuf, he⟩) hok
    refine ⟨?_, ?_⟩
    · intro hnone
      exact hw.before (hkeep ▸ hnone)
    · intro m hm
      have hs := hw.after m (hkeep ▸ hm)
      exact ⟨hs.run, fun kind => (hs.fed kind).trans (hposted kind).symm⟩

/-- Any other step sends nothing for the media stream. -/
theorem Viewing.otherStep (ha : viewer.Agrees p.srtp Exhausted Synced) (hasm : Assembled w)
    (hw : Viewing p viewer Exhausted Synced w₀ w h history) (hc : Connects p w e)
    (hcall : mediaCall p w e = none) (hok : step p w e = .ok (w', out)) :
    Viewing p viewer Exhausted Synced w₀ w' (h ++ [(e, out)]) history := by
  have hconnected := step_connected hcall hok
  have hposted : ∀ kind, posted kind (h ++ [(e, out)]) = posted kind h := by
    intro kind
    rw [posted_snoc, posted_of_no_mediaCall kind hcall, List.append_nil]
  have hsends : mediaSends (h ++ [(e, out)]) = mediaSends h := by
    rw [mediaSends_snoc, if_neg (not_usesMediaStream hasm hcall), List.append_nil]
  obtain ⟨hbefore, hafter⟩ := hw.otherMedia hc hcall hok hposted
  refine ⟨hw.offer.trans (step_sameOffer hok), ?_, hafter, ?_, ?_⟩
  · intro hnone
    simpa only [hposted] using hbefore hnone
  · intro hidle
    cases hconn : w.connectionEstablished with
    | true =>
        rw [hconnected.still hconn] at hidle
        cases hidle
    | false => simpa only [hsends, hposted] using hw.idle hconn
  · intro hyes hready
    cases hconn : w.connectionEstablished with
    | true =>
        have hkeys := hc.keys hconn hcall w' out hok
        rw [SrtpReady, hkeys] at hready
        obtain ⟨policy, v, packets, hpolicy, ⟨hreads, hv, hreports⟩, hkept⟩ :=
          hw.reads hconn hready
        refine ⟨policy, v, packets, hpolicy, ⟨by rwa [hsends], ?_, hreports⟩, hkept⟩
        rwa [InStepWith, hkeys]
    | false =>
        obtain ⟨policy, hpolicy, hv⟩ := (hconnected.newly hconn hyes).hasRead ha hready
        obtain ⟨hnothing, hnone⟩ := hw.idle hconn
        refine ⟨policy, viewer.join policy, [], hpolicy, ?_, ?_⟩
        · rwa [hsends, hnothing]
        · rw [hw.outputs_idle hnone]
          rfl

end Steps

theorem run_watched_by (ha : viewer.Agrees p.srtp Exhausted Synced) (hw₀ : Assembled w₀)
    (hnone : w₀.mediaStream = none) (hnot : w₀.connectionEstablished = false)
    (hr : Run (WebrtcTransport.step p) (Connects p) w₀ h w) :
    ∃ history, Viewing p viewer Exhausted Synced w₀ w h history := by
  induction hr with
  | nil =>
      refine ⟨[], .refl w₀, fun _ => ⟨rfl, fun _ => rfl⟩, fun m hm => ?_,
        fun _ => ⟨rfl, fun _ => rfl⟩, fun hyes _ => ?_⟩
      · rw [hnone] at hm
        cases hm
      · exact absurd (hnot.symm.trans hyes) (by decide)
  | @snoc h w w' e out hr hc hok ih =>
      obtain ⟨history, hw⟩ := ih
      cases hcall : mediaCall p w e with
      | some call => exact hw.mediaStep ha hc.enabled hcall hok
      | none => exact ⟨history, hw.otherStep ha (run_assembled hw₀ hnone hr).1 hc hcall hok⟩

end Runs

/-- What the far end of a transport makes of the datagrams sent for these
media packets: the RTP packets that it reads under the SSRC of each track are
those that the packetizer emits, each once and in order; whatever it reads is
one of these, in an RTX packet it may be, or a sender report. -/
def FarEndReads (p : Platform Ctx Ssl Cert) (viewer : SrtpViewer View)
    (w : WebrtcTransport Ctx Ssl) (video audio : List MediaPacket) (datagrams : List ByteString) :
    Prop :=
  ∃ policy v packets rtpBuf videoPkts audioPkts, Negotiated p policy ∧
    viewer.Reads (viewer.join policy) datagrams packets v ∧
    MediaStream.emitted p.rtpTimestamp w.videoRtpParams rtpBuf video = .ok videoPkts ∧
    MediaStream.emitted p.rtpTimestamp w.audioRtpParams rtpBuf audio = .ok audioPkts ∧
    rtpNumbers.ofStream (MediaStream.rtpSends packets) w.videoRtpParams.ssrc =
      videoPkts.map RtpPacket.bytes ∧
    rtpNumbers.ofStream (MediaStream.rtpSends packets) w.audioRtpParams.ssrc =
      audioPkts.map RtpPacket.bytes ∧
    (∀ data ∈ MediaStream.rtpSends packets,
      (WebrtcServer.receive w.audioRtpParams data = none ∧
        ∃ pkt ∈ videoPkts, WebrtcServer.receive w.videoRtpParams data = some pkt.kept) ∨
      (WebrtcServer.receive w.videoRtpParams data = none ∧
        ∃ pkt ∈ audioPkts, WebrtcServer.receive w.audioRtpParams data = some pkt.kept)) ∧
    ∀ data, .rtcpPacketSend data ∈ packets → SenderReportPacket.IsSenderReport data

theorem Viewing.farEndReads {viewer : SrtpViewer View} {Exhausted : Ctx → Prop}
    {Synced : Ctx → View → List ByteString → Prop} {w₀ : WebrtcTransport Ctx Ssl}
    {h : List (Event × List TransportOutput)}
    {history : List (MediaStream.Event × List MediaOutput)}
    (hw : Viewing p viewer Exhausted Synced w₀ w h history)
    (hmedia : w.mediaStream.isSome = true) (hconn : w.connectionEstablished = true)
    (hready : SrtpReady Exhausted w) :
    FarEndReads p viewer w (posted .video h) (posted .audio h) (mediaSends h) := by
  obtain ⟨m, hm⟩ := Option.isSome_iff_exists.mp hmedia
  obtain ⟨policy, v, packets, hpolicy, hread, hkept⟩ := hw.reads hconn hready
  obtain ⟨⟨rtpBuf, hrun⟩, hfed⟩ := hw.after m hm
  obtain ⟨hv, ha⟩ := hw.offer.params
  rw [← hv, ← ha] at hrun
  obtain ⟨-, -, videoPkts, audioPkts, hvideo, haudio, hvideoKept, haudioKept⟩ :=
    MediaStream.run_orderly rfl rfl (ssrcsDiffer w) (tracks_nack w) hrun
  obtain ⟨videoPkts', audioPkts', hvideo', haudio', -, -, hgenuine⟩ :=
    MediaStream.run_genuine rfl rfl (ssrcsDiffer w) hrun
  obtain rfl := Except.ok.inj (hvideo.symm.trans hvideo')
  obtain rfl := Except.ok.inj (haudio.symm.trans haudio')
  rw [hfed] at hvideo haudio
  rw [← hkept] at hvideoKept haudioKept
  refine ⟨policy, v, packets, rtpBuf, videoPkts, audioPkts, hpolicy, hread.reads, hvideo, haudio,
    hvideoKept, haudioKept, ?_, hread.reports⟩
  intro data hdata
  rw [hkept] at hdata
  exact hgenuine data ((Numbering.unrepeated_sublist _).subset hdata)

/-- In every run of a transport that has been answered and is connected, with
an SRTP session that came about and is not exhausted, the viewer that holds
the exported key reads from the datagrams sent for the media stream, in their
order, the RTP packets that the packetizers emit for the media packets that
were posted, each once, and otherwise RTX packets that carry one of these and
sender reports.  It refuses a datagram only as a repeat of what it has
read. -/
theorem viewer_reads {viewer : SrtpViewer View} {Exhausted : Ctx → Prop}
    {Synced : Ctx → View → List ByteString → Prop}
    (ha : viewer.Agrees p.srtp Exhausted Synced) {iceLite : IceLite} {dtls : DtlsTransport Ssl}
    {h264 h264Rtx opus : Int} {remoteSetup : String} {protectBuffer : Memory}
    {h : List (Event × List TransportOutput)} (hssl : dtls.ssl.isSome = true)
    (hr : Run (step p) (Connects p)
      (started iceLite dtls h264 h264Rtx opus remoteSetup protectBuffer) h w)
    (hanswer : AnswerCreated h) (hconn : w.connectionEstablished = true)
    (hready : SrtpReady Exhausted w) :
    FarEndReads p viewer w (posted .video h) (posted .audio h) (mediaSends h) := by
  have hw₀ : Assembled (started iceLite dtls h264 h264Rtx opus remoteSetup protectBuffer :
    WebrtcTransport Ctx Ssl) := assembled_started hssl
  obtain ⟨history, hw⟩ := run_watched_by ha hw₀ rfl rfl hr
  exact hw.farEndReads ((run_assembled hw₀ rfl hr).2.mpr hanswer) hconn hready

/-! ICE and DTLS come through, a frame of each kind is posted, and the viewer
asks for the audio packet again. -/

section Samples

/-- The viewer's end of the sample library, whose tags have ten bytes, and
fourteen with the SRTCP index. -/
def sampleViewer : SrtpViewer (List ByteString) where
  join _ := []
  unprotect had datagram :=
    let data := datagram.take (datagram.length - 10)
    if rtpNumbers.IsNext had data then some (data, had ++ [data]) else none
  unprotectRtcp had datagram := some (datagram.take (datagram.length - 14), had)

theorem take_window (data : Memory) (len n : Nat) :
    (window data 0 (len + n)).take ((window data 0 (len + n)).length - n) = window data 0 len := by
  rw [window_length, Nat.add_sub_cancel, window_append]
  simp

theorem sampleViewer_unprotect (had : List ByteString) (data : Memory) (len : Nat) :
    sampleViewer.unprotect had (window data 0 (len + 10)) =
      if rtpNumbers.IsNext had (window data 0 len) then
        some (window data 0 len, had ++ [window data 0 len])
      else none := by
  simp only [sampleViewer, take_window]

theorem sampleViewer_agrees (unprotectRtcp : Unit → Memory → Nat → SrtpResult Unit) :
    sampleViewer.Agrees { sampleSrtp with unprotectRtcp } (fun _ => False)
      fun _ v had => v = had where
  create _ _ _ := rfl
  next ctx v had data len hsynced _ _ hnext _ := by
    subst hsynced
    refine ⟨rfl, v ++ [window data 0 len], ?_, rfl⟩
    show sampleViewer.unprotect v (window data 0 (len + 10)) = _
    rw [sampleViewer_unprotect, if_pos hnext]
  again ctx v had data len hsynced _ hagain _ := by
    subst hsynced
    refine ⟨?_, rfl⟩
    show sampleViewer.unprotect v (window data 0 (len + 10)) = _
    rw [sampleViewer_unprotect, if_neg hagain.not_next]
  header ctx data len hisRtp := by
    have hlen : kRtpHeaderFixedSize ≤ len := by simpa using hisRtp.fixed_le
    refine RtpHeader.decode_congr fun i hi => ?_
    show Memory.ofList (window data 0 (len + 10)) i = _
    rw [ofList_window (by omega), ofList_window (by omega)]
  report ctx v had data len hsynced _ _ :=
    ⟨rfl, v, congrArg (fun d => some (d, v)) (take_window data len 14), hsynced⟩
  exhausted _ _ _ h := h
  exhaustedRtcp _ _ _ h := h
  tagLen _ := (by decide : 10 ≤ 16)

/-- A step that finds the transport unconnected, or calls the media stream. -/
theorem connects_of {e : Event} (hanswer : AnswersOnce w e) (henabled : Enabled w e)
    (hkeys : w.connectionEstablished = false ∨ (mediaCall p w e).isSome = true) :
    Connects p w e := by
  refine ⟨hanswer, henabled, fun hconn hcall => ?_⟩
  rcases hkeys with hnot | hsome
  · exact absurd (hnot.symm.trans hconn) (by decide)
  · rw [hcall] at hsome
    cases hsome

/-- The sample library, where it takes the tag off RTCP. -/
def openingSrtp : SrtpLib Unit :=
  { sampleSrtp with
    unprotectRtcp := fun _ data len => { ok := true, ctx := (), data, len := len - 14 } }

def openingPlatform : Platform Unit Bool (List UInt8) :=
  { samplePlatform announced with srtp := openingSrtp }

def postVideo : Event :=
  .incomingH264Packet (fun _ => 0) (fun _ => 1000) H264RtpPacketizer.sampleFrame

def postAudio : Event := .incomingOpusPacket (fun _ => 0) (fun _ => 1000) MediaStream.opusFrame

/-- A NACK of the audio packet 0. -/
def nackAudio : Datagram :=
  IceLite.fromStranger
    ([0x81, 205, 0, 3, 0, 0, 0, 1, 0x05, 0x39, 0x7F, 0xB1, 0, 0, 0, 0] ++ List.replicate 14 0)

/-- Two video packets and an audio packet are sent, and the audio packet a
second time. -/
theorem watched_run : ∃ h w, Run (step openingPlatform) (Connects openingPlatform) sampleTransport
      h w ∧
    AnswerCreated h ∧ posted .video h = [H264RtpPacketizer.sampleFrame] ∧
    posted .audio h = [MediaStream.opusFrame] ∧ w.connectionEstablished = true ∧
    SrtpReady (fun _ => False) w ∧ (mediaSends h).map (List.take 4) =
      [[0x80, 0x66, 0, 0], [0x80, 0xE6, 0, 1], [0x80, 0xEF, 0, 0], [0x80, 0xEF, 0, 0]] := by
  have hsteps : ∃ w₁ w₂ w₃ w₄ w₅ w₆ w₇ o₁ o₂ o₃ o₄ o₅ o₆ o₇,
      step openingPlatform sampleTransport (.createAnswer fun _ => 0) = .ok (w₁, o₁) ∧
      step openingPlatform w₁ (receive IceLite.bareNomination) = .ok (w₂, o₂) ∧
      step openingPlatform w₂ (receive IceLite.bareNomination) = .ok (w₃, o₃) ∧
      step openingPlatform w₃ (receive handshakeDatagram) = .ok (w₄, o₄) ∧
      step openingPlatform w₄ postVideo = .ok (w₅, o₅) ∧
      step openingPlatform w₅ postAudio = .ok (w₆, o₆) ∧
      step openingPlatform w₆ (receive nackAudio) = .ok (w₇, o₇) ∧
      w₁.connectionEstablished = false ∧ w₂.connectionEstablished = false ∧
      w₃.connectionEstablished = false ∧ w₄.connectionEstablished = true ∧
      w₅.connectionEstablished = true ∧ w₇.connectionEstablished = true ∧
      (mediaCall openingPlatform w₆ (receive nackAudio)).isSome = true ∧
      w₇.sendSrtpSession = some ⟨some (), 10, 10⟩ ∧
      (datagrams o₅ ++ (datagrams o₆ ++ (datagrams o₇ ++ []))).map (List.take 4) =
        [[0x80, 0x66, 0, 0], [0x80, 0xE6, 0, 1], [0x80, 0xEF, 0, 0], [0x80, 0xEF, 0, 0]] :=
    ⟨_, _, _, _, _, _, _, _, _, _, _, _, _, _, rfl, rfl, rfl, rfl, rfl, rfl, rfl, rfl, rfl, rfl,
      rfl, rfl, rfl, rfl, rfl, rfl⟩
  obtain ⟨w₁, w₂, w₃, w₄, w₅, w₆, w₇, o₁, o₂, o₃, o₄, o₅, o₆, o₇, h₁, h₂, h₃, h₄, h₅, h₆, h₇, hw₁,
    hw₂, hw₃, hw₄, hw₅, hw₇, hnack, hsession, hout⟩ := hsteps
  have hreceive : ∀ (w : WebrtcTransport Unit Bool) d, w.connectionEstablished = false ∨
        (mediaCall openingPlatform w (receive d)).isSome = true →
      Connects openingPlatform w (receive d) :=
    fun w d hw => connects_of (fun _ he => by cases he) trivial hw
  have hanswer : Connects openingPlatform sampleTransport (.createAnswer fun _ => 0) :=
    connects_of (fun _ _ => rfl) trivial (Or.inl rfl)
  have hvideo : Connects openingPlatform w₄ postVideo :=
    connects_of (fun _ he => by cases he) hw₄ (Or.inr rfl)
  have haudio : Connects openingPlatform w₅ postAudio :=
    connects_of (fun _ he => by cases he) hw₅ (Or.inr rfl)
  exact ⟨_, w₇, ((((((Run.nil.snoc hanswer h₁).snoc (hreceive w₁ _ (Or.inl hw₁)) h₂).snoc
    (hreceive w₂ _ (Or.inl hw₂)) h₃).snoc (hreceive w₃ _ (Or.inl hw₃)) h₄).snoc hvideo h₅).snoc
    haudio h₆).snoc (hreceive w₆ _ (Or.inr hnack)) h₇,
    ⟨_, o₁, List.mem_cons_self⟩, rfl, rfl, hw₇, ⟨_, (), hsession, rfl, id⟩, hout⟩

/-- All four datagrams are on the wire, and the viewer reads three of them. -/
theorem viewer_reads_sampleFrame : ∃ h w,
    (mediaSends h).map (List.take 4) =
      [[0x80, 0x66, 0, 0], [0x80, 0xE6, 0, 1], [0x80, 0xEF, 0, 0], [0x80, 0xEF, 0, 0]] ∧
    FarEndReads openingPlatform sampleViewer (w : WebrtcTransport Unit Bool)
      [H264RtpPacketizer.sampleFrame] [MediaStream.opusFrame] (mediaSends h) := by
  obtain ⟨h, w, hr, hanswer, hvideo, haudio, hconn, hready, hsends⟩ := watched_run
  have hreads := viewer_reads (sampleViewer_agrees openingSrtp.unprotectRtcp) rfl hr hanswer hconn
    hready
  rw [hvideo, haudio] at hreads
  exact ⟨h, w, hsends, hreads⟩

end Samples

end WebrtcTransport

end WebrtcServer
