/-
# `UnprotectedRtcp` — RTCP that fails authentication

`OnUdpSocketDataReceive` logs that `UnprotectRtcp` has failed and goes on:
the media stream gets whatever the buffer then holds, which is the datagram
as it came when libsrtp leaves it alone.  So a datagram that is not
authentic does no harm only if its packets are without effect themselves.
`Inert` says for one packet that it is: a NACK of a track whose listed slots
are empty or kept back, a report that measures the rtt already known, or a
packet that nobody acts on.
-/
import WebrtcServer.DtlsAuth
import WebrtcServer.TransportMedia

namespace WebrtcServer

open Lib

/-- A property of the entries of a list by their index, at its head and in
its tail. -/
theorem forall_getElem_cons {α : Type} {P : Nat → α → Prop} {a : α} {l : List α}
    (h : ∀ i (hi : i < (a :: l).length), P i (a :: l)[i]) :
    P 0 a ∧ ∀ i (hi : i < l.length), P (i + 1) l[i] :=
  ⟨h 0 (by simp), fun i hi => h (i + 1) (by simpa using hi)⟩

/-! ## Packets without effect on a track -/

namespace StreamTrack

section Track

variable {t : StreamTrack}

/-- The round-trip time that a report block measures. -/
def reportedRtt (now : UInt64) (block : ReportBlock) : UInt64 :=
  UInt64.ofInt (NtpTime.createFromCompactNtp ((NtpTime.createFromMillis now).toCompactNtp -
    block.delaySinceLastSr - block.lastSr)).toMillis

/-- The slot of a listed number is empty, or a filter keeps its packet
back. -/
def HeldBack (t : StreamTrack) (now : UInt64) (seqNum : UInt16) : Prop :=
  ∀ pkt, t.sendBuffer (slotOf seqNum) = some pkt →
    t.tooOld pkt = true ∨ t.tooRecent pkt now = true

/-- The track answers a NACK with nothing. -/
def IgnoresNack (t : StreamTrack) (clock : Nat → UInt64) (nack : NackPacket) : Prop :=
  t.params.isNackEnable = true →
    ∀ i (hi : i < nack.lost.length), t.HeldBack (clock i) nack.lost[i]

/-- A report block measures nothing or what is known. -/
def KeepsRtt (t : StreamTrack) (now : UInt64) (block : ReportBlock) : Prop :=
  block.lastSr ≠ 0 → reportedRtt now block = t.rtt

theorem resendListed_heldBack {now : UInt64} {seqNum : UInt16} (h : t.HeldBack now seqNum) :
    t.resendListed now seqNum = .ok (t, []) := by
  simp only [resendListed]
  split
  · rfl
  next pkt hpkt =>
    rcases h pkt hpkt with hold | hrecent
    · rw [if_pos hold]
    · simp only [hrecent, if_true, ite_self]

theorem resendEach_heldBack (clock : Nat → UInt64) {lost : List UInt16}
    (h : ∀ i (hi : i < lost.length), t.HeldBack (clock i) lost[i]) :
    resendEach clock t lost = .ok (t, []) := by
  induction lost generalizing clock with
  | nil => rfl
  | cons seqNum lost ih =>
      obtain ⟨hfirst, hrest⟩ :=
        forall_getElem_cons (P := fun i seqNum => t.HeldBack (clock i) seqNum) h
      simp only [resendEach, resendListed_heldBack hfirst, ih (fun i => clock (i + 1)) hrest,
        List.append_nil]

theorem receiveNack_ignored {clock : Nat → UInt64} {nack : NackPacket} (h : t.IgnoresNack clock nack) :
    t.receiveNack clock nack = .ok (t, []) := by
  simp only [receiveNack]
  split
  · rfl
  next hheed =>
    rw [not_or, Bool.not_eq_false] at hheed
    exact resendEach_heldBack clock (h hheed.2)

theorem receiveReceiverReport_keeps {now : UInt64} {block : ReportBlock}
    (h : t.KeepsRtt now block) : t.receiveReceiverReport now block = t := by
  simp only [receiveReceiverReport]
  split
  next hlast =>
    have hrtt := h hlast
    simp only [reportedRtt] at hrtt
    rw [hrtt]
  · rfl

end Track

end StreamTrack

/-! ## Packets without effect on the media stream -/

namespace MediaStream

/-- The same packetizers, and the same track under every SSRC. -/
structure Same (s s' : MediaStream) : Prop where
  lookup : ∀ ssrc, s'.streamTracks.lookup ssrc = s.streamTracks.lookup ssrc
  h264 : s'.h264Packetizer = s.h264Packetizer
  opus : s'.opusPacketizer = s.opusPacketizer

/-- `s` does not act on `p`. -/
structure Inert (s : MediaStream) (clock : Nat → UInt64) (p : RtcpPacket) : Prop where
  nack : p.type = kRtcpTypeRtpfb → p.format = 1 → ∀ nack, p.asNack = some nack →
    ∃ t, s.streamTracks.lookup nack.mediaSsrc = some (some t) ∧ t.IgnoresNack clock nack
  receiverReport : p.type = kRtcpTypeRr → ∀ rr, p.asReceiverReport = some rr →
    ∀ i (hi : i < rr.reportBlocks.length),
      ∀ t, s.streamTracks.lookup rr.reportBlocks[i].sourceSsrc = some (some t) →
        t.KeepsRtt (clock i) rr.reportBlocks[i]

section Steps

variable {s s' s'' : MediaStream} {ssrc : UInt32} {t : StreamTrack}

theorem Same.refl (s : MediaStream) : Same s s := ⟨fun _ => rfl, rfl, rfl⟩

theorem Same.trans (h : Same s s') (h' : Same s' s'') : Same s s'' :=
  ⟨fun ssrc => (h'.lookup ssrc).trans (h.lookup ssrc), h'.h264.trans h.h264,
    h'.opus.trans h.opus⟩

/-- A track put back as it was. -/
theorem Same.insert (h : s.streamTracks.lookup ssrc = some (some t)) :
    Same s { s with streamTracks := s.streamTracks.insert ssrc (some t) } := by
  refine ⟨?_, rfl, rfl⟩
  intro ssrc'
  by_cases heq : ssrc' = ssrc
  · rw [heq, AList.lookup_insert, h]
  · rw [AList.lookup_insert_ne heq]

theorem Inert.of_same {clock : Nat → UInt64} {p : RtcpPacket} (h : s.Inert clock p)
    (hs : Same s s') : s'.Inert clock p := by
  refine ⟨?_, ?_⟩
  · intro ht hf nack hnack
    rw [hs.lookup]
    exact h.nack ht hf nack hnack
  · intro ht rr hrr i hi t hlookup
    rw [hs.lookup] at hlookup
    exact h.receiverReport ht rr hrr i hi t hlookup

/-- No entry of the map is null. -/
def NoNull (s : MediaStream) : Prop := ∀ ssrc, s.streamTracks.lookup ssrc ≠ some none

theorem Inv.noNull {keys : List UInt32} (hi : Inv keys s) : s.NoNull := by
  intro ssrc hnull
  obtain ⟨t, ht, -⟩ := hi.tracks ssrc none hnull
  cases ht

theorem NoNull.of_same (h : s.NoNull) (hs : Same s s') : s'.NoNull := fun ssrc => by
  rw [hs.lookup]
  exact h ssrc

theorem receiveReportBlock_keeps {now : UInt64} {block : ReportBlock} (hn : s.NoNull)
    (h : ∀ t, s.streamTracks.lookup block.sourceSsrc = some (some t) → t.KeepsRtt now block) :
    ∃ s', s.receiveReportBlock now block = .ok s' ∧ Same s s' := by
  simp only [receiveReportBlock]
  split
  · exact ⟨s, rfl, .refl s⟩
  next hnull => exact absurd hnull (hn _)
  next t hlookup =>
    rw [StreamTrack.receiveReceiverReport_keeps (h t hlookup)]
    exact ⟨_, rfl, .insert hlookup⟩

theorem receiveReportBlocks_keeps (clock : Nat → UInt64) {blocks : List ReportBlock}
    (hn : s.NoNull)
    (h : ∀ i (hi : i < blocks.length), ∀ t,
      s.streamTracks.lookup blocks[i].sourceSsrc = some (some t) →
        t.KeepsRtt (clock i) blocks[i]) :
    ∃ s', receiveReportBlocks clock s blocks = .ok s' ∧ Same s s' := by
  induction blocks generalizing clock s with
  | nil => exact ⟨s, rfl, .refl s⟩
  | cons block blocks ih =>
      obtain ⟨hfirst, hrest⟩ := forall_getElem_cons
        (P := fun i block => ∀ t, s.streamTracks.lookup block.sourceSsrc = some (some t) →
          t.KeepsRtt (clock i) block) h
      obtain ⟨s₁, h₁, hs₁⟩ := receiveReportBlock_keeps hn hfirst
      obtain ⟨s₂, h₂, hs₂⟩ := ih (fun i => clock (i + 1)) (hn.of_same hs₁) (by
        intro i hi t hlookup
        rw [hs₁.lookup] at hlookup
        exact hrest i hi t hlookup)
      exact ⟨s₂, by simp only [receiveReportBlocks, h₁, h₂], hs₁.trans hs₂⟩

/-- Nothing comes of an inert packet. -/
theorem receivePacket_inert {clock : Nat → UInt64} {p : RtcpPacket} (hn : s.NoNull)
    (hcast : p.Castable) (h : s.Inert clock p) :
    ∃ s', s.receivePacket clock p = .ok (s', []) ∧ Same s s' := by
  simp only [receivePacket]
  split
  next hfb =>
    split
    next hfmt =>
      obtain ⟨nack, hnack⟩ := hcast.nack hfb hfmt
      obtain ⟨t, hlookup, hignores⟩ := h.nack hfb hfmt nack hnack
      refine ⟨_, ?_, .insert hlookup⟩
      simp only [hnack, callTrack, index, hlookup, StreamTrack.receiveNack_ignored hignores,
        List.map_nil]
    next => exact ⟨s, rfl, .refl s⟩
  next =>
    split
    next hrr =>
      obtain ⟨rr, hcast⟩ := hcast.receiverReport hrr
      obtain ⟨s', hok, hs⟩ :=
        receiveReportBlocks_keeps clock hn (h.receiverReport hrr rr hcast)
      exact ⟨s', by simp only [hcast, hok], hs⟩
    next => exact ⟨s, rfl, .refl s⟩

/-- Nor of a compound of them; the induction is on the packets left, in a
media stream that is still the same. -/
theorem receivePackets_inert (clock : Nat → Nat → UInt64) {ps : List RtcpPacket}
    (hn : s.NoNull) (hcast : ∀ p ∈ ps, p.Castable)
    (h : ∀ i (hi : i < ps.length), s.Inert (clock i) ps[i]) :
    ∃ s', receivePackets clock s ps = .ok (s', []) ∧ Same s s' := by
  induction ps generalizing clock s with
  | nil => exact ⟨s, rfl, .refl s⟩
  | cons p ps ih =>
      obtain ⟨hp, hps⟩ := List.forall_mem_cons.mp hcast
      obtain ⟨hfirst, hrest⟩ := forall_getElem_cons (P := fun i p => s.Inert (clock i) p) h
      obtain ⟨s₁, h₁, hs₁⟩ := receivePacket_inert hn hp hfirst
      obtain ⟨s₂, h₂, hs₂⟩ := ih (fun i => clock (i + 1)) (hn.of_same hs₁) hps
        fun i hi => (hrest i hi).of_same hs₁
      exact ⟨s₂, by simp only [receivePackets, h₁, h₂, List.append_nil], hs₁.trans hs₂⟩

theorem receiveRctp_inert {clock : Nat → Nat → UInt64} {data : Memory} {len : Nat}
    (hn : s.NoNull)
    (h : ∀ ps, RtcpCompound.parse data len = some ps →
      ∀ i (hi : i < ps.length), s.Inert (clock i) ps[i]) :
    ∃ s', s.receiveRctp clock data len = .ok (s', []) ∧ Same s s' := by
  simp only [receiveRctp]
  cases hparse : RtcpCompound.parse data len with
  | none => exact ⟨s, rfl, .refl s⟩
  | some ps => exact receivePackets_inert clock hn (parse_castable hparse) (h ps hparse)

end Steps

end MediaStream

/-! ## Datagrams without effect on the transport -/

namespace WebrtcTransport

section Datagrams

variable {Ctx Ssl Cert : Type} (p : Platform Ctx Ssl Cert) (w w' : WebrtcTransport Ctx Ssl)
  (d : Datagram)

/-- A datagram classified as RTCP that `UnprotectRtcp` rejects. -/
def Unauthenticated : Prop :=
  kindOf d = .rtcp ∧ ∃ session, w.recvSrtpSession = some session ∧
    (session.unprotectRtcp p.srtp d.data d.len 0).ok = false

/-- What a rejected datagram leaves in the buffer is no compound, or one of
packets that the media stream does not act on. -/
def Harmless : Event → Prop
  | .udpSocketDataReceive d clock =>
      kindOf d = .rtcp → ∀ session m, w.recvSrtpSession = some session →
        w.mediaStream = some m →
          let r := session.unprotectRtcp p.srtp d.data d.len 0
          r.ok = false → ∀ ps, RtcpCompound.parse r.data r.outLen = some ps →
            ∀ i (hi : i < ps.length), m.Inert (clock i) ps[i]
  | _ => True

/-- Nothing was sent, and the media stream is the same. -/
def Untouched (out : List TransportOutput) : Prop :=
  out = [] ∧ ∀ m, w.mediaStream = some m → ∃ m', w'.mediaStream = some m' ∧ m.Same m'

/-- No datagram of the history that was rejected has touched anything. -/
def RejectedIgnored (w₀ : WebrtcTransport Ctx Ssl) (h : List (Event × List TransportOutput)) :
    Prop :=
  ∀ pre d clock out post, h = pre ++ (.udpSocketDataReceive d clock, out) :: post →
    ∃ u u', Run (step p) (fun _ _ => True) w₀ pre u ∧
      step p u (.udpSocketDataReceive d clock) = .ok (u', out) ∧
      (Unauthenticated p u d → Untouched u u' out)

variable {p w w' d}

/-- A datagram that the media stream answers with nothing. -/
theorem step_silentRtcp {clock : Nat → Nat → UInt64} {session : SrtpSession Ctx}
    {m m' : MediaStream} (hkind : kindOf d = .rtcp) (hsession : w.recvSrtpSession = some session)
    (hm : w.mediaStream = some m)
    (hok : m.receiveRctp clock (session.unprotectRtcp p.srtp d.data d.len 0).data
      (session.unprotectRtcp p.srtp d.data d.len 0).outLen = .ok (m', [])) :
    ∃ w', step p w (.udpSocketDataReceive d clock) = .ok (w', []) ∧ w'.mediaStream = some m' := by
  refine ⟨{ w with
    recvSrtpSession := some (session.unprotectRtcp p.srtp d.data d.len 0).session
    mediaStream := some m' }, ?_, rfl⟩
  simp only [step, onUdpSocketDataReceive, hkind, receiveRtcp, hsession, callMediaStream, hm, hok,
    onEach]

theorem step_unauthenticated {clock : Nat → Nat → UInt64} (hw : MediaOk w)
    (hd : Unauthenticated p w d) (hh : Harmless p w (.udpSocketDataReceive d clock))
    {m : MediaStream} (hm : w.mediaStream = some m) :
    ∃ w', step p w (.udpSocketDataReceive d clock) = .ok (w', []) ∧ Untouched w w' [] := by
  obtain ⟨hkind, session, hsession, hfailed⟩ := hd
  obtain ⟨keys, hi⟩ := hw m hm
  obtain ⟨m', hok, hsame⟩ :=
    MediaStream.receiveRctp_inert hi.noNull (hh hkind session m hsession hm hfailed)
  obtain ⟨w', hstep, hm'⟩ := step_silentRtcp hkind hsession hm hok
  exact ⟨w', hstep, rfl, fun m₁ hm₁ => ⟨m', hm', Option.some.inj (hm.symm.trans hm₁) ▸ hsame⟩⟩

/-- In a run whose rejected datagrams are harmless none of them touches
anything; and in every transport that is reached a rejected datagram that is
harmless is handled to the end and touches nothing. -/
theorem rejected_ignored (p : Platform Ctx Ssl Cert) (iceLite : IceLite)
    (dtls : DtlsTransport Ssl) (h264 h264Rtx opus : Int) (remoteSetup : String)
    (protectBuffer : Memory) :
    let w₀ : WebrtcTransport Ctx Ssl :=
      started iceLite dtls h264 h264Rtx opus remoteSetup protectBuffer
    (∀ h w, Run (step p) (Harmless p) w₀ h w → RejectedIgnored p w₀ h) ∧
    ∀ h w d clock, Run (step p) (fun _ _ => True) w₀ h w → w.mediaStream.isSome = true →
      Unauthenticated p w d → Harmless p w (.udpSocketDataReceive d clock) →
      ∃ w', step p w (.udpSocketDataReceive d clock) = .ok (w', []) ∧ Untouched w w' [] := by
  intro w₀
  have hnone : w₀.mediaStream = none := rfl
  have hstep (h : List (Event × List TransportOutput)) (w : WebrtcTransport Ctx Ssl)
      (d : Datagram) (clock : Nat → Nat → UInt64) (hr : Run (step p) (fun _ _ => True) w₀ h w)
      (hsome : w.mediaStream.isSome = true) (hd : Unauthenticated p w d)
      (hh : Harmless p w (.udpSocketDataReceive d clock)) :
      ∃ w', step p w (.udpSocketDataReceive d clock) = .ok (w', []) ∧ Untouched w w' [] := by
    obtain ⟨m, hm⟩ := Option.isSome_iff_exists.mp hsome
    exact step_unauthenticated (run_mediaOk hnone hr) hd hh hm
  refine ⟨?_, hstep⟩
  intro h w hr pre d clock out post hh
  subst hh
  obtain ⟨u, u', hpre, hharmless, hs⟩ := hr.step_at
  have hreached := hpre.mono (D := fun _ _ => True) fun _ _ _ => trivial
  refine ⟨u, u', hreached, hs, ?_⟩
  intro hd
  -- a step without a media stream does not come to its end
  have hsome : u.mediaStream.isSome = true := by
    obtain ⟨hkind, session, hsession, -⟩ := hd
    simp only [step, onUdpSocketDataReceive, hkind, receiveRtcp, hsession] at hs
    obtain ⟨m, -, -, hm, -⟩ := callMediaStream_ok hs
    exact Option.isSome_iff_exists.mpr ⟨m, hm⟩
  obtain ⟨w', hok, huntouched⟩ := hstep pre u d clock hreached hsome hd hharmless
  rw [hs] at hok
  cases hok
  exact huntouched

end Datagrams

/-! ## A session, a forged NACK and a forged report -/

section Samples

/-- The answer is made, ICE and DTLS come through. -/
def sessionEvents : List Event := (.createAnswer fun _ => 0) :: connectEvents

/-- A NACK of the packet 5, which was not sent, in clear text. -/
def forgedNack : Datagram := IceLite.fromStranger
  [0x81, 205, 0, 3, 0, 0, 0, 1, 0x00, 0xBC, 0x61, 0x4E, 0, 5, 0, 0]

/-- A receiver report on the video track in clear text. -/
def forgedReport : Datagram := IceLite.fromStranger
  [0x81, 201, 0, 7, 0, 0, 0, 1, 0x00, 0xBC, 0x61, 0x4E, 0, 0, 0, 0, 0, 0, 0, 0, 0, 0, 0, 0,
   0, 0, 0, 1, 0, 0, 0, 0]

/-- The round-trip time of the video track. -/
def videoRtt (w : WebrtcTransport Unit Bool) : Option UInt64 :=
  w.mediaStream.bind fun m => (m.streamTracks.lookup 12345678).bind (Option.map StreamTrack.rtt)

theorem Untouched.videoRtt_eq {w w' : WebrtcTransport Unit Bool} {out : List TransportOutput}
    (h : Untouched w w' out) (hsome : w.mediaStream.isSome = true) : videoRtt w' = videoRtt w := by
  obtain ⟨m, hm⟩ := Option.isSome_iff_exists.mp hsome
  obtain ⟨m', hm', hsame⟩ := h.2 m hm
  simp only [videoRtt, hm, hm', Option.bind_some, hsame.lookup]

theorem session_run : ∃ h w,
    Run (step (samplePlatform announced)) (Harmless (samplePlatform announced)) sampleTransport
      h w ∧ h.map Prod.fst = sessionEvents ∧ w.recvSrtpSession = some ⟨some (), 10, 10⟩ ∧
      w.mediaStream = (sampleTransport.createMediaStream fun _ => 0).mediaStream := by
  have hsteps : ∃ w₁ w₂ w₃ w₄ o₂ o₃ o₄,
      step (samplePlatform announced) sampleTransport (.createAnswer fun _ => 0) = .ok (w₁, []) ∧
      step (samplePlatform announced) w₁ (receive IceLite.bareNomination) = .ok (w₂, o₂) ∧
      step (samplePlatform announced) w₂ (receive IceLite.bareNomination) = .ok (w₃, o₃) ∧
      step (samplePlatform announced) w₃ (receive handshakeDatagram) = .ok (w₄, o₄) ∧
      w₄.recvSrtpSession = some ⟨some (), 10, 10⟩ ∧
      w₄.mediaStream = (sampleTransport.createMediaStream fun _ => 0).mediaStream :=
    ⟨_, _, _, _, _, _, _, rfl, rfl, rfl, rfl, rfl, rfl⟩
  obtain ⟨w₁, w₂, w₃, w₄, o₂, o₃, o₄, h₁, h₂, h₃, h₄, hsession, hmedia⟩ := hsteps
  have hstun (w : WebrtcTransport Unit Bool) :
      Harmless (samplePlatform announced) w (receive IceLite.bareNomination) :=
    fun hrtcp => absurd hrtcp (by decide)
  have hdtls (w : WebrtcTransport Unit Bool) :
      Harmless (samplePlatform announced) w (receive handshakeDatagram) :=
    fun hrtcp => absurd hrtcp (by decide)
  have hr₁ : Run (step (samplePlatform announced)) (Harmless (samplePlatform announced))
      sampleTransport ([] ++ [(.createAnswer fun _ => 0, [])]) w₁ := .snoc .nil trivial h₁
  exact ⟨_, w₄, .snoc (.snoc (.snoc hr₁ (hstun w₁) h₂) (hstun w₂) h₃) (hdtls w₃) h₄, rfl,
    hsession, hmedia⟩

variable {w : WebrtcTransport Unit Bool}

/-- No RTCP is authentic in the session. -/
theorem session_unauthenticated (hsession : w.recvSrtpSession = some ⟨some (), 10, 10⟩)
    {d : Datagram} (hkind : kindOf d = .rtcp) : Unauthenticated (samplePlatform announced) w d :=
  ⟨hkind, _, hsession, rfl⟩

/-- The packet 5 was never sent, so its slot is empty. -/
theorem forgedNack_harmless (hsession : w.recvSrtpSession = some ⟨some (), 10, 10⟩)
    (hmedia : w.mediaStream = (sampleTransport.createMediaStream fun _ => 0).mediaStream) :
    Harmless (samplePlatform announced) w (receive forgedNack) := by
  intro _ session m hs hm r _ ps hps i hi
  obtain rfl := Option.some.inj (hsession.symm.trans hs)
  obtain rfl := Option.some.inj (hmedia.symm.trans hm)
  have hparse : RtcpCompound.parse forgedNack.data forgedNack.len =
      some [⟨RtcpCommonHeader.load forgedNack.data,
        .nack { senderSsrc := 1, mediaSsrc := 12345678, lost := [5] }⟩] := by decide
  obtain rfl := Option.some.inj (hparse.symm.trans hps)
  obtain rfl : i = 0 := by simpa using hi
  refine ⟨?_, ?_⟩
  · intro _ _ nack hnack
    cases hnack
    refine ⟨_, rfl, ?_⟩
    intro _ j hj pkt hpkt
    cases hpkt
  · intro hrr
    have htype : (RtcpCommonHeader.load forgedNack.data).packetType ≠ kRtcpTypeRr := by decide
    exact absurd hrr htype

theorem rejected_ignored_forgedNack :
    ∃ h w w', Run (step (samplePlatform announced)) (Harmless (samplePlatform announced))
        sampleTransport (h ++ [(receive forgedNack, [])]) w' ∧ h.map Prod.fst = sessionEvents ∧
      Unauthenticated (samplePlatform announced) w forgedNack ∧
      step (samplePlatform announced) w (receive forgedNack) = .ok (w', []) ∧
      Untouched w w' [] ∧
      RejectedIgnored (samplePlatform announced) sampleTransport
        (h ++ [(receive forgedNack, [])]) := by
  obtain ⟨h, w, hr, hevents, hsession, hmedia⟩ := session_run
  have hd := session_unauthenticated hsession (show kindOf forgedNack = .rtcp by decide)
  have hharmless := forgedNack_harmless hsession hmedia
  obtain ⟨hruns, hsteps⟩ := rejected_ignored (samplePlatform announced) IceLite.sampleAgent
    sampleEndpoint 102 103 111 "actpass" fun _ => 0
  obtain ⟨w', hok, huntouched⟩ := hsteps h w forgedNack (fun _ _ => 0)
    (hr.mono fun _ _ _ => trivial) (by rw [hmedia]; rfl) hd hharmless
  have hr' := hr.snoc hharmless hok
  exact ⟨h, w, w', hr', hevents, hd, hok, huntouched, hruns _ w' hr'⟩

/-- A forged report sets the round-trip time of the video track. -/
theorem forgedReport_heeded :
    ∃ h w w', Run (step (samplePlatform announced)) (fun _ _ => True) sampleTransport h w ∧
      h.map Prod.fst = sessionEvents ∧
      Unauthenticated (samplePlatform announced) w forgedReport ∧
      step (samplePlatform announced) w (receive forgedReport) = .ok (w', []) ∧
      videoRtt w = some 100 ∧ videoRtt w' ≠ some 100 ∧ ¬ Untouched w w' [] := by
  obtain ⟨h, w, hr, hevents, hsession, hmedia⟩ := session_run
  have hd := session_unauthenticated hsession (show kindOf forgedReport = .rtcp by decide)
  have hanswer : ∃ m m', w.mediaStream = some m ∧
      m.receiveRctp (fun _ _ => 0) forgedReport.data forgedReport.len = .ok (m', []) ∧
      (m.streamTracks.lookup 12345678).bind (Option.map StreamTrack.rtt) = some 100 ∧
      (m'.streamTracks.lookup 12345678).bind (Option.map StreamTrack.rtt) ≠ some 100 := by
    refine ⟨_, _, hmedia, rfl, rfl, ?_⟩
    decide
  obtain ⟨m, m', hm, hok, hbefore, hafter⟩ := hanswer
  obtain ⟨w', hstep, hm'⟩ : ∃ w', step (samplePlatform announced) w (receive forgedReport) =
      .ok (w', []) ∧ w'.mediaStream = some m' := step_silentRtcp hd.1 hsession hm hok
  have hrtt : videoRtt w = some 100 := by rw [videoRtt, hm, Option.bind_some, hbefore]
  have hrtt' : videoRtt w' ≠ some 100 := by rwa [videoRtt, hm', Option.bind_some]
  refine ⟨h, w, w', hr.mono fun _ _ _ => trivial, hevents, hd, hstep, hrtt, hrtt', ?_⟩
  intro hu
  exact hrtt' ((hu.videoRtt_eq (by rw [hm]; rfl)).trans hrtt)

end Samples

end WebrtcTransport

end WebrtcServer
