/-
# `ReportTimestamp` — the RTP time of a sender report

A sender report reads five fields of its track (`SenderInfo`), and only the
packets that are sent change them.  The time of the last packet is kept in
32 bits, and the difference to the 64-bit clock is then too large by a
multiple of `2 ^ 32`.  Rescaling drops that again where the clock rate is a
multiple of 1000, as long as the 64-bit product does not wrap around; it
cannot for a rate up to `2 ^ 64 / 2 ^ 47`.
-/
import WebrtcServer.Lib.Rescale
import WebrtcServer.SendBuffer

namespace WebrtcServer

open Lib

/-! ## What a report is made from -/

structure SenderInfo where
  params : RtpParams
  maxRtpTimestamp : UInt32
  maxPacketMillis : UInt32
  sendPacketCount : UInt32
  sendOctets : UInt32

namespace SenderInfo

/-- A packet of the track is sent at `now`. -/
def receive (i : SenderInfo) (now : UInt64) (pkt : RtpPacket) : SenderInfo :=
  { i with
    maxRtpTimestamp := pkt.timestamp, maxPacketMillis := now.toUInt32
    sendPacketCount := i.sendPacketCount + 1, sendOctets := i.sendOctets + pkt.size }

/-- What an event leaves: a packet of another track changes nothing. -/
def after (i : SenderInfo) : StreamTrack.Event → SenderInfo
  | .receivePacket _ now pkt => if pkt.ssrc = i.params.ssrc then i.receive now pkt else i
  | _ => i

end SenderInfo

namespace StreamTrack

def senderInfo (t : StreamTrack) : SenderInfo where
  params := t.params
  maxRtpTimestamp := t.maxRtpTimestamp
  maxPacketMillis := t.maxPacketMillis
  sendPacketCount := t.sendPacketCount
  sendOctets := t.sendOctets

section Events

variable {t t' : StreamTrack} {out : List Resent}

theorem resend_senderInfo {now : UInt64} {seqNum : UInt16} {pkt : RtpStoragePacket}
    (h : t.resend now seqNum pkt = .ok (t', out)) : t'.senderInfo = t.senderInfo := by
  rcases resend_eq_ok h with ⟨pkt', rtxSequenceNumber, -, rfl, -⟩
  rfl

theorem resendListed_senderInfo {now : UInt64} {seqNum : UInt16}
    (h : t.resendListed now seqNum = .ok (t', out)) : t'.senderInfo = t.senderInfo := by
  rcases resendListed_eq_ok h with ⟨rfl, -⟩ | ⟨pkt, -, -, -, hresend⟩
  · rfl
  · exact resend_senderInfo hresend

/-- The induction is on the listed numbers. -/
theorem resendEach_senderInfo {clock : Nat → UInt64} {lost : List UInt16}
    (h : resendEach clock t lost = .ok (t', out)) : t'.senderInfo = t.senderInfo := by
  induction lost generalizing clock t out with
  | nil =>
      cases h
      rfl
  | cons seqNum lost ih =>
      obtain ⟨t₁, out₁, out₂, hfirst, hrest, -⟩ := resendEach_cons_eq_ok h
      rw [ih hrest, resendListed_senderInfo hfirst]

theorem receiveNack_senderInfo {clock : Nat → UInt64} {nack : NackPacket}
    (h : t.receiveNack clock nack = .ok (t', out)) : t'.senderInfo = t.senderInfo := by
  simp only [receiveNack] at h
  split at h
  · cases h
    rfl
  · exact resendEach_senderInfo h

theorem receiveReceiverReport_senderInfo (t : StreamTrack) (now : UInt64) (block : ReportBlock) :
    (t.receiveReceiverReport now block).senderInfo = t.senderInfo := by
  simp only [receiveReceiverReport]
  split
  · simp only [senderInfo]
  · rfl

theorem receivePacket_senderInfo {heap : Memory} {now : UInt64} {pkt : RtpPacket}
    (h : t.receivePacket heap now pkt = .ok t') :
    t'.senderInfo = t.senderInfo.after (.receivePacket heap now pkt) := by
  rcases receivePacket_eq_ok h with ⟨hssrc, rfl⟩ | ⟨hssrc, sendBuffer, -, rfl⟩
  · exact (if_neg hssrc).symm
  · exact (if_pos hssrc).symm

/-- Of all events only a packet that is sent changes what a report says. -/
theorem step_senderInfo {e : Event} (h : step t e = .ok (t', out)) :
    t'.senderInfo = t.senderInfo.after e := by
  cases e with
  | receivePacket heap now pkt =>
      simp only [step] at h
      split at h
      · cases h
      next t₁ hreceive =>
        cases h
        exact receivePacket_senderInfo hreceive
  | receiveNack clock nack => exact receiveNack_senderInfo h
  | receiveReceiverReport now block =>
      cases h
      exact receiveReceiverReport_senderInfo t now block

end Events

/-! ## Histories -/

/-- The packet of the track that an event brings, and when. -/
def ownPacket (params : RtpParams) : Event → Option (UInt64 × RtpPacket)
  | .receivePacket _ now pkt => if pkt.ssrc = params.ssrc then some (now, pkt) else none
  | _ => none

/-- The last packet of the track, and when it was sent. -/
def lastPacket (params : RtpParams) (h : List (Event × List Resent)) :
    Option (UInt64 × RtpPacket) :=
  (h.filterMap fun x => ownPacket params x.1).getLast?

theorem lastPacket_snoc (params : RtpParams) (h : List (Event × List Resent)) (e : Event)
    (out : List Resent) :
    lastPacket params (h ++ [(e, out)]) = (ownPacket params e).or (lastPacket params h) := by
  simp only [lastPacket, List.filterMap_append, List.filterMap_cons, List.filterMap_nil]
  cases ownPacket params e with
  | none => rw [List.append_nil, Option.none_or]
  | some x => simp

section Runs

variable {params : RtpParams} {h : List (Event × List Resent)} {s : StreamTrack}

/-- The time of the last packet is kept without its high bits. -/
theorem run_lastPacket (hr : Run step (fun _ _ => True) (new params) h s) :
    s.params = params ∧ ∀ t pkt, lastPacket params h = some (t, pkt) →
      s.maxRtpTimestamp = pkt.timestamp ∧ s.maxPacketMillis = t.toUInt32 := by
  refine hr.invariant (I := fun h s => s.params = params ∧ ∀ t pkt,
    lastPacket params h = some (t, pkt) →
      s.maxRtpTimestamp = pkt.timestamp ∧ s.maxPacketMillis = t.toUInt32)
    ⟨rfl, by simp [lastPacket]⟩ ?_
  rintro h s e s' out ⟨hparams, hlast⟩ - hstep
  have hinfo := step_senderInfo hstep
  have hkeeps (hinfo : s'.senderInfo = s.senderInfo) (hown : ownPacket params e = none) :
      s'.params = params ∧ ∀ t pkt, lastPacket params (h ++ [(e, out)]) = some (t, pkt) →
        s'.maxRtpTimestamp = pkt.timestamp ∧ s'.maxPacketMillis = t.toUInt32 := by
    simp only [senderInfo, SenderInfo.mk.injEq] at hinfo
    obtain ⟨hp, hts, hmillis, -, -⟩ := hinfo
    rw [lastPacket_snoc, hown, Option.none_or, hp, hts, hmillis]
    exact ⟨hparams, hlast⟩
  cases e with
  | receivePacket heap now pkt =>
      by_cases hssrc : pkt.ssrc = params.ssrc
      · have hown : ownPacket params (.receivePacket heap now pkt) = some (now, pkt) := if_pos hssrc
        have hafter : s.senderInfo.after (.receivePacket heap now pkt) =
            s.senderInfo.receive now pkt := 
              if_pos (hssrc.trans (congrArg RtpParams.ssrc hparams.symm))
        rw [hafter] at hinfo
        simp only [senderInfo, SenderInfo.receive, SenderInfo.mk.injEq] at hinfo
        obtain ⟨hp, hts, hmillis, -, -⟩ := hinfo
        rw [lastPacket_snoc, hown]
        refine ⟨hp.trans hparams, ?_⟩
        rintro t pkt' ⟨⟩
        exact ⟨hts, hmillis⟩
      · refine hkeeps (hinfo.trans (if_neg ?_)) (if_neg hssrc)
        intro heq
        exact hssrc (heq.trans (congrArg RtpParams.ssrc hparams))
  | receiveNack clock nack => exact hkeeps hinfo rfl
  | receiveReceiverReport now block => exact hkeeps hinfo rfl

end Runs

/-! ## The timestamp -/

/-- `timestamp`, moved on by the time from `t` to `now` in units of the clock. -/
def extrapolate (timestamp : UInt32) (t now : UInt64) (clockRate : UInt32) : UInt32 :=
  UInt32.ofNat (timestamp.toNat + (now.toNat - t.toNat) * clockRate.toNat / 1000)

/-- How many times the product that is divided by 1000 wraps around; the
high bits of `t` are not taken off `now`. -/
def wraps (t now : UInt64) (clockRate : UInt32) : Nat :=
  (now.toNat - t.toNat % 2 ^ 32) * clockRate.toNat / 2 ^ 64

theorem wraps_eq_zero {t now : UInt64} {clockRate : UInt32} (hnow : now.toNat < 2 ^ 47)
    (hrate : clockRate.toNat ≤ 131072) : wraps t now clockRate = 0 := by
  refine Nat.div_eq_of_lt ?_
  calc (now.toNat - t.toNat % 2 ^ 32) * clockRate.toNat
      ≤ now.toNat * 131072 := Nat.mul_le_mul (Nat.sub_le _ _) hrate
    _ < 2 ^ 47 * 131072 := Nat.mul_lt_mul_of_pos_right hnow (by decide)
    _ = 2 ^ 64 := by decide

section Runs

variable {params : RtpParams} {h : List (Event × List Resent)} {s : StreamTrack} {t now : UInt64}
  {pkt : RtpPacket}

/-- The difference of the times is too large by the high bits of `t`. -/
theorem diffInMillis_toNat (hle : t ≤ now) :
    (now - t.toUInt32.toUInt64).toNat = now.toNat - t.toNat % 2 ^ 32 ∧
      now.toNat - t.toNat % 2 ^ 32 =
        now.toNat - t.toNat + 2 ^ 32 * (t.toNat / 2 ^ 32) := by
  have hle' : t.toNat ≤ now.toNat := UInt64.le_iff_toNat_le.mp hle
  have hlow : t.toUInt32.toUInt64.toNat = t.toNat % 2 ^ 32 := by simp
  have hsub : t.toUInt32.toUInt64 ≤ now := by
    rw [UInt64.le_iff_toNat_le, hlow]
    omega
  refine ⟨by rw [UInt64.toNat_sub_of_le _ _ hsub, hlow], ?_⟩
  have hsplit := Nat.div_add_mod t.toNat (2 ^ 32)
  omega

/-- The timestamp that the code computes, as a number. -/
theorem rtpTimestamp_toNat (timestamp : UInt32) (hle : t ≤ now) (clockRate : UInt32) :
    ((timestamp.toUInt64 + (now - t.toUInt32.toUInt64) * clockRate.toUInt64 / 1000).toUInt32).toNat
      = (timestamp.toNat
        + (now.toNat - t.toNat % 2 ^ 32) * clockRate.toNat % 2 ^ 64 / 1000) % 2 ^ 32 := by
  simp only [UInt64.toNat_toUInt32, UInt64.toNat_add, UInt64.toNat_div, UInt64.toNat_mul,
    UInt32.toNat_toUInt64, (diffInMillis_toNat hle).1]
  rw [Nat.mod_mod_of_dvd _ (by decide : 2 ^ 32 ∣ 2 ^ 64)]
  rfl

/-- For a rate in thousands the code computes the extrapolated timestamp
exactly when the wraps of the product cancel. -/
theorem rtpTimestamp_eq_iff (timestamp : UInt32) (hle : t ≤ now) {clockRate : UInt32}
    (hrate : 1000 ∣ clockRate.toNat) :
    (timestamp.toUInt64 + (now - t.toUInt32.toUInt64) * clockRate.toUInt64 / 1000).toUInt32
      = extrapolate timestamp t now clockRate ↔ 125 ∣ wraps t now clockRate := by
  obtain ⟨r, hr⟩ := hrate
  rw [← UInt32.toNat_inj, rtpTimestamp_toNat timestamp hle, extrapolate, UInt32.toNat_ofNat',
    wraps, hr]
  obtain ⟨-, hhigh⟩ := diffInMillis_toNat hle
  generalize now.toNat - t.toNat % 2 ^ 32 = x at hhigh ⊢
  have hright : (now.toNat - t.toNat) * (1000 * r) / 1000 ≡ x * r [MOD 2 ^ 32] := by
    rw [Nat.mul_left_comm, Nat.mul_div_cancel_left _ (by decide : 0 < 1000), hhigh]
    exact (rescale_high_bits _ _ _ _).symm
  have hiff : timestamp.toNat + x * (1000 * r) % 2 ^ 64 / 1000
        ≡ timestamp.toNat + (now.toNat - t.toNat) * (1000 * r) / 1000 [MOD 2 ^ 32]
      ↔ x * (1000 * r) % 2 ^ 64 / 1000 ≡ x * r [MOD 2 ^ 32] :=
    ⟨fun heq => (Nat.ModEq.add_left_cancel' _ heq).trans hright,
      fun heq => Nat.ModEq.add_left _ (heq.trans hright.symm)⟩
  refine hiff.trans ((rescale_modEq_iff (by decide) (by decide) (by decide)).trans ?_)
  generalize x * (1000 * r) / 2 ^ 64 = k
  omega

/-- In every run the report continues the time of the last packet, modulo
`2 ^ 32` and whatever the high bits of the two times are, if the rate is in
thousands and at most 131072.  For a larger one it does exactly when the
product wraps around a multiple of 125 times. -/
theorem run_senderReport_timestamp (hr : Run step (fun _ _ => True) (new params) h s)
    (hlast : lastPacket params h = some (t, pkt)) (hle : t ≤ now) (hnow : now.toNat < 2 ^ 47)
    (hrate : 1000 ∣ params.clockRate.toNat) {sr : SenderReportPacket}
    (hsr : s.createRtcpSenderReport now = some sr) :
    (params.clockRate.toNat ≤ 131072 →
      sr.rtpTimestamp = extrapolate pkt.timestamp t now params.clockRate) ∧
    (sr.rtpTimestamp = extrapolate pkt.timestamp t now params.clockRate ↔
      125 ∣ wraps t now params.clockRate) := by
  obtain ⟨hparams, hfields⟩ := run_lastPacket hr
  obtain ⟨hts, hmillis⟩ := hfields t pkt hlast
  have hiff : sr.rtpTimestamp = extrapolate pkt.timestamp t now params.clockRate ↔
      125 ∣ wraps t now params.clockRate := by
    simp only [createRtcpSenderReport] at hsr
    split at hsr
    · cases hsr
    · cases hsr
      rw [hparams, hts, hmillis]
      exact rtpTimestamp_eq_iff pkt.timestamp hle hrate
  refine ⟨?_, hiff⟩
  intro hsmall
  rw [hiff, wraps_eq_zero hnow hsmall]
  exact Nat.dvd_zero 125

end Runs

section Samples

/-- The video track without a send buffer. -/
def plainParams (clockRate : UInt32) : RtpParams :=
  { videoParams with clockRate := clockRate, isNackEnable := false, isRtxEnabled := false }

/-- A packet sent at `t`. -/
def sendPlain (t : UInt64) : Event := .receivePacket (fun _ => 0) t (videoPacket 0 0)

theorem sendPlain_run (clockRate : UInt32) (t : UInt64) :
    ∃ s, Run step (fun _ _ => True) (new (plainParams clockRate)) ([] ++ [(sendPlain t, [])]) s ∧
      lastPacket (plainParams clockRate) ([] ++ [(sendPlain t, [])]) = some (t, videoPacket 0 0) ∧
      s.sendPacketCount = 1 :=
  ⟨_, .snoc .nil trivial rfl, rfl, rfl⟩

theorem createRtcpSenderReport_isSome {s : StreamTrack} (hs : s.sendPacketCount = 1)
    (now : UInt64) : ∃ sr, s.createRtcpSenderReport now = some sr := by
  simp only [createRtcpSenderReport, hs]
  exact ⟨_, rfl⟩

/-- The last packet was sent after the 32 bits had run over once, the report
is made after they have run over again. -/
theorem run_senderReport_timestamp_late :
    ∃ h s sr, Run step (fun _ _ => True) (new (plainParams 90000)) h s ∧
      lastPacket (plainParams 90000) h = some (4294967301, videoPacket 0 0) ∧
      s.createRtcpSenderReport 8589934597 = some sr ∧
      sr.rtpTimestamp = extrapolate 0 4294967301 8589934597 90000 := by
  obtain ⟨s, hr, hlast, hcount⟩ := sendPlain_run 90000 4294967301
  obtain ⟨sr, hsr⟩ := createRtcpSenderReport_isSome hcount 8589934597
  exact ⟨_, s, sr, hr, hlast, hsr, (run_senderReport_timestamp hr hlast (by decide) (by decide)
    (by decide) hsr).1 (by decide)⟩

/-- A rate of 132 kHz wraps the product around once. -/
theorem fastClock_timestamp :
    ∃ h s sr, Run step (fun _ _ => True) (new (plainParams 132000)) h s ∧
      lastPacket (plainParams 132000) h = some (0, videoPacket 0 0) ∧
      (0 : UInt64) ≤ 140737488355327 ∧ (140737488355327 : UInt64).toNat < 2 ^ 47 ∧
      1000 ∣ (plainParams 132000).clockRate.toNat ∧
      s.createRtcpSenderReport 140737488355327 = some sr ∧
      sr.rtpTimestamp ≠ extrapolate 0 0 140737488355327 132000 :=
  ⟨_, _, _, .snoc .nil trivial (rfl : step _ (sendPlain 0) = _), rfl, by decide, by decide,
    by decide, rfl, by decide⟩

end Samples

end StreamTrack

end WebrtcServer
