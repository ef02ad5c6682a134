/-
# `FrameOrder` — the frames of a track in the order of their RTP times

A viewer knows no time of a frame but the one in its packets: packets of one
RTP time are one frame, and of two RTP times the later is the one less than
half a cycle ahead.  These times come from doubles and may be a tick short.
A millisecond has more ticks than that, so the frames stay apart and in
order.
-/
import WebrtcServer.LipSync

namespace WebrtcServer

open Lib

/-! ## Two times -/

/-- Times that fit into 32 bits and are less than half a cycle apart, in a
clock with at least two ticks a millisecond. -/
structure Comparable (clockRate : UInt32) (a b : Int) : Prop where
  thousands : 1000 ∣ clockRate.toNat
  ticks : 2000 ≤ clockRate.toNat
  nonneg_left : 0 ≤ a
  fits_left : a * clockRate.toNat < 1000 * 4294967296
  nonneg_right : 0 ≤ b
  fits_right : b * clockRate.toNat < 1000 * 4294967296
  near : |a - b| * clockRate.toNat < 1000 * 2147483647

section Times

variable {clockRate : UInt32} {a b : Int}

/-- How far one time is ahead, in ticks; both may be a tick short. -/
theorem Comparable.ahead_eq (hc : Comparable clockRate a b) :
    ∃ short : Int, -1 ≤ short ∧ short ≤ 1 ∧
      ahead (doubleTimestamp a clockRate) (doubleTimestamp b clockRate) =
        (a - b) * (clockRate.toNat / 1000 : ℕ) + short := by
  obtain ⟨short, hshort, hshort', ha⟩ :=
    doubleTimestamp_near hc.nonneg_left hc.thousands hc.fits_left
  obtain ⟨short₂, hshort₂, hshort₂', hb⟩ :=
    doubleTimestamp_near hc.nonneg_right hc.thousands hc.fits_right
  have hnear := hc.near
  obtain ⟨r, hr⟩ := hc.thousands
  have hdiv : clockRate.toNat / 1000 = r := by
    rw [hr, Nat.mul_div_cancel_left _ (by decide)]
  rw [hdiv] at ha hb ⊢
  rw [hr] at hnear
  have hdiff : a * r - short - (b * r - short₂) = (a - b) * r + (short₂ - short) := by ring
  obtain ⟨hlow, hhigh⟩ := abs_lt.mp (abs_ticks_lt hnear)
  refine ⟨short₂ - short, by omega, by omega, ?_⟩
  rw [ha, hb, ahead_ofInt (by rw [hdiff]; omega) (by rw [hdiff]; omega), hdiff]

/-- Of two times the later one is ahead. -/
theorem Comparable.ahead_pos_iff (hc : Comparable clockRate a b) :
    0 < ahead (doubleTimestamp a clockRate) (doubleTimestamp b clockRate) ↔ b < a := by
  obtain ⟨short, hshort, hshort', hahead⟩ := hc.ahead_eq
  have hticks : (2 : Int) ≤ (clockRate.toNat / 1000 : ℕ) := by
    have hrate := hc.ticks
    omega
  generalize ((clockRate.toNat / 1000 : ℕ) : Int) = r at hahead hticks
  rcases lt_trichotomy a b with hlt | rfl | hlt
  · have hback : (a - b) * r ≤ -1 * r := mul_le_mul_of_nonneg_right (by omega) (by omega)
    refine iff_of_false ?_ (not_lt.mpr hlt.le)
    rw [hahead]
    omega
  · rw [ahead_self]
    exact iff_of_false (lt_irrefl 0) (lt_irrefl a)
  · have hforth : 1 * r ≤ (a - b) * r := mul_le_mul_of_nonneg_right (by omega) (by omega)
    refine iff_of_true ?_ hlt
    rw [hahead]
    omega

theorem Comparable.symm (hc : Comparable clockRate a b) : Comparable clockRate b a :=
  ⟨hc.thousands, hc.ticks, hc.nonneg_right, hc.fits_right, hc.nonneg_left, hc.fits_left,
    abs_sub_comm a b ▸ hc.near⟩

/-- Different times stay apart. -/
theorem Comparable.eq_iff (hc : Comparable clockRate a b) :
    doubleTimestamp a clockRate = doubleTimestamp b clockRate ↔ a = b := by
  refine ⟨?_, fun h => by rw [h]⟩
  intro heq
  have hleft := hc.ahead_pos_iff
  have hright := hc.symm.ahead_pos_iff
  rw [heq, ahead_self] at hleft hright
  omega

end Times

/-! ## The packets of a packetizer -/

namespace AnyPacketizer

/-- Every packet has the time of its frame. -/
theorem run_timestamps {rtpTimestamp : Int → UInt32 → UInt32} {k₀ k : AnyPacketizer}
    {packed : List (MediaPacket × List RtpPacket)}
    (hr : Run (pack rtpTimestamp) (fun _ _ => True) k₀ packed k) :
    k.base.clockRate = k₀.base.clockRate ∧
      ∀ x ∈ packed, ∀ pkt ∈ x.2,
        pkt.timestamp = rtpTimestamp x.1.timestampMillis k₀.base.clockRate := by
  induction hr with
  | nil => exact ⟨rfl, by simp⟩
  | snoc _ _ hpack ih =>
      obtain ⟨hrate, hall⟩ := ih
      have hemits := (packed_of_ok hpack).emits
      refine ⟨hemits.clockRate_eq.trans hrate, ?_⟩
      intro x hx pkt hpkt
      rcases List.mem_append.mp hx with hx | hx
      · exact hall x hx pkt hpkt
      · obtain rfl := List.mem_singleton.mp hx
        rw [hemits.timestamps pkt hpkt, hrate]

end AnyPacketizer

namespace MediaStream

/-- The media packets, each with the RTP packets that the packetizer of a
track makes of it. -/
def framed (rtpTimestamp : Int → UInt32 → UInt32) (params : RtpParams) (rtpBuf : Memory)
    (packets : List MediaPacket) : Except Fault (List (MediaPacket × List RtpPacket)) :=
  (runAll (AnyPacketizer.pack rtpTimestamp) (packetizerOf params rtpBuf) packets).map Prod.fst

/-- The packets say which of them belong to one time, and which time is the
later one. -/
def InOrder (clockRate : UInt32) (packed : List (MediaPacket × List RtpPacket)) : Prop :=
  ∀ x ∈ packed, ∀ y ∈ packed, Comparable clockRate x.1.timestampMillis y.1.timestampMillis →
    ∀ p ∈ x.2, ∀ q ∈ y.2,
      (p.timestamp = q.timestamp ↔ x.1.timestampMillis = y.1.timestampMillis) ∧
      (0 < ahead p.timestamp q.timestamp ↔ y.1.timestampMillis < x.1.timestampMillis)

section Tracks

variable {params video audio : RtpParams} {rtpBuf videoBuf audioBuf : Memory}
  {h : List (Event × List MediaOutput)} {s : MediaStream}
  {packed : List (MediaPacket × List RtpPacket)} {k : AnyPacketizer}

theorem Follows.inOrder (hf : Follows doubleTimestamp params rtpBuf h s packed k) :
    framed doubleTimestamp params rtpBuf (fed params.mediaType h) = .ok packed ∧
      InOrder params.clockRate packed := by
  obtain ⟨-, htimes⟩ := AnyPacketizer.run_timestamps (run_of_runAll _ _ _ hf.packs).1
  have hrate : (packetizerOf params rtpBuf).base.clockRate = params.clockRate := by
    rw [packetizerOf]
    split <;> rfl
  rw [hrate] at htimes
  refine ⟨by rw [framed, hf.packs]; rfl, ?_⟩
  intro x hx y hy hc p hp q hq
  rw [htimes x hx p hp, htimes y hy q hq]
  exact ⟨hc.eq_iff, hc.ahead_pos_iff⟩

/-- In every run the packets of both tracks keep the frames apart and in the
order of their times, although the RTP times are computed in doubles. -/
theorem frames_in_order (hv : video.mediaType = .video) (ha : audio.mediaType = .audio)
    (hne : video.ssrc ≠ audio.ssrc)
    (hr : Run (step doubleTimestamp) KeepsTracks (withTracks video audio videoBuf audioBuf) h s) :
    ∃ videoFrames audioFrames,
      framed doubleTimestamp video videoBuf (fed .video h) = .ok videoFrames ∧
      framed doubleTimestamp audio audioBuf (fed .audio h) = .ok audioFrames ∧
      InOrder video.clockRate videoFrames ∧ InOrder audio.clockRate audioFrames := by
  obtain ⟨-, ⟨vpacked, vk, hvideo⟩, apacked, ak, haudio⟩ := run_follows hv ha hne hr
  have hvorder := hvideo.inOrder
  have haorder := haudio.inOrder
  rw [hv] at hvorder
  rw [ha] at haorder
  exact ⟨vpacked, apacked, hvorder.1, haorder.1, hvorder.2, haorder.2⟩

end Tracks

section Samples

def opusAt (millis : Int) : MediaPacket := { opusFrame with timestampMillis := millis }

def sendAt (millis : Int) : Event :=
  .receiveOpusPacket (fun _ => 0) (fun _ => 1000) (opusAt millis)

theorem sendAt_run : ∃ h s p q, Run (step doubleTimestamp) KeepsTracks bothTracks h s ∧
    h.map Prod.fst = [sendAt 9, sendAt 10] ∧
    framed doubleTimestamp opusParams (fun _ => 0) (fed .audio h) =
      .ok [(opusAt 9, [p]), (opusAt 10, [q])] :=
  ⟨_, _, _, _, .snoc (.snoc .nil (show KeepsTracks bothTracks (sendAt 9) from rfl) rfl)
    (show adds (sendAt 10) = none from rfl) rfl, rfl, rfl⟩

/-- Nine milliseconds are a tick short, and ten still come later. -/
theorem frames_in_order_nineMillis :
    ∃ h s p q, Run (step doubleTimestamp) KeepsTracks bothTracks h s ∧
      h.map Prod.fst = [sendAt 9, sendAt 10] ∧
      framed doubleTimestamp opusParams (fun _ => 0) (fed .audio h) =
        .ok [(opusAt 9, [p]), (opusAt 10, [q])] ∧
      p.timestamp ≠ q.timestamp ∧ 0 < ahead q.timestamp p.timestamp := by
  obtain ⟨h, s, p, q, hr, hevents, hframed⟩ := sendAt_run
  obtain ⟨-, audioFrames, -, haudio, -, horder⟩ := frames_in_order rfl rfl (by decide) hr
  obtain rfl := Except.ok.inj (hframed.symm.trans haudio)
  have hc : Comparable opusParams.clockRate 10 9 := by
    constructor <;> decide
  obtain ⟨heq, hahead⟩ := horder (opusAt 10, [q]) (by simp) (opusAt 9, [p]) (by simp) hc q
    (List.mem_singleton_self q) p (List.mem_singleton_self p)
  refine ⟨h, s, p, q, hr, hevents, hframed, ?_, hahead.mpr (show (9 : Int) < 10 by decide)⟩
  intro hsame
  exact absurd (heq.mp hsame.symm) (show ¬ (10 : Int) = 9 by decide)

end Samples

end MediaStream

end WebrtcServer
