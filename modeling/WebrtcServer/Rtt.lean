/-
# `Rtt` — the round trip time from a receiver report

A time in compact NTP form counts 1/65536 s, modulo `2 ^ 32`.  The three
truncations of `ReceiveReceiverReport` lose less than a millisecond
together, so the stored time is right whenever the reported delay is no
longer than the time that has passed between the two compact times.  A
longer delay, be it by one unit, makes the subtraction wrap: the result is
some 65536 s, unless the delay is so long that it wraps back to zero.
-/
import Mathlib.Tactic.NormNum
import WebrtcServer.Lib.Serial
import WebrtcServer.SendBuffer

namespace WebrtcServer

open Lib

/-! ## Compact times -/

namespace NtpTime

/-- The units of 1/65536 s in so many milliseconds. -/
def compactUnits (millis : ℕ) : ℕ := millis * 65536 / 1000

theorem compactUnits_split (millis : ℕ) :
    compactUnits millis = millis / 1000 * 65536 + millis % 1000 * 65536 / 1000 := by
  have hsplit := Nat.div_add_mod millis 1000
  simp only [compactUnits]
  omega

theorem compactUnits_le {a b : ℕ} (h : a ≤ b) : compactUnits a ≤ compactUnits b :=
  Nat.div_le_div_right (Nat.mul_le_mul_right _ h)

theorem seconds_shift (n : UInt32) : (n <<< 16).toNat = n.toNat % 65536 * 65536 := by
  rw [UInt32.toNat_shiftLeft]
  show n.toNat <<< 16 % 2 ^ 32 = _
  rw [Nat.shiftLeft_eq]
  omega

theorem fractions_shift (n : UInt32) : (n >>> 16).toNat = n.toNat / 65536 := by
  rw [UInt32.toNat_shiftRight]
  show n.toNat >>> 16 = _
  rw [Nat.shiftRight_eq_div_pow]

theorem shifted_or {a b : ℕ} (h : b < 65536) : a * 65536 ||| b = a * 65536 + b := by
  have hor := Nat.shiftLeft_add_eq_or_of_lt (i := 16) h a
  rw [Nat.shiftLeft_eq] at hor
  exact hor.symm

theorem fractions_div (r : ℕ) : r * 4294967296 / 1000 / 65536 = r * 65536 / 1000 := by
  omega

theorem fractions_lt (millis : ℕ) : millis % 1000 * 4294967296 / 1000 < 4294967296 := by
  omega

theorem fractions_units_lt (millis : ℕ) : millis % 1000 * 65536 / 1000 < 65536 := by
  omega

theorem toCompactNtp_toNat (millis : UInt64) :
    (createFromMillis millis).toCompactNtp.toNat = compactUnits millis.toNat % 4294967296 := by
  rw [toCompactNtp, UInt32.toNat_or, seconds_shift, fractions_shift]
  simp only [createFromMillis, UInt32.toNat_ofNat']
  rw [show (2 : ℕ) ^ 32 = 4294967296 from rfl, Nat.mod_eq_of_lt (fractions_lt _), fractions_div,
    shifted_or (fractions_units_lt _), compactUnits_split]
  omega

theorem toMillis_compact (units : UInt32) :
    (createFromCompactNtp units).toMillis = (units.toNat * 1000 + 32768) / 65536 := by
  have hlt := units.toNat_lt
  simp only [createFromCompactNtp, toMillis, seconds_shift, fractions_shift]
  omega

end NtpTime

/-! ## `ReceiveReceiverReport` -/

namespace StreamTrack

open NtpTime

/-- The units between two times, each truncated. -/
def unitsBetween (t₀ t₁ : UInt64) : ℕ := compactUnits t₁.toNat - compactUnits t₀.toNat

/-- A sender report went out at `t₀`, and `block` answers it. -/
structure AnswersReport (t₀ : UInt64) (block : ReportBlock) : Prop where
  lastSr_eq : block.lastSr = (createFromMillis t₀).toCompactNtp
  lastSr_ne : block.lastSr ≠ 0

/-- The round trip time `rtt` is within two milliseconds of what passed
without the delay, or of zero, and exceeds what passed by no more than two.
The distance is in units of 1/65536 ms. -/
def RttRight (elapsed : ℕ) (delay : UInt32) (rtt : UInt64) : Prop :=
  |65536 * (rtt.toNat : ℤ) - max 0 (65536 * (elapsed : ℤ) - 1000 * (delay.toNat : ℤ))|
    ≤ 65536 * 2 ∧ rtt.toNat ≤ elapsed + 2

section Report

variable {t₀ t₁ : UInt64} {block : ReportBlock}

/-- The subtraction of compact times, which wraps for a longer delay. -/
theorem compact_difference (hsr : AnswersReport t₀ block) (hle : t₀ ≤ t₁)
    (hlt : t₁.toNat - t₀.toNat < 65536000) :
    ((createFromMillis t₁).toCompactNtp - block.delaySinceLastSr - block.lastSr).toNat =
      gap 4294967296 (unitsBetween t₀ t₁) block.delaySinceLastSr.toNat := by
  have hle : t₀.toNat ≤ t₁.toNat := UInt64.le_iff_toNat_le.mp hle
  have hbetween : compactUnits t₁.toNat - compactUnits t₀.toNat < 4294967296 := by
    simp only [compactUnits]
    omega
  have hcomm : (createFromMillis t₁).toCompactNtp - block.delaySinceLastSr - block.lastSr =
      (createFromMillis t₁).toCompactNtp - block.lastSr - block.delaySinceLastSr := by
    rw [UInt32.sub_eq_add_neg, UInt32.sub_eq_add_neg, UInt32.sub_eq_add_neg,
      UInt32.sub_eq_add_neg, UInt32.add_assoc, UInt32.add_assoc,
      UInt32.add_comm (-block.delaySinceLastSr)]
  rw [hcomm, toNat_sub_eq_gap, toNat_sub_eq_gap, hsr.lastSr_eq, toCompactNtp_toNat,
    toCompactNtp_toNat, gap_mod (compactUnits_le hle) hbetween]
  rfl

theorem toNat_ofInt {n : ℕ} (h : n < 18446744073709551616) : (UInt64.ofInt n).toNat = n := by
  rw [UInt64.ofInt, UInt64.toNat_ofNat']
  omega

theorem receiveReceiverReport_rtt (t : StreamTrack) (hsr : AnswersReport t₀ block)
    (hle : t₀ ≤ t₁) (hlt : t₁.toNat - t₀.toNat < 65536000) :
    (t.receiveReceiverReport t₁ block).rtt.toNat =
      (gap 4294967296 (unitsBetween t₀ t₁) block.delaySinceLastSr.toNat * 1000 + 32768)
        / 65536 := by
  have hbound : ((createFromMillis t₁).toCompactNtp - block.delaySinceLastSr
      - block.lastSr).toNat < 4294967296 := UInt32.toNat_lt _
  rw [← compact_difference hsr hle hlt]
  simp only [receiveReceiverReport, if_pos hsr.lastSr_ne, toMillis_compact]
  generalize ((createFromMillis t₁).toCompactNtp - block.delaySinceLastSr
    - block.lastSr).toNat = x at hbound ⊢
  have hmillis : ((x : ℤ) * 1000 + 32768) / 65536 = ((x * 1000 + 32768) / 65536 : ℕ) := by
    omega
  rw [hmillis, toNat_ofInt (by omega)]

/-- How far the truncations are off. -/
theorem unitsBetween_bounds (hle : t₀ ≤ t₁) :
    1000 * unitsBetween t₀ t₁ < 65536 * (t₁.toNat - t₀.toNat) + 1000 ∧
      65536 * (t₁.toNat - t₀.toNat) < 1000 * unitsBetween t₀ t₁ + 1000 := by
  have hle : t₀.toNat ≤ t₁.toNat := UInt64.le_iff_toNat_le.mp hle
  simp only [unitsBetween, compactUnits]
  omega

/-- The stored time is right exactly when the delay is no longer than what
passed, in units, or so long that it wraps back to zero. -/
theorem rttRight_iff (t : StreamTrack) (hsr : AnswersReport t₀ block) (hle : t₀ ≤ t₁)
    (hlt : t₁.toNat - t₀.toNat < 65536000) :
    RttRight (t₁.toNat - t₀.toNat) block.delaySinceLastSr (t.receiveReceiverReport t₁ block).rtt ↔
      block.delaySinceLastSr.toNat ≤ unitsBetween t₀ t₁ ∨
      unitsBetween t₀ t₁ + 4294967296 ≤ block.delaySinceLastSr.toNat + 163 := by
  have hdelay := block.delaySinceLastSr.toNat_lt
  obtain ⟨hupper, hlower⟩ := unitsBetween_bounds hle
  rw [RttRight, receiveReceiverReport_rtt t hsr hle hlt]
  generalize unitsBetween t₀ t₁ = units at hupper hlower ⊢
  generalize t₁.toNat - t₀.toNat = elapsed at hlt hupper hlower ⊢
  generalize block.delaySinceLastSr.toNat = delay at hdelay ⊢
  rcases Nat.lt_or_ge units delay with hlong | hshort
  · have hmax : max 0 (65536 * (elapsed : ℤ) - 1000 * (delay : ℤ)) = 0 :=
      max_eq_left (by omega)
    rw [gap_of_lt hlong, hmax, sub_zero, abs_of_nonneg (by omega)]
    omega
  · rw [gap_of_le hshort]
    refine iff_of_true ⟨abs_le.mpr ?_, by omega⟩ (Or.inl hshort)
    rcases le_total 0 (65536 * (elapsed : ℤ) - 1000 * (delay : ℤ)) with hpos | hneg
    · rw [max_eq_right hpos]
      omega
    · rw [max_eq_left hneg]
      omega

/-- A block that answers the report of the time `t₀`. -/
def blockFor (t₀ : UInt64) (delay : UInt32) : ReportBlock where
  sourceSsrc := 12345678
  fractionLost := 0
  cumulativeLost := 0
  extendedHighSeqNum := 0
  jitter := 0
  lastSr := (createFromMillis t₀).toCompactNtp
  delaySinceLastSr := delay

theorem answersReport_blockFor (delay : UInt32) : AnswersReport 1000 (blockFor 1000 delay) := by
  refine ⟨rfl, ?_⟩
  show (createFromMillis 1000).toCompactNtp ≠ 0
  decide

/-- Half a second of delay in one second. -/
theorem rttRight_iff_halfSecond :
    RttRight ((2000 : UInt64).toNat - (1000 : UInt64).toNat) (blockFor 1000 32768).delaySinceLastSr
        ((new videoParams).receiveReceiverReport 2000 (blockFor 1000 32768)).rtt ↔
      (blockFor 1000 32768).delaySinceLastSr.toNat ≤ unitsBetween 1000 2000 ∨
      unitsBetween 1000 2000 + 4294967296 ≤
        (blockFor 1000 32768).delaySinceLastSr.toNat + 163 :=
  rttRight_iff (new videoParams) (answersReport_blockFor 32768) (by decide) (by decide)

/-- A report that comes back within the same millisecond, after a delay of
one unit, makes the round trip more than 18 hours long. -/
theorem rttRight_fails :
    ¬ ∀ (t : StreamTrack) (t₀ t₁ : UInt64) (block : ReportBlock), AnswersReport t₀ block →
      t₀ ≤ t₁ → t₁.toNat - t₀.toNat < 65536000 →
      RttRight (t₁.toNat - t₀.toNat) block.delaySinceLastSr
        (t.receiveReceiverReport t₁ block).rtt := by
  intro h
  have hrtt := (h (new videoParams) 1000 1000 (blockFor 1000 1)
    (answersReport_blockFor 1) (by decide) (by decide)).2
  exact absurd hrtt (by decide)

end Report

end StreamTrack

end WebrtcServer
