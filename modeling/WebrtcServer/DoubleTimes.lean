/-
# `DoubleTimes` — the times that are computed in doubles

Both packetizers compute the RTP time of a packet in doubles, and so do the
two conversions between milliseconds and NTP times.  For an RTP time this
makes a difference: it may be a tick short.  An NTP time comes out as if it
had been computed exactly, and goes back to the same millisecond.
-/
import WebrtcServer.Lib.Double
import WebrtcServer.Lib.Serial
import WebrtcServer.Utils
import Mathlib.Algebra.Order.Field.Rat
import Mathlib.Tactic.Linarith
import Mathlib.Tactic.Positivity

namespace WebrtcServer

open Lib

/-! ## The time of a packet -/

/-- The time that both packetizers put into a packet, computed in doubles. -/
def doubleTimestamp (millis : Int) (clockRate : UInt32) : UInt32 :=
  UInt32.ofInt (truncate (toDouble (toDouble (toDouble millis / 1000) *
    toDouble clockRate.toNat)))

/-- A time that fits is exact or a tick short. -/
theorem doubleTimestamp_near {millis : Int} {clockRate : UInt32} (hmillis : 0 ≤ millis)
    (hrate : 1000 ∣ clockRate.toNat) (hfits : millis * clockRate.toNat < 1000 * 4294967296) :
    ∃ short : Int, 0 ≤ short ∧ short ≤ 1 ∧
      doubleTimestamp millis clockRate =
        UInt32.ofInt (millis * (clockRate.toNat / 1000 : ℕ) - short) := by
  obtain ⟨r, hr⟩ := hrate
  have hdiv : clockRate.toNat / 1000 = r := by
    rw [hr, Nat.mul_div_cancel_left _ (by decide)]
  have hquotient : Rounded 2 ((millis : ℚ) * (1 / 1000))
      (toDouble (toDouble millis / 1000)) := by
    have hcast : (0 : ℚ) ≤ millis := mod_cast hmillis
    have hfactor : (0 : ℚ) ≤ 1 / 1000 := by norm_num
    rw [div_eq_mul_one_div (toDouble millis)]
    exact ((rounded_refl hcast).toDouble.mul_const hfactor).toDouble
  have hclock : Rounded 1 (clockRate.toNat : ℚ) (toDouble clockRate.toNat) :=
    (rounded_refl (Nat.cast_nonneg _)).toDouble
  have hexact : (millis : ℚ) * (1 / 1000) * (clockRate.toNat : ℚ) = (millis * r : Int) := by
    rw [hr]
    push_cast
    ring
  have hrounded := (hquotient.mul hclock).toDouble
  rw [hexact] at hrounded
  have hlt : millis * r < 2 ^ 32 := by
    rw [hr] at hfits
    push_cast at hfits
    linarith
  obtain ⟨hlow, hhigh⟩ := hrounded.truncate hlt
  refine ⟨millis * r - truncate (toDouble (toDouble (toDouble millis / 1000) *
    toDouble clockRate.toNat)), by linarith, by linarith, ?_⟩
  rw [doubleTimestamp, hdiv, sub_sub_cancel]

/-- Nine milliseconds are 810 ticks, and a packet says 809. -/
example : doubleTimestamp 9 90000 = 809 := by decide +kernel

/-- Milliseconds that are less than half a cycle are so in ticks. -/
theorem abs_ticks_lt {millis : Int} {r : ℕ}
    (h : |millis| * (1000 * r : ℕ) < 1000 * 2147483647) : |millis * (r : Int)| < 2147483647 := by
  rw [abs_mul, Nat.abs_cast]
  push_cast at h
  linarith

/-! ## NTP times -/

namespace NtpTime

/-- `CreateFromMillis` in doubles. -/
def doubleFromMillis (millis : UInt64) : NtpTime where
  seconds := UInt32.ofNat (millis.toNat / 1000)
  fractions := UInt32.ofInt (truncate (toDouble (toDouble (toDouble (millis.toNat % 1000 : ℕ) /
    1000) * toDouble (4294967296 : ℕ))))

def kNtpFracPerMs : ℚ := toDouble (4294967296 / 1000)

/-- `ToMillis` in doubles. -/
def doubleToMillis (t : NtpTime) : Int :=
  1000 * t.seconds.toNat +
    truncate (toDouble (toDouble (toDouble t.fractions.toNat / kNtpFracPerMs) + 1 / 2))

/-- The fractions of `m` milliseconds. -/
theorem fractions_exact {m : ℕ} (hm : m < 1000) :
    truncate (toDouble (toDouble (toDouble m / 1000) * toDouble (4294967296 : ℕ))) =
      (m * 4294967296 / 1000 : ℕ) := by
  rw [toDouble_natCast (by omega), toDouble_natCast (by decide)]
  by_cases hdvd : 125 ∣ m
  · -- these are eighths of a second, and nothing is rounded
    obtain ⟨j, rfl⟩ := hdvd
    have hj : j < 8 := by omega
    have heighth : ((125 * j : ℕ) : ℚ) / 1000 = (j : ℤ) * 2 ^ (-3 : ℤ) := by
      push_cast
      ring
    have hticks : ((j : ℤ) : ℚ) * 2 ^ (-3 : ℤ) * (4294967296 : ℕ) = (536870912 * j : ℕ) := by
      push_cast
      ring
    have hquotient : 125 * j * 4294967296 / 1000 = 536870912 * j :=
      Nat.div_eq_of_eq_mul_right (by decide) (by ring)
    rw [heighth, toDouble_of_fits _ (by rw [Nat.abs_cast]; norm_cast; omega), hticks,
      toDouble_natCast (by omega), hquotient]
    exact truncate_eq le_rfl (lt_add_one _)
  · have hexact : Rounded 2 ((m : ℚ) / 1000 * (4294967296 : ℕ))
        (toDouble (toDouble ((m : ℚ) / 1000) * (4294967296 : ℕ))) :=
      ((rounded_refl (by positivity)).toDouble.mul_const (Nat.cast_nonneg _)).toDouble
    -- the exact value stays away from the integers
    obtain ⟨ticks, hticks⟩ : ∃ ticks, ticks = m * 4294967296 := ⟨_, rfl⟩
    have hmultiple : 8 ∣ ticks := hticks ▸ Dvd.dvd.mul_left (by decide) m
    have hrest : ¬ 125 ∣ ticks := fun h =>
      hdvd (Nat.Coprime.dvd_of_dvd_mul_right (by decide) (hticks ▸ h))
    have hlow : 1000 * (ticks / 1000) + 8 ≤ ticks := by omega
    have hhigh : ticks + 8 ≤ 1000 * (ticks / 1000) + 1000 := by omega
    have hvalue : (m : ℚ) / 1000 * (4294967296 : ℕ) = ticks / 1000 := by
      rw [hticks]
      push_cast
      ring
    have hlt : (ticks : ℚ) < 1000 * 4294967296 := by
      rw [hticks]
      push_cast
      exact mul_lt_mul_of_pos_right (mod_cast hm) (by norm_num)
    rw [← hticks]
    generalize ticks / 1000 = n at hlow hhigh ⊢
    have hlow' : 1000 * (n : ℚ) + 8 ≤ ticks := mod_cast hlow
    have hhigh' : (ticks : ℚ) + 8 ≤ 1000 * n + 1000 := mod_cast hhigh
    have hbelow := hexact.low
    have habove := hexact.high
    rw [hvalue] at hbelow habove
    generalize toDouble (toDouble ((m : ℚ) / 1000) * (4294967296 : ℕ)) = x at hbelow habove ⊢
    norm_num [roundoff] at hbelow habove
    exact truncate_eq (by linarith) (by linarith)

theorem doubleFromMillis_eq (millis : UInt64) :
    doubleFromMillis millis = createFromMillis millis := by
  rw [doubleFromMillis, createFromMillis, fractions_exact (Nat.mod_lt _ (by decide)),
    ofInt_natCast]

/-- The fractions in milliseconds come from the exact value with four
roundings. -/
theorem millis_rounded (f : ℕ) :
    Rounded 4 ((f : ℚ) / (4294967296 / 1000) + 1 / 2)
      (toDouble (toDouble ((f : ℚ) / kNtpFracPerMs) + 1 / 2)) := by
  have hpos : (0 : ℚ) < 4294967296 / 1000 := by norm_num
  have hconst : Rounded 1 (4294967296 / 1000 : ℚ) kNtpFracPerMs := (rounded_refl hpos.le).toDouble
  have hquotient := ((rounded_refl (Nat.cast_nonneg f)).mul (hconst.inv hpos)).toDouble
  have hhalf : Rounded 0 (1 / 2 : ℚ) (1 / 2) := rounded_refl (by norm_num)
  rw [div_eq_mul_inv (f : ℚ), div_eq_mul_inv (f : ℚ)]
  exact (hquotient.add (hhalf.mono (Nat.zero_le 3))).toDouble

/-- The milliseconds of `f` fractions. -/
theorem millis_exact {f : ℕ} (hf : f < 4294967296) :
    truncate (toDouble (toDouble (toDouble f / kNtpFracPerMs) + 1 / 2)) =
      ((f * 1000 + 2147483648) / 4294967296 : ℕ) := by
  rw [toDouble_natCast (by omega)]
  obtain ⟨units, hunits⟩ : ∃ units, units = 125 * f + 268435456 := ⟨_, rfl⟩
  have hcommon : (f * 1000 + 2147483648) / 4294967296 = units / 536870912 := by omega
  rw [hcommon]
  by_cases hdvd : 536870912 ∣ units
  · -- sixteen values are on a half, and all of them round up
    obtain ⟨j, rfl⟩ : 268435456 ∣ f := by omega
    have hj : j < 16 := by omega
    have hall : ∀ j < 16, truncate (toDouble (toDouble (((268435456 * j : ℕ) : ℚ) /
        kNtpFracPerMs) + 1 / 2)) = ((125 * (268435456 * j) + 268435456) / 536870912 : ℕ) := by
      decide +kernel
    rw [hunits]
    exact hall j hj
  · have hexact := millis_rounded f
    have hlow : 536870912 * (units / 536870912) + 1 ≤ units := by omega
    have hhigh : units + 1 ≤ 536870912 * (units / 536870912) + 536870912 := by omega
    have hvalue : (f : ℚ) / (4294967296 / 1000) + 1 / 2 = units / 536870912 := by
      rw [hunits]
      push_cast
      ring
    have hlt : (units : ℚ) < 1001 * 536870912 := by
      have hnat : units < 1001 * 536870912 := by omega
      exact_mod_cast hnat
    generalize units / 536870912 = n at hlow hhigh ⊢
    have hlow' : 536870912 * (n : ℚ) + 1 ≤ units := mod_cast hlow
    have hhigh' : (units : ℚ) + 1 ≤ 536870912 * n + 536870912 := mod_cast hhigh
    have hbelow := hexact.low
    have habove := hexact.high
    rw [hvalue] at hbelow habove
    generalize toDouble (toDouble ((f : ℚ) / kNtpFracPerMs) + 1 / 2) = x at hbelow habove ⊢
    norm_num [roundoff] at hbelow habove
    exact truncate_eq (by linarith) (by linarith)

theorem doubleToMillis_eq (t : NtpTime) : t.doubleToMillis = t.toMillis := by
  rw [doubleToMillis, toMillis, millis_exact t.fractions.toNat_lt]
  norm_cast

theorem toMillis_createFromMillis (millis : UInt64) :
    (createFromMillis millis).toMillis =
      (1000 * (millis.toNat / 1000 % 4294967296) + millis.toNat % 1000 : ℕ) := by
  have hfractions : millis.toNat % 1000 * 4294967296 / 1000 % 4294967296 =
      millis.toNat % 1000 * 4294967296 / 1000 := Nat.mod_eq_of_lt (by omega)
  simp only [createFromMillis, toMillis, UInt32.toNat_ofNat', Nat.reducePow, hfractions]
  norm_cast
  omega

/-- Both conversions are exact in doubles, and a time comes back to the
millisecond exactly when its seconds fit into 32 bits. -/
theorem doubles_exact (millis : UInt64) (t : NtpTime) :
    doubleFromMillis millis = createFromMillis millis ∧ t.doubleToMillis = t.toMillis ∧
      ((doubleFromMillis millis).doubleToMillis = millis.toNat ↔
        millis.toNat < 4294967296000) := by
  refine ⟨doubleFromMillis_eq millis, doubleToMillis_eq t, ?_⟩
  rw [doubleToMillis_eq, doubleFromMillis_eq, toMillis_createFromMillis, Nat.cast_inj]
  omega

end NtpTime

end WebrtcServer
