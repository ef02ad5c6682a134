/-
# `Lib.Rescale` — a duration rescaled in machine words

A duration `x` is put into units of a clock that runs `r` times for every
`d` of its own units, as `x * (d * r) / d`, and only the residue of the
result modulo `N` is kept.  The product is computed modulo `M`, and the
duration itself may be too large by a multiple of `N`.

The second error is always harmless.  The first one is harmless exactly
when what the product lost, `M` times the quotient, is a multiple of
`N * d`; the bound below which nothing is lost is only sufficient.
-/
import Mathlib.Data.Nat.ModEq
import Mathlib.Tactic.Ring

namespace Lib

variable {d r x M N : ℕ}

/-- A multiple of `N` in the duration does not show. -/
theorem rescale_high_bits (x q r N : ℕ) : (x + N * q) * r ≡ x * r [MOD N] := by
  have hadd : (x + N * q) * r = x * r + N * (q * r) := by ring
  rw [hadd]
  exact Nat.add_mul_mod_self_left _ _ _

/-- What the wrapped product lacks, in units of the clock: rounded up. -/
theorem rescale_lost (hd : 0 < d) : ∃ c s, d * c = M * (x * (d * r) / M) + s ∧ s < d ∧
    x * r = x * (d * r) % M / d + c := by
  have hsplit := Nat.div_add_mod (x * (d * r)) M
  generalize x * (d * r) / M = k at hsplit ⊢
  generalize hrem : x * (d * r) % M = rem at hsplit ⊢
  have hrdiv := Nat.div_add_mod rem d
  have hrlt : rem % d < d := Nat.mod_lt rem hd
  have htotal : d * (x * r) = M * k + rem := by
    rw [hsplit]
    ring
  -- the whole product is a multiple of `d`, so the two remainders fill it up
  have hle : rem / d ≤ x * r := by
    refine Nat.le_of_mul_le_mul_left ?_ hd
    omega
  refine ⟨x * r - rem / d, rem % d, ?_, hrlt, by omega⟩
  rw [Nat.mul_sub]
  omega

/-- The wrapped product gives the right residue exactly when all of what it
lost is a multiple of `N` once it is rescaled. -/
theorem rescale_modEq_iff (hd : 0 < d) (hdN : d ≤ N) (hNM : N ∣ M) :
    x * (d * r) % M / d ≡ x * r [MOD N] ↔ N * d ∣ M * (x * (d * r) / M) := by
  obtain ⟨c, s, hc, hs, hsum⟩ := rescale_lost (M := M) (x := x) (r := r) hd
  have hres : x * (d * r) % M / d ≡ x * r [MOD N] ↔ N ∣ c := by
    rw [hsum, Nat.modEq_iff_dvd' (Nat.le_add_right _ _), Nat.add_sub_cancel_left]
  rw [hres]
  constructor
  · intro hNc
    have hNs : N ∣ s := by
      have hsum : N ∣ M * (x * (d * r) / M) + s := hc ▸ Dvd.dvd.mul_left hNc d
      exact (Nat.dvd_add_right (Dvd.dvd.mul_right hNM _)).mp hsum
    have hs0 : s = 0 := Nat.eq_zero_of_dvd_of_lt hNs (by omega)
    rw [hs0, Nat.add_zero] at hc
    rw [← hc, Nat.mul_comm N d]
    exact Nat.mul_dvd_mul_left d hNc
  · intro hlost
    have hds : d ∣ s := by
      have hsum : d ∣ M * (x * (d * r) / M) + s := hc ▸ Nat.dvd_mul_right d c
      exact (Nat.dvd_add_right (Dvd.dvd.trans (Nat.dvd_mul_left d N) hlost)).mp hsum
    have hs0 : s = 0 := Nat.eq_zero_of_dvd_of_lt hds hs
    rw [hs0, Nat.add_zero] at hc
    rw [← hc, Nat.mul_comm N d] at hlost
    exact Nat.dvd_of_mul_dvd_mul_left hd hlost

end Lib
