/-
# `Lib.Double` — numbers with a mantissa of 53 bits

`toDouble x` is the number with 53 bits that is nearest to `x`, of two the
even one.  The exponents have no bounds here, so it is what a double holds as
long as nothing overflows or underflows.

Each rounding is off by at most one part in `2 ^ 53`, and `Rounded k e x`
says that `x` came from `e` with `k` roundings.  It goes through products and
quotients, so an expression is bounded by counting its operations.
-/
import Mathlib.Algebra.Order.Field.Rat
import Mathlib.Algebra.Order.Ring.Abs
import Mathlib.Data.Int.Log
import Mathlib.Data.Rat.Floor
import Mathlib.Tactic.Linarith

namespace Lib

/-- The nearest integer, of two the even one. -/
def roundEven (x : ℚ) : ℤ :=
  if 2 * Int.fract x < 1 ∨ 2 * Int.fract x = 1 ∧ ⌊x⌋ % 2 = 0 then ⌊x⌋ else ⌊x⌋ + 1

theorem abs_roundEven_sub_le (x : ℚ) : |(roundEven x : ℚ) - x| ≤ 1 / 2 := by
  have hsplit := Int.floor_add_fract x
  have hlow := Int.fract_nonneg x
  have hhigh := Int.fract_lt_one x
  rw [roundEven]
  split
  next hdown =>
    have hhalf : 2 * Int.fract x ≤ 1 := hdown.elim le_of_lt fun h => h.1.le
    exact abs_le.mpr ⟨by linarith, by linarith⟩
  next hup =>
    have hhalf : 1 ≤ 2 * Int.fract x := not_lt.mp fun h => hup (.inl h)
    push_cast
    exact abs_le.mpr ⟨by linarith, by linarith⟩

/-- The unit in the last place of a mantissa of 53 bits. -/
def ulp (x : ℚ) : ℚ := 2 ^ (Int.log 2 |x| - 52)

theorem ulp_pos (x : ℚ) : 0 < ulp x := zpow_pos (by norm_num) _

theorem ulp_le {x : ℚ} (hx : x ≠ 0) : ulp x ≤ |x| / 2 ^ 52 := by
  have hlog : (2 : ℚ) ^ Int.log 2 |x| ≤ |x| :=
    mod_cast Int.zpow_log_le_self (by decide : 1 < 2) (abs_pos.mpr hx)
  rw [ulp, zpow_sub₀ (by norm_num)]
  exact div_le_div_of_nonneg_right hlog (by norm_num)

def toDouble (x : ℚ) : ℚ := roundEven (x / ulp x) * ulp x

/-- The unit roundoff. -/
def roundoff : ℚ := 1 / 2 ^ 53

theorem abs_toDouble_sub_le (x : ℚ) : |toDouble x - x| ≤ roundoff * |x| := by
  rcases eq_or_ne x 0 with rfl | hx
  · simp [toDouble, roundEven]
  · have hpos := ulp_pos x
    have hdiff : toDouble x - x = (roundEven (x / ulp x) - x / ulp x) * ulp x := by
      rw [toDouble, sub_mul, div_mul_cancel₀ _ hpos.ne']
    calc |toDouble x - x| = |(roundEven (x / ulp x) : ℚ) - x / ulp x| * ulp x := by
          rw [hdiff, abs_mul, abs_of_pos hpos]
      _ ≤ 1 / 2 * (|x| / 2 ^ 52) :=
          mul_le_mul (abs_roundEven_sub_le _) (ulp_le hx) hpos.le (by norm_num)
      _ = roundoff * |x| := by
          rw [roundoff]
          ring

theorem roundEven_intCast (n : ℤ) : roundEven n = n := by
  simp [roundEven]

/-- What has 53 bits stays as it is. -/
theorem toDouble_of_fits {n : ℤ} (e : ℤ) (hn : |n| < 2 ^ 53) :
    toDouble (n * 2 ^ e) = n * 2 ^ e := by
  rcases eq_or_ne n 0 with rfl | hne
  · simp [toDouble, roundEven]
  · have hscale : (0 : ℚ) < 2 ^ e := zpow_pos (by norm_num) e
    have hx : (n : ℚ) * 2 ^ e ≠ 0 := mul_ne_zero (Int.cast_ne_zero.mpr hne) hscale.ne'
    have hlog : Int.log 2 |(n : ℚ) * 2 ^ e| < 53 + e := by
      refine (Int.lt_zpow_iff_log_lt (by decide) (abs_pos.mpr hx)).mp ?_
      have hn' : |(n : ℚ)| < 2 ^ (53 : ℤ) := mod_cast hn
      rw [abs_mul, abs_of_pos hscale, Nat.cast_ofNat, zpow_add₀ (by norm_num)]
      exact mul_lt_mul_of_pos_right hn' hscale
    -- the unit in the last place divides it
    obtain ⟨k, hk⟩ := Int.le.dest (show Int.log 2 |(n : ℚ) * 2 ^ e| - 52 ≤ e by omega)
    have hquotient : (n : ℚ) * 2 ^ e / ulp (n * 2 ^ e) = (n * 2 ^ k : ℤ) := by
      have hsplit : (2 : ℚ) ^ e = ulp (n * 2 ^ e) * 2 ^ k := by
        rw [ulp, ← zpow_natCast, ← zpow_add₀ (by norm_num), hk]
      rw [div_eq_iff (ulp_pos _).ne']
      push_cast
      rw [mul_assoc, mul_comm ((2 : ℚ) ^ k), ← hsplit]
    rw [toDouble, hquotient, roundEven_intCast, ← hquotient, div_mul_cancel₀ _ (ulp_pos _).ne']

theorem toDouble_natCast {n : ℕ} (hn : n < 2 ^ 53) : toDouble n = n := by
  have hfits := toDouble_of_fits (n := n) 0 (by rw [Nat.abs_cast]; exact_mod_cast hn)
  rwa [zpow_zero, mul_one, Int.cast_natCast] at hfits

/-! ## Counting the roundings -/

/-- `x` is `e` after at most `k` roundings. -/
structure Rounded (k : ℕ) (e x : ℚ) : Prop where
  nonneg : 0 ≤ e
  low : (1 - roundoff) ^ k * e ≤ x
  high : x ≤ (1 + roundoff) ^ k * e

theorem roundoff_pos : 0 < roundoff := by norm_num [roundoff]

theorem roundoff_lt_one : roundoff < 1 := by norm_num [roundoff]

variable {k l : ℕ} {e f x y : ℚ}

theorem rounded_refl (h : 0 ≤ e) : Rounded 0 e e :=
  ⟨h, by rw [pow_zero, one_mul], by rw [pow_zero, one_mul]⟩

theorem Rounded.nonneg_right (h : Rounded k e x) : 0 ≤ x :=
  (mul_nonneg (pow_nonneg (sub_nonneg.mpr roundoff_lt_one.le) k) h.nonneg).trans h.low

theorem Rounded.toDouble (h : Rounded k e x) : Rounded (k + 1) e (toDouble x) := by
  have hround := abs_toDouble_sub_le x
  rw [abs_of_nonneg h.nonneg_right] at hround
  obtain ⟨hlow, hhigh⟩ := abs_le.mp hround
  have hsmall : 0 ≤ 1 - roundoff := sub_nonneg.mpr roundoff_lt_one.le
  have hlarge : 0 ≤ 1 + roundoff := add_nonneg zero_le_one roundoff_pos.le
  refine ⟨h.nonneg, ?_, ?_⟩
  · calc (1 - roundoff) ^ (k + 1) * e = (1 - roundoff) * ((1 - roundoff) ^ k * e) := by ring
      _ ≤ (1 - roundoff) * x := mul_le_mul_of_nonneg_left h.low hsmall
      _ ≤ Lib.toDouble x := by linarith
  · calc Lib.toDouble x ≤ (1 + roundoff) * x := by linarith
      _ ≤ (1 + roundoff) * ((1 + roundoff) ^ k * e) := mul_le_mul_of_nonneg_left h.high hlarge
      _ = (1 + roundoff) ^ (k + 1) * e := by ring

theorem Rounded.mul (hx : Rounded k e x) (hy : Rounded l f y) :
    Rounded (k + l) (e * f) (x * y) := by
  have hsmall : 0 ≤ 1 - roundoff := sub_nonneg.mpr roundoff_lt_one.le
  refine ⟨mul_nonneg hx.nonneg hy.nonneg, ?_, ?_⟩
  · calc (1 - roundoff) ^ (k + l) * (e * f)
        = (1 - roundoff) ^ k * e * ((1 - roundoff) ^ l * f) := by ring
      _ ≤ x * y := mul_le_mul hx.low hy.low (mul_nonneg (pow_nonneg hsmall l) hy.nonneg)
          hx.nonneg_right
  · calc x * y ≤ (1 + roundoff) ^ k * e * ((1 + roundoff) ^ l * f) :=
          mul_le_mul hx.high hy.high hy.nonneg_right (hx.nonneg_right.trans hx.high)
      _ = (1 + roundoff) ^ (k + l) * (e * f) := by ring

/-- An exact factor brings no rounding. -/
theorem Rounded.mul_const (hx : Rounded k e x) (hf : 0 ≤ f) : Rounded k (e * f) (x * f) :=
  hx.mul (rounded_refl hf)

theorem Rounded.add (hx : Rounded k e x) (hy : Rounded k f y) : Rounded k (e + f) (x + y) := by
  have hlow := add_le_add hx.low hy.low
  have hhigh := add_le_add hx.high hy.high
  exact ⟨add_nonneg hx.nonneg hy.nonneg, by rwa [mul_add], by rwa [mul_add]⟩

theorem Rounded.mono (h : Rounded k e x) (hkl : k ≤ l) : Rounded l e x := by
  have hsmall : (1 - roundoff) ^ l ≤ (1 - roundoff) ^ k :=
    pow_le_pow_of_le_one (by norm_num [roundoff]) (by norm_num [roundoff]) hkl
  have hlarge : (1 + roundoff) ^ k ≤ (1 + roundoff) ^ l :=
    pow_le_pow_right₀ (by norm_num [roundoff]) hkl
  exact ⟨h.nonneg, (mul_le_mul_of_nonneg_right hsmall h.nonneg).trans h.low,
    h.high.trans (mul_le_mul_of_nonneg_right hlarge h.nonneg)⟩

/-- A rounding of the divisor counts as two. -/
theorem Rounded.inv (hy : Rounded l f y) (hf : 0 < f) : Rounded (2 * l) f⁻¹ y⁻¹ := by
  have hsmall : 0 < 1 - roundoff := sub_pos.mpr roundoff_lt_one
  have hlarge : 0 < 1 + roundoff := add_pos zero_lt_one roundoff_pos
  have hypos : 0 < y := (mul_pos (pow_pos hsmall l) hf).trans_le hy.low
  refine ⟨(inv_pos.mpr hf).le, ?_, ?_⟩
  · have hbelow : (1 - roundoff) ^ (2 * l) * (1 + roundoff) ^ l ≤ 1 := by
      rw [pow_mul, ← mul_pow]
      exact pow_le_one₀ (by norm_num [roundoff]) (by norm_num [roundoff])
    rw [le_inv_comm₀ (mul_pos (pow_pos hsmall _) (inv_pos.mpr hf)) hypos, mul_inv, inv_inv]
    refine hy.high.trans (mul_le_mul_of_nonneg_right ?_ hf.le)
    rwa [← one_div, le_div_iff₀ (pow_pos hsmall _), mul_comm]
  · have habove : 1 ≤ (1 + roundoff) ^ (2 * l) * (1 - roundoff) ^ l := by
      rw [pow_mul, ← mul_pow]
      exact one_le_pow₀ (by norm_num [roundoff])
    rw [inv_le_comm₀ hypos (mul_pos (pow_pos hlarge _) (inv_pos.mpr hf)), mul_inv, inv_inv]
    refine (mul_le_mul_of_nonneg_right ?_ hf.le).trans hy.low
    rwa [← one_div, div_le_iff₀ (pow_pos hlarge _), mul_comm]

/-! ## Truncation -/

/-- The conversion to an integer, towards zero. -/
def truncate (x : ℚ) : ℤ := x.num.tdiv x.den

theorem truncate_of_nonneg (h : 0 ≤ x) : truncate x = ⌊x⌋ := by
  rw [truncate, Int.tdiv_eq_ediv_of_nonneg (Rat.num_nonneg.mpr h), Rat.floor_def']

theorem truncate_eq {n : ℕ} (hlow : n ≤ x) (hhigh : x < n + 1) : truncate x = n := by
  rw [truncate_of_nonneg ((Nat.cast_nonneg n).trans hlow)]
  exact Int.floor_eq_iff.mpr ⟨mod_cast hlow, mod_cast hhigh⟩

/-- An integer that fits into 32 bits survives four roundings, or is one
less after them. -/
theorem Rounded.truncate {n : ℤ} (h : Rounded 4 n x) (hn : n < 2 ^ 32) :
    n - 1 ≤ truncate x ∧ truncate x ≤ n := by
  have hsmall : (n : ℚ) < 2 ^ 32 := mod_cast hn
  have hlow := h.low
  have hhigh := h.high
  norm_num [roundoff] at hlow hhigh hsmall
  rw [truncate_of_nonneg h.nonneg_right]
  refine ⟨Int.le_floor.mpr ?_, Int.lt_add_one_iff.mp (Int.floor_lt.mpr ?_)⟩
  · push_cast
    linarith
  · push_cast
    linarith

end Lib
