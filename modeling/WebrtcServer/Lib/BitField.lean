/-
# `Lib.BitField` — bit-fields of a byte

A bit-field is `width` bits of a byte from bit `low` on.  Assigning to one
keeps the low `width` bits of the value and leaves the other bits of the
byte alone: what is written is read back, and a field beside it reads as
before.
-/
import Mathlib.Algebra.Order.Ring.Nat
import Mathlib.Data.Nat.ModEq
import Mathlib.Tactic.Ring

namespace Lib

/-- The value of the field. -/
def getBits (b : UInt8) (low width : Nat) : Nat := b.toNat / 2 ^ low % 2 ^ width

/-- Assign `v` to the field. -/
def setBits (b : UInt8) (low width : Nat) (v : UInt8) : UInt8 :=
  UInt8.ofNat (b.toNat % 2 ^ low + v.toNat % 2 ^ width * 2 ^ low
    + b.toNat / 2 ^ (low + width) * 2 ^ (low + width))

section Fields

variable {b v : UInt8} {low width low' width' : Nat}

/-- The part of the byte up to the end of the field. -/
theorem lowPart_lt (b v low width : Nat) :
    b % 2 ^ low + v % 2 ^ width * 2 ^ low < 2 ^ (low + width) := by
  have hb : b % 2 ^ low < 2 ^ low := Nat.mod_lt _ (Nat.two_pow_pos low)
  have hv : v % 2 ^ width + 1 ≤ 2 ^ width := Nat.mod_lt _ (Nat.two_pow_pos width)
  calc b % 2 ^ low + v % 2 ^ width * 2 ^ low
      < 2 ^ low + v % 2 ^ width * 2 ^ low := by omega
    _ = (v % 2 ^ width + 1) * 2 ^ low := by ring
    _ ≤ 2 ^ width * 2 ^ low := Nat.mul_le_mul_right _ hv
    _ = 2 ^ (low + width) := by rw [← pow_add, Nat.add_comm]

theorem setBits_toNat (h : low + width ≤ 8) :
    (setBits b low width v).toNat =
      b.toNat % 2 ^ low + v.toNat % 2 ^ width * 2 ^ low
        + b.toNat / 2 ^ (low + width) * 2 ^ (low + width) := by
  have hlow := lowPart_lt b.toNat v.toNat low width
  have hhigh : b.toNat / 2 ^ (low + width) < 2 ^ (8 - (low + width)) := by
    apply Nat.div_lt_of_lt_mul
    rw [← pow_add, Nat.add_sub_cancel' h]
    exact b.toNat_lt
  have hsum : b.toNat % 2 ^ low + v.toNat % 2 ^ width * 2 ^ low
      + b.toNat / 2 ^ (low + width) * 2 ^ (low + width) < 2 ^ 8 := by
    calc _ < 2 ^ (low + width) + b.toNat / 2 ^ (low + width) * 2 ^ (low + width) := by omega
      _ = (b.toNat / 2 ^ (low + width) + 1) * 2 ^ (low + width) := by ring
      _ ≤ 2 ^ (8 - (low + width)) * 2 ^ (low + width) := Nat.mul_le_mul_right _ hhigh
      _ = 2 ^ 8 := by rw [← pow_add, Nat.sub_add_cancel h]
  rw [setBits, UInt8.toNat_ofNat', Nat.mod_eq_of_lt hsum]

/-- What is written is read back. -/
theorem getBits_setBits_self (h : low + width ≤ 8) :
    getBits (setBits b low width v) low width = v.toNat % 2 ^ width := by
  have hsplit : b.toNat % 2 ^ low + v.toNat % 2 ^ width * 2 ^ low
      + b.toNat / 2 ^ (low + width) * 2 ^ (low + width) =
      b.toNat % 2 ^ low
        + 2 ^ low * (v.toNat % 2 ^ width + 2 ^ width * (b.toNat / 2 ^ (low + width))) := by
    rw [pow_add]
    ring
  rw [getBits, setBits_toNat h, hsplit, Nat.add_mul_div_left _ _ (Nat.two_pow_pos low),
    Nat.div_eq_of_lt (Nat.mod_lt _ (Nat.two_pow_pos low)), Nat.zero_add,
    Nat.add_mul_mod_self_left, Nat.mod_mod]

/-- A field depends on the bits up to its end only. -/
theorem div_mod_of_mod {n k : Nat} (h : low' + width' ≤ k) :
    n % 2 ^ k / 2 ^ low' % 2 ^ width' = n / 2 ^ low' % 2 ^ width' := by
  rw [← Nat.mod_mul_right_div_self, ← Nat.mod_mul_right_div_self, ← pow_add,
    Nat.mod_mod_of_dvd _ (pow_dvd_pow 2 h)]

/-- A field beside the one written reads as before. -/
theorem getBits_setBits_of_disjoint (h : low + width ≤ 8)
    (hd : low' + width' ≤ low ∨ low + width ≤ low') :
    getBits (setBits b low width v) low' width' = getBits b low' width' := by
  rw [getBits, setBits_toNat h, getBits]
  rcases hd with hd | hd
  · rw [← div_mod_of_mod hd, ← div_mod_of_mod (n := b.toNat) hd]
    congr 2
    have hdvd : 2 ^ low ∣ b.toNat / 2 ^ (low + width) * 2 ^ (low + width) :=
      Dvd.dvd.mul_left (pow_dvd_pow 2 (Nat.le_add_right low width)) _
    obtain ⟨c, hc⟩ := hdvd
    rw [hc, Nat.add_mul_mod_self_left, Nat.add_mul_mod_self_right, Nat.mod_mod]
  · have hlow := lowPart_lt b.toNat v.toNat low width
    obtain ⟨d, rfl⟩ := Nat.exists_eq_add_of_le hd
    rw [pow_add 2 (low + width) d, ← Nat.div_div_eq_div_mul, ← Nat.div_div_eq_div_mul,
      Nat.add_mul_div_right _ _ (Nat.two_pow_pos _), Nat.div_eq_of_lt hlow, Nat.zero_add]

end Fields

end Lib
