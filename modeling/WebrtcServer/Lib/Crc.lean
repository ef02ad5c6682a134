/-
# `Lib.Crc` — reflected cyclic redundancy checks

A CRC is the remainder of a division of polynomials over the field of two
elements.  In the reflected form the register holds the coefficients in
reverse, so a step shifts right: the low bit falls out, with the next bit of
the message added to it, and where that gives one the polynomial is
subtracted (`feed`).  `divide` does this for the bits of a message, one at
a time.

Subtraction is exclusive or, so a step is linear (`shiftOut_xor`).  From
that follows the way in which a CRC is computed in practice: `n` bits at
once, with a table of what `n` steps make of the low `n` bits
(`divide_bits`, `iterate_shiftOut`).
-/
import Mathlib.Data.BitVec
import Mathlib.Logic.Function.Iterate

namespace Lib.Crc

variable {w : Nat}

/-- The register moved on by one place. -/
def shiftOut (poly c : BitVec w) : BitVec w :=
  if c.getLsbD 0 then poly ^^^ (c >>> 1) else c >>> 1

/-- One bit of the message. -/
def feed (poly c : BitVec w) (bit : Bool) : BitVec w :=
  shiftOut poly (c ^^^ BitVec.ofNat w bit.toNat)

/-- The division of a message, bit by bit. -/
def divide (poly init : BitVec w) (bits : List Bool) : BitVec w := bits.foldl (feed poly) init

/-- The low `n` bits of `m`, the lowest first. -/
def bitsOf (n m : Nat) : List Bool := (List.range n).map m.testBit

section Linear

variable (poly : BitVec w)

theorem shiftOut_xor (a b : BitVec w) :
    shiftOut poly (a ^^^ b) = shiftOut poly a ^^^ shiftOut poly b := by
  have hself : ∀ x y : BitVec w, x ^^^ y = poly ^^^ x ^^^ (poly ^^^ y) := by
    intro x y
    rw [BitVec.xor_assoc, ← BitVec.xor_assoc x, BitVec.xor_comm x poly, BitVec.xor_assoc poly x y,
      ← BitVec.xor_assoc poly poly, BitVec.xor_self, BitVec.zero_xor]
  simp only [shiftOut, BitVec.getLsbD_xor, BitVec.ushiftRight_xor_distrib]
  cases a.getLsbD 0 <;> cases b.getLsbD 0
  · rfl
  · simp only [Bool.false_xor, if_true, Bool.false_eq_true, if_false]
    rw [← BitVec.xor_assoc, BitVec.xor_comm poly, BitVec.xor_assoc]
  · simp only [Bool.xor_false, if_true, Bool.false_eq_true, if_false]
    rw [BitVec.xor_assoc]
  · simp only [Bool.xor_self, if_true, Bool.false_eq_true, if_false]
    exact hself _ _

theorem iterate_shiftOut_xor (n : Nat) (a b : BitVec w) :
    (shiftOut poly)^[n] (a ^^^ b) = (shiftOut poly)^[n] a ^^^ (shiftOut poly)^[n] b := by
  induction n generalizing a b with
  | zero => rfl
  | succ n ih => rw [Function.iterate_succ_apply, shiftOut_xor, ih]; rfl

/-- A register whose low bits are clear only moves down. -/
theorem iterate_shiftOut_high (n : Nat) (y : BitVec w) (hy : ∀ i < n, y.getLsbD i = false) :
    (shiftOut poly)^[n] y = y >>> n := by
  induction n generalizing y with
  | zero => simp
  | succ n ih =>
      have hstep : shiftOut poly y = y >>> 1 := by
        simp only [shiftOut, hy 0 (Nat.succ_pos n), Bool.false_eq_true, if_false]
      have hnext : ∀ i < n, (y >>> 1).getLsbD i = false := by
        intro i hi
        rw [BitVec.getLsbD_ushiftRight, Nat.add_comm]
        exact hy (i + 1) (by omega)
      rw [Function.iterate_succ_apply, hstep, ih _ hnext, ← BitVec.shiftRight_add, Nat.add_comm]

/-- `n` steps: what they make of the low `n` bits, and the rest moved down. -/
theorem iterate_shiftOut (n : Nat) (x : BitVec w) :
    (shiftOut poly)^[n] x =
      (shiftOut poly)^[n] (x &&& BitVec.ofNat w (2 ^ n - 1)) ^^^ (x >>> n) := by
  have hmask : ∀ i < w, (BitVec.ofNat w (2 ^ n - 1)).getLsbD i = decide (i < n) := by
    intro i hi
    rw [BitVec.getLsbD_ofNat, Nat.testBit_two_pow_sub_one]
    simp [hi]
  have hsplit :
      x = (x &&& BitVec.ofNat w (2 ^ n - 1)) ^^^ (x &&& ~~~BitVec.ofNat w (2 ^ n - 1)) := by
    apply BitVec.eq_of_getLsbD_eq
    intro i _
    simp only [BitVec.getLsbD_xor, BitVec.getLsbD_and, BitVec.getLsbD_not]
    cases hx : x.getLsbD i
    · simp
    · simp [BitVec.lt_of_getLsbD hx]
  have hhigh : ∀ i < n, (x &&& ~~~BitVec.ofNat w (2 ^ n - 1)).getLsbD i = false := by
    intro i hi
    by_cases hw : i < w
    · rw [BitVec.getLsbD_and, BitVec.getLsbD_not, hmask i hw]
      simp [hi]
    · exact BitVec.getLsbD_of_ge _ _ (by omega)
  have hrest : (x &&& ~~~BitVec.ofNat w (2 ^ n - 1)) >>> n = x >>> n := by
    apply BitVec.eq_of_getLsbD_eq
    intro i _
    simp only [BitVec.getLsbD_ushiftRight, BitVec.getLsbD_and, BitVec.getLsbD_not]
    cases hx : x.getLsbD (n + i) with
    | false => rfl
    | true =>
        have hw := BitVec.lt_of_getLsbD hx
        rw [hmask _ hw]
        simp [hw]
  conv_lhs => rw [hsplit]
  rw [iterate_shiftOut_xor, iterate_shiftOut_high poly n _ hhigh, hrest]

end Linear

/-! ## Several bits at once -/

/-- The lowest bit of a number and the others. -/
theorem ofNat_low_xor (m : Nat) :
    BitVec.ofNat w m = BitVec.ofNat w (m.testBit 0).toNat ^^^ BitVec.ofNat w (2 * (m / 2)) := by
  apply BitVec.eq_of_getLsbD_eq
  intro i hi
  simp only [BitVec.getLsbD_xor, BitVec.getLsbD_ofNat, hi, decide_true, Bool.true_and]
  cases i with
  | zero => cases m.testBit 0 <;> simp
  | succ i => cases m.testBit 0 <;> simp [Nat.testBit_succ]

theorem shiftOut_double (poly : BitVec w) {m : Nat} (hm : 2 * m < 2 ^ w) :
    shiftOut poly (BitVec.ofNat w (2 * m)) = BitVec.ofNat w m := by
  have hlow : (BitVec.ofNat w (2 * m)).getLsbD 0 = false := by
    rw [BitVec.getLsbD_ofNat, Nat.testBit_zero]
    simp
  simp only [shiftOut, hlow, Bool.false_eq_true, if_false]
  apply BitVec.eq_of_toNat_eq
  rw [BitVec.toNat_ushiftRight, BitVec.toNat_ofNat, BitVec.toNat_ofNat, Nat.mod_eq_of_lt hm,
    Nat.mod_eq_of_lt (by omega), Nat.shiftRight_eq_div_pow]
  omega

/-- The bits of a number go into the register all at once. -/
theorem divide_bits (poly : BitVec w) {n m : Nat} (hm : m < 2 ^ n) (hn : n ≤ w) (c : BitVec w) :
    divide poly c (bitsOf n m) = (shiftOut poly)^[n] (c ^^^ BitVec.ofNat w m) := by
  induction n generalizing m c with
  | zero =>
      obtain rfl : m = 0 := by omega
      simp [divide, bitsOf]
  | succ n ih =>
      have hhalf : m / 2 < 2 ^ n := by omega
      have hpow : 2 ^ (n + 1) ≤ 2 ^ w := Nat.pow_le_pow_right (by omega) hn
      have hbits : bitsOf (n + 1) m = m.testBit 0 :: bitsOf n (m / 2) := by
        simp only [bitsOf, List.range_succ_eq_map, List.map_cons, List.map_map]
        congr 1
        apply List.map_congr_left
        intro i _
        simp [Nat.testBit_succ]
      have hfirst : feed poly c (m.testBit 0) ^^^ BitVec.ofNat w (m / 2) =
          shiftOut poly (c ^^^ BitVec.ofNat w m) := by
        rw [ofNat_low_xor m, ← BitVec.xor_assoc, shiftOut_xor,
          shiftOut_double poly (show 2 * (m / 2) < 2 ^ w by omega)]
        rfl
      rw [hbits]
      show divide poly (feed poly c (m.testBit 0)) (bitsOf n (m / 2)) = _
      rw [ih hhalf (by omega), hfirst, Function.iterate_succ_apply]

end Lib.Crc
