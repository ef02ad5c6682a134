/-
# `Lib.Serial` — numbers that wrap, and how far apart they are

Numbers below a modulus `M` stand for counts that may have wrapped.
`gap M a b` is how far `a` lies ahead of `b`, as the unsigned subtraction
`a - b` computes it.  Of two numbers the later one is the one less than
half a cycle ahead of the other, and the newest of a sequence is what this
comparison keeps.

The counts themselves come back where they are less than a cycle apart
(`gap_mod`), and distances seen from one number give those seen from another
(`gap_gap`).  With a sign a number may also lie behind another (`ahead`).
-/
import Mathlib.Data.List.Induction
import Mathlib.Data.Nat.Notation

namespace Lib

variable {M : ℕ}

/-- How far `a` lies ahead of `b`. -/
def gap (M a b : ℕ) : ℕ := if b ≤ a then a - b else a + M - b

theorem gap_self (M a : ℕ) : gap M a a = 0 := by
  simp [gap]

theorem gap_of_le {a b : ℕ} (h : b ≤ a) : gap M a b = a - b := if_pos h

theorem gap_of_lt {a b : ℕ} (h : a < b) : gap M a b = a + M - b := if_neg (Nat.not_le.mpr h)

theorem gap_lt {a b : ℕ} (ha : a < M) : gap M a b < M := by
  simp only [gap]
  split <;> omega

/-- Less than a cycle apart, the counts behind the numbers are as far apart
as these. -/
theorem gap_mod {a b : ℕ} (hab : a ≤ b) (hlt : b - a < M) : gap M (b % M) (a % M) = b - a := by
  have hM : 0 < M := by omega
  have ha := Nat.div_add_mod a M
  have hb := Nat.div_add_mod b M
  have hra := Nat.mod_lt a hM
  have hrb := Nat.mod_lt b hM
  have hdiv : a / M ≤ b / M := Nat.div_le_div_right hab
  -- the later count is in the same cycle or in the next one
  have hcycle : b / M = a / M ∨ b / M = a / M + 1 := by
    rcases Nat.lt_or_ge (b / M) (a / M + 2) with hnear | hfar
    · omega
    · have hstep : M * (a / M + 2) ≤ M * (b / M) := Nat.mul_le_mul_left M hfar
      rw [Nat.mul_add] at hstep
      omega
  rcases hcycle with hq | hq
  · rw [hq] at hb
    rw [gap_of_le (by omega)]
    omega
  · rw [hq, Nat.mul_add, Nat.mul_one] at hb
    rw [gap_of_lt (by omega)]
    omega

/-- Distances from `n` give the distance between the two. -/
theorem gap_gap {n a b : ℕ} (hn : n < M) (ha : a < M) (hb : b < M) :
    gap M (gap M n b) (gap M n a) = gap M a b := by
  simp only [gap]
  repeat' split
  all_goals omega

theorem gap_add {a b c : ℕ} (ha : a < M) (hb : b < M) (hc : c < M)
    (h : gap M a b + gap M b c < M) : gap M a c = gap M a b + gap M b c := by
  simp only [gap] at h ⊢
  split at h <;> split at h <;> split <;> omega

/-- Two numbers are a cycle apart, there and back. -/
theorem gap_symm {a b : ℕ} (ha : a < M) (hb : b < M) (h : 0 < gap M a b) :
    gap M a b + gap M b a = M := by
  rcases Nat.lt_trichotomy a b with hlt | rfl | hlt
  · rw [gap_of_lt hlt, gap_of_le (Nat.le_of_lt hlt)]
    omega
  · rw [gap_self] at h
    exact absurd h (Nat.lt_irrefl 0)
  · rw [gap_of_le (Nat.le_of_lt hlt), gap_of_lt hlt]
    omega

theorem eq_of_gap_eq_zero {a b : ℕ} (hb : b < M) (h : gap M a b = 0) : a = b := by
  simp only [gap] at h
  split at h <;> omega

/-- Seen from the newest number `n`, a limit `D` on the distance from `l` is
one on the distance from `n`, unless `x` is near `n` and ahead of `l`. -/
theorem gap_limit_iff {n l x D : ℕ} (hn : n < M) (hl : l < M) (hx : x < M) (hD : 2 * D < M)
    (hnear : 2 * gap M n l ≤ M) :
    (D < gap M l x → D < gap M n x) ↔ (gap M n x ≤ D → gap M n l ≤ gap M n x) := by
  have hlt := gap_lt (b := x) hn
  rw [← gap_gap hn hl hx]
  rcases Nat.lt_or_ge (gap M n x) (gap M n l) with hahead | hbehind
  · rw [gap_of_lt hahead]
    omega
  · rw [gap_of_le hbehind]
    omega

theorem toNat_sub_eq_gap (a b : UInt32) : (a - b).toNat = gap 4294967296 a.toNat b.toNat := by
  have ha := a.toNat_lt
  have hb := b.toNat_lt
  rw [UInt32.toNat_sub, gap]
  split <;> omega

/-! ## With a sign -/

/-- How far `a` lies ahead of `b`, the shorter way round. -/
def ahead (a b : UInt32) : Int := (a - b).toBitVec.toInt

theorem ahead_self (a : UInt32) : ahead a a = 0 := by
  rw [ahead, UInt32.sub_self]
  rfl

theorem ofInt_natCast (n : ℕ) : UInt32.ofInt n = UInt32.ofNat n := by
  rw [← UInt32.toNat_inj, UInt32.ofInt, UInt32.toNat_ofNat', UInt32.toNat_ofNat']
  omega

theorem toInt_ofInt {x : Int} (h : -2147483648 ≤ x) (h' : x < 2147483648) :
    (UInt32.ofInt x).toBitVec.toInt = x := by
  have hbits : (UInt32.ofInt x).toBitVec = BitVec.ofInt 32 x := by
    apply BitVec.eq_of_toNat_eq
    rw [BitVec.toNat_ofInt]
    show (UInt32.ofInt x).toNat = _
    rw [UInt32.ofInt, UInt32.toNat_ofNat']
    omega
  rw [hbits, BitVec.toInt_ofInt]
  exact Int.bmod_eq_of_le (by omega) (by omega)

/-- Counts less than half a cycle apart are as far apart as their numbers. -/
theorem ahead_ofInt {x y : Int} (h : -2147483648 ≤ x - y) (h' : x - y < 2147483648) :
    ahead (UInt32.ofInt x) (UInt32.ofInt y) = x - y := by
  rw [ahead, UInt32.sub_eq_add_neg, ← UInt32.ofInt_neg, ← UInt32.ofInt_add]
  exact toInt_ofInt h h'

/-! ## The later of two numbers -/

/-- Of `a` and `b`, the one less than half a cycle ahead of the other. -/
def later (M a b : ℕ) : ℕ := if 0 < gap M b a ∧ 2 * gap M b a < M then b else a

theorem later_lt {a b : ℕ} (ha : a < M) (hb : b < M) : later M a b < M := by
  rw [later]
  split
  · exact hb
  · exact ha

/-- Neither lies more than half a cycle behind the later one. -/
theorem two_mul_gap_later_right {a b : ℕ} (ha : a < M) (hb : b < M) :
    2 * gap M (later M a b) b ≤ M := by
  rw [later]
  split
  next => rw [gap_self]; omega
  next hnot =>
      simp only [gap] at hnot ⊢
      split at hnot <;> split <;> omega

/-- The newest of a sequence; the first one opens it. -/
def newest (M : ℕ) : List ℕ → Option ℕ
  | [] => none
  | a :: rest => some (rest.foldl (later M) a)

theorem newest_snoc (l : List ℕ) (b : ℕ) :
    newest M (l ++ [b]) = some ((newest M l).elim b fun a => later M a b) := by
  cases l with
  | nil => rfl
  | cons a rest =>
      show some ((rest ++ [b]).foldl (later M) a) = _
      rw [List.foldl_append]
      rfl

theorem newest_eq_none_iff {l : List ℕ} : newest M l = none ↔ l = [] := by
  cases l with
  | nil => exact ⟨fun _ => rfl, fun _ => rfl⟩
  | cons a rest => exact ⟨fun h => (by cases h), fun h => (by cases h)⟩

theorem newest_lt {l : List ℕ} (hlt : ∀ x ∈ l, x < M) {n : ℕ} (hn : newest M l = some n) :
    n < M := by
  induction l using List.reverseRecOn generalizing n with
  | nil => cases hn
  | append_singleton l b ih =>
      have hb := hlt b (List.mem_append_right _ List.mem_cons_self)
      rw [newest_snoc] at hn
      obtain rfl := Option.some.inj hn
      cases hl : newest M l with
      | none => exact hb
      | some a => exact later_lt (ih (fun x hx => hlt x (List.mem_append_left _ hx)) hl) hb

/-- The last one is not more than half a cycle behind the newest. -/
theorem two_mul_gap_newest {l : List ℕ} {b : ℕ} (hlt : ∀ x ∈ l ++ [b], x < M) {n : ℕ}
    (hn : newest M (l ++ [b]) = some n) : 2 * gap M n b ≤ M := by
  have hb := hlt b (List.mem_append_right _ List.mem_cons_self)
  rw [newest_snoc] at hn
  obtain rfl := Option.some.inj hn
  cases hl : newest M l with
  | none =>
      show 2 * gap M b b ≤ M
      rw [gap_self]
      exact Nat.zero_le M
  | some a =>
      exact two_mul_gap_later_right
        (newest_lt (fun x hx => hlt x (List.mem_append_left _ hx)) hl) hb

/-- No two of the numbers are more than `D` apart. -/
def Near (M D : ℕ) (l : List ℕ) : Prop :=
  ∀ x ∈ l, ∀ y ∈ l, gap M x y ≤ D ∨ gap M y x ≤ D

theorem Near.left {D : ℕ} {l : List ℕ} {b : ℕ} (h : Near M D (l ++ [b])) : Near M D l :=
  fun x hx y hy => h x (List.mem_append_left _ hx) y (List.mem_append_left _ hy)

/-- Of two numbers that are near each other the later one is ahead. -/
theorem gap_later_le {D a b : ℕ} (ha : a < M) (hb : b < M) (hD : 4 * D < M)
    (h : gap M a b ≤ D ∨ gap M b a ≤ D) :
    gap M (later M a b) a ≤ D ∧ gap M (later M a b) b ≤ D := by
  rw [later]
  split
  next hahead =>
      refine ⟨?_, by rw [gap_self]; exact Nat.zero_le D⟩
      rcases h with hab | hba
      · have := gap_symm hb ha hahead.1
        omega
      · exact hba
  next hnot =>
      refine ⟨by rw [gap_self]; exact Nat.zero_le D, ?_⟩
      rcases h with hab | hba
      · exact hab
      · obtain rfl : b = a := eq_of_gap_eq_zero ha (by omega)
        exact hba

/-- In numbers near each other none is ahead of the newest. -/
theorem newest_near {D : ℕ} (hD : 4 * D < M) {l : List ℕ} (hlt : ∀ x ∈ l, x < M)
    (hnear : Near M D l) {n : ℕ} (hn : newest M l = some n) :
    n ∈ l ∧ ∀ x ∈ l, gap M n x ≤ D := by
  induction l using List.reverseRecOn generalizing n with
  | nil => cases hn
  | append_singleton l b ih =>
      have hb := hlt b (List.mem_append_right _ List.mem_cons_self)
      rw [newest_snoc] at hn
      cases hl : newest M l with
      | none =>
          obtain rfl := newest_eq_none_iff.mp hl
          obtain rfl : b = n := by
            rw [hl] at hn
            exact Option.some.inj hn
          refine ⟨List.mem_cons_self, fun x hx => ?_⟩
          rw [List.mem_singleton.mp hx]
          rw [gap_self]
          exact Nat.zero_le D
      | some a =>
          obtain rfl : later M a b = n := by
            rw [hl] at hn
            exact Option.some.inj hn
          obtain ⟨hmem, hall⟩ := ih (fun x hx => hlt x (List.mem_append_left _ hx)) hnear.left hl
          have ha := hlt a (List.mem_append_left _ hmem)
          obtain ⟨hla, hlb⟩ := gap_later_le ha hb hD
            (hnear a (List.mem_append_left _ hmem) b (List.mem_append_right _ List.mem_cons_self))
          have hlater : later M a b ∈ l ++ [b] := by
            rw [later]
            split
            · exact List.mem_append_right _ List.mem_cons_self
            · exact List.mem_append_left _ hmem
          refine ⟨hlater, fun x hx => ?_⟩
          rcases List.mem_append.mp hx with hxl | hxb
          · have hxlt := hlt x hx
            have hax := hall x hxl
            have hsum : gap M (later M a b) x = gap M (later M a b) a + gap M a x :=
              gap_add (later_lt ha hb) ha hxlt (by omega)
            rcases hnear _ hlater x hx with hnx | hxn
            · exact hnx
            · rcases Nat.eq_zero_or_pos (gap M x (later M a b)) with hzero | hpos
              · rw [eq_of_gap_eq_zero (later_lt ha hb) hzero, gap_self]
                exact Nat.zero_le D
              · have := gap_symm hxlt (later_lt ha hb) hpos
                omega
          · rw [List.mem_singleton.mp hxb]
            exact hlb

end Lib
