/-
# `Lib.Ring` — a ring of slots addressed by a counter that wraps

Values are stored in `N` slots, each value in the slot that a key of it
names; a value stays until the next one for its slot.  `latestIn` is what a
slot holds after a list of writes.

When the keys are the successive values of a counter that wraps at `M`,
and the slot is the key modulo `N`, the ring keeps its last `N` values as
long as `N` divides `M`.  When it does not, the remainder `M % N` is the
distance of the two keys, one before and one after the wrap, that meet in
one slot, and `keepsRecent_iff` says after exactly how many writes a recent
value has been lost.
-/
import Mathlib.Data.Nat.ModEq
import Mathlib.Data.List.Basic

namespace Lib

section Latest

variable {α β : Type*} [DecidableEq β]

/-- The last of the writes `ws` that went to slot `b`. -/
def latestIn (slot : α → β) (ws : List α) (b : β) : Option α :=
  ws.reverse.find? fun w => decide (slot w = b)

@[simp] theorem latestIn_nil (slot : α → β) (b : β) : latestIn slot [] b = none := rfl

theorem latestIn_snoc (slot : α → β) (ws : List α) (w : α) (b : β) :
    latestIn slot (ws ++ [w]) b = if slot w = b then some w else latestIn slot ws b := by
  by_cases h : slot w = b <;> simp [latestIn, h]

/-- A slot holds a write exactly when no later one went to the same slot. -/
theorem latestIn_eq_some_iff {slot : α → β} {ws : List α} {b : β} {w : α} :
    latestIn slot ws b = some w ↔
      slot w = b ∧ ∃ pre post, ws = pre ++ w :: post ∧ ∀ x ∈ post, slot x ≠ b := by
  simp only [latestIn, List.find?_eq_some_iff_append, decide_eq_true_eq]
  constructor
  · rintro ⟨hw, as, bs, hrev, hall⟩
    refine ⟨hw, bs.reverse, as.reverse, ?_, ?_⟩
    · have := congrArg List.reverse hrev
      simpa using this
    · intro x hx
      simpa using hall x (by simpa using hx)
  · rintro ⟨hw, pre, post, rfl, hall⟩
    exact ⟨hw, post.reverse, pre.reverse, by simp, fun x hx => by
      simpa using hall x (by simpa using hx)⟩

/-- The same by positions. -/
theorem latestIn_eq_some_iff_getElem {slot : α → β} {ws : List α} {b : β} {w : α} :
    latestIn slot ws b = some w ↔ ∃ i, ∃ hi : i < ws.length, ws[i] = w ∧ slot w = b ∧
      ∀ j (hj : j < ws.length), i < j → slot ws[j] ≠ b := by
  rw [latestIn_eq_some_iff]
  constructor
  · rintro ⟨hw, pre, post, rfl, hall⟩
    refine ⟨pre.length, by simp, by simp, hw, ?_⟩
    intro j hj hlt
    obtain ⟨k, rfl⟩ := Nat.exists_eq_add_of_lt hlt
    have hk : k < post.length := by
      rw [List.length_append, List.length_cons] at hj
      omega
    have hget : (pre ++ w :: post)[pre.length + k + 1] = post[k] := by
      simp [Nat.add_assoc]
    rw [hget]
    exact hall _ (List.getElem_mem hk)
  · rintro ⟨i, hi, rfl, hw, hall⟩
    refine ⟨hw, ws.take i, ws.drop (i + 1), ?_, ?_⟩
    · rw [List.getElem_cons_drop, List.take_append_drop]
    · intro x hx
      obtain ⟨k, hk, rfl⟩ := List.getElem_of_mem hx
      rw [List.length_drop] at hk
      rw [List.getElem_drop]
      exact hall (i + 1 + k) (by omega) (by omega)

theorem latestIn_mem {slot : α → β} {ws : List α} {b : β} {w : α}
    (h : latestIn slot ws b = some w) : w ∈ ws ∧ slot w = b := by
  obtain ⟨hw, pre, post, rfl, -⟩ := latestIn_eq_some_iff.mp h
  exact ⟨by simp, hw⟩

end Latest

/-! ## Consecutive keys -/

/-- The slot of the counter value `x`: the counter shows `x % M`, and the
ring has `N` slots. -/
def ringSlot (M N x : Nat) : Nat := x % M % N

/-- After `n` writes numbered from `s` on, none of the last `min n N` has
been overwritten. -/
def KeepsRecent (M N s n : Nat) : Prop :=
  ∀ i j, n - min n N ≤ i → i < j → j < n → ringSlot M N (s + i) ≠ ringSlot M N (s + j)

section Ring

variable {M N : Nat}

/-- Two values in one cycle of the counter, less than `N` apart, have
different slots. -/
theorem ringSlot_ne_of_same_cycle {x y : Nat} (hxy : x < y) (hN : y - x < N)
    (hc : x / M = y / M) : ringSlot M N x ≠ ringSlot M N y := by
  intro heq
  have hx := Nat.div_add_mod x M
  have hy := Nat.div_add_mod y M
  rw [hc] at hx
  have hle : x % M ≤ y % M := by omega
  have hdvd : N ∣ y % M - x % M := (Nat.modEq_iff_dvd' hle).mp heq
  have hzero := Nat.eq_zero_of_dvd_of_lt hdvd (by omega)
  omega

/-- Across one wrap, values less than `N` apart share a slot exactly when
their distance is the remainder of `M` by `N`. -/
theorem ringSlot_eq_across_wrap {m a b : Nat} (hNM : N ≤ M) (ha : 0 < a)
    (hab : a + b < N) :
    ringSlot M N (M * m + (M - a)) = ringSlot M N (M * (m + 1) + b) ↔ M % N = a + b := by
  have hx : (M * m + (M - a)) % M = M - a := by
    rw [Nat.mul_add_mod, Nat.mod_eq_of_lt (by omega)]
  have hy : (M * (m + 1) + b) % M = b := by
    rw [Nat.mul_add_mod, Nat.mod_eq_of_lt (by omega)]
  rw [ringSlot, ringSlot, hx, hy, Nat.mod_eq_of_lt (a := b) (by omega)]
  have hshift : (M - a) % N = b ↔ (M - a + a) % N = (b + a) % N := by
    constructor
    · intro h
      rw [← Nat.mod_add_mod, h]
    · intro h
      have hmod : M - a ≡ b [MOD N] := Nat.ModEq.add_right_cancel' a h
      rw [hmod, Nat.mod_eq_of_lt (by omega)]
  rw [hshift, Nat.sub_add_cancel (by omega), Nat.mod_eq_of_lt (a := b + a) (by omega)]
  omega

/-- Numbers less than `M` apart lie in one cycle of `M` or in two that
follow each other. -/
theorem div_eq_or_succ {x y : Nat} (hM : 0 < M) (hxy : x ≤ y) (hlt : y < x + M) :
    y / M = x / M ∨ y / M = x / M + 1 := by
  have hmono : x / M ≤ y / M := Nat.div_le_div_right hxy
  have hbound : y / M ≤ x / M + 1 := by
    rw [← Nat.add_div_right _ hM]
    exact Nat.div_le_div_right hlt.le
  omega

/-- The ring has kept its last `min n N` values, numbered from `s` on,
unless the counter wrapped within them, at a point that leaves two of them
`M % N` apart on the two sides. -/
theorem keepsRecent_iff (hNM : N ≤ M) (s n : Nat) :
    KeepsRecent M N s n ↔
      ¬ (0 < M % N ∧ M % N < min n N ∧ 0 < (s + n) % M ∧ (s + n) % M < min n N) := by
  have hdm := Nat.div_add_mod (s + n) M
  generalize hm : (s + n) / M = m at hdm
  generalize hr : (s + n) % M = r at hdm
  generalize hρ : M % N = ρ
  constructor
  · rintro hkeep ⟨hρ0, hρk, hr0, hrk⟩
    -- the first value after the wrap that meets one still among the last ones
    have hm1 : ∃ m', m = m' + 1 := by
      cases m with
      | zero => exact absurd hdm (by omega)
      | succ m' => exact ⟨m', rfl⟩
    obtain ⟨m', rfl⟩ := hm1
    have hmul : M * (m' + 1) = M * m' + M := Nat.mul_succ M m'
    generalize hb : ρ + r - min n N = b
    generalize ha : ρ - b = a
    refine hkeep (M * m' + (M - a) - s) (M * (m' + 1) + b - s)
      (by omega) (by omega) (by omega) ?_
    rw [Nat.add_sub_cancel' (by omega), Nat.add_sub_cancel' (by omega)]
    exact (ringSlot_eq_across_wrap hNM (by omega) (by omega)).mpr (by omega)
  · intro hno i j hi hij hjn heq
    have hxy : s + i < s + j := by omega
    by_cases hc : (s + i) / M = (s + j) / M
    · exact ringSlot_ne_of_same_cycle hxy (by omega) hc heq
    · have hMpos : 0 < M := by omega
      have hx := Nat.div_add_mod (s + i) M
      have hy := Nat.div_add_mod (s + j) M
      have hxlt := Nat.mod_lt (s + i) hMpos
      have hylt := Nat.mod_lt (s + j) hMpos
      have hnext : (s + j) / M = (s + i) / M + 1 := by
        rcases div_eq_or_succ hMpos hxy.le (by omega : s + j < s + i + M) with hsame | hnext
        · exact absurd hsame.symm hc
        · exact hnext
      generalize (s + i) / M = q at hx hnext hc
      rw [hnext] at hy
      have hmul : M * (q + 1) = M * q + M := Nat.mul_succ M q
      generalize hb : (s + j) % M = b at hy hylt
      generalize ha : M - (s + i) % M = a
      have hxeq : s + i = M * q + (M - a) := by omega
      have hyeq : s + j = M * (q + 1) + b := hy.symm
      rw [hxeq, hyeq] at heq
      have hdist := (ringSlot_eq_across_wrap hNM (by omega) (by omega)).mp heq
      -- the next number lies in the cycle of `s + j`, less than a window after the wrap
      have hnum : s + n = M * (q + 1) + (s + n - M * (q + 1)) := by omega
      have hrval : (s + n) % M = s + n - M * (q + 1) := by
        rw [hnum, Nat.mul_add_mod, Nat.mod_eq_of_lt (by omega)]
        omega
      rw [hρ] at hdist
      rw [hr] at hrval
      exact hno ⟨by omega, by omega, by omega, by omega⟩

end Ring

end Lib
