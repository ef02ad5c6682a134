/-
# `Lib.Scan` — the positions that a scan finds

`hits p i stop` are the positions from `i` up to `stop` that satisfy `p`, in
order: what a scan finds that tests every one of them.  A scan that jumps
finds the same, as long as it jumps over no position that satisfies `p`
(`hits_skip`).
-/
import Mathlib.Data.List.Range

namespace Lib

section Hits

variable {p : Nat → Prop} [DecidablePred p] {i j k stop : Nat}

def hits (p : Nat → Prop) [DecidablePred p] (i stop : Nat) : List Nat :=
  (List.range' i (stop - i)).filter p

theorem mem_hits : j ∈ hits p i stop ↔ i ≤ j ∧ j < stop ∧ p j := by
  simp only [hits, List.mem_filter, List.mem_range'_1, decide_eq_true_eq, ← and_assoc]
  refine and_congr_left ?_
  intro _
  omega

theorem hits_of_le (h : stop ≤ i) : hits p i stop = [] := by
  rw [hits, Nat.sub_eq_zero_of_le h]
  rfl

theorem hits_of_lt (h : i < stop) :
    hits p i stop = if p i then i :: hits p (i + 1) stop else hits p (i + 1) stop := by
  have hsucc : stop - i = (stop - (i + 1)) + 1 := by omega
  rw [hits, hsucc, List.range'_succ, List.filter_cons]
  simp only [decide_eq_true_eq]
  rfl

theorem hits_cons (h : i < stop) (hp : p i) : hits p i stop = i :: hits p (i + 1) stop := by
  rw [hits_of_lt h, if_pos hp]

theorem hits_succ (hp : ¬ p i) : hits p i stop = hits p (i + 1) stop := by
  rcases Nat.lt_or_ge i stop with h | h
  · rw [hits_of_lt h, if_neg hp]
  · rw [hits_of_le h, hits_of_le (Nat.le_succ_of_le h)]

/-- A jump over positions that do not satisfy `p` misses nothing. -/
theorem hits_skip (hik : i ≤ k) (h : ∀ j, i ≤ j → j < k → ¬ p j) :
    hits p i stop = hits p k stop := by
  induction k, hik using Nat.le_induction with
  | base => rfl
  | succ k hik ih =>
      rw [ih fun j hij hjk => h j hij (Nat.lt_succ_of_lt hjk)]
      exact hits_succ (h k hik (Nat.lt_succ_self k))

/-- Each position is found once, in order. -/
theorem hits_sorted (p : Nat → Prop) [DecidablePred p] (i stop : Nat) :
    (hits p i stop).Pairwise (· < ·) :=
  List.Pairwise.filter _ (List.pairwise_lt_range' 1 Nat.one_pos)

end Hits

/-- In a list in order, a relation holds pairwise when it holds of every two
elements in order. -/
theorem pairwise_iff_of_sorted {R : Nat → Nat → Prop} {l : List Nat} (hl : l.Pairwise (· < ·)) :
    l.Pairwise R ↔ ∀ j ∈ l, ∀ k ∈ l, j < k → R j k := by
  induction l with
  | nil => simp
  | cons a l ih =>
      obtain ⟨hfirst, hrest⟩ := List.pairwise_cons.mp hl
      rw [List.pairwise_cons, ih hrest]
      constructor
      · rintro ⟨hhead, htail⟩ j hj k hk hjk
        rcases List.mem_cons.mp hj with rfl | hjl
        · exact hhead k ((List.mem_cons.mp hk).resolve_left (Nat.ne_of_gt hjk))
        · rcases List.mem_cons.mp hk with rfl | hkl
          · exact absurd hjk (Nat.lt_asymm (hfirst j hjl))
          · exact htail j hjl k hkl hjk
      · intro h
        refine ⟨fun k hk => h a List.mem_cons_self k (List.mem_cons_of_mem a hk) (hfirst k hk), ?_⟩
        intro j hj k hk
        exact h j (List.mem_cons_of_mem a hj) k (List.mem_cons_of_mem a hk)

end Lib
