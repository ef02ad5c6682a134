/-
# `Lib.Restart` — logs that begin anew at marked entries

A log takes one entry after the other and forgets what it holds when a
marked entry comes.  So it is always the end of the whole sequence, from the
last mark on, or the whole sequence while there has been no mark.
-/
import Mathlib.Data.List.Basic

namespace Lib

variable {α : Type*} (mark : α → Bool)

/-- The log takes an entry. -/
def restart (log : List α) (x : α) : List α := if mark x then [x] else log ++ [x]

/-- The place in the sequence where its log begins: the last mark, or the
first entry if there is no mark. -/
def StartsAt (l : List α) (i : Nat) : Prop :=
  (∃ x, l[i]? = some x ∧ mark x = true ∧ ∀ y ∈ l.drop (i + 1), mark y = false) ∨
    (i = 0 ∧ ∀ y ∈ l, mark y = false)

variable {mark} {l : List α} {i : Nat} {x : α}

theorem startsAt_nil : StartsAt mark [] 0 := Or.inr ⟨rfl, fun y hy => by cases hy⟩

theorem StartsAt.le_length (h : StartsAt mark l i) : i ≤ l.length := by
  rcases h with ⟨x, hx, -, -⟩ | ⟨rfl, -⟩
  · exact Nat.le_of_lt (List.getElem?_eq_some_iff.mp hx).1
  · exact Nat.zero_le _

theorem startsAt_snoc_mark (hx : mark x = true) : StartsAt mark (l ++ [x]) l.length := by
  refine Or.inl ⟨x, by simp, hx, fun y hy => ?_⟩
  simp at hy

theorem StartsAt.snoc (h : StartsAt mark l i) (hx : mark x = false) :
    StartsAt mark (l ++ [x]) i := by
  rcases h with ⟨m, hm, hmark, hafter⟩ | ⟨rfl, hnone⟩
  · have hlt : i < l.length := (List.getElem?_eq_some_iff.mp hm).1
    refine Or.inl ⟨m, by rw [List.getElem?_append_left hlt, hm], hmark, fun y hy => ?_⟩
    rw [List.drop_append_of_le_length hlt] at hy
    rcases List.mem_append.mp hy with hy | hy
    · exact hafter y hy
    · rwa [List.mem_singleton.mp hy]
  · refine Or.inr ⟨rfl, fun y hy => ?_⟩
    rcases List.mem_append.mp hy with hy | hy
    · exact hnone y hy
    · rwa [List.mem_singleton.mp hy]

/-- What the log holds after another entry. -/
theorem StartsAt.restart (h : StartsAt mark l i) (x : α) :
    ∃ j, StartsAt mark (l ++ [x]) j ∧ Lib.restart mark (l.drop i) x = (l ++ [x]).drop j := by
  cases hx : mark x with
  | true =>
      refine ⟨l.length, startsAt_snoc_mark hx, ?_⟩
      rw [Lib.restart, if_pos hx, List.drop_left' rfl]
  | false =>
      refine ⟨i, h.snoc hx, ?_⟩
      rw [Lib.restart, hx, List.drop_append_of_le_length h.le_length]
      rfl

end Lib
