/-
# `Lib.Spacing` — a delay between two uses of what a cell holds

A number of cells are filled, and what a cell holds is used again and
again.  The log says, in order, which cell was filled or used, and of a use
its time and the delay then in force.  The log is `Spaced` when two uses of
one filling are always further apart than the delay of the second.

A guard that remembers the last use of each filling, with 0 for none, keeps
the log spaced (`Guarded`): it has to let a use pass only when there was
none before or the last one is further back than the delay.  Times are
positive and do not decrease.
-/
import Mathlib.Data.Fintype.Card
import WebrtcServer.Lib.Runs

namespace Lib

/-- A cell is filled, or what it holds is used. -/
inductive Mark (κ : Type*) where
  | filled (cell : κ)
  | used (cell : κ) (time delay : Nat)

variable {κ : Type*}

/-- Two uses of one filling are further apart than the delay of the second. -/
def Spaced (log : List (Mark κ)) : Prop :=
  ∀ before between after cell time delay time' delay',
    log = before ++ .used cell time delay :: (between ++ .used cell time' delay' :: after) →
    .filled cell ∉ between → time + delay' < time'

section Guard

variable [DecidableEq κ]

/-- The last use of what a cell holds, after one more mark. -/
def useAfter (cell : κ) (time : Nat) : Mark κ → Nat
  | .filled cell' => if cell' = cell then 0 else time
  | .used cell' time' _ => if cell' = cell then time' else time

/-- The time of the last use of what a cell holds, 0 if it was not used. -/
def lastUse (cell : κ) (log : List (Mark κ)) : Nat := log.foldl (useAfter cell) 0

theorem lastUse_concat (cell : κ) (log : List (Mark κ)) (m : Mark κ) :
    lastUse cell (log ++ [m]) = useAfter cell (lastUse cell log) m := by
  rw [lastUse, List.foldl_append]
  rfl

/-- It is the time of a use. -/
theorem lastUse_mem (cell : κ) (log : List (Mark κ)) :
    lastUse cell log = 0 ∨ ∃ delay, .used cell (lastUse cell log) delay ∈ log := by
  induction log using List.reverseRecOn with
  | nil => exact Or.inl rfl
  | append_singleton log m ih =>
      have hkeep : lastUse cell log = 0 ∨
          ∃ delay, .used cell (lastUse cell log) delay ∈ log ++ [m] := by
        rcases ih with hzero | ⟨delay, hin⟩
        · exact Or.inl hzero
        · exact Or.inr ⟨delay, List.mem_append_left _ hin⟩
      rw [lastUse_concat]
      cases m with
      | filled cell' =>
          rw [useAfter]
          split
          · exact Or.inl rfl
          · exact hkeep
      | used cell' time delay =>
          rw [useAfter]
          split
          next hcell =>
            subst hcell
            exact Or.inr ⟨delay, List.mem_append_right _ List.mem_cons_self⟩
          next => exact hkeep

/-- What a cell holds was used last at `lastUse`. -/
structure Guarded (log : List (Mark κ)) : Prop where
  spaced : Spaced log
  last : ∀ before after cell time delay, log = before ++ .used cell time delay :: after →
    .filled cell ∉ after → 0 < time ∧ time ≤ lastUse cell log

theorem guarded_nil : Guarded ([] : List (Mark κ)) := by
  constructor
  · intro before between after cell time delay time' delay' h
    exact absurd h.symm (List.append_ne_nil_of_right_ne_nil _ (List.cons_ne_nil _ _))
  · intro before after cell time delay h
    exact absurd h.symm (List.append_ne_nil_of_right_ne_nil _ (List.cons_ne_nil _ _))

variable {log : List (Mark κ)} {cell : κ} {now delay : Nat}

theorem Guarded.fill (h : Guarded log) (cell : κ) : Guarded (log ++ [.filled cell]) := by
  constructor
  · intro before between after cell' time delay time' delay' hsplit hfill
    rw [← List.cons_append, ← List.append_assoc] at hsplit
    rcases split_concat hsplit with ⟨-, -, hne⟩ | ⟨after', -, hlog⟩
    · cases hne
    · rw [List.append_assoc, List.cons_append] at hlog
      exact h.spaced _ _ _ _ _ _ _ _ hlog hfill
  · intro before after cell' time delay hsplit hfill
    rcases split_concat hsplit with ⟨-, -, hne⟩ | ⟨after', rfl, hlog⟩
    · cases hne
    · have hcell : cell ≠ cell' := by
        rintro rfl
        exact hfill (List.mem_append_right _ List.mem_cons_self)
      rw [lastUse_concat, useAfter, if_neg hcell]
      exact h.last _ _ _ _ _ hlog fun hin => hfill (List.mem_append_left _ hin)

/-- A use that the guard lets pass. -/
theorem Guarded.use (h : Guarded log) (hnow : 0 < now)
    (hpast : ∀ cell time delay, .used cell time delay ∈ log → time ≤ now)
    (hguard : lastUse cell log = 0 ∨ lastUse cell log + delay < now) :
    Guarded (log ++ [.used cell now delay]) := by
  constructor
  · intro before between after cell' time delay' time' delay'' hsplit hfill
    rw [← List.cons_append, ← List.append_assoc] at hsplit
    rcases split_concat hsplit with ⟨-, hlog, hlast⟩ | ⟨after', -, hlog⟩
    · cases hlast
      obtain ⟨hpos, hle⟩ := h.last _ _ _ _ _ hlog.symm hfill
      rcases hguard with hzero | hlater
      · omega
      · omega
    · rw [List.append_assoc, List.cons_append] at hlog
      exact h.spaced _ _ _ _ _ _ _ _ hlog hfill
  · intro before after cell' time delay' hsplit hfill
    rw [lastUse_concat, useAfter]
    rcases split_concat hsplit with ⟨-, -, hlast⟩ | ⟨after', rfl, hlog⟩
    · cases hlast
      rw [if_pos rfl]
      exact ⟨hnow, Nat.le_refl _⟩
    · obtain ⟨hpos, hle⟩ := h.last _ _ _ _ _ hlog fun hin => hfill (List.mem_append_left _ hin)
      refine ⟨hpos, ?_⟩
      split
      · apply hpast cell' time delay'
        rw [hlog]
        exact List.mem_append_right _ List.mem_cons_self
      · exact hle

end Guard

/-- Uses at one time are uses of different cells. -/
theorem Spaced.nodup {α : Type*} {cell : α → κ} {delay : α → Nat} {now : Nat} {uses : List α}
    {before after : List (Mark κ)}
    (h : Spaced (before ++ (uses.map fun x => .used (cell x) now (delay x)) ++ after)) :
    (uses.map cell).Nodup := by
  induction uses generalizing before with
  | nil => exact List.nodup_nil
  | cons x uses ih =>
      rw [List.map_cons, List.nodup_cons]
      constructor
      · intro hmem
        rcases List.mem_map.mp hmem with ⟨y, hy, hcell⟩
        rcases List.append_of_mem hy with ⟨front, back, rfl⟩
        have hlt : now + delay y < now := by
          refine h before (front.map fun z => .used (cell z) now (delay z))
            ((back.map fun z => .used (cell z) now (delay z)) ++ after) (cell x) now (delay x)
            now (delay y) ?_ ?_
          · simp only [List.map_cons, List.map_append, List.append_assoc, List.cons_append, hcell]
          · intro hfill
            rcases List.mem_map.mp hfill with ⟨z, -, hz⟩
            cases hz
        omega
      · have hrest : Spaced ((before ++ [.used (cell x) now (delay x)]) ++
            (uses.map fun z => .used (cell z) now (delay z)) ++ after) := by
          rw [List.append_assoc before]
          exact h
        exact ih hrest

end Lib
