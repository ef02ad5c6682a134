/-
# `Lib.Liveness` — infinite runs, fairness, and ranks

The step functions are those of `Lib.Runs`.  An execution goes on for ever;
where nothing happens it stands still, so that a run that ends is one too.

A thread is the events that are its own.  It is treated fairly when it does
not stand still for ever while it could go on.  If its place is its own, and
each of its steps lowers a rank, it comes to its goal, provided that it acts
again whenever it is not there.
-/
import WebrtcServer.Lib.Runs
import Mathlib.Data.Nat.Find
import Mathlib.Order.WellFounded

namespace Lib

variable {σ ε ω φ : Type*}

/-- An infinite run of `step`; its steps meet `C`. -/
structure Execution (step : σ → ε → Except φ (σ × List ω)) (C : σ → ε → Prop) where
  state : Nat → σ
  event : Nat → Option ε
  still : ∀ n, event n = none → state (n + 1) = state n
  goes : ∀ n e, event n = some e →
    C (state n) e ∧ ∃ o, step (state n) e = .ok (state (n + 1), o)

namespace Execution

variable {step : σ → ε → Except φ (σ × List ω)} {C : σ → ε → Prop}

/-- Nothing happens any more. -/
def idle (step : σ → ε → Except φ (σ × List ω)) (C : σ → ε → Prop) (s : σ) : Execution step C where
  state _ := s
  event _ := none
  still _ _ := rfl
  goes _ _ h := by cases h

/-- A thread can take a step. -/
def Enabled (step : σ → ε → Except φ (σ × List ω)) (Own : ε → Prop) (s : σ) : Prop :=
  ∃ e s' o, Own e ∧ step s e = .ok (s', o)

/-- A thread takes a step. -/
def Acts (x : Execution step C) (Own : ε → Prop) (n : Nat) : Prop :=
  ∃ e, x.event n = some e ∧ Own e

/-- A thread that could go on from some time on goes on. -/
def Fair (x : Execution step C) (Own : ε → Prop) : Prop :=
  ∀ n, (∀ m ≥ n, Enabled step Own (x.state m)) → ∃ m ≥ n, x.Acts Own m

variable {x : Execution step C} {Own : ε → Prop}

/-- What the steps of some time keep has stayed after it. -/
theorem kept {I : σ → Prop} {n m : Nat}
    (hstep : ∀ k, n ≤ k → k < m → ∀ e o, x.event k = some e → C (x.state k) e →
      step (x.state k) e = .ok (x.state (k + 1), o) → I (x.state k) → I (x.state (k + 1)))
    (hle : n ≤ m) (h : I (x.state n)) : I (x.state m) := by
  induction m, hle using Nat.le_induction with
  | base => exact h
  | succ m hm ih =>
      have hbefore := ih fun k hk hkm => hstep k hk (Nat.lt_succ_of_lt hkm)
      cases hevent : x.event m with
      | none =>
          rw [x.still m hevent]
          exact hbefore
      | some e =>
          obtain ⟨hc, o, hok⟩ := x.goes m e hevent
          exact hstep m hm (Nat.lt_succ_self m) e o hevent hc hok hbefore

/-- A place of the thread's own stays while the thread does not act. -/
theorem same {π : Type*} (place : σ → π)
    (hown : ∀ s e s' o, C s e → step s e = .ok (s', o) → ¬ Own e → place s' = place s)
    {n m : Nat} (hle : n ≤ m) (hnone : ∀ k, n ≤ k → k < m → ¬ x.Acts Own k) :
    place (x.state m) = place (x.state n) := by
  induction m, hle using Nat.le_induction with
  | base => rfl
  | succ m hm ih =>
      have hbefore := ih fun k hk hkm => hnone k hk (Nat.lt_succ_of_lt hkm)
      cases hevent : x.event m with
      | none => rw [x.still m hevent, hbefore]
      | some e =>
          obtain ⟨hc, o, hok⟩ := x.goes m e hevent
          have hother : ¬ Own e := fun he => hnone m hm (Nat.lt_succ_self m) ⟨e, hevent, he⟩
          rw [hown _ _ _ _ hc hok hother, hbefore]

/-- The next time the thread acts. -/
theorem next_act {n : Nat} (h : ∃ m ≥ n, x.Acts Own m) :
    ∃ m ≥ n, x.Acts Own m ∧ ∀ k, n ≤ k → k < m → ¬ x.Acts Own k := by
  classical
  refine ⟨Nat.find h, (Nat.find_spec h).1, (Nat.find_spec h).2, fun k hk hlt hacts => ?_⟩
  exact Nat.find_min h hlt ⟨hk, hacts⟩

section Finite

variable {s t : σ} {events : List ε} {h : List (ε × List ω)}

/-- The state after some of the events, or all. -/
def stateAfter (step : σ → ε → Except φ (σ × List ω)) (s : σ) : List ε → Nat → σ
  | [], _ | _ :: _, 0 => s
  | e :: rest, n + 1 =>
      match step s e with
      | .ok (s', _) => stateAfter step s' rest n
      | .error _ => s

@[simp] theorem stateAfter_zero : stateAfter step s events 0 = s := by
  cases events <;> rfl

theorem stateAfter_end (hx : runAll step s events = .ok (h, t)) {n : Nat}
    (hn : events.length ≤ n) : stateAfter step s events n = t := by
  induction events generalizing s h n with
  | nil =>
      cases hx
      rfl
  | cons e rest ih =>
      rw [runAll] at hx
      split at hx
      · cases hx
      next s' o hs =>
        split at hx
        · cases hx
        next h' t' hrest =>
          cases hx
          obtain ⟨n, rfl⟩ := Nat.exists_eq_succ_of_ne_zero (Nat.ne_zero_of_lt hn)
          simp only [stateAfter, hs]
          exact ih hrest (Nat.le_of_succ_le_succ hn)

theorem stateAfter_step (hx : runAll step s events = .ok (h, t)) {n : Nat} {e : ε}
    (he : events[n]? = some e) :
    ∃ o, step (stateAfter step s events n) e = .ok (stateAfter step s events (n + 1), o) := by
  induction events generalizing s h n with
  | nil => cases he
  | cons e' rest ih =>
      rw [runAll] at hx
      split at hx
      · cases hx
      next s' o hs =>
        split at hx
        · cases hx
        next h' t' hrest =>
          cases hx
          cases n with
          | zero =>
              cases he
              refine ⟨o, ?_⟩
              simp only [stateAfter, hs, stateAfter_zero]
          | succ n =>
              simp only [stateAfter, hs]
              exact ih hrest he

/-- Takes the events, and stands still. -/
def ofRun (hx : runAll step s events = .ok (h, t)) : Execution step fun _ _ => True where
  state := stateAfter step s events
  event n := events[n]?
  still n hn := by
    have hend := List.getElem?_eq_none_iff.mp hn
    rw [stateAfter_end hx hend, stateAfter_end hx (Nat.le_succ_of_le hend)]
  goes _ _ he := ⟨trivial, stateAfter_step hx he⟩

/-- A thread that can do nothing at the end is not treated unfairly. -/
theorem ofRun_fair (hx : runAll step s events = .ok (h, t)) (hend : ¬ Enabled step Own t) :
    (ofRun hx).Fair Own := by
  intro n henabled
  have hlate := henabled (max n events.length) (le_max_left _ _)
  rw [show (ofRun hx).state (max n events.length) = t from
    stateAfter_end hx (le_max_right _ _)] at hlate
  exact absurd hlate hend

end Finite

end Execution

end Lib
