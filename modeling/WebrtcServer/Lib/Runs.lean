/-
# `Lib.Runs` — runs of a fallible step function, with their history

A system here is a step function `step : σ → ε → Except φ (σ × List ω)`:
a state and an event give either a fault `φ`, which ends the run, or the
next state and the outputs of the step.  `Run step C s₀ h s` says that the
events of the history `h`, taken in order from `s₀`, each meet the
condition `C` in the state they find, that no step of them faults, and
that they end in `s`.

The history is part of the relation because the properties proved over
runs speak of the past: what was sent before, which keys were added.  An
invariant is therefore a relation between a history and a state, and
`Run.invariant` is the only induction over runs that a development needs.
-/
import Mathlib.Data.List.Basic

namespace Lib

variable {σ ε ω φ : Type*}

/-- The runs of `step` from `s₀` whose steps all meet `C`, indexed by the
events with their outputs and by the state reached. -/
inductive Run (step : σ → ε → Except φ (σ × List ω)) (C : σ → ε → Prop) (s₀ : σ) :
    List (ε × List ω) → σ → Prop
  | nil : Run step C s₀ [] s₀
  | snoc {h : List (ε × List ω)} {s s' : σ} {e : ε} {o : List ω} :
      Run step C s₀ h s → C s e → step s e = .ok (s', o) →
      Run step C s₀ (h ++ [(e, o)]) s'

namespace Run

variable {step : σ → ε → Except φ (σ × List ω)} {C D : σ → ε → Prop} {s₀ : σ}

/-- What holds at the start and survives every step holds after every run. -/
theorem invariant {I : List (ε × List ω) → σ → Prop} (hinit : I [] s₀)
    (hstep : ∀ h s e s' o, I h s → C s e → step s e = .ok (s', o) →
      I (h ++ [(e, o)]) s') {h : List (ε × List ω)} {s : σ}
    (hr : Run step C s₀ h s) : I h s := by
  induction hr with
  | nil => exact hinit
  | snoc _ hc hs ih => exact hstep _ _ _ _ _ ih hc hs

/-- A weaker condition admits more runs. -/
theorem mono (hCD : ∀ s e, C s e → D s e) {h : List (ε × List ω)} {s : σ}
    (hr : Run step C s₀ h s) : Run step D s₀ h s := by
  induction hr with
  | nil => exact .nil
  | snoc _ hc hs ih => exact .snoc ih (hCD _ _ hc) hs

/-- A condition that does not depend on the state is read off the history. -/
theorem of_events {h : List (ε × List ω)} {s : σ} (hr : Run step C s₀ h s)
    (hall : ∀ x ∈ h, ∀ t, D t x.1) : Run step D s₀ h s := by
  induction hr with
  | nil => exact .nil
  | @snoc h s s' e o _ _ hs ih =>
      exact .snoc (ih fun x hx => hall x (List.mem_append_left _ hx)) (hall (e, o) (by simp) s) hs

/-- A run goes on where another has ended. -/
theorem trans {h h' : List (ε × List ω)} {s s' : σ} (hr : Run step C s₀ h s)
    (hr' : Run step C s h' s') : Run step C s₀ (h ++ h') s' := by
  induction hr' with
  | nil => simpa using hr
  | snoc _ hc hs ih =>
      rw [← List.append_assoc]
      exact .snoc ih hc hs

theorem cons {h : List (ε × List ω)} {s s' : σ} {e : ε} {o : List ω} (hc : C s₀ e)
    (hs : step s₀ e = .ok (s, o)) (hr : Run step C s h s') : Run step C s₀ ((e, o) :: h) s' :=
  (Run.snoc .nil hc hs).trans hr

/-- A run can be cut anywhere. -/
theorem cut {h h' : List (ε × List ω)} {s : σ} (hr : Run step C s₀ (h ++ h') s) :
    ∃ t, Run step C s₀ h t ∧ Run step C t h' s := by
  generalize hh : h ++ h' = k at hr
  induction hr generalizing h' with
  | nil =>
      obtain ⟨rfl, rfl⟩ := List.append_eq_nil_iff.mp hh
      exact ⟨_, .nil, .nil⟩
  | @snoc k s₁ s₂ e o hr' hc hs ih =>
      rcases List.eq_nil_or_concat h' with rfl | ⟨h'', x, rfl⟩
      · rw [List.append_nil] at hh
        subst hh
        exact ⟨_, .snoc hr' hc hs, .nil⟩
      · have hsplit : (h ++ h'') ++ [x] = k ++ [(e, o)] := by
          simpa [List.concat_eq_append] using hh
        obtain ⟨hk, hx⟩ := List.append_inj' hsplit rfl
        obtain ⟨t, ht, ht'⟩ := ih hk
        cases hx
        refine ⟨t, ht, ?_⟩
        rw [List.concat_eq_append]
        exact .snoc ht' hc hs

/-- A history leads to one state. -/
theorem state_unique {h : List (ε × List ω)} {s t : σ} (hs : Run step C s₀ h s)
    (ht : Run step D s₀ h t) : s = t := by
  induction hs generalizing t with
  | nil =>
      generalize hh : ([] : List (ε × List ω)) = h at ht
      cases ht with
      | nil => rfl
      | snoc => exact absurd hh (by simp)
  | @snoc h s s' e o _ _ hstep ih =>
      generalize hh : h ++ [(e, o)] = h' at ht
      cases ht with
      | nil => exact absurd hh (by simp)
      | @snoc h'' v v' e' o' hv _ hstep' =>
          obtain ⟨rfl, heq⟩ := List.append_inj' hh rfl
          cases heq
          rw [ih hv, hstep'] at hstep
          exact (Prod.mk.inj (Except.ok.inj hstep)).1.symm

theorem last {h : List (ε × List ω)} {s : σ} {e : ε} {o : List ω}
    (hr : Run step C s₀ (h ++ [(e, o)]) s) :
    ∃ t, Run step C s₀ h t ∧ C t e ∧ step t e = .ok (s, o) := by
  generalize hh : h ++ [(e, o)] = k at hr
  cases hr with
  | nil => exact absurd hh (by simp)
  | snoc hr' hc hs =>
      obtain ⟨rfl, heq⟩ := List.append_inj' hh rfl
      cases heq
      exact ⟨_, hr', hc, hs⟩

theorem uncons {h : List (ε × List ω)} {s : σ} {e : ε} {o : List ω}
    (hr : Run step C s₀ ((e, o) :: h) s) :
    ∃ t, C s₀ e ∧ step s₀ e = .ok (t, o) ∧ Run step C t h s := by
  obtain ⟨t, hfirst, hrest⟩ := cut (h := [(e, o)]) hr
  obtain ⟨u, hu, hc, hs⟩ := last (h := []) hfirst
  obtain rfl : u = s₀ := hu.state_unique (D := C) .nil
  exact ⟨t, hc, hs, hrest⟩

/-- Every step of a run starts in a state that the events before it reach. -/
theorem step_at {pre post : List (ε × List ω)} {e : ε} {o : List ω} {s : σ}
    (hr : Run step C s₀ (pre ++ (e, o) :: post) s) :
    ∃ t t', Run step C s₀ pre t ∧ C t e ∧ step t e = .ok (t', o) := by
  obtain ⟨t, hpre, hpost⟩ := hr.cut
  obtain ⟨t', hc, hs, -⟩ := hpost.uncons
  exact ⟨t, t', hpre, hc, hs⟩

end Run

/-- Takes the events in order, and stops at a fault. -/
def runAll (step : σ → ε → Except φ (σ × List ω)) (s : σ) :
    List ε → Except φ (List (ε × List ω) × σ)
  | [] => .ok ([], s)
  | e :: rest =>
      match step s e with
      | .error f => .error f
      | .ok (s', o) =>
          match runAll step s' rest with
          | .error f => .error f
          | .ok (h, t) => .ok ((e, o) :: h, t)

/-- What can be computed is a run. -/
theorem run_of_runAll (step : σ → ε → Except φ (σ × List ω)) (s : σ) (events : List ε)
    {h : List (ε × List ω)} {t : σ} (hx : runAll step s events = .ok (h, t)) :
    Run step (fun _ _ => True) s h t ∧ h.map Prod.fst = events := by
  induction events generalizing s h with
  | nil =>
      cases hx
      exact ⟨.nil, rfl⟩
  | cons e rest ih =>
      rw [runAll] at hx
      split at hx
      · cases hx
      · rename_i s' o hs
        split at hx
        · cases hx
        · rename_i h' t' hrest
          cases hx
          obtain ⟨hr, hfst⟩ := ih s' hrest
          exact ⟨.cons trivial hs hr, by rw [List.map_cons, hfst]⟩

/-- One more event at the end. -/
theorem runAll_snoc {step : σ → ε → Except φ (σ × List ω)} {s t u : σ} {events : List ε}
    {h : List (ε × List ω)} (hx : runAll step s events = .ok (h, t)) {e : ε} {o : List ω}
    (hs : step t e = .ok (u, o)) : runAll step s (events ++ [e]) = .ok (h ++ [(e, o)], u) := by
  induction events generalizing s h with
  | nil =>
      cases hx
      simp only [List.nil_append, runAll, hs]
  | cons e' rest ih =>
      rw [runAll] at hx
      split at hx
      · cases hx
      next s' o' hfirst =>
        split at hx
        · cases hx
        next h' t' hrest =>
          cases hx
          simp only [List.cons_append, runAll, hfirst, ih hrest]

/-- Events taken in two parts. -/
theorem runAll_append {step : σ → ε → Except φ (σ × List ω)} {s u : σ} {events events' : List ε}
    {h : List (ε × List ω)} (hx : runAll step s (events ++ events') = .ok (h, u)) :
    ∃ h₁ h₂ t, runAll step s events = .ok (h₁, t) ∧ runAll step t events' = .ok (h₂, u) ∧
      h = h₁ ++ h₂ := by
  induction events generalizing s h with
  | nil => exact ⟨[], h, s, rfl, hx, rfl⟩
  | cons e rest ih =>
      rw [List.cons_append, runAll] at hx
      split at hx
      · cases hx
      next s' o hs =>
        split at hx
        · cases hx
        next h' t' hrest =>
          cases hx
          obtain ⟨h₁, h₂, t, hfirst, hsecond, rfl⟩ := ih hrest
          exact ⟨(e, o) :: h₁, h₂, t, by simp only [runAll, hs, hfirst], hsecond, rfl⟩

/-- A list cut at an element, and one more element at the end: the cut is
there, or in the list before. -/
theorem split_concat {α : Type*} {l before after : List α} {x m : α}
    (h : l ++ [m] = before ++ x :: after) :
    (after = [] ∧ before = l ∧ x = m) ∨ ∃ after', after = after' ++ [m] ∧
      l = before ++ x :: after' := by
  rcases List.eq_nil_or_concat after with rfl | ⟨after', y, rfl⟩
  · obtain ⟨rfl, hx⟩ := List.append_inj' h rfl
    exact Or.inl ⟨rfl, rfl, (List.singleton_inj.mp hx).symm⟩
  · rw [List.concat_eq_append, ← List.cons_append, ← List.append_assoc] at h
    obtain ⟨rfl, hy⟩ := List.append_inj' h rfl
    rw [List.singleton_inj.mp hy]
    exact Or.inr ⟨after', List.concat_eq_append, rfl⟩

/-- The outputs of a whole history, in order. -/
def outputs (h : List (ε × List ω)) : List ω := h.flatMap Prod.snd

@[simp] theorem outputs_nil : outputs ([] : List (ε × List ω)) = [] := rfl

theorem outputs_append (h h' : List (ε × List ω)) :
    outputs (h ++ h') = outputs h ++ outputs h' := List.flatMap_append

theorem outputs_cons (x : ε × List ω) (h : List (ε × List ω)) :
    outputs (x :: h) = x.2 ++ outputs h := rfl

@[simp] theorem outputs_snoc (h : List (ε × List ω)) (x : ε × List ω) :
    outputs (h ++ [x]) = outputs h ++ x.2 := by
  simp [outputs]

end Lib
