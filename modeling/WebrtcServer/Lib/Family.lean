/-
# `Lib.Family` — a family of systems, called one at a time

The members of a family are systems with one step function, each under a key
of its own, and a call is a step of one member.  `Calls step C f log g` says
that the calls of `log`, taken in order, lead from the members `f` to the
members `g`, with the condition `C` met at each.

However the calls are interleaved, each member lives a run of its own: the
calls of the log that go to it, in their order.  That is `Calls.run`, and it
takes everything known of the runs of one system to the family.
-/
import Mathlib.Logic.Function.Basic
import WebrtcServer.Lib.Runs

namespace Lib

variable {κ σ ε ω φ : Type*}

/-- A call of the member under `key`, with what came out. -/
structure Call (κ ε ω : Type*) where
  key : κ
  event : ε
  out : List ω

inductive Calls [DecidableEq κ] (step : σ → ε → Except φ (σ × List ω)) (C : σ → ε → Prop) :
    (κ → Option σ) → List (Call κ ε ω) → (κ → Option σ) → Prop
  | nil (f : κ → Option σ) : Calls step C f [] f
  | cons {f g : κ → Option σ} {key : κ} {s s' : σ} {e : ε} {out : List ω}
      {log : List (Call κ ε ω)} :
      f key = some s → C s e → step s e = .ok (s', out) →
      Calls step C (Function.update f key (some s')) log g →
      Calls step C f (⟨key, e, out⟩ :: log) g

/-- The calls of one member, as a history. -/
def own [DecidableEq κ] (key : κ) (log : List (Call κ ε ω)) : List (ε × List ω) :=
  log.filterMap fun c => if c.key = key then some (c.event, c.out) else none

section Own

variable [DecidableEq κ]

@[simp] theorem own_nil (key : κ) : own key ([] : List (Call κ ε ω)) = [] := rfl

@[simp] theorem own_append (key : κ) (log log' : List (Call κ ε ω)) :
    own key (log ++ log') = own key log ++ own key log' := List.filterMap_append

theorem own_cons_self (key : κ) (e : ε) (out : List ω) (log : List (Call κ ε ω)) :
    own key (⟨key, e, out⟩ :: log) = (e, out) :: own key log := by
  simp [own]

theorem own_cons_ne {key key' : κ} (hne : key' ≠ key) (e : ε) (out : List ω)
    (log : List (Call κ ε ω)) : own key (⟨key', e, out⟩ :: log) = own key log := by
  simp [own, hne]

theorem mem_own {c : Call κ ε ω} {log : List (Call κ ε ω)} (hc : c ∈ log) :
    (c.event, c.out) ∈ own c.key log :=
  List.mem_filterMap.mpr ⟨c, hc, if_pos rfl⟩

theorem mem_outputs_own {key : κ} {log : List (Call κ ε ω)} {o : ω} :
    o ∈ outputs (own key log) ↔ ∃ c ∈ log, c.key = key ∧ o ∈ c.out := by
  simp only [outputs, own, List.mem_flatMap, List.mem_filterMap, Option.ite_none_right_eq_some,
    Option.some.injEq]
  constructor
  · rintro ⟨-, ⟨c, hc, hkey, rfl⟩, ho⟩
    exact ⟨c, hc, hkey, ho⟩
  · rintro ⟨c, hc, hkey, ho⟩
    exact ⟨_, ⟨c, hc, hkey, rfl⟩, ho⟩

end Own

namespace Calls

variable [DecidableEq κ] {step : σ → ε → Except φ (σ × List ω)} {C : σ → ε → Prop}
  {f g k : κ → Option σ} {log log' : List (Call κ ε ω)} {key : κ} {s : σ}

theorem single {s' : σ} {e : ε} {out : List ω} (hs : f key = some s) (hc : C s e)
    (hstep : step s e = .ok (s', out)) :
    Calls step C f [⟨key, e, out⟩] (Function.update f key (some s')) :=
  .cons hs hc hstep (.nil _)

theorem trans (h : Calls step C f log g) (h' : Calls step C g log' k) :
    Calls step C f (log ++ log') k := by
  induction h with
  | nil => exact h'
  | cons hs hc hstep _ ih => exact .cons hs hc hstep (ih h')

/-- Calls can be cut anywhere. -/
theorem cut (h : Calls step C f (log ++ log') g) :
    ∃ k, Calls step C f log k ∧ Calls step C k log' g := by
  induction log generalizing f with
  | nil => exact ⟨f, .nil f, h⟩
  | cons c log ih =>
      cases h with
      | cons hs hc hstep hrest =>
          obtain ⟨k, hk, hk'⟩ := ih hrest
          exact ⟨k, .cons hs hc hstep hk, hk'⟩

/-- What is called is a member. -/
theorem member (h : Calls step C f log g) : ∀ c ∈ log, (f c.key).isSome = true := by
  induction h with
  | nil => simp
  | @cons f g key s s' e out log hs _ _ _ ih =>
      refine List.forall_mem_cons.mpr ⟨by simp [hs], ?_⟩
      intro c hc
      have hnext := ih c hc
      by_cases heq : c.key = key
      · simp [heq, hs]
      · rwa [Function.update_of_ne heq] at hnext

/-- A member lives a run of its own. -/
theorem run (h : Calls step C f log g) (hs : f key = some s) :
    ∃ s', g key = some s' ∧ Run step C s (own key log) s' := by
  induction h generalizing s with
  | nil => exact ⟨s, hs, .nil⟩
  | @cons f g key' t t' e out log ht hc hstep _ ih =>
      by_cases heq : key' = key
      · subst heq
        obtain rfl : t = s := Option.some.inj (ht.symm.trans hs)
        obtain ⟨s', hg, hr⟩ := ih (Function.update_self ..)
        refine ⟨s', hg, ?_⟩
        rw [own_cons_self]
        exact .cons hc hstep hr
      · rw [own_cons_ne heq]
        exact ih (by rwa [Function.update_of_ne (Ne.symm heq)])

end Calls

end Lib
