/-
# `Lib.Lifetime` — blocks behind raw pointers

An object holds some raw pointers, named by `ι`, and each owns the block it
points to.  Three things can go wrong: a null pointer is used, a pointer is
used or freed whose block has been freed before, and the last pointer to a
block is overwritten.  A fourth does not take a pointer: a variable is read
before it was written.  `Misuse` says which of them ended a sequence of
calls.

A destructor frees what it finds behind each pointer, one after the other;
behind some it writes null, and others it leaves as they are.  `destroy`
is that loop: it goes through exactly when no pointer dangles, and then no
block is left.
-/
import WebrtcServer.Lib.Checked
import Mathlib.Logic.Function.Basic
import Mathlib.Data.List.Basic

namespace Lib

inductive Pointer where
  | null
  | live
  /-- The block is freed, and the pointer still has its address. -/
  | dangling
deriving DecidableEq

/-- What an allocation answers. -/
def Pointer.allocated (found : Bool) : Pointer := if found then .live else .null

theorem Pointer.allocated_ne_dangling (found : Bool) : allocated found ≠ .dangling := by
  cases found <;> decide

inductive Misuse (ι : Type) where
  | null (p : ι)
  | dangling (p : ι)
  /-- There is no pointer to the block any more. -/
  | lost (p : ι)
  /-- A variable is read to which nothing was written. -/
  | unwritten

abbrev Pointers (ι : Type) : Type := ι → Pointer

theorem ok_bind {ε α β : Type} (a : α) (f : α → Except ε β) : (Except.ok a >>= f) = f a := rfl

namespace Pointers

variable {ι : Type}

/-- A call that works on the block. -/
def use (s : Pointers ι) (p : ι) : Except (Misuse ι) Unit :=
  match s p with
  | .null => .error (.null p)
  | .live => .ok ()
  | .dangling => .error (.dangling p)

theorem use_ok_iff {s : Pointers ι} {p : ι} : s.use p = .ok () ↔ s p = .live := by
  constructor
  · intro h
    cases hp : s p with
    | null =>
        rw [use, hp] at h
        cases h
    | live => rfl
    | dangling =>
        rw [use, hp] at h
        cases h
  · intro h
    rw [use, h]

variable [DecidableEq ι] {s s' : Pointers ι} {p q : ι} {l : List ι} {keeps : ι → Bool}

/-- `p = allocate()` -/
def assign (s : Pointers ι) (p : ι) (found : Bool) : Except (Misuse ι) (Pointers ι) :=
  if s p = .live then .error (.lost p)
  else .ok (Function.update s p (.allocated found))

/-- `if (p) free(p);` -/
def free (s : Pointers ι) (p : ι) : Except (Misuse ι) (Pointers ι) :=
  match s p with
  | .null => .ok s
  | .live => .ok (Function.update s p .dangling)
  | .dangling => .error (.dangling p)

/-- `if (p) { free(p); p = nullptr; }` -/
def release (s : Pointers ι) (p : ι) : Except (Misuse ι) (Pointers ι) :=
  if s p = .dangling then .error (.dangling p) else .ok (Function.update s p .null)

/-- The block passes to another owner. -/
def give (s : Pointers ι) (p : ι) : Except (Misuse ι) (Pointers ι) := do
  s.use p
  return Function.update s p .null

/-- Local pointers come to the end of their scope. -/
def leave (l : List ι) (s : Pointers ι) : Except (Misuse ι) (Pointers ι) :=
  match l.find? (s · = .live) with
  | some p => .error (.lost p)
  | none => .ok fun p => if p ∈ l then .null else s p

/-- The frees of a destructor, in order.  `keeps` says which pointers it
leaves as they are. -/
def destroy (keeps : ι → Bool) (l : List ι) (s : Pointers ι) : Except (Misuse ι) (Pointers ι) :=
  l.foldlM (fun s p => if keeps p then s.free p else s.release p) s

/-- What is left behind. -/
def afterDestroy (keeps : ι → Bool) (l : List ι) (s : Pointers ι) : Pointers ι := fun p =>
  if p ∈ l then (if keeps p ∧ s p = .live then .dangling else .null) else s p

theorem assign_of_not_live (h : s p ≠ .live) (found : Bool) :
    s.assign p found = .ok (Function.update s p (.allocated found)) :=
  if_neg h

theorem give_of_live (h : s p = .live) : s.give p = .ok (Function.update s p .null) := by
  rw [give, use_ok_iff.mpr h]
  rfl

theorem leave_of_not_live (h : ∀ p ∈ l, s p ≠ .live) :
    leave l s = .ok fun p => if p ∈ l then .null else s p := by
  have hnone : l.find? (s · = .live) = none := by
    rw [List.find?_eq_none]
    intro p hp hlive
    exact h p hp (of_decide_eq_true hlive)
  rw [leave, hnone]

theorem release_of_not_dangling (h : s p ≠ .dangling) :
    s.release p = .ok (Function.update s p .null) :=
  if_neg h

/-! ## Destructors -/

/-- One of the frees: nothing else is touched. -/
theorem destroy_step_ok (h : (if keeps p then s.free p else s.release p) = .ok s') :
    s p ≠ .dangling ∧
      s' = Function.update s p (if keeps p ∧ s p = .live then .dangling else .null) := by
  cases hp : s p with
  | null =>
      refine ⟨by decide, ?_⟩
      split at h
      · rw [free, hp] at h
        cases h
        rw [if_neg (by simp), ← hp, Function.update_eq_self]
      · rw [release_of_not_dangling (by simp [hp])] at h
        cases h
        rw [if_neg (by simp)]
  | live =>
      refine ⟨by decide, ?_⟩
      split at h
      next hk =>
        rw [free, hp] at h
        cases h
        rw [if_pos ⟨hk, rfl⟩]
      next hk =>
        rw [release_of_not_dangling (by simp [hp])] at h
        cases h
        rw [if_neg fun hkeep => hk hkeep.1]
  | dangling =>
      split at h
      · rw [free, hp] at h
        cases h
      · rw [release, if_pos hp] at h
        cases h

theorem destroy_step_of_not_dangling (h : s p ≠ .dangling) :
    (if keeps p then s.free p else s.release p) =
      .ok (Function.update s p (if keeps p ∧ s p = .live then .dangling else .null)) := by
  have hex : ∃ s', (if keeps p then s.free p else s.release p) = .ok s' := by
    split
    · rw [free]
      cases hp : s p with
      | null => exact ⟨_, rfl⟩
      | live => exact ⟨_, rfl⟩
      | dangling => exact absurd hp h
    · exact ⟨_, release_of_not_dangling h⟩
  obtain ⟨s', hs'⟩ := hex
  rw [hs', (destroy_step_ok hs').2]

/-- The frees go through exactly when no pointer dangles. -/
theorem destroy_eq_ok_iff (hnodup : l.Nodup) :
    destroy keeps l s = .ok s' ↔ (∀ p ∈ l, s p ≠ .dangling) ∧ s' = afterDestroy keeps l s := by
  induction l generalizing s with
  | nil =>
      constructor
      · intro h
        cases h
        exact ⟨fun p hp => absurd hp List.not_mem_nil, rfl⟩
      · rintro ⟨-, rfl⟩
        rfl
  | cons p l ih =>
      obtain ⟨hp, hl⟩ := List.nodup_cons.mp hnodup
      -- behind the first free the other pointers are as they were
      have hother : ∀ q ∈ l, ∀ x, Function.update s p x q = s q := fun q hq x =>
        Function.update_of_ne (ne_of_mem_of_not_mem hq hp) x s
      have hafter : ∀ x, x = (if keeps p ∧ s p = .live then .dangling else .null) →
          afterDestroy keeps l (Function.update s p x) = afterDestroy keeps (p :: l) s := by
        intro x hx
        funext q
        by_cases hql : q ∈ l
        · rw [afterDestroy, afterDestroy, if_pos hql, if_pos (List.mem_cons_of_mem _ hql),
            hother q hql]
        · rw [afterDestroy, afterDestroy, if_neg hql]
          by_cases hqp : q = p
          · subst hqp
            rw [Function.update_self, if_pos List.mem_cons_self, hx]
          · rw [Function.update_of_ne hqp,
              if_neg fun h => (List.mem_cons.mp h).elim hqp hql]
      rw [destroy, List.foldlM_cons]
      constructor
      · intro h
        cases hstep : (if keeps p then s.free p else s.release p) with
        | error e =>
            rw [hstep] at h
            cases h
        | ok t =>
            rw [hstep] at h
            obtain ⟨hfirst, rfl⟩ := destroy_step_ok hstep
            obtain ⟨hrest, rfl⟩ := (ih hl).mp h
            refine ⟨?_, hafter _ rfl⟩
            intro q hq
            rcases List.mem_cons.mp hq with rfl | hq
            · exact hfirst
            · exact hother q hq _ ▸ hrest q hq
      · rintro ⟨hclean, rfl⟩
        rw [destroy_step_of_not_dangling (hclean p List.mem_cons_self)]
        refine (ih hl).mpr ⟨fun q hq => ?_, (hafter _ rfl).symm⟩
        rw [hother q hq]
        exact hclean q (List.mem_cons_of_mem _ hq)

theorem destroy_of_clean (hnodup : l.Nodup) (hclean : ∀ p ∈ l, s p ≠ .dangling) :
    destroy keeps l s = .ok (afterDestroy keeps l s) :=
  (destroy_eq_ok_iff hnodup).mpr ⟨hclean, rfl⟩

/-- No block outlives the object. -/
theorem afterDestroy_not_live (hp : p ∈ l) : afterDestroy keeps l s p ≠ .live := by
  rw [afterDestroy, if_pos hp]
  split
  · decide
  · decide

end Pointers

end Lib
