/-
# `Lib.Checked` — calls that return, refuse or throw

A function of the source that reads untrusted input ends in one of three
ways: with a value, with an early `return false`, or with an exception.
`Checked` is the type of these outcomes; the first refusal or exception
ends a sequence of calls.  The rules say of each way of putting calls
together when the whole gives a value and when it throws.  A call that
never refuses is one of `Except`; `Returns` says that it gives a value.
-/
import Mathlib.Logic.Basic

namespace Lib

inductive Checked (ε α : Type) where
  | value (a : α)
  | refused
  | threw (e : ε)

namespace Checked

variable {ε α β σ : Type}

protected def bind : Checked ε α → (α → Checked ε β) → Checked ε β
  | .value a, f => f a
  | .refused, _ => .refused
  | .threw e, _ => .threw e

instance : Monad (Checked ε) where
  pure := .value
  bind := Checked.bind

/-- `if (!c) return false;` -/
def require (c : Bool) : Checked ε Unit := if c then .value () else .refused

/-- A call that has no refusal. -/
def ofExcept : Except ε α → Checked ε α
  | .ok a => .value a
  | .error e => .threw e

def Throws (x : Checked ε α) : Prop := ∃ e, x = .threw e

@[simp] theorem pure_eq (a : α) : (pure a : Checked ε α) = .value a := rfl

@[simp] theorem value_bind (a : α) (f : α → Checked ε β) : (Checked.value a >>= f) = f a := rfl

@[simp] theorem refused_bind (f : α → Checked ε β) :
    ((Checked.refused : Checked ε α) >>= f) = .refused := rfl

@[simp] theorem threw_bind (e : ε) (f : α → Checked ε β) :
    (Checked.threw e >>= f) = .threw e := rfl

@[simp] theorem require_true : (require true : Checked ε Unit) = .value () := rfl

@[simp] theorem require_false : (require false : Checked ε Unit) = .refused := rfl

@[simp] theorem ofExcept_ok (a : α) : (ofExcept (.ok a) : Checked ε α) = .value a := rfl

@[simp] theorem ofExcept_error (e : ε) : (ofExcept (.error e) : Checked ε α) = .threw e := rfl

@[simp] theorem throws_threw (e : ε) : Throws (.threw e : Checked ε α) := ⟨e, rfl⟩

@[simp] theorem not_throws_value (a : α) : ¬ Throws (.value a : Checked ε α) := by
  rintro ⟨e, h⟩
  cases h

@[simp] theorem not_throws_refused : ¬ Throws (.refused : Checked ε α) := by
  rintro ⟨e, h⟩
  cases h

/-- An exception ends the sequence. -/
theorem Throws.bind {x : Checked ε α} (h : Throws x) (f : α → Checked ε β) :
    Throws (x >>= f) := by
  rcases h with ⟨e, rfl⟩
  exact ⟨e, rfl⟩

/-- What cannot throw adds no exception. -/
theorem throws_bind_iff {x : Checked ε α} {f : α → Checked ε β} (hf : ∀ a, ¬ Throws (f a)) :
    Throws (x >>= f) ↔ Throws x := by
  refine ⟨fun h => ?_, fun h => h.bind f⟩
  cases x with
  | value a => exact absurd h (hf a)
  | refused => exact absurd h not_throws_refused
  | threw e => exact throws_threw e

theorem not_throws_require_bind {c : Bool} {x : Checked ε α} (hx : ¬ Throws x) :
    ¬ Throws (require c >>= fun _ => x) := by
  cases c with
  | true => exact hx
  | false => exact not_throws_refused

/-! ## Calls that give a value -/

theorem bind_eq_value {x : Checked ε α} {f : α → Checked ε β} {b : β} :
    (x >>= f) = .value b ↔ ∃ a, x = .value a ∧ f a = .value b := by
  cases x with
  | value a =>
      constructor
      · intro h
        exact ⟨a, rfl, h⟩
      · rintro ⟨a', ha, h⟩
        cases ha
        exact h
  | refused =>
      constructor
      · intro h
        cases h
      · rintro ⟨a, ha, -⟩
        cases ha
  | threw e =>
      constructor
      · intro h
        cases h
      · rintro ⟨a, ha, -⟩
        cases ha

@[simp] theorem value_eq_value {a b : α} : (Checked.value a : Checked ε α) = .value b ↔ a = b :=
  ⟨fun h => by cases h; rfl, fun h => by rw [h]⟩

theorem ofExcept_eq_value {x : Except ε α} {a : α} :
    (ofExcept x : Checked ε α) = .value a ↔ x = .ok a := by
  cases x with
  | ok b => rw [ofExcept_ok, value_eq_value, Except.ok.injEq]
  | error e =>
      constructor
      · intro h
        cases h
      · intro h
        cases h

theorem require_eq_value {c : Bool} {u : Unit} :
    (require c : Checked ε Unit) = .value u ↔ c = true := by
  cases c with
  | true => exact ⟨fun _ => rfl, fun _ => rfl⟩
  | false =>
      constructor
      · intro h
        cases h
      · intro h
        cases h

/-! ## Loops

`Good x` says that an item can be read, whatever the loop has gathered so
far. -/

variable {f : σ → α → Checked ε σ} {g : σ → α → σ} {Good : α → Prop} {l : List α}

theorem foldlM_value (hgood : ∀ s, ∀ x ∈ l, f s x = .value (g s x)) (s : σ) :
    l.foldlM f s = .value (l.foldl g s) := by
  induction l generalizing s with
  | nil => rfl
  | cons x l ih =>
      rw [List.foldlM_cons, hgood s x List.mem_cons_self, value_bind, List.foldl_cons]
      exact ih (fun s y hy => hgood s y (List.mem_cons_of_mem _ hy)) (g s x)

/-- The loop throws at the first item that cannot be read. -/
theorem foldlM_throws (hgood : ∀ s, ∀ x ∈ l, Good x → f s x = .value (g s x))
    (hbad : ∀ s x, ¬ Good x → Throws (f s x)) (h : ∃ x ∈ l, ¬ Good x) (s : σ) :
    Throws (l.foldlM f s) := by
  induction l generalizing s with
  | nil =>
      rcases h with ⟨x, hx, -⟩
      cases hx
  | cons x l ih =>
      rw [List.foldlM_cons]
      by_cases hx : Good x
      · rw [hgood s x List.mem_cons_self hx, value_bind]
        refine ih (fun s y hy => hgood s y (List.mem_cons_of_mem _ hy)) ?_ (g s x)
        rcases h with ⟨y, hy, hbad⟩
        rcases List.mem_cons.mp hy with rfl | hy
        · exact absurd hx hbad
        · exact ⟨y, hy, hbad⟩
      · exact (hbad s x hx).bind _

end Checked

/-! ## Calls that do not refuse -/

section

variable {ε α β : Type}

def Returns (x : Except ε α) : Prop := ∃ a, x = .ok a

@[simp] theorem returns_ok (a : α) : Returns (.ok a : Except ε α) := ⟨a, rfl⟩

@[simp] theorem not_returns_error (e : ε) : ¬ Returns (.error e : Except ε α) := by
  rintro ⟨a, h⟩
  cases h

theorem bind_eq_ok {x : Except ε α} {f : α → Except ε β} {b : β} :
    (x >>= f) = .ok b ↔ ∃ a, x = .ok a ∧ f a = .ok b := by
  cases x with
  | ok a =>
      constructor
      · intro h
        exact ⟨a, rfl, h⟩
      · rintro ⟨a', ha, h⟩
        cases ha
        exact h
  | error e =>
      constructor
      · intro h
        cases h
      · rintro ⟨a, ha, -⟩
        cases ha

theorem returns_bind {x : Except ε α} {f : α → Except ε β} :
    Returns (x >>= f) ↔ ∃ a, x = .ok a ∧ Returns (f a) := by
  constructor
  · rintro ⟨b, hb⟩
    rcases bind_eq_ok.mp hb with ⟨a, ha, hf⟩
    exact ⟨a, ha, b, hf⟩
  · rintro ⟨a, ha, b, hf⟩
    exact ⟨b, bind_eq_ok.mpr ⟨a, ha, hf⟩⟩

/-- What always returns adds no condition. -/
theorem returns_bind_iff {x : Except ε α} {f : α → Except ε β} (hf : ∀ a, Returns (f a)) :
    Returns (x >>= f) ↔ Returns x := by
  rw [returns_bind]
  constructor
  · rintro ⟨a, ha, -⟩
    exact ⟨a, ha⟩
  · rintro ⟨a, ha⟩
    exact ⟨a, ha, hf a⟩

end

end Lib
