/-
# `Lib.Loop` — a `while` loop that can leave early

`whileLoop more body fuel s` runs `body` while `more` holds.  The body
either gives the next state or leaves the surrounding function with an
error value.  `Turns s t` says that the loop, started in `s`, comes to its
head in `t`.

When a measure bounded by the fuel goes down in every turn, the fuel plays
no part: the loop ends in `t` exactly when it comes to `t` and `more` fails
there (`whileLoop_eq_ok_iff`), and it leaves with `e` exactly when it comes
to a state whose turn does (`whileLoop_eq_error_iff`).
-/
import Mathlib.Logic.Relation

namespace Lib

variable {σ φ : Type*}

def whileLoop (more : σ → Bool) (body : σ → Except φ σ) : Nat → σ → Except φ σ
  | 0, s => .ok s
  | fuel + 1, s =>
      if more s then
        match body s with
        | .error e => .error e
        | .ok s' => whileLoop more body fuel s'
      else .ok s

theorem whileLoop_of_not_more {more : σ → Bool} {body : σ → Except φ σ} {fuel : Nat} {s : σ}
    (h : more s = false) : whileLoop more body fuel s = .ok s := by
  cases fuel with
  | zero => rfl
  | succ fuel => simp only [whileLoop, h, Bool.false_eq_true, if_false]

theorem whileLoop_of_turn {more : σ → Bool} {body : σ → Except φ σ} {fuel : Nat} {s s' : σ}
    (hm : more s = true) (hb : body s = .ok s') :
    whileLoop more body (fuel + 1) s = whileLoop more body fuel s' := by
  simp only [whileLoop, hm, hb, if_true]

/-- How the loop is left: `P` of the state at its end or `Q` of the error. -/
def Leaves (P : σ → Prop) (Q : φ → Prop) : Except φ σ → Prop
  | .ok t => P t
  | .error e => Q e

/-- One turn that stays in the loop. -/
def Turn (more : σ → Bool) (body : σ → Except φ σ) (s t : σ) : Prop :=
  more s = true ∧ body s = .ok t

/-- The states in which the loop comes to its head. -/
def Turns (more : σ → Bool) (body : σ → Except φ σ) : σ → σ → Prop :=
  Relation.ReflTransGen (Turn more body)

/-- The measure `μ` bounds the turns left from every state of `I`, and the
turns stay in `I`. -/
structure Bounded (more : σ → Bool) (body : σ → Except φ σ) (I : σ → Prop) (μ : σ → Nat) :
    Prop where
  pos : ∀ s, I s → more s = true → 0 < μ s
  next : ∀ s t, I s → Turn more body s t → I t ∧ μ t < μ s

section Rules

variable {more : σ → Bool} {body : σ → Except φ σ} {I : σ → Prop} {μ : σ → Nat}

/-- Turns whose states are known are taken at once. -/
theorem whileLoop_of_states {st : Nat → σ} {n : Nat}
    (h : ∀ k < n, Turn more body (st k) (st (k + 1))) (fuel : Nat) :
    whileLoop more body (fuel + n) (st 0) = whileLoop more body fuel (st n) := by
  induction n generalizing fuel with
  | zero => rfl
  | succ n ih =>
      have hn := h n (Nat.lt_succ_self n)
      rw [show fuel + (n + 1) = (fuel + 1) + n from by omega, ih (fun k hk => h k (by omega)),
        whileLoop_of_turn hn.1 hn.2]

theorem Turns.invariant (hI : ∀ s t, I s → Turn more body s t → I t) {s t : σ}
    (h : Turns more body s t) (hs : I s) : I t := by
  induction h with
  | refl => exact hs
  | tail _ hturn ih => exact hI _ _ ih hturn

/-- What every turn keeps holds where the loop ends. -/
theorem whileLoop_invariant (hI : ∀ s t, I s → Turn more body s t → I t) {fuel : Nat} {s t : σ}
    (hs : I s) (h : whileLoop more body fuel s = .ok t) : I t := by
  induction fuel generalizing s with
  | zero =>
      cases h
      exact hs
  | succ fuel ih =>
      simp only [whileLoop] at h
      split at h
      next hm =>
        cases hb : body s with
        | error e => rw [hb] at h; cases h
        | ok s' =>
            rw [hb] at h
            exact ih (hI s s' hs ⟨hm, hb⟩) h
      next =>
        cases h
        exact hs

/-- What every turn keeps holds where the loop ends, and what it comes to in
a turn that leaves holds where it leaves. -/
theorem whileLoop_leaves {Q : φ → Prop} (hI : ∀ s t, I s → Turn more body s t → I t)
    (hQ : ∀ s e, I s → more s = true → body s = .error e → Q e) {fuel : Nat} {s : σ} (hs : I s) :
    Leaves I Q (whileLoop more body fuel s) := by
  induction fuel generalizing s with
  | zero => exact hs
  | succ fuel ih =>
      simp only [whileLoop]
      split
      next hm =>
        cases hb : body s with
        | error e => exact hQ s e hs hm hb
        | ok s' => exact ih (hI s s' hs ⟨hm, hb⟩)
      next => exact hs

/-- The first turn of several. -/
theorem turns_head_iff {s t : σ} :
    Turns more body s t ↔ t = s ∨ ∃ u, Turn more body s u ∧ Turns more body u t := by
  constructor
  · intro h
    rcases h.cases_head with rfl | ⟨u, hu, hut⟩
    · exact Or.inl rfl
    · exact Or.inr ⟨u, hu, hut⟩
  · rintro (rfl | ⟨u, hu, hut⟩)
    · exact .refl
    · exact .head hu hut

theorem turns_of_not_more {s t : σ} (hs : more s = false) (h : Turns more body s t) : t = s := by
  rcases turns_head_iff.mp h with rfl | ⟨u, hu, -⟩
  · rfl
  · exact absurd hu.1 (by simp [hs])

theorem turns_of_error {s t : σ} {e : φ} (hb : body s = .error e) (h : Turns more body s t) :
    t = s := by
  rcases turns_head_iff.mp h with rfl | ⟨u, hu, -⟩
  · rfl
  · exact absurd hu.2 (by simp [hb])

theorem turns_of_ok {s s' t : σ} (hm : more s = true) (hb : body s = .ok s') :
    Turns more body s t ↔ t = s ∨ Turns more body s' t := by
  rw [turns_head_iff]
  constructor
  · rintro (rfl | ⟨u, hu, hut⟩)
    · exact Or.inl rfl
    · obtain rfl : s' = u := by simpa [hb] using hu.2
      exact Or.inr hut
  · rintro (rfl | hut)
    · exact Or.inl rfl
    · exact Or.inr ⟨s', ⟨hm, hb⟩, hut⟩

theorem Bounded.stopped (hμ : Bounded more body I μ) {s : σ} (hs : I s) (hz : μ s ≤ 0) :
    more s = false := by
  refine Bool.eq_false_iff.mpr ?_
  intro hm
  have := hμ.pos s hs hm
  omega

/-- A loop that has stopped comes to no further turn. -/
theorem turn_free_of_not_more {s : σ} (hm : more s = false) (S : σ → Prop) :
    ∀ t, Turns more body s t → more t = true → S t := by
  intro t ht htm
  rw [turns_of_not_more hm ht, hm] at htm
  exact absurd htm (by simp)

/-- A property of the way the loop is left holds exactly when it holds at
the start and every turn that the loop comes to is safe. -/
theorem whileLoop_iff (hμ : Bounded more body I μ) {P S : σ → Prop} {Q : φ → Prop}
    (hok : ∀ s t, I s → more s = true → body s = .ok t → (P t ↔ P s ∧ S s))
    (herr : ∀ s e, I s → more s = true → body s = .error e → (Q e ↔ P s ∧ S s))
    {fuel : Nat} {s : σ} (hs : I s) (hfuel : μ s ≤ fuel) :
    Leaves P Q (whileLoop more body fuel s) ↔
      P s ∧ ∀ t, Turns more body s t → more t = true → S t := by
  induction fuel generalizing s with
  | zero =>
      have hm := hμ.stopped hs hfuel
      simp only [whileLoop, Leaves]
      exact ⟨fun hP => ⟨hP, turn_free_of_not_more hm S⟩, fun h => h.1⟩
  | succ fuel ih =>
      by_cases hm : more s = true
      · cases hb : body s with
        | error e =>
            simp only [whileLoop, hm, hb, if_true, Leaves, herr s e hs hm hb]
            refine and_congr_right fun _ => ⟨?_, fun h => h s .refl hm⟩
            intro hS t ht _
            rwa [turns_of_error hb ht]
        | ok s' =>
            obtain ⟨hs', hlt⟩ := hμ.next s s' hs ⟨hm, hb⟩
            simp only [whileLoop, hm, hb, if_true]
            rw [ih hs' (by omega), hok s s' hs hm hb, and_assoc]
            refine and_congr_right ?_
            intro _
            simp only [turns_of_ok hm hb]
            constructor
            · rintro ⟨hS, h⟩ t (rfl | ht) htm
              · exact hS
              · exact h t ht htm
            · exact fun h => ⟨h s (Or.inl rfl) hm, fun t ht htm => h t (Or.inr ht) htm⟩
      · have hm' : more s = false := by simpa using hm
        simp only [whileLoop, hm', Bool.false_eq_true, if_false, Leaves]
        exact ⟨fun hP => ⟨hP, turn_free_of_not_more hm' S⟩, fun h => h.1⟩

/-- The loop ends in `t` exactly when it comes to `t` and stops there. -/
theorem whileLoop_eq_ok_iff (hμ : Bounded more body I μ) {fuel : Nat} {s t : σ} (hs : I s)
    (hfuel : μ s ≤ fuel) :
    whileLoop more body fuel s = .ok t ↔ Turns more body s t ∧ more t = false := by
  induction fuel generalizing s with
  | zero =>
      have hm := hμ.stopped hs hfuel
      simp only [whileLoop, Except.ok.injEq]
      constructor
      · rintro rfl
        exact ⟨.refl, hm⟩
      · rintro ⟨ht, -⟩
        exact (turns_of_not_more hm ht).symm
  | succ fuel ih =>
      by_cases hm : more s = true
      · cases hb : body s with
        | error e =>
            simp only [whileLoop, hm, hb, if_true]
            refine ⟨fun h => absurd h (by simp), ?_⟩
            rintro ⟨ht, htm⟩
            rw [turns_of_error hb ht, hm] at htm
            exact absurd htm (by simp)
        | ok s' =>
            obtain ⟨hs', hlt⟩ := hμ.next s s' hs ⟨hm, hb⟩
            simp only [whileLoop, hm, hb, if_true]
            rw [ih hs' (by omega), turns_of_ok hm hb]
            refine and_congr_left fun htm => ⟨Or.inr, ?_⟩
            rintro (rfl | ht)
            · exact absurd htm (by simp [hm])
            · exact ht
      · have hm' : more s = false := by simpa using hm
        simp only [whileLoop, hm', Bool.false_eq_true, if_false, Except.ok.injEq]
        constructor
        · rintro rfl
          exact ⟨.refl, hm'⟩
        · rintro ⟨ht, -⟩
          exact (turns_of_not_more hm' ht).symm

end Rules

end Lib
