/-
# `Lib.Reactor` — timers on a message loop

A loop runs its handlers in the order in which they got ready.  A wait of a
timer is armed until its time has come; then its handler gets ready.  When
the timer is armed anew, or is destroyed, the waits that are still armed are
cancelled: their handlers get ready with an error.  A handler that is ready
already stays as it is, whatever happens to its timer.

`τ` are the timers, and `α` what else is posted to the loop.
-/
import Mathlib.Data.List.Nodup

namespace Lib

inductive Handler (τ α : Type) where
  | task (a : α)
  | expired (t : τ)
  | cancelled (t : τ)

structure Reactor (τ α : Type) where
  armed : List τ
  /-- The oldest first. -/
  ready : List (Handler τ α)

namespace Reactor

variable {τ α : Type}

def post (r : Reactor τ α) (a : α) : Reactor τ α := { r with ready := r.ready ++ [.task a] }

variable [DecidableEq τ]

/-- Cancels the waits of a timer. -/
def cancel (r : Reactor τ α) (t : τ) : Reactor τ α where
  armed := r.armed.filter (· ≠ t)
  ready := r.ready ++ (r.armed.filter (· = t)).map .cancelled

/-- Sets the time of a timer, and waits for it. -/
def asyncWait (r : Reactor τ α) (t : τ) : Reactor τ α :=
  { r.cancel t with armed := (r.cancel t).armed ++ [t] }

/-- The time of a timer has come. -/
def expire (r : Reactor τ α) (t : τ) : Reactor τ α where
  armed := r.armed.erase t
  ready := r.ready ++ [.expired t]

variable {r : Reactor τ α} {t u : τ} {a : α}

/-! ## What is ready -/

omit [DecidableEq τ] in
@[simp] theorem expired_mem_post : .expired u ∈ (r.post a).ready ↔ .expired u ∈ r.ready := by
  simp [post]

@[simp] theorem expired_mem_cancel :
    .expired u ∈ (r.cancel t).ready ↔ .expired u ∈ r.ready := by
  simp [cancel]

@[simp] theorem expired_mem_asyncWait :
    .expired u ∈ (r.asyncWait t).ready ↔ .expired u ∈ r.ready := expired_mem_cancel

@[simp] theorem expired_mem_expire :
    .expired u ∈ (r.expire t).ready ↔ .expired u ∈ r.ready ∨ u = t := by
  simp [expire]

/-! ## What stays ready -/

omit [DecidableEq τ] in
theorem ready_post : r.ready <+: (r.post a).ready := List.prefix_append _ _

theorem ready_cancel : r.ready <+: (r.cancel t).ready := List.prefix_append _ _

theorem ready_asyncWait : r.ready <+: (r.asyncWait t).ready := List.prefix_append _ _

theorem ready_expire : r.ready <+: (r.expire t).ready := List.prefix_append _ _

/-! ## What is armed -/

@[simp] theorem mem_armed_cancel : u ∈ (r.cancel t).armed ↔ u ∈ r.armed ∧ u ≠ t := by
  simp [cancel]

@[simp] theorem mem_armed_asyncWait :
    u ∈ (r.asyncWait t).armed ↔ (u ∈ r.armed ∧ u ≠ t) ∨ u = t := by
  simp [asyncWait]

theorem mem_armed_of_expire (h : u ∈ (r.expire t).armed) : u ∈ r.armed := List.mem_of_mem_erase h

/-- No timer has two waits. -/
def Single (r : Reactor τ α) : Prop := r.armed.Nodup

theorem Single.cancel (h : r.Single) (t : τ) : (r.cancel t).Single := List.Nodup.filter _ h

theorem Single.asyncWait (h : r.Single) (t : τ) : (r.asyncWait t).Single := by
  refine List.Nodup.append (h.cancel t) (List.nodup_singleton t) ?_
  rw [List.disjoint_singleton]
  exact fun hmem => (mem_armed_cancel.mp hmem).2 rfl

theorem Single.expire (h : r.Single) (t : τ) : (r.expire t).Single := List.Nodup.erase t h

end Reactor

end Lib
