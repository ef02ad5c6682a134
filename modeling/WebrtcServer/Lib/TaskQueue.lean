/-
# `Lib.TaskQueue` — tasks posted by many, run in order by one

A message loop: any party may post a task at any time, and one thread runs
the tasks in the order in which they were posted.  `exec` is what a task
does to the state of the loop's owner, with outputs.

Whatever the order of posts and turns, the loop has run a first part of
what was posted, in order, and the rest is pending (`Follows`).  So a loop
with nothing pending is where `execAll` of everything posted leads.
-/
import Mathlib.Data.List.Basic

namespace Lib

variable {σ τ ω : Type*}

structure TaskQueue (σ τ : Type*) where
  state : σ
  pending : List τ

namespace TaskQueue

def post (q : TaskQueue σ τ) (task : τ) : TaskQueue σ τ :=
  { q with pending := q.pending ++ [task] }

/-- Run the oldest task, if there is one. -/
def runOne (exec : σ → τ → σ × List ω) (q : TaskQueue σ τ) : TaskQueue σ τ × List ω :=
  match q.pending with
  | [] => (q, [])
  | task :: rest => ({ state := (exec q.state task).1, pending := rest }, (exec q.state task).2)

/-- Run tasks one after the other. -/
def execAll (exec : σ → τ → σ × List ω) (s : σ) : List τ → σ × List ω
  | [] => (s, [])
  | task :: rest =>
      let r := execAll exec (exec s task).1 rest
      (r.1, (exec s task).2 ++ r.2)

variable {exec : σ → τ → σ × List ω}

theorem execAll_append (s : σ) (tasks tasks' : List τ) :
    execAll exec s (tasks ++ tasks') =
      ((execAll exec (execAll exec s tasks).1 tasks').1,
        (execAll exec s tasks).2 ++ (execAll exec (execAll exec s tasks).1 tasks').2) := by
  induction tasks generalizing s with
  | nil => rfl
  | cons task rest ih =>
      simp only [List.cons_append, execAll, ih, List.append_assoc]

/-- Of the tasks posted, a first part has run from `s₀` with these outputs,
and the rest is pending. -/
def Follows (exec : σ → τ → σ × List ω) (s₀ : σ) (posted : List τ) (outs : List ω)
    (q : TaskQueue σ τ) : Prop :=
  ∃ done, posted = done ++ q.pending ∧ execAll exec s₀ done = (q.state, outs)

section Follows

variable {s₀ : σ} {posted : List τ} {outs : List ω} {q : TaskQueue σ τ}

theorem Follows.init (s₀ : σ) : Follows exec s₀ [] [] ⟨s₀, []⟩ := ⟨[], rfl, rfl⟩

theorem Follows.post (h : Follows exec s₀ posted outs q) (task : τ) :
    Follows exec s₀ (posted ++ [task]) outs (q.post task) := by
  obtain ⟨done, rfl, hdone⟩ := h
  exact ⟨done, by simp [TaskQueue.post], hdone⟩

theorem Follows.runOne (h : Follows exec s₀ posted outs q) :
    Follows exec s₀ posted (outs ++ (q.runOne exec).2) (q.runOne exec).1 := by
  obtain ⟨done, hposted, hdone⟩ := h
  simp only [TaskQueue.runOne]
  split
  next hpending =>
    refine ⟨done, hposted, ?_⟩
    rw [hdone, List.append_nil]
  next task rest hpending =>
    refine ⟨done ++ [task], by simp [hposted, hpending], ?_⟩
    simp only [execAll_append, hdone, execAll, List.append_nil]

/-- A loop with nothing pending has run everything that was posted. -/
theorem Follows.drained (h : Follows exec s₀ posted outs q) (hempty : q.pending = []) :
    execAll exec s₀ posted = (q.state, outs) := by
  obtain ⟨done, rfl, hdone⟩ := h
  rw [hempty, List.append_nil, hdone]

end Follows

end TaskQueue

end Lib
