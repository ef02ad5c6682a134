/-
# `TransportManager` — webrtc_transport_manager.h, webrtc_transport_manager.cpp

The set of running transports and the message loop that guards it.  Both
functions of the manager only post: the signalling thread posts the
insertion when a viewer has been answered, and `Shutdown`, on whatever
thread it is called, posts a removal.  A transport begins to receive in
`Start`, before it is inserted, so its removal can be posted first; then the
loop finds nothing to remove, and the transport that it inserts afterwards
stays.
-/
import WebrtcServer.Lib.Runs
import WebrtcServer.Lib.TaskQueue
import Mathlib.Data.Finset.Basic

namespace WebrtcServer

open Lib

variable {ι : Type} [DecidableEq ι]

/-! ## The manager -/

/-- What the manager posts to its message loop. -/
inductive ManagerTask (ι : Type) where
  | insert (transport : ι)
  | remove (transport : ι)
deriving DecidableEq

inductive ManagerOutput (ι : Type) where
  /-- `WebrtcTransport::Stop` is called. -/
  | stop (transport : ι)
  /-- The warning that the transport is not in the set. -/
  | notInSet (transport : ι)
deriving DecidableEq

/-- `webrtc_transports_` and `message_loop_`. -/
abbrev WebrtcTransportManager (ι : Type) := TaskQueue (Finset ι) (ManagerTask ι)

namespace WebrtcTransportManager

def add (manager : WebrtcTransportManager ι) (transport : ι) : WebrtcTransportManager ι :=
  manager.post (.insert transport)

def remove (manager : WebrtcTransportManager ι) (transport : ι) : WebrtcTransportManager ι :=
  manager.post (.remove transport)

/-- The bodies of the posted functions. -/
def exec (webrtcTransports : Finset ι) : ManagerTask ι → Finset ι × List (ManagerOutput ι)
  | .insert transport => (insert transport webrtcTransports, [])
  | .remove transport =>
      if transport ∈ webrtcTransports then (webrtcTransports.erase transport, [.stop transport])
      else (webrtcTransports, [.notInSet transport])

end WebrtcTransportManager

/-! ## The server around it -/

/-- The manager, the transports whose `Start` has returned, and those that
the handler of `/play` has added. -/
structure ManagedServer (ι : Type) where
  manager : WebrtcTransportManager ι
  started : Finset ι
  added : Finset ι

namespace ManagedServer

inductive Event (ι : Type) where
  /-- `Start` returns: the transport receives from now on. -/
  | start (transport : ι)
  /-- `Shutdown` is called, by the thread of the transport or of its source. -/
  | shutdown (transport : ι)
  /-- The handler of `/play` adds the transport. -/
  | add (transport : ι)
  /-- The thread of the manager runs a task. -/
  | runTask
deriving DecidableEq

def init : ManagedServer ι := ⟨⟨∅, []⟩, ∅, ∅⟩

/-- Nothing happens to a transport before its `Start`, and the handler that
has made it adds it once. -/
def Allowed (s : ManagedServer ι) : Event ι → Prop
  | .start transport => transport ∉ s.started
  | .shutdown transport => transport ∈ s.started
  | .add transport => transport ∈ s.started ∧ transport ∉ s.added
  | .runTask => True

instance (s : ManagedServer ι) : (e : Event ι) → Decidable (Allowed s e)
  | .start transport => inferInstanceAs (Decidable (transport ∉ s.started))
  | .shutdown transport => inferInstanceAs (Decidable (transport ∈ s.started))
  | .add transport => inferInstanceAs (Decidable (transport ∈ s.started ∧ transport ∉ s.added))
  | .runTask => isTrue trivial

def step (s : ManagedServer ι) :
    Event ι → Except Empty (ManagedServer ι × List (ManagerOutput ι))
  | .start transport => .ok ({ s with started := insert transport s.started }, [])
  | .shutdown transport => .ok ({ s with manager := s.manager.remove transport }, [])
  | .add transport =>
      .ok ({ s with manager := s.manager.add transport, added := insert transport s.added }, [])
  | .runTask =>
      let (manager, outs) := s.manager.runOne WebrtcTransportManager.exec
      .ok ({ s with manager }, outs)

/-- The task that an event posts. -/
def Event.posted : Event ι → Option (ManagerTask ι)
  | .shutdown transport => some (.remove transport)
  | .add transport => some (.insert transport)
  | _ => none

abbrev History (ι : Type) := List (Event ι × List (ManagerOutput ι))

/-- The events of a history, in order. -/
def events (h : History ι) : List (Event ι) := h.map Prod.fst

/-- How often `Stop` has been called on a transport. -/
def stops (transport : ι) (h : History ι) : Nat := (outputs h).count (.stop transport)

/-- Removed and stopped once. -/
def Removed (s : ManagedServer ι) (h : History ι) (transport : ι) : Prop :=
  transport ∉ s.manager.state ∧ stops transport h = 1

/-! ## What the tasks do to one transport -/

section Tasks

open TaskQueue WebrtcTransportManager

variable {t : ι} {s : Finset ι}

/-- Without its insertion a transport outside the set stays outside. -/
theorem execAll_of_not_mem {tasks : List (ManagerTask ι)} (hins : .insert t ∉ tasks)
    (ht : t ∉ s) :
    t ∉ (execAll exec s tasks).1 ∧ (execAll exec s tasks).2.count (.stop t) = 0 := by
  induction tasks generalizing s with
  | nil => exact ⟨ht, rfl⟩
  | cons task rest ih =>
      have hrest : ManagerTask.insert t ∉ rest := fun h => hins (List.mem_cons_of_mem _ h)
      cases task with
      | insert u =>
          have hne : t ≠ u := by
            rintro rfl
            exact hins List.mem_cons_self
          have hih := ih (s := insert u s) hrest (by simp [hne, ht])
          simpa [execAll, exec] using hih
      | remove u =>
          by_cases hu : u ∈ s
          · have hne : u ≠ t := by
              rintro rfl
              exact ht hu
            have hih := ih (s := s.erase u) hrest (by simp [ht])
            simpa [execAll, exec, hu, hne] using hih
          · have hih := ih hrest ht
            simpa [execAll, exec, hu] using hih

/-- A transport in the set is stopped by its first removal, and by no later
one. -/
theorem execAll_of_mem {tasks : List (ManagerTask ι)} (hins : .insert t ∉ tasks) (ht : t ∈ s) :
    (t ∉ (execAll exec s tasks).1 ∧ (execAll exec s tasks).2.count (.stop t) = 1) ↔
      .remove t ∈ tasks := by
  induction tasks generalizing s with
  | nil => simp [execAll, ht]
  | cons task rest ih =>
      have hrest : ManagerTask.insert t ∉ rest := fun h => hins (List.mem_cons_of_mem _ h)
      cases task with
      | insert u =>
          have hih := ih (s := insert u s) hrest (by simp [ht])
          simpa [execAll, exec] using hih
      | remove u =>
          by_cases hut : u = t
          · subst hut
            have hgone := execAll_of_not_mem (s := s.erase u) hrest (by simp)
            simp [execAll, exec, ht, hgone.1, hgone.2]
          · by_cases hu : u ∈ s
            · have hih := ih (s := s.erase u) hrest (by simp [ht, Ne.symm hut])
              simpa [execAll, exec, hu, hut, Ne.symm hut] using hih
            · have hih := ih hrest ht
              simpa [execAll, exec, hu, Ne.symm hut] using hih

/-- From the empty set, a transport that is inserted once is removed and
stopped once exactly when a removal comes after the insertion. -/
theorem execAll_of_one_insert {before after : List (ManagerTask ι)} (hbefore : .insert t ∉ before)
    (hafter : .insert t ∉ after) :
    (t ∉ (execAll exec ∅ (before ++ .insert t :: after)).1 ∧
        (execAll exec ∅ (before ++ .insert t :: after)).2.count (.stop t) = 1) ↔
      .remove t ∈ after := by
  have hfirst := execAll_of_not_mem (s := ∅) hbefore (Finset.notMem_empty t)
  have hlast := execAll_of_mem (s := insert t (execAll exec ∅ before).1) hafter
    (Finset.mem_insert_self _ _)
  simpa [execAll_append, execAll, exec, hfirst.2] using hlast

end Tasks

/-! ## Runs -/

section Runs

variable {s s' : ManagedServer ι} {h : History ι} {e : Event ι} {o : List (ManagerOutput ι)}
  {t : ι}

/-- The tasks that a history posts, in order. -/
def posts (h : History ι) : List (ManagerTask ι) := (events h).filterMap Event.posted

/-- The message loop follows what is posted, and no transport is added
twice. -/
structure Inv (h : History ι) (s : ManagedServer ι) : Prop where
  follows : TaskQueue.Follows WebrtcTransportManager.exec ∅ (posts h) (outputs h) s.manager
  addedOnce : ∀ t, (events h).count (.add t) = if t ∈ s.added then 1 else 0

omit [DecidableEq ι] in
theorem events_snoc : events (h ++ [(e, o)]) = events h ++ [e] := by
  simp [events]

omit [DecidableEq ι] in
theorem posts_snoc : posts (h ++ [(e, o)]) = posts h ++ e.posted.toList := by
  cases he : e.posted <;> simp [posts, events_snoc, he]

theorem Inv.step (hi : Inv h s) (hallowed : Allowed s e) (hstep : step s e = .ok (s', o)) :
    Inv (h ++ [(e, o)]) s' := by
  cases e with
  | start u =>
      cases hstep
      refine ⟨?_, ?_⟩
      · simpa [posts_snoc, Event.posted] using hi.follows
      · intro t
        simpa [events_snoc] using hi.addedOnce t
  | shutdown u =>
      cases hstep
      refine ⟨?_, ?_⟩
      · rw [posts_snoc, outputs_snoc, List.append_nil]
        exact hi.follows.post (.remove u)
      · intro t
        simpa [events_snoc] using hi.addedOnce t
  | add u =>
      cases hstep
      refine ⟨?_, ?_⟩
      · rw [posts_snoc, outputs_snoc, List.append_nil]
        exact hi.follows.post (.insert u)
      · intro t
        have hcount := hi.addedOnce t
        by_cases htu : t = u
        · subst htu
          simp [events_snoc, hcount, hallowed.2]
        · simp [events_snoc, hcount, htu, Ne.symm htu]
  | runTask =>
      cases hstep
      refine ⟨?_, ?_⟩
      · rw [posts_snoc, outputs_snoc]
        show TaskQueue.Follows _ _ (posts h ++ []) _ _
        rw [List.append_nil]
        exact hi.follows.runOne
      · intro t
        simpa [events_snoc] using hi.addedOnce t

theorem run_inv (hr : Run step Allowed init h s) : Inv h s := by
  refine hr.invariant ?_ ?_
  · refine ⟨TaskQueue.Follows.init ∅, ?_⟩
    intro t
    simp [events, init]
  · intro h s e s' o hi hallowed hstep
    exact hi.step hallowed hstep

omit [DecidableEq ι] in
theorem insert_mem_posted {l : List (Event ι)} :
    ManagerTask.insert t ∈ l.filterMap Event.posted ↔ .add t ∈ l := by
  rw [List.mem_filterMap]
  constructor
  · rintro ⟨e, he, hposted⟩
    cases e <;> simp_all [Event.posted]
  · intro he
    exact ⟨.add t, he, rfl⟩

omit [DecidableEq ι] in
theorem remove_mem_posted {l : List (Event ι)} :
    ManagerTask.remove t ∈ l.filterMap Event.posted ↔ .shutdown t ∈ l := by
  rw [List.mem_filterMap]
  constructor
  · rintro ⟨e, he, hposted⟩
    cases e <;> simp_all [Event.posted]
  · intro he
    exact ⟨.shutdown t, he, rfl⟩

/-- Once every task has run, an added transport is out of the set and has
been stopped once exactly when it has shut down after it was added. -/
theorem removed_iff (hr : Run step Allowed init h s) (hdone : s.manager.pending = [])
    (hadd : .add t ∈ events h) :
    Removed s h t ↔ ∃ before after, events h = before ++ .add t :: after ∧ .shutdown t ∈ after := by
  have hi := run_inv hr
  have hdrained := hi.follows.drained hdone
  have hcount := hi.addedOnce t
  -- the one place where the transport is added
  have hone : ∀ before after, events h = before ++ .add t :: after →
      (.add t ∉ before ∧ .add t ∉ after) ∧ (Removed s h t ↔ .shutdown t ∈ after) := by
    intro before after hsplit
    rw [hsplit, List.count_append, List.count_cons_self] at hcount
    have hnot : Event.add t ∉ before ∧ Event.add t ∉ after := by
      rw [← List.count_eq_zero, ← List.count_eq_zero]
      split at hcount <;> omega
    refine ⟨hnot, ?_⟩
    have hposts : posts h = before.filterMap Event.posted ++
        .insert t :: after.filterMap Event.posted := by
      simp [posts, hsplit, Event.posted]
    rw [hposts] at hdrained
    have hexec := execAll_of_one_insert (mt insert_mem_posted.mp hnot.1)
      (mt insert_mem_posted.mp hnot.2)
    rw [hdrained, remove_mem_posted] at hexec
    exact hexec
  obtain ⟨before, after, hsplit⟩ := List.append_of_mem hadd
  constructor
  · intro hrem
    exact ⟨before, after, hsplit, (hone before after hsplit).2.mp hrem⟩
  · rintro ⟨before', after', hsplit', hshut⟩
    exact (hone before' after' hsplit').2.mpr hshut

/-- The viewer leaves after it was added. -/
def orderlyHistory : History Nat :=
  [(.start 1, []), (.add 1, []), (.shutdown 1, []), (.runTask, []), (.runTask, [.stop 1])]

/-- The viewer leaves between `Start` and the handler's `Add`. -/
def earlyHistory : History Nat :=
  [(.start 1, []), (.shutdown 1, []), (.add 1, []), (.runTask, [.notInSet 1]), (.runTask, [])]

theorem orderly_run : Run step Allowed init orderlyHistory ⟨⟨∅, []⟩, {1}, {1}⟩ :=
  .snoc (.snoc (.snoc (.snoc (.snoc .nil (by decide) rfl) (by decide) rfl) (by decide) rfl)
    trivial rfl) trivial rfl

theorem early_run : Run step Allowed init earlyHistory ⟨⟨{1}, []⟩, {1}, {1}⟩ :=
  .snoc (.snoc (.snoc (.snoc (.snoc .nil (by decide) rfl) (by decide) rfl) (by decide) rfl)
    trivial rfl) trivial rfl

theorem orderly_removed :
    (∃ s, Run step Allowed init orderlyHistory s ∧ s.manager.pending = [] ∧
      .add 1 ∈ events orderlyHistory ∧ Removed s orderlyHistory 1) :=
  ⟨_, orderly_run, rfl, by decide,
    (removed_iff orderly_run rfl (by decide)).mpr
      ⟨[.start 1], [.shutdown 1, .runTask, .runTask], by decide, by decide⟩⟩

/-- The removal is lost: every task has run, and the transport is in the set
and has not been stopped. -/
theorem early_kept :
    ∃ s, Run step Allowed init earlyHistory s ∧ s.manager.pending = [] ∧
      .add 1 ∈ events earlyHistory ∧ .shutdown 1 ∈ events earlyHistory ∧
      1 ∈ s.manager.state ∧ stops 1 earlyHistory = 0 ∧ ¬ Removed s earlyHistory 1 := by
  refine ⟨_, early_run, rfl, by decide, by decide, by decide, by decide, ?_⟩
  intro hrem
  exact absurd hrem.1 (by decide)

end Runs

end ManagedServer

end WebrtcServer
