/-
# `StreamEnd` — who is told that a stream has ended

`ReadPacket` returns after `StreamEnd`, when reading or filtering fails, or
past it, when `closed_` ends its loop.  `StreamEnd` tells the viewers of
`observers_`; those that still wait in `new_observers_` are passed over, and
so are all when the loop ends.
-/
import WebrtcServer.MediaSource

namespace WebrtcServer

open Lib

namespace LiveSource

variable {ι : Type} [DecidableEq ι]

abbrev History (ι : Type) := List (Event ι × List (Output ι))

/-! ## Registrations and notices -/

/-- The last that has happened to the viewer at the source is a
registration. -/
def Registered (o : ι) (h : History ι) : Prop :=
  ∃ h₁ outs h₂, h = h₁ ++ (.register o, outs) :: h₂ ∧ ∀ x ∈ h₂, x.1 ≠ .deregister o

/-- How often the viewer has been told. -/
def notices (o : ι) (h : History ι) : Nat := (outputs h).count (.ended o)

/-- Every registered viewer has been told once. -/
def AllTold (h : History ι) : Prop := ∀ o, Registered o h → notices o h = 1

omit [DecidableEq ι] in
theorem registered_nil {o : ι} : ¬ Registered o [] := by
  rintro ⟨h₁, outs, h₂, hh, -⟩
  exact absurd hh (by simp)

omit [DecidableEq ι] in
theorem registered_snoc {o : ι} {h : History ι} {x : Event ι × List (Output ι)} :
    Registered o (h ++ [x]) ↔ x.1 = .register o ∨ (Registered o h ∧ x.1 ≠ .deregister o) := by
  constructor
  · rintro ⟨h₁, outs, h₂, hh, hlast⟩
    rcases List.eq_nil_or_concat h₂ with rfl | ⟨h₂, y, rfl⟩
    · obtain ⟨-, hx⟩ := List.append_inj' hh rfl
      cases hx
      exact Or.inl rfl
    · have hsplit : h ++ [x] = (h₁ ++ (.register o, outs) :: h₂) ++ [y] := by
        simpa [List.concat_eq_append] using hh
      obtain ⟨rfl, hx⟩ := List.append_inj' hsplit rfl
      cases hx
      refine Or.inr ⟨⟨h₁, outs, h₂, rfl, fun z hz => hlast z ?_⟩, hlast x ?_⟩
      · rw [List.concat_eq_append]
        exact List.mem_append_left _ hz
      · simp [List.concat_eq_append]
  · rintro (hx | ⟨⟨h₁, outs, h₂, rfl, hlast⟩, hx⟩)
    · exact ⟨h, x.2, [], by rw [← hx], fun y hy => by cases hy⟩
    · refine ⟨h₁, outs, h₂ ++ [x], by simp, ?_⟩
      intro y hy
      rcases List.mem_append.mp hy with hy | hy
      · exact hlast y hy
      · rwa [List.mem_singleton.mp hy]

theorem notices_append {o : ι} {h h' : History ι} :
    notices o (h ++ h') = notices o h + notices o h' := by
  rw [notices, outputs_append, List.count_append, notices, notices]

theorem notices_cons {o : ι} {h : History ι} {x : Event ι × List (Output ι)} :
    notices o (x :: h) = x.2.count (.ended o) + notices o h := by
  rw [notices, outputs_cons, List.count_append, notices]

theorem notices_snoc {o : ι} {h : History ι} {x : Event ι × List (Output ι)} :
    notices o (h ++ [x]) = notices o h + x.2.count (.ended o) := by
  rw [notices, outputs_snoc, List.count_append, notices]

/-- The other calls of a viewer are no notices. -/
theorem count_receipt {s : LiveSource ι} {o x : ι} {p : SourcePacket} :
    (s.receipt x p).count (.ended o) = 0 := by
  rw [List.count_eq_zero, receipt]
  split <;> simp

theorem count_admitted {o : ι} {l : List ι} : (l.map Output.admitted).count (.ended o) = 0 := by
  rw [List.count_eq_zero]
  simp

/-! ## The lists and the notices in every run -/

/-- What the notices are, by the reader's place. -/
def Told (source : MediaSource ι) (n : ι → Nat) : ReaderPc ι → Prop
  | .notifying todo =>
      source.newObservers ⊆ source.observers ∧
        ∀ o, n o = if o ∈ source.observers ∧ o ∉ todo then 1 else 0
  | .ended => source.newObservers ⊆ source.observers ∧ ∀ o ∈ source.observers, n o = 1
  | .returned => True
  | _ => ∀ o, n o = 0

/-- The steps that leave nobody out: the loop is not ended by `closed_`
while somebody watches, `StreamEnd` finds nobody waiting whom it does not
know, and nobody new registers between it and the return. -/
def NobodyLeft (s : LiveSource ι) : Event ι → Prop
  | .reader =>
      (s.reader = .loop → s.source.closed = true →
        s.source.observers = [] ∧ s.source.newObservers = []) ∧
      (s.reader = .streamEnd → ∀ o ∈ s.source.newObservers, o ∈ s.source.observers)
  | .register o => s.reader = .ended → o ∈ s.source.observers
  | _ => True

instance (s : LiveSource ι) : (e : Event ι) → Decidable (NobodyLeft s e)
  | .reader => inferInstanceAs (Decidable (_ ∧ _))
  | .register o => inferInstanceAs (Decidable (s.reader = .ended → o ∈ s.source.observers))
  | .deregister _ | .stop | .connect _ | .shutdown _ | .read _ => isTrue trivial

/-- The lists are the registered viewers. -/
structure Listed (h : History ι) (s : LiveSource ι) : Prop where
  ordered : s.Ordered
  registered : ∀ o, Registered o h ↔ o ∈ s.source.observers ∨ o ∈ s.source.newObservers

theorem listed_registerObserver {source : MediaSource ι} {o x : ι} :
    x ∈ (source.registerObserver o).observers ∨ x ∈ (source.registerObserver o).newObservers ↔
      x = o ∨ (x ∈ source.observers ∨ x ∈ source.newObservers) := by
  rw [MediaSource.registerObserver]
  split
  · rw [MediaSource.mem_pushAbsent, ← or_assoc, or_comm]
  · rw [MediaSource.mem_pushAbsent, or_right_comm, or_comm]

theorem listed_deregisterObserver {source : MediaSource ι} {o x : ι} (htidy : source.Tidy) :
    x ∈ (source.deregisterObserver o).observers ∨
        x ∈ (source.deregisterObserver o).newObservers ↔
      (x ∈ source.observers ∨ x ∈ source.newObservers) ∧ x ≠ o := by
  simp only [MediaSource.deregisterObserver]
  rw [htidy.observers.mem_erase_iff]
  split
  · rw [htidy.newObservers.mem_erase_iff, ← and_or_left, and_comm]
  · next hoff =>
      rw [htidy.uncached (eq_false_of_ne_true hoff)]
      simp only [List.not_mem_nil, or_false]
      exact and_comm

theorem listed_step {h : History ι} {s s' : LiveSource ι} {e : Event ι} {outs : List (Output ι)}
    (hl : Listed h s) (hs : step s e = .ok (s', outs)) : Listed (h ++ [(e, outs)]) s' := by
  refine ⟨hl.ordered.step hs, fun x => ?_⟩
  obtain ⟨⟨hobs, hnew, huncached⟩, hwalks⟩ := hl.ordered
  rw [registered_snoc, hl.registered x]
  cases step_move hs with
  | @register o =>
      have heq : Event.register o = .register x ↔ x = o := by
        rw [Event.register.injEq, eq_comm]
      simp only [heq, ne_eq, reduceCtorEq, not_false_eq_true, and_true]
      exact listed_registerObserver.symm
  | @deregister o =>
      have heq : Event.deregister o ≠ .deregister x ↔ x ≠ o := by
        rw [ne_eq, Event.deregister.injEq, eq_comm]
      simp only [heq, reduceCtorEq, false_or]
      exact (listed_deregisterObserver ⟨hobs, hnew, huncached⟩).symm
  | stop | connect | shutdown => simp [onDtlsTransportSetup, release]
  | @read answer =>
      obtain ⟨hobs', hnew', -⟩ := MediaSource.demux_frame (s := s.source) answer
      simp [hobs', hnew']
  | reader hmove =>
      simp only [reduceCtorEq, false_or, ne_eq, not_false_eq_true, and_true]
      cases hmove with
      | admitted hpc =>
          -- everyone who waited has been moved to `observers_`
          rw [hpc] at hwalks
          have hmoved : ∀ o ∈ s.source.newObservers, o ∈ s.source.observers := fun o ho =>
            (hwalks.2 o ho).resolve_left (List.not_mem_nil)
          simp only [List.not_mem_nil, or_false]
          exact ⟨fun h => h.elim id (hmoved x), Or.inl⟩
      | @observe cached o todo hpc =>
          rw [hpc] at hwalks
          have hwaits : o ∈ s.source.newObservers := hwalks.1.subset List.mem_cons_self
          simp only [MediaSource.observe, MediaSource.mem_pushAbsent]
          constructor
          · rintro (h | h)
            · exact Or.inl (Or.inl h)
            · exact Or.inr h
          · rintro ((h | rfl) | h)
            · exact Or.inl h
            · exact Or.inr hwaits
            · exact Or.inr h
      | delivered => simp
      | _ => exact Iff.rfl

section

variable {s s' : LiveSource ι} {o : ι} {n : ι → Nat} {h : History ι}

/-- After `StreamEnd` only viewers that are told already may register again. -/
theorem Told.registerObserver (ht : Told s.source n s.reader)
    (hfree : s.reader.holdsMutex = false) (hin : s.reader = .ended → o ∈ s.source.observers) :
    Told (s.source.registerObserver o) n s.reader := by
  cases hpc : s.reader with
  | notifying todo =>
      rw [hpc] at hfree
      cases hfree
  | ended =>
      rw [hpc] at ht
      have ho : o ∈ s.source.observers := hin hpc
      simp only [MediaSource.registerObserver]
      split
      · refine ⟨fun x hx => ?_, ht.2⟩
        rcases MediaSource.mem_pushAbsent.mp hx with hx | rfl
        · exact ht.1 hx
        · exact ho
      · simpa [Told, MediaSource.pushAbsent, ho] using ht
  | returned => trivial
  | _ =>
      rw [hpc] at ht
      exact ht

theorem Told.deregisterObserver (htidy : s.source.Tidy) (ht : Told s.source n s.reader)
    (hfree : s.reader.holdsMutex = false) : Told (s.source.deregisterObserver o) n s.reader := by
  cases hpc : s.reader with
  | notifying todo =>
      rw [hpc] at hfree
      cases hfree
  | ended =>
      rw [hpc] at ht
      refine ⟨fun x hx => ?_, fun x hx => ht.2 x (List.mem_of_mem_erase hx)⟩
      simp only [MediaSource.deregisterObserver] at hx ⊢
      split at hx
      · obtain ⟨hne, hx⟩ := htidy.newObservers.mem_erase_iff.mp hx
        exact htidy.observers.mem_erase_iff.mpr ⟨hne, ht.1 hx⟩
      · rename_i hoff
        rw [htidy.uncached (Bool.not_eq_true _ ▸ hoff)] at hx
        cases hx
  | returned => trivial
  | _ =>
      rw [hpc] at ht
      exact ht

/-- The reader counts a viewer as it walks past it. -/
theorem told_reader {outs : List (Output ι)} (ho : s.Ordered)
    (ht : Told s.source (notices · h) s.reader) (hc : NobodyLeft s .reader)
    (hm : ReaderMove s s' outs) :
    Told s'.source (fun o => notices o h + outs.count (.ended o)) s'.reader := by
  obtain ⟨⟨hobs, -, -⟩, hwalks⟩ := ho
  cases hm with
  | leave => trivial
  | check hpc | read hpc | turn hpc =>
      rw [hpc] at ht
      exact ht
  | admission hpc =>
      rw [hpc] at ht
      simpa [Told, count_admitted] using ht
  | admitted hpc | observe hpc | delivered hpc =>
      rw [hpc] at ht
      exact ht
  | replay hpc | call hpc =>
      rw [hpc] at ht
      simpa [Told, count_receipt] using ht
  | deliver hpc =>
      rw [hpc] at ht
      simpa [Told] using ht
  | fail hpc =>
      rw [hpc] at ht
      refine ⟨fun o ho => hc.2 hpc o ho, fun o => ?_⟩
      simpa using ht o
  | notified hpc =>
      rw [hpc] at ht
      refine ⟨ht.1, fun o ho => ?_⟩
      simpa [ho] using ht.2 o
  | @notify x todo hpc =>
      rw [hpc] at ht hwalks
      refine ⟨ht.1, fun o => ?_⟩
      have hn : notices o h =
          if o ∈ s.source.observers ∧ o ∉ x :: todo then 1 else 0 := ht.2 o
      have hx : x ∈ s.source.observers := hwalks.subset List.mem_cons_self
      have honce : x ∉ todo := (List.nodup_cons.mp (hobs.sublist hwalks.sublist)).1
      show notices o h + [Output.ended x].count (.ended o) =
        if o ∈ s.source.observers ∧ o ∉ todo then 1 else 0
      rw [hn]
      by_cases hxo : o = x
      · subst hxo
        simp [hx, honce]
      · simp [hxo, Ne.symm hxo]
  | return_ => trivial

/-- What `NobodyLeft` keeps. -/
theorem told_step {e : Event ι} {outs : List (Output ι)} (ho : s.Ordered)
    (ht : Told s.source (notices · h) s.reader) (hc : NobodyLeft s e)
    (hs : step s e = .ok (s', outs)) :
    Told s'.source (notices · (h ++ [(e, outs)])) s'.reader := by
  simp only [notices_snoc]
  cases step_move hs with
  | register hfree => exact ht.registerObserver hfree hc
  | deregister hfree => exact ht.deregisterObserver ho.tidy hfree
  | stop | connect | shutdown => exact ht
  | @read answer hpc =>
      rw [hpc] at ht
      obtain ⟨-, -, -, -, hnext | ⟨out, hnext⟩⟩ := MediaSource.demux_frame (s := s.source) answer
      · simp only [hnext]
        exact ht
      · simp only [hnext]
        exact ht
  | reader hmove => exact told_reader ho ht hc hmove

end

section Runs

variable {gop : Bool} {v a : Int} {viewers : ι → Viewer} {h : History ι} {s : LiveSource ι}

theorem listed_of_run {C : LiveSource ι → Event ι → Prop}
    (hr : Run step C (started gop v a viewers) h s) : Listed h s := by
  refine hr.invariant (I := Listed) ⟨ordered_of_run (C := C) .nil, fun o => ?_⟩
    fun _ _ _ _ _ hinv _ hs => listed_step hinv hs
  simp [registered_nil, started]

theorem told_of_run (hr : Run step NobodyLeft (started gop v a viewers) h s) :
    Told s.source (notices · h) s.reader := by
  have hboth : Listed h s ∧ Told s.source (notices · h) s.reader := by
    refine hr.invariant (I := fun h s => Listed h s ∧ Told s.source (notices · h) s.reader)
      ⟨listed_of_run (C := NobodyLeft) .nil, fun o => rfl⟩ ?_
    intro h s e s' outs ⟨hl, ht⟩ hc hs
    exact ⟨listed_step hl hs, told_step hl.ordered ht hc hs⟩
  exact hboth.2

/-- A return after such a run finds every registered viewer told. -/
theorem told_at_return (hr : Run step NobodyLeft (started gop v a viewers) h s)
    (hc : NobodyLeft s .reader) {s' : LiveSource ι} {outs : List (Output ι)}
    (hs : step s .reader = .ok (s', outs)) (hret : s'.reader = .returned) :
    AllTold (h ++ [(.reader, outs)]) := by
  intro o ho
  have hbefore : Registered o h := ((registered_snoc.mp ho).resolve_left (by simp)).1
  have hlisted := ((listed_of_run hr).registered o).mp hbefore
  have ht := told_of_run hr
  rw [notices_snoc]
  cases readerStep_move hs with
  | leave hpc hclosed =>
      obtain ⟨hobs, hnew⟩ := hc.1 hpc hclosed
      rw [hobs, hnew] at hlisted
      exact absurd hlisted (by simp)
  | return_ hpc =>
      rw [hpc] at ht
      exact ht.2 o (hlisted.elim id fun hnew => ht.1 hnew)
  | _ => cases hret

/-- `StreamEnd` does not tell a viewer that is not in the list it walks. -/
theorem notifying_passes {todo : List ι} (hpc : s.reader = .notifying todo) {o : ι}
    (ho : o ∉ todo) :
    ∃ h' s', ReaderRun s h' s' ∧ s'.reader = .returned ∧ notices o h' = 0 := by
  induction todo generalizing s with
  | nil =>
      have hlast := (ReaderMove.return_ (s := { s with reader := .ended }) rfl).eq_ok
      exact ⟨_, _, .cons rfl (ReaderMove.notified hpc).eq_ok (.cons rfl hlast .nil), rfl, rfl⟩
  | cons x todo ih =>
      obtain ⟨hne, hrest⟩ : o ≠ x ∧ o ∉ todo := by
        rwa [List.mem_cons, not_or] at ho
      obtain ⟨h', s', hr, hret, hnone⟩ :=
        ih (s := { s.release x with reader := .notifying todo }) rfl hrest
      refine ⟨_, s', .cons rfl (ReaderMove.notify hpc).eq_ok hr, hret, ?_⟩
      rw [notices_cons, hnone, List.count_eq_zero.mpr (by simpa using hne)]

omit [DecidableEq ι] in
theorem Registered.append {o : ι} {h' : History ι} (ho : Registered o h)
    (hkept : ∀ x ∈ h', x.1 ≠ .deregister o) : Registered o (h ++ h') := by
  obtain ⟨h₁, outs, h₂, rfl, hlast⟩ := ho
  refine ⟨h₁, outs, h₂ ++ h', by simp, ?_⟩
  intro x hx
  exact (List.mem_append.mp hx).elim (hlast x) (hkept x)

/-- The reader's steps deregister nobody. -/
theorem reader_run_keeps {o : ι} {h' : History ι} {s' : LiveSource ι} (hr : ReaderRun s h' s') :
    ∀ x ∈ h', x.1 ≠ .deregister o := by
  refine hr.invariant (I := fun h' _ => ∀ x ∈ h', x.1 ≠ .deregister o) (fun x hx => by cases hx) ?_
  intro h' t e t' outs hkept he _ x hx
  rcases List.mem_append.mp hx with hx | hx
  · exact hkept x hx
  · rw [List.mem_singleton.mp hx, he]
    simp

/-- A viewer who is registered and has not been told when the reader sets
out to return is not told at all. -/
theorem not_allTold {o : ι} {h' : History ι} {s' : LiveSource ι} (ho : Registered o h)
    (hbefore : notices o h = 0) (hr : ReaderRun s h' s') (hnone : notices o h' = 0) :
    ¬ AllTold (h ++ h') := by
  intro hall
  have hone := hall o (ho.append (reader_run_keeps hr))
  rw [notices_append, hbefore, hnone] at hone
  exact absurd hone (by decide)

/-- Where the reader ends the loop, or the stream, too early, it returns
with a registered viewer untold. -/
theorem untold_at_return (hr : Run step NobodyLeft (started gop v a viewers) h s)
    (hc : ¬ NobodyLeft s .reader) :
    ∃ h' s', ReaderRun s h' s' ∧ s'.reader = .returned ∧ ¬ AllTold (h ++ h') := by
  have hlisted := listed_of_run hr
  have ht := told_of_run hr
  by_cases hfail : s.reader = .streamEnd → ∀ o ∈ s.source.newObservers, o ∈ s.source.observers
  · have hclose : ¬ (s.reader = .loop → s.source.closed = true →
        s.source.observers = [] ∧ s.source.newObservers = []) :=
      fun hclose => hc ⟨hclose, hfail⟩
    obtain ⟨hpc, hclosed, hsome⟩ : s.reader = .loop ∧ s.source.closed = true ∧
        ¬ (s.source.observers = [] ∧ s.source.newObservers = []) := by
      simpa only [Classical.not_imp] using hclose
    obtain ⟨o, ho⟩ : ∃ o, o ∈ s.source.observers ∨ o ∈ s.source.newObservers := by
      by_contra hnobody
      simp only [not_exists, not_or] at hnobody
      exact hsome ⟨List.eq_nil_iff_forall_not_mem.mpr fun o => (hnobody o).1,
        List.eq_nil_iff_forall_not_mem.mpr fun o => (hnobody o).2⟩
    rw [hpc] at ht
    have hleave : ReaderRun s [(.reader, [])] { s with reader := .returned } :=
      .cons rfl (ReaderMove.leave hpc hclosed).eq_ok .nil
    exact ⟨_, _, hleave, rfl, not_allTold ((hlisted.registered o).mpr ho) (ht o) hleave rfl⟩
  · obtain ⟨hpc, hwaits⟩ := Classical.not_imp.mp hfail
    obtain ⟨o, hnew, hobs⟩ : ∃ o ∈ s.source.newObservers, o ∉ s.source.observers := by
      simpa only [not_forall, exists_prop] using hwaits
    rw [hpc] at ht
    obtain ⟨h', s', hrest, hret, hnone⟩ := notifying_passes
      (s := { s with reader := .notifying s.source.observers }) rfl hobs
    have hall : ReaderRun s ((.reader, []) :: h') s' :=
      .cons rfl (ReaderMove.fail hpc).eq_ok hrest
    have hreg := (hlisted.registered o).mpr (Or.inr hnew)
    refine ⟨_, s', hall, hret, not_allTold hreg (ht o) hall ?_⟩
    rw [notices_cons, hnone]
    rfl

/-- In a run that leaves nobody out, `ReadPacket` returns with every
registered viewer told once; and from where its own step would leave
somebody out it returns with a registered viewer untold. -/
theorem end_reaches_all (hr : Run step NobodyLeft (started gop v a viewers) h s) :
    (∀ s' outs, NobodyLeft s .reader → step s .reader = .ok (s', outs) →
      s'.reader = .returned → AllTold (h ++ [(.reader, outs)])) ∧
    (¬ NobodyLeft s .reader →
      ∃ h' s', ReaderRun s h' s' ∧ s'.reader = .returned ∧ ¬ AllTold (h ++ h')) :=
  ⟨fun _ _ hc hs hret => told_at_return hr hc hs hret, untold_at_return hr⟩

end Runs

section Samples

/-- `av_read_frame` fails. -/
def failingAnswer : FfmpegAnswer where
  frame := none
  filtered := none
  transcoded := []

def nobody : Nat → Viewer := fun _ => ⟨false, false⟩

/-- Reading fails with one viewer in `observers_`. -/
theorem end_reaches_all_failing : ∃ h s,
    Run step NobodyLeft (started false 0 1 nobody) h s ∧
      h.map Prod.fst = [.register 0, .reader, .read failingAnswer, .reader, .reader, .reader] ∧
      s.reader = .ended ∧ AllTold (h ++ [(.reader, [])]) := by
  have hr : Run step NobodyLeft (started false 0 1 nobody)
      [(.register 0, []), (.reader, []), (.read failingAnswer, []), (.reader, []),
        (.reader, [.ended 0]), (.reader, [])] _ :=
    .cons (by decide) rfl <| .cons (by decide) rfl <| .cons (by decide) rfl <|
      .cons (by decide) rfl <| .cons (by decide) rfl <| .cons (by decide) rfl .nil
  exact ⟨_, _, hr, rfl, rfl, (end_reaches_all hr).1 _ _ (by decide) rfl rfl⟩

/-- `Stop` ends the loop, or reading fails while the viewer waits in
`new_observers_`: in both cases `ReadPacket` returns, and the viewer has not
been told. -/
theorem viewer_untold :
    (∃ h s, Run step (fun _ _ => True) (started true 0 1 nobody) h s ∧
      h.map Prod.fst = [.register 0, .stop, .reader] ∧ s.reader = .returned ∧
      Registered 0 h ∧ notices 0 h = 0) ∧
    ∃ h s, Run step (fun _ _ => True) (started true 0 1 nobody) h s ∧
      h.map Prod.fst = [.reader, .reader, .reader, .register 0, .read failingAnswer, .reader,
        .reader, .reader] ∧
      s.reader = .returned ∧ Registered 0 h ∧ notices 0 h = 0 := by
  constructor
  · have hr : Run step (fun _ _ => True) (started true 0 1 nobody)
        [(.register 0, []), (.stop, []), (.reader, [])] _ :=
      .cons trivial rfl <| .cons trivial rfl <| .cons trivial rfl .nil
    exact ⟨_, _, hr, rfl, rfl, ⟨[], [], _, rfl, by simp⟩, rfl⟩
  · have hr : Run step (fun _ _ => True) (started true 0 1 nobody)
        [(.reader, []), (.reader, []), (.reader, []), (.register 0, []),
          (.read failingAnswer, []), (.reader, []), (.reader, []), (.reader, [])] _ :=
      .cons trivial rfl <| .cons trivial rfl <| .cons trivial rfl <| .cons trivial rfl <|
        .cons trivial rfl <| .cons trivial rfl <| .cons trivial rfl <| .cons trivial rfl .nil
    refine ⟨_, _, hr, rfl, rfl, ?_, rfl⟩
    exact ⟨[(.reader, []), (.reader, []), (.reader, [])], [], _, rfl, by simp⟩

end Samples

end LiveSource

end WebrtcServer
