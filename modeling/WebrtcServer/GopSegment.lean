/-
# `GopSegment` — what a viewer receives of a stream

With the cache, a new viewer waits until the reader admits it, is given the
cached packets, and from then on every packet, until it is deregistered.
What it has been given and what the reader's current loop still has for it
are together the packets from the last video key before the admission on.
-/
import WebrtcServer.MediaSource
import WebrtcServer.Lib.Restart
import Mathlib.Data.List.Count
import Mathlib.Data.List.TakeWhile

namespace WebrtcServer

open Lib

namespace LiveSource

variable {ι : Type} [DecidableEq ι]

/-! ## The stream and what a viewer receives of it -/

omit [DecidableEq ι] in
def Output.generated? : Output ι → Option SourcePacket
  | .generated p => some p
  | _ => none

def Output.receivedBy (o : ι) : Output ι → Option SourcePacket
  | .received x p => if x = o then some p else none
  | _ => none

/-- The packets of the stream, in order. -/
def generated (h : List (Event ι × List (Output ι))) : List SourcePacket :=
  (outputs h).filterMap Output.generated?

/-- The packets that a viewer has been given, in order. -/
def received (o : ι) (h : List (Event ι × List (Output ι))) : List SourcePacket :=
  (outputs h).filterMap (Output.receivedBy o)

/-- How often a viewer has been registered. -/
def registrations (o : ι) (h : List (Event ι × List (Output ι))) : Nat :=
  h.countP fun x => decide (x.1 = .register o)

/-- The part of a history before the viewer is deregistered. -/
def watching (o : ι) (h : List (Event ι × List (Output ι))) :
    List (Event ι × List (Output ι)) :=
  h.takeWhile fun x => decide (x.1 ≠ .deregister o)

section Streams

variable {o : ι} {h h' : List (Event ι × List (Output ι))} {x : Event ι × List (Output ι)}

omit [DecidableEq ι] in
theorem generated_append : generated (h ++ h') = generated h ++ generated h' := by
  rw [generated, outputs_append, List.filterMap_append, generated, generated]

omit [DecidableEq ι] in
theorem generated_snoc : generated (h ++ [x]) = generated h ++ x.2.filterMap Output.generated? := by
  rw [generated, outputs_snoc, List.filterMap_append, generated]

theorem received_append : received o (h ++ h') = received o h ++ received o h' := by
  rw [received, outputs_append, List.filterMap_append, received, received]

theorem received_snoc :
    received o (h ++ [x]) = received o h ++ x.2.filterMap (Output.receivedBy o) := by
  rw [received, outputs_snoc, List.filterMap_append, received]

variable {s : LiveSource ι} {p : SourcePacket} {l : List ι} {v : ι}

omit [DecidableEq ι] in
/-- A call is no new packet. -/
theorem generated_receipt : (s.receipt v p).filterMap Output.generated? = [] := by
  rw [receipt]
  split <;> rfl

theorem received_receipt :
    (s.receipt v p).filterMap (Output.receivedBy o) = if v = o then [p] else [] := by
  by_cases hv : v = o <;> rw [receipt] <;> split <;> simp [Output.receivedBy, hv]

omit [DecidableEq ι] in
theorem not_admitted_receipt : .admitted o ∉ s.receipt v p := by
  rw [receipt]
  split <;> simp

omit [DecidableEq ι] in
theorem generated_admitted : (l.map Output.admitted).filterMap Output.generated? = [] := by
  simp [Output.generated?]

theorem received_admitted : (l.map Output.admitted).filterMap (Output.receivedBy o) = [] := by
  simp [Output.receivedBy]

end Streams

/-! ## The cache -/

/-- The packet whose delivery has begun, and which is not yet cached. -/
def inFlight : ReaderPc ι → List SourcePacket
  | .delivering p _ _ => [p]
  | _ => []

/-- The cache holds the stream from its last key on. -/
def Caches (h : List (Event ι × List (Output ι))) (s : LiveSource ι) : Prop :=
  s.source.enableGopCache = true ∧ ∃ stored i, generated h = stored ++ inFlight s.reader ∧
    StartsAt SourcePacket.isVideoKey stored i ∧ s.source.gopCache = stored.drop i

omit [DecidableEq ι] in
theorem inFlight_of_free {pc : ReaderPc ι} (h : pc.holdsMutex = false) : inFlight pc = [] := by
  cases pc <;> first | rfl | cases h

section Caches

variable {h : List (Event ι × List (Output ι))} {s s' : LiveSource ι} {e : Event ι}
  {outs : List (Output ι)}

omit [DecidableEq ι] in
/-- Most steps generate nothing and leave the cache alone. -/
theorem Caches.same (hinv : Caches h s) (hnone : outs.filterMap Output.generated? = [])
    (hflight : inFlight s'.reader = inFlight s.reader)
    (hgop : s'.source.enableGopCache = s.source.enableGopCache)
    (hcache : s'.source.gopCache = s.source.gopCache) : Caches (h ++ [(e, outs)]) s' := by
  obtain ⟨hon, stored, i, hgen, hstart, hdrop⟩ := hinv
  refine ⟨hgop.trans hon, stored, i, ?_, hstart, hcache.trans hdrop⟩
  rw [generated_snoc, hnone, hflight, List.append_nil, hgen]

theorem caches_step (hinv : Caches h s) (hs : step s e = .ok (s', outs)) :
    Caches (h ++ [(e, outs)]) s' := by
  cases step_move hs with
  | register =>
      refine hinv.same rfl rfl ?_ ?_ <;> simp only [MediaSource.registerObserver] <;> split <;> rfl
  | deregister | stop | connect | shutdown => exact hinv.same rfl rfl rfl rfl
  | @read answer hpc =>
      obtain ⟨-, -, hcache, hgop, -⟩ := MediaSource.demux_frame (s := s.source) answer
      refine hinv.same rfl ?_ hgop hcache
      rw [hpc]
      exact inFlight_of_free (MediaSource.demux_free answer)
  | reader hmove =>
      cases hmove with
      | leave hpc | check hpc | read hpc | admitted hpc | observe hpc | turn hpc | fail hpc
      | notified hpc | notify hpc | return_ hpc => exact hinv.same rfl (by rw [hpc]; rfl) rfl rfl
      | admission hpc => exact hinv.same generated_admitted (by rw [hpc]; rfl) rfl rfl
      | replay hpc | call hpc => exact hinv.same generated_receipt (by rw [hpc]; rfl) rfl rfl
      | @deliver p out hpc =>
          obtain ⟨hon, stored, i, hgen, hstart, hdrop⟩ := hinv
          refine ⟨hon, stored, i, ?_, hstart, hdrop⟩
          rw [hpc] at hgen
          rw [generated_snoc, hgen]
          simp [inFlight, Output.generated?]
      | @delivered p out hpc =>
          -- what was in flight is stored
          obtain ⟨hon, stored, i, hgen, hstart, hdrop⟩ := hinv
          obtain ⟨j, hstart', hrestart⟩ := hstart.restart p
          have hcacheOn := (MediaSource.cachePacket_lists p).2.2.trans hon
          refine ⟨hcacheOn, stored ++ [p], j, ?_, hstart', ?_⟩
          · rw [hpc] at hgen
            rw [generated_snoc, hgen]
            simp [inFlight]
          · rw [← hrestart, ← hdrop]
            simp only [MediaSource.cachePacket, hon, if_true]
            rfl

theorem caches_of_run {C : LiveSource ι → Event ι → Prop} {v a : Int} {viewers : ι → Viewer}
    (hr : Run step C (started true v a viewers) h s) : Caches h s :=
  hr.invariant (I := Caches) ⟨rfl, [], 0, rfl, startsAt_nil, rfl⟩
    fun _ _ _ _ _ hinv _ hs => caches_step hinv hs

end Caches

/-! ## Before the admission, and after the end -/

/-- The viewers of the reader's current loop. -/
def inLoop : ReaderPc ι → List ι
  | .admitting _ todo _ => todo
  | .delivering _ todo _ => todo
  | _ => []

/-- The reader does not know the viewer, though it may wait. -/
structure Outside (o : ι) (s : LiveSource ι) : Prop where
  cached : s.source.enableGopCache = true
  notObserver : o ∉ s.source.observers
  notInLoop : o ∉ inLoop s.reader

section Outside

variable {o : ι} {s s' : LiveSource ι} {e : Event ι} {outs : List (Output ι)}

omit [DecidableEq ι] in
theorem not_inLoop_of_free {pc : ReaderPc ι} (h : pc.holdsMutex = false) : o ∉ inLoop pc := by
  cases pc <;> first | exact List.not_mem_nil | cases h

/-- A viewer whom the reader does not know is given nothing, and the reader
comes to know it by admitting it. -/
theorem outside_step (hout : Outside o s) (hs : step s e = .ok (s', outs))
    (hadm : .admitted o ∉ outs) : Outside o s' ∧ outs.filterMap (Output.receivedBy o) = [] := by
  obtain ⟨hon, hobs, hloop⟩ := hout
  cases step_move hs with
  | register hfree =>
      simp only [MediaSource.registerObserver, hon, if_true]
      exact ⟨⟨rfl, hobs, hloop⟩, rfl⟩
  | deregister hfree => exact ⟨⟨hon, fun h => hobs (List.mem_of_mem_erase h), hloop⟩, rfl⟩
  | stop | connect | shutdown => exact ⟨⟨hon, hobs, hloop⟩, rfl⟩
  | @read answer hpc =>
      obtain ⟨hobs', -, -, hgop, -⟩ := MediaSource.demux_frame (s := s.source) answer
      refine ⟨⟨hgop.trans hon, hobs' ▸ hobs, ?_⟩, rfl⟩
      exact not_inLoop_of_free (MediaSource.demux_free answer)
  | reader hmove =>
      cases hmove with
      | leave | check | read | admitted | turn | fail | notified | return_ | notify =>
          exact ⟨⟨hon, hobs, List.not_mem_nil⟩, rfl⟩
      | admission =>
          refine ⟨⟨hon, hobs, fun hnew => hadm ?_⟩, received_admitted⟩
          exact List.mem_map_of_mem hnew
      | @observe cached x todo hpc =>
          obtain ⟨hne, hrest⟩ : o ≠ x ∧ o ∉ todo := by
            rwa [hpc, inLoop, List.mem_cons, not_or] at hloop
          refine ⟨⟨hon, fun h => ?_, hrest⟩, rfl⟩
          exact (MediaSource.mem_pushAbsent.mp h).elim hobs hne
      | @replay cached left x todo p hpc =>
          rw [hpc] at hloop
          refine ⟨⟨hon, hobs, hloop⟩, ?_⟩
          rw [received_receipt, if_neg]
          rintro rfl
          exact hloop List.mem_cons_self
      | deliver => exact ⟨⟨hon, hobs, hobs⟩, rfl⟩
      | delivered =>
          obtain ⟨hobs', -, hgop⟩ := MediaSource.cachePacket_lists (s := s.source) _
          exact ⟨⟨hgop.trans hon, hobs' ▸ hobs, List.not_mem_nil⟩, rfl⟩
      | @call p x todo out hpc =>
          obtain ⟨hne, hrest⟩ : o ≠ x ∧ o ∉ todo := by
            rwa [hpc, inLoop, List.mem_cons, not_or] at hloop
          refine ⟨⟨hon, hobs, hrest⟩, ?_⟩
          rw [received_receipt, if_neg (Ne.symm hne)]

/-- Without a registration nobody is put into `new_observers_`. -/
theorem not_waiting_step (hwait : o ∉ s.source.newObservers) (hs : step s e = .ok (s', outs))
    (he : e ≠ .register o) : o ∉ s'.source.newObservers ∧ .admitted o ∉ outs := by
  cases step_move hs with
  | @register x hfree =>
      have hne : o ≠ x := by
        rintro rfl
        exact he rfl
      refine ⟨fun h => ?_, List.not_mem_nil⟩
      simp only [MediaSource.registerObserver] at h
      split at h
      · exact (MediaSource.mem_pushAbsent.mp h).elim hwait hne
      · exact hwait h
  | deregister hfree =>
      refine ⟨fun h => hwait ?_, List.not_mem_nil⟩
      simp only [MediaSource.deregisterObserver] at h
      split at h
      · exact List.mem_of_mem_erase h
      · exact h
  | stop | connect | shutdown => exact ⟨hwait, List.not_mem_nil⟩
  | @read answer hpc =>
      obtain ⟨-, hnew, -⟩ := MediaSource.demux_frame (s := s.source) answer
      exact ⟨hnew ▸ hwait, List.not_mem_nil⟩
  | reader hmove =>
      cases hmove with
      | admission => exact ⟨hwait, by simpa using hwait⟩
      | admitted => exact ⟨List.not_mem_nil, List.not_mem_nil⟩
      | replay | call => exact ⟨hwait, not_admitted_receipt⟩
      | delivered =>
          obtain ⟨-, hnew, -⟩ := MediaSource.cachePacket_lists (s := s.source) _
          exact ⟨hnew ▸ hwait, List.not_mem_nil⟩
      | _ => exact ⟨hwait, by simp⟩

theorem outside_of_run {C : LiveSource ι → Event ι → Prop} {v a : Int} {viewers : ι → Viewer}
    {h : List (Event ι × List (Output ι))} (hr : Run step C (started true v a viewers) h s)
    (hadm : .admitted o ∉ outputs h) : Outside o s ∧ received o h = [] := by
  refine hr.invariant (I := fun h s => .admitted o ∉ outputs h → Outside o s ∧ received o h = [])
    (fun _ => ⟨⟨rfl, List.not_mem_nil, List.not_mem_nil⟩, rfl⟩) ?_ hadm
  intro h s e s' outs hinv _ hs hadm
  rw [outputs_snoc, List.mem_append, not_or] at hadm
  obtain ⟨hout, hnone⟩ := hinv hadm.1
  obtain ⟨hout', hnone'⟩ := outside_step hout hs hadm.2
  exact ⟨hout', by rw [received_snoc, hnone, hnone', List.append_nil]⟩

/-- A viewer that is in no list and is not registered receives nothing. -/
theorem absent_run {C : LiveSource ι → Event ι → Prop} {h : List (Event ι × List (Output ι))}
    (hout : Outside o s) (hwait : o ∉ s.source.newObservers) (hr : Run step C s h s')
    (hnever : ∀ x ∈ h, x.1 ≠ .register o) : received o h = [] := by
  have hinv : (∀ x ∈ h, x.1 ≠ .register o) →
      Outside o s' ∧ o ∉ s'.source.newObservers ∧ received o h = [] := by
    refine hr.invariant (I := fun h s' => (∀ x ∈ h, x.1 ≠ .register o) →
      Outside o s' ∧ o ∉ s'.source.newObservers ∧ received o h = []) (fun _ => ⟨hout, hwait, rfl⟩) ?_
    intro h t e t' outs hinv _ hs hnever
    obtain ⟨hout, hwait, hnone⟩ := hinv fun x hx => hnever x (List.mem_append_left _ hx)
    obtain ⟨hwait', hadm⟩ := not_waiting_step hwait hs (hnever (e, outs) (by simp))
    obtain ⟨hout', hnone'⟩ := outside_step hout hs hadm
    exact ⟨hout', hwait', by rw [received_snoc, hnone, hnone', List.append_nil]⟩
  exact (hinv hnever).2.2

end Outside

/-! ## Between the two -/

/-- What the reader's current loop has still to give to the viewer. -/
def due (o : ι) : ReaderPc ι → List SourcePacket
  | .admitting cached todo left =>
      if o ∈ todo then if todo.head? = some o then left else cached else []
  | .delivering p todo _ => if o ∈ todo then [p] else []
  | _ => []

/-- Where an admitted viewer is: in the loop that hands over the cache, or
in `observers_`. -/
def Known (o : ι) (cached : List SourcePacket) (h : List (Event ι × List (Output ι)))
    (s : LiveSource ι) : Prop :=
  match s.reader with
  | .admitting copy todo _ =>
      (o ∈ todo ∧ copy = cached ∧ generated h = []) ∨ (o ∉ todo ∧ o ∈ s.source.observers)
  | _ => o ∈ s.source.observers ∧ o ∉ s.source.newObservers

/-- A viewer admitted with the packets `cached`, after the history `h` since
then. -/
structure Watched (o : ι) (cached : List SourcePacket) (h : List (Event ι × List (Output ι)))
    (s : LiveSource ι) : Prop where
  known : Known o cached h s
  /-- Given and due together are the whole stream. -/
  ledger : received o h ++ due o s.reader = cached ++ generated h

section Watched

variable {o : ι} {cached : List SourcePacket} {h : List (Event ι × List (Output ι))}
  {s s' : LiveSource ι} {e : Event ι} {outs : List (Output ι)}

theorem due_of_free {pc : ReaderPc ι} (hfree : pc.holdsMutex = false) : due o pc = [] := by
  cases pc <;> first | rfl | cases hfree

omit [DecidableEq ι] in
theorem known_of_free (hfree : s.reader.holdsMutex = false) :
    Known o cached h s ↔ o ∈ s.source.observers ∧ o ∉ s.source.newObservers := by
  rw [Known]
  split
  · rename_i hpc
    rw [hpc] at hfree
    cases hfree
  · exact Iff.rfl

/-- A step that neither generates nor gives anything, between places where
nothing is due. -/
theorem Watched.quiet (hw : Watched o cached h s) (hdue : due o s.reader = [])
    (hdue' : due o s'.reader = []) (hgen : outs.filterMap Output.generated? = [])
    (hrec : outs.filterMap (Output.receivedBy o) = [])
    (hknown : Known o cached (h ++ [(e, outs)]) s') : Watched o cached (h ++ [(e, outs)]) s' := by
  have hledger := hw.ledger
  rw [hdue, List.append_nil] at hledger
  refine ⟨hknown, ?_⟩
  rw [received_snoc, generated_snoc, hdue', hgen, hrec]
  simpa using hledger

/-- What the other threads do leaves an admitted viewer where it is. -/
theorem watched_others (hw : Watched o cached h s) (hs : step s e = .ok (s', outs))
    (he : e ≠ .reader) (hreg : e ≠ .register o) (hdereg : e ≠ .deregister o) :
    Watched o cached (h ++ [(e, outs)]) s' := by
  have hgen : generated (h ++ [(e, [])]) = generated h := by simp [generated_snoc]
  cases step_move hs with
  | @register x hfree =>
      obtain ⟨hobs, hnew⟩ := (known_of_free hfree).mp hw.known
      have hne : o ≠ x := by
        rintro rfl
        exact hreg rfl
      refine hw.quiet (due_of_free hfree) (due_of_free hfree) rfl rfl
        ((known_of_free (by exact hfree)).mpr ?_)
      simp only [MediaSource.registerObserver]
      split
      · exact ⟨hobs, fun h => (MediaSource.mem_pushAbsent.mp h).elim hnew hne⟩
      · exact ⟨MediaSource.mem_pushAbsent.mpr (Or.inl hobs), hnew⟩
  | @deregister x hfree =>
      obtain ⟨hobs, hnew⟩ := (known_of_free hfree).mp hw.known
      have hne : o ≠ x := by
        rintro rfl
        exact hdereg rfl
      refine hw.quiet (due_of_free hfree) (due_of_free hfree) rfl rfl
        ((known_of_free (by exact hfree)).mpr ?_)
      simp only [MediaSource.deregisterObserver]
      refine ⟨(List.mem_erase_of_ne hne).mpr hobs, ?_⟩
      split
      · exact fun h => hnew (List.mem_of_mem_erase h)
      · exact hnew
  | stop | connect | shutdown =>
      obtain ⟨hknown, hledger⟩ := hw
      refine ⟨?_, ?_⟩
      · rw [Known, hgen]
        exact hknown
      · simp only [received_snoc, hgen, List.filterMap_nil, List.append_nil]
        exact hledger
  | @read answer hpc =>
      have hfree : s.reader.holdsMutex = false := by rw [hpc]; rfl
      have hfree' := MediaSource.demux_free (s := s.source) answer
      obtain ⟨hobs', hnew', -⟩ := MediaSource.demux_frame (s := s.source) answer
      refine hw.quiet (due_of_free hfree) (due_of_free hfree') rfl rfl
        ((known_of_free hfree').mpr ?_)
      rw [hobs', hnew']
      exact (known_of_free hfree).mp hw.known
  | reader => exact absurd rfl he

theorem watched_reader (ho : s.Ordered) (hw : Watched o cached h s)
    (hmove : ReaderMove s s' outs) : Watched o cached (h ++ [(.reader, outs)]) s' := by
  obtain ⟨⟨hobs, hnew, -⟩, hwalks⟩ := ho
  obtain ⟨hknown, hledger⟩ := id hw
  cases hmove with
  | leave hpc | check hpc | read hpc | turn hpc | fail hpc | notified hpc | notify hpc
  | return_ hpc =>
      simp only [Known, hpc] at hknown
      exact hw.quiet (by rw [hpc]; rfl) rfl rfl rfl hknown
  | admission hpc =>
      simp only [Known, hpc] at hknown
      refine hw.quiet (by rw [hpc]; rfl) (if_neg hknown.2) generated_admitted received_admitted ?_
      exact Or.inr ⟨hknown.2, hknown.1⟩
  | admitted hpc =>
      simp only [Known, hpc, List.not_mem_nil, false_and, false_or, not_false_eq_true,
        true_and] at hknown
      exact hw.quiet (by rw [hpc]; rfl) rfl rfl rfl ⟨hknown, List.not_mem_nil⟩
  | @observe copy x todo hpc =>
      rw [hpc] at hwalks
      have honce : x ∉ todo := (List.nodup_cons.mp (hnew.sublist hwalks.1.sublist)).1
      simp only [Known, hpc] at hknown
      by_cases hx : o = x
      · -- the viewer has all of the cache and joins the observers
        subst hx
        refine hw.quiet (by simp [hpc, due]) (if_neg honce) rfl rfl ?_
        exact Or.inr ⟨honce, MediaSource.mem_pushAbsent.mpr (Or.inr rfl)⟩
      · have hdue : due o (.admitting copy todo copy) = due o s.reader := by
          simp [hpc, due, hx, Ne.symm hx]
        constructor
        · simp only [Known, generated_snoc, List.filterMap_nil, List.append_nil]
          rcases hknown with ⟨hin, hcopy⟩ | ⟨hout, hin⟩
          · exact Or.inl ⟨List.mem_of_ne_of_mem hx hin, hcopy⟩
          · exact Or.inr ⟨fun h => hout (List.mem_cons_of_mem x h),
              MediaSource.mem_pushAbsent.mpr (Or.inl hin)⟩
        · rw [received_snoc, generated_snoc, hdue]
          simpa using hledger
  | @replay copy left x todo p hpc =>
      simp only [Known, hpc] at hknown
      constructor
      · simp only [Known, generated_snoc, generated_receipt, List.append_nil]
        exact hknown
      · rw [received_snoc, generated_snoc, generated_receipt, received_receipt, List.append_nil,
          ← hledger, hpc]
        by_cases hx : o = x
        · subst hx
          simp [due]
        · simp [due, hx, Ne.symm hx]
  | @deliver p out hpc =>
      simp only [Known, hpc] at hknown
      rw [due_of_free (by rw [hpc]; rfl), List.append_nil] at hledger
      refine ⟨hknown, ?_⟩
      rw [received_snoc, generated_snoc, due, if_pos hknown.1, ← List.append_assoc, ← hledger]
      simp [Output.receivedBy, Output.generated?]
  | @delivered p out hpc =>
      obtain ⟨hobs', hnew', -⟩ := MediaSource.cachePacket_lists (s := s.source) p
      simp only [Known, hpc] at hknown
      refine hw.quiet (by simp [hpc, due]) rfl rfl rfl ?_
      rw [known_of_free rfl, hobs', hnew']
      exact hknown
  | @call p x todo out hpc =>
      rw [hpc] at hwalks
      have honce : x ∉ todo := (List.nodup_cons.mp (hobs.sublist hwalks.sublist)).1
      simp only [Known, hpc] at hknown
      refine ⟨hknown, ?_⟩
      rw [received_snoc, generated_snoc, generated_receipt, received_receipt, List.append_nil,
        ← hledger, hpc]
      by_cases hx : o = x
      · subst hx
        simp [due, honce]
      · simp [due, hx, Ne.symm hx]

/-- From its admission until it is deregistered a viewer stays watched. -/
theorem watched_run {C : LiveSource ι → Event ι → Prop} {t : LiveSource ι} (ho : s.Ordered)
    (hw : Watched o cached [] s) (hr : Run step C s h t) (hreg : ∀ x ∈ h, x.1 ≠ .register o)
    (hdereg : ∀ x ∈ h, x.1 ≠ .deregister o) : Watched o cached h t := by
  have hinv : (∀ x ∈ h, x.1 ≠ .register o) → (∀ x ∈ h, x.1 ≠ .deregister o) →
      t.Ordered ∧ Watched o cached h t := by
    refine hr.invariant (I := fun h t => (∀ x ∈ h, x.1 ≠ .register o) →
      (∀ x ∈ h, x.1 ≠ .deregister o) → t.Ordered ∧ Watched o cached h t) (fun _ _ => ⟨ho, hw⟩) ?_
    intro h t e t' outs hinv _ hs hreg hdereg
    obtain ⟨ho, hw⟩ := hinv (fun x hx => hreg x (List.mem_append_left _ hx))
      fun x hx => hdereg x (List.mem_append_left _ hx)
    refine ⟨ho.step hs, ?_⟩
    by_cases he : e = .reader
    · subst he
      exact watched_reader ho hw (readerStep_move hs)
    · exact watched_others hw hs he (hreg (e, outs) (by simp)) (hdereg (e, outs) (by simp))
  exact (hinv hreg hdereg).2

/-- The step that admits a viewer finds it waiting, and begins to watch. -/
theorem watched_admitted (hs : step s e = .ok (s', outs)) (hadm : .admitted o ∈ outs) :
    s.reader = .checkNewObserver ∧ o ∈ s.source.newObservers ∧
      outs = s.source.newObservers.map .admitted ∧ Watched o s.source.gopCache [] s' := by
  cases step_move hs with
  | register | deregister | stop | connect | shutdown | read => cases hadm
  | reader hmove =>
      cases hmove with
      | admission hpc =>
          have hnew : o ∈ s.source.newObservers := by simpa using hadm
          refine ⟨hpc, hnew, rfl, Or.inl ⟨hnew, rfl, rfl⟩, ?_⟩
          simp [due, hnew, received, generated, outputs]
      | replay | call => exact absurd hadm not_admitted_receipt
      | _ => simp at hadm

end Watched

/-! ## One registration, one admission -/

/-- The registrations that the reader has not yet answered. -/
def waiting (o : ι) (s : LiveSource ι) : Nat :=
  match s.reader with
  | .admitting .. => 0
  | _ => s.source.newObservers.count o

section Admissions

variable {o : ι} {h : List (Event ι × List (Output ι))} {s s' : LiveSource ι} {e : Event ι}
  {outs : List (Output ι)}

theorem waiting_of_free (hfree : s.reader.holdsMutex = false) :
    waiting o s = s.source.newObservers.count o := by
  rw [waiting]
  split
  · rename_i hpc
    rw [hpc] at hfree
    cases hfree
  · rfl

theorem count_pushAbsent {l : List ι} {x : ι} :
    (MediaSource.pushAbsent l x).count o ≤ l.count o + if x = o then 1 else 0 := by
  rw [MediaSource.pushAbsent]
  split
  · exact Nat.le_add_right _ _
  · rw [List.count_append, List.count_singleton]
    simp [beq_eq_decide]

theorem admissions_step (hs : step s e = .ok (s', outs)) :
    outs.count (.admitted o) + waiting o s' ≤
      waiting o s + if e = .register o then 1 else 0 := by
  cases step_move hs with
  | @register x hfree =>
      rw [waiting_of_free hfree, waiting_of_free (by exact hfree)]
      simp only [MediaSource.registerObserver, Event.register.injEq, List.count_nil, Nat.zero_add]
      split
      · exact count_pushAbsent
      · exact Nat.le_add_right _ _
  | @deregister x hfree =>
      rw [waiting_of_free hfree, waiting_of_free (by exact hfree)]
      simp only [MediaSource.deregisterObserver, List.count_nil, Nat.zero_add]
      split
      · exact Nat.le_add_right_of_le (List.erase_sublist.count_le o)
      · exact Nat.le_add_right _ _
  | stop | connect | shutdown =>
      rw [List.count_nil, Nat.zero_add]
      exact Nat.le_add_right _ _
  | @read answer hpc =>
      obtain ⟨-, hnew, -⟩ := MediaSource.demux_frame (s := s.source) answer
      have hafter := waiting_of_free (o := o) (s := { s with
        source := (s.source.demux answer).1, reader := (s.source.demux answer).2 })
        (MediaSource.demux_free answer)
      rw [waiting_of_free (s := s) (by rw [hpc]; rfl), hafter, hnew, List.count_nil, Nat.zero_add]
      exact Nat.le_add_right _ _
  | reader hmove =>
      refine Nat.le_add_right_of_le ?_
      cases hmove with
      | admission hpc =>
          have hinj : Function.Injective (Output.admitted : ι → Output ι) :=
            fun _ _ heq => Output.admitted.inj heq
          rw [List.count_map_of_injective _ _ hinj, waiting_of_free (s := s) (by rw [hpc]; rfl)]
          exact Nat.le_refl _
      | admitted => exact Nat.zero_le _
      | replay hpc | call hpc =>
          rw [List.count_eq_zero.mpr not_admitted_receipt, Nat.zero_add]
          simp only [waiting, hpc, Nat.le_refl]
      | @delivered p out hpc =>
          obtain ⟨-, hnew, -⟩ := MediaSource.cachePacket_lists (s := s.source) p
          simp only [waiting, hpc, hnew, List.count_nil, Nat.zero_add, Nat.le_refl]
      | leave hpc | check hpc | read hpc | observe hpc | turn hpc | deliver hpc | fail hpc
      | notified hpc | notify hpc | return_ hpc =>
          simp [waiting, hpc, release]

theorem registrations_append {h' : List (Event ι × List (Output ι))} :
    registrations o (h ++ h') = registrations o h + registrations o h' := by
  rw [registrations, List.countP_append, registrations, registrations]

theorem admissions_le {C : LiveSource ι → Event ι → Prop} {v a : Int} {viewers : ι → Viewer}
    (hr : Run step C (started true v a viewers) h s) :
    (outputs h).count (.admitted o) + waiting o s ≤ registrations o h := by
  have hinit : (outputs ([] : List (Event ι × List (Output ι)))).count (.admitted o) +
      waiting o (started true v a viewers) ≤ registrations o [] := Nat.le_refl 0
  refine hr.invariant (I := fun h s =>
    (outputs h).count (.admitted o) + waiting o s ≤ registrations o h) hinit ?_
  intro h s e s' outs hinv _ hs
  have hstep := admissions_step (o := o) hs
  have hone : registrations o [(e, outs)] = if e = .register o then 1 else 0 := by
    simp [registrations, List.countP_cons]
  rw [outputs_append, List.count_append, registrations_append, hone]
  have houts : outputs [(e, outs)] = outs := by simp [outputs]
  rw [houts]
  omega

end Admissions

/-! ## The whole time -/

section Runs

variable {C : LiveSource ι → Event ι → Prop} {v a : Int} {viewers : ι → Viewer}
  {h : List (Event ι × List (Output ι))} {s : LiveSource ι} {o : ι}

theorem not_register_of_zero (hzero : registrations o h = 0) : ∀ x ∈ h, x.1 ≠ .register o := by
  intro x hx heq
  have hnone := List.countP_eq_zero.mp hzero x hx
  exact hnone (decide_eq_true heq)

theorem watching_kept : ∀ x ∈ watching o h, x.1 ≠ .deregister o := by
  intro x hx
  unfold watching at hx
  have hkept := List.mem_takeWhile_imp hx
  exact of_decide_eq_true hkept

theorem watching_all (hd : ¬ ∃ y ∈ h, y.1 = .deregister o) : watching o h = h := by
  refine List.takeWhile_eq_self_iff.mpr fun x hx => decide_eq_true ?_
  exact fun heq => hd ⟨x, hx, heq⟩

/-- The history up to the deregistration, and what comes after it. -/
theorem watching_split (hd : ∃ y ∈ h, y.1 = .deregister o) :
    ∃ outs g, h = watching o h ++ (.deregister o, outs) :: g := by
  induction h with
  | nil =>
      obtain ⟨y, hy, -⟩ := hd
      cases hy
  | cons x h ih =>
      by_cases hx : x.1 = .deregister o
      · refine ⟨x.2, h, ?_⟩
        rw [watching, List.takeWhile_cons_of_neg (by simp [hx]), List.nil_append, ← hx]
      · obtain ⟨y, hy, heq⟩ := hd
        have hyt := (List.mem_cons.mp hy).resolve_left (fun h => hx (h ▸ heq))
        obtain ⟨outs, g, hh⟩ := ih ⟨y, hyt, heq⟩
        refine ⟨outs, g, ?_⟩
        rw [watching, List.takeWhile_cons_of_pos (by simp [hx]), List.cons_append]
        exact congrArg (x :: ·) hh

/-- A deregistration finds the whole stream given, and ends it. -/
theorem watched_deregistered {cached : List SourcePacket} {s' : LiveSource ι}
    {outs : List (Output ι)} (hon : s.source.enableGopCache = true) (ho : s.Ordered)
    (hw : Watched o cached h s) (hs : step s (.deregister o) = .ok (s', outs)) :
    received o h = cached ++ generated h ∧ outs = [] ∧ Outside o s' ∧
      o ∉ s'.source.newObservers := by
  cases step_move hs with
  | deregister hfree =>
      obtain ⟨hobs, hnew⟩ := (known_of_free hfree).mp hw.known
      have hledger := hw.ledger
      rw [due_of_free hfree, List.append_nil] at hledger
      refine ⟨hledger, rfl, ⟨hon, ?_, not_inLoop_of_free hfree⟩, ?_⟩
      · exact fun h => (ho.tidy.observers.mem_erase_iff.mp h).1 rfl
      · simp only [MediaSource.deregisterObserver, hon, if_true]
        exact fun h => hnew (List.mem_of_mem_erase h)

/-- A watched viewer that is not registered again gets the cache and what is
delivered after it, until it is deregistered. -/
theorem received_watched {h₀ : List (Event ι × List (Output ι))} {t : LiveSource ι}
    {cached : List SourcePacket} (hr₀ : Run step C (started true v a viewers) h₀ t)
    (hw : Watched o cached [] t) (hr : Run step C t h s) (hnever : ∀ x ∈ h, x.1 ≠ .register o) :
    received o h <+: cached ++ generated (watching o h) ∧
      (s.reader.holdsMutex = false ∨ (∃ y ∈ h, y.1 = .deregister o) →
        received o h = cached ++ generated (watching o h)) := by
  have ho : t.Ordered := ordered_of_run hr₀
  by_cases hd : ∃ y ∈ h, y.1 = .deregister o
  · obtain ⟨outs', g', hh⟩ := watching_split hd
    rw [hh] at hr hnever
    obtain ⟨u, hru, hru'⟩ := hr.cut
    obtain ⟨u', -, hs', hrest⟩ := hru'.uncons
    have hall := hr₀.trans hru
    have hwu := watched_run ho hw hru (fun x hx => hnever x (List.mem_append_left _ hx))
      watching_kept
    obtain ⟨hgiven, rfl, hout, hwait⟩ :=
      watched_deregistered (caches_of_run hall).1 (ordered_of_run hall) hwu hs'
    have hafter : received o g' = [] := absent_run hout hwait hrest fun x hx =>
      hnever x (List.mem_append_right _ (List.mem_cons_of_mem _ hx))
    have hwhole : received o h = cached ++ generated (watching o h) :=
      calc received o h
          = received o (watching o h ++ [(.deregister o, [])] ++ g') := by
            rw [List.append_assoc]
            exact congrArg (received o) hh
        _ = received o (watching o h) := by
            rw [received_append, received_append, hafter]
            simp [received, outputs]
        _ = cached ++ generated (watching o h) := hgiven
    rw [hwhole]
    exact ⟨List.prefix_refl _, fun _ => rfl⟩
  · have hw₂ := watched_run ho hw hr hnever fun x hx heq => hd ⟨x, hx, heq⟩
    rw [watching_all hd, ← hw₂.ledger]
    refine ⟨List.prefix_append _ _, ?_⟩
    rintro (hfree | hd')
    · rw [due_of_free hfree, List.append_nil]
    · exact absurd hd' hd

/-- A viewer that is registered once receives the stream from the last video
key before its admission, or from the start, as far as it has been
delivered, until it is deregistered. -/
theorem received_segment (hr : Run step C (started true v a viewers) h s)
    (honce : registrations o h ≤ 1) :
    (.admitted o ∉ outputs h → received o h = []) ∧
    ∀ h₁ x h₂, h = h₁ ++ x :: h₂ → .admitted o ∈ x.2 →
      ∃ i, StartsAt SourcePacket.isVideoKey (generated h₁) i ∧
        received o h <+: (generated (h₁ ++ x :: watching o h₂)).drop i ∧
        (s.reader.holdsMutex = false ∨ (∃ y ∈ h₂, y.1 = .deregister o) →
          received o h = (generated (h₁ ++ x :: watching o h₂)).drop i) := by
  refine ⟨fun hadm => (outside_of_run hr hadm).2, ?_⟩
  rintro h₁ ⟨e, outs⟩ h₂ rfl hadm
  obtain ⟨t, hr₁, hr'⟩ := hr.cut
  obtain ⟨t', hc, hs, hr₂⟩ := hr'.uncons
  obtain ⟨hpc, hnew, rfl, hw⟩ := watched_admitted hs hadm
  have hcons : ∀ g, (e, t.source.newObservers.map .admitted) :: g =
      [(e, t.source.newObservers.map Output.admitted)] ++ g := fun _ => rfl
  -- the one registration comes before the admission, and there is no other admission
  have hbefore := admissions_le (o := o) hr₁
  have hwaits : 0 < waiting o t := by
    rw [waiting_of_free (by rw [hpc]; rfl)]
    exact List.count_pos_iff.mpr hnew
  rw [registrations_append, hcons, registrations_append] at honce
  have hnever : ∀ x ∈ h₂, x.1 ≠ .register o := not_register_of_zero (by omega)
  have hnone : received o h₁ = [] :=
    (outside_of_run hr₁ (List.count_eq_zero.mp (by omega))).2
  obtain ⟨hon, stored, i, hgen, hstart, hdrop⟩ := caches_of_run hr₁
  obtain rfl : generated h₁ = stored := by
    rw [hgen, inFlight_of_free (by rw [hpc]; rfl), List.append_nil]
  have hsegment : ∀ g, (generated (h₁ ++ (e, t.source.newObservers.map .admitted) :: g)).drop i =
      t.source.gopCache ++ generated g := by
    intro g
    rw [generated_append, List.drop_append_of_le_length hstart.le_length, ← hdrop, hcons,
      generated_append]
    simp [generated, outputs, Output.generated?]
  have hreceived : received o (h₁ ++ (e, t.source.newObservers.map .admitted) :: h₂) =
      received o h₂ := by
    rw [received_append, hnone, List.nil_append, hcons, received_append]
    simp [received, outputs, Output.receivedBy]
  refine ⟨i, hstart, ?_⟩
  rw [hsegment, hreceived]
  exact received_watched (hr₁.snoc hc hs) hw hr₂ hnever

end Runs

section Samples

/-- A packet of the video stream. -/
def videoPacket (flags : UInt32) (pts : Int) : SourcePacket where
  packetType := .video
  packet := { streamIndex := 0, pts, dts := pts, flags, data := [] }

def videoAnswer (p : SourcePacket) : FfmpegAnswer where
  frame := some p.packet
  filtered := some p.packet
  transcoded := []

/-- The reader's steps of a turn that delivers a packet to nobody. -/
def lonelyTurn (p : SourcePacket) : List (Event Nat × List (Output Nat)) :=
  [(.reader, []), (.reader, []), (.reader, []), (.read (videoAnswer p), []),
    (.reader, [.generated p]), (.reader, []), (.reader, [])]

/-- A key and another packet, and then viewer 7 comes. -/
def beforeViewer : List (Event Nat × List (Output Nat)) :=
  lonelyTurn (videoPacket 1 0) ++ lonelyTurn (videoPacket 0 40) ++
    [(.register 7, []), (.connect 7, []), (.reader, [])]

def receivedAndPosted (p : SourcePacket) : Event Nat × List (Output Nat) :=
  (.reader, [.received 7 p, .posted 7 p])

/-- Viewer 7 is given both packets from the cache, and the next one as it is
read. -/
def watched : List (Event Nat × List (Output Nat)) :=
  [receivedAndPosted (videoPacket 1 0), receivedAndPosted (videoPacket 0 40), (.reader, []),
    (.reader, []), (.read (videoAnswer (videoPacket 0 80)), []),
    (.reader, [.generated (videoPacket 0 80)]), receivedAndPosted (videoPacket 0 80),
    (.reader, []), (.reader, [])]

/-- It goes, and a fourth packet is read. -/
def behindViewer : List (Event Nat × List (Output Nat)) :=
  (.deregister 7, []) :: lonelyTurn (videoPacket 0 120)

/-- Viewer 7 is admitted, and given the packets up to its end. -/
theorem received_segment_late : ∃ s i,
    Run step (fun _ _ => True) (started true 0 1 fun _ => ⟨false, false⟩)
      (beforeViewer ++ (.reader, [.admitted 7]) :: (watched ++ behindViewer)) s ∧
      StartsAt SourcePacket.isVideoKey (generated beforeViewer) i ∧
      [videoPacket 1 0, videoPacket 0 40, videoPacket 0 80] =
        (generated (beforeViewer ++ (.reader, [.admitted 7]) :: watched)).drop i := by
  have hr : Run step (fun _ _ => True) (started true 0 1 fun _ => ⟨false, false⟩)
      (beforeViewer ++ (.reader, [.admitted 7]) :: (watched ++ behindViewer)) _ :=
    (run_of_runAll step _ ((beforeViewer ++ (.reader, [.admitted 7]) ::
      (watched ++ behindViewer)).map Prod.fst) rfl).1
  obtain ⟨i, hstart, -, hall⟩ := (received_segment (o := 7) hr (by decide)).2 beforeViewer
    (.reader, [.admitted 7]) _ rfl (by decide)
  exact ⟨_, i, hr, hstart, hall (Or.inr ⟨(.deregister 7, []), by decide, rfl⟩)⟩

end Samples

end LiveSource

end WebrtcServer
