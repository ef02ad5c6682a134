/-
# `ObserverLifetime` — the viewers that the reader calls

A source keeps plain pointers to its viewers.  The viewers belong to shared
pointers: of the handler of `/play`, of the manager, of the functions that
`Shutdown` posts.  When the last of them goes the destructor begins, and its
first act is to deregister at the source, for which it waits until the
reader lets go of `observers_mutex_`.  The source belongs to the database
and leaves it in `Remove`, behind a `Stop` that waits for the reader.

So the reader never calls a viewer that is gone.  But it may call one whose
destructor waits, and there `OnMediaSouceEnd` asks for a shared pointer,
which throws.
-/
import WebrtcServer.StreamEnd

namespace WebrtcServer

open Lib

/-- Where a viewer is in its life. -/
inductive Life where
  | unborn
  | alive
  /-- No shared pointer is left; the destructor has not deregistered yet. -/
  | dying
  | gone
deriving DecidableEq

/-- How a call of a viewer can go wrong. -/
inductive CallFault where
  | useAfterFree
  /-- `shared_from_this` throws `std::bad_weak_ptr`, on the reader's thread. -/
  | badWeakPtr
deriving DecidableEq

/-- A source, the lives of its viewers, and whether the database still has
the source. -/
structure OwnedSource (ι : Type) where
  live : LiveSource ι
  life : ι → Life
  inDatabase : Bool

namespace OwnedSource

variable {ι : Type}

inductive Event (ι : Type) where
  /-- `make_shared<WebrtcTransport>`. -/
  | make (o : ι)
  /-- The last shared pointer goes. -/
  | drop (o : ι)
  /-- The destructor has got through. -/
  | destroy (o : ι)
  /-- The `Stop` in `Remove` has returned, and the entry is erased. -/
  | erase
  | source (e : LiveSource.Event ι)

inductive Halt where
  | blocked (b : Blocked)
  | fault (f : CallFault)
deriving DecidableEq

/-- `OnMediaPacketGenerated` reads the viewer, and `OnMediaSouceEnd` wants a
shared pointer to it. -/
def callFault (life : ι → Life) : ReaderPc ι → Option CallFault
  | .admitting _ (o :: _) (_ :: _) | .delivering _ (o :: _) _ =>
      match life o with
      | .alive | .dying => none
      | .unborn | .gone => some .useAfterFree
  | .notifying (o :: _) =>
      match life o with
      | .alive => none
      | .dying => some .badWeakPtr
      | .unborn | .gone => some .useAfterFree
  | _ => none

variable [DecidableEq ι]

def sourceStep (s : OwnedSource ι) (e : LiveSource.Event ι) :
    Except Halt (OwnedSource ι × List (LiveSource.Output ι)) :=
  match s.live.step e with
  | .error b => .error (.blocked b)
  | .ok (live, outs) => .ok ({ s with live }, outs)

def step (s : OwnedSource ι) :
    Event ι → Except Halt (OwnedSource ι × List (LiveSource.Output ι))
  | .make o => .ok ({ s with life := Function.update s.life o .alive }, [])
  | .drop o => .ok ({ s with life := Function.update s.life o .dying }, [])
  | .destroy o =>
      let gone := { s with life := Function.update s.life o .gone }
      if s.inDatabase then gone.sourceStep (.deregister o) else .ok (gone, [])
  | .erase => .ok ({ s with inDatabase := false }, [])
  | .source .reader =>
      match callFault s.life s.live.reader with
      | some f => .error (.fault f)
      | none => s.sourceStep .reader
  | .source e => s.sourceStep e

/-- Who may act: the handler of `/play` registers a viewer while it holds a
pointer to it, at a source that it has just found, and only a destructor
deregisters; a viewer's own thread runs while it is alive; `Remove` waits
for the reader. -/
def Allowed (s : OwnedSource ι) : Event ι → Prop
  | .make o => s.life o = .unborn
  | .drop o => s.life o = .alive
  | .destroy o => s.life o = .dying
  | .erase => s.live.source.closed = true ∧ s.live.reader = .returned
  | .source (.register o) => s.life o = .alive ∧ s.inDatabase = true
  | .source (.deregister _) => False
  | .source (.connect o) | .source (.shutdown o) => s.life o = .alive
  | .source .stop | .source (.read _) | .source .reader => True

def opened (enableGopCache : Bool) (videoIndex audioIndex : Int) (viewers : ι → Viewer) :
    OwnedSource ι where
  live := .started enableGopCache videoIndex audioIndex viewers
  life _ := .unborn
  inDatabase := true

/-! ## Who is in the lists -/

/-- The source has a pointer to the viewer. -/
def Points (s : LiveSource ι) (o : ι) : Prop :=
  o ∈ s.source.observers ∨ o ∈ s.source.newObservers

section Lists

variable {s s' : LiveSource ι} {h : LiveSource.History ι} {e : LiveSource.Event ι}
  {outs : List (LiveSource.Output ι)} {o : ι}

theorem points_step (hl : LiveSource.Listed h s) (hs : s.step e = .ok (s', outs)) :
    Points s' o ↔ e = .register o ∨ (Points s o ∧ e ≠ .deregister o) := by
  show o ∈ s'.source.observers ∨ o ∈ s'.source.newObservers ↔ _
  rw [← (LiveSource.listed_step hl hs).registered, LiveSource.registered_snoc, hl.registered]
  exact Iff.rfl

/-- A reader that has returned stays where it is. -/
theorem returned_step (hpc : s.reader = .returned) (hs : s.step e = .ok (s', outs)) :
    s'.reader = .returned := by
  cases LiveSource.step_move hs with
  | register | deregister | stop | connect | shutdown => exact hpc
  | read hreading =>
      rw [hpc] at hreading
      cases hreading
  | reader hmove =>
      rw [LiveSource.step, LiveSource.readerStep, hpc] at hs
      cases hs

end Lists

/-! ## In every run -/

/-- As long as the database has the source, it points to viewers that are
still there; and behind it the reader has returned. -/
structure Safe (s : OwnedSource ι) : Prop where
  listed : ∃ h, LiveSource.Listed h s.live
  kept : s.inDatabase = true → ∀ o, Points s.live o → s.life o = .alive ∨ s.life o = .dying
  erased : s.inDatabase = false → s.live.reader = .returned

section Steps

variable {s s' : OwnedSource ι} {outs : List (LiveSource.Output ι)}

theorem sourceStep_ok {e : LiveSource.Event ι} (h : s.sourceStep e = .ok (s', outs)) :
    ∃ live, s.live.step e = .ok (live, outs) ∧ s' = { s with live } := by
  simp only [sourceStep] at h
  split at h
  · cases h
  next live _ hstep =>
    cases h
    exact ⟨live, hstep, rfl⟩

theorem step_source {e : LiveSource.Event ι} (he : e ≠ .reader) :
    OwnedSource.step s (.source e) = s.sourceStep e := by
  cases e with
  | reader => exact absurd rfl he
  | register o | deregister o | stop | connect o | shutdown o | read answer => rfl

omit [DecidableEq ι] in
/-- The lives go on, and no viewer that the source points to ends. -/
theorem Safe.lives (hs : Safe s) {life : ι → Life}
    (hlife : ∀ o, Points s.live o → s.life o = .alive ∨ s.life o = .dying →
      life o = .alive ∨ life o = .dying) : Safe { s with life } :=
  ⟨hs.listed, fun hin o ho => hlife o ho (hs.kept hin o ho), hs.erased⟩

theorem Safe.source (hs : Safe s) {e : LiveSource.Event ι} {live : LiveSource ι}
    (hregister : ∀ o, e = .register o → s.life o = .alive)
    (hstep : s.live.step e = .ok (live, outs)) : Safe { s with live } := by
  obtain ⟨h, hl⟩ := hs.listed
  refine ⟨⟨_, LiveSource.listed_step hl hstep⟩, fun hin o ho => ?_, fun hout =>
    returned_step (hs.erased hout) hstep⟩
  rcases (points_step hl hstep).mp ho with he | ⟨ho, -⟩
  · exact Or.inl (hregister o he)
  · exact hs.kept hin o ho

theorem Safe.step (hs : Safe s) {e : Event ι} (he : Allowed s e)
    (hok : OwnedSource.step s e = .ok (s', outs)) : Safe s' := by
  cases e with
  | make o =>
      cases hok
      refine hs.lives fun x _ hx => ?_
      by_cases hxo : x = o
      · subst hxo
        exact Or.inl (Function.update_self ..)
      · rwa [Function.update_of_ne hxo]
  | drop o =>
      cases hok
      refine hs.lives fun x _ hx => ?_
      by_cases hxo : x = o
      · subst hxo
        exact Or.inr (Function.update_self ..)
      · rwa [Function.update_of_ne hxo]
  | destroy o =>
      simp only [OwnedSource.step] at hok
      split at hok
      next hin =>
        obtain ⟨live, hstep, rfl⟩ := sourceStep_ok hok
        obtain ⟨h, hl⟩ := hs.listed
        refine ⟨⟨_, LiveSource.listed_step hl hstep⟩, fun _ x hx => ?_, fun hout =>
          returned_step (hs.erased hout) hstep⟩
        -- the viewer is in no list any more
        rcases (points_step hl hstep).mp hx with hreg | ⟨hbefore, hne⟩
        · cases hreg
        · have hxo : x ≠ o := fun heq => hne (congrArg _ heq.symm)
          show Function.update s.life o .gone x = .alive ∨ Function.update s.life o .gone x = .dying
          rw [Function.update_of_ne hxo]
          exact hs.kept hin x hbefore
      next hout =>
        cases hok
        exact ⟨hs.listed, fun hin => absurd hin hout, hs.erased⟩
  | erase =>
      cases hok
      refine ⟨hs.listed, fun hin => ?_, fun _ => he.2⟩
      cases hin
  | source e =>
      have hstep : ∃ live, s.live.step e = .ok (live, outs) ∧ s' = { s with live } := by
        by_cases hreader : e = .reader
        · subst hreader
          simp only [OwnedSource.step] at hok
          split at hok
          · cases hok
          · exact sourceStep_ok hok
        · rw [step_source hreader] at hok
          exact sourceStep_ok hok
      obtain ⟨live, hstep, rfl⟩ := hstep
      refine hs.source (fun o heq => ?_) hstep
      subst heq
      exact he.1

end Steps

section Faults

variable {s : OwnedSource ι} {e : Event ι} {f : CallFault}

end Faults

end OwnedSource

end WebrtcServer
