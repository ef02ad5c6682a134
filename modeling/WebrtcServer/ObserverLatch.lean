/-
# `ObserverLatch` — the reader and the latches of its viewers

`OnMediaPacketGenerated` waits until the viewer's latch is released, which
happens when DTLS is set up or the transport is shut down, and the reader
calls it with `observers_mutex_` locked.  A round of calls goes through when
all the viewers that it calls have been released before the reader takes the
mutex.  Otherwise the reader comes to a viewer where it stays, with the
mutex, until that viewer is released.
-/
import WebrtcServer.MediaSource

namespace WebrtcServer

open Lib

namespace LiveSource

variable {ι : Type} [DecidableEq ι]

/-! ## Waiting, and not waiting -/

/-- The viewer that the reader calls next, inside a locked loop. -/
def callee : ReaderPc ι → Option ι
  | .admitting _ (o :: _) (_ :: _) => some o
  | .delivering _ (o :: _) _ => some o
  | _ => none

/-- The reader waits for a viewer with the mutex locked. -/
def Waiting (s : LiveSource ι) : Prop :=
  s.reader.holdsMutex = true ∧ ∃ o, callee s.reader = some o ∧ (s.viewers o).latchReleased = false

/-- No viewer keeps the reader, and through it the others, from going on. -/
structure Unstalled (s : LiveSource ι) : Prop where
  notWaiting : ¬ s.Waiting
  /-- With the mutex the reader has a next step. -/
  readerMoves : s.reader.holdsMutex = true → ∃ s' outs, step s .reader = .ok (s', outs)
  /-- The packet that is being delivered gets to every viewer left. -/
  delivers : ∀ p todo out, s.reader = .delivering p todo out →
    ∃ h s', ReaderRun s h s' ∧ ∀ o ∈ todo, .received o p ∈ outputs h
  /-- A registration gets the mutex, at once or when the reader's loop is
  over. -/
  registers : ∀ o, ∃ h s' s'' outs, ReaderRun s h s' ∧ step s' (.register o) = .ok (s'', outs)

/-- The viewers that the reader calls if it takes the mutex now. -/
def round (s : LiveSource ι) : List ι :=
  match s.reader with
  | .checkNewObserver => if s.source.gopCache = [] then [] else s.source.newObservers
  | .emitting (_ :: _) => s.source.observers
  | _ => []

/-- A round begins when the latches of all its viewers are released. -/
def LatchesOpen (s : LiveSource ι) (e : Event ι) : Prop :=
  e = .reader → ∀ o ∈ s.round, (s.viewers o).latchReleased = true

/-! ## The loops of the reader -/

section Loops

variable {s : LiveSource ι}

/-- One viewer is given the packets left for it. -/
theorem replay_run {cached left : List SourcePacket} {o : ι} {todo : List ι}
    (hpc : s.reader = .admitting cached (o :: todo) left)
    (hopen : (s.viewers o).latchReleased = true) :
    ∃ h, ReaderRun s h
      { s with source := s.source.observe o, reader := .admitting cached todo cached } := by
  induction left generalizing s with
  | nil => exact ⟨_, .cons rfl (ReaderMove.observe hpc).eq_ok .nil⟩
  | cons p left ih =>
      obtain ⟨h, hr⟩ := ih (s := { s with reader := .admitting cached (o :: todo) left }) rfl hopen
      exact ⟨_, .cons rfl (ReaderMove.replay hpc hopen).eq_ok hr⟩

theorem admitting_run {cached left : List SourcePacket} {todo : List ι}
    (hpc : s.reader = .admitting cached todo left) (hleft : left ≠ [] → cached ≠ [])
    (hopen : cached ≠ [] → ∀ o ∈ todo, (s.viewers o).latchReleased = true) :
    ∃ h s', ReaderRun s h s' ∧ s'.reader.holdsMutex = false := by
  induction todo generalizing s left with
  | nil => exact ⟨_, _, .cons rfl (ReaderMove.admitted hpc).eq_ok .nil, rfl⟩
  | cons o todo ih =>
      obtain ⟨h, hr⟩ : ∃ h, ReaderRun s h
          { s with source := s.source.observe o, reader := .admitting cached todo cached } := by
        cases left with
        | nil => exact ⟨_, .cons rfl (ReaderMove.observe hpc).eq_ok .nil⟩
        | cons p left => exact replay_run hpc (hopen (hleft (by simp)) o List.mem_cons_self)
      obtain ⟨h', s', hr', hfree⟩ := ih
        (s := { s with source := s.source.observe o, reader := .admitting cached todo cached })
        rfl id fun hcached x hx => hopen hcached x (List.mem_cons_of_mem o hx)
      exact ⟨_, s', hr.trans hr', hfree⟩

theorem delivering_run {p : SourcePacket} {todo : List ι} {out : List SourcePacket}
    (hpc : s.reader = .delivering p todo out)
    (hopen : ∀ o ∈ todo, (s.viewers o).latchReleased = true) :
    ∃ h s', ReaderRun s h s' ∧ s'.reader.holdsMutex = false ∧
      ∀ o ∈ todo, .received o p ∈ outputs h := by
  induction todo generalizing s with
  | nil =>
      exact ⟨_, _, .cons rfl (ReaderMove.delivered hpc).eq_ok .nil, rfl, fun o ho => by cases ho⟩
  | cons o todo ih =>
      obtain ⟨h, s', hr, hfree, hall⟩ := ih (s := { s with reader := .delivering p todo out }) rfl
        fun x hx => hopen x (List.mem_cons_of_mem o hx)
      have hcall := ReaderMove.call hpc (hopen o List.mem_cons_self)
      refine ⟨_, s', .cons rfl hcall.eq_ok hr, hfree, ?_⟩
      intro x hx
      rw [outputs_cons, List.mem_append]
      rcases List.mem_cons.mp hx with rfl | hx
      · exact Or.inl List.mem_cons_self
      · exact Or.inr (hall x hx)

theorem notifying_run {todo : List ι} (hpc : s.reader = .notifying todo) :
    ∃ h s', ReaderRun s h s' ∧ s'.reader.holdsMutex = false := by
  induction todo generalizing s with
  | nil => exact ⟨_, _, .cons rfl (ReaderMove.notified hpc).eq_ok .nil, rfl⟩
  | cons o todo ih =>
      obtain ⟨h, s', hr, hfree⟩ := ih (s := { s.release o with reader := .notifying todo }) rfl
      exact ⟨_, s', .cons rfl (ReaderMove.notify hpc).eq_ok hr, hfree⟩

/-- A delivery comes to the first viewer that is not released, and stays
there. -/
theorem delivering_stalls {p : SourcePacket} {todo : List ι} {out : List SourcePacket}
    (hpc : s.reader = .delivering p todo out) {o : ι} (ho : o ∈ todo)
    (hshut : (s.viewers o).latchReleased = false) : ∃ h s', ReaderRun s h s' ∧ s'.Waiting := by
  induction todo generalizing s with
  | nil => cases ho
  | cons x todo ih =>
      cases hx : (s.viewers x).latchReleased with
      | false => exact ⟨[], s, .nil, by rw [hpc]; rfl, x, by rw [hpc]; rfl, hx⟩
      | true =>
          have hrest : o ∈ todo := by
            rcases List.mem_cons.mp ho with rfl | ho
            · rw [hx] at hshut
              cases hshut
            · exact ho
          obtain ⟨h, s', hr, hwait⟩ :=
            ih (s := { s with reader := .delivering p todo out }) rfl hrest hshut
          exact ⟨_, s', .cons rfl (ReaderMove.call hpc hx).eq_ok hr, hwait⟩

/-- So does an admission, unless the cache is empty. -/
theorem admitting_stalls {cached : List SourcePacket} {todo : List ι}
    (hpc : s.reader = .admitting cached todo cached) (hcached : cached ≠ []) {o : ι}
    (ho : o ∈ todo) (hshut : (s.viewers o).latchReleased = false) :
    ∃ h s', ReaderRun s h s' ∧ s'.Waiting := by
  induction todo generalizing s with
  | nil => cases ho
  | cons x todo ih =>
      cases hx : (s.viewers x).latchReleased with
      | false =>
          obtain ⟨p, left, rfl⟩ := List.exists_cons_of_ne_nil hcached
          exact ⟨[], s, .nil, by rw [hpc]; rfl, x, by rw [hpc]; rfl, hx⟩
      | true =>
          have hrest : o ∈ todo := by
            rcases List.mem_cons.mp ho with rfl | ho
            · rw [hx] at hshut
              cases hshut
            · exact ho
          obtain ⟨h, hr⟩ := replay_run hpc hx
          obtain ⟨h', s', hr', hwait⟩ := ih
            (s := { s with source := s.source.observe x, reader := .admitting cached todo cached })
            rfl hrest hshut
          exact ⟨_, s', hr.trans hr', hwait⟩

end Loops

/-! ## Runs whose rounds find the latches released -/

/-- The latches of the viewers that the reader has still to call. -/
def Served (viewers : ι → Viewer) : ReaderPc ι → Prop
  | .admitting cached todo left =>
      (left ≠ [] → cached ≠ []) ∧ (cached ≠ [] → ∀ o ∈ todo, (viewers o).latchReleased = true)
  | .delivering _ todo _ => ∀ o ∈ todo, (viewers o).latchReleased = true
  | _ => True

omit [DecidableEq ι] in
theorem served_of_free {viewers : ι → Viewer} {pc : ReaderPc ι} (h : pc.holdsMutex = false) :
    Served viewers pc := by
  cases pc <;> trivial

omit [DecidableEq ι] in
/-- Latches are only released. -/
theorem Served.mono {viewers viewers' : ι → Viewer} {pc : ReaderPc ι} (h : Served viewers pc)
    (hkept : ∀ o, (viewers o).latchReleased = true → (viewers' o).latchReleased = true) :
    Served viewers' pc := by
  cases pc with
  | admitting cached todo left => exact ⟨h.1, fun hcached o ho => hkept o (h.2 hcached o ho)⟩
  | delivering p todo out => exact fun o ho => hkept o (h o ho)
  | _ => trivial

theorem latchReleased_update {viewers : ι → Viewer} {v : Viewer} (hv : v.latchReleased = true)
    (o x : ι) (hx : (viewers x).latchReleased = true) :
    (Function.update viewers o v x).latchReleased = true := by
  by_cases hxo : x = o
  · subst hxo
    rwa [Function.update_self]
  · rwa [Function.update_of_ne hxo]

theorem served_step {s s' : LiveSource ι} {e : Event ι} {outs : List (Output ι)}
    (h : Served s.viewers s.reader) (hopen : LatchesOpen s e) (hs : step s e = .ok (s', outs)) :
    Served s'.viewers s'.reader := by
  cases step_move hs with
  | register | deregister | stop => exact h
  | connect | shutdown => exact h.mono (latchReleased_update rfl _)
  | read => exact served_of_free (MediaSource.demux_free _)
  | reader hmove =>
      have hround := hopen rfl
      cases hmove with
      | leave | check | read | admitted | turn | delivered | notified | return_ | fail | notify =>
          trivial
      | admission hpc =>
          refine ⟨id, fun hcached => ?_⟩
          have hcached' : s.source.gopCache ≠ [] := hcached
          simpa [round, hpc, hcached'] using hround
      | deliver hpc => simpa [round, hpc, Served] using hround
      | observe hpc =>
          rw [hpc] at h
          exact ⟨id, fun hcached x hx => h.2 hcached x (List.mem_cons_of_mem _ hx)⟩
      | replay hpc =>
          rw [hpc] at h
          exact ⟨fun _ => h.1 (by simp), h.2⟩
      | call hpc =>
          rw [hpc] at h
          exact fun x hx => h x (List.mem_cons_of_mem _ hx)

/-- With the mutex locked the reader comes to the end of its loop. -/
theorem free_run {s : LiveSource ι} (h : Served s.viewers s.reader) :
    ∃ h s', ReaderRun s h s' ∧ s'.reader.holdsMutex = false := by
  cases hpc : s.reader with
  | admitting cached todo left =>
      rw [hpc] at h
      exact admitting_run hpc h.1 h.2
  | delivering p todo out =>
      rw [hpc] at h
      obtain ⟨h', s', hr, hfree, -⟩ := delivering_run hpc h
      exact ⟨h', s', hr, hfree⟩
  | notifying todo => exact notifying_run hpc
  | _ => exact ⟨[], s, .nil, by rw [hpc]; rfl⟩

omit [DecidableEq ι] in
theorem not_waiting_of_served {s : LiveSource ι} (h : Served s.viewers s.reader) :
    ¬ s.Waiting := by
  rintro ⟨-, o, hcallee, hshut⟩
  have hopen : (s.viewers o).latchReleased = true := by
    revert hcallee
    cases hpc : s.reader with
    | admitting cached todo left =>
        rw [hpc] at h
        cases todo with
        | nil => exact fun hcallee => by cases hcallee
        | cons x todo =>
            cases left with
            | nil => exact fun hcallee => by cases hcallee
            | cons p left =>
                intro hcallee
                cases hcallee
                exact h.2 (h.1 (by simp)) o List.mem_cons_self
    | delivering p todo out =>
        rw [hpc] at h
        cases todo with
        | nil => exact fun hcallee => by cases hcallee
        | cons x todo =>
            intro hcallee
            cases hcallee
            exact h o List.mem_cons_self
    | _ => exact fun hcallee => by cases hcallee
  rw [hopen] at hshut
  cases hshut

/-- A reader that does not wait moves on in its loop. -/
theorem reader_moves {s : LiveSource ι} (hlocked : s.reader.holdsMutex = true)
    (hwait : ¬ s.Waiting) : ∃ s' outs, step s .reader = .ok (s', outs) := by
  have hopen : ∀ o, callee s.reader = some o → (s.viewers o).latchReleased = true := by
    intro o ho
    cases hshut : (s.viewers o).latchReleased with
    | true => rfl
    | false => exact absurd ⟨hlocked, o, ho, hshut⟩ hwait
  cases hpc : s.reader with
  | admitting cached todo left =>
      cases todo with
      | nil => exact ⟨_, _, (ReaderMove.admitted hpc).eq_ok⟩
      | cons o todo =>
          cases left with
          | nil => exact ⟨_, _, (ReaderMove.observe hpc).eq_ok⟩
          | cons p left => exact ⟨_, _, (ReaderMove.replay hpc (hopen o (by rw [hpc]; rfl))).eq_ok⟩
  | delivering p todo out =>
      cases todo with
      | nil => exact ⟨_, _, (ReaderMove.delivered hpc).eq_ok⟩
      | cons o todo => exact ⟨_, _, (ReaderMove.call hpc (hopen o (by rw [hpc]; rfl))).eq_ok⟩
  | notifying todo =>
      cases todo with
      | nil => exact ⟨_, _, (ReaderMove.notified hpc).eq_ok⟩
      | cons o todo => exact ⟨_, _, (ReaderMove.notify hpc).eq_ok⟩
  | _ =>
      rw [hpc] at hlocked
      cases hlocked

theorem unstalled_of_served {s : LiveSource ι} (h : Served s.viewers s.reader) : s.Unstalled where
  notWaiting := not_waiting_of_served h
  readerMoves := fun hlocked => reader_moves hlocked (not_waiting_of_served h)
  delivers := by
    intro p todo out hpc
    rw [hpc] at h
    obtain ⟨h', s', hr, -, hall⟩ := delivering_run hpc h
    exact ⟨h', s', hr, hall⟩
  registers := by
    intro o
    obtain ⟨h', s', hr, hfree⟩ := free_run h
    refine ⟨h', s', { s' with source := s'.source.registerObserver o }, [], hr, ?_⟩
    simp [step, hfree]

/-- A round that begins too early stalls. -/
theorem round_stalls {s : LiveSource ι} (hshut : ¬ LatchesOpen s .reader) :
    ∃ h s', ReaderRun s h s' ∧ s'.Waiting := by
  have hround : ∃ o ∈ s.round, (s.viewers o).latchReleased = false := by
    simpa [LatchesOpen] using hshut
  obtain ⟨o, ho, hlatch⟩ := hround
  cases hpc : s.reader with
  | checkNewObserver =>
      have hcached : s.source.gopCache ≠ [] := by
        intro hcached
        simp [round, hpc, hcached] at ho
      have hnew : o ∈ s.source.newObservers := by
        simpa [round, hpc, hcached] using ho
      obtain ⟨h, s', hr, hwait⟩ := admitting_stalls
        (s := { s with
          reader := .admitting s.source.gopCache s.source.newObservers s.source.gopCache })
        rfl hcached hnew hlatch
      exact ⟨_, s', .cons rfl (ReaderMove.admission hpc).eq_ok hr, hwait⟩
  | emitting out =>
      cases out with
      | nil => simp [round, hpc] at ho
      | cons p out =>
          have hobs : o ∈ s.source.observers := by
            simpa [round, hpc] using ho
          obtain ⟨h, s', hr, hwait⟩ := delivering_stalls
            (s := { s with reader := .delivering p s.source.observers out }) rfl hobs hlatch
          exact ⟨_, s', .cons rfl (ReaderMove.deliver hpc).eq_ok hr, hwait⟩
  | _ => simp [round, hpc] at ho

section Runs

variable {gop : Bool} {v a : Int} {viewers : ι → Viewer} {h : List (Event ι × List (Output ι))}
  {s : LiveSource ι}

/-- In every run whose rounds find the latches of their viewers released, no
viewer holds up the reader or a registration; and where the reader begins
another round, it comes to wait with the mutex locked. -/
theorem latches_open_unstalled (hr : Run step LatchesOpen (started gop v a viewers) h s) :
    s.Unstalled ∧ (¬ LatchesOpen s .reader → ∃ h' s', ReaderRun s h' s' ∧ s'.Waiting) := by
  refine ⟨unstalled_of_served ?_, round_stalls⟩
  have hinit : Served viewers (.loop : ReaderPc ι) := trivial
  exact hr.invariant (I := fun _ s => Served s.viewers s.reader) hinit
    fun _ _ _ _ _ hinv hopen hs => served_step hinv hopen hs

end Runs

/-! ## A silent viewer -/

section Samples

def sampleKey : AvPacket where
  streamIndex := 0
  pts := 0
  dts := 0
  flags := AV_PKT_FLAG_KEY
  data := [0, 0, 0, 1, 0x65]

def sampleAnswer : FfmpegAnswer where
  frame := some sampleKey
  filtered := some sampleKey
  transcoded := []

/-- Nobody has connected yet. -/
def silent : Nat → Viewer := fun _ => ⟨false, false⟩

/-- Viewer 1 is connected when the packet comes. -/
theorem latches_open_unstalled_connected : ∃ h s,
    Run step LatchesOpen (started false 0 1 silent) h s ∧
      h.map Prod.fst = [.connect 1, .register 1, .reader, .read sampleAnswer, .reader] ∧
      s.Unstalled := by
  have hr : Run step LatchesOpen (started false 0 1 silent)
      [(.connect 1, []), (.register 1, []), (.reader, []), (.read sampleAnswer, []),
        (.reader, [.generated ⟨.video, sampleKey⟩])] _ :=
    .cons (fun h => by cases h) rfl <| .cons (fun h => by cases h) rfl <|
      .cons (fun _ o ho => by cases ho) rfl <| .cons (fun h => by cases h) rfl <|
      .cons (fun _ o ho => by
        obtain rfl := List.mem_singleton.mp ho
        rfl) rfl .nil
  exact ⟨_, _, hr, rfl, (latches_open_unstalled hr).1⟩

/-- Viewer 0 stays silent: the reader waits for it, and neither the
connected viewer 1 nor a registration gets its turn. -/
theorem silent_viewer_stalls : ∃ h s,
    Run step (fun _ _ => True) (started false 0 1 silent) h s ∧
      h.map Prod.fst = [.connect 1, .register 0, .register 1, .reader, .read sampleAnswer,
        .reader] ∧
      s.Waiting ∧ s.reader = .delivering ⟨.video, sampleKey⟩ [0, 1] [] ∧
      step s .reader = .error .latch ∧ step s (.register 2) = .error .mutex := by
  have hr : Run step (fun _ _ => True) (started false 0 1 silent)
      [(.connect 1, []), (.register 0, []), (.register 1, []), (.reader, []),
        (.read sampleAnswer, []), (.reader, [.generated ⟨.video, sampleKey⟩])] _ :=
    .cons trivial rfl <| .cons trivial rfl <| .cons trivial rfl <| .cons trivial rfl <|
      .cons trivial rfl <| .cons trivial rfl .nil
  exact ⟨_, _, hr, rfl, ⟨rfl, 0, rfl, rfl⟩, rfl, rfl, rfl⟩

end Samples

end LiveSource

end WebrtcServer
