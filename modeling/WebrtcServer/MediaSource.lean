/-
# `MediaSource` — media_source.h, media_source.cpp, gop_cache.cpp

The reader of a source and the viewers that watch it.  The reader thread
runs `ReadPacket`; the signalling thread and the destructors of transports
register and deregister viewers; the thread of a viewer's transport releases
the viewer's latch.  All lists are guarded by `observers_mutex_`, and the
reader calls the viewers while it has the mutex.

The reader is a program counter that stops between any two accesses to what
the threads share: the flag `closed_`, the mutex, and the latches.  The
other threads take the mutex for a few list operations and wait for nothing
inside, so each of their calls is one step, possible when the mutex is
free.  What FFmpeg answers is part of the event that lets it return.
-/
import WebrtcServer.Lib.Runs
import Mathlib.Data.List.Nodup
import Mathlib.Data.List.Infix

namespace WebrtcServer

open Lib

/-! ## Packets and the cache -/

/-- What the source reads and writes of an `AVPacket`. -/
structure AvPacket where
  streamIndex : Int
  pts : Int
  dts : Int
  flags : UInt32
  data : List UInt8
deriving DecidableEq

inductive PacketType where
  | video
  | audio
deriving DecidableEq

/-- A `MediaPacket` as the source makes it. -/
structure SourcePacket where
  packetType : PacketType
  packet : AvPacket
deriving DecidableEq

def AV_PKT_FLAG_KEY : UInt32 := 1

def SourcePacket.isKey (pkt : SourcePacket) : Bool := pkt.packet.flags &&& AV_PKT_FLAG_KEY ≠ 0

/-- The packets with which the cache begins anew. -/
def SourcePacket.isVideoKey (pkt : SourcePacket) : Bool :=
  decide (pkt.packetType = .video) && pkt.isKey

/-- `cached_packets_`. -/
abbrev GopCache := List SourcePacket

def GopCache.addPacket (cache : GopCache) (pkt : SourcePacket) : GopCache :=
  if pkt.isVideoKey then [pkt] else cache ++ [pkt]

/-! ## The source -/

/-- Where the reader is.  The lists are what its loops still have to do. -/
inductive ReaderPc (ι : Type) where
  /-- At `while (!closed_)`. -/
  | loop
  /-- `CheckNewObserver` locks next. -/
  | checkNewObserver
  /-- In `CheckNewObserver`: the copy of the cache, the viewers left, and the
  packets left for the first of them. -/
  | admitting (cachedPackets : List SourcePacket) (todo : List ι) (left : List SourcePacket)
  /-- In FFmpeg. -/
  | reading
  /-- The packets that this turn has still to deliver; it locks next. -/
  | emitting (out : List SourcePacket)
  /-- Delivers a packet: the viewers left. -/
  | delivering (p : SourcePacket) (todo : List ι) (out : List SourcePacket)
  /-- `StreamEnd` locks next. -/
  | streamEnd
  /-- In `StreamEnd`: the viewers left. -/
  | notifying (todo : List ι)
  /-- `StreamEnd` has returned. -/
  | ended
  /-- `ReadPacket` has returned. -/
  | returned
deriving DecidableEq

/-- The reader has `observers_mutex_`. -/
def ReaderPc.holdsMutex {ι : Type} : ReaderPc ι → Bool
  | .admitting .. | .delivering .. | .notifying .. => true
  | _ => false

structure MediaSource (ι : Type) where
  enableGopCache : Bool
  videoIndex : Int
  audioIndex : Int
  observers : List ι
  newObservers : List ι
  gopCache : GopCache
  isFirstAudioPacket : Bool
  firstAudioPacketTimestampMs : Int
  closed : Bool

/-- What FFmpeg answers in one turn of the loop: the packet that
`av_read_frame` reads, unless it fails or is interrupted; the packet that
the bit-stream filter makes of it, unless sending or receiving fails; and
the packets for which the transcoder calls back. -/
structure FfmpegAnswer where
  frame : Option AvPacket
  filtered : Option AvPacket
  transcoded : List AvPacket
deriving DecidableEq

namespace MediaSource

variable {ι : Type} [DecidableEq ι]

/-- `push_back`, unless `std::find` finds it. -/
def pushAbsent (l : List ι) (observer : ι) : List ι :=
  if observer ∈ l then l else l ++ [observer]

def registerObserver (s : MediaSource ι) (observer : ι) : MediaSource ι :=
  if s.enableGopCache then { s with newObservers := pushAbsent s.newObservers observer }
  else { s with observers := pushAbsent s.observers observer }

def deregisterObserver (s : MediaSource ι) (observer : ι) : MediaSource ι :=
  { s with
    observers := s.observers.erase observer
    newObservers := if s.enableGopCache then s.newObservers.erase observer else s.newObservers }

/-- The end of `CheckNewObserver`'s turn for a viewer. -/
def observe (s : MediaSource ι) (observer : ι) : MediaSource ι :=
  { s with observers := pushAbsent s.observers observer }

omit [DecidableEq ι] in
/-- The end of a delivery. -/
def cachePacket (s : MediaSource ι) (p : SourcePacket) : MediaSource ι :=
  if s.enableGopCache then { s with gopCache := s.gopCache.addPacket p } else s

/-- The transcoder's callback counts from the first audio packet. -/
def opusPacket (s : MediaSource ι) (pkt : AvPacket) : SourcePacket :=
  let pts := pkt.pts + s.firstAudioPacketTimestampMs
  ⟨.audio, { pkt with pts, dts := pts }⟩

/-- The part of a turn that touches nothing shared: what was read is
filtered or transcoded. -/
def demux (s : MediaSource ι) (answer : FfmpegAnswer) : MediaSource ι × ReaderPc ι :=
  match answer.frame with
  | none => (s, .streamEnd)
  | some packet =>
      if packet.streamIndex = s.videoIndex then
        match answer.filtered with
        | none => (s, .streamEnd)
        | some filtered => (s, .emitting [⟨.video, filtered⟩])
      else if packet.streamIndex = s.audioIndex then
        let s := if s.isFirstAudioPacket then
            { s with firstAudioPacketTimestampMs := packet.pts, isFirstAudioPacket := false }
          else s
        (s, .emitting (answer.transcoded.map s.opusPacket))
      else (s, .emitting [])

end MediaSource

/-! ## The threads -/

/-- What `OnMediaPacketGenerated` reads of a `WebrtcTransport`. -/
structure Viewer where
  latchReleased : Bool
  connectionEstablished : Bool
deriving DecidableEq

/-- A source, its reader, and its viewers. -/
structure LiveSource (ι : Type) where
  source : MediaSource ι
  reader : ReaderPc ι
  viewers : ι → Viewer

/-- Why a thread cannot go on. -/
inductive Blocked where
  | mutex
  | latch
  /-- The thread is elsewhere. -/
  | elsewhere
deriving DecidableEq

namespace LiveSource

variable {ι : Type}

inductive Event (ι : Type) where
  | register (observer : ι)
  | deregister (observer : ι)
  /-- `Stop` sets `closed_`; the rest of it waits for the reader. -/
  | stop
  /-- `OnDtlsTransportSetup` of the viewer. -/
  | connect (observer : ι)
  /-- `Shutdown` of the viewer, for any other reason than the end of the
  stream. -/
  | shutdown (observer : ι)
  /-- FFmpeg returns to the reader. -/
  | read (answer : FfmpegAnswer)
  /-- The reader's next step. -/
  | reader
deriving DecidableEq

inductive Output (ι : Type) where
  /-- `CheckNewObserver` finds the viewer in `new_observers_`. -/
  | admitted (observer : ι)
  /-- The next packet of the stream; the reader has the mutex. -/
  | generated (p : SourcePacket)
  /-- `OnMediaPacketGenerated` is called, and returns. -/
  | received (observer : ι) (p : SourcePacket)
  /-- The viewer's message loop is given the packet. -/
  | posted (observer : ι) (p : SourcePacket)
  /-- `OnMediaSouceEnd` is called. -/
  | ended (observer : ι)
deriving DecidableEq

variable [DecidableEq ι]

/-- Releases the latch. -/
def release (s : LiveSource ι) (observer : ι) : LiveSource ι :=
  { s with viewers :=
      Function.update s.viewers observer { s.viewers observer with latchReleased := true } }

def onDtlsTransportSetup (s : LiveSource ι) (observer : ι) : LiveSource ι :=
  { s with viewers := Function.update s.viewers observer ⟨true, true⟩ }

omit [DecidableEq ι] in
/-- The call waits until the latch is released. -/
def onMediaPacketGenerated (s : LiveSource ι) (observer : ι) (p : SourcePacket) :
    Except Blocked (List (Output ι)) :=
  if (s.viewers observer).latchReleased then
    .ok (.received observer p ::
      if (s.viewers observer).connectionEstablished then [.posted observer p] else [])
  else .error .latch

omit [DecidableEq ι] in
/-- The reader calls a viewer and goes on. -/
def call (s : LiveSource ι) (observer : ι) (p : SourcePacket) (next : ReaderPc ι) :
    Except Blocked (LiveSource ι × List (Output ι)) :=
  match s.onMediaPacketGenerated observer p with
  | .error e => .error e
  | .ok outs => .ok ({ s with reader := next }, outs)

/-- One step of `ReadPacket`. -/
def readerStep (s : LiveSource ι) : Except Blocked (LiveSource ι × List (Output ι)) :=
  match s.reader with
  | .loop =>
      if s.source.closed then .ok ({ s with reader := .returned }, [])
      else if s.source.enableGopCache then .ok ({ s with reader := .checkNewObserver }, [])
      else .ok ({ s with reader := .reading }, [])
  | .checkNewObserver =>
      .ok ({ s with
        reader := .admitting s.source.gopCache s.source.newObservers s.source.gopCache },
        s.source.newObservers.map .admitted)
  | .admitting _ [] _ =>
      .ok ({ s with source := { s.source with newObservers := [] }, reader := .reading }, [])
  | .admitting cachedPackets (observer :: todo) [] =>
      .ok ({ s with
        source := s.source.observe observer
        reader := .admitting cachedPackets todo cachedPackets }, [])
  | .admitting cachedPackets (observer :: todo) (p :: left) =>
      s.call observer p (.admitting cachedPackets (observer :: todo) left)
  | .reading => .error .elsewhere
  | .emitting [] => .ok ({ s with reader := .loop }, [])
  | .emitting (p :: out) =>
      .ok ({ s with reader := .delivering p s.source.observers out }, [.generated p])
  | .delivering p [] out =>
      .ok ({ s with source := s.source.cachePacket p, reader := .emitting out }, [])
  | .delivering p (observer :: todo) out => s.call observer p (.delivering p todo out)
  | .streamEnd => .ok ({ s with reader := .notifying s.source.observers }, [])
  | .notifying [] => .ok ({ s with reader := .ended }, [])
  | .notifying (observer :: todo) =>
      .ok ({ s.release observer with reader := .notifying todo }, [.ended observer])
  | .ended => .ok ({ s with reader := .returned }, [])
  | .returned => .error .elsewhere

def step (s : LiveSource ι) : Event ι → Except Blocked (LiveSource ι × List (Output ι))
  | .register observer =>
      if s.reader.holdsMutex then .error .mutex
      else .ok ({ s with source := s.source.registerObserver observer }, [])
  | .deregister observer =>
      if s.reader.holdsMutex then .error .mutex
      else .ok ({ s with source := s.source.deregisterObserver observer }, [])
  | .stop => .ok ({ s with source := { s.source with closed := true } }, [])
  | .connect observer => .ok (s.onDtlsTransportSetup observer, [])
  | .shutdown observer => .ok (s.release observer, [])
  | .read answer =>
      match s.reader with
      | .reading =>
          let (source, reader) := s.source.demux answer
          .ok ({ s with source, reader }, [])
      | _ => .error .elsewhere
  | .reader => s.readerStep

/-- A source that has been opened and started, before anyone watches it. -/
def started (enableGopCache : Bool) (videoIndex audioIndex : Int) (viewers : ι → Viewer) :
    LiveSource ι where
  source :=
    { enableGopCache, videoIndex, audioIndex, observers := [], newObservers := [], gopCache := [],
      isFirstAudioPacket := true, firstAudioPacketTimestampMs := 0, closed := false }
  reader := .loop
  viewers

/-- The runs in which only the reader moves. -/
abbrev ReaderRun (s : LiveSource ι) (h : List (Event ι × List (Output ι))) (s' : LiveSource ι) :
    Prop :=
  Run step (fun _ e => e = .reader) s h s'

/-! ## What a step can do -/

/-- The outputs of a call that returns. -/
def receipt (s : LiveSource ι) (observer : ι) (p : SourcePacket) : List (Output ι) :=
  .received observer p ::
    if (s.viewers observer).connectionEstablished then [.posted observer p] else []

/-- The moves of the reader, one for each place where it can be. -/
inductive ReaderMove (s : LiveSource ι) : LiveSource ι → List (Output ι) → Prop
  | leave (hpc : s.reader = .loop) (hclosed : s.source.closed = true) :
      ReaderMove s { s with reader := .returned } []
  | check (hpc : s.reader = .loop) (hclosed : s.source.closed = false)
      (hgop : s.source.enableGopCache = true) :
      ReaderMove s { s with reader := .checkNewObserver } []
  | read (hpc : s.reader = .loop) (hclosed : s.source.closed = false)
      (hgop : s.source.enableGopCache = false) : ReaderMove s { s with reader := .reading } []
  | admission (hpc : s.reader = .checkNewObserver) :
      ReaderMove s
        { s with reader := .admitting s.source.gopCache s.source.newObservers s.source.gopCache }
        (s.source.newObservers.map .admitted)
  | admitted {cached left : List SourcePacket} (hpc : s.reader = .admitting cached [] left) :
      ReaderMove s
        { s with source := { s.source with newObservers := [] }, reader := .reading } []
  | observe {cached : List SourcePacket} {o : ι} {todo : List ι}
      (hpc : s.reader = .admitting cached (o :: todo) []) :
      ReaderMove s
        { s with source := s.source.observe o, reader := .admitting cached todo cached } []
  | replay {cached left : List SourcePacket} {o : ι} {todo : List ι} {p : SourcePacket}
      (hpc : s.reader = .admitting cached (o :: todo) (p :: left))
      (hlatch : (s.viewers o).latchReleased = true) :
      ReaderMove s { s with reader := .admitting cached (o :: todo) left } (s.receipt o p)
  | turn (hpc : s.reader = .emitting []) : ReaderMove s { s with reader := .loop } []
  | deliver {p : SourcePacket} {out : List SourcePacket} (hpc : s.reader = .emitting (p :: out)) :
      ReaderMove s { s with reader := .delivering p s.source.observers out } [.generated p]
  | delivered {p : SourcePacket} {out : List SourcePacket}
      (hpc : s.reader = .delivering p [] out) :
      ReaderMove s { s with source := s.source.cachePacket p, reader := .emitting out } []
  | call {p : SourcePacket} {o : ι} {todo : List ι} {out : List SourcePacket}
      (hpc : s.reader = .delivering p (o :: todo) out)
      (hlatch : (s.viewers o).latchReleased = true) :
      ReaderMove s { s with reader := .delivering p todo out } (s.receipt o p)
  | fail (hpc : s.reader = .streamEnd) :
      ReaderMove s { s with reader := .notifying s.source.observers } []
  | notified (hpc : s.reader = .notifying []) : ReaderMove s { s with reader := .ended } []
  | notify {o : ι} {todo : List ι} (hpc : s.reader = .notifying (o :: todo)) :
      ReaderMove s { s.release o with reader := .notifying todo } [.ended o]
  | return_ (hpc : s.reader = .ended) : ReaderMove s { s with reader := .returned } []

omit [DecidableEq ι] in
theorem call_eq_ok_iff {s s' : LiveSource ι} {o : ι} {p : SourcePacket} {next : ReaderPc ι}
    {outs : List (Output ι)} :
    s.call o p next = .ok (s', outs) ↔
      (s.viewers o).latchReleased = true ∧ s' = { s with reader := next } ∧
        outs = s.receipt o p := by
  rw [call, onMediaPacketGenerated]
  by_cases hlatch : (s.viewers o).latchReleased = true
  · simp only [hlatch, if_true, Except.ok.injEq, Prod.mk.injEq, true_and, receipt]
    exact ⟨fun h => ⟨h.1.symm, h.2.symm⟩, fun h => ⟨h.1.symm, h.2.symm⟩⟩
  · simp [hlatch]

theorem readerStep_move {s s' : LiveSource ι} {outs : List (Output ι)}
    (h : s.readerStep = .ok (s', outs)) : ReaderMove s s' outs := by
  unfold readerStep at h
  split at h
  · rename_i hpc
    split at h
    · rename_i hclosed
      cases h
      exact .leave hpc hclosed
    · rename_i hclosed
      split at h
      · rename_i hgop
        cases h
        exact .check hpc (Bool.not_eq_true _ ▸ hclosed) hgop
      · rename_i hgop
        cases h
        exact .read hpc (Bool.not_eq_true _ ▸ hclosed) (Bool.not_eq_true _ ▸ hgop)
  · cases h
    exact .admission ‹_›
  · cases h
    exact .admitted ‹_›
  · cases h
    exact .observe ‹_›
  · rename_i hpc
    obtain ⟨hlatch, rfl, rfl⟩ := call_eq_ok_iff.mp h
    exact .replay hpc hlatch
  · cases h
  · cases h
    exact .turn ‹_›
  · cases h
    exact .deliver ‹_›
  · cases h
    exact .delivered ‹_›
  · rename_i hpc
    obtain ⟨hlatch, rfl, rfl⟩ := call_eq_ok_iff.mp h
    exact .call hpc hlatch
  · cases h
    exact .fail ‹_›
  · cases h
    exact .notified ‹_›
  · cases h
    exact .notify ‹_›
  · cases h
    exact .return_ ‹_›
  · cases h

theorem ReaderMove.eq_ok {s s' : LiveSource ι} {outs : List (Output ι)}
    (h : ReaderMove s s' outs) : s.readerStep = .ok (s', outs) := by
  cases h with
  | replay hpc hlatch | call hpc hlatch =>
      rw [readerStep, hpc]
      exact call_eq_ok_iff.mpr ⟨hlatch, rfl, rfl⟩
  | leave hpc hclosed => simp [readerStep, hpc, hclosed]
  | check hpc hclosed hgop | read hpc hclosed hgop => simp [readerStep, hpc, hclosed, hgop]
  | admission hpc | admitted hpc | observe hpc | turn hpc | deliver hpc | delivered hpc | fail hpc
  | notified hpc | notify hpc | return_ hpc => rw [readerStep, hpc]

/-- What an event does when its thread can go on. -/
inductive Move (s : LiveSource ι) : Event ι → LiveSource ι → List (Output ι) → Prop
  | register {o : ι} (hfree : s.reader.holdsMutex = false) :
      Move s (.register o) { s with source := s.source.registerObserver o } []
  | deregister {o : ι} (hfree : s.reader.holdsMutex = false) :
      Move s (.deregister o) { s with source := s.source.deregisterObserver o } []
  | stop : Move s .stop { s with source := { s.source with closed := true } } []
  | connect {o : ι} : Move s (.connect o) (s.onDtlsTransportSetup o) []
  | shutdown {o : ι} : Move s (.shutdown o) (s.release o) []
  | read {answer : FfmpegAnswer} (hpc : s.reader = .reading) :
      Move s (.read answer)
        { s with source := (s.source.demux answer).1, reader := (s.source.demux answer).2 } []
  | reader {s' : LiveSource ι} {outs : List (Output ι)} (hmove : ReaderMove s s' outs) :
      Move s .reader s' outs

theorem step_move {s s' : LiveSource ι} {e : Event ι} {outs : List (Output ι)}
    (h : step s e = .ok (s', outs)) : Move s e s' outs := by
  cases e with
  | register o =>
      simp only [step] at h
      split at h
      · cases h
      · rename_i hfree
        cases h
        exact .register (Bool.not_eq_true _ ▸ hfree)
  | deregister o =>
      simp only [step] at h
      split at h
      · cases h
      · rename_i hfree
        cases h
        exact .deregister (Bool.not_eq_true _ ▸ hfree)
  | stop =>
      cases h
      exact .stop
  | connect o =>
      cases h
      exact .connect
  | shutdown o =>
      cases h
      exact .shutdown
  | read answer =>
      simp only [step] at h
      split at h
      · rename_i hpc
        cases h
        exact .read hpc
      · cases h
  | reader => exact .reader (readerStep_move h)

end LiveSource

/-! ## The lists in every run -/

namespace MediaSource

variable {ι : Type} [DecidableEq ι]

theorem mem_pushAbsent {l : List ι} {o x : ι} : x ∈ pushAbsent l o ↔ x ∈ l ∨ x = o := by
  rw [pushAbsent]
  split
  · rename_i ho
    constructor
    · exact Or.inl
    · rintro (hx | rfl)
      · exact hx
      · exact ho
  · rw [List.mem_append, List.mem_singleton]

theorem nodup_pushAbsent {l : List ι} (h : l.Nodup) (o : ι) : (pushAbsent l o).Nodup := by
  rw [pushAbsent]
  split
  · exact h
  · rename_i ho
    exact h.append (List.nodup_singleton o) (List.disjoint_singleton.mpr ho)

/-- The lists hold no viewer twice, and nobody waits without the cache. -/
structure Tidy (s : MediaSource ι) : Prop where
  observers : s.observers.Nodup
  newObservers : s.newObservers.Nodup
  uncached : s.enableGopCache = false → s.newObservers = []

omit [DecidableEq ι] in
/-- What the loops have still to do is the end of the list they walk. -/
def Walks (s : MediaSource ι) : ReaderPc ι → Prop
  | .admitting _ todo _ =>
      todo <:+ s.newObservers ∧ ∀ o ∈ s.newObservers, o ∈ todo ∨ o ∈ s.observers
  | .delivering _ todo _ => todo <:+ s.observers
  | .notifying todo => todo <:+ s.observers
  | _ => True

section Tidy

variable {s : MediaSource ι}

theorem Tidy.registerObserver (h : s.Tidy) (o : ι) : (s.registerObserver o).Tidy := by
  rw [MediaSource.registerObserver]
  split
  · rename_i hgop
    refine ⟨h.observers, nodup_pushAbsent h.newObservers o, fun hoff => ?_⟩
    have hoff' : s.enableGopCache = false := hoff
    rw [hoff'] at hgop
    cases hgop
  · exact ⟨nodup_pushAbsent h.observers o, h.newObservers, h.uncached⟩

theorem Tidy.deregisterObserver (h : s.Tidy) (o : ι) : (s.deregisterObserver o).Tidy := by
  refine ⟨h.observers.erase o, ?_, ?_⟩
  · rw [MediaSource.deregisterObserver]
    split
    · exact h.newObservers.erase o
    · exact h.newObservers
  · intro hoff
    have hoff' : s.enableGopCache = false := hoff
    simp only [MediaSource.deregisterObserver, hoff', h.uncached hoff']
    rfl

theorem Tidy.observe (h : s.Tidy) (o : ι) : (s.observe o).Tidy :=
  ⟨nodup_pushAbsent h.observers o, h.newObservers, h.uncached⟩

omit [DecidableEq ι] in
/-- The cache is all that a delivery leaves behind. -/
@[simp] theorem cachePacket_lists (p : SourcePacket) :
    (s.cachePacket p).observers = s.observers ∧ (s.cachePacket p).newObservers = s.newObservers ∧
      (s.cachePacket p).enableGopCache = s.enableGopCache := by
  rw [cachePacket]
  split <;> exact ⟨rfl, rfl, rfl⟩

omit [DecidableEq ι] in
theorem Tidy.cachePacket (h : s.Tidy) (p : SourcePacket) : (s.cachePacket p).Tidy := by
  obtain ⟨hobs, hnew, hgop⟩ := cachePacket_lists (s := s) p
  refine ⟨hobs ▸ h.observers, hnew ▸ h.newObservers, fun hoff => ?_⟩
  rw [hnew]
  exact h.uncached (hgop ▸ hoff)

omit [DecidableEq ι] in
/-- Reading leaves the lists and the cache alone, and does not take the
mutex. -/
theorem demux_frame (answer : FfmpegAnswer) :
    (s.demux answer).1.observers = s.observers ∧
      (s.demux answer).1.newObservers = s.newObservers ∧
      (s.demux answer).1.gopCache = s.gopCache ∧
      (s.demux answer).1.enableGopCache = s.enableGopCache ∧
      ((s.demux answer).2 = .streamEnd ∨ ∃ out, (s.demux answer).2 = .emitting out) := by
  rw [demux]
  split
  · exact ⟨rfl, rfl, rfl, rfl, Or.inl rfl⟩
  · split
    · split
      · exact ⟨rfl, rfl, rfl, rfl, Or.inl rfl⟩
      · exact ⟨rfl, rfl, rfl, rfl, Or.inr ⟨_, rfl⟩⟩
    · split
      · refine ⟨?_, ?_, ?_, ?_, Or.inr ⟨_, rfl⟩⟩ <;> dsimp only <;> split <;> rfl
      · exact ⟨rfl, rfl, rfl, rfl, Or.inr ⟨_, rfl⟩⟩

omit [DecidableEq ι] in
theorem demux_free (answer : FfmpegAnswer) : (s.demux answer).2.holdsMutex = false := by
  obtain ⟨-, -, -, -, hpc | ⟨out, hpc⟩⟩ := demux_frame (s := s) answer <;> rw [hpc] <;> rfl

end Tidy

end MediaSource

namespace LiveSource

variable {ι : Type} [DecidableEq ι]

omit [DecidableEq ι] in
/-- Outside the loops there is nothing to fit. -/
theorem walks_of_free {s : MediaSource ι} {pc : ReaderPc ι} (h : pc.holdsMutex = false) :
    s.Walks pc := by
  cases pc <;> trivial

/-- The lists are in order, and the reader's place fits them. -/
structure Ordered (s : LiveSource ι) : Prop where
  tidy : s.source.Tidy
  walks : s.source.Walks s.reader

theorem ReaderMove.ordered {s s' : LiveSource ι} {outs : List (Output ι)} (h : s.Ordered)
    (hmove : ReaderMove s s' outs) : s'.Ordered := by
  obtain ⟨htidy, hwalks⟩ := h
  cases hmove with
  | leave | check | read | turn | notified | return_ => exact ⟨htidy, trivial⟩
  | admission => exact ⟨htidy, List.suffix_refl _, fun _ => Or.inl⟩
  | admitted =>
      exact ⟨⟨htidy.observers, List.nodup_nil, fun _ => rfl⟩, trivial⟩
  | observe hpc =>
      rw [hpc] at hwalks
      refine ⟨htidy.observe _, (List.suffix_cons _ _).trans hwalks.1, ?_⟩
      intro x hx
      rcases hwalks.2 x hx with htodo | hobs
      · rcases List.mem_cons.mp htodo with rfl | htodo
        · exact Or.inr (MediaSource.mem_pushAbsent.mpr (Or.inr rfl))
        · exact Or.inl htodo
      · exact Or.inr (MediaSource.mem_pushAbsent.mpr (Or.inl hobs))
  | replay hpc =>
      rw [hpc] at hwalks
      exact ⟨htidy, hwalks⟩
  | deliver | fail => exact ⟨htidy, List.suffix_refl _⟩
  | delivered => exact ⟨htidy.cachePacket _, trivial⟩
  | call hpc | notify hpc =>
      rw [hpc] at hwalks
      exact ⟨htidy, (List.suffix_cons _ _).trans hwalks⟩

theorem Ordered.step {s s' : LiveSource ι} {e : Event ι} {outs : List (Output ι)}
    (h : s.Ordered) (hs : step s e = .ok (s', outs)) : s'.Ordered := by
  cases step_move hs with
  | register hfree => exact ⟨h.tidy.registerObserver _, walks_of_free hfree⟩
  | deregister hfree => exact ⟨h.tidy.deregisterObserver _, walks_of_free hfree⟩
  | stop =>
      refine ⟨⟨h.tidy.observers, h.tidy.newObservers, h.tidy.uncached⟩, ?_⟩
      have hwalks := h.walks
      cases hpc : s.reader <;> simp only [hpc] at hwalks ⊢ <;> exact hwalks
  | connect | shutdown => exact ⟨h.tidy, h.walks⟩
  | read =>
      obtain ⟨hobs, hnew, -, hgop, -⟩ := MediaSource.demux_frame (s := s.source) _
      refine ⟨⟨?_, ?_, ?_⟩, walks_of_free (MediaSource.demux_free _)⟩
      · exact hobs ▸ h.tidy.observers
      · exact hnew ▸ h.tidy.newObservers
      · exact fun hoff => hnew.trans (h.tidy.uncached (hgop ▸ hoff))
  | reader hmove => exact hmove.ordered h

/-- In every run the lists are in order. -/
theorem ordered_of_run {C : LiveSource ι → Event ι → Prop} {gop : Bool} {v a : Int}
    {viewers : ι → Viewer} {h : List (Event ι × List (Output ι))} {s : LiveSource ι}
    (hr : Run step C (started gop v a viewers) h s) : s.Ordered :=
  hr.invariant (I := fun _ s => s.Ordered)
    ⟨⟨List.nodup_nil, List.nodup_nil, fun _ => rfl⟩, trivial⟩
    fun _ _ _ _ _ hinv _ hs => hinv.step hs

end LiveSource

end WebrtcServer
