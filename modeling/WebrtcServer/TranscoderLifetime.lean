/-
# `TranscoderLifetime` — opus_transcoder.cpp: what the transcoder owns

`Open` makes the contexts of FFmpeg, the encoder and the FIFO one after the
other and leaves with `false` where one of them fails; on some of these
ways it has released what there was.  `ReadPacket` does not look at the
result, so `Transcode` is called all the same, and in the end the
destructor releases again.

`ReleaseResources` writes null behind all it frees but the encoder, and a
resample buffer that could not be made again leaves its old capacity
behind.  The life of a transcoder is free of misuse exactly when
`swr_init` does not fail, and no call comes to what `Open` did not make, or
to the buffer while it is missing.
-/
import WebrtcServer.Lib.Lifetime
import WebrtcServer.OpusTranscoder

namespace WebrtcServer.OpusTranscoder

open Lib

def averrorEinval : Int := -22

inductive Resource where
  | decodeContext
  | resampleContext
  | decodeFrame
  | audioFifo
  | opus
  | resampleOutputBuffer
deriving DecidableEq

/-- The answers to one call of `Open`. -/
structure OpenAnswers where
  /-- There are parameters, not a null pointer. -/
  codecpar : Bool
  findDecoder : Bool
  allocContext : Bool
  parametersToContext : Int
  open2 : Int
  allocFrame : Bool
  /-- `opus_encoder_create` gives an encoder and `OPUS_OK`, or neither. -/
  createEncoder : Bool
  allocResampler : Bool
  swrInit : Int
  allocFifo : Bool

/-- The transcoder with its pointers, and whether the codec of
`decode_context_` is open. -/
structure Owned (α : Type) where
  transcoder : OpusTranscoder α
  pointers : Pointers Resource
  codecOpen : Bool

variable {α : Type}

/-- The result of calls that may misuse a pointer. -/
abbrev Safely := Except (Misuse Resource)

namespace Owned

def constructed : Owned α where
  transcoder := OpusTranscoder.opened
  pointers := fun _ => .null
  codecOpen := false

/-- In the order of `ReleaseResources`. -/
def resources : List Resource :=
  [.decodeContext, .resampleContext, .audioFifo, .opus, .decodeFrame, .resampleOutputBuffer]

/-- All but `opus_` become null. -/
def releaseResources (o : Owned α) : Safely (Owned α) := do
  let s ← Pointers.destroy (· = .opus) resources o.pointers
  return { o with pointers := s, codecOpen := false }

/-- `p = allocate()`, where `p` was not read before. -/
def assign (o : Owned α) (p : Resource) (found : Bool) : Safely (Owned α) := do
  let s ← o.pointers.assign p found
  return { o with pointers := s }

def initDecoder (o : Owned α) (a : OpenAnswers) : Safely (Owned α × Bool) := do
  if a.codecpar = false then return (o, false)
  if a.findDecoder = false then return (o, false)
  let o ← o.assign .decodeContext a.allocContext
  if a.allocContext = false then return (o, false)
  o.pointers.use .decodeContext
  if a.parametersToContext < 0 then return (o, false)
  if a.open2 < 0 then
    let o ← o.releaseResources
    return (o, false)
  let o ← { o with codecOpen := true }.assign .decodeFrame a.allocFrame
  if a.allocFrame = false then
    let o ← o.releaseResources
    return (o, false)
  return (o, true)

def initEncoder (o : Owned α) (a : OpenAnswers) : Safely (Owned α × Bool) := do
  let o ← o.assign .opus a.createEncoder
  return (o, a.createEncoder)

def initResampler (o : Owned α) (a : OpenAnswers) : Safely (Owned α × Bool) := do
  o.pointers.use .decodeContext
  let o ← o.assign .resampleContext a.allocResampler
  if a.allocResampler = false then return (o, false)
  if a.swrInit < 0 then
    let o ← o.releaseResources
    return (o, false)
  return (o, true)

def initFifo (o : Owned α) (a : OpenAnswers) : Safely (Owned α × Bool) := do
  let o ← o.assign .audioFifo a.allocFifo
  return (o, a.allocFifo)

def «open» (o : Owned α) (a : OpenAnswers) : Safely (Owned α × Bool) := do
  let (o, ok) ← o.initDecoder a
  if ok = false then return (o, false)
  let (o, ok) ← o.initEncoder a
  if ok = false then return (o, false)
  let (o, ok) ← o.initResampler a
  if ok = false then return (o, false)
  o.initFifo a

/-- A decoder that is not open takes no packet. -/
def sendPacket (o : Owned α) (c : Answers α) : Int :=
  if o.codecOpen then c.sendPacket else averrorEinval

/-- The resample buffer is made again where the frame needs more room.  When
that fails it is gone, and the capacity stays. -/
def reserve (o : Owned α) (c : Answers α) : Safely (Owned α × Bool) := do
  if c.estimated > o.transcoder.resampleOutputBufferSamplesPerChannel then
    let s ← o.pointers.release .resampleOutputBuffer
    let s ← s.assign .resampleOutputBuffer (0 ≤ c.samplesAlloc)
    if c.samplesAlloc < 0 then return ({ o with pointers := s }, false)
    return ({ o with
      pointers := s
      transcoder := { o.transcoder with
        resampleOutputBufferSamplesPerChannel := c.estimated } }, true)
  return (o, true)

/-- `swr_convert` writes the samples where the buffer points. -/
def fill (o : Owned α) (samples : List α) : Safely Unit :=
  if samples = [] then .ok () else o.pointers.use .resampleOutputBuffer

/-- The encoder is asked when there is a frame. -/
def askEncoder (o : Owned α) (samples : List α) : Safely Unit :=
  if (o.transcoder.push samples).more then o.pointers.use .opus else .ok ()

/-- Behind the conversion: the samples are written, and the loop runs. -/
def encode (o : Owned α) (c : Answers α) (samples : List α) :
    Safely (Owned α × List (Action α)) := do
  o.pointers.use .audioFifo
  if c.fifoWrite = false then return (o, [.returned false])
  o.askEncoder samples
  let (t, actions) := finish (encodeFrames c (o.transcoder.push samples))
  return ({ o with transcoder := t }, actions)

def convert (o : Owned α) (c : Answers α) : Safely (Owned α × List (Action α)) :=
  match c.convert with
  | .error _ => .ok (o, [.returned false])
  | .ok samples => do
      o.fill samples
      o.encode c samples

def transcode (o : Owned α) (c : Answers α) : Safely (Owned α × List (Action α)) := do
  if c.packet = false then return (o, [.returned false])
  o.pointers.use .decodeContext
  if o.sendPacket c < 0 then return (o, [.returned false])
  o.pointers.use .decodeFrame
  if c.receiveFrame = averrorEagain ∨ c.receiveFrame = averrorEof then
    return (o, [.returned true])
  if c.receiveFrame < 0 then return (o, [.returned false])
  o.pointers.use .resampleContext
  let (o, ok) ← o.reserve c
  if ok = false then return (o, [.returned false])
  o.convert c

end Owned

/-- A transcoder as `ReadPacket` uses it: opened, called for each packet
whatever `Open` returned, and destroyed. -/
def life (a : OpenAnswers) (calls : List (Answers α)) :
    Safely (List (Answers α × List (Action α)) × Owned α) := do
  let (o, _) ← Owned.constructed.open a
  let (h, o) ← runAll Owned.transcode o calls
  let o ← o.releaseResources
  return (h, o)

/-! ## What `Open` leaves -/

/-- Where `Open` stops, told by what there is then. -/
inductive OpenStop where
  /-- Nothing was made, or all is released. -/
  | noContext
  /-- There is a context, and its codec is not open. -/
  | notOpen
  | noEncoder
  | noResampler
  /-- All is released, and `opus_` was not made null. -/
  | resamplerFailed
  | noFifo
  | opened
deriving DecidableEq

def OpenAnswers.stop (a : OpenAnswers) : OpenStop :=
  if a.codecpar = false ∨ a.findDecoder = false ∨ a.allocContext = false then .noContext
  else if a.parametersToContext < 0 then .notOpen
  else if a.open2 < 0 ∨ a.allocFrame = false then .noContext
  else if a.createEncoder = false then .noEncoder
  else if a.allocResampler = false then .noResampler
  else if a.swrInit < 0 then .resamplerFailed
  else if a.allocFifo = false then .noFifo
  else .opened

namespace OpenStop

/-- The resources of a transcoder whose codec is open. -/
def made : OpenStop → List Resource
  | noContext => []
  | notOpen => [.decodeContext]
  | noEncoder => [.decodeContext, .decodeFrame]
  | noResampler => [.decodeContext, .decodeFrame, .opus]
  | resamplerFailed => []
  | noFifo => [.decodeContext, .decodeFrame, .opus, .resampleContext]
  | opened => [.decodeContext, .decodeFrame, .opus, .resampleContext, .audioFifo]

def pointers (stop : OpenStop) : Pointers Resource := fun p =>
  if p ∈ stop.made then .live
  else if stop = resamplerFailed ∧ p = .opus then .dangling
  else .null

def codecOpen : OpenStop → Bool
  | noContext | notOpen | resamplerFailed => false
  | noEncoder | noResampler | noFifo | opened => true

end OpenStop

/-- A transcoder for which `Open` has come so far. -/
def Owned.stopped (stop : OpenStop) : Owned α where
  transcoder := OpusTranscoder.opened
  pointers := stop.pointers
  codecOpen := stop.codecOpen

namespace Owned

variable {stop stop' : OpenStop} {p : Resource} {found : Bool} {a : OpenAnswers}

theorem eq_stopped {o : Owned α} (ht : o.transcoder = OpusTranscoder.opened)
    (hp : ∀ q, o.pointers q = stop.pointers q) (hc : o.codecOpen = stop.codecOpen) :
    o = stopped stop := by
  obtain ⟨t, s, c⟩ := o
  obtain rfl : s = stop.pointers := funext hp
  obtain rfl : t = OpusTranscoder.opened := ht
  obtain rfl : c = stop.codecOpen := hc
  rfl

theorem constructed_eq : (constructed : Owned α) = stopped .noContext :=
  eq_stopped rfl (fun q => by cases q <;> rfl) rfl

/-- A pointer that is not live gets its answer. -/
theorem assign_of_not_live {o : Owned α} (h : o.pointers p ≠ .live) (found : Bool) :
    o.assign p found = .ok { o with
      pointers := Function.update o.pointers p (.allocated found) } := by
  rw [assign, Pointers.assign_of_not_live h]
  rfl

theorem resources_nodup : resources.Nodup := by decide

theorem mem_resources (p : Resource) : p ∈ resources := by
  cases p <;> decide

theorem releaseResources_of_clean {o : Owned α} (h : ∀ p, o.pointers p ≠ .dangling) :
    o.releaseResources = .ok { o with
      pointers := Pointers.afterDestroy (· = .opus) resources o.pointers
      codecOpen := false } := by
  rw [releaseResources, Pointers.destroy_of_clean resources_nodup fun p _ => h p]
  rfl

/-- An allocation, from one place in `Open` to the next. -/
theorem assign_stopped (stop : OpenStop) {o : Owned α} (ht : o.transcoder = OpusTranscoder.opened)
    (h : o.pointers p = .null)
    (hp : ∀ q, Function.update o.pointers p (.allocated found) q = stop.pointers q)
    (hc : o.codecOpen = stop.codecOpen) : o.assign p found = .ok (stopped stop) := by
  rw [assign_of_not_live (by rw [h]; decide)]
  exact congrArg Except.ok (eq_stopped ht hp hc)

theorem releaseResources_stopped (stop : OpenStop) {o : Owned α}
    (ht : o.transcoder = OpusTranscoder.opened) (h : ∀ p, o.pointers p ≠ .dangling)
    (hp : ∀ q, Pointers.afterDestroy (· = .opus) resources o.pointers q = stop.pointers q)
    (hc : false = stop.codecOpen) : o.releaseResources = .ok (stopped stop) := by
  rw [releaseResources_of_clean h]
  exact congrArg Except.ok (eq_stopped ht hp hc)

theorem initDecoder_eq (a : OpenAnswers) :
    (constructed : Owned α).initDecoder a =
      .ok (if a.codecpar = false ∨ a.findDecoder = false ∨ a.allocContext = false then
          (stopped .noContext, false)
        else if a.parametersToContext < 0 then (stopped .notOpen, false)
        else if a.open2 < 0 ∨ a.allocFrame = false then (stopped .noContext, false)
        else (stopped .noEncoder, true)) := by
  rcases a with ⟨codecpar, findDecoder, allocContext, parametersToContext, open2, allocFrame,
    -, -, -, -⟩
  rw [constructed_eq, initDecoder]
  cases codecpar with
  | false => rfl
  | true =>
  cases findDecoder with
  | false => rfl
  | true =>
  cases allocContext with
  | false =>
      rw [assign_stopped .noContext rfl rfl (by intro q; cases q <;> rfl) rfl]
      rfl
  | true =>
  rw [assign_stopped .notOpen rfl rfl (by intro q; cases q <;> rfl) rfl, if_neg (by simp)]
  change (if parametersToContext < 0 then _ else _) = _
  by_cases hpar : parametersToContext < 0
  · rw [if_pos hpar, if_pos hpar]
    rfl
  rw [if_neg hpar, if_neg hpar]
  by_cases hopen : open2 < 0
  · rw [if_pos hopen, if_pos (Or.inl hopen), releaseResources_stopped .noContext rfl
      (by intro q h; cases q <;> cases h) (by intro q; cases q <;> rfl) rfl]
    rfl
  rw [if_neg hopen]
  cases allocFrame with
  | false =>
      rw [assign_of_not_live (by intro h; cases h), ok_bind, if_pos rfl,
        releaseResources_stopped .noContext rfl (by intro q h; cases q <;> cases h)
          (by intro q; cases q <;> rfl) rfl, if_pos (Or.inr rfl)]
      rfl
  | true =>
      have hmade : ¬ (open2 < 0 ∨ true = false) := by
        rintro (h | h)
        · exact hopen h
        · cases h
      rw [assign_stopped .noEncoder rfl rfl (by intro q; cases q <;> rfl) rfl]
      exact congrArg Except.ok (if_neg hmade).symm

theorem initEncoder_eq (a : OpenAnswers) :
    (stopped .noEncoder : Owned α).initEncoder a =
      .ok (if a.createEncoder = false then (stopped .noEncoder, false)
        else (stopped .noResampler, true)) := by
  rcases a with ⟨-, -, -, -, -, -, createEncoder, -, -, -⟩
  rw [initEncoder]
  cases createEncoder with
  | false =>
      rw [assign_stopped .noEncoder rfl rfl (by intro q; cases q <;> rfl) rfl]
      rfl
  | true =>
      rw [assign_stopped .noResampler rfl rfl (by intro q; cases q <;> rfl) rfl]
      rfl

theorem initResampler_eq (a : OpenAnswers) :
    (stopped .noResampler : Owned α).initResampler a =
      .ok (if a.allocResampler = false then (stopped .noResampler, false)
        else if a.swrInit < 0 then (stopped .resamplerFailed, false)
        else (stopped .noFifo, true)) := by
  rcases a with ⟨-, -, -, -, -, -, -, allocResampler, swrInit, -⟩
  rw [initResampler]
  cases allocResampler with
  | false =>
      rw [assign_stopped .noResampler rfl rfl (by intro q; cases q <;> rfl) rfl]
      rfl
  | true =>
      rw [assign_stopped .noFifo rfl rfl (by intro q; cases q <;> rfl) rfl]
      change (if swrInit < 0 then _ else _) = Except.ok (if swrInit < 0 then _ else _)
      by_cases hinit : swrInit < 0
      · rw [if_pos hinit, if_pos hinit, releaseResources_stopped .resamplerFailed rfl
          (by intro q h; cases q <;> cases h) (by intro q; cases q <;> rfl) rfl]
        rfl
      · rw [if_neg hinit, if_neg hinit]
        rfl

theorem initFifo_eq (a : OpenAnswers) :
    (stopped .noFifo : Owned α).initFifo a =
      .ok (if a.allocFifo = false then (stopped .noFifo, false) else (stopped .opened, true)) := by
  rcases a with ⟨-, -, -, -, -, -, -, -, -, allocFifo⟩
  rw [initFifo]
  cases allocFifo with
  | false =>
      rw [assign_stopped .noFifo rfl rfl (by intro q; cases q <;> rfl) rfl]
      rfl
  | true =>
      rw [assign_stopped .opened rfl rfl (by intro q; cases q <;> rfl) rfl]
      rfl

/-- `Open` never misuses a pointer, and leaves what `stop` says. -/
theorem open_eq (a : OpenAnswers) :
    (constructed : Owned α).open a = .ok (stopped a.stop, decide (a.stop = .opened)) := by
  rw [Owned.open, initDecoder_eq, ok_bind, OpenAnswers.stop]
  by_cases hfirst : a.codecpar = false ∨ a.findDecoder = false ∨ a.allocContext = false
  · rw [if_pos hfirst, if_pos hfirst]
    rfl
  rw [if_neg hfirst, if_neg hfirst]
  by_cases hpar : a.parametersToContext < 0
  · rw [if_pos hpar, if_pos hpar]
    rfl
  rw [if_neg hpar, if_neg hpar]
  by_cases hopen : a.open2 < 0 ∨ a.allocFrame = false
  · rw [if_pos hopen, if_pos hopen]
    rfl
  rw [if_neg hopen, if_neg hopen]
  change ((stopped .noEncoder).initEncoder a >>= _) = _
  rw [initEncoder_eq, ok_bind]
  by_cases hencoder : a.createEncoder = false
  · rw [if_pos hencoder, if_pos hencoder]
    rfl
  rw [if_neg hencoder, if_neg hencoder]
  change ((stopped .noResampler).initResampler a >>= _) = _
  rw [initResampler_eq, ok_bind]
  by_cases hresampler : a.allocResampler = false
  · rw [if_pos hresampler, if_pos hresampler]
    rfl
  rw [if_neg hresampler, if_neg hresampler]
  by_cases hinit : a.swrInit < 0
  · rw [if_pos hinit, if_pos hinit]
    rfl
  rw [if_neg hinit, if_neg hinit]
  change (stopped .noFifo).initFifo a = _
  rw [initFifo_eq]
  by_cases hfifo : a.allocFifo = false
  · rw [if_pos hfifo, if_pos hfifo]
    rfl
  · rw [if_neg hfifo, if_neg hfifo]
    rfl

end Owned

/-! ## What a call needs -/

/-- The resample buffer: the samples it was made for, and whether it is there. -/
structure Room where
  capacity : Int
  held : Bool

def Room.none : Room where
  capacity := 0
  held := false

namespace Answers

/-- The call comes behind the decoder with a frame. -/
def Decodes (stop : OpenStop) (c : Answers α) : Prop :=
  stop.codecOpen = true ∧ c.packet = true ∧ 0 ≤ c.sendPacket ∧ 0 ≤ c.receiveFrame

/-- A frame is no request for more input. -/
theorem not_again {c : Answers α} (h : 0 ≤ c.receiveFrame) :
    ¬ (c.receiveFrame = averrorEagain ∨ c.receiveFrame = averrorEof) := by
  rintro (heq | heq)
  · rw [heq] at h
    exact absurd h (by decide)
  · rw [heq] at h
    exact absurd h (by decide)

/-- The frame has its room, or gets it. -/
def Fits (r : Room) (c : Answers α) : Prop := c.estimated > r.capacity → 0 ≤ c.samplesAlloc

instance (stop : OpenStop) (c : Answers α) : Decidable (c.Decodes stop) :=
  inferInstanceAs (Decidable (_ ∧ _ ∧ _ ∧ _))

instance (r : Room) (c : Answers α) : Decidable (c.Fits r) :=
  inferInstanceAs (Decidable (_ → _))

/-- The buffer behind `reserve`. -/
def room (r : Room) (c : Answers α) : Room :=
  if c.estimated > r.capacity then
    if c.samplesAlloc < 0 then { r with held := false }
    else { capacity := c.estimated, held := true }
  else r

/-- The buffer behind the call. -/
def roomAfter (stop : OpenStop) (r : Room) (c : Answers α) : Room :=
  if c.Decodes stop then c.room r else r

/-- The call comes to nothing that is not there. -/
def Sound (stop : OpenStop) (r : Room) (c : Answers α) : Prop :=
  match stop with
  | .noContext | .resamplerFailed => c.packet = false
  | .notOpen => True
  | .noEncoder | .noResampler => ¬ c.Decodes stop
  | .noFifo => c.Decodes stop → c.Fits r → ∃ e, c.convert = .error e
  | .opened => c.Decodes stop → c.Fits r → ∀ samples, c.convert = .ok samples → samples ≠ [] →
      (c.room r).held = true

end Answers

namespace Owned

variable {stop : OpenStop} {r : Room} {o o' : Owned α} {c : Answers α} {acts : List (Action α)}
  {p : Resource}

/-- A transcoder behind `Open`, with this resample buffer. -/
structure Behind (stop : OpenStop) (r : Room) (o : Owned α) : Prop where
  pointers : o.pointers = Function.update stop.pointers .resampleOutputBuffer
    (.allocated r.held)
  capacity : o.transcoder.resampleOutputBufferSamplesPerChannel = r.capacity
  codecOpen : o.codecOpen = stop.codecOpen

theorem stopped_behind (stop : OpenStop) : (stopped stop : Owned α).Behind stop .none := by
  refine ⟨?_, rfl, rfl⟩
  funext p
  cases p <;> cases stop <;> rfl

theorem Behind.pointer (h : o.Behind stop r) (hp : p ≠ .resampleOutputBuffer) :
    o.pointers p = stop.pointers p := by
  rw [h.pointers, Function.update_of_ne hp]

theorem Behind.buffer (h : o.Behind stop r) :
    o.pointers .resampleOutputBuffer = .allocated r.held := by
  rw [h.pointers, Function.update_self]

/-- The loop does not touch the buffer. -/
theorem finish_capacity (t : OpusTranscoder α) (c : Answers α) (samples : List α) :
    (finish (encodeFrames c (t.push samples))).1.resampleOutputBufferSamplesPerChannel =
      t.resampleOutputBufferSamplesPerChannel := by
  let same (s : Encoding α) : Prop := s.transcoder.resampleOutputBufferSamplesPerChannel =
    t.resampleOutputBufferSamplesPerChannel
  have hleaves : Leaves same same (encodeFrames c (t.push samples)) := by
    refine whileLoop_leaves ?_ ?_ rfl
    · rintro s s' hs ⟨hm, hturn⟩
      obtain ⟨data, -, rfl⟩ := encodeFrame_ok hm hturn
      exact hs
    · intro s e hs hm herror
      obtain ⟨failed, -, rfl⟩ := encodeFrame_error hm herror
      exact hs
  cases hloop : encodeFrames c (t.push samples) with
  | ok s =>
      rw [hloop] at hleaves
      exact hleaves
  | error s =>
      rw [hloop] at hleaves
      exact hleaves

/-- The buffer is made, or gone, as `room` says. -/
theorem Behind.reserve (h : o.Behind stop r) (c : Answers α) :
    ∃ o', o.reserve c = .ok (o', decide (c.Fits r)) ∧ o'.Behind stop (c.room r) ∧
      (c.Fits r → o.transcoder.reserve c = some o'.transcoder) ∧
      (¬ c.Fits r → o.transcoder.reserve c = none ∧ o'.transcoder = o.transcoder) := by
  have hclean : o.pointers .resampleOutputBuffer ≠ .dangling := by
    rw [h.buffer]
    exact Pointer.allocated_ne_dangling r.held
  rw [Owned.reserve, Answers.room, OpusTranscoder.reserve, h.capacity]
  by_cases hroom : c.estimated > r.capacity
  · have hnull : Function.update o.pointers .resampleOutputBuffer .null
        Resource.resampleOutputBuffer ≠ .live := by
      rw [Function.update_self]
      decide
    rw [if_pos hroom, if_pos hroom, if_pos hroom, Pointers.release_of_not_dangling hclean, ok_bind,
      Pointers.assign_of_not_live hnull, ok_bind, Function.update_idem, h.pointers,
      Function.update_idem]
    by_cases halloc : c.samplesAlloc < 0
    · have hfits : ¬ c.Fits r := fun hf => Int.not_le.mpr halloc (hf hroom)
      rw [if_pos halloc, if_pos halloc, if_pos halloc, decide_eq_false hfits,
        decide_eq_false (Int.not_le.mpr halloc)]
      exact ⟨_, rfl, ⟨rfl, h.capacity, h.codecOpen⟩, fun hf => absurd hf hfits,
        fun _ => ⟨rfl, rfl⟩⟩
    · have hfits : c.Fits r := fun _ => Int.not_lt.mp halloc
      rw [if_neg halloc, if_neg halloc, if_neg halloc, decide_eq_true hfits,
        decide_eq_true (Int.not_lt.mp halloc)]
      exact ⟨_, rfl, ⟨rfl, rfl, h.codecOpen⟩, fun _ => rfl, fun hf => absurd hfits hf⟩
  · have hfits : c.Fits r := fun hr => absurd hr hroom
    rw [if_neg hroom, if_neg hroom, if_neg hroom]
    rw [decide_eq_true hfits]
    exact ⟨o, rfl, h, fun _ => rfl, fun hf => absurd hfits hf⟩

theorem fill_returns_iff {samples : List α} :
    Returns (o.fill samples) ↔ (samples ≠ [] → o.pointers .resampleOutputBuffer = .live) := by
  rw [fill]
  by_cases hsamples : samples = []
  · rw [if_pos hsamples]
    exact ⟨fun _ hne => absurd hsamples hne, fun _ => returns_ok ()⟩
  · rw [if_neg hsamples]
    constructor
    · rintro ⟨⟨⟩, hx⟩ -
      exact Pointers.use_ok_iff.mp hx
    · intro hlive
      exact ⟨(), Pointers.use_ok_iff.mpr (hlive hsamples)⟩

/-- With an encoder `encode` needs the FIFO. -/
theorem encode_eq {samples : List α} (hopus : o.pointers .opus = .live) :
    o.encode c samples = o.pointers.use .audioFifo >>= fun _ =>
      .ok (if c.fifoWrite = false then (o, [.returned false])
        else ({ o with transcoder := (finish (encodeFrames c (o.transcoder.push samples))).1 },
          (finish (encodeFrames c (o.transcoder.push samples))).2)) := by
  have hask : o.askEncoder samples = .ok () := by
    rw [askEncoder]
    split
    · exact Pointers.use_ok_iff.mpr hopus
    · rfl
  rw [encode, hask]
  refine congrArg (_ >>= ·) (funext fun _ => ?_)
  split
  · rfl
  · rfl

/-- Behind the conversion the buffer is used when there are samples, and
then the FIFO. -/
theorem Behind.convert_returns_iff (h : o.Behind stop r) (hopus : stop.pointers .opus = .live)
    (c : Answers α) :
    Returns (o.convert c) ↔ ∀ samples, c.convert = .ok samples →
      (samples ≠ [] → r.held = true) ∧ stop.pointers .audioFifo = .live := by
  have hbuffer : o.pointers .resampleOutputBuffer = .live ↔ r.held = true := by
    rw [h.buffer]
    cases r.held with
    | false => exact ⟨fun hx => (by cases hx), fun hx => (by cases hx)⟩
    | true => exact ⟨fun _ => rfl, fun _ => rfl⟩
  rw [Owned.convert]
  split
  next e he =>
    refine ⟨fun _ samples hsamples => ?_, fun _ => returns_ok _⟩
    rw [he] at hsamples
    cases hsamples
  next samples hsamples =>
    rw [returns_bind, encode_eq ((h.pointer (by decide)).trans hopus), hsamples]
    constructor
    · rintro ⟨⟨⟩, hfill, hencode⟩ samples' hs
      cases hs
      obtain ⟨⟨⟩, hfifo, -⟩ := returns_bind.mp hencode
      refine ⟨fun hne => hbuffer.mp (fill_returns_iff.mp ⟨_, hfill⟩ hne), ?_⟩
      rw [← h.pointer (by decide)]
      exact Pointers.use_ok_iff.mp hfifo
    · intro hall
      obtain ⟨hheld, hfifo⟩ := hall samples rfl
      rw [← h.pointer (by decide)] at hfifo
      obtain ⟨u, hfill⟩ := fill_returns_iff.mpr fun hne => hbuffer.mpr (hheld hne)
      rw [Pointers.use_ok_iff.mpr hfifo]
      exact ⟨u, hfill, returns_ok _⟩

/-- What the transcoder does is what it does without pointers. -/
theorem Behind.convert_ok (h : o.Behind stop r) (hopus : stop.pointers .opus = .live)
    (hx : o.convert c = .ok (o', acts)) :
    o'.Behind stop r ∧ (o'.transcoder, acts) =
      (match c.convert with
        | .error _ => (o.transcoder, [.returned false])
        | .ok samples =>
            if c.fifoWrite = false then (o.transcoder, [.returned false])
            else finish (encodeFrames c (o.transcoder.push samples))) := by
  rw [Owned.convert] at hx
  split at hx
  · cases hx
    exact ⟨h, rfl⟩
  next samples hsamples =>
    obtain ⟨u, -, hx⟩ := bind_eq_ok.mp hx
    rw [encode_eq ((h.pointer (by decide)).trans hopus)] at hx
    obtain ⟨u', -, hx⟩ := bind_eq_ok.mp hx
    by_cases hwrite : c.fifoWrite = false
    · rw [if_pos hwrite] at hx
      cases hx
      exact ⟨h, (if_pos hwrite).symm⟩
    · have hcapacity := (finish_capacity o.transcoder c samples).trans h.capacity
      rw [if_neg hwrite] at hx
      cases hx
      exact ⟨⟨h.pointers, hcapacity, h.codecOpen⟩, (if_neg hwrite).symm⟩

/-- Without a frame from the decoder a call returns at once. -/
theorem Behind.transcode_quiet (h : o.Behind stop r) (hctx : stop.pointers .decodeContext = .live)
    (hframe : stop.codecOpen = true → stop.pointers .decodeFrame = .live)
    (hc : ¬ c.Decodes stop) :
    ∃ b, o.transcode c = .ok (o, [.returned b]) ∧
      (stop.codecOpen = true → o.transcoder.transcode c = (o.transcoder, [.returned b])) := by
  have huse : o.pointers.use .decodeContext = .ok () :=
    Pointers.use_ok_iff.mpr ((h.pointer (by decide)).trans hctx)
  rw [Owned.transcode, OpusTranscoder.transcode, huse, ok_bind, sendPacket, h.codecOpen]
  by_cases hpacket : c.packet = false
  · rw [if_pos hpacket, if_pos hpacket]
    exact ⟨false, rfl, fun _ => rfl⟩
  rw [if_neg hpacket, if_neg hpacket]
  cases hopen : stop.codecOpen with
  | false =>
      have heinval : averrorEinval < 0 := by decide
      exact ⟨false, if_pos heinval, fun hx => by cases hx⟩
  | true =>
  by_cases hsend : c.sendPacket < 0
  · rw [if_pos rfl, if_pos hsend, if_pos hsend]
    exact ⟨false, rfl, fun _ => rfl⟩
  rw [if_pos rfl, if_neg hsend, if_neg hsend,
    Pointers.use_ok_iff.mpr ((h.pointer (by decide)).trans (hframe hopen)), ok_bind]
  by_cases hagain : c.receiveFrame = averrorEagain ∨ c.receiveFrame = averrorEof
  · rw [if_pos hagain, if_pos hagain]
    exact ⟨true, rfl, fun _ => rfl⟩
  have hfailed : c.receiveFrame < 0 := by
    by_contra hreceive
    exact hc ⟨hopen, eq_true_of_ne_false hpacket, Int.not_lt.mp hsend, Int.not_lt.mp hreceive⟩
  rw [if_neg hagain, if_neg hagain, if_pos hfailed, if_pos hfailed]
  exact ⟨false, rfl, fun _ => rfl⟩

/-- With a frame it comes to the resampler. -/
theorem Behind.transcode_frame (h : o.Behind stop r) (hctx : stop.pointers .decodeContext = .live)
    (hframe : stop.codecOpen = true → stop.pointers .decodeFrame = .live)
    (hc : c.Decodes stop) :
    o.transcode c = o.pointers.use .resampleContext >>= fun _ => o.reserve c >>= fun x =>
      if x.2 = false then .ok (x.1, [.returned false]) else x.1.convert c := by
  obtain ⟨hopen, hpacket, hsend, hreceive⟩ := hc
  have hagain := Answers.not_again hreceive
  rw [Owned.transcode, Pointers.use_ok_iff.mpr ((h.pointer (by decide)).trans hctx), ok_bind,
    sendPacket, h.codecOpen, hopen, if_pos rfl, hpacket, if_neg (by decide),
    if_neg (Int.not_lt.mpr hsend),
    Pointers.use_ok_iff.mpr ((h.pointer (by decide)).trans (hframe hopen)), ok_bind,
    if_neg hagain, if_neg (Int.not_lt.mpr hreceive)]
  rfl

/-- The plain transcoder on a frame. -/
theorem transcode_of_frame {t : OpusTranscoder α} (hc : c.Decodes stop) :
    t.transcode c = (match t.reserve c with
      | none => (t, [.returned false])
      | some t =>
          match c.convert with
          | .error _ => (t, [.returned false])
          | .ok samples =>
              if c.fifoWrite = false then (t, [.returned false])
              else finish (encodeFrames c (t.push samples))) := by
  obtain ⟨-, hpacket, hsend, hreceive⟩ := hc
  have hagain := Answers.not_again hreceive
  rw [OpusTranscoder.transcode, hpacket, if_neg (by decide), if_neg (Int.not_lt.mpr hsend),
    if_neg hagain]
  exact if_neg (Int.not_lt.mpr hreceive)

theorem Behind.transcode_noContext (h : o.Behind stop r)
    (hctx : stop.pointers .decodeContext = .null) (c : Answers α) :
    o.transcode c = if c.packet = false then .ok (o, [.returned false])
      else .error (.null .decodeContext) := by
  rw [Owned.transcode]
  split
  · rfl
  · rw [Pointers.use, h.pointer (by decide), hctx]
    rfl

/-- A frame without a resampler is a misuse. -/
theorem Behind.transcode_noResampler (h : o.Behind stop r)
    (hctx : stop.pointers .decodeContext = .live)
    (hframe : stop.codecOpen = true → stop.pointers .decodeFrame = .live)
    (hnull : stop.pointers .resampleContext = .null) (hc : c.Decodes stop) :
    o.transcode c = .error (.null .resampleContext) := by
  rw [h.transcode_frame hctx hframe hc, Pointers.use, h.pointer (by decide), hnull]
  rfl

/-- With a resampler a frame goes on to its room and its conversion. -/
theorem Behind.transcode_convert (h : o.Behind stop r)
    (hctx : stop.pointers .decodeContext = .live)
    (hframe : stop.codecOpen = true → stop.pointers .decodeFrame = .live)
    (hlive : stop.pointers .resampleContext = .live) (hc : c.Decodes stop) :
    ∃ o₁, o₁.Behind stop (c.room r) ∧
      (c.Fits r → o.transcode c = o₁.convert c ∧ o.transcoder.reserve c = some o₁.transcoder) ∧
      (¬ c.Fits r → o.transcode c = .ok (o₁, [.returned false]) ∧
        o.transcoder.reserve c = none ∧ o₁.transcoder = o.transcoder) := by
  obtain ⟨o₁, hreserve, h₁, hfits, hnot⟩ := h.reserve c
  have heq : o.transcode c =
      if decide (c.Fits r) = false then .ok (o₁, [.returned false]) else o₁.convert c := by
    rw [h.transcode_frame hctx hframe hc,
      Pointers.use_ok_iff.mpr ((h.pointer (by decide)).trans hlive), ok_bind, hreserve, ok_bind]
  refine ⟨o₁, h₁, fun hf => ⟨?_, hfits hf⟩, fun hf => ⟨?_, hnot hf⟩⟩
  · rw [heq, decide_eq_true hf, if_neg (by decide)]
  · rw [heq, decide_eq_false hf, if_pos rfl]

/-- The stops whose codec is open have the context and the frame. -/
theorem pointers_of_codecOpen (hopen : stop.codecOpen = true) :
    stop.pointers .decodeContext = .live ∧ stop.pointers .decodeFrame = .live := by
  cases stop with
  | noContext | notOpen | resamplerFailed => cases hopen
  | noEncoder | noResampler | noFifo | opened => exact ⟨rfl, rfl⟩

theorem Behind.returns_of_not_decodes (h : o.Behind stop r) (hopen : stop.codecOpen = true)
    (hc : ¬ c.Decodes stop) : Returns (o.transcode c) := by
  obtain ⟨hctx, hframe⟩ := pointers_of_codecOpen hopen
  obtain ⟨b, hx, -⟩ := h.transcode_quiet hctx (fun _ => hframe) hc
  exact ⟨_, hx⟩

theorem Behind.returns_noContext_iff (h : o.Behind stop r)
    (hctx : stop.pointers .decodeContext = .null) (c : Answers α) :
    Returns (o.transcode c) ↔ c.packet = false := by
  rw [h.transcode_noContext hctx]
  by_cases hpacket : c.packet = false
  · rw [if_pos hpacket]
    exact ⟨fun _ => hpacket, fun _ => returns_ok _⟩
  · rw [if_neg hpacket]
    exact ⟨fun hx => absurd hx (not_returns_error _), fun hp => absurd hp hpacket⟩

theorem Behind.returns_noResampler_iff (h : o.Behind stop r) (hopen : stop.codecOpen = true)
    (hnull : stop.pointers .resampleContext = .null) (c : Answers α) :
    Returns (o.transcode c) ↔ ¬ c.Decodes stop := by
  obtain ⟨hctx, hframe⟩ := pointers_of_codecOpen hopen
  refine ⟨fun hx hc => ?_, fun hc => h.returns_of_not_decodes hopen hc⟩
  rw [h.transcode_noResampler hctx (fun _ => hframe) hnull hc] at hx
  exact not_returns_error _ hx

theorem Behind.returns_convert_iff (h : o.Behind stop r) (hopen : stop.codecOpen = true)
    (hlive : stop.pointers .resampleContext = .live) (hopus : stop.pointers .opus = .live)
    (c : Answers α) :
    Returns (o.transcode c) ↔ (c.Decodes stop → c.Fits r → ∀ samples, c.convert = .ok samples →
      (samples ≠ [] → (c.room r).held = true) ∧ stop.pointers .audioFifo = .live) := by
  obtain ⟨hctx, hframe⟩ := pointers_of_codecOpen hopen
  by_cases hc : c.Decodes stop
  · obtain ⟨o₁, h₁, hfits, hnot⟩ := h.transcode_convert hctx (fun _ => hframe) hlive hc
    by_cases hf : c.Fits r
    · rw [(hfits hf).1, h₁.convert_returns_iff hopus]
      exact ⟨fun hx _ _ => hx, fun hx => hx hc hf⟩
    · rw [(hnot hf).1]
      exact ⟨fun _ _ hf' => absurd hf' hf, fun _ => returns_ok _⟩
  · exact ⟨fun _ hc' => absurd hc' hc, fun _ => h.returns_of_not_decodes hopen hc⟩

/-- Behind `Open` a call returns exactly when it is sound. -/
theorem Behind.transcode_returns_iff (h : o.Behind stop r) (c : Answers α) :
    Returns (o.transcode c) ↔ c.Sound stop r := by
  cases stop with
  | noContext => exact h.returns_noContext_iff rfl c
  | resamplerFailed => exact h.returns_noContext_iff rfl c
  | notOpen =>
      obtain ⟨b, hx, -⟩ := h.transcode_quiet (c := c) rfl (fun hopen => by cases hopen)
        fun hc => by cases hc.1
      exact ⟨fun _ => trivial, fun _ => ⟨_, hx⟩⟩
  | noEncoder => exact h.returns_noResampler_iff rfl rfl c
  | noResampler => exact h.returns_noResampler_iff rfl rfl c
  | noFifo =>
      rw [h.returns_convert_iff rfl rfl rfl]
      refine forall₂_congr fun _ _ => ⟨fun hx => ?_, fun ⟨e, he⟩ samples hs => ?_⟩
      · cases hconvert : c.convert with
        | error e => exact ⟨e, rfl⟩
        | ok samples => exact absurd (hx samples hconvert).2 (by decide)
      · rw [he] at hs
        cases hs
  | opened =>
      rw [h.returns_convert_iff rfl rfl rfl]
      refine forall₂_congr fun _ _ => forall₂_congr fun _ _ => ?_
      exact ⟨fun hx => hx.1, fun hx => ⟨hx, rfl⟩⟩

/-- A call that comes to no frame leaves all as it was. -/
theorem Behind.transcode_ok_quiet (h : o.Behind stop r) (hc : ¬ c.Decodes stop)
    (hx : o.transcode c = .ok (o', acts)) :
    o' = o ∧ (stop.codecOpen = true → o.transcoder.transcode c = (o.transcoder, acts)) := by
  have hnull : stop.pointers .decodeContext = .null → stop.codecOpen = false →
      o' = o ∧ (stop.codecOpen = true → o.transcoder.transcode c = (o.transcoder, acts)) := by
    intro hctx hclosed
    rw [h.transcode_noContext hctx] at hx
    split at hx
    · cases hx
      exact ⟨rfl, fun hopen => by rw [hopen] at hclosed; cases hclosed⟩
    · cases hx
  have hlive : stop.pointers .decodeContext = .live →
      (stop.codecOpen = true → stop.pointers .decodeFrame = .live) →
      o' = o ∧ (stop.codecOpen = true → o.transcoder.transcode c = (o.transcoder, acts)) := by
    intro hctx hframe
    obtain ⟨b, hb, hplain⟩ := h.transcode_quiet hctx hframe hc
    rw [hb] at hx
    cases hx
    exact ⟨rfl, hplain⟩
  cases stop with
  | noContext => exact hnull rfl rfl
  | resamplerFailed => exact hnull rfl rfl
  | notOpen => exact hlive rfl fun hopen => by cases hopen
  | noEncoder | noResampler | noFifo | opened => exact hlive rfl fun _ => rfl

/-- A call that returns leaves the buffer that `roomAfter` says; where `Open`
has made everything, it does what the plain transcoder does. -/
theorem Behind.transcode_ok (h : o.Behind stop r) (hx : o.transcode c = .ok (o', acts)) :
    o'.Behind stop (c.roomAfter stop r) ∧
      (stop = .opened → o.transcoder.transcode c = (o'.transcoder, acts)) := by
  by_cases hc : c.Decodes stop
  · obtain ⟨hctx, hframe⟩ := pointers_of_codecOpen hc.1
    have hresampler : stop.pointers .resampleContext = .live ∧ stop.pointers .opus = .live := by
      have hnull : stop.pointers .resampleContext ≠ .null := by
        intro hnull
        rw [h.transcode_noResampler hctx (fun _ => hframe) hnull hc] at hx
        cases hx
      cases stop with
      | noContext | notOpen | resamplerFailed => cases hc.1
      | noEncoder | noResampler => exact absurd rfl hnull
      | noFifo | opened => exact ⟨rfl, rfl⟩
    obtain ⟨o₁, h₁, hfits, hnot⟩ := h.transcode_convert hctx (fun _ => hframe) hresampler.1 hc
    rw [Answers.roomAfter, if_pos hc, transcode_of_frame hc]
    by_cases hf : c.Fits r
    · rw [(hfits hf).1] at hx
      obtain ⟨hbehind, hplain⟩ := h₁.convert_ok hresampler.2 hx
      rw [(hfits hf).2]
      exact ⟨hbehind, fun _ => hplain.symm⟩
    · rw [(hnot hf).1] at hx
      cases hx
      rw [(hnot hf).2.1, (hnot hf).2.2]
      exact ⟨h₁, fun _ => rfl⟩
  · obtain ⟨rfl, hplain⟩ := h.transcode_ok_quiet hc hx
    rw [Answers.roomAfter, if_neg hc]
    exact ⟨h, fun hstop => hplain (hstop ▸ rfl)⟩

end Owned

/-! ## The whole life -/

/-- Every call is sound with the buffer that the calls before it leave. -/
def Sound (stop : OpenStop) : Room → List (Answers α) → Prop
  | _, [] => True
  | r, c :: calls => c.Sound stop r ∧ Sound stop (c.roomAfter stop r) calls

section Life

variable {stop : OpenStop} {r : Room} {o o' : Owned α} {calls : List (Answers α)}
  {h : List (Answers α × List (Action α))}

theorem runAll_returns_iff (ho : o.Behind stop r) :
    Returns (runAll Owned.transcode o calls) ↔ Sound stop r calls := by
  induction calls generalizing o r with
  | nil => exact ⟨fun _ => trivial, fun _ => returns_ok _⟩
  | cons c calls ih =>
      have hfirst := ho.transcode_returns_iff c
      rw [runAll, Sound, ← hfirst]
      cases hx : o.transcode c with
      | error e => exact ⟨fun hr => absurd hr (not_returns_error _),
          fun hr => absurd hr.1 (not_returns_error _)⟩
      | ok x =>
          obtain ⟨o₁, acts⟩ := x
          rw [← ih (ho.transcode_ok hx).1]
          simp only
          cases runAll Owned.transcode o₁ calls with
          | error e => exact ⟨fun hr => absurd hr (not_returns_error _),
              fun hr => absurd hr.2 (not_returns_error _)⟩
          | ok y => exact ⟨fun _ => ⟨returns_ok _, returns_ok _⟩, fun _ => returns_ok _⟩

/-- The run of the plain transcoder beside the one with pointers. -/
theorem run_behind (ho : o.Behind stop r)
    (hr : Run Owned.transcode (fun _ _ => True) o h o') :
    (∃ r', o'.Behind stop r') ∧
      (stop = .opened → Run step (fun _ _ => True) o.transcoder h o'.transcoder) := by
  induction hr with
  | nil => exact ⟨⟨r, ho⟩, fun _ => .nil⟩
  | snoc _ _ hx ih =>
      obtain ⟨⟨r', hr'⟩, hplain⟩ := ih
      obtain ⟨hbehind, hcall⟩ := hr'.transcode_ok hx
      refine ⟨⟨_, hbehind⟩, fun hstop => .snoc (hplain hstop) trivial ?_⟩
      rw [step, hcall hstop]

/-- What `Open` and the calls leave can be released, except behind a
resampler that failed. -/
theorem Owned.Behind.clean_iff (ho : o.Behind stop r) :
    (∀ p, o.pointers p ≠ .dangling) ↔ stop ≠ .resamplerFailed := by
  constructor
  · rintro hclean rfl
    exact hclean .opus (ho.pointer (by decide))
  · intro hstop p
    by_cases hp : p = .resampleOutputBuffer
    · rw [hp, ho.buffer]
      exact Pointer.allocated_ne_dangling r.held
    · rw [ho.pointer hp, OpenStop.pointers]
      split
      · decide
      · rw [if_neg fun hfailed => hstop hfailed.1]
        decide

theorem Owned.releaseResources_eq_ok_iff :
    o.releaseResources = .ok o' ↔ (∀ p, o.pointers p ≠ .dangling) ∧ o' = { o with
      pointers := Pointers.afterDestroy (· = .opus) resources o.pointers
      codecOpen := false } := by
  constructor
  · intro hx
    obtain ⟨s, hs, hx⟩ := bind_eq_ok.mp hx
    obtain ⟨hclean, rfl⟩ := (Pointers.destroy_eq_ok_iff resources_nodup).mp hs
    cases hx
    exact ⟨fun p => hclean p (mem_resources p), rfl⟩
  · rintro ⟨hclean, rfl⟩
    exact Owned.releaseResources_of_clean hclean

/-- The life of a transcoder.  Every block that was made is freed once, and
no call uses what is not there, exactly when `swr_init` did not fail and
every call is sound; a transcoder that was opened then does what the plain
one does. -/
theorem life_iff (a : OpenAnswers) (calls : List (Answers α)) :
    (∃ h o, life a calls = .ok (h, o) ∧ h.map Prod.fst = calls ∧ (∀ p, o.pointers p ≠ .live) ∧
        (a.stop = .opened → Run step (fun _ _ => True) opened h o.transcoder)) ↔
      a.stop ≠ .resamplerFailed ∧ Sound a.stop .none calls := by
  have hstart := Owned.stopped_behind (α := α) a.stop
  constructor
  · rintro ⟨h, o, hx, -⟩
    obtain ⟨x, hopen, hx⟩ := bind_eq_ok.mp hx
    obtain ⟨⟨h', o'⟩, hrun, hx⟩ := bind_eq_ok.mp hx
    obtain ⟨o'', hrelease, -⟩ := bind_eq_ok.mp hx
    rw [Owned.open_eq] at hopen
    cases hopen
    obtain ⟨⟨r', hr'⟩, -⟩ := run_behind hstart (run_of_runAll _ _ _ hrun).1
    exact ⟨hr'.clean_iff.mp (Owned.releaseResources_eq_ok_iff.mp hrelease).1,
      (runAll_returns_iff hstart).mp ⟨_, hrun⟩⟩
  · rintro ⟨hstop, hsound⟩
    obtain ⟨⟨h, o⟩, hx⟩ := (runAll_returns_iff hstart).mpr hsound
    obtain ⟨hr, hfst⟩ := run_of_runAll _ _ _ hx
    obtain ⟨⟨r', hr'⟩, hplain⟩ := run_behind hstart hr
    have hrelease := Owned.releaseResources_of_clean (hr'.clean_iff.mpr hstop)
    refine ⟨h, _, bind_eq_ok.mpr ⟨_, Owned.open_eq a, bind_eq_ok.mpr ⟨(h, o), hx,
      bind_eq_ok.mpr ⟨_, hrelease, rfl⟩⟩⟩, hfst, ?_, hplain⟩
    intro p
    have hdead : Pointers.afterDestroy (· = .opus) Owned.resources o.pointers p ≠ .live :=
      Pointers.afterDestroy_not_live (Owned.mem_resources p)
    exact hdead

end Life

end WebrtcServer.OpusTranscoder
