/-
# `OpusTranscoder` — opus_transcoder.h, opus_transcoder.cpp

How a packet of the source's audio becomes Opus packets: it is decoded and
resampled, the samples go into a FIFO, and as long as that holds a frame of
960 samples one is taken out and encoded.  The time of a packet is a
counter that goes up by 20 ms with each one.

What FFmpeg and libopus answer is an input of the call (`Answers`), and
`α` is what there is of a sample in all channels.  The FIFO is a list.
-/
import WebrtcServer.Lib.Loop
import WebrtcServer.Lib.Runs
import WebrtcServer.Utils

namespace WebrtcServer

open Lib

def kFrameSize : Nat := 960

def averrorEagain : Int := -11

def averrorEof : Int := -541478725

structure OpusTranscoder (α : Type) where
  resampleOutputBufferSamplesPerChannel : Int
  audioFifo : List α
  audioPtsMs : Int

namespace OpusTranscoder

/-- The answers to one call of `Transcode`, each read where the call comes
to ask.  The encoder and `av_new_packet` are asked in every turn of the
loop. -/
structure Answers (α : Type) where
  /-- There is a packet, not a null pointer. -/
  packet : Bool
  sendPacket : Int
  receiveFrame : Int
  /-- The samples that `av_rescale_rnd` estimates for the delay and the frame. -/
  estimated : Int
  samplesAlloc : Int
  convert : Except Int (List α)
  /-- `av_audio_fifo_write` has the memory for all the samples. -/
  fifoWrite : Bool
  encode : Nat → Except Int (List UInt8)
  newPacket : Nat → Int

/-- What a call does with samples, and how it returns. -/
inductive Action (α : Type) where
  /-- `av_audio_fifo_write` -/
  | write (samples : List α)
  /-- The callback gets a packet, encoded from these samples. -/
  | packet (samples : List α) (data : List UInt8) (pts : Int)
  /-- `opus_encode` fails. -/
  | encodeFailed (samples : List α)
  /-- `av_new_packet` fails. -/
  | packetFailed (samples : List α)
  | returned (result : Bool)

variable {α : Type}

/-- After `Open`. -/
def opened : OpusTranscoder α where
  resampleOutputBufferSamplesPerChannel := 0
  audioFifo := []
  audioPtsMs := 0

/-- The loop at its head. -/
structure Encoding (α : Type) where
  transcoder : OpusTranscoder α
  turn : Nat
  actions : List (Action α)

/-- `av_audio_fifo_size(audio_fifo_) >= kFrameSize` -/
def Encoding.more (s : Encoding α) : Bool := kFrameSize ≤ s.transcoder.audioFifo.length

/-- The body of the loop.  Where it returns `false` the samples have left the
FIFO, and the time has not moved. -/
def encodeFrame (answers : Answers α) (s : Encoding α) : Except (Encoding α) (Encoding α) :=
  let input := s.transcoder.audioFifo.take kFrameSize
  let t := { s.transcoder with audioFifo := s.transcoder.audioFifo.drop kFrameSize }
  if input.length ≠ kFrameSize then .error { s with transcoder := t }
  else
    match answers.encode s.turn with
    | .error _ =>
        .error { s with transcoder := t, actions := s.actions ++ [.encodeFailed input] }
    | .ok data =>
        if answers.newPacket s.turn ≠ 0 then
          .error { s with transcoder := t, actions := s.actions ++ [.packetFailed input] }
        else
          .ok { transcoder := { t with audioPtsMs := t.audioPtsMs + 20 }, turn := s.turn + 1
                actions := s.actions ++ [.packet input data t.audioPtsMs] }

def encodeFrames (answers : Answers α) (s : Encoding α) : Except (Encoding α) (Encoding α) :=
  whileLoop Encoding.more (encodeFrame answers) s.transcoder.audioFifo.length s

/-- A resample buffer of the estimated size, where there is memory for it. -/
def reserve (t : OpusTranscoder α) (answers : Answers α) : Option (OpusTranscoder α) :=
  if answers.estimated > t.resampleOutputBufferSamplesPerChannel then
    if answers.samplesAlloc < 0 then none
    else some { t with resampleOutputBufferSamplesPerChannel := answers.estimated }
  else some t

/-- Behind the loop, or where it returns. -/
def finish : Except (Encoding α) (Encoding α) → OpusTranscoder α × List (Action α)
  | .ok s => (s.transcoder, s.actions ++ [.returned true])
  | .error s => (s.transcoder, s.actions ++ [.returned false])

/-- The samples are in the FIFO. -/
def push (t : OpusTranscoder α) (samples : List α) : Encoding α where
  transcoder := { t with audioFifo := t.audioFifo ++ samples }
  turn := 0
  actions := [.write samples]

def transcode (t : OpusTranscoder α) (answers : Answers α) :
    OpusTranscoder α × List (Action α) :=
  if answers.packet = false then (t, [.returned false])
  else if answers.sendPacket < 0 then (t, [.returned false])
  else if answers.receiveFrame = averrorEagain ∨ answers.receiveFrame = averrorEof then
    (t, [.returned true])
  else if answers.receiveFrame < 0 then (t, [.returned false])
  else
    match t.reserve answers with
    | none => (t, [.returned false])
    | some t =>
        match answers.convert with
        | .error _ => (t, [.returned false])
        | .ok samples =>
            if answers.fifoWrite = false then (t, [.returned false])
            else finish (encodeFrames answers (t.push samples))

def step (t : OpusTranscoder α) (answers : Answers α) :
    Except Fault (OpusTranscoder α × List (Action α)) :=
  .ok (t.transcode answers)

/-! ## What a call comes to -/

section Calls

variable {answers : Answers α} {t : OpusTranscoder α} {s s' : Encoding α}

/-- In a turn there is a whole frame. -/
theorem take_length (hm : s.more = true) :
    (s.transcoder.audioFifo.take kFrameSize).length = kFrameSize := by
  rw [List.length_take]
  exact Nat.min_eq_left (of_decide_eq_true hm)

/-- A turn takes a frame and makes a packet of it. -/
theorem encodeFrame_ok (hm : s.more = true) (h : encodeFrame answers s = .ok s') :
    ∃ data, answers.encode s.turn = .ok data ∧ s' =
      { transcoder :=
          { s.transcoder with
            audioFifo := s.transcoder.audioFifo.drop kFrameSize
            audioPtsMs := s.transcoder.audioPtsMs + 20 }
        turn := s.turn + 1
        actions := s.actions ++
          [.packet (s.transcoder.audioFifo.take kFrameSize) data s.transcoder.audioPtsMs] } := by
  rw [encodeFrame, if_neg (not_not.mpr (take_length hm))] at h
  split at h
  · cases h
  next data hdata =>
    split at h
    · cases h
    · cases h
      exact ⟨data, hdata, rfl⟩

/-- A turn that leaves has taken a frame, and no packet was made of it. -/
theorem encodeFrame_error (hm : s.more = true) (h : encodeFrame answers s = .error s') :
    ∃ failed : List α → Action α, (failed = .encodeFailed ∧ (∃ e, answers.encode s.turn = .error e) ∨
        failed = .packetFailed ∧ answers.newPacket s.turn ≠ 0) ∧ s' =
      { s with
        transcoder :=
          { s.transcoder with audioFifo := s.transcoder.audioFifo.drop kFrameSize }
        actions := s.actions ++ [failed (s.transcoder.audioFifo.take kFrameSize)] } := by
  rw [encodeFrame, if_neg (not_not.mpr (take_length hm))] at h
  split at h
  next e he =>
    cases h
    exact ⟨.encodeFailed, Or.inl ⟨rfl, e, he⟩, rfl⟩
  next data hdata =>
    split at h
    next hpacket =>
      cases h
      exact ⟨.packetFailed, Or.inr ⟨rfl, hpacket⟩, rfl⟩
    · cases h

/-- Each turn shortens the FIFO, so the loop comes to its end. -/
theorem encodeFrame_bounded (answers : Answers α) :
    Bounded Encoding.more (encodeFrame answers) (fun _ => True)
      (fun s => s.transcoder.audioFifo.length) := by
  constructor
  · intro s _ hm
    exact Nat.lt_of_lt_of_le (by decide) (of_decide_eq_true hm)
  · rintro s s' - ⟨hm, hbody⟩
    rcases encodeFrame_ok hm hbody with ⟨data, -, rfl⟩
    refine ⟨trivial, ?_⟩
    have hle : kFrameSize ≤ s.transcoder.audioFifo.length := of_decide_eq_true hm
    rw [List.length_drop]
    exact Nat.sub_lt (Nat.lt_of_lt_of_le (by decide) hle) (by decide)

/-- Where the loop ends the FIFO holds no whole frame. -/
theorem encodeFrames_drains (h : encodeFrames answers s = .ok s') :
    s'.transcoder.audioFifo.length < kFrameSize := by
  have hend : Encoding.more s' = false :=
    ((whileLoop_eq_ok_iff (encodeFrame_bounded answers) trivial (Nat.le_refl _)).mp h).2
  exact Nat.lt_of_not_le (of_decide_eq_false hend)

/-- A turn that leaves ends the loop. -/
theorem encodeFrames_of_error (hm : s.more = true) (h : encodeFrame answers s = .error s') :
    encodeFrames answers s = .error s' := by
  have hpos := (encodeFrame_bounded answers).pos s trivial hm
  rcases Nat.exists_eq_succ_of_ne_zero (Nat.ne_of_gt hpos) with ⟨fuel, hfuel⟩
  rw [encodeFrames, hfuel, whileLoop, if_pos hm, h]

/-- The last turn. -/
theorem encodeFrames_of_last (hm : s.more = true) (h : encodeFrame answers s = .ok s')
    (hend : s'.more = false) : encodeFrames answers s = .ok s' := by
  have hpos := (encodeFrame_bounded answers).pos s trivial hm
  rcases Nat.exists_eq_succ_of_ne_zero (Nat.ne_of_gt hpos) with ⟨fuel, hfuel⟩
  rw [encodeFrames, hfuel, whileLoop_of_turn hm h, whileLoop_of_not_more hend]

theorem reserve_eq_some {t' : OpusTranscoder α} (h : t.reserve answers = some t') :
    t'.audioFifo = t.audioFifo ∧ t'.audioPtsMs = t.audioPtsMs := by
  rw [reserve] at h
  split at h
  · split at h
    · cases h
    · cases h
      exact ⟨rfl, rfl⟩
  · cases h
    exact ⟨rfl, rfl⟩

/-- A call leaves the FIFO and the time as they are, or writes samples and
runs the loop. -/
theorem transcode_cases (t : OpusTranscoder α) (answers : Answers α) :
    ∃ t', t'.audioFifo = t.audioFifo ∧ t'.audioPtsMs = t.audioPtsMs ∧
      ((∃ result, t.transcode answers = (t', [.returned result])) ∨
        ∃ samples, answers.convert = .ok samples ∧
          t.transcode answers = finish (encodeFrames answers (t'.push samples))) := by
  simp only [transcode]
  split
  · exact ⟨t, rfl, rfl, Or.inl ⟨false, rfl⟩⟩
  split
  · exact ⟨t, rfl, rfl, Or.inl ⟨false, rfl⟩⟩
  split
  · exact ⟨t, rfl, rfl, Or.inl ⟨true, rfl⟩⟩
  split
  · exact ⟨t, rfl, rfl, Or.inl ⟨false, rfl⟩⟩
  split
  · exact ⟨t, rfl, rfl, Or.inl ⟨false, rfl⟩⟩
  next t' hreserve =>
    rcases reserve_eq_some hreserve with ⟨hfifo, hpts⟩
    refine ⟨t', hfifo, hpts, ?_⟩
    split
    · exact Or.inl ⟨false, rfl⟩
    next samples hsamples =>
      split
      · exact Or.inl ⟨false, rfl⟩
      · exact Or.inr ⟨samples, hsamples, rfl⟩

end Calls

end OpusTranscoder

end WebrtcServer
