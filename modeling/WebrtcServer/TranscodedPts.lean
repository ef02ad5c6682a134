/-
# `TranscodedPts` — opus_transcoder.cpp: samples and their time

Over a run of `Transcode` every sample written to the FIFO leaves it in
order, in frames of 960, and the time counts the packets that were made.
So a packet has the time of its first sample exactly when each frame before
it became a packet.  A frame that could not be encoded is gone, the time
has not moved, and all later packets are 20 ms early.

It also ends the loop: what is left in the FIFO may be more than a frame,
and stays there while the decoder asks for more input.
-/
import WebrtcServer.OpusTranscoder

namespace WebrtcServer.OpusTranscoder

open Lib

variable {α : Type}

/-! ## Samples in a log -/

def Action.written : Action α → List α
  | .write samples => samples
  | _ => []

/-- The samples that an action has taken from the FIFO. -/
def Action.taken : Action α → List α
  | .packet samples _ _ | .encodeFailed samples | .packetFailed samples => samples
  | _ => []

def Action.isPacket : Action α → Bool
  | .packet _ _ _ => true
  | _ => false

/-- A frame of which no packet was made. -/
def Action.isFailure : Action α → Bool
  | .encodeFailed _ | .packetFailed _ => true
  | _ => false

def packets (log : List (Action α)) : Nat := log.countP Action.isPacket

def failures (log : List (Action α)) : Nat := log.countP Action.isFailure

/-- Samples are taken in frames. -/
def Action.Framed (a : Action α) : Prop :=
  a.taken.length =
    kFrameSize * ((if a.isPacket then 1 else 0) + if a.isFailure then 1 else 0)

/-- Samples leave the FIFO in order, in frames, and the time counts the
packets. -/
structure Logged (log : List (Action α)) (t : OpusTranscoder α) : Prop where
  order : log.flatMap Action.written = log.flatMap Action.taken ++ t.audioFifo
  framed : ∀ a ∈ log, a.Framed
  clock : t.audioPtsMs = 20 * (packets log : Int)
  pts : ∀ before samples data pts after, log = before ++ .packet samples data pts :: after →
    pts = 20 * (packets before : Int)

section Log

variable {log : List (Action α)} {t t' : OpusTranscoder α} {a : Action α}

theorem packets_concat (log : List (Action α)) (a : Action α) :
    packets (log ++ [a]) = packets log + if a.isPacket then 1 else 0 := by
  rw [packets, List.countP_append, List.countP_singleton]
  rfl

theorem taken_length (hframed : ∀ a ∈ log, a.Framed) :
    (log.flatMap Action.taken).length = kFrameSize * (packets log + failures log) := by
  induction log with
  | nil => rfl
  | cons a log ih =>
      have hlog := ih fun b hb => hframed b (List.mem_cons_of_mem _ hb)
      have ha : a.Framed := hframed a List.mem_cons_self
      rw [List.flatMap_cons, List.length_append, hlog, ha, packets, failures, packets, failures,
        List.countP_cons, List.countP_cons, ← Nat.mul_add]
      congr 1
      omega

theorem logged_opened : Logged ([] : List (Action α)) opened := by
  refine ⟨rfl, fun a ha => ?_, rfl, fun before samples data pts after h => ?_⟩
  · cases ha
  · exact absurd h.symm (List.append_ne_nil_of_right_ne_nil _ (List.cons_ne_nil _ _))

/-- One more action, which takes from the FIFO what it should. -/
theorem Logged.concat (h : Logged log t) (hframed : a.Framed)
    (hfifo : t.audioFifo ++ a.written = a.taken ++ t'.audioFifo)
    (hclock : t'.audioPtsMs = t.audioPtsMs + if a.isPacket then 20 else 0)
    (hpts : ∀ samples data pts, a = .packet samples data pts → pts = t.audioPtsMs) :
    Logged (log ++ [a]) t' := by
  refine ⟨?_, ?_, ?_, ?_⟩
  · rw [List.flatMap_append, List.flatMap_append, List.flatMap_singleton, List.flatMap_singleton,
      h.order, List.append_assoc, hfifo, List.append_assoc]
  · intro b hb
    rcases List.mem_append.mp hb with hb | hb
    · exact h.framed b hb
    · rw [List.mem_singleton.mp hb]
      exact hframed
  · rw [hclock, h.clock, packets_concat]
    split
    · omega
    · rfl
  · intro before samples data pts after hsplit
    rcases split_concat hsplit with ⟨-, rfl, hlast⟩ | ⟨after', -, hlog⟩
    · rw [hpts samples data pts hlast.symm, h.clock]
    · exact h.pts before samples data pts after' hlog

end Log

/-! ## One call -/

section Calls

variable {log : List (Action α)} {answers : Answers α} {t : OpusTranscoder α}
  {s s' : Encoding α}

theorem take_append_drop_fifo (t : OpusTranscoder α) :
    t.audioFifo ++ [] = t.audioFifo.take kFrameSize ++ t.audioFifo.drop kFrameSize := by
  rw [List.append_nil, List.take_append_drop]

theorem encodeFrame_logged (h : Logged (log ++ s.actions) s.transcoder) (hm : s.more = true)
    (hturn : encodeFrame answers s = .ok s') : Logged (log ++ s'.actions) s'.transcoder := by
  rcases encodeFrame_ok hm hturn with ⟨data, -, rfl⟩
  rw [← List.append_assoc]
  refine h.concat (take_length hm) (take_append_drop_fifo _) rfl ?_
  intro samples data' pts heq
  cases heq
  rfl

theorem encodeFrame_left_logged (h : Logged (log ++ s.actions) s.transcoder) (hm : s.more = true)
    (hturn : encodeFrame answers s = .error s') : Logged (log ++ s'.actions) s'.transcoder := by
  rcases encodeFrame_error hm hturn with ⟨failed, ⟨rfl, -⟩ | ⟨rfl, -⟩, rfl⟩
  · rw [← List.append_assoc]
    refine h.concat (take_length hm) (take_append_drop_fifo _) (Int.add_zero _).symm ?_
    intro samples data pts heq
    cases heq
  · rw [← List.append_assoc]
    refine h.concat (take_length hm) (take_append_drop_fifo _) (Int.add_zero _).symm ?_
    intro samples data pts heq
    cases heq

theorem encodeFrames_logged (h : Logged (log ++ s.actions) s.transcoder) (answers : Answers α) :
    Leaves (fun s' => Logged (log ++ s'.actions) s'.transcoder)
      (fun s' => Logged (log ++ s'.actions) s'.transcoder) (encodeFrames answers s) :=
  whileLoop_leaves (fun _ _ h hturn => encodeFrame_logged h hturn.1 hturn.2)
    (fun _ _ h hm hturn => encodeFrame_left_logged h hm hturn) h

theorem Logged.returned {t' : OpusTranscoder α} (h : Logged log t)
    (hfifo : t'.audioFifo = t.audioFifo) (hpts : t'.audioPtsMs = t.audioPtsMs) (result : Bool) :
    Logged (log ++ [.returned result]) t' := by
  refine h.concat rfl ?_ ?_ ?_
  · rw [hfifo]
    exact List.append_nil _
  · rw [hpts]
    exact (Int.add_zero _).symm
  · intro samples data pts heq
    cases heq

/-- Every call keeps the order of the samples and the count of the packets. -/
theorem Logged.transcode (h : Logged log t) (answers : Answers α) :
    Logged (log ++ (t.transcode answers).2) (t.transcode answers).1 := by
  rcases transcode_cases t answers with ⟨t', hfifo, hpts, ⟨result, hcall⟩ | ⟨samples, -, hcall⟩⟩
  · rw [hcall]
    exact h.returned hfifo hpts result
  · rw [hcall]
    have hpush : Logged (log ++ (t'.push samples).actions) (t'.push samples).transcoder := by
      refine h.concat rfl ?_ ?_ ?_
      · show t.audioFifo ++ samples = t'.audioFifo ++ samples
        rw [hfifo]
      · exact hpts.trans (Int.add_zero _).symm
      · intro samples data pts heq
        cases heq
    have hloop := encodeFrames_logged hpush answers
    cases hend : encodeFrames answers (t'.push samples) with
    | ok s =>
        rw [hend] at hloop
        rw [finish, ← List.append_assoc]
        exact Logged.returned hloop rfl rfl true
    | error s =>
        rw [hend] at hloop
        rw [finish, ← List.append_assoc]
        exact Logged.returned hloop rfl rfl false

/-- The call gets to this turn of its loop, when it gets to the loop and no
turn before leaves it. -/
def Asks (t : OpusTranscoder α) (answers : Answers α) (turn : Nat) : Prop :=
  ∃ samples, answers.convert = .ok samples ∧
    kFrameSize * (turn + 1) ≤ t.audioFifo.length + samples.length

/-- The encoder and `av_new_packet` do not fail. -/
structure Succeeds (t : OpusTranscoder α) (answers : Answers α) : Prop where
  encode : ∀ turn, Asks t answers turn → ∃ data, answers.encode turn = .ok data
  newPacket : ∀ turn, Asks t answers turn → answers.newPacket turn = 0

theorem failures_append (log log' : List (Action α)) :
    failures (log ++ log') = failures log + failures log' := List.countP_append

/-- Each turn takes one frame. -/
theorem encodeFrame_total (hm : s.more = true) (hturn : encodeFrame answers s = .ok s') :
    kFrameSize * s'.turn + s'.transcoder.audioFifo.length =
      kFrameSize * s.turn + s.transcoder.audioFifo.length := by
  rcases encodeFrame_ok hm hturn with ⟨data, -, rfl⟩
  have hle : kFrameSize ≤ s.transcoder.audioFifo.length := of_decide_eq_true hm
  show kFrameSize * (s.turn + 1) + (s.transcoder.audioFifo.drop kFrameSize).length = _
  rw [List.length_drop, Nat.mul_succ]
  omega

/-- Then the loop makes a packet of every frame, and comes to its end. -/
theorem encodeFrames_whole {t' : OpusTranscoder α} {samples : List α}
    (hsucceeds : Succeeds t answers) (hfifo : t'.audioFifo = t.audioFifo)
    (hsamples : answers.convert = .ok samples) :
    ∃ s', encodeFrames answers (t'.push samples) = .ok s' ∧ failures s'.actions = 0 := by
  have hloop : Leaves
      (fun s : Encoding α => failures s.actions = 0 ∧
        kFrameSize * s.turn + s.transcoder.audioFifo.length =
          t.audioFifo.length + samples.length)
      (fun _ => False) (encodeFrames answers (t'.push samples)) := by
    refine whileLoop_leaves ?_ ?_ ⟨rfl, ?_⟩
    · rintro u u' ⟨hu, htotal⟩ ⟨hm, hturn⟩
      refine ⟨?_, (encodeFrame_total hm hturn).trans htotal⟩
      rcases encodeFrame_ok hm hturn with ⟨data, -, rfl⟩
      rw [failures_append, hu]
      rfl
    · rintro u e ⟨-, htotal⟩ hm hturn
      have hasks : Asks t answers u.turn := by
        refine ⟨samples, hsamples, ?_⟩
        rw [← htotal]
        exact Nat.add_le_add_left (of_decide_eq_true hm) _
      rcases encodeFrame_error hm hturn with ⟨failed, ⟨-, e, he⟩ | ⟨-, hne⟩, -⟩
      · rcases hsucceeds.encode u.turn hasks with ⟨data, hdata⟩
        cases he.symm.trans hdata
      · exact hne (hsucceeds.newPacket u.turn hasks)
    · show kFrameSize * 0 + (t'.audioFifo ++ samples).length = _
      rw [hfifo, List.length_append, Nat.mul_zero, Nat.zero_add]
  cases hend : encodeFrames answers (t'.push samples) with
  | ok s' =>
      rw [hend] at hloop
      exact ⟨s', rfl, hloop.1⟩
  | error e =>
      rw [hend] at hloop
      exact hloop.elim

theorem transcode_whole (hsucceeds : Succeeds t answers) (h : t.audioFifo.length < kFrameSize) :
    failures (t.transcode answers).2 = 0 ∧
      (t.transcode answers).1.audioFifo.length < kFrameSize := by
  rcases transcode_cases t answers with
    ⟨t', hfifo, -, ⟨result, hcall⟩ | ⟨samples, hsamples, hcall⟩⟩
  · rw [hcall]
    refine ⟨rfl, ?_⟩
    rw [hfifo]
    exact h
  · rcases encodeFrames_whole hsucceeds hfifo hsamples with ⟨s, hend, hwhole⟩
    rw [hcall, hend, finish, failures_append, hwhole]
    exact ⟨rfl, encodeFrames_drains hend⟩

end Calls

/-! ## Runs -/

section Runs

variable {h : List (Answers α × List (Action α))} {t : OpusTranscoder α}

theorem run_logged {C : OpusTranscoder α → Answers α → Prop} (hr : Run step C opened h t) :
    Logged (outputs h) t := by
  refine hr.invariant (I := fun h t => Logged (outputs h) t) logged_opened ?_
  intro h t answers t' actions hlogged _ hstep
  have hcall : t.transcode answers = (t', actions) := Except.ok.inj hstep
  have hnext := hlogged.transcode answers
  rw [hcall] at hnext
  rw [outputs_snoc]
  exact hnext

/-- The sample at this position of all that were written is the first of the
next frame. -/
def position (before : List (Action α)) : Nat := (before.flatMap Action.taken).length

/-- Over every run, a packet has the time of its first sample exactly when
every frame before it became a packet. -/
theorem packet_pts_iff {C : OpusTranscoder α → Answers α → Prop} (hr : Run step C opened h t)
    {before after : List (Action α)} {samples : List α} {data : List UInt8} {pts : Int} {k : Nat}
    (hlog : outputs h = before ++ .packet samples data pts :: after)
    (hk : position before = kFrameSize * k) : pts = 20 * (k : Int) ↔ failures before = 0 := by
  have hlogged := run_logged hr
  have hframed : ∀ a ∈ before, a.Framed := by
    intro a ha
    apply hlogged.framed a
    rw [hlog]
    exact List.mem_append_left _ ha
  rw [position, taken_length hframed] at hk
  have hcount : packets before + failures before = k :=
    Nat.eq_of_mul_eq_mul_left (by decide) hk
  rw [hlogged.pts before samples data pts after hlog]
  omega

/-- Every sample written is accounted for, a packet has the time of its
first sample, and no whole frame stays in the FIFO. -/
structure Timed (h : List (Answers α × List (Action α))) (t : OpusTranscoder α) : Prop where
  order : (outputs h).flatMap Action.written = (outputs h).flatMap Action.taken ++ t.audioFifo
  accounted : ∀ a ∈ outputs h, a.taken ≠ [] → a.taken.length = kFrameSize ∧
    ((∃ data pts, a = .packet a.taken data pts) ∨ a = .encodeFailed a.taken)
  pts : ∀ before samples data pts after k,
    outputs h = before ++ .packet samples data pts :: after →
    position before = kFrameSize * k → pts = 20 * (k : Int)
  drained : ∀ pre answers actions, h = pre ++ [(answers, actions)] → .returned true ∈ actions →
    t.audioFifo.length < kFrameSize

/-- In a run in which no frame is lost. -/
theorem run_timed (hr : Run step Succeeds opened h t) : Timed h t := by
  have hlogged := run_logged hr
  have hwhole : failures (outputs h) = 0 ∧ t.audioFifo.length < kFrameSize := by
    refine hr.invariant
      (I := fun h t => failures (outputs h) = 0 ∧ t.audioFifo.length < kFrameSize)
      ⟨rfl, Nat.zero_lt_succ _⟩ ?_
    rintro h t answers t' actions ⟨hnone, hless⟩ hsucceeds hstep
    have hcall : t.transcode answers = (t', actions) := Except.ok.inj hstep
    have hnext := transcode_whole hsucceeds hless
    rw [hcall] at hnext
    rw [outputs_snoc, failures_append, hnone, Nat.zero_add]
    exact hnext
  have hpackets : ∀ a ∈ outputs h, ¬ a.isFailure = true := List.countP_eq_zero.mp hwhole.1
  refine ⟨hlogged.order, ?_, ?_, fun _ _ _ _ _ => hwhole.2⟩
  · intro a ha hne
    cases a with
    | packet samples data pts => exact ⟨hlogged.framed _ ha, Or.inl ⟨data, pts, rfl⟩⟩
    | encodeFailed samples => exact absurd rfl (hpackets _ ha)
    | packetFailed samples => exact absurd rfl (hpackets _ ha)
    | write samples => exact absurd rfl hne
    | returned result => exact absurd rfl hne
  · intro before samples data pts after k hlog hk
    rw [packet_pts_iff hr hlog hk, failures, List.countP_eq_zero]
    intro a ha
    apply hpackets a
    rw [hlog]
    exact List.mem_append_left _ ha

end Runs

section Samples

/-- A packet is decoded to these samples, and the encoder gives one answer
to every frame. -/
def decodedTo (samples : List Unit) (encode : Except Int (List UInt8)) : Answers Unit where
  packet := true
  sendPacket := 0
  receiveFrame := 0
  estimated := 0
  samplesAlloc := 0
  convert := .ok samples
  fifoWrite := true
  encode := fun _ => encode
  newPacket := fun _ => 0

def frame : List Unit := List.replicate kFrameSize ()

theorem frame_length : frame.length = kFrameSize := List.length_replicate

/-- A transcoder with samples in its FIFO, at some time. -/
def waiting (samples : List Unit) (pts : Int) : OpusTranscoder Unit where
  resampleOutputBufferSamplesPerChannel := 0
  audioFifo := samples
  audioPtsMs := pts

theorem transcode_decodedTo (waits samples : List Unit) (pts : Int)
    (encode : Except Int (List UInt8)) :
    (waiting waits pts).transcode (decodedTo samples encode) =
      finish (encodeFrames (decodedTo samples encode) ((waiting waits pts).push samples)) := rfl

theorem more_of_frame {s : Encoding Unit} {rest : List Unit}
    (h : s.transcoder.audioFifo = frame ++ rest) : s.more = true := by
  rw [Encoding.more, h, List.length_append, frame_length]
  exact decide_eq_true (Nat.le_add_right _ _)

/-- A single frame is in the FIFO, and is encoded. -/
theorem transcode_frame {waits samples : List Unit} (h : waits ++ samples = frame) (pts : Int) :
    (waiting waits pts).transcode (decodedTo samples (.ok [])) =
      (waiting [] (pts + 20), [.write samples, .packet frame [] pts, .returned true]) := by
  have hfifo : ((waiting waits pts).push samples).transcoder.audioFifo = frame ++ [] := by
    rw [List.append_nil]
    exact h
  have hturn : encodeFrame (decodedTo samples (.ok [])) ((waiting waits pts).push samples) =
      .ok { transcoder := waiting [] (pts + 20), turn := 1
            actions := [.write samples, .packet frame [] pts] } := by
    rw [encodeFrame, hfifo, List.take_left' frame_length, List.drop_left' frame_length,
      if_neg (not_not.mpr frame_length)]
    rfl
  rw [transcode_decodedTo, encodeFrames_of_last (more_of_frame hfifo) hturn rfl]
  rfl

/-- Two frames are decoded, and the first of them is not encoded. -/
theorem transcode_lost :
    opened.transcode (decodedTo (frame ++ frame) (.error (-1))) =
      (waiting frame 0, [.write (frame ++ frame), .encodeFailed frame, .returned false]) := by
  have hturn : encodeFrame (decodedTo (frame ++ frame) (.error (-1)))
      ((waiting [] 0).push (frame ++ frame)) =
      .error { transcoder := waiting frame 0, turn := 0
               actions := [.write (frame ++ frame), .encodeFailed frame] } := by
    rw [encodeFrame, push, waiting, List.nil_append, List.take_left' frame_length,
      List.drop_left' frame_length, if_neg (not_not.mpr frame_length)]
    rfl
  have hcall := transcode_decodedTo [] (frame ++ frame) 0 (.error (-1))
  rw [encodeFrames_of_error (more_of_frame rfl) hturn] at hcall
  exact hcall

/-- Two calls, with a frame each: the second packet has the time 20. -/
theorem run_timed_frame : Timed
    [(decodedTo frame (.ok []), [.write frame, .packet frame [] 0, .returned true]),
      (decodedTo frame (.ok []), [.write frame, .packet frame [] 20, .returned true])]
    (waiting [] 40) := by
  have hstep (pts : Int) : step (waiting [] pts) (decodedTo frame (.ok [])) =
      .ok (waiting [] (pts + 20), [.write frame, .packet frame [] pts, .returned true]) :=
    congrArg Except.ok (transcode_frame (List.nil_append frame) pts)
  have hsucceeds (t : OpusTranscoder Unit) : Succeeds t (decodedTo frame (.ok [])) :=
    ⟨fun _ _ => ⟨[], rfl⟩, fun _ _ => rfl⟩
  exact run_timed (.snoc (.snoc .nil (hsucceeds opened) (hstep 0)) (hsucceeds _) (hstep 20))

/-- The packet made of the second frame has the time of the first. -/
theorem lost_frame_shifts :
    ¬ ∀ (h : List (Answers Unit × List (Action Unit))) (t : OpusTranscoder Unit),
      Run step (fun _ _ => True) opened h t → Timed h t := by
  intro hall
  have hlost : step opened (decodedTo (frame ++ frame) (.error (-1))) =
      .ok (waiting frame 0, [.write (frame ++ frame), .encodeFailed frame, .returned false]) :=
    congrArg Except.ok transcode_lost
  have hnext : step (waiting frame 0) (decodedTo [] (.ok [])) =
      .ok (waiting [] 20, [.write [], .packet frame [] 0, .returned true]) :=
    congrArg Except.ok (transcode_frame (List.append_nil frame) 0)
  have htimed := hall _ _ (.snoc (.snoc .nil trivial hlost) trivial hnext)
  have hpts : (0 : Int) = 20 * (1 : Nat) := by
    refine htimed.pts [.write (frame ++ frame), .encodeFailed frame, .returned false, .write []]
      frame [] 0 [.returned true] 1 rfl ?_
    show (frame ++ []).length = kFrameSize * 1
    rw [List.append_nil, frame_length, Nat.mul_one]
  exact absurd hpts (by decide)

end Samples

end WebrtcServer.OpusTranscoder
