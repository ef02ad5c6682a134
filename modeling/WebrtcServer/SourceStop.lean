/-
# `SourceStop` — when `MediaSource::Stop` returns

`Stop` sets `closed_` and joins the reader.  It is called for
`DELETE /streams/<id>` and at SIGINT, on the thread that answers all
requests.  The flag is looked at between two turns of the reader's loop, and
FFmpeg looks at it too; but a viewer that the reader calls is waited for
without a limit.  So `Stop` returns exactly when all the viewers to which
the reader still comes get connected, or shut down, some time.

The runs here are infinite ones, in which the reader is treated fairly.
-/
import WebrtcServer.Broadcast
import WebrtcServer.Lib.Liveness
import WebrtcServer.ObserverLatch
import Mathlib.Data.Prod.Lex

namespace WebrtcServer

open Lib

namespace LiveSource

variable {ι : Type} [DecidableEq ι]

/-! ## The reader's own steps -/

omit [DecidableEq ι] in
def OfReader : Event ι → Prop
  | .reader | .read _ => True
  | .register _ | .deregister _ | .stop | .connect _ | .shutdown _ => False

section Steps

variable {s s' : LiveSource ι} {e : Event ι} {o : ι} {outs : List (Output ι)}

end Steps

end LiveSource

namespace WebrtcTransport

variable {Ctx Ssl Cert : Type} {p : Platform Ctx Ssl Cert} {w w' : WebrtcTransport Ctx Ssl}
  {out : List TransportOutput}

/-! ## What does not open the latch -/

/-- The handlers that can come to `OnDtlsTransportSetup` or `Shutdown`. -/
def Incoming : Event → Prop
  | .udpSocketDataReceive _ _ | .udpSocketError | .dtlsTimerTimeout | .mediaSourceEnd => True
  | .createAnswer _ | .incomingH264Packet _ _ _ | .incomingOpusPacket _ _ _
  | .rtcpTimerTimeout _ _ => False

theorem onEach_out {α : Type} {on : WebrtcTransport Ctx Ssl → α →
      Except Fault (WebrtcTransport Ctx Ssl × List TransportOutput)} {Q : TransportOutput → Prop}
    (hon : ∀ v call v' out, on v call = .ok (v', out) → ∀ x ∈ out, Q x) {calls : List α}
    (h : onEach on w calls = .ok (w', out)) : ∀ x ∈ out, Q x := by
  induction calls generalizing w out with
  | nil =>
      cases h
      exact fun x hx => by cases hx
  | cons call calls ih =>
      simp only [onEach] at h
      split at h
      · cases h
      next w₁ out₁ hfirst =>
        split at h
        · cases h
        next w₂ out₂ hrest =>
          cases h
          intro x hx
          rcases List.mem_append.mp hx with hx | hx
          · exact hon _ _ _ _ hfirst x hx
          · exact ih hrest x hx

theorem onMediaOutput_only {o : MediaOutput} (h : onMediaOutput p w o = .ok (w', out)) :
    w'.connectionEstablished = w.connectionEstablished ∧ ∀ x ∈ out, x ≠ .removeFromManager := by
  cases o with
  | rtpPacketSend data | rtcpPacketSend data =>
      simp only [onMediaOutput, onRtpPacketSend, onRtcpPacketSend, sendProtected] at h
      split at h
      · cases h
      · split at h
        · cases h
        · cases h
          exact ⟨rfl, fun x hx => by rw [List.mem_singleton.mp hx]; exact fun heq => by cases heq⟩

theorem callMediaStream_only
    {call : MediaStream → Except Fault (MediaStream × List MediaOutput)}
    (h : callMediaStream p w call = .ok (w', out)) :
    w'.connectionEstablished = w.connectionEstablished ∧ .removeFromManager ∉ out := by
  simp only [callMediaStream] at h
  split at h
  · cases h
  · split at h
    · cases h
    · constructor
      · refine onEach_ok (P := fun v => v.connectionEstablished = w.connectionEstablished) ?_ ?_ h
        · exact fun v call v' out hv hcall => (onMediaOutput_only hcall).1.trans hv
        · rfl
      · intro hmem
        exact onEach_out (fun v call v' out hcall => (onMediaOutput_only hcall).2) h _ hmem rfl

/-- The other handlers neither connect the transport nor have it removed. -/
theorem step_only {e : Event} (hnot : ¬ Incoming e) (h : step p w e = .ok (w', out)) :
    w'.connectionEstablished = w.connectionEstablished ∧ .removeFromManager ∉ out := by
  cases e with
  | createAnswer rtpBuf =>
      cases h
      exact ⟨rfl, fun hmem => by cases hmem⟩
  | incomingH264Packet _ _ _ | incomingOpusPacket _ _ _ | rtcpTimerTimeout _ _ =>
      exact callMediaStream_only h
  | udpSocketDataReceive _ _ | udpSocketError | dtlsTimerTimeout | mediaSourceEnd =>
      exact absurd trivial hnot

end WebrtcTransport

namespace Broadcast

variable {ι Ctx Ssl Cert : Type} [DecidableEq ι] {p : Platform Ctx Ssl Cert}

/-! ## The source in the system -/

omit [DecidableEq ι] in
def OfReader : Event ι → Prop
  | .source e => LiveSource.OfReader e
  | .transport _ _ | .turn _ _ _ => False

omit [DecidableEq ι] in
/-- Something comes to the viewer that can open its latch. -/
def Reaches (o : ι) : Event ι → Prop
  | .transport o' e => o' = o ∧ WebrtcTransport.Incoming e
  | .source _ | .turn _ _ _ => False

section Steps

variable {s s' : Broadcast ι Ctx Ssl} {e : Event ι} {o : ι} {outs : List (Output ι)}

theorem heard_keeps {I : LiveSource ι → Prop}
    (hkeep : ∀ t x, I t → I (hear t x)) (xs : List (Signal ι)) {t : LiveSource ι} (h : I t) :
    I (xs.foldl hear t) := by
  induction xs generalizing t with
  | nil => exact h
  | cons x xs ih => exact ih (hkeep t x h)

omit [DecidableEq ι] in
theorem heard_nothing {w w' : WebrtcTransport Ctx Ssl} {out : List TransportOutput}
    (h : w'.connectionEstablished = w.connectionEstablished ∧ .removeFromManager ∉ out) :
    signals o w w' out = [] := by
  rw [signals, if_neg, if_neg h.2, List.append_nil]
  rintro ⟨hnot, hconn⟩
  exact Bool.false_ne_true (hnot.symm.trans (h.1.symm.trans hconn))

/-- A handler that cannot open the viewer's latch. -/
theorem heard_same {o' : ι} {e : WebrtcTransport.Event} {w w' : WebrtcTransport Ctx Ssl}
    {out : List TransportOutput} {t : LiveSource ι}
    (hok : WebrtcTransport.step p w e = .ok (w', out))
    (hnot : ¬ (o' = o ∧ WebrtcTransport.Incoming e)) :
    ((signals o' w w' out).foldl hear t).viewers o = t.viewers o := by
  by_cases ho : o' = o
  · rw [heard_nothing (WebrtcTransport.step_only (fun he => hnot ⟨ho, he⟩) hok)]
    rfl
  · exact hear_others (Ne.symm ho)

theorem not_incoming (pkt : SourcePacket) (heap : Memory) (clock : Nat → UInt64) :
    ¬ WebrtcTransport.Incoming (pkt.incoming heap clock) := by
  unfold SourcePacket.incoming
  split <;> exact id

/-- For the source a step is one of its own, or it hears of a latch. -/
theorem step_source (h : step p s e = .ok (s', outs)) :
    (∃ e' outs', e = .source e' ∧ s.source.step e' = .ok (s'.source, outs')) ∨
      (¬ OfReader e ∧ ∃ xs, s'.source = List.foldl hear s.source xs ∧
        ∀ o, ¬ Reaches o e → s'.source.viewers o = s.source.viewers o) := by
  cases step_move h with
  | source hstep => exact Or.inl ⟨_, _, rfl, hstep⟩
  | transport hhandled =>
      cases hhandled with
      | intro hok => exact Or.inr ⟨id, _, rfl, fun o hnot => heard_same hok hnot⟩
  | turn _ hhandled =>
      cases hhandled with
      | intro hok =>
          exact Or.inr ⟨id, _, rfl, fun o _ => heard_same hok fun h => not_incoming _ _ _ h.2⟩

/-- What every step of the source keeps, every step of the system keeps. -/
theorem step_keeps {I : LiveSource ι → Prop}
    (hkeep : ∀ t e t' outs, LiveSource.step t e = .ok (t', outs) → I t → I t')
    (h : step p s e = .ok (s', outs)) (hi : I s.source) : I s'.source := by
  rcases step_source h with ⟨e', outs', -, hstep⟩ | ⟨-, xs, heq, -⟩
  · exact hkeep _ _ _ _ hstep hi
  · rw [heq]
    exact heard_keeps (fun t x ht => hkeep _ _ _ _ (hear_step t x) ht) xs hi

end Steps

/-! ## Executions -/

/-- An infinite run of a source and its viewers. -/
abbrev Endless (ι : Type) [DecidableEq ι] (p : Platform Ctx Ssl Cert) :=
  Execution (step p : Broadcast ι Ctx Ssl → Event ι → _) (Served p)

/-- Every viewer that the reader comes to call is released some time. -/
def Answered (x : Endless ι p) : Prop :=
  ∀ n o, LiveSource.callee (x.state n).source.reader = some o →
    ∃ m ≥ n, ((x.state m).source.viewers o).latchReleased = true

section Executions

variable {x : Endless ι p}

end Executions

/-! A viewer has been answered, and is never heard of again. -/

section Samples

open WebrtcTransport (sampleTransport)

end Samples

end Broadcast

end WebrtcServer
