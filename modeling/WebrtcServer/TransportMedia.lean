/-
# `TransportMedia` — the media stream inside the transport

Whatever the transport does, its media stream is made by `CreateAnswer` and
changed by methods of its own only (`step_mediaStream`).  Sending, ICE and
DTLS leave it alone, so what holds of every media stream with its tracks
holds of the one in every transport that has been reached.
-/
import WebrtcServer.MediaTracks
import WebrtcServer.TransportFrame

namespace WebrtcServer

open Lib

namespace WebrtcTransport

variable {Ctx Ssl Cert : Type} {p : Platform Ctx Ssl Cert} {w w' : WebrtcTransport Ctx Ssl}
  {out : List TransportOutput}

/-! ## The handlers that leave it alone -/

theorem onIceOutputs_mediaStream {outs : List IceOutput}
    (h : onEach (onIceOutput p) w outs = .ok (w', out)) : w'.mediaStream = w.mediaStream := by
  refine onEach_ok (P := fun v => v.mediaStream = w.mediaStream)
    (fun v o v' out hv ho => Eq.trans ?_ hv) rfl h
  cases o with
  | stunMessageSend data ep =>
      cases ho
      rfl
  | iceConnectionCompleted =>
      simp only [onIceOutput, onIceConnectionCompleted] at ho
      split at ho
      · split at ho
        · cases ho
        next w₁ out₁ hok =>
          cases ho
          have hmedia := (onDtlsOutputs_delivers hok).mediaStream
          split
          · exact hmedia
          · exact hmedia
      · cases ho
  | iceConnectionError =>
      cases ho
      rfl

/-! ## Its own methods -/

theorem callMediaStream_ok
    {call : MediaStream → Except Fault (MediaStream × List MediaOutput)}
    (h : callMediaStream p w call = .ok (w', out)) :
    ∃ m m' outs, w.mediaStream = some m ∧ call m = .ok (m', outs) ∧ w'.mediaStream = some m' := by
  simp only [callMediaStream] at h
  split at h
  · cases h
  next m hm =>
    split at h
    · cases h
    next m' outs hcall =>
      refine ⟨m, m', outs, hm, hcall, ?_⟩
      exact (onMediaOutputs_delivers h).mediaStream

/-- Everything that a step can do to the media stream: leave it alone, make
it anew, or call one of its methods. -/
theorem step_mediaStream {e : Event} (h : step p w e = .ok (w', out)) :
    w'.mediaStream = w.mediaStream ∨
    (∃ rtpBuf, e = .createAnswer rtpBuf ∧
      w'.mediaStream = (w.createMediaStream rtpBuf).mediaStream) ∨
    ∃ m m' e' outs, w.mediaStream = some m ∧ m.step p.rtpTimestamp e' = .ok (m', outs) ∧
      w'.mediaStream = some m' := by
  cases step_handles h with
  | answer rtpBuf hw' => exact Or.inr (Or.inl ⟨rtpBuf, rfl, congrArg mediaStream hw'⟩)
  | nothing _ hw' => exact Or.inl (congrArg mediaStream hw')
  | media session call _ hcall =>
      obtain ⟨m, m', outs, hm, hok, hm'⟩ := callMediaStream_ok hcall
      exact Or.inr (Or.inr ⟨m, m', call, outs, hm, hok, hm'⟩)
  | dtls _ _ _ hcalls => exact Or.inl (onDtlsOutputs_delivers hcalls).mediaStream
  | stun d clock _ hstun =>
      simp only [receiveStun] at hstun
      split at hstun
      · cases hstun
      · have hmedia := onIceOutputs_mediaStream hstun
        exact Or.inl hmedia

/-- Only the answer makes it, and nothing takes it away. -/
theorem step_mediaStream_isSome {e : Event} (h : step p w e = .ok (w', out)) :
    w'.mediaStream.isSome = true ↔
      w.mediaStream.isSome = true ∨ ∃ rtpBuf, e = .createAnswer rtpBuf := by
  by_cases hanswer : ∃ rtpBuf, e = .createAnswer rtpBuf
  · obtain ⟨rtpBuf, rfl⟩ := hanswer
    cases h
    exact iff_of_true rfl (Or.inr ⟨rtpBuf, rfl⟩)
  · rw [or_iff_left hanswer]
    rcases step_mediaStream h with hkeep | ⟨rtpBuf, he, -⟩ | ⟨m, m', e', outs, hm, -, hm'⟩
    · rw [hkeep]
    · exact absurd ⟨rtpBuf, he⟩ hanswer
    · rw [hm, hm']
      exact iff_of_true rfl rfl

/-! ## Runs -/

/-- The media stream, once made, has its tracks in order. -/
def MediaOk (w : WebrtcTransport Ctx Ssl) : Prop :=
  ∀ m, w.mediaStream = some m → ∃ keys, MediaStream.Inv keys m

theorem MediaOk.step {e : Event} (hw : MediaOk w) (h : step p w e = .ok (w', out)) :
    MediaOk w' := by
  intro m' hm'
  rcases step_mediaStream h with hkeep | ⟨rtpBuf, -, hmade⟩ | ⟨m, m₁, e', outs, hm, hstep, hm₁⟩
  · exact hw m' (hkeep ▸ hm')
  · rw [hmade] at hm'
    cases hm'
    exact ⟨_, MediaStream.addStreamTrack_inv (MediaStream.addStreamTrack_inv MediaStream.inv_new
      w.videoRtpParams rtpBuf) w.audioRtpParams rtpBuf⟩
  · obtain ⟨keys, hi⟩ := hw m hm
    obtain rfl := Option.some.inj (hm₁.symm.trans hm')
    exact ⟨_, hi.step hstep⟩

/-- In every transport that is reached the media stream has its tracks in
order. -/
theorem run_mediaOk {C : WebrtcTransport Ctx Ssl → Event → Prop} {w₀ : WebrtcTransport Ctx Ssl}
    (h₀ : w₀.mediaStream = none) {h : List (Event × List TransportOutput)}
    (hr : Run (step p) C w₀ h w) : MediaOk w := by
  refine hr.invariant (I := fun _ w => MediaOk w) ?_ fun _ _ _ _ _ hi _ hstep =>
    hi.step hstep
  intro m hm
  rw [h₀] at hm
  cases hm

end WebrtcTransport

end WebrtcServer
