/-
# `TransportRun` — when a handler of the transport returns

Seen from its media stream, a run of the transport is a run of that stream:
it begins with the tracks that `CreateAnswer` adds, and the packets fed to
it are those posted to the transport (`run_media`).  What is known of every
media stream with two tracks then holds of the one in every transport that
is reached.

So the faults of the transport can be told exactly.  Its components are
there, the packets sent fit into the buffer in which they are protected, and
what is left is a handler that runs before the answer, a NACK that names no
track, and an Opus frame that is too long for the packetizer.
-/
import WebrtcServer.Components
import WebrtcServer.MediaTakes

namespace WebrtcServer

open Lib

namespace WebrtcTransport

variable {Ctx Ssl Cert : Type} {p : Platform Ctx Ssl Cert} {w w' : WebrtcTransport Ctx Ssl}
  {out : List TransportOutput}

/-! ## The payload types of the offer -/

/-- The payload types are those of the offer. -/
structure SameOffer (w w' : WebrtcTransport Ctx Ssl) : Prop where
  h264 : w'.rtpH264Payload = w.rtpH264Payload
  h264Rtx : w'.rtpH264RtxPayload = w.rtpH264RtxPayload
  opus : w'.rtpOpusPayload = w.rtpOpusPayload

theorem SameOffer.refl (w : WebrtcTransport Ctx Ssl) : SameOffer w w := ⟨rfl, rfl, rfl⟩

theorem SameOffer.trans {u v x : WebrtcTransport Ctx Ssl} (h : SameOffer u v)
    (h' : SameOffer v x) : SameOffer u x :=
  ⟨h'.h264.trans h.h264, h'.h264Rtx.trans h.h264Rtx, h'.opus.trans h.opus⟩

theorem SameOffer.params (h : SameOffer w w') :
    w'.videoRtpParams = w.videoRtpParams ∧ w'.audioRtpParams = w.audioRtpParams := by
  simp only [videoRtpParams, audioRtpParams, h.h264, h.h264Rtx, h.opus, and_self]

theorem onEach_sameOffer {α : Type} {on : WebrtcTransport Ctx Ssl → α →
      Except Fault (WebrtcTransport Ctx Ssl × List TransportOutput)}
    (hon : ∀ v call v' out, on v call = .ok (v', out) → SameOffer v v') {calls : List α}
    (h : onEach on w calls = .ok (w', out)) : SameOffer w w' :=
  onEach_ok (fun v call v' out hv hcall => hv.trans (hon v call v' out hcall))
    (SameOffer.refl w) h

theorem onMediaOutput_sameOffer {o : MediaOutput} (h : onMediaOutput p w o = .ok (w', out)) :
    SameOffer w w' := by
  cases o with
  | rtpPacketSend data | rtcpPacketSend data =>
      simp only [onMediaOutput, onRtpPacketSend, onRtcpPacketSend, sendProtected] at h
      split at h
      · cases h
      · split at h <;> cases h
        exact ⟨rfl, rfl, rfl⟩

theorem onDtlsOutput_sameOffer {o : DtlsOutput} (h : onDtlsOutput p w o = .ok (w', out)) :
    SameOffer w w' := by
  cases o with
  | setup suite localMasterKey remoteMasterKey =>
      simp only [onDtlsOutput, onDtlsTransportSetup] at h
      split at h <;> cases h
      exact ⟨rfl, rfl, rfl⟩
  | error | shutdown | sendData data =>
      cases h
      exact .refl w

theorem onIceOutput_sameOffer {o : IceOutput} (h : onIceOutput p w o = .ok (w', out)) :
    SameOffer w w' := by
  cases o with
  | iceConnectionCompleted =>
      simp only [onIceOutput, onIceConnectionCompleted] at h
      split at h
      · split at h
        · cases h
        next w₁ out₁ hcalls =>
          cases h
          have hsame := onEach_sameOffer (fun _ _ _ _ ho => onDtlsOutput_sameOffer ho) hcalls
          split <;> exact ⟨hsame.h264, hsame.h264Rtx, hsame.opus⟩
      · cases h
  | stunMessageSend data ep | iceConnectionError =>
      cases h
      exact .refl w

theorem callMediaStream_sameOffer
    {call : MediaStream → Except Fault (MediaStream × List MediaOutput)}
    (h : callMediaStream p w call = .ok (w', out)) : SameOffer w w' := by
  simp only [callMediaStream] at h
  split at h
  · cases h
  · split at h
    · cases h
    · have hsame := onEach_sameOffer (fun _ _ _ _ ho => onMediaOutput_sameOffer ho) h
      exact ⟨hsame.h264, hsame.h264Rtx, hsame.opus⟩

theorem step_sameOffer {e : Event} (h : step p w e = .ok (w', out)) : SameOffer w w' := by
  cases step_handles h with
  | answer rtpBuf hw' => exact hw' ▸ ⟨rfl, rfl, rfl⟩
  | nothing _ hw' => exact hw' ▸ .refl w
  | media session call _ hcall =>
      have hsame := callMediaStream_sameOffer hcall
      exact ⟨hsame.h264, hsame.h264Rtx, hsame.opus⟩
  | dtls _ _ _ hcalls =>
      have hsame := onEach_sameOffer (fun _ _ _ _ ho => onDtlsOutput_sameOffer ho) hcalls
      exact ⟨hsame.h264, hsame.h264Rtx, hsame.opus⟩
  | stun d clock _ hstun =>
      simp only [receiveStun] at hstun
      split at hstun
      · cases hstun
      · have hsame := onEach_sameOffer (fun _ _ _ _ ho => onIceOutput_sameOffer ho) hstun
        exact ⟨hsame.h264, hsame.h264Rtx, hsame.opus⟩

/-! ## The calls of the media stream -/

/-- The method of the media stream that an event comes to; an RTCP packet
comes unprotected. -/
def mediaCall (p : Platform Ctx Ssl Cert) (w : WebrtcTransport Ctx Ssl) :
    Event → Option MediaStream.Event
  | .udpSocketDataReceive d clock =>
      if kindOf d = .rtcp then
        w.recvSrtpSession.map fun session =>
          let r := session.unprotectRtcp p.srtp d.data d.len 0
          .receiveRctp clock r.data r.outLen
      else none
  | .incomingH264Packet heap clock packet => some (.receiveH264Packet heap clock packet)
  | .incomingOpusPacket heap clock packet => some (.receiveOpusPacket heap clock packet)
  | .rtcpTimerTimeout buffer nowMillis => some (.timerTimeout buffer nowMillis)
  | _ => none

theorem mediaCall_adds {e : Event} {call : MediaStream.Event} (h : mediaCall p w e = some call) :
    MediaStream.adds call = none := by
  cases e with
  | udpSocketDataReceive d clock =>
      simp only [mediaCall] at h
      split at h
      · obtain ⟨session, -, rfl⟩ := Option.map_eq_some_iff.mp h
        rfl
      · cases h
  | incomingH264Packet _ _ _ | incomingOpusPacket _ _ _ | rtcpTimerTimeout _ _ =>
      cases h
      rfl
  | createAnswer _ | udpSocketError | dtlsTimerTimeout | mediaSourceEnd => cases h

/-- The handler of such an event calls the method. -/
theorem step_of_mediaCall {e : Event} {call : MediaStream.Event}
    (h : mediaCall p w e = some call) :
    ∃ session, (w.recvSrtpSession.isSome = true → session.isSome = true) ∧
      step p w e = callMediaStream p { w with recvSrtpSession := session } fun m =>
        m.step p.rtpTimestamp call := by
  cases e with
  | udpSocketDataReceive d clock =>
      simp only [mediaCall] at h
      split at h
      next hkind =>
        obtain ⟨session, hsession, rfl⟩ := Option.map_eq_some_iff.mp h
        refine ⟨some (session.unprotectRtcp p.srtp d.data d.len 0).session, fun _ => rfl, ?_⟩
        simp only [step, onUdpSocketDataReceive, hkind, receiveRtcp, hsession]
        rfl
      · cases h
  | incomingH264Packet _ _ _ | incomingOpusPacket _ _ _ | rtcpTimerTimeout _ _ =>
      cases h
      exact ⟨w.recvSrtpSession, id, rfl⟩
  | createAnswer _ | udpSocketError | dtlsTimerTimeout | mediaSourceEnd => cases h

/-- A handler that can only miss a component, and finds them all, returns. -/
theorem Intact.returns {r : Except Fault (WebrtcTransport Ctx Ssl × List TransportOutput)}
    (h : Intact r) (hfaults : ∀ f, r = .error f → f = .nullComponent) :
    ∃ w' out, r = .ok (w', out) := by
  cases r with
  | ok next => exact ⟨next.1, next.2, rfl⟩
  | error f => exact absurd (hfaults f rfl) h

theorem receiveDtls_ok (hw : Assembled w) (d : Datagram) :
    ∃ w' out, receiveDtls p w d = .ok (w', out) := by
  refine (intact_receiveDtls hw d).returns fun f h => ?_
  simp only [receiveDtls] at h
  split at h
  · split at h
    · cases h
      rfl
    · split at h
      next hdata =>
        cases h
        simp only [DtlsTransport.processDataFromPeer] at hdata
        split at hdata
        · cases hdata
          rfl
        · split at hdata <;> cases hdata
      next => exact onEach_fault (fun _ _ _ hf => onDtlsOutput_fault hf) h
  · cases h

theorem dtlsTimer_ok (hw : Assembled w) :
    ∃ w' out, step p w .dtlsTimerTimeout = .ok (w', out) := by
  refine (intact_dtlsTimer hw).returns fun f h => ?_
  simp only [step] at h
  split at h
  · cases h
    rfl
  · split at h
    next htimer =>
      cases h
      simp only [DtlsTransport.onTimerTimeout] at htimer
      split at htimer
      · cases htimer
      · split at htimer
        · cases htimer
          rfl
        · split at htimer <;> cases htimer
    next => exact onEach_fault (fun _ _ _ hf => onDtlsOutput_fault hf) h

/-- Every other event runs to its end. -/
theorem step_ok_of_no_mediaCall {e : Event} (hw : Assembled w) (h : mediaCall p w e = none) :
    ∃ w' out, step p w e = .ok (w', out) := by
  cases e with
  | createAnswer rtpBuf => exact ⟨_, _, rfl⟩
  | udpSocketError | mediaSourceEnd => exact ⟨_, _, rfl⟩
  | incomingH264Packet _ _ _ | incomingOpusPacket _ _ _ | rtcpTimerTimeout _ _ => cases h
  | dtlsTimerTimeout => exact dtlsTimer_ok hw
  | udpSocketDataReceive d clock =>
      simp only [step, onUdpSocketDataReceive]
      split
      next => exact receiveStun_ok hw d
      next => exact receiveDtls_ok hw d
      next hkind =>
        obtain ⟨session, hsession⟩ := Option.isSome_iff_exists.mp hw.recv
        simp [mediaCall, hkind, hsession] at h
      next => exact ⟨w, [], rfl⟩

/-- It leaves the media stream alone, unless it is the answer. -/
theorem step_keeps_media {e : Event} (h : mediaCall p w e = none)
    (hanswer : ∀ rtpBuf, e ≠ .createAnswer rtpBuf) (hok : step p w e = .ok (w', out)) :
    w'.mediaStream = w.mediaStream := by
  cases e with
  | createAnswer rtpBuf => exact absurd rfl (hanswer rtpBuf)
  | incomingH264Packet _ _ _ | incomingOpusPacket _ _ _ | rtcpTimerTimeout _ _ => cases h
  | udpSocketError | mediaSourceEnd =>
      cases hok
      rfl
  | dtlsTimerTimeout =>
      simp only [step] at hok
      split at hok
      · cases hok
      · split at hok
        · cases hok
        · have hmedia := (onDtlsOutputs_delivers hok).mediaStream
          exact hmedia
  | udpSocketDataReceive d clock =>
      simp only [step, onUdpSocketDataReceive] at hok
      split at hok
      next =>
        simp only [receiveStun] at hok
        split at hok
        · cases hok
        · have hmedia := onIceOutputs_mediaStream hok
          exact hmedia
      next =>
        simp only [receiveDtls] at hok
        split at hok
        · split at hok
          · cases hok
          · split at hok
            · cases hok
            · have hmedia := (onDtlsOutputs_delivers hok).mediaStream
              exact hmedia
        · cases hok
          rfl
      next hkind =>
        simp only [receiveRtcp] at hok
        split at hok
        · cases hok
        next session hsession => simp [mediaCall, hkind, hsession] at h
      next =>
        cases hok
        rfl

/-! ## Runs -/

/-- The answer is created once. -/
def AnswersOnce (w : WebrtcTransport Ctx Ssl) (e : Event) : Prop :=
  ∀ rtpBuf, e = .createAnswer rtpBuf → w.mediaStream = none

/-- The media packets of a kind that were posted to the transport. -/
def posted (kind : MediaType) (h : List (Event × List TransportOutput)) : List MediaPacket :=
  h.filterMap fun x =>
    match x.1 with
    | .incomingH264Packet _ _ packet => if kind = .video then some packet else none
    | .incomingOpusPacket _ _ packet => if kind = .audio then some packet else none
    | _ => none

theorem posted_snoc (kind : MediaType) (h : List (Event × List TransportOutput)) (e : Event)
    (out : List TransportOutput) :
    posted kind (h ++ [(e, out)]) = posted kind h ++ posted kind [(e, out)] :=
  List.filterMap_append

/-- The media stream has come by `history` from the two tracks of the
answer, fed with what was posted to the transport. -/
structure Streams (p : Platform Ctx Ssl Cert) (w₀ : WebrtcTransport Ctx Ssl)
    (h : List (Event × List TransportOutput)) (m : MediaStream)
    (history : List (MediaStream.Event × List MediaOutput)) : Prop where
  run : ∃ rtpBuf, Run (MediaStream.step p.rtpTimestamp) MediaStream.KeepsTracks
    (MediaStream.withTracks w₀.videoRtpParams w₀.audioRtpParams rtpBuf rtpBuf) history m
  fed : ∀ kind, MediaStream.fed kind history = posted kind h

section Runs

variable {w₀ : WebrtcTransport Ctx Ssl} {h : List (Event × List TransportOutput)}
  {m : MediaStream} {history : List (MediaStream.Event × List MediaOutput)} {e : Event}
  {call : MediaStream.Event}

/-- A step with a call of the media stream is a step of that stream, and its
outputs are sent. -/
theorem Streams.step (hm : w.mediaStream = some m) (hs : Streams p w₀ h m history)
    (hcall : mediaCall p w e = some call) (hok : step p w e = .ok (w', out)) :
    ∃ m' outs session, m.step p.rtpTimestamp call = .ok (m', outs) ∧
      onEach (onMediaOutput p) { w with recvSrtpSession := session, mediaStream := some m' } outs =
        .ok (w', out) ∧
      w'.mediaStream = some m' ∧ Streams p w₀ (h ++ [(e, out)]) m' (history ++ [(call, outs)]) := by
  obtain ⟨session, -, hstep⟩ := step_of_mediaCall hcall
  rw [hstep] at hok
  simp only [callMediaStream, hm] at hok
  split at hok
  · cases hok
  next m' outs hmstep =>
    obtain ⟨rtpBuf, hr⟩ := hs.run
    refine ⟨m', outs, session, hmstep, hok, (onMediaOutputs_delivers hok).mediaStream,
      ⟨rtpBuf, hr.snoc (mediaCall_adds hcall) hmstep⟩, fun kind => ?_⟩
    rw [MediaStream.fed_snoc, hs.fed, posted_snoc]
    congr 1
    cases e with
    | udpSocketDataReceive d clock =>
        simp only [mediaCall] at hcall
        split at hcall
        · obtain ⟨session, -, rfl⟩ := Option.map_eq_some_iff.mp hcall
          rfl
        · cases hcall
    | incomingH264Packet _ _ _ | incomingOpusPacket _ _ _ | rtcpTimerTimeout _ _ =>
        cases hcall
        cases kind <;> rfl
    | createAnswer _ | udpSocketError | dtlsTimerTimeout | mediaSourceEnd => cases hcall

/-- Any other step posts nothing. -/
theorem posted_of_no_mediaCall (kind : MediaType) (hcall : mediaCall p w e = none) :
    posted kind [(e, out)] = [] := by
  cases e with
  | incomingH264Packet _ _ _ | incomingOpusPacket _ _ _ | rtcpTimerTimeout _ _ => cases hcall
  | createAnswer _ | udpSocketDataReceive _ _ | udpSocketError | dtlsTimerTimeout
    | mediaSourceEnd => rfl

/-- A transport that was started, by what it was started with. -/
structure Goes (p : Platform Ctx Ssl Cert) (w₀ w : WebrtcTransport Ctx Ssl)
    (h : List (Event × List TransportOutput)) : Prop where
  offer : SameOffer w₀ w
  before : w.mediaStream = none → ∀ kind, posted kind h = []
  after : ∀ m, w.mediaStream = some m → ∃ history, Streams p w₀ h m history

theorem Goes.step (hg : Goes p w₀ w h) (hr : AnswersOnce w e)
    (hok : step p w e = .ok (w', out)) : Goes p w₀ w' (h ++ [(e, out)]) := by
  have hoffer := hg.offer.trans (step_sameOffer hok)
  cases hcall : mediaCall p w e with
  | some call =>
      cases hm : w.mediaStream with
      | none =>
          obtain ⟨session, -, hstep⟩ := step_of_mediaCall hcall
          simp only [hstep, callMediaStream, hm] at hok
          cases hok
      | some m =>
          obtain ⟨history, hs⟩ := hg.after m hm
          obtain ⟨m', outs, session, -, -, hm', hs'⟩ := hs.step hm hcall hok
          refine ⟨hoffer, fun hnone => ?_, fun m'' hm'' => ?_⟩
          · rw [hm'] at hnone
            cases hnone
          · obtain rfl := Option.some.inj (hm'.symm.trans hm'')
            exact ⟨_, hs'⟩
  | none =>
      have hsame : ∀ kind, posted kind (h ++ [(e, out)]) = posted kind h := fun kind => by
        rw [posted_snoc, posted_of_no_mediaCall kind hcall, List.append_nil]
      by_cases hanswer : ∃ rtpBuf, e = .createAnswer rtpBuf
      · obtain ⟨rtpBuf, rfl⟩ := hanswer
        have hnone := hr rtpBuf rfl
        cases hok
        refine ⟨hoffer, (fun h' => by cases h'), fun m hm => ?_⟩
        cases hm
        obtain ⟨hv, ha⟩ := hg.offer.params
        refine ⟨[], ⟨rtpBuf, ?_⟩, fun kind => ?_⟩
        · rw [← hv, ← ha]
          exact .nil
        · rw [hsame, hg.before hnone]
          rfl
      · have hkeep := step_keeps_media hcall (fun rtpBuf he => hanswer ⟨rtpBuf, he⟩) hok
        refine ⟨hoffer, fun hnone kind => ?_, fun m hm => ?_⟩
        · rw [hsame, hg.before (hkeep ▸ hnone)]
        · obtain ⟨history, hs⟩ := hg.after m (hkeep ▸ hm)
          exact ⟨history, hs.run, fun kind => by rw [hs.fed, hsame]⟩

theorem run_goes {C : WebrtcTransport Ctx Ssl → Event → Prop}
    (hC : ∀ w e, C w e → AnswersOnce w e) (hnone : w₀.mediaStream = none)
    (hr : Run (WebrtcTransport.step p) C w₀ h w) : Goes p w₀ w h := by
  refine hr.invariant (I := fun h w => Goes p w₀ w h) ⟨.refl w₀, fun _ _ => rfl, ?_⟩
    fun h w e w' out hg he hok => hg.step (hC w e he) hok
  intro m hm
  rw [hnone] at hm
  cases hm

end Runs

/-! ## Which events return -/

/-- What a handler takes: it needs the media stream if it uses it, NACKs that
name a track of the answer, and Opus frames that fit. -/
def Takes (p : Platform Ctx Ssl Cert) (h : List (Event × List TransportOutput))
    (w : WebrtcTransport Ctx Ssl) : Event → Prop
  | .udpSocketDataReceive d _ => kindOf d = .rtcp → AnswerCreated h ∧
      ∀ session, w.recvSrtpSession = some session →
        let r := session.unprotectRtcp p.srtp d.data d.len 0
        ∀ ps, RtcpCompound.parse r.data r.outLen = some ps → ∀ q ∈ ps, ∀ nack,
          MediaStream.IsNack q nack → nack.mediaSsrc = 12345678 ∨ nack.mediaSsrc = 87654321
  | .incomingOpusPacket _ _ packet =>
      AnswerCreated h ∧ kRtpHeaderFixedSize + packet.size ≤ kRtpBufferSize
  | .incomingH264Packet _ _ _ | .rtcpTimerTimeout _ _ => AnswerCreated h
  | _ => True

section Returns

variable {w₀ : WebrtcTransport Ctx Ssl} {h : List (Event × List TransportOutput)}
  {m : MediaStream} {history : List (MediaStream.Event × List MediaOutput)} {e : Event}
  {call : MediaStream.Event}

/-- Packets that fit into the buffer are protected and sent. -/
theorem onMediaOutputs_ok {outs : List MediaOutput} (hw : Assembled w)
    (hlen : ∀ o ∈ outs, (MediaStream.outputData o).length ≤ kProtectBuffer) :
    ∃ w' out, onEach (onMediaOutput p) w outs = .ok (w', out) := by
  induction outs generalizing w with
  | nil => exact ⟨w, [], rfl⟩
  | cons o outs ih =>
      obtain ⟨ho, hrest⟩ := List.forall_mem_cons.mp hlen
      have hintact := intact_onMediaOutput (p := p) hw o
      obtain ⟨session, hsession⟩ := Option.isSome_iff_exists.mp hw.send
      obtain ⟨w₁, out₁, hfirst⟩ : ∃ w₁ out₁, onMediaOutput p w o = .ok (w₁, out₁) := by
        cases o with
        | rtpPacketSend data | rtcpPacketSend data =>
            simp only [onMediaOutput, onRtpPacketSend, onRtcpPacketSend, sendProtected, hsession]
            exact ⟨_, _, if_neg (Nat.not_lt.mpr ho)⟩
      rw [hfirst] at hintact
      obtain ⟨w₂, out₂, hok⟩ := ih hintact hrest
      exact ⟨w₂, out₁ ++ out₂, by simp only [onEach, hfirst, hok]⟩

/-- A call of the media stream returns to the transport exactly when the
stream is there and takes it. -/
theorem mediaStep_ok_iff (hw : Assembled w) (hg : Goes p w₀ w h)
    (hcall : mediaCall p w e = some call) :
    (∃ w' out, step p w e = .ok (w', out)) ↔ ∃ m, w.mediaStream = some m ∧ m.Takes call := by
  obtain ⟨session, hsession, hstep⟩ := step_of_mediaCall hcall
  cases hm : w.mediaStream with
  | none => simp [hstep, callMediaStream, hm]
  | some m =>
      obtain ⟨history, rtpBuf, hr⟩ := (hg.after m hm).imp fun _ hs => hs.run
      have hadds := mediaCall_adds hcall
      have htakes := MediaStream.step_ok_iff rfl rfl (by simp [videoRtpParams, audioRtpParams]) hr
        hadds
      simp only [Option.some.injEq, exists_eq_left', ← htakes]
      constructor
      · rintro ⟨w', out, hok⟩
        simp only [hstep, callMediaStream, hm] at hok
        split at hok
        · cases hok
        next m' outs hmstep => exact ⟨m', outs, hmstep⟩
      · rintro ⟨m', outs, hmstep⟩
        have hlen := MediaStream.run_step_length rfl rfl
          (by simp [videoRtpParams, audioRtpParams]) hr hadds hmstep
        have hw' : Assembled { w with recvSrtpSession := session, mediaStream := some m' } :=
          ⟨hw.iceLite, hw.dtls, hw.send, hsession hw.recv⟩
        obtain ⟨w', out, hok⟩ := onMediaOutputs_ok (p := p) hw' fun o ho =>
          Nat.le_trans (hlen o ho) (by decide)
        exact ⟨w', out, by simp only [hstep, callMediaStream, hm, hmstep, hok]⟩

/-- What the media stream takes, by the SSRCs of the answer. -/
theorem nacksKnown_iff (hs : Streams p w₀ h m history) (clock : Nat → Nat → UInt64)
    (data : Memory) (len : Nat) :
    MediaStream.NacksKnown m (.receiveRctp clock data len) ↔
      ∀ ps, RtcpCompound.parse data len = some ps → ∀ q ∈ ps, ∀ nack,
        MediaStream.IsNack q nack → nack.mediaSsrc = 12345678 ∨ nack.mediaSsrc = 87654321 := by
  obtain ⟨rtpBuf, hr⟩ := hs.run
  have hkeys := (MediaStream.run_follows rfl rfl
    (by simp [videoRtpParams, audioRtpParams]) hr).1.keys_iff
  simp only [MediaStream.NacksKnown, hkeys, MediaStream.IsNack, videoRtpParams, audioRtpParams,
    List.mem_cons, List.not_mem_nil, or_false, and_imp]
  exact ⟨fun h ps hps q hq nack htype hformat => h ps hps q hq htype hformat nack,
    fun h ps hps q hq htype hformat nack => h ps hps q hq nack htype hformat⟩

end Returns

/-- After every run from `Start` on, whatever came in and in whatever order,
the handler of the next event returns exactly when it takes the event. -/
theorem returns_iff {iceLite : IceLite} {dtls : DtlsTransport Ssl} {h264 h264Rtx opus : Int}
    {remoteSetup : String} {protectBuffer : Memory} {h : List (Event × List TransportOutput)}
    (hssl : dtls.ssl.isSome = true)
    (hr : Run (step p) AnswersOnce
      (started iceLite dtls h264 h264Rtx opus remoteSetup protectBuffer) h w) (e : Event) :
    (∃ w' out, step p w e = .ok (w', out)) ↔ Takes p h w e := by
  obtain ⟨hw, hanswer⟩ := run_assembled (assembled_started hssl) rfl hr
  have hg := run_goes (fun _ _ he => he) rfl hr
  rw [Option.isSome_iff_exists] at hanswer
  cases e with
  | createAnswer rtpBuf => exact iff_of_true ⟨_, _, rfl⟩ trivial
  | udpSocketError | mediaSourceEnd => exact iff_of_true ⟨_, _, rfl⟩ trivial
  | dtlsTimerTimeout => exact iff_of_true (dtlsTimer_ok hw) trivial
  | incomingH264Packet heap clock packet =>
      rw [mediaStep_ok_iff hw hg rfl, Takes, ← hanswer]
      exact exists_congr fun m => and_iff_left trivial
  | rtcpTimerTimeout buffer nowMillis =>
      rw [mediaStep_ok_iff hw hg rfl, Takes, ← hanswer]
      exact exists_congr fun m => and_iff_left trivial
  | incomingOpusPacket heap clock packet =>
      rw [mediaStep_ok_iff hw hg rfl, Takes, ← hanswer]
      exact exists_and_right
  | udpSocketDataReceive d clock =>
      obtain ⟨session, hsession⟩ := Option.isSome_iff_exists.mp hw.recv
      by_cases hkind : kindOf d = .rtcp
      · rw [mediaStep_ok_iff hw hg (by rw [mediaCall, if_pos hkind, hsession]; rfl), Takes,
          ← hanswer]
        simp only [hkind, hsession, true_implies, Option.some.injEq, forall_eq']
        constructor
        · rintro ⟨m, hm, htakes⟩
          obtain ⟨history, hs⟩ := hg.after m hm
          exact ⟨⟨m, hm⟩, (nacksKnown_iff hs clock _ _).mp htakes⟩
        · rintro ⟨⟨m, hm⟩, hnacks⟩
          obtain ⟨history, hs⟩ := hg.after m hm
          exact ⟨m, hm, (nacksKnown_iff hs clock _ _).mpr hnacks⟩
      · refine iff_of_true (step_ok_of_no_mediaCall hw (by rw [mediaCall, if_neg hkind])) ?_
        exact fun h => absurd h hkind

/-! An Opus frame of the longest size, and one that is a byte longer. -/

section Samples

def opusFrame (size : Nat) (size_lt : size < 2147483648) : Event :=
  .incomingOpusPacket (fun _ => 0) (fun _ => 0)
    { data := fun _ => 0, size, timestampMillis := 0, size_lt }

theorem sampleAnswer_once : Run (step (samplePlatform announced)) AnswersOnce sampleTransport
    [(.createAnswer fun _ => 0, [])] (sampleTransport.createMediaStream fun _ => 0) :=
  .snoc .nil (fun _ _ => rfl) rfl

theorem returns_iff_opusFrame :
    (∃ w out, step (samplePlatform announced) (sampleTransport.createMediaStream fun _ => 0)
        (opusFrame 4988 (by decide)) = .ok (w, out)) ∧
      ¬ ∃ w out, step (samplePlatform announced) (sampleTransport.createMediaStream fun _ => 0)
        (opusFrame 4989 (by decide)) = .ok (w, out) := by
  have hanswer : AnswerCreated [(Event.createAnswer fun _ => 0, ([] : List TransportOutput))] :=
    ⟨_, _, List.mem_cons_self⟩
  rw [returns_iff rfl sampleAnswer_once (opusFrame 4988 (by decide)),
    returns_iff rfl sampleAnswer_once (opusFrame 4989 (by decide))]
  exact ⟨⟨hanswer, by decide⟩, fun h => absurd h.2 (by decide)⟩

end Samples

end WebrtcTransport

end WebrtcServer
