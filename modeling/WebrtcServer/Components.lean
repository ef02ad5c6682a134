/-
# `Components` — what the handlers find of the transport

`Start` makes every component but one before its message loop runs, and
nothing takes them away until the transport is stopped.  The media stream is
made by `CreateAnswer`, on the thread of the signaling server: a handler
that needs it before that finds none.  DTLS is guarded by `dtls_ready_`; the
media stream is not.
-/
import WebrtcServer.TransportFrame
import WebrtcServer.TransportMedia
import WebrtcServer.UnprotectedRtcp

namespace WebrtcServer

open Lib

namespace WebrtcTransport

variable {Ctx Ssl Cert : Type} {p : Platform Ctx Ssl Cert} {w w' : WebrtcTransport Ctx Ssl}

/-- The components that `Start` makes. -/
structure Assembled (w : WebrtcTransport Ctx Ssl) : Prop where
  iceLite : w.iceLite.isSome = true
  dtls : ∃ t, w.dtlsTransport = some t ∧ t.ssl.isSome = true
  send : w.sendSrtpSession.isSome = true
  recv : w.recvSrtpSession.isSome = true

/-- No component was missing, and those of `Start` are there afterwards. -/
def Intact (r : Except Fault (WebrtcTransport Ctx Ssl × List TransportOutput)) : Prop :=
  Leaves (fun s => Assembled s.1) (· ≠ .nullComponent) r

/-! ## The handlers -/

section Handlers

theorem intact_onEach {α : Type} {on : WebrtcTransport Ctx Ssl → α →
      Except Fault (WebrtcTransport Ctx Ssl × List TransportOutput)}
    (hon : ∀ v call, Assembled v → Intact (on v call)) (hw : Assembled w) (calls : List α) :
    Intact (onEach on w calls) :=
  onEach_leaves hon hw calls

theorem intact_sendProtected {protect : SrtpSession Ctx → Memory → Nat → Nat → Nat → SrtpCall Ctx}
    (hw : Assembled w) (data : ByteString) : Intact (sendProtected protect w data) := by
  obtain ⟨session, hsession⟩ := Option.isSome_iff_exists.mp hw.send
  simp only [sendProtected, hsession]
  split
  · exact fun h => by cases h
  · exact ⟨hw.iceLite, hw.dtls, rfl, hw.recv⟩

theorem intact_onMediaOutput (hw : Assembled w) (o : MediaOutput) :
    Intact (onMediaOutput p w o) := by
  cases o with
  | rtpPacketSend data => exact intact_sendProtected hw data
  | rtcpPacketSend data => exact intact_sendProtected hw data

theorem intact_onDtlsOutput (hw : Assembled w) (o : DtlsOutput) :
    Intact (onDtlsOutput p w o) := by
  cases o with
  | setup suite localMasterKey remoteMasterKey =>
      obtain ⟨send, hsend⟩ := Option.isSome_iff_exists.mp hw.send
      obtain ⟨recv, hrecv⟩ := Option.isSome_iff_exists.mp hw.recv
      simp only [onDtlsOutput, onDtlsTransportSetup, hsend, hrecv]
      exact ⟨hw.iceLite, hw.dtls, rfl, rfl⟩
  | error => exact hw
  | shutdown => exact hw
  | sendData data => exact hw

/-- The DTLS endpoint, started or fed, still has its `ssl_`. -/
theorem intact_dtls {t : DtlsTransport Ssl} (hw : Assembled w) (ht : t.ssl.isSome = true)
    (outs : List DtlsOutput) :
    Intact (onEach (onDtlsOutput p) { w with dtlsTransport := some t } outs) :=
  have hfed : Assembled { w with dtlsTransport := some t } :=
    ⟨hw.iceLite, ⟨t, rfl, ht⟩, hw.send, hw.recv⟩
  intact_onEach (fun _ o hv => intact_onDtlsOutput hv o) hfed outs

theorem intact_onIceConnectionCompleted (hw : Assembled w) :
    Intact (onIceConnectionCompleted p w) := by
  obtain ⟨ice, hice⟩ := Option.isSome_iff_exists.mp hw.iceLite
  obtain ⟨t, hdtls, hssl⟩ := hw.dtls
  have hw' : Assembled { w with selectedEndpoint := ice.favoredCandidate } :=
    ⟨hw.iceLite, hw.dtls, hw.send, hw.recv⟩
  have hstarted := intact_dtls (p := p) hw' (DtlsTransport.start_ssl p.ssl hssl w.remoteSetup)
    (t.start p.ssl w.remoteSetup).2.2
  simp only [onIceConnectionCompleted, hice, hdtls] at hstarted ⊢
  split
  next heach =>
    rw [heach] at hstarted
    exact hstarted
  next heach =>
    rw [heach] at hstarted
    show Assembled (if _ then _ else _)
    split
    · exact ⟨hstarted.iceLite, hstarted.dtls, hstarted.send, hstarted.recv⟩
    · exact hstarted

theorem intact_onIceOutput (hw : Assembled w) (o : IceOutput) : Intact (onIceOutput p w o) := by
  cases o with
  | stunMessageSend data ep => exact hw
  | iceConnectionCompleted => exact intact_onIceConnectionCompleted hw
  | iceConnectionError => exact hw

theorem intact_receiveStun (hw : Assembled w) (d : Datagram) : Intact (receiveStun p w d) := by
  obtain ⟨ice, hice⟩ := Option.isSome_iff_exists.mp hw.iceLite
  simp only [receiveStun, hice]
  refine intact_onEach (fun _ o hv => intact_onIceOutput hv o) ?_ _
  exact ⟨rfl, hw.dtls, hw.send, hw.recv⟩

theorem onDtlsOutput_fault {o : DtlsOutput} {f : Fault} (h : onDtlsOutput p w o = .error f) :
    f = .nullComponent := by
  cases o with
  | setup suite localMasterKey remoteMasterKey =>
      simp only [onDtlsOutput, onDtlsTransportSetup] at h
      split at h
      · cases h
      · cases h
        rfl
  | error => cases h
  | shutdown => cases h
  | sendData data => cases h

theorem onIceOutput_fault {o : IceOutput} {f : Fault} (h : onIceOutput p w o = .error f) :
    f = .nullComponent := by
  cases o with
  | iceConnectionCompleted =>
      simp only [onIceOutput, onIceConnectionCompleted] at h
      split at h
      · split at h
        · next hcalls =>
            cases h
            exact onEach_fault (fun _ _ _ hf => onDtlsOutput_fault hf) hcalls
        · cases h
      · cases h
        rfl
  | stunMessageSend data ep => cases h
  | iceConnectionError => cases h

/-- A transport that is complete takes every STUN message. -/
theorem receiveStun_ok (hw : Assembled w) (d : Datagram) :
    ∃ w' out, receiveStun p w d = .ok (w', out) := by
  have hintact := intact_receiveStun (p := p) hw d
  cases h : receiveStun p w d with
  | ok next => exact ⟨next.1, next.2, rfl⟩
  | error f =>
      rw [h] at hintact
      obtain ⟨ice, hice⟩ := Option.isSome_iff_exists.mp hw.iceLite
      simp only [receiveStun, hice] at h
      exact absurd (onEach_fault (fun _ _ _ hf => onIceOutput_fault hf) h) hintact

theorem intact_receiveDtls (hw : Assembled w) (d : Datagram) : Intact (receiveDtls p w d) := by
  obtain ⟨t, hdtls, ht⟩ := hw.dtls
  obtain ⟨ssl, hssl⟩ := Option.isSome_iff_exists.mp ht
  simp only [receiveDtls, hdtls]
  split
  · cases hdata : t.processDataFromPeer p.ssl (window d.data 0 d.len) with
    | error f =>
        simp only [DtlsTransport.processDataFromPeer, hssl] at hdata
        split at hdata <;> cases hdata
    | ok next =>
        refine intact_dtls hw ?_ _
        rw [DtlsTransport.processDataFromPeer_fed hdata]
        exact ht
  · exact hw

theorem intact_dtlsTimer (hw : Assembled w) : Intact (step p w .dtlsTimerTimeout) := by
  obtain ⟨t, hdtls, ht⟩ := hw.dtls
  obtain ⟨ssl, hssl⟩ := Option.isSome_iff_exists.mp ht
  simp only [step, hdtls]
  cases htimer : t.onTimerTimeout p.ssl with
  | error f =>
      simp only [DtlsTransport.onTimerTimeout, hssl] at htimer
      split at htimer
      · cases htimer
      · split at htimer <;> cases htimer
  | ok next =>
      refine intact_dtls hw ?_ _
      rw [DtlsTransport.onTimerTimeout_fed htimer]
      exact ht

/-- The faults of the media stream are its own. -/
theorem mediaStream_faults {m : MediaStream} {keys : List UInt32} (hm : MediaStream.Inv keys m)
    (e : MediaStream.Event) : m.step p.rtpTimestamp e ≠ .error .nullComponent := by
  intro hfault
  rcases MediaStream.step_spec p.rtpTimestamp hm e with
    ⟨-, _, _, hok, -⟩ | ⟨-, f, herr, hf⟩ | ⟨-, herr⟩
  · rw [hok] at hfault
    cases hfault
  · rw [herr] at hfault
    cases hfault
    rcases hf with hf | hf <;> cases hf
  · rw [herr] at hfault
    cases hfault

theorem intact_callMediaStream (hw : Assembled w) (hmedia : MediaOk w)
    (hsome : w.mediaStream.isSome = true) (e : MediaStream.Event) :
    Intact (callMediaStream p w fun m => m.step p.rtpTimestamp e) := by
  obtain ⟨m, hm⟩ := Option.isSome_iff_exists.mp hsome
  obtain ⟨keys, hinv⟩ := hmedia m hm
  have hown := mediaStream_faults (p := p) hinv e
  simp only [callMediaStream, hm]
  cases hcall : m.step p.rtpTimestamp e with
  | error f =>
      rw [hcall] at hown
      exact fun h => hown (congrArg Except.error h)
  | ok next =>
      refine intact_onEach (fun _ o hv => intact_onMediaOutput hv o) ?_ _
      exact ⟨hw.iceLite, hw.dtls, hw.send, hw.recv⟩

theorem callMediaStream_missing (hnone : w.mediaStream = none)
    (call : MediaStream → Except Fault (MediaStream × List MediaOutput)) :
    callMediaStream p w call = .error .nullComponent := by
  simp only [callMediaStream, hnone]

theorem intact_receiveRtcp (hw : Assembled w) (hmedia : MediaOk w)
    (hsome : w.mediaStream.isSome = true) (d : Datagram) (clock : Nat → Nat → UInt64) :
    Intact (receiveRtcp p w d clock) := by
  obtain ⟨session, hsession⟩ := Option.isSome_iff_exists.mp hw.recv
  simp only [receiveRtcp, hsession]
  generalize session.unprotectRtcp p.srtp d.data d.len 0 = r
  have hw' : Assembled { w with recvSrtpSession := some r.session } :=
    ⟨hw.iceLite, hw.dtls, hw.send, rfl⟩
  have hmedia' : MediaOk { w with recvSrtpSession := some r.session } := hmedia
  exact intact_callMediaStream hw' hmedia' hsome (.receiveRctp clock r.data r.outLen)

theorem receiveRtcp_missing (hw : Assembled w) (hnone : w.mediaStream = none) (d : Datagram)
    (clock : Nat → Nat → UInt64) : receiveRtcp p w d clock = .error .nullComponent := by
  obtain ⟨session, hsession⟩ := Option.isSome_iff_exists.mp hw.recv
  simp only [receiveRtcp, hsession, callMediaStream, hnone]

end Handlers

/-! ## Events -/

/-- The events whose handlers use the media stream. -/
def UsesMediaStream : Event → Prop
  | .udpSocketDataReceive d _ => kindOf d = .rtcp
  | .incomingH264Packet _ _ _ | .incomingOpusPacket _ _ _ | .rtcpTimerTimeout _ _ => True
  | _ => False

/-- Media packets are posted once the connection is established, and the
timer for sender reports is one of the media stream. -/
def Enabled (w : WebrtcTransport Ctx Ssl) : Event → Prop
  | .incomingH264Packet _ _ _ | .incomingOpusPacket _ _ _ => w.connectionEstablished = true
  | .rtcpTimerTimeout _ _ => w.mediaStream.isSome = true
  | _ => True

section Events

variable {e : Event}

theorem step_intact (hw : Assembled w) (hmedia : MediaOk w)
    (huses : UsesMediaStream e → w.mediaStream.isSome = true) : Intact (step p w e) := by
  cases e with
  | createAnswer rtpBuf => exact ⟨hw.iceLite, hw.dtls, hw.send, hw.recv⟩
  | udpSocketError => exact hw
  | mediaSourceEnd => exact hw
  | incomingH264Packet heap clock packet =>
      exact intact_callMediaStream hw hmedia (huses trivial) (.receiveH264Packet heap clock packet)
  | incomingOpusPacket heap clock packet =>
      exact intact_callMediaStream hw hmedia (huses trivial) (.receiveOpusPacket heap clock packet)
  | rtcpTimerTimeout buffer nowMillis =>
      exact intact_callMediaStream hw hmedia (huses trivial) (.timerTimeout buffer nowMillis)
  | dtlsTimerTimeout => exact intact_dtlsTimer hw
  | udpSocketDataReceive d clock =>
      simp only [step, onUdpSocketDataReceive]
      split
      next => exact intact_receiveStun hw d
      next => exact intact_receiveDtls hw d
      next hkind =>
        exact intact_receiveRtcp hw hmedia (huses hkind) d clock
      next => exact hw

theorem step_missing (hw : Assembled w) (huses : UsesMediaStream e)
    (hnone : w.mediaStream = none) : step p w e = .error .nullComponent := by
  cases e with
  | incomingH264Packet heap clock packet => exact callMediaStream_missing hnone _
  | incomingOpusPacket heap clock packet => exact callMediaStream_missing hnone _
  | rtcpTimerTimeout buffer nowMillis => exact callMediaStream_missing hnone _
  | udpSocketDataReceive d clock =>
      have hkind : kindOf d = .rtcp := huses
      simp only [step, onUdpSocketDataReceive, hkind]
      exact receiveRtcp_missing hw hnone d clock
  | createAnswer rtpBuf => cases huses
  | udpSocketError => cases huses
  | mediaSourceEnd => cases huses
  | dtlsTimerTimeout => cases huses

/-- An enabled event finds every component exactly when it finds the media
stream, if it uses it. -/
theorem step_finds_iff (hw : Assembled w) (hmedia : MediaOk w) :
    step p w e ≠ .error .nullComponent ↔ (UsesMediaStream e → w.mediaStream.isSome = true) := by
  constructor
  · intro hfinds huses
    cases hm : w.mediaStream with
    | none => exact absurd (step_missing hw huses hm) hfinds
    | some m => rfl
  · intro huses hfault
    have hintact := step_intact (p := p) hw hmedia huses
    rw [hfault] at hintact
    exact hintact rfl

end Events

/-! ## Runs -/

/-- `CreateAnswer` has run. -/
def AnswerCreated (h : List (Event × List TransportOutput)) : Prop :=
  ∃ rtpBuf out, (.createAnswer rtpBuf, out) ∈ h

section Runs

variable {iceLite : IceLite} {dtls : DtlsTransport Ssl} {h264 h264Rtx opus : Int}
  {remoteSetup : String} {protectBuffer : Memory} {h : List (Event × List TransportOutput)}

theorem assembled_started (hssl : dtls.ssl.isSome = true) :
    Assembled (started iceLite dtls h264 h264Rtx opus remoteSetup protectBuffer :
      WebrtcTransport Ctx Ssl) :=
  ⟨rfl, ⟨dtls, rfl, hssl⟩, rfl, rfl⟩

theorem answerCreated_snoc {e : Event} {out : List TransportOutput} :
    AnswerCreated (h ++ [(e, out)]) ↔ AnswerCreated h ∨ ∃ rtpBuf, e = .createAnswer rtpBuf := by
  constructor
  · rintro ⟨rtpBuf, out', hmem⟩
    rcases List.mem_append.mp hmem with hmem | hmem
    · exact Or.inl ⟨rtpBuf, out', hmem⟩
    · cases List.mem_singleton.mp hmem
      exact Or.inr ⟨rtpBuf, rfl⟩
  · rintro (⟨rtpBuf, out', hmem⟩ | ⟨rtpBuf, rfl⟩)
    · exact ⟨rtpBuf, out', List.mem_append_left _ hmem⟩
    · exact ⟨rtpBuf, out, List.mem_append_right _ List.mem_cons_self⟩

theorem run_assembled {C : WebrtcTransport Ctx Ssl → Event → Prop} {w₀ : WebrtcTransport Ctx Ssl}
    (hw₀ : Assembled w₀) (hnone : w₀.mediaStream = none) (hr : Run (step p) C w₀ h w) :
    Assembled w ∧ (w.mediaStream.isSome = true ↔ AnswerCreated h) := by
  induction hr with
  | nil =>
      refine ⟨hw₀, iff_of_false ?_ ?_⟩
      · rw [hnone]
        exact Bool.false_ne_true
      · rintro ⟨rtpBuf, out, hmem⟩
        cases hmem
  | @snoc h w w' e out hr he hs ih =>
      obtain ⟨hw, hanswer⟩ := ih
      refine ⟨?_, by rw [step_mediaStream_isSome hs, answerCreated_snoc, hanswer]⟩
      have huses : UsesMediaStream e → w.mediaStream.isSome = true := by
        rw [← step_finds_iff (p := p) hw (run_mediaOk hnone hr), hs]
        exact fun hfault => by cases hfault
      have hintact := step_intact (p := p) hw (run_mediaOk hnone hr) huses
      rw [hs] at hintact
      exact hintact

end Runs

/-- After every run from `Start` on, the next event finds every component
that its handler uses exactly when `CreateAnswer` has run before an event
that uses the media stream. -/
theorem finds_components_iff {iceLite : IceLite} {dtls : DtlsTransport Ssl}
    {h264 h264Rtx opus : Int} {remoteSetup : String} {protectBuffer : Memory}
    {h : List (Event × List TransportOutput)} (hssl : dtls.ssl.isSome = true)
    (hr : Run (step p) Enabled
      (started iceLite dtls h264 h264Rtx opus remoteSetup protectBuffer) h w)
    (e : Event) :
    step p w e ≠ .error .nullComponent ↔ (UsesMediaStream e → AnswerCreated h) := by
  obtain ⟨hw, hanswer⟩ := run_assembled (assembled_started hssl) rfl hr
  rw [step_finds_iff hw (run_mediaOk rfl hr), hanswer]

/-! A NACK in clear text, after and before the answer. -/

section Samples

theorem sampleAnswer_run : Run (step (samplePlatform announced)) Enabled sampleTransport
    [(.createAnswer fun _ => 0, [])] (sampleTransport.createMediaStream fun _ => 0) :=
  .snoc .nil trivial rfl

theorem finds_components_iff_answered :
    Enabled (sampleTransport.createMediaStream fun _ => 0) (receive forgedNack) ∧
      step (samplePlatform announced) (sampleTransport.createMediaStream fun _ => 0)
        (receive forgedNack) ≠ .error .nullComponent :=
  ⟨trivial, (finds_components_iff rfl sampleAnswer_run (receive forgedNack)).mpr
    fun _ => ⟨_, _, List.mem_singleton.mpr rfl⟩⟩

/-- Before the answer the datagram finds no media stream. -/
theorem rtcp_before_answer :
    ¬ ∀ (h : List (Event × List TransportOutput)) (w : WebrtcTransport Unit Bool) (e : Event),
      Run (step (samplePlatform announced)) Enabled sampleTransport h w → Enabled w e →
      step (samplePlatform announced) w e ≠ .error .nullComponent := by
  intro hall
  have hw : Assembled sampleTransport := assembled_started rfl
  have hkind : UsesMediaStream (receive forgedNack) := by
    show kindOf forgedNack = .rtcp
    decide
  exact hall [] sampleTransport (receive forgedNack) .nil trivial (step_missing hw hkind rfl)

end Samples

end WebrtcTransport

end WebrtcServer
