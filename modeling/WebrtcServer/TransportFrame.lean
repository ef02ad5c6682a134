/-
# `TransportFrame` — what the handlers of the transport leave alone

A handler of `WebrtcTransport` runs the calls of one component, and a call
changes little: sending changes the SRTP session and the buffer, DTLS sets
the sessions up, and only a nomination reaches from ICE to DTLS.  The
lemmas say that once for each kind of call (`Keeps`, `Delivers`), then for
a whole handler, and last for a step (`step_handles`, `step_agents`).
-/
import WebrtcServer.WebrtcTransport

namespace WebrtcServer

open Lib

namespace DtlsTransport

variable {Ssl Cert : Type} {lib : SslLib Ssl Cert} {t t' : DtlsTransport Ssl}

/-- The endpoint has its connection as it had it before, or still has none. -/
def Fed (t t' : DtlsTransport Ssl) : Prop := t'.ssl.isSome = t.ssl.isSome

theorem processDataFromPeer_fed {data : ByteString} {out : List DtlsOutput}
    (h : t.processDataFromPeer lib data = .ok (t', out)) : Fed t t' := by
  simp only [processDataFromPeer] at h
  split at h
  · cases h
  next hssl =>
    split at h <;> cases h <;> simp [Fed, hssl]

theorem onTimerTimeout_fed {out : List DtlsOutput} (h : t.onTimerTimeout lib = .ok (t', out)) :
    Fed t t' := by
  simp only [onTimerTimeout] at h
  split at h
  · cases h
    rfl
  · split at h
    · cases h
    next hssl =>
      split at h <;> cases h <;> simp [Fed, hssl]

/-- The remote end lets this one be the client, and there is a connection. -/
def CanStart (t : DtlsTransport Ssl) (setupInSdp : String) : Prop :=
  (setupOfString setupInSdp = some .passive ∨ setupOfString setupInSdp = some .actPass) ∧
    t.ssl.isSome = true

/-- `Start` begins a handshake as the client, or it fails and leaves the
connection alone. -/
theorem start_cases (lib : SslLib Ssl Cert) (t : DtlsTransport Ssl) (setupInSdp : String) :
    (CanStart t setupInSdp ∧ (t.start lib setupInSdp).1 = true ∧
        (t.start lib setupInSdp).2.1.setup = .active ∧
        (t.start lib setupInSdp).2.1.ssl.isSome = true) ∨
      (¬ CanStart t setupInSdp ∧ (t.start lib setupInSdp).1 = false ∧
        (t.start lib setupInSdp).2.1.ssl = t.ssl) := by
  simp only [start, CanStart]
  split
  next h => simp [h]
  next h => simp [h]
  next h => simp [h]
  next setup hnot hnot' h =>
    cases hssl : t.ssl with
    | none => simp
    | some ssl =>
        cases setup with
        | active => exact absurd rfl hnot
        | unknown => exact absurd rfl hnot'
        | passive | actPass => simp [h]

/-- `Start` gets to the handshake for a remote end that lets this one be the
client, if the endpoint has its connection. -/
theorem start_iff {setupInSdp : String} :
    (t.start lib setupInSdp).1 = true ↔ CanStart t setupInSdp := by
  rcases start_cases lib t setupInSdp with ⟨hcan, hok, -⟩ | ⟨hcannot, hfail, -⟩
  · exact iff_of_true hok hcan
  · exact iff_of_false (ne_true_of_eq_false hfail) hcannot

/-- A start that succeeded is one of a client. -/
theorem start_setup {setupInSdp : String} (h : (t.start lib setupInSdp).1 = true) :
    (t.start lib setupInSdp).2.1.setup = .active := by
  rcases start_cases lib t setupInSdp with ⟨-, -, hsetup, -⟩ | ⟨-, hfail, -⟩
  · exact hsetup
  · exact absurd (h.symm.trans hfail) (by decide)

/-- A start leaves the connection there. -/
theorem start_ssl (lib : SslLib Ssl Cert) (ht : t.ssl.isSome = true) (setupInSdp : String) :
    (t.start lib setupInSdp).2.1.ssl.isSome = true := by
  rcases start_cases lib t setupInSdp with ⟨-, -, -, hssl⟩ | ⟨-, -, hsame⟩
  · exact hssl
  · rw [hsame]
    exact ht

end DtlsTransport

namespace WebrtcTransport

variable {Ctx Ssl Cert : Type} {p : Platform Ctx Ssl Cert} {w w' : WebrtcTransport Ctx Ssl}
  {out : List TransportOutput}

/-! ## Calls -/

/-- The two agents, the role of the remote end and the flag for DTLS are as
before. -/
structure Keeps (w w' : WebrtcTransport Ctx Ssl) : Prop where
  iceLite : w'.iceLite = w.iceLite
  dtlsTransport : w'.dtlsTransport = w.dtlsTransport
  remoteSetup : w'.remoteSetup = w.remoteSetup
  dtlsReady : w'.dtlsReady = w.dtlsReady

theorem Keeps.refl (w : WebrtcTransport Ctx Ssl) : Keeps w w := ⟨rfl, rfl, rfl, rfl⟩

/-- What a call of a component keeps: the media stream as well. -/
structure Delivers (w w' : WebrtcTransport Ctx Ssl) : Prop extends Keeps w w' where
  mediaStream : w'.mediaStream = w.mediaStream

theorem Delivers.refl (w : WebrtcTransport Ctx Ssl) : Delivers w w := ⟨.refl w, rfl⟩

theorem Delivers.trans {u v x : WebrtcTransport Ctx Ssl} (h : Delivers u v) (h' : Delivers v x) :
    Delivers u x :=
  ⟨⟨h'.iceLite.trans h.iceLite, h'.dtlsTransport.trans h.dtlsTransport,
    h'.remoteSetup.trans h.remoteSetup, h'.dtlsReady.trans h.dtlsReady⟩,
    h'.mediaStream.trans h.mediaStream⟩

theorem onEach_delivers {α : Type} {on : WebrtcTransport Ctx Ssl → α →
      Except Fault (WebrtcTransport Ctx Ssl × List TransportOutput)}
    (hon : ∀ v call v' out, on v call = .ok (v', out) → Delivers v v')
    {calls : List α} (h : onEach on w calls = .ok (w', out)) : Delivers w w' :=
  onEach_ok (fun v call v' out hv hcall => hv.trans (hon v call v' out hcall))
    (Delivers.refl w) h

theorem sendProtected_delivers
    {protect : SrtpSession Ctx → Memory → Nat → Nat → Nat → SrtpCall Ctx} {data : ByteString}
    (h : sendProtected protect w data = .ok (w', out)) : Delivers w w' := by
  simp only [sendProtected] at h
  split at h
  · cases h
  · split at h
    · cases h
    · cases h
      exact ⟨⟨rfl, rfl, rfl, rfl⟩, rfl⟩

theorem onMediaOutputs_delivers {outs : List MediaOutput}
    (h : onEach (onMediaOutput p) w outs = .ok (w', out)) : Delivers w w' := by
  refine onEach_delivers (fun v o v' out ho => ?_) h
  cases o with
  | rtpPacketSend data => exact sendProtected_delivers ho
  | rtcpPacketSend data => exact sendProtected_delivers ho

theorem onDtlsOutputs_delivers {outs : List DtlsOutput}
    (h : onEach (onDtlsOutput p) w outs = .ok (w', out)) : Delivers w w' := by
  refine onEach_delivers (fun v o v' out ho => ?_) h
  cases o with
  | setup suite localMasterKey remoteMasterKey =>
      simp only [onDtlsOutput, onDtlsTransportSetup] at ho
      split at ho
      · cases ho
        exact ⟨⟨rfl, rfl, rfl, rfl⟩, rfl⟩
      · cases ho
  | error | shutdown | sendData data =>
      cases ho
      exact .refl v

theorem callMediaStream_keeps
    {call : MediaStream → Except Fault (MediaStream × List MediaOutput)}
    (h : callMediaStream p w call = .ok (w', out)) : Keeps w w' := by
  simp only [callMediaStream] at h
  split at h
  · cases h
  · split at h
    · cases h
    next m' outs hcall =>
      have hkeeps := onMediaOutputs_delivers h
      exact ⟨hkeeps.iceLite, hkeeps.dtlsTransport, hkeeps.remoteSetup, hkeeps.dtlsReady⟩

/-! ## Steps -/

/-- DTLS is told to start, and the flag says whether it ever did. -/
def Starts (p : Platform Ctx Ssl Cert) (w w' : WebrtcTransport Ctx Ssl) : Prop :=
  ∃ t, w.dtlsTransport = some t ∧ w'.remoteSetup = w.remoteSetup ∧
    w'.dtlsTransport = some (t.start p.ssl w.remoteSetup).2.1 ∧
    w'.dtlsReady = (w.dtlsReady || (t.start p.ssl w.remoteSetup).1)

theorem onIceConnectionCompleted_ok (h : onIceConnectionCompleted p w = .ok (w', out)) :
    w'.iceLite = w.iceLite ∧ Starts p w w' := by
  simp only [onIceConnectionCompleted] at h
  split at h
  next ice t hice hdtls =>
    split at h
    · cases h
    next w₁ out₁ hcalls =>
      cases h
      have hkeeps := onDtlsOutputs_delivers hcalls
      by_cases hok : (t.start p.ssl w.remoteSetup).1 = true
      · rw [if_pos hok]
        exact ⟨hkeeps.iceLite, t, hdtls, hkeeps.remoteSetup, hkeeps.dtlsTransport, by simp [hok]⟩
      · rw [if_neg hok]
        exact ⟨hkeeps.iceLite, t, hdtls, hkeeps.remoteSetup, hkeeps.dtlsTransport,
          by simp [hok, hkeeps.dtlsReady]⟩
  · cases h

/-- A STUN message that completes nothing changes the agent only. -/
theorem receiveStun_quiet {d : Datagram} {ice : IceLite} (hice : w.iceLite = some ice)
    (hquiet : ¬ ice.Nominates p.hmac d) :
    ∃ out, receiveStun p w d =
      .ok ({ w with iceLite := some (ice.processStunMessage p.hmac d).1 }, out) := by
  simp only [receiveStun, hice]
  rcases IceLite.processStunMessage_out p.hmac ice d with hout | ⟨response, hout⟩
  · rw [hout]
    exact ⟨_, rfl⟩
  · rw [hout, if_neg hquiet]
    exact ⟨_, rfl⟩

/-- A STUN message that completes the connection starts DTLS, and is then
answered. -/
theorem receiveStun_nominates {d : Datagram} {ice : IceLite} (hice : w.iceLite = some ice)
    (hnom : ice.Nominates p.hmac d) (h : receiveStun p w d = .ok (w', out)) :
    w'.iceLite = some (ice.processStunMessage p.hmac d).1 ∧ Starts p w w' := by
  have hout := IceLite.processStunMessage_accepted hnom.1
  simp only [receiveStun, hice, hout, if_pos hnom, List.singleton_append, onEach, onIceOutput] at h
  cases hcompleted : onIceConnectionCompleted p
      { w with iceLite := some (ice.processStunMessage p.hmac d).1 } with
  | error e => simp only [hcompleted, reduceCtorEq] at h
  | ok next =>
      simp only [hcompleted, Except.ok.injEq, Prod.mk.injEq] at h
      obtain ⟨rfl, -⟩ := h
      exact onIceConnectionCompleted_ok hcompleted

/-- The event is a STUN message that moves the favoured candidate. -/
def Completes (p : Platform Ctx Ssl Cert) (w : WebrtcTransport Ctx Ssl) (e : Event) : Prop :=
  ∃ d clock ice, e = .udpSocketDataReceive d clock ∧ kindOf d = .stun ∧ w.iceLite = some ice ∧
    ice.Nominates p.hmac d

theorem not_completes_of_kind {d : Datagram} {clock : Nat → Nat → UInt64} (h : kindOf d ≠ .stun) :
    ¬ Completes p w (.udpSocketDataReceive d clock) := by
  rintro ⟨d', clock', ice, heq, hkind, -, -⟩
  cases heq
  exact h hkind

/-- The component that a step hands its event to, and the call there. -/
inductive Handles (p : Platform Ctx Ssl Cert) (w w' : WebrtcTransport Ctx Ssl)
    (out : List TransportOutput) : Event → Prop
  | answer (rtpBuf : Memory) : w' = w.createMediaStream rtpBuf →
      Handles p w w' out (.createAnswer rtpBuf)
  | nothing {e : Event} : ¬ Completes p w e → w' = w → Handles p w w' out e
  | media {e : Event} (session : Option (SrtpSession Ctx)) (call : MediaStream.Event) :
      ¬ Completes p w e →
      callMediaStream p { w with recvSrtpSession := session }
        (fun m => m.step p.rtpTimestamp call) = .ok (w', out) → Handles p w w' out e
  | dtls {e : Event} {t t' : DtlsTransport Ssl} {outs : List DtlsOutput} : ¬ Completes p w e →
      w.dtlsTransport = some t → t.Fed t' →
      onEach (onDtlsOutput p) { w with dtlsTransport := some t' } outs = .ok (w', out) →
      Handles p w w' out e
  | stun (d : Datagram) (clock : Nat → Nat → UInt64) : kindOf d = .stun →
      receiveStun p w d = .ok (w', out) → Handles p w w' out (.udpSocketDataReceive d clock)

theorem step_handles {e : Event} (h : step p w e = .ok (w', out)) : Handles p w w' out e := by
  cases e with
  | createAnswer rtpBuf =>
      cases h
      exact .answer rtpBuf rfl
  | udpSocketError | mediaSourceEnd =>
      cases h
      exact .nothing (by simp [Completes]) rfl
  | incomingH264Packet heap clock packet =>
      exact .media w.recvSrtpSession (.receiveH264Packet heap clock packet) (by simp [Completes]) h
  | incomingOpusPacket heap clock packet =>
      exact .media w.recvSrtpSession (.receiveOpusPacket heap clock packet) (by simp [Completes]) h
  | rtcpTimerTimeout buffer nowMillis =>
      exact .media w.recvSrtpSession (.timerTimeout buffer nowMillis) (by simp [Completes]) h
  | dtlsTimerTimeout =>
      simp only [step] at h
      split at h
      · cases h
      next t hdtls =>
        split at h
        · cases h
        next t' outs htimer =>
          exact .dtls (by simp [Completes]) hdtls (DtlsTransport.onTimerTimeout_fed htimer) h
  | udpSocketDataReceive d clock =>
      simp only [step, onUdpSocketDataReceive] at h
      split at h
      next hkind => exact .stun d clock hkind h
      next hkind =>
        have hnot : ¬ Completes p w (.udpSocketDataReceive d clock) :=
          not_completes_of_kind (by rw [hkind]; decide)
        simp only [receiveDtls] at h
        split at h
        · split at h
          · cases h
          next t hdtls =>
            split at h
            · cases h
            next t' outs hdata =>
              exact .dtls hnot hdtls (DtlsTransport.processDataFromPeer_fed hdata) h
        · cases h
          exact .nothing hnot rfl
      next hkind =>
        simp only [receiveRtcp] at h
        split at h
        · cases h
        · exact .media _ (.receiveRctp clock _ _)
            (not_completes_of_kind (by rw [hkind]; decide)) h
      next hkind =>
        cases h
        exact .nothing (not_completes_of_kind (by rw [hkind]; decide)) rfl

/-- What a step can do to the DTLS endpoint: start it, leave it alone or feed
it. -/
inductive DtlsMove (p : Platform Ctx Ssl Cert) (w w' : WebrtcTransport Ctx Ssl) (e : Event) : Prop
  | start : Completes p w e → Starts p w w' → DtlsMove p w w' e
  | keep : ¬ Completes p w e → w'.dtlsTransport = w.dtlsTransport → w'.dtlsReady = w.dtlsReady →
      DtlsMove p w w' e
  | feed (t t' : DtlsTransport Ssl) : ¬ Completes p w e → w.dtlsTransport = some t →
      w'.dtlsTransport = some t' → t.Fed t' → w'.dtlsReady = w.dtlsReady → DtlsMove p w w' e

/-- What a step does to the two agents. -/
structure AgentsMove (p : Platform Ctx Ssl Cert) (w w' : WebrtcTransport Ctx Ssl) (e : Event) :
    Prop where
  remoteSetup : w'.remoteSetup = w.remoteSetup
  iceLite : w.iceLite.isSome = true → w'.iceLite.isSome = true
  dtls : DtlsMove p w w' e

theorem AgentsMove.of_keeps {e : Event} (h : Keeps w w') (hnot : ¬ Completes p w e) :
    AgentsMove p w w' e := by
  refine ⟨h.remoteSetup, ?_, .keep hnot h.dtlsTransport h.dtlsReady⟩
  rw [h.iceLite]
  exact id

/-- The DTLS endpoint has been fed, and its calls have been taken. -/
theorem AgentsMove.of_fed {e : Event} {t t' : DtlsTransport Ssl} {outs : List DtlsOutput}
    (hdtls : w.dtlsTransport = some t) (hfed : t.Fed t')
    (h : onEach (onDtlsOutput p) { w with dtlsTransport := some t' } outs = .ok (w', out))
    (hnot : ¬ Completes p w e) : AgentsMove p w w' e := by
  have hkeeps := onDtlsOutputs_delivers h
  refine ⟨hkeeps.remoteSetup, ?_,
    .feed t t' hnot hdtls hkeeps.dtlsTransport hfed hkeeps.dtlsReady⟩
  rw [hkeeps.iceLite]
  exact id

/-- A STUN message starts DTLS if it completes the connection. -/
theorem AgentsMove.of_stun {d : Datagram} {clock : Nat → Nat → UInt64} (hkind : kindOf d = .stun)
    (h : receiveStun p w d = .ok (w', out)) :
    AgentsMove p w w' (.udpSocketDataReceive d clock) := by
  cases hice : w.iceLite with
  | none => simp only [receiveStun, hice, reduceCtorEq] at h
  | some ice =>
      by_cases hnom : ice.Nominates p.hmac d
      · obtain ⟨hice', hstarts⟩ := receiveStun_nominates hice hnom h
        have hsetup := hstarts.choose_spec.2.1
        refine ⟨hsetup, ?_, .start ⟨d, clock, ice, rfl, hkind, hice, hnom⟩ hstarts⟩
        rw [hice']
        exact fun _ => rfl
      · obtain ⟨out', hok⟩ := receiveStun_quiet hice hnom
        rw [hok] at h
        cases h
        refine ⟨rfl, fun _ => rfl, .keep ?_ rfl rfl⟩
        rintro ⟨d', clock', ice', heq, -, hice', hnom'⟩
        cases heq
        obtain rfl := Option.some.inj (hice.symm.trans hice')
        exact hnom hnom'

theorem step_agents {e : Event} (h : step p w e = .ok (w', out)) : AgentsMove p w w' e := by
  cases step_handles h with
  | answer rtpBuf hw' =>
      rw [hw']
      exact .of_keeps ⟨rfl, rfl, rfl, rfl⟩ (by simp [Completes])
  | nothing hnot hw' =>
      rw [hw']
      exact .of_keeps (.refl w) hnot
  | media session call hnot hcall =>
      have hkeeps := callMediaStream_keeps hcall
      exact .of_keeps ⟨hkeeps.iceLite, hkeeps.dtlsTransport, hkeeps.remoteSetup,
        hkeeps.dtlsReady⟩ hnot
  | dtls hnot hdtls hfed hcalls => exact .of_fed hdtls hfed hcalls hnot
  | stun d clock hkind hstun => exact .of_stun hkind hstun

end WebrtcTransport

end WebrtcServer
