/-
# `SessionKeys` — where the keys of the SRTP sessions come from

DTLS hands keys over in one place, at the end of a handshake, and they are
the exported ones for a suite that SRTP knows (`HandsExported`).  A step of
the transport that finds it unconnected and leaves it connected has made the
sending session with such a key (`step_connected`).
-/
import WebrtcServer.DtlsAuth
import WebrtcServer.TransportRun

namespace WebrtcServer

open Lib

/-! ## The keys that DTLS hands over -/

namespace DtlsTransport

variable {Ssl Cert : Type}

/-- The key is the local one in the material that OpenSSL exported, for a
suite that SRTP knows. -/
def Exported (lib : SslLib Ssl Cert) (suite : CipherSuite) (key : List UInt8) : Prop :=
  suite ≠ .none ∧ ∃ ssl material setup,
    lib.exportKeyingMaterial ssl kExporterLabel (kMaxMasterLength * 2) = some material ∧
      key = (masterKeys setup suite material).1

/-- The keys that are handed over, if any are, were exported. -/
def HandsExported (lib : SslLib Ssl Cert) (out : List DtlsOutput) : Prop :=
  ∀ suite localKey remoteKey, .setup suite localKey remoteKey ∈ out → Exported lib suite localKey

variable {lib : SslLib Ssl Cert} {t t' : DtlsTransport Ssl} {out out' : List DtlsOutput}

theorem HandsExported.append (h : HandsExported lib out) (h' : HandsExported lib out') :
    HandsExported lib (out ++ out') := by
  intro suite localKey remoteKey hmem
  rcases List.mem_append.mp hmem with hmem | hmem
  · exact h _ _ _ hmem
  · exact h' _ _ _ hmem

theorem handsExported_pending (ssl : Ssl) :
    HandsExported lib (trySendPendingData lib ssl).2 := by
  intro suite localKey remoteKey hmem
  obtain ⟨data, hdata⟩ := trySendPendingData_sends lib ssl _ hmem
  cases hdata

theorem handsExported_params (t : DtlsTransport Ssl) (ssl : Ssl) :
    HandsExported lib (t.extractSrtpParams lib ssl).2 := by
  have hnone : HandsExported lib [] := fun _ _ _ hmem => by cases hmem
  simp only [extractSrtpParams]
  split
  · exact hnone
  · split
    · exact hnone
    next hsuite =>
      split
      · exact hnone
      next material hmaterial =>
        intro suite localKey remoteKey hmem
        cases List.mem_singleton.mp hmem
        exact ⟨hsuite, ssl, material, t.setup, hmaterial, rfl⟩

theorem handsExported_onSSLInfo (t : DtlsTransport Ssl) (ssl : Ssl) (where_ : Nat) :
    HandsExported lib (t.onSSLInfo lib ssl where_).2 := by
  by_cases hdone : isHandshakeDone where_ = true
  · rw [onSSLInfo_done lib t ssl hdone]
    exact (handsExported_params t ssl).append (handsExported_pending ssl)
  · rw [onSSLInfo, if_neg hdone]
    exact handsExported_pending ssl

theorem handsExported_drive (t : DtlsTransport Ssl) (run : SslRun Ssl) :
    HandsExported lib (t.drive lib run).2.1 := by
  induction run with
  | done ssl ret => exact fun _ _ _ hmem => by cases hmem
  | info ssl where_ ret resume ih =>
      exact (handsExported_onSSLInfo t ssl where_).append (ih _)

theorem handsExported_processData {data : ByteString}
    (h : t.processDataFromPeer lib data = .ok (t', out)) : HandsExported lib out := by
  simp only [processDataFromPeer] at h
  split at h
  · cases h
  · split at h
    · cases h
      refine ((handsExported_drive t _).append (handsExported_pending _)).append ?_
      intro suite localKey remoteKey hmem
      simp at hmem
    · cases h
      exact (handsExported_drive t _).append (handsExported_pending _)

theorem handsExported_timer (h : t.onTimerTimeout lib = .ok (t', out)) :
    HandsExported lib out := by
  simp only [onTimerTimeout] at h
  split at h
  · cases h
    exact fun _ _ _ hmem => by cases hmem
  · split at h
    · cases h
    · split at h
      · cases h
        exact handsExported_drive t _
      · cases h
        exact (handsExported_drive t _).append (handsExported_pending _)

theorem handsExported_start (t : DtlsTransport Ssl) (setupInSdp : String) :
    HandsExported lib (t.start lib setupInSdp).2.2 := by
  have hnone : HandsExported lib [] := fun _ _ _ hmem => by cases hmem
  simp only [start]
  split
  · exact hnone
  · exact hnone
  · exact hnone
  · split
    · exact hnone
    · exact handsExported_drive _ _

end DtlsTransport

namespace WebrtcTransport

variable {Ctx Ssl Cert : Type} {p : Platform Ctx Ssl Cert} {w w' : WebrtcTransport Ctx Ssl}
  {out : List TransportOutput}

/-! ## The keys of the session -/

/-- The sending session was made with an exported key. -/
def KeyedBy (p : Platform Ctx Ssl Cert) (w : WebrtcTransport Ctx Ssl) : Prop :=
  ∃ send suite key, DtlsTransport.Exported p.ssl suite key ∧
    w.sendSrtpSession = some (SrtpSession.init p.srtp send false suite key).2

/-- A transport that was connected still is; one that was not has, if it is
now, the session of the handshake. -/
structure Connected (p : Platform Ctx Ssl Cert) (before : Bool) (w : WebrtcTransport Ctx Ssl) :
    Prop where
  still : before = true → w.connectionEstablished = true
  newly : before = false → w.connectionEstablished = true → KeyedBy p w

theorem connected_self (p : Platform Ctx Ssl Cert) (w : WebrtcTransport Ctx Ssl) :
    Connected p w.connectionEstablished w :=
  ⟨id, fun h h' => absurd (h.symm.trans h') (by decide)⟩

section Keys

variable {before : Bool}

/-- What the calls of a list keep is kept by all of them. -/
theorem onEach_ok_of_mem {α : Type} {on : WebrtcTransport Ctx Ssl → α →
      Except Fault (WebrtcTransport Ctx Ssl × List TransportOutput)}
    {P : WebrtcTransport Ctx Ssl → Prop} {calls : List α}
    (hon : ∀ call ∈ calls, ∀ v v' out, P v → on v call = .ok (v', out) → P v') (hw : P w)
    (h : onEach on w calls = .ok (w', out)) : P w' := by
  induction calls generalizing w out with
  | nil =>
      cases h
      exact hw
  | cons call calls ih =>
      obtain ⟨hcall, hrest⟩ := List.forall_mem_cons.mp hon
      simp only [onEach] at h
      split at h
      · cases h
      next w₁ out₁ hfirst =>
        split at h
        · cases h
        next hok =>
          cases h
          exact ih hrest (hcall w w₁ out₁ hw hfirst) hok

theorem onDtlsOutputs_connected {outs : List DtlsOutput}
    (hkeys : DtlsTransport.HandsExported p.ssl outs) (hw : Connected p before w)
    (h : onEach (onDtlsOutput p) w outs = .ok (w', out)) : Connected p before w' := by
  refine onEach_ok_of_mem (P := Connected p before) (fun o ho v v' out hv hok => ?_) hw h
  cases o with
  | setup suite localMasterKey remoteMasterKey =>
      simp only [onDtlsOutput, onDtlsTransportSetup] at hok
      split at hok
      · cases hok
        exact ⟨fun _ => rfl, fun _ _ => ⟨_, suite, localMasterKey, hkeys _ _ _ ho, rfl⟩⟩
      · cases hok
  | error | shutdown | sendData data =>
      cases hok
      exact hv

theorem onIceOutput_connected {o : IceOutput} (hw : Connected p before w)
    (h : onIceOutput p w o = .ok (w', out)) : Connected p before w' := by
  cases o with
  | iceConnectionCompleted =>
      simp only [onIceOutput, onIceConnectionCompleted] at h
      split at h
      next ice t _ _ =>
        split at h
        · cases h
        next w₁ out₁ hcalls =>
          cases h
          have hw₁ := onDtlsOutputs_connected (DtlsTransport.handsExported_start t w.remoteSetup)
            (show Connected p before { w with
              selectedEndpoint := ice.favoredCandidate
              dtlsTransport := some (t.start p.ssl w.remoteSetup).2.1 } from
              ⟨hw.still, hw.newly⟩) hcalls
          split
          · exact ⟨hw₁.still, hw₁.newly⟩
          · exact hw₁
      · cases h
  | stunMessageSend data ep | iceConnectionError =>
      cases h
      exact hw

/-- A step that is none of the media stream. -/
theorem step_connected {e : Event} (hcall : mediaCall p w e = none)
    (hok : step p w e = .ok (w', out)) : Connected p w.connectionEstablished w' := by
  have hself := connected_self p w
  cases e with
  | incomingH264Packet _ _ _ | incomingOpusPacket _ _ _ | rtcpTimerTimeout _ _ => cases hcall
  | createAnswer rtpBuf | udpSocketError | mediaSourceEnd =>
      cases hok
      exact ⟨hself.still, hself.newly⟩
  | dtlsTimerTimeout =>
      simp only [step] at hok
      split at hok
      · cases hok
      · split at hok
        · cases hok
        next htimer =>
          refine onDtlsOutputs_connected (DtlsTransport.handsExported_timer htimer) ?_ hok
          exact ⟨hself.still, hself.newly⟩
  | udpSocketDataReceive d clock =>
      simp only [step, onUdpSocketDataReceive] at hok
      split at hok
      next =>
        simp only [receiveStun] at hok
        split at hok
        · cases hok
        · refine onEach_ok (P := Connected p w.connectionEstablished)
            (fun v o v' out hv ho => onIceOutput_connected hv ho) ?_ hok
          exact ⟨hself.still, hself.newly⟩
      next =>
        simp only [receiveDtls] at hok
        split at hok
        · split at hok
          · cases hok
          · split at hok
            · cases hok
            next hdata =>
              refine onDtlsOutputs_connected (DtlsTransport.handsExported_processData hdata) ?_ hok
              exact ⟨hself.still, hself.newly⟩
        · cases hok
          exact hself
      next hkind =>
        simp only [receiveRtcp] at hok
        split at hok
        · cases hok
        next session hsession => simp [mediaCall, hkind, hsession] at hcall
      next =>
        cases hok
        exact hself

theorem sendProtected_connection
    {protect : SrtpSession Ctx → Memory → Nat → Nat → Nat → SrtpCall Ctx} {data : ByteString}
    (h : sendProtected protect w data = .ok (w', out)) :
    w'.connectionEstablished = w.connectionEstablished := by
  simp only [sendProtected] at h
  split at h
  · cases h
  · split at h
    · cases h
    · cases h
      rfl

/-- A connected transport stays connected. -/
theorem step_still {e : Event} (hok : step p w e = .ok (w', out))
    (hconn : w.connectionEstablished = true) : w'.connectionEstablished = true := by
  cases hcall : mediaCall p w e with
  | none => exact (step_connected hcall hok).still hconn
  | some call =>
      obtain ⟨session, -, hstep⟩ := step_of_mediaCall hcall
      simp only [hstep, callMediaStream] at hok
      split at hok
      · cases hok
      · split at hok
        · cases hok
        · refine onEach_ok (P := fun v => v.connectionEstablished = true) ?_ ?_ hok
          · intro v o v' out hv ho
            cases o with
            | rtpPacketSend data | rtcpPacketSend data =>
                exact (sendProtected_connection ho).trans hv
          · exact hconn

end Keys

end WebrtcTransport

end WebrtcServer
