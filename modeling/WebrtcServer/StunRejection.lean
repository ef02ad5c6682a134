/-
# `StunRejection` — STUN messages that do not parse

`ProcessStunMessage` reports a message that it cannot parse as an error of
the connection, and `OnIceConnectionError` shuts the transport down.  So a
rejected message, from whatever endpoint, changes nothing in the transport,
but asks for its removal.  `Shutdown` counts down `latch_` besides, which is
not part of this state (see `ObserverLatch`).
-/
import WebrtcServer.DtlsAuth
import WebrtcServer.TransportFrame

namespace WebrtcServer

open Lib

namespace WebrtcTransport

section Rejection

variable {Ctx Ssl Cert : Type} {p : Platform Ctx Ssl Cert} {w : WebrtcTransport Ctx Ssl}
  {d : Datagram}

/-- A datagram that counts as STUN and that the parser rejects. -/
structure Rejected (p : Platform Ctx Ssl Cert) (w : WebrtcTransport Ctx Ssl) (d : Datagram) :
    Prop where
  isStun : StunMessage.isStun d.data d.len = true
  rejects : ∀ ice, w.iceLite = some ice → (IceLite.parsed p.hmac ice d).ok = false

/-- The agent is there in every state that is reached. -/
theorem run_iceLite {C : WebrtcTransport Ctx Ssl → Event → Prop} {w₀ : WebrtcTransport Ctx Ssl}
    (h₀ : w₀.iceLite.isSome = true) {h : List (Event × List TransportOutput)}
    (hr : Run (step p) C w₀ h w) : w.iceLite.isSome = true := by
  refine hr.invariant (I := fun _ w => w.iceLite.isSome = true) h₀ ?_
  intro _ s e s' o hs _ hstep
  exact (step_agents hstep).iceLite hs

/-- A rejected message leaves every part of the transport as it was and asks
the manager, once, to remove it. -/
theorem rejected_removes {iceLite : IceLite} {dtls : DtlsTransport Ssl}
    {h264 rtx opus : Int} {remoteSetup : String} {protectBuffer : Memory}
    {h : List (Event × List TransportOutput)}
    (hr : Run (step p) (fun _ _ => True)
      (started iceLite dtls h264 rtx opus remoteSetup protectBuffer) h w)
    (hrejected : Rejected p w d) (clock : Nat → Nat → UInt64) :
    step p w (.udpSocketDataReceive d clock) = .ok (w, [.removeFromManager]) := by
  obtain ⟨ice, hice⟩ := Option.isSome_iff_exists.mp (run_iceLite rfl hr)
  have hout := IceLite.processStunMessage_rejected (hrejected.rejects ice hice)
  have hkind : kindOf d = .stun := by
    simp only [kindOf, hrejected.isStun, if_true]
  simp only [step, onUdpSocketDataReceive, hkind, receiveStun, hice, hout, onEach, onIceOutput,
    List.append_nil]
  rw [← hice]

end Rejection

/-- The header of a binding request whose first attribute ends after three
bytes. -/
def brokenRequest : Datagram := IceLite.fromStranger
  [0x00, 0x01, 0x00, 0x04, 0x21, 0x12, 0xA4, 0x42, 1, 2, 3, 4, 5, 6, 7, 8, 9, 10, 11, 12,
   0x00, 0x25, 0x00]

theorem brokenRequest_rejected :
    Rejected (samplePlatform announced) sampleTransport brokenRequest := by
  refine ⟨by decide, ?_⟩
  intro ice hice
  cases hice
  decide

theorem brokenRequest_removes :
    step (samplePlatform announced) sampleTransport (.udpSocketDataReceive brokenRequest
      fun _ _ => 0) = .ok (sampleTransport, [.removeFromManager]) :=
  rejected_removes .nil brokenRequest_rejected _

/-- One datagram from anyone takes the transport away. -/
theorem stranger_removes :
    Rejected (samplePlatform announced) sampleTransport brokenRequest ∧
      ∃ w out, step (samplePlatform announced) sampleTransport
          (.udpSocketDataReceive brokenRequest fun _ _ => 0) = .ok (w, out) ∧
        .removeFromManager ∈ out :=
  ⟨brokenRequest_rejected, sampleTransport, [.removeFromManager], rfl,
    List.mem_cons_self⟩

end WebrtcTransport

end WebrtcServer
