/-
# `DtlsRestart` — how often the DTLS handshake is started

ICE reports a completed connection whenever the favoured candidate changes,
and `OnIceConnectionCompleted` starts DTLS every time: `Start` sets the role
of the connection, begins a handshake and makes a new timer, also where a
handshake has been started or finished long ago.  `dtls_ready_` would tell,
but only `OnUdpSocketDataReceive` looks at it.

`Watched` counts the handshakes beside the transport.  The count stays at
one as long as no nomination comes when `dtls_ready_` is set.
-/
import WebrtcServer.DtlsAuth
import WebrtcServer.TransportFrame

namespace WebrtcServer

open Lib

namespace WebrtcTransport

/-- The transport with the number of handshakes that it has started. -/
structure Watched (Ctx Ssl : Type) where
  transport : WebrtcTransport Ctx Ssl
  handshakes : Nat

/-- `timer_`, by the number of the object.  `Start` makes one behind each call
of `SSL_do_handshake`, in place of the one before, and nothing else makes one. -/
def Watched.timer {Ctx Ssl : Type} (v : Watched Ctx Ssl) : Option Nat :=
  if v.handshakes = 0 then none else some v.handshakes

section Counting

variable {Ctx Ssl Cert : Type} (p : Platform Ctx Ssl Cert)

/-- The handshakes that a step starts: `Start` is called for every completed
connection that the agent reports, and returns true where it has called
`SSL_do_handshake`. -/
def handshakesStarted (w : WebrtcTransport Ctx Ssl) : Event → Nat
  | .udpSocketDataReceive d _ =>
      match kindOf d, w.iceLite, w.dtlsTransport with
      | .stun, some ice, some t =>
          if (t.start p.ssl w.remoteSetup).1 then
            (ice.processStunMessage p.hmac d).2.count .iceConnectionCompleted
          else 0
      | _, _, _ => 0
  | _ => 0

def stepWatched (v : Watched Ctx Ssl) (e : Event) :
    Except Fault (Watched Ctx Ssl × List TransportOutput) :=
  match step p v.transport e with
  | .error f => .error f
  | .ok (w, out) => .ok (⟨w, v.handshakes + handshakesStarted p v.transport e⟩, out)

/-- The condition on a step: a nomination that moves the favoured candidate
comes before DTLS was started. -/
def Calm (v : Watched Ctx Ssl) (e : Event) : Prop :=
  Completes p v.transport e → v.transport.dtlsReady = false

/-- No second handshake is started; and once DTLS is started, STUN messages
leave DTLS, its timer and the SRTP sessions alone, while a nomination moves
the selected endpoint. -/
structure Settled (v : Watched Ctx Ssl) (e : Event) (v' : Watched Ctx Ssl) : Prop where
  once : v'.handshakes ≤ 1
  keeps : ∀ d clock, e = .udpSocketDataReceive d clock → kindOf d = .stun →
    v.transport.dtlsReady = true →
      v'.transport.dtlsTransport = v.transport.dtlsTransport ∧ v'.timer = v.timer ∧
        v'.transport.sendSrtpSession = v.transport.sendSrtpSession ∧
        v'.transport.recvSrtpSession = v.transport.recvSrtpSession ∧
        v'.transport.connectionEstablished = v.transport.connectionEstablished
  selects : ∀ d clock ice, e = .udpSocketDataReceive d clock → kindOf d = .stun →
    v.transport.dtlsReady = true → v.transport.iceLite = some ice → ice.Nominates p.hmac d →
      v'.transport.selectedEndpoint = d.remoteEp

end Counting

section Steps

variable {Ctx Ssl Cert : Type} {p : Platform Ctx Ssl Cert} {v v' : Watched Ctx Ssl} {e : Event}
  {out : List TransportOutput}

theorem handshakesStarted_of_not_completes {w : WebrtcTransport Ctx Ssl}
    (h : ¬ Completes p w e) : handshakesStarted p w e = 0 := by
  unfold handshakesStarted
  split
  next d clock =>
    split
    next ice t hkind hice hdtls =>
      split
      · have hnot : ¬ ice.Nominates p.hmac d :=
          fun hnom => h ⟨d, clock, ice, rfl, hkind, hice, hnom⟩
        rcases IceLite.processStunMessage_out p.hmac ice d with hout | ⟨response, hout⟩
        · simp [hout]
        · simp [hout, hnot]
      · rfl
    · rfl
  · rfl

theorem handshakesStarted_of_completes {w : WebrtcTransport Ctx Ssl} {t : DtlsTransport Ssl}
    (h : Completes p w e) (hdtls : w.dtlsTransport = some t) :
    handshakesStarted p w e = if (t.start p.ssl w.remoteSetup).1 then 1 else 0 := by
  obtain ⟨d, clock, ice, rfl, hkind, hice, hnom⟩ := h
  have hout := IceLite.processStunMessage_accepted hnom.1
  simp [handshakesStarted, hkind, hice, hdtls, hout, hnom]

theorem stepWatched_ok (h : stepWatched p v e = .ok (v', out)) :
    step p v.transport e = .ok (v'.transport, out) ∧
      v'.handshakes = v.handshakes + handshakesStarted p v.transport e := by
  simp only [stepWatched] at h
  split at h
  · cases h
  next w out' hstep =>
    cases h
    exact ⟨hstep, rfl⟩

/-- The flag counts the handshakes, and once it is set DTLS can be started
again. -/
structure Inv (p : Platform Ctx Ssl Cert) (v : Watched Ctx Ssl) : Prop where
  count : v.handshakes = if v.transport.dtlsReady then 1 else 0
  startable : v.transport.dtlsReady = true → ∃ t, v.transport.dtlsTransport = some t ∧
    (t.start p.ssl v.transport.remoteSetup).1 = true

theorem Inv.step (hi : Inv p v) (hcalm : Calm p v e) (h : stepWatched p v e = .ok (v', out)) :
    Inv p v' := by
  obtain ⟨hstep, hcount⟩ := stepWatched_ok h
  have hmove := step_agents hstep
  cases hmove.dtls with
  | start hcompletes hstarts =>
      obtain ⟨t, hdtls, hsetup, hdtls', hready⟩ := hstarts
      rw [hcalm hcompletes, Bool.false_or] at hready
      refine ⟨?_, ?_⟩
      · rw [hcount, hi.count, hcalm hcompletes, handshakesStarted_of_completes hcompletes hdtls,
          hready]
        simp
      · intro hset
        rw [hready] at hset
        refine ⟨_, hdtls', ?_⟩
        rw [hsetup]
        have hcan := DtlsTransport.start_iff.mp hset
        exact DtlsTransport.start_iff.mpr ⟨hcan.1, DtlsTransport.start_ssl p.ssl hcan.2 _⟩
  | keep hnot hdtls hready =>
      refine ⟨?_, ?_⟩
      · rw [hcount, hi.count, handshakesStarted_of_not_completes hnot, hready, Nat.add_zero]
      · rw [hready, hdtls, hmove.remoteSetup]
        exact hi.startable
  | feed t t' hnot hdtls hdtls' hfed hready =>
      refine ⟨?_, ?_⟩
      · rw [hcount, hi.count, handshakesStarted_of_not_completes hnot, hready, Nat.add_zero]
      · intro hset
        rw [hready] at hset
        obtain ⟨u, hu, hstart⟩ := hi.startable hset
        obtain rfl := Option.some.inj (hdtls.symm.trans hu)
        refine ⟨t', hdtls', ?_⟩
        rw [hmove.remoteSetup]
        have hstart' := DtlsTransport.start_iff.mp hstart
        exact DtlsTransport.start_iff.mpr ⟨hstart'.1, hfed.trans hstart'.2⟩

/-- A STUN message that completes nothing leaves DTLS and SRTP alone. -/
theorem keeps_of_not_completes {d : Datagram} {clock : Nat → Nat → UInt64}
    (hnot : ¬ Completes p v.transport (.udpSocketDataReceive d clock)) (hkind : kindOf d = .stun)
    (h : stepWatched p v (.udpSocketDataReceive d clock) = .ok (v', out)) :
    ∃ ice, v'.transport = { v.transport with iceLite := ice } := by
  obtain ⟨hstep, -⟩ := stepWatched_ok h
  simp only [WebrtcTransport.step, onUdpSocketDataReceive, hkind] at hstep
  cases hice : v.transport.iceLite with
  | none => simp only [receiveStun, hice, reduceCtorEq] at hstep
  | some ice =>
      have hquiet : ¬ ice.Nominates p.hmac d :=
        fun hnom => hnot ⟨d, clock, ice, rfl, hkind, hice, hnom⟩
      obtain ⟨out', hok⟩ := receiveStun_quiet hice hquiet
      rw [hok] at hstep
      exact ⟨_, (Prod.mk.inj (Except.ok.inj hstep)).1.symm⟩

/-- In a state with the invariant a step is as it should be exactly when it
meets the condition. -/
theorem settled_iff (hi : Inv p v) (h : stepWatched p v e = .ok (v', out)) :
    Settled p v e v' ↔ Calm p v e := by
  constructor
  · intro hsettled hcompletes
    by_contra hset
    have hready : v.transport.dtlsReady = true := by simpa using hset
    -- the second start succeeds as the first one did
    obtain ⟨t, hdtls, hstart⟩ := hi.startable hready
    have honce := hsettled.once
    rw [(stepWatched_ok h).2, hi.count, hready, handshakesStarted_of_completes hcompletes hdtls,
      hstart] at honce
    exact absurd honce (by decide)
  · intro hcalm
    have hi' := hi.step hcalm h
    refine ⟨?_, ?_, ?_⟩
    · rw [hi'.count]
      split <;> omega
    · rintro d clock rfl hkind hready
      have hnot : ¬ Completes p v.transport (.udpSocketDataReceive d clock) := by
        intro hcompletes
        rw [hcalm hcompletes] at hready
        exact Bool.false_ne_true hready
      obtain ⟨ice, heq⟩ := keeps_of_not_completes hnot hkind h
      have hsame : v'.handshakes = v.handshakes := by
        rw [(stepWatched_ok h).2, handshakesStarted_of_not_completes hnot, Nat.add_zero]
      have htimer : v'.timer = v.timer := by rw [Watched.timer, Watched.timer, hsame]
      rw [heq]
      exact ⟨rfl, htimer, rfl, rfl, rfl⟩
    · rintro d clock ice rfl hkind hready hice hnom
      rw [hcalm ⟨d, clock, ice, rfl, hkind, hice, hnom⟩] at hready
      exact absurd hready Bool.false_ne_true

end Steps

section Runs

variable {Ctx Ssl Cert : Type} (p : Platform Ctx Ssl Cert) (iceLite : IceLite)
  (dtls : DtlsTransport Ssl) (h264 rtx opus : Int) (remoteSetup : String) (protectBuffer : Memory)

/-- A transport that has just started, with no handshake yet. -/
def watchedStart : Watched Ctx Ssl :=
  ⟨started iceLite dtls h264 rtx opus remoteSetup protectBuffer, 0⟩

theorem run_watched {h : List (Event × List TransportOutput)} {v : Watched Ctx Ssl}
    (hr : Run (stepWatched p) (Calm p)
      (watchedStart iceLite dtls h264 rtx opus remoteSetup protectBuffer) h v) : Inv p v := by
  refine hr.invariant (I := fun _ v => Inv p v) ⟨rfl, ?_⟩ ?_
  · intro hready
    exact absurd hready Bool.false_ne_true
  · intro _ s e s' o hi hcalm hstep
    exact hi.step hcalm hstep

/-- As long as nominations that move the favoured candidate come before DTLS
is started, there is one handshake at most and every step is as it should
be; the first one that comes later is not. -/
theorem handshake_once {h : List (Event × List TransportOutput)} {v : Watched Ctx Ssl}
    (hr : Run (stepWatched p) (Calm p)
      (watchedStart iceLite dtls h264 rtx opus remoteSetup protectBuffer) h v) :
    v.handshakes ≤ 1 ∧
      ∀ e v' out, stepWatched p v e = .ok (v', out) → (Settled p v e v' ↔ Calm p v e) := by
  have hi := run_watched p iceLite dtls h264 rtx opus remoteSetup protectBuffer hr
  refine ⟨?_, fun e v' out hstep => settled_iff hi hstep⟩
  rw [hi.count]
  split <;> omega

end Runs

/-! ## One endpoint, and another -/

section Samples

def sampleWatched : Watched Unit Bool :=
  watchedStart IceLite.sampleAgent sampleEndpoint 102 103 111 "actpass" fun _ => 0

/-- The nomination, as it comes from another endpoint. -/
def otherNomination : Datagram :=
  { IceLite.bareNomination with remoteEp := ⟨.v4 0x0A000002, 4000⟩ }

def nomination (d : Datagram) : Event := .udpSocketDataReceive d fun _ _ => 0

theorem nominated_steps : ∃ v₁ v₂ v₃ v₄ o₁ o₂ o₃ o₄,
    stepWatched (samplePlatform announced) sampleWatched (nomination IceLite.bareNomination) =
      .ok (v₁, o₁) ∧
    stepWatched (samplePlatform announced) v₁ (nomination IceLite.bareNomination) = .ok (v₂, o₂) ∧
    stepWatched (samplePlatform announced) v₂ (nomination otherNomination) = .ok (v₃, o₃) ∧
    stepWatched (samplePlatform announced) v₃ (nomination otherNomination) = .ok (v₄, o₄) ∧
    v₁.transport.dtlsReady = false ∧ v₂.handshakes = 1 ∧ v₄.handshakes = 2 :=
  ⟨_, _, _, _, _, _, _, _, rfl, rfl, rfl, rfl, rfl, rfl, rfl⟩

/-- Two requests of one endpoint nominate it, and start one handshake. -/
theorem handshake_once_sample : ∃ h v,
    Run (stepWatched (samplePlatform announced)) (Calm (samplePlatform announced)) sampleWatched
      h v ∧ v.handshakes = 1 ∧ v.handshakes ≤ 1 := by
  obtain ⟨v₁, v₂, v₃, v₄, o₁, o₂, o₃, o₄, h₁, h₂, -, -, hready, hone, -⟩ := nominated_steps
  have hr : Run (stepWatched (samplePlatform announced)) (Calm (samplePlatform announced))
      sampleWatched _ v₂ := .snoc (.snoc .nil (fun _ => rfl) h₁) (fun _ => hready) h₂
  exact ⟨_, v₂, hr, hone, (handshake_once (samplePlatform announced) IceLite.sampleAgent
    sampleEndpoint 102 103 111 "actpass" _ hr).1⟩

/-- When another endpoint is nominated in its turn, a second handshake is
started. -/
theorem other_restarts : ∃ h v,
    Run (stepWatched (samplePlatform announced)) (fun _ _ => True) sampleWatched h v ∧
      h.map Prod.fst = [nomination IceLite.bareNomination, nomination IceLite.bareNomination,
        nomination otherNomination, nomination otherNomination] ∧
      ¬ v.handshakes ≤ 1 := by
  obtain ⟨v₁, v₂, v₃, v₄, o₁, o₂, o₃, o₄, h₁, h₂, h₃, h₄, -, -, htwo⟩ := nominated_steps
  have hr : Run (stepWatched (samplePlatform announced)) (fun _ _ => True) sampleWatched _ v₄ :=
    .snoc (.snoc (.snoc (.snoc .nil trivial h₁) trivial h₂) trivial h₃) trivial h₄
  refine ⟨_, v₄, hr, rfl, ?_⟩
  rw [htwo]
  decide

end Samples

end WebrtcTransport

end WebrtcServer
