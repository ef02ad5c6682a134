/-
# `DtlsRetransmit` — no timeout of DTLS is forgotten

When a flight of the handshake is lost, OpenSSL sends it again if
`DTLSv1_handle_timeout` is called in time.  `SetTimeout` asks for the time
and arms the timer; the handler of the timer calls OpenSSL, and
`SetTimeout` again.  Between the two the timer is armed, or its handler is
in the loop, until OpenSSL is called for another reason.

The runs are infinite; the loop and the clock are treated fairly.
-/
import WebrtcServer.DtlsTimer
import WebrtcServer.Lib.Liveness

namespace WebrtcServer

open Lib

namespace TimedTransport

open WebrtcTransport (handshakesStarted)

variable {Ctx Ssl Cert : Type} {p : Platform Ctx Ssl Cert}

/-! ## Who calls OpenSSL -/

/-- The handler of the transport that the next turn runs. -/
def next (s : TimedTransport Ctx Ssl) : Option WebrtcTransport.Event :=
  match s.loop.ready with
  | .task e :: _ => some e
  | .expired n :: _ => if s.timer = some n then some .dtlsTimerTimeout else none
  | .cancelled _ :: _ | [] => none

/-- The next handler starts DTLS, gives it data, or is that of its timer. -/
def Drives (p : Platform Ctx Ssl Cert) (s : TimedTransport Ctx Ssl) : Prop :=
  ∃ e, s.next = some e ∧ (0 < handshakesStarted p s.transport e ∨
    setsTimeout p s.transport e = true ∨ e = .dtlsTimerTimeout)

/-- How often a handler calls `SetTimeout`. -/
def asked (p : Platform Ctx Ssl Cert) (w : WebrtcTransport Ctx Ssl)
    (e : WebrtcTransport.Event) : Nat :=
  infoCalls p w e + if setsTimeout p w e then 1 else 0

/-- The next handler comes to `DTLSv1_get_timeout`, and there is a timeout to
wait for.  `Start` asks again behind the new timer, and that is the answer
that counts. -/
def Asks (p : Platform Ctx Ssl Cert) (s : TimedTransport Ctx Ssl) (found : Nat → Bool) : Prop :=
  ∃ e, s.next = some e ∧
    ((0 < handshakesStarted p s.transport e ∧ found (infoCalls p s.transport e) = true) ∨
      (¬ 0 < handshakesStarted p s.transport e ∧ s.timer.isSome = true ∧
        ∃ i < asked p s.transport e, found i = true))

/-- The timer is armed, or its handler is ready. -/
def WaitsOn (s : TimedTransport Ctx Ssl) (n : Nat) : Prop :=
  s.timer = some n ∧ (n ∈ s.loop.armed ∨ .expired n ∈ s.loop.ready)

def IsTurn : Event → Prop
  | .turn _ => True
  | .arrive _ | .expire _ => False

def IsExpiry : Event → Prop
  | .expire _ => True
  | .arrive _ | .turn _ => False

/-- The loop does not come past its oldest handler: that faults. -/
def Halted (p : Platform Ctx Ssl Cert) (s : TimedTransport Ctx Ssl) : Prop :=
  s.loop.ready ≠ [] ∧ ¬ Execution.Enabled (step p) IsTurn s

section Steps

variable {s s' : TimedTransport Ctx Ssl} {e : Event} {out : List TransportOutput} {n : Nat}

/-- A turn is the next handler of the transport, or runs none. -/
theorem turn_next {found : Nat → Bool} (h : step p s (.turn found) = .ok (s', out)) :
    ∃ y rest, s.loop.ready = y :: rest ∧
      ((∃ e, s.next = some e ∧ handle p (s.past rest) e found = .ok (s', out)) ∨
        (s.next = none ∧ (∀ n, y ≠ .expired n) ∧ s' = s.past rest)) := by
  simp only [step] at h
  split at h
  · cases h
  next e rest hready =>
    exact ⟨_, rest, hready, Or.inl ⟨e, by simp only [next, hready], h⟩⟩
  next t rest hready =>
    cases h
    exact ⟨_, rest, hready, Or.inr ⟨by simp only [next, hready], (fun n heq => by cases heq), rfl⟩⟩
  next n rest hready =>
    split at h
    next htimer =>
      refine ⟨_, rest, hready, Or.inl ⟨_, ?_, h⟩⟩
      simp only [next, hready, if_pos htimer]
    · cases h

theorem waitsOn_setTimeout (htimer : s.timer = some n) : WaitsOn (s.setTimeout true) n := by
  simp only [TimedTransport.setTimeout, htimer]
  exact ⟨rfl, Or.inl (Reactor.mem_armed_asyncWait.mpr (Or.inr rfl))⟩

theorem WaitsOn.setTimeout (h : WaitsOn s n) (found : Bool) : WaitsOn (s.setTimeout found) n := by
  cases found with
  | true => exact waitsOn_setTimeout h.1
  | false => exact h

/-- One answer is enough. -/
theorem waitsOn_setTimeouts {found : Nat → Bool} {k : Nat} (htimer : s.timer = some n)
    (hfound : ∃ i < k, found i = true) : WaitsOn (s.setTimeouts found k) n := by
  induction k with
  | zero =>
      obtain ⟨i, hi, -⟩ := hfound
      exact absurd hi (Nat.not_lt_zero i)
  | succ k ih =>
      obtain ⟨i, hi, htrue⟩ := hfound
      rcases Nat.lt_succ_iff_lt_or_eq.mp hi with hlt | rfl
      · exact (ih ⟨i, hlt, htrue⟩).setTimeout (found k)
      · show WaitsOn ((s.setTimeouts found i).setTimeout (found i)) n
        rw [htrue]
        exact waitsOn_setTimeout ((rearms_setTimeouts s found i).timer.trans htimer)

/-- What OpenSSL asks for is armed. -/
theorem waitsOn_of_handle {e : WebrtcTransport.Event} {found : Nat → Bool}
    (hfound : (0 < handshakesStarted p s.transport e ∧ found (infoCalls p s.transport e) = true) ∨
      (¬ 0 < handshakesStarted p s.transport e ∧ s.timer.isSome = true ∧
        ∃ i < asked p s.transport e, found i = true))
    (h : handle p s e found = .ok (s', out)) : ∃ n, WaitsOn s' n := by
  simp only [handle] at h
  split at h
  · cases h
  · rcases hfound with ⟨hstarts, htrue⟩ | ⟨hnot, htimer, hsome⟩
    · rw [if_pos hstarts, htrue] at h
      cases h
      exact ⟨_, waitsOn_setTimeout rfl⟩
    · obtain ⟨n, hn⟩ := Option.isSome_iff_exists.mp htimer
      rw [if_neg hnot] at h
      refine ⟨n, ?_⟩
      split at h
      next hsets =>
        cases h
        rw [asked, if_pos hsets] at hsome
        exact waitsOn_setTimeouts (k := infoCalls p s.transport e + 1) hn hsome
      next hsets =>
        cases h
        rw [asked, if_neg hsets, Nat.add_zero] at hsome
        exact waitsOn_setTimeouts hn hsome

theorem waitsOn_of_asks {found : Nat → Bool} (hasks : Asks p s found)
    (h : step p s (.turn found) = .ok (s', out)) : ∃ n, WaitsOn s' n := by
  obtain ⟨e, hnext, hfound⟩ := hasks
  obtain ⟨y, rest, -, ⟨e', hnext', hhandle⟩ | ⟨hnone, -⟩⟩ := turn_next h
  · rw [hnext] at hnext'
    cases hnext'
    exact waitsOn_of_handle (s := s.past rest) hfound hhandle
  · rw [hnext] at hnone
    cases hnone

/-- The info callback runs inside these calls of OpenSSL only. -/
theorem infoCalls_eq_zero {w : WebrtcTransport Ctx Ssl} {e : WebrtcTransport.Event}
    (hstarts : ¬ 0 < handshakesStarted p w e) (hsets : ¬ setsTimeout p w e = true)
    (htimeout : e ≠ .dtlsTimerTimeout) : infoCalls p w e = 0 := by
  have hnone : sslCall p w e = none := by
    cases e with
    | udpSocketDataReceive d clock =>
        simp only [sslCall]
        cases w.dtlsTransport with
        | none => rfl
        | some dtls => exact (if_neg hsets).trans (if_neg hstarts)
    | dtlsTimerTimeout => exact absurd rfl htimeout
    | createAnswer | udpSocketError | mediaSourceEnd | incomingH264Packet | incomingOpusPacket
      | rtcpTimerTimeout => rfl
  rw [infoCalls, hnone]

/-- Until OpenSSL is called, the wait is not lost. -/
theorem waitsOn_step (hs : Tidy s) (hw : WaitsOn s n) (hidle : IsTurn e → ¬ Drives p s)
    (h : step p s e = .ok (s', out)) : WaitsOn s' n := by
  obtain ⟨htimer, hwaits⟩ := hw
  cases e with
  | arrive e =>
      cases h
      exact ⟨htimer, hwaits.imp_right Reactor.expired_mem_post.mpr⟩
  | expire u =>
      simp only [step] at h
      split at h
      next hu =>
        cases h
        have heq : n = u := Option.some.inj (htimer.symm.trans (hs.armed u hu))
        exact ⟨htimer, Or.inr (Reactor.expired_mem_expire.mpr (Or.inr heq))⟩
      · cases h
  | turn found =>
      have hnot := hidle trivial
      obtain ⟨y, rest, hready, ⟨e, hnext, hhandle⟩ | ⟨-, hy, rfl⟩⟩ := turn_next h
      · have hquiet : ¬ 0 < handshakesStarted p s.transport e ∧ ¬ setsTimeout p s.transport e ∧
            e ≠ .dtlsTimerTimeout := by
          refine ⟨fun h => ?_, fun h => ?_, fun h => ?_⟩
          · exact hnot ⟨e, hnext, Or.inl h⟩
          · exact hnot ⟨e, hnext, Or.inr (Or.inl h)⟩
          · exact hnot ⟨e, hnext, Or.inr (Or.inr h)⟩
        -- the handler is no timer's, so that of this timer stays
        have hkept : .expired n ∈ s.loop.ready → .expired n ∈ rest := by
          intro hmem
          rw [hready] at hmem
          rcases List.mem_cons.mp hmem with rfl | hmem
          · simp only [next, hready, if_pos htimer] at hnext
            exact absurd (Option.some.inj hnext).symm hquiet.2.2
          · exact hmem
        simp only [handle] at hhandle
        split at hhandle
        · cases hhandle
        · split at hhandle
          next hstarts => exact absurd hstarts hquiet.1
          · split at hhandle
            next hsets => exact absurd hsets hquiet.2.1
            · have hcalls : infoCalls p (s.past rest).transport e = 0 :=
                infoCalls_eq_zero hquiet.1 hquiet.2.1 hquiet.2.2
              rw [hcalls] at hhandle
              cases hhandle
              exact ⟨htimer, hwaits.imp_right hkept⟩
      · refine ⟨htimer, hwaits.imp_right fun hmem => ?_⟩
        rw [hready] at hmem
        rcases List.mem_cons.mp hmem with heq | hmem
        · exact absurd heq.symm (hy n)
        · exact hmem

end Steps

/-! ## Fair executions -/

section Executions

variable {x : Execution (step (p := p)) fun _ _ => True} {n m k t : Nat}

/-- An execution in which OpenSSL is called no more, and the loop goes on. -/
structure Forgotten (x : Execution (step p) fun _ _ => True) (t n : Nat) : Prop where
  tidy : ∀ m ≥ n, Tidy (x.state m)
  waits : ∀ m ≥ n, WaitsOn (x.state m) t
  undriven : ∀ m ≥ n, x.Acts IsTurn m → ¬ Drives p (x.state m)
  goes : ∀ m ≥ n, ¬ Halted p (x.state m)

/-- The clock gets the handler of the timer ready. -/
theorem Forgotten.expires (h : Forgotten x t n) (hexpire : x.Fair IsExpiry) :
    ∃ m ≥ n, .expired t ∈ (x.state m).loop.ready := by
  by_contra hnever
  have harmed : ∀ m ≥ n, t ∈ (x.state m).loop.armed := by
    intro m hm
    exact (h.waits m hm).2.resolve_right fun hready => hnever ⟨m, hm, hready⟩
  obtain ⟨m, hm, e, hevent, he⟩ := hexpire n fun m hm => by
    refine ⟨.expire t, { x.state m with loop := (x.state m).loop.expire t }, [], trivial, ?_⟩
    simp only [step, if_pos (harmed m hm)]
  obtain ⟨-, out, hok⟩ := x.goes m e hevent
  cases e with
  | arrive | turn => exact he
  | expire u =>
      simp only [step] at hok
      split at hok
      next hu =>
        have heq : t = u :=
          Option.some.inj ((h.waits m hm).1.symm.trans ((h.tidy m hm).armed u hu))
        have hstate := (Prod.mk.inj (Except.ok.inj hok)).1
        refine hnever ⟨m + 1, Nat.le_succ_of_le hm, ?_⟩
        rw [← hstate]
        exact Reactor.expired_mem_expire.mpr (Or.inr heq)
      · cases hok

/-- A handler in the loop stays there until the next turn. -/
theorem ready_kept {y : Handler Nat WebrtcTransport.Event} (hle : n ≤ m)
    (hnone : ∀ j, n ≤ j → j < m → ¬ x.Acts IsTurn j) (hk : (x.state n).loop.ready[k]? = some y) :
    (x.state m).loop.ready[k]? = some y := by
  refine x.kept (I := fun s => s.loop.ready[k]? = some y) ?_ hle hk
  intro j hj hjm e out hevent _ hok hready
  have hran : e.ran = 0 := by
    cases e with
    | arrive | expire => rfl
    | turn found => exact absurd ⟨_, hevent, trivial⟩ (hnone j hj hjm)
  have hnext := ready_step hready (hran ▸ Nat.zero_le k) hok
  rwa [hran, Nat.sub_zero] at hnext

/-- The loop takes a turn while there is a handler in it. -/
theorem Forgotten.turns (h : Forgotten x t n) (hturn : x.Fair IsTurn) (hm : m ≥ n)
    {y : Handler Nat WebrtcTransport.Event} (hk : (x.state m).loop.ready[k]? = some y) :
    ∃ j ≥ m, x.Acts IsTurn j := by
  by_contra hnone
  obtain ⟨j, hj, hacts⟩ := hturn m fun j hj => by
    by_contra hstuck
    have hready := ready_kept (x := x) hj (fun i hi _ hacts => hnone ⟨i, hi, hacts⟩) hk
    refine h.goes j (hm.trans hj) ⟨fun hnil => ?_, hstuck⟩
    rw [hnil] at hready
    cases hready
  exact hnone ⟨j, hj, hacts⟩

/-- The loop comes to the handler of the timer. -/
theorem Forgotten.absurd (h : Forgotten x t n) (hturn : x.Fair IsTurn) (hm : m ≥ n)
    (hk : (x.state m).loop.ready[k]? = some (.expired t)) : False := by
  induction k generalizing m with
  | zero =>
      obtain ⟨j, hj, hacts, hfirst⟩ := Execution.next_act (h.turns hturn hm hk)
      have hready := ready_kept (x := x) hj hfirst hk
      refine h.undriven j (hm.trans hj) hacts ⟨.dtlsTimerTimeout, ?_, Or.inr (Or.inr rfl)⟩
      cases hloop : (x.state j).loop.ready with
      | nil =>
          rw [hloop] at hready
          cases hready
      | cons y rest =>
          rw [hloop] at hready
          cases hready
          simp only [next, hloop, if_pos (h.waits j (hm.trans hj)).1]
  | succ k ih =>
      obtain ⟨j, hj, ⟨e, hevent, he⟩, hfirst⟩ := Execution.next_act (h.turns hturn hm hk)
      have hready := ready_kept (x := x) hj hfirst hk
      obtain ⟨-, out, hok⟩ := x.goes j e hevent
      cases e with
      | arrive | expire => exact he
      | turn found =>
          have hup := ready_step (e := .turn found) hready (Nat.succ_le_succ (Nat.zero_le k)) hok
          exact ih ((hm.trans hj).trans (Nat.le_succ j)) hup

theorem tidy_always {transport : WebrtcTransport Ctx Ssl} (hinit : x.state 0 = idleLoop transport)
    (m : Nat) : Tidy (x.state m) := by
  refine x.kept (I := Tidy) (fun _ _ _ _ _ _ _ hok ht => (step_stale ht hok).1) (Nat.zero_le m) ?_
  rw [hinit]
  exact (run_stale (p := p) .nil).1

/-- When OpenSSL, asked by `SetTimeout`, has a timeout to wait for, it is
called again some time: by the handler of the timer, or before it because
data comes or DTLS is started anew.  Else a handler of the loop faults. -/
theorem timeout_served (hturn : x.Fair IsTurn) (hexpire : x.Fair IsExpiry)
    {transport : WebrtcTransport Ctx Ssl} (hinit : x.state 0 = idleLoop transport)
    {found : Nat → Bool} (hasks : Asks p (x.state n) found)
    (hevent : x.event n = some (.turn found)) :
    ∃ m > n, (x.Acts IsTurn m ∧ Drives p (x.state m)) ∨ Halted p (x.state m) := by
  by_contra hnever
  have hidle : ∀ m ≥ n + 1, ¬ (x.Acts IsTurn m ∧ Drives p (x.state m)) :=
    fun m hm h => hnever ⟨m, hm, Or.inl h⟩
  obtain ⟨-, out, hok⟩ := x.goes n _ hevent
  obtain ⟨t, hwaits⟩ := waitsOn_of_asks hasks hok
  have hforgotten : Forgotten x t (n + 1) := by
    refine ⟨fun m _ => tidy_always hinit m, fun m hm => ?_, fun m hm hacts hdrives => ?_, ?_⟩
    · refine x.kept (I := fun s => WaitsOn s t) ?_ hm hwaits
      intro j hj _ e out hevent' _ hok' hw
      exact waitsOn_step (tidy_always hinit j) hw
        (fun he hdrives => hidle j hj ⟨⟨e, hevent', he⟩, hdrives⟩) hok'
    · exact hidle m hm ⟨hacts, hdrives⟩
    · exact fun m hm hhalted => hnever ⟨m, hm, Or.inr hhalted⟩
  obtain ⟨m, hm, hmem⟩ := hforgotten.expires hexpire
  obtain ⟨k, hk⟩ := List.mem_iff_getElem?.mp hmem
  exact hforgotten.absurd hturn hm hk

end Executions

/-! The handshake is started, and nothing comes but the time of its timer. -/

section Samples

open WebrtcTransport (nomination)

def lostFlight : List Event :=
  [.arrive (nomination IceLite.bareNomination), .turn never,
    .arrive (nomination IceLite.bareNomination), .turn always, .expire 0, .turn never]

theorem lostFlight_run : ∃ h t, runAll (step announcedPlatform) sampleLoop lostFlight = .ok (h, t) ∧
    t.loop.ready = [] ∧ t.loop.armed = [] := ⟨_, _, rfl, rfl, rfl⟩

theorem timeout_served_lostFlight : ∃ x : Execution (step announcedPlatform) fun _ _ => True,
    x.state 0 = sampleLoop ∧ x.event 3 = some (.turn always) ∧
      ∃ m > 3, (x.Acts IsTurn m ∧ Drives announcedPlatform (x.state m)) ∨
        Halted announcedPlatform (x.state m) := by
  obtain ⟨h, t, hall, hready, harmed⟩ := lostFlight_run
  have hturn : (Execution.ofRun hall).Fair IsTurn := by
    refine Execution.ofRun_fair hall ?_
    rintro ⟨e, t', out, he, hok⟩
    cases e with
    | arrive | expire => exact he
    | turn found =>
        simp only [step, hready] at hok
        cases hok
  have hexpire : (Execution.ofRun hall).Fair IsExpiry := by
    refine Execution.ofRun_fair hall ?_
    rintro ⟨e, t', out, he, hok⟩
    cases e with
    | arrive | turn => exact he
    | expire n =>
        rw [step, harmed, if_neg List.not_mem_nil] at hok
        cases hok
  refine ⟨Execution.ofRun hall, rfl, rfl, ?_⟩
  exact timeout_served hturn hexpire rfl ⟨nomination IceLite.bareNomination, rfl,
    Or.inl ⟨Nat.one_pos, rfl⟩⟩ rfl

end Samples

end TimedTransport

end WebrtcServer
