/-
# `DtlsTimer` — timer.h, timer.cpp, and the timer of DTLS

The handler of a wait is bound to the plain pointer of its `Timer`; with an
error it looks at nothing of it.  `DtlsTransport::Start` makes a new timer
and destroys the one before, which cancels the waits that are still armed
but not the handlers that are ready.  DTLS is started again when another
candidate is nominated (see `DtlsRestart`), and then a handler of the freed
timer may still be behind it in the loop.

`SetTimeout` is called behind each call of OpenSSL, and by `CheckPending` at
the end of each info callback inside it.  What OpenSSL answers there to
`DTLSv1_get_timeout`, in order, is part of the turn.
-/
import WebrtcServer.DtlsRestart
import WebrtcServer.Lib.Reactor

namespace WebrtcServer

open Lib

/-- How often OpenSSL calls back while the endpoint drives it. -/
def DtlsTransport.infoCalls {Ssl Cert : Type} (lib : SslLib Ssl Cert) (t : DtlsTransport Ssl) :
    SslRun Ssl → Nat
  | .done _ _ => 0
  | .info ssl where_ _ resume => infoCalls lib t (resume (t.onSSLInfo lib ssl where_).1) + 1

/-- A transport on its message loop.  The timers of DTLS are numbered. -/
structure TimedTransport (Ctx Ssl : Type) where
  transport : WebrtcTransport Ctx Ssl
  /-- `timer_` -/
  timer : Option Nat
  made : Nat
  loop : Reactor Nat WebrtcTransport.Event

namespace TimedTransport

open WebrtcTransport (handshakesStarted)

variable {Ctx Ssl Cert : Type}

inductive Event where
  /-- A datagram, a packet, or another timer gets ready. -/
  | arrive (e : WebrtcTransport.Event)
  | expire (n : Nat)
  /-- The loop runs its oldest handler; `found` are the answers of OpenSSL to
  the calls of `SetTimeout`. -/
  | turn (found : Nat → Bool)

/-- Why the loop does not go on. -/
inductive Halt where
  | fault (f : Fault)
  /-- A handler reads `listener_` of a timer that is freed. -/
  | useAfterFree
  | idle

def setTimeout (s : TimedTransport Ctx Ssl) (found : Bool) : TimedTransport Ctx Ssl :=
  match found, s.timer with
  | true, some n => { s with loop := s.loop.asyncWait n }
  | _, _ => s

/-- The first calls of `SetTimeout` in a handler. -/
def setTimeouts (s : TimedTransport Ctx Ssl) (found : Nat → Bool) : Nat → TimedTransport Ctx Ssl
  | 0 => s
  | k + 1 => (s.setTimeouts found k).setTimeout (found k)

/-- `timer_.reset(new Timer(io_context_, this))` -/
def resetTimer (s : TimedTransport Ctx Ssl) : TimedTransport Ctx Ssl where
  transport := s.transport
  timer := some s.made
  made := s.made + 1
  loop := match s.timer with
    | some n => s.loop.cancel n
    | none => s.loop

/-- The call of OpenSSL that a handler makes, and the endpoint that makes it. -/
def sslCall (p : Platform Ctx Ssl Cert) (w : WebrtcTransport Ctx Ssl) :
    WebrtcTransport.Event → Option (DtlsTransport Ssl × SslRun Ssl)
  | .udpSocketDataReceive d clock =>
      match w.dtlsTransport with
      | none => none
      | some dtls =>
          if WebrtcTransport.kindOf d = .dtls && w.dtlsReady then
            dtls.ssl.map fun ssl =>
              (dtls, p.ssl.read (p.ssl.bioWrite ssl (window d.data 0 d.len)))
          else if 0 < handshakesStarted p w (.udpSocketDataReceive d clock) then
            dtls.ssl.map fun ssl =>
              ({ dtls with setup := .active, inited := true },
                p.ssl.doHandshake (p.ssl.setConnectState ssl))
          else none
  | .dtlsTimerTimeout =>
      match w.dtlsTransport with
      | none => none
      | some dtls =>
          if dtls.inited then dtls.ssl.map fun ssl => (dtls, p.ssl.handleTimeout ssl) else none
  | _ => none

/-- How often `OnSSLInfo` runs in a handler. -/
def infoCalls (p : Platform Ctx Ssl Cert) (w : WebrtcTransport Ctx Ssl)
    (e : WebrtcTransport.Event) : Nat :=
  match sslCall p w e with
  | none => 0
  | some (dtls, run) => dtls.infoCalls p.ssl run

/-- The handlers that call `SetTimeout` once more, on the timer that is
there: `ProcessDataFromPeer`, and `OnTimerTimeout` unless it returns early. -/
def setsTimeout (p : Platform Ctx Ssl Cert) (w : WebrtcTransport Ctx Ssl) :
    WebrtcTransport.Event → Bool
  | .udpSocketDataReceive d _ => WebrtcTransport.kindOf d = .dtls && w.dtlsReady
  | .dtlsTimerTimeout =>
      match w.dtlsTransport with
      | none => false
      | some dtls =>
          match dtls.ssl with
          | none => false
          | some ssl =>
              let r := dtls.drive p.ssl (p.ssl.handleTimeout ssl)
              dtls.inited && !(r.2.2 < 0 && p.ssl.timeoutFailed r.1 r.2.2)
  | _ => false

/-- A handler of the transport, with what it does to the timer.  `Start` makes
the new timer behind `SSL_do_handshake`. -/
def handle (p : Platform Ctx Ssl Cert) (s : TimedTransport Ctx Ssl) (e : WebrtcTransport.Event)
    (found : Nat → Bool) : Except Halt (TimedTransport Ctx Ssl × List TransportOutput) :=
  match WebrtcTransport.step p s.transport e with
  | .error f => .error (.fault f)
  | .ok (transport, out) =>
      let k := infoCalls p s.transport e
      let s' := { s with transport }.setTimeouts found k
      if 0 < handshakesStarted p s.transport e then .ok (s'.resetTimer.setTimeout (found k), out)
      else if setsTimeout p s.transport e then .ok (s'.setTimeout (found k), out)
      else .ok (s', out)

/-- The loop is past its oldest handler. -/
def past (s : TimedTransport Ctx Ssl) (rest : List (Handler Nat WebrtcTransport.Event)) :
    TimedTransport Ctx Ssl :=
  { s with loop.ready := rest }

def step (p : Platform Ctx Ssl Cert) (s : TimedTransport Ctx Ssl) :
    Event → Except Halt (TimedTransport Ctx Ssl × List TransportOutput)
  | .arrive e => .ok ({ s with loop := s.loop.post e }, [])
  | .expire n =>
      if n ∈ s.loop.armed then .ok ({ s with loop := s.loop.expire n }, []) else .error .idle
  | .turn found =>
      match s.loop.ready with
      | [] => .error .idle
      | .task e :: rest => handle p (s.past rest) e found
      | .cancelled _ :: rest => .ok (s.past rest, [])
      | .expired n :: rest =>
          if s.timer = some n then handle p (s.past rest) .dtlsTimerTimeout found
          else .error .useAfterFree

/-- A loop on which nothing is ready yet, and no timer made. -/
def idleLoop (transport : WebrtcTransport Ctx Ssl) : TimedTransport Ctx Ssl :=
  ⟨transport, none, 0, ⟨[], []⟩⟩

/-! ## Freed timers -/

/-- A handler of a freed timer is ready. -/
def Stale (s : TimedTransport Ctx Ssl) : Prop :=
  ∃ n, .expired n ∈ s.loop.ready ∧ s.timer ≠ some n

/-- The turn starts DTLS anew while the handler of its timer is ready. -/
def Overtakes (p : Platform Ctx Ssl Cert) (s : TimedTransport Ctx Ssl) : Event → Prop
  | .turn _ => ∃ e rest n, s.loop.ready = .task e :: rest ∧
      0 < handshakesStarted p s.transport e ∧ s.timer = some n ∧ .expired n ∈ rest
  | _ => False

/-- All numbers are those of timers that were made, only the timer in use has
a wait, and one at most. -/
structure Tidy (s : TimedTransport Ctx Ssl) : Prop where
  timer : ∀ n, s.timer = some n → n < s.made
  ready : ∀ n, .expired n ∈ s.loop.ready → n < s.made
  armed : ∀ n ∈ s.loop.armed, s.timer = some n
  single : s.loop.Single

section Steps

variable {p : Platform Ctx Ssl Cert} {s s' : TimedTransport Ctx Ssl} {e : Event}
  {out : List TransportOutput}

/-- Waits are armed and cancelled, and nothing else. -/
structure Rearms (s s' : TimedTransport Ctx Ssl) : Prop where
  timer : s'.timer = s.timer
  made : s'.made = s.made
  expired : ∀ n, .expired n ∈ s'.loop.ready ↔ .expired n ∈ s.loop.ready
  ready : s.loop.ready <+: s'.loop.ready
  tidy : Tidy s → Tidy s'

theorem Rearms.refl (s : TimedTransport Ctx Ssl) : Rearms s s :=
  ⟨rfl, rfl, fun _ => Iff.rfl, List.prefix_rfl, id⟩

theorem Rearms.trans {s'' : TimedTransport Ctx Ssl} (h : Rearms s s') (h' : Rearms s' s'') :
    Rearms s s'' where
  timer := h'.timer.trans h.timer
  made := h'.made.trans h.made
  expired n := (h'.expired n).trans (h.expired n)
  ready := h.ready.trans h'.ready
  tidy hs := h'.tidy (h.tidy hs)

theorem rearms_setTimeout (s : TimedTransport Ctx Ssl) (found : Bool) :
    Rearms s (s.setTimeout found) := by
  unfold TimedTransport.setTimeout
  split
  next n hn =>
    refine ⟨rfl, rfl, fun m => Reactor.expired_mem_asyncWait, Reactor.ready_asyncWait, ?_⟩
    intro hs
    refine ⟨hs.timer, fun m hm => hs.ready m (Reactor.expired_mem_asyncWait.mp hm), fun m hm => ?_,
      hs.single.asyncWait n⟩
    rcases Reactor.mem_armed_asyncWait.mp hm with ⟨hm, -⟩ | rfl
    · exact hs.armed m hm
    · exact hn
  · exact .refl s

theorem rearms_setTimeouts (s : TimedTransport Ctx Ssl) (found : Nat → Bool) (k : Nat) :
    Rearms s (s.setTimeouts found k) := by
  induction k with
  | zero => exact .refl s
  | succ k ih => exact ih.trans (rearms_setTimeout _ _)

theorem Tidy.resetTimer (hs : Tidy s) : Tidy s.resetTimer := by
  have hready : ∀ n, .expired n ∈ s.resetTimer.loop.ready → .expired n ∈ s.loop.ready := by
    intro n hn
    unfold TimedTransport.resetTimer at hn
    cases htimer : s.timer with
    | none => simpa only [htimer] using hn
    | some m => simpa [htimer] using hn
  refine ⟨?_, fun n hn => Nat.lt_succ_of_lt (hs.ready n (hready n hn)), ?_, ?_⟩
  · intro n hn
    cases hn
    exact Nat.lt_succ_self _
  · intro n hn
    unfold TimedTransport.resetTimer at hn
    -- no wait is left
    cases htimer : s.timer with
    | none =>
        rw [htimer] at hn
        exact absurd ((hs.armed n hn).symm.trans htimer) (by simp)
    | some m =>
        rw [htimer] at hn
        obtain ⟨hn, hne⟩ := Reactor.mem_armed_cancel.mp hn
        exact absurd (Option.some.inj ((hs.armed n hn).symm.trans htimer)) hne
  · unfold TimedTransport.resetTimer
    cases htimer : s.timer with
    | none => exact hs.single
    | some m => exact hs.single.cancel m

/-- After a reset every handler that is ready is one of a freed timer. -/
theorem stale_resetTimer (hs : Tidy s) : Stale s.resetTimer ↔ ∃ n, .expired n ∈ s.loop.ready := by
  have hready : ∀ n, .expired n ∈ s.resetTimer.loop.ready ↔ .expired n ∈ s.loop.ready := by
    intro n
    unfold TimedTransport.resetTimer
    cases htimer : s.timer with
    | none => rfl
    | some m => exact Reactor.expired_mem_cancel
  constructor
  · rintro ⟨n, hn, -⟩
    exact ⟨n, (hready n).mp hn⟩
  · rintro ⟨n, hn⟩
    refine ⟨n, (hready n).mpr hn, fun heq => ?_⟩
    have hlt := hs.ready n hn
    rw [← Option.some.inj heq] at hlt
    exact Nat.lt_irrefl _ hlt

theorem stale_congr (htimer : s'.timer = s.timer)
    (hready : ∀ n, .expired n ∈ s'.loop.ready ↔ .expired n ∈ s.loop.ready) :
    Stale s' ↔ Stale s := by
  simp only [Stale, htimer, hready]

theorem Rearms.stale (h : Rearms s s') : Stale s' ↔ Stale s := stale_congr h.timer h.expired

/-- What a handler does to the timer. -/
theorem handle_ok {e : WebrtcTransport.Event} {found : Nat → Bool} (hs : Tidy s)
    (h : handle p s e found = .ok (s', out)) :
    Tidy s' ∧ (Stale s' ↔ if 0 < handshakesStarted p s.transport e then
      ∃ n, .expired n ∈ s.loop.ready else Stale s) := by
  simp only [handle] at h
  split at h
  · cases h
  next transport _ _ =>
    have hcalls : Rearms { s with transport } _ :=
      rearms_setTimeouts { s with transport } found (infoCalls p s.transport e)
    have hs₁ : Tidy { s with transport } := ⟨hs.timer, hs.ready, hs.armed, hs.single⟩
    have hs₂ := hcalls.tidy hs₁
    split at h
    next hstarts =>
      cases h
      have hlast := rearms_setTimeout
        ({ s with transport }.setTimeouts found (infoCalls p s.transport e)).resetTimer
        (found (infoCalls p s.transport e))
      refine ⟨hlast.tidy hs₂.resetTimer, ?_⟩
      rw [if_pos hstarts, hlast.stale, stale_resetTimer hs₂]
      exact exists_congr fun n => hcalls.expired n
    next hnot =>
      have hsame : Stale { s with transport } ↔ Stale s := stale_congr rfl fun _ => Iff.rfl
      rw [if_neg hnot, ← hsame]
      split at h
      · cases h
        have hall := hcalls.trans (rearms_setTimeout _ (found (infoCalls p s.transport e)))
        exact ⟨hall.tidy hs₁, hall.stale⟩
      · cases h
        exact ⟨hs₂, hcalls.stale⟩

theorem tidy_past (hs : Tidy s) {x : Handler Nat WebrtcTransport.Event}
    {rest : List (Handler Nat WebrtcTransport.Event)} (hready : s.loop.ready = x :: rest) :
    Tidy (s.past rest) :=
  ⟨hs.timer, fun n hn => hs.ready n (hready ▸ List.mem_cons_of_mem _ hn), hs.armed, hs.single⟩

/-- A step keeps the timers in order, and it is what leaves a handler of a
freed timer behind, or one was there before. -/
theorem step_stale (hs : Tidy s) (h : step p s e = .ok (s', out)) :
    Tidy s' ∧ (Stale s' ↔ Stale s ∨ Overtakes p s e) := by
  cases e with
  | arrive e =>
      cases h
      refine ⟨⟨hs.timer, fun n hn => hs.ready n (Reactor.expired_mem_post.mp hn), hs.armed,
        hs.single⟩, ?_⟩
      rw [or_iff_left (show ¬ Overtakes p s (.arrive e) from id)]
      exact stale_congr rfl fun n => Reactor.expired_mem_post
  | expire n =>
      simp only [step] at h
      split at h
      next hn =>
        cases h
        have htimer := hs.armed n hn
        refine ⟨⟨hs.timer, fun m hm => ?_, fun m hm => hs.armed m (Reactor.mem_armed_of_expire hm),
          hs.single.expire n⟩, ?_⟩
        · rcases Reactor.expired_mem_expire.mp hm with hm | rfl
          · exact hs.ready m hm
          · exact hs.timer m htimer
        · rw [or_iff_left (show ¬ Overtakes p s (.expire n) from id)]
          constructor
          · rintro ⟨m, hm, hne⟩
            rcases Reactor.expired_mem_expire.mp hm with hm | rfl
            · exact ⟨m, hm, hne⟩
            · exact absurd htimer hne
          · rintro ⟨m, hm, hne⟩
            exact ⟨m, Reactor.expired_mem_expire.mpr (Or.inl hm), hne⟩
      · cases h
  | turn found =>
      simp only [step] at h
      split at h
      · cases h
      next e rest hready =>
        obtain ⟨hs', hstale⟩ := handle_ok (tidy_past hs hready) h
        refine ⟨hs', hstale.trans ?_⟩
        have hrest : ∀ n, .expired n ∈ s.loop.ready ↔ .expired n ∈ rest := by
          intro n
          rw [hready, List.mem_cons, or_iff_right (by simp)]
        split
        next hstarts =>
          constructor
          · rintro ⟨n, hn⟩
            by_cases htimer : s.timer = some n
            · exact Or.inr ⟨e, rest, n, hready, hstarts, htimer, hn⟩
            · exact Or.inl ⟨n, (hrest n).mpr hn, htimer⟩
          · rintro (⟨n, hn, -⟩ | ⟨e', rest', n, hready', -, -, hn⟩)
            · exact ⟨n, (hrest n).mp hn⟩
            · rw [hready] at hready'
              cases hready'
              exact ⟨n, hn⟩
        next hnot =>
          rw [or_iff_left]
          · exact exists_congr fun n => and_congr_left fun _ => (hrest n).symm
          · rintro ⟨e', rest', n, hready', hstarts, -, -⟩
            rw [hready] at hready'
            cases hready'
            exact hnot hstarts
      next t rest hready =>
        cases h
        refine ⟨tidy_past hs hready, ?_⟩
        rw [or_iff_left]
        · refine exists_congr fun n => and_congr_left fun _ => ?_
          rw [hready, List.mem_cons, or_iff_right (by simp)]
          exact Iff.rfl
        · rintro ⟨e', rest', n, hready', -⟩
          rw [hready] at hready'
          cases hready'
      next n rest hready =>
        split at h
        next htimer =>
          obtain ⟨hs', hstale⟩ := handle_ok (tidy_past hs hready) h
          refine ⟨hs', hstale.trans ?_⟩
          rw [if_neg (show ¬ 0 < handshakesStarted p _ .dtlsTimerTimeout from Nat.lt_irrefl 0),
            or_iff_left]
          · constructor
            · rintro ⟨m, hm, hne⟩
              exact ⟨m, hready ▸ List.mem_cons_of_mem _ hm, hne⟩
            · rintro ⟨m, hm, hne⟩
              rw [hready] at hm
              rcases List.mem_cons.mp hm with heq | hm
              · cases heq
                exact absurd htimer hne
              · exact ⟨m, hm, hne⟩
          · rintro ⟨e', rest', m, hready', -⟩
            rw [hready] at hready'
            cases hready'
        · cases h

/-! ## What stays behind in the loop -/

/-- The handler of a freed timer has `k` handlers before it. -/
def StaleAt (s : TimedTransport Ctx Ssl) (k : Nat) : Prop :=
  ∃ n, s.loop.ready[k]? = some (.expired n) ∧ s.timer ≠ some n

theorem stale_iff : Stale s ↔ ∃ k, StaleAt s k := by
  constructor
  · rintro ⟨n, hn, hne⟩
    obtain ⟨k, hk⟩ := List.mem_iff_getElem?.mp hn
    exact ⟨k, n, hk, hne⟩
  · rintro ⟨k, n, hk, hne⟩
    exact ⟨n, List.mem_of_getElem? hk, hne⟩

/-- The handlers that an event takes from the loop. -/
def Event.ran : Event → Nat
  | .turn _ => 1
  | .arrive _ | .expire _ => 0

theorem resetTimer_keeps (s : TimedTransport Ctx Ssl) :
    s.loop.ready <+: s.resetTimer.loop.ready := by
  unfold TimedTransport.resetTimer
  cases s.timer with
  | none => exact List.prefix_rfl
  | some n => exact Reactor.ready_cancel

/-- A handler adds to the loop, and keeps the timer or has made a new one. -/
theorem handle_keeps {e : WebrtcTransport.Event} {found : Nat → Bool}
    (h : handle p s e found = .ok (s', out)) :
    s.loop.ready <+: s'.loop.ready ∧ (s'.timer = s.timer ∨ s'.timer = some s.made) := by
  simp only [handle] at h
  split at h
  · cases h
  next transport _ _ =>
    have hcalls := rearms_setTimeouts { s with transport } found (infoCalls p s.transport e)
    split at h
    · cases h
      have hlast := rearms_setTimeout
        ({ s with transport }.setTimeouts found (infoCalls p s.transport e)).resetTimer
        (found (infoCalls p s.transport e))
      refine ⟨(hcalls.ready.trans (resetTimer_keeps _)).trans hlast.ready, Or.inr ?_⟩
      rw [hlast.timer]
      exact congrArg some hcalls.made
    · split at h
      · cases h
        have hall := hcalls.trans (rearms_setTimeout _ (found (infoCalls p s.transport e)))
        exact ⟨hall.ready, Or.inl hall.timer⟩
      · cases h
        exact ⟨hcalls.ready, Or.inl hcalls.timer⟩

theorem handle_not_free {e : WebrtcTransport.Event} {found : Nat → Bool} :
    handle p s e found ≠ .error .useAfterFree := by
  simp only [handle]
  split
  · exact fun heq => by cases heq
  · split
    · exact fun heq => by cases heq
    · split <;> exact fun heq => by cases heq

theorem step_keeps (h : step p s e = .ok (s', out)) :
    s.loop.ready.drop e.ran <+: s'.loop.ready ∧ (s'.timer = s.timer ∨ s'.timer = some s.made) := by
  cases e with
  | arrive e =>
      cases h
      exact ⟨Reactor.ready_post, Or.inl rfl⟩
  | expire n =>
      simp only [step] at h
      split at h
      · cases h
        exact ⟨Reactor.ready_expire, Or.inl rfl⟩
      · cases h
  | turn found =>
      simp only [step] at h
      split at h
      · cases h
      next e rest hready =>
        rw [hready]
        exact handle_keeps h
      next t rest hready =>
        cases h
        rw [hready]
        exact ⟨List.prefix_rfl, Or.inl rfl⟩
      next n rest hready =>
        rw [hready]
        split at h
        · exact handle_keeps h
        · cases h

/-- At its turn the handler of a freed timer reads it. -/
theorem turn_of_staleAt (hk : StaleAt s 0) (found : Nat → Bool) :
    step p s (.turn found) = .error .useAfterFree := by
  obtain ⟨n, hn, hne⟩ := hk
  cases hready : s.loop.ready with
  | nil =>
      rw [hready] at hn
      cases hn
  | cons x rest =>
      rw [hready] at hn
      cases hn
      simp only [step, hready, if_neg hne]

/-- A handler moves up in the loop with every turn. -/
theorem ready_step {k : Nat} {y : Handler Nat WebrtcTransport.Event}
    (hk : s.loop.ready[k]? = some y) (hran : e.ran ≤ k) (h : step p s e = .ok (s', out)) :
    s'.loop.ready[k - e.ran]? = some y := by
  obtain ⟨more, hmore⟩ := (step_keeps h).1
  have hdrop : (s.loop.ready.drop e.ran)[k - e.ran]? = some y := by
    rw [List.getElem?_drop, Nat.add_sub_cancel' hran, hk]
  rw [← hmore, List.getElem?_append_left (List.getElem?_eq_some_iff.mp hdrop).1, hdrop]

theorem staleAt_step {k : Nat} (hs : Tidy s) (hk : StaleAt s k) (h : step p s e = .ok (s', out)) :
    e.ran ≤ k ∧ StaleAt s' (k - e.ran) := by
  have hran : e.ran ≤ k := by
    cases e with
    | arrive _ | expire _ => exact Nat.zero_le k
    | turn found =>
        refine Nat.pos_of_ne_zero fun hzero => ?_
        rw [turn_of_staleAt (hzero ▸ hk)] at h
        cases h
  obtain ⟨n, hn, hne⟩ := hk
  refine ⟨hran, n, ready_step hn hran h, ?_⟩
  rcases (step_keeps h).2 with heq | heq
  · rw [heq]
    exact hne
  · intro hnew
    rw [heq] at hnew
    have hlt := hs.ready n (List.mem_of_getElem? hn)
    rw [← Option.some.inj hnew] at hlt
    exact Nat.lt_irrefl _ hlt

end Steps

/-! ## Runs -/

section Runs

variable {p : Platform Ctx Ssl Cert} {s₀ s t : TimedTransport Ctx Ssl}
  {h : List (Event × List TransportOutput)}

/-- DTLS was started anew while the handler of its timer was ready. -/
def Overtaken (p : Platform Ctx Ssl Cert) (s₀ : TimedTransport Ctx Ssl)
    (h : List (Event × List TransportOutput)) : Prop :=
  ∃ before x after t, h = before ++ x :: after ∧
    Run (step p) (fun _ _ => True) s₀ before t ∧ Overtakes p t x.1

/-- The handlers that the loop has run. -/
def turns (h : List (Event × List TransportOutput)) : Nat := (h.map fun x => x.1.ran).sum

@[simp] theorem turns_nil : turns [] = 0 := rfl

@[simp] theorem turns_snoc (x : Event × List TransportOutput) :
    turns (h ++ [x]) = turns h + x.1.ran := by
  simp [turns]

theorem overtaken_snoc {x : Event × List TransportOutput}
    (hr : Run (step p) (fun _ _ => True) s₀ h s) :
    Overtaken p s₀ (h ++ [x]) ↔ Overtaken p s₀ h ∨ Overtakes p s x.1 := by
  constructor
  · rintro ⟨before, y, after, t, heq, ht, hover⟩
    rcases split_concat heq with ⟨-, rfl, rfl⟩ | ⟨after', -, heq'⟩
    · rw [hr.state_unique ht]
      exact Or.inr hover
    · exact Or.inl ⟨before, y, after', t, heq', ht, hover⟩
  · rintro (⟨before, y, after, t, rfl, ht, hover⟩ | hover)
    · exact ⟨before, y, after ++ [x], t, by simp, ht, hover⟩
    · exact ⟨h, x, [], s, rfl, hr, hover⟩

theorem run_stale {transport : WebrtcTransport Ctx Ssl}
    (hr : Run (step p) (fun _ _ => True) (idleLoop transport) h s) :
    Tidy s ∧ (Stale s ↔ Overtaken p (idleLoop transport) h) := by
  induction hr with
  | nil =>
      refine ⟨⟨?_, ?_, ?_, List.nodup_nil⟩, ?_⟩
      · rintro n ⟨⟩
      · rintro n ⟨⟩
      · rintro n ⟨⟩
      · constructor
        · rintro ⟨n, ⟨⟩, -⟩
        · rintro ⟨before, x, after, t, heq, -⟩
          exact absurd heq (by simp)
  | snoc hr _ hstep ih =>
      obtain ⟨hs, hstale⟩ := step_stale ih.1 hstep
      exact ⟨hs, by rw [hstale, overtaken_snoc hr, ih.2]⟩

/-- A run from where the handler of a freed timer is ready. -/
theorem run_staleAt {k : Nat} (hs : Tidy s) (hk : StaleAt s k)
    (hr : Run (step p) (fun _ _ => True) s h t) : turns h ≤ k ∧ StaleAt t (k - turns h) := by
  have hinv : Tidy t ∧ turns h ≤ k ∧ StaleAt t (k - turns h) := by
    refine hr.invariant (I := fun h t => Tidy t ∧ turns h ≤ k ∧ StaleAt t (k - turns h))
      ⟨hs, Nat.zero_le k, hk⟩ ?_
    rintro h t e t' out ⟨ht, hle, hat⟩ - hstep
    obtain ⟨hran, hat'⟩ := staleAt_step ht hat hstep
    refine ⟨(step_stale ht hstep).1, ?_, ?_⟩
    · rw [turns_snoc]
      exact Nat.add_le_of_le_sub' hle hran
    · rw [turns_snoc, Nat.sub_add_eq]
      exact hat'
  exact hinv.2

/-- The loop reads no freed timer as long as DTLS is not started anew while
the handler of its timer is ready.  Once it is, the loop comes to that
handler: there are `k` turns at most, and the next one reads the freed timer,
whatever arrives.  Only the timer in use is armed, and it has one wait. -/
theorem freed_timer_read {transport : WebrtcTransport Ctx Ssl}
    (hr : Run (step p) (fun _ _ => True) (idleLoop transport) h s) :
    (¬ Overtaken p (idleLoop transport) h →
      ∀ found, step p s (.turn found) ≠ .error .useAfterFree) ∧
    (Overtaken p (idleLoop transport) h →
      ∃ k, ∀ h' s', Run (step p) (fun _ _ => True) s h' s' → turns h' ≤ k ∧
        (turns h' = k → ∀ found, step p s' (.turn found) = .error .useAfterFree)) ∧
    (∀ n ∈ s.loop.armed, s.timer = some n) ∧ s.loop.armed.Nodup := by
  obtain ⟨hs, hstale⟩ := run_stale hr
  refine ⟨fun hnot found hfree => ?_, fun hover => ?_, hs.armed, hs.single⟩
  · refine hnot (hstale.mp ?_)
    simp only [step] at hfree
    split at hfree
    · cases hfree
    · exact absurd hfree handle_not_free
    · cases hfree
    next n rest hready =>
      split at hfree
      · exact absurd hfree handle_not_free
      next hne => exact ⟨n, hready ▸ List.mem_cons_self, hne⟩
  · obtain ⟨k, hk⟩ := stale_iff.mp (hstale.mpr hover)
    refine ⟨k, fun h' s' hr' => ?_⟩
    obtain ⟨hle, hat⟩ := run_staleAt hs hk hr'
    refine ⟨hle, fun heq found => turn_of_staleAt ?_ found⟩
    rw [heq, Nat.sub_self] at hat
    exact hat

end Runs

/-! ## A nomination before the handler -/

section Samples

open WebrtcTransport

def announcedPlatform : Platform Unit Bool (List UInt8) := samplePlatform WebrtcTransport.announced

def sampleLoop : TimedTransport Unit Bool := idleLoop sampleWatched.transport

/-- What OpenSSL answers to `SetTimeout`. -/
def always : Nat → Bool := fun _ => true

def never : Nat → Bool := fun _ => false

/-- Another endpoint is nominated after the first, and the timer expires
before the loop gets to it. -/
def overtaking : List Event :=
  [.arrive (nomination IceLite.bareNomination), .turn never,
    .arrive (nomination IceLite.bareNomination), .turn always,
    .arrive (nomination otherNomination), .turn always,
    .arrive (nomination otherNomination), .expire 0]

theorem overtaking_steps : ∃ h s u o,
    runAll (step announcedPlatform) sampleLoop overtaking = .ok (h, s) ∧
      Overtakes announcedPlatform s (.turn always) ∧
      step announcedPlatform s (.turn always) = .ok (u, o) ∧
      step announcedPlatform u (.turn always) = .error .useAfterFree :=
  ⟨_, _, _, _, rfl, ⟨nomination otherNomination, [.expired 0], 0, rfl, Nat.one_pos, rfl, by simp⟩,
    rfl, rfl⟩

theorem freed_timer_read_overtaking : ∃ h s,
    Run (step announcedPlatform) (fun _ _ => True) sampleLoop h s ∧
      Overtaken announcedPlatform sampleLoop h ∧
      step announcedPlatform s (.turn always) = .error .useAfterFree ∧
      ∃ k, ∀ h' s', Run (step announcedPlatform) (fun _ _ => True) s h' s' →
        turns h' ≤ k := by
  obtain ⟨h, s, u, o, hall, hover, hturn, hfree⟩ := overtaking_steps
  obtain ⟨hr, -⟩ := run_of_runAll _ _ _ hall
  have hr' := hr.snoc trivial hturn
  have hovertaken := (overtaken_snoc (x := (.turn always, o)) hr).mpr (Or.inr hover)
  obtain ⟨k, hk⟩ := (freed_timer_read hr').2.1 hovertaken
  exact ⟨_, u, hr', hovertaken, hfree, k, fun h' s' hr'' => (hk h' s' hr'').1⟩

end Samples

end TimedTransport

end WebrtcServer
