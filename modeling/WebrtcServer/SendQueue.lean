/-
# `SendQueue` — one outstanding send, and the order of the messages

While the socket is open, the outstanding send is that of the message at
the front of `send_queue_`, which stays there until its completion.  A call
to the socket only appends, so one that `HandSend` makes before its `pop`
finds a queue that is not empty and starts no send.  What was handed to the
socket and what is queued behind the front are together what was passed to
`SendData`, in that order.  A `Close`, also one from inside the callback,
leaves the socket closing, and from then on nothing is handed over.
-/
import WebrtcServer.Lib.Runs
import WebrtcServer.UdpSocket

namespace WebrtcServer

open Lib

/-! ## One spec lemma for each operation -/

namespace UdpSocket

variable {s : UdpSocket}

/-- The messages that a call passes to `SendData`. -/
def Call.passed : Call → List UdpMessage
  | .sendData data => [data]
  | .close => []

def Call.closes : Call → Bool
  | .sendData _ => false
  | .close => true

/-- The state that a call leaves. -/
def called (s : UdpSocket) : Call → UdpSocket
  | .sendData data => s.push data
  | .close => s.close

theorem called_sendQueue (s : UdpSocket) (c : Call) :
    (s.called c).sendQueue = s.sendQueue ++ c.passed := by
  cases c with
  | sendData data => rfl
  | close => exact (List.append_nil s.sendQueue).symm

theorem called_socket (s : UdpSocket) (c : Call) : (s.called c).socket = s.socket := by
  cases c <;> rfl

theorem called_isClosing (s : UdpSocket) (c : Call) :
    (s.called c).isClosing = (s.isClosing || c.closes) := by
  cases c with
  | sendData data => exact (Bool.or_false s.isClosing).symm
  | close => exact (Bool.or_true s.isClosing).symm

theorem foldl_called_sendQueue (s : UdpSocket) (cs : List Call) :
    (cs.foldl called s).sendQueue = s.sendQueue ++ cs.flatMap Call.passed := by
  induction cs generalizing s with
  | nil => exact (List.append_nil s.sendQueue).symm
  | cons c cs ih =>
      rw [List.foldl_cons, ih, called_sendQueue, List.append_assoc, List.flatMap_cons]

theorem foldl_called_socket (s : UdpSocket) (cs : List Call) :
    (cs.foldl called s).socket = s.socket := by
  induction cs generalizing s with
  | nil => rfl
  | cons c cs ih => rw [List.foldl_cons, ih, called_socket]

theorem foldl_called_isClosing (s : UdpSocket) (cs : List Call) :
    (cs.foldl called s).isClosing = (s.isClosing || cs.any Call.closes) := by
  induction cs generalizing s with
  | nil => exact (Bool.or_false s.isClosing).symm
  | cons c cs ih => rw [List.foldl_cons, ih, called_isClosing, List.any_cons, Bool.or_assoc]

/-- The front of the queue, unless the socket is closing. -/
def toSend (s : UdpSocket) : List UdpMessage :=
  if s.isClosing then [] else s.sendQueue.take 1

theorem doSend_eq (hsock : s.socket.isSome = true) (hq : s.sendQueue ≠ []) :
    s.doSend = .ok (s, s.toSend) := by
  obtain ⟨port, hport⟩ := Option.isSome_iff_exists.mp hsock
  obtain ⟨m, rest, hqueue⟩ := List.exists_cons_of_ne_nil hq
  cases hclosing : s.isClosing with
  | true => simp only [doSend, toSend, hclosing, if_true]
  | false =>
      simp only [doSend, toSend, hclosing, hqueue, hport, Bool.false_eq_true, if_false]
      rfl

/-- A message starts a send only on an empty queue. -/
theorem sendData_eq (hsock : s.socket.isSome = true) (data : UdpMessage) :
    s.sendData data =
      .ok (s.push data, if s.sendQueue = [] then (s.push data).toSend else []) := by
  have hlen : (s.push data).sendQueue.length = 1 ↔ s.sendQueue = [] := by
    simp [push]
  have hne : (s.push data).sendQueue ≠ [] :=
    List.append_ne_nil_of_right_ne_nil _ (List.cons_ne_nil _ _)
  have hsend : (s.push data).doSend = .ok (s.push data, (s.push data).toSend) :=
    doSend_eq hsock hne
  rw [sendData, hsend]
  by_cases hq : s.sendQueue = []
  · rw [if_pos (hlen.mpr hq), if_pos hq]
  · rw [if_neg (fun h => hq (hlen.mp h)), if_neg hq]

theorem call_eq (hsock : s.socket.isSome = true) (c : Call) :
    s.call c = .ok (s.called c,
      if s.sendQueue = [] then (if s.isClosing then [] else c.passed) else []) := by
  cases c with
  | close =>
      show Except.ok (s.close, []) = _
      simp only [called, Call.passed, ite_self]
  | sendData data =>
      show s.sendData data = _
      rw [sendData_eq hsock]
      by_cases hq : s.sendQueue = []
      · simp only [called, Call.passed, toSend, push, hq, List.nil_append, if_true]
        rfl
      · simp only [called, hq, if_false]

/-- On a queue that is not empty calls only append. -/
theorem calls_eq (hsock : s.socket.isSome = true) (hq : s.sendQueue ≠ []) (cs : List Call) :
    s.calls cs = .ok (cs.foldl called s, []) := by
  induction cs generalizing s with
  | nil => rfl
  | cons c cs ih =>
      have hq' : (s.called c).sendQueue ≠ [] := by
        rw [called_sendQueue]
        exact List.append_ne_nil_of_left_ne_nil hq _
      rw [calls, call_eq hsock, if_neg hq]
      have hrest := ih (s := s.called c) (by rw [called_socket]; exact hsock) hq'
      simp only [bind, Except.bind, hrest]
      rfl

/-- The state in which `HandSend` comes to its `pop`. -/
def beforePop (s : UdpSocket) (failed : Bool) (inside : List Call) : UdpSocket :=
  if failed then inside.foldl called s else s

/-- The messages passed to `SendData` while `HandSend` runs. -/
def passedInside (failed : Bool) (inside : List Call) : List UdpMessage :=
  if failed then inside.flatMap Call.passed else []

theorem beforePop_sendQueue (s : UdpSocket) (failed : Bool) (inside : List Call) :
    (s.beforePop failed inside).sendQueue = s.sendQueue ++ passedInside failed inside := by
  cases failed with
  | true => exact foldl_called_sendQueue s inside
  | false => exact (List.append_nil s.sendQueue).symm

theorem beforePop_socket (s : UdpSocket) (failed : Bool) (inside : List Call) :
    (s.beforePop failed inside).socket = s.socket := by
  cases failed with
  | true => exact foldl_called_socket s inside
  | false => rfl

theorem beforePop_isClosing (s : UdpSocket) (failed : Bool) (inside : List Call) :
    (s.beforePop failed inside).isClosing =
      (s.isClosing || (failed && inside.any Call.closes)) := by
  cases failed with
  | true => exact foldl_called_isClosing s inside
  | false => exact (Bool.or_false s.isClosing).symm

theorem onError_eq (hsock : s.socket.isSome = true) (hq : s.sendQueue ≠ []) (failed : Bool)
    (inside : List Call) : s.onError failed inside = .ok (s.beforePop failed inside, []) := by
  cases failed with
  | true => exact calls_eq hsock hq inside
  | false => rfl

theorem sendNext_eq (hsock : s.socket.isSome = true) (hq : s.sendQueue ≠ []) :
    s.sendNext = .ok (s.pop, s.pop.toSend) := by
  rw [sendNext, if_neg (fun h => hq (List.length_eq_zero_iff.mp h))]
  by_cases hrest : s.pop.sendQueue = []
  · have hnone : s.pop.toSend = [] := by
      rw [toSend, hrest, List.take_nil, ite_self]
    rw [if_neg (by rw [hrest]; exact Nat.lt_irrefl 0), hnone]
  · rw [if_pos (List.length_pos_iff.mpr hrest)]
    exact doSend_eq hsock hrest

theorem handSend_eq (hopen : s.isClosing = false) (hsock : s.socket.isSome = true)
    (hq : s.sendQueue ≠ []) (failed : Bool) (inside : List Call) :
    s.handSend failed inside =
      .ok ((s.beforePop failed inside).pop, (s.beforePop failed inside).pop.toSend) := by
  have hne : (s.beforePop failed inside).sendQueue ≠ [] := by
    rw [beforePop_sendQueue]
    exact List.append_ne_nil_of_left_ne_nil hq _
  have hnext := sendNext_eq (by rw [beforePop_socket]; exact hsock) hne
  rw [handSend, hopen, if_neg Bool.false_ne_true, onError_eq hsock hq]
  simp only [bind, Except.bind, hnext]
  rfl

theorem handSend_closing (hclosing : s.isClosing = true) (failed : Bool) (inside : List Call) :
    s.handSend failed inside = .ok (s, []) := by
  rw [handSend, if_pos hclosing]

end UdpSocket

/-! ## Runs -/

namespace SendingSocket

/-- The messages that an event passes to `SendData`. -/
def Event.passed : Event → List UdpMessage
  | .call c => c.passed
  | .complete _ failed inside => UdpSocket.passedInside failed inside

/-- Whether `Close` is called in an event: from outside, or from the callback
of a send that failed. -/
def Event.closes : Event → Bool
  | .call c => c.closes
  | .complete _ failed inside => failed && inside.any UdpSocket.Call.closes

/-- What the events of a history passed to `SendData`, in order. -/
def passed (h : List (Event × List UdpMessage)) : List UdpMessage :=
  h.flatMap fun x => x.1.passed

theorem passed_snoc (h : List (Event × List UdpMessage)) (x : Event × List UdpMessage) :
    passed (h ++ [x]) = passed h ++ x.1.passed := by
  simp [passed]

/-- The messages of the queue that an event takes off its front. -/
def Event.completed : Event → Nat
  | .call _ => 0
  | .complete _ _ _ => 1

/-- The outstanding send is that of the front, and the messages handed over
and those behind the front are the messages passed. -/
structure InOrder (h : List (Event × List UdpMessage)) (s : SendingSocket) : Prop where
  outstanding_eq : s.outstanding = s.socket.sendQueue.take 1
  handed_append : outputs h ++ s.socket.sendQueue.drop 1 = passed h

variable {h : List (Event × List UdpMessage)} {s s' : SendingSocket} {e : Event}
  {o : List UdpMessage}

/-- What a call hands over. -/
def handedByCall (s : UdpSocket) (c : UdpSocket.Call) : List UdpMessage :=
  if s.sendQueue = [] then (if s.isClosing then [] else c.passed) else []

theorem step_call (hsock : s.socket.socket.isSome = true) (c : UdpSocket.Call) :
    s.step (.call c) =
      .ok (after s.outstanding (s.socket.called c, handedByCall s.socket c)) := by
  rw [step, UdpSocket.call_eq hsock]
  rfl

/-- While the socket is open, the send that completes is the only one, and
that of the front. -/
theorem step_complete (hopen : s.socket.isClosing = false)
    (hsock : s.socket.socket.isSome = true) (hout : s.outstanding = s.socket.sendQueue.take 1)
    {i : Nat} {failed : Bool} {inside : List UdpSocket.Call}
    (hi : i < s.outstanding.length) :
    s.step (.complete i failed inside) =
      .ok (after [] ((s.socket.beforePop failed inside).pop,
        (s.socket.beforePop failed inside).pop.toSend)) := by
  have hq : s.socket.sendQueue ≠ [] := by
    rintro hq
    rw [hout, hq] at hi
    exact Nat.not_lt_zero _ hi
  have herase : s.outstanding.eraseIdx i = [] := by
    obtain ⟨m, rest, hqueue⟩ := List.exists_cons_of_ne_nil hq
    rw [hout, hqueue] at hi ⊢
    obtain rfl : i = 0 := Nat.lt_one_iff.mp hi
    rfl
  rw [step, UdpSocket.handSend_eq hopen hsock hq, herase]
  rfl

theorem step_complete_closing (hclosing : s.socket.isClosing = true) (i : Nat) (failed : Bool)
    (inside : List UdpSocket.Call) :
    s.step (.complete i failed inside) =
      .ok (after (s.outstanding.eraseIdx i) (s.socket, [])) := by
  rw [step, UdpSocket.handSend_closing hclosing]
  rfl

theorem closing_step (hsock : s.socket.socket.isSome = true)
    (hclosing : s.socket.isClosing = true) (e : Event) :
    ∃ s', s.step e = .ok (s', []) ∧ s'.socket.isClosing = true ∧
      s'.socket.socket = s.socket.socket ∧ s'.outstanding.length ≤ s.outstanding.length := by
  cases e with
  | call c =>
      have hnone : handedByCall s.socket c = [] := by
        rw [handedByCall, hclosing, if_pos rfl, ite_self]
      refine ⟨_, step_call hsock c |>.trans (by rw [hnone]; rfl), ?_, ?_, ?_⟩
      · show (s.socket.called c).isClosing = true
        rw [UdpSocket.called_isClosing, hclosing, Bool.true_or]
      · exact UdpSocket.called_socket s.socket c
      · exact le_of_eq (congrArg List.length (List.append_nil s.outstanding))
  | complete i failed inside =>
      refine ⟨_, step_complete_closing hclosing i failed inside, hclosing, rfl, ?_⟩
      show (s.outstanding.eraseIdx i ++ []).length ≤ _
      rw [List.append_nil]
      exact List.length_eraseIdx_le s.outstanding i

/-- What a step of an open socket does. -/
structure OpenStep (s : SendingSocket) (e : Event) (s' : SendingSocket)
    (o : List UdpMessage) : Prop where
  socket : s'.socket.socket = s.socket.socket
  sendQueue : s'.socket.sendQueue = (s.socket.sendQueue ++ e.passed).drop e.completed
  outstanding : s'.outstanding = s.outstanding.drop e.completed ++ o
  isClosing : s'.socket.isClosing = e.closes
  front : s'.socket.isClosing = false → s'.outstanding = s'.socket.sendQueue.take 1
  closing : s'.socket.isClosing = true → o = []

theorem open_step (hopen : s.socket.isClosing = false) (hsock : s.socket.socket.isSome = true)
    (hout : s.outstanding = s.socket.sendQueue.take 1) (he : s.Enabled e) :
    ∃ s' o, s.step e = .ok (s', o) ∧ OpenStep s e s' o := by
  cases e with
  | call c =>
      refine ⟨_, _, step_call hsock c, UdpSocket.called_socket s.socket c,
        UdpSocket.called_sendQueue s.socket c, rfl, ?_, ?_, ?_⟩
      · show (s.socket.called c).isClosing = c.closes
        rw [UdpSocket.called_isClosing, hopen, Bool.false_or]
      · intro _
        show s.outstanding ++ handedByCall s.socket c = (s.socket.called c).sendQueue.take 1
        rw [UdpSocket.called_sendQueue, hout, handedByCall, hopen, if_neg Bool.false_ne_true]
        cases c <;> cases s.socket.sendQueue <;> rfl
      · intro hclosing
        cases c with
        | sendData data => exact absurd (hopen.symm.trans hclosing) Bool.false_ne_true
        | close =>
            show handedByCall s.socket .close = []
            rw [handedByCall, hopen, if_neg Bool.false_ne_true]
            exact ite_self _
  | complete i failed inside =>
      have hqueue : (s.socket.beforePop failed inside).pop.sendQueue =
          (s.socket.sendQueue ++ UdpSocket.passedInside failed inside).drop 1 := by
        rw [← UdpSocket.beforePop_sendQueue]
        exact List.drop_one.symm
      have hdrop : s.outstanding.drop 1 = [] := by
        rw [hout]
        exact List.drop_eq_nil_of_le (List.length_take_le 1 _)
      refine ⟨_, _, step_complete hopen hsock hout he, UdpSocket.beforePop_socket _ _ _,
        hqueue, ?_, ?_, ?_, ?_⟩
      · show [] ++ _ = s.outstanding.drop 1 ++ _
        rw [hdrop]
      · show (s.socket.beforePop failed inside).isClosing = _
        rw [UdpSocket.beforePop_isClosing, hopen, Bool.false_or]
        rfl
      · intro hopen'
        show [] ++ UdpSocket.toSend _ = _
        rw [UdpSocket.toSend, List.nil_append]
        exact if_neg (fun hc => Bool.false_ne_true (hopen'.symm.trans hc))
      · exact fun hclosing => if_pos hclosing

/-- What a step hands over comes next among the messages behind the front. -/
theorem OpenStep.handed (hs : OpenStep s e s' o) (hout : s.outstanding = s.socket.sendQueue.take 1)
    (he : s.Enabled e) (hopen' : s'.socket.isClosing = false) :
    o ++ s'.socket.sendQueue.drop 1 = s.socket.sendQueue.drop 1 ++ e.passed := by
  have hfront := hs.front hopen'
  rw [hs.outstanding, hout] at hfront
  cases e with
  | call c =>
      have hqueue : s'.socket.sendQueue = s.socket.sendQueue ++ c.passed := hs.sendQueue
      apply (List.append_right_inj (s.socket.sendQueue.take 1)).mp
      rw [← List.append_assoc, ← List.append_assoc, List.take_append_drop]
      show s.socket.sendQueue.take 1 ++ o ++ _ = s.socket.sendQueue ++ c.passed
      have hfront : s.socket.sendQueue.take 1 ++ o = s'.socket.sendQueue.take 1 := hfront
      rw [hfront, List.take_append_drop, hqueue]
  | complete i failed inside =>
      have hne : 1 ≤ s.socket.sendQueue.length := by
        have hi : i < s.outstanding.length := he
        rw [hout, List.length_take] at hi
        omega
      have hdrop : (s.socket.sendQueue.take 1).drop 1 = [] :=
        List.drop_eq_nil_of_le (List.length_take_le 1 _)
      have hfront : (s.socket.sendQueue.take 1).drop 1 ++ o = s'.socket.sendQueue.take 1 := hfront
      rw [hdrop, List.nil_append] at hfront
      rw [hfront, List.take_append_drop, hs.sendQueue]
      exact List.drop_append_of_le_length hne

/-- The invariant of the runs. -/
structure Inv (h : List (Event × List UdpMessage)) (s : SendingSocket) : Prop where
  socket : s.socket.socket.isSome = true
  one : s.outstanding.length ≤ 1
  handed : outputs h <+: passed h
  closing : s.socket.isClosing = h.any fun x => x.1.closes
  inOrder : s.socket.isClosing = false → InOrder h s

theorem any_closes_snoc (h : List (Event × List UdpMessage)) (e : Event) (o : List UdpMessage) :
    (h ++ [(e, o)]).any (fun x => x.1.closes) = (h.any (fun x => x.1.closes) || e.closes) := by
  rw [List.any_append, List.any_cons, List.any_nil, Bool.or_false]

theorem inv_step (hinv : Inv h s) (he : s.Enabled e) (hs : s.step e = .ok (s', o)) :
    Inv (h ++ [(e, o)]) s' := by
  cases hclosing : s.socket.isClosing with
  | true =>
      obtain ⟨t, ht, htc, htsock, htlen⟩ := closing_step hinv.socket hclosing e
      obtain ⟨rfl, rfl⟩ := Prod.mk.inj (Except.ok.inj (ht.symm.trans hs))
      refine ⟨by rw [htsock]; exact hinv.socket, htlen.trans hinv.one, ?_, ?_, ?_⟩
      · rw [outputs_snoc, passed_snoc, List.append_nil]
        exact hinv.handed.trans (List.prefix_append _ _)
      · rw [any_closes_snoc, ← hinv.closing, hclosing, htc, Bool.true_or]
      · exact fun hopen => absurd (hopen.symm.trans htc) Bool.false_ne_true
  | false =>
      obtain ⟨hout, happend⟩ := hinv.inOrder hclosing
      obtain ⟨t, p, ht, hstep⟩ := open_step hclosing hinv.socket hout he
      obtain ⟨rfl, rfl⟩ := Prod.mk.inj (Except.ok.inj (ht.symm.trans hs))
      have hsock : t.socket.socket.isSome = true := by
        rw [hstep.socket]
        exact hinv.socket
      have hany : t.socket.isClosing = (h ++ [(e, p)]).any fun x => x.1.closes := by
        rw [any_closes_snoc, ← hinv.closing, hclosing, hstep.isClosing, Bool.false_or]
      cases hclosing' : t.socket.isClosing with
      | true =>
          obtain rfl := hstep.closing hclosing'
          refine ⟨hsock, ?_, ?_, hany, fun hopen => absurd (hopen.symm.trans hclosing')
            Bool.false_ne_true⟩
          · rw [hstep.outstanding, List.append_nil]
            exact (List.drop_sublist _ _).length_le.trans hinv.one
          · rw [outputs_snoc, passed_snoc, List.append_nil]
            exact hinv.handed.trans (List.prefix_append _ _)
      | false =>
          have horder : InOrder (h ++ [(e, p)]) t := by
            refine ⟨hstep.front hclosing', ?_⟩
            rw [outputs_snoc, passed_snoc, ← happend, List.append_assoc, List.append_assoc]
            exact congrArg (outputs h ++ ·) (hstep.handed hout he hclosing')
          refine ⟨hsock, ?_, ?_, hany, fun _ => horder⟩
          · rw [horder.outstanding_eq]
            exact List.length_take_le 1 _
          · rw [← horder.handed_append]
            exact List.prefix_append _ _

theorem inv_run {port minPort maxPort : UInt16}
    (hr : Run step Enabled (listening port minPort maxPort) h s) : Inv h s := by
  refine hr.invariant ⟨rfl, Nat.zero_le _, List.nil_prefix, rfl, fun _ => ⟨rfl, rfl⟩⟩ ?_
  intro h s e s' o hinv he hs
  exact inv_step hinv he hs

/-- No step faults, and every one that leaves the socket closed starts no
send. -/
theorem Inv.step_total (hinv : Inv h s) (he : s.Enabled e) :
    ∃ s' o, s.step e = .ok (s', o) ∧ (s'.socket.isClosing = true → o = []) ∧
      (s.socket.isClosing = true → s'.socket.isClosing = true) ∧
      (s.socket.isClosing = false →
        s'.socket.sendQueue = (s.socket.sendQueue ++ e.passed).drop e.completed) := by
  cases hclosing : s.socket.isClosing with
  | true =>
      obtain ⟨t, ht, htc, -, -⟩ := closing_step hinv.socket hclosing e
      exact ⟨t, [], ht, fun _ => rfl, fun _ => htc, fun hopen => by cases hopen⟩
  | false =>
      obtain ⟨t, p, ht, hstep⟩ :=
        open_step hclosing hinv.socket (hinv.inOrder hclosing).outstanding_eq he
      exact ⟨t, p, ht, hstep.closing, (fun hc => by cases hc), fun _ => hstep.sendQueue⟩

/-- Nothing is handed over in a run that starts on a closing socket. -/
theorem closing_run {s₀ : SendingSocket} (hsock : s₀.socket.socket.isSome = true)
    (hclosing : s₀.socket.isClosing = true) (hr : Run step Enabled s₀ h s) : outputs h = [] := by
  have hall : outputs h = [] ∧ s.socket.isClosing = true ∧ s.socket.socket.isSome = true := by
    refine hr.invariant (I := fun h s => outputs h = [] ∧ s.socket.isClosing = true ∧
      s.socket.socket.isSome = true) ⟨rfl, hclosing, hsock⟩ ?_
    rintro h s e s' o ⟨hnone, hc, hk⟩ - hs
    obtain ⟨t, ht, htc, htsock, -⟩ := closing_step hk hc e
    obtain ⟨rfl, rfl⟩ := Prod.mk.inj (Except.ok.inj (ht.symm.trans hs))
    exact ⟨by rw [outputs_snoc, hnone, List.append_nil], htc, by rw [htsock]; exact hk⟩
  exact hall.1

/-- The event that closes the socket hands nothing over, and none after it
does. -/
theorem closed_quiet {port minPort maxPort : UInt16} {before after : List (Event × List UdpMessage)}
    (hr : Run step Enabled (listening port minPort maxPort) (before ++ (e, o) :: after) s)
    (hclose : e.closes = true) : o = [] ∧ outputs after = [] := by
  obtain ⟨t, ht, hrest⟩ := hr.cut
  obtain ⟨t', he, hs, hafter⟩ := hrest.uncons
  have hinv' : Inv (before ++ [(e, o)]) t' := inv_step (inv_run ht) he hs
  have hclosing : t'.socket.isClosing = true := by
    rw [hinv'.closing, any_closes_snoc, hclose, Bool.or_true]
  obtain ⟨u, p, hu, hquiet, -⟩ := (inv_run ht).step_total he
  obtain ⟨rfl, rfl⟩ := Prod.mk.inj (Except.ok.inj (hu.symm.trans hs))
  exact ⟨hquiet hclosing, closing_run hinv'.socket hclosing hafter⟩

/-- In every order of calls and completions: while the socket is open, the
one outstanding send is that of the front of the queue, which only its
completion takes off, and what was handed over and what is queued behind it
are what was passed, in order.  The socket is closing exactly when `Close` was
called, and from that call on no send is started. -/
theorem sends_in_order {port minPort maxPort : UInt16}
    (hr : Run step Enabled (listening port minPort maxPort) h s) :
    outputs h <+: passed h ∧ s.outstanding.length ≤ 1 ∧
    (s.socket.isClosing = true ↔ ∃ x ∈ h, x.1.closes = true) ∧
    (∀ before e o after, h = before ++ (e, o) :: after → e.closes = true →
      o = [] ∧ outputs after = []) ∧
    (s.socket.isClosing = false → s.outstanding = s.socket.sendQueue.take 1 ∧
      outputs h ++ s.socket.sendQueue.drop 1 = passed h) ∧
    ∀ e, s.Enabled e → ∃ s' o, s.step e = .ok (s', o) ∧
      (s'.socket.isClosing = true → o = []) ∧
      (s.socket.isClosing = true → s'.socket.isClosing = true) ∧
      (s.socket.isClosing = false →
        s'.socket.sendQueue = (s.socket.sendQueue ++ e.passed).drop e.completed) := by
  have hinv := inv_run hr
  refine ⟨hinv.handed, hinv.one, ?_, ?_, ?_, fun e he => hinv.step_total he⟩
  · rw [hinv.closing, List.any_eq_true]
  · rintro before e o after rfl hclose
    exact closed_quiet hr hclose
  · intro hopen
    have horder := hinv.inOrder hopen
    exact ⟨horder.outstanding_eq, horder.handed_append⟩

/-- Two messages, and a third from the callback of the first, whose send
failed; then `Close`, a fourth message, and the completion of the second
send, which hand nothing over. -/
theorem sends_in_order_callback :
    ∃ h s after t, Run step Enabled (listening 5000 0 65535) h s ∧
      passed h = [⟨[1], default⟩, ⟨[2], default⟩, ⟨[3], default⟩] ∧
      outputs h <+: passed h ∧ s.outstanding = s.socket.sendQueue.take 1 ∧
      Run step Enabled (listening 5000 0 65535) (h ++ (.call .close, []) :: after) t ∧
      passed after = [⟨[4], default⟩] ∧ outputs after = [] ∧ t.socket.isClosing = true := by
  let send (k : UInt8) : UdpSocket.Call := .sendData ⟨[k], default⟩
  have h₁ : Run step Enabled (listening 5000 0 65535) [(.call (send 1), [⟨[1], default⟩])] _ :=
    .snoc .nil trivial rfl
  have h₂ := Run.snoc h₁ (show Enabled _ (.call (send 2)) from trivial) rfl
  have h₃ := Run.snoc h₂ (show Enabled _ (.complete 0 true [send 3]) from Nat.lt_succ_self 0) rfl
  have h₄ := Run.snoc h₃ (show Enabled _ (.call .close) from trivial) rfl
  have h₅ := Run.snoc h₄ (show Enabled _ (.call (send 4)) from trivial) rfl
  have h₆ := Run.snoc h₅ (show Enabled _ (.complete 0 false []) from Nat.lt_succ_self 0) rfl
  obtain ⟨hsent, -, -, -, hopen, -⟩ := sends_in_order h₃
  obtain ⟨-, -, hclosed, hquiet, -⟩ := sends_in_order h₆
  refine ⟨_, _, [(.call (send 4), []), (.complete 0 false [], [])], _, h₃, rfl, hsent,
    (hopen rfl).1, h₆, rfl, ?_, hclosed.mpr ⟨(.call .close, []), by simp, rfl⟩⟩
  exact (hquiet [(.call (send 1), [⟨[1], default⟩]), (.call (send 2), []),
    (.complete 0 true [send 3], [⟨[2], default⟩])] (.call .close) [] _ rfl rfl).2

end SendingSocket

end WebrtcServer
