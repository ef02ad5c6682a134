/-
# `IceNomination` — which endpoint the agent and the transport favour

The agent keeps the endpoints it has heard from and the one that was
nominated last; the transport keeps a copy of the second, to which it sends.
What both of them know is a function of the binding requests that were
accepted so far (`seen`, `favored`), whatever other events come in between.
A step calls `OnIceConnectionCompleted` exactly when it changes the favourite,
and a request is answered once.
-/
import WebrtcServer.Components
import WebrtcServer.StunResponse

namespace WebrtcServer

open Lib

/-! ## The requests -/

/-- What counts of an accepted binding request. -/
structure IceRequest where
  endpoint : Endpoint
  nominates : Bool

/-- The endpoint of the newest request that nominates an endpoint heard from
before it; the list has the newest request first. -/
def latestNomination : List IceRequest → Option Endpoint
  | [] => none
  | r :: older =>
      if r.nominates = true ∧ r.endpoint ∈ older.map IceRequest.endpoint then some r.endpoint
      else latestNomination older

/-- `favored_candidate_` after these requests. -/
def favored (requests : List IceRequest) : Endpoint := (latestNomination requests).getD default

/-- `valid_candidates_` after these requests. -/
def seen (requests : List IceRequest) : Finset Endpoint :=
  (requests.map IceRequest.endpoint).toFinset

namespace IceLite

variable {hmac : HmacSha1} {ice : IceLite} {d : Datagram} {requests : List IceRequest}

/-- The agent knows what these requests tell it. -/
structure Knows (ice : IceLite) (requests : List IceRequest) : Prop where
  valid : ice.validCandidates = seen requests
  favors : ice.favoredCandidate = favored requests

/-- The request that an accepted datagram is. -/
def request (hmac : HmacSha1) (ice : IceLite) (d : Datagram) : IceRequest :=
  ⟨d.remoteEp, (parsed hmac ice d).msg.hasUseCandidate⟩

/-- What an accepted request changes in the agent. -/
theorem processStunMessage_agent (h : (parsed hmac ice d).ok = true) :
    (ice.processStunMessage hmac d).1.message = ice.message ∧
      (ice.processStunMessage hmac d).1.validCandidates = insert d.remoteEp ice.validCandidates ∧
      (ice.processStunMessage hmac d).1.favoredCandidate =
        if (parsed hmac ice d).msg.hasUseCandidate = true ∧ d.remoteEp ∈ ice.validCandidates then
          d.remoteEp
        else ice.favoredCandidate := by
  simp only [processStunMessage, h, if_true]
  by_cases huse : (parsed hmac ice d).msg.hasUseCandidate = true
  · by_cases hvalid : d.remoteEp ∈ ice.validCandidates
    · rw [if_pos huse, if_pos ⟨huse, hvalid⟩, nominate, if_pos hvalid]
      exact ⟨rfl, rfl, rfl⟩
    · rw [if_pos huse, if_neg (fun hnom => hvalid hnom.2), nominate, if_neg hvalid]
      exact ⟨rfl, rfl, rfl⟩
  · rw [if_neg huse, if_neg (fun hnom => huse hnom.1)]
    exact ⟨rfl, rfl, rfl⟩

/-- An accepted request is one more that the agent knows of. -/
theorem Knows.accepted (hk : Knows ice requests) (h : (parsed hmac ice d).ok = true) :
    Knows (ice.processStunMessage hmac d).1 (request hmac ice d :: requests) := by
  obtain ⟨-, hvalid, hfavors⟩ := processStunMessage_agent h
  have hmem : d.remoteEp ∈ ice.validCandidates ↔ d.remoteEp ∈ requests.map IceRequest.endpoint := by
    rw [hk.valid, seen, List.mem_toFinset]
  refine ⟨?_, ?_⟩
  · rw [hvalid, hk.valid, seen, seen, List.map_cons, List.toFinset_cons]
    rfl
  · rw [hfavors, hk.favors, favored, favored, latestNomination]
    simp only [hmem]
    show _ = Option.getD (if (parsed hmac ice d).msg.hasUseCandidate = true ∧
      d.remoteEp ∈ requests.map IceRequest.endpoint then some d.remoteEp
      else latestNomination requests) default
    split <;> rfl

/-- The favourite changes exactly when the message nominates. -/
theorem favored_changes_iff :
    (ice.processStunMessage hmac d).1.favoredCandidate ≠ ice.favoredCandidate ↔
      ice.Nominates hmac d := by
  cases h : (parsed hmac ice d).ok with
  | false =>
      rw [processStunMessage_rejected h]
      simp [Nominates, h]
  | true =>
      obtain ⟨-, -, hfavors⟩ := processStunMessage_agent h
      simp only [hfavors, Nominates, h, true_and, ← and_assoc]
      by_cases hnom : (parsed hmac ice d).msg.hasUseCandidate = true ∧
          d.remoteEp ∈ ice.validCandidates
      · rw [if_pos hnom]
        exact ⟨fun hne => ⟨hnom, hne.symm⟩, fun hne => hne.2.symm⟩
      · rw [if_neg hnom]
        exact ⟨fun hne => absurd rfl hne, fun hne => absurd hne.1 hnom⟩

/-- A response carries the transaction id of its request. -/
theorem response_transactionId (h : (parsed hmac ice d).ok = true) :
    ((response hmac ice d).drop 8).take kStunTransactionIdLength =
      window d.data 8 kStunTransactionIdLength := by
  have hid := StunMessage.answered_transactionId h
  have htid : (answered hmac ice d).transactionId.length = 12 := by
    rw [hid, window_length]
    rfl
  have hsplit : response hmac ice d =
      window ((answered hmac ice d).createResponse hmac d.heap).2 0 8 ++
        (window ((answered hmac ice d).createResponse hmac d.heap).2 8 12 ++
          window ((answered hmac ice d).createResponse hmac d.heap).2 20 44) := by
    rw [← window_append _ 8 12 44, ← window_append _ 0 8 (12 + 44)]
    rfl
  have height := window_length ((answered hmac ice d).createResponse hmac d.heap).2 0 8
  have htwelve := window_length ((answered hmac ice d).createResponse hmac d.heap).2 8 12
  rw [hsplit, List.drop_left' height]
  show List.take 12 _ = _
  rw [List.take_left' htwelve, StunMessage.createResponse_transactionId htid d.heap, hid]

end IceLite

namespace WebrtcTransport

variable {Ctx Ssl Cert : Type} {p : Platform Ctx Ssl Cert} {w w' : WebrtcTransport Ctx Ssl}
  {out : List TransportOutput}

/-! ## The endpoint that the transport sends to -/

section Selected

theorem onEach_selected {α : Type} {on : WebrtcTransport Ctx Ssl → α →
      Except Fault (WebrtcTransport Ctx Ssl × List TransportOutput)}
    (hon : ∀ v call v' out, on v call = .ok (v', out) → v'.selectedEndpoint = v.selectedEndpoint)
    {calls : List α} (h : onEach on w calls = .ok (w', out)) :
    w'.selectedEndpoint = w.selectedEndpoint :=
  onEach_ok (P := fun v => v.selectedEndpoint = w.selectedEndpoint)
    (fun v call v' out hv hcall => (hon v call v' out hcall).trans hv) rfl h

theorem onDtlsOutput_selected {o : DtlsOutput} (h : onDtlsOutput p w o = .ok (w', out)) :
    w'.selectedEndpoint = w.selectedEndpoint := by
  cases o with
  | setup suite localMasterKey remoteMasterKey =>
      simp only [onDtlsOutput, onDtlsTransportSetup] at h
      split at h <;> cases h
      rfl
  | error | shutdown | sendData data =>
      cases h
      rfl

theorem onMediaOutput_selected {o : MediaOutput} (h : onMediaOutput p w o = .ok (w', out)) :
    w'.selectedEndpoint = w.selectedEndpoint := by
  have hsend : ∀ {protect : SrtpSession Ctx → Memory → Nat → Nat → Nat → SrtpCall Ctx}
      {data : ByteString}, sendProtected protect w data = .ok (w', out) →
        w'.selectedEndpoint = w.selectedEndpoint := by
    intro protect data h
    simp only [sendProtected] at h
    split at h
    · cases h
    · split at h <;> cases h
      rfl
  cases o with
  | rtpPacketSend data => exact hsend h
  | rtcpPacketSend data => exact hsend h

theorem callMediaStream_selected
    {call : MediaStream → Except Fault (MediaStream × List MediaOutput)}
    (h : callMediaStream p w call = .ok (w', out)) : w'.selectedEndpoint = w.selectedEndpoint := by
  simp only [callMediaStream] at h
  split at h
  · cases h
  · split at h
    · cases h
    · have hsame := onEach_selected (fun _ _ _ _ ho => onMediaOutput_selected ho) h
      exact hsame

/-- A completed connection selects the favourite of the agent. -/
theorem onIceConnectionCompleted_selects {ice : IceLite} (hice : w.iceLite = some ice)
    (h : onIceConnectionCompleted p w = .ok (w', out)) :
    w'.selectedEndpoint = ice.favoredCandidate := by
  simp only [onIceConnectionCompleted, hice] at h
  split at h
  next ice' t heq hdtls =>
    cases heq
    split at h
    · cases h
    next w₁ out₁ hcalls =>
      cases h
      have hsame := onEach_selected (fun _ _ _ _ ho => onDtlsOutput_selected ho) hcalls
      split <;> exact hsame
  · cases h

end Selected

/-! ## What a request does to the transport -/

/-- An accepted request is answered last; before that DTLS is started if the
request nominates. -/
theorem receiveStun_accepted {ice : IceLite} {d : Datagram} (hice : w.iceLite = some ice)
    (hok : (IceLite.parsed p.hmac ice d).ok = true) (h : receiveStun p w d = .ok (w', out)) :
    w'.iceLite = some (ice.processStunMessage p.hmac d).1 ∧
      (w'.selectedEndpoint = if ice.Nominates p.hmac d then
        (ice.processStunMessage p.hmac d).1.favoredCandidate else w.selectedEndpoint) ∧
      ∃ before, out = before ++ [.udpSend (IceLite.response p.hmac ice d) d.remoteEp] ∧
        (¬ ice.Nominates p.hmac d → before = []) := by
  simp only [receiveStun, hice, IceLite.processStunMessage_accepted hok] at h
  by_cases hnom : ice.Nominates p.hmac d
  · rw [if_pos hnom, List.singleton_append, onEach] at h
    simp only [onIceOutput] at h
    cases hcompleted : onIceConnectionCompleted p
        { w with iceLite := some (ice.processStunMessage p.hmac d).1 } with
    | error f => simp only [hcompleted, reduceCtorEq] at h
    | ok next =>
        simp only [hcompleted, onEach, onIceOutput, Except.ok.injEq, Prod.mk.injEq] at h
        obtain ⟨rfl, rfl⟩ := h
        rw [if_pos hnom]
        exact ⟨(onIceConnectionCompleted_ok hcompleted).1,
          onIceConnectionCompleted_selects rfl hcompleted, next.2, rfl,
          fun hnot => absurd hnom hnot⟩
  · rw [if_neg hnom, List.nil_append] at h
    simp only [onEach, onIceOutput, Except.ok.injEq, Prod.mk.injEq] at h
    obtain ⟨rfl, rfl⟩ := h
    rw [if_neg hnom]
    exact ⟨rfl, rfl, [], rfl, fun _ => rfl⟩

/-! ## Steps -/

/-- The accepted request that an event is to an agent with the credentials of
`ice`. -/
def requestOf (p : Platform Ctx Ssl Cert) (ice : IceLite) : Event → Option IceRequest
  | .udpSocketDataReceive d _ =>
      if kindOf d = .stun ∧ (IceLite.parsed p.hmac ice d).ok = true then
        some (ice.request p.hmac d)
      else none
  | _ => none

/-- The calls that the agent makes in the step for `e`. -/
def iceOutputs (p : Platform Ctx Ssl Cert) (w : WebrtcTransport Ctx Ssl) : Event → List IceOutput
  | .udpSocketDataReceive d _ =>
      match w.iceLite with
      | some ice => if kindOf d = .stun then (ice.processStunMessage p.hmac d).2 else []
      | none => []
  | _ => []

/-- A response, as it goes to the transport. -/
def responseOf : IceOutput → Option (ByteString × Endpoint)
  | .stunMessageSend data ep => some (data, ep)
  | .iceConnectionCompleted | .iceConnectionError => none

/-- The agent is there, has the credentials of `ice₀`, knows the requests, and
the transport has selected its favourite. -/
def InStep (ice₀ : IceLite) (requests : List IceRequest) (w : WebrtcTransport Ctx Ssl) : Prop :=
  ∃ ice, w.iceLite = some ice ∧ ice.message = ice₀.message ∧ ice.Knows requests ∧
    w.selectedEndpoint = ice.favoredCandidate

/-- The favourite of the agent. -/
def favoredOf (w : WebrtcTransport Ctx Ssl) : Option Endpoint :=
  w.iceLite.map IceLite.favoredCandidate

/-- A completed connection is reported when the favourite changes, and an
accepted request is answered once. -/
structure Agrees (p : Platform Ctx Ssl Cert) (ice₀ : IceLite) (w w' : WebrtcTransport Ctx Ssl)
    (e : Event) (out : List TransportOutput) : Prop where
  completed : (iceOutputs p w e).count .iceConnectionCompleted =
    if favoredOf w' ≠ favoredOf w then 1 else 0
  answered : ∀ d clock request, e = .udpSocketDataReceive d clock →
    requestOf p ice₀ e = some request → ∃ response before,
      (iceOutputs p w e).filterMap responseOf = [(response, d.remoteEp)] ∧
      out = before ++ [.udpSend response d.remoteEp] ∧
      (response.drop 8).take kStunTransactionIdLength = window d.data 8 kStunTransactionIdLength

section Steps

variable {ice₀ : IceLite} {requests : List IceRequest} {e : Event}

theorem parsed_congr {ice : IceLite} (h : ice.message = ice₀.message) (d : Datagram) :
    IceLite.parsed p.hmac ice d = IceLite.parsed p.hmac ice₀ d := by
  rw [IceLite.parsed, IceLite.parsed, h]

/-- An event that is no STUN message leaves the agent and the selected
endpoint alone. -/
theorem step_other (hother : ∀ d clock, e = .udpSocketDataReceive d clock → kindOf d ≠ .stun)
    (hs : step p w e = .ok (w', out)) :
    w'.iceLite = w.iceLite ∧ w'.selectedEndpoint = w.selectedEndpoint := by
  cases step_handles hs with
  | answer rtpBuf hw' =>
      rw [hw']
      exact ⟨rfl, rfl⟩
  | nothing _ hw' =>
      rw [hw']
      exact ⟨rfl, rfl⟩
  | media session call _ hcall =>
      have hsame := callMediaStream_selected hcall
      exact ⟨(callMediaStream_keeps hcall).iceLite, hsame⟩
  | dtls _ _ _ hcalls =>
      have hsame := onEach_selected (fun _ _ _ _ ho => onDtlsOutput_selected ho) hcalls
      exact ⟨(onDtlsOutputs_delivers hcalls).iceLite, hsame⟩
  | stun d clock hkind _ => exact absurd hkind (hother d clock rfl)

theorem quiet_other (hother : ∀ d clock, e = .udpSocketDataReceive d clock → kindOf d ≠ .stun) :
    requestOf p ice₀ e = none ∧ iceOutputs p w e = [] := by
  cases e with
  | udpSocketDataReceive d clock =>
      have hkind := hother d clock rfl
      simp only [requestOf, iceOutputs, hkind, false_and, if_false, true_and]
      split <;> rfl
  | _ => exact ⟨rfl, rfl⟩

/-- A STUN message is one more request, or changes nothing. -/
theorem stun_inStep {d : Datagram} {clock : Nat → Nat → UInt64} (hkind : kindOf d = .stun)
    (hin : InStep ice₀ requests w) (hs : receiveStun p w d = .ok (w', out)) :
    InStep ice₀ ((requestOf p ice₀ (.udpSocketDataReceive d clock)).toList ++ requests) w' ∧
      Agrees p ice₀ w w' (.udpSocketDataReceive d clock) out := by
  obtain ⟨ice, hice, hmessage, hknows, hselected⟩ := hin
  have hparsed := parsed_congr (p := p) hmessage d
  have houtputs : iceOutputs p w (.udpSocketDataReceive d clock) =
      (ice.processStunMessage p.hmac d).2 := by
    simp only [iceOutputs, hice, hkind, if_true]
  cases hok : (IceLite.parsed p.hmac ice d).ok with
  | false =>
      have hrejected := IceLite.processStunMessage_rejected hok
      have hnone : requestOf p ice₀ (.udpSocketDataReceive d clock) = none := by
        simp [requestOf, ← hparsed, hok]
      simp only [receiveStun, hice, hrejected, onEach, onIceOutput, Except.ok.injEq,
        Prod.mk.injEq] at hs
      obtain ⟨rfl, -⟩ := hs
      rw [hnone]
      refine ⟨⟨ice, rfl, hmessage, hknows, hselected⟩, ⟨?_, ?_⟩⟩
      · rw [houtputs, hrejected, favoredOf, favoredOf, hice]
        simp
      · intro _ _ request _ hsome
        rw [hnone] at hsome
        cases hsome
  | true =>
      obtain ⟨hice', hselected', before, hout, -⟩ := receiveStun_accepted hice hok hs
      have hrequest : requestOf p ice₀ (.udpSocketDataReceive d clock) =
          some (ice.request p.hmac d) := by
        simp only [requestOf, hkind, ← hparsed, hok, and_self, if_true, IceLite.request]
      have hchanges :
          (ice.processStunMessage p.hmac d).1.favoredCandidate ≠ ice.favoredCandidate ↔
            ice.Nominates p.hmac d := IceLite.favored_changes_iff
      rw [hrequest]
      refine ⟨⟨_, hice', ?_, hknows.accepted hok, ?_⟩, ⟨?_, ?_⟩⟩
      · exact (IceLite.processStunMessage_agent hok).1.trans hmessage
      · rw [hselected']
        split
        next => rfl
        next hnot => rw [hselected, not_not.mp (mt hchanges.mp hnot)]
      · rw [houtputs, IceLite.processStunMessage_accepted hok, favoredOf, favoredOf, hice, hice']
        by_cases hnom : ice.Nominates p.hmac d
        · simp [hnom, hchanges.mpr hnom]
        · simp [hnom, not_not.mp (mt hchanges.mp hnom)]
      · intro d' clock' request heq _
        cases heq
        refine ⟨_, before, ?_, hout, IceLite.response_transactionId hok⟩
        rw [houtputs, IceLite.processStunMessage_accepted hok]
        split <;> rfl

/-- One step. -/
theorem step_inStep (hin : InStep ice₀ requests w) (hs : step p w e = .ok (w', out)) :
    InStep ice₀ ((requestOf p ice₀ e).toList ++ requests) w' ∧ Agrees p ice₀ w w' e out := by
  by_cases hstun : ∃ d clock, e = .udpSocketDataReceive d clock ∧ kindOf d = .stun
  · obtain ⟨d, clock, rfl, hkind⟩ := hstun
    simp only [step, onUdpSocketDataReceive, hkind] at hs
    exact stun_inStep hkind hin hs
  · have hother : ∀ d clock, e = .udpSocketDataReceive d clock → kindOf d ≠ .stun :=
      fun d clock he hkind => hstun ⟨d, clock, he, hkind⟩
    obtain ⟨hice, hselected⟩ := step_other hother hs
    obtain ⟨hrequest, houtputs⟩ : requestOf p ice₀ e = none ∧ iceOutputs p w e = [] :=
      quiet_other hother
    rw [hrequest]
    refine ⟨?_, ⟨?_, ?_⟩⟩
    · obtain ⟨ice, hice₀, hmessage, hknows, hsel⟩ := hin
      exact ⟨ice, hice.trans hice₀, hmessage, hknows, hselected.trans hsel⟩
    · rw [houtputs, favoredOf, favoredOf, hice]
      simp
    · intro d clock request _ hsome
      rw [hrequest] at hsome
      cases hsome

end Steps

/-! ## Runs -/

/-- The accepted requests of a history, the newest first. -/
def requests (p : Platform Ctx Ssl Cert) (ice₀ : IceLite)
    (h : List (Event × List TransportOutput)) : List IceRequest :=
  (h.filterMap fun eo => requestOf p ice₀ eo.1).reverse

section Runs

variable {ice₀ : IceLite} {h : List (Event × List TransportOutput)}

theorem requests_snoc (e : Event) (out : List TransportOutput) :
    requests p ice₀ (h ++ [(e, out)]) = (requestOf p ice₀ e).toList ++ requests p ice₀ h := by
  simp only [requests, List.filterMap_append, List.filterMap_cons, List.filterMap_nil,
    List.reverse_append]
  cases requestOf p ice₀ e <;> rfl

theorem run_inStep {C : WebrtcTransport Ctx Ssl → Event → Prop} {w₀ : WebrtcTransport Ctx Ssl}
    (hw₀ : InStep ice₀ [] w₀) (hr : Run (step p) C w₀ h w) :
    InStep ice₀ (requests p ice₀ h) w := by
  refine hr.invariant (I := fun h w => InStep ice₀ (requests p ice₀ h) w) hw₀ ?_
  intro h s e s' o hin _ hs
  rw [requests_snoc]
  exact (step_inStep hin hs).1

theorem started_inStep (localUfrag localPassword remoteUfrag : ByteString)
    (dtls : DtlsTransport Ssl) (h264 rtx opus : Int) (remoteSetup : String)
    (protectBuffer : Memory) :
    InStep (IceLite.new localUfrag localPassword remoteUfrag) []
      (started (IceLite.new localUfrag localPassword remoteUfrag) dtls h264 rtx opus remoteSetup
        protectBuffer : WebrtcTransport Ctx Ssl) :=
  ⟨_, rfl, rfl, ⟨rfl, rfl⟩, rfl⟩

/-- In every run the endpoints that the agent knows are those of the accepted
requests, its favourite is the one nominated last, and the transport sends to
the favourite; every step reports a completed connection exactly when it
changes the favourite and answers an accepted request once, with its
transaction id.  No STUN message stops the run. -/
theorem favored_of_requests (p : Platform Ctx Ssl Cert)
    (localUfrag localPassword remoteUfrag : ByteString) (dtls : DtlsTransport Ssl)
    (h264 rtx opus : Int) (remoteSetup : String) (protectBuffer : Memory)
    {h : List (Event × List TransportOutput)} {w : WebrtcTransport Ctx Ssl}
    (hr : Run (step p) (fun _ _ => True) (started (IceLite.new localUfrag localPassword remoteUfrag)
      dtls h264 rtx opus remoteSetup protectBuffer) h w) :
    let ice₀ := IceLite.new localUfrag localPassword remoteUfrag
    (∃ ice, w.iceLite = some ice ∧
      ice.validCandidates = seen (requests p ice₀ h) ∧
      ice.favoredCandidate = favored (requests p ice₀ h) ∧
      w.selectedEndpoint = ice.favoredCandidate) ∧
    (∀ pre e out post, h = pre ++ (e, out) :: post → ∃ v v',
      Run (step p) (fun _ _ => True)
        (started ice₀ dtls h264 rtx opus remoteSetup protectBuffer) pre v ∧
      step p v e = .ok (v', out) ∧ Agrees p ice₀ v v' e out) ∧
    (dtls.ssl.isSome = true → ∀ d clock, kindOf d = .stun →
      ∃ w' out, step p w (.udpSocketDataReceive d clock) = .ok (w', out)) := by
  intro ice₀
  have hstart : InStep ice₀ [] (started ice₀ dtls h264 rtx opus remoteSetup protectBuffer :
      WebrtcTransport Ctx Ssl) :=
    started_inStep localUfrag localPassword remoteUfrag dtls h264 rtx opus remoteSetup protectBuffer
  refine ⟨?_, ?_, ?_⟩
  · obtain ⟨ice, hice, -, hknows, hselected⟩ := run_inStep hstart hr
    exact ⟨ice, hice, hknows.valid, hknows.favors, hselected⟩
  · intro pre e out post hh
    subst hh
    obtain ⟨v, v', hpre, -, hs⟩ := hr.step_at
    exact ⟨v, v', hpre, hs, (step_inStep (run_inStep hstart hpre) hs).2⟩
  · intro hssl d clock hkind
    simp only [step, onUdpSocketDataReceive, hkind]
    exact receiveStun_ok (run_assembled (assembled_started hssl) rfl hr).1 d

end Runs

/-- The second request of an endpoint nominates it. -/
theorem favored_of_requests_sample : ∃ h w,
    Run (step (samplePlatform announced)) (fun _ _ => True) sampleTransport h w ∧
      h.map Prod.fst = [receive IceLite.bareNomination, receive IceLite.bareNomination] ∧
      w.selectedEndpoint = IceLite.stranger := by
  have hsteps : ∃ v₁ v₂ o₁ o₂,
      step (samplePlatform announced) sampleTransport (receive IceLite.bareNomination) =
        .ok (v₁, o₁) ∧
      step (samplePlatform announced) v₁ (receive IceLite.bareNomination) = .ok (v₂, o₂) :=
    ⟨_, _, _, _, rfl, rfl⟩
  obtain ⟨v₁, v₂, o₁, o₂, h₁, h₂⟩ := hsteps
  have hr : Run (step (samplePlatform announced)) (fun _ _ => True) sampleTransport _ v₂ :=
    .snoc (.snoc .nil trivial h₁) trivial h₂
  refine ⟨_, v₂, hr, rfl, ?_⟩
  obtain ⟨ice, -, -, hfavored, hselected⟩ := (favored_of_requests (samplePlatform announced)
    [0x61, 0x62] [0x70] [0x63, 0x64] sampleEndpoint 102 103 111 "actpass" (fun _ => 0) hr).1
  have hrequests : requests (samplePlatform announced) IceLite.sampleAgent
      ([] ++ [(receive IceLite.bareNomination, o₁)] ++ [(receive IceLite.bareNomination, o₂)]) =
      [⟨IceLite.stranger, true⟩, ⟨IceLite.stranger, true⟩] := rfl
  rw [hselected, hfavored]
  exact (congrArg favored hrequests).trans rfl

end WebrtcTransport

end WebrtcServer
