/-
# `IceLite` — ice_lite.h, ice_lite.cpp

The agent answers binding requests and keeps the endpoints it has heard
from and the one that was nominated.  Its observer is the transport and is
always set, so its calls are outputs of the step.  The spdlog calls are
left out.
-/
import Mathlib.Data.Finset.Insert
import WebrtcServer.Lib.Runs
import WebrtcServer.StunMessage

namespace WebrtcServer

open Lib

/-- A datagram on its way into a handler: the receive buffer, the number of
bytes received, the sender. -/
structure Datagram where
  data : Memory
  len : Nat
  remoteEp : Endpoint
  /-- What fresh heap memory holds while the datagram is handled. -/
  heap : Memory

structure IceLite where
  localUfrag : ByteString
  localPassword : ByteString
  remoteUfrag : ByteString
  validCandidates : Finset Endpoint
  favoredCandidate : Endpoint
  oldFavoredCandidate : Endpoint

/-- The calls of `IceLite::Observer`. -/
inductive IceOutput where
  | stunMessageSend (data : List UInt8) (ep : Endpoint)
  | iceConnectionCompleted
  | iceConnectionError
deriving DecidableEq, Repr

namespace IceLite

/-- The constructor, with the two random strings it draws. -/
def new (localUfrag localPassword remoteUfrag : ByteString) : IceLite :=
  { localUfrag, localPassword, remoteUfrag, validCandidates := ∅
    favoredCandidate := default, oldFavoredCandidate := default }

/-- The nomination: a USE-CANDIDATE from an endpoint heard from before. -/
def nominate (ice : IceLite) (remoteEp : Endpoint) : IceLite × List IceOutput :=
  if remoteEp ∈ ice.validCandidates then
    ({ ice with oldFavoredCandidate := ice.favoredCandidate, favoredCandidate := remoteEp },
      if ice.favoredCandidate ≠ remoteEp then [.iceConnectionCompleted] else [])
  else (ice, [])

/-- The message object that `ProcessStunMessage` parses with. -/
def message (ice : IceLite) : StunMessage :=
  StunMessage.new ice.localUfrag ice.localPassword ice.remoteUfrag

/-- The call of `Parse`. -/
def parsed (hmac : HmacSha1) (ice : IceLite) (d : Datagram) : StunMessage.ParseResult :=
  ice.message.parse hmac d.data d.len

def processStunMessage (hmac : HmacSha1) (ice : IceLite) (d : Datagram) :
    IceLite × List IceOutput :=
  let result := parsed hmac ice d
  if result.ok then
    let nominated := if result.msg.hasUseCandidate then ice.nominate d.remoteEp else (ice, [])
    let ice' :=
      { nominated.1 with
        validCandidates := insert d.remoteEp nominated.1.validCandidates }
    let msg := { result.msg with mappedEndpoint := some d.remoteEp }
    let response := window (msg.createResponse hmac d.heap).2 0 StunMessage.kResponseSize
    (ice', nominated.2 ++ [.stunMessageSend response d.remoteEp])
  else (ice, [.iceConnectionError])

/-- `ProcessStunMessage` as a step. -/
def step (hmac : HmacSha1) (ice : IceLite) (d : Datagram) :
    Except Fault (IceLite × List IceOutput) :=
  .ok (processStunMessage hmac ice d)

/-! ## What a message is answered with -/

/-- The message object from which an accepted request is answered. -/
def answered (hmac : HmacSha1) (ice : IceLite) (d : Datagram) : StunMessage :=
  { (parsed hmac ice d).msg with mappedEndpoint := some d.remoteEp }

/-- The bytes of the response. -/
def response (hmac : HmacSha1) (ice : IceLite) (d : Datagram) : ByteString :=
  window ((answered hmac ice d).createResponse hmac d.heap).2 0 StunMessage.kResponseSize

section Answers

variable {hmac : HmacSha1} {ice : IceLite} {d : Datagram}

/-- The message moves the favoured candidate: an accepted nomination by
another endpoint that was heard from before. -/
def Nominates (hmac : HmacSha1) (ice : IceLite) (d : Datagram) : Prop :=
  (parsed hmac ice d).ok = true ∧ (parsed hmac ice d).msg.hasUseCandidate = true ∧
    d.remoteEp ∈ ice.validCandidates ∧ ice.favoredCandidate ≠ d.remoteEp

instance (hmac : HmacSha1) (ice : IceLite) (d : Datagram) : Decidable (Nominates hmac ice d) :=
  inferInstanceAs (Decidable (_ ∧ _ ∧ _ ∧ _))

theorem processStunMessage_rejected (h : (parsed hmac ice d).ok = false) :
    ice.processStunMessage hmac d = (ice, [.iceConnectionError]) := by
  simp only [processStunMessage, h, Bool.false_eq_true, if_false]

/-- An accepted message is answered, and reports a completed connection
exactly when it moves the favoured candidate. -/
theorem processStunMessage_accepted (h : (parsed hmac ice d).ok = true) :
    (ice.processStunMessage hmac d).2 =
      (if ice.Nominates hmac d then [.iceConnectionCompleted] else []) ++
        [.stunMessageSend (response hmac ice d) d.remoteEp] := by
  have hnominated : (if (parsed hmac ice d).msg.hasUseCandidate then ice.nominate d.remoteEp
      else (ice, [])).2 = if ice.Nominates hmac d then [.iceConnectionCompleted] else [] := by
    simp only [Nominates, h, true_and]
    by_cases huse : (parsed hmac ice d).msg.hasUseCandidate = true
    · by_cases hvalid : d.remoteEp ∈ ice.validCandidates
      · simp [huse, nominate, hvalid]
      · simp [huse, nominate, hvalid]
    · simp [huse]
  simp only [processStunMessage, h, if_true, hnominated]
  rfl

/-- What a message is answered with, by what it is. -/
theorem processStunMessage_out (hmac : HmacSha1) (ice : IceLite) (d : Datagram) :
    (ice.processStunMessage hmac d).2 = [.iceConnectionError] ∨
      ∃ response, (ice.processStunMessage hmac d).2 =
        (if ice.Nominates hmac d then [.iceConnectionCompleted] else []) ++
          [.stunMessageSend response d.remoteEp] := by
  cases h : (parsed hmac ice d).ok with
  | false =>
      rw [processStunMessage_rejected h]
      exact Or.inl rfl
  | true => exact Or.inr ⟨_, processStunMessage_accepted h⟩

end Answers

end IceLite

end WebrtcServer
