/-
# `IceAuth` — which binding requests move the agent

The agent should act on authenticated requests only: a USERNAME that is
exactly `local_ufrag:remote_ufrag`, a MESSAGE-INTEGRITY that is right under
the local password, and a USE-CANDIDATE that this MESSAGE-INTEGRITY covers.
`Parse` checks each attribute where it meets one and asks for none of them:
a request without USERNAME and without MESSAGE-INTEGRITY is accepted, a
USERNAME need only begin and end with the two ufrags, and a USE-CANDIDATE
behind the MESSAGE-INTEGRITY counts.  Only the last MESSAGE-INTEGRITY is
compared, and the twenty bytes compared are those behind its header, whatever
length it announces and wherever the datagram ends.  `Credentialed` is what a
request must bring by itself; that its MESSAGE-INTEGRITY is right then follows
from the loop.
-/
import WebrtcServer.IceLite
import WebrtcServer.StunWalk

namespace WebrtcServer

open Lib StunMessage

namespace IceLite

/-- The colon between the two ufrags of a USERNAME. -/
def expectedUsername (ice : IceLite) : ByteString := ice.localUfrag ++ [0x3A] ++ ice.remoteUfrag

section Requests

variable (hmac : HmacSha1) (ice : IceLite) (d : Datagram)

/-- The offsets of the attributes of type `type` that the parser met. -/
def attributesOf (type : UInt16) : Set Nat :=
  { off | off ∈ (parsed hmac ice d).visited ∧ attrType d.data off = type }

/-- A FINGERPRINT was met, so the length field is reduced for the check. -/
def carriesFingerprint : Bool :=
  (parsed hmac ice d).visited.any fun off => attrType d.data off = kAttrFingerprint

/-- The value of the attribute at `off` is `value`, and it ends inside the
datagram. -/
def HoldsAt (off : Nat) (value : List UInt8) : Prop :=
  attrValue d.data off = value ∧ off + kStunAttributeHeaderSize + value.length ≤ d.len

instance (off : Nat) (value : List UInt8) : Decidable (HoldsAt d off value) :=
  inferInstanceAs (Decidable (_ ∧ _))

/-- The MESSAGE-INTEGRITY at `off` is right under the local password. -/
def IntegrityAt (off : Nat) : Prop :=
  HoldsAt d off (hmac ice.localPassword
    (integrityText d.data d.len (carriesFingerprint hmac ice d) off)).toList

/-- The request carries the right USERNAME and a right MESSAGE-INTEGRITY,
which covers a USE-CANDIDATE if one is honoured. -/
structure Authenticated : Prop where
  username : ∃ off ∈ attributesOf hmac ice d kAttrUsername, HoldsAt d off ice.expectedUsername
  integrity : ∃ off ∈ attributesOf hmac ice d kAttrMessageIntegrity,
    IntegrityAt hmac ice d off ∧
      ((parsed hmac ice d).msg.hasUseCandidate = true →
        ∃ c ∈ attributesOf hmac ice d kAttrUseCandidate, c < off)

/-- No MESSAGE-INTEGRITY was met behind the one at `off`, which is then the
one that `Parse` compares. -/
def LastIntegrity (off : Nat) : Prop :=
  ∀ o ∈ attributesOf hmac ice d kAttrMessageIntegrity, o ≤ off

/-- What an accepted request has to bring for the agent to be right about
it: the exact USERNAME, and a MESSAGE-INTEGRITY that announces twenty bytes,
behind one of its USE-CANDIDATEs if it has any.  The last one is compared; one
in front of it has to be right without that. -/
structure Credentials : Prop where
  username : ∃ off ∈ attributesOf hmac ice d kAttrUsername, HoldsAt d off ice.expectedUsername
  integrity : ∃ off ∈ attributesOf hmac ice d kAttrMessageIntegrity,
    (attrLength d.data off).toNat = kSha1ResultLength ∧
      (LastIntegrity hmac ice d off ∨ IntegrityAt hmac ice d off) ∧
      ((attributesOf hmac ice d kAttrUseCandidate).Nonempty →
        ∃ c ∈ attributesOf hmac ice d kAttrUseCandidate, c < off)

/-- The condition on a datagram: if it is accepted, it brings credentials. -/
def Credentialed : Prop := (parsed hmac ice d).ok = true → Credentials hmac ice d

end Requests

/-- The step has moved the agent: a new endpoint, a new favourite or a
completed connection. -/
def Moved (ice ice' : IceLite) (out : List IceOutput) : Prop :=
  ice'.validCandidates ≠ ice.validCandidates ∨ ice'.favoredCandidate ≠ ice.favoredCandidate ∨
    .iceConnectionCompleted ∈ out

/-- Every step of the history that moved the agent handled an authenticated
request. -/
def MovedByAuthenticated (hmac : HmacSha1) (ice₀ : IceLite)
    (h : List (Datagram × List IceOutput)) : Prop :=
  ∀ pre d out post, h = pre ++ (d, out) :: post →
    ∃ ice ice', Run (step hmac) (fun _ _ => True) ice₀ pre ice ∧
      step hmac ice d = .ok (ice', out) ∧ (Moved ice ice' out → Authenticated hmac ice d)

section Steps

variable {hmac : HmacSha1} {ice ice' : IceLite} {d : Datagram} {out : List IceOutput}

/-- A request that is rejected moves nothing. -/
theorem not_moved_of_rejected (h : (parsed hmac ice d).ok = false)
    (hs : step hmac ice d = .ok (ice', out)) : ¬ Moved ice ice' out := by
  simp only [step, processStunMessage, h, Bool.false_eq_true, if_false, Except.ok.injEq,
    Prod.mk.injEq] at hs
  obtain ⟨rfl, rfl⟩ := hs
  simp [Moved]

/-- A MESSAGE-INTEGRITY that is right announces its twenty bytes. -/
theorem IntegrityAt.length {off : Nat} (h : IntegrityAt hmac ice d off) :
    (attrLength d.data off).toNat = kSha1ResultLength := by
  have hlen := congrArg List.length h.1
  rwa [attrValue, window_length, Vector.length_toList] at hlen

/-- The two bytes of the length field are all that the check rewrites. -/
theorem reduceLength_apply {data : Memory} {size : Nat} {fp : Bool} {i : Nat}
    (h : 4 ≤ i) : reduceLength data size fp i = data i := by
  unfold reduceLength
  split
  · exact poke_ge (by simp only [kLengthOffset, storeUInt16BE_length]; omega)
  · rfl

/-- A value of twenty bytes needs no padding. -/
theorem paddedLength_integrity {length : UInt16} (h : length.toNat = kSha1ResultLength) :
    (paddedLength length).toNat = kSha1ResultLength := by
  obtain rfl : length = 20 := UInt16.toNat_inj.mp h
  rfl

/-- In an accepted request the last MESSAGE-INTEGRITY is right if it announces
its twenty bytes. -/
theorem integrity_of_accepted (h : (parsed hmac ice d).ok = true) {off : Nat}
    (hoff : off ∈ attributesOf hmac ice d kAttrMessageIntegrity)
    (hlen : (attrLength d.data off).toNat = kSha1ResultLength)
    (hlast : LastIntegrity hmac ice d off) : IntegrityAt hmac ice d off := by
  obtain ⟨st, hh, hwalk, hleft, hvis, -, hcheck⟩ := parse_accepted h
  obtain ⟨-, htr⟩ := Reaches.tracked ⟨hh, hwalk⟩
  have hvisited : (parsed hmac ice d).visited = st.visited := hvis
  have hmem : off ∈ st.visited := hvisited ▸ hoff.1
  -- the attribute that was compared is this one
  obtain ⟨m, hm, hle⟩ := htr.integrity_last off hmem hoff.2
  obtain ⟨hmvis, hmtype⟩ := htr.integrity_some m hm
  obtain rfl : m = off := le_antisymm (hlast m ⟨hvisited ▸ hmvis, hmtype⟩) hle
  have hfp : st.hasFingerprint = carriesFingerprint hmac ice d := by
    rw [Bool.eq_iff_iff, htr.fingerprint, carriesFingerprint, hvisited]
    simp
  have hright := hcheck m hm
  rw [hfp] at hright
  refine ⟨?_, ?_⟩
  · have h20 : 20 ≤ m := (htr.below m hmem).1
    rw [attrValue, hlen, ← show window (reduceLength d.data d.len (carriesFingerprint hmac ice d))
        (m + kStunAttributeHeaderSize) kSha1ResultLength = _ from
      window_eq_iff.mpr fun i _ => reduceLength_apply (by omega)]
    exact hright
  · -- the loop has taken the attribute, and it ended inside the datagram
    have hin : InMessage d.data d.len st := (startState_inMessage _ hh).walk hwalk
    have htaken := htr.taken m hmem
    rw [paddedLength_integrity hlen] at htaken
    rw [Vector.length_toList]
    exact htaken.trans hin.start

/-- The flag of an accepted request stands for a USE-CANDIDATE. -/
theorem useCandidate_iff (h : (parsed hmac ice d).ok = true) :
    (parsed hmac ice d).msg.hasUseCandidate = true ↔
      (attributesOf hmac ice d kAttrUseCandidate).Nonempty := by
  obtain ⟨st, hh, hwalk, -, hvis, hmsg, -⟩ := parse_accepted h
  obtain ⟨-, htr⟩ := Reaches.tracked ⟨hh, hwalk⟩
  have hvisited : (parsed hmac ice d).visited = st.visited := hvis
  have hflag : (parsed hmac ice d).msg.hasUseCandidate = st.hasUseCandidate :=
    congrArg StunMessage.hasUseCandidate hmsg
  rw [hflag, htr.useCandidate]
  simp only [message, StunMessage.new, Bool.false_eq_true, false_or]
  constructor
  · rintro ⟨o, ho, htype⟩
    exact ⟨o, hvisited ▸ ho, htype⟩
  · rintro ⟨o, ho, htype⟩
    exact ⟨o, hvisited ▸ ho, htype⟩

/-- For an accepted request, credentials are what authentication takes. -/
theorem authenticated_iff (h : (parsed hmac ice d).ok = true) :
    Authenticated hmac ice d ↔ Credentials hmac ice d := by
  constructor
  · rintro ⟨hu, off, hoff, hright, hcov⟩
    exact ⟨hu, off, hoff, hright.length, Or.inr hright,
      fun hne => hcov ((useCandidate_iff h).mpr hne)⟩
  · rintro ⟨hu, off, hoff, hlen, hcompared, hcov⟩
    have hright : IntegrityAt hmac ice d off :=
      hcompared.elim (integrity_of_accepted h hoff hlen) id
    exact ⟨hu, off, hoff, hright, fun hflag => hcov ((useCandidate_iff h).mp hflag)⟩

end Steps

/-- In every run whose accepted requests bring their credentials, only
authenticated requests move the agent; and a request that moves it is
authenticated only if it brings them. -/
theorem moved_by_authenticated (hmac : HmacSha1) (ice₀ : IceLite) :
    (∀ h ice, Run (step hmac) (Credentialed hmac) ice₀ h ice →
      MovedByAuthenticated hmac ice₀ h) ∧
    ∀ ice d ice' out, step hmac ice d = .ok (ice', out) → Moved ice ice' out →
      (Authenticated hmac ice d ↔ Credentialed hmac ice d) := by
  have hiff : ∀ ice d ice' out, step hmac ice d = .ok (ice', out) → Moved ice ice' out →
      (Authenticated hmac ice d ↔ Credentialed hmac ice d) := by
    intro ice d ice' out hs hmoved
    cases hok : (parsed hmac ice d).ok with
    | false => exact absurd hmoved (not_moved_of_rejected hok hs)
    | true => simp only [Credentialed, hok, true_implies, authenticated_iff hok]
  refine ⟨?_, hiff⟩
  intro h ice hr pre d out post hh
  subst hh
  obtain ⟨t, t', hpre, hc, hs⟩ := hr.step_at
  exact ⟨t, t', hpre.mono fun _ _ _ => trivial, hs, fun hm => (hiff t d t' out hs hm).mpr hc⟩

/-! ## A request with credentials and one without -/

/-- An agent with the ufrags `ab` and `cd` and the password `p`. -/
def sampleAgent : IceLite := IceLite.new [0x61, 0x62] [0x70] [0x63, 0x64]

def stranger : Endpoint := ⟨.v4 0x0A000001, 4000⟩

/-- A datagram from `stranger`. -/
def fromStranger (bytes : List UInt8) : Datagram :=
  { data := Memory.ofList bytes, len := bytes.length, remoteEp := stranger, heap := fun _ => 0 }

/-- USERNAME `ab:cd`, USE-CANDIDATE and a MESSAGE-INTEGRITY of zeros. -/
def authenticRequest : Datagram := fromStranger
  ([0x00, 0x01, 0x00, 0x28, 0x21, 0x12, 0xA4, 0x42, 1, 2, 3, 4, 5, 6, 7, 8, 9, 10, 11, 12,
    0x00, 0x06, 0x00, 0x05, 0x61, 0x62, 0x3A, 0x63, 0x64, 0, 0, 0,
    0x00, 0x25, 0x00, 0x00, 0x00, 0x08, 0x00, 0x14] ++ List.replicate 20 0)

/-- A USE-CANDIDATE and nothing else. -/
def bareNomination : Datagram := fromStranger
  [0x00, 0x01, 0x00, 0x04, 0x21, 0x12, 0xA4, 0x42, 1, 2, 3, 4, 5, 6, 7, 8, 9, 10, 11, 12,
   0x00, 0x25, 0x00, 0x00]

theorem authenticRequest_last :
    ∀ o ∈ (parsed zeroHmac sampleAgent authenticRequest).visited, o ≤ 36 := by decide

theorem moved_by_authenticated_sample :
    MovedByAuthenticated zeroHmac sampleAgent
      [(authenticRequest, (processStunMessage zeroHmac sampleAgent authenticRequest).2)] :=
  (moved_by_authenticated zeroHmac sampleAgent).1 _ _
    (.snoc .nil (fun _ => ⟨⟨20, ⟨by decide, by decide⟩, by decide⟩,
      ⟨36, ⟨by decide, by decide⟩, by decide, Or.inl (fun o ho => authenticRequest_last o ho.1),
        fun _ => ⟨32, ⟨by decide, by decide⟩, by decide⟩⟩⟩) rfl)

/-- USERNAME and USE-CANDIDATE as above, and at the end of the datagram the
bare header of a MESSAGE-INTEGRITY, with zeros in the buffer behind it. -/
def bareIntegrity : Datagram := fromStranger
  [0x00, 0x01, 0x00, 0x14, 0x21, 0x12, 0xA4, 0x42, 1, 2, 3, 4, 5, 6, 7, 8, 9, 10, 11, 12,
   0x00, 0x06, 0x00, 0x05, 0x61, 0x62, 0x3A, 0x63, 0x64, 0, 0, 0,
   0x00, 0x25, 0x00, 0x00, 0x00, 0x08, 0x00, 0x00]

/-- It is accepted on the bytes behind it, and carries no HMAC. -/
example : (parsed zeroHmac sampleAgent bareIntegrity).ok = true ∧
    ¬ Authenticated zeroHmac sampleAgent bareIntegrity := by
  have hshort : ∀ o ∈ (parsed zeroHmac sampleAgent bareIntegrity).visited,
      (attrLength bareIntegrity.data o).toNat ≠ kSha1ResultLength := by decide
  refine ⟨by decide, ?_⟩
  rintro ⟨-, off, hoff, hright, -⟩
  exact hshort off hoff.1 hright.length

/-- The agent after one `bareNomination`, and its second answer. -/
def afterFirst : IceLite := (processStunMessage zeroHmac sampleAgent bareNomination).1

def bareHistory : List (Datagram × List IceOutput) :=
  [(bareNomination, (processStunMessage zeroHmac sampleAgent bareNomination).2),
   (bareNomination, (processStunMessage zeroHmac afterFirst bareNomination).2)]

/-- Two requests without any credentials nominate their sender. -/
theorem bareNomination_completes :
    Run (step zeroHmac) (fun _ _ => True) sampleAgent bareHistory
        (processStunMessage zeroHmac afterFirst bareNomination).1 ∧
      .iceConnectionCompleted ∈ (processStunMessage zeroHmac afterFirst bareNomination).2 ∧
      ¬ MovedByAuthenticated zeroHmac sampleAgent bareHistory := by
  have hfirst : Run (step zeroHmac) (fun _ _ => True) sampleAgent
      [(bareNomination, (processStunMessage zeroHmac sampleAgent bareNomination).2)] afterFirst :=
    .snoc .nil trivial rfl
  have hmember : bareNomination.remoteEp ∈ afterFirst.validCandidates := by decide
  have hcompleted :
      .iceConnectionCompleted ∈ (processStunMessage zeroHmac afterFirst bareNomination).2 := by
    have hok : (parsed zeroHmac afterFirst bareNomination).ok = true := by decide
    have huse : (parsed zeroHmac afterFirst bareNomination).msg.hasUseCandidate = true := by decide
    have hnew : afterFirst.favoredCandidate ≠ bareNomination.remoteEp := by decide
    simp [processStunMessage, hok, huse, nominate, hmember, hnew]
  refine ⟨.snoc hfirst trivial rfl, hcompleted, ?_⟩
  intro hauth
  obtain ⟨ice, ice', hpre, hstep, himp⟩ := hauth [_] bareNomination _ [] rfl
  obtain rfl := hfirst.state_unique hpre
  obtain ⟨off, ⟨hvis, htype⟩, -⟩ := (himp (Or.inr (Or.inr hcompleted))).username
  have hvisited : (parsed zeroHmac afterFirst bareNomination).visited = [20] := by decide
  rw [hvisited, List.mem_singleton] at hvis
  subst hvis
  exact absurd htype (by decide)

end IceLite

end WebrtcServer
