/-
# `Resend` — what a NACK makes a track send

A NACK names sequence numbers, and the track answers each with what stands
in its slot.  Nothing compares the number stored there with the number
listed, so an answer is right as far as the slot is (`Unmixed`): it is the
listed packet, or one of the filters keeps it back.

Over RTX every answer decodes to a packet that was sent, whatever its
history in the buffer, and the RTX stream is numbered without a gap.
-/
import WebrtcServer.SendBuffer

namespace WebrtcServer

open Lib

namespace StreamTrack

/-! ## The right packet -/

/-- The packet in the slot of `seqNum`, if one is there, has that number or
is kept back. -/
def SlotUnmixed (t : StreamTrack) (now : UInt64) (seqNum : UInt16) : Prop :=
  ∀ pkt, t.sendBuffer (slotOf seqNum) = some pkt →
    pkt.sequenceNumber = seqNum ∨ t.tooOld pkt = true ∨ t.tooRecent pkt now = true

/-- Every listed number finds its slot so when the loop comes to it. -/
def EachUnmixed : (clock : Nat → UInt64) → StreamTrack → List UInt16 → Prop
  | _, _, [] => True
  | clock, t, seqNum :: lost =>
      SlotUnmixed t (clock 0) seqNum ∧
        ∀ t' out, t.resendListed (clock 0) seqNum = .ok (t', out) →
          EachUnmixed (fun i => clock (i + 1)) t' lost

/-- A NACK that the track heeds lists numbers whose slots are unmixed. -/
def Unmixed (t : StreamTrack) : Event → Prop
  | .receiveNack clock nack =>
      nack.mediaSsrc = t.params.ssrc → t.params.isNackEnable = true →
        EachUnmixed clock t nack.lost
  | _ => True

/-- Each packet resent has the number listed. -/
def AnswersListed (out : List Resent) : Prop := ∀ r ∈ out, r.pkt.sequenceNumber = r.listed

section Listed

variable {params : RtpParams} {ws : List RtpPacket} {t t' : StreamTrack} {out : List Resent}

/-- One listed number is answered rightly exactly when its slot is unmixed. -/
theorem resendListed_answersListed {now : UInt64} {seqNum : UInt16}
    (h : t.resendListed now seqNum = .ok (t', out)) :
    AnswersListed out ↔ SlotUnmixed t now seqNum := by
  simp only [resendListed] at h
  simp only [SlotUnmixed]
  cases hpkt : t.sendBuffer (slotOf seqNum) with
  | none =>
      rw [hpkt] at h
      cases h
      simp [AnswersListed]
  | some pkt =>
      simp only [hpkt] at h
      simp only [Option.some.injEq, forall_eq']
      split at h
      next hold =>
        cases h
        simp [AnswersListed, hold]
      next hold =>
        split at h
        next hrecent =>
          cases h
          simp [AnswersListed, hrecent]
        next hrecent =>
          obtain ⟨pkt', rtxSequenceNumber, rfl, -, -, hs, -⟩ := resend_eq_ok h
          simp only [AnswersListed, List.mem_singleton, forall_eq, hs, hold, hrecent,
            Bool.false_eq_true, or_false]

theorem answersListed_append {out out' : List Resent} :
    AnswersListed (out ++ out') ↔ AnswersListed out ∧ AnswersListed out' := by
  simp [AnswersListed, or_imp, forall_and]

/-- The loop answers rightly exactly when every number finds its slot
unmixed; the induction is on the listed numbers. -/
theorem resendEach_answersListed {clock : Nat → UInt64} {lost : List UInt16}
    (h : resendEach clock t lost = .ok (t', out)) :
    AnswersListed out ↔ EachUnmixed clock t lost := by
  induction lost generalizing clock t out with
  | nil =>
      cases h
      simp [AnswersListed, EachUnmixed]
  | cons seqNum lost ih =>
      obtain ⟨t₁, out₁, out₂, hfirst, hrest, rfl⟩ := resendEach_cons_eq_ok h
      rw [answersListed_append, resendListed_answersListed hfirst, ih hrest]
      simp only [EachUnmixed, hfirst, Except.ok.injEq, Prod.mk.injEq]
      refine and_congr_right fun _ => ⟨?_, fun hall => hall t₁ out₁ ⟨rfl, rfl⟩⟩
      rintro hall _ _ ⟨rfl, rfl⟩
      exact hall

/-- A step answers rightly exactly when it is unmixed. -/
theorem step_answersListed {e : Event} (h : step t e = .ok (t', out)) :
    AnswersListed out ↔ Unmixed t e := by
  cases e with
  | receivePacket heap now pkt =>
      simp only [step] at h
      split at h
      · cases h
      · cases h
        simp [AnswersListed, Unmixed]
  | receiveReceiverReport now block =>
      cases h
      simp [AnswersListed, Unmixed]
  | receiveNack clock nack =>
      simp only [step, receiveNack] at h
      simp only [Unmixed]
      split at h
      next hskip =>
        cases h
        rcases hskip with hssrc | hnack
        · simp [AnswersListed, hssrc]
        · simp [AnswersListed, hnack]
      next hheed =>
        obtain ⟨hssrc, hnack⟩ := not_or.mp hheed
        rw [resendEach_answersListed h]
        simp [not_not.mp hssrc, hnack]

end Listed

/-- In the history `h` every packet resent for a listed number is the latest
one sent with that number, still stored in its slot, and its OSN over RTX is
that number. -/
def ResendsListed (params : RtpParams) (h : List (Event × List Resent)) : Prop :=
  ∀ pre e out post, h = pre ++ (e, out) :: post → ∀ r ∈ out,
    ∃ p, latest (sent params pre) (slotOf r.listed) = some p ∧ p.sequenceNumber = r.listed ∧
      Stores params p r.pkt ∧
      (params.isRtxEnabled = true →
        window r.pkt.data p.headerOffset.toNat 2 = storeUInt16BE r.listed)

/-- In a run of unmixed steps only listed packets are resent; and in every
state that a run reaches, a step answers rightly exactly when it is
unmixed. -/
theorem resends_listed (params : RtpParams) :
    (∀ h t, Run step (fun t e => SendsWellFormed t e ∧ Unmixed t e) (new params) h t →
      ResendsListed params h) ∧
    ∀ h t e t' out, Run step SendsWellFormed (new params) h t → step t e = .ok (t', out) →
      (AnswersListed out ↔ Unmixed t e) := by
  refine ⟨?_, fun _ _ _ _ _ _ hstep => step_answersListed hstep⟩
  intro h t hr pre e out post hh r hmem
  obtain ⟨seq, hans, -⟩ := run_answered (hr.mono fun _ _ hc => hc.1) hh
  subst hh
  obtain ⟨u, u', -, hc, hstep⟩ := hr.step_at
  have hlisted := (step_answersListed hstep).mpr hc.2 r hmem
  obtain ⟨i, hi, rfl⟩ := List.getElem_of_mem hmem
  obtain ⟨p, hp, hs, hrtx⟩ := hans i hi
  have hseq : p.sequenceNumber = out[i].listed := by rw [← hs.sequenceNumber, hlisted]
  exact ⟨p, hp, hseq, hs, fun htrue => by rw [(hrtx htrue).2.osn, hseq]⟩

/-! Two runs: the packet with the number 5 is sent, and a NACK lists a
number of its slot. -/

section Samples

def sendFive : Event := .receivePacket (fun _ => 0) 0 (videoPacket 5 0)

def nackFor (now : UInt64) (seqNum : UInt16) : Event :=
  .receiveNack (fun _ => now)
    { senderSsrc := 1, mediaSsrc := videoParams.ssrc, lost := [seqNum] }

theorem sendFive_wellFormed (t : StreamTrack) : SendsWellFormed t sendFive := by
  rintro _ _ _ ⟨⟩
  exact videoPacket_wellFormed 5 0

theorem nackFor_wellFormed (t : StreamTrack) (now : UInt64) (seqNum : UInt16) :
    SendsWellFormed t (nackFor now seqNum) := by
  rintro _ _ _ ⟨⟩

/-- The track after the packet was sent. -/
theorem sendFive_step : ∃ t pkt, step (new videoParams) sendFive = .ok (t, []) ∧
    t.sendBuffer (slotOf 5) = some pkt ∧ pkt.sequenceNumber = 5 :=
  ⟨_, _, rfl, rfl, rfl⟩

theorem resends_listed_five :
    ∃ h t, Run step (fun t e => SendsWellFormed t e ∧ Unmixed t e) (new videoParams) h t ∧
      h.map Prod.fst = [sendFive, nackFor 1 5] ∧ ResendsListed videoParams h := by
  obtain ⟨t, pkt, hsend, hslot, hseq⟩ := sendFive_step
  have hr₁ : Run step (fun t e => SendsWellFormed t e ∧ Unmixed t e) (new videoParams)
      ([] ++ [(sendFive, [])]) t := .snoc .nil ⟨sendFive_wellFormed _, trivial⟩ hsend
  have hunmixed : Unmixed t (nackFor 1 5) := by
    intro _ _
    refine ⟨fun pkt' hpkt' => Or.inl ?_, fun _ _ _ => trivial⟩
    rw [hslot] at hpkt'
    cases hpkt'
    exact hseq
  obtain ⟨t', out, hnack⟩ :=
    run_next (hr₁.mono fun _ _ hc => hc.1) (nackFor 1 5) (nackFor_wellFormed t 1 5)
  have hr₂ := Run.snoc hr₁ ⟨nackFor_wellFormed t 1 5, hunmixed⟩ hnack
  exact ⟨_, t', hr₂, rfl, (resends_listed videoParams).1 _ _ hr₂⟩

/-- A NACK for the number 1005, which was never sent, is answered with the
packet 5. -/
theorem unsent_answered :
    ∃ h t out, Run step SendsWellFormed (new videoParams) (h ++ [(nackFor 1 1005, out)]) t ∧
      h.map Prod.fst = [sendFive] ∧
      ∃ r ∈ out, r.listed = 1005 ∧ r.pkt.sequenceNumber = 5 := by
  have hsteps : ∃ t₁ t₂ r, step (new videoParams) sendFive = .ok (t₁, []) ∧
      step t₁ (nackFor 1 1005) = .ok (t₂, [r]) ∧ r.listed = 1005 ∧ r.pkt.sequenceNumber = 5 :=
    ⟨_, _, _, rfl, rfl, rfl, rfl⟩
  obtain ⟨t₁, t₂, r, h₁, h₂, hl, hs⟩ := hsteps
  exact ⟨[(sendFive, [])], t₂, [r], .snoc (.snoc .nil (sendFive_wellFormed _) h₁)
    (nackFor_wellFormed _ 1 1005) h₂, rfl, r, by simp, hl, hs⟩

end Samples

/-! ## The RTX stream -/

/-- `r` carries the packet `p` over RTX with the number `seq`. -/
structure Carries (params : RtpParams) (p : RtpPacket) (seq : UInt16) (r : Resent) : Prop where
  form : RtxForm params p seq r.pkt.data
  size : r.pkt.size.toNat = p.size.toNat + 2

/-- Every packet resent in `h`, the `i`-th of all, carries the packet that
stood, as it was sent, in the slot of the listed number when the step came
that resent it. -/
def RtxStream (params : RtpParams) (h : List (Event × List Resent)) : Prop :=
  ∀ i (hi : i < (outputs h).length), ∃ pre e out post p, h = pre ++ (e, out) :: post ∧
    (outputs pre).length ≤ i ∧ i < (outputs pre).length + out.length ∧
    latest (sent params pre) (slotOf (outputs h)[i].listed) = some p ∧
    Carries params p (UInt16.ofNat i) (outputs h)[i]

section RtxRuns

variable {params : RtpParams} {h : List (Event × List Resent)} {t : StreamTrack}

theorem Answers.carries {ws : List RtpPacket} {seq : UInt16} {r : Resent}
    (hrtx : params.isRtxEnabled = true) (hws : ∀ p ∈ ws, p.WellFormed)
    (h : Answers params ws seq r) :
    ∃ p, latest ws (slotOf r.listed) = some p ∧ Carries params p seq r := by
  obtain ⟨p, hp, hs, hform⟩ := h
  obtain ⟨hisRtx, hform⟩ := hform hrtx
  refine ⟨p, hp, hform, ?_⟩
  rw [RtpStoragePacket.size, if_pos hisRtx, hs.size, (hws p (latestIn_mem hp).1).size_add]

theorem run_rtxStream (hrtx : params.isRtxEnabled = true)
    (hr : Run step SendsWellFormed (new params) h t) : RtxStream params h := by
  induction hr with
  | nil => intro i hi; exact absurd hi (by simp)
  | @snoc h t t' e out hr he hstep ih =>
      obtain ⟨hb, hcount⟩ := run_buffered hr
      obtain ⟨t₁, out₁, hok, -, -, hans⟩ := step_spec hb e he
      rw [hstep] at hok
      cases hok
      intro i hi
      simp only [outputs_snoc] at hi ⊢
      by_cases hlt : i < (outputs h).length
      · obtain ⟨pre, e', out', post, p, hsplit, hfrom, hto, hp, hcar⟩ := ih i hlt
        refine ⟨pre, e', out', post ++ [(e, out)], p, by rw [hsplit, List.append_assoc]; rfl,
          hfrom, hto, ?_, ?_⟩
        · rwa [List.getElem_append_left hlt]
        · rwa [List.getElem_append_left hlt]
      · have hi' : i - (outputs h).length < out.length := by
          rw [List.length_append] at hi
          omega
        obtain ⟨p, hp, hcar⟩ := (hans _ hi').carries hrtx hb.wellFormed
        rw [hcount hrtx, ← UInt16.ofNat_add, Nat.add_sub_cancel' (Nat.le_of_not_lt hlt)] at hcar
        refine ⟨h, e, out, [], p, rfl, Nat.le_of_not_lt hlt, by omega, ?_, ?_⟩
        · rwa [List.getElem_append_right (Nat.le_of_not_lt hlt)]
        · rwa [List.getElem_append_right (Nat.le_of_not_lt hlt)]

end RtxRuns

/-- The `i`-th packet resent on a track with RTX carries a packet that was
sent, with the RTX number `i`, however often it has been resent, and no run
writes outside an allocation. -/
theorem rtx_carries_original (params : RtpParams) (hrtx : params.isRtxEnabled = true) :
    ∀ h t, Run step SendsWellFormed (new params) h t →
      RtxStream params h ∧ ∀ e, SendsWellFormed t e → ∃ t' out, step t e = .ok (t', out) :=
  fun _ _ hr => ⟨run_rtxStream hrtx hr, fun e he => run_next hr e he⟩

/-- The packet 5 is sent, and resent twice. -/
theorem rtx_carries_five :
    ∃ h t, Run step SendsWellFormed (new videoParams) h t ∧
      h.map Prod.fst = [sendFive, nackFor 1 5, nackFor 1000 5] ∧ (outputs h).length = 2 ∧
      RtxStream videoParams h ∧
      ∀ e, SendsWellFormed t e → ∃ t' out, step t e = .ok (t', out) := by
  have hsteps : ∃ t₁ t₂ t₃ r₁ r₂, step (new videoParams) sendFive = .ok (t₁, []) ∧
      step t₁ (nackFor 1 5) = .ok (t₂, [r₁]) ∧ step t₂ (nackFor 1000 5) = .ok (t₃, [r₂]) :=
    ⟨_, _, _, _, _, rfl, rfl, rfl⟩
  obtain ⟨t₁, t₂, t₃, r₁, r₂, h₁, h₂, h₃⟩ := hsteps
  have hr := Run.snoc (.snoc (.snoc .nil (sendFive_wellFormed _) h₁)
    (nackFor_wellFormed _ 1 5) h₂) (nackFor_wellFormed _ 1000 5) h₃
  exact ⟨_, t₃, hr, rfl, rfl, rtx_carries_original videoParams rfl _ _ hr⟩

/-- A payload type of 200 does not fit its seven bits. -/
theorem wide_payloadType_cut :
    ∃ params h t, params.isRtxEnabled = true ∧ params.rtxPayloadType = 200 ∧
      Run step SendsWellFormed (new params) h t ∧
      ∃ r ∈ outputs h, (RtpHeader.decode r.pkt.data).payloadType = 72 := by
  have hsteps : ∃ t₁ t₂ r,
      step (new { videoParams with rtxPayloadType := 200 }) sendFive = .ok (t₁, []) ∧
      step t₁ (nackFor 1 5) = .ok (t₂, [r]) ∧
      (RtpHeader.decode r.pkt.data).payloadType = 72 := ⟨_, _, _, rfl, rfl, rfl⟩
  obtain ⟨t₁, t₂, r, h₁, h₂, hpt⟩ := hsteps
  exact ⟨_, _, t₂, rfl, rfl,
    .snoc (.snoc .nil (sendFive_wellFormed _) h₁) (nackFor_wellFormed _ 1 5) h₂, r,
    by simp [outputs], hpt⟩

end StreamTrack

end WebrtcServer
