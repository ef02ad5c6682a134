/-
# `ResendSpacing` — how often a stored packet is resent

A stored packet remembers the time of its last resend, 0 standing for none.
`ReceiveNack` skips it while that time is at most `rtt_` ago.  A new packet
in the slot starts again at 0, and a receiver report changes `rtt_`.

Here every event is logged with what it does to the slots.  While the clock
is positive and does not go back, two resends of one stored packet are more
than the `rtt_` of the second apart, over every run and within one NACK.
So a NACK answered at one reading of the clock has each slot resent once at
most, whatever it lists.
-/
import WebrtcServer.Lib.Spacing
import WebrtcServer.SendBuffer

namespace WebrtcServer

open Lib

namespace StreamTrack

/-! ## The log of a run -/

/-- The slot that an event fills. -/
def filledBy (params : RtpParams) (e : Event) : List (Mark Slot) :=
  (accepted params e).toList.map fun p => .filled (slotOf p.sequenceNumber)

/-- The slots whose packets are resent, each with the time that the packet is
stamped with and the `rtt_` of the track. -/
def usedBy (t : StreamTrack) (out : List Resent) : List (Mark Slot) :=
  out.map fun r => .used (slotOf r.listed) r.pkt.resentMillisecs.toNat t.rtt.toNat

/-- `step`, with the marks that an event leaves. -/
def markedStep (t : StreamTrack) (e : Event) : Except Fault (StreamTrack × List (Mark Slot)) :=
  match step t e with
  | .error f => .error f
  | .ok (t', out) => .ok (t', filledBy t.params e ++ usedBy t out)

/-- The readings of the clock in an event. -/
def readings : Event → List UInt64
  | .receivePacket _ now _ => [now]
  | .receiveNack clock nack => (List.range nack.lost.length).map clock
  | .receiveReceiverReport now _ => [now]

/-- The clock is positive and does not go back. -/
structure Clocked (clock : List UInt64) : Prop where
  sorted : clock.Pairwise (· ≤ ·)
  positive : ∀ now ∈ clock, 0 < now

theorem Clocked.left {clock clock' : List UInt64} (h : Clocked (clock ++ clock')) :
    Clocked clock :=
  ⟨(List.pairwise_append.mp h.sorted).1,
    fun now hnow => h.positive now (List.mem_append_left _ hnow)⟩

/-- The readings of a run. -/
def clockOf (h : List (Event × List (Mark Slot))) : List UInt64 :=
  h.flatMap fun x => readings x.1

/-! ## What the stamps say -/

/-- The stamp of a stored packet is the time of its last resend. -/
structure Stamped (clock : List UInt64) (log : List (Mark Slot)) (t : StreamTrack) : Prop where
  guarded : Guarded log
  past : ∀ slot time delay, .used slot time delay ∈ log → ∃ now ∈ clock, time = now.toNat
  stamp : ∀ slot pkt, t.sendBuffer slot = some pkt →
    pkt.resentMillisecs.toNat = lastUse slot log

section Steps

variable {clock : List UInt64} {log : List (Mark Slot)} {t t' : StreamTrack} {now : UInt64}
  {seqNum : UInt16} {out : List Resent}

theorem stamped_new (params : RtpParams) : Stamped [] [] (new params) := by
  refine ⟨guarded_nil, fun _ _ _ h => ?_, fun _ _ h => ?_⟩
  · cases h
  · cases h

/-- A later reading. -/
theorem Stamped.tick (h : Stamped clock log t) (clock' : List UInt64) :
    Stamped (clock ++ clock') log t := by
  refine ⟨h.guarded, fun slot time delay hin => ?_, h.stamp⟩
  rcases h.past slot time delay hin with ⟨now, hnow, htime⟩
  exact ⟨now, List.mem_append_left _ hnow, htime⟩

/-- What was resent is past. -/
theorem Stamped.past_le (h : Stamped clock log t) (hclock : Clocked (clock ++ [now])) {slot : Slot}
    {time delay : Nat} (hin : .used slot time delay ∈ log) : time ≤ now.toNat := by
  rcases h.past _ _ _ hin with ⟨past, hpast, rfl⟩
  exact (List.pairwise_append.mp hclock.sorted).2.2 past hpast now List.mem_cons_self

theorem Stamped.lastUse_le (h : Stamped clock log t) (hclock : Clocked (clock ++ [now]))
    (slot : Slot) : lastUse slot log ≤ now.toNat := by
  rcases lastUse_mem slot log with hzero | ⟨delay, hin⟩
  · rw [hzero]
    exact Nat.zero_le _
  · exact h.past_le hclock hin

/-- What the rtt filter lets pass was never resent, or longer ago than the
round trip. -/
theorem passed_iff {pkt : RtpStoragePacket} (hpast : pkt.resentMillisecs ≤ now) :
    t.tooRecent pkt now = false ↔ pkt.resentMillisecs.toNat = 0 ∨
      pkt.resentMillisecs.toNat + t.rtt.toNat < now.toNat := by
  have hle : pkt.resentMillisecs.toNat ≤ now.toNat := hpast
  have hzero : pkt.resentMillisecs = 0 ↔ pkt.resentMillisecs.toNat = 0 :=
    UInt64.toNat_inj.symm
  have hlate : now - pkt.resentMillisecs ≤ t.rtt ↔
      now.toNat - pkt.resentMillisecs.toNat ≤ t.rtt.toNat := by
    rw [UInt64.le_iff_toNat_le, UInt64.toNat_sub_of_le _ _ hpast]
  simp only [tooRecent, Bool.and_eq_false_iff, decide_eq_false_iff_not, ne_eq, not_not, hzero,
    hlate]
  omega

theorem Stamped.resendListed (h : Stamped clock log t) (hclock : Clocked (clock ++ [now]))
    (hresend : t.resendListed now seqNum = .ok (t', out)) :
    Stamped (clock ++ [now]) (log ++ usedBy t out) t' ∧ t'.rtt = t.rtt := by
  rcases resendListed_eq_ok hresend with ⟨rfl, rfl⟩ | ⟨pkt, hpkt, -, hpassed, hresend⟩
  · rw [usedBy, List.map_nil, List.append_nil]
    exact ⟨h.tick [now], rfl⟩
  · rcases resend_eq_ok hresend with ⟨pkt', rtxSequenceNumber, rfl, rfl, hstamp, -, -⟩
    refine ⟨?_, rfl⟩
    have hlast : pkt.resentMillisecs.toNat = lastUse (slotOf seqNum) log := h.stamp _ _ hpkt
    have hle : lastUse (slotOf seqNum) log ≤ now.toNat := h.lastUse_le hclock _
    have hguard : lastUse (slotOf seqNum) log = 0 ∨
        lastUse (slotOf seqNum) log + t.rtt.toNat < now.toNat := by
      rw [← hlast] at hle ⊢
      exact (passed_iff hle).mp hpassed
    have hpast : ∀ slot time delay, .used slot time delay ∈ log → time ≤ now.toNat :=
      fun _ _ _ hin => h.past_le hclock hin
    have hnow : 0 < now.toNat := hclock.positive now (List.mem_append_right _ List.mem_cons_self)
    rw [usedBy, List.map_singleton, hstamp]
    refine ⟨h.guarded.use hnow hpast hguard, ?_, ?_⟩
    · intro slot time delay hin
      rcases List.mem_append.mp hin with hin | hin
      · exact (h.tick [now]).past slot time delay hin
      · cases List.mem_singleton.mp hin
        exact ⟨now, List.mem_append_right _ List.mem_cons_self, rfl⟩
    · intro slot stored hstored
      rw [lastUse_concat, useAfter]
      by_cases hslot : slotOf seqNum = slot
      · subst hslot
        simp only [setSlot, Function.update_self, Option.some.injEq] at hstored
        rw [if_pos rfl, ← hstored, hstamp]
      · simp only [setSlot, Function.update_of_ne (Ne.symm hslot)] at hstored
        rw [if_neg hslot]
        exact h.stamp slot stored hstored

/-- The loop of `ReceiveNack`; the induction is on the listed numbers. -/
theorem Stamped.resendEach {now : Nat → UInt64} {lost : List UInt16} (h : Stamped clock log t)
    (hclock : Clocked (clock ++ (List.range lost.length).map now))
    (hresend : resendEach now t lost = .ok (t', out)) :
    Stamped (clock ++ (List.range lost.length).map now) (log ++ usedBy t out) t' := by
  induction lost generalizing now clock log t out with
  | nil =>
      cases hresend
      rw [usedBy, List.map_nil, List.append_nil]
      exact h.tick _
  | cons seqNum lost ih =>
      obtain ⟨t₁, out₁, out₂, hfirst, hrest, rfl⟩ := resendEach_cons_eq_ok hresend
      have hrange : (List.range (seqNum :: lost).length).map now =
          [now 0] ++ (List.range lost.length).map fun i => now (i + 1) := by
        rw [List.length_cons, List.range_succ_eq_map, List.map_cons, List.map_map]
        rfl
      rw [hrange, ← List.append_assoc] at hclock ⊢
      obtain ⟨h₁, hrtt⟩ := h.resendListed hclock.left hfirst
      have hused : usedBy t (out₁ ++ out₂) = usedBy t out₁ ++ usedBy t₁ out₂ := by
        simp only [usedBy, List.map_append, hrtt]
      rw [hused, ← List.append_assoc]
      exact ih h₁ hclock hrest

theorem Stamped.receivePacket (h : Stamped clock log t) {heap : Memory} {pkt : RtpPacket}
    (hstep : t.receivePacket heap now pkt = .ok t') :
    Stamped (clock ++ [now]) (log ++ filledBy t.params (.receivePacket heap now pkt)) t' := by
  rw [filledBy, accepted]
  rcases receivePacket_eq_ok hstep with
    ⟨hssrc, rfl⟩ | ⟨hssrc, sendBuffer, ⟨hnack, rfl⟩ | ⟨hnack, stored, hnew, rfl⟩, rfl⟩
  · rw [if_neg fun hown => hssrc hown.1, Option.toList_none, List.map_nil, List.append_nil]
    exact h.tick [now]
  · have hoff : ¬ (pkt.ssrc = t.params.ssrc ∧ t.params.isNackEnable = true) := by
      rw [hnack]
      exact fun hown => Bool.noConfusion hown.2
    rw [if_neg hoff, Option.toList_none, List.map_nil, List.append_nil]
    exact ⟨h.guarded, (h.tick [now]).past, h.stamp⟩
  · rw [if_pos ⟨hssrc, hnack⟩, Option.toList_some, List.map_singleton]
    refine ⟨h.guarded.fill _, ?_, ?_⟩
    · intro slot time delay hin
      rcases List.mem_append.mp hin with hin | hin
      · exact (h.tick [now]).past slot time delay hin
      · cases List.mem_singleton.mp hin
    · intro slot other hother
      rw [lastUse_concat, useAfter]
      by_cases hslot : slotOf pkt.sequenceNumber = slot
      · subst hslot
        simp only [Function.update_self, Option.some.injEq] at hother
        rw [if_pos rfl, ← hother, hnew]
        rfl
      · simp only [Function.update_of_ne (Ne.symm hslot)] at hother
        rw [if_neg hslot]
        exact h.stamp slot other hother

theorem filledBy_nack (params : RtpParams) (now : Nat → UInt64) (nack : NackPacket) :
    filledBy params (.receiveNack now nack) = [] := rfl

theorem filledBy_report (params : RtpParams) (now : UInt64) (block : ReportBlock) :
    filledBy params (.receiveReceiverReport now block) = [] := rfl

/-- Every event keeps the stamps right. -/
theorem Stamped.step (h : Stamped clock log t) {e : Event} {marks : List (Mark Slot)}
    (hclock : Clocked (clock ++ readings e)) (hstep : markedStep t e = .ok (t', marks)) :
    Stamped (clock ++ readings e) (log ++ marks) t' := by
  rw [markedStep] at hstep
  split at hstep
  · cases hstep
  next t₁ out hout =>
    cases hstep
    cases e with
    | receivePacket heap now pkt =>
        rw [StreamTrack.step] at hout
        split at hout
        · cases hout
        next hreceive =>
          cases hout
          rw [usedBy, List.map_nil, List.append_nil]
          exact h.receivePacket hreceive
    | receiveNack now nack =>
        rw [filledBy_nack, List.nil_append]
        simp only [StreamTrack.step, receiveNack] at hout
        split at hout
        · cases hout
          rw [usedBy, List.map_nil, List.append_nil]
          exact h.tick _
        · exact h.resendEach hclock hout
    | receiveReceiverReport now block =>
        cases hout
        rw [filledBy_report, usedBy, List.map_nil, List.append_nil, List.append_nil]
        have hkeeps : (t.receiveReceiverReport now block).sendBuffer = t.sendBuffer := by
          simp only [receiveReceiverReport]
          split
          · rfl
          · rfl
        refine ⟨h.guarded, (h.tick _).past, fun slot pkt hpkt => ?_⟩
        rw [hkeeps] at hpkt
        exact h.stamp slot pkt hpkt

end Steps

/-! ## Runs -/

section Runs

variable {params : RtpParams} {h : List (Event × List (Mark Slot))} {t : StreamTrack}

theorem clockOf_concat (h : List (Event × List (Mark Slot))) (e : Event)
    (marks : List (Mark Slot)) : clockOf (h ++ [(e, marks)]) = clockOf h ++ readings e := by
  rw [clockOf, List.flatMap_append, List.flatMap_singleton]
  rfl

theorem run_stamped (hr : Run markedStep (fun _ _ => True) (new params) h t)
    (hclock : Clocked (clockOf h)) : Stamped (clockOf h) (outputs h) t := by
  revert hclock
  refine hr.invariant (I := fun h t => Clocked (clockOf h) → Stamped (clockOf h) (outputs h) t)
    (fun _ => stamped_new params) ?_
  intro h t e t' marks ih _ hstep hclock
  rw [clockOf_concat] at hclock ⊢
  rw [outputs_snoc]
  exact (ih hclock.left).step hclock hstep

end Runs

/-! ## One NACK -/

section Nack

variable {t t' : StreamTrack} {out : List Resent}

/-- A packet is stamped with a reading of the clock. -/
theorem resendEach_stamps {now : Nat → UInt64} {lost : List UInt16}
    (h : resendEach now t lost = .ok (t', out)) :
    ∀ r ∈ out, ∃ i < lost.length, r.pkt.resentMillisecs = now i := by
  induction lost generalizing now t out with
  | nil =>
      cases h
      intro r hr
      cases hr
  | cons seqNum lost ih =>
      obtain ⟨t₁, out₁, out₂, hfirst, hrest, rfl⟩ := resendEach_cons_eq_ok h
      intro r hr
      rcases List.mem_append.mp hr with hr | hr
      · rcases resendListed_eq_ok hfirst with ⟨-, rfl⟩ | ⟨pkt, -, -, -, hresend⟩
        · cases hr
        · rcases resend_eq_ok hresend with ⟨pkt', rtxSequenceNumber, rfl, -, hstamp, -, -⟩
          cases List.mem_singleton.mp hr
          exact ⟨0, Nat.succ_pos _, hstamp⟩
      · rcases ih hrest r hr with ⟨i, hi, hstamp⟩
        exact ⟨i + 1, Nat.succ_lt_succ hi, hstamp⟩

theorem receiveNack_stamps {now : Nat → UInt64} {nack : NackPacket}
    (h : t.receiveNack now nack = .ok (t', out)) :
    ∀ r ∈ out, ∃ i < nack.lost.length, r.pkt.resentMillisecs = now i := by
  rw [receiveNack] at h
  split at h
  · cases h
    intro r hr
    cases hr
  · exact resendEach_stamps h

theorem markedStep_nack {now : Nat → UInt64} {nack : NackPacket} {marks : List (Mark Slot)}
    (h : markedStep t (.receiveNack now nack) = .ok (t', marks)) :
    ∃ out, t.receiveNack now nack = .ok (t', out) ∧ marks = usedBy t out := by
  rw [markedStep, step] at h
  · split at h
    · cases h
    next t₁ out hout =>
      cases h
      exact ⟨out, hout, rfl⟩

/-- The time of a mark is a reading of the clock in its event. -/
theorem markedStep_timed {e : Event} {marks : List (Mark Slot)}
    (h : markedStep t e = .ok (t', marks)) {slot : Slot} {time delay : Nat}
    (hused : .used slot time delay ∈ marks) : ∃ now ∈ readings e, time = now.toNat := by
  have hfilled : ∀ params, .used slot time delay ∉ filledBy params e := by
    intro params hin
    rcases List.mem_map.mp hin with ⟨p, -, hp⟩
    cases hp
  cases e with
  | receivePacket heap now pkt =>
      rw [markedStep, step] at h
      split at h
      · cases h
      next hout =>
        split at hout
        · cases hout
        · cases hout
          cases h
          rcases List.mem_append.mp hused with hin | hin
          · exact absurd hin (hfilled _)
          · cases hin
  | receiveNack now nack =>
      rcases markedStep_nack h with ⟨out, hout, rfl⟩
      rcases List.mem_map.mp hused with ⟨r, hr, hmark⟩
      rcases receiveNack_stamps hout r hr with ⟨i, hi, hstamp⟩
      cases hmark
      exact ⟨now i, List.mem_map.mpr ⟨i, List.mem_range.mpr hi, rfl⟩, by rw [hstamp]⟩
  | receiveReceiverReport now block =>
      cases h
      rcases List.mem_append.mp hused with hin | hin
      · exact absurd hin (hfilled _)
      · cases hin

/-- At one reading of the clock the marks of a NACK have one time. -/
theorem markedStep_constant {now : UInt64} {clock : Nat → UInt64} {nack : NackPacket}
    {marks : List (Mark Slot)} (hclock : ∀ i < nack.lost.length, clock i = now)
    (h : markedStep t (.receiveNack clock nack) = .ok (t', marks)) :
    ∃ out : List Resent, marks =
      out.map fun r => .used (slotOf r.listed) now.toNat t.rtt.toNat := by
  rcases markedStep_nack h with ⟨out, hout, rfl⟩
  refine ⟨out, List.map_congr_left fun r hr => ?_⟩
  rcases receiveNack_stamps hout r hr with ⟨i, hi, hstamp⟩
  rw [hstamp, hclock i hi]

end Nack

/-! ## How often a packet is resent -/

/-- Each resend has its time from the clock; two of one stored packet are
more than the `rtt_` of the second apart; and a NACK answered at one reading
of the clock has at most as many packets resent as there are slots. -/
structure ResendsSpaced (h : List (Event × List (Mark Slot))) : Prop where
  timed : ∀ x ∈ h, ∀ slot time delay, .used slot time delay ∈ x.2 →
    ∃ now ∈ readings x.1, time = now.toNat
  spaced : Spaced (outputs h)
  bounded : ∀ clock nack marks now, (.receiveNack clock nack, marks) ∈ h →
    (∀ i < nack.lost.length, clock i = now) → marks.length ≤ kSendBufferCapacity

theorem run_resendsSpaced {params : RtpParams} {h : List (Event × List (Mark Slot))}
    {t : StreamTrack} (hr : Run markedStep (fun _ _ => True) (new params) h t)
    (hclock : Clocked (clockOf h)) : ResendsSpaced h := by
  have hspaced : Spaced (outputs h) := (run_stamped hr hclock).guarded.spaced
  refine ⟨?_, hspaced, ?_⟩
  · rintro ⟨e, marks⟩ hin slot time delay hused
    rcases List.append_of_mem hin with ⟨pre, post, rfl⟩
    obtain ⟨u, u', -, -, hstep⟩ := hr.step_at
    exact markedStep_timed hstep hused
  · intro clock nack marks now hin hconstant
    rcases List.append_of_mem hin with ⟨pre, post, rfl⟩
    obtain ⟨u, u', -, -, hstep⟩ := hr.step_at
    obtain ⟨out, rfl⟩ := markedStep_constant hconstant hstep
    rw [outputs_append, outputs_cons, ← List.append_assoc] at hspaced
    have hnodup : (out.map fun r => slotOf r.listed).Nodup := hspaced.nodup
    have hcard : (out.map fun r => slotOf r.listed).length ≤ Fintype.card Slot :=
      hnodup.length_le_card
    rw [List.length_map, Fintype.card_fin] at hcard
    rw [List.length_map]
    exact hcard

section Samples

/-- A packet, a NACK that lists it twice, and another one 195 ms later. -/
def twoNacks : List (Event × List (Mark Slot)) :=
  [(.receivePacket (fun _ => 0) 1 (videoPacket 1 10000), [.filled (slotOf 1)]),
    (.receiveNack (fun _ => 5) ⟨0, 12345678, [1, 1]⟩, [.used (slotOf 1) 5 100]),
    (.receiveNack (fun _ => 200) ⟨0, 12345678, [1]⟩, [.used (slotOf 1) 200 100])]

theorem twoNacks_spaced : ResendsSpaced twoNacks := by
  have hsteps : ∃ t₁ t₂ t₃,
      markedStep (new videoParams) (.receivePacket (fun _ => 0) 1 (videoPacket 1 10000)) =
          .ok (t₁, [.filled (slotOf 1)]) ∧
        markedStep t₁ (.receiveNack (fun _ => 5) ⟨0, 12345678, [1, 1]⟩) =
          .ok (t₂, [.used (slotOf 1) 5 100]) ∧
        markedStep t₂ (.receiveNack (fun _ => 200) ⟨0, 12345678, [1]⟩) =
          .ok (t₃, [.used (slotOf 1) 200 100]) :=
    ⟨_, _, _, rfl, rfl, rfl⟩
  obtain ⟨t₁, t₂, t₃, h₁, h₂, h₃⟩ := hsteps
  have hrun : Run markedStep (fun _ _ => True) (new videoParams) twoNacks t₃ :=
    .snoc (.snoc (.snoc .nil trivial h₁) trivial h₂) trivial h₃
  have hclock : clockOf twoNacks = [1, 5, 5, 200] := rfl
  refine run_resendsSpaced hrun ?_
  rw [hclock]
  exact ⟨by decide, by simp⟩

end Samples

end StreamTrack

end WebrtcServer
