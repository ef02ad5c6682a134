/-
# `ResendAge` — which packets are too old to be resent

`ReceiveNack` measures the age of a stored packet against
`max_rtp_timestamp_`, which `ReceivePacket` does not keep at the maximum:
it is the timestamp of the packet sent last.  A packet that is ahead of it
has, in unsigned arithmetic, an age of almost a whole cycle.

So the age is right exactly when no stored packet that is not too old is
newer than the packet sent last.  Where the timestamps only increase this
always holds; after a B picture it does not.
-/
import WebrtcServer.Lib.Serial
import WebrtcServer.SendBuffer

namespace WebrtcServer

open Lib

namespace StreamTrack

/-! ## The timestamps of a history -/

/-- The timestamp that an event sends. -/
def timestampOf (params : RtpParams) : Event → Option ℕ
  | .receivePacket _ _ pkt => if pkt.ssrc = params.ssrc then some pkt.timestamp.toNat else none
  | _ => none

/-- The timestamps sent, in order. -/
def timestamps (params : RtpParams) (h : List (Event × List Resent)) : List ℕ :=
  h.filterMap fun x => timestampOf params x.1

theorem timestamps_snoc (params : RtpParams) (h : List (Event × List Resent)) (e : Event)
    (out : List Resent) :
    timestamps params (h ++ [(e, out)]) =
      timestamps params h ++ (timestampOf params e).toList := by
  simp only [timestamps, List.filterMap_append, List.filterMap_cons, List.filterMap_nil]
  cases timestampOf params e <;> rfl

theorem timestamps_lt (params : RtpParams) (h : List (Event × List Resent)) :
    ∀ x ∈ timestamps params h, x < 4294967296 := by
  intro x hx
  obtain ⟨⟨e, out⟩, -, he⟩ := List.mem_filterMap.mp hx
  cases e with
  | receivePacket heap now pkt =>
      simp only [timestampOf] at he
      split at he
      · obtain rfl := Option.some.inj he
        exact pkt.timestamp.toNat_lt
      · cases he
  | receiveNack clock nack => cases he
  | receiveReceiverReport now block => cases he

/-- What is stored was sent. -/
theorem sent_timestamp {params : RtpParams} {h : List (Event × List Resent)} {p : RtpPacket}
    (hp : p ∈ sent params h) : p.timestamp.toNat ∈ timestamps params h := by
  obtain ⟨⟨e, out⟩, hmem, he⟩ := List.mem_filterMap.mp hp
  refine List.mem_filterMap.mpr ⟨(e, out), hmem, ?_⟩
  cases e with
  | receivePacket heap now pkt =>
      simp only [accepted] at he
      split at he
      next hacc =>
        obtain rfl := Option.some.inj he
        simp only [timestampOf, if_pos hacc.1]
      next => cases he
  | receiveNack clock nack => cases he
  | receiveReceiverReport now block => cases he

/-- Two seconds, in units of the clock. -/
def twoSeconds (params : RtpParams) : ℕ := 2 * params.clockRate.toNat

/-- The clock rates in use are 90000 and 48000. -/
def RateFits (params : RtpParams) : Prop := params.clockRate.toNat < 536870912

/-- The packet `p` is more than two seconds older than the newest timestamp
sent. -/
def PastTwoSeconds (params : RtpParams) (h : List (Event × List Resent))
    (timestamp : UInt32) : Prop :=
  ∃ n, newest 4294967296 (timestamps params h) = some n ∧
    twoSeconds params < gap 4294967296 n timestamp.toNat

/-- The age test discards only such packets. -/
def DiscardsOnlyPast (params : RtpParams) (h : List (Event × List Resent))
    (t : StreamTrack) : Prop :=
  ∀ slot pkt, t.sendBuffer slot = some pkt → t.tooOld pkt = true →
    PastTwoSeconds params h pkt.timestamp

/-- A NACK for a stored packet that was never resent has it resent, when all
timestamps sent lie within two seconds of each other. -/
def ResendsFresh (params : RtpParams) (h : List (Event × List Resent)) (t : StreamTrack) : Prop :=
  Near 4294967296 (twoSeconds params) (timestamps params h) →
    ∀ slot pkt, t.sendBuffer slot = some pkt → pkt.resentMillisecs = 0 →
      ∀ clock nack, nack.mediaSsrc = params.ssrc → pkt.sequenceNumber ∈ nack.lost →
        ∃ t' out, step t (.receiveNack clock nack) = .ok (t', out) ∧
          ∃ r ∈ out, r.pkt.sequenceNumber = pkt.sequenceNumber ∧ r.pkt.timestamp = pkt.timestamp

/-- Of the packets in the send buffer none that is at most two seconds
behind the newest timestamp is newer than the packet sent last. -/
def LastKeepsUp (params : RtpParams) (h : List (Event × List Resent)) : Prop :=
  ∀ slot p n l, latest (sent params h) slot = some p →
    newest 4294967296 (timestamps params h) = some n →
    (timestamps params h).getLast? = some l →
    gap 4294967296 n p.timestamp.toNat ≤ twoSeconds params →
    gap 4294967296 n l ≤ gap 4294967296 n p.timestamp.toNat

/-! ## What the track keeps of them -/

/-- The age filter works on the last timestamp and on two seconds. -/
structure Dated (params : RtpParams) (h : List (Event × List Resent)) (t : StreamTrack) :
    Prop where
  params_eq : t.params = params
  maxDelay : t.maxResendDelayInClockRate = params.clockRate * 2
  last : ∀ l, (timestamps params h).getLast? = some l → t.maxRtpTimestamp.toNat = l

section Steps

variable {params : RtpParams} {h : List (Event × List Resent)} {t t' : StreamTrack}
  {now : UInt64} {seqNum : UInt16} {out : List Resent}

/-- What the resending of packets leaves of the track. -/
structure KeepsDates (t t' : StreamTrack) : Prop where
  params : t'.params = t.params
  maxDelay : t'.maxResendDelayInClockRate = t.maxResendDelayInClockRate
  maxTimestamp : t'.maxRtpTimestamp = t.maxRtpTimestamp

theorem KeepsDates.trans {t'' : StreamTrack} (h : KeepsDates t t') (h' : KeepsDates t' t'') :
    KeepsDates t t'' :=
  ⟨h'.params.trans h.params, h'.maxDelay.trans h.maxDelay, h'.maxTimestamp.trans h.maxTimestamp⟩

theorem KeepsDates.tooOld (h : KeepsDates t t') (pkt : RtpStoragePacket) :
    t'.tooOld pkt = t.tooOld pkt := by
  rw [StreamTrack.tooOld, StreamTrack.tooOld, h.maxDelay, h.maxTimestamp]

/-- A packet that is resent is put back into its slot. -/
theorem resend_puts {pkt : RtpStoragePacket} (h : t.resend now seqNum pkt = .ok (t', out)) :
    KeepsDates t t' ∧ (∀ slot ≠ slotOf seqNum, t'.sendBuffer slot = t.sendBuffer slot) ∧
      ∃ r, out = [r] ∧ r.pkt.sequenceNumber = pkt.sequenceNumber ∧
        r.pkt.timestamp = pkt.timestamp := by
  rcases resend_eq_ok h with ⟨pkt', rtxSequenceNumber, rfl, rfl, -, hseq, hts⟩
  refine ⟨⟨rfl, rfl, rfl⟩, ?_, _, rfl, hseq, hts⟩
  intro slot hne
  exact Function.update_of_ne hne _ _

theorem resendListed_puts (h : t.resendListed now seqNum = .ok (t', out)) :
    KeepsDates t t' ∧ ∀ slot ≠ slotOf seqNum, t'.sendBuffer slot = t.sendBuffer slot := by
  rcases resendListed_eq_ok h with ⟨rfl, -⟩ | ⟨pkt, -, -, -, hresend⟩
  · exact ⟨⟨rfl, rfl, rfl⟩, fun _ _ => rfl⟩
  · obtain ⟨hkeeps, hother, -⟩ := resend_puts hresend
    exact ⟨hkeeps, hother⟩

theorem resendEach_keepsDates {clock : Nat → UInt64} {lost : List UInt16}
    (h : resendEach clock t lost = .ok (t', out)) : KeepsDates t t' := by
  induction lost generalizing clock t out with
  | nil =>
      cases h
      exact ⟨rfl, rfl, rfl⟩
  | cons seqNum lost ih =>
      obtain ⟨t₁, out₁, out₂, hfirst, hrest, -⟩ := resendEach_cons_eq_ok h
      exact (resendListed_puts hfirst).1.trans (ih hrest)

/-- A stored packet that no filter keeps back is resent. -/
theorem resendListed_fresh {pkt : RtpStoragePacket} (hpkt : t.sendBuffer (slotOf seqNum) = some pkt)
    (hage : t.tooOld pkt = false) (hfresh : pkt.resentMillisecs = 0)
    (h : t.resendListed now seqNum = .ok (t', out)) :
    ∃ r ∈ out, r.pkt.sequenceNumber = pkt.sequenceNumber ∧ r.pkt.timestamp = pkt.timestamp := by
  have hrecent : t.tooRecent pkt now = false := by
    simp [tooRecent, hfresh]
  simp only [resendListed, hpkt, hage, hrecent, Bool.false_eq_true, if_false] at h
  obtain ⟨-, -, r, rfl, hseq, hts⟩ := resend_puts h
  exact ⟨r, List.mem_cons_self, hseq, hts⟩

/-- So is one whose number is listed; the induction is on the list, up to
the first number of its slot. -/
theorem resendEach_fresh {clock : Nat → UInt64} {lost : List UInt16} {pkt : RtpStoragePacket}
    (hmem : seqNum ∈ lost) (hpkt : t.sendBuffer (slotOf seqNum) = some pkt)
    (hage : t.tooOld pkt = false) (hfresh : pkt.resentMillisecs = 0)
    (h : resendEach clock t lost = .ok (t', out)) :
    ∃ r ∈ out, r.pkt.sequenceNumber = pkt.sequenceNumber ∧ r.pkt.timestamp = pkt.timestamp := by
  induction lost generalizing clock t out with
  | nil => cases hmem
  | cons first lost ih =>
      obtain ⟨t₁, out₁, out₂, hfirst, hrest, rfl⟩ := resendEach_cons_eq_ok h
      by_cases hslot : slotOf seqNum = slotOf first
      · rw [hslot] at hpkt
        obtain ⟨r, hr, hsame⟩ := resendListed_fresh hpkt hage hfresh hfirst
        exact ⟨r, List.mem_append_left _ hr, hsame⟩
      · obtain ⟨hkeeps, hother⟩ := resendListed_puts hfirst
        have hrest' : seqNum ∈ lost := by
          rcases List.mem_cons.mp hmem with rfl | hin
          · exact absurd rfl hslot
          · exact hin
        obtain ⟨r, hr, hsame⟩ := ih hrest' ((hother _ hslot).trans hpkt)
          ((hkeeps.tooOld pkt).trans hage) hrest
        exact ⟨r, List.mem_append_right _ hr, hsame⟩

/-- Nothing but a packet sent changes the dates. -/
theorem KeepsDates.dated (hk : KeepsDates t t') (hd : Dated params h t) {e : Event}
    {out : List Resent} (he : timestampOf params e = none) :
    Dated params (h ++ [(e, out)]) t' := by
  refine ⟨hk.params.trans hd.params_eq, hk.maxDelay.trans hd.maxDelay, ?_⟩
  intro l hl
  rw [timestamps_snoc, he, Option.toList_none, List.append_nil] at hl
  rw [hk.maxTimestamp]
  exact hd.last l hl

theorem receivePacket_dated (hd : Dated params h t) {heap : Memory} {pkt : RtpPacket}
    (hs : t.receivePacket heap now pkt = .ok t') :
    Dated params (h ++ [(.receivePacket heap now pkt, out)]) t' := by
  rcases receivePacket_eq_ok hs with ⟨hssrc, rfl⟩ | ⟨hssrc, sendBuffer, -, rfl⟩
  · rw [hd.params_eq] at hssrc
    exact KeepsDates.dated ⟨rfl, rfl, rfl⟩ hd (if_neg hssrc)
  · rw [hd.params_eq] at hssrc
    have hts : timestamps params (h ++ [(.receivePacket heap now pkt, out)]) =
        timestamps params h ++ [pkt.timestamp.toNat] := by
      rw [timestamps_snoc, timestampOf, if_pos hssrc]
      rfl
    refine ⟨hd.params_eq, hd.maxDelay, ?_⟩
    intro l hl
    rw [hts, List.getLast?_append_of_ne_nil _ (List.cons_ne_nil _ _)] at hl
    exact Option.some.inj hl

theorem run_dated {h : List (Event × List Resent)} {t : StreamTrack}
    (hr : Run step SendsWellFormed (new params) h t) : Dated params h t := by
  refine hr.invariant ⟨rfl, rfl, fun l hl => by cases hl⟩ ?_
  intro h t e t' out hd _ hs
  cases e with
  | receivePacket heap now pkt =>
      simp only [step] at hs
      split at hs
      · cases hs
      next hok =>
        cases hs
        exact receivePacket_dated hd hok
  | receiveNack clock nack =>
      simp only [step, receiveNack] at hs
      split at hs
      · cases hs
        exact KeepsDates.dated ⟨rfl, rfl, rfl⟩ hd rfl
      · exact (resendEach_keepsDates hs).dated hd rfl
  | receiveReceiverReport now block =>
      cases hs
      refine KeepsDates.dated ?_ hd rfl
      simp only [receiveReceiverReport]
      split <;> exact ⟨rfl, rfl, rfl⟩

end Steps

/-! ## The age -/

section Age

variable {params : RtpParams} {h : List (Event × List Resent)} {t : StreamTrack}

/-- The age filter, in terms of distances. -/
theorem Dated.tooOld_iff (hd : Dated params h t) (hrate : RateFits params) {l : ℕ}
    (hl : (timestamps params h).getLast? = some l) (pkt : RtpStoragePacket) :
    t.tooOld pkt = true ↔ twoSeconds params < gap 4294967296 l pkt.timestamp.toNat := by
  have hdelay : (params.clockRate * 2).toNat = twoSeconds params := by
    rw [UInt32.toNat_mul]
    show params.clockRate.toNat * 2 % 4294967296 = 2 * params.clockRate.toNat
    have hrate : params.clockRate.toNat < 536870912 := hrate
    omega
  rw [tooOld, decide_eq_true_iff, gt_iff_lt, UInt32.lt_iff_toNat_lt, toNat_sub_eq_gap,
    hd.last l hl, hd.maxDelay, hdelay]

/-- What is stored is the latest packet of its slot, so something was sent. -/
theorem stored_sent (hb : Buffered params (sent params h) t) {slot : Slot}
    {pkt : RtpStoragePacket} (hpkt : t.sendBuffer slot = some pkt) :
    ∃ p n l, latest (sent params h) slot = some p ∧ Stores params p pkt ∧
      newest 4294967296 (timestamps params h) = some n ∧
      (timestamps params h).getLast? = some l := by
  obtain ⟨p, hp, -, hs⟩ := hb.some_of_slot hpkt
  have hmem := sent_timestamp (latestIn_mem hp).1
  have hne : timestamps params h ≠ [] := List.ne_nil_of_mem hmem
  obtain ⟨n, hn⟩ := Option.ne_none_iff_exists'.mp
    (fun hnone => hne (newest_eq_none_iff (M := 4294967296) |>.mp hnone))
  exact ⟨p, n, _, hp, hs, hn, List.getLast?_eq_some_getLast hne⟩

/-- The last timestamp is at most half a cycle behind the newest. -/
theorem near_last {n l : ℕ} (hn : newest 4294967296 (timestamps params h) = some n)
    (hl : (timestamps params h).getLast? = some l) : 2 * gap 4294967296 n l ≤ 4294967296 := by
  have hlt := timestamps_lt params h
  obtain ⟨front, hfront⟩ := List.getLast?_eq_some_iff.mp hl
  rw [hfront] at hn hlt
  exact two_mul_gap_newest hlt hn

/-- The age filter discards only packets past two seconds exactly when the
packet sent last keeps up. -/
theorem discardsOnlyPast_iff (hb : Buffered params (sent params h) t) (hd : Dated params h t)
    (hrate : RateFits params) : DiscardsOnlyPast params h t ↔ LastKeepsUp params h := by
  have hlimit : 2 * twoSeconds params < 4294967296 := by
    have hrate : params.clockRate.toNat < 536870912 := hrate
    rw [twoSeconds]
    omega
  have hlt := timestamps_lt params h
  constructor
  · intro hdiscards slot p n l hp hn hl
    have hrel := hb.buffer slot
    rw [hp] at hrel
    generalize hpkt : t.sendBuffer slot = stored at hrel
    cases hrel with
    | some hs =>
        rename_i pkt
        refine (gap_limit_iff (newest_lt hlt hn) (hlt l (List.mem_of_getLast? hl))
          p.timestamp.toNat_lt hlimit (near_last hn hl)).mp ?_
        rw [← hs.timestamp, ← hd.tooOld_iff hrate hl pkt]
        intro hold
        obtain ⟨n', hn', hpast⟩ := hdiscards slot pkt hpkt hold
        obtain rfl := Option.some.inj (hn.symm.trans hn')
        exact hpast
  · intro hkeeps slot pkt hpkt hold
    obtain ⟨p, n, l, hp, hs, hn, hl⟩ := stored_sent hb hpkt
    refine ⟨n, hn, ?_⟩
    rw [hs.timestamp]
    refine (gap_limit_iff (newest_lt hlt hn) (hlt l (List.mem_of_getLast? hl))
      p.timestamp.toNat_lt hlimit (near_last hn hl)).mpr (hkeeps slot p n l hp hn hl) ?_
    rw [← hs.timestamp, ← hd.tooOld_iff hrate hl pkt]
    exact hold

/-- Near timestamps are never past two seconds. -/
theorem DiscardsOnlyPast.resendsFresh (hdiscards : DiscardsOnlyPast params h t)
    (hb : Buffered params (sent params h) t) (hrate : RateFits params) :
    ResendsFresh params h t := by
  have hlimit : 4 * twoSeconds params < 4294967296 := by
    have hrate : params.clockRate.toNat < 536870912 := hrate
    rw [twoSeconds]
    omega
  intro hnear slot pkt hpkt hfresh clock nack hssrc hlist
  obtain ⟨p, n, l, hp, hs, hn, hl⟩ := stored_sent hb hpkt
  obtain ⟨hsent, hslot⟩ := latestIn_mem hp
  have hage : t.tooOld pkt = false := by
    refine Bool.eq_false_iff.mpr fun hold => ?_
    obtain ⟨n', hn', hpast⟩ := hdiscards slot pkt hpkt hold
    obtain ⟨-, hall⟩ := newest_near hlimit (timestamps_lt params h) hnear hn'
    have hclose := hall _ (sent_timestamp hsent)
    rw [hs.timestamp] at hpast
    exact absurd hclose (Nat.not_le.mpr hpast)
  have henabled : params.isNackEnable = true := by
    obtain ⟨⟨e, out⟩, -, he⟩ := List.mem_filterMap.mp hsent
    cases e with
    | receivePacket heap now q =>
        simp only [accepted] at he
        split at he
        next hacc => exact hacc.2
        next => cases he
    | receiveNack clock nack => cases he
    | receiveReceiverReport now block => cases he
  have hstored : t.sendBuffer (slotOf pkt.sequenceNumber) = some pkt := by
    rw [hs.sequenceNumber, hslot]
    exact hpkt
  obtain ⟨t', out, hok, -⟩ := receiveNack_spec hb clock nack
  refine ⟨t', out, hok, ?_⟩
  rw [receiveNack, if_neg (by rw [hb.params_eq, hssrc, henabled]; simp)] at hok
  exact resendEach_fresh hlist hstored hage hfresh hok

end Age

/-- After every run the age filter does what it is for exactly when, of the
stored packets at most two seconds behind the newest timestamp, none is
newer than the packet sent last. -/
theorem age_right_iff {params : RtpParams} {h : List (Event × List Resent)} {t : StreamTrack}
    (hrate : RateFits params) (hr : Run step SendsWellFormed (new params) h t) :
    DiscardsOnlyPast params h t ∧ ResendsFresh params h t ↔ LastKeepsUp params h := by
  have hb := (run_buffered hr).1
  rw [← discardsOnlyPast_iff hb (run_dated hr) hrate]
  exact and_iff_left_of_imp fun hdiscards => hdiscards.resendsFresh hb hrate

/-! A picture, and a B picture shown 80 ms before it. -/

section Samples

def sendAt (seqnum : UInt16) (timestamp : UInt32) : Event :=
  .receivePacket (fun _ => 0) 0 (videoPacket seqnum timestamp)

theorem sendAt_wellFormed (t : StreamTrack) (seqnum : UInt16) (timestamp : UInt32) :
    SendsWellFormed t (sendAt seqnum timestamp) := by
  rintro _ _ _ ⟨⟩
  exact videoPacket_wellFormed seqnum timestamp

theorem sendTwo_run (first second : UInt32) : ∃ t,
    Run step SendsWellFormed (new videoParams)
      [(sendAt 1 first, []), (sendAt 2 second, [])] t ∧
    ∃ pkt, t.sendBuffer (slotOf 1) = some pkt ∧ pkt.timestamp = first ∧
      t.tooOld pkt = decide (second - first > 180000) := by
  have hsteps : ∃ t₁ t₂ pkt, step (new videoParams) (sendAt 1 first) = .ok (t₁, []) ∧
      step t₁ (sendAt 2 second) = .ok (t₂, []) ∧ t₂.sendBuffer (slotOf 1) = some pkt ∧
      pkt.timestamp = first ∧ t₂.tooOld pkt = decide (second - first > 180000) :=
    ⟨_, _, _, rfl, rfl, rfl, rfl, rfl⟩
  obtain ⟨t₁, t₂, pkt, h₁, h₂, hpkt⟩ := hsteps
  exact ⟨t₂, .snoc (.snoc .nil (sendAt_wellFormed _ 1 first) h₁) (sendAt_wellFormed _ 2 second) h₂,
    pkt, hpkt⟩

theorem age_right_iff_inOrder : ∃ t,
    Run step SendsWellFormed (new videoParams) [(sendAt 1 10000, []), (sendAt 2 17200, [])] t ∧
    (DiscardsOnlyPast videoParams [(sendAt 1 10000, []), (sendAt 2 17200, [])] t ∧
      ResendsFresh videoParams [(sendAt 1 10000, []), (sendAt 2 17200, [])] t ↔
      LastKeepsUp videoParams [(sendAt 1 10000, []), (sendAt 2 17200, [])]) := by
  obtain ⟨t, hr, -⟩ := sendTwo_run 10000 17200
  exact ⟨t, hr, age_right_iff (by decide : (90000 : ℕ) < 536870912) hr⟩

/-- The picture counts as old, and a NACK for it is not heeded. -/
theorem age_wrong_after_b_picture :
    ¬ ∀ (params : RtpParams) (h : List (Event × List Resent)) (t : StreamTrack),
      RateFits params → Run step SendsWellFormed (new params) h t →
      DiscardsOnlyPast params h t ∧ ResendsFresh params h t := by
  intro hall
  obtain ⟨t, hr, pkt, hpkt, hts, hold⟩ := sendTwo_run 17200 10000
  obtain ⟨n, hn, hpast⟩ :=
    (hall videoParams _ t (by decide : (90000 : ℕ) < 536870912) hr).1 (slotOf 1) pkt hpkt
      (hold.trans (by decide))
  rw [hts] at hpast
  have hnewest : newest 4294967296 (timestamps videoParams
      [(sendAt 1 17200, []), (sendAt 2 10000, [])]) = some 17200 := rfl
  obtain rfl := Option.some.inj (hnewest.symm.trans hn)
  exact absurd hpast (by decide)

end Samples

end StreamTrack

end WebrtcServer
