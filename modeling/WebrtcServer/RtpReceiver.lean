/-
# `RtpReceiver` — what a receiver makes of the packets of a track

The receiver tells the packets of a track apart by their SSRC: one with the
SSRC of the track is read as RFC 3550 has it, one with the RTX SSRC as
RFC 4588 has it, with the number and the payload of the packet that it
repeats.  Packets come in any order and any number of times; what is kept
of a frame is put together by number (`reassemble`).
-/
import WebrtcServer.MediaCalls
import WebrtcServer.Resend
import WebrtcServer.ResendAge

namespace WebrtcServer

open Lib

/-- What is kept of a packet. -/
structure KeptPacket where
  number : UInt16
  timestamp : UInt32
  payload : ByteString
deriving DecidableEq

def RtpPacket.kept (p : RtpPacket) : KeptPacket := ⟨p.sequenceNumber, p.timestamp, p.payload⟩

/-- The payload lies behind the header. -/
def readOriginal (data : ByteString) : KeptPacket :=
  let hdr := RtpHeader.decode (Memory.ofList data)
  ⟨hdr.sequenceNumber, hdr.timestamp, data.drop (RtpHeader.wireLength (Memory.ofList data))⟩

/-- Behind the header stands the original number, and then the payload. -/
def readRtx (data : ByteString) : KeptPacket :=
  let hdr := RtpHeader.decode (Memory.ofList data)
  let off := RtpHeader.wireLength (Memory.ofList data)
  ⟨loadUInt16BE ((Memory.ofList data).shift off), hdr.timestamp, data.drop (off + 2)⟩

/-- A packet of the track with the parameters `params`. -/
def receive (params : RtpParams) (data : ByteString) : Option KeptPacket :=
  let ssrc := (RtpHeader.decode (Memory.ofList data)).ssrc
  if ssrc = params.ssrc then some (readOriginal data)
  else if params.isRtxEnabled = true ∧ ssrc = params.rtxSsrc then some (readRtx data)
  else none

/-- The SSRCs of the packets of a track. -/
def RtpParams.ssrcs (params : RtpParams) : List UInt32 :=
  params.ssrc :: if params.isRtxEnabled then [params.rtxSsrc] else []

/-- Only packets with one of these SSRCs are read. -/
theorem receive_eq_none_iff {params : RtpParams} {data : ByteString} :
    receive params data = none ↔
      (RtpHeader.decode (Memory.ofList data)).ssrc ∉ params.ssrcs := by
  simp only [receive, RtpParams.ssrcs]
  cases params.isRtxEnabled with
  | false => by_cases h : (RtpHeader.decode (Memory.ofList data)).ssrc = params.ssrc <;> simp [h]
  | true =>
      by_cases h : (RtpHeader.decode (Memory.ofList data)).ssrc = params.ssrc
      · simp [h]
      · simp [h]

/-! ## Packets as they were sent, and RTX packets -/

theorem window_drop (mem : Memory) {m n : Nat} (h : m ≤ n) :
    (window mem 0 n).drop m = window mem m (n - m) := by
  have hsplit := window_append mem 0 m (n - m)
  rw [Nat.add_sub_cancel' h, Nat.zero_add] at hsplit
  rw [hsplit, List.drop_left' (window_length mem 0 m)]

/-- The bytes of a packet say what its header says, if they hold it. -/
theorem decode_sent (data : Memory) (n : Nat) (h : RtpHeader.wireLength data ≤ n) :
    RtpHeader.decode (Memory.ofList (window data 0 n)) = RtpHeader.decode data ∧
      RtpHeader.wireLength (Memory.ofList (window data 0 n)) = RtpHeader.wireLength data := by
  have hfixed := RtpHeader.fixed_le_wireLength data
  have hbytes : ∀ i < n, data i = Memory.ofList (window data 0 n) i := by
    intro i hi
    rw [ofList_window hi, Nat.zero_add]
  have hpos : kRtpHeaderFixedSize ≤ n := by omega
  refine ⟨(RtpHeader.decode_congr fun i hi => hbytes i (by omega)).symm,
    (RtpHeader.wireLength_congr (hbytes 0 (Nat.lt_of_lt_of_le (by decide) hpos)) ?_).symm⟩
  intro i _ hi
  exact hbytes i (by omega)

section Reads

variable {params : RtpParams} {p : RtpPacket} {r : Resent} {seq : UInt16}

theorem receive_original (hp : p.WellFormed) (hssrc : p.ssrc = params.ssrc) :
    receive params p.bytes = some p.kept := by
  obtain ⟨hdec, hlen⟩ := decode_sent p.data p.size.toNat
    (hp.headerOffset_eq ▸ hp.headerOffset_le)
  simp only [receive, RtpPacket.bytes, readOriginal, hdec, hlen, hp.ssrc_eq, hssrc, if_true]
  rw [← hp.headerOffset_eq, window_drop _ hp.headerOffset_le, hp.sequenceNumber_eq,
    hp.timestamp_eq]
  rfl

/-- The RTX form is read back to the packet that it carries. -/
theorem receive_rtx (hp : p.WellFormed) (hrtx : params.isRtxEnabled = true)
    (hne : params.rtxSsrc ≠ params.ssrc) (h : StreamTrack.Carries params p seq r) :
    receive params r.bytes = some p.kept := by
  have hle := hp.headerOffset_le
  obtain ⟨hdec, hlen⟩ := decode_sent r.pkt.data r.pkt.size.toNat (by
    rw [h.form.wireLength, h.size]
    omega)
  have hosn : loadUInt16BE ((Memory.ofList (window r.pkt.data 0 r.pkt.size.toNat)).shift
      p.headerOffset.toNat) = p.sequenceNumber := by
    apply loadUInt16BE_of_holds
    rw [← h.form.osn]
    simp only [Holds, window_length, window_shift, Nat.add_zero]
    refine window_eq_iff.mpr fun i hi => ?_
    rw [ofList_window (by rw [h.size]; omega), Nat.zero_add]
  have hpay : (window r.pkt.data 0 r.pkt.size.toNat).drop (p.headerOffset.toNat + 2) =
      p.payload := by
    rw [h.size, window_drop _ (by omega), Nat.add_sub_add_right, ← h.form.payload,
      RtpPacket.payload_length]
  simp only [receive, Resent.bytes, readRtx, hdec, hlen, h.form.wireLength, h.form.header, hne,
    hrtx, hosn, hpay, hp.timestamp_eq, if_false, and_self, if_true]
  rfl

/-- A packet resent as it was sent has its bytes. -/
theorem Stores.bytes_eq (h : Stores params p r.pkt) (hplain : r.pkt.isRtx = false) :
    r.bytes = p.bytes := by
  rw [Resent.bytes, RtpStoragePacket.size, hplain, if_neg Bool.false_ne_true, h.size,
    h.plain hplain]
  rfl

/-- It is read like the first time. -/
theorem receive_plain (hp : p.WellFormed) (hssrc : p.ssrc = params.ssrc)
    (h : Stores params p r.pkt) (hplain : r.pkt.isRtx = false) :
    receive params r.bytes = some p.kept := by
  rw [h.bytes_eq hplain, receive_original hp hssrc]

end Reads

namespace StreamTrack

/-! ## What a track sends again -/

/-- Without RTX no packet in the buffer has been rewritten. -/
def PlainOnly (t : StreamTrack) : Prop :=
  t.params.isRtxEnabled = false → ∀ slot pkt, t.sendBuffer slot = some pkt → pkt.isRtx = false

/-- The packet resent is read as the one that stood in the slot of its
number. -/
def ReadsLatest (params : RtpParams) (ws : List RtpPacket) (r : Resent) : Prop :=
  ∃ p, latest ws (slotOf p.sequenceNumber) = some p ∧
    r.pkt.sequenceNumber = p.sequenceNumber ∧ receive params r.bytes = some p.kept

section Steps

variable {params : RtpParams} {ws : List RtpPacket} {t t' : StreamTrack} {out : List Resent}

theorem resend_plain (hplain : PlainOnly t) {now : UInt64} {seqNum : UInt16}
    {pkt : RtpStoragePacket} (hpkt : t.sendBuffer (slotOf seqNum) = some pkt)
    (h : t.resend now seqNum pkt = .ok (t', out)) :
    PlainOnly t' ∧ t'.params = t.params ∧
      (t.params.isRtxEnabled = false → ∀ r ∈ out, r.pkt.isRtx = false) := by
  simp only [resend] at h
  split at h
  next hrtx =>
    split at h
    · cases h
    · cases h
      refine ⟨fun hoff => ?_, rfl, fun hoff => ?_⟩
      · exact absurd (hrtx.symm.trans hoff) (by decide)
      · exact absurd (hrtx.symm.trans hoff) (by decide)
  next =>
    cases h
    refine ⟨?_, rfl, ?_⟩
    · intro hoff slot pkt' hslot
      by_cases heq : slot = slotOf seqNum
      · subst heq
        simp only [setSlot, Function.update_self, Option.some.injEq] at hslot
        subst hslot
        exact hplain hoff _ pkt hpkt
      · simp only [setSlot, Function.update_of_ne heq] at hslot
        exact hplain hoff slot pkt' hslot
    · intro hoff r hr
      rw [List.mem_singleton.mp hr]
      exact hplain hoff _ pkt hpkt

theorem resendEach_plain (hplain : PlainOnly t) {clock : Nat → UInt64} {lost : List UInt16}
    (h : resendEach clock t lost = .ok (t', out)) :
    PlainOnly t' ∧ t'.params = t.params ∧
      (t.params.isRtxEnabled = false → ∀ r ∈ out, r.pkt.isRtx = false) := by
  induction lost generalizing clock t out with
  | nil =>
      cases h
      exact ⟨hplain, rfl, by simp⟩
  | cons seqNum lost ih =>
      obtain ⟨t₁, out₁, out₂, hfirst, hrest, rfl⟩ := resendEach_cons_eq_ok h
      rcases resendListed_eq_ok hfirst with ⟨rfl, rfl⟩ | ⟨pkt, hpkt, -, -, hresend⟩
      · exact ih hplain hrest
      · obtain ⟨hplain₁, hparams₁, hout₁⟩ := resend_plain hplain hpkt hresend
        obtain ⟨hplain₂, hparams₂, hout₂⟩ := ih hplain₁ hrest
        refine ⟨hplain₂, hparams₂.trans hparams₁, ?_⟩
        intro hoff r hr
        rcases List.mem_append.mp hr with hr | hr
        · exact hout₁ hoff r hr
        · exact hout₂ (hparams₁ ▸ hoff) r hr

/-- Only the buffer and the parameters matter. -/
theorem PlainOnly.congr (hplain : PlainOnly t) (hparams : t'.params = t.params)
    (hbuffer : t'.sendBuffer = t.sendBuffer) : PlainOnly t' := by
  intro hoff slot pkt hslot
  rw [hbuffer] at hslot
  rw [hparams] at hoff
  exact hplain hoff slot pkt hslot

theorem receivePacket_plain (hplain : PlainOnly t) {heap : Memory} {now : UInt64}
    {pkt : RtpPacket} (h : t.receivePacket heap now pkt = .ok t') :
    PlainOnly t' ∧ t'.params = t.params := by
  simp only [receivePacket] at h
  split at h
  · cases h
    exact ⟨hplain, rfl⟩
  · split at h
    · split at h
      · cases h
      next stored hnew =>
        cases h
        refine ⟨?_, rfl⟩
        intro hoff slot pkt' hslot
        have hstored : stored.isRtx = false := by
          simp only [RtpStoragePacket.new] at hnew
          split at hnew
          · cases hnew
            rfl
          · cases hnew
        by_cases heq : slot = slotOf pkt.sequenceNumber
        · subst heq
          simp only [setSlot, Function.update_self, Option.some.injEq] at hslot
          exact hslot ▸ hstored
        · simp only [setSlot, Function.update_of_ne heq] at hslot
          exact hplain hoff slot pkt' hslot
    · cases h
      exact ⟨hplain.congr rfl rfl, rfl⟩

theorem step_plain (hplain : PlainOnly t) {e : Event} (h : step t e = .ok (t', out)) :
    PlainOnly t' ∧ t'.params = t.params ∧
      (t.params.isRtxEnabled = false → ∀ r ∈ out, r.pkt.isRtx = false) := by
  cases e with
  | receivePacket heap now pkt =>
      simp only [step] at h
      split at h
      · cases h
      next t₁ hok =>
        cases h
        obtain ⟨hplain', hparams⟩ := receivePacket_plain hplain hok
        exact ⟨hplain', hparams, by simp⟩
  | receiveNack clock nack =>
      simp only [step, receiveNack] at h
      split at h
      · cases h
        exact ⟨hplain, rfl, by simp⟩
      · exact resendEach_plain hplain h
  | receiveReceiverReport now block =>
      cases h
      simp only [receiveReceiverReport]
      split
      · exact ⟨hplain.congr rfl rfl, rfl, by simp⟩
      · exact ⟨hplain, rfl, by simp⟩

/-- Every packet resent is read as the one that stood in the slot of its
number. -/
theorem readsLatest (hb : Buffered params ws t) (hplain : PlainOnly t)
    (hssrc : ∀ p ∈ ws, p.ssrc = params.ssrc)
    (hne : params.isRtxEnabled = true → params.rtxSsrc ≠ params.ssrc) {e : Event}
    (he : SendsWellFormed t e) (h : step t e = .ok (t', out)) :
    ∀ r ∈ out, ReadsLatest params ws r := by
  intro r hr
  obtain ⟨t₁, out₁, hok, -, -, hans⟩ := step_spec hb e he
  rw [h] at hok
  cases hok
  obtain ⟨i, hi, rfl⟩ := List.getElem_of_mem hr
  obtain ⟨p, hp, hs, hform⟩ := hans i hi
  obtain ⟨hmem, hslot⟩ := latestIn_mem hp
  have hwf := hb.wellFormed p hmem
  refine ⟨p, by rw [hslot, hp], hs.sequenceNumber, ?_⟩
  by_cases hrtx : params.isRtxEnabled = true
  · obtain ⟨p', hp', hcarries⟩ := (hans i hi).carries hrtx hb.wellFormed
    obtain rfl : p = p' := Option.some.inj (hp.symm.trans hp')
    exact receive_rtx hwf hrtx (hne hrtx) hcarries
  · have hoff : t.params.isRtxEnabled = false := by
      rw [hb.params_eq]
      exact eq_false_of_ne_true hrtx
    exact receive_plain hwf (hssrc p hmem) hs ((step_plain hplain h).2.2 hoff _ hr)

end Steps

section Runs

variable {params : RtpParams} {h : List (Event × List Resent)} {t : StreamTrack}

theorem run_plain (hr : Run step SendsWellFormed (new params) h t) : PlainOnly t := by
  refine hr.invariant (I := fun _ t => PlainOnly t) ?_ ?_
  · intro _ _ _ hnone
    cases hnone
  · intro _ t e t' out hplain _ hstep
    exact (step_plain hplain hstep).1

theorem sent_ssrc {p : RtpPacket} (hp : p ∈ sent params h) : p.ssrc = params.ssrc := by
  obtain ⟨⟨e, out⟩, -, he⟩ := List.mem_filterMap.mp hp
  cases e with
  | receivePacket heap now pkt =>
      simp only [accepted] at he
      split at he
      next hcond =>
        cases he
        exact hcond.1
      · cases he
  | receiveNack clock nack => cases he
  | receiveReceiverReport now block => cases he

/-- In every run each packet resent is read as one that was sent. -/
theorem run_reads (hne : params.isRtxEnabled = true → params.rtxSsrc ≠ params.ssrc)
    (hr : Run step SendsWellFormed (new params) h t) :
    ∀ r ∈ outputs h, ∃ p ∈ sent params h, receive params r.bytes = some p.kept := by
  induction hr with
  | nil => simp
  | @snoc h t t' e out hr he hstep ih =>
      intro r hmem
      rw [outputs_snoc] at hmem
      rw [sent_snoc]
      rcases List.mem_append.mp hmem with hold | hnew
      · obtain ⟨p, hp, hread⟩ := ih r hold
        exact ⟨p, List.mem_append_left _ hp, hread⟩
      · obtain ⟨p, hp, -, hread⟩ := readsLatest (run_buffered hr).1 (run_plain hr)
          (fun p hp => sent_ssrc hp) hne he hstep r hnew
        exact ⟨p, List.mem_append_left _ (latestIn_mem hp).1, hread⟩

/-! ## The answer to a NACK

The events here hand no packet to the track: they are what a compound of
RTCP packets makes of it. -/

/-- Nothing is handed to the track. -/
def Quiet (h : List (Event × List Resent)) : Prop := ∀ x ∈ h, handed x.1 = none

theorem Quiet.sent_append {h h' : List (Event × List Resent)} (hq : Quiet h') :
    sent params (h ++ h') = sent params h := by
  have hnone : ∀ x ∈ h', accepted params x.1 = none := by
    rintro ⟨e, out⟩ hx
    have he := hq _ hx
    cases e with
    | receivePacket heap now pkt => cases he
    | receiveNack clock nack => rfl
    | receiveReceiverReport now block => rfl
  rw [sent, List.filterMap_append, List.filterMap_eq_nil_iff.mpr hnone, List.append_nil]
  rfl

/-- What is resent meanwhile is read as the packets in their slots. -/
theorem run_readsLatest {h' : List (Event × List Resent)} {t' : StreamTrack}
    (hne : params.isRtxEnabled = true → params.rtxSsrc ≠ params.ssrc)
    (hr : Run step SendsWellFormed (new params) (h ++ h') t') (hq : Quiet h') :
    ∀ r ∈ outputs h', ReadsLatest params (sent params h) r := by
  intro r hmem
  obtain ⟨⟨e, out⟩, hx, hrmem⟩ := List.mem_flatMap.mp hmem
  obtain ⟨before, after, rfl⟩ := List.append_of_mem hx
  rw [← List.append_assoc] at hr
  obtain ⟨u, u', hu, he, hstep⟩ := hr.step_at
  have hbefore : Quiet before := fun x hx => hq x (List.mem_append_left _ hx)
  rw [← hbefore.sent_append]
  exact readsLatest (run_buffered hu).1 (run_plain hu) (fun p hp => sent_ssrc hp) hne he hstep r
    hrmem

/-- A stored packet stays as it is, or it is resent. -/
theorem resendEach_keeps {t' : StreamTrack} {out : List Resent} {clock : Nat → UInt64}
    {lost : List UInt16} {slot : Slot} {pkt : RtpStoragePacket}
    (hpkt : t.sendBuffer slot = some pkt) (h : resendEach clock t lost = .ok (t', out)) :
    t'.sendBuffer slot = some pkt ∨
      ∃ r ∈ out, r.pkt.sequenceNumber = pkt.sequenceNumber := by
  induction lost generalizing clock t out with
  | nil =>
      cases h
      exact Or.inl hpkt
  | cons seqNum lost ih =>
      obtain ⟨t₁, out₁, out₂, hfirst, hrest, rfl⟩ := resendEach_cons_eq_ok h
      have hkept : t₁.sendBuffer slot = some pkt ∨
          ∃ r ∈ out₁, r.pkt.sequenceNumber = pkt.sequenceNumber := by
        rcases resendListed_eq_ok hfirst with ⟨rfl, -⟩ | ⟨pkt', hpkt', -, -, hresend⟩
        · exact Or.inl hpkt
        · obtain ⟨-, hother, r, rfl, hseq, -⟩ := resend_puts hresend
          by_cases heq : slot = slotOf seqNum
          · subst heq
            obtain rfl := Option.some.inj (hpkt.symm.trans hpkt')
            exact Or.inr ⟨r, List.mem_singleton_self r, hseq⟩
          · exact Or.inl ((hother slot heq).trans hpkt)
      rcases hkept with hkept | ⟨r, hr, hseq⟩
      · rcases ih hkept hrest with hlast | ⟨r, hr, hseq⟩
        · exact Or.inl hlast
        · exact Or.inr ⟨r, List.mem_append_right _ hr, hseq⟩
      · exact Or.inr ⟨r, List.mem_append_left _ hr, hseq⟩

/-- A quiet event answers a NACK, or it leaves the buffer and the dates
alone. -/
theorem step_quiet {t' : StreamTrack} {e : Event} {out : List Resent} (he : handed e = none)
    (h : step t e = .ok (t', out)) :
    (∃ clock lost, resendEach clock t lost = .ok (t', out)) ∨
      (KeepsDates t t' ∧ t'.sendBuffer = t.sendBuffer) := by
  cases e with
  | receivePacket heap now pkt => cases he
  | receiveNack clock nack =>
      simp only [step, receiveNack] at h
      split at h
      · cases h
        exact Or.inr ⟨⟨rfl, rfl, rfl⟩, rfl⟩
      · exact Or.inl ⟨clock, nack.lost, h⟩
  | receiveReceiverReport now block =>
      cases h
      simp only [receiveReceiverReport]
      split <;> exact Or.inr ⟨⟨rfl, rfl, rfl⟩, rfl⟩

theorem step_keepsDates {t' : StreamTrack} {e : Event} {out : List Resent} (he : handed e = none)
    (h : step t e = .ok (t', out)) : KeepsDates t t' := by
  rcases step_quiet he h with ⟨clock, lost, hresend⟩ | ⟨hdates, -⟩
  · exact resendEach_keepsDates hresend
  · exact hdates

theorem step_keeps {t' : StreamTrack} {e : Event} {out : List Resent} {slot : Slot}
    {pkt : RtpStoragePacket} (he : handed e = none) (hpkt : t.sendBuffer slot = some pkt)
    (h : step t e = .ok (t', out)) :
    t'.sendBuffer slot = some pkt ∨ ∃ r ∈ out, r.pkt.sequenceNumber = pkt.sequenceNumber := by
  rcases step_quiet he h with ⟨clock, lost, hresend⟩ | ⟨-, hbuffer⟩
  · exact resendEach_keeps hpkt hresend
  · exact Or.inl (by rw [hbuffer, hpkt])

/-- After quiet events the dates are the same, and a stored packet is still
there unless it was resent. -/
theorem run_keeps {C : StreamTrack → Event → Prop} {h' : List (Event × List Resent)}
    {t' : StreamTrack} (hr : Run step C t h' t') (hq : Quiet h') {slot : Slot}
    {pkt : RtpStoragePacket} (hpkt : t.sendBuffer slot = some pkt) :
    KeepsDates t t' ∧ (t'.sendBuffer slot = some pkt ∨
      ∃ r ∈ outputs h', r.pkt.sequenceNumber = pkt.sequenceNumber) := by
  induction hr with
  | nil => exact ⟨⟨rfl, rfl, rfl⟩, Or.inl hpkt⟩
  | @snoc h v v' e o _ _ hs ih =>
      obtain ⟨hdates, hv⟩ := ih fun x hx => hq x (List.mem_append_left _ hx)
      have he : handed e = none := hq (e, o) (by simp)
      refine ⟨hdates.trans (step_keepsDates he hs), ?_⟩
      rw [outputs_snoc]
      rcases hv with hv | ⟨r, hr, hseq⟩
      · rcases step_keeps he hv hs with hv' | ⟨r, hr, hseq⟩
        · exact Or.inl hv'
        · exact Or.inr ⟨r, List.mem_append_right _ hr, hseq⟩
      · exact Or.inr ⟨r, List.mem_append_left _ hr, hseq⟩

/-- A stored packet that was never resent and is not too old is resent, if
some NACK lists its number. -/
theorem run_answers {C : StreamTrack → Event → Prop} {h' : List (Event × List Resent)}
    {t' : StreamTrack} (hr : Run step C t h' t') (hq : Quiet h') {seqNum : UInt16}
    {pkt : RtpStoragePacket} (hpkt : t.sendBuffer (slotOf seqNum) = some pkt)
    (hfresh : pkt.resentMillisecs = 0) (hage : t.tooOld pkt = false)
    (hnack : t.params.isNackEnable = true) {clock : Nat → UInt64} {nack : NackPacket}
    {out : List Resent} (hmem : (.receiveNack clock nack, out) ∈ h')
    (hssrc : nack.mediaSsrc = t.params.ssrc) (hlost : seqNum ∈ nack.lost) :
    ∃ r ∈ outputs h', r.pkt.sequenceNumber = pkt.sequenceNumber := by
  obtain ⟨before, after, rfl⟩ := List.append_of_mem hmem
  obtain ⟨u, u', hbefore, -, hstep⟩ := hr.step_at
  have hqb : Quiet before := fun x hx => hq x (List.mem_append_left _ hx)
  obtain ⟨hdates, hu | ⟨r, hrmem, hseq⟩⟩ := run_keeps hbefore hqb hpkt
  · simp only [step, receiveNack, hdates.params, hssrc, hnack] at hstep
    simp only [ne_eq, not_true_eq_false, Bool.true_eq_false, or_self, if_false] at hstep
    obtain ⟨r, hrmem, hseq, -⟩ :=
      resendEach_fresh hlost hu ((hdates.tooOld pkt).trans hage) hfresh hstep
    exact ⟨r, List.mem_flatMap.mpr ⟨_, hmem, hrmem⟩, hseq⟩
  · rw [outputs_append]
    exact ⟨r, List.mem_append_left _ hrmem, hseq⟩

end Runs

end StreamTrack

end WebrtcServer
