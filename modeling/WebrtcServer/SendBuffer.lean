/-
# `SendBuffer` — what a track holds after a run

`Buffered` says what the ring holds in terms of the packets sent so far: in
each slot the latest of them that belongs there, in one of its two forms.
Every event keeps it, so it holds after every run, together with the
number of the next RTX packet; and every packet resent is the latest one
sent to the slot of the listed number (`Answers`).

The last section asks when the ring still has the packets of the last
`kSendBufferCapacity` sends.  The sequence number wraps at 65536, which is
no multiple of 1000, so packets 536 apart meet in a slot across a wrap.
-/
import WebrtcServer.Lib.Ring
import WebrtcServer.RtpEmit
import WebrtcServer.Rtx

namespace WebrtcServer

open Lib

namespace StreamTrack

/-! ## Histories -/

/-- The packet that an event puts into the send buffer. -/
def accepted (params : RtpParams) : Event → Option RtpPacket
  | .receivePacket _ _ pkt =>
      if pkt.ssrc = params.ssrc ∧ params.isNackEnable = true then some pkt else none
  | _ => none

/-- The packets put into the send buffer, in order. -/
def sent (params : RtpParams) (h : List (Event × List Resent)) : List RtpPacket :=
  h.filterMap fun x => accepted params x.1

/-- What a slot should hold after the packets `ws`. -/
def latest (ws : List RtpPacket) (slot : Slot) : Option RtpPacket :=
  latestIn (fun p => slotOf p.sequenceNumber) ws slot

/-- The packets given to the track are RTP packets. -/
def SendsWellFormed (_ : StreamTrack) (e : Event) : Prop :=
  ∀ heap now pkt, e = .receivePacket heap now pkt → pkt.WellFormed

@[simp] theorem sent_nil (params : RtpParams) : sent params [] = [] := rfl

theorem sent_snoc (params : RtpParams) (h : List (Event × List Resent)) (e : Event)
    (out : List Resent) :
    sent params (h ++ [(e, out)]) = sent params h ++ (accepted params e).toList := by
  simp only [sent, List.filterMap_append, List.filterMap_cons, List.filterMap_nil]
  cases accepted params e <;> rfl

/-! ## One event -/

/-- The track holds, of the packets `ws`, the latest of each slot. -/
structure Buffered (params : RtpParams) (ws : List RtpPacket) (t : StreamTrack) : Prop where
  params_eq : t.params = params
  wellFormed : ∀ p ∈ ws, p.WellFormed
  buffer : ∀ slot, Option.Rel (Stores params) (latest ws slot) (t.sendBuffer slot)

/-- A packet resent is the latest of `ws` in the slot of the listed number,
as it is stored, and in its RTX form with the number `seq` where RTX is in
use. -/
def Answers (params : RtpParams) (ws : List RtpPacket) (seq : UInt16) (r : Resent) : Prop :=
  ∃ p, latest ws (slotOf r.listed) = some p ∧ Stores params p r.pkt ∧
    (params.isRtxEnabled = true → r.pkt.isRtx = true ∧ RtxForm params p seq r.pkt.data)

section Events

variable {params : RtpParams} {ws : List RtpPacket} {t : StreamTrack}

theorem buffered_new (params : RtpParams) : Buffered params [] (new params) :=
  ⟨rfl, by simp, fun _ => .none⟩

theorem Buffered.some_of_slot (hb : Buffered params ws t) {slot : Slot} {pkt : RtpStoragePacket}
    (h : t.sendBuffer slot = some pkt) :
    ∃ p, latest ws slot = some p ∧ p.WellFormed ∧ Stores params p pkt := by
  have hrel := hb.buffer slot
  rw [h] at hrel
  generalize hw : latest ws slot = w at hrel
  cases hrel with
  | some hs => exact ⟨_, rfl, hb.wellFormed _ (latestIn_mem hw).1, hs⟩

/-- Another form of the packet in a slot leaves the buffer right. -/
theorem Buffered.setSlot (hb : Buffered params ws t) {slot : Slot} {p : RtpPacket}
    {pkt : RtpStoragePacket} (hp : latest ws slot = some p) (hs : Stores params p pkt) :
    Buffered params ws (t.setSlot slot pkt) := by
  refine ⟨hb.params_eq, hb.wellFormed, ?_⟩
  intro slot'
  by_cases hslot : slot' = slot
  · subst hslot
    rw [hp]
    simpa [StreamTrack.setSlot] using hs
  · simpa [StreamTrack.setSlot, hslot] using hb.buffer slot'

theorem receivePacket_spec (hb : Buffered params ws t) (heap : Memory) (now : UInt64)
    {p : RtpPacket} (hp : p.WellFormed) :
    ∃ t', t.receivePacket heap now p = .ok t' ∧
      Buffered params (ws ++ (accepted params (.receivePacket heap now p)).toList) t' ∧
      t'.rtxSequenceNumber = t.rtxSequenceNumber := by
  simp only [receivePacket, accepted, hb.params_eq]
  by_cases hssrc : p.ssrc = params.ssrc
  · by_cases hnack : params.isNackEnable = true
    · obtain ⟨stored, hnew, hstores⟩ := stores_new params hp heap
      simp only [hssrc, hnack, hnew, ne_eq, not_true_eq_false, if_false, if_true, and_self,
        Option.toList_some]
      refine ⟨_, rfl, ⟨rfl, ?_, ?_⟩, rfl⟩
      · intro q hq
        rcases List.mem_append.mp hq with hq | hq
        · exact hb.wellFormed q hq
        · rwa [List.mem_singleton.mp hq]
      · intro slot
        rw [latest, latestIn_snoc]
        by_cases hslot : slotOf p.sequenceNumber = slot
        · subst hslot
          simpa [StreamTrack.setSlot] using hstores
        · simpa [StreamTrack.setSlot, latest, hslot, Ne.symm hslot] using hb.buffer slot
    · simp only [hssrc, hnack, ne_eq, not_true_eq_false, if_false, Bool.false_eq_true, and_false,
        Option.toList_none, List.append_nil]
      exact ⟨_, rfl, ⟨rfl, hb.wellFormed, hb.buffer⟩, rfl⟩
  · simp only [hssrc, ne_eq, not_false_eq_true, if_true, false_and, if_false, Option.toList_none,
      List.append_nil]
    exact ⟨t, rfl, hb, rfl⟩

/-- What the resending of packets leaves of the track: everything but the
buffer and the number of the next RTX packet, which counts them. -/
structure Resends (t t' : StreamTrack) (out : List Resent) : Prop where
  rtxSequenceNumber : t.params.isRtxEnabled = true →
    t'.rtxSequenceNumber = t.rtxSequenceNumber + UInt16.ofNat out.length
  params : t'.params = t.params
  maxRtpTimestamp : t'.maxRtpTimestamp = t.maxRtpTimestamp
  rtt : t'.rtt = t.rtt

theorem Resends.refl (t : StreamTrack) : Resends t t [] :=
  ⟨fun _ => by simp, rfl, rfl, rfl⟩

theorem Resends.trans {t' t'' : StreamTrack} {out out' : List Resent} (h : Resends t t' out)
    (h' : Resends t' t'' out') : Resends t t'' (out ++ out') := by
  refine ⟨?_, h'.params.trans h.params, h'.maxRtpTimestamp.trans h.maxRtpTimestamp,
    h'.rtt.trans h.rtt⟩
  intro hrtx
  rw [h'.rtxSequenceNumber (h.params ▸ hrtx), h.rtxSequenceNumber hrtx, List.length_append,
    UInt16.ofNat_add, UInt16.add_assoc]

/-- One packet is resent. -/
theorem resend_spec (hb : Buffered params ws t) (now : UInt64) {seqNum : UInt16}
    {pkt : RtpStoragePacket} (hpkt : t.sendBuffer (slotOf seqNum) = some pkt) :
    ∃ t' r, t.resend now seqNum pkt = .ok (t', [r]) ∧ Buffered params ws t' ∧
      Resends t t' [r] ∧ r.listed = seqNum ∧
      r.pkt.sequenceNumber = pkt.sequenceNumber ∧ Answers params ws t.rtxSequenceNumber r := by
  obtain ⟨p, hp, hwf, hs⟩ := hb.some_of_slot hpkt
  have hs' : Stores params p { pkt with resentMillisecs := now } :=
    ⟨hs.ssrc, hs.sequenceNumber, hs.timestamp, hs.headerOffset, hs.size, hs.plain, hs.rtx⟩
  simp only [resend, hb.params_eq]
  by_cases hrtx : params.isRtxEnabled = true
  · obtain ⟨pkt', hmake, hstores, hform, hdata⟩ :=
      makeRtxPacket_spec hwf hs' t.rtxSequenceNumber
    have hb' := hb.setSlot hp hstores
    simp only [hrtx, if_true, hmake]
    refine ⟨_, _, rfl, ⟨hb'.params_eq, hb'.wellFormed, hb'.buffer⟩,
      ⟨fun _ => rfl, rfl, rfl, rfl⟩, rfl, ?_, p, hp, hstores, fun _ => ⟨hform, hdata⟩⟩
    rw [hstores.sequenceNumber, hs.sequenceNumber]
  · simp only [hrtx, Bool.false_eq_true, if_false]
    exact ⟨_, _, rfl, hb.setSlot hp hs', ⟨fun h => absurd (hb.params_eq ▸ h) hrtx, rfl, rfl, rfl⟩,
      rfl, rfl, p, hp, hs', fun h => absurd h hrtx⟩

/-- Without RTX the number plays no part. -/
theorem Answers.renumber {seq seq' : UInt16} {r : Resent} (hrtx : params.isRtxEnabled ≠ true)
    (h : Answers params ws seq r) : Answers params ws seq' r := by
  obtain ⟨p, hp, hs, -⟩ := h
  exact ⟨p, hp, hs, fun htrue => absurd htrue hrtx⟩

/-- The packets resent, numbered from `seq` on, each answer their number. -/
def Answered (params : RtpParams) (ws : List RtpPacket) (seq : UInt16) (out : List Resent) : Prop :=
  ∀ i (hi : i < out.length), Answers params ws (seq + UInt16.ofNat i) out[i]

theorem answered_nil (params : RtpParams) (ws : List RtpPacket) (seq : UInt16) :
    Answered params ws seq [] := fun i hi => absurd hi (by simp)

theorem Answers.answered {seq : UInt16} {r : Resent} (h : Answers params ws seq r) :
    Answered params ws seq [r] := by
  intro i hi
  obtain rfl : i = 0 := by simpa using hi
  simpa using h

theorem Answered.append {t' : StreamTrack} {out out' : List Resent}
    (hparams : t.params = params) (hres : Resends t t' out)
    (h : Answered params ws t.rtxSequenceNumber out)
    (h' : Answered params ws t'.rtxSequenceNumber out') :
    Answered params ws t.rtxSequenceNumber (out ++ out') := by
  intro i hi
  by_cases hlt : i < out.length
  · rw [List.getElem_append_left hlt]
    exact h i hlt
  · have hi' : i - out.length < out'.length := by
      rw [List.length_append] at hi
      omega
    rw [List.getElem_append_right (Nat.le_of_not_lt hlt)]
    have hans := h' (i - out.length) hi'
    by_cases hrtx : params.isRtxEnabled = true
    · rwa [hres.rtxSequenceNumber (hparams ▸ hrtx), UInt16.add_assoc, ← UInt16.ofNat_add,
        Nat.add_sub_cancel' (Nat.le_of_not_lt hlt)] at hans
    · exact hans.renumber hrtx

/-- One listed number: nothing or one packet. -/
theorem resendListed_spec (hb : Buffered params ws t) (now : UInt64) (seqNum : UInt16) :
    ∃ t' out, t.resendListed now seqNum = .ok (t', out) ∧ Buffered params ws t' ∧
      Resends t t' out ∧ Answered params ws t.rtxSequenceNumber out := by
  simp only [resendListed]
  cases hpkt : t.sendBuffer (slotOf seqNum) with
  | none => exact ⟨t, [], rfl, hb, .refl t, answered_nil _ _ _⟩
  | some pkt =>
      simp only
      split
      · exact ⟨t, [], rfl, hb, .refl t, answered_nil _ _ _⟩
      · split
        · exact ⟨t, [], rfl, hb, .refl t, answered_nil _ _ _⟩
        · obtain ⟨t', r, hr, hb', hres, -, -, hans⟩ := resend_spec hb now hpkt
          exact ⟨t', [r], hr, hb', hres, hans.answered⟩

/-- The loop of `ReceiveNack`; the induction is on the listed numbers. -/
theorem resendEach_spec (hb : Buffered params ws t) (clock : Nat → UInt64) (lost : List UInt16) :
    ∃ t' out, resendEach clock t lost = .ok (t', out) ∧ Buffered params ws t' ∧
      Resends t t' out ∧ Answered params ws t.rtxSequenceNumber out := by
  induction lost generalizing clock t with
  | nil => exact ⟨t, [], rfl, hb, .refl t, answered_nil _ _ _⟩
  | cons seqNum lost ih =>
      obtain ⟨t₁, out₁, h₁, hb₁, hres₁, hans₁⟩ := resendListed_spec hb (clock 0) seqNum
      obtain ⟨t₂, out₂, h₂, hb₂, hres₂, hans₂⟩ := ih hb₁ (fun i => clock (i + 1))
      exact ⟨t₂, out₁ ++ out₂, by simp only [resendEach, h₁, h₂], hb₂, hres₁.trans hres₂,
        hans₁.append hb.params_eq hres₁ hans₂⟩

theorem receiveNack_spec (hb : Buffered params ws t) (clock : Nat → UInt64) (nack : NackPacket) :
    ∃ t' out, t.receiveNack clock nack = .ok (t', out) ∧ Buffered params ws t' ∧
      Resends t t' out ∧ Answered params ws t.rtxSequenceNumber out := by
  simp only [receiveNack]
  split
  · exact ⟨t, [], rfl, hb, .refl t, answered_nil _ _ _⟩
  · exact resendEach_spec hb clock nack.lost

/-- No event faults, and each leaves the buffer as it should be. -/
theorem step_spec (hb : Buffered params ws t) (e : Event) (he : SendsWellFormed t e) :
    ∃ t' out, step t e = .ok (t', out) ∧
      Buffered params (ws ++ (accepted params e).toList) t' ∧
      (params.isRtxEnabled = true →
        t'.rtxSequenceNumber = t.rtxSequenceNumber + UInt16.ofNat out.length) ∧
      Answered params ws t.rtxSequenceNumber out := by
  cases e with
  | receivePacket heap now pkt =>
      obtain ⟨t', hstep, hb', hrtx⟩ := receivePacket_spec hb heap now (he heap now pkt rfl)
      exact ⟨t', [], by simp only [step, hstep], hb', fun _ => by simp [hrtx],
        answered_nil _ _ _⟩
  | receiveNack clock nack =>
      obtain ⟨t', out, hstep, hb', hres, hans⟩ := receiveNack_spec hb clock nack
      refine ⟨t', out, hstep, by simpa [accepted] using hb', ?_, hans⟩
      intro hrtx
      exact hres.rtxSequenceNumber (hb.params_eq ▸ hrtx)
  | receiveReceiverReport now block =>
      refine ⟨_, [], rfl, ?_, ?_, answered_nil _ _ _⟩
      · simp only [accepted, Option.toList_none, List.append_nil, receiveReceiverReport]
        split <;> exact ⟨hb.params_eq, hb.wellFormed, hb.buffer⟩
      · intro _
        simp only [receiveReceiverReport]
        split <;> simp

end Events

/-! ## Runs -/

section Runs

variable {params : RtpParams} {h : List (Event × List Resent)} {t : StreamTrack}

/-- After every run the buffer holds what was sent, and the RTX numbers
count the packets resent. -/
theorem run_buffered (hr : Run step SendsWellFormed (new params) h t) :
    Buffered params (sent params h) t ∧
      (params.isRtxEnabled = true → t.rtxSequenceNumber = UInt16.ofNat (outputs h).length) := by
  refine hr.invariant (I := fun h t => Buffered params (sent params h) t ∧
    (params.isRtxEnabled = true → t.rtxSequenceNumber = UInt16.ofNat (outputs h).length))
    ⟨buffered_new params, fun _ => rfl⟩ ?_
  rintro h t e t' out ⟨hb, hcount⟩ he hstep
  obtain ⟨t₁, out₁, hok, hb₁, hrtx₁, -⟩ := step_spec hb e he
  rw [hstep] at hok
  cases hok
  refine ⟨by rwa [sent_snoc], ?_⟩
  intro hrtx
  rw [hrtx₁ hrtx, hcount hrtx, outputs_snoc, List.length_append, UInt16.ofNat_add]

/-- In a run every packet resent answers a listed number. -/
theorem run_answered (hr : Run step SendsWellFormed (new params) h t)
    {pre post : List (Event × List Resent)} {e : Event} {out : List Resent}
    (hh : h = pre ++ (e, out) :: post) :
    ∃ seq, Answered params (sent params pre) seq out ∧
      (params.isRtxEnabled = true → seq = UInt16.ofNat (outputs pre).length) := by
  subst hh
  obtain ⟨u, u', hpre, he, hstep⟩ := hr.step_at
  obtain ⟨hb, hcount⟩ := run_buffered hpre
  obtain ⟨u₁, out₁, hok, -, -, hans⟩ := step_spec hb e he
  rw [hstep] at hok
  cases hok
  exact ⟨_, hans, hcount⟩

/-- A run can always go on. -/
theorem run_next (hr : Run step SendsWellFormed (new params) h t) (e : Event)
    (he : SendsWellFormed t e) : ∃ t' out, step t e = .ok (t', out) := by
  obtain ⟨t', out, hok, -⟩ := step_spec (run_buffered hr).1 e he
  exact ⟨t', out, hok⟩

end Runs

/-! ## The most recent packets -/

/-- The packets are numbered one after the other from `s₀` on, modulo
`2 ^ 16`, as a packetizer numbers them. -/
def Numbered (s₀ : UInt16) (ws : List RtpPacket) : Prop :=
  ∀ i (hi : i < ws.length), ws[i].sequenceNumber = s₀ + UInt16.ofNat i

/-- Each of the last `min n kSendBufferCapacity` of the `n` packets `ws` is
in the slot that its number is looked up in. -/
def HoldsRecent (params : RtpParams) (ws : List RtpPacket) (t : StreamTrack) : Prop :=
  ∀ i (hi : i < ws.length), ws.length - min ws.length kSendBufferCapacity ≤ i →
    ∃ pkt, t.sendBuffer (slotOf ws[i].sequenceNumber) = some pkt ∧ Stores params ws[i] pkt

section Recent

variable {params : RtpParams} {ws : List RtpPacket} {t : StreamTrack} {s₀ : UInt16}

/-- The slot of the `i`-th packet. -/
theorem Numbered.slot (hn : Numbered s₀ ws) {i : Nat} (hi : i < ws.length) :
    (slotOf ws[i].sequenceNumber : Nat) = ringSlot 65536 kSendBufferCapacity (s₀.toNat + i) := by
  rw [hn i hi, slotOf, ringSlot]
  simp only [UInt16.toNat_add, UInt16.toNat_ofNat', Nat.add_mod_mod]

/-- Packets less than a cycle apart have different numbers. -/
theorem Numbered.ne (hn : Numbered s₀ ws) {i j : Nat} (hij : i < j) (hj : j < ws.length)
    (hlt : j - i < 65536) : ws[j].sequenceNumber ≠ ws[i].sequenceNumber := by
  intro heq
  rw [hn j hj, hn i (by omega)] at heq
  have hnat := congrArg UInt16.toNat heq
  have h0 := s₀.toNat_lt
  simp only [UInt16.toNat_add, UInt16.toNat_ofNat'] at hnat
  omega

/-- If two of the recent packets met in a slot, the earlier one would be
gone. -/
theorem HoldsRecent.keepsRecent (hb : Buffered params ws t) (hn : Numbered s₀ ws)
    (h : HoldsRecent params ws t) : KeepsRecent 65536 kSendBufferCapacity s₀.toNat ws.length := by
  intro i j hi hij hj heq
  obtain ⟨pkt, hpkt, hstores⟩ := h i (by omega) hi
  obtain ⟨p, hp, -, hp'⟩ := hb.some_of_slot hpkt
  -- the slot holds the last packet that went there, which is not the `i`-th
  obtain ⟨m, hm, rfl, -, hlater⟩ := latestIn_eq_some_iff_getElem.mp hp
  have hjm : j ≤ m := by
    by_contra hlt
    refine hlater j hj (by omega) (Fin.ext ?_)
    rw [hn.slot hj, hn.slot (i := i) (by omega), heq]
  refine hn.ne (i := i) (j := m) (by omega) hm ?_ ?_
  · have hcap : min ws.length kSendBufferCapacity ≤ 1000 := Nat.min_le_right _ _
    omega
  · rw [← hp'.sequenceNumber, hstores.sequenceNumber]

theorem HoldsRecent.of_keepsRecent (hb : Buffered params ws t) (hn : Numbered s₀ ws)
    (h : KeepsRecent 65536 kSendBufferCapacity s₀.toNat ws.length) :
    HoldsRecent params ws t := by
  intro i hi hlast
  have hlatest : latest ws (slotOf ws[i].sequenceNumber) = some ws[i] := by
    refine latestIn_eq_some_iff_getElem.mpr ⟨i, hi, rfl, rfl, ?_⟩
    intro j hj hij hslot
    have hval := congrArg Fin.val hslot
    rw [hn.slot hj, hn.slot hi] at hval
    exact h i j hlast hij hj hval.symm
  have hrel := hb.buffer (slotOf ws[i].sequenceNumber)
  rw [hlatest] at hrel
  generalize hpkt : t.sendBuffer (slotOf ws[i].sequenceNumber) = o at hrel
  cases hrel with
  | some hs => exact ⟨_, rfl, hs⟩

/-- The wrap of the sequence number lies within the recent packets, so far
back that two of them, `65536 % kSendBufferCapacity` apart, share a slot. -/
def WrapCollides (s₀ : UInt16) (n : Nat) : Prop :=
  65536 % kSendBufferCapacity < min n kSendBufferCapacity ∧
    0 < (s₀.toNat + n) % 65536 ∧ (s₀.toNat + n) % 65536 < min n kSendBufferCapacity

theorem Buffered.holdsRecent_iff (hb : Buffered params ws t) (hn : Numbered s₀ ws) :
    HoldsRecent params ws t ↔ ¬ WrapCollides s₀ ws.length := by
  have hring : HoldsRecent params ws t ↔
      KeepsRecent 65536 kSendBufferCapacity s₀.toNat ws.length :=
    ⟨HoldsRecent.keepsRecent hb hn, HoldsRecent.of_keepsRecent hb hn⟩
  have hpos : 0 < 65536 % kSendBufferCapacity := by decide
  rw [hring, keepsRecent_iff (by decide)]
  simp only [WrapCollides, hpos, true_and]

end Recent

/-- After every run the recent packets are all where they are looked up,
except where the last sequence number is too short a way past a wrap. -/
theorem run_holdsRecent_iff {params : RtpParams} {h : List (Event × List Resent)}
    {t : StreamTrack} (s₀ : UInt16) (hr : Run step SendsWellFormed (new params) h t)
    (hn : Numbered s₀ (sent params h)) :
    HoldsRecent params (sent params h) t ↔ ¬ WrapCollides s₀ (sent params h).length :=
  (run_buffered hr).1.holdsRecent_iff hn

section Samples

/-- The parameters of the video track in an answer. -/
def videoParams : RtpParams where
  mediaType := .video
  ssrc := 12345678
  clockRate := 90000
  payloadType := 102
  rtxSsrc := 9527
  rtxPayloadType := 121
  isRtxEnabled := true
  isNackEnable := true

/-- A packet of the video track without payload. -/
def videoPacket (seqnum : UInt16) (timestamp : UInt32) : RtpPacket where
  ssrc := videoParams.ssrc
  sequenceNumber := seqnum
  timestamp := timestamp
  headerOffset := 12
  data := RtpPacketizer.header
    { seqnum, payloadType := videoParams.payloadType, clockRate := videoParams.clockRate
      ssrc := videoParams.ssrc, rtpBuf := fun _ => 0 } timestamp 1
  size := 12

theorem videoPacket_wellFormed (seqnum : UInt16) (timestamp : UInt32) :
    (videoPacket seqnum timestamp).WellFormed := by
  have hdec := RtpPacketizer.decode_header
    { seqnum, payloadType := videoParams.payloadType, clockRate := videoParams.clockRate
      ssrc := videoParams.ssrc, rtpBuf := fun _ => 0 } timestamp 1
  refine ⟨?_, ?_, ?_, ?_, (by decide : 12 ≤ 12), (by decide : 12 < 2147483648)⟩ <;>
    simp [videoPacket, RtpHeader.wireLength, hdec, kRtpHeaderFixedSize]

/-- Packets of a NACK-enabled track can be sent one after the other. -/
theorem run_of_packets {params : RtpParams} (hnack : params.isNackEnable = true)
    (ws : List RtpPacket) (hws : ∀ p ∈ ws, p.WellFormed ∧ p.ssrc = params.ssrc) :
    ∃ h t, Run step SendsWellFormed (new params) h t ∧ sent params h = ws := by
  induction ws using List.reverseRecOn with
  | nil => exact ⟨[], _, .nil, rfl⟩
  | append_singleton ws p ih =>
      obtain ⟨h, t, hr, hsent⟩ := ih fun q hq => hws q (List.mem_append_left _ hq)
      obtain ⟨hwf, hssrc⟩ := hws p (by simp)
      have hsend : SendsWellFormed t (.receivePacket (fun _ => 0) 0 p) := by
        rintro _ _ _ ⟨⟩
        exact hwf
      obtain ⟨t', out, hok⟩ := run_next hr _ hsend
      refine ⟨_, t', .snoc hr hsend hok, ?_⟩
      simp [sent_snoc, hsent, accepted, hssrc, hnack]

/-- `n` packets of the video track, from the number `s₀` on. -/
def videoPackets (s₀ : UInt16) (n : Nat) : List RtpPacket :=
  (List.range n).map fun i => videoPacket (s₀ + UInt16.ofNat i) 0

theorem videoPackets_run (s₀ : UInt16) (n : Nat) :
    ∃ h t, Run step SendsWellFormed (new videoParams) h t ∧
      sent videoParams h = videoPackets s₀ n ∧ Numbered s₀ (sent videoParams h) := by
  obtain ⟨h, t, hr, hsent⟩ := run_of_packets (show videoParams.isNackEnable = true from rfl)
    (videoPackets s₀ n) (fun p hp => by
      obtain ⟨i, -, rfl⟩ := List.mem_map.mp hp
      exact ⟨videoPacket_wellFormed _ _, rfl⟩)
  refine ⟨h, t, hr, hsent, ?_⟩
  rw [hsent]
  intro i hi
  simp [videoPackets, videoPacket]

/-- Three packets across the wrap are all there. -/
theorem holdsRecent_across_wrap :
    ∃ h t, Run step SendsWellFormed (new videoParams) h t ∧
      Numbered 65534 (sent videoParams h) ∧ (sent videoParams h).length = 3 ∧
      HoldsRecent videoParams (sent videoParams h) t := by
  obtain ⟨h, t, hr, hsent, hn⟩ := videoPackets_run 65534 3
  have hlen : (sent videoParams h).length = 3 := by simp [hsent, videoPackets]
  refine ⟨h, t, hr, hn, hlen, (run_holdsRecent_iff 65534 hr hn).mpr ?_⟩
  rw [hlen]
  rintro ⟨hlt, -⟩
  exact absurd hlt (by decide)

/-- The packet behind the first wrap takes the slot of one that was sent
536 packets before it. -/
theorem firstWrap_overwrites :
    ∃ h t, Run step SendsWellFormed (new videoParams) h t ∧
      Numbered 0 (sent videoParams h) ∧ (sent videoParams h).length = 65537 ∧
      ¬ HoldsRecent videoParams (sent videoParams h) t := by
  obtain ⟨h, t, hr, hsent, hn⟩ := videoPackets_run 0 65537
  have hlen : (sent videoParams h).length = 65537 := by simp [hsent, videoPackets]
  refine ⟨h, t, hr, hn, hlen, ?_⟩
  rw [(run_buffered hr).1.holdsRecent_iff hn, hlen, not_not]
  exact ⟨by decide, by decide, by decide⟩

end Samples

end StreamTrack

end WebrtcServer
