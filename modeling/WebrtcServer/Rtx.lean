/-
# `Rtx` — a stored packet and its RTX form

A stored packet has two forms: the bytes that were sent, and, after the
first resend over RTX, the packet of RFC 4588 that carries them.  `Stores`
relates a sent packet to what is stored of it in either form, and
`makeRtxPacket_spec` is the one fact about `MakeRtxPacket`: from either
form it makes the RTX form with the number it is given, and it writes
within the allocation.
-/
import WebrtcServer.StreamTrack

namespace WebrtcServer

open Lib

/-! ## What the setters leave alone -/

namespace FixedRtpHeader

variable {hdr : Memory} {i : Nat}

theorem setSeqNum_apply (v : UInt16) (h : i < 2 ∨ 4 ≤ i) : setSeqNum hdr v i = hdr i :=
  poke_outside (by simpa using h)

theorem setSSrc_apply (v : UInt32) (h : i < 8 ∨ 12 ≤ i) : setSSrc hdr v i = hdr i :=
  poke_outside (by simpa using h)

theorem setPayloadType_apply (v : UInt8) (h : i < 1 ∨ 2 ≤ i) : setPayloadType hdr v i = hdr i :=
  poke_outside (by simpa using h)

end FixedRtpHeader

/-! ## The two forms -/

/-- `data` is the RTX packet with the number `seq` that carries `p`: RFC 4588
wants the header of the original with the SSRC, the payload type and the
sequence number of the RTX stream, then the original sequence number, then
the original payload. -/
structure RtxForm (params : RtpParams) (p : RtpPacket) (seq : UInt16) (data : Memory) : Prop where
  header : RtpHeader.decode data =
    { RtpHeader.decode p.data with
      ssrc := params.rtxSsrc, payloadType := params.rtxPayloadType.toNat % 128
      sequenceNumber := seq }
  headerRest : ∀ i, kRtpHeaderFixedSize ≤ i → i < p.headerOffset.toNat → data i = p.data i
  wireLength : RtpHeader.wireLength data = p.headerOffset.toNat
  osn : window data p.headerOffset.toNat 2 = storeUInt16BE p.sequenceNumber
  payload : window data (p.headerOffset.toNat + 2) p.payload.length = p.payload

/-- `pkt` is what is stored of `p`. -/
structure Stores (params : RtpParams) (p : RtpPacket) (pkt : RtpStoragePacket) : Prop where
  ssrc : pkt.ssrc = p.ssrc
  sequenceNumber : pkt.sequenceNumber = p.sequenceNumber
  timestamp : pkt.timestamp = p.timestamp
  headerOffset : pkt.headerOffset = p.headerOffset
  size : pkt.size_ = p.size
  plain : pkt.isRtx = false → window pkt.data 0 p.size.toNat = window p.data 0 p.size.toNat
  rtx : pkt.isRtx = true → ∃ seq, RtxForm params p seq pkt.data

section Forms

variable {params : RtpParams} {p : RtpPacket} {pkt : RtpStoragePacket}

theorem RtpPacket.WellFormed.fixed_le (hp : p.WellFormed) :
    kRtpHeaderFixedSize ≤ p.headerOffset.toNat := by
  rw [hp.headerOffset_eq]
  have hle := RtpHeader.fixed_le_wireLength p.data
  omega

@[simp] theorem RtpPacket.payload_length (p : RtpPacket) :
    p.payload.length = p.size.toNat - p.headerOffset.toNat := by
  simp [RtpPacket.payload]

theorem RtpPacket.WellFormed.size_add (hp : p.WellFormed) :
    (p.size + kRtxExtraSize).toNat = p.size.toNat + 2 := by
  have hlt := hp.size_lt
  rw [UInt32.toNat_add]
  exact Nat.mod_eq_of_lt (by simp only [kRtxExtraSize]; change p.size.toNat + 2 < _; omega)

variable (params) in
/-- A packet is stored as it was sent. -/
theorem stores_new (hp : p.WellFormed) (heap : Memory) :
    ∃ pkt, RtpStoragePacket.new p heap = .ok pkt ∧ Stores params p pkt := by
  have hfits : p.size.toNat ≤ (p.size + kRtxExtraSize).toNat := by
    rw [hp.size_add]
    omega
  refine ⟨_, if_pos hfits, ⟨rfl, rfl, rfl, rfl, rfl, ?_, fun h => absurd h (by simp)⟩⟩
  intro _
  have hcopy := window_poke_same heap 0 (window p.data 0 p.size.toNat)
  rwa [window_length] at hcopy

/-- The RTX form is renumbered in place. -/
theorem RtxForm.setSeqNum {data : Memory} {seq : UInt16} (hp : p.WellFormed)
    (h : RtxForm params p seq data) (seq' : UInt16) :
    RtxForm params p seq' (FixedRtpHeader.setSeqNum data seq') := by
  have hfix := hp.fixed_le
  simp only [kRtpHeaderFixedSize] at hfix
  have hsame : ∀ i, 12 ≤ i → FixedRtpHeader.setSeqNum data seq' i = data i := fun i hi =>
    FixedRtpHeader.setSeqNum_apply seq' (Or.inr (by omega))
  refine ⟨?_, ?_, ?_, ?_, ?_⟩
  · rw [RtpHeader.decode_setSeqNum, h.header]
  · intro i hi hlt
    rw [hsame i hi, h.headerRest i hi hlt]
  · rw [← h.wireLength]
    exact (RtpHeader.wireLength_congr (FixedRtpHeader.setSeqNum_apply seq' (Or.inl (by omega))).symm
      fun i hi _ => (hsame i hi).symm).symm
  · rw [← h.osn]
    exact window_eq_iff.mpr fun i _ => hsame _ (by omega)
  · refine Eq.trans (window_eq_iff.mpr fun i _ => hsame _ (by omega)) h.payload

theorem Stores.payloadLen (hp : p.WellFormed) (h : Stores params p pkt) :
    pkt.payloadLen = p.payload.length := by
  have hlt := hp.size_lt
  have hle := hp.headerOffset_le
  have hsub : (p.size - p.headerOffset).toNat = p.size.toNat - p.headerOffset.toNat :=
    UInt32.toNat_sub_of_le _ _ (UInt32.le_iff_toNat_le.mpr hle)
  rw [RtpStoragePacket.payloadLen, h.size, h.headerOffset, hsub, toInt_of_lt (by omega),
    toSizeT_natCast (by omega), RtpPacket.payload_length]

/-- The three setters of `MakeRtxPacket` write between the first byte and the
end of the fixed header. -/
theorem rtxHeader_apply (data : Memory) (ssrc : UInt32) (seq : UInt16) (payloadType : UInt8)
    (i : Nat) (h : i = 0 ∨ 12 ≤ i) :
    FixedRtpHeader.setPayloadType (FixedRtpHeader.setSeqNum (FixedRtpHeader.setSSrc data ssrc) seq)
      payloadType i = data i := by
  rw [FixedRtpHeader.setPayloadType_apply _ (by omega),
    FixedRtpHeader.setSeqNum_apply _ (by omega), FixedRtpHeader.setSSrc_apply _ (by omega)]

/-- The plain form becomes the RTX form: the payload moves up by two bytes,
the gap takes the original number, and the header is rewritten. -/
theorem Stores.rtxForm_of_plain (hp : p.WellFormed) (h : Stores params p pkt)
    (hplain : pkt.isRtx = false) (seq : UInt16) :
    RtxForm params p seq (pkt.rtxData params.rtxSsrc seq params.rtxPayloadType) := by
  have hfix := hp.fixed_le
  have hle := hp.headerOffset_le
  have hlen := h.payloadLen hp
  have hbytes : ∀ i < p.size.toNat, pkt.data i = p.data i := by
    simpa using window_eq_iff.mp (h.plain hplain)
  simp only [kRtpHeaderFixedSize] at hfix
  simp only [RtpStoragePacket.rtxData, hplain, Bool.false_eq_true, if_false, h.headerOffset, hlen]
  generalize hoff : p.headerOffset.toNat = off at hfix hle
  generalize hmoved : poke pkt.data (off + 2) (window pkt.data off p.payload.length) = moved
  generalize hfilled : poke moved off (window moved 2 2) = filled
  -- in front of the payload the copies leave the bytes alone
  have hfront : ∀ i < off, filled i = p.data i := by
    intro i hi
    rw [← hfilled, poke_lt hi, ← hmoved, poke_lt (by omega), hbytes i (by omega)]
  have hosn : window filled off 2 = window p.data 2 2 := by
    have hsame := window_poke_same moved off (window moved 2 2)
    rw [window_length, hfilled] at hsame
    rw [hsame, ← hmoved]
    exact window_eq_iff.mpr fun i hi => by
      rw [poke_lt (by omega), hbytes _ (by omega)]
  have hpay : window filled (off + 2) p.payload.length = p.payload := by
    have hcopy := window_poke_same pkt.data (off + 2) (window pkt.data off p.payload.length)
    rw [window_length, hmoved] at hcopy
    rw [← hfilled, window_poke_disjoint (Or.inr (by simp)), hcopy, RtpPacket.payload, hoff,
      window_length]
    exact window_eq_iff.mpr fun i hi => hbytes _ (by omega)
  -- and the setters leave the first byte alone, and those behind the fixed header
  have hback := rtxHeader_apply filled params.rtxSsrc seq params.rtxPayloadType
  refine ⟨?_, ?_, ?_, ?_, ?_⟩
  · have hdec : RtpHeader.decode filled = RtpHeader.decode p.data :=
      RtpHeader.decode_congr fun i hi => by
        simp only [kRtpHeaderFixedSize] at hi
        exact hfront i (by omega)
    simp [hdec]
  · intro i hi hlt
    rw [hback i (Or.inr hi), hfront i (by omega)]
  · rw [hoff, ← hoff, hp.headerOffset_eq]
    have hfirst := (hback 0 (Or.inl rfl)).trans (hfront 0 (by omega))
    refine (RtpHeader.wireLength_congr hfirst.symm ?_).symm
    intro i hi hlt
    rw [← hp.headerOffset_eq, hoff] at hlt
    rw [hback i (Or.inr hi), hfront i hlt]
  · rw [hoff, ← hp.sequenceNumber_eq]
    refine (window_eq_iff.mpr fun i _ => hback _ (Or.inr (by omega))).trans (hosn.trans ?_)
    exact (storeUInt16BE_load (p.data.shift 2)).symm
  · rw [hoff]
    exact (window_eq_iff.mpr fun i _ => hback _ (Or.inr (by omega))).trans hpay

/-- From either form `MakeRtxPacket` makes the RTX form, and it writes
within the allocation. -/
theorem makeRtxPacket_spec (hp : p.WellFormed) (h : Stores params p pkt) (seq : UInt16) :
    ∃ pkt', pkt.makeRtxPacket params.rtxSsrc seq params.rtxPayloadType = .ok pkt' ∧
      Stores params p pkt' ∧ pkt'.isRtx = true ∧ RtxForm params p seq pkt'.data := by
  have hform : RtxForm params p seq (pkt.rtxData params.rtxSsrc seq params.rtxPayloadType) := by
    cases hrtx : pkt.isRtx with
    | false => exact h.rtxForm_of_plain hp hrtx seq
    | true =>
        obtain ⟨seq', hold⟩ := h.rtx hrtx
        simp only [RtpStoragePacket.rtxData, hrtx, if_true]
        exact hold.setSeqNum hp seq
  have hwithin : AllWithin pkt.capacity pkt.rtxWrites := by
    have hfix := hp.fixed_le
    have hle := hp.headerOffset_le
    simp only [kRtpHeaderFixedSize] at hfix
    simp only [RtpStoragePacket.capacity, h.size, hp.size_add, RtpStoragePacket.rtxWrites,
      h.headerOffset, h.payloadLen hp, RtpPacket.payload_length]
    split <;> simp only [AllWithin, List.mem_cons, List.not_mem_nil, or_false, forall_eq_or_imp,
      forall_eq, Span.within_iff] <;> omega
  exact ⟨_, if_pos hwithin, ⟨h.ssrc, h.sequenceNumber, h.timestamp, h.headerOffset, h.size,
    fun hf => absurd hf (by simp), fun _ => ⟨seq, hform⟩⟩, rfl, hform⟩

end Forms

end WebrtcServer
