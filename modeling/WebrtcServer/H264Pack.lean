/-
# `H264Pack` — what the H.264 packetizer sends

The units that the scan of the Annex-B buffer finds are sent one by one,
each as it is or as the `Fragments` of it, and a receiver gets them back.
-/
import WebrtcServer.Depacketizer
import WebrtcServer.RtpEmit
import WebrtcServer.StartCodes

namespace WebrtcServer

open Lib

namespace H264RtpPacketizer

/-! ## One unit -/

open RtpPacketizer

/-- The packets of one unit: the last of them takes the marker. -/
structure Sends (timestamp : UInt32) (k : H264RtpPacketizer) (pkts : List RtpPacket)
    (k' : H264RtpPacketizer) : Prop where
  emits : Emits timestamp k.toRtpPacketizer pkts k'.toRtpPacketizer
  frameEndMarker : k'.frameEndMarker = k.frameEndMarker
  marked : Marked (k.frameEndMarker.toNat % 2) pkts

/-- A unit that fits is one packet. -/
theorem packSingNalu_spec (k : H264RtpPacketizer) (data : Memory) {n : Nat} (timestamp : UInt32)
    (h : n ≤ kMaxRtpPayloadSize) :
    ∃ k' pkt, k.packSingNalu data n timestamp = .ok (k', [pkt]) ∧
      Sends timestamp k [pkt] k' ∧ pkt.payload = window data 0 n := by
  have hlen : toSizeT n = n := toSizeT_natCast (by simp only [kMaxRtpPayloadSize] at h; omega)
  have hfits : (window data 0 n).length ≤ kMaxRtpPayloadSize := by simpa using h
  obtain ⟨base, pkt, hemit⟩ := emit_ok k.toRtpPacketizer timestamp k.frameEndMarker hfits
  refine ⟨{ k with toRtpPacketizer := base }, pkt, ?_,
    ⟨.single hemit, rfl, .last (emit_marker hemit)⟩, emit_payload hemit⟩
  simp only [packSingNalu, hlen, hemit]
  rfl

/-- The body of a fragment. -/
def fuBody (naluHeader : UInt8) (start end_ : Bool) (bytes : List UInt8) : List UInt8 :=
  fuIndicate naluHeader :: fuHeader naluHeader start end_ :: bytes

section FuA

variable {naluHeader frameEndMarker : UInt8} {timestamp : UInt32} {s : FuState} {n : Nat}
  {base : RtpPacketizer} {pkt : RtpPacket}

theorem fuTurn_last (hsize : s.size = n) (hn : n < 2147483648)
    (hle : n ≤ kMaxRtpPayloadSize - 2)
    (hemit : s.packetizer.emit timestamp frameEndMarker
      (fuBody naluHeader s.start true (window s.data 0 n)) = .ok (base, pkt)) :
    fuTurn naluHeader frameEndMarker timestamp s = .ok
      { packetizer := base, start := false, end_ := true, data := s.data.shift n, size := 0
        out := s.out ++ [pkt] } := by
  have hcmp : (s.end_ || decide (toUInt32 n ≤ kMaxRtpPayloadSize - 2)) = true := by
    rw [toUInt32_natCast hn]
    simp [hle]
  simp only [fuBody] at hemit
  simp only [fuTurn, hcmp, if_true, hsize, toSizeT_natCast hn, hemit, Int.sub_self]

theorem fuTurn_more (hend : s.end_ = false) (hsize : s.size = n) (hn : n < 2147483648)
    (hlt : kMaxRtpPayloadSize - 2 < n)
    (hemit : s.packetizer.emit timestamp 0
      (fuBody naluHeader s.start false (window s.data 0 (kMaxRtpPayloadSize - 2))) =
        .ok (base, pkt)) :
    fuTurn naluHeader frameEndMarker timestamp s = .ok
      { packetizer := base, start := false, end_ := false
        data := s.data.shift (kMaxRtpPayloadSize - 2)
        size := ((n - (kMaxRtpPayloadSize - 2) : Nat) : Int), out := s.out ++ [pkt] } := by
  have hcmp : (s.end_ || decide (toUInt32 n ≤ kMaxRtpPayloadSize - 2)) = false := by
    rw [toUInt32_natCast hn]
    simp [hend, hlt]
  have hchunk : toSizeT ((kMaxRtpPayloadSize : Int) - 2) = kMaxRtpPayloadSize - 2 := by decide
  have hleft : (n : Int) - ((kMaxRtpPayloadSize : Int) - 2) =
      ((n - (kMaxRtpPayloadSize - 2) : Nat) : Int) := by
    simp only [kMaxRtpPayloadSize] at hlt ⊢
    omega
  simp only [fuBody] at hemit
  simp only [fuTurn, hcmp, Bool.false_eq_true, if_false, hchunk, hemit, hsize, hleft]

/-- The loop of `PackFuA`: what is left of the unit goes out as fragments,
and nothing is left at the end.  The induction is on the fuel; a turn that
is not the last takes `kMaxRtpPayloadSize - 2` of the bytes that are left. -/
theorem fuLoop_spec (naluHeader frameEndMarker : UInt8) (timestamp : UInt32) {fuel n : Nat}
    {s : FuState} (hend : s.end_ = false) (hsize : s.size = n) (hn : n < 2147483648)
    (hfuel : n < fuel) :
    ∃ s' pkts, whileLoop FuState.more (fuTurn naluHeader frameEndMarker timestamp) fuel s
        = .ok s' ∧ s'.size = 0 ∧ s'.out = s.out ++ pkts ∧
      Emits timestamp s.packetizer pkts s'.packetizer ∧
      Marked (frameEndMarker.toNat % 2) pkts ∧
      Fragments naluHeader s.start (window s.data 0 n) (pkts.map RtpPacket.payload) := by
  induction fuel generalizing n s with
  | zero => exact absurd hfuel (Nat.not_lt_zero n)
  | succ fuel ih =>
      have hmore : s.more = true := by simp [FuState.more, hend]
      by_cases hle : n ≤ kMaxRtpPayloadSize - 2
      · have hfits : (fuBody naluHeader s.start true (window s.data 0 n)).length
            ≤ kMaxRtpPayloadSize := by
          simp only [kMaxRtpPayloadSize] at hle ⊢
          simp only [fuBody, List.length_cons, window_length]
          omega
        obtain ⟨base, pkt, hemit⟩ := emit_ok s.packetizer timestamp frameEndMarker hfits
        rw [whileLoop_of_turn hmore (fuTurn_last hsize hn hle hemit),
          whileLoop_of_not_more (by rfl)]
        refine ⟨_, [pkt], rfl, rfl, rfl, .single hemit, .last (emit_marker hemit), ?_⟩
        rw [List.map_singleton, emit_payload hemit]
        exact .last (by simpa using hle)
      · have hlt : kMaxRtpPayloadSize - 2 < n := Nat.lt_of_not_le hle
        have hfits : (fuBody naluHeader s.start false
            (window s.data 0 (kMaxRtpPayloadSize - 2))).length ≤ kMaxRtpPayloadSize := by
          simp [fuBody, kMaxRtpPayloadSize]
        obtain ⟨base, pkt, hemit⟩ := emit_ok s.packetizer timestamp 0 hfits
        have hpos : 0 < kMaxRtpPayloadSize - 2 := by decide
        obtain ⟨s', pkts, hloop, hzero, hout, hemits, hmarked, hfrag⟩ :=
          ih (s := { packetizer := base, start := false, end_ := false
                     data := s.data.shift (kMaxRtpPayloadSize - 2)
                     size := ((n - (kMaxRtpPayloadSize - 2) : Nat) : Int)
                     out := s.out ++ [pkt] }) rfl rfl (by omega) (by omega)
        rw [whileLoop_of_turn hmore (fuTurn_more hend hsize hn hlt hemit)]
        refine ⟨s', pkt :: pkts, hloop, hzero, by simp [hout], .cons hemit hemits,
          .more (emit_marker hemit) hmarked, ?_⟩
        have hsplit := window_append s.data 0 (kMaxRtpPayloadSize - 2)
          (n - (kMaxRtpPayloadSize - 2))
        rw [Nat.add_sub_cancel' (Nat.le_of_lt hlt)] at hsplit
        rw [List.map_cons, emit_payload hemit, hsplit]
        exact .more (by simp) (by simpa [window_shift] using hfrag)

/-- A unit that does not fit is fragments. -/
theorem packFuA_spec (k : H264RtpPacketizer) (data : Memory) (timestamp : UInt32)
    (h : kMaxRtpPayloadSize < n) (hn : n < 2147483648) :
    ∃ k' pkts, k.packFuA data n timestamp = .ok (k', pkts) ∧ Sends timestamp k pkts k' ∧
      Fragments (data 0) true (window data 1 (n - 1)) (pkts.map RtpPacket.payload) := by
  have hsize : (n : Int) - 1 = ((n - 1 : Nat) : Int) := by omega
  have hlt : n - 1 < n := by omega
  obtain ⟨s', pkts, hloop, hzero, hout, hemits, hmarked, hfrag⟩ :=
    fuLoop_spec (data 0) k.frameEndMarker timestamp
      (s := { packetizer := k.toRtpPacketizer, start := true, end_ := false, data := data.shift 1
              size := (n : Int) - 1, out := [] }) rfl hsize (by omega) hlt
  refine ⟨{ k with toRtpPacketizer := s'.packetizer }, pkts, ?_, ⟨hemits, rfl, hmarked⟩, ?_⟩
  · simp only [packFuA, Int.toNat_natCast, hloop]
    simp only [bind, Except.bind, hzero, hout, if_true, List.nil_append]
  · simpa [window_shift] using hfrag

end FuA

/-! ## All units -/

/-- The bytes of a unit found by the scan. -/
def unitAt (data : Memory) (nalu : NaluPosition) : List UInt8 := window data nalu.1 nalu.2

/-- How a unit is sent: as it is, or in fragments. -/
def SentAs (unit : List UInt8) (payloads : List (List UInt8)) : Prop :=
  if unit.length ≤ kMaxRtpPayloadSize then payloads = [unit]
  else ∃ header rest, unit = header :: rest ∧ Fragments header true rest payloads

theorem packUnit_spec (data : Memory) (timestamp : UInt32) (k : H264RtpPacketizer)
    {nalu : NaluPosition} (hn : nalu.2 < 2147483648) :
    ∃ k' group, packUnit data timestamp k nalu = .ok (k', group) ∧ Sends timestamp k group k' ∧
      SentAs (unitAt data nalu) (group.map RtpPacket.payload) := by
  simp only [packUnit, toInt_of_lt hn, SentAs, unitAt, window_length]
  by_cases hle : nalu.2 ≤ kMaxRtpPayloadSize
  · obtain ⟨k', pkt, hpack, hsends, hpay⟩ :=
      packSingNalu_spec k (data.shift nalu.1) timestamp hle
    refine ⟨k', [pkt], by rw [if_pos hle, hpack], hsends, ?_⟩
    rw [if_pos hle, List.map_singleton, hpay, window_shift, Nat.add_zero]
  · obtain ⟨k', pkts, hpack, hsends, hfrag⟩ :=
      packFuA_spec k (data.shift nalu.1) timestamp (Nat.lt_of_not_le hle) hn
    refine ⟨k', pkts, by rw [if_neg hle, hpack], hsends, ?_⟩
    rw [if_neg hle]
    refine ⟨data nalu.1, window data (nalu.1 + 1) (nalu.2 - 1), ?_, ?_⟩
    · rw [← window_succ, Nat.sub_add_cancel (by omega)]
    · simpa [window_shift] using hfrag

/-- The loop of `Pack`.  Only the last unit is packed with the marker set. -/
theorem packEach_spec (data : Memory) (timestamp : UInt32) (k : H264RtpPacketizer)
    (nalus : List NaluPosition) (h : ∀ nalu ∈ nalus, nalu.2 < 2147483648)
    (hmark : k.frameEndMarker = 0) :
    ∃ k' groups, packEach data timestamp k nalus = .ok (k', groups.flatten) ∧
      Emits timestamp k.toRtpPacketizer groups.flatten k'.toRtpPacketizer ∧
      List.Forall₂ (fun nalu group => SentAs (unitAt data nalu) (group.map RtpPacket.payload))
        nalus groups ∧ (nalus ≠ [] → Marked 1 groups.flatten) := by
  induction nalus generalizing k with
  | nil => exact ⟨k, [], rfl, .nil _, .nil, fun hne => absurd rfl hne⟩
  | cons nalu nalus ih =>
      obtain ⟨hn, hrest⟩ := List.forall_mem_cons.mp h
      cases nalus with
      | nil =>
          obtain ⟨k₁, group, hpack, hsends, hsent⟩ :=
            packUnit_spec data timestamp { k with frameEndMarker := 1 } hn
          refine ⟨k₁, [group], ?_, ?_, .cons hsent .nil, ?_⟩
          · simp only [packEach, List.length_nil, Nat.zero_add, if_true, hpack, bind, Except.bind,
              List.flatten_cons, List.flatten_nil]
          · simpa using hsends.emits
          · intro _
            simpa using hsends.marked
      | cons next nalus =>
          obtain ⟨k₁, group, hpack, hsends, hsent⟩ := packUnit_spec data timestamp k hn
          obtain ⟨k', groups, hrun, hemits, hall, hmarked⟩ :=
            ih k₁ hrest (hsends.frameEndMarker.trans hmark)
          have hlen : (next :: nalus).length + 1 ≠ 1 := by simp
          have hgroup : Marked 0 group := by
            have hm := hsends.marked
            rwa [hmark] at hm
          refine ⟨k', group :: groups, ?_, hsends.emits.append hemits, .cons hsent hall, ?_⟩
          · rw [packEach, if_neg hlen]
            simp only [hpack, hrun, bind, Except.bind, List.flatten_cons]
          · intro _
            exact hgroup.append (hmarked (List.cons_ne_nil _ _))

/-- The units that the scan finds in a media packet. -/
def units (packet : MediaPacket) : List (List UInt8) :=
  (parseNaluPositions packet.data packet.size).map (unitAt packet.data)

/-- A `Pack` sends each unit found, in order, and never faults. -/
theorem pack_spec (rtpTimestamp : Int → UInt32 → UInt32) (k : H264RtpPacketizer)
    (packet : MediaPacket) :
    ∃ k' groups, k.pack rtpTimestamp packet = .ok (k', groups.flatten) ∧
      Emits (rtpTimestamp packet.timestampMillis k.clockRate) k.toRtpPacketizer groups.flatten
        k'.toRtpPacketizer ∧
      List.Forall₂ (fun unit group => SentAs unit (group.map RtpPacket.payload))
        (units packet) groups ∧ (groups.flatten = [] ∨ Marked 1 groups.flatten) := by
  have hsmall : ∀ nalu ∈ parseNaluPositions packet.data packet.size, nalu.2 < 2147483648 := by
    intro nalu hn
    have hlt := packet.size_lt
    have hin := parseNaluPositions_within (by omega) nalu hn
    omega
  obtain ⟨k', groups, hpack, hemits, hall, hmarked⟩ := packEach_spec packet.data
    (rtpTimestamp packet.timestampMillis k.clockRate) { k with frameEndMarker := 0 } _ hsmall rfl
  refine ⟨k', groups, hpack, hemits, ?_, ?_⟩
  · rw [units, List.forall₂_map_left_iff]
    exact hall
  · by_cases hnone : parseNaluPositions packet.data packet.size = []
    · rw [hnone] at hall
      cases hall
      exact Or.inl rfl
    · exact Or.inr (hmarked hnone)

/-- The receiver gets a unit back from what it was sent as. -/
theorem feedAll_sentAs {unit : List UInt8} {payloads : List (List UInt8)} (hu : IsNalUnit unit)
    (h : SentAs unit payloads) (done : List (List UInt8)) :
    Depacketizer.feedAll ⟨none, done⟩ payloads = some ⟨none, done ++ [unit]⟩ := by
  simp only [SentAs] at h
  split at h
  next =>
    subst h
    simp [Depacketizer.feedAll, Depacketizer.feed_unit hu]
  next hlen =>
    obtain ⟨header, rest, rfl, hfrag⟩ := h
    apply Depacketizer.feedAll_fragments hfrag
    simp only [List.length_cons, kMaxRtpPayloadSize] at hlen ⊢
    omega

theorem feedAll_units {us : List (List UInt8)} {groups : List (List RtpPacket)}
    (h : List.Forall₂ (fun unit group => SentAs unit (group.map RtpPacket.payload)) us groups)
    (hu : ∀ unit ∈ us, IsNalUnit unit) (done : List (List UInt8)) :
    Depacketizer.feedAll ⟨none, done⟩ (groups.flatten.map RtpPacket.payload) =
      some ⟨none, done ++ us⟩ := by
  induction h generalizing done with
  | nil => simp [Depacketizer.feedAll]
  | @cons unit group us groups hsent _ ih =>
      obtain ⟨hunit, hrest⟩ := List.forall_mem_cons.mp hu
      rw [List.flatten_cons, List.map_append, Depacketizer.feedAll_append,
        feedAll_sentAs hunit hsent, Option.bind_some, ih hrest]
      simp

/-- A unit sent whole is one payload that fits; a longer one is fragments
that fit, with the start and end bits where they belong. -/
theorem SentAs.shape {unit : List UInt8} {payloads : List (List UInt8)}
    (h : SentAs unit payloads) :
    (unit.length ≤ kMaxRtpPayloadSize → payloads = [unit]) ∧
      (kMaxRtpPayloadSize < unit.length → Fragmented payloads) ∧
      ∀ p ∈ payloads, p.length ≤ kMaxRtpPayloadSize := by
  simp only [SentAs] at h
  split at h
  next hle =>
    subst h
    exact ⟨fun _ => rfl, fun hlt => absurd hle (Nat.not_le_of_lt hlt), by simpa using hle⟩
  next hlen =>
    obtain ⟨header, rest, rfl, hfrag⟩ := h
    refine ⟨fun hle => absurd hle hlen, fun hlt => hfrag.fragmented ?_, fun p hp =>
      (hfrag.fits p hp).2⟩
    simp only [List.length_cons, kMaxRtpPayloadSize] at hlt ⊢
    omega

theorem fits_of_sentAs {us : List (List UInt8)} {groups : List (List RtpPacket)}
    (h : List.Forall₂ (fun unit group => SentAs unit (group.map RtpPacket.payload)) us groups) :
    ∀ pkt ∈ groups.flatten, pkt.payload.length ≤ kMaxRtpPayloadSize := by
  induction h with
  | nil => simp
  | cons hsent _ ih =>
      intro pkt hp
      rcases List.mem_append.mp (List.flatten_cons ▸ hp) with hp | hp
      · exact hsent.shape.2.2 _ (List.mem_map_of_mem hp)
      · exact ih pkt hp

/-- The round trip: the receiver gets back the units of the buffer, each of
them sent whole or in two fragments or more, in payloads that fit and
packets that lie in `rtp_buf_`.  That `Pack` returns says that the assertion
behind the loop of `PackFuA` holds. -/
theorem pack_depacketize (rtpTimestamp : Int → UInt32 → UInt32) (k : H264RtpPacketizer)
    (packet : MediaPacket) (hunits : ∀ unit ∈ units packet, IsNalUnit unit) :
    ∃ k' groups, k.pack rtpTimestamp packet = .ok (k', groups.flatten) ∧
      depacketize (groups.flatten.map RtpPacket.payload) = some (units packet) ∧
      List.Forall₂ (fun unit group =>
          (unit.length ≤ kMaxRtpPayloadSize → group.map RtpPacket.payload = [unit]) ∧
          (kMaxRtpPayloadSize < unit.length → Fragmented (group.map RtpPacket.payload)))
        (units packet) groups ∧
      ∀ pkt ∈ groups.flatten,
        pkt.payload.length ≤ kMaxRtpPayloadSize ∧ pkt.size.toNat ≤ kRtpBufferSize := by
  obtain ⟨k', groups, hpack, hemits, hall, -⟩ := pack_spec rtpTimestamp k packet
  refine ⟨k', groups, hpack, ?_, hall.imp fun _ _ h => ⟨h.shape.1, h.shape.2.1⟩,
    fun pkt hp => ⟨fits_of_sentAs hall pkt hp, (hemits.wellFormed pkt hp).2.2⟩⟩
  simp only [depacketize, Depacketizer.start, feedAll_units hall hunits, List.nil_append]

/-- Two units behind start codes of four and of three bytes. -/
def sampleFrame : MediaPacket where
  data := Memory.ofList [0, 0, 0, 1, 0x67, 0x42, 0, 0, 1, 0x65, 0x88]
  size := 11
  timestampMillis := 40
  size_lt := by decide

theorem sampleFrame_units : units sampleFrame = [[0x67, 0x42], [0x65, 0x88]] := by decide

/-- A unit of two bytes, and behind it one of 1301. -/
def longFrame : MediaPacket where
  data := fun i => [0, 0, 0, 1, 0x67, 0x42, 0, 0, 1, 0x65].getD i 0x88
  size := 1310
  timestampMillis := 40
  size_lt := by decide

theorem longFrame_units :
    units longFrame = [[0x67, 0x42], 0x65 :: window longFrame.data 10 1300] := by
  have hbehind : ∀ j, 7 ≤ j → ¬ StartCode longFrame.data j := by
    rintro j hj ⟨-, -, hone⟩
    -- behind position 8 no byte is a one
    have hbyte : longFrame.data (j + 2) = 0x65 ∨ longFrame.data (j + 2) = 0x88 := by
      rcases Nat.eq_or_lt_of_le hj with rfl | hlt
      · exact Or.inl rfl
      · exact Or.inr (List.getD_eq_default _ _ (Nat.add_le_add_right hlt 2))
    rcases hbyte with h | h <;> rw [h] at hone <;> exact absurd hone (by decide)
  have hcodes : startCodes longFrame.data 1310 = [1, 6] := by
    rw [startCodes, hits_skip (k := 1) (by decide) (by decide), hits_cons (by decide) (by decide),
      hits_skip (k := 6) (by decide) (by decide), hits_cons (by decide) (by decide),
      hits_skip (k := 1307) (by decide) fun j hj _ => hbehind j hj, hits_of_le (by decide)]
  have hscan : plainScan longFrame.data 1310 = [(4, 6), (9, 1310)] := by
    rw [plainScan, hcodes]
    rfl
  have hfirst : window longFrame.data 4 2 = [0x67, 0x42] := rfl
  have hheader : longFrame.data 9 = 0x65 := rfl
  rw [units, parseNaluPositions_eq _ (by decide), show longFrame.size = 1310 from rfl, hscan]
  simp only [List.map_cons, List.map_nil, asPosition, unitAt, Nat.reduceSub]
  rw [hfirst, window_succ, hheader]

/-- The second unit goes out in fragments. -/
theorem pack_depacketize_longFrame :
    (∀ unit ∈ units longFrame, IsNalUnit unit) ∧
    (∃ unit ∈ units longFrame, kMaxRtpPayloadSize < unit.length) ∧
    ∃ k' groups, (new 12345678 102 90000 (fun _ => 0)).pack exactTimestamp longFrame =
        .ok (k', groups.flatten) ∧
      depacketize (groups.flatten.map RtpPacket.payload) = some (units longFrame) ∧
      List.Forall₂ (fun unit group =>
          (unit.length ≤ kMaxRtpPayloadSize → group.map RtpPacket.payload = [unit]) ∧
          (kMaxRtpPayloadSize < unit.length → Fragmented (group.map RtpPacket.payload)))
        (units longFrame) groups ∧
      ∀ pkt ∈ groups.flatten,
        pkt.payload.length ≤ kMaxRtpPayloadSize ∧ pkt.size.toNat ≤ kRtpBufferSize := by
  have hunits : ∀ unit ∈ units longFrame, IsNalUnit unit := by
    intro unit hu
    rw [longFrame_units] at hu
    rcases List.mem_pair.mp hu with rfl | rfl
    · exact ⟨0x67, [0x42], rfl, by decide⟩
    · exact ⟨0x65, _, rfl, by decide⟩
  refine ⟨hunits, ⟨0x65 :: window longFrame.data 10 1300, ?_, ?_⟩, pack_depacketize _ _ _ hunits⟩
  · rw [longFrame_units]
    exact List.mem_cons_of_mem _ List.mem_cons_self
  · rw [List.length_cons, window_length]
    decide

end H264RtpPacketizer

end WebrtcServer
