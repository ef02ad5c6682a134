/-
# `UnitPayloads` — which buffers are packed into clean units

Every unit that the scan finds is sent, an empty one in a packet that is
all header.  A unit is empty when two start codes follow each other with
nothing between them.  A start code in the last three bytes of the buffer is
not found, as the scan wants a byte behind it, and goes out with the last
unit.  Nothing else can make a payload empty or leave a start code in a
unit.
-/
import WebrtcServer.H264Pack

namespace WebrtcServer

open Lib

namespace H264RtpPacketizer

/-- Behind a start code, every other one has a byte of a unit in front of it
and a byte behind it. -/
def CleanlyDelimited (buffer : Memory) (size : Nat) : Prop :=
  ∀ i j, StartCode buffer i → StartCode buffer j → i < j → j + 3 ≤ size →
    i + 3 < unitStop buffer j ∧ j + 3 < size

/-- The bytes of the unit begin a start code somewhere. -/
def ContainsStartCode (unit : List UInt8) : Prop := [0, 0, 1] <:+: unit

/-- The packets carry something that fits, and the units no start code. -/
structure CleanPayloads (pkts : List RtpPacket) (units : List (List UInt8)) : Prop where
  sizes : ∀ pkt ∈ pkts, 1 ≤ pkt.payload.length ∧ pkt.payload.length ≤ kMaxRtpPayloadSize
  units : ∀ unit ∈ units, ¬ ContainsStartCode unit

/-! ## Empty payloads -/

theorem SentAs.ne_nil_iff {unit : List UInt8} {payloads : List (List UInt8)}
    (h : SentAs unit payloads) : (∀ p ∈ payloads, 1 ≤ p.length) ↔ unit ≠ [] := by
  simp only [SentAs] at h
  split at h
  next =>
    subst h
    simp [Nat.one_le_iff_ne_zero]
  next hlen =>
    obtain ⟨header, rest, rfl, hfrag⟩ := h
    refine iff_of_true ?_ (List.cons_ne_nil header rest)
    intro p hp
    exact Nat.le_of_succ_le (hfrag.two_le_length p hp)

theorem payloads_ne_nil_iff {us : List (List UInt8)} {groups : List (List RtpPacket)}
    (h : List.Forall₂ (fun unit group => SentAs unit (group.map RtpPacket.payload)) us groups) :
    (∀ pkt ∈ groups.flatten, 1 ≤ pkt.payload.length) ↔ ∀ unit ∈ us, unit ≠ [] := by
  induction h with
  | nil => simp
  | cons hsent _ ih =>
      rw [List.flatten_cons, List.forall_mem_append, List.forall_mem_cons, ih,
        ← hsent.ne_nil_iff, List.forall_mem_map]

section Units

variable {buffer : Memory} {size : Nat}

/-- The start codes found, one behind the other, leave bytes between them. -/
theorem Spaced.nonempty_iff {starts : List Nat} (h : Spaced buffer size starts) :
    (∀ u ∈ unitsBehind buffer size starts, u.1 < u.2) ↔
      starts.Pairwise fun i j => i + 3 < unitStop buffer j := by
  induction starts with
  | nil => simp [unitsBehind]
  | cons i starts ih =>
      rw [unitsBehind, List.forall_mem_cons, List.pairwise_cons, ih h.tail]
      refine and_congr_left ?_
      intro _
      cases starts with
      | nil => exact iff_of_true (h.before i List.mem_cons_self) (by simp)
      | cons j starts =>
          show i + 3 < unitStop buffer j ↔ _
          rw [List.forall_mem_cons, iff_self_and]
          intro hij k hk
          have hjk := (List.pairwise_cons.mp h.tail.apart).1 k hk
          have hle := unitStop_le buffer j
          omega

theorem plainScan_nonempty_iff (buffer : Memory) (size : Nat) :
    (∀ u ∈ plainScan buffer size, u.1 < u.2) ↔
      ∀ i j, StartCode buffer i → StartCode buffer j → i < j → j + 3 < size →
        i + 3 < unitStop buffer j := by
  rw [plainScan, (startCodes_spaced buffer size).nonempty_iff,
    pairwise_iff_of_sorted (startCodes_sorted buffer size)]
  constructor
  · intro h i j hi hj hij hlt
    exact h i (mem_startCodes.mpr ⟨by omega, hi⟩) j (mem_startCodes.mpr ⟨hlt, hj⟩) hij
  · intro h i hi j hj hij
    exact h i j (mem_startCodes.mp hi).2 (mem_startCodes.mp hj).2 hij (mem_startCodes.mp hj).1

/-! ## Start codes inside units -/

/-- A window contains a start code where the memory has one. -/
theorem containsStartCode_window {b len : Nat} :
    ContainsStartCode (window buffer b len) ↔
      ∃ q, b ≤ q ∧ q + 3 ≤ b + len ∧ StartCode buffer q := by
  constructor
  · rintro ⟨pre, post, heq⟩
    have hlen := congrArg List.length heq
    simp only [List.length_append, List.length_cons, List.length_nil, window_length] at hlen
    have hbyte : ∀ k (hk : k < 3), buffer (b + pre.length + k) = [(0 : UInt8), 0, 1][k] := by
      intro k hk
      have hin : pre.length + k < (window buffer b len).length := by
        rw [window_length]
        omega
      rw [Nat.add_assoc, ← window_getElem buffer b len (pre.length + k) hin]
      simp only [← heq, List.append_assoc]
      rw [List.getElem_append_right (Nat.le_add_right _ _)]
      simp only [Nat.add_sub_cancel_left]
      rw [List.getElem_append_left hk]
    exact ⟨b + pre.length, Nat.le_add_right _ _, by omega, hbyte 0 (by omega), hbyte 1 (by omega),
      hbyte 2 (by omega)⟩
  · rintro ⟨q, hbq, hq, hzero, hzero', hone⟩
    obtain ⟨m, rfl⟩ := Nat.exists_eq_add_of_le hbq
    obtain ⟨n, rfl⟩ : ∃ n, len = m + (3 + n) := ⟨len - m - 3, by omega⟩
    refine ⟨window buffer b m, window buffer (b + m + 3) n, ?_⟩
    rw [window_append, window_append, List.append_assoc]
    have hcode : window buffer (b + m) 3 = [0, 0, 1] := by
      rw [window_succ, window_succ, window_succ, hzero, hzero', hone]
      rfl
    rw [hcode]

/-- The only start code that a unit can contain stands at the end of the
buffer. -/
theorem plainScan_no_startCode_iff (buffer : Memory) (size : Nat) :
    (∀ u ∈ plainScan buffer size, ∀ q, u.1 ≤ q → q + 3 ≤ u.2 → ¬ StartCode buffer q) ↔
      ∀ i j, StartCode buffer i → StartCode buffer j → i < j → j + 3 ≤ size → j + 3 < size := by
  have hspaced := startCodes_spaced buffer size
  constructor
  · intro h i j hi hj hij hle
    by_contra hend
    -- the last unit takes the rest of the buffer, and `j` stands in it
    have hmem := mem_startCodes.mpr ⟨show i + 3 < size by omega, hi⟩
    have hne : plainScan buffer size ≠ [] := by
      rw [plainScan]
      cases hcodes : startCodes buffer size with
      | nil =>
          rw [hcodes] at hmem
          exact absurd hmem List.not_mem_nil
      | cons i starts => exact List.cons_ne_nil _ _
    have hlast := List.getLast?_eq_some_getLast hne
    obtain ⟨-, hstop⟩ := hspaced.last_unit _ hlast
    obtain ⟨k, hk, hbegin, -⟩ := hspaced.units_behind _ (List.getLast_mem hne)
    obtain ⟨hklt, hkcode⟩ := mem_startCodes.mp hk
    have hkj := hkcode.apart hj (by omega)
    exact h _ (List.getLast_mem hne) j (by omega) (by omega) hj
  · intro h u hu q hbq hqe hq
    obtain ⟨i, hi, hbegin, hstop⟩ := hspaced.units_behind u hu
    obtain ⟨-, hin⟩ := hspaced.units_within u hu
    have hlt := h i q (mem_startCodes.mp hi).2 hq (by omega) (by omega)
    have hle := hstop q (mem_startCodes.mpr ⟨hlt, hq⟩) (by omega)
    have := unitStop_le buffer q
    omega

end Units

/-! ## The packets of a buffer -/

theorem units_eq (packet : MediaPacket) :
    units packet =
      (plainScan packet.data packet.size).map fun u => window packet.data u.1 (u.2 - u.1) := by
  have hlt := packet.size_lt
  rw [units, parseNaluPositions_eq packet.data (by omega), List.map_map]
  rfl

theorem units_ne_nil_iff (packet : MediaPacket) :
    (∀ unit ∈ units packet, unit ≠ []) ↔
      ∀ u ∈ plainScan packet.data packet.size, u.1 < u.2 := by
  rw [units_eq, List.forall_mem_map]
  refine forall₂_congr ?_
  intro u _
  rw [← List.length_pos_iff, window_length]
  omega

theorem units_no_startCode_iff (packet : MediaPacket) :
    (∀ unit ∈ units packet, ¬ ContainsStartCode unit) ↔
      ∀ u ∈ plainScan packet.data packet.size, ∀ q, u.1 ≤ q → q + 3 ≤ u.2 →
        ¬ StartCode packet.data q := by
  rw [units_eq, List.forall_mem_map]
  refine forall₂_congr ?_
  intro u hu
  obtain ⟨hle, -⟩ := (startCodes_spaced packet.data packet.size).units_within u hu
  rw [containsStartCode_window, Nat.add_sub_cancel' hle]
  simp only [not_exists, not_and]

/-- A `Pack` sends the units of the buffer; its packets are all filled and
the units free of start codes exactly when the start codes of the buffer
stand clear of each other and of its end. -/
theorem pack_clean_iff (rtpTimestamp : Int → UInt32 → UInt32) (k : H264RtpPacketizer)
    (packet : MediaPacket) :
    ∃ k' groups, k.pack rtpTimestamp packet = .ok (k', groups.flatten) ∧
      List.Forall₂ (fun unit group => SentAs unit (group.map RtpPacket.payload))
        (units packet) groups ∧
      (CleanPayloads groups.flatten (units packet) ↔
        CleanlyDelimited packet.data packet.size) := by
  obtain ⟨k', groups, hpack, -, hall, -⟩ := pack_spec rtpTimestamp k packet
  refine ⟨k', groups, hpack, hall, ?_⟩
  have hnonempty := (payloads_ne_nil_iff hall).trans
    ((units_ne_nil_iff packet).trans (plainScan_nonempty_iff packet.data packet.size))
  have hcode := (units_no_startCode_iff packet).trans
    (plainScan_no_startCode_iff packet.data packet.size)
  constructor
  · rintro ⟨hsizes, hunits⟩ i j hi hj hij hle
    have hlt := hcode.mp hunits i j hi hj hij hle
    exact ⟨hnonempty.mp (fun pkt hp => (hsizes pkt hp).1) i j hi hj hij hlt, hlt⟩
  · intro hclean
    refine ⟨fun pkt hp => ⟨?_, fits_of_sentAs hall pkt hp⟩, ?_⟩
    · refine hnonempty.mpr ?_ pkt hp
      intro i j hi hj hij hlt
      exact (hclean i j hi hj hij (Nat.le_of_lt hlt)).1
    · exact hcode.mpr fun i j hi hj hij hle => (hclean i j hi hj hij hle).2

/-- Two start codes next to each other, and a third behind the unit. -/
def adjacentFrame : MediaPacket where
  data := Memory.ofList adjacentCodes
  size := 12
  timestampMillis := 40
  size_lt := by decide

/-- One packet is all header, and one unit ends with a start code. -/
theorem adjacentFrame_not_clean :
    ∃ k' pkts, (new 12345678 102 90000 (fun _ => 0)).pack exactTimestamp adjacentFrame =
        .ok (k', pkts) ∧
      (∃ pkt ∈ pkts, pkt.payload = []) ∧
      ∃ unit ∈ units adjacentFrame, ContainsStartCode unit := by
  have hunits : units adjacentFrame = [[], [0x67, 0x42, 0, 0, 1]] := by decide
  obtain ⟨k', groups, hpack, -, hall, -⟩ := pack_spec _ _ adjacentFrame
  refine ⟨k', groups.flatten, hpack, ?_, [0x67, 0x42, 0, 0, 1], ?_, [0x67, 0x42], [], rfl⟩
  · by_contra hnone
    have hfull : ∀ pkt ∈ groups.flatten, 1 ≤ pkt.payload.length := fun pkt hp =>
      List.length_pos_iff.mpr fun hnil => hnone ⟨pkt, hp, hnil⟩
    refine (payloads_ne_nil_iff hall).mp hfull [] ?_ rfl
    rw [hunits]
    exact List.mem_cons_self
  · rw [hunits]
    exact List.mem_cons_of_mem _ List.mem_cons_self

end H264RtpPacketizer

end WebrtcServer
