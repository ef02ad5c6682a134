/-
# `RtcpDecode` — what each RTCP sub-parser reads and how far it goes

`decode` says what a packet contains, by the offsets of its fields alone.
A sub-parser that finds enough bytes gives just that packet, and moves the
cursor over them (`parsePacket_spec`); how many are enough it decides on its
own, by the length field, by the number of NACK items that it computes from
the length field, or by the count of report blocks (`codeLength`).
-/
import WebrtcServer.RtcpPacket
import Mathlib.Tactic.Common

namespace WebrtcServer

open Lib

/-! ## The packet by its offsets -/

/-- The class that `RtcpCompound::Parse` chooses. -/
inductive RtcpClass where
  | generic
  | nack
  | receiverReport
deriving DecidableEq

def RtcpCommonHeader.classOf (hdr : RtcpCommonHeader) : RtcpClass :=
  if hdr.packetType = kRtcpTypeRtpfb then
    if hdr.countOrFormat = 1 then .nack else .generic
  else if hdr.packetType = kRtcpTypeRr then .receiverReport
  else .generic

/-- The bytes that a packet occupies by its own length field. -/
def RtcpCommonHeader.occupied (hdr : RtcpCommonHeader) : Nat := 4 * (hdr.length.toNat + 1)

/-- The numbers that one FCI item reports lost. -/
def lostOfItem (mem : Memory) : List UInt16 :=
  loadUInt16BE mem :: lostOfBitmask 16 (loadUInt16BE mem + 1) (loadUInt16BE (mem.shift 2))

def lostOfItems (mem : Memory) (items : Nat) : List UInt16 :=
  (List.range items).flatMap fun i => lostOfItem (mem.shift (4 * i))

def ReportBlock.load (mem : Memory) : ReportBlock where
  sourceSsrc := loadUInt32BE mem
  fractionLost := loadUInt8BE (mem.shift 4)
  cumulativeLost := loadUInt24BE (mem.shift 5)
  extendedHighSeqNum := loadUInt32BE (mem.shift 8)
  jitter := loadUInt32BE (mem.shift 12)
  lastSr := loadUInt32BE (mem.shift 16)
  delaySinceLastSr := loadUInt32BE (mem.shift 20)

def ReportBlock.loadAll (mem : Memory) (count : Nat) : List ReportBlock :=
  (List.range count).map fun i => ReportBlock.load (mem.shift (24 * i))

def RtcpCommonHeader.nackItems (hdr : RtcpCommonHeader) : Nat :=
  toSizeT ((hdr.length.toNat * 4 : Nat) - (8 : Int)) / 4

/-- The packet at `mem`. -/
def RtcpPacket.decode (mem : Memory) : RtcpPacket :=
  let header := RtcpCommonHeader.load mem
  match header.classOf with
  | .generic => ⟨header, .generic⟩
  | .nack =>
      ⟨header, .nack
        { senderSsrc := loadUInt32BE (mem.shift 4)
          mediaSsrc := loadUInt32BE (mem.shift 8)
          lost := lostOfItems (mem.shift 12) header.nackItems }⟩
  | .receiverReport =>
      ⟨header, .receiverReport
        { senderSsrc := loadUInt32BE (mem.shift 4)
          reportBlocks := ReportBlock.loadAll (mem.shift 8) header.countOrFormat }⟩

/-- The bytes that the sub-parser of the class consumes. -/
def RtcpCommonHeader.codeLength (hdr : RtcpCommonHeader) : Nat :=
  match hdr.classOf with
  | .generic => hdr.occupied
  | .nack => 12 + 4 * hdr.nackItems
  | .receiverReport => 8 + 24 * hdr.countOrFormat

/-- What the class of the packet contains at least: the header, the two SSRCs
of a NACK, the SSRC and the blocks of a receiver report. -/
def RtcpCommonHeader.minLength (hdr : RtcpCommonHeader) : Nat :=
  match hdr.classOf with
  | .generic => 4
  | .nack => 12
  | .receiverReport => 8 + 24 * hdr.countOrFormat

theorem RtcpCommonHeader.four_le_occupied (hdr : RtcpCommonHeader) : 4 ≤ hdr.occupied := by
  simp only [occupied]
  omega

theorem RtcpCommonHeader.four_le_codeLength (hdr : RtcpCommonHeader) : 4 ≤ hdr.codeLength := by
  simp only [codeLength, occupied]
  split <;> omega

/-- A NACK with room for its two SSRCs is consumed by its length field; for
a shorter one the number of items wraps around. -/
theorem RtcpCommonHeader.nack_codeLength (hdr : RtcpCommonHeader) :
    12 + 4 * hdr.nackItems =
      if 2 ≤ hdr.length.toNat then hdr.occupied else hdr.occupied + 18446744073709551616 := by
  have hlt := hdr.length.toNat_lt
  simp only [nackItems, toSizeT, occupied]
  split <;> omega

/-! ## Reads that move the cursor -/

/-- The cursor has moved over `n` bytes of what was left, reading none but
these. -/
structure ByteReader.Took (n : Nat) (r r' : ByteReader) : Prop where
  enough : n ≤ r.left
  bytes : r'.bytes = r.bytes
  end_ : r'.end_ = r.end_
  start : r'.start = r.start + n
  touched : ∃ spans, r'.touched = r.touched ++ spans ∧
    ∀ s ∈ spans, r.start ≤ s.1 ∧ s.1 + s.2 ≤ r.start + n

namespace ByteReader.Took

variable {m n : Nat} {r r' r'' : ByteReader}

theorem refl (r : ByteReader) : Took 0 r r :=
  ⟨Nat.zero_le _, rfl, rfl, rfl, [], by simp, by simp⟩

theorem left (h : Took n r r') : r'.left = r.left - n := by
  simp only [ByteReader.left, h.end_, h.start]
  omega

theorem currentData (h : Took n r r') : r'.currentData = r.currentData.shift n := by
  funext i
  simp only [ByteReader.currentData, h.bytes, h.start, Memory.shift_apply, Nat.add_assoc]

theorem trans (h : Took m r r') (h' : Took n r' r'') : Took (m + n) r r'' := by
  refine ⟨?_, h'.bytes.trans h.bytes, h'.end_.trans h.end_, ?_, ?_⟩
  · have hm := h.enough
    have hn := h'.enough
    rw [h.left] at hn
    omega
  · rw [h'.start, h.start, Nat.add_assoc]
  · obtain ⟨spans, heq, hspans⟩ := h.touched
    obtain ⟨spans', heq', hspans'⟩ := h'.touched
    refine ⟨spans ++ spans', by rw [heq', heq, List.append_assoc], ?_⟩
    intro s hs
    rcases List.mem_append.mp hs with hs | hs
    · have := hspans s hs
      omega
    · have := hspans' s hs
      rw [h.start] at this
      omega

end ByteReader.Took

section Reads

variable {r : ByteReader}

theorem ByteReader.took_take {n : Nat} (h : n ≤ r.left) : Took n r (r.take n) := by
  refine ⟨h, rfl, rfl, rfl, [(r.start, n)], rfl, ?_⟩
  intro s hs
  rw [List.mem_singleton.mp hs]
  exact ⟨le_rfl, le_rfl⟩

/-- A computation that gives `v` from `n` bytes, and nothing if there are
fewer. -/
def Reads {α : Type} (n : Nat) (v : α) (r : ByteReader) (out : Option (α × ByteReader)) : Prop :=
  if n ≤ r.left then ∃ r', out = some (v, r') ∧ r.Took n r' else out = none

theorem Reads.of_take {α : Type} {n : Nat} (v : α) (r : ByteReader) :
    Reads n v r (if r.left < n then none else some (v, r.take n)) := by
  simp only [Reads]
  split
  next h =>
    rw [if_neg (by omega)]
    exact ⟨_, rfl, ByteReader.took_take h⟩
  next h => rw [if_pos (by omega)]

/-- Two reads, one after the other. -/
theorem Reads.bind {α β : Type} {m n : Nat} {v : α} {w : β} {out : Option (α × ByteReader)}
    {next : α × ByteReader → Option (β × ByteReader)} (h : Reads m v r out)
    (hnext : ∀ r', r.Took m r' → Reads n w r' (next (v, r'))) :
    Reads (m + n) w r (out.bind next) := by
  simp only [Reads] at h ⊢
  by_cases hm : m ≤ r.left
  · rw [if_pos hm] at h
    obtain ⟨r', rfl, htook⟩ := h
    have hn := hnext r' htook
    simp only [Reads, htook.left] at hn
    by_cases hmn : m + n ≤ r.left
    · rw [if_pos (by omega)] at hn
      obtain ⟨r'', heq, htook'⟩ := hn
      rw [if_pos hmn]
      exact ⟨r'', heq, htook.trans htook'⟩
    · rw [if_neg (by omega)] at hn
      rw [if_neg hmn]
      exact hn
  · rw [if_neg hm] at h
    rw [if_neg (by omega), h]
    rfl

theorem Reads.pure {α : Type} (v : α) (r : ByteReader) : Reads 0 v r (some (v, r)) := by
  simp only [Reads, Nat.zero_le, if_true]
  exact ⟨r, rfl, .refl r⟩

theorem reads_commonHeader (r : ByteReader) :
    Reads 4 (RtcpCommonHeader.load r.currentData) r (parseCommonHeader r) := by
  have heq : parseCommonHeader r =
      if r.left < 4 then none else some (RtcpCommonHeader.load r.currentData, r.take 4) := by
    simp only [parseCommonHeader, ByteReader.readBytes]
    by_cases h : r.left < 4 <;> simp only [h, if_true, if_false]
  rw [heq]
  exact .of_take _ r

theorem reads_nackItems (items : Nat) (r : ByteReader) (lost : List UInt16) :
    Reads (4 * items) (lost ++ lostOfItems r.currentData items) r (parseNackItems items r lost) := by
  induction items generalizing r lost with
  | zero =>
      simpa [lostOfItems, parseNackItems] using Reads.pure lost r
  | succ items ih =>
      have hsum : 4 * (items + 1) = 2 + (2 + 4 * items) := by omega
      rw [hsum]
      refine (Reads.of_take (loadUInt16BE r.currentData) r).bind ?_
      intro r₁ h₁
      refine (Reads.of_take (loadUInt16BE r₁.currentData) r₁).bind ?_
      intro r₂ h₂
      have hitems := ih r₂ (lost ++ lostOfItem r.currentData)
      have hlost : lost ++ lostOfItems r.currentData (items + 1) =
          lost ++ lostOfItem r.currentData ++ lostOfItems r₂.currentData items := by
        have hoff : ∀ i, 4 * Nat.succ i = 2 + 2 + 4 * i := by omega
        simp only [lostOfItems, List.range_succ_eq_map, List.flatMap_cons, List.flatMap_map,
          (h₁.trans h₂).currentData, List.append_assoc, Memory.shift_shift, hoff, Nat.mul_zero,
          Memory.shift_zero]
      rw [hlost]
      have hitem : lostOfItem r.currentData = loadUInt16BE r.currentData ::
          lostOfBitmask 16 (loadUInt16BE r.currentData + 1) (loadUInt16BE r₁.currentData) := by
        rw [lostOfItem, h₁.currentData]
      rw [hitem] at hitems ⊢
      exact hitems

theorem reads_reportBlock (r : ByteReader) :
    Reads 24 (ReportBlock.load r.currentData) r (ReportBlock.parse r) := by
  refine Reads.bind (m := 4) (n := 20) (.of_take (loadUInt32BE r.currentData) r) ?_
  intro r₁ h₁
  refine Reads.bind (m := 1) (n := 19) (.of_take (loadUInt8BE r₁.currentData) r₁) ?_
  intro r₂ h₂
  refine Reads.bind (m := 3) (n := 16) (.of_take (loadUInt24BE r₂.currentData) r₂) ?_
  intro r₃ h₃
  refine Reads.bind (m := 4) (n := 12) (.of_take (loadUInt32BE r₃.currentData) r₃) ?_
  intro r₄ h₄
  refine Reads.bind (m := 4) (n := 8) (.of_take (loadUInt32BE r₄.currentData) r₄) ?_
  intro r₅ h₅
  refine Reads.bind (m := 4) (n := 4) (.of_take (loadUInt32BE r₅.currentData) r₅) ?_
  intro r₆ h₆
  refine Reads.bind (m := 4) (n := 0) (.of_take (loadUInt32BE r₆.currentData) r₆) ?_
  intro r₇ h₇
  have h02 := h₁.trans h₂
  have h03 := h02.trans h₃
  have h04 := h03.trans h₄
  have h05 := h04.trans h₅
  have h06 := h05.trans h₆
  simp only [ReportBlock.load, ← h₁.currentData, ← h02.currentData, ← h03.currentData,
    ← h04.currentData, ← h05.currentData, ← h06.currentData]
  exact Reads.pure _ r₇

theorem reads_reportBlocks (count : Nat) (r : ByteReader) (blocks : List ReportBlock) :
    Reads (24 * count) (blocks ++ ReportBlock.loadAll r.currentData count) r
      (parseReportBlocks count r blocks) := by
  induction count generalizing r blocks with
  | zero =>
      simpa [ReportBlock.loadAll, parseReportBlocks] using Reads.pure blocks r
  | succ count ih =>
      have hsum : 24 * (count + 1) = 24 + 24 * count := by omega
      rw [hsum]
      refine (reads_reportBlock r).bind ?_
      intro r₁ h₁
      have hblocks := ih r₁ (blocks ++ [ReportBlock.load r.currentData])
      have heq : blocks ++ ReportBlock.loadAll r.currentData (count + 1) =
          blocks ++ [ReportBlock.load r.currentData] ++ ReportBlock.loadAll r₁.currentData count := by
        have hoff : ∀ i, 24 * Nat.succ i = 24 + 24 * i := by omega
        simp only [ReportBlock.loadAll, List.range_succ_eq_map, List.map_cons, List.map_map,
          h₁.currentData, List.append_assoc, List.singleton_append, Memory.shift_shift,
          Function.comp_def, hoff, Nat.mul_zero, Memory.shift_zero]
      rw [heq]
      exact hblocks

end Reads

/-! ## The sub-parsers -/

section SubParsers

variable (r : ByteReader)

theorem reads_generic (hclass : (RtcpCommonHeader.load r.currentData).classOf = .generic) :
    Reads (RtcpCommonHeader.load r.currentData).codeLength (RtcpPacket.decode r.currentData) r
      (RtcpPacket.parseGeneric r) := by
  have hlen : (RtcpCommonHeader.load r.currentData).codeLength =
      4 + (RtcpCommonHeader.load r.currentData).length.toNat * 4 := by
    simp only [RtcpCommonHeader.codeLength, hclass, RtcpCommonHeader.occupied]
    omega
  rw [hlen]
  refine (reads_commonHeader r).bind ?_
  intro r₁ h₁
  simp only [RtcpPacket.decode, hclass, Reads, ByteReader.consume]
  split
  next h =>
    rw [if_neg (by omega)]
    exact ⟨_, rfl, h, rfl, rfl, rfl, [], by simp, by simp⟩
  next h =>
    rw [if_pos (by omega)]
    rfl

/-- What `NackPacket::Parse` makes of the bytes, whatever the class says. -/
def NackPacket.decode (mem : Memory) : NackPacket where
  senderSsrc := loadUInt32BE (mem.shift 4)
  mediaSsrc := loadUInt32BE (mem.shift 8)
  lost := lostOfItems (mem.shift 12) (RtcpCommonHeader.load mem).nackItems

theorem NackPacket.reads_parse :
    Reads (12 + 4 * (RtcpCommonHeader.load r.currentData).nackItems)
      ⟨RtcpCommonHeader.load r.currentData, .nack (NackPacket.decode r.currentData)⟩ r
      (NackPacket.parse r) := by
  have hlen : 12 + 4 * (RtcpCommonHeader.load r.currentData).nackItems =
      4 + (4 + (4 + (4 * (RtcpCommonHeader.load r.currentData).nackItems + 0))) := by
    omega
  rw [hlen]
  refine (reads_commonHeader r).bind ?_
  intro r₁ h₁
  refine (Reads.of_take (loadUInt32BE r₁.currentData) r₁).bind ?_
  intro r₂ h₂
  refine (Reads.of_take (loadUInt32BE r₂.currentData) r₂).bind ?_
  intro r₃ h₃
  refine (reads_nackItems _ r₃ []).bind ?_
  intro r₄ h₄
  have h02 := h₁.trans h₂
  have h03 := h02.trans h₃
  simp only [NackPacket.decode, ← h₁.currentData, ← h02.currentData, ← h03.currentData]
  exact Reads.pure _ r₄

theorem reads_nack (hclass : (RtcpCommonHeader.load r.currentData).classOf = .nack) :
    Reads (RtcpCommonHeader.load r.currentData).codeLength (RtcpPacket.decode r.currentData) r
      (NackPacket.parse r) := by
  have hparse := NackPacket.reads_parse r
  simp only [RtcpCommonHeader.codeLength, RtcpPacket.decode, hclass]
  exact hparse

theorem reads_receiverReport
    (hclass : (RtcpCommonHeader.load r.currentData).classOf = .receiverReport) :
    Reads (RtcpCommonHeader.load r.currentData).codeLength (RtcpPacket.decode r.currentData) r
      (ReceiverReportPacket.parse r) := by
  have hlen : (RtcpCommonHeader.load r.currentData).codeLength =
      4 + (4 + (24 * (RtcpCommonHeader.load r.currentData).countOrFormat + 0)) := by
    simp only [RtcpCommonHeader.codeLength, hclass]
    omega
  rw [hlen]
  refine (reads_commonHeader r).bind ?_
  intro r₁ h₁
  refine (Reads.of_take (loadUInt32BE r₁.currentData) r₁).bind ?_
  intro r₂ h₂
  refine (reads_reportBlocks _ r₂ []).bind ?_
  intro r₃ h₃
  simp only [RtcpPacket.decode, hclass, ← h₁.currentData, ← (h₁.trans h₂).currentData]
  exact Reads.pure _ r₃

/-- What one turn of `RtcpCompound::Parse` reads. -/
theorem reads_packet :
    Reads (RtcpCommonHeader.load r.currentData).codeLength (RtcpPacket.decode r.currentData) r
      (RtcpCompound.parsePacket r) := by
  -- the look at the first two bytes is logged before the sub-parser runs
  have htouched : Reads (RtcpCommonHeader.load r.currentData).codeLength
      (RtcpPacket.decode r.currentData) (r.touch r.start 2) (RtcpCompound.parsePacket r) := by
    cases hclass : (RtcpCommonHeader.load r.currentData).classOf with
    | generic =>
        have hparse : RtcpCompound.parsePacket r = RtcpPacket.parseGeneric (r.touch r.start 2) := by
          simp only [RtcpCommonHeader.classOf] at hclass
          simp only [RtcpCompound.parsePacket]
          split at hclass <;> split at hclass <;> simp_all
        rw [hparse]
        exact reads_generic (r.touch r.start 2) hclass
    | nack =>
        have hparse : RtcpCompound.parsePacket r = NackPacket.parse (r.touch r.start 2) := by
          simp only [RtcpCommonHeader.classOf] at hclass
          simp only [RtcpCompound.parsePacket]
          split at hclass <;> split at hclass <;> simp_all
        rw [hparse]
        exact reads_nack (r.touch r.start 2) hclass
    | receiverReport =>
        have hparse : RtcpCompound.parsePacket r =
            ReceiverReportPacket.parse (r.touch r.start 2) := by
          simp only [RtcpCommonHeader.classOf] at hclass
          simp only [RtcpCompound.parsePacket]
          split at hclass <;> split at hclass <;> simp_all
        rw [hparse]
        exact reads_receiverReport (r.touch r.start 2) hclass
  have hleft : (r.touch r.start 2).left = r.left := rfl
  simp only [Reads, hleft] at htouched ⊢
  split
  next h =>
    rw [if_pos h] at htouched
    obtain ⟨r', heq, htook⟩ := htouched
    refine ⟨r', heq, h, htook.bytes, htook.end_, htook.start, ?_⟩
    obtain ⟨spans, hlog, hspans⟩ := htook.touched
    refine ⟨(r.start, 2) :: spans, by rw [hlog]; simp, ?_⟩
    intro s hs
    rcases List.mem_cons.mp hs with rfl | hs
    · have := (RtcpCommonHeader.load r.currentData).four_le_codeLength
      exact ⟨le_rfl, by omega⟩
    · exact hspans s hs
  next h =>
    rw [if_neg h] at htouched
    exact htouched

end SubParsers

/-! ## Own bytes -/

section OwnBytes

variable {mem mem' : Memory}

theorem RtcpCommonHeader.load_congr (h : ∀ i < 4, mem i = mem' i) :
    RtcpCommonHeader.load mem = RtcpCommonHeader.load mem' := by
  have hlen : loadUInt16BE (mem.shift 2) = loadUInt16BE (mem'.shift 2) :=
    loadUInt16BE_congr (h 2 (by omega)) (h 3 (by omega))
  simp only [RtcpCommonHeader.load, h 0 (by omega), h 1 (by omega), hlen]

theorem loadUInt32BE_shift_congr {n : Nat} (off : Nat) (h : ∀ i < n, mem i = mem' i)
    (hoff : off + 4 ≤ n) : loadUInt32BE (mem.shift off) = loadUInt32BE (mem'.shift off) := by
  apply loadUInt32BE_congr
  intro i hi
  exact h (off + i) (by omega)

theorem lostOfItems_congr {n items : Nat} (off : Nat) (h : ∀ i < n, mem i = mem' i)
    (hoff : off + 4 * items ≤ n) :
    lostOfItems (mem.shift off) items = lostOfItems (mem'.shift off) items := by
  simp only [lostOfItems]
  apply List.flatMap_congr
  intro i hi
  have hi := List.mem_range.mp hi
  have hbyte : ∀ k < 4, mem (off + (4 * i + k)) = mem' (off + (4 * i + k)) :=
    fun k hk => h _ (by omega)
  have hpid : loadUInt16BE ((mem.shift off).shift (4 * i)) =
      loadUInt16BE ((mem'.shift off).shift (4 * i)) :=
    loadUInt16BE_congr (hbyte 0 (by omega)) (hbyte 1 (by omega))
  have hblp : loadUInt16BE (((mem.shift off).shift (4 * i)).shift 2) =
      loadUInt16BE (((mem'.shift off).shift (4 * i)).shift 2) :=
    loadUInt16BE_congr (hbyte 2 (by omega)) (hbyte 3 (by omega))
  simp only [lostOfItem, hpid, hblp]

theorem ReportBlock.loadAll_congr {n count : Nat} (off : Nat) (h : ∀ i < n, mem i = mem' i)
    (hoff : off + 24 * count ≤ n) :
    ReportBlock.loadAll (mem.shift off) count = ReportBlock.loadAll (mem'.shift off) count := by
  simp only [ReportBlock.loadAll]
  apply List.map_congr_left
  intro i hi
  have hi := List.mem_range.mp hi
  have hbyte : ∀ k < 24, (mem.shift off).shift (24 * i) k = (mem'.shift off).shift (24 * i) k :=
    fun k hk => h _ (by omega)
  have hword : ∀ k, k + 4 ≤ 24 → loadUInt32BE (((mem.shift off).shift (24 * i)).shift k) =
      loadUInt32BE (((mem'.shift off).shift (24 * i)).shift k) :=
    fun k hk => loadUInt32BE_shift_congr k hbyte hk
  have hfirst := hword 0 (by omega)
  simp only [Memory.shift_zero] at hfirst
  have hlost : loadUInt24BE (((mem.shift off).shift (24 * i)).shift 5) =
      loadUInt24BE (((mem'.shift off).shift (24 * i)).shift 5) := by
    have h5 := hbyte 5 (by omega)
    have h6 := hbyte 6 (by omega)
    have h7 := hbyte 7 (by omega)
    simp only [Memory.shift_apply] at h5 h6 h7
    simp only [loadUInt24BE, Memory.shift_apply, Nat.add_zero, h5, h6, h7]
  have hfraction : loadUInt8BE (((mem.shift off).shift (24 * i)).shift 4) =
      loadUInt8BE (((mem'.shift off).shift (24 * i)).shift 4) := hbyte 4 (by omega)
  simp only [ReportBlock.load, hfirst, hfraction, hlost, hword 8 (by omega), hword 12 (by omega),
    hword 16 (by omega), hword 20 (by omega)]

/-- A packet is what its own bytes say. -/
theorem RtcpPacket.decode_congr
    (h : ∀ i < (RtcpCommonHeader.load mem).codeLength, mem i = mem' i) :
    RtcpPacket.decode mem = RtcpPacket.decode mem' := by
  have hfour := (RtcpCommonHeader.load mem).four_le_codeLength
  have hhdr : RtcpCommonHeader.load mem = RtcpCommonHeader.load mem' :=
    RtcpCommonHeader.load_congr fun i hi => h i (by omega)
  simp only [RtcpPacket.decode, ← hhdr]
  cases hclass : (RtcpCommonHeader.load mem).classOf with
  | generic => rfl
  | nack =>
      simp only [RtcpCommonHeader.codeLength, hclass] at h
      simp only [loadUInt32BE_shift_congr 4 h (by omega),
        loadUInt32BE_shift_congr 8 h (by omega), lostOfItems_congr 12 h le_rfl]
  | receiverReport =>
      simp only [RtcpCommonHeader.codeLength, hclass] at h
      simp only [loadUInt32BE_shift_congr 4 h (by omega),
        ReportBlock.loadAll_congr 8 h le_rfl]

end OwnBytes

end WebrtcServer
