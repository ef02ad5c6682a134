/-
# `RtcpRoundTrip` — compounds that a peer encodes

A peer writes receiver reports as RFC 3550 lays them out, generic NACKs as
RFC 4585 does, and packets of other kinds, which the server skips by their
length field.  Whatever it puts into a compound, in whatever order, the
parser gives back packet for packet (`parse_encoded`).
-/
import WebrtcServer.NackItems
import WebrtcServer.RtcpFraming

namespace WebrtcServer

open Lib

/-- A report block on the wire. -/
def ReportBlock.store (block : ReportBlock) : List UInt8 :=
  storeUInt32BE block.sourceSsrc ++ (storeUInt8BE block.fractionLost ++
    (storeUInt24BE block.cumulativeLost ++ (storeUInt32BE block.extendedHighSeqNum ++
      (storeUInt32BE block.jitter ++ (storeUInt32BE block.lastSr ++
        storeUInt32BE block.delaySinceLastSr)))))

/-- Of the packets lost 24 bits are written. -/
def ReportBlock.Fits (block : ReportBlock) : Prop := block.cumulativeLost.toNat < 16777216

/-- A packet as a peer means it. -/
inductive PeerRtcp where
  | receiverReport (sender : UInt32) (blocks : List ReportBlock)
  | nack (sender media : UInt32) (items : List NackItem)
  | other (format : Nat) (packetType : UInt8) (body : ByteString)

namespace PeerRtcp

def header : PeerRtcp → RtcpCommonHeader
  | receiverReport _ blocks =>
      { countOrFormat := blocks.length, padding := 0, version := 2, packetType := kRtcpTypeRr
        length := UInt16.ofNat (1 + 6 * blocks.length) }
  | nack _ _ items =>
      { countOrFormat := 1, padding := 0, version := 2, packetType := kRtcpTypeRtpfb
        length := UInt16.ofNat (items.length + 2) }
  | other format packetType body =>
      { countOrFormat := format, padding := 0, version := 2, packetType
        length := UInt16.ofNat (body.length / 4) }

/-- Version 2, no padding, a count or format of five bits; then the type and
the length. -/
def headerBytes (p : PeerRtcp) : List UInt8 :=
  [UInt8.ofNat (128 + p.header.countOrFormat), p.header.packetType] ++
    storeUInt16BE p.header.length

def body : PeerRtcp → List UInt8
  | receiverReport sender blocks => storeUInt32BE sender ++ blocks.flatMap ReportBlock.store
  | nack sender media items =>
      storeUInt32BE sender ++ (storeUInt32BE media ++ items.flatMap NackItem.store)
  | other _ _ body => body

def bytes (p : PeerRtcp) : ByteString := p.headerBytes ++ p.body

/-- The counts fit their fields, and a packet of another kind has neither the
type of a receiver report nor that of a NACK. -/
def Fits : PeerRtcp → Prop
  | receiverReport _ blocks => blocks.length < 32 ∧ ∀ block ∈ blocks, block.Fits
  | nack _ _ items => items.length + 2 < 65536
  | other format packetType body =>
      format < 32 ∧ body.length % 4 = 0 ∧ body.length / 4 < 65536 ∧ packetType ≠ kRtcpTypeRr ∧
        (packetType = kRtcpTypeRtpfb → format ≠ 1)

def classOf : PeerRtcp → RtcpClass
  | receiverReport _ _ => .receiverReport
  | nack _ _ _ => .nack
  | other _ _ _ => .generic

/-- What the server should make of it. -/
def parsed (p : PeerRtcp) : RtcpPacket :=
  ⟨p.header,
    match p with
    | receiverReport sender blocks => .receiverReport ⟨sender, blocks⟩
    | nack sender media items => .nack ⟨sender, media, items.flatMap NackItem.lost⟩
    | other _ _ _ => .generic⟩

section Packets

variable {p : PeerRtcp} {mem : Memory}

theorem count_lt (hp : p.Fits) : p.header.countOrFormat < 32 := by
  cases p with
  | receiverReport sender blocks => exact hp.1
  | nack sender media items => exact (by decide : 1 < 32)
  | other format packetType body => exact hp.1

theorem load_header (hp : p.Fits) (h : Holds mem p.bytes) :
    RtcpCommonHeader.load mem = p.header := by
  have hcount := count_lt hp
  rw [bytes, headerBytes, holds_append] at h
  simp only [List.cons_append, List.nil_append, holds_cons, Memory.shift_apply, Nat.add_zero,
    Memory.shift_shift] at h
  obtain ⟨⟨h0, h1, hlen⟩, -⟩ := h
  have hfirst : (mem 0).toNat = 128 + p.header.countOrFormat := by
    rw [h0, UInt8.toNat_ofNat', Nat.mod_eq_of_lt (by omega)]
  have hbits : getBits (mem 0) 0 5 = p.header.countOrFormat ∧ getBits (mem 0) 5 1 = 0 ∧
      getBits (mem 0) 6 2 = 2 := by
    simp only [getBits, hfirst, Nat.reducePow, Nat.div_one]
    omega
  have hpad : p.header.padding = 0 := by cases p <;> rfl
  have hversion : p.header.version = 2 := by cases p <;> rfl
  have hlen' : loadUInt16BE (mem.shift 2) = p.header.length := loadUInt16BE_of_holds hlen
  have hload : p.header = ⟨p.header.countOrFormat, p.header.padding, p.header.version,
      p.header.packetType, p.header.length⟩ := rfl
  rw [hload, hpad, hversion]
  simp only [RtcpCommonHeader.load, hbits, h1, hlen']

theorem holds_body (h : Holds mem p.bytes) : Holds (mem.shift 4) p.body := by
  rw [bytes, holds_append] at h
  exact h.2

theorem bytes_length (p : PeerRtcp) : p.bytes.length = 4 + p.body.length := by
  simp only [bytes, headerBytes, List.length_append, List.length_cons, List.length_nil,
    storeUInt16BE_length]

theorem flatMap_length {α : Type} {f : α → List UInt8} {n : Nat} (l : List α)
    (h : ∀ x, (f x).length = n) : (l.flatMap f).length = n * l.length := by
  induction l with
  | nil => rfl
  | cons x l ih =>
      rw [List.flatMap_cons, List.length_append, h, ih, List.length_cons, Nat.mul_succ]
      omega

@[simp] theorem store_block_length (block : ReportBlock) : block.store.length = 24 := rfl

theorem body_length (p : PeerRtcp) : p.body.length =
    match p with
    | receiverReport _ blocks => 4 + 24 * blocks.length
    | nack _ _ items => 8 + 4 * items.length
    | other _ _ body => body.length := by
  cases p with
  | receiverReport sender blocks =>
      simp [body, flatMap_length blocks store_block_length]
  | nack sender media items =>
      have hitem : ∀ item : NackItem, item.store.length = 4 := fun item => by
        simp [NackItem.store]
      simp only [body, List.length_append, storeUInt32BE_length, flatMap_length items hitem]
      omega
  | other format packetType body => rfl

/-- A block that was written is loaded back. -/
theorem load_block {block : ReportBlock} (hb : block.Fits) (h : Holds mem block.store) :
    ReportBlock.load mem = block := by
  simp only [ReportBlock.store, holds_append, Memory.shift_shift] at h
  obtain ⟨hssrc, hfraction, hlost, hseq, hjitter, hlsr, hdlsr⟩ := h
  have hseq' : loadUInt32BE (mem.shift 8) = block.extendedHighSeqNum := loadUInt32BE_of_holds hseq
  have hjitter' : loadUInt32BE (mem.shift 12) = block.jitter := loadUInt32BE_of_holds hjitter
  have hlsr' : loadUInt32BE (mem.shift 16) = block.lastSr := loadUInt32BE_of_holds hlsr
  have hdlsr' : loadUInt32BE (mem.shift 20) = block.delaySinceLastSr :=
    loadUInt32BE_of_holds hdlsr
  have hfraction' : loadUInt8BE (mem.shift 4) = block.fractionLost := loadUInt8BE_of_holds hfraction
  have hlost' : loadUInt24BE (mem.shift 5) =
      UInt32.ofNat (block.cumulativeLost.toNat % 16777216) := loadUInt24BE_of_holds hlost
  have hcum : UInt32.ofNat (block.cumulativeLost.toNat % 16777216) = block.cumulativeLost := by
    rw [Nat.mod_eq_of_lt hb, UInt32.ofNat_toNat]
  simp only [ReportBlock.load, loadUInt32BE_of_holds hssrc, hfraction', hlost', hcum, hseq',
    hjitter', hlsr', hdlsr']

theorem loadAll_blocks {blocks : List ReportBlock} (hblocks : ∀ block ∈ blocks, block.Fits)
    (h : Holds mem (blocks.flatMap ReportBlock.store)) :
    ReportBlock.loadAll mem blocks.length = blocks := by
  induction blocks generalizing mem with
  | nil => rfl
  | cons block blocks ih =>
      obtain ⟨hb, hrest⟩ := List.forall_mem_cons.mp hblocks
      rw [List.flatMap_cons, holds_append, store_block_length] at h
      have htail := ih hrest h.2
      have hoff : ∀ i, 24 * Nat.succ i = 24 + 24 * i := by omega
      simp only [ReportBlock.loadAll, Memory.shift_shift] at htail
      simp only [ReportBlock.loadAll, List.length_cons, List.range_succ_eq_map, List.map_cons,
        List.map_map, Function.comp_def, hoff, Nat.mul_zero, Memory.shift_zero,
        load_block hb h.1, htail]

theorem classOf_generic {hdr : RtcpCommonHeader} (hrr : hdr.packetType ≠ kRtcpTypeRr)
    (hnack : hdr.packetType = kRtcpTypeRtpfb → hdr.countOrFormat ≠ 1) :
    hdr.classOf = .generic := by
  rw [RtcpCommonHeader.classOf]
  by_cases hfb : hdr.packetType = kRtcpTypeRtpfb
  · rw [if_pos hfb, if_neg (hnack hfb)]
  · rw [if_neg hfb, if_neg hrr]

theorem classOf_header (hp : p.Fits) : p.header.classOf = p.classOf := by
  cases p with
  | receiverReport sender blocks =>
      simp [RtcpCommonHeader.classOf, header, classOf, kRtcpTypeRr, kRtcpTypeRtpfb]
  | nack sender media items => simp [RtcpCommonHeader.classOf, header, classOf]
  | other format packetType body =>
      obtain ⟨-, -, -, hrr, hnack⟩ := hp
      exact classOf_generic hrr hnack

/-- The parser consumes just the bytes that the peer wrote. -/
theorem codeLength_header (hp : p.Fits) : p.header.codeLength = p.bytes.length := by
  have hclass := classOf_header hp
  rw [bytes_length, body_length]
  cases p with
  | receiverReport sender blocks =>
      have hcount : (header (receiverReport sender blocks)).countOrFormat = blocks.length := rfl
      simp only [RtcpCommonHeader.codeLength, hclass, classOf, hcount]
      omega
  | nack sender media items =>
      have hlen : (header (nack sender media items)).length.toNat = items.length + 2 :=
        UInt16.toNat_ofNat_of_lt' hp
      simp only [RtcpCommonHeader.codeLength, hclass, classOf]
      rw [RtcpCommonHeader.nack_codeLength, hlen, if_pos (by omega),
        RtcpCommonHeader.occupied, hlen]
      omega
  | other format packetType body =>
      obtain ⟨-, hmod, hdiv, -⟩ := hp
      have hlen : (header (other format packetType body)).length.toNat = body.length / 4 :=
        UInt16.toNat_ofNat_of_lt' hdiv
      simp only [RtcpCommonHeader.codeLength, hclass, classOf, RtcpCommonHeader.occupied, hlen]
      omega

/-- And it gives what the peer meant. -/
theorem decode_bytes (hp : p.Fits) (h : Holds mem p.bytes) : RtcpPacket.decode mem = p.parsed := by
  have hheader := load_header hp h
  have hbody := holds_body h
  have hclass := classOf_header hp
  simp only [RtcpPacket.decode, hheader, parsed]
  cases p with
  | receiverReport sender blocks =>
      simp only [body, holds_append, storeUInt32BE_length, Memory.shift_shift] at hbody
      simp only [hclass, classOf, loadUInt32BE_of_holds hbody.1]
      exact congrArg (fun blocks => RtcpPacket.mk _ (.receiverReport ⟨sender, blocks⟩))
        (loadAll_blocks hp.2 hbody.2)
  | nack sender media items =>
      have hlen : (header (nack sender media items)).length.toNat = items.length + 2 :=
        UInt16.toNat_ofNat_of_lt' hp
      have hcount : (header (nack sender media items)).nackItems = items.length := by
        rw [RtcpCommonHeader.nackItems_eq _ (by omega), hlen]
        omega
      simp only [body, holds_append, storeUInt32BE_length, Memory.shift_shift] at hbody
      obtain ⟨hsender, hmedia, hitems⟩ := hbody
      have hlost : lostOfItems (mem.shift 12) items.length = items.flatMap NackItem.lost := by
        rw [lostOfItems_eq, fciItems_of_holds items _ hitems]
      have hmedia' : loadUInt32BE (mem.shift 8) = media := loadUInt32BE_of_holds hmedia
      simp only [hclass, classOf, loadUInt32BE_of_holds hsender, hmedia', hcount, hlost]
  | other format packetType body => simp only [hclass, classOf]

end Packets

/-! ## Compounds -/

open RtcpCompound

/-- The loop over what is left of a compound; the induction is on the
packets. -/
theorem loop_of_packets {data : Memory} {size off fuel : Nat} {s : State} {ps : List PeerRtcp}
    (hps : ∀ p ∈ ps, p.Fits) (hat : AtOffset data size off s)
    (hholds : Holds (data.shift off) (ps.flatMap bytes))
    (hsize : size = off + (ps.flatMap bytes).length) (hfuel : size - off ≤ fuel) :
    ∃ t, whileLoop State.more turn fuel s = .ok t ∧ t.rtcps = s.rtcps ++ ps.map parsed := by
  induction ps generalizing off fuel s with
  | nil =>
      have hmore : s.more = false := by
        simp only [State.more, hat.left, hsize]
        simp
      exact ⟨s, whileLoop_of_not_more hmore, by simp⟩
  | cons p ps ih =>
      obtain ⟨hp, hrest⟩ := List.forall_mem_cons.mp hps
      rw [List.flatMap_cons, List.length_append] at hsize
      rw [List.flatMap_cons, holds_append, Memory.shift_shift] at hholds
      have hheader : headerAt data off = p.header := load_header hp hholds.1
      have hlen : (headerAt data off).codeLength = p.bytes.length := by
        rw [hheader, codeLength_header hp]
      have hpos := bytes_length p
      obtain ⟨u, hturn, hat', hrtcps, -⟩ := turn_ok hat (by omega)
      rw [hlen] at hat'
      obtain ⟨fuel, rfl⟩ : ∃ n, fuel = n + 1 := ⟨fuel - 1, by omega⟩
      rw [whileLoop_of_turn (hat.more_iff.mpr (by omega)) hturn]
      obtain ⟨t, ht, hps⟩ := ih hrest hat' hholds.2 (by omega) (show size - _ ≤ fuel by omega)
      refine ⟨t, ht, ?_⟩
      rw [hps, hrtcps, decode_bytes hp hholds.1]
      simp

end PeerRtcp

/-- A compound of any packets that a peer encodes comes back packet for
packet, with the numbers that its NACKs name and the blocks of its
reports. -/
theorem RtcpCompound.parse_encoded (ps : List PeerRtcp) (hps : ∀ p ∈ ps, p.Fits) (data : Memory)
    (h : Holds data (ps.flatMap PeerRtcp.bytes)) :
    RtcpCompound.parse data (ps.flatMap PeerRtcp.bytes).length = some (ps.map PeerRtcp.parsed) := by
  obtain ⟨t, ht, hrtcps⟩ := PeerRtcp.loop_of_packets hps
    (atOffset_start data (ps.flatMap PeerRtcp.bytes).length) (by rwa [Memory.shift_zero])
    (Nat.zero_add _).symm (Nat.sub_le _ 0)
  exact parse_eq_some_iff.mpr ⟨t, ht, hrtcps⟩

/-- A receiver report with a block, a NACK, and a description of the source. -/
def reportNackSdes : List PeerRtcp :=
  [.receiverReport 1 [⟨12345678, 0, 2, 7, 3, 0, 0⟩], .nack 1 12345678 [⟨5, 1⟩],
    .other 1 202 [0, 0, 0, 1]]

theorem reportNackSdes_fits : ∀ p ∈ reportNackSdes, p.Fits := by
  simp only [reportNackSdes, List.mem_cons, List.not_mem_nil, or_false, forall_eq_or_imp,
    forall_eq]
  refine ⟨⟨by decide, ?_⟩, (by decide : 1 + 2 < 65536), by decide, rfl, by decide, by decide,
    fun h => absurd h (by decide)⟩
  intro block hb
  rw [List.mem_singleton.mp hb]
  exact (by decide : 2 < 16777216)

theorem RtcpCompound.parse_encoded_reportNackSdes :
    RtcpCompound.parse (Memory.ofList (reportNackSdes.flatMap PeerRtcp.bytes)) 56 =
      some (reportNackSdes.map PeerRtcp.parsed) :=
  RtcpCompound.parse_encoded reportNackSdes reportNackSdes_fits _ (window_ofList _)

end WebrtcServer
