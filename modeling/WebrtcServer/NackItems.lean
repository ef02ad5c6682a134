/-
# `NackItems` — what `NackPacket::Parse` decodes

A generic NACK carries items of a packet number and a bitmask of the 16
numbers behind it.  `NackItem.lost` says which numbers an item names, and
`rfcNack` is the packet that RFC 4585 lays out for a list of items: the
parser gives back the numbers of that list (`NackPacket.parse_rfcNack`).

A failed read gives `none` in the model, and the reader with it.  To speak of
what a failed parse has read, the second half runs the same calls with the
reader kept (`NackPacket.parseKept`).
-/
import WebrtcServer.RtcpDecode

namespace WebrtcServer

open Lib

/-! ## The bitmask -/

/-- The loop over the mask names the positions of its set bits. -/
theorem lostOfBitmask_eq (n : Nat) (pid mask : UInt16) (hmask : mask.toNat < 2 ^ n) :
    lostOfBitmask n pid mask =
      ((List.range n).filter mask.toNat.testBit).map fun k => pid + UInt16.ofNat k := by
  induction n generalizing pid mask with
  | zero => rfl
  | succ n ih =>
      have hhalf : (mask >>> 1).toNat = mask.toNat / 2 := by
        simp [UInt16.toNat_shiftRight, Nat.shiftRight_eq_div_pow]
      have hih := ih (pid + 1) (mask >>> 1) (by rw [hhalf]; omega)
      rw [hhalf] at hih
      have hbit : mask &&& 1 = 1 ↔ mask.toNat.testBit 0 = true := by
        rw [← UInt16.toNat_inj, UInt16.toNat_and, Nat.testBit_zero]
        simp [Nat.and_one_is_mod]
      have hnext : ∀ k, pid + UInt16.ofNat (k + 1) = pid + 1 + UInt16.ofNat k := by
        intro k
        rw [UInt16.ofNat_add, UInt16.add_comm (UInt16.ofNat k), ← UInt16.add_assoc]
        rfl
      rw [List.range_succ_eq_map, List.filter_cons, List.filter_map]
      simp only [Function.comp_def, Nat.succ_eq_add_one, Nat.testBit_succ]
      by_cases hz : mask = 0
      · subst hz
        simp [lostOfBitmask]
      · rw [lostOfBitmask, if_neg hz, hih]
        cases hb : mask.toNat.testBit 0 with
        | true =>
            simp only [hbit.mpr hb, if_true, List.map_cons, List.map_map, Function.comp_def,
              Nat.succ_eq_add_one, hnext, List.singleton_append]
            simp
        | false =>
            have hodd : ¬ mask &&& 1 = 1 := mt hbit.mp (by simp [hb])
            simp only [hodd, Bool.false_eq_true, if_false, List.map_map, Function.comp_def,
              Nat.succ_eq_add_one, hnext, List.nil_append]

/-- An FCI item: a packet number and the mask of the 16 numbers behind it. -/
structure NackItem where
  pid : UInt16
  blp : UInt16
deriving DecidableEq

/-- The numbers that the item names: `pid` itself, then one for each set bit. -/
def NackItem.lost (item : NackItem) : List UInt16 :=
  item.pid :: ((List.range 16).filter item.blp.toNat.testBit).map fun k =>
    item.pid + 1 + UInt16.ofNat k

def NackItem.load (mem : Memory) : NackItem := ⟨loadUInt16BE mem, loadUInt16BE (mem.shift 2)⟩

def NackItem.store (item : NackItem) : List UInt8 :=
  storeUInt16BE item.pid ++ storeUInt16BE item.blp

/-- The `count` items from `mem` on. -/
def fciItems (mem : Memory) (count : Nat) : List NackItem :=
  (List.range count).map fun i => NackItem.load (mem.shift (4 * i))

theorem lostOfItems_eq (mem : Memory) (count : Nat) :
    lostOfItems mem count = (fciItems mem count).flatMap NackItem.lost := by
  simp only [lostOfItems, fciItems, List.flatMap_map]
  apply List.flatMap_congr
  intro i _
  have hmask := (loadUInt16BE ((mem.shift (4 * i)).shift 2)).toNat_lt
  simp only [lostOfItem, NackItem.lost, NackItem.load]
  rw [lostOfBitmask_eq 16 _ _ hmask]

/-! ## The packet of RFC 4585 -/

/-- Version 2, no padding, format 1 and type 205; then the length, the two
SSRCs and the items. -/
def rfcNack (sender media : UInt32) (items : List NackItem) : ByteString :=
  [0x81, 205] ++ (storeUInt16BE (UInt16.ofNat (items.length + 2)) ++
    (storeUInt32BE sender ++ (storeUInt32BE media ++ items.flatMap NackItem.store)))

/-- Items that were written are loaded back. -/
theorem fciItems_of_holds (items : List NackItem) (mem : Memory)
    (h : Holds mem (items.flatMap NackItem.store)) : fciItems mem items.length = items := by
  induction items generalizing mem with
  | nil => rfl
  | cons item items ih =>
      rw [List.flatMap_cons, holds_append, NackItem.store, holds_append] at h
      obtain ⟨⟨hpid, hblp⟩, hrest⟩ := h
      have hmask : loadUInt16BE (mem.shift 2) = item.blp := loadUInt16BE_of_holds hblp
      have hitem : NackItem.load mem = item := by
        simp only [NackItem.load, loadUInt16BE_of_holds hpid, hmask]
      have htail := ih (mem.shift 4) hrest
      have hoff : ∀ i, 4 * Nat.succ i = 4 + 4 * i := by omega
      simp only [fciItems, Memory.shift_shift] at htail
      simp only [fciItems, List.length_cons, List.range_succ_eq_map, List.map_cons, List.map_map,
        Function.comp_def, hoff, Nat.mul_zero, Memory.shift_zero, hitem, htail]

theorem rfcNack_header {mem : Memory} {sender media : UInt32} {items : List NackItem}
    (h : Holds mem (rfcNack sender media items)) :
    RtcpCommonHeader.load mem =
      { countOrFormat := 1, padding := 0, version := 2, packetType := 205
        length := UInt16.ofNat (items.length + 2) } := by
  simp only [rfcNack, List.cons_append, List.nil_append, holds_cons, holds_append,
    Memory.shift_apply, Memory.shift_shift, Nat.add_zero] at h
  obtain ⟨h0, h1, hlen, -⟩ := h
  simp only [RtcpCommonHeader.load, h0, h1, loadUInt16BE_of_holds hlen]
  rfl

/-! ## The reader that a failure leaves behind -/

/-- A call that reads: its value, or nothing if it failed, and the reader
after it. -/
abbrev Kept (α : Type) := Option α × ByteReader

/-- A read on its own leaves the reader alone when it fails. -/
def kept {α : Type} (r : ByteReader) : Option (α × ByteReader) → Kept α
  | none => (none, r)
  | some (v, r') => (some v, r')

namespace Kept

variable {α β : Type}

def andThen : Kept α → (α → ByteReader → Kept β) → Kept β
  | (none, r), _ => (none, r)
  | (some v, r), next => next v r

/-- The reader of a failed call forgotten. -/
def forget : Kept α → Option (α × ByteReader)
  | (none, _) => none
  | (some v, r) => some (v, r)

@[simp] theorem forget_some (v : α) (r : ByteReader) : forget (some v, r) = some (v, r) := rfl

@[simp] theorem forget_kept (r : ByteReader) (out : Option (α × ByteReader)) :
    (kept r out).forget = out := by
  cases out <;> rfl

@[simp] theorem forget_andThen (x : Kept α) (next : α → ByteReader → Kept β) :
    (x.andThen next).forget = x.forget.bind fun vr => (next vr.1 vr.2).forget := by
  obtain ⟨v | v, r⟩ := x <;> rfl

end Kept

/-- `parseNackItems` with the reader kept. -/
def parseNackItemsKept : Nat → ByteReader → List UInt16 → Kept (List UInt16)
  | 0, r, lost => (some lost, r)
  | items + 1, r, lost =>
      (kept r r.readUInt16).andThen fun pid r =>
      (kept r r.readUInt16).andThen fun blp r =>
      parseNackItemsKept items r (lost ++ pid :: lostOfBitmask 16 (pid + 1) blp)

/-- `NackPacket.parse` with the reader kept. -/
def NackPacket.parseKept (r : ByteReader) : Kept RtcpPacket :=
  (kept r (parseCommonHeader r)).andThen fun header r =>
  (kept r r.readUInt32).andThen fun senderSsrc r =>
  (kept r r.readUInt32).andThen fun mediaSsrc r =>
  (parseNackItemsKept header.nackItems r []).andThen fun lost r =>
  (some ⟨header, .nack { senderSsrc, mediaSsrc, lost }⟩, r)

theorem forget_parseNackItemsKept (items : Nat) (r : ByteReader) (lost : List UInt16) :
    (parseNackItemsKept items r lost).forget = parseNackItems items r lost := by
  induction items generalizing r lost with
  | zero => rfl
  | succ items ih =>
      simp only [parseNackItemsKept, parseNackItems, Kept.forget_andThen, Kept.forget_kept, ih]
      rfl

/-- It is the same parse. -/
theorem NackPacket.forget_parseKept (r : ByteReader) :
    (NackPacket.parseKept r).forget = NackPacket.parse r := by
  simp only [NackPacket.parseKept, NackPacket.parse, Kept.forget_andThen, Kept.forget_kept,
    forget_parseNackItemsKept, Kept.forget_some]
  rfl

/-- From `r` the cursor has come to `r'`, in reads of two bytes at least that
lie one behind the other. -/
def ByteReader.ReadTo (r r' : ByteReader) : Prop :=
  ∃ n spans, r.Took n r' ∧ r'.touched = r.touched ++ spans ∧ 2 * spans.length ≤ n

namespace ByteReader.ReadTo

variable {α β : Type} {r r' r'' : ByteReader}

theorem refl (r : ByteReader) : ReadTo r r := ⟨0, [], .refl r, by simp, by simp⟩

theorem trans (h : ReadTo r r') (h' : ReadTo r' r'') : ReadTo r r'' := by
  obtain ⟨m, spans, htook, heq, hle⟩ := h
  obtain ⟨n, spans', htook', heq', hle'⟩ := h'
  refine ⟨m + n, spans ++ spans', htook.trans htook', ?_, ?_⟩
  · rw [heq', heq, List.append_assoc]
  · rw [List.length_append]
    omega

/-- A read of `n` bytes, or none if there are fewer. -/
theorem of_take {n : Nat} (hn : 2 ≤ n) (v : α) (r : ByteReader) :
    ReadTo r (kept r (if r.left < n then none else some (v, r.take n))).2 := by
  by_cases h : r.left < n
  · rw [if_pos h]
    exact .refl r
  · rw [if_neg h]
    exact ⟨n, [(r.start, n)], ByteReader.took_take (by omega), rfl, by simpa using hn⟩

theorem andThen {x : Kept α} {next : α → ByteReader → Kept β} (hx : ReadTo r x.2)
    (hnext : ∀ v r', ReadTo r' (next v r').2) : ReadTo r (x.andThen next).2 := by
  obtain ⟨v | v, r'⟩ := x
  · exact hx
  · exact hx.trans (hnext v r')

/-- Nothing behind the end is read, and there are no more reads than bytes. -/
theorem within (h : ReadTo r r') :
    ∃ spans, r'.touched = r.touched ++ spans ∧ AllWithin r.end_ spans ∧
      2 * spans.length ≤ r.left := by
  obtain ⟨n, spans, htook, heq, hle⟩ := h
  obtain ⟨spans', heq', hspans'⟩ := htook.touched
  obtain rfl : spans = spans' := List.append_cancel_left (heq.symm.trans heq')
  have henough := htook.enough
  refine ⟨spans, heq, ?_, by omega⟩
  intro s hs i hi hi'
  have := hspans' s hs
  simp only [ByteReader.left] at henough
  omega

end ByteReader.ReadTo

theorem readTo_nackItems (items : Nat) (r : ByteReader) (lost : List UInt16) :
    r.ReadTo (parseNackItemsKept items r lost).2 := by
  induction items generalizing r lost with
  | zero => exact .refl r
  | succ items ih =>
      refine (ByteReader.ReadTo.of_take le_rfl (loadUInt16BE r.currentData) r).andThen ?_
      intro pid r₁
      refine (ByteReader.ReadTo.of_take le_rfl (loadUInt16BE r₁.currentData) r₁).andThen ?_
      intro blp r₂
      exact ih r₂ _

theorem NackPacket.readTo_parse (r : ByteReader) : r.ReadTo (NackPacket.parseKept r).2 := by
  have hheader : r.ReadTo (kept r (parseCommonHeader r)).2 := by
    have hfour := ByteReader.ReadTo.of_take (by omega : 2 ≤ 4)
      (RtcpCommonHeader.load r.currentData) r
    simp only [parseCommonHeader, ByteReader.readBytes]
    by_cases h : r.left < 4
    · simpa only [h, if_true] using hfour
    · simpa only [h, if_false] using hfour
  refine hheader.andThen ?_
  intro header r₁
  refine (ByteReader.ReadTo.of_take (by omega) (loadUInt32BE r₁.currentData) r₁).andThen ?_
  intro sender r₂
  refine (ByteReader.ReadTo.of_take (by omega) (loadUInt32BE r₂.currentData) r₂).andThen ?_
  intro media r₃
  refine (readTo_nackItems header.nackItems r₃ []).andThen ?_
  intro lost r₄
  exact .refl r₄

/-! ## `NackPacket::Parse` -/

/-- The parse goes by the length field; a length below 2 asks for more bytes
than any buffer has. -/
theorem NackPacket.reads_occupied (r : ByteReader) (hsize : r.end_ < 2 ^ 64) :
    let hdr := RtcpCommonHeader.load r.currentData
    if 2 ≤ hdr.length.toNat ∧ hdr.occupied ≤ r.left then
      ∃ r', NackPacket.parse r =
          some (⟨hdr, .nack (NackPacket.decode r.currentData)⟩, r') ∧ r.Took hdr.occupied r'
    else NackPacket.parse r = none := by
  have hreads := NackPacket.reads_parse r
  have hleft : r.left ≤ r.end_ := Nat.sub_le _ _
  simp only [Reads, RtcpCommonHeader.nack_codeLength] at hreads ⊢
  by_cases htwo : 2 ≤ (RtcpCommonHeader.load r.currentData).length.toNat
  · simpa only [htwo, true_and, if_true] using hreads
  · simp only [htwo, false_and, if_false] at hreads ⊢
    rwa [if_neg (by omega)] at hreads

theorem RtcpCommonHeader.nackItems_eq (hdr : RtcpCommonHeader) (h : 2 ≤ hdr.length.toNat) :
    hdr.nackItems = hdr.length.toNat - 2 := by
  have hcode := hdr.nack_codeLength
  rw [if_pos h, RtcpCommonHeader.occupied] at hcode
  omega

theorem NackPacket.decode_rfcNack {mem : Memory} {sender media : UInt32} {items : List NackItem}
    (hlen : items.length + 2 < 65536) (h : Holds mem (rfcNack sender media items)) :
    NackPacket.decode mem =
      { senderSsrc := sender, mediaSsrc := media, lost := items.flatMap NackItem.lost } := by
  have hheader := rfcNack_header h
  have hcount : (RtcpCommonHeader.load mem).nackItems = items.length := by
    have hnat : (UInt16.ofNat (items.length + 2)).toNat = items.length + 2 :=
      UInt16.toNat_ofNat_of_lt' hlen
    rw [RtcpCommonHeader.nackItems_eq, hheader, hnat]
    · omega
    · rw [hheader, hnat]
      omega
  simp only [rfcNack, holds_append, Memory.shift_shift] at h
  obtain ⟨-, -, hsender, hmedia, hitems⟩ := h
  have h4 : loadUInt32BE (mem.shift 4) = sender := loadUInt32BE_of_holds hsender
  have h8 : loadUInt32BE (mem.shift 8) = media := loadUInt32BE_of_holds hmedia
  have h12 : fciItems (mem.shift 12) items.length = items := fciItems_of_holds items _ hitems
  simp only [NackPacket.decode, hcount, h4, h8, lostOfItems_eq, h12]

theorem rfcNack_length (sender media : UInt32) (items : List NackItem) :
    (rfcNack sender media items).length = 4 * (items.length + 3) := by
  have hitems : (items.flatMap NackItem.store).length = 4 * items.length := by
    induction items with
    | nil => rfl
    | cons item items ih =>
        simp only [List.flatMap_cons, List.length_append, List.length_cons, ih, NackItem.store,
          storeUInt16BE_length]
        omega
  simp only [rfcNack, List.length_append, hitems, storeUInt16BE_length, storeUInt32BE_length,
    List.length_cons, List.length_nil]
  omega

section Parse

variable {r : ByteReader}

theorem NackPacket.parse_isSome_iff (hsize : r.end_ < 2 ^ 64) :
    (NackPacket.parse r).isSome ↔
      2 ≤ (RtcpCommonHeader.load r.currentData).length.toNat ∧
        (RtcpCommonHeader.load r.currentData).occupied ≤ r.left := by
  have hreads := NackPacket.reads_occupied r hsize
  simp only at hreads
  split at hreads
  next h =>
    obtain ⟨r', hparse, -⟩ := hreads
    simpa only [hparse, Option.isSome_some, true_iff] using h
  next h => simpa only [hreads, Option.isSome_none, Bool.false_eq_true, false_iff] using h

/-- An accepted NACK lists the numbers of the items that it has room for. -/
theorem NackPacket.took_of_parse (hsize : r.end_ < 2 ^ 64) {p : RtcpPacket} {r' : ByteReader}
    (hparse : NackPacket.parse r = some (p, r')) :
    r.Took (RtcpCommonHeader.load r.currentData).occupied r' ∧ ∃ nack, p.asNack = some nack ∧
      nack.lost = (fciItems (r.currentData.shift 12)
        ((RtcpCommonHeader.load r.currentData).length.toNat - 2)).flatMap NackItem.lost := by
  have hreads := NackPacket.reads_occupied r hsize
  simp only at hreads
  split at hreads
  next h =>
    obtain ⟨r'', hparse', htook⟩ := hreads
    obtain ⟨rfl, rfl⟩ : p = _ ∧ r' = r'' := by simpa [hparse] using hparse'
    refine ⟨htook, _, rfl, ?_⟩
    simp only [NackPacket.decode, RtcpCommonHeader.nackItems_eq _ h.1, lostOfItems_eq]
  next =>
    rw [hparse] at hreads
    cases hreads

/-- What a sender wrote comes back. -/
theorem NackPacket.parse_rfcNack (hsize : r.end_ < 2 ^ 64) {sender media : UInt32}
    {items : List NackItem} (hitems : items.length + 2 < 65536)
    (hroom : (rfcNack sender media items).length ≤ r.left)
    (hholds : Holds r.currentData (rfcNack sender media items)) :
    ∃ p r', NackPacket.parse r = some (p, r') ∧
      p.asNack = some
        { senderSsrc := sender, mediaSsrc := media, lost := items.flatMap NackItem.lost } ∧
      r.Took (rfcNack sender media items).length r' := by
  have hlength : (RtcpCommonHeader.load r.currentData).length.toNat = items.length + 2 := by
    rw [rfcNack_header hholds]
    exact UInt16.toNat_ofNat_of_lt' hitems
  have hreads := NackPacket.reads_occupied r hsize
  simp only [RtcpCommonHeader.occupied, hlength] at hreads
  rw [rfcNack_length] at hroom ⊢
  rw [if_pos ⟨by omega, by omega⟩] at hreads
  obtain ⟨r', hparse, htook⟩ := hreads
  refine ⟨_, r', hparse, ?_, htook⟩
  exact congrArg some (NackPacket.decode_rfcNack hitems hholds)

end Parse

/-- The parser accepts a NACK by its length field alone, takes the bytes that
the field counts, and names the numbers of its items in order; so the items
that a sender wrote come back.  A length below 2 is refused, after no more
reads than the reader has bytes and none behind its end. -/
theorem NackPacket.parse_items (r : ByteReader) (hsize : r.end_ < 2 ^ 64) :
    let length := (RtcpCommonHeader.load r.currentData).length.toNat
    ((NackPacket.parse r).isSome ↔ 2 ≤ length ∧ 4 * (length + 1) ≤ r.left) ∧
    (∀ p r', NackPacket.parse r = some (p, r') →
      r.Took (4 * (length + 1)) r' ∧ ∃ nack, p.asNack = some nack ∧
        nack.lost = (fciItems (r.currentData.shift 12) (length - 2)).flatMap NackItem.lost) ∧
    (∀ sender media items, items.length + 2 < 65536 →
      (rfcNack sender media items).length ≤ r.left →
      Holds r.currentData (rfcNack sender media items) →
      ∃ p r', NackPacket.parse r = some (p, r') ∧
        p.asNack = some
          { senderSsrc := sender, mediaSsrc := media, lost := items.flatMap NackItem.lost } ∧
        r.Took (rfcNack sender media items).length r') ∧
    (length < 2 → NackPacket.parse r = none ∧
      ∃ spans, (NackPacket.parseKept r).2.touched = r.touched ++ spans ∧
        AllWithin r.end_ spans ∧ 2 * spans.length ≤ r.left) := by
  intro length
  refine ⟨NackPacket.parse_isSome_iff hsize, ?_, ?_, ?_⟩
  · intro p r' hparse
    exact NackPacket.took_of_parse hsize hparse
  · intro sender media items hitems hroom hholds
    exact NackPacket.parse_rfcNack hsize hitems hroom hholds
  · intro hshort
    have hnone : ¬ (NackPacket.parse r).isSome := fun hsome =>
      absurd ((NackPacket.parse_isSome_iff hsize).mp hsome).1 (Nat.not_le_of_lt hshort)
    exact ⟨Option.not_isSome_iff_eq_none.mp hnone, (NackPacket.readTo_parse r).within⟩

/-- One item whose numbers wrap around: 65535, then 0 and 15. -/
def wrappedNack : ByteString := rfcNack 1 2 [⟨65535, 0x8001⟩]

theorem NackPacket.parse_wrappedNack :
    ∃ p r', NackPacket.parse (.ofData (.ofList wrappedNack) 16) = some (p, r') ∧
      p.asNack = some { senderSsrc := 1, mediaSsrc := 2, lost := [65535, 0, 15] } := by
  have hparse := (NackPacket.parse_items (.ofData (.ofList wrappedNack) 16) (by decide)).2.2.1
    1 2 [⟨65535, 0x8001⟩] (by decide) (by decide) (window_ofList wrappedNack)
  obtain ⟨p, r', hparse, hnack, -⟩ := hparse
  exact ⟨p, r', hparse, hnack⟩

end WebrtcServer
