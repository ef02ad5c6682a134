/-
# `Depacketizer` — the receiving side of RFC 6184

What a receiver makes of the payloads of an H.264 RTP stream in order:
single NAL unit packets and FU-A fragments, the two kinds that the
packetizer sends.  The receiver is strict: a fragment that does not
continue the unit begun, or that is both first and last, is an error.

`Fragments` says how a unit is cut into FU-A payloads, without saying how
the cutting is programmed, and the theorems about it are the ones a
fragmenting loop needs: the receiver puts the unit together again, and the
start and end bits stand where they should.
-/
import WebrtcServer.RtpPacket

namespace WebrtcServer

open H264RtpPacketizer

structure Depacketizer where
  /-- The unit whose fragments are coming in. -/
  pending : Option (List UInt8)
  units : List (List UInt8)

namespace Depacketizer

def start : Depacketizer := ⟨none, []⟩

/-- A fragment of a unit with the header `header`. -/
def feedFragment (d : Depacketizer) (isFirst isLast : Bool) (header : UInt8)
    (bytes : List UInt8) : Option Depacketizer :=
  match isFirst, d.pending with
  | true, none => if isLast then none else some { d with pending := some (header :: bytes) }
  | false, some (h :: acc) =>
      if h = header then
        if isLast then some ⟨none, d.units ++ [h :: acc ++ bytes]⟩
        else some { d with pending := some (h :: acc ++ bytes) }
      else none
  | _, _ => none

def feed (d : Depacketizer) (payload : List UInt8) : Option Depacketizer :=
  match payload with
  | [] => none
  | first :: rest =>
      if 1 ≤ first &&& 0x1F ∧ first &&& 0x1F ≤ 23 then
        if d.pending.isNone then some { d with units := d.units ++ [payload] } else none
      else if first &&& 0x1F = 28 then
        match rest with
        | [] => none
        | fu :: bytes =>
            d.feedFragment (fu &&& 0x80 != 0) (fu &&& 0x40 != 0)
              ((first &&& 0xE0) ||| (fu &&& 0x1F)) bytes
      else none

def feedAll (d : Depacketizer) (payloads : List (List UInt8)) : Option Depacketizer :=
  payloads.foldlM feed d

theorem feedAll_append (d : Depacketizer) (ps qs : List (List UInt8)) :
    d.feedAll (ps ++ qs) = (d.feedAll ps).bind fun d' => d'.feedAll qs :=
  List.foldlM_append

end Depacketizer

/-- The units of a complete stream of payloads. -/
def depacketize (payloads : List (List UInt8)) : Option (List (List UInt8)) :=
  match Depacketizer.start.feedAll payloads with
  | some ⟨none, units⟩ => some units
  | _ => none

/-! ## Units and fragments -/

/-- A non-empty NAL unit of type 1 to 23. -/
def IsNalUnit (unit : List UInt8) : Prop :=
  ∃ header rest, unit = header :: rest ∧ 1 ≤ header &&& 0x1F ∧ header &&& 0x1F ≤ 23

def isFuA (payload : List UInt8) : Bool :=
  2 ≤ payload.length && payload.getD 0 0 &&& 0x1F == 28

def startBit (payload : List UInt8) : Bool := payload.getD 1 0 &&& 0x80 != 0

def endBit (payload : List UInt8) : Bool := payload.getD 1 0 &&& 0x40 != 0

/-- Two or more FU-A payloads, the start bit on the first only, the end bit
on the last only, and never both. -/
structure Fragmented (payloads : List (List UInt8)) : Prop where
  two_le : 2 ≤ payloads.length
  fuA : ∀ p ∈ payloads, isFuA p = true
  start_iff : ∀ i (h : i < payloads.length), startBit payloads[i] = true ↔ i = 0
  end_iff : ∀ i (h : i < payloads.length), endBit payloads[i] = true ↔ i + 1 = payloads.length
  not_both : ∀ p ∈ payloads, ¬ (startBit p = true ∧ endBit p = true)

/-- `payloads` carry `rest`, the part of a unit behind its header that is
still to be sent, in fragments of at most `kMaxRtpPayloadSize`; `start`
says that the first of them is the first of the unit. -/
inductive Fragments (header : UInt8) : Bool → List UInt8 → List (List UInt8) → Prop
  | last {start : Bool} {rest : List UInt8} : rest.length ≤ kMaxRtpPayloadSize - 2 →
      Fragments header start rest [fuIndicate header :: fuHeader header start true :: rest]
  | more {start : Bool} {chunk rest : List UInt8} {ps : List (List UInt8)} :
      chunk.length = kMaxRtpPayloadSize - 2 → Fragments header false rest ps →
      Fragments header start (chunk ++ rest)
        ((fuIndicate header :: fuHeader header start false :: chunk) :: ps)

section Bits

/-- What holds of the 256 bytes holds of every byte. -/
theorem forall_uint8 {p : UInt8 → Prop} (h : ∀ n : Fin 256, p (UInt8.ofFin n)) (b : UInt8) :
    p b := by
  have hb := h b.toFin
  rwa [UInt8.ofFin_toFin] at hb

theorem fuIndicate_type (header : UInt8) : fuIndicate header &&& 0x1F = 28 :=
  forall_uint8 (p := fun b => fuIndicate b &&& 0x1F = 28) (by decide +kernel) header

theorem fuHeader_start (header : UInt8) (start end_ : Bool) :
    (fuHeader header start end_ &&& 0x80 != 0) = start :=
  forall_uint8 (p := fun b => ∀ s e, (fuHeader b s e &&& 0x80 != 0) = s) (by decide +kernel)
    header start end_

theorem fuHeader_end (header : UInt8) (start end_ : Bool) :
    (fuHeader header start end_ &&& 0x40 != 0) = end_ :=
  forall_uint8 (p := fun b => ∀ s e, (fuHeader b s e &&& 0x40 != 0) = e) (by decide +kernel)
    header start end_

/-- The two bytes of a fragment carry the header of the unit. -/
theorem fu_header_restored (header : UInt8) (start end_ : Bool) :
    (fuIndicate header &&& 0xE0) ||| (fuHeader header start end_ &&& 0x1F) = header :=
  forall_uint8
    (p := fun b => ∀ s e, (fuIndicate b &&& 0xE0) ||| (fuHeader b s e &&& 0x1F) = b)
    (by decide +kernel) header start end_

end Bits

/-! ## The receiver on fragments -/

namespace Depacketizer

/-- The receiver on one fragment of a unit with the header `header`. -/
theorem feed_fragment (d : Depacketizer) (header : UInt8) (start end_ : Bool)
    (bytes : List UInt8) :
    d.feed (fuIndicate header :: fuHeader header start end_ :: bytes) =
      d.feedFragment start end_ header bytes := by
  have hnot : ¬ ((1 : UInt8) ≤ 28 ∧ (28 : UInt8) ≤ 23) := by decide
  simp only [feed, fuIndicate_type, fu_header_restored, fuHeader_start, fuHeader_end, if_neg hnot,
    if_true]

/-- The receiver, in the middle of a unit, on what is left of it. -/
theorem feedAll_continued {header : UInt8} {rest : List UInt8} {ps : List (List UInt8)}
    (h : Fragments header false rest ps) (acc : List UInt8) (units : List (List UInt8)) :
    feedAll ⟨some (header :: acc), units⟩ ps =
      some ⟨none, units ++ [header :: (acc ++ rest)]⟩ := by
  generalize hs : false = start at h
  induction h generalizing acc with
  | last hlen =>
      subst hs
      simp [feedAll, feed_fragment, feedFragment]
  | @more start chunk rest ps hlen _ ih =>
      subst hs
      have hcont := ih (acc ++ chunk) rfl
      simp only [feedAll, List.foldlM_cons, feed_fragment, feedFragment, if_true] at hcont ⊢
      simpa using hcont

/-- The receiver puts together a unit that came in two fragments or more. -/
theorem feedAll_fragments {header : UInt8} {rest : List UInt8} {ps : List (List UInt8)}
    (h : Fragments header true rest ps) (hlen : kMaxRtpPayloadSize - 2 < rest.length)
    (units : List (List UInt8)) :
    feedAll ⟨none, units⟩ ps = some ⟨none, units ++ [header :: rest]⟩ := by
  cases h with
  | last hle => omega
  | @more _ chunk rest ps _ htail =>
      have hcont := feedAll_continued htail chunk units
      simp only [feedAll, List.foldlM_cons, feed_fragment, feedFragment] at hcont ⊢
      simpa using hcont

/-- The receiver on a single NAL unit packet. -/
theorem feed_unit {unit : List UInt8} (h : IsNalUnit unit) (units : List (List UInt8)) :
    feed ⟨none, units⟩ unit = some ⟨none, units ++ [unit]⟩ := by
  obtain ⟨header, rest, rfl, htype⟩ := h
  simp only [feed, if_pos htype, Option.isNone_none, if_true]

end Depacketizer

/-! ## Where the start and end bits stand -/

namespace Fragments

variable {header : UInt8} {start : Bool} {rest : List UInt8} {ps : List (List UInt8)}

theorem ne_nil (h : Fragments header start rest ps) : ps ≠ [] := by
  cases h <;> simp

/-- A fragment is an FU-A payload that fits. -/
theorem fits (h : Fragments header start rest ps) :
    ∀ p ∈ ps, isFuA p = true ∧ p.length ≤ kMaxRtpPayloadSize := by
  induction h with
  | last hlen =>
      simp only [kMaxRtpPayloadSize] at hlen ⊢
      simp [isFuA, fuIndicate_type]
      omega
  | more hlen _ ih =>
      simp only [kMaxRtpPayloadSize, List.mem_cons, forall_eq_or_imp] at hlen ih ⊢
      refine ⟨?_, ih⟩
      simp [isFuA, fuIndicate_type]
      omega

/-- A fragment has its indicator and its header. -/
theorem two_le_length (h : Fragments header start rest ps) : ∀ p ∈ ps, 2 ≤ p.length := by
  induction h with
  | last =>
      intro p hp
      rw [List.mem_singleton.mp hp]
      exact Nat.le_add_left 2 _
  | more _ _ ih =>
      intro p hp
      rcases List.mem_cons.mp hp with rfl | hp
      · exact Nat.le_add_left 2 _
      · exact ih p hp

theorem startBit_iff (h : Fragments header start rest ps) :
    ∀ i (hi : i < ps.length), startBit ps[i] = true ↔ start = true ∧ i = 0 := by
  induction h with
  | last =>
      intro i hi
      obtain rfl : i = 0 := by simpa using hi
      simp [startBit, fuHeader_start]
  | more _ _ ih =>
      intro i hi
      cases i with
      | zero => simp [startBit, fuHeader_start]
      | succ i => simpa using ih i (by simpa using hi)

theorem endBit_iff (h : Fragments header start rest ps) :
    ∀ i (hi : i < ps.length), endBit ps[i] = true ↔ i + 1 = ps.length := by
  induction h with
  | last =>
      intro i hi
      obtain rfl : i = 0 := by simpa using hi
      simp [endBit, fuHeader_end]
  | @more start _ _ ps _ htail ih =>
      intro i hi
      cases i with
      | zero =>
          have hpos := List.length_pos_iff.mpr htail.ne_nil
          simp only [endBit, List.getElem_cons_zero, List.getD_cons_succ, List.getD_cons_zero,
            fuHeader_end, List.length_cons]
          constructor
          · intro hf; exact absurd hf (by simp)
          · intro hlen; omega
      | succ i => simpa using ih i (by simpa using hi)

theorem fragmented (h : Fragments header true rest ps)
    (hlen : kMaxRtpPayloadSize - 2 < rest.length) : Fragmented ps := by
  have htwo : 2 ≤ ps.length := by
    cases h with
    | last hle => omega
    | more _ htail =>
        have hpos := List.length_pos_iff.mpr htail.ne_nil
        simp only [List.length_cons]
        omega
  refine ⟨htwo, fun p hp => (h.fits p hp).1, ?_, h.endBit_iff, ?_⟩
  · intro i hi
    simpa using h.startBit_iff i hi
  · rintro p hp ⟨hs, he⟩
    obtain ⟨i, hi, rfl⟩ := List.getElem_of_mem hp
    have h0 := (h.startBit_iff i hi).mp hs
    have hlast := (h.endBit_iff i hi).mp he
    omega

end Fragments

end WebrtcServer
