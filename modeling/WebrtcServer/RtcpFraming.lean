/-
# `RtcpFraming` — compounds as concatenations of packets

`Compound` says what a compound is: packets one behind the other, each as
long as its own length field says and long enough for what its class
contains.  The loop of `RtcpCompound::Parse` walks by another rule, the
bytes that each sub-parser consumes, and stops with one byte left as if
there were none.  The two agree for generic packets and for NACKs, also for
those that are too short; a receiver report is consumed by its count of
report blocks, whatever its length field says.  `WellFramed` is the
condition under which that makes no difference.
-/
import WebrtcServer.RtcpDecode

namespace WebrtcServer

open Lib

namespace RtcpCompound

/-! ## Compounds -/

section Spec

variable (data : Memory) (size : Nat)

/-- The header at `off`. -/
def headerAt (off : Nat) : RtcpCommonHeader := RtcpCommonHeader.load (data.shift off)

/-- A whole packet stands at `off`. -/
structure Whole (off : Nat) : Prop where
  fits : off + (headerAt data off).occupied ≤ size
  longEnough : (headerAt data off).minLength ≤ (headerAt data off).occupied

/-- The packet at `off`, from its own bytes and no others. -/
def packetAt (off : Nat) : RtcpPacket :=
  RtcpPacket.decode (Memory.ofList (window data off (headerAt data off).occupied))

/-- The bytes from an offset to the end are just these packets. -/
inductive Compound : Nat → List RtcpPacket → Prop
  | done : Compound size []
  | packet {off : Nat} {ps : List RtcpPacket} : Whole data size off →
      Compound (off + (headerAt data off).occupied) ps → Compound off (packetAt data off :: ps)

/-- The offsets that whole packets lead to from the start. -/
inductive Reached : Nat → Prop
  | start : Reached 0
  | packet {off : Nat} : Reached off → Whole data size off →
      Reached (off + (headerAt data off).occupied)

/-- A sub-parser that succeeds moves the cursor over its own packet and has
read nothing outside it. -/
def KeepsToPacket (r : ByteReader) : Prop :=
  ∀ p r', parsePacket r = some (p, r') →
    r'.start = r.start + (RtcpCommonHeader.load r.currentData).occupied ∧
      ∃ spans, r'.touched = r.touched ++ spans ∧ ∀ s ∈ spans,
        r.start ≤ s.1 ∧ s.1 + s.2 ≤ r.start + (RtcpCommonHeader.load r.currentData).occupied

def startState : State := { reader := .ofData data size, rtcps := [] }

/-- The parser accepts compounds and nothing else, with an entry for each
packet, and in every turn of the loop the sub-parser keeps to its packet. -/
structure Framing : Prop where
  accepts : ∀ ps, parse data size = some ps ↔ Compound data size 0 ps
  keeps : ∀ s, Turns State.more turn (startState data size) s → s.more = true →
    KeepsToPacket s.reader

/-- Behind whole packets there is no single byte and no receiver report
whose blocks are there but do not end where its length field says. -/
structure WellFramed : Prop where
  noSingleByte : ∀ off, Reached data size off → off + 1 ≠ size
  reports : ∀ off, Reached data size off → (headerAt data off).classOf = .receiverReport →
    off + (8 + 24 * (headerAt data off).countOrFormat) ≤ size →
    (headerAt data off).occupied = 8 + 24 * (headerAt data off).countOrFormat

end Spec

section Lengths

variable {data : Memory} {size off : Nat}

theorem Whole.lt (h : Whole data size off) : off < size := by
  have := h.fits
  have := (headerAt data off).four_le_occupied
  omega

theorem Reached.le (h : Reached data size off) : off ≤ size := by
  cases h with
  | start => exact Nat.zero_le _
  | packet _ hwhole => exact hwhole.fits

/-- The sub-parser of a whole packet consumes no more than the packet. -/
theorem Whole.codeLength_le (h : Whole data size off) :
    (headerAt data off).codeLength ≤ (headerAt data off).occupied := by
  have hlong := h.longEnough
  simp only [RtcpCommonHeader.minLength, RtcpCommonHeader.codeLength] at hlong ⊢
  split
  next hclass => exact le_rfl
  next hclass =>
    rw [RtcpCommonHeader.nack_codeLength]
    simp only [hclass, RtcpCommonHeader.occupied] at hlong ⊢
    rw [if_pos (by omega)]
  next hclass =>
    simpa only [hclass] using hlong

/-- Outside receiver reports the sub-parsers go by the length field. -/
theorem codeLength_eq_occupied (hclass : (headerAt data off).classOf ≠ .receiverReport)
    (hroom : (headerAt data off).codeLength < 18446744073709551616) :
    (headerAt data off).codeLength = (headerAt data off).occupied := by
  simp only [RtcpCommonHeader.codeLength] at hroom ⊢
  cases hc : (headerAt data off).classOf with
  | generic => rfl
  | nack =>
      simp only [hc, RtcpCommonHeader.nack_codeLength] at hroom ⊢
      split at hroom
      next h => rw [if_pos h]
      next => omega
  | receiverReport => exact absurd hc hclass

theorem whole_of_codeLength (heq : (headerAt data off).codeLength = (headerAt data off).occupied)
    (hfit : off + (headerAt data off).codeLength ≤ size) : Whole data size off := by
  refine ⟨heq ▸ hfit, ?_⟩
  have hpos := (headerAt data off).four_le_occupied
  simp only [RtcpCommonHeader.minLength]
  simp only [RtcpCommonHeader.codeLength] at heq
  split
  next => exact hpos
  next hclass =>
    simp only [hclass] at heq
    omega
  next hclass =>
    simp only [hclass] at heq
    omega

end Lengths

/-! ## Turns of the loop -/

/-- A state of the loop with the cursor at `off`. -/
structure AtOffset (data : Memory) (size off : Nat) (s : State) : Prop where
  bytes : s.reader.bytes = data
  end_ : s.reader.end_ = size
  start : s.reader.start = off

section Turns

variable {data : Memory} {size off : Nat} {s t : State}

theorem atOffset_start (data : Memory) (size : Nat) : AtOffset data size 0 (startState data size) :=
  ⟨rfl, rfl, rfl⟩

theorem AtOffset.left (h : AtOffset data size off s) : s.reader.left = size - off := by
  simp only [ByteReader.left, h.end_, h.start]

theorem AtOffset.currentData (h : AtOffset data size off s) :
    s.reader.currentData = data.shift off := by
  simp only [ByteReader.currentData, h.bytes, h.start]

theorem AtOffset.header (h : AtOffset data size off s) :
    RtcpCommonHeader.load s.reader.currentData = headerAt data off := by
  rw [h.currentData, headerAt]

/-- A turn with bytes enough appends the packet and moves on. -/
theorem turn_ok (h : AtOffset data size off s)
    (henough : (headerAt data off).codeLength ≤ size - off) :
    ∃ t, turn s = .ok t ∧ AtOffset data size (off + (headerAt data off).codeLength) t ∧
      t.rtcps = s.rtcps ++ [RtcpPacket.decode (data.shift off)] ∧
      s.reader.Took (headerAt data off).codeLength t.reader := by
  have hreads := reads_packet s.reader
  simp only [Reads, h.header, h.left] at hreads
  rw [if_pos henough] at hreads
  obtain ⟨r', heq, htook⟩ := hreads
  rw [h.currentData] at heq
  refine ⟨⟨r', s.rtcps ++ [RtcpPacket.decode (data.shift off)]⟩, ?_, ?_, rfl, htook⟩
  · simp only [turn, heq]
  · exact ⟨htook.bytes.trans h.bytes, htook.end_.trans h.end_, by rw [htook.start, h.start]⟩

/-- A turn without leaves the loop. -/
theorem turn_error (h : AtOffset data size off s)
    (hshort : ¬ (headerAt data off).codeLength ≤ size - off) : turn s = .error () := by
  have hreads := reads_packet s.reader
  simp only [Reads, h.header, h.left] at hreads
  rw [if_neg hshort] at hreads
  simp only [turn, hreads]

theorem turn_enough (h : AtOffset data size off s) (hturn : turn s = .ok t) :
    (headerAt data off).codeLength ≤ size - off := by
  by_contra hshort
  rw [turn_error h hshort] at hturn
  exact absurd hturn (by simp)

/-- Every turn consumes bytes. -/
theorem bounded : Bounded State.more turn (fun _ => True) fun s => s.reader.left := by
  refine ⟨?_, ?_⟩
  · intro s _ hmore
    simp only [State.more, decide_eq_true_eq] at hmore
    omega
  · rintro s t - ⟨-, hturn⟩
    refine ⟨trivial, ?_⟩
    have hat : AtOffset s.reader.bytes s.reader.end_ s.reader.start s := ⟨rfl, rfl, rfl⟩
    have henough := turn_enough hat hturn
    obtain ⟨t', hturn', hat', -, -⟩ := turn_ok hat henough
    obtain rfl : t' = t := Except.ok.inj (hturn'.symm.trans hturn)
    have := (headerAt s.reader.bytes s.reader.start).four_le_codeLength
    rw [hat'.left, hat.left]
    omega

/-- The loop ends where it stops, whatever its fuel. -/
theorem loop_eq_ok_iff : whileLoop State.more turn size (startState data size) = .ok t ↔
    Turns State.more turn (startState data size) t ∧ t.more = false :=
  whileLoop_eq_ok_iff bounded trivial le_rfl

/-- The parser gives the packets of the state in which its loop stops. -/
theorem parse_eq_some_iff {ps : List RtcpPacket} :
    parse data size = some ps ↔
      ∃ t, whileLoop State.more turn size (startState data size) = .ok t ∧ t.rtcps = ps := by
  constructor
  · intro h
    simp only [parse] at h
    split at h
    · exact absurd h (by simp)
    next t ht => exact ⟨t, ht, Option.some.inj h⟩
  · rintro ⟨t, ht, rfl⟩
    rw [startState] at ht
    simp only [parse, ht]

end Turns

/-! ## Framing -/

section Framing

variable {data : Memory} {size off : Nat}

/-- The packets behind whole packets are a compound if all are. -/
theorem Compound.of_reached {ps : List RtcpPacket} (hr : Reached data size off)
    (h : Compound data size 0 ps) : ∃ qs, Compound data size off qs := by
  induction hr with
  | start => exact ⟨ps, h⟩
  | packet hr hwhole ih =>
      obtain ⟨qs, hqs⟩ := ih
      cases hqs with
      | done => exact absurd hwhole.lt (Nat.lt_irrefl size)
      | packet _ htail => exact ⟨_, htail⟩

/-- In a well-framed string the sub-parsers go by the length fields. -/
theorem WellFramed.codeLength_eq (hw : WellFramed data size) (hsize : size < 2147483648)
    (hr : Reached data size off) (henough : (headerAt data off).codeLength ≤ size - off) :
    (headerAt data off).codeLength = (headerAt data off).occupied := by
  by_cases hclass : (headerAt data off).classOf = .receiverReport
  · have hpos := (headerAt data off).four_le_codeLength
    have hlen : (headerAt data off).codeLength = 8 + 24 * (headerAt data off).countOrFormat := by
      simp only [RtcpCommonHeader.codeLength, hclass]
    rw [hlen]
    exact (hw.reports off hr hclass (by omega)).symm
  · exact codeLength_eq_occupied hclass (by omega)

theorem WellFramed.whole_iff (hw : WellFramed data size) (hsize : size < 2147483648)
    (hr : Reached data size off) :
    Whole data size off ↔ (headerAt data off).codeLength ≤ size - off := by
  constructor
  · intro hwhole
    have := hwhole.codeLength_le
    have := hwhole.fits
    omega
  · intro henough
    have hle := hr.le
    exact whole_of_codeLength (hw.codeLength_eq hsize hr henough) (by omega)

theorem packetAt_eq (hle : (headerAt data off).codeLength ≤ (headerAt data off).occupied) :
    packetAt data off = RtcpPacket.decode (data.shift off) := by
  apply Eq.symm
  apply RtcpPacket.decode_congr
  intro i hi
  rw [ofList_window (Nat.lt_of_lt_of_le hi hle)]
  rfl

theorem AtOffset.more_iff {s : State} (hat : AtOffset data size off s) :
    s.more = true ↔ 2 ≤ size - off := by
  simp only [State.more, decide_eq_true_eq, hat.left]

/-- In a well-framed string a loop that stops has nothing left. -/
theorem WellFramed.stop (hw : WellFramed data size) {s : State} (hr : Reached data size off)
    (hat : AtOffset data size off s) (hmore : s.more = false) : off = size := by
  have hle := hr.le
  have hsingle := hw.noSingleByte off hr
  have hfew : ¬ 2 ≤ size - off := by
    rw [← hat.more_iff, hmore]
    exact Bool.false_ne_true
  omega

/-- Behind whole packets the loop gives the packets of a compound, if it does
not fail. -/
theorem WellFramed.compound_of_loop (hw : WellFramed data size) (hsize : size < 2147483648)
    {fuel : Nat} {s t : State} (hr : Reached data size off) (hat : AtOffset data size off s)
    (hfuel : size - off ≤ fuel) (hloop : whileLoop State.more turn fuel s = .ok t) :
    ∃ ps, t.rtcps = s.rtcps ++ ps ∧ Compound data size off ps := by
  induction fuel generalizing off s with
  | zero =>
      obtain rfl : s = t := Except.ok.inj hloop
      have hend : off = size := by
        have := hr.le
        omega
      exact ⟨[], by simp, hend ▸ .done⟩
  | succ fuel ih =>
      cases hmore : s.more with
      | false =>
          rw [whileLoop_of_not_more hmore] at hloop
          obtain rfl : s = t := Except.ok.inj hloop
          exact ⟨[], by simp, hw.stop hr hat hmore ▸ .done⟩
      | true =>
          by_cases henough : (headerAt data off).codeLength ≤ size - off
          · have hwhole := (hw.whole_iff hsize hr).mpr henough
            have hpos := (headerAt data off).four_le_occupied
            obtain ⟨u, hturn, hat', hrtcps, -⟩ := turn_ok hat henough
            rw [hw.codeLength_eq hsize hr henough] at hat'
            rw [whileLoop_of_turn hmore hturn] at hloop
            obtain ⟨qs, hqs, hcompound⟩ := ih (hr.packet hwhole) hat' (by omega) hloop
            refine ⟨packetAt data off :: qs, ?_, .packet hwhole hcompound⟩
            rw [hqs, hrtcps, packetAt_eq hwhole.codeLength_le]
            simp
          · simp only [whileLoop, hmore, turn_error hat henough, if_true] at hloop
            exact absurd hloop (by simp)

/-- On a compound the loop ends with its packets. -/
theorem WellFramed.loop_of_compound (hw : WellFramed data size) (hsize : size < 2147483648)
    {fuel : Nat} {s : State} {ps : List RtcpPacket} (hr : Reached data size off)
    (hat : AtOffset data size off s) (hfuel : size - off ≤ fuel)
    (hc : Compound data size off ps) :
    ∃ t, whileLoop State.more turn fuel s = .ok t ∧ t.rtcps = s.rtcps ++ ps := by
  induction hc generalizing fuel s with
  | done =>
      have hmore : s.more = false := by
        refine Bool.eq_false_iff.mpr ?_
        intro hm
        have := hat.more_iff.mp hm
        omega
      exact ⟨s, whileLoop_of_not_more hmore, by simp⟩
  | @packet off ps hwhole _ ih =>
      have henough := (hw.whole_iff hsize hr).mp hwhole
      have hlt := hwhole.lt
      have hfits := hwhole.fits
      have hpos := (headerAt data off).four_le_occupied
      obtain ⟨fuel, rfl⟩ : ∃ n, fuel = n + 1 := ⟨fuel - 1, by omega⟩
      obtain ⟨u, hturn, hat', hrtcps, -⟩ := turn_ok hat henough
      rw [hw.codeLength_eq hsize hr henough] at hat'
      rw [whileLoop_of_turn (hat.more_iff.mpr (by omega)) hturn]
      obtain ⟨t, ht, hps⟩ : ∃ t, whileLoop State.more turn fuel u = .ok t ∧
          t.rtcps = u.rtcps ++ ps := ih (hr.packet hwhole) hat' (by omega)
      refine ⟨t, ht, ?_⟩
      rw [hps, hrtcps, packetAt_eq hwhole.codeLength_le]
      simp

/-- The cursor of a well-framed string stands behind whole packets. -/
theorem WellFramed.turns_reached (hw : WellFramed data size) (hsize : size < 2147483648)
    {s : State} (hturns : Turns State.more turn (startState data size) s) :
    ∃ off, Reached data size off ∧ AtOffset data size off s := by
  refine Turns.invariant (I := fun s => ∃ off, Reached data size off ∧ AtOffset data size off s) ?_
    hturns ⟨0, .start, atOffset_start data size⟩
  rintro s t ⟨off, hr, hat⟩ ⟨-, hturn⟩
  have henough := turn_enough hat hturn
  obtain ⟨t', hturn', hat', -, -⟩ := turn_ok hat henough
  obtain rfl : t' = t := Except.ok.inj (hturn'.symm.trans hturn)
  rw [hw.codeLength_eq hsize hr henough] at hat'
  exact ⟨_, hr.packet ((hw.whole_iff hsize hr).mpr henough), hat'⟩

theorem WellFramed.framing (hw : WellFramed data size) (hsize : size < 2147483648) :
    Framing data size := by
  have hstart := atOffset_start data size
  refine ⟨?_, ?_⟩
  · intro ps
    rw [parse_eq_some_iff]
    constructor
    · rintro ⟨t, hloop, rfl⟩
      obtain ⟨ps, hps, hc⟩ := hw.compound_of_loop hsize .start hstart (Nat.sub_le size 0) hloop
      rw [hps]
      exact hc
    · intro hc
      exact hw.loop_of_compound hsize .start hstart (Nat.sub_le size 0) hc
  · intro s hturns _ p r' hparse
    obtain ⟨off, hr, hat⟩ := hw.turns_reached hsize hturns
    have hturn : turn s = .ok ⟨r', s.rtcps ++ [p]⟩ := by simp only [turn, hparse]
    have henough := turn_enough hat hturn
    obtain ⟨t, hturn', -, -, htook⟩ := turn_ok hat henough
    obtain rfl : t = ⟨r', s.rtcps ++ [p]⟩ := Except.ok.inj (hturn'.symm.trans hturn)
    rw [hw.codeLength_eq hsize hr henough] at htook
    rw [hat.header]
    exact ⟨htook.start, htook.touched⟩

/-- A sub-parser that succeeds and keeps to its packet goes by the length
field. -/
theorem Framing.codeLength_eq (hf : Framing data size) {s : State}
    (hturns : Turns State.more turn (startState data size) s) (hmore : s.more = true)
    (hat : AtOffset data size off s) (henough : (headerAt data off).codeLength ≤ size - off) :
    (headerAt data off).codeLength = (headerAt data off).occupied := by
  have hreads := reads_packet s.reader
  simp only [Reads, hat.header, hat.left, if_pos henough] at hreads
  obtain ⟨r', hparse, htook⟩ := hreads
  have hkeeps := (hf.keeps s hturns hmore _ r' hparse).1
  rw [htook.start, hat.header] at hkeeps
  exact Nat.add_left_cancel hkeeps

/-- Where every sub-parser keeps to its packet, the cursor follows the whole
packets. -/
theorem Framing.turns_of_reached (hf : Framing data size) (hr : Reached data size off) :
    ∃ s, Turns State.more turn (startState data size) s ∧ AtOffset data size off s := by
  induction hr with
  | start => exact ⟨_, .refl, atOffset_start data size⟩
  | @packet off hr hwhole ih =>
      obtain ⟨s, hturns, hat⟩ := ih
      have hfits := hwhole.fits
      have hle := hwhole.codeLength_le
      have hpos := (headerAt data off).four_le_occupied
      have henough : (headerAt data off).codeLength ≤ size - off := by omega
      have hmore := hat.more_iff.mpr (by omega)
      obtain ⟨t, hturn, hat', -, -⟩ := turn_ok hat henough
      rw [hf.codeLength_eq hturns hmore hat henough] at hat'
      exact ⟨t, hturns.tail ⟨hmore, hturn⟩, hat'⟩

theorem Framing.wellFramed (hf : Framing data size) : WellFramed data size := by
  refine ⟨?_, ?_⟩
  · intro off hr hsingle
    obtain ⟨s, hturns, hat⟩ := hf.turns_of_reached hr
    have hmore : s.more = false := by
      refine Bool.eq_false_iff.mpr ?_
      intro hm
      have := hat.more_iff.mp hm
      omega
    -- the loop stops before the single byte and accepts
    have hparse := parse_eq_some_iff.mpr ⟨s, loop_eq_ok_iff.mpr ⟨hturns, hmore⟩, rfl⟩
    obtain ⟨qs, hqs⟩ := Compound.of_reached hr ((hf.accepts _).mp hparse)
    have hpos := (headerAt data off).four_le_occupied
    cases hqs with
    | done => omega
    | packet hwhole _ =>
        have := hwhole.fits
        omega
  · intro off hr hclass hroom
    obtain ⟨s, hturns, hat⟩ := hf.turns_of_reached hr
    have hlen : (headerAt data off).codeLength = 8 + 24 * (headerAt data off).countOrFormat := by
      simp only [RtcpCommonHeader.codeLength, hclass]
    have hmore := hat.more_iff.mpr (by omega)
    rw [← hlen]
    exact (hf.codeLength_eq hturns hmore hat (by omega)).symm

/-- The loop frames a string by its length fields exactly when it is well
framed. -/
theorem framing_iff (data : Memory) (size : Nat) (h : size < 2147483648) :
    Framing data size ↔ WellFramed data size :=
  ⟨fun hf => hf.wellFramed, fun hw => hw.framing h⟩

/-- A receiver report without blocks, and a NACK with one item. -/
def reportAndNack : List UInt8 :=
  [0x80, 0xC9, 0x00, 0x01, 0x00, 0x00, 0x00, 0x04,
   0x81, 0xCD, 0x00, 0x03, 0x00, 0x00, 0x00, 0x04, 0x00, 0x00, 0x00, 0x05, 0x00, 0x07, 0x00, 0x01]

/-- A receiver report without blocks, with four bytes of profile-specific
extension. -/
def extendedReport : List UInt8 :=
  [0x80, 0xC9, 0x00, 0x02, 0x00, 0x00, 0x00, 0x04, 0x00, 0x00, 0x00, 0x00]

theorem reached_reportAndNack (h : Reached (Memory.ofList reportAndNack) 24 off) :
    off = 0 ∨ off = 8 ∨ off = 24 := by
  induction h with
  | start => exact Or.inl rfl
  | packet _ hwhole ih =>
      rcases ih with rfl | rfl | rfl
      · exact Or.inr (Or.inl (by decide))
      · exact Or.inr (Or.inr (by decide))
      · exact absurd hwhole.lt (by decide)

theorem reportAndNack_wellFramed : WellFramed (Memory.ofList reportAndNack) 24 := by
  refine ⟨?_, ?_⟩
  · intro off hr
    rcases reached_reportAndNack hr with rfl | rfl | rfl <;> decide
  · intro off hr
    rcases reached_reportAndNack hr with rfl | rfl | rfl <;> decide

theorem reportAndNack_framing : 24 < 2147483648 ∧ Framing (Memory.ofList reportAndNack) 24 :=
  ⟨by decide, (framing_iff (Memory.ofList reportAndNack) 24 (by decide)).mpr
    reportAndNack_wellFramed⟩

/-- The string is one packet of twelve bytes; the parser takes it for two, a
report of eight bytes and a packet of four. -/
theorem extendedReport_misframed :
    Compound (Memory.ofList extendedReport) 12 0 [packetAt (Memory.ofList extendedReport) 0] ∧
      (parse (Memory.ofList extendedReport) 12).map List.length = some 2 ∧
      ¬ Framing (Memory.ofList extendedReport) 12 := by
  have hwhole : Whole (Memory.ofList extendedReport) 12 0 := ⟨by decide, by decide⟩
  refine ⟨.packet hwhole .done, by decide, ?_⟩
  intro hf
  exact absurd (hf.wellFramed.reports 0 .start (by decide) (by decide)) (by decide)

end Framing

end RtcpCompound

end WebrtcServer
