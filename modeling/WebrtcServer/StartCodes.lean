/-
# `StartCodes` — the units that `ParseNaluPositions` finds

The scan steps over three bytes at once where the third of them is not a
zero, and it enters the length of a unit when it comes to the start code
behind it.  The plain scan tests every position and reads the units off the
start codes found.  Both find the same units.  `plainScan` gives them by
begin and end, so that a length that had wrapped would show.
-/
import WebrtcServer.Lib.Scan
import WebrtcServer.RtpPacket

namespace WebrtcServer

open Lib

namespace H264RtpPacketizer

/-- The bytes `00 00 01` at `i`. -/
def StartCode (buffer : Memory) (i : Nat) : Prop :=
  buffer i = 0 ∧ buffer (i + 1) = 0 ∧ buffer (i + 2) = 1

instance (buffer : Memory) : DecidablePred (StartCode buffer) := fun _ =>
  inferInstanceAs (Decidable (_ ∧ _ ∧ _))

/-- Where the unit in front of the start code at `i` ends; a zero in front
of the start code belongs to it. -/
def unitStop (buffer : Memory) (i : Nat) : Nat :=
  if 0 < i ∧ buffer (i - 1) = 0 then i - 1 else i

/-- The start codes with a byte behind them. -/
def startCodes (buffer : Memory) (size : Nat) : List Nat :=
  hits (StartCode buffer) 0 (size - 3)

/-- The end of a unit whose next start code is the first of `starts`. -/
def stopBefore (buffer : Memory) (size : Nat) (starts : List Nat) : Nat :=
  (starts.head?.map (unitStop buffer)).getD size

/-- The units behind the start codes `starts`, by begin and end. -/
def unitsBehind (buffer : Memory) (size : Nat) : List Nat → List (Nat × Nat)
  | [] => []
  | i :: starts => (i + 3, stopBefore buffer size starts) :: unitsBehind buffer size starts

def plainScan (buffer : Memory) (size : Nat) : List (Nat × Nat) :=
  unitsBehind buffer size (startCodes buffer size)

section Codes

variable {buffer : Memory} {i j : Nat}

theorem unitStop_le (buffer : Memory) (i : Nat) : unitStop buffer i ≤ i := by
  simp only [unitStop]
  split <;> omega

/-- Two start codes do not overlap. -/
theorem StartCode.apart (hi : StartCode buffer i) (hj : StartCode buffer j) (hij : i < j) :
    i + 3 ≤ j := by
  obtain ⟨-, -, hone⟩ := hi
  obtain ⟨hzero, hzero', -⟩ := hj
  have hne₁ : j ≠ i + 1 := by
    rintro rfl
    rw [hzero'] at hone
    exact absurd hone (by decide)
  have hne₂ : j ≠ i + 2 := by
    rintro rfl
    rw [hzero] at hone
    exact absurd hone (by decide)
  omega

/-- Nor does the zero that the second of them may have in front. -/
theorem StartCode.le_unitStop (hi : StartCode buffer i) (hj : StartCode buffer j) (hij : i < j) :
    i + 3 ≤ unitStop buffer j := by
  have hapart := hi.apart hj hij
  simp only [unitStop]
  split
  next hz =>
    have hne : j - 1 ≠ i + 2 := by
      intro heq
      have hone := hi.2.2
      rw [← heq, hz.2] at hone
      exact absurd hone (by decide)
    omega
  next => exact hapart

end Codes

/-! ## The loop -/

section Loop

variable {buffer : Memory} {i size stop fuel : Nat} {sequences : List NaluPosition}

/-- What the loop makes of a start code at `i`. -/
def enter (buffer : Memory) (sequences : List NaluPosition) (i : Nat) : List NaluPosition :=
  updateLast sequences (unitStop buffer i) ++ [(i + 3, 0)]

/-- A turn enters a start code at `i`, or jumps over positions where there
is none. -/
theorem scanTurn_cases (buffer : Memory) (i : Nat) (sequences : List NaluPosition) :
    (StartCode buffer i ∧
      scanTurn buffer i sequences = (i + 3, enter buffer sequences i)) ∨
    ∃ k, i < k ∧ scanTurn buffer i sequences = (k, sequences) ∧
      ∀ j, i ≤ j → j < k → ¬ StartCode buffer j := by
  -- a start code at one of three positions needs a zero or a one in the third byte
  have hthree (hne : buffer (i + 2) ≠ 0) (hnot : ¬ StartCode buffer i) :
      ∀ j, i ≤ j → j < i + 3 → ¬ StartCode buffer j := by
    rintro j hij hjk ⟨hzero, hzero', hone⟩
    obtain rfl | rfl | rfl : j = i ∨ j = i + 1 ∨ j = i + 2 := by omega
    · exact hnot ⟨hzero, hzero', hone⟩
    · exact hne hzero'
    · exact hne hzero
  simp only [scanTurn]
  split
  next hbig =>
    right
    refine ⟨i + 3, by omega, rfl, hthree ?_ ?_⟩
    · intro heq
      rw [heq] at hbig
      exact absurd hbig (by decide)
    · rintro ⟨-, -, hone⟩
      rw [hone] at hbig
      exact absurd hbig (by decide)
  next =>
    split
    next hone =>
      have hne : buffer (i + 2) ≠ 0 := by
        rw [hone]
        decide
      split
      next hzeros => exact Or.inl ⟨⟨hzeros.2, hzeros.1, hone⟩, rfl⟩
      next hzeros =>
        right
        refine ⟨i + 3, by omega, rfl, hthree hne ?_⟩
        rintro ⟨hzero, hzero', -⟩
        exact hzeros ⟨hzero', hzero⟩
    next hone =>
      right
      refine ⟨i + 1, by omega, rfl, ?_⟩
      intro j hij hjk
      obtain rfl : j = i := by omega
      exact fun hcode => hone hcode.2.2

/-- The loop enters every start code, once and in order. -/
theorem scan_eq_foldl (buffer : Memory) (h : stop ≤ i + fuel) (sequences : List NaluPosition) :
    scan buffer stop fuel i sequences =
      (hits (StartCode buffer) i stop).foldl (enter buffer) sequences := by
  induction fuel generalizing i sequences with
  | zero =>
      rw [hits_of_le (by omega)]
      rfl
  | succ fuel ih =>
      rw [scan]
      split
      next hi =>
        rcases scanTurn_cases buffer i sequences with ⟨hcode, hturn⟩ | ⟨k, hik, hturn, hno⟩
        · simp only [hturn]
          rw [ih (by omega), hits_cons hi hcode, List.foldl_cons]
          have hskip : hits (StartCode buffer) (i + 1) stop =
              hits (StartCode buffer) (i + 3) stop := by
            refine hits_skip (by omega) ?_
            intro j hij hjk hj
            have := hcode.apart hj hij
            omega
          rw [hskip]
        · simp only [hturn]
          rw [ih (by omega), hits_skip (Nat.le_of_lt hik) hno]
      next hi =>
        rw [hits_of_le (Nat.le_of_not_lt hi)]
        rfl

end Loop

/-! ## The lengths -/

section Lengths

variable {buffer : Memory} {size : Nat}

theorem mem_startCodes {i : Nat} :
    i ∈ startCodes buffer size ↔ i + 3 < size ∧ StartCode buffer i := by
  rw [startCodes, mem_hits]
  constructor
  · rintro ⟨-, hlt, hcode⟩
    exact ⟨by omega, hcode⟩
  · rintro ⟨hlt, hcode⟩
    exact ⟨Nat.zero_le i, by omega, hcode⟩

theorem startCodes_sorted (buffer : Memory) (size : Nat) :
    (startCodes buffer size).Pairwise (· < ·) :=
  hits_sorted _ 0 (size - 3)

/-- The start codes that are still to come leave room for the units in
front of them. -/
structure Spaced (buffer : Memory) (size : Nat) (starts : List Nat) : Prop where
  apart : starts.Pairwise fun i j => i + 3 ≤ unitStop buffer j
  before : ∀ i ∈ starts, i + 3 < size

theorem startCodes_spaced (buffer : Memory) (size : Nat) :
    Spaced buffer size (startCodes buffer size) := by
  refine ⟨?_, ?_⟩
  · refine (startCodes_sorted buffer size).imp_of_mem ?_
    intro i j hi hj hij
    exact (mem_startCodes.mp hi).2.le_unitStop (mem_startCodes.mp hj).2 hij
  · intro i hi
    exact (mem_startCodes.mp hi).1

theorem Spaced.tail {i : Nat} {starts : List Nat} (h : Spaced buffer size (i :: starts)) :
    Spaced buffer size starts :=
  ⟨(List.pairwise_cons.mp h.apart).2, fun j hj => h.before j (List.mem_cons_of_mem i hj)⟩

/-- A unit begins before it ends, and ends inside the buffer. -/
theorem Spaced.stopBefore {i : Nat} {starts : List Nat} (h : Spaced buffer size (i :: starts)) :
    i + 3 ≤ stopBefore buffer size starts ∧ stopBefore buffer size starts ≤ size := by
  have hi := h.before i List.mem_cons_self
  cases starts with
  | nil =>
      simp only [H264RtpPacketizer.stopBefore, List.head?_nil, Option.map_none, Option.getD_none]
      omega
  | cons j starts =>
      have hj := h.before j (List.mem_cons_of_mem i List.mem_cons_self)
      have hle := unitStop_le buffer j
      have hapart := (List.pairwise_cons.mp h.apart).1 j List.mem_cons_self
      simp only [H264RtpPacketizer.stopBefore, List.head?_cons, Option.map_some, Option.getD_some]
      omega

/-- The last entry gets its length, which does not wrap. -/
theorem updateLast_snoc (done : List NaluPosition) {b n stop : Nat} (hle : b ≤ stop)
    (hlt : stop < 18446744073709551616) :
    updateLast (done ++ [(b, n)]) stop = done ++ [(b, stop - b)] := by
  have hlen : toSizeT ((stop : Int) - b) = stop - b := by
    simp only [toSizeT]
    omega
  simp only [updateLast, List.getLast?_concat, List.dropLast_concat, hlen]

/-- An entry of `plainScan` as the code has it. -/
def asPosition (u : Nat × Nat) : NaluPosition := (u.1, u.2 - u.1)

/-- The induction is on the start codes to come; the entry of the one
before them is the last of the list, its length still open. -/
theorem foldl_enter (hsize : size < 18446744073709551616) {i : Nat} {starts : List Nat}
    (h : Spaced buffer size (i :: starts)) (done : List NaluPosition) :
    updateLast (starts.foldl (enter buffer) (done ++ [(i + 3, 0)])) size =
      done ++ (unitsBehind buffer size (i :: starts)).map asPosition := by
  induction starts generalizing i done with
  | nil =>
      obtain ⟨hle, -⟩ := h.stopBefore
      exact updateLast_snoc done hle hsize
  | cons j starts ih =>
      obtain ⟨hle, hin⟩ := h.stopBefore
      have henter : enter buffer (done ++ [(i + 3, 0)]) j =
          (done ++ [asPosition (i + 3, unitStop buffer j)]) ++ [(j + 3, 0)] := by
        show updateLast _ (stopBefore buffer size (j :: starts)) ++ _ = _
        rw [updateLast_snoc done hle (Nat.lt_of_le_of_lt hin hsize)]
        rfl
      rw [List.foldl_cons, henter, ih h.tail, List.append_assoc]
      rfl

theorem parseNaluPositions_eq (buffer : Memory) (hsize : size < 18446744073709551616) :
    parseNaluPositions buffer size = (plainScan buffer size).map asPosition := by
  rw [parseNaluPositions, scan_eq_foldl buffer (by omega)]
  split
  next hshort =>
    have hnone : startCodes buffer size = [] := hits_of_le (by omega)
    rw [plainScan, hnone]
    rfl
  next =>
    show updateLast ((startCodes buffer size).foldl (enter buffer) []) size = _
    have hspaced := startCodes_spaced buffer size
    rw [plainScan]
    cases hcodes : startCodes buffer size with
    | nil => rfl
    | cons i starts =>
        rw [hcodes] at hspaced
        exact foldl_enter hsize hspaced []

/-- Units are in bounds. -/
theorem Spaced.units_within {starts : List Nat} (h : Spaced buffer size starts) :
    ∀ u ∈ unitsBehind buffer size starts, u.1 ≤ u.2 ∧ u.2 ≤ size := by
  induction starts with
  | nil => exact fun _ hu => absurd hu List.not_mem_nil
  | cons i starts ih => exact List.forall_mem_cons.mpr ⟨h.stopBefore, ih h.tail⟩

/-- A unit begins behind its start code and ends in front of all that come
later. -/
theorem Spaced.units_behind {starts : List Nat} (h : Spaced buffer size starts) :
    ∀ u ∈ unitsBehind buffer size starts,
      ∃ i ∈ starts, u.1 = i + 3 ∧ ∀ j ∈ starts, i < j → u.2 ≤ unitStop buffer j := by
  induction starts with
  | nil => exact fun _ hu => absurd hu List.not_mem_nil
  | cons i starts ih =>
      have hafter := (List.pairwise_cons.mp h.apart).1
      refine List.forall_mem_cons.mpr ⟨⟨i, List.mem_cons_self, rfl, ?_⟩, ?_⟩
      · intro k hk hik
        have hk := (List.mem_cons.mp hk).resolve_left (Nat.ne_of_gt hik)
        cases starts with
        | nil => exact absurd hk List.not_mem_nil
        | cons j starts =>
            show unitStop buffer j ≤ unitStop buffer k
            rcases List.mem_cons.mp hk with rfl | hk
            · exact Nat.le_refl _
            · have := (List.pairwise_cons.mp h.tail.apart).1 k hk
              have := unitStop_le buffer j
              omega
      · intro u hu
        obtain ⟨k, hk, hbegin, hstop⟩ := ih h.tail u hu
        refine ⟨k, List.mem_cons_of_mem i hk, hbegin, ?_⟩
        intro j hj hkj
        rcases List.mem_cons.mp hj with rfl | hj
        · have := hafter k hk
          have := unitStop_le buffer k
          omega
        · exact hstop j hj hkj

/-- A unit ends before the next one begins. -/
theorem Spaced.units_disjoint {starts : List Nat} (h : Spaced buffer size starts) :
    (unitsBehind buffer size starts).Pairwise fun u v => u.2 < v.1 := by
  induction starts with
  | nil => exact .nil
  | cons i starts ih =>
      refine .cons ?_ (ih h.tail)
      intro v hv
      obtain ⟨k, hk, hbegin, -⟩ := h.tail.units_behind v hv
      obtain ⟨i', hi', heq, hstop⟩ := h.units_behind _ List.mem_cons_self
      obtain rfl : i' = i := Nat.add_right_cancel heq.symm
      have hik := (List.pairwise_cons.mp h.apart).1 k hk
      have hle := unitStop_le buffer k
      have := hstop k (List.mem_cons_of_mem _ hk) (by omega)
      omega

/-- The last unit takes the rest of the buffer, which is not empty. -/
theorem Spaced.last_unit {starts : List Nat} (h : Spaced buffer size starts) :
    ∀ u, (unitsBehind buffer size starts).getLast? = some u → u.1 < u.2 ∧ u.2 = size := by
  induction starts with
  | nil => exact fun _ hu => absurd hu (by simp [unitsBehind])
  | cons i starts ih =>
      cases starts with
      | nil =>
          intro u hu
          cases hu
          exact ⟨h.before i List.mem_cons_self, rfl⟩
      | cons j starts =>
          intro u hu
          rw [unitsBehind, unitsBehind, List.getLast?_cons_cons] at hu
          exact ih h.tail u hu

/-- The units found lie in the buffer. -/
theorem parseNaluPositions_within (hsize : size < 18446744073709551616) :
    ∀ n ∈ parseNaluPositions buffer size, n.1 + n.2 ≤ size := by
  intro n hn
  rw [parseNaluPositions_eq buffer hsize] at hn
  obtain ⟨u, hu, rfl⟩ := List.mem_map.mp hn
  obtain ⟨hle, hin⟩ := (startCodes_spaced buffer size).units_within u hu
  simp only [asPosition]
  omega

/-- The code's scan finds what the plain scan finds, with lengths that do
not wrap, in spans that lie in the buffer, one behind the other, the last of
them not empty. -/
theorem parseNaluPositions_plain (buffer : Memory) (hsize : size < 18446744073709551616) :
    parseNaluPositions buffer size =
        (plainScan buffer size).map (fun u => (u.1, u.2 - u.1)) ∧
      (∀ u ∈ plainScan buffer size, u.1 ≤ u.2 ∧ u.2 ≤ size) ∧
      (plainScan buffer size).Pairwise (fun u v => u.2 < v.1) ∧
      ∀ u, (plainScan buffer size).getLast? = some u → u.1 < u.2 := by
  have hspaced := startCodes_spaced buffer size
  exact ⟨parseNaluPositions_eq buffer hsize, hspaced.units_within, hspaced.units_disjoint,
    fun u hu => (hspaced.last_unit u hu).1⟩

/-- Two start codes with nothing between them, and a third at the end. -/
def adjacentCodes : List UInt8 := [0, 0, 0, 1, 0, 0, 1, 0x67, 0x42, 0, 0, 1]

theorem parseNaluPositions_plain_adjacent :
    parseNaluPositions (Memory.ofList adjacentCodes) 12 = [(4, 0), (7, 5)] := by
  rw [(parseNaluPositions_plain (Memory.ofList adjacentCodes) (by decide)).1]
  decide

end Lengths

end H264RtpPacketizer

end WebrtcServer
