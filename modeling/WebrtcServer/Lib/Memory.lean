/-
# `Lib.Memory` — bytes behind a pointer

A pointer into memory is the function that gives the byte at each offset
from it, so pointer arithmetic is a shift of the argument.  Nothing here
knows where an object ends: what a piece of code reads past the end of the
object it was given is whatever the function holds there, and a
development that cares records the spans it touches and compares them
with the size.

`window` reads a block, `poke` writes one.  The lemmas say how the two
meet: inside the written block, outside of it, and across a split.
-/
import Mathlib.Data.List.GetD
import Mathlib.Data.List.Range

namespace Lib

/-- The bytes from a pointer on, by their offset. -/
abbrev Memory := Nat → UInt8

/-- The object `bs`; a total function, so it is zero past its end. -/
def Memory.ofList (bs : List UInt8) : Memory := fun i => bs.getD i 0

/-- The pointer moved on by `off` bytes. -/
def Memory.shift (mem : Memory) (off : Nat) : Memory := fun i => mem (off + i)

@[simp] theorem Memory.shift_apply (mem : Memory) (off i : Nat) :
    mem.shift off i = mem (off + i) := rfl

@[simp] theorem Memory.shift_zero (mem : Memory) : mem.shift 0 = mem := by
  funext i
  simp only [Memory.shift_apply, Nat.zero_add]

theorem Memory.shift_shift (mem : Memory) (m n : Nat) :
    (mem.shift m).shift n = mem.shift (m + n) := by
  funext i
  simp only [Memory.shift_apply, Nat.add_assoc]

/-- The block of `len` bytes at `off`. -/
def window (mem : Memory) (off len : Nat) : List UInt8 :=
  (List.range len).map fun i => mem (off + i)

@[simp] theorem window_length (mem : Memory) (off len : Nat) :
    (window mem off len).length = len := by
  simp [window]

@[simp] theorem window_zero (mem : Memory) (off : Nat) : window mem off 0 = [] := rfl

theorem window_getElem (mem : Memory) (off len i : Nat) (h : i < (window mem off len).length) :
    (window mem off len)[i] = mem (off + i) := by
  simp [window]

/-- Two windows agree exactly when their bytes do. -/
theorem window_eq_iff {mem mem' : Memory} {off off' len : Nat} :
    window mem off len = window mem' off' len ↔
      ∀ i < len, mem (off + i) = mem' (off' + i) := by
  simp [window]

theorem window_eq_list_iff {mem : Memory} {off : Nat} {bs : List UInt8} :
    window mem off bs.length = bs ↔ ∀ i (h : i < bs.length), mem (off + i) = bs[i] := by
  constructor
  · intro heq i hi
    have hlen : i < (window mem off bs.length).length := by simpa using hi
    rw [← window_getElem mem off bs.length i hlen]
    simp only [heq]
  · intro h
    apply List.ext_getElem (by simp)
    intro i _ hi
    rw [window_getElem]
    exact h i hi

theorem window_append (mem : Memory) (off m n : Nat) :
    window mem off (m + n) = window mem off m ++ window mem (off + m) n := by
  simp only [window, List.range_add, List.map_append, List.map_map]
  congr 1
  apply List.map_congr_left
  intro i _
  simp [Nat.add_assoc]

theorem window_succ (mem : Memory) (off n : Nat) :
    window mem off (n + 1) = mem off :: window mem (off + 1) n := by
  rw [Nat.add_comm n 1, window_append]
  rfl

theorem window_shift (mem : Memory) (k off len : Nat) :
    window (mem.shift k) off len = window mem (k + off) len := by
  simp [window, Nat.add_assoc]

@[simp] theorem window_ofList (bs : List UInt8) :
    window (Memory.ofList bs) 0 bs.length = bs := by
  apply window_eq_list_iff.mpr
  intro i hi
  simp [Memory.ofList, List.getD_eq_getElem?_getD, hi]

/-- The bytes of a window, taken as an object of their own. -/
theorem ofList_window {mem : Memory} {off len i : Nat} (h : i < len) :
    Memory.ofList (window mem off len) i = mem (off + i) := by
  simp [Memory.ofList, window, h]

/-- The pointer stands at the bytes `bs`. -/
def Holds (mem : Memory) (bs : List UInt8) : Prop := window mem 0 bs.length = bs

theorem holds_append {mem : Memory} {bs bs' : List UInt8} :
    Holds mem (bs ++ bs') ↔ Holds mem bs ∧ Holds (mem.shift bs.length) bs' := by
  simp only [Holds, List.length_append, window_append, window_shift, Nat.zero_add, Nat.add_zero]
  constructor
  · intro h
    exact List.append_inj h (by simp)
  · rintro ⟨h, h'⟩
    rw [h, h']

theorem holds_cons {mem : Memory} {b : UInt8} {bs : List UInt8} :
    Holds mem (b :: bs) ↔ mem 0 = b ∧ Holds (mem.shift 1) bs := by
  rw [← List.singleton_append, holds_append]
  simp [Holds, window]

/-- `memcpy` of the block `bs` to `off`. -/
def poke (mem : Memory) (off : Nat) (bs : List UInt8) : Memory := fun i =>
  if off ≤ i then (bs[i - off]?).getD (mem i) else mem i

theorem poke_lt {mem : Memory} {off i : Nat} {bs : List UInt8} (h : i < off) :
    poke mem off bs i = mem i := by
  simp [poke, Nat.not_le.mpr h]

theorem poke_ge {mem : Memory} {off i : Nat} {bs : List UInt8} (h : off + bs.length ≤ i) :
    poke mem off bs i = mem i := by
  have hnone : bs[i - off]? = none := List.getElem?_eq_none (by omega)
  simp [poke, hnone]

theorem poke_add {mem : Memory} {off i : Nat} {bs : List UInt8} (h : i < bs.length) :
    poke mem off bs (off + i) = bs[i] := by
  simp [poke, h]

/-- Outside the written block nothing changes. -/
theorem poke_outside {mem : Memory} {off i : Nat} {bs : List UInt8}
    (h : i < off ∨ off + bs.length ≤ i) : poke mem off bs i = mem i :=
  h.elim poke_lt poke_ge

theorem window_poke_same (mem : Memory) (off : Nat) (bs : List UInt8) :
    window (poke mem off bs) off bs.length = bs :=
  window_eq_list_iff.mpr fun _ hi => poke_add hi

theorem window_poke_disjoint {mem : Memory} {off off' len : Nat} {bs : List UInt8}
    (h : off' + len ≤ off ∨ off + bs.length ≤ off') :
    window (poke mem off bs) off' len = window mem off' len :=
  window_eq_iff.mpr fun i hi => poke_outside (by omega)

theorem holds_poke (mem : Memory) (bs : List UInt8) : Holds (poke mem 0 bs) bs :=
  window_poke_same mem 0 bs

theorem poke_nil (mem : Memory) (off : Nat) : poke mem off [] = mem := by
  funext i
  exact poke_outside (by simp only [List.length_nil]; omega)

/-- Two blocks written one behind the other. -/
theorem poke_append (mem : Memory) (off : Nat) (bs bs' : List UInt8) :
    poke (poke mem off bs) (off + bs.length) bs' = poke mem off (bs ++ bs') := by
  funext i
  by_cases hlt : i < off + bs.length
  · rw [poke_lt hlt]
    by_cases hoff : off ≤ i
    · obtain ⟨k, rfl⟩ : ∃ k, i = off + k := ⟨i - off, by omega⟩
      have hk : k < bs.length := by omega
      rw [poke_add hk, poke_add (by rw [List.length_append]; omega), List.getElem_append_left hk]
    · rw [poke_lt (by omega), poke_lt (by omega)]
  · obtain ⟨k, rfl⟩ : ∃ k, i = off + bs.length + k := ⟨i - (off + bs.length), by omega⟩
    by_cases hk : k < bs'.length
    · rw [poke_add hk, Nat.add_assoc, poke_add (by rw [List.length_append]; omega)]
      simp
    · rw [poke_ge (by omega), poke_ge (by omega), poke_ge (by rw [List.length_append]; omega)]

/-- A block in the middle written over. -/
theorem poke_middle (mem : Memory) (pre post : List UInt8) {old bs : List UInt8}
    (h : old.length = bs.length) :
    poke (poke mem 0 (pre ++ old ++ post)) pre.length bs = poke mem 0 (pre ++ bs ++ post) := by
  funext i
  by_cases hin : pre.length ≤ i ∧ i < pre.length + bs.length
  · obtain ⟨k, rfl⟩ : ∃ k, i = pre.length + k := ⟨i - pre.length, by omega⟩
    have hk : k < bs.length := by omega
    rw [poke_add hk]
    have hnot : ¬ pre.length + k < pre.length := by omega
    simp [poke, List.getElem?_append, hk, hnot]
  · rw [poke_outside (by omega)]
    have hsame : (pre ++ old ++ post)[i]? = (pre ++ bs ++ post)[i]? := by
      simp only [List.getElem?_append, List.length_append, h]
      by_cases hpre : i < pre.length
      · simp [hpre, Nat.lt_add_right _ hpre]
      · rw [if_neg (by omega), if_neg (by omega)]
    simp only [poke, Nat.zero_le, if_true, Nat.sub_zero, hsame]

/-- Of two blocks written to one place the second stays. -/
theorem poke_poke {mem : Memory} {off : Nat} {bs bs' : List UInt8} (h : bs.length = bs'.length) :
    poke (poke mem off bs) off bs' = poke mem off bs' := by
  funext i
  by_cases hin : off ≤ i ∧ i < off + bs'.length
  · obtain ⟨k, rfl⟩ : ∃ k, i = off + k := ⟨i - off, by omega⟩
    have hk : k < bs'.length := by omega
    rw [poke_add hk, poke_add hk]
  · rw [poke_outside (by omega), poke_outside (by omega), poke_outside (by omega)]

/-- A block written where it stands changes nothing. -/
theorem poke_same {mem : Memory} {off : Nat} {bs : List UInt8}
    (h : window mem off bs.length = bs) : poke mem off bs = mem := by
  funext i
  by_cases hin : off ≤ i ∧ i < off + bs.length
  · obtain ⟨k, rfl⟩ : ∃ k, i = off + k := ⟨i - off, by omega⟩
    have hk : k < bs.length := by omega
    rw [poke_add hk, window_eq_list_iff.mp h k hk]
  · rw [poke_outside (by omega)]

theorem Holds.poke_middle {mem : Memory} (pre post : List UInt8) {old bs : List UInt8}
    (h : Holds mem (pre ++ old ++ post)) (hlen : old.length = bs.length) :
    Holds (poke mem pre.length bs) (pre ++ bs ++ post) := by
  have hmem := Lib.poke_middle mem pre post hlen
  rw [poke_same h] at hmem
  rw [hmem]
  exact holds_poke mem _

/-! ## Spans

A span is the offset and the length of a block that a piece of code reads
through a pointer.  `Within` compares byte by byte, so that an empty span
lies within every object wherever it stands. -/

/-- A block of bytes, by offset and length. -/
abbrev Span := Nat × Nat

/-- Every byte of the span is a byte of an object of `size` bytes. -/
def Span.Within (size : Nat) (s : Span) : Prop := ∀ i, s.1 ≤ i → i < s.1 + s.2 → i < size

theorem Span.within_iff {size : Nat} {s : Span} :
    s.Within size ↔ s.2 = 0 ∨ s.1 + s.2 ≤ size := by
  constructor
  · intro h
    by_cases hz : s.2 = 0
    · exact Or.inl hz
    · have hlast := h (s.1 + s.2 - 1) (by omega) (by omega)
      exact Or.inr (by omega)
  · rintro (h | h) i hi hi'
    · omega
    · omega

instance (size : Nat) (s : Span) : Decidable (s.Within size) :=
  decidable_of_iff _ Span.within_iff.symm

/-- Every span of a log of reads lies within an object of `size` bytes. -/
def AllWithin (size : Nat) (log : List Span) : Prop := ∀ s ∈ log, s.Within size

@[simp] theorem allWithin_nil (size : Nat) : AllWithin size [] := by
  simp [AllWithin]

@[simp] theorem allWithin_append {size : Nat} {l l' : List Span} :
    AllWithin size (l ++ l') ↔ AllWithin size l ∧ AllWithin size l' := by
  simp [AllWithin, or_imp, forall_and]

@[simp] theorem allWithin_singleton {size : Nat} {s : Span} :
    AllWithin size [s] ↔ s.Within size := by
  simp [AllWithin]

instance (size : Nat) (l : List Span) : Decidable (AllWithin size l) :=
  inferInstanceAs (Decidable (∀ s ∈ l, s.Within size))

end Lib
