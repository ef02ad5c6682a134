/-
# `Lib.Numbering` — packets numbered by stream, and repeats among them

Each packet is of a stream and carries a number; the packets of a stream are
counted, and the `n`-th carries the number `nth n`.  Numbers may come round
again, as those of a counter that wraps do, but not within `window` packets.

A receiver that gets all packets in their order knows a new one from a
repeat: it keeps a packet if the number is the next one of its stream.  When
nothing comes but next packets and repeats of the last `window` ones
(`Orderly`), it keeps each packet once.
-/
import Mathlib.Data.List.Basic

namespace Lib

structure Numbering (π σ ν : Type*) where
  stream : π → σ
  number : π → ν
  nth : ℕ → ν
  window : ℕ
  nth_ne : ∀ {j n : ℕ}, j < n → n ≤ j + window → nth j ≠ nth n

namespace Numbering

variable {π σ ν : Type*} [DecidableEq σ] (k : Numbering π σ ν)

def ofStream (had : List π) (s : σ) : List π := had.filter fun p => k.stream p = s

/-- The number of the packet is the next one of its stream. -/
def IsNext (had : List π) (p : π) : Prop :=
  k.number p = k.nth (k.ofStream had (k.stream p)).length

/-- The packet has the number of one of the last packets of its stream. -/
def IsAgain (had : List π) (p : π) : Prop :=
  ∃ j, j < (k.ofStream had (k.stream p)).length ∧
    (k.ofStream had (k.stream p)).length ≤ j + k.window ∧ k.number p = k.nth j

section Streams

variable {k} {had : List π} {s : σ}

@[simp] theorem ofStream_append (had had' : List π) (s : σ) :
    k.ofStream (had ++ had') s = k.ofStream had s ++ k.ofStream had' s := List.filter_append ..

theorem ofStream_self (h : ∀ p ∈ had, k.stream p = s) : k.ofStream had s = had := by
  refine List.filter_eq_self.mpr ?_
  intro p hp
  exact decide_eq_true (h p hp)

theorem ofStream_other (h : ∀ p ∈ had, k.stream p ≠ s) : k.ofStream had s = [] := by
  refine List.filter_eq_nil_iff.mpr ?_
  intro p hp
  simpa using h p hp

/-- What is sent in one stream goes behind what is had of it. -/
theorem ofStream_append_self {sent : List π} (h : ∀ p ∈ sent, k.stream p = s) :
    k.ofStream (had ++ sent) s = k.ofStream had s ++ sent := by
  rw [ofStream_append, ofStream_self h]

/-- The other streams do not change. -/
theorem ofStream_append_other {sent : List π} {s' : σ} (h : ∀ p ∈ sent, k.stream p = s)
    (hne : s ≠ s') : k.ofStream (had ++ sent) s' = k.ofStream had s' := by
  have hother : ∀ p ∈ sent, k.stream p ≠ s' := by
    intro p hp
    rwa [h p hp]
  rw [ofStream_append, ofStream_other hother, List.append_nil]

/-- A repeat has another number than the next packet. -/
theorem IsAgain.not_next {p : π} (h : k.IsAgain had p) : ¬ k.IsNext had p := by
  obtain ⟨j, hlt, hle, hnumber⟩ := h
  intro hnext
  exact k.nth_ne hlt hle (hnumber.symm.trans hnext)

end Streams

/-! ## Keeping -/

section Keeping

variable [DecidableEq ν]

instance (had : List π) (p : π) : Decidable (k.IsNext had p) :=
  inferInstanceAs (Decidable (_ = _))

/-- A packet with the next number is kept. -/
def keep (had : List π) (p : π) : List π := if k.IsNext had p then had ++ [p] else had

/-- What is kept of all that was sent. -/
def unrepeated (sent : List π) : List π := sent.foldl k.keep []

/-- Of the packets sent behind `had` each is the next of its stream or a
repeat. -/
def Orderly : List π → List π → Prop
  | _, [] => True
  | had, p :: sent => (k.IsNext had p ∨ k.IsAgain had p) ∧ Orderly (k.keep had p) sent

variable {k} {had sent sent' : List π} {p : π} {s : σ}

theorem keep_of_next (h : k.IsNext had p) : k.keep had p = had ++ [p] := if_pos h

theorem keep_of_again (h : k.IsAgain had p) : k.keep had p = had := if_neg h.not_next

theorem unrepeated_append (sent sent' : List π) :
    k.unrepeated (sent ++ sent') = sent'.foldl k.keep (k.unrepeated sent) := List.foldl_append

/-- What is kept was sent. -/
theorem foldl_keep_sublist (had sent : List π) :
    ∃ kept, sent.foldl k.keep had = had ++ kept ∧ kept.Sublist sent := by
  induction sent generalizing had with
  | nil => exact ⟨[], (List.append_nil had).symm, .slnil⟩
  | cons p sent ih =>
      obtain ⟨kept, heq, hsub⟩ := ih (k.keep had p)
      rw [List.foldl_cons, heq]
      by_cases hnext : k.IsNext had p
      · refine ⟨p :: kept, ?_, hsub.cons_cons p⟩
        rw [keep_of_next hnext, List.append_assoc]
        rfl
      · exact ⟨kept, by rw [keep, if_neg hnext], hsub.cons p⟩

theorem unrepeated_sublist (sent : List π) : (k.unrepeated sent).Sublist sent := by
  obtain ⟨kept, heq, hsub⟩ := foldl_keep_sublist (k := k) [] sent
  rwa [unrepeated, heq]

theorem orderly_append : k.Orderly had (sent ++ sent') ↔
    k.Orderly had sent ∧ k.Orderly (sent.foldl k.keep had) sent' := by
  induction sent generalizing had with
  | nil => exact ⟨fun h => ⟨trivial, h⟩, fun h => h.2⟩
  | cons p sent ih =>
      show _ ∧ k.Orderly _ (sent ++ sent') ↔ (_ ∧ _) ∧ _
      rw [ih, and_assoc]
      rfl

/-- Repeats are not kept. -/
theorem orderly_of_again (h : ∀ p ∈ sent, k.IsAgain had p) :
    k.Orderly had sent ∧ sent.foldl k.keep had = had := by
  induction sent with
  | nil => exact ⟨trivial, rfl⟩
  | cons p sent ih =>
      obtain ⟨hp, hrest⟩ := List.forall_mem_cons.mp h
      have hkeep := keep_of_again hp
      obtain ⟨horderly, hkept⟩ := ih hrest
      refine ⟨⟨Or.inr hp, ?_⟩, ?_⟩
      · rwa [hkeep]
      · rw [List.foldl_cons, hkeep, hkept]

/-- Packets of one stream, numbered on from where it is, are kept. -/
theorem orderly_of_next (had : List π) (hstream : ∀ p ∈ sent, k.stream p = s)
    (hnumber : ∀ i (hi : i < sent.length),
      k.number sent[i] = k.nth ((k.ofStream had s).length + i)) :
    k.Orderly had sent ∧ sent.foldl k.keep had = had ++ sent := by
  induction sent generalizing had with
  | nil => exact ⟨trivial, (List.append_nil had).symm⟩
  | cons p sent ih =>
      obtain ⟨hp, hrest⟩ := List.forall_mem_cons.mp hstream
      have hnext : k.IsNext had p := by
        rw [IsNext, hp]
        exact hnumber 0 (Nat.succ_pos _)
      have hkeep := keep_of_next hnext
      have hone : ∀ q ∈ [p], k.stream q = s := by simpa using hp
      have hcount : (k.ofStream (had ++ [p]) s).length = (k.ofStream had s).length + 1 := by
        rw [ofStream_append_self hone, List.length_append, List.length_singleton]
      have hrestNumber : ∀ i (hi : i < sent.length),
          k.number sent[i] = k.nth ((k.ofStream (had ++ [p]) s).length + i) := by
        intro i hi
        rw [hcount, Nat.add_assoc, Nat.add_comm 1 i]
        exact hnumber (i + 1) (Nat.succ_lt_succ hi)
      obtain ⟨horderly, hkept⟩ := ih (had ++ [p]) hrest hrestNumber
      refine ⟨⟨Or.inl hnext, ?_⟩, ?_⟩
      · rwa [hkeep]
      · rw [List.foldl_cons, hkeep, hkept, List.append_assoc]
        rfl

end Keeping

end Numbering

end Lib
